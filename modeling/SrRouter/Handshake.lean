import SrRouter.Framing
import SrRouter.OpenMessages
import SrRouter.Lib.Checked

/-!
The router connects to the server (`sr_connect_to_server` and
`sr_handle_rtable`, in `sr_vns_comm.c`).

The server authenticates the router: it sends a request and takes the reply,
then it sends the verdict. Only then does the router send what it wants to
open. To a template belongs a routing table, which the server sends as a text
and the router writes to a file of its own.

The calls are those of the framing module, over a stream that comes in any
pieces. Connecting the socket is left out.
-/

namespace SrRouter

open ByteBuffer CString TextInput ShortReads

/-! ### Files -/

/-- What can be read, by name, and what can be written. -/
structure Files where
  content : CStr → Option Bytes
  writable : CStr → Bool

def Files.write (fs : Files) (name : CStr) (text : Bytes) : Files :=
  { fs with content := Function.update fs.content name (some text) }

def authKeyFile : CStr := [97, 117, 116, 104, 95, 107, 101, 121]

def rtablePrefix : CStr := [114, 116, 97, 98, 108, 101, 46]

def defaultHost : CStr := [118, 114, 104, 111, 115, 116]

/-- `sr_handle_rtable`, with the value returned; no result is a name that runs
out of the message or does not fit `fn`, or a text that does not end in the
message. -/
def srHandleRtable (rtable : Message) (fs : Files) : Option (Int × Files) :=
  if 0 ∉ rtable.string 8 then none
  else
    let fn := rtablePrefix ++ cString (rtable.string 8)
    if 7 + idsize + 1 ≤ fn.length then none
    else if fs.writable fn then do
      let size := UInt32.ofNat rtable.len - UInt32.ofNat 8 - UInt32.ofNat idsize
      let text ← slice? rtable.bytes (8 + idsize) size.toNat
      return (1, fs.write fn text)
    else some (0, fs)

/-! ### Connecting -/

/-- What starting depends on beside the files. -/
structure StartSurround where
  now : Int
  mem : Nat → Mac × UInt32
  stack : Nat → UInt8
  sha1 : Sha1Context
  heap : Option (Nat → UInt8)
  send : Bytes → Int
  inetAton : CStr → Option UInt32
  junk : Fields

def StartSurround.auth (env : StartSurround) (fs : Files) : AuthSurround where
  authKey := fs.content authKeyFile
  stack := env.stack
  sha1 := env.sha1
  heap := env.heap
  send := env.send

/-- The state while the router starts: the socket, the files, what was given to
`send`, and the router. -/
structure Starting where
  socket : Stream
  files : Files
  sent : List Bytes
  sr : SrInstance

/-- How a function of the start ends: it returns, or the socket blocks it, or it
does not come to an end at all. -/
inductive Step
  | returned (ret : Int) (s : Starting)
  | blocked
  | undefined

/-- What the handlers of the start do beside returning a value, and what the
dispatcher learns of it. -/
def Message.handle (msg : Message) (env : StartSurround) (account : Account) (fs : Files) :
    Option (Circumstances × Files × List Bytes) :=
  let c : Circumstances :=
    { now := env.now, mem := env.mem, rtableFile := false, authReply := false }
  if msg.command = vnsAuthRequest then do
    let out ← srHandleAuthRequest (env.auth fs) account msg
    return ({ c with authReply := out.ret ≠ 0 }, fs, out.reply.toList)
  else if msg.command = vnsRtable then do
    let (ret, fs) ← srHandleRtable msg fs
    return ({ c with rtableFile := ret ≠ 0 }, fs, [])
  else some (c, fs, [])

/-- `sr_read_from_server_expect`, and then the rest if it returns 1; otherwise the
caller returns -1. -/
def expecting (env : StartSurround) (account : Account) (expectedCmd : UInt32) (s : Starting)
    (rest : Starting → Step) : Step :=
  match arrive readExactly s.socket with
  | .refused socket => .returned (-1) { s with socket := socket.getD ⟨[], []⟩ }
  | .blocked _ => .blocked
  | .overrun => .undefined
  | .message msg socket =>
    if msg.Unexpected expectedCmd then .returned (-1) { s with socket := socket }
    else
      match msg.handle env account s.files with
      | none => .undefined
      | some (c, files, sent) =>
        match msg.receive c expectedCmd socket s.sr with
        | .dispatched _ ret socket sr =>
          let s := { socket := socket, files := files, sent := s.sent ++ sent, sr := sr }
          if ret = 1 then rest s else .returned (-1) s
        | _ => .undefined

/-- What `sr_connect_to_server` does once it is authenticated. -/
def srOpen (env : StartSurround) (account : Account) (s : Starting) : Step :=
  let buf := if account.hasTemplate then cOpenTemplate env.stack account else cOpen account
  let s := { s with sent := s.sent ++ [buf] }
  if env.send buf ≠ buf.length then .returned (-1) s
  else if account.hasTemplate then
    expecting env account vnsRtable s fun s => .returned 0 s
  else .returned 0 s

/-- `sr_connect_to_server`, once the socket is connected. -/
def srConnectToServer (env : StartSurround) (account : Account) (s : Starting) : Step :=
  expecting env account vnsAuthRequest s fun s =>
  expecting env account vnsAuthStatus s (srOpen env account)

/-! ### A message arrives -/

theorem exists_arrive {msg : Message} (h : msg.Framed) {script : List ShortReads.Outcome}
    (hscript : NoFailure script) (rest : Bytes) (henough : msg.len ≤ deliveries script) :
    ∃ script', arrive readExactly ⟨msg.bytes ++ rest, script⟩ = .message msg ⟨rest, script'⟩ ∧
      NoFailure script' ∧ deliveries script ≤ deliveries script' + msg.len := by
  rcases arrive_spec h hscript rest with
    ⟨script', hscript', hdel, harrive⟩ | ⟨-, -, -, -, hless, -⟩
  · exact ⟨script', harrive, hscript', hdel⟩
  · exact absurd henough (Nat.not_le.mpr hless)

theorem arrive_message {socket socket' : Stream} {msg : Message}
    (h : arrive readExactly socket = .message msg socket') :
    msg.Framed ∧ socket.pending = msg.bytes ++ socket'.pending := by
  unfold arrive at h
  split at h
  · cases h
  · cases h
  · next word socket₁ hword =>
      obtain ⟨hwordLen, hfront⟩ := readExactly_done hword
      unfold arriveBody at h
      split at h
      · cases h
      · next hrange =>
          split at h
          · cases h
          · split at h
            · cases h
            · cases h
            · next body socket₂ hbody =>
                obtain ⟨hbodyLen, hbehind⟩ := readExactly_done hbody
                split at h
                · cases h
                · next height =>
                    obtain ⟨rfl, rfl⟩ := Arrival.message.inj h
                    obtain ⟨hbytes, hframed⟩ :=
                      framed_word hwordLen rfl hbodyLen hrange height
                    exact ⟨hframed, by rw [hfront, hbehind, hbytes, List.append_assoc]⟩

/-! ### A message is expected -/

section Dispatch

variable {msg : Message} (c : Circumstances) (sr : SrInstance)

theorem dispatch_close (h : msg.command = vnsClose) : msg.dispatch c sr = some (0, sr) := by
  rw [Message.dispatch, h, if_neg (by decide), if_pos rfl]

theorem dispatch_rtable (h : msg.command = vnsRtable) :
    msg.dispatch c sr = some (if c.rtableFile then 1 else -1, sr) := by
  rw [Message.dispatch, h, if_neg (by decide), if_neg (by decide), if_neg (by decide),
    if_neg (by decide), if_pos rfl]

theorem dispatch_authRequest (h : msg.command = vnsAuthRequest) :
    msg.dispatch c sr = some (if c.authReply then 1 else -1, sr) := by
  rw [Message.dispatch, h, if_neg (by decide), if_neg (by decide), if_neg (by decide),
    if_neg (by decide), if_neg (by decide), if_pos rfl]

theorem dispatch_authStatus (h : msg.command = vnsAuthStatus) :
    msg.dispatch c sr = some (if load8 msg.bytes 8 = 0 then -1 else 1, sr) := by
  rw [Message.dispatch, h, if_neg (by decide), if_neg (by decide), if_neg (by decide),
    if_neg (by decide), if_neg (by decide), if_neg (by decide), if_pos rfl]

end Dispatch

section Expecting

variable {env : StartSurround} {account : Account} {expectedCmd : UInt32} {s : Starting}
  {rest : Starting → Step}

/-- The expected message arrives, its handler does its work, and 1 is returned. -/
theorem expecting_message {msg : Message} (h : msg.Framed) (hcommand : msg.command = expectedCmd)
    {script : List ShortReads.Outcome} (hscript : NoFailure script)
    (henough : msg.len ≤ deliveries script) {behind : Bytes}
    (hsocket : s.socket = ⟨msg.bytes ++ behind, script⟩) {c : Circumstances} {files : Files}
    {sent : List Bytes} (hhandle : msg.handle env account s.files = some (c, files, sent))
    (hdispatch : msg.dispatch c s.sr = some (1, s.sr)) (rest : Starting → Step) :
    ∃ script', NoFailure script' ∧ deliveries script ≤ deliveries script' + msg.len ∧
      expecting env account expectedCmd s rest =
        rest { socket := ⟨behind, script'⟩, files := files, sent := s.sent ++ sent
               sr := s.sr } := by
  obtain ⟨script', harrive, hscript', hdel⟩ := exists_arrive h hscript behind henough
  have hexpected : ¬msg.Unexpected expectedCmd := fun hun => hun.2.1 hcommand
  refine ⟨script', hscript', hdel, ?_⟩
  simp only [expecting, hsocket, harrive, if_neg hexpected, hhandle, Message.receive, hdispatch,
    if_pos]

/-- The caller gets on only behind the expected message, with 1 returned. -/
theorem expecting_returned (hany : expectedCmd ≠ 0) {s' : Starting} {result : Int}
    (hresult : result ≠ -1)
    (h : expecting env account expectedCmd s rest = .returned result s') :
    ∃ (msg : Message) (socket : Stream) (c : Circumstances) (files : Files) (sent : List Bytes)
      (sr : SrInstance), msg.Framed ∧ s.socket.pending = msg.bytes ++ socket.pending ∧
      msg.command = expectedCmd ∧ msg.handle env account s.files = some (c, files, sent) ∧
      msg.dispatch c s.sr = some (1, sr) ∧
      rest { socket := socket, files := files, sent := s.sent ++ sent, sr := sr } =
        .returned result s' := by
  have hminus {s₁ s₂ : Starting} : Step.returned (-1) s₁ ≠ .returned result s₂ := fun heq =>
    hresult (Step.returned.inj heq).1.symm
  unfold expecting at h
  split at h
  · exact absurd h hminus
  · cases h
  · cases h
  · next msg socket harrive =>
      obtain ⟨hframed, hpending⟩ := arrive_message harrive
      split at h
      · exact absurd h hminus
      · next hexpected =>
          split at h
          · cases h
          · next c files sent hhandle =>
              split at h
              · next msg' ret socket' sr hreceive =>
                  rw [Message.receive, if_neg hexpected] at hreceive
                  split at hreceive
                  · cases hreceive
                  · next ret' sr' hdispatch =>
                      cases hreceive
                      split at h
                      · next hone =>
                          subst hone
                          refine ⟨msg, socket, c, files, sent, sr, hframed, hpending, ?_, hhandle,
                            hdispatch, h⟩
                          -- the message that closes the connection returns 0
                          by_contra hother
                          refine hexpected ⟨hany, hother, fun hcl => ?_⟩
                          rw [dispatch_close c s.sr hcl] at hdispatch
                          cases hdispatch
                      · exact absurd h hminus
              · cases h

end Expecting

/-! ### The handlers -/

def Message.rtableText (rtable : Message) : Bytes := rtable.bytes.drop (8 + idsize)

theorem srHandleRtable_eq {rtable : Message} (hlen : 8 + idsize ≤ rtable.len)
    (hhost : 0 ∈ rtable.string 8) (hshort : (cString (rtable.string 8)).length ≤ idsize)
    (fs : Files) :
    srHandleRtable rtable fs =
      if fs.writable (rtablePrefix ++ cString (rtable.string 8)) then
        some (1, fs.write (rtablePrefix ++ cString (rtable.string 8)) rtable.rtableText)
      else some (0, fs) := by
  have hmax : rtable.len ≤ 10000 := rtable.length_le
  have hfits : ¬7 + idsize + 1 ≤ (rtablePrefix ++ cString (rtable.string 8)).length := by
    rw [List.length_append]
    have hseven : rtablePrefix.length = 7 := rfl
    omega
  have hnat : (UInt32.ofNat rtable.len - UInt32.ofNat 8).toNat = rtable.len - 8 :=
    rtable.toNat_sub32 (Nat.le_trans (Nat.le_add_right ..) hlen)
  have hsize : (UInt32.ofNat rtable.len - UInt32.ofNat 8 - UInt32.ofNat idsize).toNat =
      rtable.len - (8 + idsize) := by
    have h32 : (UInt32.ofNat idsize).toNat = 32 := rfl
    rw [UInt32.toNat_sub, hnat, h32]
    unfold idsize at hlen ⊢
    omega
  have hlength : rtable.bytes.length = rtable.len := rfl
  have htext : slice rtable.bytes (8 + idsize) (rtable.len - (8 + idsize)) = rtable.rtableText :=
    List.take_of_length_le (by rw [List.length_drop]; exact Nat.le_refl _)
  have hslice := slice?_eq (b := rtable.bytes) (i := 8 + idsize) (n := rtable.len - (8 + idsize))
    (by omega)
  rw [srHandleRtable, if_neg (not_not.mpr hhost)]
  dsimp only
  rw [if_neg hfits, hsize, hslice, htext]
  rfl

section Handle

variable {env : StartSurround} {fs : Files} {msg : Message}

theorem handle_authRequest {account : Account} (hcommand : msg.command = vnsAuthRequest)
    (hlen : 8 ≤ msg.len)
    {c : Circumstances} {files : Files} {sent : List Bytes}
    (h : msg.handle env account fs = some (c, files, sent)) (hsent : c.authReply = true) :
    files = fs ∧ ∃ key heap reply, (env.auth fs).hashedKey = some key ∧
      reply = authReplyPacket heap account.userName (secureHash (msg.salt ++ key)) ∧
      sent = [reply] ∧ env.send reply = reply.length := by
  rw [Message.handle, if_pos hcommand] at h
  by_cases hnone : (env.auth fs).hashedKey = none ∨ (env.auth fs).heap = none
  · rw [srHandleAuthRequest_of_none account hlen hnone] at h
    cases h
    cases hsent
  · obtain ⟨hkey, hheap⟩ := not_or.mp hnone
    obtain ⟨key, hkey⟩ := Option.ne_none_iff_exists'.mp hkey
    obtain ⟨heap, hheap⟩ := Option.ne_none_iff_exists'.mp hheap
    obtain ⟨reply, hreply, hout⟩ := srHandleAuthRequest_of_key account hlen hkey hheap
    rw [hout] at h
    cases h
    refine ⟨rfl, key, heap, reply, hkey, hreply, rfl, ?_⟩
    by_contra hpart
    have hpart' : (env.auth fs).send reply ≠ reply.length := hpart
    simp [hpart'] at hsent

theorem handle_authRequest_of_key (account : Account) (hcommand : msg.command = vnsAuthRequest)
    (hlen : 8 ≤ msg.len)
    {key : Bytes} (hkey : (env.auth fs).hashedKey = some key) {heap : Nat → UInt8}
    (hheap : env.heap = some heap) (hsend : ∀ bytes, env.send bytes = bytes.length) :
    ∃ c : Circumstances, c.authReply = true ∧ msg.handle env account fs =
      some (c, fs, [authReplyPacket heap account.userName (secureHash (msg.salt ++ key))]) := by
  obtain ⟨reply, hreply, hout⟩ :=
    srHandleAuthRequest_of_key account hlen hkey hheap
  have hall : (env.auth fs).send reply = reply.length := hsend reply
  rw [Message.handle, if_pos hcommand, hout, ← hreply]
  refine ⟨_, ?_, rfl⟩
  simp [hall]

theorem handle_authStatus (env : StartSurround) (account : Account) (fs : Files)
    (hcommand : msg.command = vnsAuthStatus) :
    ∃ c : Circumstances, msg.handle env account fs = some (c, fs, []) := by
  rw [Message.handle, hcommand, if_neg (by decide), if_neg (by decide)]
  exact ⟨_, rfl⟩

theorem handle_rtable (env : StartSurround) (account : Account)
    (hcommand : msg.command = vnsRtable) (hlen : 8 + idsize ≤ msg.len)
    (hhost : 0 ∈ msg.string 8) (hshort : (cString (msg.string 8)).length ≤ idsize)
    (hwritable : fs.writable (rtablePrefix ++ cString (msg.string 8)) = true) :
    ∃ c : Circumstances, c.rtableFile = true ∧ msg.handle env account fs =
      some (c, fs.write (rtablePrefix ++ cString (msg.string 8)) msg.rtableText, []) := by
  rw [Message.handle, hcommand, if_neg (by decide), if_pos rfl,
    srHandleRtable_eq hlen hhost hshort, if_pos hwritable]
  exact ⟨_, rfl, rfl⟩

end Handle

/-! ### The whole handshake -/

/-- The server lets the router in: what is left to do is to open. -/
theorem srConnectToServer_admitted {env : StartSurround} (account : Account) {s : Starting}
    {req status : Message} (hreq : req.Framed ∧ req.command = vnsAuthRequest)
    (hstatus : status.Framed ∧ status.command = vnsAuthStatus ∧ load8 status.bytes 8 ≠ 0)
    {key : Bytes} (hkey : (env.auth s.files).hashedKey = some key) {heap : Nat → UInt8}
    (hheap : env.heap = some heap) (hsend : ∀ bytes, env.send bytes = bytes.length)
    {script : List ShortReads.Outcome} (hscript : NoFailure script)
    (henough : req.len + status.len ≤ deliveries script) {behind : Bytes}
    (hsocket : s.socket = ⟨req.bytes ++ (status.bytes ++ behind), script⟩) :
    ∃ script', NoFailure script' ∧
      deliveries script ≤ deliveries script' + (req.len + status.len) ∧
      srConnectToServer env account s = srOpen env account
        { socket := ⟨behind, script'⟩
          files := s.files
          sent := s.sent ++
            [authReplyPacket heap account.userName (secureHash (req.salt ++ key))]
          sr := s.sr } := by
  obtain ⟨c₁, hsent, hhandle₁⟩ := handle_authRequest_of_key account hreq.2 hreq.1.1 hkey
    hheap hsend
  have hdispatch₁ : req.dispatch c₁ s.sr = some (1, s.sr) := by
    rw [dispatch_authRequest c₁ s.sr hreq.2, hsent]
    rfl
  obtain ⟨script₁, hscript₁, hdel₁, hfirst⟩ := expecting_message
    hreq.1 hreq.2 hscript (by omega) hsocket hhandle₁ hdispatch₁
    fun s => expecting env account vnsAuthStatus s (srOpen env account)
  obtain ⟨c₂, hhandle₂⟩ := handle_authStatus env account s.files hstatus.2.1
  have hdispatch₂ : status.dispatch c₂ s.sr = some (1, s.sr) := by
    rw [dispatch_authStatus c₂ s.sr hstatus.2.1, if_neg hstatus.2.2]
  obtain ⟨script₂, hscript₂, hdel₂, hsecond⟩ := expecting_message
    (s := { socket := ⟨status.bytes ++ behind, script₁⟩, files := s.files
            sent := s.sent ++ [authReplyPacket heap account.userName
              (secureHash (req.salt ++ key))]
            sr := s.sr })
    hstatus.1 hstatus.2.1 hscript₁ (by omega) rfl hhandle₂ hdispatch₂ (srOpen env account)
  refine ⟨script₂, hscript₂, by omega, ?_⟩
  rw [srConnectToServer, hfirst, hsecond, List.append_nil]

/-! ### No session without authentication -/

/-- The router got in: these messages came off the stream, in this order, and
this was sent, all of it. -/
def Admitted (env : StartSurround) (account : Account) (files : Files) (pending rest : Bytes)
    (sent : List Bytes) : Prop :=
  ∃ (req status : Message) (table : List Message) (key : Bytes) (heap : Nat → UInt8),
    pending = req.bytes ++ status.bytes ++ SrRouter.sent table ++ rest ∧
    (req.Framed ∧ req.command = vnsAuthRequest) ∧
    (status.Framed ∧ status.command = vnsAuthStatus ∧ load8 status.bytes 8 ≠ 0) ∧
    (∀ msg ∈ table, msg.Framed ∧ msg.command = vnsRtable) ∧
    table.length = (if account.hasTemplate then 1 else 0) ∧
    (env.auth files).hashedKey = some key ∧
    sent = [authReplyPacket heap account.userName (secureHash (req.salt ++ key)),
      account.opening env.stack] ∧
    ∀ bytes ∈ sent, env.send bytes = bytes.length

theorem srOpen_returned {env : StartSurround} {account : Account} {s s' : Starting} {ret : Int}
    (hret : ret ≠ -1) (h : srOpen env account s = .returned ret s') :
    env.send (account.opening env.stack) = (account.opening env.stack).length ∧
      s'.sent = s.sent ++ [account.opening env.stack] ∧
      ∃ table : List Message, (∀ msg ∈ table, msg.Framed ∧ msg.command = vnsRtable) ∧
        table.length = (if account.hasTemplate then 1 else 0) ∧
        s.socket.pending = SrRouter.sent table ++ s'.socket.pending := by
  have hopening : (if account.hasTemplate then cOpenTemplate env.stack account
      else cOpen account) = account.opening env.stack := rfl
  unfold srOpen at h
  rw [hopening] at h
  generalize account.opening env.stack = buf at h ⊢
  dsimp only at h
  split at h
  · exact absurd (Step.returned.inj h).1.symm hret
  · next hsend =>
      refine ⟨not_not.mp hsend, ?_⟩
      split at h
      · next hhas =>
          obtain ⟨rtable, socket, c, files, sent, sr, hrtable, hpending, hcommand, hhandle, -, h⟩ :=
            expecting_returned (by decide) hret h
          have hsent : sent = [] := by
            rw [Message.handle, hcommand, if_neg (by decide), if_pos rfl] at hhandle
            cases hfile : srHandleRtable rtable s.files with
            | none =>
                rw [hfile] at hhandle
                cases hhandle
            | some written =>
                rw [hfile] at hhandle
                cases hhandle
                rfl
          obtain ⟨-, rfl⟩ := Step.returned.inj h
          refine ⟨by rw [hsent, List.append_nil], [rtable],
            by simpa using ⟨hrtable, hcommand⟩, ?_, ?_⟩
          · rw [if_pos hhas]
            rfl
          · simpa [SrRouter.sent] using hpending
      · next hhas =>
          obtain ⟨-, rfl⟩ := Step.returned.inj h
          refine ⟨rfl, [], by simp, ?_, rfl⟩
          rw [if_neg hhas]
          rfl

theorem srConnectToServer_returned {env : StartSurround} {account : Account} {s s' : Starting}
    {ret : Int} (hret : ret ≠ -1) (hsent : s.sent = [])
    (h : srConnectToServer env account s = .returned ret s') :
    Admitted env account s.files s.socket.pending s'.socket.pending s'.sent := by
  rw [srConnectToServer] at h
  obtain ⟨req, socket₁, c₁, files₁, sent₁, sr₁, hreq, hpending₁, hcommand₁, hhandle₁, hdispatch₁,
    h⟩ := expecting_returned (by decide) hret h
  have hreply : c₁.authReply = true := by
    rw [dispatch_authRequest c₁ s.sr hcommand₁] at hdispatch₁
    by_contra hno
    rw [if_neg hno] at hdispatch₁
    cases hdispatch₁
  obtain ⟨-, key, heap, packet, hkey, hpacket, hsent₁, hsend⟩ :=
    handle_authRequest hcommand₁ hreq.1 hhandle₁ hreply
  obtain ⟨status, socket₂, c₂, files₂, sent₂, sr₂, hstatus, hpending₂, hcommand₂, hhandle₂,
    hdispatch₂, h⟩ := expecting_returned (by decide) hret h
  have hok : load8 status.bytes 8 ≠ 0 := by
    intro hzero
    rw [dispatch_authStatus c₂ sr₁ hcommand₂, if_pos hzero] at hdispatch₂
    cases hdispatch₂
  have hsent₂ : sent₂ = [] := by
    obtain ⟨c, hnothing⟩ := handle_authStatus env account files₁ hcommand₂
    rw [hnothing] at hhandle₂
    cases hhandle₂
    rfl
  obtain ⟨hopened, hall, table, htable, hlength, hpending₃⟩ := srOpen_returned hret h
  refine ⟨req, status, table, key, heap, ?_, ⟨hreq, hcommand₁⟩, ⟨hstatus, hcommand₂, hok⟩, htable,
    hlength, hkey, ?_, ?_⟩
  · rw [hpending₁]
    show req.bytes ++ socket₁.pending = _
    rw [hpending₂]
    show req.bytes ++ (status.bytes ++ socket₂.pending) = _
    rw [hpending₃]
    simp
  · rw [hall, hsent, hsent₁, hsent₂, ← hpacket]
    rfl
  · rw [hall, hsent, hsent₁, hsent₂]
    simpa using ⟨hsend, hopened⟩

end SrRouter
