import SrRouter.Handshake

/-!
How the router gets to its main loop (`main`, in `sr_main.c`).

`main` loads the routing table from a file, connects to the server, and loads
the table again, with a template for the first time. Opening the log is left
out.
-/

namespace SrRouter

open ByteBuffer CString TextInput ShortReads

/-- The options, with their defaults, and the name that `sr_set_user` finds. -/
structure Options where
  host : CStr
  user : Option CStr
  rtable : CStr
  template : Option CStr
  topo : UInt16
  passwd : CStr

def copied (n : Nat) (s : CStr) : Vector UInt8 n := ⟨(strncpy n s).toArray, by simp⟩

/-- The fields that `main` fills; `memory` is what the instance held. -/
def Options.account (options : Options) (memory : Nat → UInt8) : Account where
  user := copied 32 (options.user.getD options.passwd)
  host := copied 32 options.host
  template :=
    match options.template with
    | none => (Vector.ofFn fun i : Fin 30 => memory i).set 0 0
    | some name => copied 30 name
  topoId := options.topo
  behind := block memory 16

/-- How `main` gets on: it exits, or it enters the loop. -/
inductive Run
  | exited (code : Int)
  | blocked
  | undefined
  | serving (s : Starting)

def srLoadRtWrap (env : StartSurround) (rtable : CStr) (s : Starting) (rest : Starting → Run) :
    Run :=
  match srLoadRt env.inetAton env.junk (s.files.content rtable) s.sr.config.routingTable with
  | none => .undefined
  | some (ret, routingTable) =>
    let config := { s.sr.config with routingTable := routingTable }
    let s := { s with sr := { s.sr with config := config } }
    if ret ≠ 0 then .exited 1 else rest s

/-- `main` from `sr_connect_to_server` up to its loop. -/
def srMainConnect (env : StartSurround) (account : Account) (rtable : CStr) (s : Starting) : Run :=
  match srConnectToServer env account s with
  | .blocked => .blocked
  | .undefined => .undefined
  | .returned ret s =>
    if ret = -1 then .exited 1
    else
      -- with a template and `rtable.vrhost` this is the file just received
      srLoadRtWrap env rtable s fun s => .serving { s with sr := .init s.sr.config env.now }

/-- `main` up to its loop. -/
def srMain (env : StartSurround) (memory : Nat → UInt8) (options : Options) (files : Files)
    (socket : Stream) : Run :=
  let s : Starting :=
    { socket := socket, files := files, sent := []
      sr := .init { ifList := [], routingTable := [] } 0 }
  let connect := srMainConnect env (options.account memory) options.rtable
  match options.template with
  | none => srLoadRtWrap env options.rtable s connect
  | some _ => connect s

/-! ### A session that starts -/

theorem srLoadRt_of_loadable {inetAton : CStr → Option UInt32} {text : Bytes} (hne : text ≠ [])
    (hlines : ∀ line ∈ lines newline text, line.length ≤ bufsiz - 1 ∧
      ∃ fields, Loadable inetAton line fields) :
    ∃ table, List.Forall₂ (LineRoute inetAton) (lines newline text) table ∧
      ∀ junk old, srLoadRt inetAton junk (some text) old = some (0, table) := by
  have hread := reads_eq_lines (by decide : 0 < bufsiz - 1) text fun line hline =>
    (hlines line hline).1
  have hsome : (lines newline text).isEmpty = false := by simpa using lines_ne_nil newline hne
  obtain ⟨table, htable, hloop⟩ := loadLoop_of_loadable fun line hline => (hlines line hline).2
  refine ⟨table, htable, fun junk old => ?_⟩
  rw [srLoadRt, hread, hloop, hsome]
  rfl

/-- What it takes to start with a template: the options, the messages of the
server, the file of the key, and a connection that takes what is sent. -/
structure TemplateSession (env : StartSurround) (options : Options) (files : Files)
    (req status rtable : Message) : Prop where
  template : ∃ name, options.template = some name ∧ name.headD 0 ≠ 0
  rtableOption : options.rtable = rtablePrefix ++ defaultHost
  framed : req.Framed ∧ status.Framed ∧ rtable.Framed
  request : req.command = vnsAuthRequest
  verdict : status.command = vnsAuthStatus ∧ load8 status.bytes 8 ≠ 0
  table : rtable.command = vnsRtable ∧ 8 + idsize ≤ rtable.len ∧
    cString (rtable.string 8) = defaultHost
  text : rtable.rtableText ≠ []
  loadable : ∀ line ∈ lines newline rtable.rtableText, line.length ≤ bufsiz - 1 ∧
    ∃ fields, Loadable env.inetAton line fields
  heap : env.heap ≠ none
  send : ∀ bytes, env.send bytes = bytes.length
  writable : files.writable options.rtable = true

theorem headD_strncpy (n : Nat) (s : CStr) : (strncpy (n + 1) s).headD 0 = s.headD 0 := by
  rw [strncpy]
  split
  · next hzero => rw [hzero, List.replicate_succ, List.headD_cons]
  · rw [List.headD_cons]

theorem hasTemplate_account (options : Options) (memory : Nat → UInt8) {name : CStr}
    (h : options.template = some name) :
    (options.account memory).hasTemplate = (name.headD 0 != 0) := by
  rw [Account.hasTemplate, Options.account]
  simp only [h]
  rw [copied, ← headD_strncpy 29 name]
  rfl

theorem srLoadRtWrap_of_loadable {env : StartSurround} {rtable : CStr} {s : Starting} {text : Bytes}
    (hfile : s.files.content rtable = some text) {table : List SrRt}
    (hload : ∀ junk old, srLoadRt env.inetAton junk (some text) old = some (0, table))
    (rest : Starting → Run) :
    srLoadRtWrap env rtable s rest =
      rest { s with sr := { s.sr with config := { s.sr.config with routingTable := table } } } := by
  rw [srLoadRtWrap, hfile, hload]
  rfl

theorem terminated_of_host {rtable : Message} (hlong : 8 + idsize ≤ rtable.len)
    (hhost : cString (rtable.string 8) = defaultHost) : 0 ∈ rtable.string 8 := by
  by_contra hnone
  have hall : cString (rtable.string 8) = rtable.string 8 :=
    List.takeWhile_eq_self_iff.mpr fun c hc => by
      simpa using fun hzero : c = 0 => hnone (hzero ▸ hc)
  rw [hall] at hhost
  have hlength := congrArg List.length hhost
  have hstring : (rtable.string 8).length = rtable.len - 8 := List.length_drop
  have hsix : defaultHost.length = 6 := rfl
  unfold idsize at hlong
  omega

section TemplateSession

variable {env : StartSurround} {options : Options} {files : Files} {req status rtable : Message}

theorem TemplateSession.hasTemplate (h : TemplateSession env options files req status rtable)
    (memory : Nat → UInt8) : (options.account memory).hasTemplate = true := by
  obtain ⟨name, htemplate, hname⟩ := h.template
  rw [hasTemplate_account options memory htemplate]
  simpa using hname

theorem TemplateSession.opens (h : TemplateSession env options files req status rtable)
    (memory : Nat → UInt8) {script : List ShortReads.Outcome} (hscript : NoFailure script)
    (henough : rtable.len ≤ deliveries script) (rest reply : Bytes) :
    ∃ script', srOpen env (options.account memory)
        { socket := ⟨rtable.bytes ++ rest, script⟩, files := files, sent := [reply]
          sr := .init { ifList := [], routingTable := [] } 0 } =
      .returned 0
        { socket := ⟨rest, script'⟩, files := files.write options.rtable rtable.rtableText
          sent := [reply, (options.account memory).opening env.stack]
          sr := .init { ifList := [], routingTable := [] } 0 } := by
  obtain ⟨-, -, hframed⟩ := h.framed
  obtain ⟨hrtable, hlong, hhost⟩ := h.table
  have hname : rtablePrefix ++ cString (rtable.string 8) = options.rtable := by
    rw [hhost, h.rtableOption]
  have hshort : (cString (rtable.string 8)).length ≤ idsize := by
    rw [hhost]
    decide
  obtain ⟨c, hwritten, hhandle⟩ := handle_rtable env (options.account memory)
    hrtable hlong (terminated_of_host hlong hhost) hshort (by rw [hname]; exact h.writable)
  rw [hname] at hhandle
  have hdispatch : rtable.dispatch c (.init { ifList := [], routingTable := [] } 0) =
      some (1, .init { ifList := [], routingTable := [] } 0) := by
    rw [dispatch_rtable c _ hrtable, hwritten]
    rfl
  obtain ⟨script', -, -, hreceived⟩ := expecting_message
    (s := { socket := ⟨rtable.bytes ++ rest, script⟩, files := files
            sent := [reply] ++ [(options.account memory).opening env.stack]
            sr := .init { ifList := [], routingTable := [] } 0 })
    hframed hrtable hscript henough rfl hhandle hdispatch fun s => .returned 0 s
  refine ⟨script', ?_⟩
  rw [srOpen, if_neg (by simp [h.send]), if_pos (h.hasTemplate memory)]
  exact hreceived

/-- The run of a session with a template, and what it sends. -/
theorem TemplateSession.serves (h : TemplateSession env options files req status rtable)
    {key : Bytes} (hkey : (env.auth files).hashedKey = some key) {heap : Nat → UInt8}
    (hheap : env.heap = some heap) (memory : Nat → UInt8) {script : List ShortReads.Outcome}
    (hscript : NoFailure script)
    (henough : (sent [req, status, rtable]).length ≤ deliveries script) (rest : Bytes) :
    ∃ script' table,
      srMain env memory options files ⟨sent [req, status, rtable] ++ rest, script⟩ =
        .serving
          { socket := ⟨rest, script'⟩
            files := files.write options.rtable rtable.rtableText
            sent := [authReplyPacket heap (options.account memory).userName
              (secureHash (req.salt ++ key)), (options.account memory).opening env.stack]
            sr := .init { ifList := [], routingTable := table } env.now } ∧
      List.Forall₂ (LineRoute env.inetAton) (lines newline rtable.rtableText) table := by
  obtain ⟨name, htemplate, -⟩ := h.template
  obtain ⟨hreqFramed, hstatusFramed, -⟩ := h.framed
  have htotal : (sent [req, status, rtable]).length = req.len + (status.len + rtable.len) := by
    simp [sent, Message.len]
  have hbytes : sent [req, status, rtable] ++ rest =
      req.bytes ++ (status.bytes ++ (rtable.bytes ++ rest)) := by
    simp [sent]
  -- the authentication
  obtain ⟨script₁, hscript₁, hdel₁, hconnect⟩ := srConnectToServer_admitted
    (options.account memory)
    (s := { socket := ⟨req.bytes ++ (status.bytes ++ (rtable.bytes ++ rest)), script⟩
            files := files, sent := []
            sr := .init { ifList := [], routingTable := [] } 0 })
    ⟨hreqFramed, h.request⟩ ⟨hstatusFramed, h.verdict⟩ hkey hheap h.send hscript (by omega) rfl
  -- the routing table
  obtain ⟨script₂, hopen⟩ := h.opens memory hscript₁ (by omega) rest
    (authReplyPacket heap (options.account memory).userName (secureHash (req.salt ++ key)))
  -- the table is loaded from the file that was written
  obtain ⟨table, htable, hload⟩ := srLoadRt_of_loadable h.text h.loadable
  refine ⟨script₂, table, ?_, htable⟩
  have hfile : (files.write options.rtable rtable.rtableText).content options.rtable =
      some rtable.rtableText := Function.update_self ..
  rw [hbytes, srMain, htemplate]
  dsimp only
  rw [srMainConnect, hconnect, List.nil_append, hopen]
  dsimp only
  rw [if_neg (by decide)]
  exact srLoadRtWrap_of_loadable (s := { socket := _, files := _, sent := _, sr := _ }) hfile
    hload _

end TemplateSession

/-- **A start with a template.** The server lets the router in and sends it a
routing table. However the stream is cut up, the router sends its reply, which
says who it is and holds the digest of the salt and the key, and then what it
opens. It enters its loop with the routes that the server's text describes, and
the loop finds what is behind the three messages. -/
theorem srMain_template {env : StartSurround} {options : Options} {files : Files}
    {req status rtable : Message} (h : TemplateSession env options files req status rtable)
    {key : Bytes} (hkey : (env.auth files).hashedKey = some key) (memory : Nat → UInt8)
    (huser : sizeofCAuthReply + (options.account memory).userName.length + sha1Len < 2 ^ 32)
    {script : List ShortReads.Outcome} (hscript : NoFailure script)
    (henough : (sent [req, status, rtable]).length ≤ deliveries script) (rest : Bytes) :
    ∃ script' table reply opening,
      srMain env memory options files ⟨sent [req, status, rtable] ++ rest, script⟩ =
        .serving
          { socket := ⟨rest, script'⟩
            files := files.write options.rtable rtable.rtableText
            sent := [reply, opening]
            sr := .init { ifList := [], routingTable := table } env.now } ∧
      List.Forall₂ (LineRoute env.inetAton) (lines newline rtable.rtableText) table ∧
      AuthReply.parse reply =
        some { userName := (options.account memory).userName
               digest := digestBytes (secureHash (req.salt ++ key)) } ∧
      OpenRequest.parse opening = some (options.account memory).request := by
  obtain ⟨heap, hheap⟩ := Option.ne_none_iff_exists'.mp h.heap
  obtain ⟨script', table, hrun, htable⟩ :=
    h.serves hkey hheap memory hscript henough rest
  exact ⟨script', table, _, _, hrun, htable, parse_authReplyPacket heap huser _, parse_opening _ _⟩

/-- A session with the template `t`, whose table is the line for 10.0.1.0. -/
def templateSurround : StartSurround where
  now := 0
  mem := fun _ => (zeroMac, 0)
  stack := fun _ => 0
  sha1 := guestSurround.sha1
  heap := guestSurround.heap
  send := fun bytes => bytes.length
  inetAton := dottedQuad
  junk := noFields

def templateOptions : Options where
  host := defaultHost
  user := some [103]
  rtable := rtablePrefix ++ defaultHost
  template := some [116]
  topo := 0
  passwd := []

def keyFiles : Files where
  content := fun name => if name = authKeyFile then some [107, newline] else none
  writable := fun _ => true

def acceptedStatus : Message where
  bytes := [0, 0, 0, 9, 0, 0, 2, 0, 1]
  length_le := by decide

def eth1Rtable : Message where
  bytes := [0, 0, 0, 76, 0, 0, 0, 32] ++ defaultHost ++ List.replicate 26 0 ++ eth1Line
  length_le := by decide

theorem templateSession_eth1 : TemplateSession templateSurround templateOptions keyFiles saltRequest
    acceptedStatus eth1Rtable where
  template := ⟨_, rfl, by decide⟩
  rtableOption := rfl
  framed := ⟨⟨by decide, by decide⟩, ⟨by decide, by decide⟩, ⟨by decide, by decide⟩⟩
  request := by decide
  verdict := by decide
  table := by decide
  text := by decide
  loadable := by
    have htext : eth1Rtable.rtableText = eth1Line := by decide
    have hlines : lines newline eth1Line = [eth1Line] := by decide +kernel
    rw [htext, hlines]
    exact List.forall_mem_singleton.mpr ⟨by decide +kernel, _, loadable_eth1Line⟩
  heap := Option.some_ne_none _
  send := fun _ => rfl
  writable := rfl

theorem srMain_template_eth1 :
    ∃ script' table reply opening,
      srMain templateSurround (fun _ => 0) templateOptions keyFiles
          ⟨sent [saltRequest, acceptedStatus, eth1Rtable] ++ [0], dribble 94⟩ =
        .serving
          { socket := ⟨[0], script'⟩
            files := keyFiles.write templateOptions.rtable eth1Rtable.rtableText
            sent := [reply, opening]
            sr := .init { ifList := [], routingTable := table } 0 } ∧
      List.Forall₂ (LineRoute dottedQuad) (lines newline eth1Line) table ∧
      OpenRequest.parse opening = some (.template [116] defaultHost) := by
  obtain ⟨script', table, reply, opening, hrun, htable, -, hopening⟩ :=
    srMain_template templateSession_eth1 rfl (fun _ => 0) (by decide)
      (by unfold NoFailure; decide +kernel : NoFailure (dribble 94)) (by decide +kernel) [0]
  exact ⟨script', table, reply, opening, hrun, htable, hopening⟩

/-! ### No session without authentication -/

theorem srLoadRtWrap_serving {env : StartSurround} {rtable : CStr} {s s' : Starting}
    {rest : Starting → Run} (h : srLoadRtWrap env rtable s rest = .serving s') :
    ∃ table, srLoadRt env.inetAton env.junk (s.files.content rtable)
        s.sr.config.routingTable = some (0, table) ∧
      rest { s with sr := { s.sr with config := { s.sr.config with routingTable := table } } } =
        .serving s' := by
  unfold srLoadRtWrap at h
  split at h
  · cases h
  · next ret table hload =>
      dsimp only at h
      split at h
      · cases h
      · next hzero =>
          obtain rfl : ret = 0 := not_not.mp hzero
          exact ⟨table, hload, h⟩

theorem srMainConnect_serving {env : StartSurround} {account : Account} {rtable : CStr}
    {s s' : Starting} (hsent : s.sent = []) (h : srMainConnect env account rtable s = .serving s') :
    Admitted env account s.files s.socket.pending s'.socket.pending s'.sent ∧
      s'.sr = .init s'.sr.config env.now ∧
      ∃ old, srLoadRt env.inetAton env.junk (s'.files.content rtable) old =
        some (0, s'.sr.config.routingTable) := by
  unfold srMainConnect at h
  split at h
  · cases h
  · cases h
  · next ret connected hconnect =>
      split at h
      · cases h
      · next hret =>
          have hadmitted := srConnectToServer_returned hret hsent hconnect
          obtain ⟨table, hload, h⟩ := srLoadRtWrap_serving h
          cases h
          exact ⟨hadmitted, rfl, connected.sr.config.routingTable, hload⟩

/-- **No session without authentication.** Whatever comes from the server and
however the connection behaves: when the router enters its loop, the server has
asked for an authentication and has accepted it, in this order, and the router
has sent two packets: who it is with the digest of the salt and the key, and
what it opens. With a template the server has sent a routing table, and nothing
else was taken off the stream. The cache is empty, and the routing table was
loaded from the file of the options. -/
theorem srMain_serving (env : StartSurround) (memory : Nat → UInt8) (options : Options)
    (files : Files) (socket : Stream) (s : Starting)
    (h : srMain env memory options files socket = .serving s) :
    Admitted env (options.account memory) files socket.pending s.socket.pending s.sent ∧
      s.sr = .init s.sr.config env.now ∧
      ∃ old, srLoadRt env.inetAton env.junk (s.files.content options.rtable) old =
        some (0, s.sr.config.routingTable) := by
  unfold srMain at h
  dsimp only at h
  split at h
  · obtain ⟨table, -, h⟩ := srLoadRtWrap_serving h
    exact srMainConnect_serving rfl h
  · exact srMainConnect_serving rfl h

theorem srMain_serving_eth1 : ∃ s : Starting,
    Admitted templateSurround (templateOptions.account fun _ => 0) keyFiles
      (sent [saltRequest, acceptedStatus, eth1Rtable] ++ [0]) s.socket.pending s.sent ∧
    s.socket.pending = [0] := by
  obtain ⟨script', table, hrun, -⟩ := templateSession_eth1.serves rfl rfl (fun _ => 0)
    (by unfold NoFailure; decide +kernel : NoFailure (dribble 94)) (by decide +kernel) [0]
  exact ⟨_, (srMain_serving _ _ _ _ _ _ hrun).1, rfl⟩

end SrRouter
