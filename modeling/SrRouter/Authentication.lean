import SrRouter.MessageSafety
import SrRouter.RouteFile
import SrRouter.SecureHash

/-!
The authentication of the router (`sr_handle_auth_request`, in
`sr_vns_comm.c`).

The server sends a salt, and the router answers with its user and the digest
of the salt and the key. `fgets` reads the key into a buffer that is not
initialised, and all of the buffer is hashed. `AuthReply` is what the server
takes the answer for, by the layout of `c_auth_reply`.
-/

namespace SrRouter

open ByteBuffer CString TextInput

def vnsAuthReply : UInt32 := 256
def authKeyLen : Nat := 64
def sha1Len : Nat := 20
def sizeofCAuthReply : Nat := 12

/-- The fields of `sr_instance` that name the router to the server, and the
memory behind them. -/
structure Account where
  user : Vector UInt8 32
  host : Vector UInt8 32
  template : Vector UInt8 30
  topoId : UInt16
  behind : Bytes

def Account.userName (sr : Account) : CStr :=
  cString (sr.user.toList ++ sr.host.toList ++ sr.template.toList ++ bytes16 sr.topoId ++
    sr.behind)

/-- What the handler meets: the file `auth_key`, the stack, the memory that
`malloc` finds, and the number that `send` returns. -/
structure AuthSurround where
  authKey : Option Bytes
  stack : Nat → UInt8
  sha1 : Sha1Context
  heap : Option (Nat → UInt8)
  send : Bytes → Int

/-- What the handler does: the buffer that it gives to `send`, and the value
returned. -/
structure AuthOutcome where
  reply : Option Bytes
  ret : Int
  deriving DecidableEq

/-- `auth_key` with a line in it. -/
def authKeyBuffer (stack : Nat → UInt8) (line : Bytes) : Bytes :=
  blit (block stack (authKeyLen + 1)) 0 (line ++ [0])

def digestBytes (digest : Sha1Words) : Bytes :=
  bytes32 (htonl digest.a) ++ bytes32 (htonl digest.b) ++ bytes32 (htonl digest.c) ++
    bytes32 (htonl digest.d) ++ bytes32 (htonl digest.e)

def authReplyPacket (heap : Nat → UInt8) (userName : CStr) (digest : Sha1Words) : Bytes :=
  let lenUsername := userName.length
  let len := sizeofCAuthReply + lenUsername + sha1Len
  let buf := block heap len
  let buf := store32 buf 0 (htonl (UInt32.ofNat len))
  let buf := store32 buf 4 (htonl vnsAuthReply)
  let buf := store32 buf 8 (htonl (UInt32.ofNat lenUsername))
  -- with the terminator
  let buf := blit buf sizeofCAuthReply (userName ++ [0])
  blit buf (sizeofCAuthReply + lenUsername) (digestBytes digest)

/-- `sr_handle_auth_request`; no result is a read outside of the message, or a
store outside of the block that is hashed. -/
def srHandleAuthRequest (env : AuthSurround) (sr : Account) (req : Message) :
    Option AuthOutcome :=
  match env.authKey with
  | none => some { reply := none, ret := 0 }
  | some content =>
    let line := (fgets newline authKeyLen content).1
    if line = [] then some { reply := none, ret := 0 }
    else do
      let salt := req.bytes.drop 8
      let saltLen := (UInt64.ofNat req.len - UInt64.ofNat 8).toUInt32
      let sha1 ← sha1Input (sha1Reset env.sha1) salt saltLen
      let sha1 ← sha1Input sha1 (authKeyBuffer env.stack line) (UInt32.ofNat authKeyLen)
      let (ok, sha1) ← sha1Result sha1
      if ok then
        match env.heap with
        | none => return { reply := none, ret := 0 }
        | some heap =>
          let buf := authReplyPacket heap sr.userName sha1.messageDigest
          return { reply := some buf, ret := if env.send buf ≠ buf.length then 0 else 1 }
      else return { reply := none, ret := 0 }

/-! ### The server's side -/

/-- An answer: the user, and the salted digest of the key. -/
structure AuthReply where
  userName : Bytes
  digest : Bytes
  deriving DecidableEq

/-- A `c_auth_reply` of its length and type; the remainder of the message is the
digest. -/
def AuthReply.parse (bytes : Bytes) : Option AuthReply :=
  let usernameLen := (ntohl (load32 bytes 8)).toNat
  if bytes.length < sizeofCAuthReply + usernameLen ∨
      (ntohl (load32 bytes 0)).toNat ≠ bytes.length ∨ ntohl (load32 bytes 4) ≠ vnsAuthReply then
    none
  else
    some { userName := slice bytes sizeofCAuthReply usernameLen
           digest := bytes.drop (sizeofCAuthReply + usernameLen) }

/-! ### The packet -/

/-- Every byte of the packet is written, and the terminator is overwritten. -/
theorem authReplyPacket_eq (heap : Nat → UInt8) (userName : CStr) (digest : Sha1Words) :
    authReplyPacket heap userName digest =
      bytes32 (htonl (UInt32.ofNat (sizeofCAuthReply + userName.length + sha1Len))) ++
        bytes32 (htonl vnsAuthReply) ++ bytes32 (htonl (UInt32.ofNat userName.length)) ++
        userName ++ digestBytes digest := by
  unfold authReplyPacket
  dsimp only
  generalize hlen : htonl (UInt32.ofNat (sizeofCAuthReply + userName.length + sha1Len)) = mLen
  generalize htype : htonl vnsAuthReply = mType
  generalize huser : htonl (UInt32.ofNat userName.length) = usernameLen
  have hdigest : (digestBytes digest).length = sha1Len := rfl
  have hsize : (block heap (sizeofCAuthReply + userName.length + sha1Len)).length =
      12 + userName.length + 20 := length_block ..
  generalize block heap (sizeofCAuthReply + userName.length + sha1Len) = buf at hsize ⊢
  -- the fields of the header, then the name, with a byte more
  have hfirst : store32 buf 0 mLen = bytes32 mLen ++ buf.drop 4 :=
    blit_append [] buf _ (by rw [length_bytes32]; omega)
  have hsecond : store32 (bytes32 mLen ++ buf.drop 4) 4 mType =
      bytes32 mLen ++ bytes32 mType ++ (buf.drop 4).drop 4 :=
    blit_append (bytes32 mLen) _ _ (by rw [length_bytes32, List.length_drop]; omega)
  have hthird : store32 (bytes32 mLen ++ bytes32 mType ++ (buf.drop 4).drop 4) 8 usernameLen =
      bytes32 mLen ++ bytes32 mType ++ bytes32 usernameLen ++ ((buf.drop 4).drop 4).drop 4 :=
    blit_append (bytes32 mLen ++ bytes32 mType) _ _ (by
      rw [length_bytes32, List.length_drop, List.length_drop]
      omega)
  generalize hheader : bytes32 mLen ++ bytes32 mType ++ bytes32 usernameLen = header
  have hheaderLen : header.length = 12 := by rw [← hheader]; rfl
  have hrest : (((buf.drop 4).drop 4).drop 4).length = userName.length + 20 := by
    simp only [List.length_drop]
    omega
  rw [hfirst, hsecond, hthird, hheader]
  generalize ((buf.drop 4).drop 4).drop 4 = rest at hrest ⊢
  have hname : blit (header ++ rest) sizeofCAuthReply (userName ++ [0]) =
      header ++ (userName ++ [0]) ++ rest.drop (userName.length + 1) := by
    have hstore := blit_append header rest (userName ++ [0]) (by
      rw [List.length_append, List.length_singleton]
      omega)
    rwa [hheaderLen, List.length_append, List.length_singleton] at hstore
  have hbehind : blit (header ++ userName ++ ([0] ++ rest.drop (userName.length + 1)))
      (sizeofCAuthReply + userName.length) (digestBytes digest) =
        header ++ userName ++ digestBytes digest := by
    have htail : ([0] ++ rest.drop (userName.length + 1)).length = sha1Len := by
      rw [List.length_append, List.length_singleton, List.length_drop, hrest, sha1Len]
      omega
    have hstore := blit_append (header ++ userName) ([0] ++ rest.drop (userName.length + 1))
      (digestBytes digest) (by rw [hdigest, htail])
    rwa [List.length_append, hheaderLen, hdigest, ← htail, List.drop_length, List.append_nil]
      at hstore
  rw [hname, List.append_assoc, List.append_assoc, ← List.append_assoc header, hbehind]

/-- **The reply read back.** -/
theorem parse_authReplyPacket (heap : Nat → UInt8) {userName : CStr}
    (hlen : sizeofCAuthReply + userName.length + sha1Len < 2 ^ 32) (digest : Sha1Words) :
    AuthReply.parse (authReplyPacket heap userName digest) =
      some { userName := userName, digest := digestBytes digest } := by
  rw [authReplyPacket_eq]
  unfold sizeofCAuthReply sha1Len at hlen ⊢
  have hdigest : (digestBytes digest).length = 20 := rfl
  generalize hmLen : UInt32.ofNat (12 + userName.length + 20) = mLen
  have hmLen' : mLen.toNat = 12 + userName.length + 20 := by
    rw [← hmLen]
    exact UInt32.toNat_ofNat_of_lt' hlen
  generalize husernameLen : UInt32.ofNat userName.length = usernameLen
  have husernameLen' : usernameLen.toNat = userName.length := by
    rw [← husernameLen]
    exact UInt32.toNat_ofNat_of_lt' (by show _ < 2 ^ 32; omega)
  generalize digestBytes digest = digest at hdigest ⊢
  have hfirst : ntohl (load32 (bytes32 (htonl mLen) ++ bytes32 (htonl vnsAuthReply) ++
      bytes32 (htonl usernameLen) ++ userName ++ digest) 0) = mLen := by
    rw [List.append_assoc, List.append_assoc, List.append_assoc, load32_bytes32_append]
    exact ntohl_ntohl mLen
  have hsecond : ntohl (load32 (bytes32 (htonl mLen) ++ bytes32 (htonl vnsAuthReply) ++
      bytes32 (htonl usernameLen) ++ userName ++ digest) 4) = vnsAuthReply := by
    have hload := load32_append_right (bytes32 (htonl mLen))
      (bytes32 (htonl vnsAuthReply) ++ (bytes32 (htonl usernameLen) ++ (userName ++ digest))) 0
    rw [load32_bytes32_append] at hload
    rw [List.append_assoc, List.append_assoc, List.append_assoc]
    exact (congrArg ntohl hload).trans (ntohl_ntohl _)
  have hthird : ntohl (load32 (bytes32 (htonl mLen) ++ bytes32 (htonl vnsAuthReply) ++
      bytes32 (htonl usernameLen) ++ userName ++ digest) 8) = usernameLen := by
    have hload := load32_append_right (bytes32 (htonl mLen) ++ bytes32 (htonl vnsAuthReply))
      (bytes32 (htonl usernameLen) ++ (userName ++ digest)) 0
    rw [load32_bytes32_append] at hload
    rw [List.append_assoc _ (bytes32 (htonl usernameLen)),
      List.append_assoc _ (bytes32 (htonl usernameLen) ++ userName), List.append_assoc
      (bytes32 (htonl usernameLen))]
    exact (congrArg ntohl hload).trans (ntohl_ntohl _)
  rw [AuthReply.parse, hfirst, hsecond, hthird, hmLen', husernameLen']
  have hheader : (bytes32 (htonl mLen) ++ bytes32 (htonl vnsAuthReply) ++
      bytes32 (htonl usernameLen)).length = 12 := rfl
  generalize bytes32 (htonl mLen) ++ bytes32 (htonl vnsAuthReply) ++
    bytes32 (htonl usernameLen) = header at hheader ⊢
  have hlength : (header ++ userName ++ digest).length = 12 + userName.length + 20 := by
    rw [List.length_append, List.length_append, hheader, hdigest]
  have hname : slice (header ++ userName ++ digest) 12 userName.length = userName := by
    rw [slice, List.append_assoc, ← hheader, List.drop_left, List.take_left]
  have hremainder : (header ++ userName ++ digest).drop (12 + userName.length) = digest := by
    rw [← hheader, ← List.length_append, List.drop_left]
  unfold sizeofCAuthReply
  rw [hlength, hname, hremainder, if_neg]
  rintro (hshort | hwrong | htype)
  · omega
  · exact hwrong rfl
  · exact htype rfl

/-! ### The handler -/

/-- The octets of the key buffer that are hashed, where the file can be read:
its first line, the terminator, and then what the stack held. -/
def AuthSurround.hashedKey (env : AuthSurround) : Option Bytes :=
  match env.authKey with
  | none => none
  | some content =>
    let line := (fgets newline authKeyLen content).1
    if line = [] then none
    else some ((line ++ [0] ++ (block env.stack (authKeyLen + 1)).drop (line.length + 1)).take
      authKeyLen)

def Message.salt (req : Message) : Bytes := req.bytes.drop 8

theorem take_authKeyBuffer (stack : Nat → UInt8) {line : Bytes} (h : line.length ≤ authKeyLen) :
    authKeyBuffer stack line =
      line ++ [0] ++ (block stack (authKeyLen + 1)).drop (line.length + 1) := by
  have hstore := blit_append [] (block stack (authKeyLen + 1)) (line ++ [0]) (by
    rw [length_block, List.length_append, List.length_singleton]
    omega)
  rwa [List.length_append, List.length_singleton] at hstore

theorem length_fgets_le (room : Nat) (text : Bytes) :
    (fgets newline room text).1.length ≤ room := by
  induction room generalizing text with
  | zero => exact Nat.le_refl 0
  | succ room ih =>
      cases text with
      | nil => exact Nat.zero_le _
      | cons c text =>
          rw [fgets]
          split
          · exact Nat.succ_le_succ (Nat.zero_le room)
          · exact Nat.succ_le_succ (ih text)

theorem sha1_salt_key (context : Sha1Context) (salt key : Bytes) (hsalt : salt.length ≤ 10000)
    (hkey : key.length = authKeyLen) :
    ∃ context₁ context₂ context₃,
      sha1Input (sha1Reset context) salt (UInt32.ofNat salt.length) = some context₁ ∧
      sha1Input context₁ key (UInt32.ofNat authKeyLen) = some context₂ ∧
      sha1Result context₂ = some (true, context₃) ∧
      context₃.messageDigest = secureHash (salt ++ key) := by
  have hreset : (Sha1Stage.takes []).Of (sha1Reset context) := Sha1Context.streams_reset context
  obtain ⟨context₁, hsalted, hof₁⟩ := hreset.input salt (by omega)
  have hfirst : (Sha1Stage.takes []).input salt = .takes salt := by
    rw [Sha1Stage.input, List.nil_append, if_pos (by omega)]
  rw [hfirst] at hof₁
  unfold authKeyLen at hkey ⊢
  obtain ⟨context₂, hkeyed, hof₂⟩ := hof₁.input key (by omega)
  have hsecond : (Sha1Stage.takes salt).input key = .takes (salt ++ key) := by
    rw [Sha1Stage.input, List.length_append, if_pos (by omega)]
  rw [hsecond] at hof₂
  rw [hkey] at hkeyed
  obtain ⟨ok, context₃, hresult, -, hanswer⟩ := hof₂.result
  cases ok with
  | false => cases hanswer
  | true => exact ⟨context₁, context₂, context₃, hsalted, hkeyed, hresult,
      (Option.some.inj hanswer).symm⟩

/-- **The answer to a request.** Where the key and memory can be had, the handler
sends a packet that the server reads as the user and the digest of the salt and
the key, and returns 1 exactly if all of it was sent. Elsewhere it sends nothing
and returns 0. -/
theorem srHandleAuthRequest_eq (env : AuthSurround) (sr : Account) {req : Message}
    (hreq : 8 ≤ req.len) :
    srHandleAuthRequest env sr req =
      match env.hashedKey, env.heap with
      | some key, some heap =>
        let reply := authReplyPacket heap sr.userName (secureHash (req.salt ++ key))
        some { reply := some reply, ret := if env.send reply ≠ reply.length then 0 else 1 }
      | _, _ => some { reply := none, ret := 0 } := by
  unfold srHandleAuthRequest AuthSurround.hashedKey
  cases hfile : env.authKey with
  | none => rfl
  | some content =>
      dsimp only
      have hline := length_fgets_le authKeyLen content
      generalize (fgets newline authKeyLen content).1 = line at hline ⊢
      by_cases hempty : line = []
      · rw [if_pos hempty, if_pos hempty]
      · rw [if_neg hempty, if_neg hempty, take_authKeyBuffer env.stack hline]
        have hmax : req.len ≤ 10000 := req.length_le
        have hsalt : req.salt.length = req.len - 8 := List.length_drop
        have hsaltLen : (UInt64.ofNat req.len - UInt64.ofNat 8).toUInt32 =
            UInt32.ofNat req.salt.length := by
          apply UInt32.toNat_inj.mp
          rw [UInt64.toNat_toUInt32, req.toNat_sub64 hreq, hsalt, UInt32.toNat_ofNat']
        generalize hkey : line ++ [0] ++ (block env.stack (authKeyLen + 1)).drop (line.length + 1) =
          key
        have hkeyLen : key.length = authKeyLen + 1 := by
          rw [← hkey, List.length_append, List.length_append, List.length_drop, length_block,
            List.length_singleton]
          omega
        have htake : (UInt32.ofNat authKeyLen).toNat = authKeyLen := rfl
        obtain ⟨context₁, context₂, context₃, hsalted, hkeyed, hresult, hdigest⟩ :=
          sha1_salt_key env.sha1 req.salt (key.take authKeyLen) (by omega)
            (by rw [List.length_take]; omega)
        have hdrop : req.bytes.drop 8 = req.salt := rfl
        rw [hsaltLen, hdrop, hsalted, Option.bind_eq_bind, Option.bind_some,
          sha1Input_take context₁ key (by rw [htake]; omega), htake, hkeyed, Option.bind_some,
          hresult, Option.bind_eq_bind, Option.bind_some]
        dsimp only
        rw [if_pos rfl, hdigest]
        cases env.heap with
        | none => rfl
        | some heap => rfl

theorem srHandleAuthRequest_of_key {env : AuthSurround} (sr : Account) {req : Message}
    (hreq : 8 ≤ req.len) {key : Bytes} (hkey : env.hashedKey = some key) {heap : Nat → UInt8}
    (hheap : env.heap = some heap) :
    ∃ reply, reply = authReplyPacket heap sr.userName (secureHash (req.salt ++ key)) ∧
      srHandleAuthRequest env sr req =
        some { reply := some reply, ret := if env.send reply ≠ reply.length then 0 else 1 } := by
  refine ⟨_, rfl, ?_⟩
  rw [srHandleAuthRequest_eq env sr hreq, hkey, hheap]

theorem srHandleAuthRequest_of_none {env : AuthSurround} (sr : Account) {req : Message}
    (hreq : 8 ≤ req.len) (hnone : env.hashedKey = none ∨ env.heap = none) :
    srHandleAuthRequest env sr req = some { reply := none, ret := 0 } := by
  rw [srHandleAuthRequest_eq env sr hreq]
  cases hkey : env.hashedKey with
  | none => rfl
  | some key => rw [hnone.resolve_left (hkey ▸ Option.some_ne_none key)]

/-- What the server gets for a request: where the key and memory can be had, the
reply says who the user is and holds the digest of the salt and the key; and 1
is returned exactly if all of a reply was sent. -/
theorem srHandleAuthRequest_answers (env : AuthSurround) (sr : Account) (req : Message)
    (hreq : 8 ≤ req.len) (huser : sizeofCAuthReply + sr.userName.length + sha1Len < 2 ^ 32) :
    ∃ out, srHandleAuthRequest env sr req = some out ∧
      (∀ key heap, env.hashedKey = some key → env.heap = some heap →
        ∃ reply, out.reply = some reply ∧ AuthReply.parse reply =
          some { userName := sr.userName, digest := digestBytes (secureHash (req.salt ++ key)) }) ∧
      (out.reply = none ↔ env.hashedKey = none ∨ env.heap = none) ∧
      (out.ret = 1 ↔ ∃ reply, out.reply = some reply ∧ env.send reply = reply.length) := by
  by_cases hnone : env.hashedKey = none ∨ env.heap = none
  · refine ⟨_, srHandleAuthRequest_of_none sr hreq hnone, ?_, by simp [hnone], by simp⟩
    intro key heap hkey hheap
    simp [hkey, hheap] at hnone
  · obtain ⟨hkey, hheap⟩ := not_or.mp hnone
    obtain ⟨key, hkey⟩ := Option.ne_none_iff_exists'.mp hkey
    obtain ⟨heap, hheap⟩ := Option.ne_none_iff_exists'.mp hheap
    obtain ⟨reply, hreply, hout⟩ := srHandleAuthRequest_of_key sr hreq hkey hheap
    refine ⟨_, hout, ?_, by simp [hnone], ?_⟩
    · intro key' heap' hkey' hheap'
      obtain rfl : key = key' := Option.some.inj (hkey.symm.trans hkey')
      exact ⟨reply, rfl, hreply ▸ parse_authReplyPacket heap huser _⟩
    · by_cases hsent : env.send reply = reply.length
      · simp [hsent]
      · simp [hsent]

def guest : Account where
  user := (Vector.replicate 32 0).set 0 103
  host := Vector.replicate 32 0
  template := Vector.replicate 30 0
  topoId := 0
  behind := []

/-- A file of one short line, and memory that is all zeros. -/
def guestSurround : AuthSurround where
  authKey := some [107, newline]
  stack := fun _ => 0
  sha1 := ⟨sha1InitialDigest, 0, 0, Vector.replicate 64 0, 0, false, false⟩
  heap := some fun _ => 0
  send := fun bytes => bytes.length

def saltRequest : Message where
  bytes := [0, 0, 0, 9, 0, 0, 0, 128, 7]
  length_le := by decide

theorem srHandleAuthRequest_answers_guest :
    ∃ out reply, srHandleAuthRequest guestSurround guest saltRequest = some out ∧
      out.reply = some reply ∧ out.ret = 1 ∧
      AuthReply.parse reply =
        some { userName := [103]
               digest := digestBytes (secureHash (7 :: 107 :: newline :: List.replicate 62 0)) } := by
  obtain ⟨out, hout, hreply, -, hret⟩ :=
    srHandleAuthRequest_answers guestSurround guest saltRequest (by decide) (by decide)
  obtain ⟨reply, hsome, hparse⟩ := hreply _ _ rfl rfl
  exact ⟨out, reply, hout, hsome, hret.mpr ⟨reply, hsome, rfl⟩, hparse⟩

/-! ### What is hashed of the stack -/

/-- A buffer that is longer than the line holds a byte of the stack last. -/
theorem getElem?_hashedKey {line : Bytes} (hline : line.length < 63) (stack : Nat → UInt8) :
    ((line ++ [0] ++ (block stack (authKeyLen + 1)).drop (line.length + 1)).take authKeyLen)[63]? =
      some (stack 63) := by
  rw [List.getElem?_take_of_lt (by decide), List.getElem?_append_right (by
    rw [List.length_append, List.length_singleton]
    omega), List.length_append, List.length_singleton, List.getElem?_drop]
  have hindex : line.length + 1 + (63 - (line.length + 1)) = 63 := by omega
  rw [hindex, block, List.getElem?_map, List.getElem?_range (by decide)]
  rfl

/-- What is hashed as the key depends on the file alone exactly if its first line
fills the buffer, or leaves room for no more than the terminator. -/
theorem hashedKey_congr_iff (env : AuthSurround) (content : Bytes) (hne : content ≠ []) :
    (∀ stack stack' : Nat → UInt8,
      AuthSurround.hashedKey { env with authKey := some content, stack := stack } =
        AuthSurround.hashedKey { env with authKey := some content, stack := stack' }) ↔
      63 ≤ (fgets newline authKeyLen content).1.length := by
  have hempty : (fgets newline authKeyLen content).1 ≠ [] := by
    cases content with
    | nil => exact absurd rfl hne
    | cons c content =>
        rw [authKeyLen, fgets]
        split <;> exact List.cons_ne_nil _ _
  unfold AuthSurround.hashedKey
  dsimp only
  generalize (fgets newline authKeyLen content).1 = line at hempty ⊢
  simp only [if_neg hempty, Option.some.injEq]
  constructor
  · intro hall
    by_contra hshort
    have hsame := congrArg (fun key => key[63]?) (hall (fun _ => 0) (fun _ => 1))
    rw [getElem?_hashedKey (by omega), getElem?_hashedKey (by omega)] at hsame
    exact absurd hsame (by decide)
  · intro hlong stack stack'
    have hfull : authKeyLen ≤ (line ++ [(0 : UInt8)]).length := by
      rw [List.length_append, List.length_singleton, authKeyLen]
      omega
    rw [List.take_append_of_le_length hfull, List.take_append_of_le_length hfull]

theorem hashedKey_congr_iff_short :
    ¬∀ stack stack' : Nat → UInt8,
      AuthSurround.hashedKey
          { guestSurround with authKey := some [107, newline], stack := stack } =
        AuthSurround.hashedKey
          { guestSurround with authKey := some [107, newline], stack := stack' } := by
  rw [hashedKey_congr_iff guestSurround [107, newline] (List.cons_ne_nil _ _)]
  decide

end SrRouter
