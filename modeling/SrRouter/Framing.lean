import SrRouter.Dispatch
import SrRouter.Lib.ShortReads

/-!
The framing of the server's byte stream (`sr_read_from_server_expect`).

Every message starts with its own length. A call reads the four bytes of the
length, then as many more as it says, and dispatches. The socket gives its
bytes in any pieces, and signals interrupt the calls that read it; nothing of
this is seen behind the framing layer. `sr_read_from_server` dispatches the
messages that were sent, byte for byte and in order, and a call that returns
has left the first byte of the next message on the socket.

In the source the first two words of the buffer end up in host byte order or
are written again; a `Message` has all its bytes as they were sent.
-/

namespace SrRouter

open ByteBuffer CString Interactive ShortReads

/-! ### One call -/

def framed (len : Int32) (h : ¬(10000 < len ∨ len < 0)) (body : Bytes) : Message where
  bytes := (bytes32 (htonl len.toUInt32) ++ body).take len.toInt.toNat
  length_le := by
    have hle : len.toInt ≤ 10000 := by
      rw [Int32.lt_iff_toInt_lt] at h
      have hconst : (10000 : Int32).toInt = 10000 := rfl
      omega
    rw [List.length_take]
    omega

/-- What a call of `sr_read_from_server_expect` finds on the socket. -/
inductive Arrival
  | message (msg : Message) (socket : Stream)
  /-- The call returns -1; there is no socket once it was closed. -/
  | refused (socket : Option Stream)
  | blocked (socket : Stream)
  /-- The buffer is too short for the two words at its start. -/
  | overrun

inductive Call
  /-- A message was dispatched, with this value returned. -/
  | dispatched (msg : Message) (ret : Int) (socket : Stream) (sr : SrInstance)
  | refused (socket : Option Stream)
  | blocked (socket : Stream)
  /-- An assertion failed while this message was dispatched. -/
  | aborted (msg : Message)
  | overrun

/-- From the complete buffer on. -/
def Message.receive (msg : Message) (c : Circumstances) (expectedCmd : UInt32) (socket : Stream)
    (sr : SrInstance) : Call :=
  if msg.Unexpected expectedCmd then .refused (some socket)
  else
    match msg.dispatch c sr with
    | none => .aborted msg
    | some (ret, sr) => .dispatched msg ret socket sr

/-- Where the loop of `main` has got to: the messages that were dispatched with
result 1, the call that ended the loop if one did, and the socket and the
router as the calls before it left them. -/
structure Reception where
  messages : List Message
  ended : Option Call
  socket : Stream
  sr : SrInstance

section Reader

/-! The two loops that read, for the length and for the rest, count to a number
of bytes. What they come to depends on the connection. -/

variable (read : Nat → Stream → ReadResult)

/-- From the length on, where `malloc` succeeds. -/
def arriveBody (len : Int32) (socket : Stream) : Arrival :=
  if h : 10000 < len ∨ len < 0 then .refused none
  else if len < 4 then .overrun
  else
    match read (len.toInt.toNat - 4) socket with
    | .blocked socket => .blocked socket
    | .failed _ => .refused none
    -- the command is the second word
    | .done body socket => if len < 8 then .overrun else .message (framed len h body) socket

def arrive (socket : Stream) : Arrival :=
  match read 4 socket with
  | .blocked socket => .blocked socket
  | .failed socket => .refused (some socket)
  -- the length is in network byte order
  | .done word socket => arriveBody read (ntohl (load32 word 0)).toInt32 socket

def srReadFromServerExpectBy (c : Circumstances) (expectedCmd : UInt32) (socket : Stream)
    (sr : SrInstance) : Call :=
  match arrive read socket with
  | .message msg socket => msg.receive c expectedCmd socket sr
  | .refused socket => .refused socket
  | .blocked socket => .blocked socket
  | .overrun => .overrun

/-- Calls of `sr_read_from_server` as long as it returns 1, one for each of
the circumstances. -/
def serveBy : List Circumstances → Stream → SrInstance → Reception
  | [], socket, sr => { messages := [], ended := none, socket := socket, sr := sr }
  | c :: cs, socket, sr =>
    match srReadFromServerExpectBy read c 0 socket sr with
    | .dispatched msg ret socket' sr' =>
      if ret = 1 then
        let later := serveBy cs socket' sr'
        { later with messages := msg :: later.messages }
      else
        { messages := [], ended := some (.dispatched msg ret socket' sr'), socket := socket,
          sr := sr }
    | call => { messages := [], ended := some call, socket := socket, sr := sr }

end Reader

/-- `sr_read_from_server_expect` on an open connection. -/
def srReadFromServerExpect (c : Circumstances) (expectedCmd : UInt32) (socket : Stream)
    (sr : SrInstance) : Call :=
  srReadFromServerExpectBy readExactly c expectedCmd socket sr

def srReadFromServer (c : Circumstances) (socket : Stream) (sr : SrInstance) : Call :=
  srReadFromServerExpect c 0 socket sr

/-- The loop of `main` on an open connection. -/
def serve (cs : List Circumstances) (socket : Stream) (sr : SrInstance) : Reception :=
  serveBy readExactly cs socket sr

section Reader

variable {read : Nat → Stream → ReadResult} {socket socket' : Stream} {msg : Message}

theorem srReadFromServerExpectBy_of_message (h : arrive read socket = .message msg socket')
    (c : Circumstances) (expectedCmd : UInt32) (sr : SrInstance) :
    srReadFromServerExpectBy read c expectedCmd socket sr =
      msg.receive c expectedCmd socket' sr := by
  rw [srReadFromServerExpectBy, h]

theorem serveBy_of_dispatched {c : Circumstances} {sr sr' : SrInstance}
    (h : srReadFromServerExpectBy read c 0 socket sr = .dispatched msg 1 socket' sr')
    (cs : List Circumstances) : serveBy read (c :: cs) socket sr =
      { serveBy read cs socket' sr' with
        messages := msg :: (serveBy read cs socket' sr').messages } := by
  rw [serveBy, h]
  simp only [if_true]

end Reader

/-! ### What the server sends -/

/-- The message has its two words, and the first is its length. -/
def Message.Framed (msg : Message) : Prop :=
  8 ≤ msg.len ∧ ntohl (load32 msg.bytes 0) = UInt32.ofNat msg.len

def sent (msgs : List Message) : Bytes := msgs.flatMap Message.bytes

/-- The messages are dispatched one after the other, each with result 1. -/
inductive DispatchedAll : List Circumstances → List Message → SrInstance → SrInstance → Prop
  | nil (sr : SrInstance) : DispatchedAll [] [] sr sr
  | cons {c : Circumstances} {cs : List Circumstances} {msg : Message} {msgs : List Message}
      {sr sr' sr'' : SrInstance} (first : msg.dispatch c sr = some (1, sr'))
      (others : DispatchedAll cs msgs sr' sr'') : DispatchedAll (c :: cs) (msg :: msgs) sr sr''

/-! ### One message -/

/-- The length word of a message, as the source decodes and encodes it. -/
theorem Message.Framed.word {msg : Message} (h : msg.Framed) :
    ∃ len : Int32, (ntohl (load32 (msg.bytes.take 4) 0)).toInt32 = len ∧
      len.toInt = msg.len ∧ bytes32 (htonl len.toUInt32) = msg.bytes.take 4 := by
  obtain ⟨hlong, hword⟩ := h
  have hmax : msg.len ≤ 10000 := msg.length_le
  have hlen : msg.bytes.length = msg.len := rfl
  have hfour : (msg.bytes.take 4).length = 4 := by
    rw [List.length_take]
    omega
  have hload : load32 (msg.bytes.take 4) 0 = load32 msg.bytes 0 := by
    have hbyte (i : Nat) (hi : i < 4) : load8 (msg.bytes.take 4) i = load8 msg.bytes i := by
      simp [load8, List.getD_eq_getElem?_getD, hi]
    unfold load32
    rw [hbyte 0 (by omega), hbyte 1 (by omega), hbyte 2 (by omega), hbyte 3 (by omega)]
  refine ⟨(UInt32.ofNat msg.len).toInt32, ?_, ?_, ?_⟩
  · rw [hload, hword]
  · rw [UInt32.toInt32_ofNat', Int32.toInt_ofNat_of_lt (by omega)]
  · rw [← hword, ← hload, htonl]
    show bytes32 (ntohl (ntohl _)) = _
    rw [ntohl_ntohl, bytes32_load32 hfour]

theorem Message.ext_bytes {a b : Message} (h : a.bytes = b.bytes) : a = b := by
  cases a
  cases b
  cases h
  rfl

theorem framed_body {msg : Message} {len : Int32} (hlen : len.toInt = msg.len)
    (hword : bytes32 (htonl len.toUInt32) = msg.bytes.take 4) (h : ¬(10000 < len ∨ len < 0)) :
    framed len h (msg.bytes.drop 4) = msg := by
  apply Message.ext_bytes
  show (bytes32 (htonl len.toUInt32) ++ msg.bytes.drop 4).take len.toInt.toNat = msg.bytes
  rw [hword, List.take_append_drop, hlen, Int.toNat_natCast]
  exact List.take_length

theorem toInt_toInt32_of_nonneg {x : UInt32} (h : ¬x.toInt32 < 0) :
    x.toInt32.toInt = x.toNat := by
  have hcond : x.toInt32.toInt = x.toBitVec.toInt := rfl
  have hnat : x.toBitVec.toNat = x.toNat := rfl
  have hzero : (0 : Int32).toInt = 0 := rfl
  have hlt := x.toNat_lt
  rw [Int32.lt_iff_toInt_lt, hzero, hcond, BitVec.toInt_eq_toNat_cond, hnat] at h
  rw [hcond, BitVec.toInt_eq_toNat_cond, hnat]
  split at h
  · next hsmall => rw [if_pos hsmall]
  · omega

theorem framed_word {word body : Bytes} (hword : word.length = 4) {len : Int32}
    (hlen : len = (ntohl (load32 word 0)).toInt32) (hbody : body.length = len.toInt.toNat - 4)
    (h : ¬(10000 < len ∨ len < 0)) (height : ¬len < 8) :
    (framed len h body).bytes = word ++ body ∧ (framed len h body).Framed := by
  have hint : len.toInt = (ntohl (load32 word 0)).toNat := by
    rw [hlen] at h ⊢
    exact toInt_toInt32_of_nonneg fun hneg => h (.inr hneg)
  have height' : 8 ≤ len.toInt := by
    rw [Int32.lt_iff_toInt_lt] at height
    have hconst : (8 : Int32).toInt = 8 := rfl
    omega
  have hlength : (word ++ body).length = len.toInt.toNat := by
    rw [List.length_append, hword, hbody]
    omega
  have hbytes : (framed len h body).bytes = word ++ body := by
    show (bytes32 (htonl len.toUInt32) ++ body).take len.toInt.toNat = _
    rw [hlen, UInt32.toUInt32_toInt32, htonl, ntohl_ntohl, bytes32_load32 hword, ← hlen, ← hlength,
      List.take_length]
  have hload : load32 (word ++ body) 0 = load32 word 0 := by
    rw [← bytes32_load32 hword, load32_bytes32_append, bytes32_load32 hword]
  refine ⟨hbytes, ?_, ?_⟩
  · show 8 ≤ (framed len h body).bytes.length
    rw [hbytes, hlength]
    omega
  · rw [hbytes, hload, Message.len, hbytes, hlength, hint, Int.toNat_natCast,
      UInt32.ofNat_toNat]

/-- What a call finds that has the message next on the stream: the message,
with nothing more of the stream read; or the stream stops in the middle of the
message. -/
def Arrives (msg : Message) (bytes rest : Bytes) (budget : Nat) (arrival : Arrival) : Prop :=
  (∃ script, NoFailure script ∧ budget ≤ deliveries script + bytes.length ∧
    arrival = .message msg ⟨rest, script⟩) ∨
  (∃ taken missing, bytes = taken ++ missing ∧ missing ≠ [] ∧ budget < bytes.length ∧
    arrival = .blocked ⟨missing ++ rest, []⟩)

theorem Message.length_passes {msg : Message} (hlong : 8 ≤ msg.len) {len : Int32}
    (hlen : len.toInt = msg.len) : ¬(10000 < len ∨ len < 0) ∧ ¬len < 4 ∧ ¬len < 8 := by
  have hmax : msg.len ≤ 10000 := msg.length_le
  have hzero : (0 : Int32).toInt = 0 := rfl
  have hfour : (4 : Int32).toInt = 4 := rfl
  have height : (8 : Int32).toInt = 8 := rfl
  have hconst : (10000 : Int32).toInt = 10000 := rfl
  simp only [Int32.lt_iff_toInt_lt, hlen]
  omega

theorem arriveBody_spec {msg : Message} (hlong : 8 ≤ msg.len) {len : Int32}
    (hlen : len.toInt = msg.len) (hencoded : bytes32 (htonl len.toUInt32) = msg.bytes.take 4)
    {script : List ShortReads.Outcome} (hscript : NoFailure script) (rest : Bytes) :
    Arrives msg (msg.bytes.drop 4) rest (deliveries script)
      (arriveBody readExactly len ⟨msg.bytes.drop 4 ++ rest, script⟩) := by
  obtain ⟨hrange, hfour, height⟩ := Message.length_passes hlong hlen
  have hcount : len.toInt.toNat - 4 = (msg.bytes.drop 4).length := by
    rw [hlen, Int.toNat_natCast, List.length_drop]
    rfl
  have hbody : msg.bytes.drop 4 ≠ [] := by
    apply List.ne_nil_of_length_pos
    rw [← hcount, hlen, Int.toNat_natCast]
    omega
  rw [arriveBody, dif_neg hrange, if_neg hfour, hcount]
  rcases readExactly_spec hscript rest hbody with
    ⟨script', hdone, hscript', hdel⟩ | ⟨taken, missing, htaken, hmissing, hblocked, hdel⟩
  · refine .inl ⟨script', hscript', hdel, ?_⟩
    rw [hdone]
    show (if len < 8 then Arrival.overrun else _) = _
    rw [if_neg height, List.nil_append, framed_body hlen hencoded]
  · refine .inr ⟨taken, missing, htaken, hmissing, hdel, ?_⟩
    rw [hblocked]

theorem arrive_spec {msg : Message} (h : msg.Framed) {script : List ShortReads.Outcome}
    (hscript : NoFailure script) (rest : Bytes) :
    Arrives msg msg.bytes rest (deliveries script)
      (arrive readExactly ⟨msg.bytes ++ rest, script⟩) := by
  obtain ⟨len, hdecoded, hlen, hencoded⟩ := h.word
  have hlong : 8 ≤ msg.bytes.length := h.1
  have hsplit : msg.bytes.take 4 ++ msg.bytes.drop 4 = msg.bytes := List.take_append_drop ..
  have hbodyLen : (msg.bytes.drop 4).length = msg.bytes.length - 4 := List.length_drop
  have hwordLen : (msg.bytes.take 4).length = 4 := by
    rw [List.length_take]
    omega
  have hword : msg.bytes.take 4 ≠ [] := List.ne_nil_of_length_pos (by omega)
  have hread := readExactly_spec hscript (msg.bytes.drop 4 ++ rest) hword
  rw [hwordLen, ← List.append_assoc, hsplit] at hread
  rw [arrive]
  rcases hread with
    ⟨script', hdone, hscript', hdel⟩ | ⟨taken, missing, htaken, hmissing, hblocked, hdel⟩
  · rw [hdone]
    show Arrives _ _ _ _ (arriveBody _ (ntohl (load32 (msg.bytes.take 4) 0)).toInt32 _)
    rw [hdecoded]
    rcases arriveBody_spec h.1 hlen hencoded hscript' rest with
      ⟨script'', hscript'', hdel', harrival⟩ |
      ⟨taken, missing, htaken, hmissing, hdel', harrival⟩
    · exact .inl ⟨script'', hscript'', by omega, harrival⟩
    · refine .inr ⟨msg.bytes.take 4 ++ taken, missing, ?_, hmissing, by omega, harrival⟩
      rw [List.append_assoc, ← htaken, hsplit]
  · rw [hblocked]
    refine .inr ⟨taken, missing ++ msg.bytes.drop 4, ?_, ?_, by omega, ?_⟩
    · rw [← List.append_assoc, ← htaken, hsplit]
    · exact List.append_ne_nil_of_left_ne_nil hmissing _
    · rw [List.append_assoc]

/-! ### Every message -/

theorem sent_cons (msg : Message) (msgs : List Message) :
    sent (msg :: msgs) = msg.bytes ++ sent msgs := rfl

/-- The stream stopped in the middle of a message: bytes of it are missing that
were never delivered. The messages before it are dispatched, and nothing of
theirs or of what follows is lost. -/
def CutShort (cs : List Circumstances) (msgs : List Message) (rest : Bytes) (sr : SrInstance)
    (budget : Nat) (r : Reception) : Prop :=
  ∃ before msg after taken missing cs', msgs = before ++ msg :: after ∧
    msg.bytes = taken ++ missing ∧ missing ≠ [] ∧ budget < (sent (before ++ [msg])).length ∧
    r.messages = before ∧ DispatchedAll cs' before sr r.sr ∧ cs' <+: cs ∧
    r.socket.pending = sent (msg :: after) ++ rest ∧
    r.ended = some (.blocked ⟨missing ++ (sent after ++ rest), []⟩)

/-- **Framing.** The router accepts the messages one after the other, and they
are sent back to back with something behind them. However the socket splits
the stream, and wherever signals interrupt the calls, as many calls dispatch
exactly these messages, in order, and leave exactly what is behind them; or
the stream stopped before the last byte of them was delivered. -/
theorem serve_sent {cs : List Circumstances} {msgs : List Message} {sr sr' : SrInstance}
    (haccepted : DispatchedAll cs msgs sr sr') (hframed : ∀ msg ∈ msgs, msg.Framed)
    {script : List ShortReads.Outcome} (hscript : NoFailure script) (rest : Bytes) :
    (∃ script', serve cs ⟨sent msgs ++ rest, script⟩ sr =
      { messages := msgs, ended := none, socket := ⟨rest, script'⟩, sr := sr' }) ∨
    CutShort cs msgs rest sr (deliveries script) (serve cs ⟨sent msgs ++ rest, script⟩ sr) := by
  induction haccepted generalizing script with
  | nil sr => exact .inl ⟨script, rfl⟩
  | @cons c cs msg msgs sr sr₁ sr' first others ih =>
      obtain ⟨hmsg, hmsgs⟩ := List.forall_mem_cons.mp hframed
      rw [sent_cons, List.append_assoc]
      rcases arrive_spec hmsg hscript (sent msgs ++ rest) with
        ⟨script₁, hscript₁, hdel, harrival⟩ | ⟨taken, missing, htaken, hmissing, hdel, harrival⟩
      -- the message is read, and the next call finds the others
      · have hreceive : msg.receive c 0 ⟨sent msgs ++ rest, script₁⟩ sr =
            .dispatched msg 1 ⟨sent msgs ++ rest, script₁⟩ sr₁ := by
          have hexpected : ¬msg.Unexpected 0 := fun h => h.1 rfl
          rw [Message.receive, if_neg hexpected, first]
        have hserve : serve (c :: cs) ⟨msg.bytes ++ (sent msgs ++ rest), script⟩ sr =
            { serve cs ⟨sent msgs ++ rest, script₁⟩ sr₁ with
              messages := msg :: (serve cs ⟨sent msgs ++ rest, script₁⟩ sr₁).messages } :=
          serveBy_of_dispatched
            ((srReadFromServerExpectBy_of_message harrival c 0 sr).trans hreceive) cs
        rw [hserve]
        rcases ih hmsgs hscript₁ with ⟨script', hall⟩ |
          ⟨before, cut, after, taken, missing, cs', hmsgs', hbytes, hmissing, hbudget, hbefore,
            hdispatched, hprefix, hpending, hended⟩
        · exact .inl ⟨script', by rw [hall]⟩
        · refine .inr ⟨msg :: before, cut, after, taken, missing, c :: cs', ?_, hbytes, hmissing,
            ?_, ?_, .cons first hdispatched, ?_, hpending, hended⟩
          · rw [hmsgs', List.cons_append]
          · rw [List.cons_append, sent_cons, List.length_append]
            omega
          · rw [← hbefore]
          · exact List.cons_prefix_cons.mpr ⟨rfl, hprefix⟩
      -- the stream stops in this message
      · have hserve : serve (c :: cs) ⟨msg.bytes ++ (sent msgs ++ rest), script⟩ sr =
            { messages := [], ended := some (.blocked ⟨missing ++ (sent msgs ++ rest), []⟩),
              socket := ⟨msg.bytes ++ (sent msgs ++ rest), script⟩, sr := sr } := by
          rw [serve, serveBy, srReadFromServerExpectBy, harrival]
        rw [hserve]
        refine .inr ⟨[], msg, msgs, taken, missing, [], rfl, htaken, hmissing, ?_, rfl, .nil sr,
          List.nil_prefix, ?_, rfl⟩
        · rw [List.nil_append, sent_cons, List.length_append]
          omega
        · rw [sent_cons, List.append_assoc]

def emptyBanner : Message where
  bytes := [0, 0, 0, 9, 0, 0, 0, 8, 0]
  length_le := by decide

/-- One byte at a time, and every call is interrupted once before. -/
def dribble (n : Nat) : List ShortReads.Outcome :=
  (List.replicate n [.interrupted, .upTo 1]).flatten

theorem serve_sent_dribble : ∃ script',
    serve [someCircumstances, someCircumstances]
        ⟨sent [emptyBanner, emptyBanner] ++ [0, 0], dribble 19⟩ (.init twoNetworks 0) =
      { messages := [emptyBanner, emptyBanner], ended := none, socket := ⟨[0, 0], script'⟩,
        sr := .init twoNetworks 0 } := by
  have hdispatch : emptyBanner.dispatch someCircumstances (.init twoNetworks 0) =
      some (1, .init twoNetworks 0) := rfl
  have hframed : emptyBanner.Framed := ⟨by decide, by decide⟩
  have hscript : NoFailure (dribble 19) := by
    unfold NoFailure
    decide
  refine (serve_sent (.cons hdispatch (.cons hdispatch (.nil _))) (by simp [hframed]) hscript
    [0, 0]).resolve_right ?_
  rintro ⟨before, msg, after, -, -, -, hmsgs, -, -, hbudget, -⟩
  -- nineteen deliveries are more than the eighteen bytes
  have hlength := congrArg (fun msgs => (sent msgs).length) hmsgs
  have htotal : (sent [emptyBanner, emptyBanner]).length = 18 := rfl
  have hdeliveries : deliveries (dribble 19) = 19 := rfl
  have hcut : (sent (before ++ [msg])).length ≤ (sent (before ++ msg :: after)).length := by
    simp [sent]
  simp only [htotal] at hlength
  omega

end SrRouter
