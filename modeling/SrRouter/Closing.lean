import SrRouter.Framing

/-!
What becomes of the router when the server closes the connection.

The loops that read a message count bytes and compare the result of a call
with -1 alone. A closed connection is a result of 0 bytes, for ever: then a
call that has not got what it wants never returns. So the loop of `main` ends
when one of the messages ends it, before the bytes run out, and otherwise not
at all.

A length below 8 leaves no room for the command. The call reads it behind the
buffer, and what it goes on to do depends on the memory there, so such a call
is not said to end.
-/

namespace SrRouter

open ByteBuffer CString Interactive ShortReads

/-! ### The connection is closed -/

/-- The call has come to its end: it returned, or it ended the process. -/
def Call.Over : Call → Prop
  | .blocked _ | .overrun => False
  | _ => True

/-- The call reads from a closed connection and comes to its end after
finitely many calls of `recv` and `read`. -/
def Returns (c : Circumstances) (expectedCmd : UInt32) (socket : Stream) (sr : SrInstance) :
    Prop :=
  ∃ fuel, (srReadFromServerExpectBy (drainExactly fuel) c expectedCmd socket sr).Over

/-- The call reads its command behind the buffer. -/
def Overruns (c : Circumstances) (expectedCmd : UInt32) (socket : Stream) (sr : SrInstance) :
    Prop :=
  ∃ fuel, srReadFromServerExpectBy (drainExactly fuel) c expectedCmd socket sr = .overrun

/-- The loop of `main`, where its calls meet these circumstances, stops at such a
call after finitely many calls of `recv` and `read`. -/
def MainLoopStops (stop : Call → Prop) (cs : Nat → Circumstances) (socket : Stream)
    (sr : SrInstance) : Prop :=
  ∃ n fuel call, stop call ∧
    (serveBy (drainExactly fuel) ((List.range n).map cs) socket sr).ended = some call

/-- The loop of `main` comes to its end. -/
def MainLoopEnds : (Nat → Circumstances) → Stream → SrInstance → Prop := MainLoopStops Call.Over

/-- A call of the loop reads its command behind the buffer. -/
def MainLoopOverruns : (Nat → Circumstances) → Stream → SrInstance → Prop :=
  MainLoopStops (· = .overrun)

/-- The length that the bytes start with. -/
def lengthWord (data : Bytes) : Int := (ntohl (load32 (data.take 4) 0)).toInt32.toInt

def Refused (data : Bytes) : Prop :=
  4 ≤ data.length ∧ (10000 < lengthWord data ∨ lengthWord data < 0)

/-- There are as many bytes as it says, but no room in them for the two words
of a message. -/
def Stunted (data : Bytes) : Prop :=
  4 ≤ data.length ∧ 0 ≤ lengthWord data ∧ lengthWord data < 8 ∧ lengthWord data ≤ data.length

/-- There are as many bytes as it says. -/
def Whole (data : Bytes) : Prop :=
  4 ≤ data.length ∧ 8 ≤ lengthWord data ∧ lengthWord data ≤ 10000 ∧ lengthWord data ≤ data.length

/-- The bytes decide how a call ends. -/
def Decided (data : Bytes) : Prop := Refused data ∨ Whole data

instance (data : Bytes) : Decidable (Decided data) :=
  inferInstanceAs (Decidable ((_ ∧ _) ∨ (_ ∧ _)))

instance (data : Bytes) : Decidable (Stunted data) :=
  inferInstanceAs (Decidable (_ ∧ _))

theorem lengthWord_append {msg : Message} (h : msg.Framed) (rest : Bytes) :
    lengthWord (msg.bytes ++ rest) = msg.len := by
  obtain ⟨len, hdecoded, hlen, -⟩ := h.word
  have hlong : 8 ≤ msg.bytes.length := h.1
  rw [lengthWord, List.take_append_of_le_length (by omega), hdecoded, hlen]

theorem whole_append {msg : Message} (h : msg.Framed) (rest : Bytes) :
    Whole (msg.bytes ++ rest) := by
  have hlong : 8 ≤ msg.len := h.1
  have hmax : msg.len ≤ 10000 := msg.length_le
  have hlen : msg.bytes.length = msg.len := rfl
  rw [Whole, lengthWord_append h, List.length_append]
  omega

theorem eq_of_append_eq {msg msg' : Message} (h : msg.Framed) (h' : msg'.Framed)
    {rest rest' : Bytes} (heq : msg.bytes ++ rest = msg'.bytes ++ rest') :
    msg = msg' ∧ rest = rest' := by
  have hlen : (msg.len : Int) = msg'.len := by
    rw [← lengthWord_append h rest, heq, lengthWord_append h']
  obtain ⟨hbytes, hrest⟩ := List.append_inj heq (Int.ofNat_inj.mp hlen)
  exact ⟨Message.ext_bytes hbytes, hrest⟩

/-- What a call finds of these bytes on a closed connection. -/
inductive Found (data : Bytes) (script : List ShortReads.Outcome) (fuel : Nat) : Arrival → Prop
  /-- There were not enough calls. -/
  | early (socket : Stream) (hfuel : fuel ≤ script.length) :
      Found data script fuel (.blocked socket)
  | refused (socket : Option Stream) (hrefused : Refused data) :
      Found data script fuel (.refused socket)
  | stunted (hstunted : Stunted data) : Found data script fuel .overrun
  | message {msg : Message} {rest : Bytes} {script' : List ShortReads.Outcome}
      (hdata : data = msg.bytes ++ rest) (hframed : msg.Framed) (_hscript : NoFailure script')
      (hle : script'.length ≤ script.length) : Found data script fuel (.message msg ⟨rest, script'⟩)
  /-- There are not enough bytes. -/
  | never (socket : Stream) (hundecided : ¬Decided data) (hlong : ¬Stunted data) :
      Found data script fuel (.blocked socket)

section Call

variable {data : Bytes} {script : List ShortReads.Outcome}

theorem found_arriveBody (fuel : Nat) (hfour : 4 ≤ data.length)
    {script' : List ShortReads.Outcome} (hno : NoFailure script')
    (hle : script'.length ≤ script.length) :
    Found data script fuel (arriveBody (drainExactly fuel)
      (ntohl (load32 (data.take 4) 0)).toInt32 ⟨data.drop 4, script'⟩) := by
  generalize hlen : (ntohl (load32 (data.take 4) 0)).toInt32 = len
  have hword : lengthWord data = len.toInt := congrArg Int32.toInt hlen
  have hzero : (0 : Int32).toInt = 0 := rfl
  have hfourInt : (4 : Int32).toInt = 4 := rfl
  have height : (8 : Int32).toInt = 8 := rfl
  have hmax : (10000 : Int32).toInt = 10000 := rfl
  have hdrop : (data.drop 4).length = data.length - 4 := List.length_drop
  rw [arriveBody]
  by_cases hrange : 10000 < len ∨ len < 0
  · rw [dif_pos hrange]
    simp only [Int32.lt_iff_toInt_lt, hmax, hzero] at hrange
    exact .refused _ ⟨hfour, hword ▸ hrange⟩
  · rw [dif_neg hrange]
    have hin := hrange
    simp only [Int32.lt_iff_toInt_lt, hmax, hzero] at hin
    by_cases hlow : len < 4
    · rw [if_pos hlow]
      simp only [Int32.lt_iff_toInt_lt, hfourInt] at hlow
      exact .stunted ⟨hfour, by omega⟩
    · rw [if_neg hlow]
      simp only [Int32.lt_iff_toInt_lt, hfourInt] at hlow
      by_cases henough : len.toInt ≤ data.length
      · rcases drainExactly_drains hno (show len.toInt.toNat - 4 ≤ (data.drop 4).length by omega)
          fuel with ⟨socket, hblocked, hfuel⟩ | ⟨script'', hno', hle', hdone⟩
        · rw [hblocked]
          exact .early socket (Nat.le_trans hfuel hle)
        · rw [hdone, List.length_nil, Nat.sub_zero, List.nil_append]
          dsimp only
          by_cases hsmall : len < 8
          · rw [if_pos hsmall]
            simp only [Int32.lt_iff_toInt_lt, height] at hsmall
            exact .stunted ⟨hfour, by omega⟩
          · -- the buffer is filled with the first bytes of the stream
            rw [if_neg hsmall]
            have hbody : ((data.drop 4).take (len.toInt.toNat - 4)).length = len.toInt.toNat - 4 :=
              List.length_take_of_le (by omega)
            obtain ⟨hbytes, hframed⟩ := framed_word (List.length_take_of_le hfour) hlen.symm hbody
              hrange hsmall
            refine .message ?_ hframed hno' (Nat.le_trans hle' hle)
            rw [hbytes, List.append_assoc, List.take_append_drop, List.take_append_drop]
      · obtain ⟨socket, hblocked⟩ := drainExactly_blocked hno
          (show (data.drop 4).length < len.toInt.toNat - 4 by omega) fuel
        rw [hblocked]
        refine .never socket ?_ ?_
        · rintro (⟨-, hbad⟩ | ⟨-, -, -, hlength⟩) <;> omega
        · rintro ⟨-, -, -, hlength⟩
          omega

/-- **What a call finds.** -/
theorem found_arrive (data : Bytes) (hscript : NoFailure script) (fuel : Nat) :
    Found data script fuel (arrive (drainExactly fuel) ⟨data, script⟩) := by
  rw [arrive]
  by_cases hfour : 4 ≤ data.length
  · rcases drainExactly_drains hscript hfour fuel with
      ⟨socket, hblocked, hfuel⟩ | ⟨script', hno, hle, hword⟩
    · rw [hblocked]
      exact .early socket hfuel
    · rw [hword, List.length_nil, Nat.sub_zero, List.nil_append]
      exact found_arriveBody fuel hfour hno hle
  · obtain ⟨socket, hblocked⟩ := drainExactly_blocked hscript (Nat.lt_of_not_le hfour) fuel
    rw [hblocked]
    refine .never socket ?_ fun hstunted => hfour hstunted.1
    rintro (hrefused | hwhole)
    · exact hfour hrefused.1
    · exact hfour hwhole.1

theorem Refused.not_stunted (h : Refused data) : ¬Stunted data := fun h' => by
  have := h.2
  have := h'.2
  omega

theorem Whole.not_refused (h : Whole data) : ¬Refused data := fun h' => by
  have := h.2
  have := h'.2
  omega

theorem Whole.not_stunted (h : Whole data) : ¬Stunted data := fun h' => by
  have := h.2
  have := h'.2
  omega

theorem Decided.not_stunted (h : Decided data) : ¬Stunted data :=
  h.elim Refused.not_stunted Whole.not_stunted

theorem Message.over_receive (msg : Message) (c : Circumstances) (expectedCmd : UInt32)
    (socket : Stream) (sr : SrInstance) : (msg.receive c expectedCmd socket sr).Over := by
  rw [receive]
  split
  · trivial
  · split <;> trivial

/-- **One call.** On a closed connection it ends exactly when the bytes that
are left decide how. -/
theorem returns_iff (hscript : NoFailure script) (c : Circumstances) (expectedCmd : UInt32)
    (sr : SrInstance) : Returns c expectedCmd ⟨data, script⟩ sr ↔ Decided data := by
  constructor
  · rintro ⟨fuel, hover⟩
    have hfound := found_arrive data hscript fuel
    rw [srReadFromServerExpectBy] at hover
    generalize arrive (drainExactly fuel) ⟨data, script⟩ = arrival at hfound hover
    cases hfound with
    | early | stunted | never => exact hover.elim
    | refused _ hrefused => exact .inl hrefused
    | message hdata hframed => exact .inr (hdata ▸ whole_append hframed _)
  · intro hdecided
    refine ⟨script.length + 1, ?_⟩
    have hfound := found_arrive data hscript (script.length + 1)
    rw [srReadFromServerExpectBy]
    generalize arrive (drainExactly (script.length + 1)) ⟨data, script⟩ = arrival at hfound ⊢
    cases hfound with
    | early _ hfuel => omega
    | refused => trivial
    | stunted hstunted => exact absurd hstunted hdecided.not_stunted
    | message => exact Message.over_receive ..
    | never _ hundecided => exact absurd hdecided hundecided

theorem overrun_of_stunted (hscript : NoFailure script) {fuel : Nat}
    (hfuel : script.length < fuel) (hstunted : Stunted data) (c : Circumstances)
    (expectedCmd : UInt32) (sr : SrInstance) :
    srReadFromServerExpectBy (drainExactly fuel) c expectedCmd ⟨data, script⟩ sr = .overrun := by
  have hfound := found_arrive data hscript fuel
  rw [srReadFromServerExpectBy]
  generalize arrive (drainExactly fuel) ⟨data, script⟩ = arrival at hfound ⊢
  cases hfound with
  | early _ hle => omega
  | refused _ hrefused => exact absurd hstunted hrefused.not_stunted
  | stunted => rfl
  | message hdata hframed => exact absurd hstunted (hdata ▸ whole_append hframed _).not_stunted
  | never _ _ hlong => exact absurd hstunted hlong

theorem overruns_iff (hscript : NoFailure script) (c : Circumstances) (expectedCmd : UInt32)
    (sr : SrInstance) : Overruns c expectedCmd ⟨data, script⟩ sr ↔ Stunted data := by
  constructor
  · rintro ⟨fuel, hoverrun⟩
    have hfound := found_arrive data hscript fuel
    rw [srReadFromServerExpectBy] at hoverrun
    generalize arrive (drainExactly fuel) ⟨data, script⟩ = arrival at hfound hoverrun
    cases hfound with
    | early | refused | never => cases hoverrun
    | stunted hstunted => exact hstunted
    | @message msg rest script' =>
        have hover := msg.over_receive c expectedCmd ⟨rest, script'⟩ sr
        rw [show msg.receive c expectedCmd ⟨rest, script'⟩ sr = .overrun from hoverrun] at hover
        exact hover.elim
  · exact fun hstunted => ⟨script.length + 1,
      overrun_of_stunted hscript (Nat.lt_succ_self _) hstunted c expectedCmd sr⟩

end Call

/-! ### The loop of `main` -/

/-- The message is the last one: dispatching it fails an assertion, or does not
return 1. -/
def Message.EndsLoop (msg : Message) (c : Circumstances) (sr : Config) : Prop :=
  msg.command = vnsClose ∨
  (msg.command = vnsPacket ∧ (msg.srArpReqNotForUs sr.ifList).1 = none) ∨
  (msg.command = vnsHwinfo ∧ ∀ ifList, srHandleHwinfo c.mem msg.hwEntries sr.ifList = some ifList →
    srVerifyRoutingTable { sr with ifList := ifList } ≠ 0) ∨
  (msg.command = vnsRtable ∧ c.rtableFile = false) ∨
  (msg.command = vnsAuthRequest ∧ c.authReply = false) ∨
  (msg.command = vnsAuthStatus ∧ load8 msg.bytes 8 = 0)

theorem Message.endsLoop_iff {msg : Message} {c : Circumstances} {sr : SrInstance} :
    msg.EndsLoop c sr.config ↔ ∀ sr', msg.dispatch c sr ≠ some (1, sr') := by
  unfold EndsLoop dispatch dispatchPacket
  generalize msg.command = command
  by_cases hpacket : command = vnsPacket
  · subst hpacket
    rcases (msg.srArpReqNotForUs sr.config.ifList).1 with _ | _ | _ <;>
      simp [vnsPacket, vnsClose, vnsHwinfo, vnsRtable, vnsAuthRequest, vnsAuthStatus]
  · rw [if_neg hpacket]
    by_cases hclose : command = vnsClose
    · simp [hclose]
    · rw [if_neg hclose]
      by_cases hbanner : command = vnsBanner
      · simp [hbanner, vnsPacket, vnsBanner, vnsClose, vnsHwinfo, vnsRtable, vnsAuthRequest,
          vnsAuthStatus]
      · rw [if_neg hbanner]
        by_cases hhwinfo : command = vnsHwinfo
        · subst hhwinfo
          rcases hrun : srHandleHwinfo c.mem msg.hwEntries sr.config.ifList with _ | ifList
          · simp
          · by_cases hverify : srVerifyRoutingTable { sr.config with ifList := ifList } = 0 <;>
              simp [hverify, vnsPacket, vnsClose, vnsHwinfo, vnsRtable, vnsAuthRequest,
                vnsAuthStatus]
        · -- the other handlers return what the file, the socket or a byte says
          rw [if_neg hhwinfo]
          by_cases hrtable : command = vnsRtable
          · subst hrtable
            cases c.rtableFile <;> simp [vnsPacket, vnsClose, vnsHwinfo, vnsRtable, vnsAuthRequest,
              vnsAuthStatus]
          · rw [if_neg hrtable]
            by_cases hrequest : command = vnsAuthRequest
            · subst hrequest
              cases c.authReply <;> simp [vnsPacket, vnsClose, vnsHwinfo, vnsRtable,
                vnsAuthRequest, vnsAuthStatus]
            · rw [if_neg hrequest]
              by_cases hstatus : command = vnsAuthStatus
              · by_cases hok : load8 msg.bytes 8 = 0 <;> simp_all
              · simp [hpacket, hclose, hhwinfo, hrtable, hrequest, hstatus]

/-- The bytes are complete messages, handled one after the other from the state
`sr` on, each with result 1, up to a place with the property. -/
inductive LeadsTo (P : Circumstances → Bytes → SrInstance → Prop) :
    (Nat → Circumstances) → Bytes → SrInstance → Prop
  | here {cs : Nat → Circumstances} {data : Bytes} {sr : SrInstance} (h : P (cs 0) data sr) :
      LeadsTo P cs data sr
  | next {cs : Nat → Circumstances} {msg : Message} {rest : Bytes} {sr sr' : SrInstance}
      (hframed : msg.Framed) (hdispatch : msg.dispatch (cs 0) sr = some (1, sr'))
      (hrest : LeadsTo P (fun i => cs (i + 1)) rest sr') : LeadsTo P cs (msg.bytes ++ rest) sr

/-- The next length is refused, or the next message ends the loop. -/
def EndsHere (c : Circumstances) (data : Bytes) (sr : SrInstance) : Prop :=
  Refused data ∨ ∃ (msg : Message) (rest : Bytes),
    data = msg.bytes ++ rest ∧ msg.Framed ∧ msg.EndsLoop c sr.config

/-- The bytes conclude the loop. -/
def Concludes : (Nat → Circumstances) → Bytes → SrInstance → Prop := LeadsTo EndsHere

/-- The bytes lead the loop to a length that leaves no room for the command. -/
def Derails : (Nat → Circumstances) → Bytes → SrInstance → Prop :=
  LeadsTo fun _ data _ => Stunted data

theorem map_range_succ {α : Type} (f : Nat → α) (n : Nat) :
    (List.range (n + 1)).map f = f 0 :: (List.range n).map fun i => f (i + 1) := by
  rw [List.range_succ_eq_map, List.map_cons, List.map_map]
  rfl

/-- The loop goes on behind the call. -/
def Call.GoesOn : Call → Prop
  | .dispatched _ ret _ _ => ret = 1
  | _ => False

theorem Message.receive_expected (msg : Message) (c : Circumstances) (socket : Stream)
    (sr : SrInstance) : msg.receive c 0 socket sr =
      match msg.dispatch c sr with
      | none => .aborted msg
      | some (ret, sr) => .dispatched msg ret socket sr := by
  have hexpected : ¬msg.Unexpected 0 := fun h => h.1 rfl
  exact if_neg hexpected

theorem Message.goesOn_receive_iff {msg : Message} {c : Circumstances} {socket : Stream}
    {sr : SrInstance} :
    (msg.receive c 0 socket sr).GoesOn ↔ ∃ sr', msg.dispatch c sr = some (1, sr') := by
  rw [receive_expected]
  rcases msg.dispatch c sr with _ | ⟨ret, sr'⟩
  · exact iff_of_false not_false (by simp)
  · constructor
    · rintro rfl
      exact ⟨sr', rfl⟩
    · rintro ⟨sr'', heq⟩
      exact (Prod.mk.inj (Option.some.inj heq)).1

section Loop

variable {read : Nat → Stream → ReadResult} {socket socket' : Stream} {c : Circumstances}
  {sr sr' : SrInstance} {msg : Message}

theorem ended_serveBy_of_message (harrive : arrive read socket = .message msg socket')
    (hdispatch : msg.dispatch c sr = some (1, sr')) (cs : List Circumstances) :
    (serveBy read (c :: cs) socket sr).ended = (serveBy read cs socket' sr').ended := by
  have hcall := srReadFromServerExpectBy_of_message harrive c 0 sr
  rw [Message.receive_expected, hdispatch] at hcall
  rw [serveBy_of_dispatched hcall]

/-- A call that the loop does not go on behind is the last one. -/
theorem ended_serveBy_of_not_goesOn
    (h : ¬(srReadFromServerExpectBy read c 0 socket sr).GoesOn) (cs : List Circumstances) :
    (serveBy read (c :: cs) socket sr).ended =
      some (srReadFromServerExpectBy read c 0 socket sr) := by
  rw [serveBy]
  cases hcall : srReadFromServerExpectBy read c 0 socket sr with
  | dispatched msg ret socket' sr' =>
      rw [hcall] at h
      have hret : ret ≠ 1 := h
      simp only [if_neg hret]
  | refused | blocked | aborted | overrun => rfl

/-- The loop goes on behind messages only. -/
theorem exists_arrive_of_goesOn
    (h : (srReadFromServerExpectBy read c 0 socket sr).GoesOn) :
    ∃ msg socket' sr', arrive read socket = .message msg socket' ∧
      msg.dispatch c sr = some (1, sr') := by
  rw [srReadFromServerExpectBy] at h
  cases harrive : arrive read socket with
  | message msg socket' =>
      rw [harrive] at h
      obtain ⟨sr', hdispatch⟩ := Message.goesOn_receive_iff.mp h
      exact ⟨msg, socket', sr', rfl, hdispatch⟩
  | refused | blocked | overrun =>
      rw [harrive] at h
      exact h.elim

end Loop

/-- With calls enough, a message at the front of the stream is found. -/
theorem exists_arrive_message {msg : Message} (hframed : msg.Framed) (rest : Bytes)
    {script : List ShortReads.Outcome} (hscript : NoFailure script) {fuel : Nat}
    (hfuel : script.length < fuel) : ∃ script', NoFailure script' ∧
      script'.length ≤ script.length ∧
      arrive (drainExactly fuel) ⟨msg.bytes ++ rest, script⟩ = .message msg ⟨rest, script'⟩ := by
  have hwhole := whole_append hframed rest
  have hfound := found_arrive (msg.bytes ++ rest) hscript fuel
  generalize arrive (drainExactly fuel) ⟨msg.bytes ++ rest, script⟩ = arrival at hfound ⊢
  cases hfound with
  | early _ hle => omega
  | refused _ hrefused => exact absurd hrefused hwhole.not_refused
  | stunted hstunted => exact absurd hstunted hwhole.not_stunted
  | @message msg' rest' script' hdata hframed' hno hle =>
      obtain ⟨rfl, rfl⟩ := eq_of_append_eq hframed hframed' hdata
      exact ⟨script', hno, hle, rfl⟩
  | never _ hundecided => exact absurd (.inr hwhole) hundecided

section Stops

variable {stop : Call → Prop} {P : Circumstances → Bytes → SrInstance → Prop}
  {script : List ShortReads.Outcome} {cs : Nat → Circumstances} {data : Bytes} {sr : SrInstance}

/-- With calls enough, the loop gets through the messages to the call it stops
at. -/
theorem mainLoopStops_of_leadsTo
    (hstops : ∀ c data sr script fuel, NoFailure script → script.length < fuel → P c data sr →
      let call := srReadFromServerExpectBy (drainExactly fuel) c 0 ⟨data, script⟩ sr
      stop call ∧ ¬call.GoesOn)
    (hscript : NoFailure script) (h : LeadsTo P cs data sr) :
    MainLoopStops stop cs ⟨data, script⟩ sr := by
  have hloop : ∀ fuel, script.length < fuel → ∃ n call, stop call ∧
      (serveBy (drainExactly fuel) ((List.range n).map cs) ⟨data, script⟩ sr).ended =
        some call := by
    intro fuel hfuel
    induction h generalizing script with
    | @here cs data sr h =>
        obtain ⟨hstop, hlast⟩ := hstops _ _ _ _ _ hscript hfuel h
        refine ⟨1, _, hstop, ?_⟩
        rw [map_range_succ]
        exact ended_serveBy_of_not_goesOn hlast _
    | next hframed hdispatch _ ih =>
        obtain ⟨script', hno, hle, harrive⟩ := exists_arrive_message hframed _ hscript hfuel
        obtain ⟨n, call, hstop, hended⟩ := ih hno (Nat.lt_of_le_of_lt hle hfuel)
        refine ⟨n + 1, call, hstop, ?_⟩
        rw [map_range_succ]
        exact (ended_serveBy_of_message harrive hdispatch _).trans hended
  obtain ⟨n, call, hstop, hended⟩ := hloop _ (Nat.lt_succ_self script.length)
  exact ⟨n, script.length + 1, call, hstop, hended⟩

/-- In front of the call that the loop stops at there are messages only. -/
theorem leadsTo_of_mainLoopStops
    (hplace : ∀ c data sr script fuel, NoFailure script →
      let call := srReadFromServerExpectBy (drainExactly fuel) c 0 ⟨data, script⟩ sr
      stop call → ¬call.GoesOn → P c data sr)
    (hscript : NoFailure script) (h : MainLoopStops stop cs ⟨data, script⟩ sr) :
    LeadsTo P cs data sr := by
  obtain ⟨n, fuel, call, hstop, hended⟩ := h
  induction n generalizing cs data sr script with
  | zero => cases hended
  | succ n ih =>
      rw [map_range_succ] at hended
      by_cases hgoes : (srReadFromServerExpectBy (drainExactly fuel) (cs 0) 0 ⟨data, script⟩
          sr).GoesOn
      · obtain ⟨msg, socket', sr', harrive, hdispatch⟩ := exists_arrive_of_goesOn hgoes
        have hfound := found_arrive data hscript fuel
        rw [harrive] at hfound
        cases hfound with
        | message hdata hframed hno =>
            subst hdata
            rw [ended_serveBy_of_message harrive hdispatch] at hended
            exact .next hframed hdispatch (ih hno hended)
      · rw [ended_serveBy_of_not_goesOn hgoes] at hended
        obtain rfl := Option.some.inj hended
        exact .here (hplace _ _ _ _ _ hscript hstop hgoes)

theorem mainLoopEnds_iff (hscript : NoFailure script) :
    MainLoopEnds cs ⟨data, script⟩ sr ↔ Concludes cs data sr := by
  refine ⟨leadsTo_of_mainLoopStops ?_ hscript, mainLoopStops_of_leadsTo ?_ hscript⟩
  · intro c data sr script fuel hscript call hover hlast
    have hfound := found_arrive data hscript fuel
    simp only [call, srReadFromServerExpectBy] at hover hlast
    generalize arrive (drainExactly fuel) ⟨data, script⟩ = arrival at hfound hover hlast
    cases hfound with
    | early | stunted | never => exact hover.elim
    | refused _ hrefused => exact .inl hrefused
    | @message msg rest _ hdata hframed =>
        refine .inr ⟨msg, rest, hdata, hframed, Message.endsLoop_iff.mpr fun sr' hdispatch => ?_⟩
        exact hlast (Message.goesOn_receive_iff.mpr ⟨sr', hdispatch⟩)
  · rintro c data sr script fuel hscript hfuel (hrefused | ⟨msg, rest, rfl, hframed, hends⟩) call
    · have hfound := found_arrive data hscript fuel
      simp only [call, srReadFromServerExpectBy]
      generalize arrive (drainExactly fuel) ⟨data, script⟩ = arrival at hfound ⊢
      cases hfound with
      | early _ hle => omega
      | refused => exact ⟨trivial, not_false⟩
      | stunted hstunted => exact absurd hstunted hrefused.not_stunted
      | message hdata hframed =>
          exact absurd hrefused (hdata ▸ whole_append hframed _).not_refused
      | never _ hundecided => exact absurd (.inl hrefused) hundecided
    · obtain ⟨script', -, -, harrive⟩ := exists_arrive_message hframed rest hscript hfuel
      have hcall : call = msg.receive c 0 ⟨rest, script'⟩ sr :=
        srReadFromServerExpectBy_of_message harrive ..
      rw [hcall]
      refine ⟨msg.over_receive .., fun hgoes => ?_⟩
      obtain ⟨sr', hdispatch⟩ := Message.goesOn_receive_iff.mp hgoes
      exact Message.endsLoop_iff.mp hends sr' hdispatch

theorem mainLoopOverruns_iff (hscript : NoFailure script) :
    MainLoopOverruns cs ⟨data, script⟩ sr ↔ Derails cs data sr := by
  refine ⟨leadsTo_of_mainLoopStops ?_ hscript, mainLoopStops_of_leadsTo ?_ hscript⟩
  · intro c data sr script fuel hscript call hoverrun _
    exact (overruns_iff hscript c 0 sr).mp ⟨fuel, hoverrun⟩
  · intro c data sr script fuel hscript hfuel hstunted call
    have hoverrun : call = .overrun := overrun_of_stunted hscript hfuel hstunted c 0 sr
    rw [hoverrun]
    exact ⟨rfl, not_false⟩

end Stops

def emptyClose : Message where
  bytes := [0, 0, 0, 9, 0, 0, 0, 2, 0]
  length_le := by decide

end SrRouter
