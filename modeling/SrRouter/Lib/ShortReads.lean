import SrRouter.Lib.ByteBuffer

/-!
Reading an exact number of bytes from a stream that gives them in pieces.

A call that reads from a stream may be interrupted, may fail, or may deliver
fewer bytes than it asked for. What the calls find is a script, one outcome
for each call; a call blocks when the script has ended, or when there is
nothing left to deliver. `readExactly` is the usual pair of nested loops: an
inner one that repeats an interrupted call and an outer one that repeats
short reads.

The point of the module is `readExactly_spec`. However the script cuts the
stream up, the loops return exactly the next bytes of the stream and leave
exactly the rest, unless the script ends first.
-/

namespace ShortReads

open ByteBuffer

inductive Outcome
  | interrupted
  | failed
  /-- There are this many bytes to be had, or fewer at the end of the stream. -/
  | upTo (n : Nat)
  deriving DecidableEq

/-- A stream: the bytes still to come, and what the calls will find. -/
structure Stream where
  pending : Bytes
  script : List Outcome
  deriving DecidableEq

inductive ReadResult
  | done (bytes : Bytes) (stream : Stream)
  | failed (stream : Stream)
  | blocked (stream : Stream)

/-- The loops, with `got` read so far and more missing. The inner loop repeats
an interrupted call; after every other call the outer loop asks whether
something is still missing. -/
def readLoop (count : Nat) : List Outcome → Bytes → Bytes → ReadResult
  | [], pending, _ => .blocked ⟨pending, []⟩
  | .interrupted :: script, pending, got => readLoop count script pending got
  | .failed :: script, pending, _ => .failed ⟨pending, script⟩
  | .upTo n :: script, pending, got =>
    if pending = [] then .blocked ⟨pending, .upTo n :: script⟩
    else
      -- no more than is asked for
      let n := min n (count - got.length)
      let got := got ++ pending.take n
      if got.length < count then readLoop count script (pending.drop n) got
      else .done got ⟨pending.drop n, script⟩

def readExactly (count : Nat) (stream : Stream) : ReadResult :=
  if 0 < count then readLoop count stream.script stream.pending [] else .done [] stream

def Outcome.Delivers : Outcome → Bool
  | .upTo n => 0 < n
  | _ => false

/-- A script of interruptions and deliveries only. -/
def NoFailure (script : List Outcome) : Prop := ∀ o ∈ script, o ≠ .failed

/-- The number of calls that bring the reader on. -/
def deliveries (script : List Outcome) : Nat := script.countP Outcome.Delivers

theorem deliveries_upTo_le (n : Nat) (script : List Outcome) :
    deliveries (.upTo n :: script) ≤ deliveries script + n := by
  simp only [deliveries, List.countP_cons, Outcome.Delivers, decide_eq_true_eq]
  split <;> omega

/-- How reading `bytes` off the front of a stream can end, given how many
deliveries there were to come: the bytes are all read, with at most one
delivery for each; or the script has ended, with fewer deliveries than bytes,
and the last of the bytes were never delivered. -/
def Reads (bytes got rest : Bytes) (deliveriesBefore : Nat) (r : ReadResult) : Prop :=
  (∃ script, r = .done (got ++ bytes) ⟨rest, script⟩ ∧ NoFailure script ∧
    deliveriesBefore ≤ deliveries script + bytes.length) ∨
  (∃ taken missing, bytes = taken ++ missing ∧ missing ≠ [] ∧
    r = .blocked ⟨missing ++ rest, []⟩ ∧ deliveriesBefore < bytes.length)

theorem readLoop_spec {script : List Outcome} (hscript : NoFailure script) {bytes : Bytes}
    (rest : Bytes) (hne : bytes ≠ []) (got : Bytes) :
    Reads bytes got rest (deliveries script)
      (readLoop (got.length + bytes.length) script (bytes ++ rest) got) := by
  induction script generalizing bytes got with
  | nil =>
      exact .inr ⟨[], bytes, rfl, hne, rfl, List.length_pos_iff.mpr hne⟩
  | cons o script ih =>
      obtain ⟨ho, hrest⟩ := List.forall_mem_cons.mp hscript
      cases o with
      | interrupted =>
          rw [deliveries, List.countP_cons_of_neg (by simp [Outcome.Delivers])]
          exact ih hrest hne got
      | failed => exact absurd rfl ho
      | upTo n =>
          have hpending : bytes ++ rest ≠ [] := by simp [hne]
          rw [readLoop, if_neg hpending, Nat.add_sub_cancel_left]
          by_cases hshort : n < bytes.length
          · -- a short read: the loop goes on with the other bytes
            have hmin : min n bytes.length = n := Nat.min_eq_left (Nat.le_of_lt hshort)
            have htake : (bytes ++ rest).take n = bytes.take n :=
              List.take_append_of_le_length (Nat.le_of_lt hshort)
            have hdrop : (bytes ++ rest).drop n = bytes.drop n ++ rest :=
              List.drop_append_of_le_length (Nat.le_of_lt hshort)
            have hgot : (got ++ bytes.take n).length = got.length + n := by
              rw [List.length_append, List.length_take, hmin]
            have hcount : got.length + bytes.length =
                (got ++ bytes.take n).length + (bytes.drop n).length := by
              rw [hgot, List.length_drop]
              omega
            have hle := deliveries_upTo_le n script
            have hdropLen : (bytes.drop n).length = bytes.length - n := List.length_drop
            have hgoOn : (got ++ bytes.take n).length < got.length + bytes.length := by omega
            have hne' : bytes.drop n ≠ [] := List.ne_nil_of_length_pos (by omega)
            have hloop := ih hrest hne' (got ++ bytes.take n)
            rw [← hcount] at hloop
            simp only [hmin, htake, hdrop]
            rw [if_pos hgoOn]
            rcases hloop with
              ⟨script', hdone, hno, hdel⟩ | ⟨taken, missing, htaken, hmissing, hblocked, hdel⟩
            · refine .inl ⟨script', ?_, hno, by omega⟩
              rw [hdone, List.append_assoc, List.take_append_drop]
            · refine .inr ⟨bytes.take n ++ taken, missing, ?_, hmissing, hblocked, by omega⟩
              rw [List.append_assoc, ← htaken, List.take_append_drop]
          · -- the call brings all that was missing
            have hmin : min n bytes.length = bytes.length := Nat.min_eq_right (by omega)
            have hpos : 0 < bytes.length := List.length_pos_iff.mpr hne
            simp only [hmin, List.take_left, List.drop_left]
            rw [if_neg (by rw [List.length_append]; omega)]
            refine .inl ⟨script, rfl, hrest, ?_⟩
            simp only [deliveries, List.countP_cons]
            split <;> omega

/-- **Exact reads.** The bytes at the front of the stream are read, whatever
pieces they come in, and the rest of the stream is left; or the script ends
before the last of them. -/
theorem readExactly_spec {script : List Outcome} (hscript : NoFailure script) {bytes : Bytes}
    (rest : Bytes) (hne : bytes ≠ []) :
    Reads bytes [] rest (deliveries script)
      (readExactly bytes.length ⟨bytes ++ rest, script⟩) := by
  have hloop := readLoop_spec hscript rest hne []
  rw [List.length_nil, Nat.zero_add] at hloop
  rw [readExactly, if_pos (List.length_pos_iff.mpr hne)]
  exact hloop

theorem readLoop_done {count : Nat} {script : List Outcome} {pending got bytes : Bytes}
    {stream : Stream} (h : readLoop count script pending got = .done bytes stream)
    (hgot : got.length ≤ count) :
    bytes.length = count ∧ bytes ++ stream.pending = got ++ pending := by
  induction script generalizing pending got with
  | nil => cases h
  | cons o script ih =>
      cases o with
      | interrupted => exact ih h hgot
      | failed => cases h
      | upTo n =>
          rw [readLoop] at h
          split at h
          · cases h
          · have hle : (got ++ pending.take (min n (count - got.length))).length ≤ count := by
              rw [List.length_append, List.length_take]
              omega
            dsimp only at h
            split at h
            · obtain ⟨hlen, hbytes⟩ := ih h hle
              exact ⟨hlen, by rw [hbytes, List.append_assoc, List.take_append_drop]⟩
            · next hfull =>
                cases h
                exact ⟨by omega, by rw [List.append_assoc, List.take_append_drop]⟩

/-- What is read comes off the front of the stream. -/
theorem readExactly_done {count : Nat} {stream stream' : Stream} {bytes : Bytes}
    (h : readExactly count stream = .done bytes stream') :
    bytes.length = count ∧ stream.pending = bytes ++ stream'.pending := by
  rw [readExactly] at h
  split at h
  · obtain ⟨hlen, hbytes⟩ := readLoop_done h (Nat.zero_le _)
    exact ⟨hlen, hbytes.symm⟩
  · next hzero =>
      cases h
      exact ⟨by rw [List.length_nil]; omega, rfl⟩

/-! ### A stream whose other end is closed

Now no call blocks. When the script has ended the calls bring what they ask
for as far as the stream goes, and behind its last byte they bring 0 bytes,
again and again. The loops take that for a short read. -/

/-- The loops on such a stream, for at most `fuel` calls; `blocked` says that
they would go on. -/
def drainLoop (count : Nat) : Nat → List Outcome → Bytes → Bytes → ReadResult
  | 0, script, pending, _ => .blocked ⟨pending, script⟩
  | fuel + 1, .interrupted :: script, pending, got => drainLoop count fuel script pending got
  | _ + 1, .failed :: script, pending, _ => .failed ⟨pending, script⟩
  | fuel + 1, .upTo n :: script, pending, got =>
    let n := min n (count - got.length)
    let got := got ++ pending.take n
    if got.length < count then drainLoop count fuel script (pending.drop n) got
    else .done got ⟨pending.drop n, script⟩
  | fuel + 1, [], pending, got =>
    let n := count - got.length
    let got := got ++ pending.take n
    if got.length < count then drainLoop count fuel [] (pending.drop n) got
    else .done got ⟨pending.drop n, []⟩

/-- Read `count` bytes with at most `fuel` calls. -/
def drainExactly (fuel count : Nat) (stream : Stream) : ReadResult :=
  if 0 < count then drainLoop count fuel stream.script stream.pending [] else .done [] stream

/-- How the loops can end where the stream holds the bytes that are missing:
there were not enough calls, or the bytes are read and the rest is left. -/
def Drains (count : Nat) (script : List Outcome) (pending got : Bytes) (fuel : Nat)
    (r : ReadResult) : Prop :=
  (∃ stream, r = .blocked stream ∧ fuel ≤ script.length) ∨
  (∃ script', NoFailure script' ∧ script'.length ≤ script.length ∧
    r = .done (got ++ pending.take (count - got.length))
      ⟨pending.drop (count - got.length), script'⟩)

/-- **Progress.** One call more than the script has is enough. -/
theorem drainLoop_drains {count : Nat} {script : List Outcome} (hscript : NoFailure script)
    {pending got : Bytes} (hmissing : got.length < count)
    (henough : count ≤ got.length + pending.length) (fuel : Nat) :
    Drains count script pending got fuel (drainLoop count fuel script pending got) := by
  induction fuel generalizing script pending got with
  | zero => exact .inl ⟨_, rfl, Nat.zero_le _⟩
  | succ fuel ih =>
      have hall : (got ++ pending.take (count - got.length)).length = count := by
        rw [List.length_append, List.length_take]
        omega
      cases script with
      | nil =>
          rw [drainLoop, if_neg (Nat.not_lt.mpr (Nat.le_of_eq hall.symm))]
          exact .inr ⟨[], hscript, Nat.le_refl _, rfl⟩
      | cons o script =>
          obtain ⟨ho, hrest⟩ := List.forall_mem_cons.mp hscript
          cases o with
          | interrupted =>
              rcases ih hrest hmissing henough with
                ⟨stream, hblocked, hfuel⟩ | ⟨script', hno, hle, hdone⟩
              · exact .inl ⟨stream, hblocked, Nat.succ_le_succ hfuel⟩
              · exact .inr ⟨script', hno, Nat.le_succ_of_le hle, hdone⟩
          | failed => exact absurd rfl ho
          | upTo n =>
              rw [drainLoop]
              by_cases hshort : n < count - got.length
              · -- the loop goes on with the bytes behind these
                have hmin : min n (count - got.length) = n := Nat.min_eq_left (Nat.le_of_lt hshort)
                have hgot : (got ++ pending.take n).length = got.length + n := by
                  rw [List.length_append, List.length_take]
                  omega
                have hdrop : (pending.drop n).length = pending.length - n := List.length_drop
                have hmissing' : (got ++ pending.take n).length < count := by omega
                have henough' :
                    count ≤ (got ++ pending.take n).length + (pending.drop n).length := by
                  omega
                have hsplit : n + (count - (got.length + n)) = count - got.length := by omega
                simp only [hmin]
                rw [if_pos hmissing']
                rcases ih hrest hmissing' henough' with
                  ⟨stream, hblocked, hfuel⟩ | ⟨script', hno, hle, hdone⟩
                · exact .inl ⟨stream, hblocked, Nat.succ_le_succ hfuel⟩
                · refine .inr ⟨script', hno, Nat.le_succ_of_le hle, ?_⟩
                  rw [hdone, hgot, List.append_assoc, List.drop_drop, ← List.take_add, hsplit]
              · have hmin : min n (count - got.length) = count - got.length :=
                  Nat.min_eq_right (Nat.le_of_not_lt hshort)
                simp only [hmin]
                rw [if_neg (Nat.not_lt.mpr (Nat.le_of_eq hall.symm))]
                exact .inr ⟨script, hrest, Nat.le_succ _, rfl⟩

/-- **No progress.** If it does not, no number of calls is. -/
theorem drainLoop_blocked {count : Nat} {script : List Outcome} (hscript : NoFailure script)
    {pending got : Bytes} (hshort : got.length + pending.length < count) (fuel : Nat) :
    ∃ stream, drainLoop count fuel script pending got = .blocked stream := by
  induction fuel generalizing script pending got with
  | zero => exact ⟨_, rfl⟩
  | succ fuel ih =>
      -- whatever a call brings, as many bytes as before are missing
      have hcall (n : Nat) : (got ++ pending.take n).length + (pending.drop n).length < count := by
        rw [List.length_append, List.length_take, List.length_drop]
        omega
      have hgot (n : Nat) : (got ++ pending.take n).length < count :=
        Nat.lt_of_le_of_lt (Nat.le_add_right _ _) (hcall n)
      cases script with
      | nil =>
          rw [drainLoop, if_pos (hgot _)]
          exact ih hscript (hcall _)
      | cons o script =>
          obtain ⟨ho, hrest⟩ := List.forall_mem_cons.mp hscript
          cases o with
          | interrupted => exact ih hrest hshort
          | failed => exact absurd rfl ho
          | upTo n =>
              rw [drainLoop, if_pos (hgot _)]
              exact ih hrest (hcall _)

theorem drainExactly_drains {script : List Outcome} (hscript : NoFailure script) {count : Nat}
    {pending : Bytes} (henough : count ≤ pending.length) (fuel : Nat) :
    Drains count script pending [] fuel (drainExactly fuel count ⟨pending, script⟩) := by
  rw [drainExactly]
  split
  · next hpos =>
      have hmissing : ([] : Bytes).length < count := hpos
      exact drainLoop_drains hscript hmissing (by rwa [List.length_nil, Nat.zero_add]) fuel
  · next hzero =>
      obtain rfl : count = 0 := by omega
      exact .inr ⟨script, hscript, Nat.le_refl _, rfl⟩

theorem drainExactly_blocked {script : List Outcome} (hscript : NoFailure script) {count : Nat}
    {pending : Bytes} (hshort : pending.length < count) (fuel : Nat) :
    ∃ stream, drainExactly fuel count ⟨pending, script⟩ = .blocked stream := by
  rw [drainExactly, if_pos (Nat.zero_lt_of_lt hshort)]
  exact drainLoop_blocked hscript (by rwa [List.length_nil, Nat.zero_add]) fuel

end ShortReads
