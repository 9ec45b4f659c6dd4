import Mathlib.Data.List.Basic
import Mathlib.Tactic.Common

/-!
Files of records that say themselves where they end.

A reader takes one record off the front of a file, or none if what is there is
not a whole record. `scan` takes as many as it can and hands out what is left.
A file may be cut anywhere, because a program ended before all of it was
written: then the records that are complete are found, and no others.
-/

namespace Records

variable {ρ β : Type}

/-- Take records off the front, for at most `fuel` of them: the records and what
is left. -/
def scan (decode : List β → Option (ρ × List β)) : Nat → List β → List ρ × List β
  | 0, file => ([], file)
  | fuel + 1, file =>
    match decode file with
    | none => ([], file)
    | some (r, rest) => (r :: (scan decode fuel rest).1, (scan decode fuel rest).2)

/-- The records that are good are read back, whatever follows them, and nothing
less than a record is read as one. -/
structure Codec (encode : ρ → List β) (decode : List β → Option (ρ × List β))
    (Good : ρ → Prop) : Prop where
  empty : decode [] = none
  roundTrip : ∀ r, Good r → ∀ rest, decode (encode r ++ rest) = some (r, rest)
  torn : ∀ r, Good r → ∀ front, front <+: encode r → front ≠ encode r → decode front = none

variable {encode : ρ → List β} {decode : List β → Option (ρ × List β)} {Good : ρ → Prop}

theorem Codec.length_pos (h : Codec encode decode Good) {r : ρ} (hr : Good r) :
    0 < (encode r).length := by
  refine List.length_pos_iff.mpr fun hnil => ?_
  have hread := h.roundTrip r hr []
  rw [hnil, List.append_nil, h.empty] at hread
  cases hread

theorem Codec.exists_fuel (h : Codec encode decode Good) {r : ρ} (hr : Good r) {rest : List β}
    {fuel : Nat} (hfuel : (encode r ++ rest).length ≤ fuel) :
    ∃ fuel', fuel = fuel' + 1 ∧ rest.length ≤ fuel' := by
  have hpos := h.length_pos hr
  rw [List.length_append] at hfuel
  exact ⟨fuel - 1, by omega, by omega⟩

/-- **A file that was cut.** What is left of a file of records gives the first
so many of them, and less than the next one is left over. -/
theorem Codec.scan_prefix (h : Codec encode decode Good) {rs : List ρ} (hrs : ∀ r ∈ rs, Good r)
    {file : List β} (hfile : file <+: rs.flatMap encode) {fuel : Nat}
    (hfuel : file.length ≤ fuel) :
    ∃ k tail, scan decode fuel file = (rs.take k, tail) ∧
      file = (rs.take k).flatMap encode ++ tail ∧ k ≤ rs.length ∧
      ∀ r ∈ (rs.drop k).head?, tail.length < (encode r).length := by
  induction rs generalizing file fuel with
  | nil =>
      rw [List.flatMap_nil, List.prefix_nil] at hfile
      subst hfile
      refine ⟨0, [], ?_, rfl, Nat.le_refl 0, by simp⟩
      cases fuel with
      | zero => rfl
      | succ fuel => rw [scan, h.empty, List.take_nil]
  | cons r rs ih =>
      obtain ⟨hr, hrest⟩ := List.forall_mem_cons.mp hrs
      rw [List.flatMap_cons] at hfile
      by_cases hwhole : encode r <+: file
      · -- the first record is whole
        obtain ⟨rest, rfl⟩ := hwhole
        obtain ⟨fuel, rfl, hfuel'⟩ := h.exists_fuel hr hfuel
        obtain ⟨k, tail, hscan, hsplit, hk, hless⟩ :=
          ih hrest ((List.prefix_append_right_inj _).mp hfile) hfuel'
        refine ⟨k + 1, tail, ?_, ?_, Nat.succ_le_succ hk, hless⟩
        · rw [scan, h.roundTrip r hr rest]
          simp only [hscan, List.take_succ_cons]
        · rw [List.take_succ_cons, List.flatMap_cons, List.append_assoc, ← hsplit]
      · -- it was cut
        have hfront : file <+: encode r :=
          (List.prefix_or_prefix_of_prefix hfile (List.prefix_append _ _)).resolve_right hwhole
        have hne : file ≠ encode r := fun heq => hwhole (heq ▸ List.prefix_rfl)
        refine ⟨0, file, ?_, rfl, Nat.zero_le _, ?_⟩
        · cases fuel with
          | zero => rfl
          | succ fuel =>
              rw [scan, h.torn r hr file hfront hne]
              rfl
        · intro r' hr'
          obtain rfl : r = r' := by simpa using hr'
          refine Nat.lt_of_le_of_ne hfront.length_le fun heq => hne ?_
          exact hfront.eq_of_length heq

theorem Codec.scan_flatMap (h : Codec encode decode Good) {rs : List ρ} (hrs : ∀ r ∈ rs, Good r)
    {fuel : Nat} (hfuel : (rs.flatMap encode).length ≤ fuel) :
    scan decode fuel (rs.flatMap encode) = (rs, []) := by
  induction rs generalizing fuel with
  | nil =>
      cases fuel with
      | zero => rfl
      | succ fuel => rw [scan, List.flatMap_nil, h.empty]
  | cons r rs ih =>
      obtain ⟨hr, hrest⟩ := List.forall_mem_cons.mp hrs
      rw [List.flatMap_cons] at hfuel ⊢
      obtain ⟨fuel, rfl, hfuel'⟩ := h.exists_fuel hr hfuel
      rw [scan, h.roundTrip r hr]
      simp only [ih hrest hfuel']

end Records
