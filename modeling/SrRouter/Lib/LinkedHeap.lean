import Mathlib.Data.List.Nodup
import Mathlib.Logic.Function.Basic
import Mathlib.Tactic.Common

/-!
Lists that are linked in a heap.

A heap says which records are allocated, and a record holds a value and the
pointer to the next one. `Segment` is the relation between a heap and the
records from one pointer up to another; the functions are what C does with such
a list, and have no result where they would go through a pointer to a record
that is not allocated.
-/

namespace LinkedHeap

variable {κ ν : Type}

structure Cell (κ ν : Type) where
  value : ν
  next : Option κ

/-- The records that are allocated. -/
abbrev Heap (κ ν : Type) := κ → Option (Cell κ ν)

/-- From the first pointer up to the second one the heap links these records. -/
def Segment (h : Heap κ ν) : Option κ → List (κ × ν) → Option κ → Prop
  | p, [], q => p = q
  | p, r :: rs, q => p = some r.1 ∧ ∃ next, h r.1 = some ⟨r.2, next⟩ ∧ Segment h next rs q

namespace Segment

variable {h : Heap κ ν} {p q : Option κ} {rs rs' : List (κ × ν)}

theorem append_iff :
    Segment h p (rs ++ rs') q ↔ ∃ m, Segment h p rs m ∧ Segment h m rs' q := by
  induction rs generalizing p with
  | nil => exact ⟨fun hseg => ⟨p, rfl, hseg⟩, fun ⟨m, hm, hseg⟩ => hm ▸ hseg⟩
  | cons r rs ih =>
      constructor
      · rintro ⟨hp, next, hcell, hseg⟩
        obtain ⟨m, hfront, hbehind⟩ := ih.mp hseg
        exact ⟨m, ⟨hp, next, hcell, hfront⟩, hbehind⟩
      · rintro ⟨m, ⟨hp, next, hcell, hfront⟩, hbehind⟩
        exact ⟨hp, next, hcell, ih.mpr ⟨m, hfront, hbehind⟩⟩

theorem congr {h' : Heap κ ν} (hseg : Segment h p rs q)
    (hsame : ∀ r ∈ rs, h' r.1 = h r.1) : Segment h' p rs q := by
  induction rs generalizing p with
  | nil => exact hseg
  | cons r rs ih =>
      obtain ⟨hp, next, hcell, hrest⟩ := hseg
      obtain ⟨hr, hrs⟩ := List.forall_mem_cons.mp hsame
      exact ⟨hp, next, hr.trans hcell, ih hrest hrs⟩

theorem exists_next (hseg : Segment h p rs q) {r : κ × ν} (hr : r ∈ rs) :
    ∃ next, h r.1 = some ⟨r.2, next⟩ := by
  induction rs generalizing p with
  | nil => cases hr
  | cons r' rs ih =>
      obtain ⟨-, next, hcell, hrest⟩ := hseg
      obtain rfl | hmem := List.mem_cons.mp hr
      · exact ⟨next, hcell⟩
      · exact ih hrest hmem

theorem head_eq (hseg : Segment h p rs none) : p = rs.head?.map Prod.fst := by
  cases rs with
  | nil => exact hseg
  | cons r rs => exact hseg.1

theorem next_eq {r : κ × ν} (hseg : Segment h p (rs ++ r :: rs') none) :
    h r.1 = some ⟨r.2, rs'.head?.map Prod.fst⟩ := by
  obtain ⟨m, -, -, next, hcell, hbehind⟩ := append_iff.mp hseg
  rw [hcell, hbehind.head_eq]

section Writes

variable [DecidableEq κ]

theorem update_of_not_mem (hseg : Segment h p rs q) {k : κ} (hk : k ∉ rs.map Prod.fst)
    (c : Option (Cell κ ν)) : Segment (Function.update h k c) p rs q :=
  hseg.congr fun r hr => Function.update_of_ne
    (fun heq : r.1 = k => hk (heq ▸ List.mem_map_of_mem hr)) ..

theorem push (hseg : Segment h p rs q) {k : κ} (hk : k ∉ rs.map Prod.fst) (v : ν) :
    Segment (Function.update h k (some ⟨v, p⟩)) (some k) ((k, v) :: rs) q :=
  ⟨rfl, p, Function.update_self .., hseg.update_of_not_mem hk _⟩

theorem write (hseg : Segment h p rs q) (hnodup : (rs.map Prod.fst).Nodup) {k : κ}
    {c : Cell κ ν} (hc : h k = some c) (f : ν → ν) :
    Segment (Function.update h k (some ⟨f c.value, c.next⟩)) p
      (rs.map fun r => if r.1 = k then (r.1, f r.2) else r) q := by
  induction rs generalizing p with
  | nil => exact hseg
  | cons r rs ih =>
      obtain ⟨hp, next, hcell, hrest⟩ := hseg
      rw [List.map_cons, List.nodup_cons] at hnodup
      rw [List.map_cons]
      by_cases hk : r.1 = k
      · subst hk
        obtain rfl : c = ⟨r.2, next⟩ := Option.some.inj (hc.symm.trans hcell)
        have hsame : (rs.map fun r' => if r'.1 = r.1 then (r'.1, f r'.2) else r') = rs := by
          refine (List.map_congr_left fun r' hr' => if_neg fun heq => hnodup.1 ?_).trans
            (List.map_id rs)
          exact heq ▸ List.mem_map_of_mem hr'
        rw [if_pos rfl, hsame]
        exact ⟨hp, next, Function.update_self .., hrest.update_of_not_mem hnodup.1 _⟩
      · rw [if_neg hk]
        exact ⟨hp, next, (Function.update_of_ne hk ..).trans hcell, ih hrest hnodup.2⟩

/-- The record behind the last one of a segment is taken out. -/
theorem skip {r : κ × ν} {next m : Option κ} (hseg : Segment h p (rs ++ [r]) m)
    (hnodup : ((rs ++ [r]).map Prod.fst).Nodup) (hrest : Segment h next rs' q)
    (hapart : r.1 ∉ rs'.map Prod.fst) :
    Segment (Function.update h r.1 (some ⟨r.2, next⟩)) p (rs ++ r :: rs') q := by
  obtain ⟨m', hfront, hlast⟩ := append_iff.mp hseg
  have hnot : r.1 ∉ rs.map Prod.fst := by
    rw [List.map_append, List.nodup_append] at hnodup
    exact fun hmem => hnodup.2.2 _ hmem _ (by simp) rfl
  exact append_iff.mpr ⟨m', hfront.update_of_not_mem hnot _, hlast.1, next,
    Function.update_self .., hrest.update_of_not_mem hapart _⟩

end Writes

end Segment

/-! ### Walks -/

/-- The loop that looks for a record and keeps the pointer to the one before,
for at most `fuel` turns: that pointer, and the pointer to the record found. -/
def seek (h : Heap κ ν) (stop : κ → ν → Bool) :
    Nat → Option κ → Option κ → Option (Option κ × Option κ)
  | _, prev, none => some (prev, none)
  | 0, _, some _ => none
  | fuel + 1, prev, some k =>
    match h k with
    | none => none
    | some c =>
      if stop k c.value then some (prev, some k) else seek h stop fuel (some k) c.next

def collect (h : Heap κ ν) : Nat → Option κ → Option (List (κ × ν))
  | _, none => some []
  | 0, some _ => none
  | fuel + 1, some k =>
    match h k with
    | none => none
    | some c => (collect h fuel c.next).map ((k, c.value) :: ·)

/-- The record `k` is unlinked: the pointer to it is in the record before, or is
the head of the list. -/
def unlink [DecidableEq κ] (h : Heap κ ν) (head prev : Option κ) (k : κ) :
    Option (Option κ × Heap κ ν) :=
  match h k with
  | none => none
  | some c =>
    match prev with
    | none => some (c.next, h)
    | some p =>
      match h p with
      | none => none
      | some d => some (head, Function.update h p (some { d with next := c.next }))

/-- The first record that the loop stops at is taken out: the pointer to it, the
head of the list, and the heap. -/
def remove [DecidableEq κ] (h : Heap κ ν) (stop : κ → ν → Bool) (fuel : Nat) (head : Option κ) :
    Option (Option κ × Option κ × Heap κ ν) :=
  match seek h stop fuel none head with
  | none => none
  | some (_, none) => some (none, head, h)
  | some (prev, some k) => (unlink h head prev k).map fun r => (some k, r)

/-- The records are freed one after the other; the pointer to the next one is
read before. -/
def freeAll [DecidableEq κ] : Nat → Option κ → Heap κ ν → Option (Heap κ ν)
  | _, none, h => some h
  | 0, some _, _ => none
  | fuel + 1, some k, h =>
    match h k with
    | none => none
    | some c => freeAll fuel c.next (Function.update h k none)

section Walks

variable {h : Heap κ ν} {p : Option κ} {rs : List (κ × ν)} {stop : κ → ν → Bool} {fuel : Nat}

theorem collect_eq (hseg : Segment h p rs none) (hfuel : rs.length ≤ fuel) :
    collect h fuel p = some rs := by
  induction rs generalizing p fuel with
  | nil =>
      obtain rfl : p = none := hseg
      cases fuel <;> rfl
  | cons r rs ih =>
      obtain ⟨rfl, next, hcell, hrest⟩ := hseg
      cases fuel with
      | zero => cases hfuel
      | succ fuel =>
          simp only [collect, hcell, ih hrest (Nat.le_of_succ_le_succ hfuel), Option.map_some]

theorem seek_none (prev : Option κ) (hseg : Segment h p rs none) (hfuel : rs.length ≤ fuel)
    (hno : ∀ r ∈ rs, stop r.1 r.2 = false) :
    ∃ last, seek h stop fuel prev p = some (last, none) := by
  induction rs generalizing p fuel prev with
  | nil =>
      obtain rfl : p = none := hseg
      exact ⟨prev, by cases fuel <;> rfl⟩
  | cons r rs ih =>
      obtain ⟨rfl, next, hcell, hrest⟩ := hseg
      obtain ⟨hr, hrs⟩ := List.forall_mem_cons.mp hno
      cases fuel with
      | zero => cases hfuel
      | succ fuel =>
          obtain ⟨last, hlast⟩ := ih (some r.1) hrest (Nat.le_of_succ_le_succ hfuel) hrs
          exact ⟨last, by simp only [seek, hcell, hr, hlast, Bool.false_eq_true, if_false]⟩

theorem seek_some (prev : Option κ) {r : κ × ν} {next : Option κ}
    (hseg : Segment h p rs (some r.1)) (hcell : h r.1 = some ⟨r.2, next⟩)
    (hfuel : rs.length < fuel) (hno : ∀ r ∈ rs, stop r.1 r.2 = false)
    (hstop : stop r.1 r.2 = true) :
    seek h stop fuel prev p = some ((rs.getLast?.map Prod.fst).or prev, some r.1) := by
  induction rs generalizing p fuel prev with
  | nil =>
      obtain rfl : p = some r.1 := hseg
      obtain ⟨fuel, rfl⟩ := Nat.exists_eq_succ_of_ne_zero (Nat.ne_of_gt hfuel)
      simp only [seek, hcell, hstop, if_true, List.getLast?_nil, Option.map_none, Option.none_or]
  | cons r' rs ih =>
      obtain ⟨rfl, next', hcell', hrest⟩ := hseg
      obtain ⟨hr, hrs⟩ := List.forall_mem_cons.mp hno
      cases fuel with
      | zero => cases hfuel
      | succ fuel =>
          have htail := ih (some r'.1) hrest (Nat.lt_of_succ_lt_succ hfuel) hrs
          rw [seek, hcell']
          simp only [hr, Bool.false_eq_true, if_false, htail]
          cases rs with
          | nil => rfl
          | cons r'' rs =>
              rw [List.getLast?_cons_cons, List.getLast?_eq_some_getLast (List.cons_ne_nil _ _)]
              rfl

/-- What the loop finds, if it finds anything. -/
theorem seek_eq (stop : κ → ν → Bool) (prev : Option κ) (hseg : Segment h p rs none)
    (hfuel : rs.length ≤ fuel) :
    ∃ last, seek h stop fuel prev p =
      some (last, (rs.find? fun r => stop r.1 r.2).map Prod.fst) := by
  cases hfind : rs.find? fun r => stop r.1 r.2 with
  | none => exact seek_none prev hseg hfuel (by simpa using hfind)
  | some r =>
      obtain ⟨hstop, front, behind, rfl, hno⟩ := List.find?_eq_some_iff_append.mp hfind
      have hcell := hseg.next_eq
      obtain ⟨m, hfront, rfl, -⟩ := Segment.append_iff.mp hseg
      rw [List.length_append, List.length_cons] at hfuel
      exact ⟨_, seek_some prev hfront hcell (by omega) (by simpa using hno) hstop⟩

section Frees

variable [DecidableEq κ]

theorem unlink_eq {front behind : List (κ × ν)} {r : κ × ν}
    (hseg : Segment h p (front ++ r :: behind) none)
    (hnodup : ((front ++ r :: behind).map Prod.fst).Nodup) :
    ∃ head h', unlink h p (front.getLast?.map Prod.fst) r.1 = some (head, h') ∧
      Segment h' head (front ++ behind) none ∧
      ∀ a, (h' a).map Cell.value = (h a).map Cell.value := by
  obtain ⟨m, hfront, rfl, next, hcell, hbehind⟩ := Segment.append_iff.mp hseg
  obtain rfl | ⟨front, d, rfl⟩ := List.eq_nil_or_concat' front
  · exact ⟨next, h, by simp [unlink, hcell], hbehind, fun _ => rfl⟩
  · obtain ⟨m, hfront', rfl, next', hcell', hend⟩ := Segment.append_iff.mp hfront
    have hkeys : ((front ++ [d]).map Prod.fst).Nodup ∧ d.1 ∉ behind.map Prod.fst := by
      rw [List.map_append, List.map_cons, List.nodup_append, List.nodup_cons] at hnodup
      refine ⟨hnodup.1, fun hmem => ?_⟩
      exact hnodup.2.2 d.1 (by simp) d.1 (List.mem_cons_of_mem _ hmem) rfl
    refine ⟨p, Function.update h d.1 (some ⟨d.2, next⟩), ?_, ?_, fun a => ?_⟩
    · simp [unlink, hcell, hcell']
    · rw [List.append_assoc]
      exact hfront.skip hkeys.1 hbehind hkeys.2
    · by_cases ha : a = d.1
      · rw [ha, Function.update_self, hcell']
        rfl
      · rw [Function.update_of_ne ha]

/-- What the loop stops at is taken out of the list, and no value changes. -/
theorem remove_eq (stop : κ → ν → Bool) (hseg : Segment h p rs none)
    (hnodup : (rs.map Prod.fst).Nodup) (hfuel : rs.length ≤ fuel) :
    ∃ head h', remove h stop fuel p =
        some ((rs.find? fun r => stop r.1 r.2).map Prod.fst, head, h') ∧
      Segment h' head (rs.eraseP fun r => stop r.1 r.2) none ∧
      ∀ a, (h' a).map Cell.value = (h a).map Cell.value := by
  cases hfind : rs.find? fun r => stop r.1 r.2 with
  | none =>
      have hno : ∀ r ∈ rs, stop r.1 r.2 = false := by simpa using hfind
      obtain ⟨last, hlast⟩ := seek_none none hseg hfuel hno
      refine ⟨p, h, ?_, ?_, fun _ => rfl⟩
      · rw [remove, hlast]
        rfl
      · rwa [List.eraseP_of_forall_not fun r hr => by simp [hno r hr]]
  | some r =>
      obtain ⟨hstop, front, behind, rfl, hno⟩ := List.find?_eq_some_iff_append.mp hfind
      have hno' : ∀ r ∈ front, stop r.1 r.2 = false := by simpa using hno
      obtain ⟨m, hfront, rfl, next, hcell, -⟩ := Segment.append_iff.mp hseg
      rw [List.length_append, List.length_cons] at hfuel
      have hseek := seek_some none hfront hcell (by omega : front.length < fuel) hno' hstop
      obtain ⟨head, h', hunlink, hrest, hvalue⟩ := unlink_eq hseg hnodup
      refine ⟨head, h', ?_, ?_, hvalue⟩
      · rw [remove, hseek]
        simp only [Option.or_none, hunlink, Option.map_some]
      · rwa [List.eraseP_append_right _ fun r hr => by simp [hno' r hr],
          List.eraseP_cons_of_pos (by exact hstop)]

/-- All the records are freed, each once, and no others. -/
theorem freeAll_eq (hseg : Segment h p rs none) (hnodup : (rs.map Prod.fst).Nodup)
    (hfuel : rs.length ≤ fuel) :
    ∃ h', freeAll fuel p h = some h' ∧
      ∀ a, h' a = if a ∈ rs.map Prod.fst then none else h a := by
  induction rs generalizing p h fuel with
  | nil =>
      obtain rfl : p = none := hseg
      exact ⟨h, by cases fuel <;> rfl, fun a => by simp⟩
  | cons r rs ih =>
      obtain ⟨rfl, next, hcell, hrest⟩ := hseg
      rw [List.map_cons, List.nodup_cons] at hnodup
      cases fuel with
      | zero => cases hfuel
      | succ fuel =>
          obtain ⟨h', hfree, hleft⟩ := ih (hrest.update_of_not_mem hnodup.1 none) hnodup.2
            (Nat.le_of_succ_le_succ hfuel)
          refine ⟨h', by simp only [freeAll, hcell, hfree], fun a => ?_⟩
          rw [hleft a, List.map_cons]
          by_cases ha : a = r.1
          · simp [ha]
          · rw [Function.update_of_ne ha]
            simp only [List.mem_cons, ha, false_or]

end Frees

end Walks

end LinkedHeap
