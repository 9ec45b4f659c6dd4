import Mathlib.Data.List.Basic
import Mathlib.Tactic.Common

/-!
C strings in fixed-width buffers. A string is the list of bytes from the
pointer on; the end of the list reads as a terminator. `strncmp` and
`strncpy` look at no more than their first `n` bytes, and stop at a zero
byte.

`strncmp n a b = 0` is an equivalence for every `n`, and a copy of at least
`n` bytes is equivalent to its source. These two facts make lookups by name
agree however often the name was copied on the way.
-/

namespace CString

abbrev CStr := List UInt8

/-- Compare at most `n` bytes: zero when they agree up to the first zero
byte, else the difference of the first two bytes that differ. -/
def strncmp : Nat → CStr → CStr → Int
  | 0, _, _ => 0
  | n + 1, a, b =>
    let x := a.headD 0
    let y := b.headD 0
    if x ≠ y then (x.toNat : Int) - y.toNat
    else if x = 0 then 0
    else strncmp n a.tail b.tail

/-- Copy at most `n` bytes and fill up to `n` with zero bytes. -/
def strncpy : Nat → CStr → CStr
  | 0, _ => []
  | n + 1, a =>
    if a.headD 0 = 0 then List.replicate (n + 1) 0
    else a.headD 0 :: strncpy n a.tail

@[simp] theorem length_strncpy (n : Nat) (a : CStr) : (strncpy n a).length = n := by
  induction n generalizing a with
  | zero => rfl
  | succ n ih =>
      rw [strncpy]
      split <;> simp [ih]

/-- The comparison decides equality byte by byte. -/
theorem strncmp_succ_eq_zero {n : Nat} {a b : CStr} :
    strncmp (n + 1) a b = 0 ↔
      a.headD 0 = b.headD 0 ∧ (a.headD 0 ≠ 0 → strncmp n a.tail b.tail = 0) := by
  simp only [strncmp]
  split
  · next hne =>
      have hnat : (a.headD 0).toNat ≠ (b.headD 0).toNat := fun h => hne (UInt8.toNat_inj.mp h)
      exact ⟨fun h => by omega, fun h => absurd h.1 hne⟩
  · next heq =>
      rw [not_ne_iff] at heq
      split
      · next hzero => exact ⟨fun _ => ⟨heq, fun hne => absurd hzero hne⟩, fun _ => rfl⟩
      · next hzero => exact ⟨fun h => ⟨heq, fun _ => h⟩, fun h => h.2 hzero⟩

@[simp] theorem strncmp_self (n : Nat) (a : CStr) : strncmp n a a = 0 := by
  induction n generalizing a with
  | zero => rfl
  | succ n ih => exact strncmp_succ_eq_zero.mpr ⟨rfl, fun _ => ih _⟩

theorem strncmp_comm {n : Nat} {a b : CStr} (h : strncmp n a b = 0) : strncmp n b a = 0 := by
  induction n generalizing a b with
  | zero => rfl
  | succ n ih =>
      obtain ⟨hhead, htail⟩ := strncmp_succ_eq_zero.mp h
      exact strncmp_succ_eq_zero.mpr
        ⟨hhead.symm, fun hne => ih (htail (hhead ▸ hne))⟩

theorem strncmp_trans {n : Nat} {a b c : CStr} (hab : strncmp n a b = 0)
    (hbc : strncmp n b c = 0) : strncmp n a c = 0 := by
  induction n generalizing a b c with
  | zero => rfl
  | succ n ih =>
      obtain ⟨habHead, habTail⟩ := strncmp_succ_eq_zero.mp hab
      obtain ⟨hbcHead, hbcTail⟩ := strncmp_succ_eq_zero.mp hbc
      exact strncmp_succ_eq_zero.mpr ⟨habHead.trans hbcHead,
        fun hne => ih (habTail hne) (hbcTail (habHead ▸ hne))⟩

theorem strncmp_congr {n : Nat} {a b c : CStr} (h : strncmp n a b = 0) :
    strncmp n c a = 0 ↔ strncmp n c b = 0 :=
  ⟨fun hca => strncmp_trans hca h, fun hcb => strncmp_trans hcb (strncmp_comm h)⟩

/-- A copy compares equal to its source, as far as it was copied. -/
theorem strncmp_strncpy (n : Nat) (a : CStr) : strncmp n (strncpy n a) a = 0 := by
  induction n generalizing a with
  | zero => rfl
  | succ n ih =>
      rw [strncpy]
      by_cases ha : a.headD 0 = 0
      · rw [if_pos ha]
        exact strncmp_succ_eq_zero.mpr ⟨ha.symm, fun hne => absurd rfl hne⟩
      · rw [if_neg ha]
        exact strncmp_succ_eq_zero.mpr ⟨rfl, fun _ => ih _⟩

/-! ### Copies without a terminator -/

/-- A copy of `k` bytes with something else behind it compares equal to its
source exactly when the copy holds the terminator, or when what is behind it
is the rest of the source as far as the comparison goes. -/
theorem strncmp_strncpy_append {k : Nat} {a : CStr} (h : k ≤ a.length) (n : Nat) (t : CStr) :
    strncmp (k + n) a (strncpy k a ++ t) = 0 ↔
      (0 : UInt8) ∈ a.take k ∨ strncmp n (a.drop k) t = 0 := by
  induction k generalizing a with
  | zero => simp [strncpy]
  | succ k ih =>
      cases a with
      | nil => exact absurd h (Nat.not_succ_le_zero k)
      | cons x a =>
          rw [Nat.add_right_comm, strncmp_succ_eq_zero, strncpy, List.headD_cons]
          by_cases hx : x = 0
          · simp [hx, List.replicate_succ]
          · have hx' : (0 : UInt8) ≠ x := fun heq => hx heq.symm
            have htail := ih (Nat.le_of_succ_le_succ h)
            rw [if_neg hx]
            simp only [List.cons_append, List.headD_cons, List.tail_cons, List.take_succ_cons,
              List.drop_succ_cons, List.mem_cons, ne_eq, hx, not_false_eq_true, true_imp_iff,
              true_and, hx', false_or]
            exact htail

/-- What a comparison finds does not depend on the memory behind a string
exactly when the string has its terminator or is as long as the comparison. -/
theorem forall_strncmp_append {n : Nat} {a t : CStr} :
    (∀ behind, strncmp n a (t ++ behind) = 0) ↔
      strncmp n a t = 0 ∧ (n ≤ t.length ∨ (0 : UInt8) ∈ t) := by
  induction n generalizing a t with
  | zero => simp [strncmp]
  | succ n ih =>
      cases t with
      | nil =>
          refine ⟨fun hall => ?_, fun h => by simp at h⟩
          -- two kinds of memory that cannot both agree with the string
          have hone := (strncmp_succ_eq_zero.mp (hall [1])).1
          have htwo := (strncmp_succ_eq_zero.mp (hall [2])).1
          rw [hone] at htwo
          exact absurd htwo (by decide)
      | cons y t =>
          simp only [List.cons_append, strncmp_succ_eq_zero, List.headD_cons, List.tail_cons,
            List.length_cons, List.mem_cons, Nat.succ_le_succ_iff, forall_and, forall_const]
          rw [and_assoc]
          refine and_congr_right fun hhead => ?_
          by_cases hzero : y = 0
          · have hhead' : a.headD 0 = 0 := hhead.trans hzero
            simp only [hhead', ne_eq, not_true, false_imp_iff, forall_const, hzero, true_or,
              or_true, and_self]
          · have hne : (0 : UInt8) ≠ y := fun heq => hzero heq.symm
            simp only [hhead, ne_eq, hzero, not_false_eq_true, true_imp_iff, hne, false_or]
            exact ih

/-! ### What a comparison reads

A string that ends before its terminator is read past its end: the scan then
reads at least the byte after it. -/

/-- The number of bytes of `b` that `strncmp n a b` reads, where `b` is what
is known of the string and one byte past it stands for all that follow. -/
def strncmpReads : Nat → CStr → CStr → Nat
  | 0, _, _ => 0
  | _ + 1, _, [] => 1
  | n + 1, a, y :: b =>
    if a.headD 0 ≠ y ∨ y = 0 then 1 else 1 + strncmpReads n a.tail b

/-- The number of bytes that a scan for the terminator reads. -/
def scanReads : CStr → Nat
  | [] => 1
  | y :: b => if y = 0 then 1 else 1 + scanReads b

theorem strncmpReads_le (n : Nat) (a b : CStr) : strncmpReads n a b ≤ n := by
  induction n generalizing a b with
  | zero => exact Nat.le_refl 0
  | succ n ih =>
      cases b with
      | nil => exact Nat.succ_le_succ (Nat.zero_le n)
      | cons y b =>
          have := ih a.tail b
          simp only [strncmpReads]
          split <;> omega

/-- A comparison that may look further than the string goes stays inside it
exactly when the strings differ there or the terminator is there. -/
theorem strncmpReads_le_length {n : Nat} {a b : CStr} (h : b.length < n) :
    strncmpReads n a b ≤ b.length ↔ (0 : UInt8) ∈ b ∨ strncmp b.length a b ≠ 0 := by
  induction b generalizing n a with
  | nil =>
      obtain ⟨m, rfl⟩ := Nat.exists_eq_succ_of_ne_zero (Nat.ne_of_gt h)
      simp [strncmpReads, strncmp]
  | cons y b ih =>
      obtain ⟨m, rfl⟩ := Nat.exists_eq_succ_of_ne_zero (Nat.ne_of_gt (Nat.zero_lt_of_lt h))
      rw [strncmpReads]
      by_cases hhead : a.headD 0 = y
      · by_cases hy : y = 0
        · simp [hy]
        · have hne : (0 : UInt8) ≠ y := fun heq => hy heq.symm
          have htail := ih (n := m) (a := a.tail) (Nat.lt_of_succ_lt_succ h)
          have hcmp : strncmp (y :: b).length a (y :: b) = strncmp b.length a.tail b := by
            simp only [List.length_cons, strncmp, List.headD_cons, List.tail_cons, hhead, ne_eq,
              not_true, if_false, if_neg hy]
          have hsame : ¬(a.headD 0 ≠ y ∨ y = 0) := not_or.mpr ⟨not_not.mpr hhead, hy⟩
          rw [if_neg hsame, hcmp, List.mem_cons, List.length_cons]
          simp only [hne, false_or]
          rw [← htail]
          omega
      · have hcmp : strncmp (y :: b).length a (y :: b) ≠ 0 := by
          intro hzero
          rw [List.length_cons] at hzero
          exact hhead (strncmp_succ_eq_zero.mp hzero).1
        rw [if_pos (.inl hhead), List.length_cons]
        exact ⟨fun _ => .inr hcmp, fun _ => Nat.le_add_left 1 b.length⟩

/-- A scan stays inside the string exactly when the string holds its own
terminator. -/
theorem scanReads_le_length {b : CStr} : scanReads b ≤ b.length ↔ (0 : UInt8) ∈ b := by
  induction b with
  | nil => simp [scanReads]
  | cons y b ih =>
      by_cases hy : y = 0
      · simp [scanReads, hy]
      · have hy' : (0 : UInt8) ≠ y := fun h => hy h.symm
        simp only [scanReads, hy, if_false, List.length_cons, List.mem_cons, hy', false_or]
        rw [← ih]
        omega

end CString
