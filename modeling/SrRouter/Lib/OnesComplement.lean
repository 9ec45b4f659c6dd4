import Mathlib.Data.Nat.ModEq
import SrRouter.Lib.ByteBuffer

/-!
Ones' complement sums, as checksums over words of a base `b` use them.

Two words are added by adding them and adding what runs over back in. The
sum of any number of words is then known up to two facts: its residue modulo
`b - 1`, and whether it is zero. This is `SameSum`, and below `b` it decides
equality, so an implementation that adds first and folds the carries in later
is compared with the sum word by word through nothing but residues.

The words of a byte string are big-endian, and an odd last byte is the high
half of a word.
-/

namespace OnesComplement

open ByteBuffer

/-- Add two words and carry what runs over back in. -/
def addCarry (b x y : Nat) : Nat := (x + y) % b + (x + y) / b

def onesSum (b : Nat) (words : List Nat) : Nat := words.foldl (addCarry b) 0

/-- The words of a byte string, an odd last byte padded with a zero byte. -/
def words16 : Bytes → List Nat
  | d0 :: d1 :: data => (d0.toNat * 256 + d1.toNat) :: words16 data
  | [d0] => [d0.toNat * 256]
  | [] => []

/-! ### Sums up to carries -/

/-- The two numbers differ by carries only. -/
structure SameSum (b n m : Nat) : Prop where
  mod_eq : n ≡ m [MOD b - 1]
  zero_iff : n = 0 ↔ m = 0

namespace SameSum

variable {b n m k : Nat}

theorem refl (b n : Nat) : SameSum b n n := ⟨rfl, Iff.rfl⟩

theorem symm (h : SameSum b n m) : SameSum b m n := ⟨h.mod_eq.symm, h.zero_iff.symm⟩

theorem trans (h : SameSum b n m) (h' : SameSum b m k) : SameSum b n k :=
  ⟨h.mod_eq.trans h'.mod_eq, h.zero_iff.trans h'.zero_iff⟩

theorem add {n' m' : Nat} (h : SameSum b n m) (h' : SameSum b n' m') :
    SameSum b (n + n') (m + m') := by
  refine ⟨h.mod_eq.add h'.mod_eq, ?_⟩
  rw [Nat.add_eq_zero_iff, Nat.add_eq_zero_iff, h.zero_iff, h'.zero_iff]

/-- Below the base there is one number for each sum. -/
theorem eq_of_lt (h : SameSum b n m) (hn : n < b) (hm : m < b) : n = m := by
  by_cases hzero : n = 0
  · rw [hzero, h.zero_iff.mp hzero]
  · have hzero' : m ≠ 0 := fun hm => hzero (h.zero_iff.mpr hm)
    -- shift both down by one: then they are residues
    have hpred : n - 1 ≡ m - 1 [MOD b - 1] := by
      apply Nat.ModEq.add_right_cancel' 1
      rw [Nat.sub_add_cancel (by omega), Nat.sub_add_cancel (by omega)]
      exact h.mod_eq
    have heq := hpred.eq_of_lt_of_lt (by omega) (by omega)
    omega

end SameSum

theorem sameSum_fold {b : Nat} (hb : 1 < b) (n : Nat) : SameSum b (n % b + n / b) n := by
  constructor
  · have hsplit : n = (b - 1) * (n / b) + (n % b + n / b) := by
      have hdiv := Nat.div_add_mod n b
      have hmul : (b - 1) * (n / b) + n / b = b * (n / b) := by
        rw [Nat.sub_mul, Nat.one_mul]
        exact Nat.sub_add_cancel (Nat.le_mul_of_pos_left (n / b) (Nat.zero_lt_of_lt hb))
      omega
    show (n % b + n / b) % (b - 1) = n % (b - 1)
    conv_rhs => rw [hsplit]
    rw [Nat.mul_add_mod]
  · constructor
    · intro h
      obtain ⟨hmod, hdiv⟩ := Nat.add_eq_zero_iff.mp h
      rw [← Nat.div_add_mod n b, hmod, hdiv, Nat.mul_zero]
    · rintro rfl
      simp

theorem addCarry_lt {b x y : Nat} (hx : x < b) (hy : y < b) : addCarry b x y < b := by
  have hover : (x + y) / b ≤ 1 := by
    apply Nat.le_of_lt_succ
    rw [Nat.div_lt_iff_lt_mul (by omega)]
    omega
  rcases Nat.lt_or_ge (x + y) b with hsmall | hlarge
  · rw [addCarry, Nat.mod_eq_of_lt hsmall, Nat.div_eq_of_lt hsmall]
    exact hsmall
  · have hmod : (x + y) % b = x + y - b := by
      rw [Nat.mod_eq_sub_mod hlarge, Nat.mod_eq_of_lt (by omega)]
    rw [addCarry, hmod]
    omega

theorem sameSum_addCarry {b : Nat} (hb : 1 < b) (x y : Nat) :
    SameSum b (addCarry b x y) (x + y) := sameSum_fold hb (x + y)

/-! ### The sum of all words -/

theorem foldl_addCarry {b : Nat} (hb : 1 < b) {words : List Nat} (hwords : ∀ w ∈ words, w < b)
    {x : Nat} (hx : x < b) :
    words.foldl (addCarry b) x < b ∧
      SameSum b (words.foldl (addCarry b) x) (x + words.sum) := by
  induction words generalizing x with
  | nil => exact ⟨hx, .refl b x⟩
  | cons w words ih =>
      obtain ⟨hw, hwords⟩ := List.forall_mem_cons.mp hwords
      obtain ⟨hlt, hsame⟩ := ih hwords (addCarry_lt hx hw)
      refine ⟨hlt, hsame.trans ?_⟩
      rw [List.sum_cons, ← Nat.add_assoc]
      exact (sameSum_addCarry hb x w).add (.refl b _)

/-- **The sum rule.** A number below the base is the ones' complement sum of
the words exactly when it differs from their plain sum by carries. -/
theorem onesSum_eq_iff {b : Nat} (hb : 1 < b) {words : List Nat} (hwords : ∀ w ∈ words, w < b)
    {n : Nat} (hn : n < b) : onesSum b words = n ↔ SameSum b n words.sum := by
  obtain ⟨hlt, hsame⟩ := foldl_addCarry hb hwords (show 0 < b by omega)
  rw [Nat.zero_add] at hsame
  constructor
  · rintro rfl
    exact hsame
  · exact fun h => hsame.trans h.symm |>.eq_of_lt hlt hn

/-! ### The words of a byte string -/

theorem words16_lt (data : Bytes) : ∀ w ∈ words16 data, w < 65536 := by
  induction data using words16.induct with
  | case1 d0 d1 data ih =>
      have h0 := d0.toNat_lt
      have h1 := d1.toNat_lt
      rw [words16, List.forall_mem_cons]
      exact ⟨by omega, ih⟩
  | case2 d0 =>
      have h0 := d0.toNat_lt
      rw [words16, List.forall_mem_singleton]
      omega
  | case3 => exact fun w hw => absurd hw List.not_mem_nil

theorem words16_append {data rest : Bytes} (h : data.length % 2 = 0) :
    words16 (data ++ rest) = words16 data ++ words16 rest := by
  induction data using words16.induct with
  | case1 d0 d1 data ih =>
      simp only [List.length_cons] at h
      simp only [List.cons_append, words16, ih (by omega)]
  | case2 d0 => simp at h
  | case3 => rfl

theorem words16_sum_le (data : Bytes) : (words16 data).sum ≤ 65535 * ((data.length + 1) / 2) := by
  induction data using words16.induct with
  | case1 d0 d1 data ih =>
      have h0 := d0.toNat_lt
      have h1 := d1.toNat_lt
      simp only [words16, List.sum_cons, List.length_cons]
      omega
  | case2 d0 =>
      have h0 := d0.toNat_lt
      simp only [words16, List.sum_cons, List.sum_nil, List.length_cons, List.length_nil]
      omega
  | case3 => simp [words16]

theorem words16_sum_blit {data : Bytes} {i : Nat} (hi lo : UInt8) (heven : i % 2 = 0)
    (hfits : i + 2 ≤ data.length) :
    (words16 (blit data i [hi, lo])).sum =
      (words16 (blit data i [0, 0])).sum + (hi.toNat * 256 + lo.toNat) := by
  have hsplit (x y : UInt8) : blit data i [x, y] = data.take i ++ x :: y :: data.drop (i + 2) := by
    refine ext_load8 (by simp; omega) fun j hj => ?_
    rw [length_blit] at hj
    rw [load8_blit]
    simp only [load8, List.getD_eq_getElem?_getD, List.getElem?_append, List.length_take,
      List.length_cons, List.length_nil, Nat.min_eq_left (show i ≤ data.length by omega)]
    by_cases hbefore : j < i
    · rw [if_neg (by omega), if_pos hbefore, List.getElem?_take, if_pos hbefore]
    · rw [if_neg hbefore]
      obtain ⟨k, rfl⟩ := Nat.exists_eq_add_of_le (Nat.not_lt.mp hbefore)
      rw [Nat.add_sub_cancel_left]
      rcases k with _ | _ | k
      · simp; omega
      · simp; omega
      · rw [if_neg (by omega), List.getElem?_cons_succ, List.getElem?_cons_succ,
          List.getElem?_drop]
        congr 2
        omega
  have heven' : (data.take i).length % 2 = 0 := by
    rw [List.length_take, Nat.min_eq_left (by omega)]
    exact heven
  rw [hsplit, hsplit, words16_append heven', words16_append heven']
  simp only [words16, List.sum_append, List.sum_cons, UInt8.toNat_zero]
  omega

end OnesComplement
