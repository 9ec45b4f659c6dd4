import Mathlib.Data.List.Basic
import Mathlib.Tactic.Common

/-!
Byte buffers with C-style access: a buffer is the list of its bytes, a load
at an offset assembles bytes in host (little-endian) order, and every store
is a `blit`, the copy of a short byte string into the buffer at an offset.

Nothing here changes the length of a buffer: a `blit` that would run past
the end drops what does not fit, and a load past the end reads zero. The
lemmas come in two shapes, a store read back at its own offset and a store
that a load does not see, and both are stated for `blit`, so that a chain of
field writes collapses under one `simp` set.
-/

namespace ByteBuffer

abbrev Bytes := List UInt8

/-- The byte at offset `i`. -/
def load8 (b : Bytes) (i : Nat) : UInt8 := b.getD i 0

/-- The 16-bit word at offset `i`, low byte first. -/
def load16 (b : Bytes) (i : Nat) : UInt16 :=
  UInt16.ofNat ((load8 b i).toNat + 256 * (load8 b (i + 1)).toNat)

/-- The 32-bit word at offset `i`, low byte first. -/
def load32 (b : Bytes) (i : Nat) : UInt32 :=
  UInt32.ofNat ((load8 b i).toNat + 256 * (load8 b (i + 1)).toNat +
    65536 * (load8 b (i + 2)).toNat + 16777216 * (load8 b (i + 3)).toNat)

/-- Copy the bytes `xs` into `b` at offset `i`. -/
def blit : Bytes → Nat → Bytes → Bytes
  | b, _, [] => b
  | b, i, x :: xs => blit (b.set i x) (i + 1) xs

def bytes16 (v : UInt16) : Bytes :=
  [UInt8.ofNat v.toNat, UInt8.ofNat (v.toNat / 256)]

def bytes32 (v : UInt32) : Bytes :=
  [UInt8.ofNat v.toNat, UInt8.ofNat (v.toNat / 256),
    UInt8.ofNat (v.toNat / 65536), UInt8.ofNat (v.toNat / 16777216)]

def store8 (b : Bytes) (i : Nat) (v : UInt8) : Bytes := blit b i [v]

def store16 (b : Bytes) (i : Nat) (v : UInt16) : Bytes := blit b i (bytes16 v)

def store32 (b : Bytes) (i : Nat) (v : UInt32) : Bytes := blit b i (bytes32 v)

/-- The `n` bytes from offset `i`, fewer where the buffer ends before. -/
def slice (b : Bytes) (i n : Nat) : Bytes := (b.drop i).take n

/-! ### Lengths -/

@[simp] theorem length_bytes16 (v : UInt16) : (bytes16 v).length = 2 := rfl

@[simp] theorem length_bytes32 (v : UInt32) : (bytes32 v).length = 4 := rfl

@[simp] theorem length_blit (b : Bytes) (i : Nat) (xs : Bytes) :
    (blit b i xs).length = b.length := by
  induction xs generalizing b i with
  | nil => rfl
  | cons x xs ih => simp [blit, ih]

@[simp] theorem length_store8 (b : Bytes) (i : Nat) (v : UInt8) :
    (store8 b i v).length = b.length := length_blit ..

@[simp] theorem length_store16 (b : Bytes) (i : Nat) (v : UInt16) :
    (store16 b i v).length = b.length := length_blit ..

@[simp] theorem length_store32 (b : Bytes) (i : Nat) (v : UInt32) :
    (store32 b i v).length = b.length := length_blit ..

theorem length_slice (b : Bytes) (i n : Nat) :
    (slice b i n).length = min n (b.length - i) := by
  simp [slice]

/-! ### Loads from an updated buffer -/

theorem load8_set (b : Bytes) (i : Nat) (x : UInt8) (j : Nat) :
    load8 (b.set i x) j = if j = i ∧ i < b.length then x else load8 b j := by
  simp only [load8, List.getD_eq_getElem?_getD, List.getElem?_set]
  by_cases h : i = j
  · subst h
    by_cases hi : i < b.length <;> simp [hi]
  · simp [h, Ne.symm h]

/-- Every byte of a buffer after a `blit`: inside the window it is the byte
copied there, elsewhere the byte the buffer had. -/
theorem load8_blit (b : Bytes) (i : Nat) (xs : Bytes) (j : Nat) :
    load8 (blit b i xs) j =
      if i ≤ j ∧ j < i + xs.length ∧ j < b.length then load8 xs (j - i) else load8 b j := by
  induction xs generalizing b i with
  | nil =>
      have hfalse : ¬(i ≤ j ∧ j < i + ([] : Bytes).length ∧ j < b.length) := by
        simp only [List.length_nil]
        omega
      rw [if_neg hfalse, blit]
  | cons x xs ih =>
      rw [blit, ih]
      simp only [List.length_set, List.length_cons, load8_set]
      by_cases hj : j = i
      · subst hj
        rw [if_neg (by omega)]
        by_cases hlt : j < b.length <;> simp [hlt, load8]
      · by_cases hin : i + 1 ≤ j ∧ j < i + 1 + xs.length ∧ j < b.length
        · have hin' : i ≤ j ∧ j < i + (xs.length + 1) ∧ j < b.length := by omega
          rw [if_pos hin, if_pos hin', show j - i = j - (i + 1) + 1 by omega]
          simp [load8]
        · have hin' : ¬(i ≤ j ∧ j < i + (xs.length + 1) ∧ j < b.length) := by omega
          rw [if_neg hin, if_neg hin']
          simp [hj]

/-- The window `[j, j + n)` is outside the window `[i, i + m)`. -/
def Apart (i m j n : Nat) : Prop := j + n ≤ i ∨ i + m ≤ j

theorem Apart.window {i m j n : Nat} (h : Apart i m j n) (k : Nat) {p : Nat} (hkp : k + p ≤ n) :
    Apart i m (j + k) p := by
  obtain hbefore | hbehind := h
  · exact .inl (by omega)
  · exact .inr (by omega)

theorem load8_blit_apart {b : Bytes} {i : Nat} {xs : Bytes} {j : Nat}
    (h : Apart i xs.length j 1) : load8 (blit b i xs) j = load8 b j := by
  rw [load8_blit, if_neg]
  obtain hbefore | hbehind := h
  all_goals omega

theorem load16_blit_apart {b : Bytes} {i : Nat} {xs : Bytes} {j : Nat}
    (h : Apart i xs.length j 2) : load16 (blit b i xs) j = load16 b j := by
  have hfirst : load8 (blit b i xs) j = load8 b j := load8_blit_apart (h.window 0 (by decide))
  rw [load16, load16, hfirst, load8_blit_apart (h.window 1 (by decide))]

theorem load32_blit_apart {b : Bytes} {i : Nat} {xs : Bytes} {j : Nat}
    (h : Apart i xs.length j 4) : load32 (blit b i xs) j = load32 b j := by
  have hfirst : load8 (blit b i xs) j = load8 b j := load8_blit_apart (h.window 0 (by decide))
  rw [load32, load32, hfirst, load8_blit_apart (h.window 1 (by decide)),
    load8_blit_apart (h.window 2 (by decide)), load8_blit_apart (h.window 3 (by decide))]

/-- Two buffers of one length that agree at every offset are equal. -/
theorem ext_load8 {b c : Bytes} (hlen : b.length = c.length)
    (h : ∀ i < b.length, load8 b i = load8 c i) : b = c := by
  refine List.ext_getElem hlen fun i hb hc => ?_
  have hi := h i hb
  simpa [load8, List.getD_eq_getElem?_getD, hb, hc] using hi

theorem load8_slice (b : Bytes) (i n j : Nat) :
    load8 (slice b i n) j = if j < n then load8 b (i + j) else 0 := by
  simp only [load8, slice, List.getD_eq_getElem?_getD, List.getElem?_take]
  by_cases h : j < n <;> simp [h]

theorem slice_blit_apart {b : Bytes} {i : Nat} {xs : Bytes} {j n : Nat}
    (h : Apart i xs.length j n) : slice (blit b i xs) j n = slice b j n := by
  refine ext_load8 (by simp [length_slice]) fun k hk => ?_
  simp only [length_slice, length_blit] at hk
  rw [load8_slice, load8_slice, if_pos (by omega), if_pos (by omega),
    load8_blit_apart (h.window k (by omega))]

/-- A store inside the window of a slice is a store to the slice. -/
theorem slice_blit_inside {b : Bytes} {i : Nat} {xs : Bytes} {j n : Nat} (hle : j ≤ i)
    (hin : i + xs.length ≤ j + n) : slice (blit b i xs) j n = blit (slice b j n) (i - j) xs := by
  refine ext_load8 (by simp [length_slice]) fun k hk => ?_
  rw [length_slice, length_blit] at hk
  have hread (c : Bytes) : load8 (slice c j n) k = load8 c (j + k) := by
    rw [load8_slice, if_pos (by omega)]
  rw [hread, load8_blit, load8_blit, hread, length_slice, show j + k - i = k - (i - j) by omega]
  exact if_congr (by omega) rfl rfl

theorem blit_load8 (b : Bytes) (i : Nat) : blit b i [load8 b i, load8 b (i + 1)] = b := by
  refine ext_load8 (length_blit ..) fun j _ => ?_
  rw [load8_blit]
  split
  · next hin =>
      simp only [List.length_cons, List.length_nil] at hin
      obtain rfl | rfl : j = i ∨ j = i + 1 := by omega
      · rw [Nat.sub_self]
        rfl
      · rw [Nat.add_sub_cancel_left]
        rfl
  · rfl

/-! ### A store read back -/

theorem toUInt8_ofNat_toNat (n : Nat) : (UInt8.ofNat n).toNat = n % 256 := by
  simp

theorem load16_store16 {b : Bytes} {i : Nat} {v : UInt16} (h : i + 2 ≤ b.length) :
    load16 (store16 b i v) i = v := by
  have h0 : load8 (blit b i (bytes16 v)) i = UInt8.ofNat v.toNat := by
    rw [load8_blit, if_pos (by simp; omega)]
    simp [load8, bytes16]
  have h1 : load8 (blit b i (bytes16 v)) (i + 1) = UInt8.ofNat (v.toNat / 256) := by
    rw [load8_blit, if_pos (by simp; omega)]
    simp [load8, bytes16]
  have hv := v.toNat_lt
  apply UInt16.toNat_inj.mp
  rw [store16, load16, h0, h1, toUInt8_ofNat_toNat, toUInt8_ofNat_toNat, UInt16.toNat_ofNat']
  omega

theorem load32_store32 {b : Bytes} {i : Nat} {v : UInt32} (h : i + 4 ≤ b.length) :
    load32 (store32 b i v) i = v := by
  have hread : ∀ k < 4, load8 (blit b i (bytes32 v)) (i + k) = load8 (bytes32 v) k := by
    intro k hk
    rw [load8_blit, if_pos (by simp; omega)]
    congr 1
    omega
  have hv := v.toNat_lt
  apply UInt32.toNat_inj.mp
  rw [store32, load32, show load8 (blit b i (bytes32 v)) i = load8 (bytes32 v) 0 from
    hread 0 (by omega), hread 1 (by omega), hread 2 (by omega), hread 3 (by omega)]
  simp only [load8, bytes32, List.getD_cons_zero, List.getD_cons_succ, toUInt8_ofNat_toNat,
    UInt32.toNat_ofNat']
  omega

theorem bytes32_load32 {b : Bytes} (h : b.length = 4) : bytes32 (load32 b 0) = b := by
  have h0 := (load8 b 0).toNat_lt
  have h1 := (load8 b 1).toNat_lt
  have h2 := (load8 b 2).toNat_lt
  have h3 := (load8 b 3).toNat_lt
  have hword : (load32 b 0).toNat = (load8 b 0).toNat + 256 * (load8 b 1).toNat +
      65536 * (load8 b 2).toNat + 16777216 * (load8 b 3).toNat := by
    rw [load32, UInt32.toNat_ofNat']
    simp only [Nat.zero_add]
    omega
  refine ext_load8 h.symm fun i hi => ?_
  rw [length_bytes32] at hi
  apply UInt8.toNat_inj.mp
  rcases (by omega : i = 0 ∨ i = 1 ∨ i = 2 ∨ i = 3) with rfl | rfl | rfl | rfl
  all_goals
    rw [bytes32, load8]
    simp only [List.getD_cons_zero, List.getD_cons_succ, toUInt8_ofNat_toNat]
    omega

theorem load32_bytes32_append (v : UInt32) (b : Bytes) : load32 (bytes32 v ++ b) 0 = v := by
  have hv := v.toNat_lt
  apply UInt32.toNat_inj.mp
  simp only [load32, load8, bytes32, List.cons_append, Nat.zero_add, List.getD_cons_zero,
    List.getD_cons_succ, toUInt8_ofNat_toNat, UInt32.toNat_ofNat']
  omega

theorem load8_append_right (a b : Bytes) (i : Nat) : load8 (a ++ b) (a.length + i) = load8 b i := by
  rw [load8, load8, List.getD_eq_getElem?_getD, List.getD_eq_getElem?_getD,
    List.getElem?_append_right (Nat.le_add_right ..), Nat.add_sub_cancel_left]

theorem load8_append_of_lt {a : Bytes} {i : Nat} (h : i < a.length) (b : Bytes) :
    load8 (a ++ b) i = load8 a i := by
  rw [load8, load8, List.getD_eq_getElem?_getD, List.getD_eq_getElem?_getD,
    List.getElem?_append_left h]

theorem load16_append_of_le {a : Bytes} {i : Nat} (h : i + 2 ≤ a.length) (b : Bytes) :
    load16 (a ++ b) i = load16 a i := by
  rw [load16, load16, load8_append_of_lt (by omega), load8_append_of_lt (by omega)]

theorem load32_append_of_le {a : Bytes} {i : Nat} (h : i + 4 ≤ a.length) (b : Bytes) :
    load32 (a ++ b) i = load32 a i := by
  rw [load32, load32, load8_append_of_lt (by omega), load8_append_of_lt (by omega),
    load8_append_of_lt (by omega), load8_append_of_lt (by omega)]

theorem load32_append_right (a b : Bytes) (i : Nat) :
    load32 (a ++ b) (a.length + i) = load32 b i := by
  simp only [load32, Nat.add_assoc, load8_append_right]

theorem load8_store8 {b : Bytes} {i : Nat} {v : UInt8} (h : i < b.length) :
    load8 (store8 b i v) i = v := by
  rw [store8, load8_blit, if_pos (by simp; omega)]
  simp [load8]

/-! The same with the store unfolded, as a chain of stores leaves it. -/

theorem load8_blit_self {b : Bytes} {i : Nat} {v : UInt8} (h : i < b.length) :
    load8 (blit b i [v]) i = v := load8_store8 h

theorem load16_blit_self {b : Bytes} {i : Nat} {v : UInt16} (h : i + 2 ≤ b.length) :
    load16 (blit b i (bytes16 v)) i = v := load16_store16 h

theorem load32_blit_self {b : Bytes} {i : Nat} {v : UInt32} (h : i + 4 ≤ b.length) :
    load32 (blit b i (bytes32 v)) i = v := load32_store32 h

theorem store16_load16 (b : Bytes) (i : Nat) : store16 b i (load16 b i) = b := by
  have hlo := (load8 b i).toNat_lt
  have hhi := (load8 b (i + 1)).toNat_lt
  have hword : (load16 b i).toNat = (load8 b i).toNat + 256 * (load8 b (i + 1)).toNat := by
    rw [load16, UInt16.toNat_ofNat']
    omega
  refine ext_load8 (by simp) fun j _ => ?_
  rw [store16, load8_blit]
  split
  · next hin =>
      have hcase : j = i ∨ j = i + 1 := by simp only [length_bytes16] at hin; omega
      rcases hcase with rfl | rfl
      · apply UInt8.toNat_inj.mp
        simp only [Nat.sub_self, load8, bytes16, List.getD_cons_zero, toUInt8_ofNat_toNat]
        rw [hword]
        unfold load8 at *
        omega
      · apply UInt8.toNat_inj.mp
        simp only [Nat.add_sub_cancel_left, load8, bytes16, List.getD_cons_succ,
          List.getD_cons_zero, toUInt8_ofNat_toNat]
        rw [hword]
        unfold load8 at *
        omega
  · rfl

theorem blit_blit_same {b : Bytes} {i : Nat} {xs ys : Bytes} (h : xs.length = ys.length) :
    blit (blit b i xs) i ys = blit b i ys := by
  refine ext_load8 (by simp) fun j _ => ?_
  simp only [load8_blit, length_blit, h]
  split <;> rfl

theorem store16_store16 (b : Bytes) (i : Nat) (v w : UInt16) :
    store16 (store16 b i v) i w = store16 b i w := blit_blit_same rfl

theorem blit_comm {b : Bytes} {i j : Nat} {xs ys : Bytes} (h : Apart i xs.length j ys.length) :
    blit (blit b i xs) j ys = blit (blit b j ys) i xs := by
  unfold Apart at h
  refine ext_load8 (by simp) fun k _ => ?_
  simp only [load8_blit, length_blit]
  split <;> split <;> first | rfl | omega

/-! ### Blocks of memory that are filled -/

/-- `n` bytes of memory that holds anything. -/
def block (memory : Nat → UInt8) (n : Nat) : Bytes := (List.range n).map memory

@[simp] theorem length_block (memory : Nat → UInt8) (n : Nat) : (block memory n).length = n := by
  simp [block]

theorem blit_append (front b xs : Bytes) (h : xs.length ≤ b.length) :
    blit (front ++ b) front.length xs = front ++ xs ++ b.drop xs.length := by
  induction xs generalizing front b with
  | nil => simp [blit]
  | cons x xs ih =>
      cases b with
      | nil => exact absurd h (Nat.not_succ_le_zero _)
      | cons y b =>
          have hset : (front ++ y :: b).set front.length x = front ++ [x] ++ b := by
            rw [List.set_append_right _ _ (Nat.le_refl _), Nat.sub_self, List.set_cons_zero,
              List.append_assoc, List.singleton_append]
          have hnext := ih (front ++ [x]) b (Nat.le_of_succ_le_succ h)
          rw [List.length_append, List.length_singleton] at hnext
          rw [blit, hset, hnext]
          simp

theorem slice_blit_self {b : Bytes} {i n : Nat} {xs : Bytes} (hn : xs.length = n)
    (h : i + n ≤ b.length) : slice (blit b i xs) i n = xs := by
  have hwindow : (slice b i n).length = n := by
    rw [length_slice]
    omega
  have hall := blit_append [] (slice b i n) xs (by omega)
  rw [slice_blit_inside (Nat.le_refl i) (Nat.le_of_eq (by rw [hn])), Nat.sub_self]
  rwa [List.nil_append, List.nil_append, List.drop_of_length_le (by omega), List.append_nil]
    at hall

end ByteBuffer
