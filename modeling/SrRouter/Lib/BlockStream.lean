import Mathlib.Data.List.Basic
import Mathlib.Tactic.Common

/-!
Functions of a stream that take it block by block, and the buffer that feeds
one from a stream that comes in pieces.

`absorb n process s xs` starts in the state `s` and takes the complete blocks
of `n` elements of `xs`, first to last. A program that sees the stream element
by element keeps the elements of the block that is not complete in an array of
`n` places. `Buffer.Holds` relates what it keeps to the stream: what was taken
is a number of complete blocks, and what is behind it stands at the front of
the array. The places behind those hold what earlier blocks left there.
-/

namespace BlockStream

variable {α σ : Type*}

def blocks (n : Nat) (xs : List α) : List (List α) :=
  (List.range (xs.length / n)).map fun i => (xs.drop (n * i)).take n

def absorb (n : Nat) (process : σ → List α → σ) (s : σ) (xs : List α) : σ :=
  (blocks n xs).foldl process s

theorem blocks_nil (n : Nat) : blocks n ([] : List α) = [] := by
  simp [blocks]

theorem blocks_append {n : Nat} {xs : List α} (h : n ∣ xs.length) (ys : List α) :
    blocks n (xs ++ ys) = blocks n xs ++ blocks n ys := by
  obtain ⟨k, hk⟩ := h
  rcases n.eq_zero_or_pos with rfl | hn
  · have hnil : xs = [] := List.eq_nil_of_length_eq_zero (by rw [hk, Nat.zero_mul])
    rw [hnil, blocks_nil, List.nil_append, List.nil_append]
  · have hcount : (xs ++ ys).length / n = k + ys.length / n := by
      rw [List.length_append, hk, Nat.mul_add_div hn]
    have hxs : xs.length / n = k := by rw [hk, Nat.mul_div_cancel_left _ hn]
    rw [blocks, blocks, blocks, hcount, hxs, List.range_add, List.map_append, List.map_map]
    congr 1
    · refine List.map_congr_left fun i hi => ?_
      have hle : n * i + n ≤ xs.length := by
        rw [hk, ← Nat.mul_succ]
        exact Nat.mul_le_mul_left n (List.mem_range.mp hi)
      rw [List.drop_append_of_le_length (by omega),
        List.take_append_of_le_length (by rw [List.length_drop]; omega)]
    · refine List.map_congr_left fun i _ => ?_
      rw [Function.comp_apply, Nat.mul_add, ← hk, ← List.drop_drop, List.drop_left]

theorem blocks_one {n : Nat} (hn : 0 < n) {xs : List α} (h : xs.length = n) :
    blocks n xs = [xs] := by
  rw [blocks, h, Nat.div_self hn]
  simp [← h]

theorem absorb_nil (n : Nat) (process : σ → List α → σ) (s : σ) : absorb n process s [] = s := by
  rw [absorb, blocks_nil, List.foldl_nil]

theorem absorb_block {n : Nat} (hn : 0 < n) {xs ys : List α} (hxs : n ∣ xs.length)
    (hys : ys.length = n) (process : σ → List α → σ) (s : σ) :
    absorb n process s (xs ++ ys) = process (absorb n process s xs) ys := by
  rw [absorb, blocks_append hxs, blocks_one hn hys, List.foldl_append, List.foldl_cons,
    List.foldl_nil]
  rfl

/-! ### The buffer -/

structure Buffer (α σ : Type*) where
  state : σ
  block : List α
  index : Nat

namespace Buffer

/-- The next place of the block, filled. -/
def store (b : Buffer α σ) (x : α) : Buffer α σ :=
  { b with block := b.block.set b.index x, index := b.index + 1 }

/-- The block is taken, and the next one starts. -/
def flush (process : σ → List α → σ) (b : Buffer α σ) : Buffer α σ :=
  { b with state := process b.state b.block, index := 0 }

/-- Of a stream `xs ++ ys` the blocks of `xs` are taken, and `ys` stands in the
array. -/
structure Holds (n : Nat) (process : σ → List α → σ) (s : σ) (xs ys : List α)
    (b : Buffer α σ) : Prop where
  complete : n ∣ xs.length
  state : b.state = absorb n process s xs
  length : b.block.length = n
  index : b.index = ys.length
  le : ys.length ≤ n
  front : b.block.take ys.length = ys

variable {n : Nat} {process : σ → List α → σ} {s : σ} {xs ys : List α} {b : Buffer α σ}

theorem holds_nil (h : b.block.length = n) (hindex : b.index = 0) :
    Holds n process b.state [] [] b where
  complete := n.dvd_zero
  state := (absorb_nil ..).symm
  length := h
  index := hindex
  le := n.zero_le
  front := rfl

theorem Holds.store (h : Holds n process s xs ys b) (hlt : ys.length < n) (x : α) :
    Holds n process s xs (ys ++ [x]) (b.store x) where
  complete := h.complete
  state := h.state
  length := by rw [Buffer.store, List.length_set, h.length]
  index := by rw [Buffer.store, h.index, List.length_append, List.length_singleton]
  le := by
    rw [List.length_append, List.length_singleton]
    omega
  front := by
    have hin : ys.length < b.block.length := by
      rw [h.length]
      exact hlt
    show (b.block.set b.index x).take _ = _
    rw [h.index, List.length_append, List.length_singleton, List.take_add_one,
      List.take_set_of_le (Nat.le_refl _), h.front, List.getElem?_set_self hin]
    rfl

theorem Holds.flush (h : Holds n process s xs ys b) (hfull : ys.length = n) (hn : 0 < n) :
    Holds n process s (xs ++ ys) [] (b.flush process) where
  complete := by
    rw [List.length_append, hfull]
    exact Nat.dvd_add h.complete (Nat.dvd_refl n)
  state := by
    have hblock : b.block = ys := by
      rw [← h.front, List.take_of_length_le (by rw [h.length]; omega)]
    show process b.state b.block = _
    rw [hblock, h.state, absorb_block hn h.complete hfull]
  length := h.length
  index := rfl
  le := Nat.zero_le _
  front := rfl

theorem Holds.stores (h : Holds n process s xs ys b) (zs : List α)
    (hle : ys.length + zs.length ≤ n) :
    Holds n process s xs (ys ++ zs) (zs.foldl Buffer.store b) := by
  induction zs generalizing ys b with
  | nil =>
      rw [List.append_nil]
      exact h
  | cons z zs ih =>
      rw [List.length_cons] at hle
      have hstored := ih (h.store (by omega) z) (by
        rw [List.length_append, List.length_singleton]
        omega)
      rwa [List.append_assoc] at hstored

end Buffer

end BlockStream
