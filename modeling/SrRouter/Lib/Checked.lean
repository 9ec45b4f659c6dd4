import SrRouter.Lib.ByteBuffer
import SrRouter.Lib.Interactive

/-!
Memory accesses that are checked, and programs that can fault.

Each access of a byte buffer gets a partial form, which answers only if every
single byte it touches lies in the buffer. A subtraction of lengths gets one
too. A program that makes checked accesses ends in a fault as soon as one of
them has no answer.

`Faulting.Sound` compares such a program with one that makes no checks. It
says that the checks never fail and that the two programs make the same calls
with the same results, whatever is answered to them. Where that depends on
the shared state, `Faulting.SoundFrom` says it of the run from one state.
-/

namespace ByteBuffer

/-! ### Checked accesses -/

def load8? (b : Bytes) (i : Nat) : Option UInt8 :=
  if i < b.length then some (load8 b i) else none

def load16? (b : Bytes) (i : Nat) : Option UInt16 := do
  let b0 ← load8? b i
  let b1 ← load8? b (i + 1)
  return UInt16.ofNat (b0.toNat + 256 * b1.toNat)

def load32? (b : Bytes) (i : Nat) : Option UInt32 := do
  let b0 ← load8? b i
  let b1 ← load8? b (i + 1)
  let b2 ← load8? b (i + 2)
  let b3 ← load8? b (i + 3)
  return UInt32.ofNat (b0.toNat + 256 * b1.toNat + 65536 * b2.toNat + 16777216 * b3.toNat)

def blit? : Bytes → Nat → Bytes → Option Bytes
  | b, _, [] => some b
  | b, i, x :: xs => if i < b.length then blit? (b.set i x) (i + 1) xs else none

def slice? (b : Bytes) (i : Nat) : Nat → Option Bytes
  | 0 => some []
  | n + 1 => do
    let x ← load8? b i
    let xs ← slice? b (i + 1) n
    return x :: xs

def store8? (b : Bytes) (i : Nat) (v : UInt8) : Option Bytes := blit? b i [v]

def store16? (b : Bytes) (i : Nat) (v : UInt16) : Option Bytes := blit? b i (bytes16 v)

def store32? (b : Bytes) (i : Nat) (v : UInt32) : Option Bytes := blit? b i (bytes32 v)

/-- The difference of unsigned numbers, when it does not wrap. -/
def sub? (a b : Nat) : Option Nat := if b ≤ a then some (a - b) else none

/-! ### They answer within bounds -/

theorem load8?_eq {b : Bytes} {i : Nat} (h : i < b.length) : load8? b i = some (load8 b i) :=
  if_pos h

theorem load16?_eq {b : Bytes} {i : Nat} (h : i + 2 ≤ b.length) :
    load16? b i = some (load16 b i) := by
  rw [load16?, load8?_eq (by omega), load8?_eq (by omega)]
  rfl

theorem load32?_eq {b : Bytes} {i : Nat} (h : i + 4 ≤ b.length) :
    load32? b i = some (load32 b i) := by
  rw [load32?, load8?_eq (by omega), load8?_eq (by omega), load8?_eq (by omega),
    load8?_eq (by omega)]
  rfl

theorem blit?_eq {b : Bytes} {i : Nat} {xs : Bytes} (h : i + xs.length ≤ b.length) :
    blit? b i xs = some (blit b i xs) := by
  induction xs generalizing b i with
  | nil => rfl
  | cons x xs ih =>
      rw [List.length_cons] at h
      rw [blit?, if_pos (by omega), ih (by rw [List.length_set]; omega), blit]

theorem store16?_eq {b : Bytes} {i : Nat} {v : UInt16} (h : i + 2 ≤ b.length) :
    store16? b i v = some (store16 b i v) := blit?_eq h

theorem store32?_eq {b : Bytes} {i : Nat} {v : UInt32} (h : i + 4 ≤ b.length) :
    store32? b i v = some (store32 b i v) := blit?_eq h

theorem slice_succ {b : Bytes} {i : Nat} (h : i < b.length) (n : Nat) :
    slice b i (n + 1) = load8 b i :: slice b (i + 1) n := by
  rw [slice, List.drop_eq_getElem_cons h, List.take_succ_cons, load8, List.getD_eq_getElem?_getD,
    List.getElem?_eq_getElem h]
  rfl

theorem slice?_eq {b : Bytes} {i n : Nat} (h : i + n ≤ b.length) :
    slice? b i n = some (slice b i n) := by
  induction n generalizing i with
  | zero => simp [slice?, slice]
  | succ n ih =>
      rw [slice?, load8?_eq (by omega), ih (by omega), slice_succ (by omega)]
      rfl

theorem slice_zero_length (b : Bytes) : slice b 0 b.length = b := by
  rw [slice, List.drop_zero, List.take_length]

theorem sub?_eq {a b : Nat} (h : b ≤ a) : sub? a b = some (a - b) := if_pos h

/-! ### Sequences of accesses

In a sequence each answer is handed on to the rest. These rules go from the
front of a sequence to its end, so that `simp` can apply them before it looks
at what comes after. -/

section

variable {γ : Type} {b : Bytes} {i : Nat}

theorem load8?_bind (f : UInt8 → Option γ) (h : i + 1 ≤ b.length) :
    (load8? b i >>= f) = f (load8 b i) := by
  rw [load8?_eq h, Option.bind_eq_bind, Option.bind_some]

theorem load16?_bind (f : UInt16 → Option γ) (h : i + 2 ≤ b.length) :
    (load16? b i >>= f) = f (load16 b i) := by
  rw [load16?_eq h, Option.bind_eq_bind, Option.bind_some]

theorem load32?_bind (f : UInt32 → Option γ) (h : i + 4 ≤ b.length) :
    (load32? b i >>= f) = f (load32 b i) := by
  rw [load32?_eq h, Option.bind_eq_bind, Option.bind_some]

theorem blit?_bind {xs : Bytes} (f : Bytes → Option γ) (h : i + xs.length ≤ b.length) :
    (blit? b i xs >>= f) = f (blit b i xs) := by
  rw [blit?_eq h, Option.bind_eq_bind, Option.bind_some]

theorem store8?_bind {v : UInt8} (f : Bytes → Option γ) (h : i + 1 ≤ b.length) :
    (store8? b i v >>= f) = f (store8 b i v) := by
  rw [store8?, blit?_eq h, Option.bind_eq_bind, Option.bind_some, store8]

theorem store16?_bind {v : UInt16} (f : Bytes → Option γ) (h : i + 2 ≤ b.length) :
    (store16? b i v >>= f) = f (store16 b i v) := by
  rw [store16?_eq h, Option.bind_eq_bind, Option.bind_some]

theorem store32?_bind {v : UInt32} (f : Bytes → Option γ) (h : i + 4 ≤ b.length) :
    (store32? b i v >>= f) = f (store32 b i v) := by
  rw [store32?_eq h, Option.bind_eq_bind, Option.bind_some]

theorem slice?_bind {n : Nat} (f : Bytes → Option γ) (h : i + n ≤ b.length) :
    (slice? b i n >>= f) = f (slice b i n) := by
  rw [slice?_eq h, Option.bind_eq_bind, Option.bind_some]

theorem sub?_bind {m n : Nat} (f : Nat → Option γ) (h : n ≤ m) :
    (sub? m n >>= f) = f (m - n) := by
  rw [sub?_eq h, Option.bind_eq_bind, Option.bind_some]

end

end ByteBuffer

namespace Interactive

variable {Op : Type} {Res : Op → Type} {α β σ : Type}

/-- A program that may end in a fault. -/
abbrev Faulting (Res : Op → Type) (α : Type) := OptionT (Prog Res) α

namespace Faulting

def access (o : Option α) : Faulting Res α := OptionT.mk (.pure o)

def calls (p : Prog Res α) : Faulting Res α := OptionT.lift p

@[simp] theorem access_some (a : α) (f : α → Faulting Res β) :
    access (some a) >>= f = f a := rfl

/-- The program never faults, and makes the calls that `q` makes. -/
def Sound (p : Faulting Res α) (q : Prog Res α) : Prop :=
  p.run = q.bind fun a => .pure (some a)

/-- The same, of the run from the state `s`. -/
def SoundFrom (exec : (o : Op) → σ → Res o × σ) (s : σ) (p : Faulting Res α)
    (q : Prog Res α) : Prop :=
  p.run.run exec s = (some (q.run exec s).1, (q.run exec s).2)

theorem Sound.pure (a : α) : Sound (Pure.pure a : Faulting Res α) (.pure a) := rfl

theorem Sound.calls (p : Prog Res α) : Sound (calls p) p := rfl

theorem Sound.ite {c : Prop} [Decidable c] {p p' : Faulting Res α} {q q' : Prog Res α}
    (hthen : c → Sound p q) (helse : ¬c → Sound p' q') :
    Sound (if c then p else p') (if c then q else q') := by
  split
  · next h => exact hthen h
  · next h => exact helse h

/-- What follows a program that may have ended in a fault. -/
def unlessFault (f : α → Faulting Res β) : Option α → Prog Res (Option β)
  | some a => (f a).run
  | none => .pure none

theorem run_bind (p : Faulting Res α) (f : α → Faulting Res β) :
    (p >>= f).run = p.run.bind (unlessFault f) := by
  refine congrArg (Prog.bind p.run) (funext fun r => ?_)
  cases r <;> rfl

theorem Sound.bind {p : Faulting Res α} {q : Prog Res α} {f : α → Faulting Res β}
    {g : α → Prog Res β} (hp : Sound p q) (hf : ∀ a, Sound (f a) (g a)) :
    Sound (p >>= f) (q.bind g) := by
  rw [Sound, run_bind, hp, Prog.bind_assoc, Prog.bind_assoc]
  exact congrArg q.bind (funext hf)

variable {exec : (o : Op) → σ → Res o × σ} {s : σ}

theorem Sound.soundFrom {p : Faulting Res α} {q : Prog Res α} (h : Sound p q) :
    SoundFrom exec s p q := by
  rw [SoundFrom, h, Prog.run_bind, Prog.run_pure]

theorem SoundFrom.ite {c : Prop} [Decidable c] {p p' : Faulting Res α} {q q' : Prog Res α}
    (hthen : c → SoundFrom exec s p q) (helse : ¬c → SoundFrom exec s p' q') :
    SoundFrom exec s (if c then p else p') (if c then q else q') := by
  split
  · next h => exact hthen h
  · next h => exact helse h

theorem SoundFrom.bind {p : Faulting Res α} {q : Prog Res α} {f : α → Faulting Res β}
    {g : α → Prog Res β} (hp : SoundFrom exec s p q)
    (hf : SoundFrom exec (q.run exec s).2 (f (q.run exec s).1) (g (q.run exec s).1)) :
    SoundFrom exec s (p >>= f) (q.bind g) := by
  rw [SoundFrom, run_bind, Prog.run_bind, hp, Prog.run_bind]
  exact hf

end Faulting

end Interactive
