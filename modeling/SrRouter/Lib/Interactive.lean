import Mathlib.Logic.Relation
import Mathlib.Tactic.Common

/-!
Interactive programs: a program is a tree of calls to a signature of shared
operations, each continued by what the operation answers.

The same program has two meanings. `Prog.run` performs all its operations at
once on the shared state, which is how a program behaves while it holds the
lock throughout. `Interleaved` performs them one at a time, and lets the
environment step in between any two of them, which is how it behaves when
only the single operations are protected.

What holds of a program whatever the environment does is stated by a
`Discipline`: a small automaton, run along the calls of the program, with a
guard for each call. `Prog.Obeys` checks a program against a discipline by
recursion on its tree, without any state; `Interleaved.invariant` then turns
an invariant relating the automaton to the shared state into an invariant of
every interleaving.
-/

namespace Interactive

variable {Op : Type} {Res : Op → Type} {α β σ γ : Type}

/-- A program over the operations `Op`, where `o` is answered in `Res o`. -/
inductive Prog (Res : Op → Type) (α : Type) : Type
  | pure (a : α)
  | call (o : Op) (next : Res o → Prog Res α)

namespace Prog

def bind : Prog Res α → (α → Prog Res β) → Prog Res β
  | .pure a, f => f a
  | .call o next, f => .call o fun r => (next r).bind f

instance : Monad (Prog Res) where
  pure := .pure
  bind := bind

@[simp] theorem pure_def (a : α) : (Pure.pure a : Prog Res α) = .pure a := rfl

@[simp] theorem bind_def (p : Prog Res α) (f : α → Prog Res β) : p >>= f = p.bind f := rfl

@[simp] theorem pure_bind (a : α) (f : α → Prog Res β) : (Prog.pure a).bind f = f a := rfl

@[simp] theorem call_bind (o : Op) (next : Res o → Prog Res α) (f : α → Prog Res β) :
    (Prog.call o next).bind f = .call o fun r => (next r).bind f := rfl

theorem bind_assoc (p : Prog Res α) (f : α → Prog Res β) (g : β → Prog Res γ) :
    (p.bind f).bind g = p.bind fun a => (f a).bind g := by
  induction p with
  | pure a => rfl
  | call o next ih => exact congrArg (Prog.call o) (funext ih)

def perform (o : Op) : Prog Res (Res o) := .call o .pure

/-! ### Running a program at once -/

/-- Perform every operation of the program in order, with nothing between. -/
def run (exec : (o : Op) → σ → Res o × σ) : Prog Res α → σ → α × σ
  | .pure a, s => (a, s)
  | .call o next, s => (next (exec o s).1).run exec (exec o s).2

variable {exec : (o : Op) → σ → Res o × σ}

@[simp] theorem run_pure (a : α) (s : σ) : (Prog.pure a : Prog Res α).run exec s = (a, s) := rfl

@[simp] theorem run_call (o : Op) (next : Res o → Prog Res α) (s : σ) :
    (Prog.call o next).run exec s = (next (exec o s).1).run exec (exec o s).2 := rfl

@[simp] theorem run_perform (o : Op) (s : σ) :
    (perform o : Prog Res (Res o)).run exec s = exec o s := rfl

@[simp] theorem run_bind (p : Prog Res α) (f : α → Prog Res β) (s : σ) :
    (p.bind f).run exec s = (f (p.run exec s).1).run exec (p.run exec s).2 := by
  induction p generalizing s with
  | pure a => rfl
  | call o next ih => exact ih _ _

/-! ### Disciplines -/

end Prog

/-- An automaton that watches the calls of a program: `guard` says which
operations it may perform next, `next` how its answer moves the automaton. -/
structure Discipline (Res : Op → Type) (γ : Type) where
  guard : γ → Op → Prop
  next : γ → (o : Op) → Res o → γ

namespace Prog

variable {D : Discipline Res γ}

/-- Every call of the program meets its guard, whatever the operations
answer, and the program ends in a state of the automaton and with a result
related by `Q`. -/
def Obeys (D : Discipline Res γ) (Q : γ → α → Prop) : γ → Prog Res α → Prop
  | g, .pure a => Q g a
  | g, .call o next => D.guard g o ∧ ∀ r, (next r).Obeys D Q (D.next g o r)

@[simp] theorem obeys_pure {Q : γ → α → Prop} {g : γ} {a : α} :
    (Prog.pure a : Prog Res α).Obeys D Q g ↔ Q g a := Iff.rfl

@[simp] theorem obeys_call {Q : γ → α → Prop} {g : γ} {o : Op} {next : Res o → Prog Res α} :
    (Prog.call o next).Obeys D Q g ↔
      D.guard g o ∧ ∀ r, (next r).Obeys D Q (D.next g o r) := Iff.rfl

@[simp] theorem obeys_perform {o : Op} {Q : γ → Res o → Prop} {g : γ} :
    (perform o : Prog Res (Res o)).Obeys D Q g ↔ D.guard g o ∧ ∀ r, Q (D.next g o r) r := Iff.rfl

theorem Obeys.mono {Q Q' : γ → α → Prop} {p : Prog Res α} {g : γ}
    (h : p.Obeys D Q g) (hQ : ∀ g a, Q g a → Q' g a) : p.Obeys D Q' g := by
  induction p generalizing g with
  | pure a => exact hQ _ _ h
  | call o next ih => exact ⟨h.1, fun r => ih r (h.2 r)⟩

theorem Obeys.bind {Q : γ → α → Prop} {Q' : γ → β → Prop} {p : Prog Res α}
    {f : α → Prog Res β} {g : γ} (h : p.Obeys D Q g)
    (hf : ∀ g a, Q g a → (f a).Obeys D Q' g) : (p.bind f).Obeys D Q' g := by
  induction p generalizing g with
  | pure a => exact hf _ _ h
  | call o next ih => exact ⟨h.1, fun r => ih r (h.2 r)⟩

/-- **The run rule.** An invariant that every guarded operation keeps holds
after a run of a program that obeys. -/
theorem Obeys.run {Q : γ → α → Prop} {I : γ → σ → Prop}
    (hexec : ∀ g o s, I g s → D.guard g o → I (D.next g o (exec o s).1) (exec o s).2)
    {p : Prog Res α} {g : γ} {s : σ} (h : p.Obeys D Q g) (hI : I g s) :
    ∃ g', I g' (p.run exec s).2 ∧ Q g' (p.run exec s).1 := by
  induction p generalizing g s with
  | pure a => exact ⟨g, hI, h⟩
  | call o next ih => exact ih _ (h.2 _) (hexec g o s hI h.1)

end Prog

/-! ### Interleaving one program with an environment -/

/-- A thread part of the way through a program, and the shared state. -/
structure Conf (Res : Op → Type) (σ : Type) where
  prog : Prog Res Unit
  state : σ

/-- What surrounds the thread: how an operation runs, which operations of
the thread have no meaning in a state because what they refer to is gone,
what the environment may do while the thread is at a given point, and which
programs an idle thread may start. -/
structure World (Res : Op → Type) (σ : Type) where
  exec : (o : Op) → σ → Res o × σ
  dangles : Op → σ → Prop
  env : Prog Res Unit → σ → σ → Prop
  start : σ → Prog Res Unit → Prop

variable {W : World Res σ}

/-- One step of the interleaving. An operation that dangles is answered with
an arbitrary value and changes nothing. -/
inductive Interleaved (W : World Res σ) : Conf Res σ → Conf Res σ → Prop
  | thread {o : Op} {next : Res o → Prog Res Unit} {s : σ} (h : ¬W.dangles o s) :
      Interleaved W ⟨.call o next, s⟩ ⟨next (W.exec o s).1, (W.exec o s).2⟩
  | dangling {o : Op} {next : Res o → Prog Res Unit} {s : σ} (h : W.dangles o s) (r : Res o) :
      Interleaved W ⟨.call o next, s⟩ ⟨next r, s⟩
  | env {p : Prog Res Unit} {s s' : σ} (h : W.env p s s') : Interleaved W ⟨p, s⟩ ⟨p, s'⟩
  | start {p : Prog Res Unit} {s : σ} (h : W.start s p) : Interleaved W ⟨.pure (), s⟩ ⟨p, s⟩

def Interleaved.Reaches (W : World Res σ) : Conf Res σ → Conf Res σ → Prop :=
  Relation.ReflTransGen (Interleaved W)

/-- The thread's remaining program obeys the discipline, and ends in `Q`, from
some state of the automaton that the invariant relates to the shared state. -/
def Conf.Within (D : Discipline Res γ) (Q : γ → Prop) (I : γ → σ → Prop) (c : Conf Res σ) :
    Prop :=
  ∃ g, I g c.state ∧ c.prog.Obeys D (fun g _ => Q g) g

/-- **The invariant rule.** An invariant between automaton and state that
every guarded operation, every dangling answer and every environment step
keeps, and that a starting program establishes, holds throughout. -/
theorem Interleaved.invariant {D : Discipline Res γ} {Q : γ → Prop} {I : γ → σ → Prop}
    (hexec : ∀ g o s, I g s → D.guard g o → ¬W.dangles o s →
      I (D.next g o (W.exec o s).1) (W.exec o s).2)
    (hdangle : ∀ g o s r, I g s → D.guard g o → W.dangles o s → I (D.next g o r) s)
    (henv : ∀ g p s s', I g s → p.Obeys D (fun g _ => Q g) g → W.env p s s' → I g s')
    (hstart : ∀ g s p, I g s → Q g → W.start s p →
      ∃ g', I g' s ∧ p.Obeys D (fun g _ => Q g) g')
    {c c' : Conf Res σ} (hc : c.Within D Q I) (hreach : Interleaved.Reaches W c c') :
    c'.Within D Q I := by
  induction hreach with
  | refl => exact hc
  | tail _ hstep ih =>
      obtain ⟨g, hI, hobeys⟩ := ih
      cases hstep with
      | thread h => exact ⟨_, hexec g _ _ hI hobeys.1 h, hobeys.2 _⟩
      | dangling h r => exact ⟨_, hdangle g _ _ r hI hobeys.1 h, hobeys.2 r⟩
      | env h => exact ⟨g, henv g _ _ _ hI hobeys h, hobeys⟩
      | start h => exact hstart g _ _ hI hobeys h

end Interactive
