import Mathlib.Data.List.Nodup

/-!
Walks along a list that changes under them.

A loop over a linked list that may free the element it is at reads the pointer
to the next element before its body runs. Such a loop is correct when the body
leaves alone what is still to come: it may put new elements in front, and it
may keep or unlink the current one. `InPlace` is that discipline, for a list
whose elements are told apart by a key, and `walk` is the rule for the loop.
-/

namespace SavedNext

variable {α β σ τ : Type}

/-! ### The loop -/

section Loop

variable (next : σ → α → Option α) (body : α → σ → σ)

/-- From the element `a` on, for at most `fuel` turns. -/
def loop : Nat → Option α → σ → σ
  | _, none, s => s
  | 0, some _, s => s
  | fuel + 1, some a, s => loop fuel (next s a) (body a s)

/-- The elements that the loop is at, each with the state that it finds. -/
def visits : Nat → Option α → σ → List (α × σ)
  | _, none, _ => []
  | 0, some _, _ => []
  | fuel + 1, some a, s => (a, s) :: visits fuel (next s a) (body a s)

/-- The loop does what its visits do one after the other. -/
theorem loop_eq_foldl (fuel : Nat) (a : Option α) (s : σ) :
    loop next body fuel a s = (visits next body fuel a s).foldl (fun t v => body v.1 t) s := by
  induction fuel generalizing a s with
  | zero => cases a <;> rfl
  | succ fuel ih =>
      cases a with
      | none => rfl
      | some a =>
          rw [loop, visits, List.foldl_cons]
          exact ih _ _

end Loop

section Related

variable {next : σ → α → Option α} {body : α → σ → σ} {next' : τ → α → Option α}
  {body' : α → τ → τ}

/-- Two loops stay side by side when they read the same pointers and every turn
keeps their states related. -/
theorem loop_related {R : σ → τ → Prop} (hnext : ∀ s t a, R s t → next s a = next' t a)
    (hbody : ∀ s t a, R s t → R (body a s) (body' a t)) (fuel : Nat) (a : Option α) {s : σ} {t : τ}
    (h : R s t) : R (loop next body fuel a s) (loop next' body' fuel a t) := by
  induction fuel generalizing a s t with
  | zero => cases a <;> exact h
  | succ fuel ih =>
      cases a with
      | none => exact h
      | some a =>
          rw [loop, loop, hnext s t a h]
          exact ih _ (hbody s t a h)

theorem loop_invariant {I : σ → Prop} (hbody : ∀ s a, I s → I (body a s)) (fuel : Nat)
    (a : Option α) {s : σ} (h : I s) : I (loop next body fuel a s) := by
  have hnext : ∀ s t a, I s ∧ s = t → next s a = next t a := fun s t a h => by rw [h.2]
  have hturn : ∀ s t a, I s ∧ s = t → I (body a s) ∧ body a s = body a t :=
    fun s t a h => ⟨hbody s a h.1, by rw [h.2]⟩
  exact (loop_related hnext hturn fuel a ⟨h, rfl⟩).1

end Related

section Walk

variable (next : σ → α → Option α) (body : α → σ → σ) (key : β → α)
  {I : List β → List β → σ → Prop} {pre todo : List β} {s : σ} {fuel : Nat}

/-- **The rule of the walk.** Let `I pre todo s` say that the loop has been at
`pre` and `todo` is still to come. If the next pointer then leads to the second
of `todo`, and a turn for the first takes the loop on by one, all of `todo` is
visited, each element once and in order, and more turns would change nothing. -/
theorem walk (hnext : ∀ pre b todo s, I pre (b :: todo) s → next s (key b) = todo.head?.map key)
    (hturn : ∀ pre b todo s, I pre (b :: todo) s → I (pre ++ [b]) todo (body (key b) s))
    (h : I pre todo s) (hfuel : todo.length ≤ fuel) :
    I (pre ++ todo) [] (loop next body fuel (todo.head?.map key) s) ∧
      (visits next body fuel (todo.head?.map key) s).map Prod.fst = todo.map key ∧
      visits next body fuel (todo.head?.map key) s =
        visits next body todo.length (todo.head?.map key) s ∧
      ∀ v ∈ visits next body fuel (todo.head?.map key) s,
        ∃ pre b todo, I pre (b :: todo) v.2 ∧ v.1 = key b := by
  induction todo generalizing pre s fuel with
  | nil =>
      rw [List.head?_nil, Option.map_none, loop, visits, visits, List.append_nil]
      exact ⟨h, rfl, rfl, fun _ hv => absurd hv List.not_mem_nil⟩
  | cons b todo ih =>
      cases fuel with
      | zero => exact absurd hfuel (Nat.not_succ_le_zero _)
      | succ fuel =>
          obtain ⟨hend, hvisits, hsame, hall⟩ :=
            ih (hturn pre b todo s h) (Nat.le_of_succ_le_succ hfuel)
          rw [List.head?_cons, Option.map_some, List.length_cons, loop, visits, visits,
            hnext pre b todo s h]
          refine ⟨?_, ?_, ?_, List.forall_mem_cons.mpr ⟨⟨pre, b, todo, h, rfl⟩, hall⟩⟩
          · rw [List.append_cons]
            exact hend
          · rw [List.map_cons, List.map_cons, hvisits]
          · rw [hsame]

end Walk

/-! ### The list -/

section Follower

variable [DecidableEq α]

def follower (key : β → α) (l : List β) (a : α) : Option α :=
  ((l.dropWhile fun b => key b != a).tail.head?).map key

theorem follower_eq {key : β → α} {l : List β} {a : α} {front back : List α}
    (h : l.map key = front ++ a :: back) (hnotin : a ∉ front) :
    follower key l a = back.head? := by
  have hdrop : (l.dropWhile fun b => key b != a).map key =
      (l.map key).dropWhile fun b => b != a := by
    rw [List.dropWhile_map]
    rfl
  have hfront : ∀ b ∈ front, (b != a) = true := by
    intro b hb
    have hne : b ≠ a := fun heq => hnotin (heq ▸ hb)
    simpa using hne
  have hwhile : (l.map key).dropWhile (fun b => b != a) = a :: back := by
    rw [h, List.dropWhile_append_of_pos hfront]
    simp
  have htail := congrArg (fun l => l.tail.head?) (hdrop.trans hwhile)
  simpa [follower] using htail

end Follower

/-- The list is what the walk has kept and what is still to come, in order, with
new elements in front. -/
def InPlace (fresh : α → Prop) (kept todo l : List α) : Prop :=
  ∃ new, l = new ++ kept ++ todo ∧ ∀ a ∈ new, fresh a

namespace InPlace

variable {fresh : α → Prop} {kept todo l : List α} {a : α}

theorem start (l : List α) : InPlace fresh [] l l :=
  ⟨[], rfl, fun _ h => absurd h List.not_mem_nil⟩

theorem mem (h : InPlace fresh kept todo l) (ha : a ∈ todo) : a ∈ l := by
  obtain ⟨new, rfl, -⟩ := h
  exact List.mem_append_right _ ha

theorem split (h : InPlace fresh kept (a :: todo) l) (hnodup : l.Nodup) :
    ∃ new, l = new ++ kept ++ a :: todo ∧ (∀ b ∈ new, fresh b) ∧ a ∉ new ++ kept ∧ a ∉ todo := by
  obtain ⟨new, rfl, hnew⟩ := h
  rw [List.nodup_append] at hnodup
  exact ⟨new, rfl, hnew, fun hmem => hnodup.2.2 _ hmem _ List.mem_cons_self rfl,
    (List.nodup_cons.mp hnodup.2.1).1⟩

theorem prepend (h : InPlace fresh kept todo l) {front : List α} (hfront : ∀ b ∈ front, fresh b) :
    InPlace fresh kept todo (front ++ l) := by
  obtain ⟨new, rfl, hnew⟩ := h
  refine ⟨front ++ new, by simp only [List.append_assoc], fun b hb => ?_⟩
  obtain hb | hb := List.mem_append.mp hb
  · exact hfront b hb
  · exact hnew b hb

theorem keep (h : InPlace fresh kept (a :: todo) l) : InPlace fresh (kept ++ [a]) todo l := by
  obtain ⟨new, rfl, hnew⟩ := h
  exact ⟨new, by simp, hnew⟩

theorem erase [DecidableEq α] (h : InPlace fresh kept (a :: todo) l) (hnodup : l.Nodup) :
    InPlace fresh kept todo (l.erase a) := by
  obtain ⟨new, rfl, hnew, hnotin, -⟩ := h.split hnodup
  refine ⟨new, ?_, hnew⟩
  rw [List.erase_append_right _ hnotin, List.erase_cons_head]

theorem follower_eq [DecidableEq α] {key : β → α} {l : List β}
    (h : InPlace fresh kept (a :: todo) (l.map key)) (hnodup : (l.map key).Nodup) :
    follower key l a = todo.head? := by
  obtain ⟨new, hnew, -, hnotin, -⟩ := h.split hnodup
  exact SavedNext.follower_eq hnew hnotin

end InPlace

end SavedNext
