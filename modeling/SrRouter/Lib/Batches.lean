import Mathlib.Tactic.Common
import Mathlib.Data.List.Nodup

/-!
Items that wait in batches and leave last in, first out.

Items come to a gate. Some pass at once. The others are held, all that wait at
one time in one batch, and the items of a batch are sent one after the other,
the last one first. What happens is a list of acts, and `Orderly` says of
such a list that it follows these rules.

The point of the module is `Orderly.order`: in an orderly list two items are
sent in the order in which they came, except that two items of one batch are
sent in the other order. The rest are rules to show that a list is orderly,
one for each way to go on. They keep track of the batch that waits with
`Stacked`.
-/

namespace Batches

variable {α β : Type}

inductive Act (α β : Type)
  /-- An item passes at once. -/
  | pass
  /-- The item `a` is held in the batch `b`. -/
  | hold (b : β) (a : α)
  /-- The item `a`, that was held, is sent. -/
  | send (a : α)
  /-- Something else happens. -/
  | other

def Act.arrives : Act α β → Bool
  | .pass => true
  | .hold _ _ => true
  | _ => false

/-- Whether an act may come next. A new item is held in a batch of which
nothing was sent yet. An item is sent once, and everything that came behind
it waited in the same batch and was sent already. -/
def Allowed (before : List (Act α β)) : Act α β → Prop
  | .hold b a => (∀ x ∈ before, x ≠ .send a ∧ ∀ b', x ≠ .hold b' a) ∧
      ∀ a', .hold b a' ∈ before → .send a' ∉ before
  | .send a => .send a ∉ before ∧ ∃ b front back, before = front ++ .hold b a :: back ∧
      ∀ x ∈ back, x.arrives = true → ∃ a', x = .hold b a' ∧ .send a' ∈ before
  | _ => True

inductive Orderly : List (Act α β) → Prop
  | nil : Orderly []
  | concat {acts : List (Act α β)} {x : Act α β} (h : Orderly acts) (hx : Allowed acts x) :
      Orderly (acts ++ [x])

/-! ### The order of what is sent -/

/-- The item that came as the `i`-th act is sent by the `m`-th: it passed, or
it waited in this batch. -/
inductive SentAt (acts : List (Act α β)) (i : Nat) : Option β → Nat → Prop
  | passed (h : acts[i]? = some .pass) : SentAt acts i none i
  | waited {b : β} {a : α} {m : Nat} (hheld : acts[i]? = some (.hold b a))
      (hsent : acts[m]? = some (.send a)) : SentAt acts i (some b) m

def Together (b b' : Option β) : Prop := ∃ x, b = some x ∧ b' = some x

namespace Orderly

variable {acts : List (Act α β)}

theorem allowed (h : Orderly acts) {i : Nat} {x : Act α β} (hx : acts[i]? = some x) :
    Allowed (acts.take i) x := by
  induction h with
  | nil => cases hx
  | @concat acts y h hy ih =>
      obtain ⟨hlt, -⟩ := List.getElem?_eq_some_iff.mp hx
      rw [List.length_append, List.length_singleton] at hlt
      by_cases hi : i < acts.length
      · rw [List.getElem?_append_left hi] at hx
        rw [List.take_append_of_le_length (Nat.le_of_lt hi)]
        exact ih hx
      · obtain rfl : i = acts.length := by omega
        rw [List.getElem?_concat_length] at hx
        obtain rfl := Option.some.inj hx
        rw [List.take_left]
        exact hy

theorem mem_take {i m : Nat} {x : Act α β} (hx : acts[i]? = some x) (him : i < m) :
    x ∈ acts.take m := by
  refine List.mem_iff_getElem?.mpr ⟨i, ?_⟩
  rw [List.getElem?_take, if_pos him, hx]

theorem hold_unique (h : Orderly acts) {i j : Nat} {b b' : β} {a : α}
    (hi : acts[i]? = some (.hold b a)) (hj : acts[j]? = some (.hold b' a)) : i = j := by
  rcases Nat.lt_trichotomy i j with hij | hij | hij
  · exact absurd rfl (((h.allowed hj).1 _ (mem_take hi hij)).2 b)
  · exact hij
  · exact absurd rfl (((h.allowed hi).1 _ (mem_take hj hij)).2 b')

theorem send_unique (h : Orderly acts) {i j : Nat} {a : α}
    (hi : acts[i]? = some (.send a)) (hj : acts[j]? = some (.send a)) : i = j := by
  rcases Nat.lt_trichotomy i j with hij | hij | hij
  · exact absurd (mem_take hi hij) (h.allowed hj).1
  · exact hij
  · exact absurd (mem_take hj hij) (h.allowed hi).1

theorem send_spec (h : Orderly acts) {i m : Nat} {b : β} {a : α}
    (hheld : acts[i]? = some (.hold b a)) (hsent : acts[m]? = some (.send a)) :
    i < m ∧ ∀ j x, i < j → j < m → acts[j]? = some x → x.arrives = true →
      ∃ a' m', x = .hold b a' ∧ m' < m ∧ acts[m']? = some (.send a') := by
  obtain ⟨-, b', front, back, htake, hback⟩ := h.allowed hsent
  have hfront : (acts.take m)[front.length]? = some (.hold b' a) := by
    rw [htake, List.getElem?_append_right (Nat.le_refl _), Nat.sub_self]
    rfl
  rw [List.getElem?_take] at hfront
  split at hfront
  · next hlt =>
      -- this is where the item was held
      obtain rfl := h.hold_unique hheld hfront
      obtain rfl : b = b' := by
        have heq := Option.some.inj (hheld.symm.trans hfront)
        injection heq
      refine ⟨hlt, fun j x hij hjm hx harrives => ?_⟩
      have hin : x ∈ back := by
        have hread : (acts.take m)[j]? = some x := by rw [List.getElem?_take, if_pos hjm, hx]
        rw [htake, List.getElem?_append_right (Nat.le_of_lt hij)] at hread
        obtain ⟨n, hn⟩ : ∃ n, j - front.length = n + 1 := ⟨j - front.length - 1, by omega⟩
        rw [hn, List.getElem?_cons_succ] at hread
        exact List.mem_iff_getElem?.mpr ⟨n, hread⟩
      obtain ⟨a', rfl, hmem⟩ := hback x hin harrives
      obtain ⟨m', hm'⟩ := List.mem_iff_getElem?.mp hmem
      rw [List.getElem?_take] at hm'
      split at hm'
      · next hlt' => exact ⟨a', m', rfl, hlt', hm'⟩
      · cases hm'
  · cases hfront

/-- **The order.** Of two items that are sent the one that came first is sent
first, unless they waited in one batch; then it is sent last. -/
theorem order (h : Orderly acts) {i j m m' : Nat} {b b' : Option β} (hij : i < j)
    (hi : SentAt acts i b m) (hj : SentAt acts j b' m') :
    (¬Together b b' ∧ m < m') ∨ (Together b b' ∧ m' < m) := by
  have hle : j ≤ m' := by
    cases hj with
    | passed => exact Nat.le_refl _
    | waited hheld hsent => exact Nat.le_of_lt (h.send_spec hheld hsent).1
  cases hi with
  | passed =>
      refine .inl ⟨?_, Nat.lt_of_lt_of_le hij hle⟩
      rintro ⟨x, hx, -⟩
      cases hx
  | @waited b a m hheld hsent =>
      obtain ⟨-, hbehind⟩ := h.send_spec hheld hsent
      rcases Nat.lt_trichotomy j m with hjm | rfl | hmj
      · -- it came while the first one waited
        cases hj with
        | passed hpass =>
            obtain ⟨a', -, heq, -⟩ := hbehind j _ hij hjm hpass rfl
            cases heq
        | @waited b' a' m' hheld' hsent' =>
            obtain ⟨a'', m'', heq, hlt, hsent''⟩ := hbehind j _ hij hjm hheld' rfl
            obtain ⟨rfl, rfl⟩ : b' = b ∧ a' = a'' := by
              injection heq with hb ha
              exact ⟨hb, ha⟩
            obtain rfl := h.send_unique hsent' hsent''
            exact .inr ⟨⟨b', rfl, rfl⟩, hlt⟩
      · cases hj with
        | passed hpass =>
            rw [hsent] at hpass
            cases hpass
        | waited hheld' =>
            rw [hsent] at hheld'
            cases hheld'
      · -- it came after the first one was sent
        refine .inl ⟨?_, Nat.lt_of_lt_of_le hmj hle⟩
        rintro ⟨x, hx, rfl⟩
        obtain rfl := Option.some.inj hx
        cases hj with
        | waited hheld' =>
            exact (h.allowed hheld').2 a (mem_take hheld hij) (mem_take hsent hmj)

end Orderly

/-! ### The batch that waits -/

/-- The items wait in the batch, the last one in front: they are what came to
the gate since the batch was opened. -/
def Stacked (b : β) (items : List α) (acts : List (Act α β)) : Prop :=
  (∃ before after, acts = before ++ after ∧ (∀ a, .hold b a ∉ before) ∧
    after.filter Act.arrives = items.reverse.map (.hold b)) ∧
  ∀ a ∈ items, .send a ∉ acts

namespace Stacked

variable {acts : List (Act α β)} {b : β} {items : List α}

theorem opened (h : ∀ a, .hold b a ∉ acts) : Stacked b [] acts :=
  ⟨⟨acts, [], (List.append_nil acts).symm, h, rfl⟩, fun _ h => absurd h List.not_mem_nil⟩

theorem other (h : Stacked b items acts) : Stacked b items (acts ++ [.other]) := by
  obtain ⟨⟨before, after, rfl, hbefore, hafter⟩, hsent⟩ := h
  refine ⟨⟨before, after ++ [.other], List.append_assoc .., hbefore, ?_⟩, fun a ha hmem => ?_⟩
  · rw [List.filter_append, hafter]
    exact List.append_nil _
  · obtain hmem | hmem := List.mem_append.mp hmem
    · exact hsent a ha hmem
    · cases List.mem_singleton.mp hmem

theorem others (h : Stacked b items acts) (n : Nat) :
    Stacked b items (acts ++ List.replicate n .other) := by
  induction n with
  | zero =>
      rw [List.replicate_zero, List.append_nil]
      exact h
  | succ n ih =>
      rw [List.replicate_succ', ← List.append_assoc]
      exact ih.other

theorem hold (h : Stacked b items acts) {a : α} (hnew : .send a ∉ acts) :
    Stacked b (a :: items) (acts ++ [.hold b a]) := by
  obtain ⟨⟨before, after, rfl, hbefore, hafter⟩, hsent⟩ := h
  refine ⟨⟨before, after ++ [.hold b a], List.append_assoc .., hbefore, ?_⟩, fun a' ha' hmem => ?_⟩
  · rw [List.filter_append, hafter, List.reverse_cons, List.map_append]
    rfl
  · obtain hold | hmem := List.mem_append.mp hmem
    · obtain rfl | ha' := List.mem_cons.mp ha'
      · exact hnew hold
      · exact hsent a' ha' hold
    · cases List.mem_singleton.mp hmem

/-- Everything that was ever put in the batch waits in it. -/
theorem mem_items (h : Stacked b items acts) {a : α} (ha : .hold b a ∈ acts) : a ∈ items := by
  obtain ⟨⟨before, after, rfl, hbefore, hafter⟩, -⟩ := h
  have hin := (List.mem_append.mp ha).resolve_left (hbefore a)
  have hmem : Act.hold b a ∈ after.filter Act.arrives := List.mem_filter.mpr ⟨hin, rfl⟩
  rw [hafter] at hmem
  obtain ⟨a', ha', heq⟩ := List.mem_map.mp hmem
  injection heq with _ heq
  exact heq ▸ List.mem_reverse.mp ha'

end Stacked

namespace Orderly

variable {acts : List (Act α β)} {b : β} {items : List α}

theorem other (h : Orderly acts) : Orderly (acts ++ [.other]) := h.concat trivial

theorem others (h : Orderly acts) (n : Nat) : Orderly (acts ++ List.replicate n .other) := by
  induction n with
  | zero =>
      rw [List.replicate_zero, List.append_nil]
      exact h
  | succ n ih =>
      rw [List.replicate_succ', ← List.append_assoc]
      exact ih.other

theorem pass (h : Orderly acts) : Orderly (acts ++ [.pass]) := h.concat trivial

theorem hold (h : Orderly acts) (hheld : Stacked b items acts) {a : α}
    (hnew : ∀ x ∈ acts, x ≠ .send a ∧ ∀ b', x ≠ .hold b' a) : Orderly (acts ++ [.hold b a]) :=
  h.concat ⟨hnew, fun _ ha' => hheld.2 _ (hheld.mem_items ha')⟩

theorem allowed_send {done todo : List α} {a : α} (hheld : Stacked b (done ++ a :: todo) acts)
    (hnodup : (done ++ a :: todo).Nodup) : Allowed (acts ++ done.map .send) (.send a) := by
  obtain ⟨⟨before, after, rfl, -, hafter⟩, hsent⟩ := hheld
  rw [List.nodup_append] at hnodup
  have hnot : a ∉ done := fun ha => hnodup.2.2 a ha a List.mem_cons_self rfl
  rw [List.reverse_append, List.reverse_cons, List.append_assoc, List.map_append,
    List.filter_eq_append_iff] at hafter
  obtain ⟨early, late, rfl, -, hlate⟩ := hafter
  rw [List.map_append] at hlate
  obtain ⟨skipped, back, rfl, -, -, hback⟩ := List.filter_eq_cons_iff.mp hlate
  refine ⟨fun hmem => ?_, b, before ++ early ++ skipped, back ++ done.map .send, by simp, ?_⟩
  · obtain hmem | hmem := List.mem_append.mp hmem
    · exact hsent a (by simp) hmem
    · obtain ⟨a', ha', heq⟩ := List.mem_map.mp hmem
      injection heq with heq
      exact hnot (heq ▸ ha')
  · intro x hx harrives
    obtain hx | hx := List.mem_append.mp hx
    · have hmem : x ∈ back.filter Act.arrives := List.mem_filter.mpr ⟨hx, harrives⟩
      rw [hback] at hmem
      obtain ⟨a', ha', rfl⟩ := List.mem_map.mp hmem
      exact ⟨a', rfl, List.mem_append_right _
        (List.mem_map_of_mem (List.mem_reverse.mp ha'))⟩
    · obtain ⟨a', -, rfl⟩ := List.mem_map.mp hx
      cases harrives

theorem sendAll (h : Orderly acts) (hheld : Stacked b items acts) (hnodup : items.Nodup) :
    Orderly (acts ++ items.map .send) := by
  suffices hall : ∀ todo done, items = done ++ todo → Orderly (acts ++ done.map .send) →
      Orderly (acts ++ items.map .send) from hall items [] rfl (by simpa using h)
  intro todo
  induction todo with
  | nil =>
      intro done hsplit hdone
      rw [hsplit, List.append_nil]
      exact hdone
  | cons a todo ih =>
      intro done hsplit hdone
      refine ih (done ++ [a]) (by rw [hsplit, List.append_assoc]; rfl) ?_
      rw [List.map_append, ← List.append_assoc]
      exact hdone.concat (allowed_send (hsplit ▸ hheld) (hsplit ▸ hnodup))

end Orderly

end Batches
