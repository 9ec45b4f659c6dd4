import Mathlib.Data.Finset.Card

/-!
Finite partial maps of bounded capacity: at most `cap` keys are bound. An
insertion binds its key if the key is bound already or if there is room, and
else does nothing; bindings are removed by a filter.
-/

/-- A partial map with its finite domain, which the capacity bounds. -/
structure BoundedMap (κ ν : Type) [DecidableEq κ] (cap : Nat) where
  lookup : κ → Option ν
  dom : Finset κ
  mem_dom : ∀ k, k ∈ dom ↔ (lookup k).isSome
  card_le : dom.card ≤ cap

namespace BoundedMap

variable {κ ν : Type} [DecidableEq κ] {cap : Nat}

def empty : BoundedMap κ ν cap where
  lookup := fun _ => none
  dom := ∅
  mem_dom := by simp
  card_le := by simp

def Admits (m : BoundedMap κ ν cap) (k : κ) : Prop := k ∈ m.dom ∨ m.dom.card < cap

instance (m : BoundedMap κ ν cap) (k : κ) : Decidable (m.Admits k) :=
  inferInstanceAs (Decidable (k ∈ m.dom ∨ m.dom.card < cap))

/-- Bind `k` to `v` where the map admits it. -/
def insert (m : BoundedMap κ ν cap) (k : κ) (v : ν) : BoundedMap κ ν cap :=
  if h : m.Admits k then
    { lookup := fun q => if q = k then some v else m.lookup q
      dom := Insert.insert k m.dom
      mem_dom := by
        intro q
        by_cases hq : q = k <;> simp [hq, m.mem_dom]
      card_le := by
        obtain hmem | hroom := h
        · rw [Finset.insert_eq_of_mem hmem]
          exact m.card_le
        · exact Nat.le_trans (Finset.card_insert_le k m.dom) hroom }
  else m

def filter (m : BoundedMap κ ν cap) (p : ν → Bool) : BoundedMap κ ν cap where
  lookup := fun q => (m.lookup q).filter p
  dom := m.dom.filter fun q => ((m.lookup q).filter p).isSome
  mem_dom := by
    intro q
    rw [Finset.mem_filter, m.mem_dom]
    cases m.lookup q <;> simp
  card_le := Nat.le_trans (Finset.card_filter_le _ _) m.card_le

@[simp] theorem lookup_empty (k : κ) : (empty : BoundedMap κ ν cap).lookup k = none := rfl

@[simp] theorem lookup_filter (m : BoundedMap κ ν cap) (p : ν → Bool) (k : κ) :
    (m.filter p).lookup k = (m.lookup k).filter p := rfl

theorem lookup_insert (m : BoundedMap κ ν cap) (k : κ) (v : ν) (h : m.Admits k) (q : κ) :
    (m.insert k v).lookup q = if q = k then some v else m.lookup q := by
  rw [insert, dif_pos h]

theorem dom_insert (m : BoundedMap κ ν cap) (k : κ) (v : ν) (h : m.Admits k) :
    (m.insert k v).dom = Insert.insert k m.dom := by
  rw [insert, dif_pos h]

theorem insert_of_not_admits (m : BoundedMap κ ν cap) (k : κ) (v : ν) (h : ¬m.Admits k) :
    m.insert k v = m := by
  rw [insert, dif_neg h]

theorem lookup_insert_of_ne (m : BoundedMap κ ν cap) {k q : κ} (v : ν) (h : q ≠ k) :
    (m.insert k v).lookup q = m.lookup q := by
  by_cases hk : m.Admits k
  · rw [lookup_insert m k v hk, if_neg h]
  · rw [insert_of_not_admits m k v hk]

theorem lookup_insert_of_bound (m : BoundedMap κ ν cap) {k : κ} (v : ν)
    (h : (m.lookup k).isSome) : (m.insert k v).lookup k = some v := by
  rw [lookup_insert m k v (.inl ((m.mem_dom k).mpr h)), if_pos rfl]

end BoundedMap
