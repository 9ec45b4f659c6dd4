import SrRouter.Interfaces

/-!
What `sr_find_lpm_route` finds. The loop keeps the best entry of the part of
the table it has seen; the entry it ends with has the largest mask of all
entries that match, and is the first of those in the table.
-/

namespace SrRouter

def SrRt.Matches (rt : SrRt) (ip : UInt32) : Prop := ip &&& rt.mask = rt.dest &&& rt.mask

instance (rt : SrRt) (ip : UInt32) : Decidable (rt.Matches ip) :=
  inferInstanceAs (Decidable (ip &&& rt.mask = rt.dest &&& rt.mask))

/-- The entry is the first of those that match with the largest mask. -/
def IsLongestMatch (routingTable : List SrRt) (ip : UInt32) (best : SrRt) : Prop :=
  ∃ before after, routingTable = before ++ best :: after ∧ best.Matches ip ∧
    (∀ rt ∈ before, rt.Matches ip → ntohl rt.mask < ntohl best.mask) ∧
    ∀ rt ∈ after, rt.Matches ip → ntohl rt.mask ≤ ntohl best.mask

def LpmState (routingTable : List SrRt) (ip : UInt32) : Option SrRt × UInt32 → Prop
  | (none, _) => ∀ rt ∈ routingTable, ¬rt.Matches ip
  | (some best, mask) => mask = ntohl best.mask ∧ IsLongestMatch routingTable ip best

theorem lpmTurn_eq (ip : UInt32) (best : Option SrRt × UInt32) (rt : SrRt) :
    lpmTurn ip best rt = if rt.Matches ip ∧ (best.1 = none ∨ best.2 < ntohl rt.mask)
      then (some rt, ntohl rt.mask) else best := by
  unfold lpmTurn
  refine if_congr ?_ rfl rfl
  simp only [SrRt.Matches, Bool.and_eq_true, beq_iff_eq, Bool.or_eq_true,
    Option.isNone_iff_eq_none, decide_eq_true_eq, gt_iff_lt]

theorem lpmTurn_spec {seen : List SrRt} {ip : UInt32} {best : Option SrRt × UInt32} (rt : SrRt)
    (h : LpmState seen ip best) : LpmState (seen ++ [rt]) ip (lpmTurn ip best rt) := by
  obtain ⟨best, mask⟩ := best
  rw [lpmTurn_eq]
  cases best with
  | none =>
      have hnone : ∀ rt ∈ seen, ¬rt.Matches ip := h
      by_cases hmatch : rt.Matches ip
      · rw [if_pos ⟨hmatch, .inl rfl⟩]
        exact ⟨rfl, seen, [], by simp, hmatch, fun q hq hqm => absurd hqm (hnone q hq), by simp⟩
      · rw [if_neg fun hbetter => hmatch hbetter.1]
        intro q hq
        obtain hq | hq := List.mem_append.mp hq
        · exact hnone q hq
        · rw [List.mem_singleton.mp hq]
          exact hmatch
  | some best =>
      obtain ⟨rfl, before, after, rfl, hbest, hbefore, hafter⟩ := h
      split
      · next hbetter =>
          obtain ⟨hmatch, hempty | hlarger⟩ := hbetter
          · cases hempty
          refine ⟨rfl, before ++ best :: after, [], rfl, hmatch, ?_, by simp⟩
          intro q hq hqm
          obtain hq | hq := List.mem_append.mp hq
          · exact UInt32.lt_trans (hbefore q hq hqm) hlarger
          · obtain rfl | hq := List.mem_cons.mp hq
            · exact hlarger
            · exact UInt32.lt_of_le_of_lt (hafter q hq hqm) hlarger
      · next hworse =>
          refine ⟨rfl, before, after ++ [rt], by simp, hbest, hbefore, ?_⟩
          intro q hq hqm
          obtain hq | hq := List.mem_append.mp hq
          · exact hafter q hq hqm
          · rw [List.mem_singleton.mp hq] at hqm ⊢
            exact UInt32.not_lt.mp fun hlt => hworse ⟨hqm, .inr hlt⟩

theorem lpmLoop_spec (routingTable seen : List SrRt) (ip : UInt32)
    (best : Option SrRt × UInt32) (h : LpmState seen ip best) :
    LpmState (seen ++ routingTable) ip (routingTable.foldl (lpmTurn ip) best) := by
  induction routingTable generalizing seen best with
  | nil => simpa using h
  | cons rt routingTable ih =>
      have hrest := ih (seen ++ [rt]) (lpmTurn ip best rt) (lpmTurn_spec rt h)
      rwa [List.append_assoc, List.singleton_append] at hrest

theorem lpmState_srFindLpmRoute (routingTable : List SrRt) (ip : UInt32) :
    LpmState routingTable ip (routingTable.foldl (lpmTurn ip) (none, 0)) :=
  lpmLoop_spec routingTable [] ip (none, 0) fun _ h => absurd h List.not_mem_nil

theorem srFindLpmRoute_eq_none {routingTable : List SrRt} {ip : UInt32} :
    srFindLpmRoute routingTable ip = none ↔ ∀ rt ∈ routingTable, ¬rt.Matches ip := by
  have h := lpmState_srFindLpmRoute routingTable ip
  unfold srFindLpmRoute
  generalize routingTable.foldl (lpmTurn ip) (none, 0) = state at h ⊢
  obtain ⟨_ | best, mask⟩ := state
  · exact iff_of_true rfl h
  · obtain ⟨-, before, after, rfl, hbest, -⟩ := h
    exact iff_of_false (Option.some_ne_none best) fun hnone => hnone best (by simp) hbest

theorem IsLongestMatch.unique {routingTable : List SrRt} {ip : UInt32} {a b : SrRt}
    (ha : IsLongestMatch routingTable ip a) (hb : IsLongestMatch routingTable ip b) : a = b := by
  obtain ⟨before, after, rfl, hamatch, habefore, haafter⟩ := ha
  obtain ⟨before', after', hsplit, hbmatch, hbbefore, hbafter⟩ := hb
  obtain ⟨mid, rfl, hmid⟩ | ⟨mid, rfl, hmid⟩ := List.append_eq_append_iff.mp hsplit
  · cases mid with
    | nil => exact (List.cons.inj hmid).1
    | cons c mid =>
        obtain ⟨rfl, rfl⟩ := List.cons.inj hmid
        have hlt := hbbefore a (by simp) hamatch
        have hle := haafter b (by simp) hbmatch
        exact absurd hlt (UInt32.not_lt.mpr hle)
  · cases mid with
    | nil => exact (List.cons.inj hmid).1.symm
    | cons c mid =>
        obtain ⟨rfl, rfl⟩ := List.cons.inj hmid
        have hlt := habefore b (by simp) hbmatch
        have hle := hbafter a (by simp) hamatch
        exact absurd hlt (UInt32.not_lt.mpr hle)

/-- **The lookup finds the longest match.** -/
theorem srFindLpmRoute_eq_some {routingTable : List SrRt} {ip : UInt32} {best : SrRt} :
    srFindLpmRoute routingTable ip = some best ↔ IsLongestMatch routingTable ip best := by
  have h := lpmState_srFindLpmRoute routingTable ip
  unfold srFindLpmRoute
  generalize routingTable.foldl (lpmTurn ip) (none, 0) = state at h ⊢
  obtain ⟨_ | found, mask⟩ := state
  · refine iff_of_false (Option.some_ne_none best).symm fun hbest => ?_
    obtain ⟨before, after, rfl, hmatch, -⟩ := hbest
    exact h best (by simp) hmatch
  · refine ⟨fun heq => ?_, fun hbest => congrArg some (h.2.unique hbest)⟩
    obtain rfl : found = best := Option.some.inj heq
    exact h.2

theorem mem_of_srFindLpmRoute {routingTable : List SrRt} {ip : UInt32} {best : SrRt}
    (h : srFindLpmRoute routingTable ip = some best) : best ∈ routingTable := by
  obtain ⟨before, after, rfl, -⟩ := srFindLpmRoute_eq_some.mp h
  simp

end SrRouter
