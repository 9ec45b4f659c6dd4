import Mathlib.Algebra.Group.Nat.Defs
import Mathlib.Data.List.Nodup
import SrRouter.Routes

/-!
The longest-prefix match in terms of prefix lengths.

The loop compares masks as numbers in host order. On contiguous masks that is
the comparison of prefix lengths, so the entry it finds has the longest prefix
of all that match. Two entries of one length that match the same address have
the same prefix; where the table has no prefix twice, the order of its entries
does not matter.
-/

namespace SrRouter

/-- The mask of the entry, in network byte order, is the contiguous prefix of
length `p`. -/
def SrRt.HasPrefixLen (rt : SrRt) (p : Nat) : Prop :=
  p ≤ 32 ∧ (ntohl rt.mask).toNat + 2 ^ (32 - p) = 2 ^ 32

/-- What an entry looks at and what it wants to see there. -/
def SrRt.netPrefix (rt : SrRt) : UInt32 × UInt32 := (rt.dest &&& rt.mask, rt.mask)

namespace SrRt.HasPrefixLen

variable {a b : SrRt} {p q : Nat}

/-- Masks compare like prefix lengths. -/
theorem lt_of_mask_lt (ha : a.HasPrefixLen p) (hb : b.HasPrefixLen q)
    (h : ntohl a.mask < ntohl b.mask) : p < q := by
  rw [UInt32.lt_iff_toNat_lt] at h
  apply Nat.lt_of_not_le
  intro hle
  have hpow : 2 ^ (32 - p) ≤ 2 ^ (32 - q) := Nat.pow_le_pow_right (by decide) (by omega)
  have hsum := ha.2.trans hb.2.symm
  omega

theorem le_of_mask_le (ha : a.HasPrefixLen p) (hb : b.HasPrefixLen q)
    (h : ntohl a.mask ≤ ntohl b.mask) : p ≤ q := by
  rw [UInt32.le_iff_toNat_le] at h
  apply Nat.le_of_not_lt
  intro hlt
  have hle := ha.1
  have hpow : 2 ^ (32 - p) < 2 ^ (32 - q) := Nat.pow_lt_pow_right (by decide) (by omega)
  have hsum := ha.2.trans hb.2.symm
  omega

end SrRt.HasPrefixLen

/-! ### The order of the table -/

/-- The entry matches, and none that matches has a larger mask. -/
def IsBest (routingTable : List SrRt) (ip : UInt32) (best : SrRt) : Prop :=
  best ∈ routingTable ∧ best.Matches ip ∧
    ∀ rt ∈ routingTable, rt.Matches ip → ntohl rt.mask ≤ ntohl best.mask

theorem IsLongestMatch.isBest {routingTable : List SrRt} {ip : UInt32} {best : SrRt}
    (h : IsLongestMatch routingTable ip best) : IsBest routingTable ip best := by
  obtain ⟨before, after, rfl, hmatch, hbefore, hafter⟩ := h
  refine ⟨by simp, hmatch, fun rt hrt hrtm => ?_⟩
  rcases List.mem_append.mp hrt with hrt | hrt
  · exact UInt32.le_of_lt (hbefore rt hrt hrtm)
  · rcases List.mem_cons.mp hrt with rfl | hrt
    · exact UInt32.le_refl _
    · exact hafter rt hrt hrtm

theorem IsBest.perm {routingTable routingTable' : List SrRt} {ip : UInt32} {best : SrRt}
    (h : IsBest routingTable ip best) (hperm : routingTable.Perm routingTable') :
    IsBest routingTable' ip best :=
  ⟨hperm.mem_iff.mp h.1, h.2.1, fun rt hrt => h.2.2 rt (hperm.mem_iff.mpr hrt)⟩

theorem IsBest.unique {routingTable : List SrRt} {ip : UInt32} {a b : SrRt}
    (hnodup : (routingTable.map SrRt.netPrefix).Nodup) (ha : IsBest routingTable ip a)
    (hb : IsBest routingTable ip b) : a = b := by
  have hmask : a.mask = b.mask := by
    apply ntohl_inj
    exact UInt32.le_antisymm (hb.2.2 a ha.1 ha.2.1) (ha.2.2 b hb.1 hb.2.1)
  have hdest : a.dest &&& a.mask = b.dest &&& b.mask := by
    have hmatch : ip &&& b.mask = b.dest &&& b.mask := hb.2.1
    rw [← hmatch, ← hmask]
    exact ha.2.1.symm
  apply List.inj_on_of_nodup_map hnodup ha.1 hb.1
  rw [SrRt.netPrefix, SrRt.netPrefix, hdest, hmask]

theorem srFindLpmRoute_perm {routingTable routingTable' : List SrRt}
    (hperm : routingTable.Perm routingTable')
    (hnodup : (routingTable.map SrRt.netPrefix).Nodup) (ip : UInt32) :
    srFindLpmRoute routingTable' ip = srFindLpmRoute routingTable ip := by
  cases hfind : srFindLpmRoute routingTable ip with
  | none =>
      rw [srFindLpmRoute_eq_none] at hfind ⊢
      exact fun rt hrt => hfind rt (hperm.mem_iff.mpr hrt)
  | some best =>
      have hbest := (srFindLpmRoute_eq_some.mp hfind).isBest
      cases hfind' : srFindLpmRoute routingTable' ip with
      | none =>
          rw [srFindLpmRoute_eq_none] at hfind'
          exact absurd hbest.2.1 (hfind' best (hperm.mem_iff.mp hbest.1))
      | some best' =>
          have hbest' := (srFindLpmRoute_eq_some.mp hfind').isBest.perm hperm.symm
          rw [hbest.unique hnodup hbest']

/-- **Longest-prefix match.** On a table of contiguous prefixes the lookup
fails exactly when no entry matches. The entry that it finds matches, none
that matches has a longer prefix, and those before it that match have shorter
ones. If no prefix is there twice, every order of the entries gives the same
route. -/
theorem srFindLpmRoute_longestPrefix (routingTable : List SrRt) (ip : UInt32)
    (hmasks : ∀ rt ∈ routingTable, ∃ p, rt.HasPrefixLen p) :
    (srFindLpmRoute routingTable ip = none ↔
      ∀ rt ∈ routingTable, ip &&& rt.mask ≠ rt.dest &&& rt.mask) ∧
    (∀ best, srFindLpmRoute routingTable ip = some best →
      ∃ before after p, routingTable = before ++ best :: after ∧
        ip &&& best.mask = best.dest &&& best.mask ∧ best.HasPrefixLen p ∧
        (∀ rt ∈ routingTable, ip &&& rt.mask = rt.dest &&& rt.mask →
          ∀ q, rt.HasPrefixLen q → q ≤ p) ∧
        ∀ rt ∈ before, ip &&& rt.mask = rt.dest &&& rt.mask →
          ∀ q, rt.HasPrefixLen q → q < p) ∧
    ((routingTable.map SrRt.netPrefix).Nodup →
      ∀ routingTable', routingTable.Perm routingTable' →
        srFindLpmRoute routingTable' ip = srFindLpmRoute routingTable ip) := by
  refine ⟨srFindLpmRoute_eq_none, fun best hfind => ?_, fun hnodup _ hperm =>
    srFindLpmRoute_perm hperm hnodup ip⟩
  have hlongest := srFindLpmRoute_eq_some.mp hfind
  have hbest := hlongest.isBest
  obtain ⟨before, after, htable, hmatch, hbefore, -⟩ := hlongest
  obtain ⟨p, hp⟩ := hmasks best hbest.1
  refine ⟨before, after, p, htable, hmatch, hp, fun rt hrt hrtm q hq => ?_,
    fun rt hrt hrtm q hq => ?_⟩
  · exact hq.le_of_mask_le hp (hbest.2.2 rt hrt hrtm)
  · exact hq.lt_of_mask_lt hp (hbefore rt hrt hrtm)

def defaultRoute : SrRt := { dest := 0, gw := 0x3202000a, mask := 0, interface := [101] }

def routeTo24 : SrRt := { dest := 0x0001000a, gw := 0, mask := 0x00ffffff, interface := [102] }

/-- The default route may stand before or behind the other one. -/
theorem srFindLpmRoute_longestPrefix_default :
    srFindLpmRoute [routeTo24, defaultRoute] 0x3201000a =
      srFindLpmRoute [defaultRoute, routeTo24] 0x3201000a := by
  refine (srFindLpmRoute_longestPrefix [defaultRoute, routeTo24] 0x3201000a ?_).2.2 (by decide) _
    (List.Perm.swap routeTo24 defaultRoute [])
  intro rt hrt
  rcases List.mem_cons.mp hrt with rfl | hrt
  · exact ⟨0, by decide, by decide⟩
  · rw [List.mem_singleton.mp hrt]
    exact ⟨24, by decide, by decide⟩

end SrRouter
