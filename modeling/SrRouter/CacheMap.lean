import SrRouter.ArpCache
import SrRouter.Lib.BoundedMap

/-!
The ARP cache as a bounded map from IP addresses to hardware addresses with
the time at which they were learned.

The array of entries represents a map as long as no two valid entries have
the same IP. Then it does not matter that the lookup takes the last match
while the insertion stops at the first one, and an insertion overwrites the
entry of its IP even when a free slot comes before it.
-/

namespace SrRouter

/-- The bindings of the cache. -/
abbrev CacheMap := BoundedMap UInt32 (Mac × Int) srArpcacheSz

def SrArpentry.Binds (e : SrArpentry) (ip : UInt32) : Prop := e.valid = true ∧ e.ip = ip

def boundIps (entries : List SrArpentry) : List UInt32 :=
  (entries.filter SrArpentry.valid).map SrArpentry.ip

theorem mem_boundIps {entries : List SrArpentry} {ip : UInt32} :
    ip ∈ boundIps entries ↔ ∃ e ∈ entries, e.Binds ip := by
  simp [boundIps, SrArpentry.Binds, and_assoc]

theorem boundIps_append (l l' : List SrArpentry) :
    boundIps (l ++ l') = boundIps l ++ boundIps l' := by
  simp [boundIps]

theorem boundIps_cons_of_valid {e : SrArpentry} (h : e.valid = true) (l : List SrArpentry) :
    boundIps (e :: l) = e.ip :: boundIps l := by
  simp [boundIps, h]

theorem boundIps_cons_of_not {e : SrArpentry} (h : e.valid = false) (l : List SrArpentry) :
    boundIps (e :: l) = boundIps l := by
  simp [boundIps, h]

theorem length_boundIps_le (l : List SrArpentry) : (boundIps l).length ≤ l.length := by
  rw [boundIps, List.length_map]
  exact List.length_filter_le _ _

/-! ### Lookup -/

theorem lookupEntries_append (ip : UInt32) (l : List SrArpentry) (e : SrArpentry) :
    lookupEntries ip (l ++ [e]) =
      if e.valid && e.ip == ip then some e else lookupEntries ip l := by
  simp [lookupEntries, List.foldl_append]

theorem lookupEntries_spec (ip : UInt32) (entries : List SrArpentry) :
    (∃ e ∈ entries, e.Binds ip ∧ lookupEntries ip entries = some e) ∨
      (∀ e ∈ entries, ¬e.Binds ip) ∧ lookupEntries ip entries = none := by
  induction entries using List.reverseRecOn with
  | nil => exact .inr ⟨fun _ h => absurd h List.not_mem_nil, rfl⟩
  | append_singleton l e ih =>
      rw [lookupEntries_append]
      by_cases he : e.Binds ip
      · refine .inl ⟨e, by simp, he, ?_⟩
        rw [if_pos (by simpa [SrArpentry.Binds] using he)]
      · rw [if_neg (by simpa [SrArpentry.Binds] using he)]
        obtain ⟨q, hq, hbinds, hlookup⟩ | ⟨hnone, hlookup⟩ := ih
        · exact .inl ⟨q, List.mem_append_left _ hq, hbinds, hlookup⟩
        · refine .inr ⟨fun q hq => ?_, hlookup⟩
          obtain hq | hq := List.mem_append.mp hq
          · exact hnone q hq
          · exact List.mem_singleton.mp hq ▸ he

theorem srArpcacheLookup_eq_none {cache : SrArpcache} {ip : UInt32} :
    srArpcacheLookup cache ip = none ↔ ∀ e ∈ cache.entries, ¬e.Binds ip := by
  obtain ⟨e, he, hbinds, hlookup⟩ | ⟨hnone, hlookup⟩ := lookupEntries_spec ip cache.entries
  · rw [srArpcacheLookup, hlookup]
    exact ⟨nofun, fun h => absurd hbinds (h e he)⟩
  · exact ⟨fun _ => hnone, fun _ => hlookup⟩

/-! ### Slots -/

theorem findSlot_of_match {ip : UInt32} {e : SrArpentry} (he : e.Binds ip)
    (before after : List SrArpentry) (hbefore : ∀ q ∈ before, ¬q.Binds ip) (i : Nat)
    (slot : Option Nat) :
    findSlot ip (before ++ e :: after) i slot = some (i + before.length) := by
  induction before generalizing i slot with
  | nil =>
      rw [List.nil_append, findSlot, if_pos (by simpa [SrArpentry.Binds] using he)]
      rfl
  | cons q before ih =>
      obtain ⟨hq, hbefore⟩ := List.forall_mem_cons.mp hbefore
      rw [List.cons_append, findSlot, if_neg (by simpa [SrArpentry.Binds] using hq),
        ih hbefore]
      simp only [List.length_cons, Option.some.injEq]
      omega

theorem findSlot_of_some {ip : UInt32} {entries : List SrArpentry}
    (h : ∀ q ∈ entries, ¬q.Binds ip) (i k : Nat) : findSlot ip entries i (some k) = some k := by
  induction entries generalizing i with
  | nil => rfl
  | cons q entries ih =>
      obtain ⟨hq, h⟩ := List.forall_mem_cons.mp h
      rw [findSlot, if_neg (by simpa [SrArpentry.Binds] using hq)]
      exact ih h _

theorem findSlot_of_free {ip : UInt32} {e : SrArpentry} (he : e.valid = false)
    (before after : List SrArpentry) (hbefore : ∀ q ∈ before, q.valid = true ∧ ¬q.Binds ip)
    (hafter : ∀ q ∈ after, ¬q.Binds ip) (i : Nat) :
    findSlot ip (before ++ e :: after) i none = some (i + before.length) := by
  induction before generalizing i with
  | nil =>
      rw [List.nil_append, findSlot, if_neg (by simp [he]), if_pos (by simp [he])]
      exact findSlot_of_some hafter _ _
  | cons q before ih =>
      obtain ⟨⟨hvalid, hq⟩, hbefore⟩ := List.forall_mem_cons.mp hbefore
      rw [List.cons_append, findSlot, if_neg (by simpa [SrArpentry.Binds] using hq),
        if_neg (by simp [hvalid]), ih hbefore]
      simp only [List.length_cons, Option.some.injEq]
      omega

theorem findSlot_of_full {ip : UInt32} {entries : List SrArpentry}
    (h : ∀ q ∈ entries, q.valid = true ∧ ¬q.Binds ip) (i : Nat) :
    findSlot ip entries i none = none := by
  induction entries generalizing i with
  | nil => rfl
  | cons q entries ih =>
      obtain ⟨⟨hvalid, hq⟩, h⟩ := List.forall_mem_cons.mp h
      rw [findSlot, if_neg (by simpa [SrArpentry.Binds] using hq), if_neg (by simp [hvalid])]
      exact ih h _

theorem exists_first {α : Type} {p : α → Prop} [DecidablePred p] {l : List α}
    (h : ∃ a ∈ l, p a) : ∃ before a after, l = before ++ a :: after ∧ p a ∧
      ∀ b ∈ before, ¬p b := by
  induction l with
  | nil => simp at h
  | cons b l ih =>
      by_cases hb : p b
      · exact ⟨[], b, l, rfl, hb, fun _ h => absurd h List.not_mem_nil⟩
      · obtain ⟨a, ha, hpa⟩ := h
        have hmem := (List.mem_cons.mp ha).resolve_left fun heq => hb (heq ▸ hpa)
        obtain ⟨before, c, after, rfl, hc, hbefore⟩ := ih ⟨a, hmem, hpa⟩
        exact ⟨b :: before, c, after, rfl, hc, List.forall_mem_cons.mpr ⟨hb, hbefore⟩⟩

instance (e : SrArpentry) (ip : UInt32) : Decidable (e.Binds ip) :=
  inferInstanceAs (Decidable (e.valid = true ∧ e.ip = ip))

/-- **What an insertion does to the slots.** It replaces the first valid entry
for its address, or else the first free slot, or else nothing. -/
theorem insertEntry_cases (now : Int) (mac : Mac) (ip : UInt32) (entries : List SrArpentry) :
    (∃ before e after, entries = before ++ e :: after ∧
      (e.Binds ip ∨ e.valid = false ∧ ∀ q ∈ entries, ¬q.Binds ip) ∧
      insertEntry now mac ip entries =
        before ++ { mac := mac, ip := ip, added := now, valid := true } :: after) ∨
    (∀ q ∈ entries, q.valid = true ∧ ¬q.Binds ip) ∧ insertEntry now mac ip entries = entries := by
  by_cases hmatch : ∃ e ∈ entries, e.Binds ip
  · obtain ⟨before, e, after, rfl, he, hbefore⟩ := exists_first hmatch
    refine .inl ⟨before, e, after, rfl, .inl he, ?_⟩
    rw [insertEntry, findSlot_of_match he before after hbefore]
    simp
  · have hnone : ∀ q ∈ entries, ¬q.Binds ip := fun q hq hb => hmatch ⟨q, hq, hb⟩
    by_cases hfree : ∃ e ∈ entries, e.valid = false
    · obtain ⟨before, e, after, rfl, he, hbefore⟩ := exists_first hfree
      refine .inl ⟨before, e, after, rfl, .inr ⟨he, hnone⟩, ?_⟩
      rw [insertEntry, findSlot_of_free he before after
        (fun q hq => ⟨by simpa using hbefore q hq, hnone q (List.mem_append_left _ hq)⟩)
        (fun q hq => hnone q (List.mem_append_right _ (List.mem_cons_of_mem _ hq)))]
      simp
    · have hfull : ∀ q ∈ entries, q.valid = true ∧ ¬q.Binds ip := by
        refine fun q hq => ⟨?_, hnone q hq⟩
        by_contra hvalid
        exact hfree ⟨q, hq, by simpa using hvalid⟩
      refine .inr ⟨hfull, ?_⟩
      rw [insertEntry, findSlot_of_full hfull]

theorem srArpcacheLookup_insert_eq_none {cache : SrArpcache} {ip q : UInt32} (hne : q ≠ ip)
    (h : srArpcacheLookup cache q = none) (now : Int) (mac : Mac) :
    srArpcacheLookup (srArpcacheInsert cache now mac ip).2 q = none := by
  rw [srArpcacheLookup_eq_none] at h ⊢
  obtain ⟨before, e, after, hsplit, -, hinsert⟩ | ⟨-, hinsert⟩ :=
    insertEntry_cases now mac ip cache.entries
  · rw [hsplit] at h
    intro b hb
    simp only [srArpcacheInsert, hinsert, List.mem_append, List.mem_cons] at hb
    obtain hb | rfl | hb := hb
    · exact h b (List.mem_append_left _ hb)
    · exact fun hbinds => hne hbinds.2.symm
    · exact h b (List.mem_append_right _ (List.mem_cons_of_mem _ hb))
  · simpa only [srArpcacheInsert, hinsert] using h

/-! ### Expiry -/

def current (curtime : Int) (b : Mac × Int) : Bool := !decide (curtime - b.2 > srArpcacheTo)

theorem expireEntries_cons (curtime : Int) (e : SrArpentry) (l : List SrArpentry) :
    expireEntries curtime (e :: l) =
      (if e.valid && decide (curtime - e.added > srArpcacheTo) then { e with valid := false }
        else e) :: expireEntries curtime l := rfl

theorem mem_expireEntries {curtime : Int} {l : List SrArpentry} {q : SrArpentry}
    (hvalid : q.valid = true) :
    q ∈ expireEntries curtime l ↔ q ∈ l ∧ current curtime (q.mac, q.added) = true := by
  induction l with
  | nil => simp [expireEntries]
  | cons e l ih =>
      rw [expireEntries_cons, List.mem_cons, List.mem_cons, ih]
      split
      · next hold =>
        have hleft : q ≠ { e with valid := false } := fun heq => by simp [heq] at hvalid
        have hright : q = e → current curtime (q.mac, q.added) ≠ true := by
          rintro rfl
          rw [hvalid, Bool.true_and] at hold
          rw [current, hold]
          exact Bool.noConfusion
        tauto
      · next hold =>
        have hcurrent : q = e → current curtime (q.mac, q.added) = true := by
          rintro rfl
          rw [hvalid, Bool.true_and, Bool.not_eq_true] at hold
          rw [current, hold]
          rfl
        tauto

theorem boundIps_expireEntries (curtime : Int) (l : List SrArpentry) :
    List.Sublist (boundIps (expireEntries curtime l)) (boundIps l) := by
  induction l with
  | nil => exact List.Sublist.slnil
  | cons e l ih =>
      rw [expireEntries_cons]
      split
      · next hold =>
        have he : e.valid = true := by
          simp only [Bool.and_eq_true] at hold
          exact hold.1
        rw [boundIps_cons_of_not rfl, boundIps_cons_of_valid he]
        exact ih.cons _
      · cases he : e.valid with
        | true => rw [boundIps_cons_of_valid he, boundIps_cons_of_valid he]; exact ih.cons_cons _
        | false => rw [boundIps_cons_of_not he, boundIps_cons_of_not he]; exact ih

theorem srArpcacheLookup_expire_eq_none {cache : SrArpcache} {q : UInt32}
    (h : srArpcacheLookup cache q = none) (curtime : Int) :
    srArpcacheLookup (srArpcacheExpire cache curtime) q = none := by
  rw [srArpcacheLookup_eq_none] at h ⊢
  exact fun e he hbinds => h e ((mem_expireEntries hbinds.1).mp he).1 hbinds

/-! ### The entries as a map -/

/-- The entries hold the bindings of the map, each in one slot. -/
structure Represents (entries : List SrArpentry) (m : CacheMap) : Prop where
  nodup : (boundIps entries).Nodup
  dom : m.dom = (boundIps entries).toFinset
  binding : ∀ e ∈ entries, e.valid = true → m.lookup e.ip = some (e.mac, e.added)

def bindingEntry (ip : UInt32) (b : Mac × Int) : SrArpentry :=
  { mac := b.1, ip := ip, added := b.2, valid := true }

namespace Represents

variable {entries : List SrArpentry} {m : CacheMap}

theorem init : Represents srArpcacheInit.entries BoundedMap.empty := by
  have hvalid : ∀ e ∈ srArpcacheInit.entries, e.valid = false := fun e he => by
    rw [List.eq_of_mem_replicate he]
    rfl
  have hnone : boundIps srArpcacheInit.entries = [] := by
    simp only [boundIps, List.map_eq_nil_iff, List.filter_eq_nil_iff]
    intro e he
    simp [hvalid e he]
  refine ⟨by simp [hnone], by simp [hnone, BoundedMap.empty], fun e he hv => ?_⟩
  simp [hvalid e he] at hv

theorem lookup_isSome (h : Represents entries m) (ip : UInt32) :
    (m.lookup ip).isSome ↔ ∃ e ∈ entries, e.Binds ip := by
  rw [← m.mem_dom, h.dom, List.mem_toFinset, mem_boundIps]

theorem card_dom (h : Represents entries m) : m.dom.card = (boundIps entries).length := by
  rw [h.dom, List.toFinset_card_of_nodup h.nodup]

/-- **Lookup.** The last match is the only one, so the lookup answers with the
binding of the map. -/
theorem lookup (h : Represents entries m) (ip : UInt32) :
    lookupEntries ip entries = (m.lookup ip).map (bindingEntry ip) := by
  obtain ⟨e, he, hbinds, hlookup⟩ | ⟨hnone, hlookup⟩ := lookupEntries_spec ip entries
  · obtain ⟨hvalid, rfl⟩ := hbinds
    rw [hlookup, h.binding e he hvalid, Option.map_some, bindingEntry, ← hvalid]
  · have hm : m.lookup ip = none := by
      rw [← Option.not_isSome_iff_eq_none, h.lookup_isSome]
      exact fun ⟨e, he, hbinds⟩ => hnone e he hbinds
    rw [hlookup, hm, Option.map_none]

theorem overwrite {before after : List SrArpentry} {e : SrArpentry}
    (h : Represents (before ++ e :: after) m) {ip : UInt32} (he : e.Binds ip) (now : Int)
    (mac : Mac) :
    Represents (before ++ bindingEntry ip (mac, now) :: after) (m.insert ip (mac, now)) := by
  have hips : boundIps (before ++ bindingEntry ip (mac, now) :: after) =
      boundIps (before ++ e :: after) := by
    rw [boundIps_append, boundIps_append, boundIps_cons_of_valid he.1,
      boundIps_cons_of_valid rfl, he.2]
    rfl
  have hbound : ip ∈ m.dom := by
    rw [h.dom, List.mem_toFinset, mem_boundIps]
    exact ⟨e, by simp, he⟩
  refine ⟨hips ▸ h.nodup, ?_, fun q hq hvalid => ?_⟩
  · rw [BoundedMap.dom_insert m ip _ (.inl hbound), Finset.insert_eq_of_mem hbound, h.dom, hips]
  · -- Another valid entry has another address, by uniqueness.
    have hother : ∀ q ∈ before ++ after, q.valid = true → q.ip ≠ ip := by
      intro q hq hvalid heq
      have hnd := h.nodup
      rw [boundIps_append, boundIps_cons_of_valid he.1, he.2] at hnd
      have hnot := (List.nodup_middle.mp hnd).notMem
      rw [← boundIps_append] at hnot
      exact hnot (mem_boundIps.mpr ⟨q, hq, hvalid, heq⟩)
    have hsplit : q = bindingEntry ip (mac, now) ∨ q ∈ before ++ after := by
      simp only [List.mem_append, List.mem_cons] at hq ⊢
      tauto
    obtain rfl | hq := hsplit
    · exact BoundedMap.lookup_insert_of_bound m _ ((m.mem_dom ip).mp hbound)
    · rw [BoundedMap.lookup_insert_of_ne m _ (hother q hq hvalid)]
      refine h.binding q ?_ hvalid
      simp only [List.mem_append, List.mem_cons] at hq ⊢
      tauto

theorem occupy {before after : List SrArpentry} {e : SrArpentry}
    (h : Represents (before ++ e :: after) m)
    (hlength : (before ++ e :: after).length = srArpcacheSz) {ip : UInt32}
    (he : e.valid = false) (hnone : ∀ q ∈ before ++ e :: after, ¬q.Binds ip) (now : Int)
    (mac : Mac) :
    Represents (before ++ bindingEntry ip (mac, now) :: after) (m.insert ip (mac, now)) := by
  have hold : boundIps (before ++ e :: after) = boundIps before ++ boundIps after := by
    rw [boundIps_append, boundIps_cons_of_not he]
  have hnew : boundIps (before ++ bindingEntry ip (mac, now) :: after) =
      boundIps before ++ ip :: boundIps after := by
    rw [boundIps_append, boundIps_cons_of_valid rfl]
    rfl
  have hfresh : ip ∉ boundIps before ++ boundIps after := by
    rw [← hold, mem_boundIps]
    exact fun ⟨q, hq, hbinds⟩ => hnone q hq hbinds
  have hroom : m.dom.card < srArpcacheSz := by
    rw [h.card_dom, hold, List.length_append]
    rw [List.length_append, List.length_cons] at hlength
    have hbefore := length_boundIps_le before
    have hafter := length_boundIps_le after
    omega
  refine ⟨?_, ?_, fun q hq hvalid => ?_⟩
  · rw [hnew]
    exact List.nodup_middle.mpr (List.nodup_cons.mpr ⟨hfresh, hold ▸ h.nodup⟩)
  · rw [BoundedMap.dom_insert m ip _ (.inr hroom), h.dom, hold, hnew]
    ext q
    simp only [Finset.mem_insert, List.mem_toFinset, List.mem_append, List.mem_cons]
    tauto
  · rw [BoundedMap.lookup_insert m ip _ (.inr hroom)]
    simp only [List.mem_append, List.mem_cons] at hq
    by_cases hip : q.ip = ip
    · have heq : q = bindingEntry ip (mac, now) := by
        by_contra hne
        refine hnone q ?_ ⟨hvalid, hip⟩
        simp only [List.mem_append, List.mem_cons]
        tauto
      rw [if_pos hip, heq]
      rfl
    · have hne : q ≠ bindingEntry ip (mac, now) := fun heq => hip (heq ▸ rfl)
      rw [if_neg hip]
      refine h.binding q ?_ hvalid
      simp only [List.mem_append, List.mem_cons]
      tauto

/-- **Insertion.** The slot search realises the insertion of the map: over
the entry of the address, or else into a free slot, or else not at all. -/
theorem insert (h : Represents entries m) (hlength : entries.length = srArpcacheSz) (now : Int)
    (mac : Mac) (ip : UInt32) :
    Represents (insertEntry now mac ip entries) (m.insert ip (mac, now)) := by
  obtain ⟨before, e, after, rfl, he, hinsert⟩ | ⟨hfull, hinsert⟩ :=
    insertEntry_cases now mac ip entries
  · rw [hinsert]
    obtain he | ⟨he, hnone⟩ := he
    · exact h.overwrite he now mac
    · exact h.occupy hlength he hnone now mac
  · have hips : boundIps entries = entries.map SrArpentry.ip := by
      rw [boundIps, List.filter_eq_self.mpr fun q hq => (hfull q hq).1]
    have hcard : m.dom.card = srArpcacheSz := by
      rw [h.card_dom, hips, List.length_map, hlength]
    have hunbound : ip ∉ m.dom := by
      rw [h.dom, List.mem_toFinset, mem_boundIps]
      exact fun ⟨q, hq, hbinds⟩ => (hfull q hq).2 hbinds
    have hadmits : ¬m.Admits ip := by
      rintro (hmem | hroom)
      · exact hunbound hmem
      · omega
    rw [hinsert, BoundedMap.insert_of_not_admits m ip _ hadmits]
    exact h

/-- **Expiry.** A pass removes the bindings that are too old. -/
theorem expire (h : Represents entries m) (curtime : Int) :
    Represents (expireEntries curtime entries) (m.filter (current curtime)) := by
  refine ⟨(boundIps_expireEntries curtime entries).nodup h.nodup, ?_, fun q hq hvalid => ?_⟩
  · ext ip
    rw [BoundedMap.mem_dom, BoundedMap.lookup_filter, List.mem_toFinset, mem_boundIps]
    constructor
    · intro hsome
      obtain ⟨b, hb⟩ := Option.isSome_iff_exists.mp hsome
      obtain ⟨hb, hcurrent⟩ := Option.filter_eq_some_iff.mp hb
      obtain ⟨e, he, hvalid, rfl⟩ := (h.lookup_isSome ip).mp (by rw [hb]; rfl)
      have heq : (e.mac, e.added) = b := by simpa [h.binding e he hvalid] using hb
      exact ⟨e, (mem_expireEntries hvalid).mpr ⟨he, heq ▸ hcurrent⟩, hvalid, rfl⟩
    · rintro ⟨e, he, hvalid, rfl⟩
      obtain ⟨he, hcurrent⟩ := (mem_expireEntries hvalid).mp he
      rw [h.binding e he hvalid, Option.filter_some, if_pos hcurrent]
      rfl
  · obtain ⟨hq, hcurrent⟩ := (mem_expireEntries hvalid).mp hq
    rw [BoundedMap.lookup_filter, h.binding q hq hvalid, Option.filter_some, if_pos hcurrent]

theorem countP_binds_le (h : Represents entries m) (ip : UInt32) :
    entries.countP (fun e => e.Binds ip) ≤ 1 := by
  have hcount : entries.countP (fun e => e.Binds ip) = (boundIps entries).count ip := by
    rw [boundIps, List.count_eq_countP, List.countP_map, List.countP_filter]
    refine List.countP_congr fun e _ => ?_
    rw [decide_eq_true_eq]
    simp [SrArpentry.Binds, and_comm]
  rw [hcount]
  exact List.nodup_iff_count_le_one.mp h.nodup ip

end Represents

/-! ### Sequences of insertions and expiry passes -/

inductive CacheOp
  | insert (now : Int) (mac : Mac) (ip : UInt32)
  | expire (curtime : Int)

/-- The operation on the array. -/
def CacheOp.run : CacheOp → SrArpcache → SrArpcache
  | .insert now mac ip, cache => (srArpcacheInsert cache now mac ip).2
  | .expire curtime, cache => srArpcacheExpire cache curtime

/-- What it stands for on the map. -/
def CacheOp.spec : CacheOp → CacheMap → CacheMap
  | .insert now mac ip, m => m.insert ip (mac, now)
  | .expire curtime, m => m.filter fun b => !decide (curtime - b.2 > srArpcacheTo)

theorem Represents.cacheOp {cache : SrArpcache} {m : CacheMap}
    (h : Represents cache.entries m) (o : CacheOp) :
    Represents (o.run cache).entries (o.spec m) := by
  cases o with
  | insert now mac ip => exact h.insert cache.length_entries now mac ip
  | expire curtime => exact h.expire curtime

theorem Represents.cacheOps {cache : SrArpcache} {m : CacheMap}
    (h : Represents cache.entries m) (ops : List CacheOp) :
    Represents (ops.foldl (fun c o => o.run c) cache).entries
      (ops.foldl (fun m o => o.spec m) m) := by
  induction ops generalizing cache m with
  | nil => exact h
  | cons o ops ih => exact ih (h.cacheOp o)

/-- **The ARP cache is a bounded map.** After any insertions and expiry passes,
whatever the clock values, an address has at most one valid slot and the
lookup answers with the binding of the map after the same operations; a
further insertion overwrites the binding of its own address and leaves every
other lookup as it was. -/
theorem srArpcacheLookup_refines (ops : List CacheOp) :
    let cache := ops.foldl (fun c o => o.run c) srArpcacheInit
    let m := ops.foldl (fun m o => o.spec m) BoundedMap.empty
    (∀ ip, cache.entries.countP (fun e => e.Binds ip) ≤ 1) ∧
      (∀ ip, srArpcacheLookup cache ip = (m.lookup ip).map (bindingEntry ip)) ∧
      (∀ now mac ip, (srArpcacheLookup cache ip).isSome →
        srArpcacheLookup (srArpcacheInsert cache now mac ip).2 ip =
          some (bindingEntry ip (mac, now))) ∧
      ∀ now mac ip q, q ≠ ip →
        srArpcacheLookup (srArpcacheInsert cache now mac ip).2 q = srArpcacheLookup cache q := by
  intro cache m
  have h : Represents cache.entries m := Represents.init.cacheOps ops
  have hinsert (now : Int) (mac : Mac) (ip q : UInt32) :
      srArpcacheLookup (srArpcacheInsert cache now mac ip).2 q =
        ((m.insert ip (mac, now)).lookup q).map (bindingEntry q) :=
    (h.insert cache.length_entries now mac ip).lookup q
  refine ⟨h.countP_binds_le, h.lookup, fun now mac ip hbound => ?_, fun now mac ip q hq => ?_⟩
  · have hm : (m.lookup ip).isSome := by
      rw [srArpcacheLookup, h.lookup] at hbound
      simpa using hbound
    rw [hinsert, BoundedMap.lookup_insert_of_bound m _ hm, Option.map_some]
  · rw [hinsert, BoundedMap.lookup_insert_of_ne m _ hq, srArpcacheLookup, h.lookup]

end SrRouter
