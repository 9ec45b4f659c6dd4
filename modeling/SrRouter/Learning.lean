import SrRouter.CacheMap
import SrRouter.Transitions

/-!
Whether a learned mapping can be used.

An insertion needs a slot: one that is valid for its address, or a free one.
Nothing is evicted, so on a table that is full of other addresses it has no
effect, and the sender just learned from stays unknown.
-/

namespace SrRouter

open ByteBuffer Interactive

def HasSlot (entries : List SrArpentry) (ip : UInt32) : Prop :=
  ∃ e ∈ entries, e.valid = false ∨ e.ip = ip

/-- The insertion makes the address known exactly when it finds a slot. -/
theorem lookup_insert_iff {cache : SrArpcache} {m : CacheMap}
    (h : Represents cache.entries m) (now : Int) (mac : Mac) (ip : UInt32) :
    (∃ entry, srArpcacheLookup (srArpcacheInsert cache now mac ip).2 ip = some entry ∧
      entry.mac = mac) ↔ HasSlot cache.entries ip := by
  have hafter := h.insert cache.length_entries now mac ip
  constructor
  · rintro ⟨entry, hlookup, -⟩
    rcases insertEntry_cases now mac ip cache.entries with
      ⟨before, e, after, hsplit, hslot, -⟩ | ⟨hfull, hsame⟩
    · refine ⟨e, by rw [hsplit]; simp, ?_⟩
      rcases hslot with hbinds | ⟨hfree, -⟩
      · exact .inr hbinds.2
      · exact .inl hfree
    · -- nothing was inserted, so nothing is found
      have hnone : srArpcacheLookup (srArpcacheInsert cache now mac ip).2 ip = none := by
        rw [srArpcacheLookup_eq_none]
        show ∀ e ∈ insertEntry now mac ip cache.entries, ¬e.Binds ip
        rw [hsame]
        exact fun e he => (hfull e he).2
      rw [hnone] at hlookup
      cases hlookup
  · rintro ⟨e, he, hslot⟩
    rcases insertEntry_cases now mac ip cache.entries with
      ⟨before, e', after, hsplit, -, hinsert⟩ | ⟨hfull, -⟩
    · have hbinding := hafter.binding (bindingEntry ip (mac, now))
        (by rw [hinsert]; simp [bindingEntry]) rfl
      refine ⟨bindingEntry ip (mac, now), ?_, rfl⟩
      show lookupEntries ip (insertEntry now mac ip cache.entries) = _
      rw [hafter.lookup ip]
      exact congrArg (Option.map (bindingEntry ip)) hbinding
    · obtain ⟨hvalid, hbinds⟩ := hfull e he
      rcases hslot with hfree | hip
      · rw [hvalid] at hfree
        cases hfree
      · exact absurd ⟨hvalid, hip⟩ hbinds

/-- **Learned mappings.** In every cache that insertions and expiry passes can
lead to, the lookup behind a further insertion answers with the inserted
hardware address exactly when the insertion found a slot. Then a packet whose
next hop is that address is sent at once. -/
theorem learned_mapping_usable_iff (ops : List CacheOp) (now : Int) (mac : Mac) (ip : UInt32) :
    let cache := ops.foldl (fun c o => o.run c) srArpcacheInit
    ((∃ entry, srArpcacheLookup (srArpcacheInsert cache now mac ip).2 ip = some entry ∧
        entry.mac = mac) ↔ HasSlot cache.entries ip) ∧
      (HasSlot cache.entries ip → ∀ (sr : Config) (s : Store) origin packet outIface,
        s.cache = (srArpcacheInsert cache now mac ip).2 →
        nextHop sr packet = some (outIface, ip) →
        s.routed sr origin packet = s.trace (.sendPacket (.routed origin) outIface.name
          (addressed packet outIface mac)
          (srSendPacketRet sr (addressed packet outIface mac) outIface.name))) := by
  intro cache
  have h : Represents cache.entries _ := Represents.init.cacheOps ops
  have hiff := lookup_insert_iff h now mac ip
  refine ⟨hiff, fun hslot sr s origin packet outIface hcache hhop => ?_⟩
  obtain ⟨entry, hlookup, rfl⟩ := hiff.mpr hslot
  rw [Store.routed, hhop]
  simp only [hcache, hlookup]

def hundredMappings : List CacheOp :=
  (List.range 100).map fun i => .insert 0 zeroMac (UInt32.ofNat (i + 1))

/-- A mapping for one more address is lost. -/
theorem exists_lost_mapping :
    ¬∀ (ops : List CacheOp) now mac ip, ∃ entry,
      srArpcacheLookup (srArpcacheInsert (ops.foldl (fun c o => o.run c) srArpcacheInit)
        now mac ip).2 ip = some entry ∧ entry.mac = mac := by
  intro hall
  obtain ⟨entry, hlookup, -⟩ := hall hundredMappings 0 broadcast 0x3201000a
  have hlost : srArpcacheLookup (srArpcacheInsert
      (hundredMappings.foldl (fun c o => o.run c) srArpcacheInit) 0 broadcast 0x3201000a).2
      0x3201000a = none := by decide +kernel
  rw [hlost] at hlookup
  cases hlookup

end SrRouter
