import SrRouter.Paths

/-!
The walk of the sweep along the queue that its own turns change.

A turn may unlink and free the record it is for, put packets on any record,
and link new records in front of the queue. What it cannot do is to touch the
order of the records that are still to come, so the loop is a walk with a
saved next pointer. For this the records only have to be different pieces of
memory; nothing is asked of their IPs.
-/

namespace SrRouter

open ByteBuffer CString Interactive

namespace Store

def addrs (s : Store) : List Addr := s.requests.map SrArpreq.addr

end Store

theorem Store.addrs_update (s : Store) (req : Addr) {f : SrArpreq → SrArpreq}
    (hf : ∀ r, (f r).addr = r.addr) : (s.update req f).addrs = s.addrs := by
  rw [Store.addrs, Store.requests_update, List.map_map]
  refine List.map_congr_left fun r _ => ?_
  simp only [Function.comp]
  split
  · exact hf r
  · rfl

theorem Store.addrs_retried (s : Store) (req : Addr) (now : Int) :
    (s.retried req now).addrs = s.addrs := s.addrs_update req fun _ => rfl

theorem Store.addrs_asked (s : Store) (sr : Config) (ip : UInt32) (iface : Name) :
    (s.asked sr ip iface).addrs = s.addrs := by
  rw [Store.addrs, Store.requests_asked, Store.addrs]

theorem addrs_srArpreqDestroy (s : Store) (a : Addr) :
    (srArpreqDestroy s a).addrs = s.addrs.erase a := by
  have hmap : (s.requests.eraseP fun r => r.addr == a).map SrArpreq.addr = s.addrs.erase a := by
    rw [List.erase_eq_eraseP', Store.addrs, List.eraseP_map]
    rfl
  refine s.srArpreqDestroy_cases a ?_ ?_
  · intro hmissing
    rw [List.erase_of_not_mem]
    intro hmem
    obtain ⟨r, hr, hra⟩ := List.mem_map.mp hmem
    exact hmissing r hr hra
  · exact fun _ => hmap

/-! ### What ICMP errors do to the queue -/

/-- The record `r'` is `r` with ICMP errors of the router in front of its
packets. A record that was never sent may have been sent for the first time. -/
structure Grown (now : Int) (r r' : SrArpreq) : Prop where
  addr : r'.addr = r.addr
  ip : r'.ip = r.ip
  packets : ∃ front, (∀ pkt ∈ front, pkt.origin = .icmpError) ∧ r'.packets = front ++ r.packets
  counter : (r'.sent = r.sent ∧ r'.timesSent = r.timesSent) ∨
    (r.timesSent = 0 ∧ r'.sent = now ∧ r'.timesSent = 1)

/-- A record for ICMP errors of the router alone, sent once, at `now`. -/
structure Fresh (now : Int) (r : SrArpreq) : Prop where
  sent : r.sent = now
  timesSent : r.timesSent = 1
  packets : ∀ pkt ∈ r.packets, pkt.origin = .icmpError

theorem Grown.refl (now : Int) (r : SrArpreq) : Grown now r r :=
  ⟨rfl, rfl, ⟨[], fun _ h => absurd h List.not_mem_nil, rfl⟩, .inl ⟨rfl, rfl⟩⟩

theorem Grown.trans {now : Int} {r r' r'' : SrArpreq} (h : Grown now r r')
    (h' : Grown now r' r'') : Grown now r r'' := by
  obtain ⟨front, hfront, hpackets⟩ := h.packets
  obtain ⟨front', hfront', hpackets'⟩ := h'.packets
  refine ⟨h'.addr.trans h.addr, h'.ip.trans h.ip, ⟨front' ++ front, ?_, ?_⟩, ?_⟩
  · intro pkt hpkt
    obtain hpkt | hpkt := List.mem_append.mp hpkt
    · exact hfront' pkt hpkt
    · exact hfront pkt hpkt
  · rw [hpackets', hpackets, List.append_assoc]
  · have hc := h.counter
    have hc' := h'.counter
    omega

theorem Fresh.grown {now : Int} {r r' : SrArpreq} (h : Fresh now r) (h' : Grown now r r') :
    Fresh now r' := by
  obtain ⟨front, hfront, hpackets⟩ := h'.packets
  have hsent := h.sent
  have htimes := h.timesSent
  have hcounter := h'.counter
  refine ⟨by omega, by omega, fun pkt hpkt => ?_⟩
  rw [hpackets] at hpkt
  obtain hpkt | hpkt := List.mem_append.mp hpkt
  · exact hfront pkt hpkt
  · exact h.packets pkt hpkt

/-- The queue of `s'` is that of `s` with records grown in place and fresh
records in front; the cache entries are those of `s`. -/
structure Swells (s s' : Store) : Prop where
  now : s'.now = s.now
  heap : s.heap ≤ s'.heap
  entries : s'.cache.entries = s.cache.entries
  addrs : ∃ new, s'.addrs = new ++ s.addrs ∧ ∀ a ∈ new, s.heap ≤ a
  records : ∀ r' ∈ s'.requests, (∃ r ∈ s.requests, Grown s.now r r') ∨
    (s.heap ≤ r'.addr ∧ Fresh s.now r')

theorem Swells.of_requests {s s' : Store} (hreq : s'.requests = s.requests)
    (hheap : s'.heap = s.heap) (hnow : s'.now = s.now)
    (hentries : s'.cache.entries = s.cache.entries) : Swells s s' where
  now := hnow
  heap := hheap ▸ Nat.le_refl _
  entries := hentries
  addrs := ⟨[], by simp [Store.addrs, hreq], fun _ h => absurd h List.not_mem_nil⟩
  records := fun r hr => .inl ⟨r, hreq ▸ hr, .refl _ _⟩

theorem Swells.trans {s s' s'' : Store} (h : Swells s s') (h' : Swells s' s'') :
    Swells s s'' := by
  obtain ⟨new, hnew, hge⟩ := h.addrs
  obtain ⟨new', hnew', hge'⟩ := h'.addrs
  have hheap := h.heap
  refine ⟨h'.now.trans h.now, Nat.le_trans hheap h'.heap, h'.entries.trans h.entries,
    ⟨new' ++ new, ?_, ?_⟩, ?_⟩
  · rw [hnew', hnew, List.append_assoc]
  · intro a ha
    obtain ha | ha := List.mem_append.mp ha
    · exact Nat.le_trans hheap (hge' a ha)
    · exact hge a ha
  · intro r'' hr''
    rw [← h.now]
    obtain ⟨r', hr', hgrown'⟩ | ⟨hge'', hfresh⟩ := h'.records r'' hr''
    · obtain ⟨r, hr, hgrown⟩ | ⟨hge, hfresh⟩ := h.records r' hr'
      · exact .inl ⟨r, hr, (h.now ▸ hgrown).trans hgrown'⟩
      · exact .inr ⟨hgrown'.addr ▸ hge, (h.now ▸ hfresh).grown hgrown'⟩
    · exact .inr ⟨Nat.le_trans hheap hge'', hfresh⟩

theorem Swells.exists_grown {s s' : Store} (h : Swells s s') (halloc : s.Allocated)
    {r : SrArpreq} (hr : r ∈ s.requests) : ∃ r' ∈ s'.requests, Grown s.now r r' := by
  obtain ⟨new, hnew, -⟩ := h.addrs
  have hmem : r.addr ∈ s'.addrs := hnew ▸ List.mem_append_right _ (List.mem_map_of_mem hr)
  obtain ⟨r', hr', haddr⟩ := List.mem_map.mp hmem
  refine ⟨r', hr', ?_⟩
  obtain ⟨q, hq, hgrown⟩ | ⟨hge, -⟩ := h.records r' hr'
  · obtain rfl := halloc.eq_of_addr hq hr (hgrown.addr.symm.trans haddr)
    exact hgrown
  · exact absurd (haddr ▸ halloc.addr_lt r hr) (Nat.not_lt.mpr hge)

theorem Swells.of_map {s s' : Store} (f : SrArpreq → SrArpreq)
    (hreq : s'.requests = s.requests.map f) (hheap : s.heap ≤ s'.heap) (hnow : s'.now = s.now)
    (hentries : s'.cache.entries = s.cache.entries)
    (hf : ∀ r ∈ s.requests, Grown s.now r (f r)) : Swells s s' where
  now := hnow
  heap := hheap
  entries := hentries
  addrs := by
    refine ⟨[], ?_, fun _ h => absurd h List.not_mem_nil⟩
    rw [Store.addrs, hreq, List.map_map, List.nil_append]
    exact List.map_congr_left fun r hr => (hf r hr).addr
  records := by
    intro r' hr'
    rw [hreq] at hr'
    obtain ⟨r, hr, rfl⟩ := List.mem_map.mp hr'
    exact .inl ⟨r, hr, hf r hr⟩

/-- **Routing an ICMP error only swells the queue.** -/
theorem routed_swells {s : Store} (halloc : s.Allocated) (sr : Config) (packet : Frame) :
    Swells s (s.routed sr .icmpError packet) := by
  have hfront (pkt : SrPacket) (hpkt : pkt.origin = .icmpError) :
      ∀ q ∈ [pkt], q.origin = .icmpError := by simpa using hpkt
  refine s.routed_cases sr .icmpError packet ?_ ?_ ?_ ?_ ?_
  · exact fun _ => .of_requests rfl rfl rfl rfl
  · exact fun _ _ _ _ _ => .of_requests rfl rfl rfl rfl
  · intro outIface r hr _ _ _
    refine .of_map _ (Store.requests_linkPacket ..) (Nat.le_succ _) rfl rfl fun q hq => ?_
    split
    · exact ⟨rfl, rfl, ⟨[_], hfront _ rfl, rfl⟩, .inl ⟨rfl, rfl⟩⟩
    · exact .refl _ _
  · intro outIface r hr _ _ hzero
    refine .of_map _ (requests_linkedFirst ..) (by simp [Store.retried])
      (by simp [Store.retried]) (by simp [Store.retried]) fun q hq => ?_
    split
    · next haddr =>
        obtain rfl := halloc.eq_of_addr hq hr haddr
        exact ⟨rfl, rfl, ⟨[_], hfront _ rfl, rfl⟩, .inr ⟨hzero, rfl, by simp [hzero]⟩⟩
    · exact .refl _ _
  · -- a request of its own, in front of the others
    intro outIface ip _ _ _
    have hreq := requests_created halloc sr ip .icmpError (setEtherShost packet outIface.addr)
      outIface.name outIface.name
    refine ⟨by simp [Store.retried], ?_, by simp [Store.retried], ⟨[s.heap], ?_, ?_⟩, ?_⟩
    · simp only [Store.retried, Store.heap_update, Store.heap_asked, Store.heap_linkPacket,
        Store.heap_newRequest]
      exact Nat.le_trans (Nat.le_succ _) (Nat.le_succ _)
    · rw [Store.addrs, hreq]
      rfl
    · simp
    · intro r' hr'
      rw [hreq] at hr'
      obtain rfl | hr' := List.mem_cons.mp hr'
      · refine .inr ⟨Nat.le_refl _, rfl, rfl, ?_⟩
        simp [Store.nextPacket]
      · exact .inl ⟨r', hr', .refl _ _⟩

theorem errored_swells {s : Store} (halloc : s.Allocated) (sr : Config) (pkt : Option SrPacket)
    (packet : Frame) (type code : UInt8) : Swells s (s.errored sr pkt packet type code) := by
  have hnoted : Swells s (s.noted sr pkt packet type code) :=
    .of_requests (Store.requests_noted ..) (Store.heap_noted ..) (Store.now_noted ..)
      (Store.entries_noted ..)
  unfold Store.errored
  split
  · exact hnoted
  · have halloc' := halloc.congr (Store.requests_noted s sr pkt packet type code)
      (Store.heap_noted s sr pkt packet type code)
    exact hnoted.trans (routed_swells halloc' sr _)

theorem reportPackets_swells {s : Store} (halloc : s.Allocated) (sr : Config)
    (packets : List SrPacket) : Swells s ((reportPackets sr packets).run exec s).2 := by
  induction packets generalizing s with
  | nil => exact .of_requests rfl rfl rfl rfl
  | cons pkt packets ih =>
      simp only [reportPackets, Prog.bind_def, Prog.run_bind, run_srSendIcmpError _ _ _ _ _ halloc]
      have hrun := halloc.run (srSendIcmpError sr (some pkt) pkt.buf 3 1)
      rw [run_srSendIcmpError _ _ _ _ _ halloc] at hrun
      exact (errored_swells halloc sr (some pkt) pkt.buf 3 1).trans (ih hrun)

/-! ### One turn of the loop -/

def SrArpreq.Due (now : Int) (r : SrArpreq) : Prop := now - r.sent ≥ 1

def SrArpreq.Expired (now : Int) (r : SrArpreq) : Prop := r.Due now ∧ 5 ≤ r.timesSent

instance (now : Int) : DecidablePred (SrArpreq.Due now) := fun r =>
  inferInstanceAs (Decidable (now - r.sent ≥ 1))

instance (now : Int) : DecidablePred (SrArpreq.Expired now) := fun r =>
  inferInstanceAs (Decidable (r.Due now ∧ 5 ≤ r.timesSent))

theorem run_handleArpreq (sr : Config) {s : Store} (halloc : s.Allocated) {r : SrArpreq}
    (hr : r ∈ s.requests) : ((handleArpreq sr s.now r.addr).run exec s).2 =
      if r.Expired s.now then
        srArpreqDestroy ((reportPackets sr r.packets).run exec s).2 r.addr
      else if r.Due s.now then
        match r.packets with
        | [] => s
        | pkt :: _ => (s.asked sr r.ip pkt.iface).retried r.addr s.now
      else s := by
  unfold handleArpreq
  simp only [Prog.bind_def, Prog.run_bind, Prog.run_perform, exec, halloc.deref_eq hr,
    Option.getD_some]
  by_cases hdue : s.now - r.sent ≥ 1
  · by_cases hmany : r.timesSent ≥ 5
    · rw [if_pos hdue, if_pos hmany, if_pos ⟨hdue, hmany⟩, Prog.run_bind]
      rfl
    · rw [if_pos hdue, if_neg hmany, if_neg (fun h => hmany h.2),
        if_pos (show r.Due s.now from hdue)]
      cases r.packets with
      | nil => rfl
      | cons pkt packets => exact run_retryArpreq ..
  · rw [if_neg hdue, if_neg (fun h => hdue h.1), if_neg (show ¬r.Due s.now from hdue)]
    rfl

theorem Grown.expired_iff {now : Int} {r r' : SrArpreq} (h : Grown now r r') :
    r'.Expired now ↔ r.Expired now := by
  have hc := h.counter
  simp only [SrArpreq.Expired, SrArpreq.Due]
  omega

/-! ### The walk -/

/-- The addresses of the queue in the middle of a pass over `pre ++ todo`: behind
those that are new come those of `pre` that are not given up and those of
`todo`, in their order. -/
def OnCourse (s₀ : Store) (pre todo : List SrArpreq) (s : Store) : Prop :=
  SavedNext.InPlace (fun a => s₀.heap ≤ a)
    ((pre.filter fun r => ¬r.Expired s₀.now).map SrArpreq.addr) (todo.map SrArpreq.addr) s.addrs

namespace OnCourse

theorem start (s : Store) : OnCourse s [] s.requests s := SavedNext.InPlace.start s.addrs

variable {s₀ s s' : Store} {pre todo : List SrArpreq} {r : SrArpreq}

theorem mem_addrs (h : OnCourse s₀ pre todo s) (hr : r ∈ todo) : r.addr ∈ s.addrs :=
  SavedNext.InPlace.mem h (List.mem_map_of_mem hr)

theorem next_eq (h : OnCourse s₀ pre (r :: todo) s) (halloc : s.Allocated) :
    s.next r.addr = todo.head?.map SrArpreq.addr := by
  rw [← List.head?_map]
  exact SavedNext.InPlace.follower_eq h halloc.addr_nodup

theorem addr_ne (h : OnCourse s₀ pre (r :: todo) s) (halloc : s.Allocated) {q : SrArpreq}
    (hq : q ∈ todo) : q.addr ≠ r.addr := by
  obtain ⟨-, -, -, -, hnotin⟩ := SavedNext.InPlace.split h halloc.addr_nodup
  exact fun heq => hnotin (heq ▸ List.mem_map_of_mem hq)

theorem swells (h : OnCourse s₀ pre todo s) (hs : Swells s s') (hheap : s₀.heap ≤ s.heap) :
    OnCourse s₀ pre todo s' := by
  obtain ⟨new, hnew, hge⟩ := hs.addrs
  rw [OnCourse, hnew]
  exact SavedNext.InPlace.prepend h fun a ha => Nat.le_trans hheap (hge a ha)

theorem keep (h : OnCourse s₀ pre (r :: todo) s) (hkept : ¬r.Expired s₀.now)
    (haddrs : s'.addrs = s.addrs) : OnCourse s₀ (pre ++ [r]) todo s' := by
  rw [OnCourse, haddrs]
  simpa [hkept] using SavedNext.InPlace.keep h

theorem drop (h : OnCourse s₀ pre (r :: todo) s) (halloc : s.Allocated)
    (hexp : r.Expired s₀.now) : OnCourse s₀ (pre ++ [r]) todo (srArpreqDestroy s r.addr) := by
  rw [OnCourse, addrs_srArpreqDestroy]
  simpa [hexp] using SavedNext.InPlace.erase h halloc.addr_nodup

end OnCourse

/-- The loop in the middle of a pass over `pre ++ todo`. What is still to come is
in its place, and as much to be given up as it was. -/
structure Walking (s₀ : Store) (pre todo : List SrArpreq) (s : Store) : Prop where
  allocated : s.Allocated
  now : s.now = s₀.now
  heap : s₀.heap ≤ s.heap
  addrs : OnCourse s₀ pre todo s
  expired : ∀ r ∈ todo, ∀ r' ∈ s.requests, r'.addr = r.addr →
    (r'.Expired s₀.now ↔ r.Expired s₀.now)

namespace Walking

theorem start {s : Store} (halloc : s.Allocated) : Walking s [] s.requests s where
  allocated := halloc
  now := rfl
  heap := Nat.le_refl _
  addrs := .start s
  expired := fun r hr r' hr' haddr => by rw [halloc.eq_of_addr hr' hr haddr]

variable {s₀ s s' : Store} {pre todo : List SrArpreq} {r : SrArpreq}

theorem swells (h : Walking s₀ pre todo s) (hs : Swells s s') (halloc : s'.Allocated) :
    Walking s₀ pre todo s' := by
  refine ⟨halloc, hs.now.trans h.now, Nat.le_trans h.heap hs.heap, h.addrs.swells hs h.heap, ?_⟩
  intro r hr r' hr' haddr
  obtain ⟨q, hq, hgrown⟩ | ⟨hlarge, -⟩ := hs.records r' hr'
  · rw [h.now] at hgrown
    exact hgrown.expired_iff.trans (h.expired r hr q hq (hgrown.addr.symm.trans haddr))
  · -- a record that was there is not a new one
    obtain ⟨q, hq, hqaddr⟩ := List.mem_map.mp (h.addrs.mem_addrs hr)
    have hlt := h.allocated.addr_lt q hq
    rw [hqaddr, ← haddr] at hlt
    exact absurd hlt (Nat.not_lt.mpr hlarge)

theorem keep (h : Walking s₀ pre (r :: todo) s) (halloc : s'.Allocated)
    (hkept : ¬r.Expired s₀.now) (hnow : s'.now = s.now) (hheap : s'.heap = s.heap)
    (haddrs : s'.addrs = s.addrs)
    (hother : ∀ q ∈ s'.requests, q.addr ≠ r.addr → q ∈ s.requests) :
    Walking s₀ (pre ++ [r]) todo s' := by
  refine ⟨halloc, hnow.trans h.now, hheap ▸ h.heap, h.addrs.keep hkept haddrs, ?_⟩
  intro q hq q' hq' haddr
  have hne : q'.addr ≠ r.addr := fun heq => h.addrs.addr_ne h.allocated hq (haddr.symm.trans heq)
  exact h.expired q (List.mem_cons_of_mem r hq) q' (hother q' hq' hne) haddr

theorem drop (h : Walking s₀ pre (r :: todo) s) (hexp : r.Expired s₀.now) :
    Walking s₀ (pre ++ [r]) todo (srArpreqDestroy s r.addr) := by
  refine ⟨h.allocated.exec (.destroy r.addr), (Store.now_srArpreqDestroy ..).trans h.now,
    (Store.heap_srArpreqDestroy s r.addr) ▸ h.heap, h.addrs.drop h.allocated hexp, ?_⟩
  intro q hq q' hq' haddr
  have hmem : q' ∈ s.requests := by
    refine Store.srArpreqDestroy_cases (motive := fun t => q' ∈ t.requests → q' ∈ s.requests)
      s r.addr ?_ ?_ hq'
    · exact fun _ h => h
    · exact fun _ h => List.eraseP_sublist.subset h
  exact h.expired q (List.mem_cons_of_mem r hq) q' hmem haddr

theorem visit (h : Walking s₀ pre (r :: todo) s) (sr : Config) :
    Walking s₀ (pre ++ [r]) todo ((handleArpreq sr s₀.now r.addr).run exec s).2 := by
  have halloc := h.allocated.run (handleArpreq sr s₀.now r.addr)
  obtain ⟨r', hr', haddr⟩ := List.mem_map.mp (h.addrs.mem_addrs List.mem_cons_self)
  have hiff := h.expired r List.mem_cons_self r' hr' haddr
  rw [← h.now, ← haddr] at halloc ⊢
  rw [run_handleArpreq sr h.allocated hr'] at halloc ⊢
  rw [h.now] at halloc ⊢
  split at halloc
  · next hexp =>
      rw [if_pos hexp, haddr]
      exact (h.swells (reportPackets_swells h.allocated sr _) (h.allocated.run _)).drop
        (hiff.mp hexp)
  · next hkept =>
      rw [if_neg hkept]
      have hstays : Walking s₀ (pre ++ [r]) todo s :=
        h.keep h.allocated (mt hiff.mpr hkept) rfl rfl rfl fun _ hq _ => hq
      split at halloc
      · next hdue =>
          rw [if_pos hdue]
          split at halloc
          · exact hstays
          · next pkt packets _ =>
              refine h.keep halloc (mt hiff.mpr hkept) (by simp [Store.retried])
                (by simp [Store.retried]) ?_ fun q hq hne => ?_
              · rw [Store.addrs_retried, Store.addrs_asked]
              · obtain ⟨q₀, hq₀, rfl⟩ := List.mem_map.mp hq
                rw [Store.requests_asked] at hq₀
                split at hne
                · next heq => exact absurd (heq.trans haddr) hne
                · next heq =>
                    rw [if_neg heq]
                    exact hq₀
      · next hdue =>
          rw [if_neg hdue]
          exact hstays

end Walking

def sweepTurn (sr : Config) (now : Int) (req : Addr) (s : Store) : Store :=
  ((handleArpreq sr now req).run exec s).2

theorem sweepLoop_eq (sr : Config) (now : Int) (fuel : Nat) (req : Option Addr) (s : Store) :
    sweepLoop sr now fuel req s = SavedNext.loop Store.next (sweepTurn sr now) fuel req s := rfl

/-- The pointers that the loop looks at, each with the state it finds. -/
def sweepVisits (sr : Config) (now : Int) : Nat → Option Addr → Store → List (Addr × Store) :=
  SavedNext.visits Store.next (sweepTurn sr now)

/-- What is examined is on the queue, and when the turn is over so is what the
next pointer, read before it, refers to. -/
def Steady (sr : Config) (now : Int) (visit : Addr × Store) : Prop :=
  visit.1 ∈ visit.2.addrs ∧ ∀ next, visit.2.next visit.1 = some next →
    next ∈ ((handleArpreq sr now visit.1).run exec visit.2).2.addrs

theorem Walking.steady {s₀ s : Store} {pre todo : List SrArpreq} {r : SrArpreq}
    (h : Walking s₀ pre (r :: todo) s) (sr : Config) : Steady sr s₀.now (r.addr, s) := by
  refine ⟨h.addrs.mem_addrs List.mem_cons_self, fun next hnext => ?_⟩
  rw [h.addrs.next_eq h.allocated] at hnext
  obtain ⟨q, hq, rfl⟩ := Option.map_eq_some_iff.mp hnext
  exact (h.visit sr).addrs.mem_addrs (List.mem_of_head? hq)

/-- **The whole loop.** It is at the records that were on the queue, each once and
in order, and ends by itself. -/
theorem walk_spec (sr : Config) {s : Store} (halloc : s.Allocated) {fuel : Nat}
    (hfuel : s.requests.length ≤ fuel) :
    let visits := sweepVisits sr s.now fuel (s.requests.head?.map SrArpreq.addr) s
    Walking s s.requests [] (srArpcacheSweepreqs sr s) ∧ visits.map Prod.fst = s.addrs ∧
      visits.foldl (fun t v => sweepTurn sr s.now v.1 t) s = srArpcacheSweepreqs sr s ∧
      ∀ v ∈ visits, Steady sr s.now v := by
  have hwalk {fuel : Nat} (hfuel : s.requests.length ≤ fuel) :=
    SavedNext.walk Store.next (sweepTurn sr s.now) SrArpreq.addr (I := Walking s)
      (fun _ _ _ _ h => h.addrs.next_eq h.allocated) (fun _ _ _ _ h => h.visit sr)
      (Walking.start halloc) hfuel
  obtain ⟨hend, -⟩ := hwalk (Nat.le_refl _)
  obtain ⟨-, hvisits, hsame, hall⟩ := hwalk hfuel
  refine ⟨?_, hvisits, ?_, fun v hv => ?_⟩
  · rw [srArpcacheSweepreqs, sweepLoop_eq]
    exact hend
  · rw [srArpcacheSweepreqs, sweepLoop_eq, SavedNext.loop_eq_foldl, sweepVisits, hsame]
  · obtain ⟨pre, r, todo, h, hv⟩ := hall v hv
    obtain ⟨a, t⟩ := v
    obtain rfl : a = r.addr := hv
    exact h.steady sr

end SrRouter
