import SrRouter.Sweep

/-!
What holds of every record on the queue in every run.

`Transition.record` says once what a transition can do to a record. From it
follow the counters, which stay between one and five, and that every queued
packet could be sent at any time: its bytes are a valid IP packet and its
interface resolves. Both survive VNSHWINFO messages, which only extend the
list of interfaces.
-/

namespace SrRouter

open ByteBuffer CString Interactive

/-! ### Records under transitions -/

/-- A packet that a transition puts on the request for `ip`. -/
structure Enqueued (sr : Config) (p : Phase) (s : Store) (ip : UInt32) (pkt : SrPacket) :
    Prop where
  admits : p.Admits pkt.origin
  ready : Ready sr pkt.origin pkt.buf
  hop : ∃ outIface, srGetInterface sr.ifList pkt.iface = some outIface ∧
    nextHop sr pkt.buf = some (outIface, ip)
  addr : s.heap ≤ pkt.addr

theorem enqueued_nextPacket {sr : Config} {p : Phase} {origin : Origin} {packet : Frame}
    {outIface : SrIf} {ip : UInt32} {s s' : Store} (hready : Ready sr origin packet)
    (hphase : p.Admits origin) (hhop : nextHop sr packet = some (outIface, ip))
    (hheap : s.heap ≤ s'.heap) : Enqueued sr p s ip
      (s'.nextPacket origin (setEtherShost packet outIface.addr) outIface.name) where
  admits := hphase
  ready := hready.congr (sameBody_setEtherShost _ _)
  hop := by
    refine ⟨outIface, ?_, ?_⟩
    · exact (srGetInterface_strncpy _ _).trans (srGetInterface_of_nextHop hhop)
    · exact (nextHop_congr (sameBody_setEtherShost packet outIface.addr).ipDst_eq).trans hhop
  addr := hheap

/-- Where a record on the queue after a transition comes from. -/
inductive RecordStep (sr : Config) (p : Phase) (s : Store) : SrArpreq → Prop
  | same {r : SrArpreq} (hr : r ∈ s.requests) : RecordStep sr p s r
  | linked {r : SrArpreq} {pkt : SrPacket} (hr : r ∈ s.requests) (hsent : r.timesSent ≠ 0)
      (hpkt : Enqueued sr p s r.ip pkt) :
      RecordStep sr p s { r with packets := pkt :: r.packets }
  | linkedFirst {r : SrArpreq} {pkt : SrPacket} (hr : r ∈ s.requests) (hsent : r.timesSent = 0)
      (hpkt : Enqueued sr p s r.ip pkt) :
      RecordStep sr p s { r with sent := s.now, timesSent := r.timesSent + 1,
                                 packets := pkt :: r.packets }
  | created {ip : UInt32} {pkt : SrPacket} (hpkt : Enqueued sr p s ip pkt) :
      RecordStep sr p s { addr := s.heap, ip := ip, sent := s.now, timesSent := 1,
                          packets := [pkt] }
  | retried {r : SrArpreq} (hr : r ∈ s.requests) (hdue : r.Due s.now) (hfew : r.timesSent < 5) :
      RecordStep sr p s { r with sent := s.now, timesSent := r.timesSent + 1 }

/-- **What a transition does to records.** -/
theorem Transition.record {sr : Config} {p q : Phase} {s s' : Store}
    (h : Transition sr (p, s) (q, s')) (hwf : s.WF) {r' : SrArpreq} (hr' : r' ∈ s'.requests) :
    RecordStep sr p s r' := by
  cases h with
  | replied => exact .same hr'
  | errored => exact .same (Store.requests_noted .. ▸ hr')
  | reported => exact .same (Store.requests_noted .. ▸ hr')
  | sent => exact .same hr'
  | linked hready hphase hhop _ hr hsent =>
      rw [Store.requests_linkPacket] at hr'
      obtain ⟨q, hq, rfl⟩ := List.mem_map.mp hr'
      split
      · next haddr =>
          obtain rfl := hwf.eq_of_addr hq hr haddr
          exact .linked hr hsent (enqueued_nextPacket hready hphase hhop (Nat.le_refl _))
      · exact .same hq
  | linkedFirst hready hphase hhop _ hr hsent =>
      rw [requests_linkedFirst] at hr'
      obtain ⟨q, hq, rfl⟩ := List.mem_map.mp hr'
      split
      · next haddr =>
          obtain rfl := hwf.eq_of_addr hq hr haddr
          exact .linkedFirst hr hsent (enqueued_nextPacket hready hphase hhop (Nat.le_refl _))
      · exact .same hq
  | created hready hphase hhop _ _ =>
      rw [requests_created hwf.allocated] at hr'
      obtain rfl | hr' := List.mem_cons.mp hr'
      · exact .created (enqueued_nextPacket hready hphase hhop (Nat.le_succ _))
      · exact .same hr'
  | retried hr hdue hfew _ =>
      rw [Store.retried, Store.requests_update, Store.requests_asked] at hr'
      obtain ⟨q, hq, rfl⟩ := List.mem_map.mp hr'
      split
      · next haddr =>
          obtain rfl := hwf.eq_of_addr hq hr haddr
          exact .retried hr hdue hfew
      · exact .same hq
  | givenUp => exact .same hr'
  | destroyed => exact .same ((mem_srArpreqDestroy hwf).mp hr').1
  | mapped => exact .same (List.eraseP_sublist.subset hr')
  | expired => exact .same hr'

/-! ### Counters and packets -/

structure Sendable (sr : Config) (pkt : SrPacket) : Prop where
  valid : srValidIpPacket pkt.buf = true
  ethertype : ethertype pkt.buf = ethertypeIp
  sumOk : pkt.origin = .icmpError → icmpSumOk pkt.buf = true
  iface : (srGetInterface sr.ifList pkt.iface).isSome

theorem Enqueued.sendable {sr : Config} {p : Phase} {s : Store} {ip : UInt32} {pkt : SrPacket}
    (h : Enqueued sr p s ip pkt) : Sendable sr pkt := by
  obtain ⟨outIface, hget, -⟩ := h.hop
  exact ⟨h.ready.valid, h.ready.ethertype, h.ready.sumOk, by simp [hget]⟩

/-- The frame carries the waiting packet on to `mac`, from the interface that
the packet was queued for. -/
structure HandedOn (sr : Config) (mac : Mac) (pkt : SrPacket) (frame : Frame) : Prop where
  source : ∃ outIface, srGetInterface sr.ifList pkt.iface = some outIface ∧
    etherShost frame = outIface.addr
  dhost : etherDhost frame = mac
  body : SameBody frame pkt.buf

theorem flushEvents_cons {sr : Config} {pkt : SrPacket} (h : Sendable sr pkt) (ip : UInt32)
    (mac : Mac) (packets : List SrPacket) :
    ∃ frame, HandedOn sr mac pkt frame ∧ flushEvents sr ip mac (pkt :: packets) =
      .sendPacket (.flush pkt ip mac) pkt.iface frame 0 :: flushEvents sr ip mac packets := by
  obtain ⟨outIface, hget⟩ := Option.isSome_iff_exists.mp h.iface
  have hlen := (headerOk_of_valid h.valid).length_ge
  obtain ⟨frame, hframe⟩ : ∃ frame, frame =
    setEtherShost (setEtherDhost pkt.buf mac) outIface.addr := ⟨_, rfl⟩
  have hshost : etherShost frame = outIface.addr :=
    hframe ▸ etherShost_setEtherShost (by simp; omega)
  have hret : srSendPacketRet sr frame pkt.iface = 0 :=
    srSendPacketRet_of_shost (by simp [hframe, sizeofEthernetHdr]; omega) hget hshost
  refine ⟨frame, ⟨⟨outIface, hget, hshost⟩, ?_, ?_⟩, ?_⟩
  · rw [hframe, etherDhost_setEtherShost, etherDhost_setEtherDhost (by omega)]
  · exact hframe ▸ (sameBody_setEtherShost _ _).trans (sameBody_setEtherDhost _ _)
  · simp [flushEvents, hget, ← hframe, hret]

/-- Every pending request was sent at least once and at most five times, and
all its packets can be sent. -/
structure Healthy (sr : Config) (s : Store) : Prop where
  counters : ∀ r ∈ s.requests, 1 ≤ r.timesSent ∧ r.timesSent ≤ 5
  packets : ∀ r ∈ s.requests, ∀ pkt ∈ r.packets, Sendable sr pkt

theorem Transition.healthy {sr : Config} {c c' : Phase × Store} (h : Transition sr c c')
    (hwf : c.2.WF) (hs : Healthy sr c.2) : Healthy sr c'.2 := by
  obtain ⟨p, s⟩ := c
  obtain ⟨q, s'⟩ := c'
  have hcons {ip : UInt32} {pkt : SrPacket} (hpkt : Enqueued sr p s ip pkt)
      {packets : List SrPacket} (hpackets : ∀ pkt ∈ packets, Sendable sr pkt) :
      ∀ q ∈ pkt :: packets, Sendable sr q :=
    List.forall_mem_cons.mpr ⟨hpkt.sendable, hpackets⟩
  have hall : ∀ r' ∈ s'.requests,
      (1 ≤ r'.timesSent ∧ r'.timesSent ≤ 5) ∧ ∀ pkt ∈ r'.packets, Sendable sr pkt := by
    intro r' hr'
    cases h.record hwf hr' with
    | same hr => exact ⟨hs.counters _ hr, hs.packets _ hr⟩
    | linked hr _ hpkt =>
        have hcounters := hs.counters _ hr
        exact ⟨hcounters, hcons hpkt (hs.packets _ hr)⟩
    | linkedFirst hr hsent _ =>
        have := (hs.counters _ hr).1
        omega
    | created hpkt =>
        exact ⟨⟨Nat.le_refl 1, by simp⟩, hcons hpkt fun _ h => absurd h List.not_mem_nil⟩
    | retried hr _ hfew =>
        have hpackets := hs.packets _ hr
        exact ⟨⟨Nat.le_add_left .., hfew⟩, hpackets⟩
  exact ⟨fun r hr => (hall r hr).1, fun r hr => (hall r hr).2⟩

theorem Path.healthy {sr : Config} {c c' : Phase × Store} (h : Path sr c c') (hwf : c.2.WF)
    (hs : Healthy sr c.2) : Healthy sr c'.2 :=
  (h.invariant (I := fun c => Healthy sr c.2) (fun _ _ hwf ht hs => ht.healthy hwf hs) hwf hs).1

theorem Sendable.extends {sr sr' : Config} {pkt : SrPacket} (h : Sendable sr pkt)
    (hext : Extends sr.ifList sr'.ifList) : Sendable sr' pkt :=
  ⟨h.valid, h.ethertype, h.sumOk, srGetInterface_isSome_of_extends hext h.iface⟩

namespace SrInstance

theorem step_extends (sr : SrInstance) (a : Action) :
    Extends sr.config.ifList (sr.step a).config.ifList := by
  cases a with
  | recv | timer => exact .refl _
  | hwinfo mem entries =>
      simp only [step]
      split
      · exact .refl _
      · next hinfo => exact srHandleHwinfo_extends hinfo

theorem step_routingTable (sr : SrInstance) (a : Action) :
    (sr.step a).config.routingTable = sr.config.routingTable := by
  cases a with
  | recv | timer => rfl
  | hwinfo mem entries =>
      simp only [step]
      split <;> rfl

theorem step_healthy {sr : SrInstance} (hwf : sr.store.WF) (h : Healthy sr.config sr.store)
    (a : Action) : Healthy (sr.step a).config (sr.step a).store := by
  cases a with
  | recv now packet interface =>
      exact (step_recv_path hwf now packet interface).healthy (hwf.setNow now)
        ⟨h.counters, h.packets⟩
  | timer now =>
      exact (step_timer_path hwf now).healthy (hwf.setNow now) ⟨h.counters, h.packets⟩
  | hwinfo mem entries =>
      have hext := sr.step_extends (.hwinfo mem entries)
      rw [step_hwinfo_store]
      exact ⟨h.counters, fun r hr pkt hpkt => (h.packets r hr pkt hpkt).extends hext⟩

/-- **The queue in every reachable state.** -/
theorem run_healthy (config : Config) (now : Int) (actions : List Action) :
    Healthy ((init config now).run actions).config ((init config now).run actions).store := by
  have h := run_invariant (fun sr => sr.store.WF ∧ Healthy sr.config sr.store)
    (init config now) actions
    (fun sr a _ h => ⟨step_wf h.1 a, step_healthy h.1 h.2 a⟩)
    ⟨wf_init now, fun _ h => absurd h List.not_mem_nil, fun _ h => absurd h List.not_mem_nil⟩
  exact h.2

end SrInstance

end SrRouter
