import SrRouter.Lib.Batches
import SrRouter.ArpService
import SrRouter.Consistency
import SrRouter.Emission
import SrRouter.Retry

/-!
The order in which packets leave for a next hop.

For one next hop the history is a list of acts at a gate: a packet passes when
the address is known, it is held on the request for the address when it is
not, and it is sent when the address arrives. A request is a batch:
`sr_arpcache_queuereq` puts a packet in front of those that wait already, and
the flush starts at the front. That no packet passes while others wait is
the consistency of the cache with the queue.
-/

namespace SrRouter

open ByteBuffer CString Interactive Batches

/-! ### The acts of the history -/

/-- The next hop that the routing table gives a frame, whatever its
interface. -/
def hopIp (routingTable : List SrRt) (frame : Frame) : Option UInt32 :=
  (srFindLpmRoute routingTable (ipDst frame)).map fun route =>
    if route.gw ≠ 0 then route.gw else ipDst frame

theorem hopIp_congr {frame frame' : Frame} (h : ipDst frame = ipDst frame')
    (routingTable : List SrRt) : hopIp routingTable frame = hopIp routingTable frame' := by
  rw [hopIp, hopIp, h]

theorem hopIp_of_nextHop {sr : Config} {packet : Frame} {outIface : SrIf} {ip : UInt32}
    (h : nextHop sr packet = some (outIface, ip)) : hopIp sr.routingTable packet = some ip := by
  unfold nextHop at h
  split at h
  · cases h
  · next route hroute =>
      split at h
      · cases h
      · obtain ⟨-, rfl⟩ := Prod.mk.inj (Option.some.inj h)
        rw [hopIp, hroute]
        rfl

/-- What an event is to the packets for the next hop `ip`. -/
def Event.act (routingTable : List SrRt) (ip : UInt32) : Event → Act SrPacket Addr
  | .queued req ip' pkt => if ip' = ip then .hold req pkt else .other
  | .sendPacket (.flush pkt ip' _) _ _ _ => if ip' = ip then .send pkt else .other
  | .sendPacket (.routed _) _ frame _ =>
    if hopIp routingTable frame = some ip then .pass else .other
  | _ => .other

def acts (routingTable : List SrRt) (ip : UInt32) (log : List (Int × Event)) :
    List (Act SrPacket Addr) := log.map fun e => e.2.act routingTable ip

section Acts

variable {routingTable : List SrRt} {ip : UInt32}

theorem acts_append (log new : List (Int × Event)) :
    acts routingTable ip (log ++ new) = acts routingTable ip log ++ acts routingTable ip new :=
  List.map_append

theorem exists_queued {log : List (Int × Event)} {req : Addr} {pkt : SrPacket}
    (h : .hold req pkt ∈ acts routingTable ip log) : ∃ t, (t, Event.queued req ip pkt) ∈ log := by
  obtain ⟨⟨t, e⟩, he, hact⟩ := List.mem_map.mp h
  unfold Event.act at hact
  split at hact
  · next req' ip' pkt' heq =>
      split at hact
      · next hip =>
          obtain ⟨rfl, rfl⟩ := Act.hold.inj hact
          obtain rfl : e = .queued req' ip' pkt' := heq
          exact ⟨t, hip ▸ he⟩
      · cases hact
  · split at hact <;> cases hact
  · split at hact <;> cases hact
  · cases hact

theorem exists_flush {log : List (Int × Event)} {pkt : SrPacket}
    (h : .send pkt ∈ acts routingTable ip log) :
    ∃ t mac iface frame ret, (t, Event.sendPacket (.flush pkt ip mac) iface frame ret) ∈ log := by
  obtain ⟨⟨t, e⟩, he, hact⟩ := List.mem_map.mp h
  unfold Event.act at hact
  split at hact
  · split at hact <;> cases hact
  · next pkt' ip' mac iface frame ret heq =>
      split at hact
      · next hip =>
          obtain rfl := Act.send.inj hact
          obtain rfl : e = .sendPacket (.flush pkt' ip' mac) iface frame ret := heq
          exact ⟨t, mac, iface, frame, ret, hip ▸ he⟩
      · cases hact
  · split at hact <;> cases hact
  · cases hact

end Acts

theorem acts_flushEvents {sr : Config} {packets : List SrPacket}
    (hsend : ∀ pkt ∈ packets, Sendable sr pkt) (routingTable : List SrRt) (ip ip' : UInt32)
    (mac : Mac) (now : Int) :
    acts routingTable ip ((flushEvents sr ip' mac packets).map fun e => (now, e)) =
      packets.map fun pkt => if ip' = ip then .send pkt else .other := by
  induction packets with
  | nil => rfl
  | cons pkt packets ih =>
      obtain ⟨hpkt, hsend⟩ := List.forall_mem_cons.mp hsend
      obtain ⟨frame, -, hcons⟩ := flushEvents_cons hpkt ip' mac packets
      rw [hcons, List.map_cons, List.map_cons, ← ih hsend]
      rfl

theorem queued_not_mem_flushEvents {sr : Config} {ip ip' : UInt32} {mac : Mac}
    {packets : List SrPacket} {req : Addr} {pkt : SrPacket} :
    Event.queued req ip pkt ∉ flushEvents sr ip' mac packets := by
  intro he
  obtain ⟨q, -, hmap⟩ := List.mem_filterMap.mp he
  obtain ⟨outIface, -, heq⟩ := Option.map_eq_some_iff.mp hmap
  cases heq

/-! ### The invariant -/

/-- The history is orderly for the next hop, and a pending request for it holds
what it says it holds. -/
structure InOrder (routingTable : List SrRt) (ip : UInt32) (s : Store) : Prop where
  orderly : Orderly (acts routingTable ip s.log)
  held : ∀ r ∈ s.requests, r.ip = ip → Stacked r.addr r.packets (acts routingTable ip s.log)
  fresh : ∀ t req pkt, (t, Event.queued req ip pkt) ∈ s.log → req < s.heap

theorem inOrder_init (routingTable : List SrRt) (ip : UInt32) (now : Int) :
    InOrder routingTable ip ⟨srArpcacheInit, 0, now, []⟩ where
  orderly := .nil
  held := fun _ h => absurd h List.not_mem_nil
  fresh := fun _ _ _ h => absurd h List.not_mem_nil

namespace InOrder

variable {routingTable : List SrRt} {ip : UInt32} {s s' : Store}

theorem silent (h : InOrder routingTable ip s)
    (hadds : Adds (fun e => e.2.act routingTable ip = .other) s s') (hheap : s.heap ≤ s'.heap)
    (hmem : ∀ r' ∈ s'.requests, ∃ r ∈ s.requests, r'.addr = r.addr ∧ r'.ip = r.ip ∧
      r'.packets = r.packets) : InOrder routingTable ip s' := by
  obtain ⟨new, hlog, hnew⟩ := hadds
  have hothers : acts routingTable ip new = List.replicate new.length .other := by
    refine List.eq_replicate_iff.mpr ⟨List.length_map _, fun x hx => ?_⟩
    obtain ⟨e, he, rfl⟩ := List.mem_map.mp hx
    exact hnew e he
  refine ⟨?_, fun r' hr' hip => ?_, fun t req pkt hin => ?_⟩
  · rw [hlog, acts_append, hothers]
    exact h.orderly.others _
  · obtain ⟨r, hr, haddr, hip', hpackets⟩ := hmem r' hr'
    rw [hlog, acts_append, hothers, haddr, hpackets]
    exact (h.held r hr (hip'.symm.trans hip)).others _
  · rw [hlog] at hin
    obtain hin | hin := List.mem_append.mp hin
    · exact Nat.lt_of_lt_of_le (h.fresh t req pkt hin) hheap
    · have hact := hnew _ hin
      simp [Event.act] at hact

theorem of_requests (h : InOrder routingTable ip s)
    (hadds : Adds (fun e => e.2.act routingTable ip = .other) s s') (hheap : s'.heap = s.heap)
    (hsub : ∀ r ∈ s'.requests, r ∈ s.requests) : InOrder routingTable ip s' :=
  h.silent hadds (Nat.le_of_eq hheap.symm) fun r hr => ⟨r, hsub r hr, rfl, rfl, rfl⟩

theorem asked (h : InOrder routingTable ip s) (sr : Config) (ip' : UInt32) (iface : Name) :
    InOrder routingTable ip (s.asked sr ip' iface) :=
  h.of_requests (.asked fun _ _ => rfl) (Store.heap_asked ..) fun _ hr =>
    Store.requests_asked s sr ip' iface ▸ hr

theorem retried (h : InOrder routingTable ip s) (req : Addr) (now : Int) :
    InOrder routingTable ip (s.retried req now) := by
  refine h.silent (.of_log rfl) (Nat.le_refl _) fun r' hr' => ?_
  obtain ⟨r, hr, rfl⟩ := List.mem_map.mp hr'
  refine ⟨r, hr, ?_⟩
  split <;> exact ⟨rfl, rfl, rfl⟩

theorem noted (h : InOrder routingTable ip s) (sr : Config) (pkt : Option SrPacket)
    (packet : Frame) (type code : UInt8) :
    InOrder routingTable ip (s.noted sr pkt packet type code) := by
  have herror : Adds (fun e => e.2.act routingTable ip = .other) s
      (s.trace (.icmpError pkt type code packet)) := .single rfl rfl
  have hadds : Adds (fun e => e.2.act routingTable ip = .other) s
      (s.noted sr pkt packet type code) :=
    s.noted_cases sr pkt packet type code herror fun _ => herror.trans (.single rfl rfl)
  refine h.of_requests hadds (Store.heap_noted ..) fun r hr => ?_
  rw [Store.requests_noted] at hr
  exact hr

theorem sent (h : InOrder routingTable ip s) (hnone : ∀ r ∈ s.requests, r.ip ≠ ip) (e : Event)
    (he : e.act routingTable ip = .pass) : InOrder routingTable ip (s.trace e) where
  orderly := by
    rw [Store.log_trace, acts_append]
    simp only [acts, List.map_cons, he]
    exact h.orderly.pass
  held := fun r hr hip => absurd hip (hnone r hr)
  fresh := by
    intro t req pkt hin
    obtain hin | hin := List.mem_append.mp hin
    · exact h.fresh t req pkt hin
    · obtain ⟨-, rfl⟩ := Prod.mk.inj (List.mem_singleton.mp hin)
      simp only [Event.act, if_true, reduceCtorEq] at he

theorem newRequest (h : InOrder routingTable ip s) (ip' : UInt32) :
    InOrder routingTable ip (s.newRequest ip') := by
  have hadds : Adds (fun e => e.2.act routingTable ip = .other) s (s.newRequest ip') :=
    .single rfl rfl
  have hsame : InOrder routingTable ip (s.trace (.created s.heap ip')) :=
    h.of_requests (.single rfl rfl) rfl fun _ hr => hr
  refine ⟨hsame.orderly, List.forall_mem_cons.mpr ⟨fun _ => .opened fun pkt hin => ?_, hsame.held⟩,
    fun t req pkt hin => Nat.lt_succ_of_lt (hsame.fresh t req pkt hin)⟩
  obtain ⟨t, hin⟩ := exists_queued hin
  exact absurd (hsame.fresh t _ pkt hin) (Nat.lt_irrefl _)

theorem linkPacket {p : Phase} (h : InOrder routingTable ip s) (hc : Conserved p s)
    {r₀ : SrArpreq} (hr₀ : r₀ ∈ s.requests) (hlt : r₀.addr < s.heap)
    (hone : ∀ r ∈ s.requests, r.addr = r₀.addr → r = r₀)
    (honeIp : ∀ r ∈ s.requests, r.ip = r₀.ip → r = r₀) (origin : Origin) (buf : Frame)
    (iface : Name) : InOrder routingTable ip (s.linkPacket r₀.addr r₀.ip origin buf iface) := by
  obtain ⟨new, hnew, hnewAddr⟩ : ∃ new, s.nextPacket origin buf iface = new ∧
      new.addr = s.heap := ⟨_, rfl, rfl⟩
  have hlog : (s.linkPacket r₀.addr r₀.ip origin buf iface).log =
      s.log ++ [(s.now, .queued r₀.addr r₀.ip new)] := by rw [Store.log_linkPacket, hnew]
  have hacts : acts routingTable ip (s.linkPacket r₀.addr r₀.ip origin buf iface).log =
      acts routingTable ip s.log ++ [if r₀.ip = ip then .hold r₀.addr new else .other] := by
    rw [hlog, acts_append]
    rfl
  -- the packet record is new, so the history cannot know it
  have hunknown : ∀ x ∈ acts routingTable ip s.log,
      x ≠ .send new ∧ ∀ req, x ≠ .hold req new := by
    refine fun x hx => ⟨?_, ?_⟩
    · rintro rfl
      obtain ⟨t, mac, iface, frame, ret, hin⟩ := exists_flush hx
      exact absurd hnewAddr (Nat.ne_of_lt (hc.old _ hin new rfl))
    · rintro req rfl
      obtain ⟨t, hin⟩ := exists_queued hx
      exact absurd hnewAddr (Nat.ne_of_lt (hc.old _ hin new rfl))
  refine ⟨?_, fun r' hr' hip => ?_, fun t req pkt hin => ?_⟩
  · rw [hacts]
    split
    · next hip => exact h.orderly.hold (h.held r₀ hr₀ hip) hunknown
    · exact h.orderly.other
  · rw [Store.requests_linkPacket, hnew] at hr'
    obtain ⟨r, hr, rfl⟩ := List.mem_map.mp hr'
    rw [hacts]
    by_cases haddr : r.addr = r₀.addr
    · obtain rfl := hone r hr haddr
      rw [if_pos rfl] at hip ⊢
      rw [if_pos hip]
      exact (h.held r hr hip).hold fun hin => (hunknown _ hin).1 rfl
    · rw [if_neg haddr] at hip ⊢
      have hother : r₀.ip ≠ ip := fun h' => haddr (honeIp r hr (hip.trans h'.symm) ▸ rfl)
      rw [if_neg hother]
      exact (h.held r hr hip).other
  · rw [hlog] at hin
    obtain hin | hin := List.mem_append.mp hin
    · exact Nat.lt_succ_of_lt (h.fresh t req pkt hin)
    · obtain ⟨rfl, -, -⟩ := Event.queued.inj (Prod.mk.inj (List.mem_singleton.mp hin)).2
      exact Nat.lt_succ_of_lt hlt

theorem mapped {sr : Config} (h : InOrder routingTable ip s) (hwf : s.WF) (hs : Healthy sr s)
    (hnodup : ∀ r ∈ s.requests, r.packets.Nodup) (mac : Mac) (ip' : UInt32) :
    InOrder routingTable ip (s.mapped sr mac ip') := by
  cases hfind : s.requests.find? fun r => r.ip == ip' with
  | none =>
      refine h.of_requests (.single (Store.log_mapped_of_none sr mac hfind) rfl) rfl fun r hr => ?_
      rw [Store.requests_mapped_of_none sr mac hfind] at hr
      exact hr
  | some r =>
      have hr : r ∈ s.requests := List.mem_of_find?_eq_some hfind
      obtain rfl : r.ip = ip' := by simpa using List.find?_some hfind
      have hlog := Store.log_mapped_of_some sr mac hfind
      have hacts : acts routingTable ip ((s.now, .learned mac r.ip (some r)) ::
          (flushEvents sr r.ip mac r.packets).map fun e => (s.now, e)) =
          .other :: r.packets.map fun pkt => if r.ip = ip then .send pkt else .other := by
        rw [acts, List.map_cons]
        exact congrArg _ (acts_flushEvents (hs.packets r hr) ..)
      by_cases hip : r.ip = ip
      · simp only [if_pos hip] at hacts
        refine ⟨?_, fun r' hr' hip' => ?_, fun t req pkt hin => ?_⟩
        · rw [hlog, acts_append, hacts, List.append_cons]
          exact h.orderly.other.sendAll (h.held r hr hip).other (hnodup r hr)
        · exact absurd (hip'.trans hip.symm) ((mem_eraseP_key hwf.ip_nodup).mp hr').2
        · rw [hlog] at hin
          obtain hin | hin := List.mem_append.mp hin
          · exact h.fresh t req pkt hin
          · obtain hin | hin := List.mem_cons.mp hin
            · cases (Prod.mk.inj hin).2
            · obtain ⟨e, he, heq⟩ := List.mem_map.mp hin
              obtain ⟨-, rfl⟩ := Prod.mk.inj heq
              exact absurd he queued_not_mem_flushEvents
      · simp only [if_neg hip] at hacts
        refine h.of_requests ⟨_, hlog, fun e he => ?_⟩ rfl fun q hq => List.eraseP_sublist.subset hq
        have hmem := List.mem_map_of_mem (f := fun e => e.2.act routingTable ip) he
        rw [show List.map _ _ = _ from hacts] at hmem
        obtain hmem | hmem := List.mem_cons.mp hmem
        · exact hmem
        · obtain ⟨pkt, -, hmem⟩ := List.mem_map.mp hmem
          exact hmem.symm

end InOrder

/-! ### Runs -/

/-- **Every transition keeps the order.** -/
theorem Transition.inOrder {sr : Config} {c c' : Phase × Store} (h : Transition sr c c')
    (hcons : Consistent c.2) (hs : Healthy sr c.2) (hc : Conserved c.1 c.2) {ip : UInt32}
    (ho : InOrder sr.routingTable ip c.2) : InOrder sr.routingTable ip c'.2 := by
  have hwf := hcons.wf
  cases h with
  | replied hreply =>
      refine ho.of_requests (.single rfl ?_) rfl fun _ hr => hr
      cases hreply <;> rfl
  | errored => exact ho.noted ..
  | reported => exact ho.noted ..
  | @sent p s origin packet outIface ip' entry _ _ hhop hhit =>
      have hroute : hopIp sr.routingTable (addressed packet outIface entry.mac) = some ip' :=
        (hopIp_congr (sameBody_addressed ..).ipDst_eq _).trans (hopIp_of_nextHop hhop)
      by_cases hip : ip' = ip
      · subst hip
        refine ho.sent (fun r hr hrip => ?_) _ (if_pos hroute)
        -- a request for an address that is known
        have hmiss := hcons.uncached r hr
        rw [hrip, hhit] at hmiss
        cases hmiss
      · refine ho.of_requests (.single rfl (if_neg ?_)) rfl fun _ hr => hr
        rw [hroute]
        exact fun h => hip (Option.some.inj h)
  | linked _ _ _ _ hr =>
      exact ho.linkPacket hc hr (hwf.addr_lt _ hr) (fun q hq => hwf.eq_of_addr hq hr)
        (fun q hq => hwf.eq_of_ip hq hr) ..
  | linkedFirst _ _ _ _ hr hsent =>
      have := (hs.counters _ hr).1
      omega
  | @created p s _ _ _ ip' _ _ _ _ hnew =>
      have hother : ∀ r ∈ s.requests, r.ip ≠ ip' := by simpa using hnew
      refine InOrder.retried (InOrder.asked ?_ ..) ..
      refine (ho.newRequest ip').linkPacket (hc.newRequest ip') List.mem_cons_self
        (Nat.lt_succ_self _) ?_ ?_ ..
      · refine List.forall_mem_cons.mpr ⟨fun _ => rfl, fun r hr haddr => ?_⟩
        exact absurd haddr (Nat.ne_of_lt (hwf.addr_lt r hr))
      · exact List.forall_mem_cons.mpr ⟨fun _ => rfl, fun r hr hip => absurd hip (hother r hr)⟩
  | retried => exact (ho.asked ..).retried ..
  | givenUp => exact ho
  | destroyed =>
      refine Store.srArpreqDestroy_cases _ _ ?_ ?_
      · exact fun _ => ho
      · exact fun r => ho.of_requests (.single rfl rfl) rfl fun q hq =>
          List.eraseP_sublist.subset hq
  | mapped mac ip' => exact ho.mapped hwf hs hc.nodup mac ip'
  | expired => exact ho.of_requests (.of_log rfl) rfl fun _ hr => hr

theorem Path.inOrder {sr : Config} {c c' : Phase × Store} (h : Path sr c c')
    (hcons : Consistent c.2) (hs : Healthy sr c.2) (hc : Conserved c.1 c.2) {ip : UInt32}
    (ho : InOrder sr.routingTable ip c.2) : InOrder sr.routingTable ip c'.2 :=
  (h.invariant (I := fun c => (Consistent c.2 ∧ Healthy sr c.2 ∧ Conserved c.1 c.2) ∧
      InOrder sr.routingTable ip c.2)
    (fun _ _ hwf ht h => ⟨⟨ht.consistent h.1.1, ht.healthy hwf h.1.2.1,
      ht.conserved hwf h.1.2.1 h.1.2.2⟩, ht.inOrder h.1.1 h.1.2.1 h.1.2.2 h.2⟩)
    hcons.wf ⟨⟨hcons, hs, hc⟩, ho⟩).1.2

namespace SrInstance

theorem step_inOrder {sr : SrInstance} (hsound : sr.Sound) (hcons : Consistent sr.store)
    {ip : UInt32} (h : InOrder sr.config.routingTable ip sr.store) (a : Action) :
    InOrder sr.config.routingTable ip (sr.step a).store := by
  have hnow (now : Int) : InOrder sr.config.routingTable ip (sr.store.setNow now) :=
    h.of_requests (.of_log rfl) rfl fun _ hr => hr
  have hconserved (now : Int) : Conserved .idle (sr.store.setNow now) :=
    hsound.conserved.congr rfl rfl rfl
  cases a with
  | recv now packet interface =>
      exact (step_recv_path hcons.wf now packet interface).inOrder (hcons.setNow now)
        ⟨hsound.healthy.counters, hsound.healthy.packets⟩ (hconserved now) (hnow now)
  | timer now =>
      exact (step_timer_path hcons.wf now).inOrder (hcons.setNow now)
        ⟨hsound.healthy.counters, hsound.healthy.packets⟩ (hconserved now) (hnow now)
  | hwinfo mem entries =>
      rw [step_hwinfo_store]
      exact h

theorem run_inOrder (config : Config) (now : Int) (actions : List Action) (ip : UInt32) :
    InOrder config.routingTable ip ((init config now).run actions).store := by
  have hall := run_invariant (fun sr => sr.Sound ∧ Consistent sr.store ∧
      sr.config.routingTable = config.routingTable ∧ InOrder config.routingTable ip sr.store)
    (init config now) actions
    (fun sr a _ h => ⟨h.1.step a, step_consistent h.2.1 a,
      (step_routingTable sr a).trans h.2.2.1,
      h.2.2.1 ▸ step_inOrder h.1 h.2.1 (h.2.2.1.symm ▸ h.2.2.2) a⟩)
    ⟨run_sound config now [], consistent_init now, rfl, inOrder_init ..⟩
  exact hall.2.2.2

theorem step_log_prefix {sr : SrInstance} (h : sr.Sound) (a : Action) :
    sr.store.log <+: (sr.step a).store.log := by
  have hadds {c : Phase × Store} (hpath : Path sr.config c (.idle, (sr.step a).store))
      (hwf : c.2.WF) (hs : Healthy sr.config c.2) (hlog : c.2.log = sr.store.log) :
      sr.store.log <+: (sr.step a).store.log := by
    obtain ⟨new, hnew, -⟩ := Path.sound hpath hwf hs
    exact ⟨new, (hlog ▸ hnew).symm⟩
  cases a with
  | recv now packet interface =>
      exact hadds (step_recv_path h.wf now packet interface) (h.wf.setNow now)
        ⟨h.healthy.counters, h.healthy.packets⟩ rfl
  | timer now =>
      exact hadds (step_timer_path h.wf now) (h.wf.setNow now)
        ⟨h.healthy.counters, h.healthy.packets⟩ rfl
  | hwinfo mem entries =>
      rw [step_hwinfo_store]

/-- The history after the first `k` actions of a run. -/
def logAt (config : Config) (now : Int) (actions : List Action) (k : Nat) : List (Int × Event) :=
  ((init config now).run (actions.take k)).store.log

theorem logAt_prefix_succ (config : Config) (now : Int) (actions : List Action) (k : Nat) :
    logAt config now actions k <+: logAt config now actions (k + 1) := by
  unfold logAt
  cases ha : actions[k]? with
  | none => rw [List.take_add_one, ha, Option.toList_none, List.append_nil]
  | some a =>
      rw [List.take_add_one, ha, Option.toList_some, run_append]
      exact step_log_prefix (run_sound ..) a

theorem logAt_prefix (config : Config) (now : Int) (actions : List Action) {k k' : Nat}
    (h : k ≤ k') : logAt config now actions k <+: logAt config now actions k' := by
  induction h with
  | refl => exact List.prefix_refl _
  | step _ ih => exact ih.trans (logAt_prefix_succ ..)

end SrInstance

/-! ### The order of transmissions -/

/-- The `i`-th entry of the history comes from the frame that was received in
the `k`-th step. -/
structure During (config : Config) (now : Int) (actions : List Action) (k i : Nat) : Prop where
  recv : ∃ t packet interface, actions[k]? = some (.recv t packet interface)
  ge : (SrInstance.logAt config now actions k).length ≤ i
  lt : i < (SrInstance.logAt config now actions (k + 1)).length

/-- The packet that was received in the `k`-th step of a run is transmitted to
the next hop `ip` by the `m`-th entry of the history: at once, or after it
waited on the pending request at `req`. -/
inductive Transmitted (config : Config) (now : Int) (actions : List Action) (k : Nat)
    (ip : UInt32) (iface : Name) : Option Addr → Nat → Prop
  | direct {i : Nat} {t : Int} {frame : Frame} (hstep : During config now actions k i)
      (hsent : ((SrInstance.init config now).run actions).store.log[i]? =
        some (t, .sendPacket (.routed .received) iface frame 0))
      (hhop : hopIp config.routingTable frame = some ip) :
      Transmitted config now actions k ip iface none i
  | waited {i m : Nat} {t t' : Int} {req : Addr} {pkt : SrPacket} {mac : Mac} {frame : Frame}
      (hstep : During config now actions k i)
      (hqueued : ((SrInstance.init config now).run actions).store.log[i]? =
        some (t, .queued req ip pkt)) (horigin : pkt.origin = .received)
      (hsent : ((SrInstance.init config now).run actions).store.log[m]? =
        some (t', .sendPacket (.flush pkt ip mac) iface frame 0)) :
      Transmitted config now actions k ip iface (some req) m

theorem During.lt_of_lt {config : Config} {now : Int} {actions : List Action} {k k' i i' : Nat}
    (h : During config now actions k i) (h' : During config now actions k' i') (hk : k < k') :
    i < i' :=
  calc
    i < (SrInstance.logAt config now actions (k + 1)).length := h.lt
    _ ≤ (SrInstance.logAt config now actions k').length :=
      (SrInstance.logAt_prefix config now actions hk).length_le
    _ ≤ i' := h'.ge

theorem Transmitted.exists_sentAt {config : Config} {now : Int} {actions : List Action} {k : Nat}
    {ip : UInt32} {iface : Name} {r : Option Addr} {m : Nat}
    (h : Transmitted config now actions k ip iface r m) :
    ∃ i, During config now actions k i ∧ SentAt (acts config.routingTable ip
      ((SrInstance.init config now).run actions).store.log) i r m := by
  cases h with
  | direct hstep hsent hhop =>
      refine ⟨m, hstep, .passed ?_⟩
      rw [acts, List.getElem?_map, hsent]
      exact congrArg some (if_pos hhop)
  | @waited i _ t t' req pkt mac frame hstep hqueued _ hsent =>
      refine ⟨i, hstep, .waited (a := pkt) ?_ ?_⟩
      · rw [acts, List.getElem?_map, hqueued]
        exact congrArg some (if_pos rfl)
      · rw [acts, List.getElem?_map, hsent]
        exact congrArg some (if_pos rfl)

/-- **The order towards a next hop.** Of two received packets that are both
transmitted to one next hop, the one received first is transmitted first,
unless they waited on one pending request; then it is transmitted last. -/
theorem transmission_order (config : Config) (now : Int) (actions : List Action) {k k' : Nat}
    (hk : k < k') {ip : UInt32} {iface iface' : Name} {r r' : Option Addr} {m m' : Nat}
    (h : Transmitted config now actions k ip iface r m)
    (h' : Transmitted config now actions k' ip iface' r' m') :
    (¬Together r r' ∧ m < m') ∨ (Together r r' ∧ m' < m) := by
  obtain ⟨i, hstep, hsent⟩ := h.exists_sentAt
  obtain ⟨i', hstep', hsent'⟩ := h'.exists_sentAt
  exact (SrInstance.run_inOrder config now actions ip).orderly.order
    (hstep.lt_of_lt hstep' hk) hsent hsent'

def latecomerFrame : Frame :=
  [2, 0, 0, 0, 0, 2, 2, 0, 0, 0, 2, 50, 8, 0,
    0x45, 0, 0, 20, 0, 0, 0, 0, 63, 17, 0x64, 0x76, 10, 0, 2, 50, 10, 0, 1, 50]

/-- Two packets wait for 10.0.1.50 when it asks for an address of its own, and
a third one comes when its address is known. -/
def overtaking : List Action :=
  [.recv 0 crossingFrame eth2.name, .recv 0 latecomerFrame eth2.name,
    .recv 1 askingFrame eth1.name, .recv 2 crossingFrame eth2.name]

def onQueue (addr : Addr) (packet : Frame) : SrPacket :=
  { addr := addr, origin := .received, buf := setEtherShost (decrementTtl packet) eth1.addr,
    iface := strncpy srIfaceNamelen eth1.name }

/-- The entry of the history that sends it. -/
def onQueueSent (addr : Addr) (packet : Frame) : Int × Event :=
  (1, .sendPacket (.flush (onQueue addr packet) 0x3201000a (arSha askingFrame))
    (strncpy srIfaceNamelen eth1.name)
    (setEtherDhost (onQueue addr packet).buf (arSha askingFrame)) 0)

theorem transmitted_crossing : Transmitted twoNetworks 0 overtaking 0 0x3201000a
    (strncpy srIfaceNamelen eth1.name) (some 0) 6 := by
  have hqueued : ((SrInstance.init twoNetworks 0).run overtaking).store.log[1]? =
      some (0, .queued 0 0x3201000a (onQueue 1 crossingFrame)) := by decide +kernel
  have hsent : ((SrInstance.init twoNetworks 0).run overtaking).store.log[6]? =
      some (onQueueSent 1 crossingFrame) := by decide +kernel
  exact .waited ⟨⟨0, crossingFrame, eth2.name, rfl⟩, by decide +kernel, by decide +kernel⟩
    hqueued rfl hsent

theorem transmitted_latecomer : Transmitted twoNetworks 0 overtaking 1 0x3201000a
    (strncpy srIfaceNamelen eth1.name) (some 0) 5 := by
  have hqueued : ((SrInstance.init twoNetworks 0).run overtaking).store.log[3]? =
      some (0, .queued 0 0x3201000a (onQueue 2 latecomerFrame)) := by decide +kernel
  have hsent : ((SrInstance.init twoNetworks 0).run overtaking).store.log[5]? =
      some (onQueueSent 2 latecomerFrame) := by decide +kernel
  exact .waited ⟨⟨0, latecomerFrame, eth2.name, rfl⟩, by decide +kernel, by decide +kernel⟩
    hqueued rfl hsent

theorem transmitted_third : Transmitted twoNetworks 0 overtaking 3 0x3201000a eth1.name none 8 := by
  have hsent : ((SrInstance.init twoNetworks 0).run overtaking).store.log[8]? =
      some (2, .sendPacket (.routed .received) eth1.name
        (addressed (decrementTtl crossingFrame) eth1 (arSha askingFrame)) 0) := by decide +kernel
  exact .direct ⟨⟨2, crossingFrame, eth2.name, rfl⟩, by decide +kernel, by decide +kernel⟩
    hsent (by decide +kernel)

/-- The packet that waited goes out before the one that found the address. -/
theorem transmission_order_overtaking :
    (¬Together (some 0) (none : Option Addr) ∧ 6 < 8) ∨
      (Together (some 0) (none : Option Addr) ∧ 8 < 6) :=
  transmission_order twoNetworks 0 overtaking (show 0 < 3 by decide) transmitted_crossing
    transmitted_third

/-- The second of two packets that wait together overtakes the first. -/
theorem exists_overtaking : ¬∀ (config : Config) (now : Int) (actions : List Action) (k k' : Nat)
    (ip : UInt32) (iface : Name) (r r' : Option Addr) (m m' : Nat), k < k' →
    Transmitted config now actions k ip iface r m →
    Transmitted config now actions k' ip iface r' m' → m < m' := by
  intro hall
  have hlt := hall _ _ _ _ _ _ _ _ _ _ _ (show 0 < 1 by decide) transmitted_crossing
    transmitted_latecomer
  omega

end SrRouter
