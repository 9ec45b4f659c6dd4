import SrRouter.Threads
import SrRouter.CacheMap
import SrRouter.Forwarding

/-!
The cache and the queue agree, however the threads are interleaved.

`sr_send_routed_ip_packet` looks an address up and queues a request for it
in two critical sections. A pass of the timer thread in between may expire
entries and may itself queue a request for the same address, but it never
stores a mapping, so what was missing stays missing. That is the one fact the
packet thread has to carry from one section to the next.
-/

namespace SrRouter

open ByteBuffer Interactive

/-- The queue is well formed, and no address that a request is for has a valid
cache entry. -/
structure Consistent (s : Store) : Prop where
  wf : s.WF
  uncached : ∀ r ∈ s.requests, srArpcacheLookup s.cache r.ip = none

theorem consistent_init (now : Int) : Consistent ⟨srArpcacheInit, 0, now, []⟩ :=
  ⟨wf_init now, fun _ h => absurd h List.not_mem_nil⟩

namespace Consistent

variable {s s' : Store}

theorem of_entries (h : Consistent s) (hwf : s'.WF)
    (hentries : s'.cache.entries = s.cache.entries)
    (hips : ∀ r' ∈ s'.requests, (∃ r ∈ s.requests, r'.ip = r.ip) ∨
      srArpcacheLookup s.cache r'.ip = none) : Consistent s' where
  wf := hwf
  uncached := by
    intro r' hr'
    rw [Store.lookup_eq_of_entries hentries]
    obtain ⟨r, hr, hip⟩ | hmiss := hips r' hr'
    · rw [hip]
      exact h.uncached r hr
    · exact hmiss

theorem of_requests (h : Consistent s) (hwf : s'.WF)
    (hentries : s'.cache.entries = s.cache.entries) (hreq : s'.requests = s.requests) :
    Consistent s' :=
  h.of_entries hwf hentries fun r hr => .inl ⟨r, hreq ▸ hr, rfl⟩

theorem of_map (h : Consistent s) (hwf : s'.WF)
    (hentries : s'.cache.entries = s.cache.entries) (f : SrArpreq → SrArpreq)
    (hreq : s'.requests = s.requests.map f) (hf : ∀ r, (f r).ip = r.ip) : Consistent s' := by
  refine h.of_entries hwf hentries fun r' hr' => ?_
  rw [hreq] at hr'
  obtain ⟨r, hr, rfl⟩ := List.mem_map.mp hr'
  exact .inl ⟨r, hr, hf r⟩

theorem insert (h : Consistent s) (hwf : s'.WF) (mac : Mac) (ip : UInt32)
    (hcache : s'.cache = (srArpcacheInsert s.cache s.now mac ip).2) : Consistent s' where
  wf := hwf
  uncached := by
    intro r hr
    rw [Store.requests, hcache] at hr
    obtain ⟨hmem, hne⟩ := (mem_eraseP_key h.wf.ip_nodup).mp hr
    rw [hcache]
    exact srArpcacheLookup_insert_eq_none hne (h.uncached r hmem) s.now mac

theorem expire (h : Consistent s) (hwf : s'.WF) (curtime : Int)
    (hcache : s'.cache = srArpcacheExpire s.cache curtime) : Consistent s' where
  wf := hwf
  uncached := by
    intro r hr
    rw [Store.requests, hcache] at hr
    rw [hcache]
    exact srArpcacheLookup_expire_eq_none (h.uncached r hr) curtime

theorem setNow (h : Consistent s) (now : Int) : Consistent (s.setNow now) :=
  h.of_requests (h.wf.setNow now) rfl rfl

theorem update (h : Consistent s) (req : Addr) (f : SrArpreq → SrArpreq)
    (haddr : ∀ r, (f r).addr = r.addr) (hip : ∀ r, (f r).ip = r.ip)
    (hpackets : ∀ r, (f r).packets = r.packets) : Consistent (s.update req f) := by
  refine h.of_map (h.wf.update haddr hip fun r hne => by rw [hpackets]; exact hne) rfl _ rfl ?_
  intro r
  split
  · exact hip r
  · rfl

theorem queuereq (h : Consistent s) {ip : UInt32} (hmiss : srArpcacheLookup s.cache ip = none)
    (origin : Origin) (buf : Frame) (iface : Name) :
    Consistent (srArpcacheQueuereq s ip origin buf iface).2 := by
  have hwf := h.wf.srArpcacheQueuereq ip origin buf iface
  unfold srArpcacheQueuereq at hwf ⊢
  cases hfind : s.requests.find? fun r => r.ip == ip with
  | some r =>
      rw [hfind] at hwf
      refine h.of_map hwf rfl _ (Store.requests_linkPacket ..) fun q => ?_
      split <;> rfl
  | none =>
      rw [hfind] at hwf
      refine h.of_entries hwf rfl fun r' hr' => ?_
      simp only [Store.requests_linkPacket, Store.requests_newRequest, List.map_cons, if_true,
        h.wf.allocated.map_fresh, List.mem_cons] at hr'
      obtain rfl | hr' := hr'
      · exact .inr hmiss
      · exact .inl ⟨r', hr', rfl⟩

theorem destroy (h : Consistent s) (req : Addr) : Consistent (srArpreqDestroy s req) := by
  refine h.of_entries (h.wf.srArpreqDestroy req) (Store.entries_srArpreqDestroy ..) fun r hr => ?_
  exact .inl ⟨r, ((mem_srArpreqDestroy h.wf).mp hr).1, rfl⟩

end Consistent

/-! ### Atomic steps -/

/-- **Every transition keeps cache and queue consistent.** -/
theorem Transition.consistent {sr : Config} {c c' : Phase × Store} (h : Transition sr c c')
    (hc : Consistent c.2) : Consistent c'.2 := by
  have hwf := h.wf hc.wf
  cases h with
  | replied => exact hc.of_requests hwf rfl rfl
  | errored => exact hc.of_requests hwf (Store.entries_noted ..) (Store.requests_noted ..)
  | reported => exact hc.of_requests hwf (Store.entries_noted ..) (Store.requests_noted ..)
  | sent => exact hc.of_requests hwf rfl rfl
  | linked =>
      refine hc.of_map hwf rfl _ (Store.requests_linkPacket ..) fun r => ?_
      split <;> rfl
  | linkedFirst =>
      refine hc.of_map hwf (by simp [Store.retried]) _ (requests_linkedFirst ..) fun r => ?_
      split <;> rfl
  | created _ _ _ hmiss =>
      refine hc.of_entries hwf (by simp [Store.retried]) fun r hr => ?_
      rw [requests_created hc.wf.allocated] at hr
      obtain rfl | hr := List.mem_cons.mp hr
      · exact .inr hmiss
      · exact .inl ⟨r, hr, rfl⟩
  | retried =>
      have hrequests := Store.requests_update
      refine hc.of_map hwf (by simp [Store.retried]) _
        (by rw [Store.retried, hrequests, Store.requests_asked]) fun r => ?_
      split <;> rfl
  | givenUp => exact hc
  | destroyed => exact hc.destroy _
  | mapped mac ip => exact hc.insert hwf mac ip rfl
  | expired => exact hc.expire hwf _ rfl

theorem Path.consistent {sr : Config} {c c' : Phase × Store} (h : Path sr c c')
    (hc : Consistent c.2) : Consistent c'.2 :=
  (h.invariant (I := fun c => Consistent c.2) (fun _ _ _ ht hc => ht.consistent hc) hc.wf hc).1

theorem SrInstance.step_consistent {sr : SrInstance} (h : Consistent sr.store) (a : Action) :
    Consistent (sr.step a).store := by
  cases a with
  | recv now packet interface =>
      exact (step_recv_path h.wf now packet interface).consistent (h.setNow now)
  | timer now => exact (step_timer_path h.wf now).consistent (h.setNow now)
  | hwinfo mem entries =>
      rw [step_hwinfo_store]
      exact h

theorem lookup_step_timer {sr : SrInstance} (hwf : sr.store.WF) {ip : UInt32}
    (h : srArpcacheLookup sr.store.cache ip = none) (now : Int) :
    srArpcacheLookup (sr.step (.timer now)).store.cache ip = none := by
  have hentries : (sr.step (.timer now)).store.cache.entries =
      (srArpcacheExpire sr.store.cache now).entries :=
    entries_srArpcacheTimeout sr.config (hwf.setNow now)
  rw [Store.lookup_eq_of_entries hentries]
  exact srArpcacheLookup_expire_eq_none h now

/-! ### Interleavings -/

/-- The store is consistent with what the packet thread knows. -/
structure Coherent (g : ThreadState) (s : Store) : Prop where
  consistent : Consistent s
  missing : ∀ ip, g = .missed ip → srArpcacheLookup s.cache ip = none

theorem Coherent.exec {P : UInt8 → UInt8 → Frame → Prop} {g : ThreadState} {o : Op} {s : Store}
    (h : Coherent g s) (hguard : (packetDiscipline P).guard g o) :
    Coherent ((packetDiscipline P).next g o (exec o s).1) (SrRouter.exec o s).2 := by
  have hc := h.consistent
  cases o with
  | lookup ip =>
      cases g with
      | free =>
          refine ⟨hc, fun q hq => ?_⟩
          -- the lookup that missed is the one just made
          simp only [SrRouter.exec, packetDiscipline] at hq ⊢
          split at hq <;> simp_all
      | missed | returned | sending => exact absurd hguard not_false
  | queuereq ip origin buf iface =>
      cases g with
      | missed q =>
          obtain rfl : ip = q := hguard
          exact ⟨hc.queuereq (h.missing ip rfl) origin buf iface, fun _ hip => by cases hip⟩
      | free | returned | sending => exact absurd hguard not_false
  | insert mac ip =>
      cases g with
      | free =>
          refine ⟨hc.insert (hc.wf.sublist List.eraseP_sublist rfl) mac ip rfl, fun _ hip => ?_⟩
          cases hip
      | missed | returned | sending => exact absurd hguard not_false
  | destroy req =>
      cases g with
      | free => exact ⟨hc.destroy req, fun _ hip => by cases hip⟩
      | missed | returned | sending => exact absurd hguard not_false
  | readRequest req =>
      cases g with
      | returned q =>
          refine ⟨hc, fun ip hip => ?_⟩
          simp only [packetDiscipline] at hip
          split at hip <;> cases hip
      | sending q => exact ⟨hc, fun _ hip => by cases hip⟩
      | free | missed => exact absurd hguard not_false
  | writeSent req sent =>
      cases g with
      | sending q =>
          refine ⟨hc.update req _ (fun _ => rfl) (fun _ => rfl) fun _ => rfl, fun _ hip => ?_⟩
          cases hip
      | free | missed | returned => exact absurd hguard not_false
  | incTimesSent req =>
      cases g with
      | sending q =>
          refine ⟨hc.update req _ (fun _ => rfl) (fun _ => rfl) fun _ => rfl, fun _ hip => ?_⟩
          cases hip
      | free | missed | returned => exact absurd hguard not_false
  | time => cases g <;> exact ⟨hc, h.missing⟩
  | trace e => cases g <;> exact ⟨hc.of_requests (hc.wf.trace e) rfl rfl, h.missing⟩

theorem next_ne_missed {P : UInt8 → UInt8 → Frame → Prop} {g : ThreadState} {o : Op} {a : Addr}
    (hguard : (packetDiscipline P).guard g o) (ha : o.derefs = some a) (r : Res o)
    (ip : UInt32) : (packetDiscipline P).next g o r ≠ .missed ip := by
  cases o with
  | readRequest req =>
      cases g with
      | returned q =>
          simp only [packetDiscipline]
          split <;> exact ThreadState.noConfusion
      | sending q => exact ThreadState.noConfusion
      | free | missed => exact absurd hguard not_false
  | writeSent req sent =>
      cases g with
      | sending q => exact ThreadState.noConfusion
      | free | missed | returned => exact absurd hguard not_false
  | incTimesSent req =>
      cases g with
      | sending q => exact ThreadState.noConfusion
      | free | missed | returned => exact absurd hguard not_false
  | lookup | queuereq | insert | destroy | time | trace => cases ha

theorem Coherent.env {allowed : Program → SrInstance → Int → Prop} {g : ThreadState}
    {p : Program} {sr sr' : SrInstance} (h : Coherent g sr.store)
    (henv : Surroundings allowed p sr sr') : Coherent g sr'.store := by
  have hc := h.consistent
  cases henv with
  | timer now =>
      exact ⟨sr.step_consistent hc (.timer now), fun ip hg =>
        lookup_step_timer hc.wf (h.missing ip hg) now⟩
  | clock now => exact ⟨hc.setNow now, h.missing⟩
  | hwinfo mem entries =>
      rw [SrInstance.step_hwinfo_store]
      exact h

/-- **Every reachable state of the threads is consistent.** Wherever the passes
of the timer thread fall, at whatever clock values, no two requests are for
one address, every request carries a packet, and no address has both a valid
cache entry and a request. -/
theorem interleaving_consistent (config : Config) (now : Int) {c : Conf Res SrInstance}
    (h : Interleaved.Reaches (threads anyPass) (atInit config now) c) :
    (c.state.requests.map SrArpreq.ip).Nodup ∧ (∀ r ∈ c.state.requests, r.packets ≠ []) ∧
      ∀ r ∈ c.state.requests, ∀ e ∈ c.state.store.cache.entries, ¬e.Binds r.ip := by
  have hinit : (atInit config now).Within (packetDiscipline fun _ _ _ => True)
      (fun g => g = .free) (fun g sr => Coherent g sr.store) :=
    ⟨.free, ⟨consistent_init now, fun _ hip => by cases hip⟩, rfl⟩
  have hstart (g : ThreadState) (sr : SrInstance) (p : Program) (hI : Coherent g sr.store)
      (hg : g = .free) (hp : (threads anyPass).start sr p) :
      ∃ g', Coherent g' sr.store ∧ Uses (fun _ _ _ => True) g' p := by
    obtain ⟨packet, interface, rfl⟩ := hp
    subst hg
    exact ⟨.free, hI, uses_srHandlepacket sr.config interface (fun _ _ => trivial)
      (fun _ _ => trivial) fun _ _ _ => trivial⟩
  obtain ⟨g, hcoherent, -⟩ := Interleaved.invariant
    (fun g o sr hI hguard _ => hI.exec hguard)
    (fun g o sr r hI hguard hdangles =>
      have ⟨_, ha, _⟩ := hdangles
      ⟨hI.consistent, fun ip hip => absurd hip (next_ne_missed hguard ha r ip)⟩)
    (fun g p sr sr' hI _ henv => hI.env henv) hstart hinit h
  have hc := hcoherent.consistent
  exact ⟨hc.wf.ip_nodup, hc.wf.packets_ne, fun r hr =>
    srArpcacheLookup_eq_none.mp (hc.uncached r hr)⟩

/-- A pass that falls between the lookup and the queueing of one frame. -/
theorem interleaving_consistent_twoNetworks :
    let c := schedule [.frame crossingFrame eth2.name, .thread, .timer 20, .thread]
      (atInit twoNetworks 0)
    c.state.requests ≠ [] ∧ (c.state.requests.map SrArpreq.ip).Nodup ∧
      (∀ r ∈ c.state.requests, r.packets ≠ []) ∧
      ∀ r ∈ c.state.requests, ∀ e ∈ c.state.store.cache.entries, ¬e.Binds r.ip :=
  ⟨by decide, interleaving_consistent twoNetworks 0 (reaches_schedule _ _)⟩

end SrRouter
