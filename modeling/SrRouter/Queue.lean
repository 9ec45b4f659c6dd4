import SrRouter.Router
import Mathlib.Data.List.Nodup

/-!
The request queue as a list of records, and what every operation leaves of
it well formed.

A pointer to a request is an address, so everything the source does through
pointers rests on addresses being distinct: the record found for an IP is
the one that a write through its address changes. The records of a
well-formed queue also have distinct IPs, and each of them has a packet.
-/

namespace SrRouter

open ByteBuffer CString Interactive

theorem find?_key_eq_some {α κ : Type} [DecidableEq κ] {key : α → κ} {l : List α} {a : α}
    (hnodup : (l.map key).Nodup) (ha : a ∈ l) : l.find? (fun b => key b == key a) = some a := by
  induction l with
  | nil => cases ha
  | cons b l ih =>
      rw [List.map_cons, List.nodup_cons] at hnodup
      by_cases hkey : key b = key a
      · obtain rfl | hmem := List.mem_cons.mp ha
        · simp
        · exact absurd (List.mem_map.mpr ⟨a, hmem, hkey.symm⟩) hnodup.1
      · obtain rfl | hmem := List.mem_cons.mp ha
        · exact absurd rfl hkey
        · rw [List.find?_cons_of_neg (by simpa using hkey)]
          exact ih hnodup.2 hmem

theorem mem_eraseP_key {α κ : Type} [DecidableEq κ] {key : α → κ} {l : List α} {k : κ} {a : α}
    (hnodup : (l.map key).Nodup) :
    a ∈ l.eraseP (fun b => key b == k) ↔ a ∈ l ∧ key a ≠ k := by
  induction l with
  | nil => simp
  | cons b l ih =>
      rw [List.map_cons, List.nodup_cons] at hnodup
      by_cases hkey : key b = k
      · rw [List.eraseP_cons_of_pos (by simpa using hkey)]
        constructor
        · intro hmem
          refine ⟨List.mem_cons_of_mem b hmem, fun ha => hnodup.1 ?_⟩
          exact List.mem_map.mpr ⟨a, hmem, ha.trans hkey.symm⟩
        · rintro ⟨hmem, ha⟩
          obtain rfl | hmem := List.mem_cons.mp hmem
          · exact absurd hkey ha
          · exact hmem
      · rw [List.eraseP_cons_of_neg (by simpa using hkey), List.mem_cons, ih hnodup.2,
          List.mem_cons]
        constructor
        · rintro (rfl | ⟨hmem, ha⟩)
          · exact ⟨.inl rfl, hkey⟩
          · exact ⟨.inr hmem, ha⟩
        · rintro ⟨rfl | hmem, ha⟩
          · exact .inl rfl
          · exact .inr ⟨hmem, ha⟩

/-! ### What the operations leave alone -/

namespace Store

variable (s : Store)

@[simp] theorem requests_trace (e : Event) : (s.trace e).requests = s.requests := rfl
@[simp] theorem cache_trace (e : Event) : (s.trace e).cache = s.cache := rfl
@[simp] theorem heap_trace (e : Event) : (s.trace e).heap = s.heap := rfl
@[simp] theorem now_trace (e : Event) : (s.trace e).now = s.now := rfl
@[simp] theorem log_trace (e : Event) : (s.trace e).log = s.log ++ [(s.now, e)] := rfl

@[simp] theorem requests_setRequests (l : List SrArpreq) : (s.setRequests l).requests = l := rfl
@[simp] theorem entries_setRequests (l : List SrArpreq) :
    (s.setRequests l).cache.entries = s.cache.entries := rfl
@[simp] theorem heap_setRequests (l : List SrArpreq) : (s.setRequests l).heap = s.heap := rfl
@[simp] theorem now_setRequests (l : List SrArpreq) : (s.setRequests l).now = s.now := rfl
@[simp] theorem log_setRequests (l : List SrArpreq) : (s.setRequests l).log = s.log := rfl

variable (req : Addr) (f : SrArpreq → SrArpreq)

@[simp] theorem requests_update :
    (s.update req f).requests = s.requests.map fun r => if r.addr = req then f r else r := rfl
@[simp] theorem entries_update : (s.update req f).cache.entries = s.cache.entries := rfl
@[simp] theorem heap_update : (s.update req f).heap = s.heap := rfl
@[simp] theorem now_update : (s.update req f).now = s.now := rfl
@[simp] theorem log_update : (s.update req f).log = s.log := rfl

variable (ip : UInt32)

@[simp] theorem requests_newRequest : (s.newRequest ip).requests =
    { addr := s.heap, ip := ip, sent := 0, timesSent := 0, packets := [] } :: s.requests := rfl
@[simp] theorem entries_newRequest : (s.newRequest ip).cache.entries = s.cache.entries := rfl
@[simp] theorem heap_newRequest : (s.newRequest ip).heap = s.heap + 1 := rfl
@[simp] theorem now_newRequest : (s.newRequest ip).now = s.now := rfl
@[simp] theorem log_newRequest :
    (s.newRequest ip).log = s.log ++ [(s.now, .created s.heap ip)] := rfl

def nextPacket (origin : Origin) (buf : Frame) (iface : Name) : SrPacket :=
  { addr := s.heap, origin := origin, buf := buf, iface := strncpy srIfaceNamelen iface }

variable (origin : Origin) (buf : Frame) (iface : Name)

@[simp] theorem requests_linkPacket : (s.linkPacket req ip origin buf iface).requests =
    s.requests.map fun r => if r.addr = req then
      { r with packets := s.nextPacket origin buf iface :: r.packets } else r := rfl
@[simp] theorem entries_linkPacket :
    (s.linkPacket req ip origin buf iface).cache.entries = s.cache.entries := rfl
@[simp] theorem heap_linkPacket : (s.linkPacket req ip origin buf iface).heap = s.heap + 1 := rfl
@[simp] theorem now_linkPacket : (s.linkPacket req ip origin buf iface).now = s.now := rfl
@[simp] theorem log_linkPacket : (s.linkPacket req ip origin buf iface).log =
    s.log ++ [(s.now, .queued req ip (s.nextPacket origin buf iface))] := rfl

/-- To destroy a request is to do nothing, when there is none at the address,
or to take it off the queue. -/
@[elab_as_elim]
theorem srArpreqDestroy_cases {motive : Store → Prop} (s : Store) (req : Addr)
    (missing : (∀ r ∈ s.requests, r.addr ≠ req) → motive s)
    (found : ∀ r, motive
      ((s.setRequests (s.requests.eraseP fun r => r.addr == req)).trace (.destroyed r))) :
    motive (srArpreqDestroy s req) := by
  unfold srArpreqDestroy
  split
  · next hnone =>
      refine missing fun r hr => ?_
      simpa using List.find?_eq_none.mp hnone r hr
  · exact found _

@[simp] theorem entries_srArpreqDestroy :
    (srArpreqDestroy s req).cache.entries = s.cache.entries :=
  srArpreqDestroy_cases s req (fun _ => rfl) fun _ => rfl

@[simp] theorem heap_srArpreqDestroy : (srArpreqDestroy s req).heap = s.heap :=
  srArpreqDestroy_cases s req (fun _ => rfl) fun _ => rfl

@[simp] theorem now_srArpreqDestroy : (srArpreqDestroy s req).now = s.now :=
  srArpreqDestroy_cases s req (fun _ => rfl) fun _ => rfl

theorem lookup_eq_of_entries {c d : SrArpcache} (h : c.entries = d.entries) (ip : UInt32) :
    srArpcacheLookup c ip = srArpcacheLookup d ip := by
  rw [srArpcacheLookup, srArpcacheLookup, h]

end Store

/-! ### Well-formed queues -/

/-- The records of the queue are pieces of memory that were handed out, each
with its own address. -/
structure Store.Allocated (s : Store) : Prop where
  addr_nodup : (s.requests.map SrArpreq.addr).Nodup
  addr_lt : ∀ r ∈ s.requests, r.addr < s.heap

/-- The shape of the queue, apart from counters and packet contents. -/
structure Store.WF (s : Store) : Prop where
  addr_nodup : (s.requests.map SrArpreq.addr).Nodup
  addr_lt : ∀ r ∈ s.requests, r.addr < s.heap
  ip_nodup : (s.requests.map SrArpreq.ip).Nodup
  packets_ne : ∀ r ∈ s.requests, r.packets ≠ []

theorem wf_init (now : Int) : Store.WF ⟨srArpcacheInit, 0, now, []⟩ where
  addr_nodup := List.nodup_nil
  addr_lt := fun _ h => absurd h List.not_mem_nil
  ip_nodup := List.nodup_nil
  packets_ne := fun _ h => absurd h List.not_mem_nil

namespace Store.Allocated

variable {s : Store}

/-- The pointer to a record on the queue refers to that record. -/
theorem deref_eq (h : s.Allocated) {r : SrArpreq} (hr : r ∈ s.requests) :
    s.deref r.addr = some r :=
  find?_key_eq_some h.addr_nodup hr

theorem eq_of_addr (h : s.Allocated) {r q : SrArpreq} (hr : r ∈ s.requests)
    (hq : q ∈ s.requests) (heq : r.addr = q.addr) : r = q := by
  have hrq := h.deref_eq hr
  rw [heq, h.deref_eq hq] at hrq
  exact (Option.some.inj hrq).symm

theorem map_fresh (h : s.Allocated) (f : SrArpreq → SrArpreq) :
    s.requests.map (fun r => if r.addr = s.heap then f r else r) = s.requests := by
  conv_rhs => rw [← List.map_id s.requests]
  refine List.map_congr_left fun r hr => if_neg ?_
  exact Nat.ne_of_lt (h.addr_lt r hr)

theorem congr {s' : Store} (h : s.Allocated) (hreq : s'.requests = s.requests)
    (hheap : s'.heap = s.heap) : s'.Allocated := by
  refine ⟨hreq ▸ h.addr_nodup, fun r hr => ?_⟩
  rw [hheap]
  exact h.addr_lt r (hreq ▸ hr)

theorem update (h : s.Allocated) (req : Addr) {f : SrArpreq → SrArpreq}
    (hf : ∀ r, (f r).addr = r.addr) : (s.update req f).Allocated := by
  refine ⟨?_, fun r' hr' => ?_⟩
  · rw [requests_update, List.map_map]
    refine (List.map_congr_left fun r _ => ?_).symm ▸ h.addr_nodup
    simp only [Function.comp]
    split
    · exact hf r
    · rfl
  · obtain ⟨r, hr, rfl⟩ := List.mem_map.mp hr'
    have := h.addr_lt r hr
    split <;> simp [hf, this]

theorem linkPacket (h : s.Allocated) (req : Addr) (ip : UInt32) (origin : Origin) (buf : Frame)
    (iface : Name) : (s.linkPacket req ip origin buf iface).Allocated := by
  have hup : (s.update req fun r =>
      { r with packets := s.nextPacket origin buf iface :: r.packets }).Allocated :=
    h.update req fun _ => rfl
  exact ⟨hup.addr_nodup, fun r hr => Nat.lt_succ_of_lt (hup.addr_lt r hr)⟩

theorem newRequest (h : s.Allocated) (ip : UInt32) : (s.newRequest ip).Allocated where
  addr_nodup := by
    refine List.nodup_cons.mpr ⟨fun hmem => ?_, h.addr_nodup⟩
    obtain ⟨r, hr, hraddr⟩ := List.mem_map.mp hmem
    exact absurd hraddr (Nat.ne_of_lt (h.addr_lt r hr))
  addr_lt := List.forall_mem_cons.mpr
    ⟨Nat.lt_succ_self _, fun r hr => Nat.lt_succ_of_lt (h.addr_lt r hr)⟩

theorem sublist (h : s.Allocated) {s' : Store} (hsub : s'.requests.Sublist s.requests)
    (hheap : s'.heap = s.heap) : s'.Allocated where
  addr_nodup := h.addr_nodup.sublist (hsub.map _)
  addr_lt := fun r hr => hheap ▸ h.addr_lt r (hsub.subset hr)

theorem exec (h : s.Allocated) (o : Op) : (SrRouter.exec o s).2.Allocated := by
  cases o with
  | lookup | readRequest | time => exact h
  | trace => exact h.congr rfl rfl
  | queuereq ip origin buf iface =>
      simp only [SrRouter.exec, srArpcacheQueuereq]
      split
      · exact h.linkPacket ..
      · exact (h.newRequest ip).linkPacket ..
  | insert mac ip => exact h.sublist List.eraseP_sublist rfl
  | destroy req =>
      show (srArpreqDestroy s req).Allocated
      refine srArpreqDestroy_cases s req ?_ ?_
      · exact fun _ => h
      · exact fun _ => h.sublist List.eraseP_sublist rfl
  | writeSent req sent => exact h.update req fun _ => rfl
  | incTimesSent req => exact h.update req fun _ => rfl

/-- **Any program.** No operation of any thread hands out an address twice. -/
theorem run {α : Type} (h : s.Allocated) (p : Prog Res α) :
    (p.run SrRouter.exec s).2.Allocated := by
  induction p generalizing s with
  | pure a => exact h
  | call o next ih => exact ih _ (h.exec o)

end Store.Allocated

namespace Store.WF

variable {s : Store}

theorem allocated (h : s.WF) : s.Allocated := ⟨h.addr_nodup, h.addr_lt⟩

theorem deref_eq (h : s.WF) {r : SrArpreq} (hr : r ∈ s.requests) : s.deref r.addr = some r :=
  h.allocated.deref_eq hr

theorem find?_ip_eq (h : s.WF) {r : SrArpreq} (hr : r ∈ s.requests) :
    s.requests.find? (fun q => q.ip == r.ip) = some r :=
  find?_key_eq_some h.ip_nodup hr

theorem eq_of_addr (h : s.WF) {r q : SrArpreq} (hr : r ∈ s.requests) (hq : q ∈ s.requests)
    (heq : r.addr = q.addr) : r = q := h.allocated.eq_of_addr hr hq heq

theorem eq_of_ip (h : s.WF) {r q : SrArpreq} (hr : r ∈ s.requests) (hq : q ∈ s.requests)
    (heq : r.ip = q.ip) : r = q := by
  have hrq := h.find?_ip_eq hr
  rw [heq, h.find?_ip_eq hq] at hrq
  exact (Option.some.inj hrq).symm

theorem congr {s' : Store} (h : s.WF) (hreq : s'.requests = s.requests)
    (hheap : s'.heap = s.heap) : s'.WF := by
  obtain ⟨h1, h2, h3, h4⟩ := h
  refine ⟨?_, ?_, ?_, ?_⟩ <;> rw [hreq]
  · exact h1
  · rw [hheap]
    exact h2
  · exact h3
  · exact h4

theorem trace (h : s.WF) (e : Event) : (s.trace e).WF := h.congr rfl rfl

theorem update (h : s.WF) {req : Addr} {f : SrArpreq → SrArpreq}
    (haddr : ∀ r, (f r).addr = r.addr) (hip : ∀ r, (f r).ip = r.ip)
    (hne : ∀ r, r.packets ≠ [] → (f r).packets ≠ []) : (s.update req f).WF := by
  have halloc := h.allocated.update req haddr
  have hmapIp : (s.update req f).requests.map SrArpreq.ip = s.requests.map SrArpreq.ip := by
    rw [requests_update, List.map_map]
    refine List.map_congr_left fun r _ => ?_
    simp only [Function.comp]
    split
    · exact hip r
    · rfl
  refine ⟨halloc.addr_nodup, halloc.addr_lt, hmapIp ▸ h.ip_nodup, ?_⟩
  intro r hr
  obtain ⟨q, hq, rfl⟩ := List.mem_map.mp hr
  split
  · exact hne q (h.packets_ne q hq)
  · exact h.packets_ne q hq

theorem linkPacket (h : s.WF) (req : Addr) (ip : UInt32) (origin : Origin) (buf : Frame)
    (iface : Name) : (s.linkPacket req ip origin buf iface).WF := by
  have hup : (s.update req fun r =>
      { r with packets := s.nextPacket origin buf iface :: r.packets }).WF :=
    h.update (fun _ => rfl) (fun _ => rfl) fun _ _ => List.cons_ne_nil _ _
  exact ⟨hup.addr_nodup, fun r hr => Nat.lt_succ_of_lt (hup.addr_lt r hr), hup.ip_nodup,
    hup.packets_ne⟩

theorem newRequest_linkPacket (h : s.WF) {ip : UInt32}
    (hnew : s.requests.find? (fun r => r.ip == ip) = none) (origin : Origin) (buf : Frame)
    (iface : Name) : ((s.newRequest ip).linkPacket s.heap ip origin buf iface).WF := by
  have hother : ∀ r ∈ s.requests, r.ip ≠ ip := by simpa using hnew
  have halloc := (h.allocated.newRequest ip).linkPacket s.heap ip origin buf iface
  refine ⟨halloc.addr_nodup, halloc.addr_lt, ?_, ?_⟩ <;>
    simp only [requests_linkPacket, requests_newRequest, List.map_cons, if_true,
      h.allocated.map_fresh]
  · refine List.nodup_cons.mpr ⟨fun hmem => ?_, h.ip_nodup⟩
    obtain ⟨r, hr, hrip⟩ := List.mem_map.mp hmem
    exact hother r hr hrip
  · exact List.forall_mem_cons.mpr ⟨List.cons_ne_nil _ _, h.packets_ne⟩

theorem srArpcacheQueuereq (h : s.WF) (ip : UInt32) (origin : Origin) (buf : Frame)
    (iface : Name) : (srArpcacheQueuereq s ip origin buf iface).2.WF := by
  unfold SrRouter.srArpcacheQueuereq
  split
  · exact h.linkPacket ..
  · next hnone => exact h.newRequest_linkPacket hnone ..

theorem sublist (h : s.WF) {s' : Store} (hsub : s'.requests.Sublist s.requests)
    (hheap : s'.heap = s.heap) : s'.WF where
  addr_nodup := (h.allocated.sublist hsub hheap).addr_nodup
  addr_lt := (h.allocated.sublist hsub hheap).addr_lt
  ip_nodup := h.ip_nodup.sublist (hsub.map _)
  packets_ne := fun r hr => h.packets_ne r (hsub.subset hr)

theorem srArpreqDestroy (h : s.WF) (req : Addr) : (srArpreqDestroy s req).WF := by
  refine h.sublist ?_ (heap_srArpreqDestroy s req)
  refine srArpreqDestroy_cases s req ?_ ?_
  · exact fun _ => List.Sublist.refl _
  · exact fun _ => List.eraseP_sublist

end Store.WF

end SrRouter
