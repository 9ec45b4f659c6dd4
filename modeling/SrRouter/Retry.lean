import SrRouter.Conservation
import Mathlib.Data.List.Chain
import Mathlib.Data.List.Induction

/-!
The retries of a pending request, as the history records them.

A request is `Served` by a history when its creation is in it and, from there
on, the broadcasts that ask for its IP are as many as its counter says, the
first at the creation, the last at the time in the record, each at least a
second after the one before. Pending requests are served by the whole
history, and a request that left the queue by the history up to that moment.
No assumption on the clock is needed for this: a retry is due by the
difference to the time in the record, which is the time of the last one.
-/

namespace SrRouter

open ByteBuffer CString Interactive

/-! ### Broadcasts and schedules -/

/-- The event is a broadcast ARP request for `ip` that went out. -/
def Event.Asks (ip : UInt32) : Event → Prop
  | .sendPacket .arpRequest _ frame ret =>
    etherDhost frame = broadcast ∧ ethertype frame = ethertypeArp ∧ arOp frame = arpOpRequest ∧
      arTip frame = ip ∧ ret = 0
  | _ => False

instance (ip : UInt32) : DecidablePred (Event.Asks ip) := by
  intro e
  unfold Event.Asks
  split <;> infer_instance

def asks (ip : UInt32) (log : List (Int × Event)) : List Int :=
  (log.filter fun e => e.2.Asks ip).map Prod.fst

theorem asks_append (ip : UInt32) (log log' : List (Int × Event)) :
    asks ip (log ++ log') = asks ip log ++ asks ip log' := by
  simp [asks]

theorem asks_cons_of_asks {ip : UInt32} {e : Event} (h : e.Asks ip) (t : Int)
    (log : List (Int × Event)) : asks ip ((t, e) :: log) = t :: asks ip log := by
  simp [asks, h]

theorem asks_cons_of_not {ip : UInt32} {e : Event} (h : ¬e.Asks ip) (t : Int)
    (log : List (Int × Event)) : asks ip ((t, e) :: log) = asks ip log := by
  simp [asks, h]

theorem asks_eq_nil {ip : UInt32} {log : List (Int × Event)}
    (h : ∀ e ∈ log, ¬e.2.Asks ip) : asks ip log = [] := by
  simpa [asks] using h

/-- The times are `n` many, from `first` to `last`, at least a second apart. -/
structure Schedule (times : List Int) (first last : Int) (n : Nat) : Prop where
  length : times.length = n
  head : times.head? = some first
  getLast : times.getLast? = some last
  apart : times.IsChain fun t t' => t' - t ≥ 1

theorem Schedule.singleton (t : Int) : Schedule [t] t t 1 := ⟨rfl, rfl, rfl, .singleton t⟩

theorem Schedule.concat {times : List Int} {first last : Int} {n : Nat}
    (h : Schedule times first last n) {t : Int} (ht : t - last ≥ 1) :
    Schedule (times ++ [t]) first t (n + 1) where
  length := by simp [h.length]
  head := by rw [List.head?_append, h.head, Option.some_or]
  getLast := by simp
  apart := by
    refine h.apart.append (.singleton t) fun x hx y hy => ?_
    rw [h.getLast, Option.mem_some_iff] at hx
    rw [List.head?_cons, Option.mem_some_iff] at hy
    exact hx ▸ hy ▸ ht

/-- The request was created in the history, once, and asked for ever since as
its counter and its time say. -/
def Served (r : SrArpreq) (log : List (Int × Event)) : Prop :=
  ∃ before t after, log = before ++ (t, .created r.addr r.ip) :: after ∧
    (∀ t' ip', (t', Event.created r.addr ip') ∉ before ++ after) ∧
    Schedule (asks r.ip after) t r.sent r.timesSent

theorem Served.append {r : SrArpreq} {log new : List (Int × Event)} (h : Served r log)
    (hcreated : ∀ t ip, (t, Event.created r.addr ip) ∉ new)
    (hasks : ∀ e ∈ new, ¬e.2.Asks r.ip) : Served r (log ++ new) := by
  obtain ⟨before, t, after, rfl, honce, hschedule⟩ := h
  refine ⟨before, t, after ++ new, by simp, fun t' ip' hmem => ?_, ?_⟩
  · rw [← List.append_assoc] at hmem
    obtain hmem | hmem := List.mem_append.mp hmem
    · exact honce t' ip' hmem
    · exact hcreated t' ip' hmem
  · rw [asks_append, asks_eq_nil hasks, List.append_nil]
    exact hschedule

theorem Served.congr {r r' : SrArpreq} {log : List (Int × Event)} (h : Served r log)
    (haddr : r'.addr = r.addr) (hip : r'.ip = r.ip) (hsent : r'.sent = r.sent)
    (htimes : r'.timesSent = r.timesSent) : Served r' log := by
  unfold Served
  rw [haddr, hip, hsent, htimes]
  exact h

theorem Served.retried {r : SrArpreq} {log : List (Int × Event)} (h : Served r log) {now : Int}
    {e : Event} (hasks : e.Asks r.ip) (hdue : r.Due now) :
    Served { r with sent := now, timesSent := r.timesSent + 1 } (log ++ [(now, e)]) := by
  obtain ⟨before, t, after, rfl, honce, hschedule⟩ := h
  have hone : asks r.ip [(now, e)] = [now] := asks_cons_of_asks hasks now []
  refine ⟨before, t, after ++ [(now, e)], by simp, fun t' ip' hmem => ?_, ?_⟩
  · rw [← List.append_assoc] at hmem
    obtain hmem | hmem := List.mem_append.mp hmem
    · exact honce t' ip' hmem
    · obtain ⟨-, rfl⟩ := Prod.mk.inj (List.mem_singleton.mp hmem)
      exact hasks
  · simp only [asks_append, hone]
    exact hschedule.concat hdue

/-! ### Which events matter -/

/-- The event concerns the requests themselves. -/
def Event.Counts : Event → Prop
  | .sendPacket .arpRequest _ _ _ => True
  | .created _ _ => True
  | .destroyed _ => True
  | .learned _ _ (some _) => True
  | _ => False

theorem Event.Asks.exists_sendPacket {ip : UInt32} {e : Event} (h : e.Asks ip) :
    ∃ iface frame ret, e = .sendPacket .arpRequest iface frame ret ∧ arTip frame = ip := by
  unfold Event.Asks at h
  split at h
  · next iface frame ret => exact ⟨iface, frame, ret, rfl, h.2.2.2.1⟩
  · cases h

theorem Event.Asks.counts {ip : UInt32} {e : Event} (h : e.Asks ip) : e.Counts := by
  obtain ⟨iface, frame, ret, rfl, -⟩ := h.exists_sendPacket
  trivial

def Event.Removes : Event → Prop
  | .destroyed _ => True
  | .learned _ _ (some _) => True
  | _ => False

theorem Event.Removes.counts {e : Event} (h : e.Removes) : e.Counts := by
  unfold Event.Removes at h
  split at h
  · trivial
  · trivial
  · exact absurd h id

theorem Event.Asks.not_removes {ip : UInt32} {e : Event} (h : e.Asks ip) : ¬e.Removes := by
  obtain ⟨iface, frame, ret, rfl, -⟩ := h.exists_sendPacket
  exact id

theorem Event.Asks.unique {ip ip' : UInt32} {e : Event} (h : e.Asks ip) (h' : e.Asks ip') :
    ip = ip' := by
  obtain ⟨iface, frame, ret, rfl, hip⟩ := h.exists_sendPacket
  exact hip.symm.trans h'.2.2.2.1

theorem prefix_of_prefix_append {α : Type} {before log new : List α} {e : α}
    (h : before ++ [e] <+: log ++ new) (hnew : ∀ q ∈ new, q ≠ e) : before ++ [e] <+: log := by
  induction new using List.reverseRecOn with
  | nil => simpa using h
  | append_singleton new q ih =>
      rw [← List.append_assoc, List.prefix_concat_iff] at h
      obtain h | h := h
      · exact absurd (List.append_inj' h rfl).2 fun heq =>
          hnew q (by simp) (by simpa using heq.symm)
      · exact ih h fun q hq => hnew q (List.mem_append_left _ hq)

/-- How the request at `a` for `ip` left the queue. -/
def Removed (log : List (Int × Event)) (a : Addr) (ip : UInt32) : Prop :=
  ∃ t r, r.addr = a ∧ r.ip = ip ∧
    ((t, Event.destroyed r) ∈ log ∨ ∃ mac, (t, Event.learned mac ip (some r)) ∈ log)

/-- The history accounts for every request, pending or not. -/
structure Disciplined (s : Store) : Prop where
  served : ∀ r ∈ s.requests, Served r s.log
  fresh : ∀ t a ip, (t, Event.created a ip) ∈ s.log → a < s.heap
  accounted : ∀ t a ip, (t, Event.created a ip) ∈ s.log →
    (∃ r ∈ s.requests, r.addr = a ∧ r.ip = ip) ∨ Removed s.log a ip
  destroyed : ∀ before t r, before ++ [(t, .destroyed r)] <+: s.log →
    Served r before ∧ r.timesSent = 5 ∧ r.Due t
  learned : ∀ before t mac ip r, before ++ [(t, .learned mac ip (some r))] <+: s.log →
    Served r before ∧ r.ip = ip ∧ 1 ≤ r.timesSent ∧ r.timesSent ≤ 5

theorem disciplined_init (now : Int) : Disciplined ⟨srArpcacheInit, 0, now, []⟩ where
  served := fun _ h => absurd h List.not_mem_nil
  fresh := fun _ _ _ h => absurd h List.not_mem_nil
  accounted := fun _ _ _ h => absurd h List.not_mem_nil
  destroyed := fun _ _ _ h => by simp at h
  learned := fun _ _ _ _ _ h => by simp at h

theorem Removed.append {log : List (Int × Event)} {a : Addr} {ip : UInt32}
    (h : Removed log a ip) (new : List (Int × Event)) : Removed (log ++ new) a ip := by
  obtain ⟨t, r, haddr, hip, hmem | ⟨mac, hmem⟩⟩ := h
  · exact ⟨t, r, haddr, hip, .inl (List.mem_append_left new hmem)⟩
  · exact ⟨t, r, haddr, hip, .inr ⟨mac, List.mem_append_left new hmem⟩⟩

theorem asked_get {sr : Config} {iface : Name} {outIface : SrIf}
    (h : srGetInterface sr.ifList iface = some outIface) (s : Store) (ip : UInt32) :
    s.asked sr ip iface =
      s.trace (.sendPacket .arpRequest iface (arpRequestFrame outIface ip) 0) := by
  have hframe := arpRequestFrame_ok outIface ip
  rw [Store.asked, h]
  simp only
  rw [srSendPacketRet_of_shost (by simp [hframe.length, sizeofEthernetHdr]) h hframe.shost]

theorem asks_arpRequest (outIface : SrIf) (iface : Name) (ip : UInt32) :
    Event.Asks ip (.sendPacket .arpRequest iface (arpRequestFrame outIface ip) 0) := by
  have hframe := arpRequestFrame_ok outIface ip
  exact ⟨hframe.dhost, hframe.ethertype, hframe.op, hframe.tip, rfl⟩

namespace Disciplined

variable {s s' : Store}

theorem of_log (h : Disciplined s) {new : List (Int × Event)} (hlog : s'.log = s.log ++ new)
    (hnew : ∀ e ∈ new, ¬e.2.Removes) (hserved : ∀ r ∈ s'.requests, Served r s'.log)
    (hfresh : ∀ t a ip, (t, Event.created a ip) ∈ new → a < s'.heap) (hheap : s.heap ≤ s'.heap)
    (haccounted : ∀ t a ip, (t, Event.created a ip) ∈ new →
      ∃ r ∈ s'.requests, r.addr = a ∧ r.ip = ip)
    (hkeep : ∀ r ∈ s.requests, ∃ r' ∈ s'.requests, r'.addr = r.addr ∧ r'.ip = r.ip) :
    Disciplined s' := by
  refine ⟨hserved, ?_, ?_, ?_, ?_⟩ <;> rw [hlog]
  · intro t a ip hin
    obtain hin | hin := List.mem_append.mp hin
    · exact Nat.lt_of_lt_of_le (h.fresh t a ip hin) hheap
    · exact hfresh t a ip hin
  · intro t a ip hin
    obtain hin | hin := List.mem_append.mp hin
    · obtain ⟨r, hr, haddr, hip⟩ | hremoved := h.accounted t a ip hin
      · obtain ⟨r', hr', haddr', hip'⟩ := hkeep r hr
        exact .inl ⟨r', hr', haddr'.trans haddr, hip'.trans hip⟩
      · exact .inr (hremoved.append new)
    · exact .inl (haccounted t a ip hin)
  · intro before t r hpre
    exact h.destroyed before t r (prefix_of_prefix_append hpre fun e he heq =>
      hnew e he (heq ▸ trivial))
  · intro before t mac ip r hpre
    exact h.learned before t mac ip r (prefix_of_prefix_append hpre fun e he heq =>
      hnew e he (heq ▸ trivial))

theorem silent (h : Disciplined s) (hadds : Adds (fun e => ¬e.2.Counts) s s')
    (hheap : s.heap ≤ s'.heap)
    (hmem : ∀ r' ∈ s'.requests, ∃ r ∈ s.requests, r'.addr = r.addr ∧ r'.ip = r.ip ∧
      r'.sent = r.sent ∧ r'.timesSent = r.timesSent)
    (hkeep : ∀ r ∈ s.requests, ∃ r' ∈ s'.requests, r'.addr = r.addr ∧ r'.ip = r.ip) :
    Disciplined s' := by
  obtain ⟨new, hlog, hnew⟩ := hadds
  refine h.of_log hlog (fun e he hr => hnew e he hr.counts) (fun r' hr' => ?_)
    (fun t a ip hin => absurd trivial (hnew _ hin)) hheap
    (fun t a ip hin => absurd trivial (hnew _ hin)) hkeep
  obtain ⟨r, hr, haddr, hip, hsent, htimes⟩ := hmem r' hr'
  rw [hlog]
  exact ((h.served r hr).append (fun t ip hin => hnew _ hin trivial)
    fun e he hasks => hnew e he hasks.counts).congr haddr hip hsent htimes

theorem of_requests (h : Disciplined s) (hadds : Adds (fun e => ¬e.2.Counts) s s')
    (hheap : s.heap ≤ s'.heap) (hreq : s'.requests = s.requests) : Disciplined s' :=
  h.silent hadds hheap (fun r hr => ⟨r, hreq ▸ hr, rfl, rfl, rfl, rfl⟩)
    fun r hr => ⟨r, hreq.symm ▸ hr, rfl, rfl⟩

theorem created (h : Disciplined s) (hwf : s.WF) {sr : Config} {outIface : SrIf} {ip : UInt32}
    (hget : srGetInterface sr.ifList outIface.name = some outIface)
    (hnew : s.requests.find? (fun r => r.ip == ip) = none) (origin : Origin) (buf : Frame) :
    Disciplined ((((s.newRequest ip).linkPacket s.heap ip origin buf outIface.name).asked sr ip
      outIface.name).retried s.heap s.now) := by
  obtain ⟨e, hasks, hasked⟩ : ∃ e : Event, e.Asks ip ∧ ∀ s : Store,
      s.asked sr ip outIface.name = s.trace e :=
    ⟨_, asks_arpRequest outIface outIface.name ip, fun s => asked_get hget s ip⟩
  obtain ⟨pkt, hpkt⟩ : ∃ pkt, pkt = (s.newRequest ip).nextPacket origin buf outIface.name :=
    ⟨_, rfl⟩
  have hlog : ((((s.newRequest ip).linkPacket s.heap ip origin buf outIface.name).asked sr ip
      outIface.name).retried s.heap s.now).log = s.log ++
        [(s.now, .created s.heap ip), (s.now, .queued s.heap ip pkt), (s.now, e)] := by
    rw [hasked]
    simp [Store.retried, hpkt]
  have hreq := requests_created hwf.allocated sr ip origin buf outIface.name outIface.name
  -- so that no broadcast of another request is counted here
  have hother : ∀ r ∈ s.requests, r.ip ≠ ip := by simpa using hnew
  have hnotCreated : ∀ t a ip', (t, Event.created a ip') ≠ (s.now, e) := by
    intro t a ip' heq
    obtain ⟨-, rfl⟩ := Prod.mk.inj heq
    exact hasks
  have hwhich : ∀ t a ip', (t, Event.created a ip') ∈
      [(s.now, .created s.heap ip), (s.now, .queued s.heap ip pkt), (s.now, e)] →
        a = s.heap ∧ ip' = ip := by
    intro t a ip' hin
    simp only [List.mem_cons, Prod.mk.injEq, Event.created.injEq, reduceCtorEq, and_false,
      List.not_mem_nil, or_false, false_or] at hin
    obtain ⟨-, ha, hip⟩ | hin := hin
    · exact ⟨ha, hip⟩
    · exact absurd (Prod.ext hin.1 hin.2) (hnotCreated t a ip')
  have hheap : s.heap < ((((s.newRequest ip).linkPacket s.heap ip origin buf
      outIface.name).asked sr ip outIface.name).retried s.heap s.now).heap := by
    simp only [Store.retried, Store.heap_update, Store.heap_asked, Store.heap_linkPacket,
      Store.heap_newRequest]
    exact Nat.lt_succ_of_lt (Nat.lt_succ_self s.heap)
  refine h.of_log hlog ?_ ?_ ?_ (Nat.le_of_lt hheap) ?_ ?_
  · refine List.forall_mem_cons.mpr ⟨id, List.forall_mem_cons.mpr ⟨id, fun q hq => ?_⟩⟩
    rw [List.mem_singleton.mp hq]
    exact hasks.not_removes
  · rw [hreq, hlog]
    refine List.forall_mem_cons.mpr ⟨?_, fun r hr => ?_⟩
    · refine ⟨s.log, s.now, _, rfl, fun t' ip' hin => ?_, ?_⟩
      · obtain hin | hin := List.mem_append.mp hin
        · exact absurd (h.fresh t' s.heap ip' hin) (Nat.lt_irrefl _)
        · simp only [List.mem_cons, Prod.mk.injEq, reduceCtorEq, and_false, List.not_mem_nil,
            or_false, false_or] at hin
          exact hnotCreated t' s.heap ip' (Prod.ext hin.1 hin.2)
      · rw [asks_cons_of_not id, asks_cons_of_asks hasks]
        exact .singleton s.now
    · refine (h.served r hr).append (fun t ip' hin => ?_) ?_
      · exact absurd (hwhich t r.addr ip' hin).1 (Nat.ne_of_lt (hwf.addr_lt r hr))
      · refine List.forall_mem_cons.mpr ⟨id, List.forall_mem_cons.mpr ⟨id, fun q hq hasks' => ?_⟩⟩
        rw [List.mem_singleton.mp hq] at hasks'
        exact hother r hr (hasks'.unique hasks)
  · intro t a ip' hin
    exact (hwhich t a ip' hin).1 ▸ hheap
  · intro t a ip' hin
    obtain ⟨rfl, rfl⟩ := hwhich t a ip' hin
    exact ⟨_, hreq ▸ List.mem_cons_self, rfl, rfl⟩
  · intro r hr
    exact ⟨r, hreq ▸ List.mem_cons_of_mem _ hr, rfl, rfl⟩

theorem retried (h : Disciplined s) (hwf : s.WF) {sr : Config} {outIface : SrIf} {iface : Name}
    (hget : srGetInterface sr.ifList iface = some outIface) {r : SrArpreq} (hr : r ∈ s.requests)
    (hdue : r.Due s.now) : Disciplined ((s.asked sr r.ip iface).retried r.addr s.now) := by
  obtain ⟨e, hasks, hasked⟩ : ∃ e : Event, e.Asks r.ip ∧ ∀ s : Store,
      s.asked sr r.ip iface = s.trace e :=
    ⟨_, asks_arpRequest outIface iface r.ip, fun s => asked_get hget s r.ip⟩
  rw [hasked]
  have hnotCreated {t : Int} {a : Addr} {ip : UInt32}
      (hin : (t, Event.created a ip) ∈ [(s.now, e)]) : False := by
    obtain ⟨-, rfl⟩ := Prod.mk.inj (List.mem_singleton.mp hin)
    exact hasks
  have hlog : ((s.trace e).retried r.addr s.now).log = s.log ++ [(s.now, e)] := rfl
  refine h.of_log hlog ?_ ?_ ?_ (Nat.le_refl _) ?_ ?_
  · intro q hq
    rw [List.mem_singleton.mp hq]
    exact hasks.not_removes
  · intro r' hr'
    obtain ⟨q, hq, rfl⟩ := List.mem_map.mp hr'
    split
    · next haddr =>
        obtain rfl := hwf.eq_of_addr hq hr haddr
        exact (h.served q hq).retried hasks hdue
    · next hne =>
        refine (h.served q hq).append (fun _ _ hin => hnotCreated hin) fun p hp hasks' => ?_
        rw [List.mem_singleton.mp hp] at hasks'
        -- a broadcast for the same IP would be this request's
        exact hne (congrArg SrArpreq.addr (hwf.eq_of_ip hq hr (hasks'.unique hasks)))
  · exact fun _ _ _ hin => absurd hin hnotCreated
  · exact fun _ _ _ hin => absurd hin hnotCreated
  · intro q hq
    refine ⟨_, List.mem_map_of_mem hq, ?_⟩
    split <;> exact ⟨rfl, rfl⟩

theorem remove (h : Disciplined s) {r₀ : SrArpreq} (hr₀ : r₀ ∈ s.requests) (t₀ : Int) {e : Event}
    (new : List (Int × Event)) (he : (e = .destroyed r₀ ∧ r₀.timesSent = 5 ∧ r₀.Due t₀) ∨
      ∃ mac, e = .learned mac r₀.ip (some r₀) ∧ 1 ≤ r₀.timesSent ∧ r₀.timesSent ≤ 5)
    (hlog : s'.log = s.log ++ (t₀, e) :: new) (hnew : ∀ q ∈ new, ¬q.2.Counts)
    (hheap : s'.heap = s.heap) (hmem : ∀ r ∈ s'.requests, r ∈ s.requests)
    (hkeep : ∀ r ∈ s.requests, r ≠ r₀ → r ∈ s'.requests) : Disciplined s' := by
  have heCreated {t : Int} {a : Addr} {ip : UInt32} : (t, Event.created a ip) ≠ (t₀, e) := by
    obtain ⟨rfl, -⟩ | ⟨mac, rfl, -⟩ := he <;> simp
  have heAsks (ip : UInt32) : ¬e.Asks ip := by
    obtain ⟨rfl, -⟩ | ⟨mac, rfl, -⟩ := he <;> exact id
  have hold {t : Int} {a : Addr} {ip : UInt32}
      (hin : (t, Event.created a ip) ∈ s.log ++ (t₀, e) :: new) :
      (t, Event.created a ip) ∈ s.log := by
    obtain hin | hin := List.mem_append.mp hin
    · exact hin
    · obtain hin | hin := List.mem_cons.mp hin
      · exact absurd hin heCreated
      · exact absurd trivial (hnew _ hin)
  have hprefix {before : List (Int × Event)} {q : Int × Event} (hq : q.2.Counts)
      (hpre : before ++ [q] <+: s.log ++ (t₀, e) :: new) :
      before ++ [q] <+: s.log ∨ before = s.log ∧ q = (t₀, e) := by
    have hassoc : s.log ++ (t₀, e) :: new = (s.log ++ [(t₀, e)]) ++ new := by simp
    rw [hassoc] at hpre
    have hpre := prefix_of_prefix_append hpre fun p hp heq => hnew p hp (heq ▸ hq)
    obtain heq | hpre := List.prefix_concat_iff.mp hpre
    · exact .inr ⟨(List.append_inj' heq rfl).1, by simpa using (List.append_inj' heq rfl).2⟩
    · exact .inl hpre
  refine ⟨?_, ?_, ?_, ?_, ?_⟩ <;> rw [hlog]
  · intro r hr
    refine (h.served r (hmem r hr)).append (fun t ip hin => ?_) ?_
    · obtain hin | hin := List.mem_cons.mp hin
      · exact heCreated hin
      · exact hnew _ hin trivial
    · exact List.forall_mem_cons.mpr ⟨heAsks r.ip, fun q hq hasks => hnew q hq hasks.counts⟩
  · rw [hheap]
    exact fun t a ip hin => h.fresh t a ip (hold hin)
  · intro t a ip hin
    obtain ⟨r, hr, rfl, rfl⟩ | hremoved := h.accounted t a ip (hold hin)
    · by_cases heq : r = r₀
      · subst heq
        refine .inr ⟨t₀, r, rfl, rfl, ?_⟩
        obtain ⟨rfl, -⟩ | ⟨mac, rfl, -⟩ := he
        · exact .inl (by simp)
        · exact .inr ⟨mac, by simp⟩
      · exact .inl ⟨r, hkeep r hr heq, rfl, rfl⟩
    · exact .inr (hremoved.append _)
  · intro before t r hpre
    obtain hpre | ⟨rfl, heq⟩ := hprefix (q := (t, .destroyed r)) trivial hpre
    · exact h.destroyed before t r hpre
    · obtain ⟨rfl, rfl⟩ := Prod.mk.inj heq
      obtain ⟨hr, hfive, hdue⟩ | ⟨mac, hr, -⟩ := he
      · obtain rfl := Event.destroyed.inj hr
        exact ⟨h.served r hr₀, hfive, hdue⟩
      · cases hr
  · intro before t mac ip r hpre
    obtain hpre | ⟨rfl, heq⟩ := hprefix (q := (t, .learned mac ip (some r))) trivial hpre
    · exact h.learned before t mac ip r hpre
    · obtain ⟨rfl, rfl⟩ := Prod.mk.inj heq
      obtain ⟨hr, -⟩ | ⟨mac', hr, hcounters⟩ := he
      · cases hr
      · obtain ⟨-, hip, hr⟩ := Event.learned.inj hr
        obtain rfl := Option.some.inj hr
        exact ⟨h.served r hr₀, hip.symm, hcounters⟩

end Disciplined

/-! ### Runs -/

theorem noted_silent (s : Store) (sr : Config) (pkt : Option SrPacket) (packet : Frame)
    (type code : UInt8) :
    Adds (fun e => ¬e.2.Counts) s (s.noted sr pkt packet type code) := by
  have herror : Adds (fun e => ¬e.2.Counts) s (s.trace (.icmpError pkt type code packet)) :=
    .single rfl id
  exact s.noted_cases sr pkt packet type code herror fun _ => herror.trans (.single rfl id)

theorem flushEvents_silent {sr : Config} {ip : UInt32} {mac : Mac} {packets : List SrPacket}
    {e : Event} (he : e ∈ flushEvents sr ip mac packets) : ¬e.Counts := by
  obtain ⟨pkt, -, hmap⟩ := List.mem_filterMap.mp he
  obtain ⟨outIface, -, rfl⟩ := Option.map_eq_some_iff.mp hmap
  exact id

/-- **Every transition keeps the discipline.** -/
theorem Transition.disciplined {sr : Config} {c c' : Phase × Store} (h : Transition sr c c')
    (hwf : c.2.WF) (hs : Healthy sr c.2) (hc : Conserved c.1 c.2) (hd : Disciplined c.2) :
    Disciplined c'.2 := by
  cases h with
  | replied hreply =>
      refine hd.of_requests (.single rfl ?_) (Nat.le_refl _) rfl
      cases hreply <;> exact id
  | errored => exact hd.of_requests (noted_silent ..) (by simp) (by simp)
  | reported => exact hd.of_requests (noted_silent ..) (by simp) (by simp)
  | sent => exact hd.of_requests (.single rfl id) (Nat.le_refl _) rfl
  | linked =>
      refine hd.silent (.single rfl id) (Nat.le_succ _) (fun r' hr' => ?_) fun r hr => ?_
      · obtain ⟨r, hr, rfl⟩ := List.mem_map.mp hr'
        refine ⟨r, hr, ?_⟩
        split <;> exact ⟨rfl, rfl, rfl, rfl⟩
      · refine ⟨_, List.mem_map_of_mem hr, ?_⟩
        split <;> exact ⟨rfl, rfl⟩
  | linkedFirst _ _ _ _ hr hsent =>
      have := (hs.counters _ hr).1
      omega
  | created _ _ hhop _ hnew =>
      exact hd.created hwf (srGetInterface_of_nextHop hhop) hnew ..
  | @retried s r pkt packets hr hdue _ hpkts =>
      have hpkt : pkt ∈ r.packets := hpkts ▸ List.mem_cons_self
      obtain ⟨outIface, hget⟩ := Option.isSome_iff_exists.mp (hs.packets r hr pkt hpkt).iface
      exact hd.retried hwf hget hr hdue
  | givenUp => exact hd
  | @destroyed s req =>
      obtain ⟨r, hr, rfl, hmany, hdue, -⟩ := hc.phase req [] rfl
      have hfive : r.timesSent = 5 := Nat.le_antisymm (hs.counters r hr).2 hmany
      refine hd.remove hr s.now [] (.inl ⟨rfl, hfive, hdue⟩) ?_
        (fun _ h => absurd h List.not_mem_nil) (Store.heap_srArpreqDestroy ..) ?_ ?_
      · rw [srArpreqDestroy, hwf.deref_eq hr]
        rfl
      · exact fun q hq => ((mem_srArpreqDestroy hwf).mp hq).1
      · exact fun q hq hne => (mem_srArpreqDestroy hwf).mpr
          ⟨hq, fun haddr => hne (hwf.eq_of_addr hq hr haddr)⟩
  | @mapped s mac ip =>
      cases hfind : s.requests.find? fun r => r.ip == ip with
      | none =>
          exact hd.of_requests (.single (Store.log_mapped_of_none sr mac hfind) id) (Nat.le_refl _)
            (Store.requests_mapped_of_none sr mac hfind)
      | some r =>
          have hr : r ∈ s.requests := List.mem_of_find?_eq_some hfind
          obtain rfl : r.ip = ip := by simpa using List.find?_some hfind
          refine hd.remove hr s.now ((flushEvents sr r.ip mac r.packets).map fun e => (s.now, e))
            (.inr ⟨mac, rfl, hs.counters r hr⟩) (Store.log_mapped_of_some sr mac hfind) ?_ rfl ?_ ?_
          · intro q hq
            obtain ⟨e, he, rfl⟩ := List.mem_map.mp hq
            exact flushEvents_silent he
          · exact fun q hq => List.eraseP_sublist.subset hq
          · exact fun q hq hne => (mem_eraseP_key hwf.ip_nodup).mpr
              ⟨hq, fun hip => hne (hwf.eq_of_ip hq hr hip)⟩
  | expired => exact hd.of_requests (.of_log rfl) (Nat.le_refl _) rfl

theorem Path.disciplined {sr : Config} {c c' : Phase × Store} (h : Path sr c c') (hwf : c.2.WF)
    (hs : Healthy sr c.2) (hc : Conserved c.1 c.2) (hd : Disciplined c.2) : Disciplined c'.2 :=
  (h.invariant (I := fun c => (Healthy sr c.2 ∧ Conserved c.1 c.2) ∧ Disciplined c.2)
    (fun _ _ hwf ht h => ⟨⟨ht.healthy hwf h.1.1, ht.conserved hwf h.1.1 h.1.2⟩,
      ht.disciplined hwf h.1.1 h.1.2 h.2⟩) hwf ⟨⟨hs, hc⟩, hd⟩).1.2

namespace SrInstance

structure Sound (sr : SrInstance) : Prop where
  wf : sr.store.WF
  healthy : Healthy sr.config sr.store
  conserved : Conserved .idle sr.store
  disciplined : Disciplined sr.store

theorem Sound.step {sr : SrInstance} (h : sr.Sound) (a : Action) : (sr.step a).Sound := by
  refine ⟨step_wf h.wf a, step_healthy h.wf h.healthy a,
    step_conserved h.wf h.healthy h.conserved a, ?_⟩
  have hd (now : Int) : Disciplined (sr.store.setNow now) :=
    h.disciplined.of_requests (.of_log rfl) (Nat.le_refl _) rfl
  cases a with
  | recv now packet interface =>
      exact (step_recv_path h.wf now packet interface).disciplined (h.wf.setNow now)
        ⟨h.healthy.counters, h.healthy.packets⟩ (h.conserved.congr rfl rfl rfl) (hd now)
  | timer now =>
      exact (step_timer_path h.wf now).disciplined (h.wf.setNow now)
        ⟨h.healthy.counters, h.healthy.packets⟩ (h.conserved.congr rfl rfl rfl) (hd now)
  | hwinfo mem entries =>
      rw [step_hwinfo_store]
      exact h.disciplined

theorem run_sound (config : Config) (now : Int) (actions : List Action) :
    ((init config now).run actions).Sound :=
  run_invariant Sound (init config now) actions (fun _ a _ h => h.step a)
    ⟨wf_init now, run_healthy config now [], conserved_init now, disciplined_init now⟩

end SrInstance

/-- **ARP retry discipline.** In every run: pending requests have been sent
between one and five times and have a packet, and the broadcasts for their IP
since their creation are exactly those, the first at the creation and each at
least a second after the one before. A request leaves the queue by a failure
at least a second after its fifth broadcast, or by a mapping for its own IP,
and in no other way. And a pass of the timer gives up each request that is
due after five broadcasts, sends each other due one once more, and leaves the
rest as they are. -/
theorem arp_retry_discipline (config : Config) (now : Int) (actions : List Action) :
    (∀ r ∈ ((SrInstance.init config now).run actions).requests,
      1 ≤ r.timesSent ∧ r.timesSent ≤ 5 ∧ r.packets ≠ [] ∧
        Served r ((SrInstance.init config now).run actions).store.log) ∧
    (∀ t a ip,
      (t, Event.created a ip) ∈ ((SrInstance.init config now).run actions).store.log →
      (∃ r ∈ ((SrInstance.init config now).run actions).requests, r.addr = a ∧ r.ip = ip) ∨
        Removed ((SrInstance.init config now).run actions).store.log a ip) ∧
    (∀ before t r,
      before ++ [(t, Event.destroyed r)] <+:
        ((SrInstance.init config now).run actions).store.log →
      Served r before ∧ r.timesSent = 5 ∧ t - r.sent ≥ 1) ∧
    (∀ before t mac ip r,
      before ++ [(t, Event.learned mac ip (some r))] <+:
        ((SrInstance.init config now).run actions).store.log →
      Served r before ∧ r.ip = ip ∧ 1 ≤ r.timesSent ∧ r.timesSent ≤ 5) ∧
    ∀ t, ∀ r ∈ ((SrInstance.init config now).run actions).requests,
      (t - r.sent ≥ 1 → r.timesSent = 5 →
        ∀ r' ∈ (((SrInstance.init config now).run actions).step (.timer t)).requests,
          r'.addr ≠ r.addr) ∧
      (t - r.sent ≥ 1 → r.timesSent < 5 →
        ∃ r' ∈ (((SrInstance.init config now).run actions).step (.timer t)).requests,
          r'.addr = r.addr ∧ r'.ip = r.ip ∧ r'.sent = t ∧ r'.timesSent = r.timesSent + 1) ∧
      (t - r.sent < 1 →
        ∃ r' ∈ (((SrInstance.init config now).run actions).step (.timer t)).requests,
          r'.addr = r.addr ∧ r'.ip = r.ip ∧ r'.sent = r.sent ∧ r'.timesSent = r.timesSent) := by
  have hsound := SrInstance.run_sound config now actions
  generalize (SrInstance.init config now).run actions = sr at hsound ⊢
  obtain ⟨hwf, hhealthy, -, hd⟩ := hsound
  refine ⟨fun r hr => ?_, hd.accounted, hd.destroyed, hd.learned, fun t r hr => ⟨?_, ?_, ?_⟩⟩
  · have hcounters := hhealthy.counters r hr
    exact ⟨hcounters.1, hcounters.2, hwf.packets_ne r hr, hd.served r hr⟩
  · intro hdue hfive r' hr'
    exact not_mem_srArpcacheTimeout sr.config (hwf.setNow t) hr ⟨hdue, Nat.le_of_eq hfive.symm⟩ hr'
  · intro hdue hfew
    obtain ⟨r', hr', hout⟩ := exists_outcome_srArpcacheTimeout sr.config (hwf.setNow t) hr
      fun hexp => absurd hexp.2 (Nat.not_le.mpr hfew)
    obtain ⟨-, hsent, htimes⟩ | ⟨hnot, -⟩ | ⟨hnot, -⟩ := hout.counter
    · exact ⟨r', hr', hout.addr, hout.ip, hsent, htimes⟩
    · exact absurd hdue hnot
    · exact absurd hdue hnot
  · intro hnot
    have hnotDue : ¬r.Due t := Int.not_le.mpr hnot
    obtain ⟨r', hr', hout⟩ := exists_outcome_srArpcacheTimeout sr.config (hwf.setNow t) hr
      fun hexp => hnotDue hexp.1
    obtain ⟨hdue, -⟩ | ⟨-, hsent, htimes⟩ | ⟨-, hzero, -⟩ := hout.counter
    · exact absurd hdue hnotDue
    · exact ⟨r', hr', hout.addr, hout.ip, hsent, htimes⟩
    · have := (hhealthy.counters r hr).1
      omega

/-! ### The list under a pass -/

/-- **A pass walks the list that was there when it began.** Its turns are for
the records of that list, each once and in order, and the next pointer is
always one to a record that is still there. What is new stands in front of
what remains. -/
theorem sweep_walks (sr : Config) {s : Store} (halloc : s.Allocated) {fuel : Nat}
    (hfuel : s.requests.length ≤ fuel) :
    let visits := sweepVisits sr s.now fuel (s.requests.head?.map SrArpreq.addr) s
    (visits.foldl (fun t v => ((handleArpreq sr s.now v.1).run exec t).2) s =
        srArpcacheSweepreqs sr s ∧
      visits.map Prod.fst = s.addrs ∧ s.addrs.Nodup) ∧
    (∀ v ∈ visits, Steady sr s.now v) ∧
    ∃ created, (srArpcacheSweepreqs sr s).addrs =
        created ++ (s.requests.filter fun r => ¬r.Expired s.now).map SrArpreq.addr ∧
      ∀ a ∈ created, s.heap ≤ a ∧ a ∉ s.addrs ∧ a ∉ visits.map Prod.fst := by
  obtain ⟨hend, hvisits, hloop, hsteady⟩ := walk_spec sr halloc hfuel
  obtain ⟨created, haddrs, hge⟩ := hend.addrs
  refine ⟨⟨hloop, hvisits, halloc.addr_nodup⟩, hsteady, created, ?_, fun a ha => ?_⟩
  · rw [haddrs, List.map_nil, List.append_nil]
  · have hnew : a ∉ s.addrs := by
      intro hmem
      obtain ⟨r, hr, rfl⟩ := List.mem_map.mp hmem
      exact absurd (halloc.addr_lt r hr) (Nat.not_lt.mpr (hge _ ha))
    exact ⟨hge a ha, hnew, hvisits ▸ hnew⟩

/-- The crossing frame five seconds after it came, when nobody has answered the
five requests for its next hop. -/
def neverAnswered : Store :=
  ((SrInstance.init twoNetworks 0).run [.recv 0 crossingFrame eth2.name, .timer 1, .timer 2,
    .timer 3, .timer 4]).store.setNow 5

/-- The request is given up, and the ICMP error about the frame makes a new one. -/
theorem sweep_walks_neverAnswered :
    (sweepVisits twoNetworks 5 1 (some 0) neverAnswered).map Prod.fst = [0] ∧
      (∀ v ∈ sweepVisits twoNetworks 5 1 (some 0) neverAnswered, Steady twoNetworks 5 v) ∧
      (srArpcacheSweepreqs twoNetworks neverAnswered).addrs = [2] := by
  have halloc : neverAnswered.Allocated :=
    ((SrInstance.run_wf twoNetworks 0 _).setNow 5).allocated
  have hlength : neverAnswered.requests.length ≤ 1 := by decide +kernel
  have haddrs : neverAnswered.addrs = [0] := by decide +kernel
  have hhead : neverAnswered.requests.head?.map SrArpreq.addr = some 0 := by decide +kernel
  obtain ⟨⟨-, hvisits, -⟩, hsteady, -⟩ := sweep_walks twoNetworks halloc hlength
  rw [haddrs, hhead] at hvisits
  rw [hhead] at hsteady
  exact ⟨hvisits, hsteady, by decide +kernel⟩

end SrRouter
