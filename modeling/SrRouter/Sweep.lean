import SrRouter.Walk

/-!
The sweep over the request queue.

The loop visits exactly the records that were there when it began, in order,
while it routes ICMP errors, which can put packets on any record of the list
and new records in front of it. What a whole pass does to a record is an
`Outcome`: it was due and is gone or was sent once more, or it was not due and
stays as it was, but for ICMP errors of the router put in front of its packets.
-/

namespace SrRouter

open ByteBuffer CString Interactive

/-- What a pass at `now` leaves of a record that it does not remove. -/
structure Outcome (now : Int) (r r' : SrArpreq) : Prop where
  addr : r'.addr = r.addr
  ip : r'.ip = r.ip
  packets : ∃ front, (∀ pkt ∈ front, pkt.origin = .icmpError) ∧ r'.packets = front ++ r.packets
  kept : ¬r.Expired now
  counter : (r.Due now ∧ r'.sent = now ∧ r'.timesSent = r.timesSent + 1) ∨
    (¬r.Due now ∧ r'.sent = r.sent ∧ r'.timesSent = r.timesSent) ∨
    (¬r.Due now ∧ r.timesSent = 0 ∧ r'.sent = now ∧ r'.timesSent = 1)

theorem Outcome.grown {now : Int} {r r' r'' : SrArpreq} (h : Outcome now r r')
    (h' : Grown now r' r'') : Outcome now r r'' := by
  obtain ⟨front, hfront, hpackets⟩ := h.packets
  obtain ⟨front', hfront', hpackets'⟩ := h'.packets
  refine ⟨h'.addr.trans h.addr, h'.ip.trans h.ip, ⟨front' ++ front, ?_, ?_⟩, h.kept, ?_⟩
  · intro pkt hpkt
    obtain hpkt | hpkt := List.mem_append.mp hpkt
    · exact hfront' pkt hpkt
    · exact hfront pkt hpkt
  · rw [hpackets', hpackets, List.append_assoc]
  · have hc := h.counter
    have hc' := h'.counter
    unfold SrArpreq.Due at *
    omega

theorem Grown.outcome {now : Int} {r r' : SrArpreq} (h : Grown now r r') (hdue : ¬r'.Due now) :
    Outcome now r r' := by
  have hc := h.counter
  refine ⟨h.addr, h.ip, h.packets, fun hexp => ?_, ?_⟩ <;>
    simp only [SrArpreq.Due, SrArpreq.Expired] at *
  · omega
  · omega

/-- The loop in the middle of a pass over `pre ++ todo`: the queue is made of
fresh records, of what the pass left of `pre`, and of the records of `todo`,
all in order. -/
structure Midway (s₀ : Store) (pre todo : List SrArpreq) (s : Store) : Prop where
  wf : s.WF
  now : s.now = s₀.now
  heap : s₀.heap ≤ s.heap
  entries : s.cache.entries = s₀.cache.entries
  addrs : ∃ new, s.addrs = new ++ (pre.filter fun r => ¬r.Expired s₀.now).map SrArpreq.addr ++
    todo.map SrArpreq.addr ∧ ∀ a ∈ new, s₀.heap ≤ a
  records : ∀ r' ∈ s.requests, (s₀.heap ≤ r'.addr ∧ Fresh s₀.now r') ∨
    (∃ r ∈ pre, Outcome s₀.now r r') ∨ ∃ r ∈ todo, Grown s₀.now r r'

theorem Midway.start {s : Store} (hwf : s.WF) : Midway s [] s.requests s where
  wf := hwf
  now := rfl
  heap := Nat.le_refl _
  entries := rfl
  addrs := OnCourse.start s
  records := fun r hr => .inr (.inr ⟨r, hr, .refl _ _⟩)

theorem Midway.swells {s₀ s s' : Store} {pre todo : List SrArpreq} (h : Midway s₀ pre todo s)
    (hs : Swells s s') (hwf : s'.WF) : Midway s₀ pre todo s' := by
  refine ⟨hwf, hs.now.trans h.now, Nat.le_trans h.heap hs.heap, hs.entries.trans h.entries,
    OnCourse.swells h.addrs hs h.heap, ?_⟩
  intro r'' hr''
  have hrecords := hs.records r'' hr''
  rw [h.now] at hrecords
  obtain ⟨r', hr', hgrown⟩ | ⟨hge, hfresh⟩ := hrecords
  · obtain ⟨hge, hfresh⟩ | ⟨r, hr, hout⟩ | ⟨r, hr, hg⟩ := h.records r' hr'
    · exact .inl ⟨hgrown.addr ▸ hge, hfresh.grown hgrown⟩
    · exact .inr (.inl ⟨r, hr, hout.grown hgrown⟩)
    · exact .inr (.inr ⟨r, hr, hg.trans hgrown⟩)
  · exact .inl ⟨Nat.le_trans h.heap hge, hfresh⟩

/-- The record of the queue that a record still to be visited has become. -/
theorem Midway.current {s₀ s : Store} {pre todo : List SrArpreq} {r : SrArpreq}
    (h : Midway s₀ pre (r :: todo) s) (hwf₀ : s₀.WF) (hsplit : s₀.requests = pre ++ r :: todo) :
    ∃ r', r' ∈ s.requests ∧ Grown s₀.now r r' := by
  have hr₀ : r ∈ s₀.requests := by simp [hsplit]
  obtain ⟨r', hr', haddr⟩ := List.mem_map.mp (OnCourse.mem_addrs h.addrs List.mem_cons_self)
  refine ⟨r', hr', ?_⟩
  obtain ⟨hge, -⟩ | ⟨q, hq, hout⟩ | ⟨q, hq, hgrown⟩ := h.records r' hr'
  · rw [haddr] at hge
    exact absurd (hwf₀.addr_lt r hr₀) (Nat.not_lt.mpr hge)
  · -- the addresses before and after the current one differ
    have hnodup := hwf₀.addr_nodup
    rw [hsplit, List.map_append, List.nodup_append] at hnodup
    refine absurd (hout.addr.symm.trans haddr) (hnodup.2.2 _ (List.mem_map_of_mem hq) _ ?_)
    simp
  · have hq₀ : q ∈ s₀.requests := by
      rw [hsplit]
      exact List.mem_append_right pre hq
    obtain rfl := hwf₀.eq_of_addr hq₀ hr₀ (hgrown.addr.symm.trans haddr)
    exact hgrown

theorem Midway.keep {s₀ s s' : Store} {pre todo : List SrArpreq} {r r' : SrArpreq}
    (h : Midway s₀ pre (r :: todo) s) (hwf : s'.WF) (hr' : r' ∈ s.requests)
    (hgrown : Grown s₀.now r r') (f : SrArpreq → SrArpreq)
    (hreq : s'.requests = s.requests.map fun q => if q.addr = r'.addr then f q else q)
    (hheap : s'.heap = s.heap) (hnow : s'.now = s.now)
    (hentries : s'.cache.entries = s.cache.entries) (haddr : ∀ q, (f q).addr = q.addr)
    (hout : Outcome s₀.now r (f r')) : Midway s₀ (pre ++ [r]) todo s' := by
  refine ⟨hwf, hnow.trans h.now, hheap ▸ h.heap, hentries.trans h.entries,
    OnCourse.keep h.addrs hout.kept ?_, ?_⟩
  · rw [Store.addrs, hreq, List.map_map]
    refine List.map_congr_left fun q _ => ?_
    simp only [Function.comp]
    split
    · exact haddr q
    · rfl
  · intro q' hq'
    rw [hreq] at hq'
    obtain ⟨q, hq, rfl⟩ := List.mem_map.mp hq'
    split
    · next heq =>
        obtain rfl := h.wf.eq_of_addr hq hr' heq
        exact .inr (.inl ⟨r, by simp, hout⟩)
    · next hne =>
        obtain hfresh | ⟨p, hp, hpout⟩ | ⟨p, hp, hpgrown⟩ := h.records q hq
        · exact .inl hfresh
        · exact .inr (.inl ⟨p, List.mem_append_left [r] hp, hpout⟩)
        · obtain rfl | hp := List.mem_cons.mp hp
          · exact absurd (hpgrown.addr.trans hgrown.addr.symm) hne
          · exact .inr (.inr ⟨p, hp, hpgrown⟩)

theorem mem_srArpreqDestroy {s : Store} (hwf : s.WF) {a : Addr} {r : SrArpreq} :
    r ∈ (srArpreqDestroy s a).requests ↔ r ∈ s.requests ∧ r.addr ≠ a := by
  refine s.srArpreqDestroy_cases a ?_ ?_
  · exact fun hmissing => ⟨fun hr => ⟨hr, hmissing r hr⟩, fun hr => hr.1⟩
  · exact fun _ => mem_eraseP_key hwf.addr_nodup

theorem Midway.drop {s₀ s : Store} {pre todo : List SrArpreq} {r : SrArpreq}
    (h : Midway s₀ pre (r :: todo) s) (hexp : r.Expired s₀.now) :
    Midway s₀ (pre ++ [r]) todo (srArpreqDestroy s r.addr) := by
  refine ⟨h.wf.srArpreqDestroy _, (Store.now_srArpreqDestroy ..).trans h.now,
    (Store.heap_srArpreqDestroy s r.addr) ▸ h.heap,
    (Store.entries_srArpreqDestroy ..).trans h.entries,
    OnCourse.drop h.addrs h.wf.allocated hexp, ?_⟩
  intro q hq
  obtain ⟨hq, hne⟩ := (mem_srArpreqDestroy h.wf).mp hq
  obtain hfresh | ⟨p, hp, hpout⟩ | ⟨p, hp, hpgrown⟩ := h.records q hq
  · exact .inl hfresh
  · exact .inr (.inl ⟨p, List.mem_append_left [r] hp, hpout⟩)
  · obtain rfl | hp := List.mem_cons.mp hp
    · exact absurd hpgrown.addr hne
    · exact .inr (.inr ⟨p, hp, hpgrown⟩)

theorem Midway.visit {s₀ s : Store} {pre todo : List SrArpreq} {r : SrArpreq} (sr : Config)
    (h : Midway s₀ pre (r :: todo) s) (hwf₀ : s₀.WF) (hsplit : s₀.requests = pre ++ r :: todo) :
    Midway s₀ (pre ++ [r]) todo ((handleArpreq sr s₀.now r.addr).run exec s).2 := by
  obtain ⟨r', hr', hgrown⟩ := h.current hwf₀ hsplit
  rw [← h.now, ← hgrown.addr, run_handleArpreq sr h.wf.allocated hr']
  split
  · next hexp =>
      rw [h.now] at hexp
      rw [hgrown.addr]
      refine Midway.drop (h.swells (reportPackets_swells h.wf.allocated sr _) ?_)
        (hgrown.expired_iff.mp hexp)
      exact (reportPackets_path sr 0 r'.packets h.wf).wf h.wf
  · next hkept =>
      rw [h.now] at hkept
      split
      · next hdue =>
          rw [h.now] at hdue
          cases hpkts : r'.packets with
          | nil => exact absurd hpkts (h.wf.packets_ne r' hr')
          | cons pkt packets =>
              have hc := hgrown.counter
              refine h.keep ((h.wf.asked ..).retried ..) hr' hgrown
                (fun q => { q with sent := s.now, timesSent := q.timesSent + 1 })
                ?_ (by simp [Store.retried]) (by simp [Store.retried]) (by simp [Store.retried])
                (fun _ => rfl)
                ⟨hgrown.addr, hgrown.ip, hgrown.packets, mt hgrown.expired_iff.mpr hkept, ?_⟩
              · simp [Store.retried]
              · simp only [SrArpreq.Due] at hdue ⊢
                rw [h.now]
                omega
      · next hdue =>
          rw [h.now] at hdue
          exact h.keep h.wf hr' hgrown id (by simp) rfl rfl rfl (fun _ => rfl)
            (hgrown.outcome hdue)

/-! ### The whole loop -/

inductive Turn (sr : Config) (now : Int) : Store → Store → Prop
  | visit {s : Store} {r : SrArpreq} (hr : r ∈ s.requests) (hnow : s.now = now) :
      Turn sr now s ((handleArpreq sr now r.addr).run exec s).2

theorem Turn.path {sr : Config} {now : Int} {s s' : Store} (h : Turn sr now s s') (hwf : s.WF) :
    Path sr (.idle, s) (.idle, s') := by
  obtain ⟨hr, rfl⟩ := h
  exact handleArpreq_path sr hwf hr

/-- **The turn rule.** What every turn on a well-formed queue keeps, any number
of turns keeps. -/
theorem Turn.invariant {sr : Config} {now : Int} {I : Store → Prop}
    (hstep : ∀ s s', s.WF → Turn sr now s s' → I s → I s') {s s' : Store}
    (hturns : Relation.ReflTransGen (Turn sr now) s s') (hwf : s.WF) (h : I s) :
    I s' ∧ s'.WF := by
  induction hturns with
  | refl => exact ⟨h, hwf⟩
  | tail _ hturn ih => exact ⟨hstep _ _ ih.2 hturn ih.1, (hturn.path ih.2).wf ih.2⟩

/-- **One pass over the queue.** The records that were there and are not
given up stay in their order, each with the outcome of the pass; the records
in front of them are fresh. All this comes about turn by turn. -/
theorem sweep_spec (sr : Config) {s : Store} (hwf : s.WF) :
    Midway s s.requests [] (srArpcacheSweepreqs sr s) ∧
      Relation.ReflTransGen (Turn sr s.now) s (srArpcacheSweepreqs sr s) := by
  have hturn (pre : List SrArpreq) (r : SrArpreq) (todo : List SrArpreq) (t : Store)
      (h : Midway s pre (r :: todo) t ∧ s.requests = pre ++ r :: todo ∧
        Relation.ReflTransGen (Turn sr s.now) s t) :
      Midway s (pre ++ [r]) todo (sweepTurn sr s.now r.addr t) ∧
        s.requests = pre ++ [r] ++ todo ∧
        Relation.ReflTransGen (Turn sr s.now) s (sweepTurn sr s.now r.addr t) := by
    obtain ⟨hmid, hsplit, hturns⟩ := h
    obtain ⟨r', hr', hgrown⟩ := hmid.current hwf hsplit
    have hturn : Turn sr s.now t (sweepTurn sr s.now r'.addr t) := .visit hr' hmid.now
    rw [hgrown.addr] at hturn
    exact ⟨hmid.visit sr hwf hsplit, hsplit.trans (List.append_cons ..), hturns.tail hturn⟩
  obtain ⟨⟨hmid, -, hturns⟩, -⟩ := SavedNext.walk Store.next (sweepTurn sr s.now) SrArpreq.addr
    (I := fun pre todo t => Midway s pre todo t ∧ s.requests = pre ++ todo ∧
      Relation.ReflTransGen (Turn sr s.now) s t)
    (fun _ _ _ _ h => OnCourse.next_eq h.1.addrs h.1.wf.allocated) hturn
    ⟨Midway.start hwf, rfl, .refl⟩ (Nat.le_refl _)
  rw [← sweepLoop_eq] at hmid hturns
  exact ⟨hmid, hturns⟩

theorem srArpcacheSweepreqs_spec (sr : Config) {s : Store} (hwf : s.WF) :
    Midway s s.requests [] (srArpcacheSweepreqs sr s) := (sweep_spec sr hwf).1

theorem srArpcacheSweepreqs_turns (sr : Config) {s : Store} (hwf : s.WF) :
    Relation.ReflTransGen (Turn sr s.now) s (srArpcacheSweepreqs sr s) := (sweep_spec sr hwf).2

theorem srArpcacheSweepreqs_path (sr : Config) {s : Store} (hwf : s.WF) :
    Path sr (.idle, s) (.idle, srArpcacheSweepreqs sr s) :=
  (Turn.invariant (I := fun s' => Path sr (.idle, s) (.idle, s'))
    (fun _ _ hwf hturn h => h.trans (hturn.path hwf)) (srArpcacheSweepreqs_turns sr hwf) hwf
    .refl).1

theorem srArpcacheTimeout_path (sr : Config) {s : Store} (hwf : s.WF) :
    Path sr (.idle, s) (.idle, srArpcacheTimeout sr s) :=
  Relation.ReflTransGen.head .expired
    (srArpcacheSweepreqs_path sr (s := { s with cache := srArpcacheExpire s.cache s.now })
      (hwf.congr rfl rfl))

/-- A pass of the timer thread does to the cache entries what the expiry does,
whatever the sweep sends. -/
theorem entries_srArpcacheTimeout (sr : Config) {s : Store} (hwf : s.WF) :
    (srArpcacheTimeout sr s).cache.entries = expireEntries s.now s.cache.entries :=
  (srArpcacheSweepreqs_spec sr (s := { s with cache := srArpcacheExpire s.cache s.now })
    (hwf.congr rfl rfl)).entries

theorem exists_outcome {sr : Config} {s : Store} (hwf : s.WF) {r : SrArpreq}
    (hr : r ∈ s.requests) (hkept : ¬r.Expired s.now) :
    ∃ r' ∈ (srArpcacheSweepreqs sr s).requests, Outcome s.now r r' := by
  have hspec := srArpcacheSweepreqs_spec sr hwf
  obtain ⟨new, hnew, -⟩ := hspec.addrs
  have hmem : r.addr ∈ (srArpcacheSweepreqs sr s).addrs := by
    simp only [hnew, List.map_nil, List.append_nil]
    exact List.mem_append_right new (List.mem_map_of_mem (by simp [hr, hkept]))
  obtain ⟨r', hr', haddr⟩ := List.mem_map.mp hmem
  refine ⟨r', hr', ?_⟩
  obtain ⟨hge, -⟩ | ⟨q, hq, hout⟩ | ⟨q, hq, -⟩ := hspec.records r' hr'
  · exact absurd (haddr ▸ hwf.addr_lt r hr) (Nat.not_lt.mpr hge)
  · obtain rfl := hwf.eq_of_addr hq hr (hout.addr.symm.trans haddr)
    exact hout
  · exact absurd hq List.not_mem_nil

theorem not_mem_of_expired {sr : Config} {s : Store} (hwf : s.WF) {r r' : SrArpreq}
    (hr : r ∈ s.requests) (hexp : r.Expired s.now)
    (hr' : r' ∈ (srArpcacheSweepreqs sr s).requests) : r'.addr ≠ r.addr := by
  intro haddr
  obtain ⟨hge, -⟩ | ⟨q, hq, hout⟩ | ⟨q, hq, -⟩ := (srArpcacheSweepreqs_spec sr hwf).records r' hr'
  · exact absurd (haddr ▸ hwf.addr_lt r hr) (Nat.not_lt.mpr hge)
  · obtain rfl := hwf.eq_of_addr hq hr (hout.addr.symm.trans haddr)
    exact hout.kept hexp
  · exact absurd hq List.not_mem_nil

theorem exists_outcome_srArpcacheTimeout (sr : Config) {s : Store} (hwf : s.WF) {r : SrArpreq}
    (hr : r ∈ s.requests) (hkept : ¬r.Expired s.now) :
    ∃ r' ∈ (srArpcacheTimeout sr s).requests, Outcome s.now r r' := by
  have hwf' : Store.WF { s with cache := srArpcacheExpire s.cache s.now } := hwf.congr rfl rfl
  exact exists_outcome hwf' hr hkept

theorem not_mem_srArpcacheTimeout (sr : Config) {s : Store} (hwf : s.WF) {r r' : SrArpreq}
    (hr : r ∈ s.requests) (hexp : r.Expired s.now)
    (hr' : r' ∈ (srArpcacheTimeout sr s).requests) : r'.addr ≠ r.addr := by
  have hwf' : Store.WF { s with cache := srArpcacheExpire s.cache s.now } := hwf.congr rfl rfl
  exact not_mem_of_expired hwf' hr hexp hr'

/-! ### Steps of the router -/

namespace SrInstance

/-- **Every atomic step is a path.** A received frame and a pass of the timer
thread, each at its own clock value. -/
theorem step_recv_path {sr : SrInstance} (hwf : sr.store.WF) (now : Int) (packet : Frame)
    (interface : Name) : Path sr.config (.idle, sr.store.setNow now)
      (.idle, (sr.step (.recv now packet interface)).store) :=
  srHandlepacket_path packet interface (hwf.setNow now)

theorem step_timer_path {sr : SrInstance} (hwf : sr.store.WF) (now : Int) :
    Path sr.config (.idle, sr.store.setNow now) (.idle, (sr.step (.timer now)).store) :=
  srArpcacheTimeout_path sr.config (hwf.setNow now)

theorem step_hwinfo_store (sr : SrInstance) (mem : Nat → Mac × UInt32) (entries : List HwEntry) :
    (sr.step (.hwinfo mem entries)).store = sr.store := by
  simp only [step]
  split <;> rfl

theorem step_wf {sr : SrInstance} (hwf : sr.store.WF) (a : Action) : (sr.step a).store.WF := by
  cases a with
  | recv now packet interface => exact (step_recv_path hwf now packet interface).wf (hwf.setNow now)
  | timer now => exact (step_timer_path hwf now).wf (hwf.setNow now)
  | hwinfo mem entries => exact (step_hwinfo_store sr mem entries).symm ▸ hwf

theorem run_wf (config : Config) (now : Int) (actions : List Action) :
    ((init config now).run actions).store.WF :=
  run_invariant (fun sr => sr.store.WF) _ _ (fun _ a _ h => step_wf h a) (wf_init now)

end SrInstance

end SrRouter
