import SrRouter.Invariants

/-!
How long requests keep coming back when no frame arrives.

A request that fails is reported packet by packet, and each report is itself
routed and may wait on a request for another address. `Rebounds` is this
relation between queued packets. A bound on the number of rebounds of a packet
is worth five passes for each rebound, and that budget together with the
passes that the packet's own request still has shrinks with every pass but the
first.
-/

namespace SrRouter

open ByteBuffer Interactive

/-! ### Rebounds -/

/-- The report on `pkt`, which waits on the request for `ip`, has to wait as
`pkt'` on the request for another address `ip'`. -/
structure Rebounds (sr : Config) (ip : UInt32) (pkt : SrPacket) (ip' : UInt32)
    (pkt' : SrPacket) : Prop where
  origin : pkt'.origin = .icmpError
  moved : ip' ≠ ip
  report : ∃ reply outIface, errorReply sr pkt.buf 3 1 = some reply ∧
    nextHop sr reply = some (outIface, ip') ∧ pkt'.buf = setEtherShost reply outIface.addr

/-- `Alive L ip pkt` lets a packet on the request for `ip` rebound `L` times
more; a rebound uses up one. -/
def Tracks (sr : Config) (Alive : Nat → UInt32 → SrPacket → Prop) : Prop :=
  ∀ ip pkt ip' pkt' L, Rebounds sr ip pkt ip' pkt' → Alive L ip' pkt' → Alive (L + 1) ip pkt

section Budget

variable {sr : Config} {Alive : Nat → UInt32 → SrPacket → Prop}

/-- The passes that the request has left, and five for each rebound of each of
its packets, come to no more than `K`. -/
def Lasting (Alive : Nat → UInt32 → SrPacket → Prop) (K : Nat) (r : SrArpreq) : Prop :=
  ∀ pkt ∈ r.packets, ∀ L, Alive L r.ip pkt → 6 + 5 * L ≤ K + r.timesSent

/-- In the middle of a pass: a request that is due still has its turn. -/
def Budget (Alive : Nat → UInt32 → SrPacket → Prop) (K : Nat) (now : Int) (r : SrArpreq) : Prop :=
  Lasting Alive (if r.Due now then K + 1 else K) r

theorem Lasting.mono {K K' : Nat} {r : SrArpreq} (h : Lasting Alive K r) (hle : K ≤ K') :
    Lasting Alive K' r := by
  intro pkt hpkt L halive
  have := h pkt hpkt L halive
  omega

theorem Lasting.budget {K : Nat} {r : SrArpreq} (h : Lasting Alive K r) (now : Int) :
    Budget Alive K now r := by
  unfold Budget
  split
  · exact h.mono (Nat.le_succ K)
  · exact h

theorem Budget.link {K : Nat} {now : Int} {r : SrArpreq} (h : Budget Alive K now r)
    (hsent : 1 ≤ r.timesSent) {pkt : SrPacket} (hpkt : ∀ L, Alive L r.ip pkt → 5 + 5 * L ≤ K) :
    Budget Alive K now { r with packets := pkt :: r.packets } := by
  intro p hp L halive
  obtain rfl | hp := List.mem_cons.mp hp
  · have hbound := hpkt L halive
    simp only
    split <;> omega
  · exact h p hp L halive

/-! ### The loop over the packets of a failing request -/

/-- The request `r₀` is being reported: it is on the queue, and every other
request keeps within its budget. -/
structure Reporting (Alive : Nat → UInt32 → SrPacket → Prop) (K : Nat) (r₀ : SrArpreq)
    (s : Store) : Prop where
  wf : s.WF
  sent : ∀ r ∈ s.requests, 1 ≤ r.timesSent
  failing : ∃ r ∈ s.requests, r.addr = r₀.addr ∧ r.ip = r₀.ip
  others : ∀ r ∈ s.requests, r.addr ≠ r₀.addr → Budget Alive K s.now r

theorem Reporting.of_requests {K : Nat} {r₀ : SrArpreq} {s s' : Store}
    (h : Reporting Alive K r₀ s) (hwf : s'.WF) (hreq : s'.requests = s.requests)
    (hnow : s'.now = s.now) : Reporting Alive K r₀ s' := by
  refine ⟨hwf, ?_, ?_, ?_⟩
  · rw [hreq]
    exact h.sent
  · rw [hreq]
    exact h.failing
  · rw [hreq, hnow]
    exact h.others

/-- **A report is routed.** If it goes to the address of the failing request
it is put on that request. -/
theorem Reporting.routed {K : Nat} {r₀ : SrArpreq} {s : Store} (h : Reporting Alive K r₀ s)
    {reply : Frame} (hnew : ∀ outIface ip' pkt', nextHop sr reply = some (outIface, ip') →
      ip' ≠ r₀.ip → pkt'.origin = .icmpError → pkt'.buf = setEtherShost reply outIface.addr →
      ∀ L, Alive L ip' pkt' → 5 + 5 * L ≤ K) :
    Reporting Alive K r₀ (s.routed sr .icmpError reply) := by
  obtain ⟨r₁, hr₁, haddr₁, hip₁⟩ := h.failing
  refine s.routed_cases sr .icmpError reply ?_ ?_ ?_ ?_ ?_
  · exact fun _ => h
  · exact fun _ _ _ _ _ => h.of_requests (h.wf.trace _) rfl rfl
  · intro outIface r hr hhop _ _
    have hsent := h.sent r hr
    refine ⟨h.wf.linkPacket .., ?_, ?_, ?_⟩ <;> rw [Store.requests_linkPacket]
    · rintro q' hq'
      obtain ⟨q, hq, rfl⟩ := List.mem_map.mp hq'
      split <;> exact h.sent q hq
    · refine ⟨_, List.mem_map_of_mem hr₁, ?_⟩
      split <;> exact ⟨haddr₁, hip₁⟩
    · rintro q' hq' hne
      obtain ⟨q, hq, rfl⟩ := List.mem_map.mp hq'
      by_cases haddr : q.addr = r.addr
      · obtain rfl := h.wf.eq_of_addr hq hr haddr
        rw [if_pos rfl] at hne ⊢
        -- it is not the failing request, or it would have its address
        have hmoved : q.ip ≠ r₀.ip := fun hip => hne
          ((congrArg SrArpreq.addr (h.wf.eq_of_ip hq hr₁ (hip.trans hip₁.symm))).trans haddr₁)
        exact (h.others q hq hne).link hsent (hnew outIface q.ip _ hhop hmoved rfl rfl)
      · rw [if_neg haddr] at hne ⊢
        exact h.others q hq hne
  · intro outIface r hr _ _ hzero
    have hsent := h.sent r hr
    omega
  · intro outIface ip' hhop _ hfind
    have hmoved : ip' ≠ r₀.ip := by
      rintro rfl
      simpa [hip₁] using List.find?_eq_none.mp hfind r₁ hr₁
    refine ⟨((h.wf.newRequest_linkPacket hfind ..).asked ..).retried .., ?_, ?_, ?_⟩ <;>
      rw [requests_created h.wf.allocated]
    · exact List.forall_mem_cons.mpr ⟨Nat.le_refl 1, h.sent⟩
    · exact ⟨r₁, List.mem_cons_of_mem _ hr₁, haddr₁, hip₁⟩
    · refine List.forall_mem_cons.mpr ⟨fun _ => ?_, fun q hq hne => ?_⟩
      · refine Lasting.budget ?_ _
        intro p hp L halive
        obtain rfl := List.mem_singleton.mp hp
        have hbound := hnew outIface ip' _ hhop hmoved rfl rfl L halive
        simp only
        omega
      · simpa [Store.retried] using h.others q hq hne

theorem Reporting.errored (htracks : Tracks sr Alive) {K : Nat} {r₀ : SrArpreq} {s : Store}
    (h : Reporting Alive K r₀ s) {pkt : SrPacket}
    (hpkt : ∀ L, Alive L r₀.ip pkt → 5 * L ≤ K) :
    Reporting Alive K r₀ (s.errored sr (some pkt) pkt.buf 3 1) := by
  have hnoted : Reporting Alive K r₀ (s.noted sr (some pkt) pkt.buf 3 1) :=
    h.of_requests (h.wf.noted ..) (Store.requests_noted ..) (Store.now_noted ..)
  unfold Store.errored
  cases hreply : errorReply sr pkt.buf 3 1 with
  | none => exact hnoted
  | some reply =>
      refine hnoted.routed fun outIface ip' pkt' hhop hmoved horigin hbuf L halive => ?_
      have hbounce : Rebounds sr r₀.ip pkt ip' pkt' :=
        ⟨horigin, hmoved, reply, outIface, hreply, hhop, hbuf⟩
      have hbound := hpkt (L + 1) (htracks _ _ _ _ _ hbounce halive)
      omega

theorem Reporting.reportPackets (htracks : Tracks sr Alive) {K : Nat} {r₀ : SrArpreq}
    (packets : List SrPacket) (hpackets : ∀ pkt ∈ packets, ∀ L, Alive L r₀.ip pkt → 5 * L ≤ K)
    {s : Store} (h : Reporting Alive K r₀ s) :
    Reporting Alive K r₀ ((reportPackets sr packets).run exec s).2 := by
  induction packets generalizing s with
  | nil => exact h
  | cons pkt packets ih =>
      obtain ⟨hpkt, hpackets⟩ := List.forall_mem_cons.mp hpackets
      simp only [SrRouter.reportPackets, Prog.bind_def, Prog.run_bind,
        run_srSendIcmpError _ _ _ _ _ h.wf.allocated]
      exact ih hpackets (h.errored htracks hpkt)

/-! ### One pass -/

structure Spending (sr : Config) (Alive : Nat → UInt32 → SrPacket → Prop) (K : Nat) (s : Store) :
    Prop where
  healthy : Healthy sr s
  budget : ∀ r ∈ s.requests, Budget Alive K s.now r

theorem Turn.spends (htracks : Tracks sr Alive) {K : Nat} {now : Int} {s s' : Store}
    (h : Turn sr now s s') (hwf : s.WF) (hs : Spending sr Alive K s) : Spending sr Alive K s' := by
  refine ⟨(h.path hwf).healthy hwf hs.healthy, ?_⟩
  cases h with
  | @visit r hr hnow =>
      subst hnow
      have hcounters := hs.healthy.counters r hr
      rw [run_handleArpreq sr hwf.allocated hr]
      split
      · next hexp =>
        have hfive : 5 ≤ r.timesSent := hexp.2
        have hbudget := hs.budget r hr
        rw [Budget, if_pos hexp.1] at hbudget
        have hstart : Reporting Alive K r s :=
          ⟨hwf, fun q hq => (hs.healthy.counters q hq).1, ⟨r, hr, rfl, rfl⟩,
            fun q hq _ => hs.budget q hq⟩
        -- the failing request takes its packets along
        have hend := hstart.reportPackets htracks r.packets fun pkt hpkt L halive => by
          have := hbudget pkt hpkt L halive
          omega
        intro q hq
        obtain ⟨hq, hne⟩ := (mem_srArpreqDestroy hend.wf).mp hq
        rw [Store.now_srArpreqDestroy]
        exact hend.others q hq hne
      · split
        · next hdue =>
          split
          · exact hs.budget
          · next hpackets =>
            intro q' hq'
            rw [Store.retried, Store.requests_update, Store.requests_asked] at hq'
            obtain ⟨q, hq, rfl⟩ := List.mem_map.mp hq'
            rw [Store.retried, Store.now_update, Store.now_asked]
            split
            · next haddr =>
              obtain rfl := hwf.eq_of_addr hq hr haddr
              have hbudget := hs.budget q hq
              rw [Budget, if_pos hdue] at hbudget
              refine Lasting.budget (fun pkt hpkt L halive => ?_) _
              have := hbudget pkt hpkt L halive
              simp only
              omega
            · exact hs.budget q hq
        · exact hs.budget

/-- What a pass leaves is not due at its own clock value, and not from later. -/
theorem sent_srArpcacheTimeout (sr : Config) {s : Store} (hwf : s.WF) {r' : SrArpreq}
    (hr' : r' ∈ (srArpcacheTimeout sr s).requests) :
    ¬r'.Due s.now ∧ ((∀ r ∈ s.requests, r.sent ≤ s.now) → r'.sent ≤ s.now) := by
  have hwf' : Store.WF { s with cache := srArpcacheExpire s.cache s.now } := hwf.congr rfl rfl
  simp only [SrArpreq.Due]
  obtain ⟨-, hfresh⟩ | ⟨r, hr, hout⟩ | ⟨r, hr, -⟩ :=
    (srArpcacheSweepreqs_spec sr hwf').records r' hr'
  · have hsent : r'.sent = s.now := hfresh.sent
    exact ⟨by omega, fun _ => by omega⟩
  · have hcounter : (r.Due s.now ∧ r'.sent = s.now ∧ _) ∨ (¬r.Due s.now ∧ r'.sent = r.sent ∧ _) ∨
        (¬r.Due s.now ∧ _ ∧ r'.sent = s.now ∧ _) := hout.counter
    simp only [SrArpreq.Due] at hcounter
    refine ⟨by omega, fun hle => ?_⟩
    have := hle r hr
    omega
  · exact absurd hr List.not_mem_nil

/-- **One pass.** What is within its budget before the pass has spent its turn
after it. -/
theorem lasting_srArpcacheTimeout (htracks : Tracks sr Alive) {K : Nat} {s : Store} (hwf : s.WF)
    (hs : Healthy sr s) (h : ∀ r ∈ s.requests, Budget Alive K s.now r) :
    ∀ r ∈ (srArpcacheTimeout sr s).requests, Lasting Alive K r := by
  have hwf' : Store.WF { s with cache := srArpcacheExpire s.cache s.now } := hwf.congr rfl rfl
  have hspending : Spending sr Alive K (srArpcacheTimeout sr s) :=
    (Turn.invariant (fun _ _ hwf hturn h => hturn.spends htracks hwf h)
      (srArpcacheSweepreqs_turns sr hwf') hwf' ⟨⟨hs.counters, hs.packets⟩, h⟩).1
  have hnow : (srArpcacheTimeout sr s).now = s.now := (srArpcacheSweepreqs_spec sr hwf').now
  intro r hr
  have hbudget := hspending.budget r hr
  rw [hnow, Budget, if_neg (sent_srArpcacheTimeout sr hwf hr).1] at hbudget
  exact hbudget

end Budget

/-! ### Passes without frames -/

namespace SrInstance

/-- The router after `n` passes at the clock values `clock 0`, `clock 1`, and so
on. -/
def passes (sr : SrInstance) (clock : Nat → Int) : Nat → SrInstance
  | 0 => sr
  | n + 1 => (sr.passes clock n).step (.timer (clock n))

def Timely (sr : SrInstance) : Prop := ∀ r ∈ sr.requests, r.sent ≤ sr.store.now

variable {sr : SrInstance} {clock : Nat → Int}

variable (sr clock) in
theorem config_passes (n : Nat) : (sr.passes clock n).config = sr.config := by
  induction n with
  | zero => rfl
  | succ n ih => exact ih

variable (clock) in
theorem passes_wf (hwf : sr.store.WF) (hs : Healthy sr.config sr.store) (n : Nat) :
    (sr.passes clock n).store.WF ∧ Healthy sr.config (sr.passes clock n).store := by
  induction n with
  | zero => exact ⟨hwf, hs⟩
  | succ n ih =>
      have hstep := step_healthy ih.1 (config_passes sr clock n ▸ ih.2) (.timer (clock n))
      exact ⟨step_wf ih.1 _, config_passes sr clock (n + 1) ▸ hstep⟩

theorem sent_passes (hwf : sr.store.WF) (hs : Healthy sr.config sr.store)
    (hstart : ∀ r ∈ sr.requests, r.sent ≤ clock 0) (hadv : ∀ n, clock n + 1 ≤ clock (n + 1))
    (n : Nat) : ∀ r ∈ (sr.passes clock (n + 1)).requests, r.sent ≤ clock n := by
  induction n with
  | zero => exact fun r hr => (sent_srArpcacheTimeout sr.config (hwf.setNow _) hr).2 hstart
  | succ n ih =>
      intro r hr
      have hwf' := (passes_wf clock hwf hs (n + 1)).1.setNow (clock (n + 1))
      refine (sent_srArpcacheTimeout _ hwf' hr).2 fun q hq => ?_
      have hsent := ih q hq
      have htick := hadv n
      show q.sent ≤ clock (n + 1)
      omega

section

variable {Alive : Nat → UInt32 → SrPacket → Prop} {K : Nat} (htracks : Tracks sr.config Alive)
  (hwf : sr.store.WF) (hs : Healthy sr.config sr.store)
  (hstart : ∀ r ∈ sr.requests, r.sent ≤ clock 0) (hadv : ∀ n, clock n + 1 ≤ clock (n + 1))

include htracks hwf hs hstart hadv

/-- **Every pass but the first uses up one.** -/
theorem lasting_passes (h : ∀ r ∈ sr.requests, Lasting Alive K r) (n : Nat) :
    ∀ r ∈ (sr.passes clock (n + 1)).requests, Lasting Alive (K - n) r := by
  induction n with
  | zero =>
      exact lasting_srArpcacheTimeout htracks (hwf.setNow _) ⟨hs.counters, hs.packets⟩
        fun r hr => (h r hr).budget _
  | succ n ih =>
      obtain ⟨hwf', hs'⟩ := passes_wf clock hwf hs (n + 1)
      have hsent := sent_passes hwf hs hstart hadv n
      have hconfig := config_passes sr clock (n + 1)
      have hpass := lasting_srArpcacheTimeout (K := K - (n + 1)) htracks
        (hwf'.setNow (clock (n + 1))) ⟨hs'.counters, hs'.packets⟩ fun r hr => by
          have hle : r.sent ≤ clock n := hsent r hr
          have htick := hadv n
          have hdue : r.Due ((sr.passes clock (n + 1)).store.setNow (clock (n + 1))).now := by
            show clock (n + 1) - r.sent ≥ 1
            omega
          rw [Budget, if_pos hdue]
          exact (ih r hr).mono (by omega)
      rw [← hconfig] at hpass
      exact hpass

theorem not_alive_passes (h : ∀ r ∈ sr.requests, Lasting Alive K r) {n : Nat} (hn : K + 1 ≤ n) :
    ∀ r ∈ (sr.passes clock n).requests, ∀ pkt ∈ r.packets, ∀ L, ¬Alive L r.ip pkt := by
  obtain ⟨m, rfl⟩ : ∃ m, n = m + 1 := ⟨n - 1, by omega⟩
  intro r hr pkt hpkt L halive
  have hlasting := lasting_passes htracks hwf hs hstart hadv h m r hr pkt hpkt L halive
  have hcounters := (passes_wf clock hwf hs (m + 1)).2.counters r hr
  omega

end

end SrInstance

/-! ### Runs in time -/

/-- The clock values of the actions never go back, from `t` on. -/
def Chronological : Int → List Action → Prop
  | _, [] => True
  | t, .recv now _ _ :: actions => t ≤ now ∧ Chronological now actions
  | t, .timer now :: actions => t ≤ now ∧ Chronological now actions
  | t, .hwinfo _ _ :: actions => Chronological t actions

theorem Transition.now_eq {sr : Config} {c c' : Phase × Store} (h : Transition sr c c') :
    c'.2.now = c.2.now := by
  cases h with
  | destroyed => exact Store.now_srArpreqDestroy ..
  | errored | reported => exact Store.now_noted ..
  | linkedFirst | created | retried => simp [Store.retried]
  | replied | sent | linked | givenUp | mapped | expired => rfl

theorem Path.timely {sr : Config} {c c' : Phase × Store} (h : Path sr c c') (hwf : c.2.WF)
    (hc : ∀ r ∈ c.2.requests, r.sent ≤ c.2.now) :
    (∀ r ∈ c'.2.requests, r.sent ≤ c'.2.now) ∧ c'.2.now = c.2.now := by
  refine (h.invariant (I := fun c' => (∀ r ∈ c'.2.requests, r.sent ≤ c'.2.now) ∧
    c'.2.now = c.2.now) (fun c₁ c₂ hwf₁ ht hI => ?_) hwf ⟨hc, rfl⟩).1
  have hnow := ht.now_eq
  refine ⟨fun r hr => ?_, hnow.trans hI.2⟩
  rw [hnow]
  cases ht.record hwf₁ hr with
  | same hq => exact hI.1 _ hq
  | @linked q _ hq => exact hI.1 q hq
  | linkedFirst | created | retried => exact Int.le_refl _

namespace SrInstance

theorem run_timely {sr : SrInstance} {actions : List Action} (hwf : sr.store.WF)
    (h : sr.Timely) (hchron : Chronological sr.store.now actions) : (sr.run actions).Timely := by
  induction actions generalizing sr with
  | nil => exact h
  | cons a actions ih =>
      cases a with
      | recv now packet interface =>
          obtain ⟨hle, hchron⟩ := hchron
          obtain ⟨htimely, hnow⟩ := (step_recv_path hwf now packet interface).timely
            (hwf.setNow now) fun r hr => Int.le_trans (h r hr) hle
          refine ih (step_wf hwf _) htimely ?_
          rw [hnow]
          exact hchron
      | timer now =>
          obtain ⟨hle, hchron⟩ := hchron
          obtain ⟨htimely, hnow⟩ := (step_timer_path hwf now).timely (hwf.setNow now)
            fun r hr => Int.le_trans (h r hr) hle
          refine ih (step_wf hwf _) htimely ?_
          rw [hnow]
          exact hchron
      | hwinfo mem entries =>
          have hstore := step_hwinfo_store sr mem entries
          refine ih (step_wf hwf _) ?_ ?_
          · simp only [Timely, requests, hstore]
            exact h
          · rw [hstore]
            exact hchron

end SrInstance

end SrRouter
