import SrRouter.CacheMap
import SrRouter.Forwarding
import SrRouter.Quiescence

/-!
Errors about errors that go back and forth.

The router sends an ICMP error from one of its own addresses, so a report on
an error that waited in vain is routed to that address. An `Echo` is what
matters of such an error: the interface that it comes from, the one that it
is to leave by, and the address it waits for. The next echo depends on the
interface list and the routing table alone.

So the received packets are gone after six passes without frames, and the
queue is empty once the echoes have ended. But they need not end: if the
routing table leads from the address of each of two networks into that
network, the router reports to itself in turn for ever.
-/

namespace SrRouter

open ByteBuffer Interactive

/-! ### Echoes -/

def hop (sr : Config) (ip : UInt32) : Option (SrIf × UInt32) :=
  match srFindLpmRoute sr.routingTable ip with
  | none => none
  | some route =>
    match srGetInterface sr.ifList route.interface with
    | none => none
    | some outIface => some (outIface, if route.gw ≠ 0 then route.gw else ip)

theorem nextHop_eq_hop (sr : Config) (packet : Frame) :
    nextHop sr packet = hop sr (ipDst packet) := rfl

/-- An ICMP error from the address of `src` that waits for the address `ip`, to
go out of `out`. -/
structure Echo where
  src : SrIf
  out : SrIf
  ip : UInt32

/-- What the report on it becomes, by the interface list and the routing table
alone. -/
def Echo.next (sr : Config) (e : Echo) : Option Echo :=
  match srFindIfaceByMac sr.ifList e.out.addr with
  | none => none
  | some src =>
    match hop sr e.src.ip with
    | none => none
    | some (out, ip) => if ip = e.ip then none else some ⟨src, out, ip⟩

/-- There can be `n` reports, each on the one before. -/
def Echo.Repeats (sr : Config) : Nat → Echo → Prop
  | 0, _ => True
  | n + 1, e => ∃ e', e.next sr = some e' ∧ e'.Repeats sr n

/-- No error of this router is followed by more than `N` others, each about the
one before. -/
def EchoesEnd (sr : Config) (N : Nat) : Prop :=
  ∀ src ∈ sr.ifList, ∀ out ∈ sr.ifList, ∀ ip, ¬Echo.Repeats sr (N + 1) ⟨src, out, ip⟩

theorem Echo.Repeats.mono {sr : Config} {n n' : Nat} {e : Echo} (h : e.Repeats sr n)
    (hle : n' ≤ n) : e.Repeats sr n' := by
  induction n' generalizing n e with
  | zero => trivial
  | succ n' ih =>
      cases n with
      | zero => omega
      | succ n =>
          obtain ⟨e', hnext, hrepeats⟩ := h
          exact ⟨e', hnext, ih hrepeats (by omega)⟩

structure SrPacket.Echoes (sr : Config) (pkt : SrPacket) (e : Echo) : Prop where
  src : e.src ∈ sr.ifList
  out : e.out ∈ sr.ifList
  shost : etherShost pkt.buf = e.out.addr
  ipSrc : ipSrc pkt.buf = e.src.ip

theorem echoes_report {sr : Config} {old : Frame} {src out : SrIf} {pkt : SrPacket}
    (hsrc : src ∈ sr.ifList) (hout : out ∈ sr.ifList)
    (hbuf : pkt.buf = setEtherShost (icmpErrorFrame src old 3 1) out.addr) (ip : UInt32) :
    pkt.Echoes sr ⟨src, out, ip⟩ := by
  have hframe := icmpErrorFrame_ok src old 3 1
  refine ⟨hsrc, hout, ?_, ?_⟩
  · rw [hbuf]
    exact etherShost_setEtherShost (by simp [hframe.length])
  · rw [hbuf, (sameBody_setEtherShost _ _).ipSrc_eq]
    exact hframe.src

theorem mem_of_hop {sr : Config} {ip ip' : UInt32} {out : SrIf} (h : hop sr ip = some (out, ip')) :
    out ∈ sr.ifList := by
  unfold hop at h
  split at h
  · cases h
  · split at h
    · cases h
    · next hget =>
      obtain ⟨rfl, -⟩ := Prod.mk.inj (Option.some.inj h)
      exact mem_of_srGetInterface hget

theorem Rebounds.echoes {sr : Config} {ip ip' : UInt32} {pkt pkt' : SrPacket}
    (h : Rebounds sr ip pkt ip' pkt') : ∃ src out, pkt'.Echoes sr ⟨src, out, ip'⟩ := by
  obtain ⟨reply, out, hreply, hhop, hbuf⟩ := h.report
  obtain ⟨src, -, hsrc, rfl⟩ := exists_of_errorReply hreply
  exact ⟨src, out, echoes_report (mem_of_srFindIcmpSourceIface hsrc)
    (mem_of_hop ((nextHop_eq_hop ..).symm.trans hhop)) hbuf ip'⟩

theorem Rebounds.next {sr : Config} {e : Echo} {ip' : UInt32} {pkt pkt' : SrPacket}
    (h : Rebounds sr e.ip pkt ip' pkt') (hpkt : pkt.Echoes sr e) :
    ∃ e', e.next sr = some e' ∧ e'.ip = ip' ∧ pkt'.Echoes sr e' := by
  obtain ⟨reply, out, hreply, hhop, hbuf⟩ := h.report
  obtain ⟨src, -, hsrc, rfl⟩ := exists_of_errorReply hreply
  have hmem := mem_of_srFindIcmpSourceIface hsrc
  have hfound : srFindIfaceByMac sr.ifList e.out.addr = some src := by
    cases hmac : srFindIfaceByMac sr.ifList e.out.addr with
    | none => simpa using List.find?_eq_none.mp hmac e.out hpkt.out
    | some i =>
        rw [srFindIcmpSourceIface, hpkt.shost, hmac] at hsrc
        exact hsrc
  rw [nextHop_eq_hop, (icmpErrorFrame_ok src pkt.buf 3 1).dst, hpkt.ipSrc] at hhop
  refine ⟨⟨src, out, ip'⟩, ?_, rfl, echoes_report hmem (mem_of_hop hhop) hbuf ip'⟩
  simp only [Echo.next, hfound, hhop, if_neg h.moved]

/-- The packet can rebound `L` times. -/
def Survives (sr : Config) : Nat → UInt32 → SrPacket → Prop
  | 0, _, _ => True
  | L + 1, ip, pkt => ∃ ip' pkt', Rebounds sr ip pkt ip' pkt' ∧ Survives sr L ip' pkt'

theorem tracks_survives (sr : Config) : Tracks sr (Survives sr) :=
  fun _ _ ip' pkt' _ h halive => ⟨ip', pkt', h, halive⟩

theorem Survives.repeats {sr : Config} {L : Nat} {e : Echo} {pkt : SrPacket}
    (h : Survives sr L e.ip pkt) (hpkt : pkt.Echoes sr e) : e.Repeats sr L := by
  induction L generalizing e pkt with
  | zero => trivial
  | succ L ih =>
      obtain ⟨ip', pkt', hbounce, hsurvives⟩ := h
      obtain ⟨e', hnext, rfl, hpkt'⟩ := hbounce.next hpkt
      exact ⟨e', hnext, ih hsurvives hpkt'⟩

/-- Whatever the packet is, its report is an echo. -/
theorem Survives.le {sr : Config} {N L : Nat} (hends : EchoesEnd sr N) {ip : UInt32}
    {pkt : SrPacket} (h : Survives sr L ip pkt) : L ≤ N + 1 := by
  cases L with
  | zero => exact Nat.zero_le _
  | succ L =>
      obtain ⟨ip', pkt', hbounce, hsurvives⟩ := h
      obtain ⟨src, out, hpkt'⟩ := hbounce.echoes
      by_contra hlt
      exact hends src hpkt'.src out hpkt'.out ip'
        ((Survives.repeats (e := ⟨src, out, ip'⟩) hsurvives hpkt').mono (by omega))

/-- A received packet is only ever reported by an own error. -/
theorem tracks_received (sr : Config) :
    Tracks sr fun L _ pkt => L = 0 ∧ pkt.origin = .received := by
  rintro ip pkt ip' pkt' L h ⟨-, horigin⟩
  rw [h.origin] at horigin
  cases horigin

/-! ### Quiescence -/

/-- **What six passes leave, and when the queue is empty.** After any run in
time, with passes at least a second apart and no frames: after six passes only
ICMP errors of the router itself are waiting; and if no chain of echoes is
longer than `N`, the queue is empty after `11 + 5 * N` passes. -/
theorem passes_quiesce (config : Config) (now : Int) (actions : List Action) (clock : Nat → Int)
    (hchron : Chronological now actions)
    (hstart : ((SrInstance.init config now).run actions).store.now ≤ clock 0)
    (hadv : ∀ n, clock n + 1 ≤ clock (n + 1)) :
    (∀ n, 6 ≤ n → ∀ r ∈ (((SrInstance.init config now).run actions).passes clock n).requests,
      ∀ pkt ∈ r.packets, pkt.origin = .icmpError) ∧
    ∀ N, EchoesEnd ((SrInstance.init config now).run actions).config N → ∀ n, 11 + 5 * N ≤ n →
      (((SrInstance.init config now).run actions).passes clock n).requests = [] := by
  have hwf := SrInstance.run_wf config now actions
  have hs := SrInstance.run_healthy config now actions
  have htimely : ((SrInstance.init config now).run actions).Timely :=
    SrInstance.run_timely (wf_init now) (fun _ h => absurd h List.not_mem_nil) hchron
  generalize (SrInstance.init config now).run actions = sr at hwf hs hstart htimely ⊢
  have hsent : ∀ r ∈ sr.requests, r.sent ≤ clock 0 := fun r hr =>
    Int.le_trans (htimely r hr) hstart
  refine ⟨fun n hn r hr pkt hpkt => ?_, fun N hends n hn => ?_⟩
  · have hlasting : ∀ r ∈ sr.requests,
        Lasting (fun L _ pkt => L = 0 ∧ pkt.origin = .received) 5 r := by
      rintro r hr pkt - L ⟨rfl, -⟩
      have := (hs.counters r hr).1
      omega
    have hgone := SrInstance.not_alive_passes (tracks_received sr.config) hwf hs hsent hadv
      hlasting hn r hr pkt hpkt 0
    cases horigin : pkt.origin with
    | received => exact absurd ⟨rfl, horigin⟩ hgone
    | icmpError => rfl
  · have hlasting : ∀ r ∈ sr.requests, Lasting (Survives sr.config) (10 + 5 * N) r := by
      intro r hr pkt _ L hsurvives
      have hle := hsurvives.le hends
      have := (hs.counters r hr).1
      omega
    refine List.eq_nil_iff_forall_not_mem.mpr fun r hr => ?_
    obtain ⟨pkt, hpkt⟩ := List.exists_mem_of_ne_nil _
      ((SrInstance.passes_wf clock hwf hs n).1.packets_ne r hr)
    exact SrInstance.not_alive_passes (tracks_survives sr.config) hwf hs hsent hadv hlasting
      (by omega) r hr pkt hpkt 0 trivial

/-- A router between two networks with routes to one host in each only. -/
def twoHosts : Config where
  ifList := [eth1, eth2]
  routingTable := [
    { dest := 0x3201000a, gw := 0, mask := 0xffffffff, interface := eth1.name },
    { dest := 0x3202000a, gw := 0, mask := 0xffffffff, interface := eth2.name }]

theorem echoesEnd_twoHosts : EchoesEnd twoHosts 0 := by
  rintro src hsrc out hout ip ⟨e', hnext, -⟩
  have hhop : hop twoHosts src.ip = none := by
    obtain rfl | rfl : src = eth1 ∨ src = eth2 := by simpa [twoHosts] using hsrc
    · decide
    · decide
  unfold Echo.next at hnext
  split at hnext
  · cases hnext
  · simp only [hhop] at hnext
    cases hnext

/-- A packet to a host that does not answer, from one that does not either. -/
theorem passes_quiesce_twoHosts :
    (((SrInstance.init twoHosts 0).run [.recv 0 crossingFrame eth2.name]).passes
      (fun n => (n : Int) + 1) 11).requests = [] :=
  (passes_quiesce twoHosts 0 [.recv 0 crossingFrame eth2.name] (fun n => (n : Int) + 1)
    ⟨Int.le_refl 0, trivial⟩ (by decide) (fun n => by simp)).2 0 echoesEnd_twoHosts 11
    (Nat.le_refl _)

/-! ### Echoes that never end -/

theorem Echo.next_eq_some {sr : Config} {e e' : Echo} (h : e.next sr = some e') :
    srFindIfaceByMac sr.ifList e.out.addr = some e'.src ∧
      hop sr e.src.ip = some (e'.out, e'.ip) ∧ e'.ip ≠ e.ip := by
  unfold Echo.next at h
  split at h
  · cases h
  · next src hmac =>
    split at h
    · cases h
    · next out ip hhop =>
      split at h
      · cases h
      · next hne =>
        obtain rfl := Option.some.inj h
        exact ⟨hmac, hhop, hne⟩

theorem errorReply_of_echoes {sr : Config} {e : Echo} {pkt : SrPacket} (hpkt : pkt.Echoes sr e)
    (hvalid : srValidIpPacket pkt.buf = true) {src : SrIf}
    (hmac : srFindIfaceByMac sr.ifList e.out.addr = some src) :
    errorReply sr pkt.buf 3 1 = some (icmpErrorFrame src pkt.buf 3 1) := by
  rw [errorReply, if_pos hvalid, srFindIcmpSourceIface, hpkt.shost, hmac]
  rfl

theorem requests_routed {s : Store} (hwf : s.WF) {sr : Config} {packet : Frame} {out : SrIf}
    {ip : UInt32} (origin : Origin) (hhop : nextHop sr packet = some (out, ip))
    (hmiss : srArpcacheLookup s.cache ip = none) (hnew : ∀ r ∈ s.requests, r.ip ≠ ip) :
    ∃ pkt, pkt.buf = setEtherShost packet out.addr ∧
      (s.routed sr origin packet).requests =
        { addr := s.heap, ip := ip, sent := s.now, timesSent := 1, packets := [pkt] } ::
          s.requests := by
  have hfind : (s.requests.find? fun r => r.ip == ip) = none :=
    List.find?_eq_none.mpr fun r hr => by simpa using hnew r hr
  refine ⟨(s.newRequest ip).nextPacket origin (setEtherShost packet out.addr) out.name, rfl, ?_⟩
  simp only [Store.routed, hhop, hmiss, Store.missed, hfind]
  exact requests_created hwf.allocated ..

/-- A pass over a queue of one request is one turn. -/
theorem srArpcacheTimeout_one (sr : Config) {s : Store} {r : SrArpreq} (h : s.requests = [r]) :
    srArpcacheTimeout sr s = ((handleArpreq sr s.now r.addr).run exec
      { s with cache := srArpcacheExpire s.cache s.now }).2 := by
  have hreq : Store.requests { s with cache := srArpcacheExpire s.cache s.now } = [r] := h
  rw [srArpcacheTimeout, srArpcacheSweepreqs, hreq]
  simp only [List.head?_cons, Option.map_some, List.length_singleton]
  rw [sweepLoop, sweepLoopBy, SavedNext.loop]
  cases Store.next { s with cache := srArpcacheExpire s.cache s.now } r.addr <;> rfl

def Alone (sr : Config) (e : Echo) (s : Store) : Prop :=
  ∃ r pkt, s.requests = [r] ∧ r.ip = e.ip ∧ r.packets = [pkt] ∧ pkt.Echoes sr e

/-- **One turn** leaves the echo waiting or replaces it by the next one. -/
theorem alone_handleArpreq {sr : Config} {e e' : Echo} (hnext : e.next sr = some e') {s : Store}
    (hwf : s.WF) (hs : Healthy sr s) (hmiss : srArpcacheLookup s.cache e'.ip = none)
    {r : SrArpreq} {pkt : SrPacket} (hreq : s.requests = [r]) (hip : r.ip = e.ip)
    (hpackets : r.packets = [pkt]) (hpkt : pkt.Echoes sr e) :
    Alone sr e ((handleArpreq sr s.now r.addr).run exec s).2 ∨
      Alone sr e' ((handleArpreq sr s.now r.addr).run exec s).2 := by
  have hr : r ∈ s.requests := by simp [hreq]
  rw [run_handleArpreq sr hwf.allocated hr]
  split
  · obtain ⟨hmac, hhop, hmoved⟩ := Echo.next_eq_some hnext
    have hvalid := (hs.packets r hr pkt (by simp [hpackets])).valid
    have hhop' : nextHop sr (icmpErrorFrame e'.src pkt.buf 3 1) = some (e'.out, e'.ip) := by
      rw [nextHop_eq_hop, (icmpErrorFrame_ok e'.src pkt.buf 3 1).dst, hpkt.ipSrc]
      exact hhop
    have hnoted : (s.noted sr (some pkt) pkt.buf 3 1).requests = [r] := by
      rw [Store.requests_noted, hreq]
    have hmiss' : srArpcacheLookup (s.noted sr (some pkt) pkt.buf 3 1).cache e'.ip = none := by
      rw [Store.lookup_eq_of_entries (Store.entries_noted ..)]
      exact hmiss
    have hother : ∀ q ∈ (s.noted sr (some pkt) pkt.buf 3 1).requests, q.ip ≠ e'.ip := by
      rw [hnoted]
      intro q hq
      rw [List.mem_singleton.mp hq, hip]
      exact hmoved.symm
    obtain ⟨pkt', hbuf, hrouted⟩ := requests_routed (hwf.noted (some pkt) pkt.buf 3 1) .icmpError
      hhop' hmiss' hother
    -- The request for the next echo is new, and the failed one goes.
    have hreported : ((reportPackets sr r.packets).run exec s).2.requests =
        { addr := s.heap, ip := e'.ip, sent := s.now, timesSent := 1, packets := [pkt'] } ::
          [r] := by
      simp only [hpackets, reportPackets, Prog.bind_def, Prog.run_bind, Prog.pure_def,
        run_srSendIcmpError _ _ _ _ _ hwf.allocated, Prog.run_pure, Store.errored,
        errorReply_of_echoes hpkt hvalid hmac, hrouted, hnoted, Store.heap_noted, Store.now_noted]
    have hfresh : r.addr ≠ s.heap := Nat.ne_of_lt (hwf.addr_lt r hr)
    refine .inr ⟨{ addr := s.heap, ip := e'.ip, sent := s.now, timesSent := 1,
                   packets := [pkt'] }, pkt', ?_, rfl, rfl,
      echoes_report (List.mem_of_find?_eq_some hmac) (mem_of_hop hhop) hbuf e'.ip⟩
    have hfound : (((reportPackets sr r.packets).run exec s).2.deref r.addr) = some r := by
      rw [Store.deref, hreported]
      simp [hfresh.symm]
    rw [srArpreqDestroy, hfound]
    simp [hreported, hfresh.symm]
  · split
    · rw [hpackets]
      refine .inl ⟨{ r with sent := s.now, timesSent := r.timesSent + 1 }, pkt, ?_, hip, hpackets,
        hpkt⟩
      simp [Store.retried, hreq]
    · exact .inl ⟨r, pkt, hreq, hip, hpackets, hpkt⟩

structure Echoing (sr : Config) (e : Echo) (s : Store) : Prop where
  wf : s.WF
  healthy : Healthy sr s
  uncached : ∀ ip, srArpcacheLookup s.cache ip = none
  alone : Alone sr e s

theorem Echoing.pass {sr : Config} {e e' : Echo} {s : Store} (h : Echoing sr e s)
    (hnext : e.next sr = some e') :
    Echoing sr e (srArpcacheTimeout sr s) ∨ Echoing sr e' (srArpcacheTimeout sr s) := by
  have hpath := srArpcacheTimeout_path sr h.wf
  have huncached (ip : UInt32) :
      srArpcacheLookup (srArpcacheTimeout sr s).cache ip = none := by
    rw [Store.lookup_eq_of_entries (d := srArpcacheExpire s.cache s.now)
      (entries_srArpcacheTimeout sr h.wf)]
    exact srArpcacheLookup_expire_eq_none (h.uncached ip) s.now
  obtain ⟨r, pkt, hreq, hip, hpackets, hpkt⟩ := h.alone
  have hturn := alone_handleArpreq (s := { s with cache := srArpcacheExpire s.cache s.now })
    hnext (h.wf.congr rfl rfl) ⟨h.healthy.counters, h.healthy.packets⟩
    (srArpcacheLookup_expire_eq_none (h.uncached e'.ip) s.now) hreq hip hpackets hpkt
  have hone := srArpcacheTimeout_one sr hreq
  refine hturn.imp (fun halone => ?_) fun halone => ?_
  · exact ⟨hpath.wf h.wf, hpath.healthy h.wf h.healthy, huncached, hone ▸ halone⟩
  · exact ⟨hpath.wf h.wf, hpath.healthy h.wf h.healthy, huncached, hone ▸ halone⟩

/-- **Endless echoes.** If every echo in `E` is followed by one in `E`, the
queue is never empty, however many passes are made and at whatever times. -/
theorem Echoing.passes (sr : SrInstance) {E : Echo → Prop}
    (hE : ∀ e, E e → ∃ e', e.next sr.config = some e' ∧ E e') {e : Echo} (he : E e)
    (h : Echoing sr.config e sr.store) (clock : Nat → Int) (n : Nat) :
    ∃ e', E e' ∧ Echoing sr.config e' (sr.passes clock n).store := by
  induction n with
  | zero => exact ⟨e, he, h⟩
  | succ n ih =>
      obtain ⟨e₁, he₁, h₁⟩ := ih
      obtain ⟨e₂, hnext, he₂⟩ := hE e₁ he₁
      have hstart : Echoing sr.config e₁ ((sr.passes clock n).store.setNow (clock n)) :=
        ⟨h₁.wf.setNow _, ⟨h₁.healthy.counters, h₁.healthy.packets⟩, h₁.uncached, h₁.alone⟩
      have hpass := hstart.pass hnext
      rw [← SrInstance.config_passes sr clock n] at hpass ⊢
      obtain hpass | hpass := hpass
      · exact ⟨e₁, he₁, hpass⟩
      · exact ⟨e₂, he₂, hpass⟩

/-- The echoes between the two networks of `twoNetworks`. -/
def Between : Echo → Prop := fun e =>
  (e.src = eth1 ∧ e.out = eth2 ∧ e.ip ≠ eth1.ip) ∨ (e.src = eth2 ∧ e.out = eth1 ∧ e.ip ≠ eth2.ip)

/-- Each of them waits for an address in the other's network. -/
theorem between_next {e : Echo} (h : Between e) :
    ∃ e', e.next twoNetworks = some e' ∧ Between e' := by
  have hmac₁ : srFindIfaceByMac twoNetworks.ifList eth1.addr = some eth1 := by decide
  have hmac₂ : srFindIfaceByMac twoNetworks.ifList eth2.addr = some eth2 := by decide
  have hhop₁ : hop twoNetworks eth1.ip = some (eth1, eth1.ip) := by decide
  have hhop₂ : hop twoNetworks eth2.ip = some (eth2, eth2.ip) := by decide
  obtain ⟨hsrc, hout, hip⟩ | ⟨hsrc, hout, hip⟩ := h
  · refine ⟨⟨eth2, eth1, eth1.ip⟩, ?_, .inr ⟨rfl, rfl, by decide⟩⟩
    simp only [Echo.next, hsrc, hout, hmac₂, hhop₁, if_neg hip.symm]
  · refine ⟨⟨eth1, eth2, eth2.ip⟩, ?_, .inl ⟨rfl, rfl, by decide⟩⟩
    simp only [Echo.next, hsrc, hout, hmac₁, hhop₂, if_neg hip.symm]

/-- The packet from one network to the other, and the five passes after which
it is reported. -/
def crossing : List Action :=
  [.recv 0 crossingFrame eth2.name, .timer 1, .timer 2, .timer 3, .timer 4, .timer 5]

theorem echoing_crossing : Echoing twoNetworks ⟨eth1, eth2, 0x3202000a⟩
    ((SrInstance.init twoNetworks 0).run crossing).store where
  wf := SrInstance.run_wf twoNetworks 0 crossing
  healthy := SrInstance.run_healthy twoNetworks 0 crossing
  uncached := by
    have hinvalid : (((SrInstance.init twoNetworks 0).run crossing).store.cache.entries.all
        fun e => !e.valid) = true := by decide
    refine fun ip => srArpcacheLookup_eq_none.mpr fun e he hbinds => ?_
    have hnot := List.all_eq_true.mp hinvalid e he
    simp [hbinds.1] at hnot
  alone := by
    have hqueue : (((SrInstance.init twoNetworks 0).run crossing).store.requests.map fun r =>
        (r.ip, r.packets.map fun pkt => (etherShost pkt.buf, ipSrc pkt.buf))) =
        [(0x3202000a, [(eth2.addr, eth1.ip)])] := by decide
    obtain ⟨r, hreq, hr⟩ := List.map_eq_singleton_iff.mp hqueue
    obtain ⟨hip, hpackets⟩ := Prod.mk.inj hr
    obtain ⟨pkt, hpkts, hpkt⟩ := List.map_eq_singleton_iff.mp hpackets
    obtain ⟨hshost, hsrc⟩ := Prod.mk.inj hpkt
    exact ⟨r, pkt, hreq, hip, hpkts, by decide, by decide, hshost, hsrc⟩

/-- Two networks that do not answer keep the router busy for ever. -/
theorem exists_endless_requests :
    ¬∀ config now actions (clock : Nat → Int), Chronological now actions →
      ((SrInstance.init config now).run actions).store.now ≤ clock 0 →
      (∀ n, clock n + 1 ≤ clock (n + 1)) →
      ∃ n, (((SrInstance.init config now).run actions).passes clock n).requests = [] := by
  intro hall
  obtain ⟨n, hempty⟩ := hall twoNetworks 0 crossing (fun n => (n : Int) + 6)
    (by simp [crossing, Chronological]) (by decide) fun n => by omega
  obtain ⟨e, -, h⟩ := Echoing.passes ((SrInstance.init twoNetworks 0).run crossing)
    (E := Between) (fun e he => between_next he) (.inl ⟨rfl, rfl, by decide⟩) echoing_crossing
    (fun n => (n : Int) + 6) n
  obtain ⟨r, pkt, hreq, -⟩ := h.alone
  exact absurd (hempty.symm.trans hreq) (List.cons_ne_nil r []).symm

end SrRouter
