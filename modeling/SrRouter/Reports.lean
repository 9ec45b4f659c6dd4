import SrRouter.Threads
import SrRouter.Forwarding

/-!
What the router reports on.

`sr_send_icmp_error` never looks at the protocol of the packet it is given.
So an ICMP error about an ICMP error is built wherever one of its callers
lets such a packet through: for packets in transit, and for queued packets
when their request fails, among them the router's own earlier errors. Only
the port unreachable messages are kept to TCP and UDP.
-/

namespace SrRouter

open ByteBuffer Interactive

def IsIcmpError (packet : Frame) : Prop :=
  ipP packet = ipProtocolIcmp ∧ icmpType packet ∈ [3, 4, 5, 11, 12]

instance (packet : Frame) : Decidable (IsIcmpError packet) :=
  inferInstanceAs (Decidable (ipP packet = ipProtocolIcmp ∧ icmpType packet ∈ [3, 4, 5, 11, 12]))

/-! ### The errors that a program builds -/

def Event.BuildsError : Event → Prop
  | .icmpReply .. => True
  | _ => False

/-- If the event is the building of an ICMP error, then it happens at `now` and
meets the condition. -/
def Event.Meets (P : UInt8 → UInt8 → Frame → Prop) (now : Int) (e : Int × Event) : Prop :=
  ∀ type code packet reply, e.2 = .icmpReply type code packet reply →
    e.1 = now ∧ P type code packet

section Meets

variable {P : UInt8 → UInt8 → Frame → Prop} {s s' : Store}

theorem adds_other {e : Event} (h : s'.log = s.log ++ [(s.now, e)]) (he : ¬e.BuildsError) :
    Adds (Event.Meets P s.now) s s' := by
  refine .single h fun type code packet reply heq => absurd ?_ he
  rw [show e = .icmpReply type code packet reply from heq]
  trivial

theorem adds_srArpcacheQueuereq (s : Store) (ip : UInt32) (origin : Origin) (buf : Frame)
    (iface : Name) :
    Adds (Event.Meets P s.now) s (srArpcacheQueuereq s ip origin buf iface).2 := by
  have hlink (s : Store) (req : Addr) :
      Adds (Event.Meets P s.now) s (s.linkPacket req ip origin buf iface) :=
    adds_other rfl not_false
  unfold srArpcacheQueuereq
  cases s.requests.find? fun r => r.ip == ip with
  | some r => exact hlink s r.addr
  | none =>
      have hnew : Adds (Event.Meets P s.now) s (s.newRequest ip) := adds_other rfl not_false
      exact hnew.trans (hlink (s.newRequest ip) s.heap)

theorem exec_meets {g : ThreadState} {o : Op} (hguard : (packetDiscipline P).guard g o)
    (s : Store) : Adds (Event.Meets P s.now) s (exec o s).2 ∧ (exec o s).2.now = s.now := by
  cases o with
  | lookup | readRequest | time => exact ⟨.of_log rfl, rfl⟩
  | writeSent | incTimesSent => exact ⟨.of_log rfl, rfl⟩
  | insert mac ip => exact ⟨adds_other rfl not_false, rfl⟩
  | queuereq ip origin buf iface =>
      refine ⟨adds_srArpcacheQueuereq s ip origin buf iface, ?_⟩
      simp only [exec, srArpcacheQueuereq]
      split <;> rfl
  | destroy req =>
      refine ⟨?_, Store.now_srArpreqDestroy ..⟩
      simp only [exec]
      refine s.srArpreqDestroy_cases req ?_ ?_
      · exact fun _ => .of_log rfl
      · exact fun _ => adds_other rfl not_false
  | trace e =>
      refine ⟨.single rfl fun type code packet reply heq => ⟨rfl, ?_⟩, rfl⟩
      obtain rfl : e = .icmpReply type code packet reply := heq
      cases g <;> exact hguard

/-- **A run of a program** builds only errors that meet its condition. -/
theorem run_meets {g : ThreadState} {p : Program} (h : Uses P g p) (s : Store) :
    Adds (Event.Meets P s.now) s (p.run exec s).2 := by
  obtain ⟨g', ⟨hadds, -⟩, -⟩ := Prog.Obeys.run
    (I := fun _ s' => Adds (Event.Meets P s.now) s s' ∧ s'.now = s.now)
    (fun g o s' hI hguard => by
      obtain ⟨hadds, hnow⟩ := exec_meets hguard s'
      rw [hI.2] at hadds hnow
      exact ⟨hI.1.trans hadds, hnow⟩)
    h (s := s) ⟨.of_log rfl, rfl⟩
  exact hadds

end Meets

/-! ### Received frames -/

inductive AboutReceived (sr : Config) (packet : Frame) : UInt8 → UInt8 → Frame → Prop
  | portUnreachable (hproto : ipP packet = ipProtocolTcp ∨ ipP packet = ipProtocolUdp) :
      AboutReceived sr packet 3 3 packet
  | timeExceeded (hdst : srIsRouterIp sr.ifList (ipDst packet) = false)
      (httl : ipTtl packet ≤ 1) : AboutReceived sr packet 11 0 packet
  | noRoute (hdst : srIsRouterIp sr.ifList (ipDst packet) = false) (httl : 1 < ipTtl packet)
      (hroute : srFindLpmRoute sr.routingTable (ipDst packet) = none) :
      AboutReceived sr packet 3 0 (decrementTtl packet)

theorem run_srHandlepacket_meets (sr : Config) (packet : Frame) (interface : Name) (s : Store) :
    Adds (Event.Meets (AboutReceived sr packet) s.now) s
      ((srHandlepacket sr packet interface).run exec s).2 :=
  run_meets (uses_srHandlepacket sr interface (fun _ => .portUnreachable) .timeExceeded .noRoute) s

/-! ### The timer pass -/

/-- The event, if it builds an ICMP error, builds at `now` a host unreachable
message about a packet of a request that was sent five times, was due, and is
destroyed. -/
def Event.Excused (events : List (Int × Event)) (now : Int) (e : Int × Event) : Prop :=
  ∀ type code packet reply, e.2 = .icmpReply type code packet reply →
    e.1 = now ∧ type = 3 ∧ code = 1 ∧ ∃ r pkt, (now, .destroyed r) ∈ events ∧
      pkt ∈ r.packets ∧ packet = pkt.buf ∧ r.timesSent = 5 ∧ r.Due now

/-- All errors that were built from `s` to `s'` are of this kind. -/
def Accounts (now : Int) (s s' : Store) : Prop :=
  ∃ events, s'.log = s.log ++ events ∧ ∀ e ∈ events, Event.Excused events now e

namespace Accounts

variable {now : Int} {s s' s'' : Store}

theorem of_adds (h : Adds (Event.Meets (fun _ _ _ => False) now) s s') :
    Accounts now s s' := by
  obtain ⟨events, hlog, hnone⟩ := h
  exact ⟨events, hlog, fun e he type code packet reply heq =>
    absurd (hnone e he type code packet reply heq).2 not_false⟩

theorem trans (h : Accounts now s s') (h' : Accounts now s' s'') : Accounts now s s'' := by
  obtain ⟨events, hlog, hexcused⟩ := h
  obtain ⟨events', hlog', hexcused'⟩ := h'
  refine ⟨events ++ events', by rw [hlog', hlog, List.append_assoc], ?_⟩
  intro e he type code packet reply heq
  obtain he | he := List.mem_append.mp he
  · obtain ⟨hnow, htype, hcode, r, pkt, hdestroyed, hrest⟩ := hexcused e he _ _ _ _ heq
    exact ⟨hnow, htype, hcode, r, pkt, List.mem_append_left _ hdestroyed, hrest⟩
  · obtain ⟨hnow, htype, hcode, r, pkt, hdestroyed, hrest⟩ := hexcused' e he _ _ _ _ heq
    exact ⟨hnow, htype, hcode, r, pkt, List.mem_append_right _ hdestroyed, hrest⟩

end Accounts

theorem uses_reportPackets {P : UInt8 → UInt8 → Frame → Prop} (sr : Config)
    (packets : List SrPacket) (h : ∀ pkt ∈ packets, P 3 1 pkt.buf) :
    Uses P .free (reportPackets sr packets) := by
  induction packets with
  | nil => exact uses_done
  | cons pkt packets ih =>
      obtain ⟨hpkt, hpackets⟩ := List.forall_mem_cons.mp h
      refine (uses_srSendIcmpError sr (some pkt) pkt.buf 3 1 fun _ => hpkt).bind ?_
      rintro g a rfl
      exact ih hpackets

theorem accounts_giveUp (sr : Config) {s : Store} (hwf : s.WF) {r : SrArpreq}
    (hr : r ∈ s.requests) (hexp : r.Expired s.now) (hfive : r.timesSent ≤ 5) :
    Accounts s.now s (srArpreqDestroy ((reportPackets sr r.packets).run exec s).2 r.addr) := by
  have hswells := reportPackets_swells hwf.allocated sr r.packets
  have hmeets : Adds (Event.Meets (fun type code packet => type = 3 ∧ code = 1 ∧
      ∃ pkt ∈ r.packets, packet = pkt.buf) s.now) s ((reportPackets sr r.packets).run exec s).2 :=
    run_meets (uses_reportPackets sr r.packets fun pkt hpkt => ⟨rfl, rfl, pkt, hpkt, rfl⟩) s
  have hwf' : ((reportPackets sr r.packets).run exec s).2.WF :=
    (reportPackets_path sr 0 r.packets hwf).wf hwf
  generalize ((reportPackets sr r.packets).run exec s).2 = s' at hswells hmeets hwf' ⊢
  -- The record is still there when the loop is over.
  obtain ⟨r', hr', hgrown⟩ := hswells.exists_grown hwf.allocated hr
  obtain ⟨front, -, hpackets⟩ := hgrown.packets
  obtain ⟨events, hlog, hmeets⟩ := hmeets
  have hdestroy : (srArpreqDestroy s' r.addr).log =
      s'.log ++ [(s.now, .destroyed r')] := by
    rw [srArpreqDestroy, ← hgrown.addr, hwf'.deref_eq hr', ← hswells.now]
    rfl
  refine ⟨events ++ [(s.now, .destroyed r')], by rw [hdestroy, hlog, List.append_assoc], ?_⟩
  intro e he type code packet reply heq
  obtain he | he := List.mem_append.mp he
  · obtain ⟨hnow, htype, hcode, pkt, hpkt, hbuf⟩ := hmeets e he _ _ _ _ heq
    have hmany := hexp.2
    have hdue : r.Due s.now := hexp.1
    have hcounter := hgrown.counter
    refine ⟨hnow, htype, hcode, r', pkt, by simp, ?_, hbuf, by omega, ?_⟩
    · rw [hpackets]
      exact List.mem_append_right _ hpkt
    · simp only [SrArpreq.Due] at hdue ⊢
      omega
  · rw [List.mem_singleton.mp he] at heq
    cases heq

theorem Turn.accounts {sr : Config} {now : Int} {s s' : Store} (h : Turn sr now s s')
    (hwf : s.WF) (hs : Healthy sr s) : Accounts now s s' := by
  have hsame : Accounts now s s := .of_adds (.of_log rfl)
  obtain ⟨hr, rfl⟩ := h
  rw [run_handleArpreq sr hwf.allocated hr]
  split
  · next hexp => exact accounts_giveUp sr hwf hr hexp (hs.counters _ hr).2
  · split
    · split
      · exact hsame
      · have hasked (ip : UInt32) (iface : Name) :
            Adds (Event.Meets (fun _ _ _ => False) s.now) s (s.asked sr ip iface) :=
          .asked fun _ _ _ _ _ _ heq => by cases heq
        exact .of_adds ((hasked ..).trans (.of_log rfl))
    · exact hsame

theorem srArpcacheTimeout_accounts (sr : Config) {s : Store} (hwf : s.WF) (hs : Healthy sr s) :
    Accounts s.now s (srArpcacheTimeout sr s) := by
  have hwf' : Store.WF { s with cache := srArpcacheExpire s.cache s.now } := hwf.congr rfl rfl
  have h := Turn.invariant (I := fun s' => Healthy sr s' ∧ Accounts s.now s s')
    (fun _ _ hwf hturn h => ⟨(hturn.path hwf).healthy hwf h.1,
      h.2.trans (hturn.accounts hwf h.1)⟩)
    (srArpcacheSweepreqs_turns sr (s := { s with cache := srArpcacheExpire s.cache s.now })
      hwf') hwf'
    ⟨⟨hs.counters, hs.packets⟩, .of_adds (.of_log rfl)⟩
  exact h.1.2

/-! ### Errors about errors -/

/-- The circumstances in which a step with these events builds an ICMP error
about an ICMP error. -/
inductive Circumstance (sr : Config) (events : List (Int × Event)) :
    Action → Int → UInt8 → UInt8 → Frame → Prop
  /-- It was received for another host, with a TTL of at most one. -/
  | timeExceeded {now : Int} {packet : Frame} {interface : Name}
      (hdst : srIsRouterIp sr.ifList (ipDst packet) = false) (httl : ipTtl packet ≤ 1) :
      Circumstance sr events (.recv now packet interface) now 11 0 packet
  /-- It was received for another host that there is no route to. -/
  | noRoute {now : Int} {packet : Frame} {interface : Name}
      (hdst : srIsRouterIp sr.ifList (ipDst packet) = false) (httl : 1 < ipTtl packet)
      (hroute : srFindLpmRoute sr.routingTable (ipDst packet) = none) :
      Circumstance sr events (.recv now packet interface) now 3 0 (decrementTtl packet)
  /-- It waited on a request that was sent five times and failed. -/
  | hostUnreachable {now : Int} {r : SrArpreq} {pkt : SrPacket}
      (hdestroyed : (now, .destroyed r) ∈ events) (hmem : pkt ∈ r.packets)
      (hmany : r.timesSent = 5) (hdue : r.Due now) :
      Circumstance sr events (.timer now) now 3 1 pkt.buf

theorem AboutReceived.circumstance {sr : Config} {received packet : Frame} {type code : UInt8}
    (h : AboutReceived sr received type code packet) (hicmp : IsIcmpError packet)
    (events : List (Int × Event)) (now : Int) (interface : Name) :
    Circumstance sr events (.recv now received interface) now type code packet := by
  cases h with
  | portUnreachable hproto =>
      rw [hicmp.1] at hproto
      exact absurd hproto (by decide)
  | timeExceeded hdst httl => exact .timeExceeded hdst httl
  | noRoute hdst httl hroute => exact .noRoute hdst httl hroute

/-- **ICMP errors about ICMP errors.** Whatever was received before, a step
builds an ICMP error about an ICMP error only in three circumstances: about a
packet that it receives for another host, as time exceeded or as net
unreachable, and about a packet that waited on a request that failed, as host
unreachable. -/
theorem step_reports_icmpError (config : Config) (now : Int) (actions : List Action)
    (a : Action) :
    ∃ events, (((SrInstance.init config now).run actions).step a).store.log =
        ((SrInstance.init config now).run actions).store.log ++ events ∧
      ∀ t type code packet reply, (t, Event.icmpReply type code packet reply) ∈ events →
        IsIcmpError packet →
        Circumstance ((SrInstance.init config now).run actions).config events a t type code
          packet := by
  have hwf := SrInstance.run_wf config now actions
  have hs := SrInstance.run_healthy config now actions
  generalize (SrInstance.init config now).run actions = sr at hwf hs ⊢
  cases a with
  | recv now received interface =>
      obtain ⟨events, hlog, hmeets⟩ :=
        run_srHandlepacket_meets sr.config received interface (sr.store.setNow now)
      refine ⟨events, hlog, fun t type code packet reply he hicmp => ?_⟩
      obtain ⟨rfl, habout⟩ := hmeets _ he _ _ _ _ rfl
      exact habout.circumstance hicmp events _ interface
  | timer now =>
      obtain ⟨events, hlog, hexcused⟩ :=
        srArpcacheTimeout_accounts sr.config (hwf.setNow now) ⟨hs.counters, hs.packets⟩
      refine ⟨events, hlog, fun t type code packet reply he _ => ?_⟩
      obtain ⟨rfl, rfl, rfl, r, pkt, hdestroyed, hmem, rfl, hmany, hdue⟩ :=
        hexcused _ he _ _ _ _ rfl
      exact .hostUnreachable hdestroyed hmem hmany hdue
  | hwinfo mem entries =>
      refine ⟨[], ?_, fun _ _ _ _ _ he => absurd he List.not_mem_nil⟩
      rw [SrInstance.step_hwinfo_store, List.append_nil]

/-- A host unreachable message from 10.0.2.50 to 10.0.1.50 whose TTL has run
down, as it arrives on `eth2`. -/
def spentError : Frame :=
  [2, 0, 0, 0, 0, 2, 2, 0, 0, 0, 2, 50, 8, 0,
    0x45, 0, 0, 28, 0, 0, 0, 0, 1, 1, 0xa2, 0x7e, 10, 0, 2, 50, 10, 0, 1, 50,
    3, 1, 0xfc, 0xfe, 0, 0, 0, 0]

/-- When and with which type and code a history has errors about errors. -/
def errorsAboutErrors (log : List (Int × Event)) : List (Int × UInt8 × UInt8) :=
  log.filterMap fun e =>
    match e.2 with
    | .icmpReply type code packet _ => if IsIcmpError packet then some (e.1, type, code) else none
    | _ => none

theorem exists_of_errorsAboutErrors {log : List (Int × Event)} (h : errorsAboutErrors log ≠ []) :
    ∃ t type code packet reply, (t, Event.icmpReply type code packet reply) ∈ log ∧
      IsIcmpError packet := by
  obtain ⟨x, hx⟩ := List.exists_mem_of_ne_nil _ h
  obtain ⟨⟨t, e⟩, he, hmap⟩ := List.mem_filterMap.mp hx
  cases e with
  | icmpReply type code packet reply =>
      refine ⟨t, type, code, packet, reply, he, ?_⟩
      by_contra hicmp
      simp [hicmp] at hmap
  | sendPacket | icmpError | created | queued | learned | destroyed => cases hmap

/-- The router builds an error about it, and when nobody answers for the host
that it came from, a second error, about the first one. -/
theorem exists_report_icmpError :
    (errorsAboutErrors ((SrInstance.init twoNetworks 0).run [.recv 0 spentError eth2.name,
      .timer 1, .timer 2, .timer 3, .timer 4, .timer 5]).store.log = [(0, 11, 0), (5, 3, 1)]) ∧
    ¬∀ config now actions t type code packet reply,
      (t, Event.icmpReply type code packet reply) ∈
        ((SrInstance.init config now).run actions).store.log → ¬IsIcmpError packet := by
  have hrun : errorsAboutErrors ((SrInstance.init twoNetworks 0).run [.recv 0 spentError eth2.name,
      .timer 1, .timer 2, .timer 3, .timer 4, .timer 5]).store.log =
      [(0, 11, 0), (5, 3, 1)] := by decide
  refine ⟨hrun, fun hall => ?_⟩
  obtain ⟨t, type, code, packet, reply, he, hicmp⟩ :=
    exists_of_errorsAboutErrors (hrun ▸ List.cons_ne_nil _ _)
  exact hall _ _ _ t type code packet reply he hicmp

end SrRouter
