import SrRouter.Invariants
import SrRouter.Routes

/-!
A received packet that is not for the router, from the frame that comes in
to what goes out.

In every reachable state the handling of such a packet has one of four ends:
it is reported as expired, it is reported as unroutable, it is sent to its
next hop, or it waits for the address of its next hop. The history says in
each case everything that happened in the step.
-/

namespace SrRouter

open ByteBuffer CString Interactive

namespace SrInstance

def Reachable (sr : SrInstance) : Prop :=
  ∃ config now actions, sr = (init config now).run actions

theorem Reachable.wf {sr : SrInstance} (h : sr.Reachable) : sr.store.WF := by
  obtain ⟨config, now, actions, rfl⟩ := h
  exact run_wf config now actions

theorem Reachable.healthy {sr : SrInstance} (h : sr.Reachable) :
    Healthy sr.config sr.store := by
  obtain ⟨config, now, actions, rfl⟩ := h
  exact run_healthy config now actions

end SrInstance

/-! ### A router between two networks -/

def eth1 : SrIf := { name := [101, 116, 104, 49], addr := ⟨[2, 0, 0, 0, 0, 1], rfl⟩,
                     ip := 0x0101000a }

def eth2 : SrIf := { name := [101, 116, 104, 50], addr := ⟨[2, 0, 0, 0, 0, 2], rfl⟩,
                     ip := 0x0102000a }

/-- A router with the addresses 10.0.1.1 and 10.0.2.1, and a route to each of
the networks 10.0.1.0/24 and 10.0.2.0/24. -/
def twoNetworks : Config where
  ifList := [eth1, eth2]
  routingTable := [
    { dest := 0x0001000a, gw := 0, mask := 0x00ffffff, interface := eth1.name },
    { dest := 0x0002000a, gw := 0, mask := 0x00ffffff, interface := eth2.name }]

/-- A packet from 10.0.2.50 to 10.0.1.50, as it arrives on `eth2`. -/
def crossingFrame : Frame :=
  [2, 0, 0, 0, 0, 2, 2, 0, 0, 0, 2, 50, 8, 0,
    0x45, 0, 0, 20, 0, 0, 0, 0, 64, 17, 0x63, 0x76, 10, 0, 2, 50, 10, 0, 1, 50]

/-! ### What is sent -/

/-- A frame that carries the received packet on, through `outIface`. -/
structure Forwarded (packet : Frame) (outIface : SrIf) (frame : Frame) : Prop where
  length : frame.length = packet.length
  shost : etherShost frame = outIface.addr
  ttl : (ipTtl frame).toNat + 1 = (ipTtl packet).toNat
  sum : ipSum frame = headerCksum frame
  valid : srValidIpPacket frame = true
  rest : ∀ j, 12 ≤ j → j ≠ 22 → j ≠ 24 → j ≠ 25 → load8 frame j = load8 packet j

theorem Forwarded.of_sameBody {packet : Frame} {outIface : SrIf} {frame : Frame}
    (hvalid : srValidIpPacket packet = true) (httl : 1 < ipTtl packet)
    (hbody : SameBody frame (decrementTtl packet)) (hshost : etherShost frame = outIface.addr) :
    Forwarded packet outIface frame := by
  have hok := headerOk_of_valid hvalid
  have hframe := hbody.valid (decrementTtl_valid hok)
  refine ⟨by simp [hbody.length_eq], hshost, ?_, (srValidIpPacket_iff.mp hframe).2, hframe, ?_⟩
  · have httl' : ipTtl frame = ipTtl packet - 1 :=
      (hbody.load8_eq 22 (by omega)).trans (ipTtl_decrementTtl hok)
    have hpos : 1 < (ipTtl packet).toNat := UInt8.lt_iff_toNat_lt.mp httl
    have hle : 1 ≤ ipTtl packet := UInt8.le_iff_toNat_le.mpr (by simp; omega)
    rw [httl', UInt8.toNat_sub_of_le _ _ hle]
    exact Nat.sub_add_cancel (Nat.le_of_lt hpos)
  · intro j hj h22 h24 h25
    rw [hbody.load8_eq j hj, load8_decrementTtl h22 h24 h25]

def Event.Forwards : Event → Prop
  | .sendPacket (.routed .received) _ _ _ => True
  | .sendPacket (.flush _ _ _) _ _ _ => True
  | .queued _ _ pkt => pkt.origin = .received
  | _ => False

/-! ### What reporting leaves in the history -/

abbrev Own (e : Int × Event) : Prop := ¬e.2.Forwards

theorem routed_icmpError_adds (s : Store) (sr : Config) (packet : Frame) :
    Adds Own s (s.routed sr .icmpError packet) := by
  have hasked (s : Store) (ip : UInt32) (iface : Name) : Adds Own s (s.asked sr ip iface) :=
    .asked fun _ _ => by simp [Own, Event.Forwards]
  have hlinked (s : Store) (req : Addr) (ip : UInt32) (buf : Frame) (iface : Name) :
      Adds Own s (s.linkPacket req ip .icmpError buf iface) :=
    .single rfl (by simp [Own, Event.Forwards])
  refine s.routed_cases sr .icmpError packet ?_ ?_ ?_ ?_ ?_
  · exact fun _ => .of_log rfl
  · exact fun _ _ _ _ _ => .single rfl (by simp [Own, Event.Forwards])
  · exact fun _ _ _ _ _ _ => hlinked ..
  · exact fun _ _ _ _ _ _ => (hlinked ..).trans ((hasked ..).trans (.of_log rfl))
  · intro outIface ip _ _ _
    have hcreated : Adds Own s (s.newRequest ip) := .single rfl (by simp [Own, Event.Forwards])
    exact hcreated.trans ((hlinked ..).trans ((hasked ..).trans (.of_log rfl)))

/-- The step called `sr_send_icmp_error` on the packet, and that was all. -/
structure Reported (sr sr' : SrInstance) (now : Int) (packet : Frame) (type code : UInt8) :
    Prop where
  store : sr'.store = ((srSendIcmpError sr.config none packet type code).run exec
    (sr.store.setNow now)).2
  log : ∃ rest, sr'.store.log = sr.store.log ++ (now, .icmpError none type code packet) :: rest ∧
    ∀ e ∈ rest, ¬e.2.Forwards

theorem reported_of_store {sr sr' : SrInstance} (hwf : sr.store.WF) {now : Int} {packet : Frame}
    {type code : UInt8} (hstore : sr'.store = ((srSendIcmpError sr.config none packet type
      code).run exec (sr.store.setNow now)).2) : Reported sr sr' now packet type code := by
  refine ⟨hstore, ?_⟩
  have hrest : Adds Own ((sr.store.setNow now).trace (.icmpError none type code packet))
      sr'.store := by
    rw [hstore, run_srSendIcmpError _ _ _ _ _ (hwf.setNow now).allocated, Store.errored,
      Store.noted]
    cases errorReply sr.config packet type code with
    | none => exact .of_log rfl
    | some reply =>
        exact Adds.trans (.single rfl (by simp [Own, Event.Forwards])) (routed_icmpError_adds ..)
  obtain ⟨rest, hlog, hown⟩ := hrest
  refine ⟨rest, ?_, hown⟩
  rw [hlog]
  exact List.append_assoc ..

/-! ### The packet is handed on -/

/-- The packet went out as one frame, and nothing else changed. -/
structure SentOn (sr sr' : SrInstance) (now : Int) (packet : Frame) (outIface : SrIf) (mac : Mac) :
    Prop where
  cache : sr'.store.cache = sr.store.cache
  log : ∃ frame, Forwarded packet outIface frame ∧ etherDhost frame = mac ∧
    sr'.store.log = sr.store.log ++
      [(now, .sendPacket (.routed .received) outIface.name frame 0)]

/-- The packet waits for the address of its next hop `ip`: on the request for
`ip` if there was one, or else on a new one for which one broadcast went out. -/
structure Waits (sr sr' : SrInstance) (now : Int) (packet : Frame) (outIface : SrIf)
    (ip : UInt32) : Prop where
  entries : sr'.store.cache.entries = sr.store.cache.entries
  queued : ∃ pkt, Forwarded packet outIface pkt.buf ∧ pkt.origin = .received ∧
    srGetInterface sr.config.ifList pkt.iface = some outIface ∧
    ((∃ r ∈ sr.requests, r.ip = ip ∧
      sr'.requests = sr.requests.map (fun q => if q.addr = r.addr then
        { q with packets := pkt :: q.packets } else q) ∧
      sr'.store.log = sr.store.log ++ [(now, .queued r.addr ip pkt)]) ∨
    ((∀ r ∈ sr.requests, r.ip ≠ ip) ∧ ∃ req frame,
      ArpFrame arpOpRequest outIface broadcast ip frame ∧
      sr'.requests = { addr := req, ip := ip, sent := now, timesSent := 1,
                       packets := [pkt] } :: sr.requests ∧
      sr'.store.log = sr.store.log ++ [(now, .created req ip), (now, .queued req ip pkt),
        (now, .sendPacket .arpRequest outIface.name frame 0)]))

theorem run_srHandlepacket_transit (sr : Config) {packet : Frame} (interface : Name) {s : Store}
    (htype : ethertype packet = ethertypeIp) (hvalid : srValidIpPacket packet = true)
    (hdst : srIsRouterIp sr.ifList (ipDst packet) = false) :
    (srHandlepacket sr packet interface).run exec s =
      if ipTtl packet ≤ 1 then (srSendIcmpError sr none packet 11 0).run exec s
      else (srForwardIpPacket sr (decrementTtl packet)).run exec s := by
  have hlen := (headerOk_of_valid hvalid).length_ge
  have harp : ethertype packet ≠ ethertypeArp := by
    rw [htype]
    decide
  rw [srHandlepacket, if_neg (by simp only [sizeofEthernetHdr]; omega), if_neg harp, if_pos htype]
  simp only [srHandleIp, validIpPacketInPlace_eq, hvalid, hdst, Bool.not_true, Bool.false_eq_true,
    if_false]
  split <;> rfl

theorem nextHop_eq_some {sr : Config} {packet : Frame} {route : SrRt} {outIface : SrIf}
    (hroute : srFindLpmRoute sr.routingTable (ipDst packet) = some route)
    (hget : srGetInterface sr.ifList route.interface = some outIface) :
    nextHop sr packet = some (outIface, if route.gw ≠ 0 then route.gw else ipDst packet) := by
  simp only [nextHop, hroute, hget]

section Routed

variable {sr sr' : SrInstance} {now : Int} {packet : Frame} {interface : Name} {outIface : SrIf}
  {ip : UInt32} (hsr : sr.Reachable) (hstep : sr'.store = (sr.store.setNow now).routed sr.config
    .received (decrementTtl packet)) (hvalid : srValidIpPacket packet = true)
  (httl : 1 < ipTtl packet) (hhop : nextHop sr.config (decrementTtl packet) = some (outIface, ip))

include hstep hvalid httl hhop

theorem sentOn_of_hit {entry : SrArpentry}
    (hhit : srArpcacheLookup sr.store.cache ip = some entry) :
    SentOn sr sr' now packet outIface entry.mac := by
  have hlen := (headerOk_of_valid hvalid).length_ge
  have hbody : SameBody (addressed (decrementTtl packet) outIface entry.mac)
      (decrementTtl packet) := sameBody_addressed ..
  have hshost : etherShost (addressed (decrementTtl packet) outIface entry.mac) = outIface.addr :=
    etherShost_setEtherShost (by simp; omega)
  have hret : srSendPacketRet sr.config (addressed (decrementTtl packet) outIface entry.mac)
      outIface.name = 0 :=
    srSendPacketRet_of_shost (by simp [addressed, sizeofEthernetHdr]; omega)
      (srGetInterface_of_nextHop hhop) hshost
  have hstore : sr'.store = (sr.store.setNow now).trace (.sendPacket (.routed .received)
      outIface.name (addressed (decrementTtl packet) outIface entry.mac) 0) := by
    simp only [hstep, Store.routed, hhop, Store.setNow, hhit, hret]
  refine ⟨by rw [hstore]; rfl, _, .of_sameBody hvalid httl hbody hshost, ?_, by rw [hstore]; rfl⟩
  rw [addressed, etherDhost_setEtherShost]
  exact etherDhost_setEtherDhost (by simp; omega)

include hsr

theorem waits_of_miss (hmiss : srArpcacheLookup sr.store.cache ip = none) :
    Waits sr sr' now packet outIface ip := by
  have hlen := (headerOk_of_valid hvalid).length_ge
  have hwf := hsr.wf.setNow now
  have hget := srGetInterface_of_nextHop hhop
  have hframe : Forwarded packet outIface
      (setEtherShost (decrementTtl packet) outIface.addr) :=
    .of_sameBody hvalid httl (sameBody_setEtherShost _ _)
      (etherShost_setEtherShost (by simp; omega))
  have hgetCopy : srGetInterface sr.config.ifList (strncpy srIfaceNamelen outIface.name) =
      some outIface := (srGetInterface_strncpy _ _).trans hget
  have hstore : sr'.store = (sr.store.setNow now).missed sr.config .received
      (setEtherShost (decrementTtl packet) outIface.addr) outIface ip := by
    simp only [hstep, Store.routed, hhop, Store.setNow, hmiss]
  rw [Store.missed] at hstore
  cases hfind : (sr.store.setNow now).requests.find? fun r => r.ip == ip with
  | some r =>
      have hr := List.mem_of_find?_eq_some hfind
      have hip : r.ip = ip := by simpa using List.find?_some hfind
      have hsent := (hsr.healthy.counters r hr).1
      simp only [hfind] at hstore
      rw [if_neg (by omega)] at hstore
      refine ⟨by rw [hstore]; rfl, (sr.store.setNow now).nextPacket .received
        (setEtherShost (decrementTtl packet) outIface.addr) outIface.name, hframe, rfl, hgetCopy,
        .inl ⟨r, hr, hip, ?_, by rw [hstore]; rfl⟩⟩
      rw [SrInstance.requests, hstore]
      rfl
  | none =>
      have hother : ∀ r ∈ sr.requests, r.ip ≠ ip := by
        intro r hr
        simpa using List.find?_eq_none.mp hfind r hr
      have harp := arpRequestFrame_ok outIface ip
      have hret : srSendPacketRet sr.config (arpRequestFrame outIface ip) outIface.name = 0 :=
        srSendPacketRet_of_shost (by simp [harp.length, sizeofEthernetHdr]) hget harp.shost
      simp only [hfind] at hstore
      refine ⟨?_, ((sr.store.setNow now).newRequest ip).nextPacket .received
        (setEtherShost (decrementTtl packet) outIface.addr) outIface.name, hframe, rfl, hgetCopy,
        .inr ⟨hother, sr.store.heap, arpRequestFrame outIface ip, harp, ?_, ?_⟩⟩
      · simp [hstore, Store.retried, Store.setNow]
      · rw [SrInstance.requests, hstore]
        exact requests_created hwf.allocated ..
      · rw [hstore, asked_eq hhop, hret]
        simp [Store.retried, Store.setNow]

end Routed

/-- **End-to-end forwarding.** A valid IP packet for another host, received
in any reachable state: with a TTL of at most one it is reported and not
forwarded; without a route it is reported, its TTL decremented, and not
forwarded; and when the longest matching route has an interface, it goes to
the gateway of the route or to its destination, at once if the cache holds
the address of that next hop, and else when it becomes known. -/
theorem recv_transit {sr : SrInstance} (hsr : sr.Reachable) (now : Int) {packet : Frame}
    (interface : Name) (htype : ethertype packet = ethertypeIp)
    (hvalid : srValidIpPacket packet = true)
    (hdst : srIsRouterIp sr.config.ifList (ipDst packet) = false) :
    (∀ r ∈ sr.requests, 1 ≤ r.timesSent) ∧
    (ipTtl packet ≤ 1 →
      Reported sr (sr.step (.recv now packet interface)) now packet 11 0) ∧
    (1 < ipTtl packet → (∀ rt ∈ sr.config.routingTable, ¬rt.Matches (ipDst packet)) →
      Reported sr (sr.step (.recv now packet interface)) now (decrementTtl packet) 3 0) ∧
    (1 < ipTtl packet → ∀ route outIface,
      IsLongestMatch sr.config.routingTable (ipDst packet) route →
      srGetInterface sr.config.ifList route.interface = some outIface →
      (∀ entry, srArpcacheLookup sr.store.cache
          (if route.gw ≠ 0 then route.gw else ipDst packet) = some entry →
        SentOn sr (sr.step (.recv now packet interface)) now packet outIface entry.mac) ∧
      (srArpcacheLookup sr.store.cache (if route.gw ≠ 0 then route.gw else ipDst packet) = none →
        Waits sr (sr.step (.recv now packet interface)) now packet outIface
          (if route.gw ≠ 0 then route.gw else ipDst packet))) := by
  have hwf := hsr.wf.setNow now
  have hrun := run_srHandlepacket_transit sr.config interface (s := sr.store.setNow now) htype
    hvalid hdst
  refine ⟨fun r hr => (hsr.healthy.counters r hr).1, fun httl => ?_, fun httl hnone => ?_,
    fun httl route outIface hlongest hget => ?_⟩
  · refine reported_of_store hsr.wf ?_
    rw [SrInstance.step, hrun, if_pos httl]
  · have hroute := srFindLpmRoute_eq_none.mpr hnone
    refine reported_of_store hsr.wf ?_
    rw [SrInstance.step, hrun, if_neg (UInt8.not_le.mpr httl), srForwardIpPacket,
      ipDst_decrementTtl, hroute]
    rfl
  · have hroute := srFindLpmRoute_eq_some.mpr hlongest
    have hhop : nextHop sr.config (decrementTtl packet) =
        some (outIface, if route.gw ≠ 0 then route.gw else ipDst packet) :=
      (nextHop_congr (ipDst_decrementTtl packet)).trans (nextHop_eq_some hroute hget)
    have hstep : (sr.step (.recv now packet interface)).store =
        (sr.store.setNow now).routed sr.config .received (decrementTtl packet) := by
      rw [SrInstance.step, hrun, if_neg (UInt8.not_le.mpr httl), srForwardIpPacket,
        ipDst_decrementTtl, hroute, if_neg (by simp), run_srSendRoutedIpPacket _ _ _ hwf.allocated]
    exact ⟨fun _ hhit => sentOn_of_hit hstep hvalid httl hhop hhit,
      fun hmiss => waits_of_miss hsr hstep hvalid httl hhop hmiss⟩

/-- The packet from one network to the other, with nothing in the cache yet. -/
theorem recv_transit_twoNetworks :
    Waits (.init twoNetworks 0) ((SrInstance.init twoNetworks 0).step
      (.recv 0 crossingFrame eth2.name)) 0 crossingFrame eth1 0x3201000a :=
  ((recv_transit ⟨twoNetworks, 0, [], rfl⟩ 0 eth2.name (by decide) (by decide)
    (by decide)).2.2.2 (by decide)
    { dest := 0x0001000a, gw := 0, mask := 0x00ffffff, interface := eth1.name } eth1
    (srFindLpmRoute_eq_some.mp (by decide)) (by decide)).2 (by decide)
end SrRouter
