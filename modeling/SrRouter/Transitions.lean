import SrRouter.Queue
import SrRouter.Frames
import SrRouter.Instance

/-!
What one step of the router can do to the shared state.

First each program gets its effect when it runs without interruption, as a
function on stores. Then those effects are cut into transitions: the events
that leave the queue alone, the three ways a packet gets onto the queue, a
retry, the report of one packet of a request that is given up, its removal,
and the arrival of a mapping. Every step of the router is a path of such
transitions (`SrInstance.step_path` in the module on the sweep), so whatever
all transitions keep, all steps keep.
-/

namespace SrRouter

open ByteBuffer CString Interactive

/-! ### Routing -/

/-- The interface and the next hop that the routing table gives a packet. -/
def nextHop (sr : Config) (packet : Frame) : Option (SrIf × UInt32) :=
  match srFindLpmRoute sr.routingTable (ipDst packet) with
  | none => none
  | some route =>
    match srGetInterface sr.ifList route.interface with
    | none => none
    | some outIface => some (outIface, if route.gw ≠ 0 then route.gw else ipDst packet)

theorem nextHop_congr {sr : Config} {packet packet' : Frame} (h : ipDst packet = ipDst packet') :
    nextHop sr packet = nextHop sr packet' := by
  simp only [nextHop, h]

theorem srGetInterface_of_nextHop {sr : Config} {packet : Frame} {outIface : SrIf} {ip : UInt32}
    (h : nextHop sr packet = some (outIface, ip)) :
    srGetInterface sr.ifList outIface.name = some outIface := by
  unfold nextHop at h
  split at h
  · cases h
  · split at h
    · cases h
    · next hget =>
        obtain ⟨rfl, -⟩ := Prod.mk.inj (Option.some.inj h)
        exact srGetInterface_name hget

def addressed (packet : Frame) (outIface : SrIf) (mac : Mac) : Frame :=
  setEtherShost (setEtherDhost (setEtherShost packet outIface.addr) mac) outIface.addr

theorem sameBody_addressed (packet : Frame) (outIface : SrIf) (mac : Mac) :
    SameBody (addressed packet outIface mac) packet :=
  (sameBody_setEtherShost _ _).trans
    ((sameBody_setEtherDhost _ _).trans (sameBody_setEtherShost _ _))

namespace Store

/-- The effect of `sendArpRequest`. -/
def asked (s : Store) (sr : Config) (ip : UInt32) (iface : Name) : Store :=
  match srGetInterface sr.ifList iface with
  | none => s
  | some outIface => s.trace (.sendPacket .arpRequest iface (arpRequestFrame outIface ip)
      (srSendPacketRet sr (arpRequestFrame outIface ip) iface))

/-- The counter and the time of a request that was just sent. -/
def retried (s : Store) (req : Addr) (now : Int) : Store :=
  s.update req fun r => { r with sent := now, timesSent := r.timesSent + 1 }

/-- The effect of `sr_send_routed_ip_packet` on a cache miss. -/
def missed (s : Store) (sr : Config) (origin : Origin) (buf : Frame) (outIface : SrIf)
    (ip : UInt32) : Store :=
  match s.requests.find? fun r => r.ip == ip with
  | some req =>
    if req.timesSent = 0 then
      ((s.linkPacket req.addr ip origin buf outIface.name).asked sr ip outIface.name).retried
        req.addr s.now
    else s.linkPacket req.addr ip origin buf outIface.name
  | none =>
    (((s.newRequest ip).linkPacket s.heap ip origin buf outIface.name).asked sr ip
      outIface.name).retried s.heap s.now

/-- The effect of `sr_send_routed_ip_packet`. -/
def routed (s : Store) (sr : Config) (origin : Origin) (packet : Frame) : Store :=
  match nextHop sr packet with
  | none => s
  | some (outIface, ip) =>
    match srArpcacheLookup s.cache ip with
    | some entry => s.trace (.sendPacket (.routed origin) outIface.name
        (addressed packet outIface entry.mac)
        (srSendPacketRet sr (addressed packet outIface entry.mac) outIface.name))
    | none => s.missed sr origin (setEtherShost packet outIface.addr) outIface ip

theorem update_update (s : Store) (req : Addr) {f g : SrArpreq → SrArpreq}
    (hf : ∀ r, (f r).addr = r.addr) :
    (s.update req f).update req g = s.update req fun r => g (f r) := by
  have hmap : (s.requests.map fun r => if r.addr = req then f r else r).map
      (fun r => if r.addr = req then g r else r) =
      s.requests.map fun r => if r.addr = req then g (f r) else r := by
    rw [List.map_map]
    refine List.map_congr_left fun r _ => ?_
    by_cases hr : r.addr = req <;> simp [hr, hf]
  simp only [update, setRequests, requests] at hmap ⊢
  rw [hmap]

theorem deref_update (s : Store) (req a : Addr) {f : SrArpreq → SrArpreq}
    (hf : ∀ r, (f r).addr = r.addr) :
    (s.update req f).deref a =
      (s.deref a).map fun r => if r.addr = req then f r else r := by
  simp only [deref, requests_update, List.find?_map]
  congr 2
  funext r
  simp only [Function.comp]
  split
  · rw [hf]
  · rfl

theorem deref_linkPacket (s : Store) (req a : Addr) (ip : UInt32) (origin : Origin) (buf : Frame)
    (iface : Name) : (s.linkPacket req ip origin buf iface).deref a =
      (s.deref a).map fun r => if r.addr = req then
        { r with packets := s.nextPacket origin buf iface :: r.packets } else r :=
  s.deref_update req a fun _ => rfl

end Store

theorem run_sendArpRequest (sr : Config) (ip : UInt32) (iface : Name) (s : Store) :
    (sendArpRequest sr ip iface).run exec s = ((), s.asked sr ip iface) := by
  unfold sendArpRequest Store.asked
  cases srGetInterface sr.ifList iface <;> rfl

@[elab_as_elim]
theorem Store.asked_cases {motive : Store → Prop} (s : Store) (sr : Config) (ip : UInt32)
    (iface : Name) (silent : motive s)
    (sent : ∀ frame ret, motive (s.trace (.sendPacket .arpRequest iface frame ret))) :
    motive (s.asked sr ip iface) := by
  unfold Store.asked
  split
  · exact silent
  · exact sent _ _

@[simp] theorem Store.now_asked (s : Store) (sr : Config) (ip : UInt32) (iface : Name) :
    (s.asked sr ip iface).now = s.now :=
  s.asked_cases sr ip iface rfl fun _ _ => rfl

/-- **What routing comes to.** There is no next hop; or its address is known,
or its request was sent before, or put on the queue without being sent, or is
created. -/
@[elab_as_elim]
theorem Store.routed_cases {motive : Store → Prop} (s : Store) (sr : Config) (origin : Origin)
    (packet : Frame) (stuck : nextHop sr packet = none → motive s)
    (sent : ∀ outIface ip entry, nextHop sr packet = some (outIface, ip) →
      srArpcacheLookup s.cache ip = some entry →
      motive (s.trace (.sendPacket (.routed origin) outIface.name
        (addressed packet outIface entry.mac)
        (srSendPacketRet sr (addressed packet outIface entry.mac) outIface.name))))
    (linked : ∀ outIface, ∀ r ∈ s.requests, nextHop sr packet = some (outIface, r.ip) →
      srArpcacheLookup s.cache r.ip = none → r.timesSent ≠ 0 →
      motive (s.linkPacket r.addr r.ip origin (setEtherShost packet outIface.addr) outIface.name))
    (linkedFirst : ∀ outIface, ∀ r ∈ s.requests, nextHop sr packet = some (outIface, r.ip) →
      srArpcacheLookup s.cache r.ip = none → r.timesSent = 0 →
      motive (((s.linkPacket r.addr r.ip origin (setEtherShost packet outIface.addr)
        outIface.name).asked sr r.ip outIface.name).retried r.addr s.now))
    (created : ∀ outIface ip, nextHop sr packet = some (outIface, ip) →
      srArpcacheLookup s.cache ip = none → s.requests.find? (fun r => r.ip == ip) = none →
      motive ((((s.newRequest ip).linkPacket s.heap ip origin (setEtherShost packet outIface.addr)
        outIface.name).asked sr ip outIface.name).retried s.heap s.now)) :
    motive (s.routed sr origin packet) := by
  unfold Store.routed
  cases hhop : nextHop sr packet with
  | none => exact stuck hhop
  | some hop =>
      obtain ⟨outIface, ip⟩ := hop
      simp only
      cases hlookup : srArpcacheLookup s.cache ip with
      | some entry => exact sent outIface ip entry hhop hlookup
      | none =>
          simp only [Store.missed]
          cases hfind : s.requests.find? fun r => r.ip == ip with
          | none => exact created outIface ip hhop hlookup hfind
          | some r =>
              have hr := List.mem_of_find?_eq_some hfind
              obtain rfl : r.ip = ip := by simpa using List.find?_some hfind
              simp only
              split
              · next hzero => exact linkedFirst outIface r hr hhop hlookup hzero
              · next hsent => exact linked outIface r hr hhop hlookup hsent

theorem exec_retried (s : Store) (req : Addr) (now : Int) :
    (exec (.incTimesSent req) (exec (.writeSent req now) s).2).2 = s.retried req now :=
  s.update_update req fun _ => rfl

theorem run_retryArpreq (sr : Config) (now : Int) (req : Addr) (ip : UInt32) (iface : Name)
    (s : Store) : ((retryArpreq sr now req ip iface).run exec s).2 =
      (s.asked sr ip iface).retried req now := by
  simp only [retryArpreq, srArpcacheSendArpRequest, Prog.bind_def, Prog.run_bind,
    run_sendArpRequest, Prog.run_perform]
  exact exec_retried ..

theorem run_firstSend (sr : Config) (outIface : SrIf) {req : Addr} {r : SrArpreq} {s : Store}
    (h : s.deref req = some r) :
    (((do
      if (← Call.readRequest req).timesSent = 0 then
        let ip := (← Call.readRequest req).ip
        srSendArpRequest sr ip outIface.name
        let now ← Call.time
        Call.writeSent req now
        Call.incTimesSent req) : Program).run exec s).2 =
      if r.timesSent = 0 then (s.asked sr r.ip outIface.name).retried req s.now else s := by
  simp only [Prog.bind_def, Prog.run_bind, Prog.run_perform, exec, h, Option.getD_some]
  by_cases hzero : r.timesSent = 0
  · simp only [hzero, if_true, Prog.run_bind, Prog.run_perform, exec, h,
      Option.getD_some, srSendArpRequest, run_sendArpRequest, Store.now_asked]
    exact exec_retried ..
  · simp only [hzero, if_false]
    rfl

theorem run_srSendRoutedIpPacket (sr : Config) (origin : Origin) (packet : Frame) {s : Store}
    (halloc : s.Allocated) :
    ((srSendRoutedIpPacket sr origin packet).run exec s).2 = s.routed sr origin packet := by
  unfold srSendRoutedIpPacket Store.routed nextHop
  cases srFindLpmRoute sr.routingTable (ipDst packet) with
  | none => rfl
  | some route =>
      simp only
      cases srGetInterface sr.ifList route.interface with
      | none => rfl
      | some outIface =>
          simp only
          generalize (if route.gw ≠ 0 then route.gw else ipDst packet) = ip
          rw [Prog.bind_def, Prog.run_bind, Prog.run_perform]
          simp only [exec]
          cases srArpcacheLookup s.cache ip with
          | some entry => rfl
          | none =>
              simp only
              rw [Prog.bind_def, Prog.run_bind, Prog.run_perform]
              simp only [exec, srArpcacheQueuereq, Store.missed]
              cases hfind : s.requests.find? fun r => r.ip == ip with
              | some r =>
                  have hr := List.mem_of_find?_eq_some hfind
                  have hip : r.ip = ip := by simpa using List.find?_some hfind
                  have hderef : (s.linkPacket r.addr ip origin (setEtherShost packet outIface.addr)
                      outIface.name).deref r.addr = some { r with
                        packets := s.nextPacket origin (setEtherShost packet outIface.addr)
                          outIface.name :: r.packets } := by
                    rw [Store.deref_linkPacket, halloc.deref_eq hr]
                    simp
                  refine (run_firstSend sr outIface hderef).trans ?_
                  simp only [hip, Store.now_linkPacket]
              | none =>
                  have hderef : ((s.newRequest ip).linkPacket s.heap ip origin
                      (setEtherShost packet outIface.addr) outIface.name).deref s.heap = some
                        { addr := s.heap, ip := ip, sent := 0, timesSent := 0,
                          packets := [(s.newRequest ip).nextPacket origin
                            (setEtherShost packet outIface.addr) outIface.name] } := by
                    simp [Store.deref]
                  refine (run_firstSend sr outIface hderef).trans ?_
                  simp only [if_true, Store.now_linkPacket, Store.now_newRequest]

/-! ### Additions to the history -/

/-- The history only grew from `s` to `s'`, by events with the property. -/
def Adds (P : Int × Event → Prop) (s s' : Store) : Prop :=
  ∃ rest, s'.log = s.log ++ rest ∧ ∀ e ∈ rest, P e

namespace Adds

variable {P : Int × Event → Prop} {s s' s'' : Store}

theorem of_log (h : s'.log = s.log) : Adds P s s' :=
  ⟨[], by rw [h, List.append_nil], fun _ h => absurd h List.not_mem_nil⟩

theorem single {e : Int × Event} (h : s'.log = s.log ++ [e]) (he : P e) : Adds P s s' :=
  ⟨[e], h, fun _ hq => List.mem_singleton.mp hq ▸ he⟩

theorem trans (h : Adds P s s') (h' : Adds P s' s'') : Adds P s s'' := by
  obtain ⟨rest, hrest, hP⟩ := h
  obtain ⟨rest', hrest', hP'⟩ := h'
  refine ⟨rest ++ rest', by rw [hrest', hrest, List.append_assoc], fun e he => ?_⟩
  obtain he | he := List.mem_append.mp he
  · exact hP e he
  · exact hP' e he

theorem asked {sr : Config} {ip : UInt32} {iface : Name}
    (h : ∀ outIface, srGetInterface sr.ifList iface = some outIface →
      P (s.now, .sendPacket .arpRequest iface (arpRequestFrame outIface ip)
        (srSendPacketRet sr (arpRequestFrame outIface ip) iface))) :
    Adds P s (s.asked sr ip iface) := by
  unfold Store.asked
  cases hget : srGetInterface sr.ifList iface with
  | none => exact .of_log rfl
  | some outIface => exact .single rfl (h outIface hget)

end Adds

/-! ### ICMP errors -/

/-- The message that `sr_send_icmp_error` builds, if it builds one. -/
def errorReply (sr : Config) (packet : Frame) (type code : UInt8) : Option Frame :=
  if srValidIpPacket packet then
    (srFindIcmpSourceIface sr packet (ipSrc packet)).map fun outIface =>
      icmpErrorFrame outIface packet type code
  else none

theorem exists_of_errorReply {sr : Config} {packet : Frame} {type code : UInt8} {reply : Frame}
    (h : errorReply sr packet type code = some reply) :
    ∃ outIface, srValidIpPacket packet ∧
      srFindIcmpSourceIface sr packet (ipSrc packet) = some outIface ∧
      reply = icmpErrorFrame outIface packet type code := by
  rw [errorReply] at h
  split at h
  · next hvalid =>
      obtain ⟨outIface, hiface, rfl⟩ := Option.map_eq_some_iff.mp h
      exact ⟨outIface, hvalid, hiface, rfl⟩
  · cases h

/-- What a call of `sr_send_icmp_error` leaves in the history before it
routes its message. -/
def Store.noted (s : Store) (sr : Config) (pkt : Option SrPacket) (packet : Frame)
    (type code : UInt8) : Store :=
  match errorReply sr packet type code with
  | none => s.trace (.icmpError pkt type code packet)
  | some reply => (s.trace (.icmpError pkt type code packet)).trace
      (.icmpReply type code packet reply)

@[elab_as_elim]
theorem Store.noted_cases {motive : Store → Prop} (s : Store) (sr : Config)
    (pkt : Option SrPacket) (packet : Frame) (type code : UInt8)
    (called : motive (s.trace (.icmpError pkt type code packet)))
    (built : ∀ reply, motive ((s.trace (.icmpError pkt type code packet)).trace
      (.icmpReply type code packet reply))) : motive (s.noted sr pkt packet type code) := by
  unfold Store.noted
  split
  · exact called
  · exact built _

/-- The effect of `sr_send_icmp_error`. -/
def Store.errored (s : Store) (sr : Config) (pkt : Option SrPacket) (packet : Frame)
    (type code : UInt8) : Store :=
  match errorReply sr packet type code with
  | none => s.noted sr pkt packet type code
  | some reply => (s.noted sr pkt packet type code).routed sr .icmpError reply

theorem run_srSendIcmpError (sr : Config) (pkt : Option SrPacket) (packet : Frame)
    (type code : UInt8) {s : Store} (halloc : s.Allocated) :
    ((srSendIcmpError sr pkt packet type code).run exec s).2 =
      s.errored sr pkt packet type code := by
  unfold srSendIcmpError
  rw [Prog.bind_def, Prog.run_bind, Prog.run_perform]
  simp only [exec, validIpPacketInPlace_eq, Store.errored, Store.noted, errorReply]
  cases srValidIpPacket packet with
  | false => rfl
  | true =>
      cases srFindIcmpSourceIface sr packet (ipSrc packet) with
      | none => rfl
      | some outIface =>
          simp only [Bool.not_true, Bool.false_eq_true, if_false, if_true, Option.map_some]
          rw [Prog.bind_def, Prog.run_bind, Prog.run_perform]
          exact run_srSendRoutedIpPacket sr .icmpError _ ⟨halloc.addr_nodup, halloc.addr_lt⟩

/-! ### Mappings -/

/-- What the flush of the queued packets of `ip` leaves in the history. -/
def flushEvents (sr : Config) (ip : UInt32) (mac : Mac) (packets : List SrPacket) : List Event :=
  packets.filterMap fun pkt => (srGetInterface sr.ifList pkt.iface).map fun outIface =>
    .sendPacket (.flush pkt ip mac) pkt.iface
      (setEtherShost (setEtherDhost pkt.buf mac) outIface.addr)
      (srSendPacketRet sr (setEtherShost (setEtherDhost pkt.buf mac) outIface.addr) pkt.iface)

/-- The effect of `sr_cache_arp_mapping`: the request for `ip` leaves the
queue, the mapping is stored, and the packets of the request are sent. -/
def Store.mapped (s : Store) (sr : Config) (mac : Mac) (ip : UInt32) : Store :=
  let r := srArpcacheInsert s.cache s.now mac ip
  { s with
    cache := r.2
    log := s.log ++ (s.now, .learned mac ip r.1) ::
      ((r.1.map SrArpreq.packets).getD [] |> flushEvents sr ip mac).map fun e => (s.now, e) }

namespace Store

variable {s : Store} {ip : UInt32} (sr : Config) (mac : Mac)

theorem requests_mapped_of_none (h : s.requests.find? (fun r => r.ip == ip) = none) :
    (s.mapped sr mac ip).requests = s.requests :=
  List.eraseP_of_forall_not fun r hr => List.find?_eq_none.mp h r hr

theorem log_mapped_of_none (h : s.requests.find? (fun r => r.ip == ip) = none) :
    (s.mapped sr mac ip).log = s.log ++ [(s.now, .learned mac ip none)] := by
  simp only [requests] at h
  simp [mapped, srArpcacheInsert, h, flushEvents]

theorem log_mapped_of_some {r : SrArpreq}
    (h : s.requests.find? (fun r => r.ip == ip) = some r) :
    (s.mapped sr mac ip).log = s.log ++ (s.now, .learned mac ip (some r)) ::
      (flushEvents sr ip mac r.packets).map fun e => (s.now, e) := by
  simp only [requests] at h
  simp [mapped, srArpcacheInsert, h]

end Store

theorem run_flushPackets (sr : Config) (ip : UInt32) (mac : Mac) (packets : List SrPacket)
    (s : Store) : ((flushPackets sr ip mac packets).run exec s).2 =
      { s with log := s.log ++ (flushEvents sr ip mac packets).map fun e => (s.now, e) } := by
  induction packets generalizing s with
  | nil => simp [flushPackets, flushEvents]
  | cons pkt packets ih =>
      rw [flushPackets]
      cases hget : srGetInterface sr.ifList pkt.iface with
      | none =>
          simp only [flushEvents, List.filterMap_cons, hget, Option.map_none]
          exact ih s
      | some outIface =>
          simp only [Prog.bind_def, Prog.run_bind]
          rw [ih]
          simp [srSendPacket, flushEvents, hget, Store.trace, exec]

theorem deref_eraseP {s : Store} (hwf : s.WF) {r : SrArpreq} (hr : r ∈ s.requests) :
    (s.requests.eraseP fun q => q.ip == r.ip).find? (fun q => q.addr == r.addr) = none := by
  rw [List.find?_eq_none]
  intro q hq
  obtain ⟨hmem, hip⟩ := (mem_eraseP_key hwf.ip_nodup).mp hq
  simp only [beq_iff_eq]
  exact fun haddr => hip (congrArg SrArpreq.ip (hwf.eq_of_addr hmem hr haddr))

theorem run_srCacheArpMapping (sr : Config) (packet : Frame) {s : Store} (hwf : s.WF) :
    ((srCacheArpMapping sr packet).run exec s).2 = s.mapped sr (arSha packet) (arSip packet) := by
  unfold srCacheArpMapping
  rw [Prog.bind_def, Prog.run_bind, Prog.run_perform]
  simp only [exec, Store.mapped, srArpcacheInsert]
  cases hfind : s.cache.requests.find? fun r => r.ip == arSip packet with
  | none => simp [flushEvents, Store.trace]
  | some req =>
      have hr := List.mem_of_find?_eq_some hfind
      have hip : req.ip = arSip packet := by simpa using List.find?_some hfind
      have hgone := deref_eraseP hwf hr
      rw [hip] at hgone
      simp only [Prog.bind_def, Prog.run_bind, run_flushPackets, Prog.run_perform, exec,
        srArpreqDestroy, Store.deref, Store.requests, Store.trace]
      simp only [Store.requests] at hgone
      simp [hgone]

/-! ### Transitions -/

/-- A packet that may be put on a wire or on the queue. An ICMP error of the
router passes the router's own checksum test and comes from one of its
addresses. -/
structure Ready (sr : Config) (origin : Origin) (packet : Frame) : Prop where
  valid : srValidIpPacket packet = true
  ethertype : ethertype packet = ethertypeIp
  sumOk : origin = .icmpError → icmpSumOk packet = true
  own : origin = .icmpError → srIsRouterIp sr.ifList (ipSrc packet) = true

theorem Ready.congr {sr : Config} {origin : Origin} {packet packet' : Frame}
    (h : Ready sr origin packet) (hbody : SameBody packet' packet) : Ready sr origin packet' where
  valid := hbody.valid h.valid
  ethertype := hbody.ethertype_eq.trans h.ethertype
  sumOk := fun ho => hbody.icmpSumOk (h.sumOk ho)
  own := fun ho => hbody.ipSrc_eq ▸ h.own ho

/-- Why `sr_send_icmp_error` is called on a packet that is not queued. -/
inductive Reason (sr : Config) : UInt8 → UInt8 → Frame → Prop
  | timeExceeded {packet : Frame} (hvalid : srValidIpPacket packet = true)
      (hdst : srIsRouterIp sr.ifList (ipDst packet) = false) (httl : ipTtl packet ≤ 1) :
      Reason sr 11 0 packet
  | noRoute {packet : Frame} (hvalid : srValidIpPacket packet = true)
      (hdst : srIsRouterIp sr.ifList (ipDst packet) = false)
      (hroute : srFindLpmRoute sr.routingTable (ipDst packet) = none) : Reason sr 3 0 packet
  | portUnreachable {packet : Frame} (hvalid : srValidIpPacket packet = true)
      (hdst : srIsRouterIp sr.ifList (ipDst packet) = true)
      (hproto : ipP packet = ipProtocolTcp ∨ ipP packet = ipProtocolUdp) : Reason sr 3 3 packet

/-- The replies that are sent without any routing. -/
inductive Reply (sr : Config) : Cause → Name → Frame → Prop
  | arp {packet : Frame} {iface : Name} {outIface : SrIf}
      (hget : srGetInterface sr.ifList iface = some outIface) :
      Reply sr .arpReply iface (arpReplyFrame outIface packet)
  | echo {packet : Frame} {iface : Name} {outIface : SrIf}
      (hget : srGetInterface sr.ifList iface = some outIface)
      (hvalid : srValidIpPacket packet = true) (htype : ethertype packet = ethertypeIp)
      (hicmp : ipHeaderLen packet + sizeofIcmpT08Hdr ≤ ipLen packet) :
      Reply sr .echoReply iface (echoReplyFrame outIface packet)

/-- Where the router is in a step: anywhere, or in the loop over the packets
of a request that is given up, with these left to report. -/
inductive Phase
  | idle
  | reporting (req : Addr) (packets : List SrPacket)

/-- Who may build packets in a phase. -/
def Phase.Admits : Phase → Origin → Prop
  | .idle, _ => True
  | .reporting .., origin => origin = .icmpError

/-- The transitions of the shared state. -/
inductive Transition (sr : Config) : Phase × Store → Phase × Store → Prop
  | replied {p : Phase} {s : Store} {cause : Cause} {iface : Name} {frame : Frame}
      (hreply : Reply sr cause iface frame) :
      Transition sr (p, s) (p, s.trace (.sendPacket cause iface frame
        (srSendPacketRet sr frame iface)))
  | errored {s : Store} {packet : Frame} {type code : UInt8}
      (hreason : Reason sr type code packet) :
      Transition sr (.idle, s) (.idle, s.noted sr none packet type code)
  | reported {s : Store} {req : Addr} {pkt : SrPacket} {packets : List SrPacket} :
      Transition sr (.reporting req (pkt :: packets), s)
        (.reporting req packets, s.noted sr (some pkt) pkt.buf 3 1)
  | sent {p : Phase} {s : Store} {origin : Origin} {packet : Frame} {outIface : SrIf} {ip : UInt32}
      {entry : SrArpentry} (hready : Ready sr origin packet) (hphase : p.Admits origin)
      (hhop : nextHop sr packet = some (outIface, ip))
      (hhit : srArpcacheLookup s.cache ip = some entry) :
      Transition sr (p, s) (p, s.trace (.sendPacket (.routed origin) outIface.name
        (addressed packet outIface entry.mac)
        (srSendPacketRet sr (addressed packet outIface entry.mac) outIface.name)))
  | linked {p : Phase} {s : Store} {origin : Origin} {packet : Frame} {outIface : SrIf}
      {r : SrArpreq} (hready : Ready sr origin packet) (hphase : p.Admits origin)
      (hhop : nextHop sr packet = some (outIface, r.ip))
      (hmiss : srArpcacheLookup s.cache r.ip = none) (hr : r ∈ s.requests)
      (hsent : r.timesSent ≠ 0) :
      Transition sr (p, s) (p, s.linkPacket r.addr r.ip origin
        (setEtherShost packet outIface.addr) outIface.name)
  | linkedFirst {p : Phase} {s : Store} {origin : Origin} {packet : Frame} {outIface : SrIf}
      {r : SrArpreq} (hready : Ready sr origin packet) (hphase : p.Admits origin)
      (hhop : nextHop sr packet = some (outIface, r.ip))
      (hmiss : srArpcacheLookup s.cache r.ip = none) (hr : r ∈ s.requests)
      (hsent : r.timesSent = 0) :
      Transition sr (p, s) (p, ((s.linkPacket r.addr r.ip origin
        (setEtherShost packet outIface.addr) outIface.name).asked sr r.ip outIface.name).retried
          r.addr s.now)
  | created {p : Phase} {s : Store} {origin : Origin} {packet : Frame} {outIface : SrIf}
      {ip : UInt32} (hready : Ready sr origin packet) (hphase : p.Admits origin)
      (hhop : nextHop sr packet = some (outIface, ip))
      (hmiss : srArpcacheLookup s.cache ip = none)
      (hnew : s.requests.find? (fun r => r.ip == ip) = none) :
      Transition sr (p, s) (p, (((s.newRequest ip).linkPacket s.heap ip origin
        (setEtherShost packet outIface.addr) outIface.name).asked sr ip outIface.name).retried
          s.heap s.now)
  | retried {s : Store} {r : SrArpreq} {pkt : SrPacket} {packets : List SrPacket}
      (hr : r ∈ s.requests) (hdue : s.now - r.sent ≥ 1) (hfew : r.timesSent < 5)
      (hpkts : r.packets = pkt :: packets) :
      Transition sr (.idle, s) (.idle, (s.asked sr r.ip pkt.iface).retried r.addr s.now)
  | givenUp {s : Store} {r : SrArpreq} (hr : r ∈ s.requests) (hdue : s.now - r.sent ≥ 1)
      (hmany : 5 ≤ r.timesSent) : Transition sr (.idle, s) (.reporting r.addr r.packets, s)
  | destroyed {s : Store} {req : Addr} :
      Transition sr (.reporting req [], s) (.idle, srArpreqDestroy s req)
  | mapped {s : Store} (mac : Mac) (ip : UInt32) :
      Transition sr (.idle, s) (.idle, s.mapped sr mac ip)
  | expired {s : Store} :
      Transition sr (.idle, s) (.idle, { s with cache := srArpcacheExpire s.cache s.now })

/-! ### What the transitions build -/

theorem asked_eq {sr : Config} {packet : Frame} {outIface : SrIf} {ip : UInt32}
    (h : nextHop sr packet = some (outIface, ip)) (s : Store) (ip' : UInt32) :
    s.asked sr ip' outIface.name = s.trace (.sendPacket .arpRequest outIface.name
      (arpRequestFrame outIface ip')
      (srSendPacketRet sr (arpRequestFrame outIface ip') outIface.name)) := by
  rw [Store.asked, srGetInterface_of_nextHop h]

@[simp] theorem Store.requests_asked (s : Store) (sr : Config) (ip : UInt32) (iface : Name) :
    (s.asked sr ip iface).requests = s.requests :=
  s.asked_cases sr ip iface rfl fun _ _ => rfl

@[simp] theorem Store.heap_asked (s : Store) (sr : Config) (ip : UInt32) (iface : Name) :
    (s.asked sr ip iface).heap = s.heap :=
  s.asked_cases sr ip iface rfl fun _ _ => rfl

@[simp] theorem Store.entries_asked (s : Store) (sr : Config) (ip : UInt32) (iface : Name) :
    (s.asked sr ip iface).cache.entries = s.cache.entries :=
  s.asked_cases sr ip iface rfl fun _ _ => rfl

@[simp] theorem Store.requests_noted (s : Store) (sr : Config) (pkt : Option SrPacket)
    (packet : Frame) (type code : UInt8) :
    (s.noted sr pkt packet type code).requests = s.requests :=
  s.noted_cases sr pkt packet type code rfl fun _ => rfl

@[simp] theorem Store.heap_noted (s : Store) (sr : Config) (pkt : Option SrPacket)
    (packet : Frame) (type code : UInt8) : (s.noted sr pkt packet type code).heap = s.heap :=
  s.noted_cases sr pkt packet type code rfl fun _ => rfl

@[simp] theorem Store.entries_noted (s : Store) (sr : Config) (pkt : Option SrPacket)
    (packet : Frame) (type code : UInt8) :
    (s.noted sr pkt packet type code).cache.entries = s.cache.entries :=
  s.noted_cases sr pkt packet type code rfl fun _ => rfl

@[simp] theorem Store.now_noted (s : Store) (sr : Config) (pkt : Option SrPacket)
    (packet : Frame) (type code : UInt8) : (s.noted sr pkt packet type code).now = s.now :=
  s.noted_cases sr pkt packet type code rfl fun _ => rfl

theorem requests_created {s : Store} (halloc : s.Allocated) (sr : Config) (ip : UInt32)
    (origin : Origin) (buf : Frame) (iface iface' : Name) :
    ((((s.newRequest ip).linkPacket s.heap ip origin buf iface).asked sr ip iface').retried
      s.heap s.now).requests =
      { addr := s.heap, ip := ip, sent := s.now, timesSent := 1,
        packets := [(s.newRequest ip).nextPacket origin buf iface] } :: s.requests := by
  simp only [Store.retried, Store.requests_update, Store.requests_asked,
    Store.requests_linkPacket, Store.requests_newRequest, List.map_cons, if_true,
    halloc.map_fresh, Nat.zero_add]

theorem requests_linkedFirst (s : Store) (sr : Config) (req : Addr) (ip ip' : UInt32)
    (origin : Origin) (buf : Frame) (iface iface' : Name) (now : Int) :
    (((s.linkPacket req ip origin buf iface).asked sr ip' iface').retried req now).requests =
      s.requests.map fun r => if r.addr = req then
        { r with sent := now, timesSent := r.timesSent + 1,
                 packets := s.nextPacket origin buf iface :: r.packets } else r := by
  simp only [Store.retried, Store.requests_update, Store.requests_asked,
    Store.requests_linkPacket, List.map_map]
  refine List.map_congr_left fun r _ => ?_
  by_cases hr : r.addr = req <;> simp [hr]

abbrev Path (sr : Config) : Phase × Store → Phase × Store → Prop :=
  Relation.ReflTransGen (Transition sr)

namespace Store.WF

variable {s : Store} {sr : Config}

theorem asked (h : s.WF) (ip : UInt32) (iface : Name) : (s.asked sr ip iface).WF :=
  s.asked_cases sr ip iface h fun _ _ => h.trace _

theorem retried (h : s.WF) (req : Addr) (now : Int) : (s.retried req now).WF :=
  h.update (fun _ => rfl) (fun _ => rfl) fun _ hne => hne

theorem noted (h : s.WF) (pkt : Option SrPacket) (packet : Frame) (type code : UInt8) :
    (s.noted sr pkt packet type code).WF :=
  s.noted_cases sr pkt packet type code (h.trace _) fun _ => (h.trace _).trace _

theorem setNow (h : s.WF) (now : Int) : (s.setNow now).WF := h.congr rfl rfl

theorem mapped (h : s.WF) (mac : Mac) (ip : UInt32) : (s.mapped sr mac ip).WF :=
  h.sublist List.eraseP_sublist rfl

end Store.WF

/-- Every transition keeps the queue well formed. -/
theorem Transition.wf {sr : Config} {c c' : Phase × Store} (h : Transition sr c c')
    (hwf : c.2.WF) : c'.2.WF := by
  cases h with
  | replied => exact hwf.trace _
  | errored => exact hwf.noted ..
  | reported => exact hwf.noted ..
  | sent => exact hwf.trace _
  | linked => exact hwf.linkPacket ..
  | linkedFirst => exact ((hwf.linkPacket ..).asked ..).retried ..
  | created _ _ _ _ hnew => exact ((hwf.newRequest_linkPacket hnew ..).asked ..).retried ..
  | retried => exact (hwf.asked ..).retried ..
  | givenUp => exact hwf
  | destroyed => exact hwf.srArpreqDestroy _
  | mapped => exact hwf.mapped ..
  | expired => exact hwf.congr rfl rfl

/-- **The path rule.** What every transition between well-formed queues
keeps, every path keeps. -/
theorem Path.invariant {sr : Config} {I : Phase × Store → Prop}
    (hstep : ∀ c c', c.2.WF → Transition sr c c' → I c → I c') {c c' : Phase × Store}
    (hpath : Path sr c c') (hwf : c.2.WF) (h : I c) : I c' ∧ c'.2.WF := by
  induction hpath with
  | refl => exact ⟨h, hwf⟩
  | tail _ ht ih => exact ⟨hstep _ _ ih.2 ht ih.1, ht.wf ih.2⟩

theorem Path.wf {sr : Config} {c c' : Phase × Store} (hpath : Path sr c c') (hwf : c.2.WF) :
    c'.2.WF := (hpath.invariant (I := fun _ => True) (fun _ _ _ _ _ => trivial) hwf trivial).2

end SrRouter
