import SrRouter.Threads
import SrRouter.HwInfo

/-!
Routes whose interface exists.

`sr_verify_routing_table` looks for the interface of every route once, when a
VNSHWINFO message has been handled. From then on every lookup of a route or of
a queued packet finds an interface: later messages only add to the list, and
the names that are stored with packets are those of interfaces that were
found. Nothing of this depends on the granularity of the steps, so the passes
of the timer thread may fall between any two operations of a frame.
-/

namespace SrRouter

open ByteBuffer CString Interactive

/-! ### The check -/

/-- What the nested walk of `sr_verify_routing_table` checks is what
`sr_get_interface` looks for. -/
theorem srVerifyRoutingTable_eq_zero {sr : Config} (h : srVerifyRoutingTable sr = 0) :
    ∀ rt ∈ sr.routingTable, (srGetInterface sr.ifList rt.interface).isSome := by
  unfold srVerifyRoutingTable at h
  split at h
  · cases h
  · intro rt hrt
    have hfound := List.countP_eq_zero.mp h rt hrt
    simpa [srGetInterface, List.find?_isSome] using hfound

/-- When the loop goes on after a VNSHWINFO message, the routes were verified. -/
theorem Message.verified_of_dispatch {msg : Message} {c : Circumstances} {sr sr' : SrInstance}
    (hcommand : msg.command = vnsHwinfo) (h : msg.dispatch c sr = some (1, sr')) :
    srVerifyRoutingTable sr'.config = 0 := by
  rw [dispatch, hcommand, if_neg (by decide), if_neg (by decide), if_neg (by decide),
    if_pos rfl] at h
  split at h
  · cases h
  · simp only [Option.some.injEq, Prod.mk.injEq] at h
    obtain ⟨hret, rfl⟩ := h
    by_contra hne
    rw [if_pos hne] at hret
    cases hret

/-! ### Packets are queued for interfaces that exist -/

/-- A packet is only queued for an interface of the list that the program
began with. -/
def namesInterfaces : Discipline Res (List SrIf) where
  guard
    | ifList, .queuereq _ _ _ iface => (srGetInterface ifList iface).isSome
    | _, _ => True
  next ifList _ _ := ifList

abbrev Names (ifList : List SrIf) (p : Program) : Prop :=
  p.Obeys namesInterfaces (fun ifList' _ => ifList' = ifList) ifList

theorem Names.bind {ifList : List SrIf} {p q : Program} (hp : Names ifList p)
    (hq : Names ifList q) : Names ifList (p.bind fun _ => q) := by
  refine Prog.Obeys.bind hp ?_
  rintro _ _ rfl
  exact hq

section Names

variable (sr : Config)

theorem names_done : Names sr.ifList (.pure ()) := rfl

theorem names_srSendPacket (cause : Cause) (buf : Frame) (iface : Name) :
    Names sr.ifList (srSendPacket sr cause buf iface) := ⟨trivial, fun _ => rfl⟩

theorem names_sendArpRequest (ip : UInt32) (iface : Name) :
    Names sr.ifList (sendArpRequest sr ip iface) := by
  unfold sendArpRequest
  split
  · exact names_done sr
  · exact names_srSendPacket sr ..

theorem names_srSendRoutedIpPacket (origin : Origin) (packet : Frame) :
    Names sr.ifList (srSendRoutedIpPacket sr origin packet) := by
  unfold srSendRoutedIpPacket
  split
  · exact names_done sr
  · split
    · exact names_done sr
    · next outIface hget =>
        refine ⟨trivial, fun entry => ?_⟩
        cases entry with
        | some entry => exact names_srSendPacket sr ..
        | none =>
            -- the one place where a packet is queued
            refine ⟨?_, fun req => ⟨trivial, fun r => ?_⟩⟩
            · simp [namesInterfaces, srGetInterface_name hget]
            · simp only [Prog.pure_bind]
              by_cases hzero : r.timesSent = 0
              · rw [if_pos hzero]
                refine ⟨trivial, fun r => (names_sendArpRequest sr r.ip outIface.name).bind ?_⟩
                exact ⟨trivial, fun _ => ⟨trivial, fun _ => ⟨trivial, fun _ => rfl⟩⟩⟩
              · rw [if_neg hzero]
                exact names_done sr

theorem names_srSendIcmpError (pkt : Option SrPacket) (packet : Frame) (type code : UInt8) :
    Names sr.ifList (srSendIcmpError sr pkt packet type code) := by
  refine ⟨trivial, fun _ => ?_⟩
  simp only [Prog.pure_bind]
  split
  · exact names_done sr
  · split
    · exact names_done sr
    · exact ⟨trivial, fun _ => names_srSendRoutedIpPacket sr ..⟩

theorem names_srHandleIp (packet : Frame) (interface : Name) :
    Names sr.ifList (srHandleIp sr packet interface) := by
  unfold srHandleIp srSendIcmpEchoReply srForwardIpPacket
  simp only
  split
  · exact names_done sr
  · split
    · split
      · split
        · split
          · exact names_done sr
          · exact names_srSendPacket sr ..
        · exact names_done sr
      · split
        · exact names_srSendIcmpError sr ..
        · exact names_done sr
    · split
      · exact names_srSendIcmpError sr ..
      · split
        · exact names_srSendIcmpError sr ..
        · exact names_srSendRoutedIpPacket sr ..

theorem names_flushPackets (ip : UInt32) (mac : Mac) (packets : List SrPacket) :
    Names sr.ifList (flushPackets sr ip mac packets) := by
  induction packets with
  | nil => exact names_done sr
  | cons pkt packets ih =>
      unfold flushPackets
      cases srGetInterface sr.ifList pkt.iface with
      | none => exact ih
      | some outIface => exact ⟨trivial, fun _ => ih⟩

theorem names_srCacheArpMapping (packet : Frame) :
    Names sr.ifList (srCacheArpMapping sr packet) := by
  refine ⟨trivial, fun req => ?_⟩
  cases req with
  | none => exact names_done sr
  | some req =>
      exact (names_flushPackets sr (arSip packet) (arSha packet) req.packets).bind
        ⟨trivial, fun _ => rfl⟩

theorem names_srHandleArp (packet : Frame) (interface : Name) :
    Names sr.ifList (srHandleArp sr packet interface) := by
  unfold srHandleArp srSendArpReply
  split
  · exact names_done sr
  · split
    · exact names_done sr
    · split
      · exact names_done sr
      · split
        · refine (names_srCacheArpMapping sr packet).bind ?_
          split
          · split
            · exact names_done sr
            · exact names_srSendPacket sr ..
          · exact names_done sr
        · split
          · split
            · exact names_done sr
            · exact names_srCacheArpMapping sr packet
          · exact names_done sr

theorem names_srHandlepacket (packet : Frame) (interface : Name) :
    Names sr.ifList (srHandlepacket sr packet interface) := by
  unfold srHandlepacket
  split
  · exact names_done sr
  · split
    · exact names_srHandleArp sr packet interface
    · split
      · exact names_srHandleIp sr packet interface
      · exact names_done sr

theorem names_reportPackets (packets : List SrPacket) :
    Names sr.ifList (reportPackets sr packets) := by
  induction packets with
  | nil => exact names_done sr
  | cons pkt packets ih => exact (names_srSendIcmpError sr (some pkt) pkt.buf 3 1).bind ih

theorem names_handleArpreq (now : Int) (req : Addr) :
    Names sr.ifList (handleArpreq sr now req) := by
  refine ⟨trivial, fun r => ?_⟩
  simp only [Prog.pure_bind]
  split
  · split
    · exact (names_reportPackets sr r.packets).bind ⟨trivial, fun _ => rfl⟩
    · split
      · exact names_done sr
      · exact (names_sendArpRequest sr ..).bind ⟨trivial, fun _ => ⟨trivial, fun _ => rfl⟩⟩
  · exact names_done sr

end Names

/-- The interface of every queued packet is on the list. -/
def PacketsResolve (ifList : List SrIf) (s : Store) : Prop :=
  ∀ r ∈ s.requests, ∀ pkt ∈ r.packets, (srGetInterface ifList pkt.iface).isSome

namespace PacketsResolve

variable {ifList : List SrIf} {s s' : Store}

theorem of_subset (h : PacketsResolve ifList s) (hsub : s'.requests ⊆ s.requests) :
    PacketsResolve ifList s' := fun r hr => h r (hsub hr)

theorem update (h : PacketsResolve ifList s) (req : Addr) {f : SrArpreq → SrArpreq}
    (hf : ∀ r, ∀ pkt ∈ (f r).packets,
      pkt ∈ r.packets ∨ (srGetInterface ifList pkt.iface).isSome) :
    PacketsResolve ifList (s.update req f) := by
  intro r hr pkt hpkt
  rw [Store.requests_update] at hr
  obtain ⟨q, hq, rfl⟩ := List.mem_map.mp hr
  split at hpkt
  · exact (hf q pkt hpkt).elim (h q hq pkt) id
  · exact h q hq pkt hpkt

theorem linkPacket (h : PacketsResolve ifList s) {iface : Name}
    (hiface : (srGetInterface ifList iface).isSome) (req : Addr) (ip : UInt32) (origin : Origin)
    (buf : Frame) : PacketsResolve ifList (s.linkPacket req ip origin buf iface) := by
  have hpkt : (srGetInterface ifList (s.nextPacket origin buf iface).iface).isSome :=
    (srGetInterface_strncpy ifList iface).symm ▸ hiface
  refine (h.update req (f := fun r =>
    { r with packets := s.nextPacket origin buf iface :: r.packets }) fun r pkt hmem => ?_)
  obtain rfl | hmem := List.mem_cons.mp hmem
  · exact .inr hpkt
  · exact .inl hmem

theorem exec (h : PacketsResolve ifList s) {o : Op} (hguard : namesInterfaces.guard ifList o) :
    PacketsResolve ifList (SrRouter.exec o s).2 := by
  cases o with
  | lookup | readRequest | time | trace => exact h
  | queuereq ip origin buf iface =>
      simp only [SrRouter.exec, srArpcacheQueuereq]
      split
      · exact h.linkPacket hguard _ ip origin buf
      · have hnew : PacketsResolve ifList (s.newRequest ip) :=
          List.forall_mem_cons.mpr ⟨fun _ hpkt => absurd hpkt List.not_mem_nil, h⟩
        exact hnew.linkPacket hguard s.heap ip origin buf
  | insert mac ip => exact h.of_subset List.eraseP_sublist.subset
  | destroy req =>
      refine Store.srArpreqDestroy_cases (motive := PacketsResolve ifList) s req ?_ ?_
      · exact fun _ => h
      · exact fun _ => h.of_subset List.eraseP_sublist.subset
  | writeSent req sent => exact h.update req fun _ _ hpkt => .inl hpkt
  | incTimesSent req => exact h.update req fun _ _ hpkt => .inl hpkt

/-- **Any program of the two threads.** -/
theorem run (h : PacketsResolve ifList s) {p : Program} (hp : Names ifList p) :
    PacketsResolve ifList (p.run SrRouter.exec s).2 := by
  obtain ⟨_, hrun, rfl⟩ := Prog.Obeys.run (I := fun ifList s => PacketsResolve ifList s)
    (fun _ _ _ hs hguard => hs.exec hguard) hp h
  exact hrun

theorem srArpcacheTimeout {sr : Config} (h : PacketsResolve sr.ifList s) :
    PacketsResolve sr.ifList (srArpcacheTimeout sr s) := by
  refine SavedNext.loop_invariant (I := PacketsResolve sr.ifList) ?_ _ _
    (h.of_subset (List.Subset.refl _))
  exact fun _ req hs => hs.run (names_handleArpreq sr _ req)

theorem mono (h : PacketsResolve ifList s) {ifList' : List SrIf}
    (hext : Extends ifList ifList') : PacketsResolve ifList' s :=
  fun r hr pkt hpkt => srGetInterface_isSome_of_extends hext (h r hr pkt hpkt)

end PacketsResolve

/-! ### The main loop -/

/-- What falls between the operations of a frame, and between two messages. The
loop ends with the first message that does not return 1; that message is among
these too, and nothing depends on what would follow. -/
inductive Servicing : Program → SrInstance → SrInstance → Prop
  | timer {p : Program} {sr : SrInstance} (now : Int) : Servicing p sr (sr.step (.timer now))
  | clock {p : Program} {sr : SrInstance} (now : Int) :
      Servicing p sr { sr with store := sr.store.setNow now }
  /-- A message is dispatched from start to end. -/
  | message {sr sr' : SrInstance} {ret : Int} (c : Circumstances) (msg : Message)
      (h : msg.dispatch c sr = some (ret, sr')) : Servicing (.pure ()) sr sr'

/-- The loop of `main`, with a packet handled one operation at a time, and the
timer thread. -/
def mainLoop : World Res SrInstance :=
  { threads anyPass with
    env := Servicing
    start := fun sr p => ∃ msg : Message, msg.command = vnsPacket ∧
      (msg.srArpReqNotForUs sr.config.ifList).1 = some false ∧
      p = srHandlepacket sr.config msg.frame (msg.string 8) }

/-- Queued packets are for interfaces that exist, and so are the routes once they
were verified. `ifList` is the list that the packet thread works with. -/
structure Resolving (verified : Prop) (ifList : List SrIf) (sr : SrInstance) : Prop where
  known : Extends ifList sr.config.ifList
  packets : PacketsResolve sr.config.ifList sr.store
  routes : verified → ∀ rt ∈ sr.config.routingTable,
    (srGetInterface sr.config.ifList rt.interface).isSome

namespace Resolving

variable {verified : Prop} {ifList : List SrIf} {sr sr' : SrInstance}

/-- **A step of the router.** A frame handled from start to end, a pass of the
timer thread, or a VNSHWINFO message. -/
theorem step (h : Resolving verified ifList sr) (a : Action) :
    Resolving verified ifList (sr.step a) := by
  have hext := sr.step_extends a
  refine ⟨h.known.trans hext, ?_, fun hverified rt hrt => ?_⟩
  · cases a with
    | recv now packet interface =>
        exact PacketsResolve.run (s := sr.store.setNow now) h.packets
          (names_srHandlepacket sr.config packet interface)
    | timer now => exact PacketsResolve.srArpcacheTimeout (s := sr.store.setNow now) h.packets
    | hwinfo mem entries =>
        rw [SrInstance.step_hwinfo_store]
        exact h.packets.mono hext
  · rw [SrInstance.step_routingTable] at hrt
    exact srGetInterface_isSome_of_extends hext (h.routes hverified rt hrt)

theorem exec (h : Resolving verified ifList sr) {o : Op}
    (hguard : namesInterfaces.guard ifList o) :
    Resolving verified ifList { sr with store := (SrRouter.exec o sr.store).2 } := by
  refine ⟨h.known, h.packets.exec ?_, h.routes⟩
  cases o with
  | queuereq ip origin buf iface => exact srGetInterface_isSome_of_extends h.known hguard
  | lookup | insert | destroy | readRequest | writeSent | incTimesSent | time | trace => trivial

theorem servicing (h : Resolving verified ifList sr) {p : Program} (henv : Servicing p sr sr') :
    Resolving verified ifList sr' := by
  cases henv with
  | timer now => exact h.step (.timer now)
  | clock now => exact ⟨h.known, h.packets, h.routes⟩
  | message c msg hdispatch =>
      obtain rfl | ⟨a, rfl⟩ := Message.dispatch_cases hdispatch
      · exact h
      · exact h.step a

/-- **The run rule.** -/
theorem reaches {c c' : Conf Res SrInstance} (hreach : Interleaved.Reaches mainLoop c c')
    (hidle : c.prog = .pure ()) (h : Resolving verified c.state.config.ifList c.state) :
    ∃ ifList, Resolving verified ifList c'.state := by
  have hwithin : c.Within namesInterfaces (fun _ => True) (Resolving verified) :=
    ⟨_, h, hidle ▸ trivial⟩
  -- a frame is handled with the list as it is when it arrives
  have hstart (ifList : List SrIf) (sr : SrInstance) (p : Program)
      (h : Resolving verified ifList sr) (hp : mainLoop.start sr p) :
      ∃ ifList', Resolving verified ifList' sr ∧
        p.Obeys namesInterfaces (fun _ _ => True) ifList' := by
    obtain ⟨msg, -, -, rfl⟩ := hp
    exact ⟨sr.config.ifList, ⟨.refl _, h.packets, h.routes⟩,
      (names_srHandlepacket sr.config msg.frame (msg.string 8)).mono fun _ _ _ => trivial⟩
  obtain ⟨ifList, hresolving, -⟩ := Interleaved.invariant
    (fun _ _ _ h hguard _ => h.exec hguard) (fun _ _ _ _ h _ _ => h)
    (fun _ _ _ _ h _ henv => h.servicing henv) (fun ifList sr p h _ hp => hstart ifList sr p h hp)
    hwithin hreach
  exact ⟨ifList, hresolving⟩

end Resolving

/-! ### The exits -/

/-- `sr_send_routed_ip_packet` with `exit` for a route whose interface does not
exist. -/
def srSendRoutedIpPacketOr (exit : Program) (sr : Config) (origin : Origin) (packet : Frame) :
    Program :=
  match srFindLpmRoute sr.routingTable (ipDst packet) with
  | none => pure ()
  | some route =>
    match srGetInterface sr.ifList route.interface with
    | none => exit
    | some _ => srSendRoutedIpPacket sr origin packet

/-- The loop of `sr_cache_arp_mapping` with `exit` for a packet whose interface
does not exist. -/
def flushPacketsOr (exit : Program) (sr : Config) (ip : UInt32) (mac : Mac) :
    List SrPacket → Program
  | [] => pure ()
  | pkt :: packets => do
    match srGetInterface sr.ifList pkt.iface with
    | none => exit
    | some outIface =>
      let buf := setEtherShost (setEtherDhost pkt.buf mac) outIface.addr
      srSendPacket sr (.flush pkt ip mac) buf pkt.iface
    flushPacketsOr exit sr ip mac packets

/-- A route that exists leads through an interface that exists. -/
theorem srSendRoutedIpPacketOr_eq {sr : Config}
    (h : ∀ rt ∈ sr.routingTable, (srGetInterface sr.ifList rt.interface).isSome) (exit : Program)
    (origin : Origin) (packet : Frame) :
    srSendRoutedIpPacketOr exit sr origin packet = srSendRoutedIpPacket sr origin packet := by
  unfold srSendRoutedIpPacketOr
  cases hroute : srFindLpmRoute sr.routingTable (ipDst packet) with
  | none => rw [srSendRoutedIpPacket, hroute]
  | some route =>
      obtain ⟨outIface, hget⟩ :=
        Option.isSome_iff_exists.mp (h route (mem_of_srFindLpmRoute hroute))
      simp only [hget]

/-- Packets that resolve are all sent. -/
theorem flushPacketsOr_eq {sr : Config} {packets : List SrPacket}
    (h : ∀ pkt ∈ packets, (srGetInterface sr.ifList pkt.iface).isSome) (exit : Program)
    (ip : UInt32) (mac : Mac) :
    flushPacketsOr exit sr ip mac packets = flushPackets sr ip mac packets := by
  induction packets with
  | nil => rfl
  | cons pkt packets ih =>
      obtain ⟨hpkt, hpackets⟩ := List.forall_mem_cons.mp h
      obtain ⟨outIface, hget⟩ := Option.isSome_iff_exists.mp hpkt
      rw [flushPacketsOr, flushPackets, ih hpackets]
      simp only [hget]

theorem exists_mem_flushEvents {sr : Config} {packets : List SrPacket} {pkt : SrPacket}
    (hpkt : pkt ∈ packets) (h : (srGetInterface sr.ifList pkt.iface).isSome) (ip : UInt32)
    (mac : Mac) : ∃ frame ret,
      Event.sendPacket (.flush pkt ip mac) pkt.iface frame ret ∈ flushEvents sr ip mac packets := by
  obtain ⟨outIface, hget⟩ := Option.isSome_iff_exists.mp h
  exact ⟨_, _, List.mem_filterMap.mpr ⟨pkt, hpkt, by rw [hget, Option.map_some]⟩⟩

theorem Adds.length_le {P : Int × Event → Prop} {s s' : Store} (h : Adds P s s') :
    s.log.length ≤ s'.log.length := by
  obtain ⟨rest, hlog, -⟩ := h
  rw [hlog, List.length_append]
  omega

theorem routed_ne {s : Store} {sr : Config} {origin : Origin} {packet : Frame} {outIface : SrIf}
    {ip : UInt32} (hhop : nextHop sr packet = some (outIface, ip)) :
    s.routed sr origin packet ≠ s := by
  suffices hlog : s.log.length < (s.routed sr origin packet).log.length from
    fun heq => absurd hlog (by rw [heq]; omega)
  have hasked (t : Store) (ip : UInt32) (iface : Name) :
      t.log.length ≤ (t.asked sr ip iface).log.length :=
    (Adds.asked (P := fun _ => True) fun _ _ => trivial).length_le
  refine s.routed_cases sr origin packet ?_ ?_ ?_ ?_ ?_
  · intro hstuck
    rw [hhop] at hstuck
    cases hstuck
  · exact fun _ _ _ _ _ => by simp
  · exact fun _ _ _ _ _ _ => by simp
  · intro outIface r _ _ _ _
    have hlinked := hasked (s.linkPacket r.addr r.ip origin
      (setEtherShost packet outIface.addr) outIface.name) r.ip outIface.name
    simp only [Store.log_linkPacket, List.length_append, List.length_singleton] at hlinked
    simp only [Store.retried, Store.log_update]
    omega
  · intro outIface ip _ _ _
    have hlinked := hasked ((s.newRequest ip).linkPacket s.heap ip origin
      (setEtherShost packet outIface.addr) outIface.name) ip outIface.name
    simp only [Store.log_linkPacket, Store.log_newRequest, List.length_append,
      List.length_singleton] at hlinked
    simp only [Store.retried, Store.log_update]
    omega

/-- **Verified routes stay resolvable.** In every state after a VNSHWINFO
message that the loop survived, the interface of every route is found. No
packet is lost for the want of one, whatever stands at the exits for that:
packets with a route are sent or queued, and packets whose next hop becomes
known are handed to `sr_send_packet`. -/
theorem verified_routes_resolve (config : Config) (now : Int) {sr₀ sr₁ : SrInstance}
    {msg : Message} {c : Circumstances} {conf : Conf Res SrInstance}
    (hbefore : Interleaved.Reaches mainLoop (atInit config now) ⟨.pure (), sr₀⟩)
    (hcommand : msg.command = vnsHwinfo) (hdispatch : msg.dispatch c sr₀ = some (1, sr₁))
    (hafter : Interleaved.Reaches mainLoop ⟨.pure (), sr₁⟩ conf) :
    let sr := conf.state.config
    (∀ rt ∈ sr.routingTable, ∃ i, srGetInterface sr.ifList rt.interface = some i) ∧
    (∀ origin packet,
      (∀ exit, srSendRoutedIpPacketOr exit sr origin packet =
        srSendRoutedIpPacket sr origin packet) ∧
      (srFindLpmRoute sr.routingTable (ipDst packet) ≠ none → ∀ s : Store, s.Allocated →
        ((srSendRoutedIpPacket sr origin packet).run exec s).2 ≠ s)) ∧
    ∀ mac ip req, (exec (.insert mac ip) conf.state.store).1 = some req →
      (∀ exit, flushPacketsOr exit sr ip mac req.packets = flushPackets sr ip mac req.packets) ∧
      ∀ pkt ∈ req.packets, ∀ s : Store, ∃ frame ret,
        (s.now, Event.sendPacket (.flush pkt ip mac) pkt.iface frame ret) ∈
          ((flushPackets sr ip mac req.packets).run exec s).2.log := by
  have hinit : Resolving False config.ifList (SrInstance.init config now) :=
    ⟨.refl _, fun _ hr => absurd hr List.not_mem_nil, False.elim⟩
  obtain ⟨_, hsr₀⟩ := Resolving.reaches hbefore rfl hinit
  have hsr₁ := hsr₀.servicing (.message c msg hdispatch)
  have hverified := srVerifyRoutingTable_eq_zero (Message.verified_of_dispatch hcommand hdispatch)
  have hstart : Resolving True sr₁.config.ifList sr₁ :=
    ⟨.refl _, hsr₁.packets, fun _ => hverified⟩
  obtain ⟨_, hsr⟩ := Resolving.reaches hafter rfl hstart
  have hroutes := hsr.routes trivial
  refine ⟨fun rt hrt => Option.isSome_iff_exists.mp (hroutes rt hrt), ?_, ?_⟩
  · intro origin packet
    refine ⟨fun exit => srSendRoutedIpPacketOr_eq hroutes exit origin packet, ?_⟩
    intro hsome s halloc
    obtain ⟨route, hroute⟩ := Option.ne_none_iff_exists'.mp hsome
    obtain ⟨outIface, hget⟩ :=
      Option.isSome_iff_exists.mp (hroutes route (mem_of_srFindLpmRoute hroute))
    rw [run_srSendRoutedIpPacket _ _ _ halloc]
    exact routed_ne (nextHop_eq_some hroute hget)
  · intro mac ip req hreq
    have hpackets := hsr.packets req (List.mem_of_find?_eq_some hreq)
    refine ⟨fun exit => flushPacketsOr_eq hpackets exit ip mac, fun pkt hpkt s => ?_⟩
    obtain ⟨frame, ret, hmem⟩ := exists_mem_flushEvents hpkt (hpackets pkt hpkt) ip mac
    refine ⟨frame, ret, ?_⟩
    rw [run_flushPackets]
    exact List.mem_append_right _ (List.mem_map_of_mem hmem)

def twoNames : Message where
  bytes := [0, 0, 0, 80, 0, 0, 0, 16] ++ [0, 0, 0, 1, 101, 116, 104, 49] ++ List.replicate 28 0 ++
    [0, 0, 0, 1, 101, 116, 104, 50] ++ List.replicate 28 0
  length_le := by decide

def crossingMessage : Message where
  bytes := [0, 0, 0, 58, 0, 0, 0, 4, 101, 116, 104, 50] ++ List.replicate 12 0 ++ crossingFrame
  length_le := by decide

/-- The router that has its routes, but no interfaces yet. -/
def nameless : SrInstance := .init ⟨[], twoNetworks.routingTable⟩ 0

def named : SrInstance := nameless.step (.hwinfo someCircumstances.mem twoNames.hwEntries)

theorem dispatch_twoNames : twoNames.dispatch someCircumstances nameless = some (1, named) := rfl

theorem dispatch_crossingMessage : crossingMessage.dispatch someCircumstances named =
    some (1, named.step (.recv 0 crossingMessage.frame (crossingMessage.string 8))) := rfl

/-- The packet that comes after the names waits for its next hop. -/
theorem verified_routes_resolve_twoNames :
    let sr := named.step (.recv 0 crossingMessage.frame (crossingMessage.string 8))
    sr.requests ≠ [] ∧ ∀ rt ∈ sr.config.routingTable,
      ∃ i, srGetInterface sr.config.ifList rt.interface = some i :=
  ⟨by decide +kernel,
    (verified_routes_resolve ⟨[], twoNetworks.routingTable⟩ 0 .refl (by decide +kernel)
      dispatch_twoNames
      (.single (.env (.message someCircumstances crossingMessage dispatch_crossingMessage)))).1⟩

end SrRouter
