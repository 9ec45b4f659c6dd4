import SrRouter.Dispatch
import SrRouter.MessageSafety

/-!
Which sessions the router survives.

Two assertions depend on what the server sends. `sr_arp_req_not_for_us`
asserts that the interface of a packet exists, once the packet is long enough
for an ARP frame; and the setters that a VNSHWINFO message calls assert that
some interface was named before. Shorter packets for unknown interfaces are
not dropped either: they get to the IP code, which never asks where they came
from. So the condition on a message has these three parts.
-/

namespace SrRouter

open ByteBuffer CString Interactive

/-! ### VNSHWINFO -/

/-- No address is given before the first interface is named. -/
def NamedFirst : List HwEntry → Prop
  | [] => True
  | e :: entries =>
    e.mKey = hwInterface ∨ ¬(e.mKey = hwEthip ∨ e.mKey = hwEther) ∧ NamedFirst entries

theorem onLast_isSome {f : SrIf → SrIf} {ifList : List SrIf} (h : ifList ≠ []) :
    ∃ ifList', onLast f ifList = some ifList' ∧ ifList' ≠ [] := by
  induction ifList with
  | nil => exact absurd rfl h
  | cons i ifList ih =>
      cases ifList with
      | nil => exact ⟨[f i], rfl, List.cons_ne_nil _ _⟩
      | cons j ifList =>
          obtain ⟨rest, hrest, -⟩ := ih (List.cons_ne_nil j ifList)
          refine ⟨i :: rest, ?_, List.cons_ne_nil i rest⟩
          rw [onLast, hrest]
          · rfl
          · exact List.cons_ne_nil j ifList

theorem srHandleHwEntry_isSome (mem : Mac × UInt32) (e : HwEntry) {ifList : List SrIf}
    (h : ifList ≠ []) : ∃ ifList', srHandleHwEntry mem e ifList = some ifList' ∧ ifList' ≠ [] := by
  unfold srHandleHwEntry
  split
  · exact ⟨_, rfl, by simp [srAddInterface]⟩
  · split
    · exact onLast_isSome h
    · split
      · exact onLast_isSome h
      · exact ⟨ifList, rfl, h⟩

theorem srHandleHwinfo_isSome (mem : Nat → Mac × UInt32) (entries : List HwEntry)
    {ifList : List SrIf} (h : ifList ≠ []) : (srHandleHwinfo mem entries ifList).isSome := by
  induction entries generalizing ifList with
  | nil => rfl
  | cons e entries ih =>
      obtain ⟨ifList', hstep, hne⟩ := srHandleHwEntry_isSome (mem entries.length) e h
      rw [srHandleHwinfo, hstep]
      exact ih hne

/-- **The setters' assertions.** A VNSHWINFO message is handled to its end
exactly when some interface exists already or one is named first. -/
theorem srHandleHwinfo_isSome_iff (mem : Nat → Mac × UInt32) (entries : List HwEntry)
    (ifList : List SrIf) :
    (srHandleHwinfo mem entries ifList).isSome ↔ ifList ≠ [] ∨ NamedFirst entries := by
  by_cases hne : ifList = []
  · subst hne
    induction entries with
    | nil => simp [srHandleHwinfo, NamedFirst]
    | cons e entries ih =>
        rw [srHandleHwinfo, srHandleHwEntry, NamedFirst]
        by_cases hname : e.mKey = hwInterface
        · -- from here on the list is not empty
          rw [if_pos hname]
          exact iff_of_true (srHandleHwinfo_isSome mem entries (by simp [srAddInterface]))
            (.inr (.inl hname))
        · rw [if_neg hname]
          by_cases hip : e.mKey = hwEthip
          · rw [if_pos hip]
            refine iff_of_false (by simp [srSetEtherIp, onLast]) ?_
            rintro (hne | hnamed | ⟨hother, -⟩)
            · exact hne rfl
            · exact hname hnamed
            · exact hother (.inl hip)
          · rw [if_neg hip]
            by_cases hether : e.mKey = hwEther
            · rw [if_pos hether]
              refine iff_of_false (by simp [srSetEtherAddr, onLast]) ?_
              rintro (hne | hnamed | ⟨hother, -⟩)
              · exact hne rfl
              · exact hname hnamed
              · exact hother (.inr hether)
            · rw [if_neg hether]
              simpa [hname, hip, hether] using ih
  · exact iff_of_true (srHandleHwinfo_isSome mem entries hne) (.inl hne)

/-! ### VNSPACKET -/

theorem Message.length_frame {msg : Message} (h : 24 ≤ msg.len) :
    msg.frame.length = msg.frameLen.toNat := by
  rw [msg.toNat_frameLen h, Message.frame, List.length_drop, sizeofCPacketHeader, Message.len]

/-- **The assertion on the interface.** It fails for every packet that is as
long as an ARP frame and whose interface does not exist. -/
theorem Message.srArpReqNotForUs_eq_none {msg : Message} (h : 24 ≤ msg.len) (ifList : List SrIf) :
    (msg.srArpReqNotForUs ifList).1 = none ↔
      sizeofEthernetHdr + sizeofArpHdr ≤ msg.frame.length ∧
        srGetInterface ifList (msg.string 8) = none := by
  unfold srArpReqNotForUs
  rw [length_frame h]
  by_cases hshort : msg.frameLen.toNat < sizeofEthernetHdr + sizeofArpHdr
  · simp only [hshort, if_true]
    exact iff_of_false (by simp) fun h => by omega
  · simp only [hshort, if_false]
    cases hget : srGetInterface ifList (msg.string 8) with
    | none => exact iff_of_true rfl ⟨by omega, rfl⟩
    | some iface =>
        refine iff_of_false ?_ (by simp)
        simp only
        split
        · simp
        · split <;> simp

theorem Message.srArpReqNotForUs_short {msg : Message} (h : 24 ≤ msg.len) (ifList : List SrIf)
    (hshort : msg.frame.length < sizeofEthernetHdr + sizeofArpHdr) :
    (msg.srArpReqNotForUs ifList).1 = some false := by
  unfold srArpReqNotForUs
  rw [if_pos (by rw [← length_frame h]; exact hshort)]

/-! ### What is left undisturbed -/

/-- The frames that `sr_send_packet` accepted, each with its interface. -/
def Store.sent (s : Store) : List (Name × Frame) :=
  s.log.filterMap fun e =>
    match e.2 with
    | .sendPacket _ iface frame 0 => some (iface, frame)
    | _ => none

/-- The cache with its requests is as it was, and no frame was sent. The
history may hold calls that came to nothing. -/
structure Store.Undisturbed (s s' : Store) : Prop where
  cache : s'.cache = s.cache
  sent : s'.sent = s.sent

namespace Store

theorem sent_trace_sendPacket (s : Store) (cause : Cause) (iface : Name) (frame : Frame) :
    (s.trace (.sendPacket cause iface frame 0)).sent = s.sent ++ [(iface, frame)] := by
  rw [sent, log_trace, List.filterMap_append]
  rfl

theorem Undisturbed.refl (s : Store) : s.Undisturbed s := ⟨rfl, rfl⟩

theorem undisturbed_noted (s : Store) (sr : Config) (pkt : Option SrPacket) (packet : Frame)
    (type code : UInt8) : s.Undisturbed (s.noted sr pkt packet type code) := by
  refine s.noted_cases sr pkt packet type code ⟨rfl, ?_⟩ fun _ => ⟨rfl, ?_⟩
  · rw [sent, log_trace, List.filterMap_append]
    exact List.append_nil _
  · rw [sent, log_trace, log_trace, List.filterMap_append, List.filterMap_append]
    exact (List.append_nil _).trans (List.append_nil _)

variable {s s' : Store}

theorem Undisturbed.deref_eq (h : s.Undisturbed s') (req : Addr) : s'.deref req = s.deref req := by
  rw [deref, deref, requests, requests, h.cache]

theorem deref_asked (s : Store) (sr : Config) (ip : UInt32) (iface : Name) (req : Addr) :
    (s.asked sr ip iface).deref req = s.deref req :=
  s.asked_cases sr ip iface rfl fun _ _ => rfl

theorem deref_retried (s : Store) (req : Addr) (now : Int) : (s.retried req now).deref req =
    (s.deref req).map fun r => if r.addr = req then
      { r with sent := now, timesSent := r.timesSent + 1 } else r :=
  s.deref_update req req fun _ => rfl

theorem not_undisturbed_of_linked {req : Addr} {r r' : SrArpreq} {pkt : SrPacket}
    (hr : s.deref req = some r) (hr' : s'.deref req = some r')
    (hpackets : r'.packets = pkt :: r.packets) : ¬s.Undisturbed s' := by
  intro h
  rw [h.deref_eq, hr] at hr'
  obtain rfl := Option.some.inj hr'
  exact List.cons_ne_self _ _ hpackets.symm

/-- Routing to a next hop sends the packet or queues it. -/
theorem not_undisturbed_routed (halloc : s.Allocated) {sr : Config} (origin : Origin)
    {packet : Frame} (hlen : sizeofEthernetHdr ≤ packet.length)
    (hhop : nextHop sr packet ≠ none) : ¬s.Undisturbed (s.routed sr origin packet) := by
  have hlinked (outIface : SrIf) {r : SrArpreq} (hr : r ∈ s.requests) :
      (s.linkPacket r.addr r.ip origin (setEtherShost packet outIface.addr)
        outIface.name).deref r.addr = some { r with
          packets := s.nextPacket origin (setEtherShost packet outIface.addr) outIface.name ::
            r.packets } := by
    rw [deref_linkPacket, halloc.deref_eq hr]
    simp
  refine s.routed_cases sr origin packet ?_ ?_ ?_ ?_ ?_
  · exact fun hstuck => absurd hstuck hhop
  · intro outIface ip entry hnext _ h
    have hlength : (addressed packet outIface entry.mac).length = packet.length :=
      (sameBody_addressed ..).length_eq
    have hret : srSendPacketRet sr (addressed packet outIface entry.mac) outIface.name = 0 :=
      srSendPacketRet_of_shost (hlength ▸ hlen) (srGetInterface_of_nextHop hnext)
        (etherShost_setEtherShost (by
          simp only [sizeofEthernetHdr] at hlen
          simp
          omega))
    have hsent := h.sent
    rw [hret, sent_trace_sendPacket] at hsent
    simp at hsent
  · exact fun outIface r hr _ _ _ =>
      not_undisturbed_of_linked (halloc.deref_eq hr) (hlinked outIface hr) rfl
  · intro outIface r hr _ _ _
    have hretried : (((s.linkPacket r.addr r.ip origin (setEtherShost packet outIface.addr)
        outIface.name).asked sr r.ip outIface.name).retried r.addr s.now).deref r.addr =
        some { r with
          sent := s.now, timesSent := r.timesSent + 1
          packets := s.nextPacket origin (setEtherShost packet outIface.addr) outIface.name ::
            r.packets } := by
      rw [deref_retried, deref_asked, hlinked outIface hr]
      simp
    exact not_undisturbed_of_linked (halloc.deref_eq hr) hretried rfl
  · intro outIface ip _ _ _ h
    -- the record is new
    have hlength := congrArg List.length (congrArg SrArpcache.requests h.cache)
    have hasked (t : Store) : (t.asked sr ip outIface.name).requests = t.requests :=
      t.asked_cases sr ip outIface.name rfl fun _ _ => rfl
    change ((((s.newRequest ip).linkPacket s.heap ip origin
      (setEtherShost packet outIface.addr) outIface.name).asked sr ip outIface.name).retried
        s.heap s.now).requests.length = s.requests.length at hlength
    rw [retried, requests_update, hasked, requests_linkPacket, requests_newRequest] at hlength
    simp at hlength

end Store

/-! ### Short packets -/

/-- The longest match for the address names an interface that exists. -/
def Routable (sr : Config) (ip : UInt32) : Prop :=
  ∃ route, srFindLpmRoute sr.routingTable ip = some route ∧
    (srGetInterface sr.ifList route.interface).isSome

theorem nextHop_ne_none_iff {sr : Config} {packet : Frame} :
    nextHop sr packet ≠ none ↔ Routable sr (ipDst packet) := by
  unfold nextHop Routable
  cases srFindLpmRoute sr.routingTable (ipDst packet) with
  | none => simp
  | some route => cases hget : srGetInterface sr.ifList route.interface <;> simp [hget]

/-- The IP code sends the packet on, or a report about it to its sender, though
it is too short for an ICMP header. -/
def ActsOn (sr : Config) (packet : Frame) : Prop :=
  ethertype packet = ethertypeIp ∧ srValidIpPacket packet = true ∧
    if srIsRouterIp sr.ifList (ipDst packet) then
      (ipP packet = ipProtocolTcp ∨ ipP packet = ipProtocolUdp) ∧ Routable sr (ipSrc packet)
    else if ipTtl packet ≤ 1 ∨ srFindLpmRoute sr.routingTable (ipDst packet) = none then
      Routable sr (ipSrc packet)
    else Routable sr (ipDst packet)

/-- Where the sender can be reached there is an interface to report from. -/
theorem exists_errorReply {sr : Config} {packet : Frame} (hvalid : srValidIpPacket packet = true)
    (h : Routable sr (ipSrc packet)) (type code : UInt8) :
    ∃ reply, errorReply sr packet type code = some reply := by
  obtain ⟨route, hroute, hiface⟩ := h
  suffices hsource : (srFindIcmpSourceIface sr packet (ipSrc packet)).isSome by
    obtain ⟨outIface, hsome⟩ := Option.isSome_iff_exists.mp hsource
    exact ⟨icmpErrorFrame outIface packet type code, by rw [errorReply, if_pos hvalid, hsome]; rfl⟩
  unfold srFindIcmpSourceIface
  rw [hroute]
  split
  · rfl
  · split
    · rfl
    · exact hiface

/-- **The report of a packet** comes to something exactly where its sender can
be reached. -/
theorem undisturbed_srSendIcmpError_iff (sr : Config) {packet : Frame}
    (hvalid : srValidIpPacket packet = true) (type code : UInt8) {s : Store}
    (halloc : s.Allocated) :
    s.Undisturbed ((srSendIcmpError sr none packet type code).run exec s).2 ↔
      ¬Routable sr (ipSrc packet) := by
  have hnoted := s.undisturbed_noted sr none packet type code
  rw [run_srSendIcmpError _ _ _ _ _ halloc, Store.errored]
  cases hreply : errorReply sr packet type code with
  | none =>
      refine iff_of_true hnoted fun hroutable => ?_
      obtain ⟨reply, hsome⟩ := exists_errorReply hvalid hroutable type code
      rw [hreply] at hsome
      cases hsome
  | some reply =>
      obtain ⟨outIface, -, -, rfl⟩ := exists_of_errorReply hreply
      have hframe := icmpErrorFrame_ok outIface packet type code
      have hhop : nextHop sr (icmpErrorFrame outIface packet type code) ≠ none ↔
          Routable sr (ipSrc packet) := by
        rw [nextHop_ne_none_iff, hframe.dst]
      simp only
      by_cases hroutable : Routable sr (ipSrc packet)
      · refine iff_of_false (fun h => ?_) (not_not_intro hroutable)
        have halloc' : (s.noted sr none packet type code).Allocated :=
          halloc.congr (Store.requests_noted ..) (Store.heap_noted ..)
        refine Store.not_undisturbed_routed halloc' .icmpError
          (by rw [hframe.length, sizeofEthernetHdr]; omega) (hhop.mpr hroutable) ⟨?_, ?_⟩
        · exact h.cache.trans hnoted.cache.symm
        · exact h.sent.trans hnoted.sent.symm
      · have hstuck := not_ne_iff.mp (mt hhop.mp hroutable)
        rw [Store.routed, hstuck]
        exact iff_of_true hnoted hroutable

section Short

variable (sr : Config) {packet : Frame} (interface : Name) {s : Store}

/-- For the router itself there is no room for an ICMP header, so only the
unreachable ports are reported. -/
theorem undisturbed_srHandlepacket_shortOwn (halloc : s.Allocated)
    (hshort : packet.length < sizeofEthernetHdr + sizeofArpHdr)
    (htype : ethertype packet = ethertypeIp) (hvalid : srValidIpPacket packet = true)
    (hdst : srIsRouterIp sr.ifList (ipDst packet) = true) :
    s.Undisturbed ((srHandlepacket sr packet interface).run exec s).2 ↔
      ¬((ipP packet = ipProtocolTcp ∨ ipP packet = ipProtocolUdp) ∧
        Routable sr (ipSrc packet)) := by
  have hok := headerOk_of_valid hvalid
  have hge := hok.length_ge
  have hicmp : ¬(ipP packet = ipProtocolIcmp ∧
      ipHeaderLen packet + sizeofIcmpT08Hdr ≤ ipLen packet) := by
    have hheader := hok.headerLen_ge
    have hfits := hok.ipLen_fits
    simp only [sizeofEthernetHdr, sizeofArpHdr, sizeofIpHdr, sizeofIcmpT08Hdr] at *
    omega
  rw [srHandlepacket, if_neg (by rw [sizeofEthernetHdr]; omega), if_neg (by rw [htype]; decide),
    if_pos htype, srHandleIp]
  simp only [validIpPacketInPlace_eq, hvalid, hdst, Bool.not_true, Bool.false_eq_true,
    if_false, if_true, if_neg hicmp]
  split
  · next hproto =>
      rw [undisturbed_srSendIcmpError_iff sr hvalid 3 3 halloc]
      exact not_congr (and_iff_right hproto).symm
  · next hproto => exact iff_of_true (Store.Undisturbed.refl s) fun h => hproto h.1

/-- In transit, a packet is let go where its destination has no interface, or
where there is nobody to report to. -/
theorem undisturbed_srHandlepacket_transit (halloc : s.Allocated)
    (htype : ethertype packet = ethertypeIp) (hvalid : srValidIpPacket packet = true)
    (hdst : srIsRouterIp sr.ifList (ipDst packet) = false) :
    s.Undisturbed ((srHandlepacket sr packet interface).run exec s).2 ↔
      ¬if ipTtl packet ≤ 1 ∨ srFindLpmRoute sr.routingTable (ipDst packet) = none then
        Routable sr (ipSrc packet) else Routable sr (ipDst packet) := by
  have hok := headerOk_of_valid hvalid
  have hsrc : ipSrc (decrementTtl packet) = ipSrc packet := ipSrc_decrementTtl packet
  rw [run_srHandlepacket_transit sr interface htype hvalid hdst]
  by_cases httl : ipTtl packet ≤ 1
  · rw [if_pos httl, if_pos (.inl httl)]
    exact undisturbed_srSendIcmpError_iff sr hvalid 11 0 halloc
  · rw [if_neg httl, srForwardIpPacket, ipDst_decrementTtl]
    cases hroute : srFindLpmRoute sr.routingTable (ipDst packet) with
    | none =>
        rw [if_pos (Or.inr rfl), ← hsrc]
        exact undisturbed_srSendIcmpError_iff sr (decrementTtl_valid hok) 3 0 halloc
    | some route =>
        rw [if_neg (by simp), if_neg (by simp [httl]),
          run_srSendRoutedIpPacket sr .received _ halloc, ← ipDst_decrementTtl]
        by_cases hroutable : Routable sr (ipDst (decrementTtl packet))
        · refine iff_of_false (Store.not_undisturbed_routed halloc .received ?_
            (nextHop_ne_none_iff.mpr hroutable)) (not_not_intro hroutable)
          have hge := hok.length_ge
          rw [length_decrementTtl, sizeofEthernetHdr]
          omega
        · have hstuck := not_ne_iff.mp (mt nextHop_ne_none_iff.mp hroutable)
          rw [Store.routed, hstuck]
          exact iff_of_true (Store.Undisturbed.refl s) hroutable

theorem run_srHandlepacket_shortInvalid (hshort : packet.length < sizeofEthernetHdr + sizeofArpHdr)
    (hip : ¬(ethertype packet = ethertypeIp ∧ srValidIpPacket packet = true)) :
    ((srHandlepacket sr packet interface).run exec s).2 = s := by
  unfold srHandlepacket
  split
  · rfl
  · split
    · rw [srHandleArp, if_pos hshort]
      rfl
    · split
      · next htype =>
          have hinvalid : srValidIpPacket packet = false := by simpa [htype] using hip
          simp only [srHandleIp, validIpPacketInPlace_eq, hinvalid]
          rfl
      · rfl

/-- **Short packets.** A packet too short for an ARP frame leaves the router
undisturbed exactly when the IP code does nothing about it. -/
theorem undisturbed_srHandlepacket_short_iff (halloc : s.Allocated)
    (hshort : packet.length < sizeofEthernetHdr + sizeofArpHdr) :
    s.Undisturbed ((srHandlepacket sr packet interface).run exec s).2 ↔ ¬ActsOn sr packet := by
  by_cases hip : ethertype packet = ethertypeIp ∧ srValidIpPacket packet = true
  · obtain ⟨htype, hvalid⟩ := hip
    rw [ActsOn, and_iff_right htype, and_iff_right hvalid]
    cases hdst : srIsRouterIp sr.ifList (ipDst packet) with
    | true =>
        rw [if_pos rfl]
        exact undisturbed_srHandlepacket_shortOwn sr interface halloc hshort htype hvalid hdst
    | false =>
        rw [if_neg Bool.false_ne_true]
        exact undisturbed_srHandlepacket_transit sr interface halloc htype hvalid hdst
  · rw [run_srHandlepacket_shortInvalid sr interface hshort hip]
    exact iff_of_true (Store.Undisturbed.refl s) fun hacts => hip ⟨hacts.1, hacts.2.1⟩

end Short

/-! ### One message -/

/-- The dispatcher comes to its end, and drops a packet for an interface that
does not exist: no interface, route, mapping or request changes, and no frame
is sent. -/
def Withstood (sr : SrInstance) (c : Circumstances) (msg : Message) : Prop :=
  ∃ ret sr', msg.dispatch c sr = some (ret, sr') ∧
    (msg.ForUnknown sr.config.ifList →
      sr'.config = sr.config ∧ sr.store.Undisturbed sr'.store)

/-- What a message must be like for that. -/
structure Harmless (sr : SrInstance) (msg : Message) : Prop where
  packet : msg.ForUnknown sr.config.ifList →
    msg.frame.length < sizeofEthernetHdr + sizeofArpHdr ∧ ¬ActsOn sr.config msg.frame
  hwinfo : msg.command = vnsHwinfo → sr.config.ifList ≠ [] ∨ NamedFirst msg.hwEntries

/-- Where an assertion can fail. -/
theorem Message.dispatch_eq_none {msg : Message} {c : Circumstances} {sr : SrInstance} :
    msg.dispatch c sr = none ↔
      msg.command = vnsPacket ∧ (msg.srArpReqNotForUs sr.config.ifList).1 = none ∨
      msg.command = vnsHwinfo ∧ srHandleHwinfo c.mem msg.hwEntries sr.config.ifList = none := by
  unfold dispatch
  by_cases hpacket : msg.command = vnsPacket
  · rw [if_pos hpacket, dispatchPacket]
    rcases hnot : (msg.srArpReqNotForUs sr.config.ifList).1 with _ | notForUs
    · exact iff_of_true rfl (.inl ⟨hpacket, rfl⟩)
    · refine iff_of_false (by cases notForUs <;> simp) ?_
      rintro (⟨-, h⟩ | ⟨h, -⟩)
      · cases h
      · exact absurd (hpacket.symm.trans h) (by decide)
  · by_cases hhwinfo : msg.command = vnsHwinfo
    · have hclose : msg.command ≠ vnsClose := by
        rw [hhwinfo]
        decide
      have hbanner : msg.command ≠ vnsBanner := by
        rw [hhwinfo]
        decide
      rw [if_neg hpacket, if_neg hclose, if_neg hbanner, if_pos hhwinfo]
      cases hrun : srHandleHwinfo c.mem msg.hwEntries sr.config.ifList with
      | none => exact iff_of_true rfl (.inr ⟨hhwinfo, rfl⟩)
      | some ifList =>
          refine iff_of_false (by simp) ?_
          rintro (⟨h, -⟩ | ⟨-, h⟩)
          · exact hpacket h
          · cases h
    · refine iff_of_false ?_ ?_
      · rw [if_neg hpacket, if_neg hhwinfo]
        repeat' split
        all_goals simp
      · rintro (⟨h, -⟩ | ⟨h, -⟩)
        · exact hpacket h
        · exact hhwinfo h

theorem withstood_iff_harmless_of_unknown {sr : SrInstance} (hsr : sr.Reachable)
    (c : Circumstances) {msg : Message} (hlen : 24 ≤ msg.len)
    (hunknown : msg.ForUnknown sr.config.ifList) : Withstood sr c msg ↔ Harmless sr msg := by
  obtain ⟨hpacket, hget⟩ := hunknown
  by_cases hshort : msg.frame.length < sizeofEthernetHdr + sizeofArpHdr
  · have hrun := undisturbed_srHandlepacket_short_iff sr.config (msg.string 8)
      (hsr.wf.setNow c.now).allocated hshort
    have hdispatch : msg.dispatch c sr =
        some (1, sr.step (.recv c.now msg.frame (msg.string 8))) := by
      rw [Message.dispatch, if_pos hpacket, Message.dispatchPacket,
        msg.srArpReqNotForUs_short hlen _ hshort]
    constructor
    · rintro ⟨ret, sr', hsome, hdropped⟩
      rw [hdispatch] at hsome
      obtain ⟨-, rfl⟩ := Prod.mk.inj (Option.some.inj hsome)
      obtain ⟨-, hstore⟩ := hdropped ⟨hpacket, hget⟩
      refine ⟨fun _ => ⟨hshort, hrun.mp ⟨hstore.cache, hstore.sent⟩⟩, fun hhwinfo => ?_⟩
      exact absurd (hpacket.symm.trans hhwinfo) (by decide)
    · intro hharmless
      refine ⟨1, _, hdispatch, fun hunknown => ⟨rfl, ?_⟩⟩
      have hstore := hrun.mpr (hharmless.packet hunknown).2
      exact ⟨hstore.cache, hstore.sent⟩
  · -- this is the assertion that fails
    have hnone : msg.dispatch c sr = none := Message.dispatch_eq_none.mpr
      (.inl ⟨hpacket, (msg.srArpReqNotForUs_eq_none hlen _).mpr ⟨by omega, hget⟩⟩)
    refine iff_of_false ?_ fun hharmless => hshort (hharmless.packet ⟨hpacket, hget⟩).1
    rintro ⟨ret, sr', hsome, -⟩
    rw [hnone] at hsome
    cases hsome

theorem withstood_iff_harmless_of_known {sr : SrInstance} (c : Circumstances) {msg : Message}
    (hcomplete : msg.Complete) (hknown : ¬msg.ForUnknown sr.config.ifList) :
    Withstood sr c msg ↔ Harmless sr msg := by
  have hwithstood : Withstood sr c msg ↔ msg.dispatch c sr ≠ none := by
    rw [Option.ne_none_iff_exists']
    constructor
    · rintro ⟨ret, sr', hsome, -⟩
      exact ⟨_, hsome⟩
    · rintro ⟨⟨ret, sr'⟩, hsome⟩
      exact ⟨ret, sr', hsome, fun h => absurd h hknown⟩
  rw [hwithstood, ne_eq, Message.dispatch_eq_none, not_or]
  constructor
  · rintro ⟨-, hhwinfo⟩
    refine ⟨fun h => absurd h hknown, fun hcmd => ?_⟩
    rw [← srHandleHwinfo_isSome_iff c.mem, ← Option.ne_none_iff_isSome]
    exact fun hnone => hhwinfo ⟨hcmd, hnone⟩
  · refine fun hharmless => ⟨?_, ?_⟩
    · rintro ⟨hpacket, hnone⟩
      have hlen : 24 ≤ msg.len := hcomplete.2 hpacket
      exact hknown ⟨hpacket, ((msg.srArpReqNotForUs_eq_none hlen _).mp hnone).2⟩
    · rintro ⟨hcmd, hnone⟩
      have hsome := (srHandleHwinfo_isSome_iff c.mem _ _).mpr (hharmless.hwinfo hcmd)
      rw [hnone] at hsome
      cases hsome

/-- The condition is exact for every message in every reachable state. -/
theorem withstood_iff_harmless {sr : SrInstance} (hsr : sr.Reachable) (c : Circumstances)
    {msg : Message} (hcomplete : msg.Complete) : Withstood sr c msg ↔ Harmless sr msg := by
  by_cases hunknown : msg.ForUnknown sr.config.ifList
  · exact withstood_iff_harmless_of_unknown hsr c (hcomplete.2 hunknown.1) hunknown
  · exact withstood_iff_harmless_of_known c hcomplete hunknown

/-- **Which sessions the router survives.** In a session from the start, with
any routing table, every message is dispatched without a failed assertion and
every packet for an unknown interface is dropped, exactly when every message
meets its condition in the state that it arrives in. -/
theorem session_withstood_iff (config : Config) (now : Int) (inputs : List Input) :
    Along Withstood (.init config now) inputs ↔
      Along (fun sr _ msg => Harmless sr msg) (.init config now) inputs :=
  Along.congr (fun _ c _ hsr hcomplete => withstood_iff_harmless hsr c hcomplete)
    ⟨config, now, [], rfl⟩ inputs

/-- A packet of 42 bytes for "eth9". -/
def packetFirst : Message where
  bytes := [0, 0, 0, 66, 0, 0, 0, 4, 101, 116, 104, 57] ++ List.replicate 54 0
  length_le := by decide

def addressFirst : Message where
  bytes := [0, 0, 0, 44, 0, 0, 0, 16, 0, 0, 0, 32] ++ List.replicate 32 0
  length_le := by decide

/-- The packet between the two networks, as if it came in on "eth9". -/
def strayPacket : Message where
  bytes := [0, 0, 0, 58, 0, 0, 0, 4, 101, 116, 104, 57] ++ List.replicate 12 0 ++ crossingFrame
  length_le := by decide

/-- The first two end the process. The third is queued for the other network
though its interface does not exist. -/
theorem exists_aborting_session :
    packetFirst.dispatch someCircumstances (.init ⟨[], twoNetworks.routingTable⟩ 0) = none ∧
    addressFirst.dispatch someCircumstances (.init ⟨[], twoNetworks.routingTable⟩ 0) = none ∧
    strayPacket.ForUnknown twoNetworks.ifList ∧
    ¬Withstood (.init twoNetworks 0) someCircumstances strayPacket ∧
    ¬∀ config now inputs, Along Withstood (.init config now) inputs := by
  have habort : packetFirst.dispatch someCircumstances (.init ⟨[], twoNetworks.routingTable⟩ 0) =
      none := Message.dispatch_eq_none.mpr (.inl ⟨by decide +kernel, by decide +kernel⟩)
  have hunknown : strayPacket.ForUnknown twoNetworks.ifList :=
    ⟨by decide +kernel, by decide +kernel⟩
  refine ⟨habort, ?_, hunknown, ?_, fun hall => ?_⟩
  · exact Message.dispatch_eq_none.mpr (.inr ⟨by decide +kernel, by decide +kernel⟩)
  · rintro ⟨ret, sr', hsome, hdropped⟩
    have hdispatch : strayPacket.dispatch someCircumstances (.init twoNetworks 0) =
        some (1, (SrInstance.init twoNetworks 0).step
          (.recv 0 strayPacket.frame (strayPacket.string 8))) := by
      rw [Message.dispatch, if_pos hunknown.1, Message.dispatchPacket,
        strayPacket.srArpReqNotForUs_short (by decide +kernel) _ (by decide +kernel)]
      rfl
    rw [hdispatch] at hsome
    obtain ⟨-, rfl⟩ := Prod.mk.inj (Option.some.inj hsome)
    have hrequests := congrArg (fun cache => cache.requests.length) (hdropped hunknown).2.cache
    exact absurd hrequests (by decide +kernel)
  · obtain ⟨⟨ret, sr', hsome, -⟩, -⟩ := hall ⟨[], twoNetworks.routingTable⟩ 0
      [.message someCircumstances packetFirst ⟨by decide +kernel, fun _ => by decide +kernel⟩]
    rw [habort] at hsome
    cases hsome

end SrRouter
