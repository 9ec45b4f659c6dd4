import SrRouter.Invariants

/-!
What the router puts on the wire.

Every transition adds only well-formed events to the history: a frame that
is handed to `sr_send_packet` comes from the interface it is sent on, an IP
frame passes the router's own validation, and an ICMP message that the router
built passes its own checksum test. Frames sent at once are well formed by
construction; packets that waited were checked when they were queued, and
only their hardware addresses have changed since.
-/

namespace SrRouter

open ByteBuffer CString Interactive

/-- The router itself built the ICMP message that is sent for this cause. -/
def Cause.OwnIcmp : Cause → Prop
  | .echoReply => True
  | .routed origin => origin = .icmpError
  | .flush pkt _ _ => pkt.origin = .icmpError
  | _ => False

structure WellFormed (sr : Config) (cause : Cause) (iface : Name) (frame : Frame) : Prop where
  length : sizeofEthernetHdr ≤ frame.length
  source : ∃ outIface, srGetInterface sr.ifList iface = some outIface ∧
    etherShost frame = outIface.addr
  valid : ethertype frame = ethertypeIp → srValidIpPacket frame = true
  icmp : cause.OwnIcmp → ethertype frame = ethertypeIp ∧ icmpSumOk frame = true

/-- If the event is a call of `sr_send_packet`, it hands out a well-formed
frame and succeeds. -/
def Event.Sound (sr : Config) : Event → Prop
  | .sendPacket cause iface frame ret => ret = 0 ∧ WellFormed sr cause iface frame
  | _ => True

theorem sound_sendPacket {sr : Config} {cause : Cause} {iface : Name} {frame : Frame}
    (h : WellFormed sr cause iface frame) :
    Event.Sound sr (.sendPacket cause iface frame (srSendPacketRet sr frame iface)) := by
  obtain ⟨outIface, hget, hshost⟩ := h.source
  exact ⟨srSendPacketRet_of_shost h.length hget hshost, h⟩

/-! ### Each kind of frame -/

theorem wellFormed_arp {sr : Config} {cause : Cause} {iface : Name} {outIface : SrIf}
    {op : UInt16} {dhost : Mac} {tip : UInt32} {frame : Frame}
    (hframe : ArpFrame op outIface dhost tip frame)
    (hget : srGetInterface sr.ifList iface = some outIface) (hcause : ¬cause.OwnIcmp) :
    WellFormed sr cause iface frame where
  length := by simp [hframe.length, sizeofEthernetHdr]
  source := ⟨outIface, hget, hframe.shost⟩
  valid := fun htype => absurd (hframe.ethertype.symm.trans htype) (by decide)
  icmp := fun h => absurd h hcause

theorem wellFormed_ip {sr : Config} {cause : Cause} {iface : Name} {outIface : SrIf}
    {frame : Frame} (hget : srGetInterface sr.ifList iface = some outIface)
    (hshost : etherShost frame = outIface.addr) (hvalid : srValidIpPacket frame = true)
    (htype : ethertype frame = ethertypeIp) (hicmp : cause.OwnIcmp → icmpSumOk frame = true) :
    WellFormed sr cause iface frame where
  length := by
    have := (headerOk_of_valid hvalid).length_ge
    simp only [sizeofEthernetHdr]
    omega
  source := ⟨outIface, hget, hshost⟩
  valid := fun _ => hvalid
  icmp := fun h => ⟨htype, hicmp h⟩

theorem Reply.wellFormed {sr : Config} {cause : Cause} {iface : Name} {frame : Frame}
    (h : Reply sr cause iface frame) : WellFormed sr cause iface frame := by
  cases h with
  | arp hget => exact wellFormed_arp (arpFrame_ok ..) hget (by simp [Cause.OwnIcmp])
  | @echo _ _ outIface hget hvalid htype hicmp =>
      have hframe := echoReplyFrame_ok hvalid hicmp outIface
      exact wellFormed_ip hget hframe.shost hframe.valid (hframe.ethertype.trans htype)
        fun _ => hframe.sumOk

theorem wellFormed_routed {sr : Config} {origin : Origin} {packet : Frame} {outIface : SrIf}
    {ip : UInt32} (hready : Ready sr origin packet)
    (hhop : nextHop sr packet = some (outIface, ip)) (mac : Mac) :
    WellFormed sr (.routed origin) outIface.name (addressed packet outIface mac) := by
  have hlen := (headerOk_of_valid hready.valid).length_ge
  have hframe : Ready sr origin (addressed packet outIface mac) :=
    hready.congr (sameBody_addressed packet outIface mac)
  exact wellFormed_ip (srGetInterface_of_nextHop hhop)
    (etherShost_setEtherShost (by simp; omega)) hframe.valid hframe.ethertype hframe.sumOk

theorem wellFormed_flush {sr : Config} {pkt : SrPacket} (h : Sendable sr pkt) {outIface : SrIf}
    (hget : srGetInterface sr.ifList pkt.iface = some outIface) (ip : UInt32) (mac : Mac) :
    WellFormed sr (.flush pkt ip mac) pkt.iface
      (setEtherShost (setEtherDhost pkt.buf mac) outIface.addr) := by
  have hlen := (headerOk_of_valid h.valid).length_ge
  have hbody : SameBody (setEtherShost (setEtherDhost pkt.buf mac) outIface.addr) pkt.buf :=
    (sameBody_setEtherShost _ _).trans (sameBody_setEtherDhost _ _)
  exact wellFormed_ip hget (etherShost_setEtherShost (by simp; omega)) (hbody.valid h.valid)
    (hbody.ethertype_eq.trans h.ethertype) fun hown => hbody.icmpSumOk (h.sumOk hown)

/-! ### Each transition -/

theorem asked_sound (s : Store) (sr : Config) (ip : UInt32) (iface : Name) :
    Adds (fun e => e.2.Sound sr) s (s.asked sr ip iface) :=
  .asked fun _ hget =>
    sound_sendPacket (wellFormed_arp (arpRequestFrame_ok ..) hget (by simp [Cause.OwnIcmp]))

theorem linkPacket_sound (s : Store) (sr : Config) (req : Addr) (ip : UInt32) (origin : Origin)
    (buf : Frame) (iface : Name) :
    Adds (fun e => e.2.Sound sr) s (s.linkPacket req ip origin buf iface) := .single rfl trivial

theorem noted_sound (s : Store) (sr : Config) (pkt : Option SrPacket) (packet : Frame)
    (type code : UInt8) :
    Adds (fun e => e.2.Sound sr) s (s.noted sr pkt packet type code) := by
  have herror : Adds (fun e => e.2.Sound sr) s (s.trace (.icmpError pkt type code packet)) :=
    .single rfl trivial
  exact s.noted_cases sr pkt packet type code herror fun _ => herror.trans (.single rfl trivial)

theorem flushEvents_sound {sr : Config} {packets : List SrPacket}
    (h : ∀ pkt ∈ packets, Sendable sr pkt) (ip : UInt32) (mac : Mac) :
    ∀ e ∈ flushEvents sr ip mac packets, e.Sound sr := by
  intro e he
  obtain ⟨pkt, hpkt, hmap⟩ := List.mem_filterMap.mp he
  obtain ⟨outIface, hget, rfl⟩ := Option.map_eq_some_iff.mp hmap
  exact sound_sendPacket (wellFormed_flush (h pkt hpkt) hget ip mac)

/-- **Every transition hands out well-formed frames only.** -/
theorem Transition.sound {sr : Config} {c c' : Phase × Store} (h : Transition sr c c')
    (hs : Healthy sr c.2) : Adds (fun e => e.2.Sound sr) c.2 c'.2 := by
  cases h with
  | replied hreply => exact .single rfl (sound_sendPacket hreply.wellFormed)
  | errored => exact noted_sound ..
  | reported => exact noted_sound ..
  | sent hready _ hhop _ => exact .single rfl (sound_sendPacket (wellFormed_routed hready hhop _))
  | linked => exact linkPacket_sound ..
  | linkedFirst => exact (linkPacket_sound ..).trans ((asked_sound ..).trans (.of_log rfl))
  | @created _ s _ _ _ ip =>
      have hnew : Adds (fun e => e.2.Sound sr) s (s.newRequest ip) := .single rfl trivial
      exact hnew.trans ((linkPacket_sound ..).trans ((asked_sound ..).trans (.of_log rfl)))
  | retried => exact (asked_sound ..).trans (.of_log rfl)
  | givenUp => exact .of_log rfl
  | destroyed =>
      refine Store.srArpreqDestroy_cases _ _ ?_ ?_
      · exact fun _ => .of_log rfl
      · exact fun _ => .single rfl trivial
  | @mapped s mac ip =>
      refine ⟨_, rfl, List.forall_mem_cons.mpr ⟨trivial, fun e he => ?_⟩⟩
      obtain ⟨event, hevent, rfl⟩ := List.mem_map.mp he
      refine flushEvents_sound (fun pkt hpkt => ?_) ip mac event hevent
      cases hfind : s.cache.requests.find? fun r => r.ip == ip with
      | none => simp [srArpcacheInsert, hfind] at hpkt
      | some r =>
          simp only [srArpcacheInsert, hfind, Option.map_some, Option.getD_some] at hpkt
          exact hs.packets r (List.mem_of_find?_eq_some hfind) pkt hpkt
  | expired => exact .of_log rfl

theorem Path.sound {sr : Config} {c c' : Phase × Store} (h : Path sr c c') (hwf : c.2.WF)
    (hs : Healthy sr c.2) : Adds (fun e => e.2.Sound sr) c.2 c'.2 := by
  induction h with
  | refl => exact .of_log rfl
  | tail hpath ht ih => exact ih.trans (ht.sound (Path.healthy hpath hwf hs))

/-- **Every frame the router hands out is well formed.** Whatever was
received before, and whatever the next step is, the step hands to
`sr_send_packet` only frames that it accepts: they have an Ethernet header,
their interface resolves, and their source is its address. Those that carry
IP packets are valid, and the ICMP messages that the router built itself have
the checksum that it would accept. -/
theorem step_sends_wellFormed (config : Config) (now : Int) (actions : List Action) (a : Action) :
    ∃ events, (((SrInstance.init config now).run actions).step a).store.log =
        ((SrInstance.init config now).run actions).store.log ++ events ∧
      ∀ t cause iface frame ret, (t, Event.sendPacket cause iface frame ret) ∈ events →
        ret = 0 ∧
          WellFormed ((SrInstance.init config now).run actions).config cause iface frame := by
  have hwf := SrInstance.run_wf config now actions
  have hs := SrInstance.run_healthy config now actions
  generalize (SrInstance.init config now).run actions = sr at hwf hs ⊢
  have hadds : Adds (fun e => e.2.Sound sr.config) sr.store (sr.step a).store := by
    cases a with
    | recv now packet interface =>
        exact (SrInstance.step_recv_path hwf now packet interface).sound (hwf.setNow now)
          ⟨hs.counters, hs.packets⟩
    | timer now =>
        exact (SrInstance.step_timer_path hwf now).sound (hwf.setNow now)
          ⟨hs.counters, hs.packets⟩
    | hwinfo mem entries =>
        rw [SrInstance.step_hwinfo_store]
        exact .of_log rfl
  obtain ⟨events, hlog, hsound⟩ := hadds
  exact ⟨events, hlog, fun t cause iface frame ret he => hsound _ he⟩

end SrRouter
