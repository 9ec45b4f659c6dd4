import SrRouter.Learning
import SrRouter.Forwarding

/-!
Received ARP frames, end to end.

A frame that teaches the router a mapping takes the pending request for its
sender off the queue, sends that request's packets, and stores the mapping if
there is a slot; nothing else on the queue or in the table moves. A request
for the address of the very interface it came in on is answered besides. All
other ARP frames are ignored. In every case the history says all that
happened.
-/

namespace SrRouter

open ByteBuffer Interactive

/-- The frame tells who its sender is, and the router takes note of it. -/
def Teaches (sr : Config) (packet : Frame) : Prop :=
  arSip packet ≠ 0 ∧ (arOp packet = arpOpRequest ∨
    arOp packet = arpOpReply ∧ srIsRouterIp sr.ifList (arTip packet) = true)

instance (sr : Config) (packet : Frame) : Decidable (Teaches sr packet) :=
  inferInstanceAs (Decidable (_ ∧ _))

/-- The frame asks for the address of the interface it was received on. -/
def Asks (recvIface : SrIf) (packet : Frame) : Prop :=
  arOp packet = arpOpRequest ∧ arTip packet = recvIface.ip

instance (recvIface : SrIf) (packet : Frame) : Decidable (Asks recvIface packet) :=
  inferInstanceAs (Decidable (_ ∧ _))

/-- The frame answers the request `packet`, claiming the address of
`outIface`. -/
structure ArpAnswer (outIface : SrIf) (packet frame : Frame) : Prop
    extends ArpFrame arpOpReply outIface (arSha packet) (arSip packet) frame where
  sha : arSha frame = outIface.addr

def waitingFor (sr : SrInstance) (ip : UInt32) : List SrPacket :=
  ((sr.requests.find? fun r => r.ip == ip).map SrArpreq.packets).getD []

def Sends (sr : Config) (now : Int) (ip : UInt32) (mac : Mac) (pkt : SrPacket)
    (e : Int × Event) : Prop :=
  ∃ frame, HandedOn sr mac pkt frame ∧ e = (now, .sendPacket (.flush pkt ip mac) pkt.iface frame 0)

/-- The step stored the mapping of `ip` to `mac` and released the packets that
waited for it, and then added `answers` to the history. -/
structure Learns (sr sr' : SrInstance) (now : Int) (mac : Mac) (ip : UInt32)
    (answers : List (Int × Event)) : Prop where
  config : sr'.config = sr.config
  requests : sr'.requests = sr.requests.filter fun r => r.ip != ip
  log : ∃ sends, List.Forall₂ (Sends sr.config now ip mac) (waitingFor sr ip) sends ∧
    sr'.store.log = sr.store.log ++
      (now, .learned mac ip (sr.requests.find? fun r => r.ip == ip)) :: (sends ++ answers)
  /-- One slot is overwritten: the one for `ip`, or a free one if there is none. -/
  bound : HasSlot sr.store.cache.entries ip → ∃ before e after,
    sr.store.cache.entries = before ++ e :: after ∧
    (e.Binds ip ∨ e.valid = false ∧ ∀ q ∈ sr.store.cache.entries, ¬q.Binds ip) ∧
    sr'.store.cache.entries =
      before ++ { mac := mac, ip := ip, added := now, valid := true } :: after
  full : ¬HasSlot sr.store.cache.entries ip →
    sr'.store.cache.entries = sr.store.cache.entries
  usable : sr.store.cache.entries.countP (fun e => e.Binds ip) ≤ 1 →
    HasSlot sr.store.cache.entries ip → srArpcacheLookup sr'.store.cache ip =
      some { mac := mac, ip := ip, added := now, valid := true }

/-! ### The mapping -/

theorem lookupEntries_stored {ip : UInt32} {before after : List SrArpentry} {e new : SrArpentry}
    (hone : (before ++ e :: after).countP (fun e => e.Binds ip) ≤ 1)
    (hslot : e.Binds ip ∨ e.valid = false ∧ ∀ q ∈ before ++ e :: after, ¬q.Binds ip)
    (hnew : new.Binds ip) : lookupEntries ip (before ++ new :: after) = some new := by
  have hother : ∀ q, q ∈ before ∨ q ∈ after → ¬q.Binds ip := by
    intro q hq
    rcases hslot with hbinds | ⟨-, hnone⟩
    · -- the slot for `ip` is the one that counts
      rw [List.countP_append, List.countP_cons_of_pos (by simpa using hbinds)] at hone
      have hbefore : before.countP (fun e => e.Binds ip) = 0 := by omega
      have hafter : after.countP (fun e => e.Binds ip) = 0 := by omega
      rcases hq with hq | hq
      · simpa using List.countP_eq_zero.mp hbefore q hq
      · simpa using List.countP_eq_zero.mp hafter q hq
    · rcases hq with hq | hq
      · exact hnone q (List.mem_append_left _ hq)
      · exact hnone q (List.mem_append_right _ (List.mem_cons_of_mem _ hq))
  rcases lookupEntries_spec ip (before ++ new :: after) with
    ⟨q, hq, hbinds, hlookup⟩ | ⟨hnone, -⟩
  · rcases List.mem_append.mp hq with hq | hq
    · exact absurd hbinds (hother q (.inl hq))
    · rcases List.mem_cons.mp hq with rfl | hq
      · exact hlookup
      · exact absurd hbinds (hother q (.inr hq))
  · exact absurd hnew (hnone new (by simp))

theorem forall₂_flushEvents {sr : Config} (now : Int) (ip : UInt32) (mac : Mac)
    {packets : List SrPacket} (h : ∀ pkt ∈ packets, Sendable sr pkt) :
    List.Forall₂ (Sends sr now ip mac) packets
      ((flushEvents sr ip mac packets).map fun e => (now, e)) := by
  induction packets with
  | nil => exact .nil
  | cons pkt packets ih =>
      obtain ⟨hpkt, hrest⟩ := List.forall_mem_cons.mp h
      obtain ⟨frame, hframe, hcons⟩ := flushEvents_cons hpkt ip mac packets
      rw [hcons]
      exact .cons ⟨frame, hframe, rfl⟩ (ih hrest)

theorem eraseP_ip_eq_filter {requests : List SrArpreq}
    (hnodup : (requests.map SrArpreq.ip).Nodup) (ip : UInt32) :
    requests.eraseP (fun r => r.ip == ip) = requests.filter fun r => r.ip != ip := by
  induction requests with
  | nil => rfl
  | cons r requests ih =>
      rw [List.map_cons, List.nodup_cons] at hnodup
      by_cases hip : r.ip = ip
      · rw [List.eraseP_cons_of_pos (by simpa using hip),
          List.filter_cons_of_neg (by simpa using hip)]
        refine (List.filter_eq_self.mpr fun q hq => ?_).symm
        have hne : q.ip ≠ ip := fun heq =>
          hnodup.1 (List.mem_map.mpr ⟨q, hq, heq.trans hip.symm⟩)
        simpa using hne
      · rw [List.eraseP_cons_of_neg (by simpa using hip),
          List.filter_cons_of_pos (by simpa using hip), ih hnodup.2]

theorem sendable_waitingFor {sr : SrInstance} (hs : Healthy sr.config sr.store) {ip : UInt32}
    {pkt : SrPacket} (hpkt : pkt ∈ waitingFor sr ip) : Sendable sr.config pkt := by
  unfold waitingFor at hpkt
  cases hfind : sr.requests.find? fun r => r.ip == ip with
  | none => simp [hfind] at hpkt
  | some r =>
      rw [hfind] at hpkt
      exact hs.packets r (List.mem_of_find?_eq_some hfind) pkt hpkt

/-- **What `sr_cache_arp_mapping` does**, with whatever is sent behind it. -/
theorem learns_of_mapped {sr sr' : SrInstance} (hwf : sr.store.WF)
    (hs : Healthy sr.config sr.store) {now : Int} {mac : Mac} {ip : UInt32}
    {answers : List (Int × Event)} (hconfig : sr'.config = sr.config)
    (hcache : sr'.store.cache = ((sr.store.setNow now).mapped sr.config mac ip).cache)
    (hlog : sr'.store.log = ((sr.store.setNow now).mapped sr.config mac ip).log ++ answers) :
    Learns sr sr' now mac ip answers := by
  have hentries : sr'.store.cache.entries = insertEntry now mac ip sr.store.cache.entries := by
    rw [hcache]
    rfl
  have hcases := insertEntry_cases now mac ip sr.store.cache.entries
  have hnotFull (hslot : HasSlot sr.store.cache.entries ip) :
      ¬∀ q ∈ sr.store.cache.entries, q.valid = true ∧ ¬q.Binds ip := by
    intro hfull
    obtain ⟨e, he, hfree | hip⟩ := hslot
    · exact absurd (hfull e he).1 (by simp [hfree])
    · exact (hfull e he).2 ⟨(hfull e he).1, hip⟩
  refine ⟨hconfig, ?_, ⟨_, forall₂_flushEvents now ip mac fun pkt => sendable_waitingFor hs, ?_⟩,
    fun hslot => ?_, fun hslot => ?_, fun hone hslot => ?_⟩
  · rw [SrInstance.requests, Store.requests, hcache]
    exact eraseP_ip_eq_filter hwf.ip_nodup ip
  · rw [hlog]
    exact List.append_assoc ..
  · rcases hcases with ⟨before, e, after, hsplit, he, hinsert⟩ | ⟨hfull, -⟩
    · exact ⟨before, e, after, hsplit, he, hentries.trans hinsert⟩
    · exact absurd hfull (hnotFull hslot)
  · rcases hcases with ⟨before, e, after, hsplit, he, -⟩ | ⟨-, hsame⟩
    · refine absurd ⟨e, by rw [hsplit]; simp, ?_⟩ hslot
      exact he.elim (fun hbinds => .inr hbinds.2) fun hfree => .inl hfree.1
    · exact hentries.trans hsame
  · rcases hcases with ⟨before, e, after, hsplit, he, hinsert⟩ | ⟨hfull, -⟩
    · rw [srArpcacheLookup, hentries, hinsert]
      rw [hsplit] at hone he
      exact lookupEntries_stored hone he ⟨rfl, rfl⟩
    · exact absurd hfull (hnotFull hslot)

/-! ### The answer -/

theorem arSha_arpFrame (op : UInt16) (outIface : SrIf) (dhost tha : Mac) (tip : UInt32) :
    arSha (arpFrame op outIface dhost tha tip) = outIface.addr := by
  unfold arpFrame
  -- the last three stores lie behind the field
  refine (loadMac_blit_apart (by simp [Apart])).trans ((loadMac_blit_apart (by simp [Apart])).trans
    ((loadMac_blit_apart (by simp [Apart])).trans (loadMac_storeMac ?_)))
  simp [setEtherType, store8, store16, sizeofEthernetHdr, sizeofArpHdr]

theorem arpAnswer_arpReplyFrame (outIface : SrIf) (packet : Frame) :
    ArpAnswer outIface packet (arpReplyFrame outIface packet) :=
  { arpFrame_ok .. with sha := arSha_arpFrame .. }

/-! ### One frame -/

theorem run_srHandlepacket_arp (sr : Config) {packet : Frame} {interface : Name} {recvIface : SrIf}
    {s : Store} (hwf : s.WF) (hget : srGetInterface sr.ifList interface = some recvIface)
    (hlen : sizeofEthernetHdr + sizeofArpHdr ≤ packet.length)
    (htype : ethertype packet = ethertypeArp) :
    ((srHandlepacket sr packet interface).run exec s).2 =
      if Teaches sr packet then
        if Asks recvIface packet then
          (s.mapped sr (arSha packet) (arSip packet)).trace (.sendPacket .arpReply interface
            (arpReplyFrame recvIface packet)
            (srSendPacketRet sr (arpReplyFrame recvIface packet) interface))
        else s.mapped sr (arSha packet) (arSip packet)
      else s := by
  rw [srHandlepacket, if_neg (by simp only [sizeofEthernetHdr] at hlen ⊢; omega), if_pos htype,
    srHandleArp, if_neg (by omega), hget]
  simp only
  by_cases hsip : arSip packet = 0
  · have hnot : ¬Teaches sr packet := fun h => h.1 hsip
    rw [if_pos hsip, if_neg hnot]
    rfl
  · rw [if_neg hsip]
    by_cases hrequest : arOp packet = arpOpRequest
    · have hteaches : Teaches sr packet := ⟨hsip, .inl hrequest⟩
      rw [if_pos hrequest, if_pos hteaches]
      simp only [Prog.bind_def, Prog.run_bind, run_srCacheArpMapping sr packet hwf]
      by_cases htip : arTip packet = recvIface.ip
      · have hasks : Asks recvIface packet := ⟨hrequest, htip⟩
        rw [if_pos htip, if_pos hasks, srSendArpReply, hget]
        rfl
      · have hquiet : ¬Asks recvIface packet := fun h => htip h.2
        rw [if_neg htip, if_neg hquiet]
        rfl
    · have hquiet : ¬Asks recvIface packet := fun h => hrequest h.1
      rw [if_neg hrequest, if_neg hquiet]
      by_cases hreply : arOp packet = arpOpReply
      · rw [if_pos hreply]
        cases hmine : srIsRouterIp sr.ifList (arTip packet) with
        | false =>
            have hnot : ¬Teaches sr packet := by simp [Teaches, hrequest, hmine]
            rw [if_neg hnot]
            rfl
        | true =>
            have hteaches : Teaches sr packet := ⟨hsip, .inr ⟨hreply, hmine⟩⟩
            rw [if_pos hteaches]
            exact run_srCacheArpMapping sr packet hwf
      · have hnot : ¬Teaches sr packet := fun h => h.2.elim hrequest fun h => hreply h.1
        rw [if_neg hreply, if_neg hnot]
        rfl

/-- **ARP, end to end.** A complete ARP frame, received on a known interface
while the queue is sound, has one of two ends. If it teaches a mapping, the
step learns it, and adds one answer to that exactly when the frame asks for
the address of the interface it came in on. If it does not, nothing happens
but the clock. -/
theorem recv_arp {sr : SrInstance} (hwf : sr.store.WF) (hs : Healthy sr.config sr.store)
    (now : Int) {packet : Frame} {interface : Name} {recvIface : SrIf}
    (hget : srGetInterface sr.config.ifList interface = some recvIface)
    (hlen : sizeofEthernetHdr + sizeofArpHdr ≤ packet.length)
    (htype : ethertype packet = ethertypeArp) :
    (Teaches sr.config packet → ∃ answers,
      Learns sr (sr.step (.recv now packet interface)) now (arSha packet) (arSip packet) answers ∧
      (Asks recvIface packet → ∃ frame, ArpAnswer recvIface packet frame ∧
        answers = [(now, .sendPacket .arpReply interface frame 0)]) ∧
      (¬Asks recvIface packet → answers = [])) ∧
    (¬Teaches sr.config packet →
      sr.step (.recv now packet interface) = { sr with store := sr.store.setNow now }) := by
  have hrun := run_srHandlepacket_arp sr.config (hwf.setNow now) hget hlen htype
  refine ⟨fun hteaches => ?_, fun hnot => ?_⟩
  · rw [if_pos hteaches] at hrun
    by_cases hasks : Asks recvIface packet
    · have hframe := arpAnswer_arpReplyFrame recvIface packet
      have hret : srSendPacketRet sr.config (arpReplyFrame recvIface packet) interface = 0 :=
        srSendPacketRet_of_shost (by simp [hframe.length, sizeofEthernetHdr]) hget hframe.shost
      rw [if_pos hasks, hret] at hrun
      refine ⟨[(now, .sendPacket .arpReply interface (arpReplyFrame recvIface packet) 0)],
        learns_of_mapped hwf hs rfl ?_ ?_, fun _ => ⟨_, hframe, rfl⟩, fun h => absurd hasks h⟩
      · rw [SrInstance.step, hrun]
        rfl
      · rw [SrInstance.step, hrun]
        rfl
    · rw [if_neg hasks] at hrun
      refine ⟨[], learns_of_mapped hwf hs rfl ?_ ?_, fun h => absurd h hasks, fun _ => rfl⟩
      · rw [SrInstance.step, hrun]
      · rw [SrInstance.step, hrun, List.append_nil]
  · rw [if_neg hnot] at hrun
    rw [SrInstance.step, hrun]

/-- A packet for 10.0.1.50 waits. -/
def crossingWaits : SrInstance := (SrInstance.init twoNetworks 0).run
  [.recv 0 crossingFrame eth2.name]

/-- 10.0.1.50 asks for 10.0.1.1. -/
def askingFrame : Frame :=
  [255, 255, 255, 255, 255, 255, 2, 0, 0, 0, 1, 50, 8, 6, 0, 1, 8, 0, 6, 4, 0, 1,
    2, 0, 0, 0, 1, 50, 10, 0, 1, 50, 0, 0, 0, 0, 0, 0, 10, 0, 1, 1]

/-- The question releases the packet that waits for the one who asks, and is
answered. -/
theorem recv_arp_twoNetworks :
    (waitingFor crossingWaits 0x3201000a).length = 1 ∧ ∃ frame, ArpAnswer eth1 askingFrame frame ∧
      Learns crossingWaits (crossingWaits.step (.recv 1 askingFrame eth1.name)) 1
        ⟨[2, 0, 0, 0, 1, 50], rfl⟩ 0x3201000a [(1, .sendPacket .arpReply eth1.name frame 0)] := by
  have hwf : crossingWaits.store.WF := SrInstance.run_wf ..
  have hs : Healthy crossingWaits.config crossingWaits.store := SrInstance.run_healthy ..
  have hget : srGetInterface crossingWaits.config.ifList eth1.name = some eth1 := by
    decide +kernel
  have hteaches : Teaches crossingWaits.config askingFrame := by decide +kernel
  obtain ⟨answers, hlearns, hanswer, -⟩ :=
    (recv_arp hwf hs 1 hget (show _ ≤ askingFrame.length by decide) (by decide)).1 hteaches
  obtain ⟨frame, hframe, rfl⟩ := hanswer (by decide)
  exact ⟨by decide +kernel, frame, hframe, hlearns⟩

end SrRouter
