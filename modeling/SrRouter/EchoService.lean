import SrRouter.Checksum
import SrRouter.Forwarding

/-!
Echo requests to the router.

The reply is a copy of the request, edited in place: both pairs of addresses
change places, the TTL, the type and the code are set anew, and both
checksums are computed over what is then there. Nothing else differs, and the
state of the router is not involved: handling such a request adds one event
to the history and that is all.
-/

namespace SrRouter

open ByteBuffer OnesComplement Interactive

/-- The frame answers the echo request `packet` from `outIface`. -/
structure EchoAnswer (outIface : SrIf) (packet frame : Frame) : Prop where
  length : frame.length = packet.length
  dhost : etherDhost frame = etherShost packet
  shost : etherShost frame = outIface.addr
  src : ipSrc frame = ipDst packet
  dst : ipDst frame = ipSrc packet
  ttl : ipTtl frame = 255
  type : load8 frame (icmpOff packet) = 0
  code : load8 frame (icmpOff packet + 1) = 0
  headerSum : Verifies (ipHeader frame)
  messageSum : Verifies (icmpMessage frame)
  rest : ∀ j, 12 ≤ j → j ≠ 22 → ¬(24 ≤ j ∧ j < 34) →
    ¬(icmpOff packet ≤ j ∧ j < icmpOff packet + 4) → load8 frame j = load8 packet j

theorem load8_echoReplyFrame (outIface : SrIf) {packet : Frame} {j : Nat} (hj : 12 ≤ j)
    (httl : j ≠ 22) (haddr : ¬(24 ≤ j ∧ j < 34))
    (hicmp : ¬(icmpOff packet ≤ j ∧ j < icmpOff packet + 4)) :
    load8 (echoReplyFrame outIface packet) j = load8 packet j := by
  simp only [echoReplyFrame, setEtherDhost, setEtherShost, setIpSrc, setIpDst, setIpTtl, setIpSum,
    storeMac, store8, store16, store32]
  simp (disch := (simp only [Apart, length_bytes16, length_bytes32, Mac.length_eq,
    List.length_singleton]; omega)) only [load8_blit_apart]

section

variable {packet : Frame} (h : HeaderOk packet)
  (hlong : ipHeaderLen packet + sizeofIcmpT08Hdr ≤ ipLen packet) (outIface : SrIf)

include h hlong

theorem echoReplyFrame_fields :
    etherDhost (echoReplyFrame outIface packet) = etherShost packet ∧
    ipSrc (echoReplyFrame outIface packet) = ipDst packet ∧
    ipDst (echoReplyFrame outIface packet) = ipSrc packet ∧
    ipTtl (echoReplyFrame outIface packet) = 255 ∧
    load8 (echoReplyFrame outIface packet) (icmpOff packet) = 0 ∧
    load8 (echoReplyFrame outIface packet) (icmpOff packet + 1) = 0 := by
  have hoff := h.icmpOff_ge
  have hfits := h.ipLen_fits
  have hend : icmpOff packet + 8 ≤ packet.length := by
    simp only [sizeofEthernetHdr, sizeofIcmpT08Hdr] at hfits hlong
    rw [icmpOff]
    omega
  have hmac {b : Bytes} {mac : Mac} (hb : 6 ≤ b.length) : loadMac (blit b 0 mac.bytes) 0 = mac :=
    loadMac_storeMac (by omega)
  simp only [echoReplyFrame, setEtherDhost, setEtherShost, setIpSrc, setIpDst, setIpTtl, setIpSum,
    storeMac, store8, store16, store32, etherDhost, ipSrc, ipDst, ipTtl, initTtl]
  refine ⟨?_, ?_, ?_, ?_, ?_, ?_⟩
  all_goals
    simp (disch := (first | omega | (simp only [Apart, length_blit, length_bytes16, length_bytes32,
      Mac.length_eq, List.length_singleton]; omega))) only [load8_blit_apart, load32_blit_apart,
      loadMac_blit_apart, load8_blit_self, load32_blit_self, hmac]

/-- **The reply answers the request.** -/
theorem echoAnswer_echoReplyFrame (hvalid : srValidIpPacket packet = true) :
    EchoAnswer outIface packet (echoReplyFrame outIface packet) := by
  have hframe := echoReplyFrame_ok hvalid hlong outIface
  obtain ⟨hdhost, hsrc, hdst, httl, htype, hcode⟩ := echoReplyFrame_fields h hlong outIface
  have hoff := h.icmpOff_ge
  have hok := headerOk_of_valid hframe.valid
  have hread {j : Nat} (hj : 12 ≤ j) (hj' : j < 18) :
      load8 (echoReplyFrame outIface packet) j = load8 packet j :=
    load8_echoReplyFrame outIface hj (by omega) (by omega) (by omega)
  have hlong' : ipHeaderLen (echoReplyFrame outIface packet) + sizeofIcmpT08Hdr ≤
      ipLen (echoReplyFrame outIface packet) := by
    rw [ipHeaderLen, ipHl, ipLen, load16, hread (by omega) (by omega), hread (by omega) (by omega),
      hread (by omega) (by omega)]
    exact hlong
  exact
    { length := hframe.length
      dhost := hdhost
      shost := hframe.shost
      src := hsrc
      dst := hdst
      ttl := httl
      type := htype
      code := hcode
      headerSum := ((srValidIpPacket_iff_verifies hok).mp hframe.valid).1
      messageSum := ((icmpSumOk_iff_verifies hok hlong').mp hframe.sumOk).1
      rest := fun j hj httl haddr hicmp =>
        load8_echoReplyFrame outIface hj httl haddr hicmp }

end

/-- **Echo service.** A valid echo request to any of the router's addresses,
received on an interface that it knows, is answered with one frame, on that
interface. It is the only thing that happens: the cache, the queue and the
received buffer are as they were. -/
theorem recv_echoRequest (sr : SrInstance) (now : Int) {packet : Frame} {interface : Name}
    {recvIface : SrIf} (hget : srGetInterface sr.config.ifList interface = some recvIface)
    (htype : ethertype packet = ethertypeIp) (hvalid : srValidIpPacket packet = true)
    (hdst : srIsRouterIp sr.config.ifList (ipDst packet) = true)
    (hproto : ipP packet = ipProtocolIcmp)
    (hlong : ipHeaderLen packet + sizeofIcmpT08Hdr ≤ ipLen packet)
    (hrequest : icmpType packet = 8) (hsum : icmpSumOk packet = true) :
    (icmpSumInPlace (validIpPacketInPlace packet).2).2 = packet ∧
    ∃ frame, EchoAnswer recvIface packet frame ∧
      sr.step (.recv now packet interface) =
        { sr with store :=
            { sr.store with
              now := now
              log := sr.store.log ++ [(now, .sendPacket .echoReply interface frame 0)] } } := by
  have hok := headerOk_of_valid hvalid
  have hanswer := echoAnswer_echoReplyFrame hok hlong recvIface hvalid
  have hlen := hok.length_ge
  have hret : srSendPacketRet sr.config (echoReplyFrame recvIface packet) interface = 0 := by
    apply srSendPacketRet_of_shost _ hget hanswer.shost
    rw [hanswer.length, sizeofEthernetHdr]
    omega
  have hrun : ((srHandlepacket sr.config packet interface).run exec (sr.store.setNow now)).2 =
      (sr.store.setNow now).trace
        (.sendPacket .echoReply interface (echoReplyFrame recvIface packet) 0) := by
    rw [srHandlepacket, if_neg (by rw [sizeofEthernetHdr]; omega), if_neg (by rw [htype]; decide),
      if_pos htype, srHandleIp]
    simp only [validIpPacketInPlace_eq, icmpSumInPlace_eq, hvalid, Bool.not_true,
      Bool.false_eq_true, if_false, hdst, if_true]
    rw [if_pos ⟨hproto, hlong⟩, if_pos ⟨hrequest, hsum⟩, srSendIcmpEchoReply, hget]
    simp only [srSendPacket, hret]
    rfl
  refine ⟨by simp, echoReplyFrame recvIface packet, hanswer, ?_⟩
  rw [SrInstance.step, hrun]
  rfl

/-- An echo request from 10.0.2.50 to 10.0.1.1 with one byte of payload and
three of padding. -/
def echoRequestFrame : Frame :=
  [2, 0, 0, 0, 0, 2, 2, 0, 0, 0, 2, 50, 8, 0,
    0x45, 0, 0, 29, 0, 0, 0, 0, 64, 1, 0x63, 0xae, 10, 0, 2, 50, 10, 0, 1, 1,
    8, 0, 0x84, 0xca, 0x12, 0x34, 0, 1, 97, 0, 0, 0]

/-- It comes in on the other network, and is answered there. -/
theorem recv_echoRequest_twoNetworks :
    ∃ frame, EchoAnswer eth2 echoRequestFrame frame ∧
      (SrInstance.init twoNetworks 0).step (.recv 7 echoRequestFrame eth2.name) =
        { SrInstance.init twoNetworks 0 with store :=
            { (SrInstance.init twoNetworks 0).store with
              now := 7
              log := [(7, .sendPacket .echoReply eth2.name frame 0)] } } :=
  (recv_echoRequest (SrInstance.init twoNetworks 0) 7 (by decide) (by decide) (by decide)
    (by decide) (by decide) (by decide) (by decide) (by decide)).2

end SrRouter
