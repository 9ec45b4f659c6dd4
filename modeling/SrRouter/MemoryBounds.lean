import SrRouter.CheckedRouter
import SrRouter.ArpService

/-!
Packet processing stays inside its buffers.

The lengths in a frame are the sender's, and the tests on them are made in
one function while the accesses are in others. What carries over is
`HeaderOk`: it bounds everything that later functions compute from the header,
and rewriting the fields behind it does not disturb it.

Each checked function is compared with the unchecked one. The functions on
buffers answer what the unchecked ones compute; the programs are sound,
whatever is on the queue, until they meet a packet that waited there.
-/

namespace SrRouter.Checked

open ByteBuffer CString Interactive Interactive.Faulting

/-! ### Fields -/

theorem loadMac_eq {b : Bytes} {i : Nat} (h : i + 6 ≤ b.length) :
    loadMac b i = some (SrRouter.loadMac b i) := by
  rw [loadMac, load8?_eq (by omega), load8?_eq (by omega), load8?_eq (by omega),
    load8?_eq (by omega), load8?_eq (by omega), load8?_eq (by omega)]
  rfl

theorem storeMac_eq {b : Bytes} {i : Nat} (mac : Mac) (h : i + 6 ≤ b.length) :
    storeMac b i mac = some (SrRouter.storeMac b i mac) :=
  blit?_eq (by rw [mac.length_eq]; exact h)

theorem ethertype_eq {f : Frame} (h : 14 ≤ f.length) :
    ethertype f = some (SrRouter.ethertype f) := by
  rw [ethertype, load16?_eq (by omega)]
  rfl

theorem arOp_eq {f : Frame} (h : 22 ≤ f.length) : arOp f = some (SrRouter.arOp f) := by
  rw [arOp, load16?_eq (by omega)]
  rfl

theorem ipHeaderLen_eq {f : Frame} (h : 15 ≤ f.length) :
    ipHeaderLen f = some (SrRouter.ipHeaderLen f) := by
  rw [ipHeaderLen, load8?_eq (by omega)]
  rfl

theorem ipLen_eq {f : Frame} (h : 18 ≤ f.length) : ipLen f = some (SrRouter.ipLen f) := by
  rw [ipLen, load16?_eq (by omega)]
  rfl

/-! ### `cksum` -/

theorem cksumWords_eq {b : Bytes} {i len : Nat} (sum : UInt32) (h : i + len ≤ b.length) :
    cksumWords b i len sum = some (SrRouter.cksumWords (slice b i len) sum) := by
  induction i, len, sum using cksumWords.induct with
  | case1 i len sum ih =>
      rw [cksumWords, load8?_eq (by omega), load8?_eq (by omega), slice_succ (by omega),
        slice_succ (by omega)]
      exact ih _ _ (by omega)
  | case2 i sum =>
      rw [cksumWords, load8?_eq (by omega), slice_succ (by omega)]
      simp [slice, SrRouter.cksumWords]
  | case3 i sum => simp [cksumWords, slice, SrRouter.cksumWords]

theorem cksum_eq {b : Bytes} {i len : Nat} (h : i + len ≤ b.length) :
    cksum b i len = some (SrRouter.cksum (slice b i len)) := by
  rw [cksum, cksumWords_eq 0 h]
  rfl

/-! ### Buffers -/

section

variable {γ : Type} {b : Bytes} {i : Nat}

theorem loadMac_bind (f : Mac → Option γ) (h : i + 6 ≤ b.length) :
    (loadMac b i >>= f) = f (SrRouter.loadMac b i) := by
  rw [loadMac_eq h, Option.bind_eq_bind, Option.bind_some]

theorem storeMac_bind {mac : Mac} (f : Bytes → Option γ) (h : i + 6 ≤ b.length) :
    (storeMac b i mac >>= f) = f (SrRouter.storeMac b i mac) := by
  rw [storeMac_eq mac h, Option.bind_eq_bind, Option.bind_some]

theorem ipV_bind (f : Nat → Option γ) (h : 15 ≤ b.length) :
    (ipV b >>= f) = f (SrRouter.ipV b) := by
  rw [ipV, load8?_eq (by omega)]
  rfl

theorem ipHeaderLen_bind (f : Nat → Option γ) (h : 15 ≤ b.length) :
    (ipHeaderLen b >>= f) = f (SrRouter.ipHeaderLen b) := by
  rw [ipHeaderLen_eq h, Option.bind_eq_bind, Option.bind_some]

theorem ipLen_bind (f : Nat → Option γ) (h : 18 ≤ b.length) :
    (ipLen b >>= f) = f (SrRouter.ipLen b) := by
  rw [ipLen_eq h, Option.bind_eq_bind, Option.bind_some]

theorem cksum_bind {len : Nat} (f : UInt16 → Option γ) (h : i + len ≤ b.length) :
    (cksum b i len >>= f) = f (SrRouter.cksum (slice b i len)) := by
  rw [cksum_eq h, Option.bind_eq_bind, Option.bind_some]

end

/-- Validation reads and writes the header only once it has been seen to fit. -/
theorem valid_eq (packet : Frame) :
    validIpPacketInPlace packet = some (SrRouter.validIpPacketInPlace packet) := by
  unfold validIpPacketInPlace SrRouter.validIpPacketInPlace
  by_cases hshort : packet.length < sizeofEthernetHdr + sizeofIpHdr
  · rw [if_pos hshort, if_pos hshort]
    rfl
  · have hlen : 34 ≤ packet.length := Nat.not_lt.mp hshort
    rw [if_neg hshort, if_neg hshort, ipV_bind _ (by omega), ipHeaderLen_bind _ (by omega),
      ipLen_bind _ (by omega)]
    split
    · rfl
    · next hgood =>
        simp only [Bool.or_eq_true, not_or] at hgood
        have hheader : 14 + SrRouter.ipHeaderLen packet ≤ packet.length := by
          have hfits := hgood.1.1.2
          rw [decide_eq_true_eq, Nat.not_lt] at hfits
          exact hfits
        rw [load16?_bind _ (by omega), store16?_bind _ (by omega),
          cksum_bind _ (by rw [length_store16]; exact hheader),
          store16?_bind _ (by rw [length_store16]; omega)]
        rfl

section

variable {packet : Frame} (h : HeaderOk packet)

include h

theorem decrementTtl_eq : decrementTtl packet = some (SrRouter.decrementTtl packet) := by
  have hlen := h.length_ge
  have hheader := h.header_fits
  simp only [sizeofEthernetHdr] at hheader
  simp (disch := ((try simp only [↓length_store8, ↓length_store16]); omega)) only [decrementTtl,
    ↓ipHeaderLen_bind, ↓load8?_bind, ↓store8?_bind, ↓store16?_bind,
    ↓cksum_bind, ↓store16?_eq]
  rfl

/-- What the header checks say about the message behind the header. -/
theorem icmp_bounds
    (hlong : SrRouter.ipHeaderLen packet + sizeofIcmpT08Hdr ≤ SrRouter.ipLen packet) :
    34 ≤ 14 + SrRouter.ipHeaderLen packet ∧
      14 + SrRouter.ipHeaderLen packet + 8 ≤ packet.length ∧
      14 + SrRouter.ipHeaderLen packet +
        (SrRouter.ipLen packet - SrRouter.ipHeaderLen packet) ≤ packet.length := by
  have hfits := h.ipLen_fits
  have hoff := h.icmpOff_ge
  simp only [sizeofEthernetHdr, sizeofIcmpT08Hdr] at hfits hlong
  rw [icmpOff] at hoff
  omega

theorem icmpSumInPlace_eq
    (hlong : SrRouter.ipHeaderLen packet + sizeofIcmpT08Hdr ≤ SrRouter.ipLen packet) :
    icmpSumInPlace packet = some (SrRouter.icmpSumInPlace packet) := by
  obtain ⟨hoff, hend, hmessage⟩ := icmp_bounds h hlong
  have hlen := h.length_ge
  have hle := h.ipLen_ge
  simp (disch := ((try simp only [↓length_store16]); omega)) only [icmpSumInPlace,
    ↓ipHeaderLen_bind, ↓ipLen_bind, ↓sub?_bind, ↓load16?_bind,
    ↓store16?_bind, ↓cksum_bind]
  rfl

theorem echoReplyFrame_eq
    (hlong : SrRouter.ipHeaderLen packet + sizeofIcmpT08Hdr ≤ SrRouter.ipLen packet)
    (outIface : SrIf) :
    echoReplyFrame outIface packet = some (SrRouter.echoReplyFrame outIface packet) := by
  obtain ⟨hoff, hend, hmessage⟩ := icmp_bounds h hlong
  have hlen := h.length_ge
  have hle := h.ipLen_ge
  rw [echoReplyFrame, slice?_bind _ (by omega), slice_zero_length]
  simp (disch := ((try simp only [↓length_store8, ↓length_store16, ↓length_store32,
    ↓length_storeMac]); omega)) only [↓ipHeaderLen_bind,
    ↓ipLen_bind, ↓sub?_bind, ↓loadMac_bind, ↓storeMac_bind, ↓load32?_bind, ↓store8?_bind,
    ↓store16?_bind, ↓store32?_bind, ↓cksum_bind, ↓store16?_eq]
  simp only [SrRouter.echoReplyFrame, setEtherDhost, setEtherShost, setIpSrc, setIpDst, setIpTtl,
    setIpSum, etherShost, ipSrc, ipDst, icmpOff, icmpLen]

/-- The message about a valid packet quotes bytes that the packet has. -/
theorem icmpErrorFrame_eq (outIface : SrIf) (type code : UInt8) :
    icmpErrorFrame outIface packet type code =
      some (SrRouter.icmpErrorFrame outIface packet type code) := by
  have hlen := h.length_ge
  have hfits := h.ipLen_fits
  simp only [sizeofEthernetHdr] at hfits
  have hquote : 14 + min (SrRouter.ipLen packet) 28 ≤ packet.length := by omega
  have hdata : (slice packet 14 (min (SrRouter.ipLen packet) 28)).length ≤ 28 := by
    rw [length_slice]
    omega
  simp (disch := ((try simp only [↓length_store8, ↓length_store16, ↓length_store32,
    ↓length_storeMac, ↓length_blit, ↓List.length_replicate, sizeofEthernetHdr, sizeofIpHdr,
    sizeofIcmpT11Hdr, icmpDataSize]); omega)) only [icmpErrorFrame,
    ↓ipLen_bind, ↓loadMac_bind, ↓storeMac_bind, ↓load32?_bind, ↓store8?_bind, ↓store16?_bind,
    ↓store32?_bind, ↓cksum_bind, ↓slice?_bind, ↓blit?_bind, ↓store16?_eq]
  simp only [SrRouter.icmpErrorFrame, setEtherDhost, setEtherShost, setEtherType, setIpSrc,
    setIpDst, setIpTtl, setIpSum, etherShost, ipSrc]

end

theorem arpFrame_eq (op : UInt16) (outIface : SrIf) (dhost tha : Mac) (tip : UInt32) :
    arpFrame op outIface dhost tha tip = some (SrRouter.arpFrame op outIface dhost tha tip) := by
  simp (disch := (simp only [↓length_store8, ↓length_store16, ↓length_store32, ↓length_storeMac,
    ↓List.length_replicate, sizeofEthernetHdr, sizeofArpHdr]; omega)) only [arpFrame,
    ↓storeMac_bind, ↓store8?_bind, ↓store16?_bind, ↓store32?_bind,
    ↓store32?_eq]
  rfl

theorem srFindIcmpSourceIface_eq (sr : Config) {packet : Frame} (h : 12 ≤ packet.length)
    (ipSrc : UInt32) : srFindIcmpSourceIface sr packet ipSrc =
      some (SrRouter.srFindIcmpSourceIface sr packet ipSrc) := by
  rw [srFindIcmpSourceIface, loadMac_eq (by omega), loadMac_eq (by omega)]
  rfl

/-! ### Sending -/

theorem sound_srSendPacket (sr : Config) (cause : Cause) (buf : Frame) (iface : Name) :
    Sound (srSendPacket sr cause buf iface) (SrRouter.srSendPacket sr cause buf iface) := by
  unfold srSendPacket
  split
  · exact .calls _
  · next hlen =>
      have hlen : 14 ≤ buf.length := Nat.not_lt.mp hlen
      rw [slice?_eq (by omega), access_some, loadMac_eq (by omega), access_some]
      exact .calls _

theorem sound_srSendArpRequest (sr : Config) (ip : UInt32) (iface : Name) :
    Sound (srSendArpRequest sr ip iface) (SrRouter.srSendArpRequest sr ip iface) := by
  unfold srSendArpRequest SrRouter.srSendArpRequest sendArpRequest
  cases srGetInterface sr.ifList iface with
  | none => exact .pure ()
  | some outIface =>
      simp only [arpRequestFrame, arpFrame_eq, access_some]
      exact sound_srSendPacket ..

theorem sound_srSendArpReply (sr : Config) {packet : Frame} (h : 42 ≤ packet.length)
    (interface : Name) :
    Sound (srSendArpReply sr packet interface) (SrRouter.srSendArpReply sr packet interface) := by
  unfold srSendArpReply SrRouter.srSendArpReply
  cases srGetInterface sr.ifList interface with
  | none => exact .pure ()
  | some outIface =>
      have hframe : arpReplyFrame outIface packet =
          some (SrRouter.arpReplyFrame outIface packet) := by
        rw [arpReplyFrame, loadMac_eq (by omega), load32?_eq (by omega)]
        exact arpFrame_eq _ outIface (arSha packet) (arSha packet) (arSip packet)
      simp only [hframe, access_some]
      exact sound_srSendPacket ..

theorem sound_srSendIcmpEchoReply (sr : Config) {packet : Frame} (h : HeaderOk packet)
    (hlong : SrRouter.ipHeaderLen packet + sizeofIcmpT08Hdr ≤ SrRouter.ipLen packet)
    (interface : Name) : Sound (srSendIcmpEchoReply sr packet interface)
      (SrRouter.srSendIcmpEchoReply sr packet interface) := by
  unfold srSendIcmpEchoReply SrRouter.srSendIcmpEchoReply
  cases srGetInterface sr.ifList interface with
  | none => exact .pure ()
  | some outIface =>
      simp only [echoReplyFrame_eq h hlong, access_some]
      exact sound_srSendPacket ..

theorem sound_srSendRoutedIpPacket (sr : Config) (origin : Origin) {packet : Frame}
    (h : 34 ≤ packet.length) : Sound (srSendRoutedIpPacket sr origin packet)
      (SrRouter.srSendRoutedIpPacket sr origin packet) := by
  unfold srSendRoutedIpPacket SrRouter.srSendRoutedIpPacket
  rw [load32?_eq (by omega), access_some]
  simp only [ipDst]
  cases srFindLpmRoute sr.routingTable (load32 packet 30) with
  | none => exact .pure ()
  | some route =>
      simp only
      cases srGetInterface sr.ifList route.interface with
      | none => exact .pure ()
      | some outIface =>
          simp only
          rw [slice?_eq (by omega), access_some, slice_zero_length, storeMac_eq _ (by omega),
            access_some]
          refine Sound.bind (.calls _) fun entry => ?_
          cases entry with
          | some entry =>
              simp only
              rw [storeMac_eq _ (by rw [length_storeMac]; omega), access_some,
                storeMac_eq _ (by rw [length_storeMac, length_storeMac]; omega), access_some]
              exact sound_srSendPacket ..
          | none =>
              simp only
              rw [slice?_eq (by simp), access_some, slice_zero_length]
              refine Sound.bind (.calls _) fun req => Sound.bind (.calls _) fun r => ?_
              refine .ite (fun _ => ?_) fun _ => .pure ()
              refine Sound.bind (.calls _) fun r => ?_
              refine Sound.bind (sound_srSendArpRequest ..) fun _ => ?_
              refine Sound.bind (.calls _) fun now => ?_
              exact Sound.bind (.calls _) fun _ => .calls _

theorem sound_srSendIcmpError (sr : Config) (pkt : Option SrPacket) (packet : Frame)
    (type code : UInt8) : Sound (srSendIcmpError sr pkt packet type code)
      (SrRouter.srSendIcmpError sr pkt packet type code) := by
  unfold srSendIcmpError SrRouter.srSendIcmpError
  refine Sound.bind (.calls _) fun _ => ?_
  simp only [valid_eq, SrRouter.validIpPacketInPlace_eq, access_some]
  cases hvalid : srValidIpPacket packet with
  | false => exact .pure ()
  | true =>
      have hok := headerOk_of_valid hvalid
      have hlen := hok.length_ge
      simp only [Bool.not_true, Bool.false_eq_true, if_false]
      rw [load32?_eq (by omega), access_some, srFindIcmpSourceIface_eq sr (by omega), access_some]
      simp only [ipSrc]
      cases SrRouter.srFindIcmpSourceIface sr packet (load32 packet 26) with
      | none => exact .pure ()
      | some outIface =>
          simp only
          rw [icmpErrorFrame_eq hok, access_some]
          refine Sound.bind (.calls _) fun _ => sound_srSendRoutedIpPacket _ _ ?_
          rw [(icmpErrorFrame_ok outIface packet type code).length]
          omega

theorem sound_srForwardIpPacket (sr : Config) {packet : Frame} (h : 34 ≤ packet.length) :
    Sound (srForwardIpPacket sr packet) (SrRouter.srForwardIpPacket sr packet) := by
  unfold srForwardIpPacket SrRouter.srForwardIpPacket
  rw [load32?_eq (by omega), access_some]
  exact .ite (fun _ => sound_srSendIcmpError ..) fun _ => sound_srSendRoutedIpPacket _ _ h

/-! ### Received frames -/

theorem sound_srHandleIp (sr : Config) (packet : Frame) (interface : Name) :
    Sound (srHandleIp sr packet interface) (SrRouter.srHandleIp sr packet interface) := by
  unfold srHandleIp SrRouter.srHandleIp
  simp only [valid_eq, SrRouter.validIpPacketInPlace_eq, access_some]
  cases hvalid : srValidIpPacket packet with
  | false => exact .pure ()
  | true =>
      have hok := headerOk_of_valid hvalid
      have hlen := hok.length_ge
      simp only [Bool.not_true, Bool.false_eq_true, if_false]
      rw [ipHeaderLen_eq (by omega), access_some, load32?_eq (by omega), access_some]
      refine .ite (fun _ => ?_) fun _ => ?_
      · rw [load8?_eq (by omega), access_some, ipLen_eq (by omega), access_some]
        refine .ite (fun hicmp => ?_) fun _ => ?_
        · -- the message has at least the header that is read of it
          have hoff := (icmp_bounds hok hicmp.2).2.1
          rw [icmpSumInPlace_eq hok hicmp.2, access_some, load8?_eq (by omega), access_some,
            SrRouter.icmpSumInPlace_eq]
          exact .ite (fun _ => sound_srSendIcmpEchoReply sr hok hicmp.2 interface) fun _ => .pure ()
        · exact .ite (fun _ => sound_srSendIcmpError ..) fun _ => .pure ()
      · rw [load8?_eq (by omega), access_some]
        refine .ite (fun _ => sound_srSendIcmpError ..) fun _ => ?_
        rw [decrementTtl_eq hok, access_some]
        refine sound_srForwardIpPacket sr ?_
        simp only [SrRouter.decrementTtl, length_setIpSum, length_setIpTtl]
        omega

theorem sound_flushPackets (sr : Config) {packet : Frame} (h : 42 ≤ packet.length)
    {packets : List SrPacket} (hpackets : ∀ pkt ∈ packets, srValidIpPacket pkt.buf = true) :
    Sound (flushPackets sr (arSip packet) packet packets)
      (SrRouter.flushPackets sr (arSip packet) (arSha packet) packets) := by
  induction packets with
  | nil => exact .pure ()
  | cons pkt packets ih =>
      obtain ⟨hvalid, hrest⟩ := List.forall_mem_cons.mp hpackets
      have hlen := (headerOk_of_valid hvalid).length_ge
      unfold flushPackets SrRouter.flushPackets
      simp only
      cases srGetInterface sr.ifList pkt.iface with
      | none => exact ih hrest
      | some outIface =>
          simp only
          rw [loadMac_eq (by omega), access_some, storeMac_eq _ (by omega), access_some,
            storeMac_eq _ (by rw [length_storeMac]; omega), access_some]
          exact Sound.bind (sound_srSendPacket ..) fun _ => ih hrest

section

variable {sr : Config} {packet : Frame} {s : Store}
  (hqueued : ∀ r ∈ s.requests, ∀ pkt ∈ r.packets, srValidIpPacket pkt.buf = true)

include hqueued

theorem soundFrom_srCacheArpMapping (h : 42 ≤ packet.length) :
    SoundFrom exec s (srCacheArpMapping sr packet) (SrRouter.srCacheArpMapping sr packet) := by
  unfold srCacheArpMapping SrRouter.srCacheArpMapping
  rw [loadMac_eq (by omega), access_some, load32?_eq (by omega), access_some]
  refine SoundFrom.bind (Sound.calls _).soundFrom ?_
  have hanswer : ((Call.insert (arSha packet) (arSip packet)).run exec s).1 =
      s.requests.find? fun r => r.ip == arSip packet := rfl
  rw [hanswer]
  cases hfind : s.requests.find? fun r => r.ip == arSip packet with
  | none => exact (Sound.pure ()).soundFrom
  | some r =>
      have hpackets := hqueued r (List.mem_of_find?_eq_some hfind)
      exact (Sound.bind (sound_flushPackets sr h hpackets) fun _ => .calls _).soundFrom

theorem soundFrom_srHandleArp (interface : Name) : SoundFrom exec s
    (srHandleArp sr packet interface) (SrRouter.srHandleArp sr packet interface) := by
  unfold srHandleArp SrRouter.srHandleArp
  refine .ite (fun _ => (Sound.pure ()).soundFrom) fun hlen => ?_
  have h : 42 ≤ packet.length := Nat.not_lt.mp hlen
  cases srGetInterface sr.ifList interface with
  | none => exact (Sound.pure ()).soundFrom
  | some recvIface =>
      simp only
      rw [load32?_eq (by omega), access_some]
      refine .ite (fun _ => (Sound.pure ()).soundFrom) fun _ => ?_
      rw [arOp_eq (by omega), access_some, load32?_eq (by omega)]
      simp only [access_some]
      refine .ite (fun _ => ?_) fun _ => .ite (fun _ => ?_) fun _ => (Sound.pure ()).soundFrom
      · refine SoundFrom.bind (soundFrom_srCacheArpMapping hqueued h) (Sound.soundFrom ?_)
        exact .ite (fun _ => sound_srSendArpReply sr h interface) fun _ => .pure ()
      · exact .ite (fun _ => (Sound.pure ()).soundFrom) fun _ =>
          soundFrom_srCacheArpMapping hqueued h

/-- **Packet processing stays inside its buffers.** Whatever is received, on
whatever interface, as long as every packet on the queue is valid, no access
of any function on the way misses its buffer and no difference of lengths
wraps: the run with all checks ends without a fault, in the state in which the
run without them ends. -/
theorem srHandlepacket_in_bounds (interface : Name) :
    (srHandlepacket sr packet interface).run.run exec s =
      (some (), ((SrRouter.srHandlepacket sr packet interface).run exec s).2) := by
  show SoundFrom exec s _ _
  unfold srHandlepacket SrRouter.srHandlepacket
  refine .ite (fun _ => (Sound.pure ()).soundFrom) fun hlen => ?_
  have h : 14 ≤ packet.length := Nat.not_lt.mp hlen
  rw [ethertype_eq h, access_some]
  refine .ite (fun _ => soundFrom_srHandleArp hqueued interface) fun _ => ?_
  exact .ite (fun _ => (sound_srHandleIp sr packet interface).soundFrom) fun _ =>
    (Sound.pure ()).soundFrom

end

/-- No run of the router leads out of a buffer. -/
theorem srHandlepacket_in_bounds_of_reachable {sr : SrInstance} (hsr : sr.Reachable) (now : Int)
    (packet : Frame) (interface : Name) :
    (srHandlepacket sr.config packet interface).run.run exec (sr.store.setNow now) =
      (some (), (sr.step (.recv now packet interface)).store) :=
  srHandlepacket_in_bounds (s := sr.store.setNow now)
    (fun r hr pkt hpkt => (hsr.healthy.packets r hr pkt hpkt).valid) interface

/-- The mapping that releases the packet waiting on the queue. -/
theorem srHandlepacket_in_bounds_twoNetworks :
    (srHandlepacket twoNetworks askingFrame eth1.name).run.run exec crossingWaits.store =
      (some (), ((SrRouter.srHandlepacket twoNetworks askingFrame eth1.name).run exec
        crossingWaits.store).2) := by
  have hs : Healthy crossingWaits.config crossingWaits.store := SrInstance.run_healthy ..
  exact srHandlepacket_in_bounds (fun r hr pkt hpkt => (hs.packets r hr pkt hpkt).valid) eth1.name

end SrRouter.Checked
