import SrRouter.Forwarding

/-!
What an ICMP error quotes of the packet it is about.

The data field of the message has a fixed size, that of a header without
options and eight bytes behind it. The quote is the IP packet from its header
on, cut off where it or the field ends. A header with options leaves less room
for the payload, and a long one does not even fit itself.
-/

namespace SrRouter

open ByteBuffer Interactive

/-- How much of a packet is to be quoted: its header and the first eight
bytes of the payload, or all of it. -/
def quoteLen (f : Frame) : Nat := ipHeaderLen f + min 8 (ipLen f - ipHeaderLen f)

def icmpData (reply : Frame) : Bytes := slice reply 42 icmpDataSize

/-- The data field starts with all that is to be quoted. -/
def CompleteQuote (packet reply : Frame) : Prop :=
  slice packet 14 (quoteLen packet) <+: icmpData reply

/-- The data field holds the packet from its header on, as far as both go. -/
theorem load8_icmpErrorFrame (outIface : SrIf) (old : Frame) (type code : UInt8) {j : Nat}
    (hlen : j < ipLen old) (hsize : j < icmpDataSize) (hfits : 14 + ipLen old ≤ old.length) :
    load8 (icmpErrorFrame outIface old type code) (42 + j) = load8 old (14 + j) := by
  obtain ⟨b, sum, hb, hframe⟩ : ∃ b sum, b.length = 70 ∧ icmpErrorFrame outIface old type code =
      store16 (store16 (blit b 42 (slice old 14 (min (ipLen old) icmpDataSize))) 36 0) 36 sum :=
    ⟨_, _, by simp [sizeofEthernetHdr, sizeofIpHdr, sizeofIcmpT11Hdr, icmpDataSize], rfl⟩
  have hcopied : (slice old 14 (min (ipLen old) icmpDataSize)).length =
      min (ipLen old) icmpDataSize := by
    rw [length_slice]
    omega
  have hmin : j < min (ipLen old) icmpDataSize := Nat.lt_min.mpr ⟨hlen, hsize⟩
  rw [icmpDataSize] at hsize
  rw [hframe, store16, store16, load8_blit_apart (.inr (by rw [length_bytes16]; omega)),
    load8_blit_apart (.inr (by rw [length_bytes16]; omega)), load8_blit,
    if_pos ⟨by omega, by omega, by omega⟩, Nat.add_sub_cancel_left, load8_slice, if_pos hmin]

theorem completeQuote_iff {packet : Frame} (hvalid : srValidIpPacket packet = true)
    (outIface : SrIf) (type code : UInt8) :
    CompleteQuote packet (icmpErrorFrame outIface packet type code) ↔
      quoteLen packet ≤ icmpDataSize := by
  have hok := headerOk_of_valid hvalid
  have hfits := hok.ipLen_fits
  have hge := hok.ipLen_ge
  rw [sizeofEthernetHdr] at hfits
  have hquote : quoteLen packet ≤ ipLen packet := by
    rw [quoteLen]
    omega
  have hfield := (icmpErrorFrame_ok outIface packet type code).length
  constructor
  · -- what is longer than the field is no prefix of it
    intro hprefix
    have hle := hprefix.length_le
    rw [icmpData, length_slice, length_slice, hfield] at hle
    omega
  · intro hsize
    have htake : slice packet 14 (quoteLen packet) =
        (icmpData (icmpErrorFrame outIface packet type code)).take (quoteLen packet) := by
      have hlen : (slice packet 14 (quoteLen packet)).length = quoteLen packet := by
        rw [length_slice]
        omega
      refine ext_load8 ?_ fun j hj => ?_
      · rw [hlen, List.length_take, icmpData, length_slice, hfield]
        rw [icmpDataSize] at hsize ⊢
        omega
      · rw [hlen] at hj
        have hread : load8 ((icmpData (icmpErrorFrame outIface packet type code)).take
            (quoteLen packet)) j = load8 (icmpErrorFrame outIface packet type code) (42 + j) := by
          rw [icmpData, slice, List.take_take, Nat.min_eq_left hsize]
          exact (load8_slice _ 42 _ j).trans (if_pos hj)
        rw [hread, load8_icmpErrorFrame outIface packet type code (by omega) (by omega) hfits,
          load8_slice, if_pos hj]
    rw [CompleteQuote, htake]
    exact List.take_prefix _ _

theorem srSendIcmpError_eq (sr : Config) (pkt : Option SrPacket) {packet : Frame}
    (type code : UInt8) (hvalid : srValidIpPacket packet = true) {outIface : SrIf}
    (hiface : srFindIcmpSourceIface sr packet (ipSrc packet) = some outIface) :
    srSendIcmpError sr pkt packet type code = (do
      Call.trace (.icmpError pkt type code packet)
      Call.trace (.icmpReply type code packet (icmpErrorFrame outIface packet type code))
      srSendRoutedIpPacket sr .icmpError (icmpErrorFrame outIface packet type code)) := by
  simp only [srSendIcmpError, validIpPacketInPlace_eq, hvalid, Bool.not_true, Bool.false_eq_true,
    if_false, hiface]

/-- **Quotes.** Whenever `sr_send_icmp_error` builds a message about a valid
packet, the message quotes the whole header and the first eight bytes of the
payload exactly when these fit into its data field. -/
theorem icmpError_quote_iff (sr : Config) (pkt : Option SrPacket) (packet : Frame)
    (type code : UInt8) (hvalid : srValidIpPacket packet = true) {outIface : SrIf}
    (hiface : srFindIcmpSourceIface sr packet (ipSrc packet) = some outIface) :
    ∃ reply, (srSendIcmpError sr pkt packet type code = do
        Call.trace (.icmpError pkt type code packet)
        Call.trace (.icmpReply type code packet reply)
        srSendRoutedIpPacket sr .icmpError reply) ∧
      (CompleteQuote packet reply ↔
        ipHeaderLen packet + min 8 (ipLen packet - ipHeaderLen packet) ≤ icmpDataSize) :=
  ⟨icmpErrorFrame outIface packet type code, srSendIcmpError_eq sr pkt type code hvalid hiface,
    completeQuote_iff hvalid outIface type code⟩

/-- A header without options and no payload fits. -/
theorem icmpError_quote_iff_crossing :
    ∃ reply, (srSendIcmpError twoNetworks none crossingFrame 11 0 = do
        Call.trace (.icmpError none 11 0 crossingFrame)
        Call.trace (.icmpReply 11 0 crossingFrame reply)
        srSendRoutedIpPacket twoNetworks .icmpError reply) ∧ CompleteQuote crossingFrame reply := by
  obtain ⟨reply, hcall, hquote⟩ := icmpError_quote_iff twoNetworks none crossingFrame 11 0
    (by decide) (show _ = some eth2 by decide)
  exact ⟨reply, hcall, hquote.mpr (by decide)⟩

/-- A UDP packet from 10.0.2.50 to 10.0.1.50 with four bytes of options and
eight bytes behind the header. -/
def optionsFrame : Frame :=
  [2, 0, 0, 0, 0, 2, 2, 0, 0, 0, 2, 50, 8, 0,
    0x46, 0, 0, 32, 0, 0, 0, 0, 1, 17, 0x9f, 0x69, 10, 0, 2, 50, 10, 0, 1, 50, 1, 1, 1, 0,
    0x13, 0x88, 0, 53, 0, 8, 0, 0]

/-- Only four of those are quoted. -/
theorem exists_incomplete_quote :
    ¬∀ sr pkt packet type code reply, srValidIpPacket packet = true →
      (srSendIcmpError sr pkt packet type code = do
        Call.trace (.icmpError pkt type code packet)
        Call.trace (.icmpReply type code packet reply)
        srSendRoutedIpPacket sr .icmpError reply) → CompleteQuote packet reply := by
  intro hall
  have hvalid : srValidIpPacket optionsFrame = true := by decide
  have hcall := srSendIcmpError_eq twoNetworks none 11 0 hvalid
    (show _ = some eth2 by decide)
  have hquote := hall twoNetworks none optionsFrame 11 0 _ hvalid hcall
  exact absurd ((completeQuote_iff hvalid eth2 11 0).mp hquote) (by decide)

end SrRouter
