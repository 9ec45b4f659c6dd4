import SrRouter.Router

/-!
What the frames that the router builds look like.

Two facts carry everything. A frame whose IP header passes the length checks
is valid as soon as its checksum field holds the checksum of the header with
that field cleared (`srValidIpPacket_refresh`), and no store behind the
header disturbs that (`srValidIpPacket_blit`). And nothing but the two
hardware addresses is rewritten once a packet is queued, so a queued packet
keeps whatever depends on the bytes behind them (`SameBody`).
-/

namespace SrRouter

open ByteBuffer CString

/-! ### Hardware addresses -/

theorem loadMac_storeMac {b : Bytes} {i : Nat} {mac : Mac} (h : i + 6 ≤ b.length) :
    loadMac (storeMac b i mac) i = mac := by
  obtain ⟨bytes, hbytes⟩ := mac
  obtain ⟨a0, a1, a2, a3, a4, a5, rfl⟩ : ∃ a0 a1 a2 a3 a4 a5, bytes = [a0, a1, a2, a3, a4, a5] := by
    rcases bytes with _ | ⟨a0, _ | ⟨a1, _ | ⟨a2, _ | ⟨a3, _ | ⟨a4, _ | ⟨a5, _ | ⟨a6, rest⟩⟩⟩⟩⟩⟩⟩ <;>
      simp at hbytes
    exact ⟨a0, a1, a2, a3, a4, a5, rfl⟩
  have hread : ∀ k < 6, load8 (blit b i [a0, a1, a2, a3, a4, a5]) (i + k) =
      load8 [a0, a1, a2, a3, a4, a5] k := by
    intro k hk
    rw [load8_blit, if_pos (by simp; omega), Nat.add_sub_cancel_left]
  simp only [loadMac, storeMac, Mac.mk.injEq]
  rw [show load8 (blit b i [a0, a1, a2, a3, a4, a5]) i = a0 from hread 0 (by omega),
    hread 1 (by omega), hread 2 (by omega), hread 3 (by omega), hread 4 (by omega),
    hread 5 (by omega)]
  rfl

theorem loadMac_blit_apart {b : Bytes} {i : Nat} {xs : Bytes} {j : Nat}
    (h : Apart i xs.length j 6) : loadMac (blit b i xs) j = loadMac b j := by
  have hfirst : load8 (blit b i xs) j = load8 b j := load8_blit_apart (h.window 0 (by decide))
  rw [loadMac, loadMac, hfirst, load8_blit_apart (h.window 1 (by decide)),
    load8_blit_apart (h.window 2 (by decide)), load8_blit_apart (h.window 3 (by decide)),
    load8_blit_apart (h.window 4 (by decide)), load8_blit_apart (h.window 5 (by decide))]

@[simp] theorem length_storeMac (b : Bytes) (i : Nat) (mac : Mac) :
    (storeMac b i mac).length = b.length := length_blit ..

@[simp] theorem length_setEtherDhost (f : Frame) (mac : Mac) :
    (setEtherDhost f mac).length = f.length := length_blit ..

@[simp] theorem length_setEtherShost (f : Frame) (mac : Mac) :
    (setEtherShost f mac).length = f.length := length_blit ..

@[simp] theorem length_setEtherType (f : Frame) (v : UInt16) :
    (setEtherType f v).length = f.length := length_blit ..

@[simp] theorem length_setIpSum (f : Frame) (v : UInt16) :
    (setIpSum f v).length = f.length := length_blit ..

@[simp] theorem length_setIpTtl (f : Frame) (v : UInt8) :
    (setIpTtl f v).length = f.length := length_blit ..

@[simp] theorem length_setIpSrc (f : Frame) (v : UInt32) :
    (setIpSrc f v).length = f.length := length_blit ..

@[simp] theorem length_setIpDst (f : Frame) (v : UInt32) :
    (setIpDst f v).length = f.length := length_blit ..

theorem etherShost_setEtherShost {f : Frame} {mac : Mac} (h : 12 ≤ f.length) :
    etherShost (setEtherShost f mac) = mac := loadMac_storeMac (by omega)

theorem etherDhost_setEtherDhost {f : Frame} {mac : Mac} (h : 6 ≤ f.length) :
    etherDhost (setEtherDhost f mac) = mac := loadMac_storeMac (by omega)

theorem etherDhost_setEtherShost (f : Frame) (mac : Mac) :
    etherDhost (setEtherShost f mac) = etherDhost f :=
  loadMac_blit_apart (by simp [Apart, mac.length_eq])

theorem etherShost_blit {f : Frame} {i : Nat} {xs : Bytes} (h : 12 ≤ i) :
    etherShost (blit f i xs) = etherShost f :=
  loadMac_blit_apart (.inl h)

/-! ### Frames that differ in their addresses only -/

/-- The frames agree in everything behind the two hardware addresses. -/
structure SameBody (f g : Frame) : Prop where
  length_eq : f.length = g.length
  load8_eq : ∀ j, 12 ≤ j → load8 f j = load8 g j

theorem SameBody.refl (f : Frame) : SameBody f f := ⟨rfl, fun _ _ => rfl⟩

theorem SameBody.symm {f g : Frame} (h : SameBody f g) : SameBody g f :=
  ⟨h.length_eq.symm, fun j hj => (h.load8_eq j hj).symm⟩

theorem SameBody.trans {f g k : Frame} (h : SameBody f g) (h' : SameBody g k) : SameBody f k :=
  ⟨h.length_eq.trans h'.length_eq, fun j hj => (h.load8_eq j hj).trans (h'.load8_eq j hj)⟩

theorem sameBody_setEtherDhost (f : Frame) (mac : Mac) : SameBody (setEtherDhost f mac) f :=
  ⟨by simp, fun j hj => load8_blit_apart (by simp only [Apart, mac.length_eq]; omega)⟩

theorem sameBody_setEtherShost (f : Frame) (mac : Mac) : SameBody (setEtherShost f mac) f :=
  ⟨by simp, fun j hj => load8_blit_apart (by simp only [Apart, mac.length_eq]; omega)⟩

namespace SameBody

variable {f g : Frame} (h : SameBody f g)
include h

theorem load16_eq {j : Nat} (hj : 12 ≤ j) : load16 f j = load16 g j := by
  rw [load16, load16, h.load8_eq j hj, h.load8_eq (j + 1) (by omega)]

theorem load32_eq {j : Nat} (hj : 12 ≤ j) : load32 f j = load32 g j := by
  rw [load32, load32, h.load8_eq j hj, h.load8_eq (j + 1) (by omega),
    h.load8_eq (j + 2) (by omega), h.load8_eq (j + 3) (by omega)]

theorem slice_eq {j : Nat} (hj : 12 ≤ j) (n : Nat) : slice f j n = slice g j n := by
  refine ext_load8 (by simp [length_slice, h.length_eq]) fun i hi => ?_
  rw [load8_slice, load8_slice, h.load8_eq _ (by omega)]

theorem blit {i : Nat} {xs : Bytes} : SameBody (blit f i xs) (ByteBuffer.blit g i xs) := by
  refine ⟨by simp [h.length_eq], fun j hj => ?_⟩
  rw [load8_blit, load8_blit, h.length_eq, h.load8_eq j hj]

theorem ethertype_eq : ethertype f = ethertype g := by
  rw [ethertype, ethertype, h.load16_eq (by omega)]

theorem ipHeaderLen_eq : ipHeaderLen f = ipHeaderLen g := by
  rw [ipHeaderLen, ipHeaderLen, ipHl, ipHl, h.load8_eq 14 (by omega)]

theorem ipLen_eq : ipLen f = ipLen g := by rw [ipLen, ipLen, h.load16_eq (by omega)]

theorem ipSrc_eq : ipSrc f = ipSrc g := h.load32_eq (by omega)

theorem ipDst_eq : ipDst f = ipDst g := h.load32_eq (by omega)

theorem icmpOff_eq : icmpOff f = icmpOff g := by rw [icmpOff, icmpOff, h.ipHeaderLen_eq]

theorem icmpLen_eq : icmpLen f = icmpLen g := by
  rw [icmpLen, icmpLen, h.ipLen_eq, h.ipHeaderLen_eq]

end SameBody

/-! ### Validity -/

/-- The length and version checks of `sr_valid_ip_packet`. -/
structure HeaderOk (f : Frame) : Prop where
  version : ipV f = 4
  headerLen_ge : sizeofIpHdr ≤ ipHeaderLen f
  header_fits : sizeofEthernetHdr + ipHeaderLen f ≤ f.length
  ipLen_ge : ipHeaderLen f ≤ ipLen f
  ipLen_fits : sizeofEthernetHdr + ipLen f ≤ f.length

theorem HeaderOk.length_ge {f : Frame} (h : HeaderOk f) : 34 ≤ f.length := by
  have h1 := h.headerLen_ge
  have h2 := h.header_fits
  simp only [sizeofIpHdr, sizeofEthernetHdr] at h1 h2
  omega

theorem HeaderOk.icmpOff_ge {f : Frame} (h : HeaderOk f) : 34 ≤ icmpOff f := by
  have h1 := h.headerLen_ge
  simp only [sizeofIpHdr] at h1
  unfold icmpOff
  omega

def headerCksum (f : Frame) : UInt16 := cksum (slice (setIpSum f 0) 14 (ipHeaderLen f))

def icmpCksum (f : Frame) : UInt16 :=
  cksum (slice (store16 f (icmpOff f + 2) 0) (icmpOff f) (icmpLen f))

/-- `sr_valid_ip_packet` leaves the buffer as it was. -/
@[simp] theorem validIpPacketInPlace_eq (f : Frame) :
    validIpPacketInPlace f = (srValidIpPacket f, f) := by
  refine Prod.ext rfl ?_
  unfold validIpPacketInPlace
  split
  · rfl
  · split
    · rfl
    · exact (store16_store16 ..).trans (store16_load16 f 24)

@[simp] theorem icmpSumInPlace_eq (f : Frame) : icmpSumInPlace f = (icmpSumOk f, f) := by
  refine Prod.ext rfl ?_
  exact (store16_store16 ..).trans (store16_load16 f _)

theorem srValidIpPacket_iff {f : Frame} :
    srValidIpPacket f = true ↔ HeaderOk f ∧ ipSum f = headerCksum f := by
  unfold srValidIpPacket validIpPacketInPlace headerCksum
  split
  · next hshort =>
      refine iff_of_false (by simp) fun h => ?_
      have := h.1.length_ge
      simp only [sizeofEthernetHdr, sizeofIpHdr] at hshort
      omega
  · split
    · next hbad =>
        refine iff_of_false (by simp) fun ⟨h, _⟩ => ?_
        obtain ⟨h1, h2, h3, h4, h5⟩ := h
        simp only [ne_eq, h1, not_true_eq_false, decide_false, Bool.false_or,
          Bool.or_eq_true, decide_eq_true_eq] at hbad
        omega
    · next hgood =>
        simp only [ne_eq, Bool.or_eq_true, decide_eq_true_eq, not_or, Nat.not_lt,
          Decidable.not_not] at hgood
        obtain ⟨⟨⟨⟨h1, h2⟩, h3⟩, h4⟩, h5⟩ := hgood
        simp only [beq_iff_eq]
        exact ⟨fun h => ⟨⟨h1, h2, h3, h4, h5⟩, h⟩, fun h => h.2⟩

theorem headerOk_of_valid {f : Frame} (h : srValidIpPacket f = true) : HeaderOk f :=
  (srValidIpPacket_iff.mp h).1

theorem icmpSumOk_iff {f : Frame} : icmpSumOk f = true ↔ icmpSum f = icmpCksum f := by
  simp [icmpSumOk, icmpSumInPlace, icmpCksum]

theorem headerFields_blit {f : Frame} {i : Nat} (xs : Bytes)
    (h : 18 ≤ i ∨ i + xs.length ≤ 14) :
    ipV (blit f i xs) = ipV f ∧ ipHeaderLen (blit f i xs) = ipHeaderLen f ∧
      ipLen (blit f i xs) = ipLen f := by
  have h14 : load8 (blit f i xs) 14 = load8 f 14 := load8_blit_apart (by unfold Apart; omega)
  have h16 : load16 (blit f i xs) 16 = load16 f 16 := load16_blit_apart (by unfold Apart; omega)
  simp only [ipV, ipHeaderLen, ipHl, ipLen, h14, h16, and_self]

theorem HeaderOk.blit {f : Frame} {i : Nat} {xs : Bytes} (hf : HeaderOk f)
    (h : 18 ≤ i ∨ i + xs.length ≤ 14) : HeaderOk (blit f i xs) := by
  obtain ⟨hv, hhl, hlen⟩ := headerFields_blit (f := f) xs h
  refine ⟨hv ▸ hf.version, hhl ▸ hf.headerLen_ge, ?_, ?_, ?_⟩
  · rw [hhl, length_blit]
    exact hf.header_fits
  · rw [hhl, hlen]
    exact hf.ipLen_ge
  · rw [hlen, length_blit]
    exact hf.ipLen_fits

/-- The checksum a header should carry does not depend on the one it has. -/
theorem headerCksum_setIpSum (f : Frame) (v : UInt16) :
    headerCksum (setIpSum f v) = headerCksum f := by
  have hcleared : setIpSum (setIpSum f v) 0 = setIpSum f 0 := store16_store16 ..
  have hhl : ipHeaderLen (setIpSum f v) = ipHeaderLen f :=
    (headerFields_blit _ (.inl (by omega))).2.1
  rw [headerCksum, hcleared, hhl, headerCksum]

theorem srValidIpPacket_refresh {f : Frame} (h : HeaderOk f) :
    srValidIpPacket (setIpSum (setIpSum f 0) (headerCksum f)) = true := by
  have hsum : setIpSum (setIpSum f 0) (headerCksum f) = setIpSum f (headerCksum f) :=
    store16_store16 ..
  have hread : ipSum (setIpSum f (headerCksum f)) = headerCksum f :=
    load16_store16 (by have := h.length_ge; omega)
  rw [hsum]
  refine srValidIpPacket_iff.mpr ⟨h.blit (.inl (by omega)), ?_⟩
  rw [hread, headerCksum_setIpSum]

theorem srValidIpPacket_blit {f : Frame} {i : Nat} {xs : Bytes}
    (h : srValidIpPacket f = true) (hi : icmpOff f ≤ i) : srValidIpPacket (blit f i xs) = true := by
  obtain ⟨hok, hsum⟩ := srValidIpPacket_iff.mp h
  have hoff := hok.icmpOff_ge
  refine srValidIpPacket_iff.mpr ⟨hok.blit (.inl (by omega)), ?_⟩
  have hread : ipSum (blit f i xs) = ipSum f :=
    load16_blit_apart (.inl (by omega))
  have hcomm : setIpSum (blit f i xs) 0 = blit (setIpSum f 0) i xs :=
    blit_comm (by simp only [Apart, length_bytes16]; omega)
  rw [hread, hsum, headerCksum, headerCksum, (headerFields_blit _ (.inl (by omega))).2.1, hcomm,
    slice_blit_apart]
  exact .inl hi

theorem icmpOff_blit {f : Frame} {i : Nat} {xs : Bytes} (h : 18 ≤ i) :
    icmpOff (blit f i xs) = icmpOff f ∧ icmpLen (blit f i xs) = icmpLen f := by
  obtain ⟨-, hhl, hlen⟩ := headerFields_blit (f := f) xs (.inl h)
  rw [icmpOff, icmpLen, hhl, hlen]
  exact ⟨rfl, rfl⟩

theorem icmpCksum_store16 {f : Frame} (h : HeaderOk f) (v : UInt16) :
    icmpCksum (store16 f (icmpOff f + 2) v) = icmpCksum f := by
  have hoff := h.icmpOff_ge
  have hoffEq : icmpOff (store16 f (icmpOff f + 2) v) = icmpOff f := (icmpOff_blit (by omega)).1
  have hlenEq : icmpLen (store16 f (icmpOff f + 2) v) = icmpLen f := (icmpOff_blit (by omega)).2
  rw [icmpCksum, hoffEq, hlenEq, store16_store16, icmpCksum]

theorem icmpSumOk_refresh {f : Frame} (h : HeaderOk f) (hfits : icmpOff f + 4 ≤ f.length) :
    icmpSumOk (store16 (store16 f (icmpOff f + 2) 0) (icmpOff f + 2) (icmpCksum f)) = true := by
  have hoff := h.icmpOff_ge
  rw [store16_store16, icmpSumOk_iff, icmpCksum_store16 h, icmpSum,
    show icmpOff (store16 f (icmpOff f + 2) (icmpCksum f)) = icmpOff f from
      (icmpOff_blit (by omega)).1, load16_store16 (by omega)]

theorem message_refresh {f : Frame} (h : srValidIpPacket f = true)
    (hfits : icmpOff f + 4 ≤ f.length) :
    srValidIpPacket (store16 (store16 f (icmpOff f + 2) 0) (icmpOff f + 2) (icmpCksum f)) = true ∧
    icmpSumOk (store16 (store16 f (icmpOff f + 2) 0) (icmpOff f + 2) (icmpCksum f)) = true := by
  have hoff := (headerOk_of_valid h).icmpOff_ge
  have hcleared : srValidIpPacket (store16 f (icmpOff f + 2) 0) = true :=
    srValidIpPacket_blit h (by omega)
  refine ⟨srValidIpPacket_blit hcleared ?_, icmpSumOk_refresh (headerOk_of_valid h) hfits⟩
  rw [store16, (icmpOff_blit (by omega)).1]
  omega

theorem SameBody.headerOk {f g : Frame} (h : SameBody f g) (hg : HeaderOk g) : HeaderOk f := by
  have hv : ipV f = ipV g := by rw [ipV, ipV, h.load8_eq 14 (by omega)]
  refine ⟨hv ▸ hg.version, h.ipHeaderLen_eq ▸ hg.headerLen_ge, ?_, ?_, ?_⟩
  · rw [h.ipHeaderLen_eq, h.length_eq]
    exact hg.header_fits
  · rw [h.ipHeaderLen_eq, h.ipLen_eq]
    exact hg.ipLen_ge
  · rw [h.ipLen_eq, h.length_eq]
    exact hg.ipLen_fits

theorem SameBody.valid {f g : Frame} (h : SameBody f g) (hg : srValidIpPacket g = true) :
    srValidIpPacket f = true := by
  obtain ⟨hok, hsum⟩ := srValidIpPacket_iff.mp hg
  refine srValidIpPacket_iff.mpr ⟨h.headerOk hok, ?_⟩
  have hread : ipSum f = ipSum g := h.load16_eq (by omega)
  rw [hread, hsum, headerCksum, headerCksum, h.ipHeaderLen_eq]
  congr 1
  exact (h.blit.slice_eq (by omega) _).symm

theorem SameBody.icmpSumOk {f g : Frame} (h : SameBody f g) (hg : icmpSumOk g = true) :
    icmpSumOk f = true := by
  rw [icmpSumOk_iff] at hg ⊢
  have hread : icmpSum f = icmpSum g := by
    rw [icmpSum, icmpSum, h.icmpOff_eq]
    exact h.load16_eq (by unfold icmpOff; omega)
  rw [hread, hg, icmpCksum, icmpCksum, h.icmpOff_eq, h.icmpLen_eq]
  congr 1
  exact (h.blit.slice_eq (by unfold icmpOff; omega) _).symm

/-! ### The frames that are built -/

theorem decrementTtl_valid {f : Frame} (h : HeaderOk f) :
    srValidIpPacket (decrementTtl f) = true := by
  have hok : HeaderOk (setIpTtl f (ipTtl f - 1)) := h.blit (.inl (by omega))
  have hhl : ipHeaderLen (setIpTtl f (ipTtl f - 1)) = ipHeaderLen f :=
    (headerFields_blit _ (.inl (by omega))).2.1
  have hvalid := srValidIpPacket_refresh hok
  rwa [headerCksum, hhl] at hvalid

@[simp] theorem length_decrementTtl (f : Frame) : (decrementTtl f).length = f.length := by
  simp [decrementTtl]

theorem load8_decrementTtl {f : Frame} {j : Nat} (h : j ≠ 22) (h' : j ≠ 24) (h'' : j ≠ 25) :
    load8 (decrementTtl f) j = load8 f j := by
  simp only [decrementTtl, setIpSum, setIpTtl, store16, store8]
  rw [load8_blit_apart (by simp only [Apart, length_bytes16]; omega),
    load8_blit_apart (by simp only [Apart, length_bytes16]; omega),
    load8_blit_apart (by simp only [Apart, List.length_singleton]; omega)]

theorem ipTtl_decrementTtl {f : Frame} (h : HeaderOk f) :
    ipTtl (decrementTtl f) = ipTtl f - 1 := by
  have hlen := h.length_ge
  have hread : ipTtl (setIpTtl f (ipTtl f - 1)) = ipTtl f - 1 := load8_store8 (by omega)
  simp only [decrementTtl, setIpSum, store16]
  rw [ipTtl, load8_blit_apart (by simp [Apart]), load8_blit_apart (by simp [Apart])]
  exact hread

theorem ipSrc_decrementTtl (f : Frame) : ipSrc (decrementTtl f) = ipSrc f := by
  simp only [ipSrc, load32]
  simp (disch := omega) only [load8_decrementTtl]

theorem ipDst_decrementTtl (f : Frame) : ipDst (decrementTtl f) = ipDst f := by
  simp only [ipDst, load32]
  simp (disch := omega) only [load8_decrementTtl]

/-! ### ICMP errors -/

/-- The fields of an ICMP error up to the point where its IP header lacks
only the checksum, in the buffer `b`. -/
def errorHeader (b : Frame) (outIface : SrIf) (old : Frame) : Frame :=
  let b := setEtherDhost b (etherShost old)
  let b := setEtherShost b outIface.addr
  let b := setEtherType b ethertypeIp
  let b := store8 b 14 (4 * 16 + 5)
  let b := store8 b 15 0
  let b := store16 b 16 (htons (UInt16.ofNat (sizeofIpHdr + sizeofIcmpT11Hdr)))
  let b := store16 b 18 0
  let b := store16 b 20 0
  let b := setIpTtl b initTtl
  let b := store8 b 23 ipProtocolIcmp
  let b := setIpSrc b outIface.ip
  setIpDst b (ipSrc old)

theorem errorHeader_fields {b : Frame} (hb : b.length = 70) (outIface : SrIf) (old : Frame) :
    load8 (errorHeader b outIface old) 14 = 69 ∧
    load16 (errorHeader b outIface old) 16 = htons 56 ∧
    load8 (errorHeader b outIface old) 23 = 1 ∧
    load16 (errorHeader b outIface old) 12 = htons ethertypeIp ∧
    ipSrc (errorHeader b outIface old) = outIface.ip ∧
    ipDst (errorHeader b outIface old) = ipSrc old := by
  simp only [errorHeader, setIpDst, setIpSrc, setIpTtl, setEtherType, setEtherShost, setEtherDhost,
    ipSrc, ipDst, store8, store16, store32, storeMac]
  simp (disch := (simp only [Apart, hb, length_blit, length_bytes16, length_bytes32, Mac.length_eq,
    List.length_cons, List.length_nil]; omega)) only [load8_blit_apart, load16_blit_apart,
    load32_blit_apart, load8_blit_self, load16_blit_self, load32_blit_self]
  exact ⟨rfl, rfl, rfl, trivial, trivial, trivial⟩

structure ErrorFrame (outIface : SrIf) (old : Frame) (type : UInt8) (reply : Frame) : Prop where
  length : reply.length = 70
  ethertype : ethertype reply = ethertypeIp
  valid : srValidIpPacket reply = true
  sumOk : icmpSumOk reply = true
  proto : ipP reply = ipProtocolIcmp
  type : icmpType reply = type
  src : ipSrc reply = outIface.ip
  dst : ipDst reply = ipSrc old

/-- An ICMP error behind its header `b`, but for the checksum of the message. -/
def errorMessage (b : Frame) (old : Frame) (type code : UInt8) : Frame :=
  let b := setIpSum b 0
  let b := setIpSum b (cksum (slice b 14 sizeofIpHdr))
  let b := store8 b 34 type
  let b := store8 b 35 code
  let b := store32 b 38 0
  blit b 42 (slice old 14 (min (ipLen old) icmpDataSize))

theorem errorMessage_fields {header : Frame} (hlen : header.length = 70) (old : Frame)
    (type code : UInt8) :
    (∀ j, j ≤ 22 → load16 (errorMessage header old type code) j = load16 header j) ∧
    load8 (errorMessage header old type code) 23 = load8 header 23 ∧
    load8 (errorMessage header old type code) 34 = type ∧
    ipSrc (errorMessage header old type code) = ipSrc header ∧
    ipDst (errorMessage header old type code) = ipDst header := by
  simp only [errorMessage, setIpSum, store8, store16, store32, ipSrc, ipDst]
  refine ⟨fun j hj => ?_, ?_, ?_, ?_, ?_⟩
  all_goals
    simp (disch := (simp only [Apart, hlen, length_blit, length_bytes16, length_bytes32,
      List.length_cons, List.length_nil]; omega)) only [load8_blit_apart, load16_blit_apart,
      load32_blit_apart, load8_blit_self]

/-- Behind a header that is good but for its checksum, the message is valid. -/
theorem errorMessage_valid {header : Frame} (hok : HeaderOk header)
    (hhl : ipHeaderLen header = sizeofIpHdr) (old : Frame) (type code : UInt8) :
    srValidIpPacket (errorMessage header old type code) = true := by
  have hsealed := srValidIpPacket_refresh hok
  rw [headerCksum, hhl] at hsealed
  have hoff : icmpOff header = 34 := by rw [icmpOff, hhl]; rfl
  simp only [errorMessage, store8, store32]
  refine srValidIpPacket_blit (srValidIpPacket_blit (srValidIpPacket_blit (srValidIpPacket_blit
    hsealed ?_) ?_) ?_) ?_
  all_goals
    simp only [setIpSum, store16]
    simp (disch := omega) only [icmpOff_blit, hoff]
    omega

/-- **ICMP errors are well formed.** -/
theorem icmpErrorFrame_ok (outIface : SrIf) (old : Frame) (type code : UInt8) :
    ErrorFrame outIface old type (icmpErrorFrame outIface old type code) := by
  obtain ⟨b, hb, hframe⟩ : ∃ b : Frame, b.length = 70 ∧
      icmpErrorFrame outIface old type code =
        let b := errorMessage (errorHeader b outIface old) old type code
        let b := store16 b 36 0
        store16 b 36 (cksum (slice b 34 sizeofIcmpT11Hdr)) :=
    ⟨List.replicate 70 0, List.length_replicate, rfl⟩
  have hlen : (errorHeader b outIface old).length = 70 := by simp [errorHeader, hb]
  obtain ⟨h14, h16, h23, h12, hsrc, hdst⟩ := errorHeader_fields hb outIface old
  generalize errorHeader b outIface old = header at *
  have hhl : ipHeaderLen header = 20 := by rw [ipHeaderLen, ipHl, h14]; rfl
  have hil : ipLen header = 56 := by rw [ipLen, h16]; rfl
  have hok : HeaderOk header := by
    refine ⟨by rw [ipV, h14]; rfl, ?_, ?_, ?_, ?_⟩ <;>
      simp only [hhl, hil, hlen, sizeofIpHdr, sizeofEthernetHdr] <;> omega
  have hvalid := errorMessage_valid hok hhl old type code
  obtain ⟨g16, g23, g34, gsrc, gdst⟩ := errorMessage_fields hlen old type code
  have hmlen : (errorMessage header old type code).length = 70 := by simp [errorMessage, hlen]
  have hoff : icmpOff (errorMessage header old type code) = 34 ∧
      icmpLen (errorMessage header old type code) = 36 := by
    simp only [errorMessage, setIpSum, store8, store16, store32]
    simp (disch := omega) only [icmpOff_blit]
    rw [icmpOff, icmpLen, hhl, hil]
    exact ⟨rfl, rfl⟩
  obtain ⟨hv, hs⟩ := message_refresh hvalid (by omega)
  rw [icmpCksum, hoff.1, hoff.2] at hv hs
  rw [hframe]
  generalize errorMessage header old type code = message at *
  obtain ⟨reply, hreply⟩ : ∃ reply, reply = store16 (store16 message 36 0) 36
      (cksum (slice (store16 message 36 0) 34 sizeofIcmpT11Hdr)) := ⟨_, rfl⟩
  have hread8 {j : Nat} (hj : j < 36) : load8 reply j = load8 message j := by
    rw [hreply, store16, store16, load8_blit_apart (.inl hj), load8_blit_apart (.inl hj)]
  have hread32 {j : Nat} (hj : j ≤ 32) : load32 reply j = load32 message j := by
    rw [load32, load32, hread8 (by omega), hread8 (by omega), hread8 (by omega),
      hread8 (by omega)]
  have hreplyOff : icmpOff reply = 34 := by
    rw [icmpOff, ipHeaderLen, ipHl, hread8 (by omega)]
    exact hoff.1
  simp only [← hreply]
  refine ⟨by simp [hreply, hmlen], ?_, hreply ▸ hv, hreply ▸ hs, ?_, ?_, ?_, ?_⟩
  · rw [ethertype, load16, hread8 (by omega), hread8 (by omega)]
    rw [← load16, g16 12 (by omega), h12]
    rfl
  · rw [ipP, hread8 (by omega), g23, h23]
    rfl
  · rw [icmpType, hreplyOff, hread8 (by omega), g34]
  · rw [ipSrc, hread32 (by omega)]
    exact gsrc.trans hsrc
  · rw [ipDst, hread32 (by omega)]
    exact gdst.trans hdst
/-! ### Echo replies -/

structure EchoFrame (outIface : SrIf) (old : Frame) (reply : Frame) : Prop where
  length : reply.length = old.length
  shost : etherShost reply = outIface.addr
  ethertype : ethertype reply = ethertype old
  valid : srValidIpPacket reply = true
  sumOk : icmpSumOk reply = true

/-- The IP header of an echo reply, but for its checksum. -/
def echoHeader (outIface : SrIf) (packet : Frame) : Frame :=
  let b := setEtherDhost packet (etherShost packet)
  let b := setEtherShost b outIface.addr
  let oldSrc := ipSrc b
  let b := setIpSrc b (ipDst b)
  let b := setIpDst b oldSrc
  setIpTtl b initTtl

theorem echoHeader_ok {packet : Frame} (h : HeaderOk packet) (outIface : SrIf) :
    HeaderOk (echoHeader outIface packet) ∧
    ipHeaderLen (echoHeader outIface packet) = ipHeaderLen packet ∧
    ipLen (echoHeader outIface packet) = ipLen packet ∧
    etherShost (echoHeader outIface packet) = outIface.addr ∧
    ethertype (echoHeader outIface packet) = ethertype packet := by
  have hlen := h.length_ge
  obtain ⟨b, hb, hbody, hshost⟩ : ∃ b, b = setEtherShost (setEtherDhost packet (etherShost packet))
      outIface.addr ∧ SameBody b packet ∧ etherShost b = outIface.addr :=
    ⟨_, rfl, (sameBody_setEtherShost _ _).trans (sameBody_setEtherDhost _ _),
      etherShost_setEtherShost (by simp; omega)⟩
  have hok := hbody.headerOk h
  simp only [echoHeader, ← hb, setIpTtl, setIpDst, setIpSrc, store8, store32]
  refine ⟨((hok.blit (.inl (by omega))).blit (.inl (by omega))).blit (.inl (by omega)),
    ?_, ?_, ?_, ?_⟩
  · simp (disch := omega) only [headerFields_blit, hbody.ipHeaderLen_eq]
  · simp (disch := omega) only [headerFields_blit, hbody.ipLen_eq]
  · simp (disch := omega) only [etherShost_blit, hshost]
  · rw [ethertype, load16_blit_apart (.inl (by omega)), load16_blit_apart (.inl (by omega)),
      load16_blit_apart (.inl (by omega))]
    exact hbody.ethertype_eq

theorem echoReplyFrame_ok {packet : Frame} (h : srValidIpPacket packet = true)
    (hicmp : ipHeaderLen packet + sizeofIcmpT08Hdr ≤ ipLen packet) (outIface : SrIf) :
    EchoFrame outIface packet (echoReplyFrame outIface packet) := by
  have hok := headerOk_of_valid h
  have hframe : echoReplyFrame outIface packet =
      let b := echoHeader outIface packet
      let b := setIpSum (setIpSum b 0) (cksum (slice (setIpSum b 0) 14 (ipHeaderLen packet)))
      let b := store8 (store8 b (icmpOff packet) 0) (icmpOff packet + 1) 0
      store16 (store16 b (icmpOff packet + 2) 0) (icmpOff packet + 2)
        (cksum (slice (store16 b (icmpOff packet + 2) 0) (icmpOff packet) (icmpLen packet))) := rfl
  obtain ⟨hokHeader, hhl, hil, hshost, htype⟩ := echoHeader_ok hok outIface
  have hlen : (echoHeader outIface packet).length = packet.length := by simp [echoHeader]
  have hfits := hok.ipLen_fits
  have hoffGe := hok.icmpOff_ge
  have hoffHeader : icmpOff (echoHeader outIface packet) = icmpOff packet := by
    rw [icmpOff, icmpOff, hhl]
  have hlenHeader : icmpLen (echoHeader outIface packet) = icmpLen packet := by
    rw [icmpLen, icmpLen, hhl, hil]
  have hsealed := srValidIpPacket_refresh hokHeader
  rw [headerCksum, hhl] at hsealed
  rw [hframe]
  generalize echoHeader outIface packet = header at *
  obtain ⟨message, hmessage⟩ : ∃ message, message = store8 (store8 (setIpSum (setIpSum header 0)
      (cksum (slice (setIpSum header 0) 14 (ipHeaderLen packet)))) (icmpOff packet) 0)
      (icmpOff packet + 1) 0 := ⟨_, rfl⟩
  have hoff : icmpOff message = icmpOff packet ∧ icmpLen message = icmpLen packet := by
    simp only [hmessage, store8, setIpSum, store16]
    simp (disch := omega) only [icmpOff_blit, hoffHeader, hlenHeader, and_self]
  have hvalid : srValidIpPacket message = true := by
    rw [hmessage, store8, store8]
    refine srValidIpPacket_blit (srValidIpPacket_blit hsealed ?_) ?_
    all_goals
      simp only [setIpSum, store16]
      simp (disch := omega) only [icmpOff_blit, hoffHeader]
      omega
  have hmlen : message.length = packet.length := by simp [hmessage, hlen]
  obtain ⟨hv, hs⟩ := message_refresh hvalid (by
    rw [hoff.1, hmlen, icmpOff]
    simp only [sizeofEthernetHdr, sizeofIcmpT08Hdr] at hfits hicmp
    omega)
  rw [icmpCksum, hoff.1, hoff.2] at hv hs
  simp only [← hmessage]
  refine ⟨by simp [hmlen], ?_, ?_, hv, hs⟩
  · simp only [hmessage, store16, store8, setIpSum]
    simp (disch := omega) only [etherShost_blit, hshost]
  · rw [← htype]
    simp only [ethertype, hmessage, store16, store8, setIpSum]
    simp (disch := (unfold Apart; omega)) only [load16_blit_apart]

/-! ### ARP frames -/

structure ArpFrame (op : UInt16) (outIface : SrIf) (dhost : Mac) (tip : UInt32) (frame : Frame) :
    Prop where
  length : frame.length = 42
  dhost : etherDhost frame = dhost
  shost : etherShost frame = outIface.addr
  ethertype : ethertype frame = ethertypeArp
  op : arOp frame = op
  sip : arSip frame = outIface.ip
  tip : arTip frame = tip

theorem arpFrame_ok (op : UInt16) (outIface : SrIf) (dhost tha : Mac) (tip : UInt32) :
    ArpFrame op outIface dhost tip (arpFrame op outIface dhost tha tip) := by
  obtain ⟨b, hb, hframe⟩ : ∃ b : Frame, b.length = 42 ∧ arpFrame op outIface dhost tha tip =
      let b := setEtherDhost b dhost
      let b := setEtherShost b outIface.addr
      let b := setEtherType b ethertypeArp
      let b := store16 b 14 (htons arpHrdEthernet)
      let b := store16 b 16 (htons ethertypeIp)
      let b := store8 b 18 6
      let b := store8 b 19 4
      let b := store16 b 20 (htons op)
      let b := storeMac b 22 outIface.addr
      let b := store32 b 28 outIface.ip
      let b := storeMac b 32 tha
      store32 b 38 tip := ⟨List.replicate 42 0, List.length_replicate, rfl⟩
  have hmac {b : Bytes} {i : Nat} {mac : Mac} (h : i + 6 ≤ b.length) :
      loadMac (blit b i mac.bytes) i = mac := loadMac_storeMac h
  simp only [hframe, setEtherDhost, setEtherShost, setEtherType, store8, store16, store32, storeMac]
  refine ⟨by simp [hb], ?_, ?_, ?_, ?_, ?_, ?_⟩
  all_goals
    simp only [etherDhost, etherShost, ethertype, arOp, arSip, arTip]
    simp (disch := (simp only [Apart, hb, length_blit, length_bytes16, length_bytes32,
      Mac.length_eq, List.length_cons, List.length_nil]; omega)) only [load16_blit_apart,
      load32_blit_apart, loadMac_blit_apart, load16_blit_self, load32_blit_self, hmac,
      ntohs_htons]

theorem arpRequestFrame_ok (outIface : SrIf) (ip : UInt32) :
    ArpFrame arpOpRequest outIface broadcast ip (arpRequestFrame outIface ip) :=
  arpFrame_ok ..

end SrRouter
