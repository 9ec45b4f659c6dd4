import SrRouter.Frames
import SrRouter.Lib.OnesComplement
import Mathlib.Data.Int.ModEq

/-!
The checksum tests of the router, against the sum that RFC 1071 defines.

Received data is good when the ones' complement sum of all its words, the
stored checksum among them, is `0xffff`. The router instead clears the
checksum, computes it anew and compares. Where the words without the checksum
already sum up to `0xffff`, the stored checksum may be either representation of zero;
`cksum` only ever returns one of them, so the router rejects the other.
-/

namespace SrRouter

open ByteBuffer OnesComplement

def Verifies (data : Bytes) : Prop := onesSum 65536 (words16 data) = 0xffff

instance (data : Bytes) : Decidable (Verifies data) :=
  inferInstanceAs (Decidable (_ = _))

/-! ### What `cksum` computes -/

theorem toNat_highByte (d0 : UInt8) : (d0.toUInt32 <<< 8).toNat = d0.toNat * 256 := by
  have h0 := d0.toNat_lt
  rw [UInt32.toNat_shiftLeft, UInt8.toNat_toUInt32]
  simp only [UInt32.reduceToNat, Nat.reduceMod, Nat.shiftLeft_eq]
  exact Nat.mod_eq_of_lt (by omega)

theorem toNat_cksumWord (d0 d1 : UInt8) :
    (d0.toUInt32 <<< 8 ||| d1.toUInt32).toNat = d0.toNat * 256 + d1.toNat := by
  have hshift : (d0.toUInt32 <<< 8).toNat = d0.toNat <<< 8 := by
    rw [toNat_highByte, Nat.shiftLeft_eq]
  rw [UInt32.toNat_or, hshift, UInt8.toNat_toUInt32, ← Nat.shiftLeft_add_eq_or_of_lt d1.toNat_lt,
    Nat.shiftLeft_eq]

theorem toNat_add_of_lt {v w : UInt32} (h : v.toNat + w.toNat < 4294967296) :
    (v + w).toNat = v.toNat + w.toNat := by
  rw [UInt32.toNat_add]
  exact Nat.mod_eq_of_lt h

theorem toNat_cksumWords {data : Bytes} {sum : UInt32}
    (h : sum.toNat + (words16 data).sum < 4294967296) :
    (cksumWords data sum).toNat = sum.toNat + (words16 data).sum := by
  induction data, sum using cksumWords.induct with
  | case1 d0 d1 data sum ih =>
      rw [words16, List.sum_cons, ← toNat_cksumWord, ← Nat.add_assoc] at h ⊢
      have hadd := toNat_add_of_lt (Nat.lt_of_le_of_lt (Nat.le_add_right _ _) h)
      rw [← hadd] at h ⊢
      exact ih h
  | case2 d0 sum =>
      rw [words16, List.sum_singleton, ← toNat_highByte] at h ⊢
      exact toNat_add_of_lt h
  | case3 sum => rfl

theorem sameSum_cksumFold (fuel : Nat) (sum : UInt32) :
    SameSum 65536 (cksumFold fuel sum).toNat sum.toNat := by
  induction fuel generalizing sum with
  | zero => exact .refl _ _
  | succ fuel ih =>
      rw [cksumFold]
      split
      · refine (ih _).trans ?_
        rw [toNat_foldTurn]
        exact sameSum_fold (by decide) _
      · exact .refl _ _

theorem toNat_cksumFold {data : Bytes} (h : data.length ≤ 65535) :
    (cksumFold 3 (cksumWords data 0)).toNat = onesSum 65536 (words16 data) := by
  have hle := words16_sum_le data
  have hsum : (cksumWords data 0).toNat = 0 + (words16 data).sum :=
    toNat_cksumWords (by rw [UInt32.toNat_zero]; omega)
  have hfold := sameSum_cksumFold 3 (cksumWords data 0)
  rw [hsum, Nat.zero_add] at hfold
  symm
  apply (onesSum_eq_iff (by decide) (words16_lt data) _).mpr hfold
  exact Nat.lt_succ_of_le (cksumFold_le 0 _)

theorem onesSum_words16_lt (data : Bytes) : onesSum 65536 (words16 data) < 65536 :=
  (foldl_addCarry (by decide) (words16_lt data) (by decide)).1

theorem ntohs_inj {v w : UInt16} (h : ntohs v = ntohs w) : v = w := by
  rw [← ntohs_htons v, ← ntohs_htons w, htons, htons, h]

/-- The checksum is the complement of the sum, but never zero. -/
theorem ntohs_cksum {data : Bytes} (h : data.length ≤ 65535) :
    (ntohs (cksum data)).toNat =
      if onesSum 65536 (words16 data) = 65535 then 65535
      else 65535 - onesSum 65536 (words16 data) := by
  have hlt := onesSum_words16_lt data
  have hsum := toNat_cksumFold h
  have hnot : ((~~~(cksumFold 3 (cksumWords data 0))).toUInt16).toNat =
      65535 - onesSum 65536 (words16 data) := by
    rw [UInt32.toNat_toUInt16, UInt32.toNat_not, hsum, show UInt32.size = 4294967296 from rfl]
    omega
  have hzero : htons (~~~(cksumFold 3 (cksumWords data 0))).toUInt16 = 0 ↔
      onesSum 65536 (words16 data) = 65535 := by
    rw [← UInt16.toNat_inj, UInt16.toNat_zero]
    constructor
    · intro hz
      have hswap : (~~~(cksumFold 3 (cksumWords data 0))).toUInt16 = 0 := by
        apply ntohs_inj
        exact UInt16.toNat_inj.mp hz
      rw [hswap, UInt16.toNat_zero] at hnot
      omega
    · intro hones
      rw [hones] at hnot
      rw [UInt16.toNat_inj.mp (hnot.trans UInt16.toNat_zero.symm)]
      rfl
  simp only [cksum]
  by_cases hones : onesSum 65536 (words16 data) = 65535
  · rw [if_neg (not_not.mpr (hzero.mpr hones)), if_pos hones]
    rfl
  · rw [if_pos (fun hz => hones (hzero.mp hz)), if_neg hones, ntohs_htons, hnot]

/-! ### Clear, recompute, compare -/

theorem toNat_ntohs_load16 (b : Bytes) (i : Nat) :
    (ntohs (load16 b i)).toNat = (load8 b i).toNat * 256 + (load8 b (i + 1)).toNat := by
  have hlo := (load8 b i).toNat_lt
  have hhi := (load8 b (i + 1)).toNat_lt
  have hload : (load16 b i).toNat = (load8 b i).toNat + 256 * (load8 b (i + 1)).toNat := by
    rw [load16, UInt16.toNat_ofNat']
    omega
  have hlow : (load16 b i).toNat % 256 = (load8 b i).toNat := by omega
  have hhigh : (load16 b i).toNat / 256 = (load8 b (i + 1)).toNat := by omega
  rw [ntohs, hlow, hhigh, UInt16.toNat_ofNat']
  omega

/-- A word is the complement of a sum, as `cksum` forms it, exactly when both
together sum up to `0xffff` and the word is not zero. -/
theorem complement_eq_iff {s v total : Nat} (hs : s < 65536) (hv : v < 65536)
    (hsame : SameSum 65536 s total) :
    v = (if s = 65535 then 65535 else 65535 - s) ↔ SameSum 65536 65535 (total + v) ∧ ¬v = 0 := by
  have htotal : SameSum 65536 65535 (total + v) ↔ SameSum 65536 65535 (s + v) :=
    ⟨fun h => h.trans (hsame.add (.refl _ v)).symm, fun h => h.trans (hsame.add (.refl _ v))⟩
  -- two words sum up to `0xffff` with at most one carry
  have hsums : SameSum 65536 65535 (s + v) ↔ s + v = 65535 ∨ s + v = 131070 := by
    constructor
    · rintro ⟨hmod, hne⟩
      have hmod' : 65535 % 65535 = (s + v) % 65535 := hmod
      omega
    · rintro (h | h) <;> rw [h] <;> exact ⟨by decide, by decide⟩
  rw [htotal, hsums]
  split <;> omega

/-- **The comparison.** A stored checksum equals the recomputed one exactly
when the data verifies and the stored checksum is not zero. -/
theorem cksum_compare_iff (b : Bytes) {start k n : Nat} (heven : k % 2 = 0) (hk : k + 2 ≤ n)
    (hn : n ≤ 65535) (hfits : start + n ≤ b.length) :
    load16 b (start + k) = cksum (slice (store16 b (start + k) 0) start n) ↔
      Verifies (slice b start n) ∧ load16 b (start + k) ≠ 0 := by
  have hlen : (slice b start n).length = n := by rw [length_slice]; omega
  -- the data with the checksum cleared, and with the checksum in it
  have hcleared : slice (store16 b (start + k) 0) start n = blit (slice b start n) k [0, 0] := by
    rw [store16, slice_blit_inside (by omega) (by rw [length_bytes16]; omega),
      Nat.add_sub_cancel_left]
    rfl
  have hread (j : Nat) (hj : j < n) : load8 (slice b start n) j = load8 b (start + j) := by
    rw [load8_slice, if_pos hj]
  have hword := toNat_ntohs_load16 b (start + k)
  have hstored := words16_sum_blit (load8 b (start + k)) (load8 b (start + k + 1)) heven
    (hk.trans_eq hlen.symm)
  have hself := blit_load8 (slice b start n) k
  rw [hread k (by omega), hread (k + 1) (by omega), ← Nat.add_assoc] at hself
  rw [hself, ← hword] at hstored
  have hclen : (blit (slice b start n) k [0, 0]).length ≤ 65535 := by
    rw [length_blit, hlen]
    exact hn
  have hsum := ntohs_cksum hclen
  have hsame := (onesSum_eq_iff (by decide) (words16_lt (blit (slice b start n) k [0, 0]))
    (onesSum_words16_lt _)).mp rfl
  have hzero : load16 b (start + k) = 0 ↔ (ntohs (load16 b (start + k))).toNat = 0 := by
    constructor
    · intro h
      rw [h]
      rfl
    · exact fun h => ntohs_inj (UInt16.toNat_inj.mp h)
  have hverifies : Verifies (slice b start n) ↔
      SameSum 65536 65535 ((words16 (blit (slice b start n) k [0, 0])).sum +
        (ntohs (load16 b (start + k))).toNat) := by
    rw [Verifies, onesSum_eq_iff (by decide) (words16_lt _) (by decide), hstored]
  have hcompare : load16 b (start + k) = cksum (blit (slice b start n) k [0, 0]) ↔
      (ntohs (load16 b (start + k))).toNat =
        (ntohs (cksum (blit (slice b start n) k [0, 0]))).toNat := by
    constructor
    · exact fun h => congrArg (fun v => (ntohs v).toNat) h
    · exact fun h => ntohs_inj (UInt16.toNat_inj.mp h)
  rw [hcleared, hcompare, hsum, hverifies, Ne, hzero]
  exact complement_eq_iff (onesSum_words16_lt _) (ntohs (load16 b (start + k))).toNat_lt hsame

/-! ### The tests of the router -/

def ipHeader (f : Frame) : Bytes := slice f 14 (ipHeaderLen f)

/-- The IP payload of a frame as far as `ip_len` goes. -/
def icmpMessage (f : Frame) : Bytes := slice f (icmpOff f) (icmpLen f)

theorem ipLen_lt (f : Frame) : ipLen f < 65536 := UInt16.toNat_lt _

theorem srValidIpPacket_iff_verifies {f : Frame} (h : HeaderOk f) :
    srValidIpPacket f = true ↔ Verifies (ipHeader f) ∧ ipSum f ≠ 0 := by
  have hge := h.headerLen_ge
  have hle := h.ipLen_ge
  have hfits := h.header_fits
  have hlt := ipLen_lt f
  simp only [sizeofIpHdr, sizeofEthernetHdr] at hge hfits
  have hcompare := cksum_compare_iff f (k := 10) (n := ipHeaderLen f) (by decide)
    (by omega) (by omega) hfits
  rw [srValidIpPacket_iff, ipHeader, ← show load16 f (14 + 10) = ipSum f from rfl, ← hcompare]
  exact and_iff_right h

theorem icmpSumOk_iff_verifies {f : Frame} (h : HeaderOk f)
    (hlong : ipHeaderLen f + sizeofIcmpT08Hdr ≤ ipLen f) :
    icmpSumOk f = true ↔ Verifies (icmpMessage f) ∧ icmpSum f ≠ 0 := by
  have hfits := h.ipLen_fits
  have hlt := ipLen_lt f
  simp only [sizeofIcmpT08Hdr, sizeofEthernetHdr] at hlong hfits
  have hcompare := cksum_compare_iff f (k := 2) (n := icmpLen f) (by decide)
    (by rw [icmpLen]; omega) (by rw [icmpLen]; omega)
    (show icmpOff f + icmpLen f ≤ f.length by rw [icmpOff, icmpLen]; omega)
  rw [icmpSumOk_iff, icmpMessage, ← show load16 f (icmpOff f + 2) = icmpSum f from rfl,
    ← hcompare]
  exact Iff.rfl

theorem agrees_iff {accepts verifies zero : Prop} (h : accepts ↔ verifies ∧ ¬zero) :
    (accepts ↔ verifies) ↔ (zero → ¬verifies) := by
  rw [h]
  constructor
  · exact fun hagree hzero hverifies => (hagree.mpr hverifies).2 hzero
  · exact fun hsafe => ⟨fun hacc => hacc.1, fun hverifies =>
      ⟨hverifies, fun hzero => hsafe hzero hverifies⟩⟩

/-- **Checksum acceptance.** Neither test changes the buffer. On a frame with
a good header each of them agrees with the ones' complement sum exactly when
it is not the case that the stored checksum is zero and the data verifies. -/
theorem checksum_tests_agree_iff (f : Frame) (h : HeaderOk f) :
    ((validIpPacketInPlace f).2 = f ∧ (icmpSumInPlace f).2 = f) ∧
    ((srValidIpPacket f = true ↔ Verifies (ipHeader f)) ↔
      (ipSum f = 0 → ¬Verifies (ipHeader f))) ∧
    (ipHeaderLen f + sizeofIcmpT08Hdr ≤ ipLen f →
      ((icmpSumOk f = true ↔ Verifies (icmpMessage f)) ↔
        (icmpSum f = 0 → ¬Verifies (icmpMessage f)))) := by
  refine ⟨⟨?_, ?_⟩, agrees_iff (srValidIpPacket_iff_verifies h), fun hlong => ?_⟩
  · rw [validIpPacketInPlace_eq]
  · rw [icmpSumInPlace_eq]
  · exact agrees_iff (icmpSumOk_iff_verifies h hlong)

/-- A UDP packet from 10.0.2.50 to 10.0.1.50 whose other words already sum up
to `0xffff`, so that its checksum is zero. -/
def zeroSumFrame : Frame :=
  [2, 0, 0, 0, 0, 2, 2, 0, 0, 0, 2, 50, 8, 0,
    0x45, 0, 0, 20, 0x63, 0x76, 0, 0, 64, 17, 0, 0, 10, 0, 2, 50, 10, 0, 1, 50]

theorem headerOk_zeroSumFrame : HeaderOk zeroSumFrame :=
  ⟨by decide, by decide, by decide, by decide, by decide⟩

/-- The test of the header disagrees on it. -/
theorem checksum_tests_agree_iff_zeroSum :
    ¬(srValidIpPacket zeroSumFrame = true ↔ Verifies (ipHeader zeroSumFrame)) :=
  fun hagree => (checksum_tests_agree_iff zeroSumFrame headerOk_zeroSumFrame).2.1.mp hagree
    (by decide) (by decide)

/-- It verifies, and the router drops it. -/
theorem exists_rejected_verifying :
    (Verifies (ipHeader zeroSumFrame) ∧ srValidIpPacket zeroSumFrame = false) ∧
    ¬∀ f, HeaderOk f → (srValidIpPacket f = true ↔ Verifies (ipHeader f)) := by
  have hdrop : Verifies (ipHeader zeroSumFrame) ∧ srValidIpPacket zeroSumFrame = false :=
    ⟨by decide, by decide⟩
  refine ⟨hdrop, fun hall => ?_⟩
  have hvalid := (hall zeroSumFrame headerOk_zeroSumFrame).mpr hdrop.1
  rw [hdrop.2] at hvalid
  cases hvalid

/-! ### The arithmetic of `cksum` -/

/-- No addition of the summing loop overflows, from this sum on. -/
def SumFits : Bytes → UInt32 → Prop
  | d0 :: d1 :: data, sum =>
    sum.toNat + (d0.toUInt32 <<< 8 ||| d1.toUInt32).toNat < 4294967296 ∧
      SumFits data (sum + (d0.toUInt32 <<< 8 ||| d1.toUInt32))
  | [d0], sum => sum.toNat + (d0.toUInt32 <<< 8).toNat < 4294967296
  | [], _ => True

theorem sumFits_of_lt {data : Bytes} {sum : UInt32}
    (h : sum.toNat + (words16 data).sum < 4294967296) : SumFits data sum := by
  induction data, sum using cksumWords.induct with
  | case1 d0 d1 data sum ih =>
      rw [words16, List.sum_cons, ← toNat_cksumWord, ← Nat.add_assoc] at h
      have hlt := Nat.lt_of_le_of_lt (Nat.le_add_right _ _) h
      refine ⟨hlt, ih ?_⟩
      rw [toNat_add_of_lt hlt]
      exact h
  | case2 d0 sum =>
      rw [words16, List.sum_singleton, ← toNat_highByte] at h
      exact h
  | case3 sum => trivial

theorem cksumFold_add (fuel fuel' : Nat) (sum : UInt32) :
    cksumFold (fuel + fuel') sum = cksumFold fuel' (cksumFold fuel sum) := by
  induction fuel generalizing sum with
  | zero => rw [Nat.zero_add, cksumFold]
  | succ fuel ih =>
      rw [Nat.succ_add, cksumFold, cksumFold]
      split
      · exact ih _
      · next hsmall =>
          rw [cksumFold_of_le]
          exact Nat.not_lt.mp fun hlt => hsmall (UInt32.lt_iff_toNat_lt.mpr hlt)

/-- The checksum is the one word that is not zero and brings the sum to zero
modulo `0xffff`. -/
theorem ntohs_cksum_iff {data : Bytes} (h : data.length ≤ 65535) (v : Nat) :
    (1 ≤ v ∧ v ≤ 65535 ∧ 65535 ∣ v + (words16 data).sum) ↔ v = (ntohs (cksum data)).toNat := by
  have hlt := onesSum_words16_lt data
  have hsame := (onesSum_eq_iff (by decide) (words16_lt data) hlt).mp rfl
  have hmod : onesSum 65536 (words16 data) % 65535 = (words16 data).sum % 65535 := hsame.mod_eq
  rw [ntohs_cksum h]
  split <;> omega

theorem verifies_store16_cksum {data : Bytes} (h : data.length ≤ 65535) {k : Nat}
    (heven : k % 2 = 0) (hk : k + 2 ≤ data.length) (hzero : load16 data k = 0) :
    Verifies (store16 data k (cksum data)) := by
  have hslice (b : Bytes) : slice b 0 b.length = b := by
    rw [slice, List.drop_zero, List.take_length]
  have hlen : (store16 data k (cksum data)).length = data.length := length_store16 ..
  have hcleared : store16 data k 0 = data := by
    conv_lhs => rw [← hzero]
    exact store16_load16 data k
  have hwhole : 0 + (store16 data k (cksum data)).length ≤ (store16 data k (cksum data)).length :=
    Nat.le_of_eq (Nat.zero_add _)
  have hcompare := cksum_compare_iff (store16 data k (cksum data)) heven (hlen ▸ hk) (hlen ▸ h)
    hwhole
  rw [Nat.zero_add, store16_store16, hcleared, load16_store16 hk, hlen, hslice, ← hlen, hslice]
    at hcompare
  exact (hcompare.mp rfl).1

/-- **Checksum arithmetic.** On a buffer of at most 65535 bytes the sum never
overflows and the folding ends; in host order the result is the one value
from 1 to 65535 that is congruent to minus the sum of the words; and stored in
a field of the buffer that was zero, it makes the buffer verify. -/
theorem cksum_arithmetic (data : Bytes) (h : data.length ≤ 65535) :
    SumFits data 0 ∧
    (∀ fuel, cksumFold (fuel + 3) (cksumWords data 0) = cksumFold 3 (cksumWords data 0) ∧
      ¬cksumFold 3 (cksumWords data 0) > 0xffff) ∧
    (∀ v : Nat, (1 ≤ v ∧ v ≤ 65535 ∧ (v : Int) ≡ -((words16 data).sum : Int) [ZMOD 65535]) ↔
      v = (ntohs (cksum data)).toNat) ∧
    ∀ k, k % 2 = 0 → k + 2 ≤ data.length → load16 data k = 0 →
      Verifies (store16 data k (cksum data)) := by
  have hle := words16_sum_le data
  have hended := cksumFold_le 0 (cksumWords data 0)
  refine ⟨sumFits_of_lt (by rw [UInt32.toNat_zero]; omega), fun fuel => ⟨?_, ?_⟩, fun v => ?_,
    fun k heven hk hzero => verifies_store16_cksum h heven hk hzero⟩
  · rw [Nat.add_comm, cksumFold_add, cksumFold_of_le fuel hended]
  · rw [gt_iff_lt, UInt32.lt_iff_toNat_lt, Nat.not_lt]
    exact hended
  · rw [← ntohs_cksum_iff h v, Int.modEq_iff_dvd]
    omega

/-- A buffer of three bytes, with its last one a high byte. -/
theorem cksum_arithmetic_odd : (ntohs (cksum [0x12, 0x34, 0x56])).toNat = 0x97cb ∧
    Verifies (store16 [0, 0, 0x56] 0 (cksum [0, 0, 0x56])) :=
  ⟨((cksum_arithmetic [0x12, 0x34, 0x56] (by decide)).2.2.1 0x97cb).mp
      ⟨by decide, by decide, by decide⟩ |>.symm,
    (cksum_arithmetic [0, 0, 0x56] (by decide)).2.2.2 0 rfl (by decide) rfl⟩

end SrRouter
