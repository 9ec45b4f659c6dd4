import SrRouter.Lib.BlockStream
import SrRouter.Sha1
import SrRouter.Protocol

/-!
What `sha1.c` computes: the Secure Hash Standard (FIPS PUB 180-1), for messages
of octets.

`secureHash` is the function of the standard, on the whole message at once. A
context that has taken a message in pieces `Streams` it, and `Sha1Stage` says
what there is to know about a context after any calls.
-/

namespace SrRouter

open ByteBuffer BlockStream

/-! ### The standard -/

namespace SecureHash

/-- The circular left shift by `n` bits. -/
def s (n : Nat) (x : UInt32) : UInt32 := ⟨x.toBitVec.rotateLeft n⟩

/-- The sequence `W` of a block; its octets are the words in network byte order. -/
def w (block : Bytes) (t : Nat) : UInt32 :=
  if t < 16 then ntohl (load32 block (4 * t))
  else s 1 (w block (t - 3) ^^^ w block (t - 8) ^^^ w block (t - 14) ^^^ w block (t - 16))

def f (t : Nat) (b c d : UInt32) : UInt32 :=
  if t < 20 then b &&& c ||| ~~~b &&& d
  else if t < 40 then b ^^^ c ^^^ d
  else if t < 60 then b &&& c ||| b &&& d ||| c &&& d
  else b ^^^ c ^^^ d

def k (t : Nat) : UInt32 :=
  if t < 20 then 0x5A827999
  else if t < 40 then 0x6ED9EBA1
  else if t < 60 then 0x8F1BBCDC
  else 0xCA62C1D6

def turn (block : Bytes) (v : Sha1Words) (t : Nat) : Sha1Words :=
  ⟨s 5 v.a + f t v.b v.c v.d + v.e + w block t + k t, v.a, s 30 v.b, v.c, v.d⟩

def compress (h : Sha1Words) (block : Bytes) : Sha1Words :=
  h.add ((List.range 80).foldl (turn block) h)

def lengthOctets (length : Nat) : Bytes :=
  (List.range 8).map fun i => UInt8.ofNat (8 * length / 256 ^ (7 - i))

/-- The bit 1, then zeros up to the last 64 bits of a block, then the length. -/
def padding (length : Nat) : Bytes :=
  0x80 :: List.replicate ((119 - length % 64) % 64) 0 ++ lengthOctets length

end SecureHash

def secureHash (message : Bytes) : Sha1Words :=
  absorb 64 SecureHash.compress sha1InitialDigest
    (message ++ SecureHash.padding message.length)

/-! ### One block -/

theorem sha1CircularShift_eq {n : UInt32} (hpos : 0 < n.toNat) (hlt : n.toNat < 32)
    (x : UInt32) : sha1CircularShift n x = SecureHash.s n.toNat x := by
  have hle : n ≤ 32 := UInt32.le_iff_toNat_le.mpr (Nat.le_of_lt hlt)
  have hright : (32 - n).toBitVec.toNat = 32 - n.toNat := UInt32.toNat_sub_of_le _ _ hle
  have hleft : n.toBitVec.toNat = n.toNat := rfl
  apply UInt32.toBitVec_inj.mp
  show x.toBitVec <<< (n.toBitVec % 32) ||| x.toBitVec >>> ((32 - n).toBitVec % 32) =
    x.toBitVec.rotateLeft n.toNat
  rw [BitVec.rotateLeft_def, BitVec.shiftLeft_eq', BitVec.ushiftRight_eq', BitVec.toNat_umod,
    BitVec.toNat_umod, hright, hleft]
  show x.toBitVec <<< (n.toNat % 32) ||| x.toBitVec >>> ((32 - n.toNat) % 32) = _
  rw [Nat.mod_eq_of_lt hlt, Nat.mod_eq_of_lt (by omega : 32 - n.toNat < 32)]

theorem sha1BlockWord_eq (block : Bytes) (t : Nat) :
    sha1BlockWord block t = ntohl (load32 block (4 * t)) := by
  have hword (b0 b1 b2 b3 : UInt8) :
      b0.toUInt32 <<< 24 ||| b1.toUInt32 <<< 16 ||| b2.toUInt32 <<< 8 ||| b3.toUInt32 =
        ntohl (UInt32.ofNat (b0.toNat + 256 * b1.toNat + 65536 * b2.toNat +
          16777216 * b3.toNat)) := by
    have h0 := b0.toNat_lt
    have h1 := b1.toNat_lt
    have h2 := b2.toNat_lt
    have h3 := b3.toNat_lt
    have hload : (UInt32.ofNat (b0.toNat + 256 * b1.toNat + 65536 * b2.toNat +
        16777216 * b3.toNat)).toNat = b0.toNat + 256 * b1.toNat + 65536 * b2.toNat +
          16777216 * b3.toNat :=
      UInt32.toNat_ofNat_of_lt' (by show _ < 4294967296; omega)
    apply UInt32.toNat_inj.mp
    have hshift (b : UInt8) (n : UInt32) (i : Nat) (hi : n.toNat % 32 = i) (hle : i ≤ 24) :
        (b.toUInt32 <<< n).toNat = b.toNat <<< i := by
      rw [UInt32.toNat_shiftLeft, hi, Nat.mod_eq_of_lt]
      · rfl
      · have hb := b.toNat_lt
        rw [Nat.shiftLeft_eq]
        calc b.toNat * 2 ^ i ≤ b.toNat * 2 ^ 24 :=
              Nat.mul_le_mul_left _ (Nat.pow_le_pow_right (by decide) hle)
          _ < 2 ^ 32 := by omega
    rw [UInt32.toNat_or, UInt32.toNat_or, UInt32.toNat_or, hshift b0 24 24 rfl (by decide),
      hshift b1 16 16 rfl (by decide), hshift b2 8 8 rfl (by decide)]
    rw [Nat.or_assoc, Nat.or_assoc]
    show b0.toNat <<< 24 ||| (b1.toNat <<< 16 ||| (b2.toNat <<< 8 ||| b3.toNat)) = _
    have hor (a b i : Nat) (h : b < 2 ^ i) : a <<< i ||| b = a * 2 ^ i + b := by
      rw [← Nat.shiftLeft_add_eq_or_of_lt h, Nat.shiftLeft_eq]
    rw [hor b2.toNat b3.toNat 8 h3, hor b1.toNat _ 16 (by omega), hor b0.toNat _ 24 (by omega),
      ntohl, hload, UInt32.toNat_ofNat_of_lt' (by show _ < 4294967296; omega)]
    omega
  rw [sha1BlockWord, hword, Nat.mul_comm t 4]
  rfl

/-- The words assigned so far are the first words of `W`, and stay. -/
theorem sha1Extend_eq (block : Bytes) (n t : Nat) (ht : 16 ≤ t) :
    sha1Extend n ((List.range t).map (SecureHash.w block)) =
      (List.range (t + n)).map (SecureHash.w block) := by
  induction n generalizing t with
  | zero => rfl
  | succ n ih =>
      have hget (i : Nat) (hi : i < t) :
          ((List.range t).map (SecureHash.w block)).getD i 0 = SecureHash.w block i := by
        simp [List.getD_eq_getElem?_getD, hi]
      have hnext : sha1CircularShift 1 (SecureHash.w block (t - 3) ^^^ SecureHash.w block (t - 8) ^^^
            SecureHash.w block (t - 14) ^^^ SecureHash.w block (t - 16)) =
          SecureHash.w block t := by
        rw [sha1CircularShift_eq (by decide) (by decide), SecureHash.w.eq_def block t,
          if_neg (by omega)]
        rfl
      rw [sha1Extend, List.length_map, List.length_range, hget _ (by omega), hget _ (by omega),
        hget _ (by omega), hget _ (by omega), hnext, Nat.add_comm n 1, ← Nat.add_assoc,
        ← ih (t + 1) (by omega), List.range_succ, List.map_append, List.map_singleton]

theorem sha1Words_eq (block : Bytes) :
    sha1Words block = (List.range 80).map (SecureHash.w block) := by
  have hfirst : (List.range 16).map (sha1BlockWord block) =
      (List.range 16).map (SecureHash.w block) := by
    refine List.map_congr_left fun t ht => ?_
    rw [sha1BlockWord_eq, SecureHash.w.eq_def, if_pos (List.mem_range.mp ht)]
  rw [sha1Words, hfirst, sha1Extend_eq block 64 16 (by decide)]

/-- A loop is the turns of the standard that it covers. -/
theorem sha1Loop_eq (block : Bytes) {f : UInt32 → UInt32 → UInt32 → UInt32} {k : UInt32}
    {first : Nat} (hle : first + 20 ≤ 80)
    (h : ∀ t, first ≤ t → t < first + 20 → f = SecureHash.f t ∧ k = SecureHash.k t)
    (v : Sha1Words) :
    sha1Loop f k (sha1Words block) first v =
      (List.range' first 20).foldl (SecureHash.turn block) v := by
  refine List.foldl_ext _ _ v fun v t ht => ?_
  obtain ⟨hfrom, hto⟩ := List.mem_range'_1.mp ht
  obtain ⟨rfl, rfl⟩ := h t hfrom hto
  have hget : (sha1Words block).getD t 0 = SecureHash.w block t := by
    rw [sha1Words_eq]
    simp [List.getD_eq_getElem?_getD, show t < 80 by omega]
  rw [sha1Turn, hget, sha1CircularShift_eq (by decide) (by decide),
    sha1CircularShift_eq (by decide) (by decide)]
  rfl

theorem f_k_first {t : Nat} (h : t < 20) :
    (fun b c d => b &&& c ||| ~~~b &&& d) = SecureHash.f t ∧ 0x5A827999 = SecureHash.k t := by
  constructor
  · funext b c d
    rw [SecureHash.f, if_pos h]
  · rw [SecureHash.k, if_pos h]

theorem f_k_second {t : Nat} (hfrom : 20 ≤ t) (hto : t < 40) :
    (fun b c d => b ^^^ c ^^^ d) = SecureHash.f t ∧ 0x6ED9EBA1 = SecureHash.k t := by
  constructor
  · funext b c d
    rw [SecureHash.f, if_neg (by omega), if_pos hto]
  · rw [SecureHash.k, if_neg (by omega), if_pos hto]

theorem f_k_third {t : Nat} (hfrom : 40 ≤ t) (hto : t < 60) :
    (fun b c d => b &&& c ||| b &&& d ||| c &&& d) = SecureHash.f t ∧
      0x8F1BBCDC = SecureHash.k t := by
  constructor
  · funext b c d
    rw [SecureHash.f, if_neg (by omega), if_neg (by omega), if_pos hto]
  · rw [SecureHash.k, if_neg (by omega), if_neg (by omega), if_pos hto]

theorem f_k_fourth {t : Nat} (hfrom : 60 ≤ t) :
    (fun b c d => b ^^^ c ^^^ d) = SecureHash.f t ∧ 0xCA62C1D6 = SecureHash.k t := by
  constructor
  · funext b c d
    rw [SecureHash.f, if_neg (by omega), if_neg (by omega), if_neg (by omega)]
  · rw [SecureHash.k, if_neg (by omega), if_neg (by omega), if_neg (by omega)]

theorem sha1ProcessBlock_eq : sha1ProcessBlock = SecureHash.compress := by
  funext digest block
  have hrange : List.range 80 =
      List.range' 0 20 ++ List.range' 20 20 ++ List.range' 40 20 ++ List.range' 60 20 := by decide
  rw [SecureHash.compress, hrange, List.foldl_append, List.foldl_append, List.foldl_append,
    ← sha1Loop_eq block (by decide) (fun t _ h => f_k_first h),
    ← sha1Loop_eq block (by decide) (fun t hfrom hto => f_k_second hfrom hto),
    ← sha1Loop_eq block (by decide) (fun t hfrom hto => f_k_third hfrom hto),
    ← sha1Loop_eq block (by decide) (fun t hfrom _ => f_k_fourth hfrom)]
  rfl

/-! ### The block that is not complete -/

namespace Sha1Context

def buffer (context : Sha1Context) : Buffer UInt8 Sha1Words where
  state := context.messageDigest
  block := context.messageBlock.toList
  index := context.messageBlockIndex

/-- The complete blocks of `xs` are processed, and `ys` stands in the block. -/
def Holds (xs ys : Bytes) (context : Sha1Context) : Prop :=
  context.buffer.Holds 64 SecureHash.compress sha1InitialDigest xs ys

/-- The parts of two contexts that storing and processing leave alone. -/
def Same (context context' : Sha1Context) : Prop :=
  context'.lengthLow = context.lengthLow ∧ context'.lengthHigh = context.lengthHigh ∧
    context'.computed = context.computed ∧ context'.corrupted = context.corrupted

variable {context : Sha1Context} {xs ys : Bytes}

theorem Holds.digest (h : context.Holds xs ys) :
    context.messageDigest = absorb 64 SecureHash.compress sha1InitialDigest xs := h.state

theorem Same.trans {context context' context'' : Sha1Context} (h : context.Same context')
    (h' : context'.Same context'') : context.Same context'' :=
  ⟨h'.1.trans h.1, h'.2.1.trans h.2.1, h'.2.2.1.trans h.2.2.1, h'.2.2.2.trans h.2.2.2⟩

theorem put_spec (h : context.Holds xs ys) (hlt : ys.length < 64) (octet : UInt8) :
    ∃ context', context.put octet = some context' ∧ context'.Holds xs (ys ++ [octet]) ∧
      context.Same context' := by
  have hindex : context.messageBlockIndex < 64 := by
    have heq : context.messageBlockIndex = ys.length := h.index
    omega
  refine ⟨_, dif_pos hindex, ?_, rfl, rfl, rfl, rfl⟩
  have hset : (context.messageBlock.set context.messageBlockIndex octet hindex).toList =
      context.messageBlock.toList.set context.messageBlockIndex octet := Vector.toList_set ..
  rw [Holds, buffer, hset]
  exact h.store hlt octet

theorem buffer_processMessageBlock (context : Sha1Context) :
    context.processMessageBlock.buffer = context.buffer.flush sha1ProcessBlock := by
  unfold processMessageBlock buffer Buffer.flush
  dsimp only

theorem same_processMessageBlock (context : Sha1Context) :
    context.Same context.processMessageBlock := by
  unfold Same processMessageBlock
  exact ⟨rfl, rfl, rfl, rfl⟩

theorem processMessageBlock_spec (h : context.Holds xs ys) (hfull : ys.length = 64) :
    context.processMessageBlock.Holds (xs ++ ys) [] := by
  rw [Holds, buffer_processMessageBlock, sha1ProcessBlock_eq]
  exact h.flush hfull (by decide)

theorem zeros_spec (h : context.Holds xs ys) (bound n : Nat) (hbound : bound ≤ 64)
    (hn : bound - ys.length ≤ n) :
    ∃ context', context.zeros bound n = some context' ∧
      context'.Holds xs (ys ++ List.replicate (bound - ys.length) 0) ∧
      context.Same context' := by
  induction n generalizing context ys with
  | zero =>
      refine ⟨context, rfl, ?_, rfl, rfl, rfl, rfl⟩
      rw [Nat.le_zero.mp hn, List.replicate_zero, List.append_nil]
      exact h
  | succ n ih =>
      have hindex : context.messageBlockIndex = ys.length := h.index
      by_cases hlt : ys.length < bound
      · obtain ⟨context₁, hput, hholds, hsame⟩ := put_spec h (by omega) 0
        obtain ⟨context₂, hzeros, hholds₂, hsame₂⟩ := ih hholds (by
          rw [List.length_append, List.length_singleton]
          omega)
        refine ⟨context₂, ?_, ?_, hsame.trans hsame₂⟩
        · rw [zeros, if_pos (by omega), hput]
          exact hzeros
        · rw [List.length_append, List.length_singleton, List.append_assoc,
            List.singleton_append, ← List.replicate_succ] at hholds₂
          rwa [show bound - ys.length = bound - (ys.length + 1) + 1 by omega]
      · refine ⟨context, ?_, ?_, rfl, rfl, rfl, rfl⟩
        · rw [zeros, if_neg (by omega)]
        · rw [show bound - ys.length = 0 by omega, List.replicate_zero, List.append_nil]
          exact h

/-! ### The stream -/

/-- The context has taken the message, and nothing is wrong with it. -/
structure Streams (message : Bytes) (context : Sha1Context) : Prop where
  holds : ∃ xs ys, message = xs ++ ys ∧ ys.length < 64 ∧ context.Holds xs ys
  lengthLow : context.lengthLow.toNat = 8 * message.length % 2 ^ 32
  lengthHigh : context.lengthHigh.toNat = 8 * message.length / 2 ^ 32
  computed : context.computed = false
  corrupted : context.corrupted = false

theorem streams_reset (context : Sha1Context) : (sha1Reset context).Streams [] where
  holds := ⟨[], [], rfl, by decide,
    Buffer.holds_nil (b := (sha1Reset context).buffer) Vector.length_toList rfl⟩
  lengthLow := rfl
  lengthHigh := rfl
  computed := rfl
  corrupted := rfl

theorem Streams.short {message : Bytes} (h : context.Streams message) :
    8 * message.length < 2 ^ 64 := by
  have hhigh := context.lengthHigh.toNat_lt
  rw [h.lengthHigh] at hhigh
  omega

theorem processFull_spec (h : context.Holds xs ys) (hpos : 0 < ys.length) :
    (∃ xs' ys', xs ++ ys = xs' ++ ys' ∧ ys'.length < 64 ∧ context.processFull.Holds xs' ys') ∧
      context.Same context.processFull := by
  have hindex : context.messageBlockIndex = ys.length := h.index
  have hle : ys.length ≤ 64 := h.le
  by_cases hfull : ys.length = 64
  · rw [processFull, if_pos (hindex.trans hfull)]
    exact ⟨⟨xs ++ ys, [], (List.append_nil _).symm, by decide, processMessageBlock_spec h hfull⟩,
      same_processMessageBlock context⟩
  · rw [processFull, if_neg (by omega)]
    exact ⟨⟨xs, ys, rfl, by omega, h⟩, rfl, rfl, rfl, rfl⟩

theorem count_spec {message : Bytes} (hlow : context.lengthLow.toNat = 8 * message.length % 2 ^ 32)
    (hhigh : context.lengthHigh.toNat = 8 * message.length / 2 ^ 32)
    (hcorrupted : context.corrupted = false) (octet : UInt8) :
    context.count.lengthLow.toNat = 8 * (message ++ [octet]).length % 2 ^ 32 ∧
      context.count.lengthHigh.toNat = 8 * (message ++ [octet]).length / 2 ^ 32 % 2 ^ 32 ∧
      context.count.corrupted = decide (8 * (message ++ [octet]).length = 2 ^ 64) := by
  have hmax := context.lengthHigh.toNat_lt
  have hlength : (message ++ [octet]).length = message.length + 1 := by simp
  have hlow' : (context.lengthLow + 8).toNat = 8 * (message ++ [octet]).length % 2 ^ 32 := by
    rw [UInt32.toNat_add, hlow, hlength]
    show (8 * message.length % 2 ^ 32 + 8) % 2 ^ 32 = _
    omega
  have hzero (x : UInt32) : x = 0 ↔ x.toNat = 0 := by
    rw [← UInt32.toNat_inj]
    rfl
  have hhigh' : (if context.lengthLow + 8 = 0 then context.lengthHigh + 1
      else context.lengthHigh).toNat = 8 * (message ++ [octet]).length / 2 ^ 32 % 2 ^ 32 := by
    split
    · next hwrap =>
        rw [hzero, hlow', hlength] at hwrap
        rw [UInt32.toNat_add, hhigh, hlength]
        show (8 * message.length / 2 ^ 32 + 1) % 2 ^ 32 = _
        omega
    · next hwrap =>
        rw [hzero, hlow', hlength] at hwrap
        rw [hhigh, hlength]
        omega
  refine ⟨hlow', hhigh', ?_⟩
  rw [count, hcorrupted, Bool.false_or, Bool.eq_iff_iff, decide_eq_true_iff, Bool.and_eq_true,
    beq_iff_eq, beq_iff_eq]
  refine (and_congr (hzero _) (hzero _)).trans ?_
  rw [hlow', hhigh', hlength]
  omega

/-- **One octet.** It is taken, unless the message gets too long with it. -/
theorem Streams.octet {message : Bytes} (h : context.Streams message) (octet : UInt8) :
    ∃ context', context.put octet = some context' ∧
      (8 * (message ++ [octet]).length < 2 ^ 64 →
        context'.count.processFull.Streams (message ++ [octet])) ∧
      (8 * (message ++ [octet]).length = 2 ^ 64 →
        context'.count.processFull.corrupted = true) := by
  obtain ⟨xs, ys, rfl, hlt, hholds⟩ := h.holds
  obtain ⟨context', hput, hholds', hlow, hhigh, hcomputed, hcorrupted⟩ :=
    put_spec hholds hlt octet
  obtain ⟨hlow', hhigh', hcorrupted'⟩ := count_spec (hlow ▸ h.lengthLow) (hhigh ▸ h.lengthHigh)
    (hcorrupted.trans h.corrupted) octet
  have hcount : context'.count.Holds xs (ys ++ [octet]) := hholds'
  obtain ⟨⟨xs', ys', hmessage, hlt', hfull⟩, hsame⟩ := processFull_spec hcount (by simp)
  refine ⟨context', hput, fun hshort => ?_, fun hlong => ?_⟩
  · refine ⟨⟨xs', ys', ?_, hlt', hfull⟩, ?_, ?_, ?_, ?_⟩
    · rw [List.append_assoc, hmessage]
    · rw [hsame.1, hlow']
    · rw [hsame.2.1, hhigh', Nat.mod_eq_of_lt (by omega)]
    · exact hsame.2.2.1.trans (hcomputed.trans h.computed)
    · rw [hsame.2.2.2, hcorrupted']
      exact decide_eq_false (by omega)
  · rw [hsame.2.2.2, hcorrupted']
    exact decide_eq_true hlong

theorem Streams.inputLoop {message : Bytes} (h : context.Streams message) (octets : Bytes) :
    ∃ context', context.inputLoop octets octets.length = some context' ∧
      (8 * (message ++ octets).length < 2 ^ 64 → context'.Streams (message ++ octets)) ∧
      (2 ^ 64 ≤ 8 * (message ++ octets).length → context'.corrupted = true) := by
  induction octets generalizing context message with
  | nil =>
      refine ⟨context, rfl, fun _ => ?_, fun hlong => ?_⟩
      · rwa [List.append_nil]
      · rw [List.append_nil] at hlong
        exact absurd h.short (by omega)
  | cons octet octets ih =>
      obtain ⟨context₁, hput, hshort, hlong⟩ := h.octet octet
      have hstep : context.inputLoop (octet :: octets) (octets.length + 1) =
          context₁.count.processFull.inputLoop octets octets.length := by
        rw [Sha1Context.inputLoop, h.corrupted, if_neg (by decide), hput]
        rfl
      rw [List.append_cons, List.length_cons, hstep]
      have hbound := h.short
      have hlength : (message ++ [octet]).length = message.length + 1 := by simp
      by_cases hfits : 8 * (message ++ [octet]).length < 2 ^ 64
      · exact ih (hshort hfits)
      · have hcorrupted := hlong (by omega)
        refine ⟨context₁.count.processFull, ?_, fun hshort' => ?_, fun _ => hcorrupted⟩
        · cases octets with
          | nil => rfl
          | cons octet' octets =>
              rw [List.length_cons, Sha1Context.inputLoop, hcorrupted, if_pos rfl]
        · rw [List.length_append] at hshort'
          omega

theorem inputLoop_take (context : Sha1Context) (message : Bytes) {n : Nat}
    (hn : n ≤ message.length) :
    context.inputLoop message n = context.inputLoop (message.take n) n := by
  induction n generalizing context message with
  | zero => rw [Sha1Context.inputLoop, Sha1Context.inputLoop]
  | succ n ih =>
      cases message with
      | nil => exact absurd hn (Nat.not_succ_le_zero n)
      | cons octet message =>
          rw [List.take_succ_cons, Sha1Context.inputLoop, Sha1Context.inputLoop]
          split
          · rfl
          · congr 1
            funext context'
            exact ih _ message (Nat.le_of_succ_le_succ hn)

/-! ### The padding -/

def lengthBytes (context : Sha1Context) : Bytes :=
  let high := context.lengthHigh
  let low := context.lengthLow
  [(high >>> 24).toUInt8, (high >>> 16).toUInt8, (high >>> 8).toUInt8, high.toUInt8,
    (low >>> 24).toUInt8, (low >>> 16).toUInt8, (low >>> 8).toUInt8, low.toUInt8]

theorem length_lengthBytes (context : Sha1Context) : context.lengthBytes.length = 8 := rfl

theorem lengthBytes_eq {n : Nat} (hlow : context.lengthLow.toNat = 8 * n % 2 ^ 32)
    (hhigh : context.lengthHigh.toNat = 8 * n / 2 ^ 32) :
    context.lengthBytes = SecureHash.lengthOctets n := by
  have hbyte (x k : UInt32) (d m : Nat) (hk : k.toNat % 32 = d)
      (h : x.toNat / 2 ^ d % 256 = m % 256) : (x >>> k).toUInt8 = UInt8.ofNat m := by
    apply UInt8.toNat_inj.mp
    rw [UInt32.toNat_toUInt8, UInt32.toNat_shiftRight, hk, Nat.shiftRight_eq_div_pow,
      UInt8.toNat_ofNat']
    exact h
  have hlast (x : UInt32) (m : Nat) (h : x.toNat % 256 = m % 256) :
      x.toUInt8 = UInt8.ofNat m := by
    apply UInt8.toNat_inj.mp
    rw [UInt32.toNat_toUInt8, UInt8.toNat_ofNat']
    exact h
  show _ = [UInt8.ofNat (8 * n / 256 ^ 7), UInt8.ofNat (8 * n / 256 ^ 6),
    UInt8.ofNat (8 * n / 256 ^ 5), UInt8.ofNat (8 * n / 256 ^ 4), UInt8.ofNat (8 * n / 256 ^ 3),
    UInt8.ofNat (8 * n / 256 ^ 2), UInt8.ofNat (8 * n / 256 ^ 1), UInt8.ofNat (8 * n / 256 ^ 0)]
  rw [lengthBytes, hbyte _ 24 24 (8 * n / 256 ^ 7) rfl (by omega),
    hbyte _ 16 16 (8 * n / 256 ^ 6) rfl (by omega), hbyte _ 8 8 (8 * n / 256 ^ 5) rfl (by omega),
    hlast _ (8 * n / 256 ^ 4) (by omega), hbyte _ 24 24 (8 * n / 256 ^ 3) rfl (by omega),
    hbyte _ 16 16 (8 * n / 256 ^ 2) rfl (by omega), hbyte _ 8 8 (8 * n / 256 ^ 1) rfl (by omega),
    hlast _ (8 * n / 256 ^ 0) (by omega)]

theorem storeLength_spec (h : context.Holds xs ys) (hlength : ys.length = 56) :
    context.storeLength.processMessageBlock.Holds (xs ++ (ys ++ context.lengthBytes)) [] := by
  have hindex : context.messageBlockIndex = 56 := h.index.trans hlength
  have hflush (process : Sha1Words → List UInt8 → Sha1Words) :
      context.storeLength.buffer.flush process =
        (context.lengthBytes.foldl Buffer.store context.buffer).flush process := by
    simp only [storeLength, buffer, Buffer.flush, lengthBytes, List.foldl_cons, List.foldl_nil,
      Buffer.store, Vector.toList_set, hindex]
  rw [Holds, buffer_processMessageBlock, sha1ProcessBlock_eq, hflush]
  have hroom : ys.length + context.lengthBytes.length ≤ 64 :=
    Nat.le_of_eq (by rw [hlength, length_lengthBytes])
  exact (h.stores context.lengthBytes hroom).flush
    (by rw [List.length_append, hlength, length_lengthBytes]) (by decide)

section

variable {context₁ context₂ context₃ : Sha1Context}

theorem sha1PadMessage_long (h : 55 < context.messageBlockIndex)
    (hput : context.put 0x80 = some context₁) (hzeros : context₁.zeros 64 64 = some context₂)
    (hzeros' : context₂.processMessageBlock.zeros 56 64 = some context₃) :
    sha1PadMessage context = some context₃.storeLength.processMessageBlock := by
  rw [sha1PadMessage, if_pos h, hput, Option.bind_eq_bind, Option.bind_some, hzeros,
    Option.bind_some]
  dsimp only
  rw [hzeros', Option.bind_some, Option.pure_def]

theorem sha1PadMessage_short (h : ¬55 < context.messageBlockIndex)
    (hput : context.put 0x80 = some context₁) (hzeros : context₁.zeros 56 64 = some context₂) :
    sha1PadMessage context = some context₂.storeLength.processMessageBlock := by
  rw [sha1PadMessage, if_neg h, hput, Option.bind_eq_bind, Option.bind_some, hzeros,
    Option.bind_some, Option.pure_def]

end

/-- `SHA1PadMessage` processes what is missing of the padded message. -/
theorem Streams.pad {message : Bytes} (h : context.Streams message) :
    ∃ context', sha1PadMessage context = some context' ∧
      context'.messageDigest = secureHash message ∧ context'.corrupted = context.corrupted := by
  obtain ⟨xs, ys, hmessage, hlt, hholds⟩ := h.holds
  have hindex : context.messageBlockIndex = ys.length := hholds.index
  have hcomplete : 64 ∣ xs.length := hholds.complete
  have hrest : message.length % 64 = ys.length := by
    rw [hmessage, List.length_append]
    omega
  obtain ⟨context₁, hput, hholds₁, hsame₁⟩ := put_spec hholds hlt 0x80
  have hlength₁ : (ys ++ [(0x80 : UInt8)]).length = ys.length + 1 := by simp
  -- whatever stands before the length, the digest is that of all of it
  have hfinish {context' : Sha1Context} {xs' ys' : Bytes} (hholds' : context'.Holds xs' ys')
      (hsame : context.Same context') (hlength : ys'.length = 56)
      (heq : xs' ++ ys' ++ SecureHash.lengthOctets message.length =
        message ++ SecureHash.padding message.length) :
      context'.storeLength.processMessageBlock.messageDigest = secureHash message ∧
        context'.storeLength.processMessageBlock.corrupted = context.corrupted := by
    have hstored := storeLength_spec hholds' hlength
    rw [lengthBytes_eq (hsame.1 ▸ h.lengthLow) (hsame.2.1 ▸ h.lengthHigh), ← List.append_assoc,
      heq] at hstored
    exact ⟨hstored.digest, (same_processMessageBlock _).2.2.2.trans hsame.2.2.2⟩
  by_cases hlong : 55 < ys.length
  · obtain ⟨context₂, hzeros, hholds₂, hsame₂⟩ :=
      zeros_spec hholds₁ 64 64 (by decide) (by omega)
    have hfull := processMessageBlock_spec hholds₂ (by
      rw [List.length_append, List.length_replicate]
      omega)
    obtain ⟨context₃, hzeros', hholds₃, hsame₃⟩ :=
      zeros_spec hfull 56 64 (by decide) (by omega)
    refine ⟨context₃.storeLength.processMessageBlock, ?_, hfinish hholds₃
      (((hsame₁.trans hsame₂).trans (same_processMessageBlock _)).trans hsame₃) (by simp) ?_⟩
    · exact sha1PadMessage_long (by omega) hput hzeros hzeros'
    · have hcount : (119 - ys.length) % 64 = 64 - (ys.length + 1) + 56 := by omega
      rw [SecureHash.padding, hrest, hcount, hmessage, hlength₁, List.replicate_add]
      simp
  · obtain ⟨context₂, hzeros, hholds₂, hsame₂⟩ :=
      zeros_spec hholds₁ 56 64 (by decide) (by omega)
    refine ⟨context₂.storeLength.processMessageBlock, ?_, hfinish hholds₂ (hsame₁.trans hsame₂)
      (by simp; omega) ?_⟩
    · exact sha1PadMessage_short (by omega) hput hzeros
    · have hcount : (119 - ys.length) % 64 = 56 - (ys.length + 1) := by omega
      rw [SecureHash.padding, hrest, hcount, hmessage, hlength₁]
      simp

end Sha1Context

theorem sha1Input_take (context : Sha1Context) (message : Bytes) {length : UInt32}
    (h : length.toNat ≤ message.length) :
    sha1Input context message length = sha1Input context (message.take length.toNat) length := by
  rw [sha1Input, sha1Input, Sha1Context.inputLoop_take context message h]

/-! ### Any calls -/

/-- What there is to know about a context. -/
inductive Sha1Stage
  /-- It takes a message, and has taken this of it. -/
  | takes (message : Bytes)
  /-- It has the digest of this message. -/
  | computed (message : Bytes)
  | corrupted

namespace Sha1Stage

def input : Sha1Stage → Bytes → Sha1Stage
  | .takes message, octets =>
    if 8 * (message ++ octets).length < 2 ^ 64 then .takes (message ++ octets) else .corrupted
  | .computed message, [] => .computed message
  | .computed _, _ :: _ => .corrupted
  | .corrupted, _ => .corrupted

def result : Sha1Stage → Option Sha1Words × Sha1Stage
  | .takes message => (some (secureHash message), .computed message)
  | .computed message => (some (secureHash message), .computed message)
  | .corrupted => (none, .corrupted)

def answers : Sha1Stage → List Sha1Call → List (Option Sha1Words)
  | _, [] => []
  | stage, .input message _ :: calls => answers (stage.input message) calls
  | stage, .result :: calls => stage.result.1 :: answers stage.result.2 calls

def Of : Sha1Stage → Sha1Context → Prop
  | .takes message, context => context.Streams message
  | .computed message, context =>
    context.computed = true ∧ context.corrupted = false ∧
      context.messageDigest = secureHash message
  | .corrupted, context => context.corrupted = true

theorem Of.input {stage : Sha1Stage} {context : Sha1Context} (h : stage.Of context)
    (octets : Bytes) (hlt : octets.length < 2 ^ 32) :
    ∃ context', sha1Input context octets (UInt32.ofNat octets.length) = some context' ∧
      (stage.input octets).Of context' := by
  have hcount : (UInt32.ofNat octets.length).toNat = octets.length :=
    UInt32.toNat_ofNat_of_lt' hlt
  cases octets with
  | nil =>
      refine ⟨context, if_pos rfl, ?_⟩
      cases stage with
      | takes message =>
          have hshort : 8 * message.length < 2 ^ 64 := Sha1Context.Streams.short h
          rw [Sha1Stage.input, List.append_nil, if_pos hshort]
          exact h
      | computed message => exact h
      | corrupted => exact h
  | cons octet octets =>
      have hne : UInt32.ofNat (octet :: octets).length ≠ 0 := by
        rw [Ne, ← UInt32.toNat_inj, hcount]
        exact Nat.succ_ne_zero _
      cases stage with
      | takes message =>
          obtain ⟨context', hloop, hshort, hlong⟩ :=
            Sha1Context.Streams.inputLoop h (octet :: octets)
          refine ⟨context', ?_, ?_⟩
          · have hgo : ¬(context.computed || context.corrupted) = true := by
              rw [Sha1Context.Streams.computed h, Sha1Context.Streams.corrupted h]
              decide
            rw [sha1Input, if_neg hne, if_neg hgo, hcount, hloop]
          · rw [Sha1Stage.input]
            split
            · next hfits => exact hshort hfits
            · next hover => exact hlong (Nat.le_of_not_lt hover)
      | computed message =>
          refine ⟨{ context with corrupted := true }, ?_, rfl⟩
          rw [sha1Input, if_neg hne, h.1, Bool.true_or, if_pos rfl]
      | corrupted =>
          have hcorrupted : context.corrupted = true := h
          refine ⟨{ context with corrupted := true }, ?_, rfl⟩
          rw [sha1Input, if_neg hne, hcorrupted, Bool.or_true, if_pos rfl]

theorem Of.result {stage : Sha1Stage} {context : Sha1Context} (h : stage.Of context) :
    ∃ ok context', sha1Result context = some (ok, context') ∧ stage.result.2.Of context' ∧
      stage.result.1 = if ok then some context'.messageDigest else none := by
  cases stage with
  | takes message =>
      obtain ⟨context', hpad, hdigest, hcorrupted⟩ := Sha1Context.Streams.pad h
      have hnot := Sha1Context.Streams.corrupted h
      refine ⟨true, { context' with computed := true }, ?_,
        ⟨rfl, hcorrupted.trans hnot, hdigest⟩, ?_⟩
      · rw [sha1Result, hnot, if_neg (by decide), Sha1Context.Streams.computed h,
          if_neg (by decide), hpad]
        rfl
      · rw [if_pos rfl]
        exact congrArg some hdigest.symm
  | computed message =>
      obtain ⟨hcomputed, hnot, hdigest⟩ := h
      refine ⟨true, context, ?_, ⟨hcomputed, hnot, hdigest⟩, ?_⟩
      · rw [sha1Result, hnot, if_neg (by decide), hcomputed, if_pos rfl]
      · rw [if_pos rfl]
        exact congrArg some hdigest.symm
  | corrupted =>
      have hcorrupted : context.corrupted = true := h
      refine ⟨false, context, ?_, h, rfl⟩
      rw [sha1Result, hcorrupted, if_pos rfl]

theorem Of.calls {stage : Sha1Stage} {context : Sha1Context} (h : stage.Of context)
    (calls : List Sha1Call) : sha1Calls context calls = some (stage.answers calls) := by
  induction calls generalizing stage context with
  | nil => rfl
  | cons call calls ih =>
      cases call with
      | input octets hlt =>
          obtain ⟨context', hinput, hof⟩ := h.input octets hlt
          rw [sha1Calls, hinput]
          exact ih hof
      | result =>
          obtain ⟨ok, context', hresult, hof, hanswer⟩ := h.result
          rw [sha1Calls, hresult]
          show (do
            let answers ← sha1Calls context' calls
            return (if ok then some context'.messageDigest else none) :: answers) = _
          rw [ih hof, Sha1Stage.answers, hanswer]
          rfl

end Sha1Stage

/-- **The hash.** After a reset, whatever `SHA1Input` is given, in pieces of any
lengths, and wherever `SHA1Result` is called: no store leaves the block and no
read the message. A result is the digest of all octets since the reset, until
octets follow a result or make the message 2 ^ 64 bits long. -/
theorem sha1Calls_reset (context : Sha1Context) (calls : List Sha1Call) :
    sha1Calls (sha1Reset context) calls = some ((Sha1Stage.takes []).answers calls) :=
  (show (Sha1Stage.takes []).Of (sha1Reset context) from
    Sha1Context.streams_reset context).calls calls

/-- The digest of the octets of `abc`. -/
example : sha1Calls (sha1Reset ⟨sha1InitialDigest, 0, 0, Vector.replicate 64 0, 0, false, false⟩)
    [.input [0x61, 0x62] (by decide), .input [0x63] (by decide), .result] =
      some [some ⟨0xA9993E36, 0x4706816A, 0xBA3E2571, 0x7850C26C, 0x9CD0D89D⟩] := by
  decide +kernel

end SrRouter
