import SrRouter.Lib.ByteBuffer

/-!
Frames as the router reads and writes them (`sr_protocol.h`), and the
internet checksum (`sr_utils.c`).

A frame is the buffer that holds it, Ethernet header first. The packed header
structs are offsets into the buffer, loads are in the byte order of the
little-endian host, and `ntohs`, `htons`, `ntohl` swap explicitly where the
source does. IP addresses stay in network byte order throughout, as they do
in the source.
-/

namespace SrRouter

open ByteBuffer

/-- A frame, or any other buffer that holds one. -/
abbrev Frame := Bytes

/-- A hardware address: exactly `ETHER_ADDR_LEN` bytes. -/
structure Mac where
  bytes : Bytes
  length_eq : bytes.length = 6
  deriving DecidableEq

def loadMac (b : Bytes) (i : Nat) : Mac :=
  ⟨[load8 b i, load8 b (i + 1), load8 b (i + 2), load8 b (i + 3), load8 b (i + 4),
    load8 b (i + 5)], rfl⟩

def storeMac (b : Bytes) (i : Nat) (mac : Mac) : Bytes := blit b i mac.bytes

/-! ### Byte order -/

def ntohs (v : UInt16) : UInt16 := UInt16.ofNat (v.toNat % 256 * 256 + v.toNat / 256)

def htons (v : UInt16) : UInt16 := ntohs v

def ntohl (v : UInt32) : UInt32 :=
  UInt32.ofNat (v.toNat % 256 * 16777216 + v.toNat / 256 % 256 * 65536 +
    v.toNat / 65536 % 256 * 256 + v.toNat / 16777216)

def htonl (v : UInt32) : UInt32 := ntohl v

theorem ntohs_htons (v : UInt16) : ntohs (htons v) = v := by
  have hv := v.toNat_lt
  have hswap : v.toNat % 256 * 256 + v.toNat / 256 < 2 ^ 16 := by omega
  have hlow : (v.toNat % 256 * 256 + v.toNat / 256) % 256 = v.toNat / 256 := by omega
  have hhigh : (v.toNat % 256 * 256 + v.toNat / 256) / 256 = v.toNat % 256 := by omega
  apply UInt16.toNat_inj.mp
  rw [htons, ntohs, ntohs, UInt16.toNat_ofNat', UInt16.toNat_ofNat', Nat.mod_eq_of_lt hswap,
    hlow, hhigh, Nat.div_add_mod', Nat.mod_eq_of_lt hv]

theorem toNat_ntohl {v : UInt32} {a b c d : Nat} (ha : a < 256) (hb : b < 256) (hc : c < 256)
    (hd : d < 256) (h : v.toNat = a + 256 * b + 65536 * c + 16777216 * d) :
    (ntohl v).toNat = d + 256 * c + 65536 * b + 16777216 * a := by
  have h0 : v.toNat % 256 = a := by omega
  have h1 : v.toNat / 256 % 256 = b := by omega
  have h2 : v.toNat / 65536 % 256 = c := by omega
  have h3 : v.toNat / 16777216 = d := by omega
  rw [ntohl, h0, h1, h2, h3, UInt32.toNat_ofNat']
  omega

theorem ntohl_ntohl (v : UInt32) : ntohl (ntohl v) = v := by
  have hv := v.toNat_lt
  have hbytes : v.toNat = v.toNat % 256 + 256 * (v.toNat / 256 % 256) +
      65536 * (v.toNat / 65536 % 256) + 16777216 * (v.toNat / 16777216) := by omega
  have hlt (n : Nat) : n % 256 < 256 := Nat.mod_lt _ (by decide)
  have hswap := toNat_ntohl (hlt _) (hlt _) (hlt _) (by omega) hbytes
  apply UInt32.toNat_inj.mp
  rw [toNat_ntohl (by omega) (hlt _) (hlt _) (hlt _) hswap]
  exact hbytes.symm

theorem ntohl_inj {v w : UInt32} (h : ntohl v = ntohl w) : v = w := by
  rw [← ntohl_ntohl v, h, ntohl_ntohl]

/-! ### Header sizes and constants -/

def sizeofEthernetHdr : Nat := 14
def sizeofIpHdr : Nat := 20
def sizeofArpHdr : Nat := 28
def sizeofIcmpT08Hdr : Nat := 8
def icmpDataSize : Nat := 28
def sizeofIcmpT11Hdr : Nat := 8 + icmpDataSize

def ethertypeArp : UInt16 := 0x0806
def ethertypeIp : UInt16 := 0x0800
def arpHrdEthernet : UInt16 := 1
def arpOpRequest : UInt16 := 1
def arpOpReply : UInt16 := 2
def ipProtocolIcmp : UInt8 := 0x01
def ipProtocolTcp : UInt8 := 0x06
def ipProtocolUdp : UInt8 := 0x11
def initTtl : UInt8 := 255

def zeroMac : Mac := ⟨List.replicate 6 0, rfl⟩

def broadcast : Mac := ⟨List.replicate 6 0xff, rfl⟩

/-! ### `struct sr_ethernet_hdr` -/

def etherDhost (f : Frame) : Mac := loadMac f 0
def etherShost (f : Frame) : Mac := loadMac f 6

def ethertype (f : Frame) : UInt16 := ntohs (load16 f 12)

def setEtherDhost (f : Frame) (mac : Mac) : Frame := storeMac f 0 mac
def setEtherShost (f : Frame) (mac : Mac) : Frame := storeMac f 6 mac
def setEtherType (f : Frame) (v : UInt16) : Frame := store16 f 12 (htons v)

/-! ### `struct sr_arp_hdr`, behind the Ethernet header -/

def arOp (f : Frame) : UInt16 := ntohs (load16 f 20)
def arSha (f : Frame) : Mac := loadMac f 22
def arSip (f : Frame) : UInt32 := load32 f 28
def arTip (f : Frame) : UInt32 := load32 f 38

/-! ### `struct sr_ip_hdr`, behind the Ethernet header -/

/-- The bit-field `ip_hl`: the low half of the first byte. -/
def ipHl (f : Frame) : Nat := (load8 f 14).toNat % 16

/-- The bit-field `ip_v`: the high half of the first byte. -/
def ipV (f : Frame) : Nat := (load8 f 14).toNat / 16

def ipLen (f : Frame) : Nat := (ntohs (load16 f 16)).toNat
def ipTtl (f : Frame) : UInt8 := load8 f 22
def ipP (f : Frame) : UInt8 := load8 f 23
def ipSum (f : Frame) : UInt16 := load16 f 24
def ipSrc (f : Frame) : UInt32 := load32 f 26
def ipDst (f : Frame) : UInt32 := load32 f 30

def ipHeaderLen (f : Frame) : Nat := ipHl f * 4

def setIpTtl (f : Frame) (v : UInt8) : Frame := store8 f 22 v
def setIpSum (f : Frame) (v : UInt16) : Frame := store16 f 24 v
def setIpSrc (f : Frame) (v : UInt32) : Frame := store32 f 26 v
def setIpDst (f : Frame) (v : UInt32) : Frame := store32 f 30 v

/-! ### The ICMP headers, behind an IP header of any length -/

def icmpOff (f : Frame) : Nat := 14 + ipHeaderLen f

def icmpType (f : Frame) : UInt8 := load8 f (icmpOff f)
def icmpSum (f : Frame) : UInt16 := load16 f (icmpOff f + 2)

/-- `ntohs(ip_len) - ip_hl * 4`, the length of the IP payload. -/
def icmpLen (f : Frame) : Nat := ipLen f - ipHeaderLen f

/-! ### `cksum` -/

/-- The summing loop of `cksum`: big-endian words, an odd last byte counted
as a high byte. -/
def cksumWords : Bytes → UInt32 → UInt32
  | d0 :: d1 :: data, sum => cksumWords data (sum + (d0.toUInt32 <<< 8 ||| d1.toUInt32))
  | [d0], sum => sum + d0.toUInt32 <<< 8
  | [], sum => sum

/-- The folding loop of `cksum`, for at most `fuel` turns. -/
def cksumFold : Nat → UInt32 → UInt32
  | 0, sum => sum
  | fuel + 1, sum =>
    if sum > 0xffff then cksumFold fuel ((sum >>> 16) + (sum &&& 0xffff)) else sum

theorem toNat_foldTurn (sum : UInt32) :
    ((sum >>> 16) + (sum &&& 0xffff)).toNat = sum.toNat % 65536 + sum.toNat / 65536 := by
  have hsum := sum.toNat_lt
  have hand : (sum &&& 0xffff).toNat = sum.toNat % 65536 := by
    rw [UInt32.toNat_and]
    exact Nat.and_two_pow_sub_one_eq_mod sum.toNat 16
  rw [UInt32.toNat_add, hand, UInt32.toNat_shiftRight]
  simp only [UInt32.reduceToNat, Nat.reduceMod, Nat.shiftRight_eq_div_pow]
  omega

theorem cksumFold_of_le (fuel : Nat) {sum : UInt32} (h : sum.toNat ≤ 0xffff) :
    cksumFold fuel sum = sum := by
  cases fuel with
  | zero => rfl
  | succ fuel =>
      rw [cksumFold, if_neg]
      rw [gt_iff_lt, UInt32.lt_iff_toNat_lt, Nat.not_lt]
      exact h

/-- The folding loop has ended after three turns, whatever the sum. -/
theorem cksumFold_le (fuel : Nat) (sum : UInt32) :
    (cksumFold (fuel + 3) sum).toNat ≤ 0xffff := by
  have hsmall (s : UInt32) (h : ¬s > 0xffff) : s.toNat ≤ 0xffff :=
    Nat.not_lt.mp fun hlt => h (UInt32.lt_iff_toNat_lt.mpr hlt)
  have hsum := sum.toNat_lt
  rw [cksumFold]
  split
  · -- one turn leaves at most `2 * 0xffff`, a second one at most `0xffff`
    have h1 := toNat_foldTurn sum
    rw [cksumFold]
    split
    · have h2 := toNat_foldTurn ((sum >>> 16) + (sum &&& 0xffff))
      rw [cksumFold_of_le _ (by omega)]
      omega
    · next h => exact hsmall _ h
  · next h => exact hsmall _ h

/-- `cksum`: the ones' complement of the ones' complement sum, in network
byte order, with zero replaced by `0xffff`. -/
def cksum (data : Bytes) : UInt16 :=
  let sum := htons (~~~(cksumFold 3 (cksumWords data 0))).toUInt16
  if sum ≠ 0 then sum else 0xffff

end SrRouter
