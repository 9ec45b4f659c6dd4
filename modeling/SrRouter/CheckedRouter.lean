import SrRouter.Lib.Checked
import SrRouter.Router

/-!
Packet processing with every access to a buffer checked.

These are the functions of `sr_router.c` once more, under their own names,
with each load, store, copy and subtraction of lengths in its checked form,
in the order of the source. A buffer is as long as the frame it holds: the
received frame has `len` bytes, a queued one the length recorded with it, and
a reply what was allocated for it.

The tests of `sr_valid_ip_packet` stop at the first one that fails; here both
length fields are read before the first test.
-/

namespace SrRouter.Checked

open ByteBuffer CString Interactive Interactive.Faulting

abbrev Program := Faulting Res Unit

/-! ### Fields -/

def loadMac (b : Bytes) (i : Nat) : Option Mac := do
  let m0 ← load8? b i
  let m1 ← load8? b (i + 1)
  let m2 ← load8? b (i + 2)
  let m3 ← load8? b (i + 3)
  let m4 ← load8? b (i + 4)
  let m5 ← load8? b (i + 5)
  return ⟨[m0, m1, m2, m3, m4, m5], rfl⟩

def storeMac (b : Bytes) (i : Nat) (mac : Mac) : Option Bytes := blit? b i mac.bytes

def ethertype (f : Frame) : Option UInt16 := do
  return ntohs (← load16? f 12)

def arOp (f : Frame) : Option UInt16 := do
  return ntohs (← load16? f 20)

def ipV (f : Frame) : Option Nat := do
  return (← load8? f 14).toNat / 16

def ipHeaderLen (f : Frame) : Option Nat := do
  return (← load8? f 14).toNat % 16 * 4

def ipLen (f : Frame) : Option Nat := do
  return (ntohs (← load16? f 16)).toNat

/-! ### `cksum` -/

/-- The summing loop, on the `len` bytes from offset `i` on. -/
def cksumWords (b : Bytes) (i : Nat) : Nat → UInt32 → Option UInt32
  | len + 2, sum => do
    let d0 ← load8? b i
    let d1 ← load8? b (i + 1)
    cksumWords b (i + 2) len (sum + (d0.toUInt32 <<< 8 ||| d1.toUInt32))
  | 1, sum => do
    let d0 ← load8? b i
    return sum + d0.toUInt32 <<< 8
  | 0, sum => some sum

def cksum (b : Bytes) (i len : Nat) : Option UInt16 := do
  let total ← cksumWords b i len 0
  let sum := htons (~~~(cksumFold 3 total)).toUInt16
  return if sum ≠ 0 then sum else 0xffff

/-! ### Validation -/

def validIpPacketInPlace (packet : Frame) : Option (Bool × Frame) := do
  if packet.length < sizeofEthernetHdr + sizeofIpHdr then return (false, packet)
  else
    let v ← ipV packet
    let ipHeaderLen ← ipHeaderLen packet
    let ipLen ← ipLen packet
    if v ≠ 4 || decide (ipHeaderLen < sizeofIpHdr) ||
        decide (packet.length < sizeofEthernetHdr + ipHeaderLen) ||
        decide (ipLen < ipHeaderLen) ||
        decide (packet.length < sizeofEthernetHdr + ipLen) then return (false, packet)
    else
      let receivedSum ← load16? packet 24
      let cleared ← store16? packet 24 0
      let computedSum ← cksum cleared 14 ipHeaderLen
      let restored ← store16? cleared 24 receivedSum
      return (receivedSum == computedSum, restored)

def icmpSumInPlace (packet : Frame) : Option (Bool × Frame) := do
  let ipHeaderLen ← ipHeaderLen packet
  let icmpLen ← sub? (← ipLen packet) ipHeaderLen
  let receivedSum ← load16? packet (14 + ipHeaderLen + 2)
  let cleared ← store16? packet (14 + ipHeaderLen + 2) 0
  let computedSum ← cksum cleared (14 + ipHeaderLen) icmpLen
  let restored ← store16? cleared (14 + ipHeaderLen + 2) receivedSum
  return (receivedSum == computedSum, restored)

/-! ### Frames that the router builds -/

def arpFrame (op : UInt16) (outIface : SrIf) (dhost tha : Mac) (tip : UInt32) : Option Frame := do
  let b := List.replicate (sizeofEthernetHdr + sizeofArpHdr) 0
  let b ← storeMac b 0 dhost
  let b ← storeMac b 6 outIface.addr
  let b ← store16? b 12 (htons ethertypeArp)
  let b ← store16? b 14 (htons arpHrdEthernet)
  let b ← store16? b 16 (htons ethertypeIp)
  let b ← store8? b 18 6
  let b ← store8? b 19 4
  let b ← store16? b 20 (htons op)
  let b ← storeMac b 22 outIface.addr
  let b ← store32? b 28 outIface.ip
  let b ← storeMac b 32 tha
  store32? b 38 tip

def arpRequestFrame (outIface : SrIf) (ip : UInt32) : Option Frame :=
  arpFrame arpOpRequest outIface broadcast zeroMac ip

def arpReplyFrame (outIface : SrIf) (packet : Frame) : Option Frame := do
  let sha ← loadMac packet 22
  arpFrame arpOpReply outIface sha sha (← load32? packet 28)

def icmpErrorFrame (outIface : SrIf) (old : Frame) (type code : UInt8) : Option Frame := do
  let oldIpLen ← ipLen old
  let b := List.replicate (sizeofEthernetHdr + sizeofIpHdr + sizeofIcmpT11Hdr) 0
  let b ← storeMac b 0 (← loadMac old 6)
  let b ← storeMac b 6 outIface.addr
  let b ← store16? b 12 (htons ethertypeIp)
  let b ← store8? b 14 (4 * 16 + 5)
  let b ← store8? b 15 0
  let b ← store16? b 16 (htons (UInt16.ofNat (sizeofIpHdr + sizeofIcmpT11Hdr)))
  let b ← store16? b 18 0
  let b ← store16? b 20 0
  let b ← store8? b 22 initTtl
  let b ← store8? b 23 ipProtocolIcmp
  let b ← store32? b 26 outIface.ip
  let b ← store32? b 30 (← load32? old 26)
  let b ← store16? b 24 0
  let b ← store16? b 24 (← cksum b 14 sizeofIpHdr)
  let b ← store8? b 34 type
  let b ← store8? b 35 code
  let b ← store32? b 38 0
  let b ← blit? b 42 (← slice? old 14 (min oldIpLen icmpDataSize))
  let b ← store16? b 36 0
  store16? b 36 (← cksum b 34 sizeofIcmpT11Hdr)

def echoReplyFrame (outIface : SrIf) (packet : Frame) : Option Frame := do
  let b ← slice? packet 0 packet.length
  let ipHeaderLen ← ipHeaderLen b
  let icmpLen ← sub? (← ipLen b) ipHeaderLen
  let b ← storeMac b 0 (← loadMac packet 6)
  let b ← storeMac b 6 outIface.addr
  let oldSrc ← load32? b 26
  let b ← store32? b 26 (← load32? b 30)
  let b ← store32? b 30 oldSrc
  let b ← store8? b 22 initTtl
  let b ← store16? b 24 0
  let b ← store16? b 24 (← cksum b 14 ipHeaderLen)
  let b ← store8? b (14 + ipHeaderLen) 0
  let b ← store8? b (14 + ipHeaderLen + 1) 0
  let b ← store16? b (14 + ipHeaderLen + 2) 0
  store16? b (14 + ipHeaderLen + 2) (← cksum b (14 + ipHeaderLen) icmpLen)

def decrementTtl (packet : Frame) : Option Frame := do
  let ipHeaderLen ← ipHeaderLen packet
  let b ← store8? packet 22 ((← load8? packet 22) - 1)
  let b ← store16? b 24 0
  store16? b 24 (← cksum b 14 ipHeaderLen)

/-- The choice of the interface compares both addresses of the frame. -/
def srFindIcmpSourceIface (sr : Config) (packet : Frame) (ipSrc : UInt32) :
    Option (Option SrIf) := do
  let _ ← loadMac packet 6
  let _ ← loadMac packet 0
  return SrRouter.srFindIcmpSourceIface sr packet ipSrc

/-! ### Sending -/

/-- `sr_send_packet` copies the whole buffer, and compares its source
address. -/
def srSendPacket (sr : Config) (cause : Cause) (buf : Frame) (iface : Name) : Program := do
  if buf.length < sizeofEthernetHdr then calls (SrRouter.srSendPacket sr cause buf iface)
  else
    let _ ← access (slice? buf 0 buf.length)
    let _ ← access (loadMac buf 6)
    calls (SrRouter.srSendPacket sr cause buf iface)

def srSendArpRequest (sr : Config) (ip : UInt32) (iface : Name) : Program :=
  match srGetInterface sr.ifList iface with
  | none => pure ()
  | some outIface => do
    let request ← access (arpRequestFrame outIface ip)
    srSendPacket sr .arpRequest request iface

def srSendArpReply (sr : Config) (packet : Frame) (interface : Name) : Program :=
  match srGetInterface sr.ifList interface with
  | none => pure ()
  | some outIface => do
    let reply ← access (arpReplyFrame outIface packet)
    srSendPacket sr .arpReply reply interface

def srSendIcmpEchoReply (sr : Config) (packet : Frame) (interface : Name) : Program :=
  match srGetInterface sr.ifList interface with
  | none => pure ()
  | some outIface => do
    let reply ← access (echoReplyFrame outIface packet)
    srSendPacket sr .echoReply reply interface

def srSendRoutedIpPacket (sr : Config) (origin : Origin) (packet : Frame) : Program := do
  let dst ← access (load32? packet 30)
  match srFindLpmRoute sr.routingTable dst with
  | none => pure ()
  | some route =>
    match srGetInterface sr.ifList route.interface with
    | none => pure ()
    | some outIface => do
      let forwarded ← access (slice? packet 0 packet.length)
      let forwarded ← access (storeMac forwarded 6 outIface.addr)
      let nextHopIp := if route.gw ≠ 0 then route.gw else dst
      match ← calls (Call.lookup nextHopIp) with
      | some entry =>
        let forwarded ← access (storeMac forwarded 0 entry.mac)
        let forwarded ← access (storeMac forwarded 6 outIface.addr)
        srSendPacket sr (.routed origin) forwarded outIface.name
      | none =>
        -- the copy that `sr_arpcache_queuereq` makes
        let buf ← access (slice? forwarded 0 forwarded.length)
        let req ← calls (Call.queuereq nextHopIp origin buf outIface.name)
        if (← calls (Call.readRequest req)).timesSent = 0 then
          let ip := (← calls (Call.readRequest req)).ip
          srSendArpRequest sr ip outIface.name
          let now ← calls Call.time
          calls (Call.writeSent req now)
          calls (Call.incTimesSent req)

def srSendIcmpError (sr : Config) (pkt : Option SrPacket) (packet : Frame)
    (type code : UInt8) : Program := do
  calls (Call.trace (.icmpError pkt type code packet))
  let valid ← access (validIpPacketInPlace packet)
  if !valid.1 then pure ()
  else
    let packet := valid.2
    match ← access (srFindIcmpSourceIface sr packet (← access (load32? packet 26))) with
    | none => pure ()
    | some outIface =>
      let reply ← access (icmpErrorFrame outIface packet type code)
      calls (Call.trace (.icmpReply type code packet reply))
      srSendRoutedIpPacket sr .icmpError reply

def srForwardIpPacket (sr : Config) (packet : Frame) : Program := do
  if (srFindLpmRoute sr.routingTable (← access (load32? packet 30))).isNone then
    srSendIcmpError sr none packet 3 0
  else srSendRoutedIpPacket sr .received packet

/-! ### Received frames -/

def srHandleIp (sr : Config) (packet : Frame) (interface : Name) : Program := do
  let valid ← access (validIpPacketInPlace packet)
  if !valid.1 then pure ()
  else
    let packet := valid.2
    let ipHeaderLen ← access (ipHeaderLen packet)
    let dst ← access (load32? packet 30)
    if srIsRouterIp sr.ifList dst then
      let p ← access (load8? packet 23)
      let ipLen ← access (ipLen packet)
      if p = ipProtocolIcmp ∧ ipHeaderLen + sizeofIcmpT08Hdr ≤ ipLen then
        let test ← access (icmpSumInPlace packet)
        let type ← access (load8? packet (14 + ipHeaderLen))
        if type = 8 ∧ test.1 = true then srSendIcmpEchoReply sr test.2 interface
        else pure ()
      else if p = ipProtocolTcp ∨ p = ipProtocolUdp then srSendIcmpError sr none packet 3 3
      else pure ()
    else
      let ttl ← access (load8? packet 22)
      if ttl ≤ 1 then srSendIcmpError sr none packet 11 0
      else
        let packet ← access (decrementTtl packet)
        srForwardIpPacket sr packet

def flushPackets (sr : Config) (ip : UInt32) (packet : Frame) : List SrPacket → Program
  | [] => pure ()
  | pkt :: packets => do
    match srGetInterface sr.ifList pkt.iface with
    | none => pure ()
    | some outIface =>
      let mac ← access (loadMac packet 22)
      let buf ← access (storeMac pkt.buf 0 mac)
      let buf ← access (storeMac buf 6 outIface.addr)
      srSendPacket sr (.flush pkt ip mac) buf pkt.iface
    flushPackets sr ip packet packets

def srCacheArpMapping (sr : Config) (packet : Frame) : Program := do
  let sha ← access (loadMac packet 22)
  let sip ← access (load32? packet 28)
  match ← calls (Call.insert sha sip) with
  | none => pure ()
  | some req =>
    flushPackets sr sip packet req.packets
    calls (Call.destroy req.addr)

def srHandleArp (sr : Config) (packet : Frame) (interface : Name) : Program := do
  if packet.length < sizeofEthernetHdr + sizeofArpHdr then pure ()
  else
    match srGetInterface sr.ifList interface with
    | none => pure ()
    | some recvIface =>
      if (← access (load32? packet 28)) = 0 then pure ()
      else
        let op ← access (arOp packet)
        if op = arpOpRequest then
          srCacheArpMapping sr packet
          if (← access (load32? packet 38)) = recvIface.ip then srSendArpReply sr packet interface
        else if op = arpOpReply then
          if !srIsRouterIp sr.ifList (← access (load32? packet 38)) then pure ()
          else srCacheArpMapping sr packet
        else pure ()

def srHandlepacket (sr : Config) (packet : Frame) (interface : Name) : Program := do
  if packet.length < sizeofEthernetHdr then pure ()
  else
    let type ← access (ethertype packet)
    if type = ethertypeArp then srHandleArp sr packet interface
    else if type = ethertypeIp then srHandleIp sr packet interface
    else pure ()

end SrRouter.Checked
