import SrRouter.ArpCache
import SrRouter.Lib.SavedNext

/-!
Packet processing (`sr_router.c`), as programs over the shared operations.

Each function of the source is one program under its own name. A program
reads the interface list and the routing table from `sr`, which only the
thread that processes packets ever changes, and touches the ARP cache through
the operations of `Op` alone. So the same text says what a frame does when it
is handled in one go, and where the timer thread can step in between.

`malloc` is taken to succeed.
-/

namespace SrRouter

open ByteBuffer CString Interactive

abbrev Program := Prog Res Unit

/-- Hand a frame to `sr_send_packet`, for the reason `cause`. -/
def srSendPacket (sr : Config) (cause : Cause) (buf : Frame) (iface : Name) : Program :=
  Call.trace (.sendPacket cause iface buf (srSendPacketRet sr buf iface))

/-! ### ARP frames -/

/-- The ARP frame that `outIface` sends: a zeroed buffer with the Ethernet
and the ARP header filled in. -/
def arpFrame (op : UInt16) (outIface : SrIf) (dhost tha : Mac) (tip : UInt32) : Frame :=
  let b := List.replicate (sizeofEthernetHdr + sizeofArpHdr) 0
  let b := setEtherDhost b dhost
  let b := setEtherShost b outIface.addr
  let b := setEtherType b ethertypeArp
  -- the formats and sizes of the two kinds of address, and the operation
  let b := store16 b 14 (htons arpHrdEthernet)
  let b := store16 b 16 (htons ethertypeIp)
  let b := store8 b 18 6
  let b := store8 b 19 4
  let b := store16 b 20 (htons op)
  -- the sender, then the target
  let b := storeMac b 22 outIface.addr
  let b := store32 b 28 outIface.ip
  let b := storeMac b 32 tha
  store32 b 38 tip

/-- The broadcast request that asks, from `outIface`, for the owner of `ip`. -/
def arpRequestFrame (outIface : SrIf) (ip : UInt32) : Frame :=
  arpFrame arpOpRequest outIface broadcast zeroMac ip

/-- The reply that tells the sender of the request `packet` who `outIface` is. -/
def arpReplyFrame (outIface : SrIf) (packet : Frame) : Frame :=
  arpFrame arpOpReply outIface (arSha packet) (arSha packet) (arSip packet)

/-- The common text of the two functions that send an ARP request. -/
def sendArpRequest (sr : Config) (ip : UInt32) (iface : Name) : Program :=
  match srGetInterface sr.ifList iface with
  | none => pure ()
  | some outIface => srSendPacket sr .arpRequest (arpRequestFrame outIface ip) iface

/-- `sr_send_arp_request`, in `sr_router.c`. -/
def srSendArpRequest (sr : Config) (ip : UInt32) (iface : Name) : Program :=
  sendArpRequest sr ip iface

/-- `sr_arpcache_send_arp_request`, in `sr_arpcache.c`. -/
def srArpcacheSendArpRequest (sr : Config) (ip : UInt32) (iface : Name) : Program :=
  sendArpRequest sr ip iface

def srSendArpReply (sr : Config) (packet : Frame) (interface : Name) : Program :=
  match srGetInterface sr.ifList interface with
  | none => pure ()
  | some outIface => srSendPacket sr .arpReply (arpReplyFrame outIface packet) interface

/-! ### Validation -/

/-- `sr_valid_ip_packet` and the buffer it leaves: the checksum field is
cleared for the computation and written back. -/
def validIpPacketInPlace (packet : Frame) : Bool × Frame :=
  if packet.length < sizeofEthernetHdr + sizeofIpHdr then (false, packet)
  else if ipV packet ≠ 4 || decide (ipHeaderLen packet < sizeofIpHdr) ||
      decide (packet.length < sizeofEthernetHdr + ipHeaderLen packet) ||
      decide (ipLen packet < ipHeaderLen packet) ||
      decide (packet.length < sizeofEthernetHdr + ipLen packet) then (false, packet)
  else
    let receivedSum := ipSum packet
    let cleared := setIpSum packet 0
    let computedSum := cksum (slice cleared 14 (ipHeaderLen packet))
    (receivedSum == computedSum, setIpSum cleared receivedSum)

def srValidIpPacket (packet : Frame) : Bool := (validIpPacketInPlace packet).1

/-- The checksum test of `sr_handle_ip` on an ICMP message, and the buffer it
leaves. -/
def icmpSumInPlace (packet : Frame) : Bool × Frame :=
  let receivedSum := icmpSum packet
  let cleared := store16 packet (icmpOff packet + 2) 0
  (receivedSum == cksum (slice cleared (icmpOff packet) (icmpLen packet)),
    store16 cleared (icmpOff packet + 2) receivedSum)

def icmpSumOk (packet : Frame) : Bool := (icmpSumInPlace packet).1

/-! ### Routing -/

/-- `sr_send_routed_ip_packet`; `origin` marks who built the packet. -/
def srSendRoutedIpPacket (sr : Config) (origin : Origin) (packet : Frame) : Program :=
  match srFindLpmRoute sr.routingTable (ipDst packet) with
  | none => pure ()
  | some route =>
    match srGetInterface sr.ifList route.interface with
    | none => pure ()
    | some outIface => do
      let forwarded := setEtherShost packet outIface.addr
      let nextHopIp := if route.gw ≠ 0 then route.gw else ipDst packet
      match ← Call.lookup nextHopIp with
      | some entry =>
        let forwarded := setEtherDhost forwarded entry.mac
        srSendPacket sr (.routed origin) (setEtherShost forwarded outIface.addr) outIface.name
      | none =>
        let req ← Call.queuereq nextHopIp origin forwarded outIface.name
        -- a request that was just created goes out at once
        if (← Call.readRequest req).timesSent = 0 then
          let ip := (← Call.readRequest req).ip
          srSendArpRequest sr ip outIface.name
          let now ← Call.time
          Call.writeSent req now
          Call.incTimesSent req

/-- The ICMP error message that `outIface` sends about `old`: a zeroed buffer
with its headers filled in field by field. -/
def icmpErrorFrame (outIface : SrIf) (old : Frame) (type code : UInt8) : Frame :=
  let b := List.replicate (sizeofEthernetHdr + sizeofIpHdr + sizeofIcmpT11Hdr) 0
  let b := setEtherDhost b (etherShost old)
  let b := setEtherShost b outIface.addr
  let b := setEtherType b ethertypeIp
  -- the IP header: 20 bytes, no options
  let b := store8 b 14 (4 * 16 + 5)
  let b := store8 b 15 0
  let b := store16 b 16 (htons (UInt16.ofNat (sizeofIpHdr + sizeofIcmpT11Hdr)))
  let b := store16 b 18 0
  let b := store16 b 20 0
  let b := setIpTtl b initTtl
  let b := store8 b 23 ipProtocolIcmp
  let b := setIpSrc b outIface.ip
  let b := setIpDst b (ipSrc old)
  let b := setIpSum b 0
  let b := setIpSum b (cksum (slice b 14 sizeofIpHdr))
  -- the ICMP header, with the quote behind it
  let b := store8 b 34 type
  let b := store8 b 35 code
  let b := store32 b 38 0
  let b := blit b 42 (slice old 14 (min (ipLen old) icmpDataSize))
  let b := store16 b 36 0
  store16 b 36 (cksum (slice b 34 sizeofIcmpT11Hdr))

/-- `sr_send_icmp_error`; `pkt` is the queued packet that `packet` belongs
to, if it is queued. -/
def srSendIcmpError (sr : Config) (pkt : Option SrPacket) (packet : Frame)
    (type code : UInt8) : Program := do
  Call.trace (.icmpError pkt type code packet)
  let valid := validIpPacketInPlace packet
  if !valid.1 then pure ()
  else
    let packet := valid.2
    match srFindIcmpSourceIface sr packet (ipSrc packet) with
    | none => pure ()
    | some outIface =>
      let reply := icmpErrorFrame outIface packet type code
      Call.trace (.icmpReply type code packet reply)
      srSendRoutedIpPacket sr .icmpError reply

def srForwardIpPacket (sr : Config) (packet : Frame) : Program :=
  if (srFindLpmRoute sr.routingTable (ipDst packet)).isNone then
    srSendIcmpError sr none packet 3 0
  else srSendRoutedIpPacket sr .received packet

/-! ### Echo replies -/

/-- The echo reply that `outIface` sends to the request `packet`: a copy of
it, edited in place. -/
def echoReplyFrame (outIface : SrIf) (packet : Frame) : Frame :=
  let b := setEtherDhost packet (etherShost packet)
  let b := setEtherShost b outIface.addr
  -- the requester and the address that was pinged change places
  let oldSrc := ipSrc b
  let b := setIpSrc b (ipDst b)
  let b := setIpDst b oldSrc
  let b := setIpTtl b initTtl
  let b := setIpSum b 0
  let b := setIpSum b (cksum (slice b 14 (ipHeaderLen packet)))
  let b := store8 b (icmpOff packet) 0
  let b := store8 b (icmpOff packet + 1) 0
  let b := store16 b (icmpOff packet + 2) 0
  store16 b (icmpOff packet + 2) (cksum (slice b (icmpOff packet) (icmpLen packet)))

def srSendIcmpEchoReply (sr : Config) (packet : Frame) (interface : Name) : Program :=
  match srGetInterface sr.ifList interface with
  | none => pure ()
  | some outIface => srSendPacket sr .echoReply (echoReplyFrame outIface packet) interface

/-! ### Received frames -/

/-- The TTL of a frame to be forwarded, taken down by one, with the header
checksum recomputed. -/
def decrementTtl (packet : Frame) : Frame :=
  let b := setIpTtl packet (ipTtl packet - 1)
  let b := setIpSum b 0
  setIpSum b (cksum (slice b 14 (ipHeaderLen packet)))

def srHandleIp (sr : Config) (packet : Frame) (interface : Name) : Program :=
  let valid := validIpPacketInPlace packet
  if !valid.1 then pure ()
  else
    let packet := valid.2
    if srIsRouterIp sr.ifList (ipDst packet) then
      if ipP packet = ipProtocolIcmp ∧
          ipHeaderLen packet + sizeofIcmpT08Hdr ≤ ipLen packet then
        let test := icmpSumInPlace packet
        if icmpType packet = 8 ∧ test.1 = true then srSendIcmpEchoReply sr test.2 interface
        else pure ()
      else if ipP packet = ipProtocolTcp ∨ ipP packet = ipProtocolUdp then
        srSendIcmpError sr none packet 3 3
      else pure ()
    else if ipTtl packet ≤ 1 then srSendIcmpError sr none packet 11 0
    else srForwardIpPacket sr (decrementTtl packet)

/-- The loop of `sr_cache_arp_mapping` over the packets of the unlinked
request. -/
def flushPackets (sr : Config) (ip : UInt32) (mac : Mac) : List SrPacket → Program
  | [] => pure ()
  | pkt :: packets => do
    match srGetInterface sr.ifList pkt.iface with
    | none => pure ()
    | some outIface =>
      let buf := setEtherShost (setEtherDhost pkt.buf mac) outIface.addr
      srSendPacket sr (.flush pkt ip mac) buf pkt.iface
    flushPackets sr ip mac packets

def srCacheArpMapping (sr : Config) (packet : Frame) : Program := do
  match ← Call.insert (arSha packet) (arSip packet) with
  | none => pure ()
  | some req =>
    -- the record is off the queue, but still there
    flushPackets sr (arSip packet) (arSha packet) req.packets
    Call.destroy req.addr

def srHandleArp (sr : Config) (packet : Frame) (interface : Name) : Program :=
  if packet.length < sizeofEthernetHdr + sizeofArpHdr then pure ()
  else
    match srGetInterface sr.ifList interface with
    | none => pure ()
    | some recvIface =>
      if arSip packet = 0 then pure ()
      else if arOp packet = arpOpRequest then do
        srCacheArpMapping sr packet
        if arTip packet = recvIface.ip then srSendArpReply sr packet interface
      else if arOp packet = arpOpReply then
        -- a reply to somebody else teaches nothing
        if !srIsRouterIp sr.ifList (arTip packet) then pure ()
        else srCacheArpMapping sr packet
      else pure ()

def srHandlepacket (sr : Config) (packet : Frame) (interface : Name) : Program :=
  if packet.length < sizeofEthernetHdr then pure ()
  else if ethertype packet = ethertypeArp then srHandleArp sr packet interface
  else if ethertype packet = ethertypeIp then srHandleIp sr packet interface
  else pure ()

/-! ### The timer thread -/

/-- The loop of `sr_arpcache_sweepreqs` over the packets of a request that is
given up. Packets are only ever put in front of the list, so the rest of it
is what it was when the loop began. -/
def reportPackets (sr : Config) : List SrPacket → Program
  | [] => pure ()
  | pkt :: packets => do
    srSendIcmpError sr (some pkt) pkt.buf 3 1
    reportPackets sr packets

/-- The ARP request is sent once more, and the record at `req` says so. -/
def retryArpreq (sr : Config) (now : Int) (req : Addr) (ip : UInt32) (iface : Name) : Program := do
  srArpcacheSendArpRequest sr ip iface
  Call.writeSent req now
  Call.incTimesSent req

/-- The body of the loop of `sr_arpcache_sweepreqs`, for the request at
`req`. -/
def handleArpreq (sr : Config) (now : Int) (req : Addr) : Program := do
  let r ← Call.readRequest req
  if now - r.sent ≥ 1 then
    -- the fifth request was the last
    if r.timesSent ≥ 5 then do
      reportPackets sr r.packets
      Call.destroy req
    else
      match r.packets with
      | [] => pure ()
      | pkt :: _ => retryArpreq sr now req r.ip pkt.iface
  else pure ()

/-- The field `next` of the record at `req`. -/
def Store.next (s : Store) (req : Addr) : Option Addr :=
  ((s.requests.dropWhile fun r => r.addr != req).tail.head?).map SrArpreq.addr

/-- The loop of `sr_arpcache_sweepreqs` from the request at `req` on, for at
most `fuel` turns: the next pointer is read before the body runs. The state is
what `exec` works on. -/
def sweepLoopBy {σ : Type} (exec : (o : Op) → σ → Res o × σ) (next : σ → Addr → Option Addr)
    (sr : Config) (now : Int) : Nat → Option Addr → σ → σ :=
  SavedNext.loop next fun req s => ((handleArpreq sr now req).run exec s).2

def sweepLoop (sr : Config) (now : Int) : Nat → Option Addr → Store → Store :=
  sweepLoopBy exec Store.next sr now

/-- `sr_arpcache_sweepreqs`. A turn for each request that is on the queue at
the start is enough, whatever the turns add to it. -/
def srArpcacheSweepreqs (sr : Config) (s : Store) : Store :=
  sweepLoop sr s.now s.requests.length (s.requests.head?.map SrArpreq.addr) s

/-- One pass of the loop of `sr_arpcache_timeout`, under the lock. -/
def srArpcacheTimeout (sr : Config) (s : Store) : Store :=
  srArpcacheSweepreqs sr { s with cache := srArpcacheExpire s.cache s.now }

end SrRouter
