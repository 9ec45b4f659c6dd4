import SrRouter.Interfaces

/-!
The messages of the server (`sr_vns_comm.c`), and which of their bytes the
dispatcher and its handlers touch.

A message is accepted if its length prefix is at most 10000; nothing asks
for a least length. Every handler then takes its own lengths from that prefix
by unsigned subtractions. `messageUses` collects, in the order of the source,
the ranges of bytes that are read or handed on and the subtractions; a string
that is read up to its terminator is a range that ends with it, or with the
first byte behind the message.

`int` has 32 bits and `size_t` has 64.
-/

namespace SrRouter

open ByteBuffer CString

/-- A message that the framing layer accepts, its length field included. -/
structure Message where
  bytes : Bytes
  length_le : bytes.length ≤ 10000

/-- What a handler does with the buffer. -/
inductive Use
  /-- It reads these bytes, or hands them on. -/
  | bytes (start count : Nat)
  /-- It subtracts from an unsigned length. -/
  | sub (minuend subtrahend : Nat)
  deriving DecidableEq

/-- What the handlers depend on beside the message: the interface list and
the memory that `malloc` finds, whether packets are logged, and whether the
files can be opened. -/
structure Surround where
  ifList : List SrIf
  mem : Nat → Mac × UInt32
  logfile : Bool
  rtableFile : Bool
  authKeyFile : Bool

def sizeofCPacketHeader : Nat := 24
def sizeofCPacketEthernetHeader : Nat := 38
def sizeofCHwEntry : Nat := 36
def idsize : Nat := 32
def packetDumpSize : UInt32 := 1024

def vnsClose : UInt32 := 2
def vnsPacket : UInt32 := 4
def vnsBanner : UInt32 := 8
def vnsHwinfo : UInt32 := 16
def vnsRtable : UInt32 := 32
def vnsAuthRequest : UInt32 := 128
def vnsAuthStatus : UInt32 := 512

namespace Message

variable (msg : Message)

def len : Nat := msg.bytes.length

def command : UInt32 := ntohl (load32 msg.bytes 4)

/-- The string that starts at the offset, as far as the message goes. -/
def string (i : Nat) : CStr := msg.bytes.drop i

def scan (i : Nat) : Use := .bytes i (scanReads (msg.string i))

/-! ### VNSPACKET -/

/-- The lookups of `sr_get_interface` by the name in the message: each name in
the list is compared until one matches. -/
def srGetInterfaceUses : List SrIf → List Use
  | [] => []
  | i :: ifList =>
    .bytes 8 (strncmpReads srIfaceNamelen i.name (msg.string 8)) ::
      if strncmp srIfaceNamelen i.name (msg.string 8) = 0 then [] else srGetInterfaceUses ifList

def frameLen : UInt32 :=
  (UInt64.ofNat msg.len - UInt64.ofNat sizeofCPacketEthernetHeader +
    UInt64.ofNat sizeofEthernetHdr).toUInt32

def frame : Frame := msg.bytes.drop sizeofCPacketHeader

/-- `sr_arp_req_not_for_us`; `none` is the failed assertion that the interface
exists. -/
def srArpReqNotForUs (ifList : List SrIf) : Option Bool × List Use :=
  let lookup := msg.srGetInterfaceUses ifList
  if msg.frameLen.toNat < sizeofEthernetHdr + sizeofArpHdr then (some false, lookup)
  else
    match srGetInterface ifList (msg.string 8) with
    | none => (none, lookup)
    | some iface =>
      let type := .bytes (sizeofCPacketHeader + 12) 2
      let op := .bytes (sizeofCPacketHeader + 20) 2
      let tip := .bytes (sizeofCPacketHeader + 38) 4
      if ethertype msg.frame ≠ ethertypeArp then (some false, lookup ++ [type])
      else if arOp msg.frame ≠ arpOpRequest then (some false, lookup ++ [type, op])
      else (some (arTip msg.frame != iface.ip), lookup ++ [type, op, tip])

/-- The frame and the name field, as `sr_arp_req_not_for_us` and
`sr_handlepacket` get them. -/
def handOn : List Use :=
  [.sub msg.len sizeofCPacketEthernetHeader, .bytes sizeofCPacketHeader msg.frameLen.toNat,
    .bytes 8 16]

/-- `min(PACKET_DUMP_SIZE, len)`, a comparison of `int`s. -/
def dumpSize (len : UInt32) : UInt32 :=
  if packetDumpSize.toInt32 < len.toInt32 then packetDumpSize else len

def srLogPacketUses (logfile : Bool) : List Use :=
  let len := (UInt64.ofNat msg.len - UInt64.ofNat sizeofCPacketHeader).toUInt32
  [.bytes 0 4, .sub msg.len sizeofCPacketHeader] ++
    if logfile then [.bytes sizeofCPacketHeader (dumpSize len).toNat] else []

def packetUses (env : Surround) : List Use :=
  let notForUs := msg.srArpReqNotForUs env.ifList
  msg.handOn ++ notForUs.2 ++
    if notForUs.1 = some false then
      msg.srLogPacketUses env.logfile ++ msg.handOn ++ msg.srGetInterfaceUses env.ifList
    else []

/-! ### VNSHWINFO -/

def numEntries : Int32 :=
  ((UInt64.ofNat msg.len - UInt64.ofNat 8) / UInt64.ofNat sizeofCHwEntry).toUInt32.toInt32

def hwEntry (i : Nat) : HwEntry :=
  { mKey := ntohl (load32 msg.bytes (8 + sizeofCHwEntry * i))
    value := slice msg.bytes (12 + sizeofCHwEntry * i) 32 }

/-- What the `switch` of `sr_handle_hwinfo` reads of the `i`-th entry. -/
def hwEntryUses (i : Nat) : List Use :=
  let e := msg.hwEntry i
  .bytes (8 + sizeofCHwEntry * i) 4 ::
    if e.mKey = hwInterface then
      [.bytes (12 + sizeofCHwEntry * i) (min srIfaceNamelen (scanReads e.value))]
    else if e.mKey = hwEthip then [.bytes (12 + sizeofCHwEntry * i) 4]
    else if e.mKey = hwEther then [.bytes (12 + sizeofCHwEntry * i) 6]
    else []

/-- The loop of `sr_handle_hwinfo` for `n` entries from the `i`-th on; a failed
assertion ends it. -/
def srHandleHwinfoUses (mem : Nat → Mac × UInt32) : Nat → Nat → List SrIf → List Use
  | 0, _, _ => []
  | n + 1, i, ifList =>
    msg.hwEntryUses i ++
      ((srHandleHwEntry (mem i) (msg.hwEntry i) ifList).map
        (srHandleHwinfoUses mem n (i + 1))).getD []

def hwinfoUses (env : Surround) : List Use :=
  [.bytes 0 4, .sub msg.len 8] ++
    msg.srHandleHwinfoUses env.mem msg.numEntries.toInt.toNat 0 env.ifList

/-! ### The other handlers -/

def srHandleRtableUses (rtableFile : Bool) : List Use :=
  msg.scan 8 ::
    if rtableFile then
      [.bytes 0 4, .sub msg.len 8, .sub (UInt32.ofNat msg.len - UInt32.ofNat 8).toNat idsize,
        .bytes (8 + idsize)
          (UInt32.ofNat msg.len - UInt32.ofNat 8 - UInt32.ofNat idsize).toNat]
    else []

def srHandleAuthRequestUses (authKeyFile : Bool) : List Use :=
  if authKeyFile then
    [.bytes 0 4, .sub msg.len 8, .bytes 8 (UInt64.ofNat msg.len - UInt64.ofNat 8).toUInt32.toNat]
  else []

def srHandleAuthStatusUses : List Use :=
  .bytes 8 1 :: if load8 msg.bytes 8 = 0 then [msg.scan 9] else []

/-- The message is not the one that was expected, and is not dispatched. -/
def Unexpected (expectedCmd : UInt32) : Prop :=
  expectedCmd ≠ 0 ∧ msg.command ≠ expectedCmd ∧ msg.command ≠ vnsClose

instance (expectedCmd : UInt32) : Decidable (msg.Unexpected expectedCmd) :=
  inferInstanceAs (Decidable (_ ∧ _))

def dispatchUses (env : Surround) (command : UInt32) : List Use :=
  if command = vnsPacket then msg.packetUses env
  else if command = vnsClose then [msg.scan 8]
  else if command = vnsBanner then [msg.scan 8]
  else if command = vnsHwinfo then msg.hwinfoUses env
  else if command = vnsRtable then msg.srHandleRtableUses env.rtableFile
  else if command = vnsAuthRequest then msg.srHandleAuthRequestUses env.authKeyFile
  else if command = vnsAuthStatus then msg.srHandleAuthStatusUses
  else []

/-- `sr_read_from_server_expect`, from the command word on. -/
def messageUses (env : Surround) (expectedCmd : UInt32) : List Use :=
  .bytes 4 4 ::
    if msg.Unexpected expectedCmd then [] else msg.dispatchUses env msg.command

end Message

end SrRouter
