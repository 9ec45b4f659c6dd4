import SrRouter.Framing
import SrRouter.MessageSafety

/-!
VNSPACKET messages, written by `sr_send_packet` and read by the dispatcher.

Both sides agree on everything but the name. An interface has a name of up to
32 bytes in the list. The message has a field of 16 bytes for it, which
`strncpy` fills, and the frame follows; the reader takes the field for a
string and looks it up with a comparison over 32 bytes. So a name that leaves
no terminator in the field is read on into the frame, and behind the message
if the frame is a byte or two too short.
-/

namespace SrRouter

open ByteBuffer CString Interactive ShortReads

/-! ### The interface list -/

/-- The list was built by `sr_add_interface`, with addresses set in between. -/
inductive Built : List SrIf → Prop
  | empty : Built []
  | added {ifList : List SrIf} (h : Built ifList) (mem : Mac × UInt32) (name : Name) :
      Built (srAddInterface mem name ifList)
  | addrSet {ifList ifList' : List SrIf} (h : Built ifList) (addr : Mac)
      (hset : srSetEtherAddr addr ifList = some ifList') : Built ifList'
  | ipSet {ifList ifList' : List SrIf} (h : Built ifList) (ip : UInt32)
      (hset : srSetEtherIp ip ifList = some ifList') : Built ifList'

theorem Built.srHandleHwinfo {mem : Nat → Mac × UInt32} {entries : List HwEntry}
    {ifList ifList' : List SrIf} (h : Built ifList)
    (hrun : srHandleHwinfo mem entries ifList = some ifList') : Built ifList' := by
  induction entries generalizing ifList with
  | nil => exact Option.some.inj hrun ▸ h
  | cons e entries ih =>
      rw [SrRouter.srHandleHwinfo, Option.bind_eq_some_iff] at hrun
      obtain ⟨mid, hmid, hrest⟩ := hrun
      apply ih _ hrest
      unfold srHandleHwEntry at hmid
      split at hmid
      · exact Option.some.inj hmid ▸ .added h _ _
      · split at hmid
        · exact .ipSet h _ hmid
        · split at hmid
          · exact .addrSet h _ hmid
          · exact Option.some.inj hmid ▸ h

theorem Built.length_name {ifList : List SrIf} (h : Built ifList) {name : Name}
    (hname : name ∈ ifList.map SrIf.name) : name.length = srIfaceNamelen := by
  induction h with
  | empty => cases hname
  | added h mem name' ih =>
      rw [srAddInterface, List.map_append, List.mem_append] at hname
      rcases hname with hold | hnew
      · exact ih hold
      · obtain rfl := List.mem_singleton.mp hnew
        exact length_strncpy ..
  | addrSet h addr hset ih =>
      rw [map_name_onLast (fun i => { i with addr := addr }) (fun _ => rfl) hset] at hname
      exact ih hname
  | ipSet h ip hset ih =>
      rw [map_name_onLast (fun i => { i with ip := ip }) (fun _ => rfl) hset] at hname
      exact ih hname

/-! ### Writing -/

/-- The size of `mInterfaceName`. -/
def wireNamelen : Nat := 16

/-- What `sr_send_packet` writes to the server, if it does. -/
def srSendPacketWrite (sr : Config) (buf : Frame) (iface : Name) : Option Bytes :=
  let totalLen := UInt32.ofNat buf.length + UInt32.ofNat sizeofCPacketHeader
  if buf.length < sizeofEthernetHdr then none
  else
    -- the packet is built before the addresses are checked
    let srPkt := bytes32 (htonl totalLen) ++ bytes32 (htonl vnsPacket) ++
      strncpy wireNamelen iface ++ buf
    if !srEtherAddrsMatchInterface sr buf iface then none
    else some (srPkt.take totalLen.toNat)

theorem srSendPacketWrite_isSome {sr : Config} {buf : Frame} {iface : Name} :
    (srSendPacketWrite sr buf iface).isSome ↔ srSendPacketRet sr buf iface = 0 := by
  unfold srSendPacketWrite srSendPacketRet
  split
  · simp
  · split <;> simp

/-! ### Reading -/

/-- What the VNSPACKET branch hands on of a message: the bytes of the frame,
their number, and the string that starts with the name field, with what is
behind the message in memory. -/
structure Handed where
  packet : Frame
  len : UInt32
  interface : Name

def Message.handed (msg : Message) (behind : Bytes) : Handed where
  packet := slice msg.bytes sizeofCPacketHeader msg.frameLen.toNat
  len := msg.frameLen
  interface := msg.string 8 ++ behind

/-- A frame sent from the interface is written as one complete VNSPACKET
message, and reading that message gives the frame, its length and a name of
the interface again, whatever is behind the message in memory. -/
def RoundTrips (sr : Config) (i : SrIf) (frame : Frame) : Prop :=
  ∃ msg : Message, srSendPacketWrite sr frame i.name = some msg.bytes ∧ msg.Framed ∧
    msg.command = vnsPacket ∧
    ∀ behind, (msg.handed behind).packet = frame ∧ (msg.handed behind).len.toNat = frame.length ∧
      srGetInterface sr.ifList (msg.handed behind).interface = some i

/-- The field holds the terminator of the name; or else the frame goes on as
the name does, up to the terminator or over all that is compared. -/
def NameArrives (name : Name) (frame : Frame) : Prop :=
  (0 : UInt8) ∈ name.take wireNamelen ∨
    strncmp (srIfaceNamelen - wireNamelen) (name.drop wireNamelen) frame = 0 ∧
      (srIfaceNamelen - wireNamelen ≤ frame.length ∨ (0 : UInt8) ∈ frame)

instance (name : Name) (frame : Frame) : Decidable (NameArrives name frame) :=
  inferInstanceAs (Decidable (_ ∨ _))

/-! ### The message written -/

section Written

variable {sr : Config} {frame : Frame} {iface : Name}

def packetBytes (frame : Frame) (iface : Name) : Bytes :=
  bytes32 (htonl (UInt32.ofNat (frame.length + sizeofCPacketHeader))) ++
    (bytes32 (htonl vnsPacket) ++ (strncpy wireNamelen iface ++ frame))

theorem length_packetBytes :
    (packetBytes frame iface).length = frame.length + sizeofCPacketHeader := by
  simp only [packetBytes, List.length_append, length_bytes32, length_strncpy, wireNamelen,
    sizeofCPacketHeader]
  omega

theorem srSendPacketWrite_eq (hmax : frame.length ≤ 10000 - sizeofCPacketHeader)
    (haccepted : srSendPacketRet sr frame iface = 0) :
    srSendPacketWrite sr frame iface = some (packetBytes frame iface) := by
  have hsize : sizeofCPacketHeader = 24 := rfl
  have htotal : UInt32.ofNat frame.length + UInt32.ofNat sizeofCPacketHeader =
      UInt32.ofNat (frame.length + sizeofCPacketHeader) := (UInt32.ofNat_add ..).symm
  have hwhole : (UInt32.ofNat (frame.length + sizeofCPacketHeader)).toNat =
      (packetBytes frame iface).length := by
    rw [length_packetBytes, UInt32.toNat_ofNat']
    omega
  obtain ⟨hlong, i, hget, hshost⟩ := srSendPacketRet_eq_zero.mp haccepted
  have hmatch : srEtherAddrsMatchInterface sr frame iface = true := by
    rw [srEtherAddrsMatchInterface, hget]
    exact beq_iff_eq.mpr hshost
  rw [srSendPacketWrite, if_neg (Nat.not_lt.mpr hlong), hmatch, htotal]
  show some _ = _
  rw [hwhole, List.append_assoc, List.append_assoc]
  exact congrArg some List.take_length

theorem packetBytes_mLen : ntohl (load32 (packetBytes frame iface) 0) =
    UInt32.ofNat (packetBytes frame iface).length := by
  rw [length_packetBytes, packetBytes, load32_bytes32_append, htonl, ntohl_ntohl]

theorem packetBytes_mType : ntohl (load32 (packetBytes frame iface) 4) = vnsPacket := by
  have hword := load32_append_right
    (bytes32 (htonl (UInt32.ofNat (frame.length + sizeofCPacketHeader))))
    (bytes32 (htonl vnsPacket) ++ (strncpy wireNamelen iface ++ frame)) 0
  rw [load32_bytes32_append] at hword
  exact (congrArg ntohl hword).trans (ntohl_ntohl _)

theorem packetBytes_drop_name : (packetBytes frame iface).drop 8 =
    strncpy wireNamelen iface ++ frame := by
  rw [packetBytes, ← List.append_assoc]
  exact List.drop_left' rfl

theorem packetBytes_drop_frame : (packetBytes frame iface).drop sizeofCPacketHeader = frame := by
  have hdrop : (packetBytes frame iface).drop sizeofCPacketHeader =
      ((packetBytes frame iface).drop 8).drop 16 := by rw [List.drop_drop]; rfl
  rw [hdrop, packetBytes_drop_name]
  exact List.drop_left' (length_strncpy ..)

end Written

/-! ### The round trip -/

theorem nameArrives_iff {name : Name} (hname : name.length = srIfaceNamelen) {frame : Frame} :
    NameArrives name frame ↔
      ∀ behind, strncmp srIfaceNamelen name (strncpy wireNamelen name ++ frame ++ behind) = 0 := by
  have hfield : wireNamelen ≤ name.length := by
    rw [hname]
    decide
  rw [NameArrives, ← forall_strncmp_append, ← forall_or_left]
  refine forall_congr' fun behind => ?_
  rw [List.append_assoc, ← strncmp_strncpy_append hfield]
  rfl

/-- **VNSPACKET messages.** Whatever else a frame and its interface are, the
frame makes the round trip exactly when the name arrives. -/
theorem roundTrips_iff {sr : Config} (hbuilt : Built sr.ifList) {i : SrIf}
    (hget : srGetInterface sr.ifList i.name = some i) {frame : Frame}
    (hmax : frame.length ≤ 10000 - sizeofCPacketHeader)
    (haccepted : srSendPacketRet sr frame i.name = 0) :
    RoundTrips sr i frame ↔ NameArrives i.name frame := by
  have hlong : sizeofEthernetHdr ≤ frame.length := (srSendPacketRet_eq_zero.mp haccepted).1
  have hname : i.name.length = srIfaceNamelen :=
    hbuilt.length_name (List.mem_map_of_mem (mem_of_srGetInterface hget))
  have hwrite := srSendPacketWrite_eq hmax haccepted
  rw [nameArrives_iff hname]
  constructor
  · rintro ⟨msg, hmsg, -, -, hall⟩ behind
    obtain hbytes : packetBytes frame i.name = msg.bytes := Option.some.inj (hwrite.symm.trans hmsg)
    -- a record is found by the name only if the two compare equal
    have hlookup := (hall behind).2.2
    rw [Message.handed, Message.string, ← hbytes, packetBytes_drop_name] at hlookup
    exact srGetInterface_strncmp hlookup
  · intro hall
    have hle : (packetBytes frame i.name).length ≤ 10000 := by
      rw [length_packetBytes]
      have hsize : sizeofCPacketHeader = 24 := rfl
      omega
    let msg : Message := ⟨packetBytes frame i.name, hle⟩
    have hlen : msg.len = frame.length + 24 := length_packetBytes
    have hframeLen : msg.frameLen.toNat = frame.length := by
      rw [msg.toNat_frameLen (by omega), hlen, Nat.add_sub_cancel]
    have hframed : msg.Framed := ⟨by omega, packetBytes_mLen⟩
    refine ⟨msg, hwrite, hframed, packetBytes_mType, fun behind => ⟨?_, hframeLen, ?_⟩⟩
    · rw [Message.handed, hframeLen, slice, packetBytes_drop_frame, List.take_length]
    · have hsame : srGetInterface sr.ifList i.name = srGetInterface sr.ifList
          (strncpy wireNamelen i.name ++ frame ++ behind) := srGetInterface_congr (hall behind)
      rw [Message.handed, Message.string, packetBytes_drop_name, ← hsame, hget]

/-! ### Two long names -/

/-- "uplink-to-campus", sixteen bytes. -/
def uplinkName : Name :=
  [117, 112, 108, 105, 110, 107, 45, 116, 111, 45, 99, 97, 109, 112, 117, 115]

def uplink : SrIf := { name := strncpy srIfaceNamelen uplinkName,
                       addr := eth1.addr, ip := eth1.ip }

/-- The name goes on with a "2". -/
def uplink2 : SrIf := { name := strncpy srIfaceNamelen (uplinkName ++ [50]),
                        addr := eth2.addr, ip := eth2.ip }

def campus : Config where
  ifList := srAddInterface (uplink2.addr, uplink2.ip) (uplinkName ++ [50])
    (srAddInterface (uplink.addr, uplink.ip) uplinkName [])
  routingTable := []

theorem built_campus : Built campus.ifList := .added (.added .empty _ _) _ _

/-- An Ethernet header only, to the hardware address 32:00:00:00:00:09. -/
def headerTo32 (shost : Mac) : Frame := [50, 0, 0, 0, 0, 9] ++ shost.bytes ++ [8, 0]

/-- From the second interface the frame spells the rest of the name. -/
theorem roundTrips_uplink2 : RoundTrips campus uplink2 (headerTo32 uplink2.addr) :=
  (roundTrips_iff built_campus (by decide) (by decide) (by decide)).mpr (by decide)

/-- The first interface has the longest name that fits the field. The same
frame from there is read as one of the second interface. -/
theorem exists_frame_read_as_other :
    Built campus.ifList ∧ srGetInterface campus.ifList uplink.name = some uplink ∧
    srSendPacketRet campus (headerTo32 uplink.addr) uplink.name = 0 ∧
    (∀ msg behind, srSendPacketWrite campus (headerTo32 uplink.addr) uplink.name =
        some (Message.bytes msg) →
      srGetInterface campus.ifList (msg.handed behind).interface = some uplink2) ∧
    ¬∀ sr i frame, Built sr.ifList → srGetInterface sr.ifList i.name = some i →
      frame.length ≤ 10000 - sizeofCPacketHeader → srSendPacketRet sr frame i.name = 0 →
      RoundTrips sr i frame := by
  have hget : srGetInterface campus.ifList uplink.name = some uplink := by decide
  have haccepted : srSendPacketRet campus (headerTo32 uplink.addr) uplink.name = 0 := by decide
  have hmax : (headerTo32 uplink.addr).length ≤ 10000 - sizeofCPacketHeader := by decide
  have hother (msg : Message) (behind : Bytes)
      (hmsg : srSendPacketWrite campus (headerTo32 uplink.addr) uplink.name = some msg.bytes) :
      srGetInterface campus.ifList (msg.handed behind).interface = some uplink2 := by
    obtain hbytes : packetBytes (headerTo32 uplink.addr) uplink.name = msg.bytes :=
      Option.some.inj ((srSendPacketWrite_eq hmax haccepted).symm.trans hmsg)
    have hsame : strncmp srIfaceNamelen uplink2.name (strncpy wireNamelen uplink.name ++
        headerTo32 uplink.addr ++ behind) = 0 := forall_strncmp_append.mpr (by decide) behind
    rw [Message.handed, Message.string, ← hbytes, packetBytes_drop_name,
      ← srGetInterface_congr hsame]
    decide
  refine ⟨built_campus, hget, haccepted, hother, fun hall => ?_⟩
  obtain ⟨msg, hmsg, -, -, hback⟩ := hall campus uplink _ built_campus hget hmax haccepted
  have hlookup := (hback []).2.2
  rw [hother msg [] hmsg] at hlookup
  exact absurd hlookup (by decide)

end SrRouter
