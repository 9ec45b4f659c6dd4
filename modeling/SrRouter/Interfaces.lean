import SrRouter.Lib.CString
import SrRouter.Protocol

/-!
The interface list (`sr_if.c`), the routing table with its longest-prefix
lookup (`sr_rt.h`, `sr_find_lpm_route`), and the checks of `sr_send_packet`.

Names are C strings: they are looked up by `strncmp` over
`sr_IFACE_NAMELEN` bytes and were stored by `strncpy` of as many, so a name
may fill its buffer without a terminator. What makes lookups agree is that
the comparison is an equivalence: a name found once is found again under the
name of the record it found, and under every copy of it.
-/

namespace SrRouter

open ByteBuffer CString

abbrev Name := CStr

def srIfaceNamelen : Nat := 32

structure SrIf where
  name : Name
  addr : Mac
  ip : UInt32
  deriving DecidableEq

structure SrRt where
  dest : UInt32
  gw : UInt32
  mask : UInt32
  interface : Name
  deriving DecidableEq

/-- The part of `struct sr_instance` that packet processing only reads. -/
structure Config where
  ifList : List SrIf
  routingTable : List SrRt
  deriving DecidableEq

/-! ### Lookups -/

def srGetInterface (ifList : List SrIf) (name : Name) : Option SrIf :=
  ifList.find? fun i => strncmp srIfaceNamelen i.name name == 0

def srIsRouterIp (ifList : List SrIf) (ip : UInt32) : Bool :=
  ifList.any fun i => i.ip == ip

def srFindIfaceByMac (ifList : List SrIf) (mac : Mac) : Option SrIf :=
  ifList.find? fun i => i.addr == mac

/-- One turn of the loop of `sr_find_lpm_route`, on `best` and `best_mask`. -/
def lpmTurn (ip : UInt32) (best : Option SrRt × UInt32) (rt : SrRt) : Option SrRt × UInt32 :=
  let mask := ntohl rt.mask
  if (ip &&& rt.mask) == (rt.dest &&& rt.mask) && (best.1.isNone || mask > best.2) then
    (some rt, mask)
  else best

def srFindLpmRoute (routingTable : List SrRt) (ip : UInt32) : Option SrRt :=
  (routingTable.foldl (lpmTurn ip) (none, 0)).1

/-- The interface an ICMP error about `packet` is sent from: the one whose
address is the source or else the destination of the frame, else the one
towards `ipSrc`. -/
def srFindIcmpSourceIface (sr : Config) (packet : Frame) (ipSrc : UInt32) : Option SrIf :=
  match srFindIfaceByMac sr.ifList (etherShost packet) with
  | some iface => some iface
  | none =>
    match srFindIfaceByMac sr.ifList (etherDhost packet) with
    | some iface => some iface
    | none =>
      match srFindLpmRoute sr.routingTable ipSrc with
      | none => none
      | some route => srGetInterface sr.ifList route.interface

/-! ### Updates of the interface list

`malloc` does not clear memory, so a new record holds in its address fields
whatever was there; `mem` is that content. -/

def srAddInterface (mem : Mac × UInt32) (name : Name) (ifList : List SrIf) : List SrIf :=
  ifList ++ [{ name := strncpy srIfaceNamelen name, addr := mem.1, ip := mem.2 }]

/-- Update the last record; `none` is the failed assertion that there is one. -/
def onLast (f : SrIf → SrIf) : List SrIf → Option (List SrIf)
  | [] => none
  | [i] => some [f i]
  | i :: ifList => (onLast f ifList).map (i :: ·)

def srSetEtherAddr (addr : Mac) : List SrIf → Option (List SrIf) :=
  onLast fun i => { i with addr := addr }

def srSetEtherIp (ip : UInt32) : List SrIf → Option (List SrIf) :=
  onLast fun i => { i with ip := ip }

/-- `c_hw_entry`, its key in host byte order. -/
structure HwEntry where
  mKey : UInt32
  value : Bytes
  deriving DecidableEq

def hwInterface : UInt32 := 1
def hwEther : UInt32 := 32
def hwEthip : UInt32 := 64

/-- The `switch` of `sr_handle_hwinfo`; the keys without an effect on the
state fall to the last case. -/
def srHandleHwEntry (mem : Mac × UInt32) (e : HwEntry) (ifList : List SrIf) :
    Option (List SrIf) :=
  if e.mKey = hwInterface then some (srAddInterface mem e.value ifList)
  else if e.mKey = hwEthip then srSetEtherIp (load32 e.value 0) ifList
  else if e.mKey = hwEther then srSetEtherAddr (loadMac e.value 0) ifList
  else some ifList

/-- `sr_handle_hwinfo` over the entries of a message; `mem i` is the memory
that the `i`-th entry would find. -/
def srHandleHwinfo (mem : Nat → Mac × UInt32) : List HwEntry → List SrIf → Option (List SrIf)
  | [], ifList => some ifList
  | e :: entries, ifList =>
    (srHandleHwEntry (mem entries.length) e ifList).bind (srHandleHwinfo mem entries)

/-! ### `sr_send_packet` -/

def srEtherAddrsMatchInterface (sr : Config) (buf : Frame) (name : Name) : Bool :=
  match srGetInterface sr.ifList name with
  | none => false
  | some iface => etherShost buf == iface.addr

/-- The value `sr_send_packet` returns when the write to the server does not
fail. -/
def srSendPacketRet (sr : Config) (buf : Frame) (iface : Name) : Int :=
  if buf.length < sizeofEthernetHdr then -1
  else if !srEtherAddrsMatchInterface sr buf iface then -1
  else 0

/-! ### Names resolve alike -/

theorem srGetInterface_strncmp {ifList : List SrIf} {name : Name} {i : SrIf}
    (h : srGetInterface ifList name = some i) : strncmp srIfaceNamelen i.name name = 0 := by
  simpa using List.find?_some h

theorem srGetInterface_congr {ifList : List SrIf} {a b : Name}
    (h : strncmp srIfaceNamelen a b = 0) : srGetInterface ifList a = srGetInterface ifList b := by
  unfold srGetInterface
  congr 1
  funext i
  rw [Bool.eq_iff_iff, beq_iff_eq, beq_iff_eq]
  exact strncmp_congr h

/-- The name of the record found finds that record. -/
theorem srGetInterface_name {ifList : List SrIf} {name : Name} {i : SrIf}
    (h : srGetInterface ifList name = some i) : srGetInterface ifList i.name = some i := by
  rw [srGetInterface_congr (srGetInterface_strncmp h), h]

theorem srGetInterface_strncpy (ifList : List SrIf) (name : Name) :
    srGetInterface ifList (strncpy srIfaceNamelen name) = srGetInterface ifList name :=
  srGetInterface_congr (strncmp_strncpy _ _)

theorem mem_of_srGetInterface {ifList : List SrIf} {name : Name} {i : SrIf}
    (h : srGetInterface ifList name = some i) : i ∈ ifList := List.mem_of_find?_eq_some h

theorem mem_of_srFindIcmpSourceIface {sr : Config} {packet : Frame} {ip : UInt32} {i : SrIf}
    (h : srFindIcmpSourceIface sr packet ip = some i) : i ∈ sr.ifList := by
  unfold srFindIcmpSourceIface at h
  split at h
  · next hs => exact Option.some.inj h ▸ List.mem_of_find?_eq_some hs
  · split at h
    · next hd => exact Option.some.inj h ▸ List.mem_of_find?_eq_some hd
    · split at h
      · cases h
      · exact mem_of_srGetInterface h

theorem srIsRouterIp_of_mem {ifList : List SrIf} {i : SrIf} (h : i ∈ ifList) :
    srIsRouterIp ifList i.ip = true :=
  List.any_eq_true.mpr ⟨i, h, beq_self_eq_true _⟩

/-- A frame is accepted for sending exactly when it has an Ethernet header,
the named interface resolves and the source address is that interface's. -/
theorem srSendPacketRet_eq_zero {sr : Config} {buf : Frame} {iface : Name} :
    srSendPacketRet sr buf iface = 0 ↔
      sizeofEthernetHdr ≤ buf.length ∧
        ∃ i, srGetInterface sr.ifList iface = some i ∧ etherShost buf = i.addr := by
  unfold srSendPacketRet srEtherAddrsMatchInterface
  by_cases hlen : buf.length < sizeofEthernetHdr
  · simp only [hlen, if_true]
    omega
  · have hlen' : sizeofEthernetHdr ≤ buf.length := by omega
    cases hget : srGetInterface sr.ifList iface with
    | none => simp [hlen]
    | some i => by_cases hmac : etherShost buf = i.addr <;> simp [hlen, hlen', hmac]

theorem srSendPacketRet_of_shost {sr : Config} {frame : Frame} {outIface : SrIf} {iface : Name}
    (hlen : sizeofEthernetHdr ≤ frame.length)
    (hget : srGetInterface sr.ifList iface = some outIface)
    (hshost : etherShost frame = outIface.addr) : srSendPacketRet sr frame iface = 0 :=
  srSendPacketRet_eq_zero.mpr ⟨hlen, outIface, hget, hshost⟩

/-! ### Updates keep names -/

/-- `ifList'` is `ifList` with other addresses perhaps, and records added
behind. -/
def Extends (ifList ifList' : List SrIf) : Prop :=
  ifList.map SrIf.name <+: ifList'.map SrIf.name

theorem Extends.refl (ifList : List SrIf) : Extends ifList ifList := List.prefix_refl _

theorem Extends.trans {a b c : List SrIf} (h : Extends a b) (h' : Extends b c) : Extends a c :=
  List.IsPrefix.trans h h'

theorem map_name_onLast (f : SrIf → SrIf) (hf : ∀ i, (f i).name = i.name)
    {ifList ifList' : List SrIf} (h : onLast f ifList = some ifList') :
    ifList'.map SrIf.name = ifList.map SrIf.name := by
  induction ifList generalizing ifList' with
  | nil => cases h
  | cons i ifList ih =>
      cases ifList with
      | nil =>
          obtain rfl : [f i] = ifList' := Option.some.inj h
          simp [hf]
      | cons j ifList =>
          rw [onLast, Option.map_eq_some_iff] at h
          · obtain ⟨rest, hrest, rfl⟩ := h
            simp [ih hrest]
          · exact List.cons_ne_nil j ifList

theorem onLast_extends (f : SrIf → SrIf) (hf : ∀ i, (f i).name = i.name)
    {ifList ifList' : List SrIf} (h : onLast f ifList = some ifList') :
    Extends ifList ifList' :=
  ⟨[], by rw [List.append_nil, map_name_onLast f hf h]⟩

theorem srHandleHwEntry_extends {mem : Mac × UInt32} {e : HwEntry} {ifList ifList' : List SrIf}
    (h : srHandleHwEntry mem e ifList = some ifList') : Extends ifList ifList' := by
  unfold srHandleHwEntry at h
  split at h
  · obtain rfl := Option.some.inj h
    rw [Extends, srAddInterface, List.map_append]
    exact List.prefix_append _ _
  · split at h
    · exact onLast_extends (fun i => { i with ip := load32 e.value 0 }) (fun _ => rfl) h
    · split at h
      · exact onLast_extends (fun i => { i with addr := loadMac e.value 0 }) (fun _ => rfl) h
      · exact Option.some.inj h ▸ Extends.refl _

/-- A VNSHWINFO message only extends the list or updates addresses in it. -/
theorem srHandleHwinfo_extends {mem : Nat → Mac × UInt32} {entries : List HwEntry}
    {ifList ifList' : List SrIf} (h : srHandleHwinfo mem entries ifList = some ifList') :
    Extends ifList ifList' := by
  induction entries generalizing ifList with
  | nil => exact Option.some.inj h ▸ Extends.refl _
  | cons e entries ih =>
      rw [srHandleHwinfo, Option.bind_eq_some_iff] at h
      obtain ⟨mid, hmid, hrest⟩ := h
      exact (srHandleHwEntry_extends hmid).trans (ih hrest)

theorem srGetInterface_isSome_of_extends {ifList ifList' : List SrIf} {name : Name}
    (h : Extends ifList ifList') (hget : (srGetInterface ifList name).isSome) :
    (srGetInterface ifList' name).isSome := by
  have hmem (l : List SrIf) : (srGetInterface l name).isSome ↔
      ∃ n ∈ l.map SrIf.name, strncmp srIfaceNamelen n name = 0 := by
    rw [srGetInterface, List.find?_isSome]
    simp
  obtain ⟨n, hn, hcmp⟩ := (hmem ifList).mp hget
  exact (hmem ifList').mpr ⟨n, h.subset hn, hcmp⟩

end SrRouter
