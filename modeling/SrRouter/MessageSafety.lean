import Mathlib.Algebra.Group.Nat.Defs
import SrRouter.Comm

/-!
Which messages the dispatcher handles safely.

Safe means that every byte it or a handler reads or hands on lies in the
message, and that no unsigned length subtraction wraps. Since the framing
layer has no lower bound, this is a condition on the message: each kind needs
a least length, and strings need their terminator in the message.
-/

namespace SrRouter

open ByteBuffer CString

/-! ### Safe uses -/

/-- The bytes lie in a message of this length; the subtraction does not wrap. -/
def Use.Safe (len : Nat) : Use → Prop
  | .bytes start count => ∀ i, start ≤ i → i < start + count → i < len
  | .sub minuend subtrahend => subtrahend ≤ minuend

theorem Use.safe_bytes {len start count : Nat} :
    (Use.bytes start count).Safe len ↔ count = 0 ∨ start + count ≤ len := by
  constructor
  · intro h
    rw [or_iff_not_imp_left]
    intro hne
    have := h (start + count - 1) (by omega) (by omega)
    omega
  · intro h i hi hlt
    omega

theorem Use.safe_sub {len a b : Nat} : (Use.sub a b).Safe len ↔ b ≤ a := Iff.rfl

namespace Message

variable (msg : Message)

def Safe (env : Surround) (expectedCmd : UInt32) : Prop :=
  ∀ u ∈ msg.messageUses env expectedCmd, u.Safe msg.len

theorem length_string (i : Nat) : (msg.string i).length = msg.len - i := List.length_drop

theorem safe_scan {i : Nat} (h : i ≤ msg.len) :
    (msg.scan i).Safe msg.len ↔ (0 : UInt8) ∈ msg.string i := by
  rw [scan, Use.safe_bytes, ← scanReads_le_length, length_string]
  have hpos : scanReads (msg.string i) ≠ 0 := by
    cases msg.string i with
    | nil => simp [scanReads]
    | cons y b =>
        rw [scanReads]
        split <;> omega
  omega

theorem len_le : msg.len ≤ 10000 := msg.length_le

/-! ### The lengths that the handlers compute -/

theorem toNat_sub64 {k : Nat} (h : k ≤ msg.len) :
    (UInt64.ofNat msg.len - UInt64.ofNat k).toNat = msg.len - k := by
  have hle := msg.len_le
  rw [UInt64.toNat_sub, UInt64.toNat_ofNat', UInt64.toNat_ofNat']
  omega

theorem toNat_sub32 {k : Nat} (h : k ≤ msg.len) :
    (UInt32.ofNat msg.len - UInt32.ofNat k).toNat = msg.len - k := by
  have hle := msg.len_le
  rw [UInt32.toNat_sub, UInt32.toNat_ofNat', UInt32.toNat_ofNat']
  omega

/-- The subtraction of the larger header size may wrap, but the sum is right as
long as the message has a packet header. -/
theorem toNat_frameLen (h : 24 ≤ msg.len) : msg.frameLen.toNat = msg.len - 24 := by
  have hle := msg.len_le
  rw [frameLen, UInt64.toNat_toUInt32, UInt64.toNat_add, UInt64.toNat_sub, UInt64.toNat_ofNat',
    UInt64.toNat_ofNat', UInt64.toNat_ofNat', sizeofCPacketEthernetHeader, sizeofEthernetHdr]
  omega

theorem toInt_toInt32 {v : UInt32} (h : v.toNat < 2 ^ 31) : v.toInt32.toInt = v.toNat := by
  rw [← Int32.toInt_toBitVec, UInt32.toBitVec_toInt32]
  exact BitVec.toInt_eq_toNat_of_lt (by rw [UInt32.toNat_toBitVec]; omega)

theorem toNat_numEntries (h : 8 ≤ msg.len) : msg.numEntries.toInt.toNat = (msg.len - 8) / 36 := by
  have hle := msg.len_le
  have hnat : ((UInt64.ofNat msg.len - UInt64.ofNat 8) /
      UInt64.ofNat sizeofCHwEntry).toUInt32.toNat = (msg.len - 8) / 36 := by
    rw [UInt64.toNat_toUInt32, UInt64.toNat_div, msg.toNat_sub64 h, UInt64.toNat_ofNat']
    simp only [sizeofCHwEntry, Nat.reducePow, Nat.reduceMod]
    omega
  rw [numEntries, toInt_toInt32 (by omega), hnat]
  rfl

/-! ### VNSPACKET -/

/-- The interfaces whose names are compared with the name in the message. -/
def compared : List SrIf → List SrIf
  | [] => []
  | i :: ifList =>
    i :: if strncmp srIfaceNamelen i.name (msg.string 8) = 0 then [] else compared ifList

/-- Every comparison ends in the message: it is long enough for a whole name,
or has a terminator, or each name differs from it where both go on. -/
def NameEnds (ifList : List SrIf) : Prop :=
  40 ≤ msg.len ∨ (0 : UInt8) ∈ msg.string 8 ∨
    ∀ i ∈ msg.compared ifList, strncmp (msg.len - 8) i.name (msg.string 8) ≠ 0

theorem safe_compare (h : 8 ≤ msg.len) (a : Name) :
    (Use.bytes 8 (strncmpReads srIfaceNamelen a (msg.string 8))).Safe msg.len ↔
      40 ≤ msg.len ∨ (0 : UInt8) ∈ msg.string 8 ∨
        strncmp (msg.len - 8) a (msg.string 8) ≠ 0 := by
  have hlength := msg.length_string 8
  have hpos : strncmpReads srIfaceNamelen a (msg.string 8) ≠ 0 := by
    rw [srIfaceNamelen]
    cases msg.string 8 with
    | nil => simp [strncmpReads]
    | cons y b =>
        rw [strncmpReads]
        split <;> omega
  have hmost := strncmpReads_le srIfaceNamelen a (msg.string 8)
  rw [Use.safe_bytes]
  by_cases hlong : 40 ≤ msg.len
  · rw [srIfaceNamelen] at hmost ⊢
    exact ⟨fun _ => .inl hlong, fun _ => .inr (by omega)⟩
  · have hshort : (msg.string 8).length < srIfaceNamelen := by
      rw [hlength, srIfaceNamelen]
      omega
    have hreads := strncmpReads_le_length (a := a) hshort
    rw [hlength] at hreads
    rw [← hreads]
    omega

theorem safe_srGetInterfaceUses (h : 8 ≤ msg.len) (ifList : List SrIf) :
    (∀ u ∈ msg.srGetInterfaceUses ifList, u.Safe msg.len) ↔ msg.NameEnds ifList := by
  have hall : (∀ u ∈ msg.srGetInterfaceUses ifList, u.Safe msg.len) ↔
      ∀ i ∈ msg.compared ifList, 40 ≤ msg.len ∨ (0 : UInt8) ∈ msg.string 8 ∨
        strncmp (msg.len - 8) i.name (msg.string 8) ≠ 0 := by
    induction ifList with
    | nil => simp [srGetInterfaceUses, compared]
    | cons i ifList ih =>
        rw [srGetInterfaceUses, compared, List.forall_mem_cons, List.forall_mem_cons,
          msg.safe_compare h]
        split
        · simp
        · rw [ih]
  rw [hall, NameEnds]
  constructor
  · intro hcompared
    by_cases hlong : 40 ≤ msg.len
    · exact .inl hlong
    · by_cases hzero : (0 : UInt8) ∈ msg.string 8
      · exact .inr (.inl hzero)
      · refine .inr (.inr fun i hi => ?_)
        obtain hlong' | hzero' | hcmp := hcompared i hi
        · exact absurd hlong' hlong
        · exact absurd hzero' hzero
        · exact hcmp
  · rintro (hlong | hzero | hcmp) i hi
    · exact .inl hlong
    · exact .inr (.inl hzero)
    · exact .inr (.inr (hcmp i hi))

theorem safe_handOn :
    (∀ u ∈ msg.handOn, u.Safe msg.len) ↔ 38 ≤ msg.len := by
  simp only [handOn, List.forall_mem_cons, Use.safe_sub, Use.safe_bytes,
    sizeofCPacketEthernetHeader, sizeofCPacketHeader]
  refine ⟨fun hsafe => hsafe.1, fun hlong => ⟨hlong, ?_, ?_, by simp⟩⟩
  · have := msg.toNat_frameLen (by omega)
    omega
  · omega

theorem safe_srArpReqNotForUs (h : 38 ≤ msg.len) (ifList : List SrIf) :
    (∀ u ∈ (msg.srArpReqNotForUs ifList).2, u.Safe msg.len) ↔
      ∀ u ∈ msg.srGetInterfaceUses ifList, u.Safe msg.len := by
  have hframe := msg.toNat_frameLen (by omega)
  unfold srArpReqNotForUs
  simp only
  split
  · exact Iff.rfl
  · next hlong =>
    simp only [sizeofEthernetHdr, sizeofArpHdr] at hlong
    have hfield (start count : Nat) (hle : start + count ≤ 66) :
        (Use.bytes start count).Safe msg.len := Use.safe_bytes.mpr (.inr (by omega))
    have happend (uses rest : List Use) (hrest : ∀ u ∈ rest, u.Safe msg.len) :
        (∀ u ∈ uses ++ rest, u.Safe msg.len) ↔ ∀ u ∈ uses, u.Safe msg.len := by
      rw [List.forall_mem_append]
      exact and_iff_left hrest
    split
    · exact Iff.rfl
    · split
      · exact happend _ _ (by simpa using hfield _ _ (by decide))
      · split
        · refine happend _ _ ?_
          simp only [List.forall_mem_cons]
          exact ⟨hfield _ _ (by decide), hfield _ _ (by decide), by simp⟩
        · refine happend _ _ ?_
          simp only [List.forall_mem_cons]
          exact ⟨hfield _ _ (by decide), hfield _ _ (by decide), hfield _ _ (by decide), by simp⟩

theorem dumpSize_le {len : UInt32} (h : len.toNat < 2 ^ 31) :
    (dumpSize len).toNat ≤ len.toNat := by
  unfold dumpSize
  split
  · next hlt =>
    rw [Int32.lt_iff_toInt_lt, toInt_toInt32 (by decide), toInt_toInt32 h] at hlt
    omega
  · exact Nat.le_refl _

theorem safe_srLogPacketUses (h : 38 ≤ msg.len) (logfile : Bool) :
    ∀ u ∈ msg.srLogPacketUses logfile, u.Safe msg.len := by
  have hle := msg.len_le
  have hnat : (UInt64.ofNat msg.len - UInt64.ofNat sizeofCPacketHeader).toUInt32.toNat =
      msg.len - 24 := by
    rw [UInt64.toNat_toUInt32, msg.toNat_sub64 (by rw [sizeofCPacketHeader]; omega),
      sizeofCPacketHeader]
    omega
  unfold srLogPacketUses
  simp only [List.forall_mem_append, List.forall_mem_cons, Use.safe_bytes, Use.safe_sub,
    sizeofCPacketHeader] at hnat ⊢
  refine ⟨⟨.inr (by omega), by omega, by simp⟩, ?_⟩
  split
  · have hdump : (dumpSize (UInt64.ofNat msg.len - UInt64.ofNat 24).toUInt32).toNat ≤ _ :=
      dumpSize_le (by omega)
    rw [List.forall_mem_singleton, Use.safe_bytes]
    exact .inr (by omega)
  · simp

theorem safe_packetUses (h : 8 ≤ msg.len) (env : Surround) :
    (∀ u ∈ msg.packetUses env, u.Safe msg.len) ↔ 38 ≤ msg.len ∧ msg.NameEnds env.ifList := by
  unfold packetUses
  simp only [List.forall_mem_append]
  rw [msg.safe_handOn]
  constructor
  · rintro ⟨⟨hlong, hfilter⟩, -⟩
    exact ⟨hlong, (msg.safe_srGetInterfaceUses h env.ifList).mp
      ((msg.safe_srArpReqNotForUs hlong env.ifList).mp hfilter)⟩
  · rintro ⟨hlong, hname⟩
    have hlookup := (msg.safe_srGetInterfaceUses h env.ifList).mpr hname
    refine ⟨⟨hlong, (msg.safe_srArpReqNotForUs hlong env.ifList).mpr hlookup⟩, ?_⟩
    split
    · simp only [List.forall_mem_append]
      exact ⟨⟨msg.safe_srLogPacketUses hlong env.logfile, msg.safe_handOn.mpr hlong⟩, hlookup⟩
    · simp

/-! ### VNSHWINFO -/

theorem safe_hwEntryUses {i : Nat} (h : 8 + 36 * (i + 1) ≤ msg.len) :
    ∀ u ∈ msg.hwEntryUses i, u.Safe msg.len := by
  have hmin := Nat.min_le_left srIfaceNamelen (scanReads (msg.hwEntry i).value)
  unfold hwEntryUses
  simp only [List.forall_mem_cons, Use.safe_bytes, sizeofCHwEntry, srIfaceNamelen] at hmin ⊢
  refine ⟨.inr (by omega), ?_⟩
  split
  · rw [List.forall_mem_singleton, Use.safe_bytes]
    exact .inr (by omega)
  · split
    · rw [List.forall_mem_singleton, Use.safe_bytes]
      exact .inr (by omega)
    · split
      · rw [List.forall_mem_singleton, Use.safe_bytes]
        exact .inr (by omega)
      · simp

theorem safe_srHandleHwinfoUses (mem : Nat → Mac × UInt32) {n i : Nat} (ifList : List SrIf)
    (h : 8 + 36 * (i + n) ≤ msg.len) :
    ∀ u ∈ msg.srHandleHwinfoUses mem n i ifList, u.Safe msg.len := by
  induction n generalizing i ifList with
  | zero => simp [srHandleHwinfoUses]
  | succ n ih =>
      rw [srHandleHwinfoUses, List.forall_mem_append]
      refine ⟨msg.safe_hwEntryUses (by omega), ?_⟩
      cases srHandleHwEntry (mem i) (msg.hwEntry i) ifList with
      | none => simp
      | some ifList => exact ih ifList (by omega)

/-- **VNSHWINFO.** The number of entries is rounded down. -/
theorem safe_hwinfoUses (h : 8 ≤ msg.len) (env : Surround) :
    ∀ u ∈ msg.hwinfoUses env, u.Safe msg.len := by
  rw [hwinfoUses, List.forall_mem_append, msg.toNat_numEntries h]
  refine ⟨?_, msg.safe_srHandleHwinfoUses env.mem env.ifList (by omega)⟩
  simp only [List.forall_mem_cons, Use.safe_bytes, Use.safe_sub]
  exact ⟨.inr (by omega), h, by simp⟩

/-! ### The other handlers -/

theorem safe_srHandleRtableUses (h : 8 ≤ msg.len) (rtableFile : Bool) :
    (∀ u ∈ msg.srHandleRtableUses rtableFile, u.Safe msg.len) ↔
      (0 : UInt8) ∈ msg.string 8 ∧ (rtableFile = true → 40 ≤ msg.len) := by
  have hle := msg.len_le
  have hsub := msg.toNat_sub32 h
  rw [srHandleRtableUses, List.forall_mem_cons, msg.safe_scan h]
  refine and_congr_right fun _ => ?_
  cases rtableFile with
  | false => simp
  | true =>
      simp only [if_true, List.forall_mem_cons, Use.safe_bytes, Use.safe_sub, hsub, idsize,
        forall_const]
      constructor
      · rintro ⟨-, -, hlong, -⟩
        omega
      · intro hlong
        refine ⟨.inr (by omega), h, by omega, .inr ?_, by simp⟩
        rw [UInt32.toNat_sub, hsub, UInt32.toNat_ofNat']
        omega

theorem safe_srHandleAuthRequestUses (h : 8 ≤ msg.len) (authKeyFile : Bool) :
    ∀ u ∈ msg.srHandleAuthRequestUses authKeyFile, u.Safe msg.len := by
  have hle := msg.len_le
  unfold srHandleAuthRequestUses
  split
  · simp only [List.forall_mem_cons, Use.safe_bytes, Use.safe_sub, UInt64.toNat_toUInt32,
      msg.toNat_sub64 h]
    exact ⟨.inr (by omega), h, .inr (by omega), by simp⟩
  · simp

theorem safe_srHandleAuthStatusUses (h : 8 ≤ msg.len) :
    (∀ u ∈ msg.srHandleAuthStatusUses, u.Safe msg.len) ↔
      9 ≤ msg.len ∧ (load8 msg.bytes 8 = 0 → (0 : UInt8) ∈ msg.string 9) := by
  rw [srHandleAuthStatusUses, List.forall_mem_cons, Use.safe_bytes]
  constructor
  · rintro ⟨hbyte, hrest⟩
    have hlong : 9 ≤ msg.len := by omega
    refine ⟨hlong, fun hzero => ?_⟩
    rw [if_pos hzero, List.forall_mem_singleton] at hrest
    exact (msg.safe_scan hlong).mp hrest
  · rintro ⟨hlong, hrest⟩
    refine ⟨.inr (by omega), ?_⟩
    split
    · next hzero =>
      rw [List.forall_mem_singleton]
      exact (msg.safe_scan hlong).mpr (hrest hzero)
    · simp

/-! ### All messages -/

/-- The message is long enough for what its command makes of it, and holds the
terminators of its strings. -/
structure WellSized (env : Surround) (expectedCmd : UInt32) : Prop where
  command : 8 ≤ msg.len
  packet : ¬msg.Unexpected expectedCmd → msg.command = vnsPacket →
    38 ≤ msg.len ∧ msg.NameEnds env.ifList
  text : ¬msg.Unexpected expectedCmd → msg.command = vnsClose ∨ msg.command = vnsBanner →
    (0 : UInt8) ∈ msg.string 8
  rtable : ¬msg.Unexpected expectedCmd → msg.command = vnsRtable →
    (0 : UInt8) ∈ msg.string 8 ∧ (env.rtableFile = true → 40 ≤ msg.len)
  authStatus : ¬msg.Unexpected expectedCmd → msg.command = vnsAuthStatus →
    9 ≤ msg.len ∧ (load8 msg.bytes 8 = 0 → (0 : UInt8) ∈ msg.string 9)

/-- **Message-length safety.** For every message that is accepted, whatever
was expected: everything that is done with it is safe exactly when it is well
sized. -/
theorem safe_iff_wellSized (env : Surround) (expectedCmd : UInt32) :
    msg.Safe env expectedCmd ↔ msg.WellSized env expectedCmd := by
  have hword : (Use.bytes 4 4).Safe msg.len ↔ 8 ≤ msg.len := by
    rw [Use.safe_bytes]
    omega
  rw [Safe, messageUses, List.forall_mem_cons, hword]
  constructor
  · rintro ⟨hlong, hsafe⟩
    have hdispatch (hun : ¬msg.Unexpected expectedCmd) :
        ∀ u ∈ msg.dispatchUses env msg.command, u.Safe msg.len := by
      rw [if_neg hun] at hsafe
      exact hsafe
    refine ⟨hlong, fun hun hcmd => ?_, fun hun hcmd => ?_, fun hun hcmd => ?_, fun hun hcmd => ?_⟩
    · have huses := hdispatch hun
      rw [hcmd] at huses
      exact (msg.safe_packetUses hlong env).mp huses
    · refine (msg.safe_scan hlong).mp (hdispatch hun _ ?_)
      obtain hcmd | hcmd := hcmd <;> rw [hcmd] <;> exact List.mem_singleton_self _
    · have huses := hdispatch hun
      rw [hcmd] at huses
      exact (msg.safe_srHandleRtableUses hlong env.rtableFile).mp huses
    · have huses := hdispatch hun
      rw [hcmd] at huses
      exact (msg.safe_srHandleAuthStatusUses hlong).mp huses
  · intro hsized
    have hlong := hsized.command
    refine ⟨hlong, ?_⟩
    split
    · simp
    · next hun =>
      unfold dispatchUses
      split
      · next hcmd => exact (msg.safe_packetUses hlong env).mpr (hsized.packet hun hcmd)
      · split
        · next hcmd =>
          rw [List.forall_mem_singleton]
          exact (msg.safe_scan hlong).mpr (hsized.text hun (.inl hcmd))
        · split
          · next hcmd =>
            rw [List.forall_mem_singleton]
            exact (msg.safe_scan hlong).mpr (hsized.text hun (.inr hcmd))
          · split
            · exact msg.safe_hwinfoUses hlong env
            · split
              · next hcmd =>
                exact (msg.safe_srHandleRtableUses hlong env.rtableFile).mpr
                  (hsized.rtable hun hcmd)
              · split
                · exact msg.safe_srHandleAuthRequestUses hlong env.authKeyFile
                · split
                  · next hcmd =>
                    exact (msg.safe_srHandleAuthStatusUses hlong).mpr (hsized.authStatus hun hcmd)
                  · simp

/-- A packet message of 16 bytes, which ends before its frame begins. -/
def shortPacket : Message where
  bytes := [0, 0, 0, 16, 0, 0, 0, 4, 101, 116, 104, 49, 0, 0, 0, 0]
  length_le := by decide

/-- A router that knows no interfaces yet and has no files. -/
def atStart : Surround where
  ifList := []
  mem := fun _ => (zeroMac, 0)
  logfile := false
  rtableFile := false
  authKeyFile := false

/-- It is accepted, and a frame of 4294967288 bytes is handed on. -/
theorem exists_unsafe_message :
    Use.bytes 24 4294967288 ∈ shortPacket.messageUses atStart 0 ∧
    ¬∀ (msg : Message) (env : Surround) (expectedCmd : UInt32), msg.Safe env expectedCmd := by
  have hmem : Use.bytes 24 4294967288 ∈ shortPacket.messageUses atStart 0 := by decide
  refine ⟨hmem, fun hall => ?_⟩
  have hsafe := hall shortPacket atStart 0 _ hmem
  rw [Use.safe_bytes] at hsafe
  exact absurd hsafe (by decide)

end Message

end SrRouter
