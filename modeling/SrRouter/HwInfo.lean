import SrRouter.Assertions
import Mathlib.Data.List.Forall2

/-!
What a VNSHWINFO message makes of the interface list.

`sr_handle_hwinfo` adds a record for each interface that is named, and the
setters for addresses always write to the last record of the list. So the
message falls into groups, one for each name with everything up to the next
name, and a group decides its own record.
-/

namespace SrRouter

open ByteBuffer CString

/-! ### Groups -/

/-- The entries that name an interface, each with the entries between it and
the next one. -/
def hwGroups : List HwEntry → List (HwEntry × List HwEntry)
  | [] => []
  | e :: entries =>
    if e.mKey = hwInterface then
      (e, entries.takeWhile fun e => e.mKey ≠ hwInterface) :: hwGroups entries
    else hwGroups entries

def lastValue (key : UInt32) (entries : List HwEntry) : Option Bytes :=
  ((entries.filter fun e => e.mKey = key).getLast?).map HwEntry.value

/-- A record with the addresses that the entries give, where they give one. -/
def SrIf.addressed (i : SrIf) (entries : List HwEntry) : SrIf :=
  { name := i.name
    addr := ((lastValue hwEther entries).map fun value => loadMac value 0).getD i.addr
    ip := ((lastValue hwEthip entries).map fun value => load32 value 0).getD i.ip }

/-- The record of a group; what it does not give stays as `malloc` found it. -/
def groupRecord (junk : Mac × UInt32) (group : HwEntry × List HwEntry) : SrIf :=
  SrIf.addressed { name := strncpy srIfaceNamelen group.1.value, addr := junk.1, ip := junk.2 }
    group.2

theorem lastValue_cons_of_ne {key : UInt32} {e : HwEntry} (h : e.mKey ≠ key)
    (entries : List HwEntry) : lastValue key (e :: entries) = lastValue key entries := by
  rw [lastValue, List.filter_cons_of_neg (by simpa using h)]
  rfl

theorem getD_lastValue_cons {α : Type} {key : UInt32} {e : HwEntry} (h : e.mKey = key)
    (f : Bytes → α) (entries : List HwEntry) (a : α) :
    ((lastValue key (e :: entries)).map f).getD a =
      ((lastValue key entries).map f).getD (f e.value) := by
  rw [lastValue, List.filter_cons_of_pos (by simpa using h), List.getLast?_cons, lastValue]
  cases (entries.filter fun e => e.mKey = key).getLast? <;> rfl

def SrIf.set (i : SrIf) (e : HwEntry) : SrIf :=
  if e.mKey = hwEthip then { i with ip := load32 e.value 0 }
  else if e.mKey = hwEther then { i with addr := loadMac e.value 0 }
  else i

theorem addressed_set (i : SrIf) (e : HwEntry) (entries : List HwEntry) :
    (i.set e).addressed entries = i.addressed (e :: entries) := by
  unfold SrIf.set SrIf.addressed
  by_cases hip : e.mKey = hwEthip
  · have hether : e.mKey ≠ hwEther := by
      rw [hip]
      decide
    rw [if_pos hip, getD_lastValue_cons hip, lastValue_cons_of_ne hether]
  · rw [if_neg hip, lastValue_cons_of_ne hip]
    by_cases hether : e.mKey = hwEther
    · rw [if_pos hether, getD_lastValue_cons hether]
    · rw [if_neg hether, lastValue_cons_of_ne hether]

/-! ### The message -/

theorem onLast_append (f : SrIf → SrIf) (ifList : List SrIf) (i : SrIf) :
    onLast f (ifList ++ [i]) = some (ifList ++ [f i]) := by
  induction ifList with
  | nil => rfl
  | cons j ifList ih =>
      rw [List.cons_append, onLast, ih]
      · rfl
      · simp

/-- An entry that names no interface is for the last record. -/
theorem srHandleHwEntry_append {e : HwEntry} (h : e.mKey ≠ hwInterface) (mem : Mac × UInt32)
    (ifList : List SrIf) (i : SrIf) :
    srHandleHwEntry mem e (ifList ++ [i]) = some (ifList ++ [i.set e]) := by
  rw [srHandleHwEntry, if_neg h, SrIf.set]
  by_cases hip : e.mKey = hwEthip
  · rw [if_pos hip, if_pos hip, srSetEtherIp, onLast_append]
  · rw [if_neg hip, if_neg hip]
    by_cases hether : e.mKey = hwEther
    · rw [if_pos hether, if_pos hether, srSetEtherAddr, onLast_append]
    · rw [if_neg hether, if_neg hether]

/-- From a last record on, the entries up to the next name are its addresses,
and each group behind them is a record of its own. -/
theorem srHandleHwinfo_append (mem : Nat → Mac × UInt32) (entries : List HwEntry)
    (ifList : List SrIf) (i : SrIf) :
    ∃ new, srHandleHwinfo mem entries (ifList ++ [i]) =
        some (ifList ++ i.addressed (entries.takeWhile fun e => e.mKey ≠ hwInterface) :: new) ∧
      List.Forall₂ (fun group i => ∃ junk, i = groupRecord junk group) (hwGroups entries) new := by
  induction entries generalizing ifList i with
  | nil => exact ⟨[], rfl, .nil⟩
  | cons e entries ih =>
      rw [srHandleHwinfo, hwGroups]
      by_cases hname : e.mKey = hwInterface
      · rw [srHandleHwEntry, if_pos hname, if_pos hname,
          List.takeWhile_cons_of_neg (by simpa using hname)]
        obtain ⟨new, hnew, hgroups⟩ := ih (ifList ++ [i])
          { name := strncpy srIfaceNamelen e.value, addr := (mem entries.length).1,
            ip := (mem entries.length).2 }
        refine ⟨_, hnew.trans ?_, .cons ⟨mem entries.length, rfl⟩ hgroups⟩
        rw [List.append_assoc]
        rfl
      · rw [srHandleHwEntry_append hname, if_neg hname,
          List.takeWhile_cons_of_pos (by simpa using hname)]
        obtain ⟨new, hnew, hgroups⟩ := ih ifList (i.set e)
        refine ⟨new, hnew.trans ?_, hgroups⟩
        rw [addressed_set]

/-- The names differ as far as `sr_get_interface` compares them. -/
def DistinctNames (ifList : List SrIf) : Prop :=
  ifList.Pairwise fun i j => strncmp srIfaceNamelen i.name j.name ≠ 0

instance (ifList : List SrIf) : Decidable (DistinctNames ifList) :=
  inferInstanceAs (Decidable (ifList.Pairwise _))

/-- Among distinct names each finds its own record. -/
theorem srGetInterface_of_distinct {ifList : List SrIf} (h : DistinctNames ifList) {i : SrIf}
    (hi : i ∈ ifList) : srGetInterface ifList i.name = some i := by
  induction ifList with
  | nil => exact absurd hi List.not_mem_nil
  | cons j ifList ih =>
      obtain ⟨hj, hrest⟩ := List.pairwise_cons.mp h
      rw [srGetInterface]
      obtain rfl | hi := List.mem_cons.mp hi
      · exact List.find?_cons_of_pos (by simp)
      · rw [List.find?_cons_of_neg (by simpa using hj i hi)]
        exact ih hrest hi

/-- **VNSHWINFO.** When the message names an interface before it gives an
address, the list keeps its records and gets one more for each group, in
order, with the last addresses that the group gives. If all names are distinct
then, each name of the message finds the record of its group. -/
theorem hwinfo_records (mem : Nat → Mac × UInt32) (entries : List HwEntry) (ifList : List SrIf)
    (h : NamedFirst entries) :
    ∃ new, srHandleHwinfo mem entries ifList = some (ifList ++ new) ∧
      List.Forall₂ (fun group i => ∃ junk, i = groupRecord junk group) (hwGroups entries) new ∧
      (DistinctNames (ifList ++ new) →
        List.Forall₂ (fun group i => srGetInterface (ifList ++ new) group.1.value = some i ∧
          srGetInterface (ifList ++ new) i.name = some i) (hwGroups entries) new) := by
  have hrecords : ∃ new, srHandleHwinfo mem entries ifList = some (ifList ++ new) ∧
      List.Forall₂ (fun group i => ∃ junk, i = groupRecord junk group) (hwGroups entries) new := by
    induction entries with
    | nil => exact ⟨[], by rw [List.append_nil, srHandleHwinfo], .nil⟩
    | cons e entries ih =>
        rw [srHandleHwinfo, srHandleHwEntry, hwGroups]
        by_cases hname : e.mKey = hwInterface
        · rw [if_pos hname, if_pos hname]
          obtain ⟨new, hnew, hgroups⟩ := srHandleHwinfo_append mem entries ifList
            { name := strncpy srIfaceNamelen e.value, addr := (mem entries.length).1,
              ip := (mem entries.length).2 }
          exact ⟨_, hnew, .cons ⟨mem entries.length, rfl⟩ hgroups⟩
        · obtain ⟨hneither, hrest⟩ := h.resolve_left hname
          obtain ⟨hip, hether⟩ := not_or.mp hneither
          rw [if_neg hname, if_neg hip, if_neg hether, if_neg hname]
          exact ih hrest
  obtain ⟨new, hnew, hgroups⟩ := hrecords
  refine ⟨new, hnew, hgroups, fun hdistinct => ?_⟩
  have hfound : ∀ i ∈ new, srGetInterface (ifList ++ new) i.name = some i := fun i hi =>
    srGetInterface_of_distinct hdistinct (List.mem_append_right ifList hi)
  refine List.forall₂_iff_get.mpr ⟨hgroups.length_eq, fun n hn hn' => ?_⟩
  obtain ⟨junk, hrecord⟩ := hgroups.get hn hn'
  have hown := hfound _ (List.get_mem new ⟨n, hn'⟩)
  refine ⟨?_, hown⟩
  rw [← srGetInterface_strncpy]
  rw [hrecord] at hown ⊢
  exact hown

/-- Two interfaces are named, and the first one gets an address, a speed and
another address. -/
def namedEntries : List HwEntry :=
  [⟨hwInterface, eth1.name⟩, ⟨hwEthip, [10, 0, 1, 9]⟩, ⟨2, [0, 0, 0, 1]⟩,
    ⟨hwEther, eth1.addr.bytes⟩, ⟨hwEthip, [10, 0, 1, 1]⟩, ⟨hwInterface, eth2.name⟩]

def namedRecords : List SrIf :=
  [{ eth1 with name := strncpy srIfaceNamelen eth1.name },
    { name := strncpy srIfaceNamelen eth2.name, addr := zeroMac, ip := 0 }]

/-- Both names are found, the first one with its last address. -/
theorem hwinfo_records_named : List.Forall₂ (fun group i =>
    srGetInterface namedRecords group.1.value = some i ∧
      srGetInterface namedRecords i.name = some i) (hwGroups namedEntries) namedRecords := by
  obtain ⟨new, hnew, -, hfound⟩ :=
    hwinfo_records (fun _ => (zeroMac, 0)) namedEntries [] (.inl rfl)
  have hrecords : srHandleHwinfo (fun _ => (zeroMac, 0)) namedEntries [] = some namedRecords := by
    decide +kernel
  obtain rfl : namedRecords = new := Option.some.inj (hrecords.symm.trans hnew)
  exact hfound (by decide +kernel)

end SrRouter
