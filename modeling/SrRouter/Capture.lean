import SrRouter.Dispatch
import SrRouter.Lib.Records
import SrRouter.MessageSafety
import SrRouter.Transitions

/-!
The log of packets (`sr_log_packet`, in `sr_vns_comm.c`, and `sr_dumper.c`).

With the option for it every frame that the router is given and every frame
that it gives to `sr_send_packet` is written to a file in the format of
`pcap`. Here the functions run on the file beside the state that the threads
share: `execLogged` is `exec`, where a call of `sr_send_packet` writes as well.

Of the file `scan` is a reader; a `PcapRecord` is what it finds of one frame.
The bytes of the headers are in the order of the host.
-/

namespace SrRouter

open ByteBuffer CString Interactive Records

/-! ### Writing -/

def tcpdumpMagic : UInt32 := 0xa1b2c3d4
def pcapVersionMajor : UInt16 := 2
def pcapVersionMinor : UInt16 := 4
def linktypeEthernet : UInt32 := 1

structure Timeval where
  tvSec : Int
  tvUsec : Int

/-- `struct pcap_file_header`, as `sf_write_header` writes it. -/
def sfWriteHeader (linktype thiszone snaplen : UInt32) : Bytes :=
  bytes32 tcpdumpMagic ++ bytes16 pcapVersionMajor ++ bytes16 pcapVersionMinor ++
    bytes32 thiszone ++ bytes32 0 ++ bytes32 snaplen ++ bytes32 linktype

/-- What `sr_dump` writes of the bytes at `sp`. -/
def srDump (ts : Timeval) (caplen len : UInt32) (sp : Bytes) : Bytes :=
  bytes32 (Int32.ofInt ts.tvSec).toUInt32 ++ bytes32 (Int32.ofInt ts.tvUsec).toUInt32 ++
    bytes32 caplen ++ bytes32 len ++ slice sp 0 caplen.toNat

/-- The file, and how often the time was asked for. -/
structure Capture where
  file : Bytes
  count : Nat

def srDumpOpen (thiszone snaplen : UInt32) : Capture where
  file := sfWriteHeader linktypeEthernet thiszone snaplen
  count := 0

/-- `sr_log_packet`, where there is a file; the clock is read once. -/
def srLogPacket (clock : Nat → Timeval) (buf : Bytes) (len : UInt32) (c : Capture) : Capture :=
  let size := Message.dumpSize len
  let hlen := if size.toInt32 < packetDumpSize.toInt32 then size else packetDumpSize
  { file := c.file ++ srDump (clock c.count) size hlen buf, count := c.count + 1 }

/-! ### The router with the file -/

/-- An operation, where `sr_send_packet` logs what is long enough. -/
def execLogged (clock : Nat → Timeval) (o : Op) (s : Store × Capture) :
    Res o × (Store × Capture) :=
  let r := exec o s.1
  (r.1, r.2,
    match o with
    | .trace (.sendPacket _ _ buf _) =>
      if buf.length < sizeofEthernetHdr then s.2
      else srLogPacket clock buf (UInt32.ofNat buf.length) s.2
    | _ => s.2)

def sweepLoopLogged (clock : Nat → Timeval) (sr : Config) (now : Int) :
    Nat → Option Addr → Store × Capture → Store × Capture :=
  sweepLoopBy (execLogged clock) (fun s => s.1.next) sr now

/-- One pass of the loop of `sr_arpcache_timeout`. -/
def timerLogged (clock : Nat → Timeval) (now : Int) (s : SrInstance × Capture) :
    SrInstance × Capture :=
  let store := s.1.store.setNow now
  let store := { store with cache := srArpcacheExpire store.cache store.now }
  let r := sweepLoopLogged clock s.1.config store.now store.requests.length
    (store.requests.head?.map SrArpreq.addr) (store, s.2)
  ({ s.1 with store := r.1 }, r.2)

/-- `sr_handlepacket`, behind the call of `sr_log_packet`. -/
def Message.handleLogged (clock : Nat → Timeval) (msg : Message) (now : Int)
    (s : SrInstance × Capture) : SrInstance × Capture :=
  let len := (UInt64.ofNat msg.len - UInt64.ofNat sizeofCPacketHeader).toUInt32
  let capture := srLogPacket clock msg.frame len s.2
  let r := (srHandlepacket s.1.config msg.frame (msg.string 8)).run (execLogged clock)
    (s.1.store.setNow now, capture)
  ({ s.1 with store := r.2.1 }, r.2.2)

def Message.dispatchLogged (clock : Nat → Timeval) (msg : Message) (c : Circumstances)
    (s : SrInstance × Capture) : Option (Int × (SrInstance × Capture)) :=
  if msg.command = vnsPacket then
    msg.dispatchPacket s.1.config.ifList (msg.handleLogged clock c.now) s
  else (msg.dispatch c s.1).map fun r => (r.1, r.2, s.2)

/-- A session, until a message ends it. -/
def sessionBy {σ : Type} (timer : Int → σ → σ)
    (dispatch : Message → Circumstances → σ → Option (Int × σ)) : σ → List Input → σ
  | s, [] => s
  | s, .timer now :: inputs => sessionBy timer dispatch (timer now s) inputs
  | s, .message c msg _ :: inputs =>
    (dispatch msg c s).elim s fun r =>
      if r.1 = 1 then sessionBy timer dispatch r.2 inputs else r.2

def session : SrInstance → List Input → SrInstance :=
  sessionBy (fun now sr => sr.step (.timer now)) Message.dispatch

def sessionLogged (clock : Nat → Timeval) (sr : SrInstance) (capture : Capture)
    (inputs : List Input) : SrInstance × Capture :=
  sessionBy (timerLogged clock) (Message.dispatchLogged clock) (sr, capture) inputs

/-! ### Reading -/

structure PcapRecord where
  tvSec : UInt32
  tvUsec : UInt32
  caplen : UInt32
  len : UInt32
  data : Bytes
  deriving DecidableEq

def PcapRecord.encode (r : PcapRecord) : Bytes :=
  bytes32 r.tvSec ++ bytes32 r.tvUsec ++ bytes32 r.caplen ++ bytes32 r.len ++ r.data

def PcapRecord.decode (file : Bytes) : Option (PcapRecord × Bytes) :=
  let caplen := load32 file 8
  if file.length < 16 + caplen.toNat then none
  else
    some ({ tvSec := load32 file 0, tvUsec := load32 file 4, caplen := caplen, len := load32 file 12
            data := slice file 16 caplen.toNat }, file.drop (16 + caplen.toNat))

/-- The records of a file that starts as it should, and what is left of it. -/
def readCapture (file : Bytes) : Option (List PcapRecord × Bytes) :=
  if file.length < 24 ∨ load32 file 0 ≠ tcpdumpMagic ∨ load16 file 4 ≠ pcapVersionMajor ∨
      load16 file 6 ≠ pcapVersionMinor ∨ load32 file 20 ≠ linktypeEthernet then none
  else some (scan PcapRecord.decode file.length (file.drop 24))

/-! ### The records -/

def recordOf (ts : Timeval) (frame : Frame) : PcapRecord :=
  let caplen := Message.dumpSize (UInt32.ofNat frame.length)
  { tvSec := (Int32.ofInt ts.tvSec).toUInt32, tvUsec := (Int32.ofInt ts.tvUsec).toUInt32
    caplen := caplen, len := caplen, data := frame.take caplen.toNat }

/-- The records of frames, from the `n`-th reading of the clock on. -/
def recordsFrom (clock : Nat → Timeval) : Nat → List Frame → List PcapRecord
  | _, [] => []
  | n, frame :: frames => recordOf (clock n) frame :: recordsFrom clock (n + 1) frames

def PcapRecord.Good (r : PcapRecord) : Prop := r.data.length = r.caplen.toNat

theorem load32_record (a b c d : UInt32) (rest : Bytes) :
    load32 (bytes32 a ++ bytes32 b ++ bytes32 c ++ bytes32 d ++ rest) 0 = a ∧
      load32 (bytes32 a ++ bytes32 b ++ bytes32 c ++ bytes32 d ++ rest) 4 = b ∧
      load32 (bytes32 a ++ bytes32 b ++ bytes32 c ++ bytes32 d ++ rest) 8 = c ∧
      load32 (bytes32 a ++ bytes32 b ++ bytes32 c ++ bytes32 d ++ rest) 12 = d := by
  simp only [List.append_assoc]
  refine ⟨load32_bytes32_append .., ?_, ?_, ?_⟩
  · exact (load32_append_right (bytes32 a) _ 0).trans (load32_bytes32_append ..)
  · rw [← List.append_assoc]
    exact (load32_append_right (bytes32 a ++ bytes32 b) _ 0).trans (load32_bytes32_append ..)
  · rw [← List.append_assoc, ← List.append_assoc]
    exact (load32_append_right (bytes32 a ++ bytes32 b ++ bytes32 c) _ 0).trans
      (load32_bytes32_append ..)

theorem pcapCodec : Codec PcapRecord.encode PcapRecord.decode PcapRecord.Good where
  empty := by decide
  roundTrip r hr rest := by
    obtain ⟨hsec, husec, hcaplen, hlen⟩ :=
      load32_record r.tvSec r.tvUsec r.caplen r.len (r.data ++ rest)
    have hheader : (bytes32 r.tvSec ++ bytes32 r.tvUsec ++ bytes32 r.caplen ++
        bytes32 r.len).length = 16 := rfl
    rw [PcapRecord.encode, List.append_assoc, PcapRecord.decode, hsec, husec, hcaplen, hlen]
    generalize bytes32 r.tvSec ++ bytes32 r.tvUsec ++ bytes32 r.caplen ++ bytes32 r.len = header
      at hheader ⊢
    have hdata : r.data.length = r.caplen.toNat := hr
    have henough : ¬(header ++ (r.data ++ rest)).length < 16 + r.caplen.toNat := by
      rw [List.length_append, List.length_append, hheader, hdata]
      omega
    have hslice : slice (header ++ (r.data ++ rest)) 16 r.caplen.toNat = r.data := by
      rw [slice, ← hheader, List.drop_left, ← hdata, List.take_left]
    have hdrop : (header ++ (r.data ++ rest)).drop (16 + r.caplen.toNat) = rest := by
      rw [← hheader, ← List.drop_drop, List.drop_left, ← hdata, List.drop_left]
    rw [if_neg henough, hslice, hdrop]
  torn r hr front hfront hne := by
    have hlength : (r.encode).length = 16 + r.caplen.toNat := by
      have hdata : r.data.length = r.caplen.toNat := hr
      rw [PcapRecord.encode, List.length_append, hdata]
      rfl
    have hlt : front.length < r.encode.length :=
      Nat.lt_of_le_of_ne hfront.length_le fun heq => hne (hfront.eq_of_length heq)
    rw [PcapRecord.decode, if_pos]
    by_cases hshort : front.length < 16
    · omega
    · -- the length of the record is in what is left of it
      obtain ⟨rest, hrest⟩ := hfront
      have hload : load32 front 8 = r.caplen := by
        rw [← load32_append_of_le (by omega) rest, hrest]
        exact (load32_record r.tvSec r.tvUsec r.caplen r.len r.data).2.2.1
      rw [hload]
      omega

theorem toNat_dumpSize_le (n : Nat) : (Message.dumpSize (UInt32.ofNat n)).toNat ≤ n := by
  have hmod : (UInt32.ofNat n).toNat ≤ n := by
    rw [UInt32.toNat_ofNat']
    exact Nat.mod_le ..
  by_cases hsmall : (UInt32.ofNat n).toNat < 2 ^ 31
  · exact Nat.le_trans (Message.dumpSize_le hsmall) hmod
  · -- as an `int` the length is negative
    have hsize : packetDumpSize.toNat = 1024 := rfl
    unfold Message.dumpSize
    split
    · omega
    · exact hmod

theorem toNat_dumpSize {n : Nat} (h : n < 2 ^ 31) :
    (Message.dumpSize (UInt32.ofNat n)).toNat = min 1024 n := by
  have hnat : (UInt32.ofNat n).toNat = n :=
    UInt32.toNat_ofNat_of_lt' (Nat.lt_of_lt_of_le h (by decide))
  have hsize : packetDumpSize.toNat = 1024 := rfl
  have hless : packetDumpSize.toInt32 < (UInt32.ofNat n).toInt32 ↔ 1024 < n := by
    rw [Int32.lt_iff_toInt_lt, Message.toInt_toInt32 (by rw [hsize]; decide),
      Message.toInt_toInt32 (by rw [hnat]; exact h), hsize, hnat]
    omega
  unfold Message.dumpSize
  split
  · next hlt => rw [hsize, Nat.min_eq_left (Nat.le_of_lt (hless.mp hlt))]
  · next hge => rw [hnat, Nat.min_eq_right (Nat.le_of_not_lt fun hlt => hge (hless.mpr hlt))]

/-- The size is not more than it may be, so the length is the size. -/
theorem hlen_dumpSize (len : UInt32) :
    (if (Message.dumpSize len).toInt32 < packetDumpSize.toInt32 then Message.dumpSize len
      else packetDumpSize) = Message.dumpSize len := by
  split
  · rfl
  · next hge =>
      unfold Message.dumpSize at hge ⊢
      split
      · rfl
      · next hle =>
          rw [if_neg hle] at hge
          have heq : packetDumpSize.toInt32 = len.toInt32 := by
            apply Int32.toInt_inj.mp
            rw [Int32.lt_iff_toInt_lt] at hge hle
            omega
          have hback := congrArg Int32.toUInt32 heq
          rwa [UInt32.toUInt32_toInt32, UInt32.toUInt32_toInt32] at hback

theorem good_recordOf (ts : Timeval) (frame : Frame) : (recordOf ts frame).Good := by
  show (frame.take _).length = _
  rw [List.length_take]
  exact Nat.min_eq_left (toNat_dumpSize_le frame.length)

theorem good_recordsFrom (clock : Nat → Timeval) (n : Nat) (frames : List Frame) :
    ∀ r ∈ recordsFrom clock n frames, r.Good := by
  induction frames generalizing n with
  | nil => exact fun r hr => absurd hr List.not_mem_nil
  | cons frame frames ih => exact List.forall_mem_cons.mpr ⟨good_recordOf .., ih (n + 1)⟩

theorem file_srLogPacket (clock : Nat → Timeval) (frame : Frame) (c : Capture) :
    srLogPacket clock frame (UInt32.ofNat frame.length) c =
      { file := c.file ++ (recordOf (clock c.count) frame).encode, count := c.count + 1 } := by
  rw [srLogPacket, hlen_dumpSize]
  rfl

/-! ### The frames that are logged -/

/-- The frames of a history that are long enough for `sr_send_packet`. -/
def sentFrames (log : List (Int × Event)) : List Frame :=
  log.filterMap fun e =>
    match e.2 with
    | .sendPacket _ _ buf _ => if buf.length < sizeofEthernetHdr then none else some buf
    | _ => none

def logAll (clock : Nat → Timeval) (frames : List Frame) (c : Capture) : Capture :=
  frames.foldl (fun c frame => srLogPacket clock frame (UInt32.ofNat frame.length) c) c

theorem logAll_append (clock : Nat → Timeval) (frames frames' : List Frame) (c : Capture) :
    logAll clock (frames ++ frames') c = logAll clock frames' (logAll clock frames c) :=
  List.foldl_append

theorem logAll_eq (clock : Nat → Timeval) (frames : List Frame) (c : Capture) :
    logAll clock frames c =
      { file := c.file ++ (recordsFrom clock c.count frames).flatMap PcapRecord.encode
        count := c.count + frames.length } := by
  induction frames generalizing c with
  | nil => simp [logAll, recordsFrom]
  | cons frame frames ih =>
      rw [logAll, List.foldl_cons, file_srLogPacket]
      refine (ih _).trans ?_
      simp [recordsFrom, Nat.add_assoc, Nat.add_comm 1]

/-- Of two states the second one is behind the first, and has logged exactly the
frames that were sent in between. -/
def LoggedTo (clock : Nat → Timeval) (s s' : Store × Capture) : Prop :=
  ∃ new, s'.1.log = s.1.log ++ new ∧ s'.2 = logAll clock (sentFrames new) s.2

variable {clock : Nat → Timeval}

theorem LoggedTo.refl (s : Store × Capture) : LoggedTo clock s s :=
  ⟨[], (List.append_nil _).symm, rfl⟩

theorem LoggedTo.trans {s s' s'' : Store × Capture} (h : LoggedTo clock s s')
    (h' : LoggedTo clock s' s'') : LoggedTo clock s s'' := by
  obtain ⟨new, hlog, hfile⟩ := h
  obtain ⟨new', hlog', hfile'⟩ := h'
  refine ⟨new ++ new', by rw [hlog', hlog, List.append_assoc], ?_⟩
  rw [hfile', hfile, ← logAll_append, sentFrames, sentFrames, sentFrames, List.filterMap_append]

theorem exec_log (o : Op) (s : Store) : ∃ new, (exec o s).2.log = s.log ++ new ∧
    sentFrames new =
      match o with
      | .trace e => sentFrames [(s.now, e)]
      | _ => [] := by
  cases o with
  | lookup ip => exact ⟨[], (List.append_nil _).symm, rfl⟩
  | queuereq ip origin buf iface =>
      rw [exec, srArpcacheQueuereq]
      split
      · exact ⟨_, rfl, rfl⟩
      · exact ⟨[_, _], List.append_assoc .., rfl⟩
  | insert mac ip => exact ⟨_, rfl, rfl⟩
  | destroy req =>
      rw [exec, srArpreqDestroy]
      split
      · exact ⟨[], (List.append_nil _).symm, rfl⟩
      · exact ⟨_, rfl, rfl⟩
  | readRequest req => exact ⟨[], (List.append_nil _).symm, rfl⟩
  | writeSent req sent => exact ⟨[], (List.append_nil _).symm, rfl⟩
  | incTimesSent req => exact ⟨[], (List.append_nil _).symm, rfl⟩
  | time => exact ⟨[], (List.append_nil _).symm, rfl⟩
  | trace e => exact ⟨_, rfl, rfl⟩

theorem execLogged_loggedTo (o : Op) (s : Store × Capture) :
    LoggedTo clock s (execLogged clock o s).2 := by
  obtain ⟨new, hlog, hsent⟩ := exec_log o s.1
  refine ⟨new, hlog, ?_⟩
  rw [hsent]
  cases o with
  | trace e =>
      cases e with
      | sendPacket cause iface buf ret =>
          show (if buf.length < sizeofEthernetHdr then s.2 else _) = _
          by_cases hshort : buf.length < sizeofEthernetHdr
          · rw [if_pos hshort]
            simp [sentFrames, hshort, logAll]
          · rw [if_neg hshort]
            simp [sentFrames, hshort, logAll]
      | icmpError | icmpReply | created | queued | learned | destroyed => rfl
  | lookup | queuereq | insert | destroy | readRequest | writeSent | incTimesSent | time => rfl

/-- **Logging changes nothing.** A program runs on the state beside the file as
it runs on the state alone, and logs what it sends. -/
theorem run_execLogged (clock : Nat → Timeval) {α : Type} (p : Prog Res α) (s : Store × Capture) :
    (p.run (execLogged clock) s).1 = (p.run exec s.1).1 ∧
      (p.run (execLogged clock) s).2.1 = (p.run exec s.1).2 ∧
      LoggedTo clock s (p.run (execLogged clock) s).2 := by
  induction p generalizing s with
  | pure a => exact ⟨rfl, rfl, .refl s⟩
  | call o next ih =>
      obtain ⟨hvalue, hstate, hlogged⟩ := ih (exec o s.1).1 (execLogged clock o s).2
      exact ⟨hvalue, hstate, (execLogged_loggedTo o s).trans hlogged⟩

theorem sweepLoopLogged_spec (clock : Nat → Timeval) (sr : Config) (now : Int) (fuel : Nat)
    (req : Option Addr) (s : Store × Capture) :
    (sweepLoopLogged clock sr now fuel req s).1 = sweepLoop sr now fuel req s.1 ∧
      LoggedTo clock s (sweepLoopLogged clock sr now fuel req s) := by
  refine SavedNext.loop_related (R := fun s' store => s'.1 = store ∧ LoggedTo clock s s') ?_ ?_ fuel
    req ⟨rfl, .refl s⟩
  · rintro s' _ req ⟨rfl, -⟩
    rfl
  · rintro s' _ req ⟨rfl, hlogged⟩
    obtain ⟨-, hstate, hturn⟩ := run_execLogged clock (handleArpreq sr now req) s'
    exact ⟨hstate, hlogged.trans hturn⟩

/-! ### Sessions -/

/-- The frame of the message, where the router is given it. -/
def Message.given (msg : Message) (sr : SrInstance) : List Frame :=
  if msg.command = vnsPacket ∧ (msg.srArpReqNotForUs sr.config.ifList).1 = some false then
    [msg.frame]
  else []

def SrInstance.sentSince (sr sr' : SrInstance) : List Frame :=
  sentFrames (sr'.store.log.drop sr.store.log.length)

/-- The frames that come and go in a session. -/
def captured : SrInstance → List Input → List Frame
  | _, [] => []
  | sr, .timer now :: inputs =>
    sr.sentSince (sr.step (.timer now)) ++ captured (sr.step (.timer now)) inputs
  | sr, .message c msg _ :: inputs =>
    (msg.dispatch c sr).elim [] fun r =>
      msg.given sr ++ sr.sentSince r.2 ++ if r.1 = 1 then captured r.2 inputs else []

theorem LoggedTo.eq_logAll {s s' : Store × Capture} (h : LoggedTo clock s s') (sr sr' : SrInstance)
    (hlog : s.1.log = sr.store.log) (hstate : s'.1 = sr'.store) :
    s'.2 = logAll clock (sr.sentSince sr') s.2 := by
  obtain ⟨new, hnew, hfile⟩ := h
  rw [SrInstance.sentSince, ← hstate, hnew, hlog, List.drop_left]
  exact hfile

theorem timerLogged_spec (clock : Nat → Timeval) (now : Int) (sr : SrInstance) (c : Capture) :
    timerLogged clock now (sr, c) =
      (sr.step (.timer now), logAll clock (sr.sentSince (sr.step (.timer now))) c) := by
  let s := sr.store.setNow now
  let s := { s with cache := srArpcacheExpire s.cache s.now }
  obtain ⟨hstate, hlogged⟩ := sweepLoopLogged_spec clock sr.config s.now s.requests.length
    (s.requests.head?.map SrArpreq.addr) (s, c)
  have hsent := hlogged.eq_logAll sr (sr.step (.timer now)) rfl hstate
  rw [timerLogged, hsent, hstate]
  rfl

theorem sentSince_self (sr sr' : SrInstance) (h : sr'.store = sr.store) :
    sr.sentSince sr' = [] := by
  rw [SrInstance.sentSince, h, List.drop_length]
  rfl

theorem Message.Complete.logged_len {msg : Message} (h : msg.Complete)
    (hpacket : msg.command = vnsPacket) :
    (UInt64.ofNat msg.len - UInt64.ofNat sizeofCPacketHeader).toUInt32 =
      UInt32.ofNat msg.frame.length := by
  apply UInt32.toNat_inj.mp
  rw [UInt64.toNat_toUInt32, msg.toNat_sub64 (h.2 hpacket), UInt32.toNat_ofNat', Message.frame,
    List.length_drop]
  rfl

/-- An ending that no packet is behind leaves what is logged. -/
theorem Message.store_dispatch {msg : Message} {c : Circumstances} {sr sr' : SrInstance} {ret : Int}
    (hpacket : msg.command ≠ vnsPacket) (h : msg.dispatch c sr = some (ret, sr')) :
    sr'.store = sr.store := by
  unfold Message.dispatch at h
  rw [if_neg hpacket] at h
  split at h
  · exact (Prod.mk.inj (Option.some.inj h)).2 ▸ rfl
  · split at h
    · exact (Prod.mk.inj (Option.some.inj h)).2 ▸ rfl
    · split at h
      · split at h
        · cases h
        · exact (Prod.mk.inj (Option.some.inj h)).2 ▸ rfl
      · split at h
        · exact (Prod.mk.inj (Option.some.inj h)).2 ▸ rfl
        · split at h
          · exact (Prod.mk.inj (Option.some.inj h)).2 ▸ rfl
          · split at h
            · exact (Prod.mk.inj (Option.some.inj h)).2 ▸ rfl
            · exact (Prod.mk.inj (Option.some.inj h)).2 ▸ rfl

theorem handleLogged_spec {msg : Message} (complete : msg.Complete)
    (hpacket : msg.command = vnsPacket) (now : Int) (sr : SrInstance) (capture : Capture) :
    let sr' := sr.step (.recv now msg.frame (msg.string 8))
    msg.handleLogged clock now (sr, capture) =
      (sr', logAll clock (msg.frame :: sr.sentSince sr') capture) := by
  intro sr'
  obtain ⟨-, hstate, hlogged⟩ := run_execLogged clock
    (srHandlepacket sr.config msg.frame (msg.string 8))
    (sr.store.setNow now, srLogPacket clock msg.frame (UInt32.ofNat msg.frame.length) capture)
  have hsent := hlogged.eq_logAll sr sr' rfl hstate
  rw [Message.handleLogged, complete.logged_len hpacket]
  dsimp only
  rw [hstate, hsent]
  rfl

theorem dispatchLogged_spec {msg : Message} (complete : msg.Complete) (c : Circumstances)
    (sr : SrInstance) (capture : Capture) :
    msg.dispatchLogged clock c (sr, capture) =
      (msg.dispatch c sr).map fun r =>
        (r.1, r.2, logAll clock (msg.given sr ++ sr.sentSince r.2) capture) := by
  by_cases hpacket : msg.command = vnsPacket
  · rw [Message.dispatchLogged, Message.dispatch, if_pos hpacket, if_pos hpacket,
      Message.dispatchPacket, Message.dispatchPacket]
    cases hasked : (msg.srArpReqNotForUs sr.config.ifList).1 with
    | none => rfl
    | some other =>
        cases other with
        | true =>
            have hgiven : msg.given sr = [] := if_neg fun h => by simp [hasked] at h
            simp only [Option.map_some, hgiven, sentSince_self sr sr rfl]
            rfl
        | false =>
            have hgiven : msg.given sr = [msg.frame] := if_pos ⟨hpacket, hasked⟩
            simp only [Option.map_some, hgiven, handleLogged_spec complete hpacket]
            rfl
  · have hgiven : msg.given sr = [] := if_neg fun h => hpacket h.1
    rw [Message.dispatchLogged, if_neg hpacket]
    refine Option.map_congr fun r hr => ?_
    rw [hgiven, sentSince_self sr r.2 (msg.store_dispatch hpacket (Option.mem_def.mp hr))]
    rfl

/-- A session is what it is without the file, and the file has the frames. -/
theorem sessionLogged_spec (sr : SrInstance) (capture : Capture) (inputs : List Input) :
    sessionLogged clock sr capture inputs =
      (session sr inputs, logAll clock (captured sr inputs) capture) := by
  rw [sessionLogged, session]
  induction inputs generalizing sr capture with
  | nil => rfl
  | cons input inputs ih =>
      cases input with
      | timer now =>
          rw [sessionBy, sessionBy, captured, timerLogged_spec, ih, logAll_append]
      | message c msg complete =>
          rw [sessionBy, sessionBy, captured, dispatchLogged_spec complete]
          cases msg.dispatch c sr with
          | none =>
              rw [Option.map_none, Option.elim_none, Option.elim_none, Option.elim_none, logAll,
                List.foldl_nil]
          | some r =>
              rw [Option.map_some, Option.elim_some, Option.elim_some, Option.elim_some]
              by_cases hret : r.1 = 1
              · rw [if_pos hret, if_pos hret, if_pos hret, ih, ← logAll_append]
              · rw [if_neg hret, if_neg hret, if_neg hret, List.append_nil]

/-! ### What is read of a session -/

theorem length_sfWriteHeader (linktype thiszone snaplen : UInt32) :
    (sfWriteHeader linktype thiszone snaplen).length = 24 := rfl

theorem load_sfWriteHeader (linktype thiszone snaplen : UInt32) (rest : Bytes) :
    load32 (sfWriteHeader linktype thiszone snaplen ++ rest) 0 = tcpdumpMagic ∧
      load16 (sfWriteHeader linktype thiszone snaplen ++ rest) 4 = pcapVersionMajor ∧
      load16 (sfWriteHeader linktype thiszone snaplen ++ rest) 6 = pcapVersionMinor ∧
      load32 (sfWriteHeader linktype thiszone snaplen ++ rest) 20 = linktype := by
  let start := bytes32 tcpdumpMagic ++ bytes16 pcapVersionMajor ++ bytes16 pcapVersionMinor
  let middle := bytes32 thiszone ++ bytes32 0 ++ bytes32 snaplen
  have hstart : start.length = 8 := rfl
  have hmiddle : middle.length = 12 := rfl
  have hsplit : sfWriteHeader linktype thiszone snaplen ++ rest =
      start ++ (middle ++ (bytes32 linktype ++ rest)) := by
    simp only [sfWriteHeader, start, middle, List.append_assoc]
  rw [hsplit]
  refine ⟨?_, ?_, ?_, ?_⟩
  · rw [load32_append_of_le (by omega)]
    decide
  · rw [load16_append_of_le (by omega)]
    decide
  · rw [load16_append_of_le (by omega)]
    decide
  · have hskip : start.length + (middle.length + 0) = 20 := by rw [hstart, hmiddle]
    rw [← hskip, load32_append_right, load32_append_right, load32_bytes32_append]

theorem readCapture_append (thiszone snaplen : UInt32) (rest : Bytes) :
    readCapture (sfWriteHeader linktypeEthernet thiszone snaplen ++ rest) =
      some (scan PcapRecord.decode (24 + rest.length) rest) := by
  have hlength := length_sfWriteHeader linktypeEthernet thiszone snaplen
  obtain ⟨hmagic, hmajor, hminor, hlinktype⟩ :=
    load_sfWriteHeader linktypeEthernet thiszone snaplen rest
  generalize sfWriteHeader linktypeEthernet thiszone snaplen = header at *
  have hright : ¬((header ++ rest).length < 24 ∨ tcpdumpMagic ≠ tcpdumpMagic ∨
      pcapVersionMajor ≠ pcapVersionMajor ∨ pcapVersionMinor ≠ pcapVersionMinor ∨
      linktypeEthernet ≠ linktypeEthernet) := by
    simp only [List.length_append, ne_eq, not_true_eq_false, or_false]
    omega
  rw [readCapture, hmagic, hmajor, hminor, hlinktype, if_neg hright, List.length_append, hlength,
    ← hlength, List.drop_left]

theorem file_logAll (clock : Nat → Timeval) (thiszone snaplen : UInt32) (frames : List Frame) :
    (logAll clock frames (srDumpOpen thiszone snaplen)).file =
      sfWriteHeader linktypeEthernet thiszone snaplen ++
        (recordsFrom clock 0 frames).flatMap PcapRecord.encode := by
  rw [logAll_eq]
  rfl

theorem readCapture_logAll (clock : Nat → Timeval) (thiszone snaplen : UInt32)
    (frames : List Frame) :
    readCapture (logAll clock frames (srDumpOpen thiszone snaplen)).file =
      some (recordsFrom clock 0 frames, []) := by
  rw [file_logAll, readCapture_append,
    pcapCodec.scan_flatMap (good_recordsFrom clock 0 frames) (Nat.le_add_left ..)]

theorem readCapture_take_logAll (clock : Nat → Timeval) (thiszone snaplen : UInt32)
    (frames : List Frame) {n : Nat} (hn : 24 ≤ n) :
    ∃ k tail, readCapture ((logAll clock frames (srDumpOpen thiszone snaplen)).file.take n) =
        some ((recordsFrom clock 0 frames).take k, tail) ∧
      ∀ r ∈ ((recordsFrom clock 0 frames).drop k).head?, tail.length < r.encode.length := by
  have hlength := length_sfWriteHeader linktypeEthernet thiszone snaplen
  obtain ⟨k, tail, hscan, -, -, hless⟩ :=
    pcapCodec.scan_prefix (good_recordsFrom clock 0 frames)
      (List.take_prefix (n - 24) ((recordsFrom clock 0 frames).flatMap PcapRecord.encode))
      (Nat.le_add_left _ 24)
  refine ⟨k, tail, ?_, hless⟩
  rw [file_logAll, List.take_append, hlength, List.take_of_length_le (by omega),
    readCapture_append, hscan]

theorem recordsFrom_keeps (clock : Nat → Timeval) (n : Nat) (frames : List Frame) :
    List.Forall₂ (fun (frame : Frame) (r : PcapRecord) => frame.length < 2 ^ 31 →
      r.data = frame.take 1024 ∧ r.caplen.toNat = min 1024 frame.length ∧ r.len = r.caplen)
      frames (recordsFrom clock n frames) := by
  induction frames generalizing n with
  | nil => exact .nil
  | cons frame frames ih =>
      refine .cons (fun hlength => ?_) (ih (n + 1))
      have hsize := toNat_dumpSize hlength
      refine ⟨?_, hsize, rfl⟩
      show frame.take _ = _
      rw [hsize, List.take_eq_take_iff]
      omega

/-- **The log of a session.** A session with the log ends as without it. Its
file has a record for every frame that the router was given or gave to
`sr_send_packet`, in their order, with the first 1024 bytes of the frame; both
lengths are the one of these bytes. If the file was cut behind its header, the
first so many records are found. -/
theorem sessionLogged_srDumpOpen (clock : Nat → Timeval) (thiszone snaplen : UInt32)
    (sr : SrInstance) (inputs : List Input) :
    let records := recordsFrom clock 0 (captured sr inputs)
    let r := sessionLogged clock sr (srDumpOpen thiszone snaplen) inputs
    r.1 = session sr inputs ∧
      readCapture r.2.file = some (records, []) ∧
      (∀ n, 24 ≤ n → ∃ k tail, readCapture (r.2.file.take n) = some (records.take k, tail) ∧
        ∀ r ∈ (records.drop k).head?, tail.length < r.encode.length) ∧
      List.Forall₂ (fun (frame : Frame) (r : PcapRecord) => frame.length < 2 ^ 31 →
        r.data = frame.take 1024 ∧ r.caplen.toNat = min 1024 frame.length ∧ r.len = r.caplen)
        (captured sr inputs) records := by
  intro records r
  have hr : r = (session sr inputs,
      logAll clock (captured sr inputs) (srDumpOpen thiszone snaplen)) := sessionLogged_spec ..
  rw [hr]
  exact ⟨rfl, readCapture_logAll .., fun n hn => readCapture_take_logAll _ _ _ _ hn,
    recordsFrom_keeps ..⟩

end SrRouter
