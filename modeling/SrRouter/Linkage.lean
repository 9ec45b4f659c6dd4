import Mathlib.Data.List.Perm.Subperm
import SrRouter.Lib.LinkedHeap
import SrRouter.Queue

/-!
The request queue as it is linked in memory (`sr_arpcache.c`).

Elsewhere the queue is a list of records. Here the records are in a heap, each
with the pointer to the next one, and the functions go through the pointers as
the source does: they have no result where the source would go through a
pointer to a record that is not allocated, or would free one twice. `Owns`
relates such a memory to the list, and to the requests that were taken off the
queue and are not freed yet.

The blocks of a packet, its `buf` and its `iface`, are part of its record: they
are allocated and freed with it.
-/

namespace SrRouter

open ByteBuffer CString Interactive LinkedHeap

/-- `struct sr_arpreq`, less `next`; `packets` is the pointer. -/
structure ReqFields where
  ip : UInt32
  sent : Int
  timesSent : Nat
  packets : Option Addr

/-- `struct sr_packet`, less `next`. -/
structure PacketFields where
  origin : Origin
  buf : Frame
  iface : Name

def PacketFields.packet (p : PacketFields) (addr : Addr) : SrPacket :=
  { addr := addr, origin := p.origin, buf := p.buf, iface := p.iface }

/-- The memory of the queue: the records of both types, `cache->requests`, and
the next address to be handed out. -/
structure Memory where
  arpreqs : Heap Addr ReqFields
  packets : Heap Addr PacketFields
  requests : Option Addr
  heap : Addr

namespace Memory

def init : Memory :=
  { arpreqs := fun _ => none, packets := fun _ => none, requests := none, heap := 0 }

def write (mem : Memory) (req : Addr) (f : ReqFields → ReqFields) : Option Memory :=
  match mem.arpreqs req with
  | none => none
  | some c =>
    some { mem with arpreqs := Function.update mem.arpreqs req (some ⟨f c.value, c.next⟩) }

/-- The record at `req`, with the packets that its pointer leads to. -/
def read (mem : Memory) (req : Addr) : Option SrArpreq :=
  match mem.arpreqs req with
  | none => none
  | some c =>
    (collect mem.packets mem.heap c.value.packets).map fun packets =>
      { addr := req, ip := c.value.ip, sent := c.value.sent, timesSent := c.value.timesSent
        packets := packets.map fun p => p.2.packet p.1 }

def newRequest (mem : Memory) (ip : UInt32) : Memory :=
  { mem with
    arpreqs := Function.update mem.arpreqs mem.heap
      (some ⟨{ ip := ip, sent := 0, timesSent := 0, packets := none }, mem.requests⟩)
    requests := some mem.heap
    heap := mem.heap + 1 }

def linkPacket (mem : Memory) (req : Addr) (origin : Origin) (buf : Frame) (iface : Name) :
    Option Memory :=
  match mem.arpreqs req with
  | none => none
  | some c =>
    let pkt : PacketFields :=
      { origin := origin, buf := buf, iface := strncpy srIfaceNamelen iface }
    some { mem with
           arpreqs := Function.update mem.arpreqs req
             (some ⟨{ c.value with packets := some mem.heap }, c.next⟩)
           packets := Function.update mem.packets mem.heap (some ⟨pkt, c.value.packets⟩)
           heap := mem.heap + 1 }

def srArpcacheQueuereq (mem : Memory) (ip : UInt32) (origin : Origin) (buf : Frame)
    (iface : Name) : Option (Addr × Memory) :=
  match seek mem.arpreqs (fun _ r => r.ip == ip) mem.heap none mem.requests with
  | none => none
  | some (_, some req) => (mem.linkPacket req origin buf iface).map fun mem => (req, mem)
  | some (_, none) =>
    ((mem.newRequest ip).linkPacket mem.heap origin buf iface).map fun mem' => (mem.heap, mem')

/-- The loop that takes a record off the queue: the pointer to it, which stays
allocated. -/
def unlinkRequest (mem : Memory) (stop : Addr → ReqFields → Bool) : Option (Option Addr × Memory) :=
  (remove mem.arpreqs stop mem.heap mem.requests).map fun r =>
    (r.1, { mem with requests := r.2.1, arpreqs := r.2.2 })

/-- What `sr_arpcache_insert` does with the queue. -/
def srArpcacheInsert (mem : Memory) (ip : UInt32) : Option (Option Addr × Memory) :=
  mem.unlinkRequest fun _ r => r.ip == ip

/-- The end of `sr_arpreq_destroy`: the packets are freed, and then the record. -/
def free (mem : Memory) (entry : Addr) : Option Memory :=
  match mem.arpreqs entry with
  | none => none
  | some c =>
    (freeAll mem.heap c.value.packets mem.packets).map fun packets =>
      { mem with packets := packets, arpreqs := Function.update mem.arpreqs entry none }

def srArpreqDestroy (mem : Memory) (entry : Addr) : Option Memory :=
  match mem.unlinkRequest fun req _ => req == entry with
  | none => none
  | some (_, mem) => mem.free entry

end Memory

/-! ### What is in the memory -/

def SrPacket.cell (p : SrPacket) : Addr × PacketFields :=
  (p.addr, { origin := p.origin, buf := p.buf, iface := p.iface })

def SrArpreq.packetsPtr (r : SrArpreq) : Option Addr := r.packets.head?.map SrPacket.addr

def SrArpreq.cell (r : SrArpreq) : Addr × ReqFields :=
  (r.addr, { ip := r.ip, sent := r.sent, timesSent := r.timesSent, packets := r.packetsPtr })

def packetAddrs (rs : List SrArpreq) : List Addr :=
  rs.flatMap fun r => r.packets.map SrPacket.addr

/-- The records that are allocated are those of these requests: each is at its
address, and no two share one. -/
structure Memory.Allocates (mem : Memory) (rs : List SrArpreq) : Prop where
  arpreqs : ∀ r ∈ rs, (mem.arpreqs r.addr).map Cell.value = some r.cell.2
  packets : ∀ r ∈ rs, Segment mem.packets r.packetsPtr (r.packets.map SrPacket.cell) none
  addr_nodup : (rs.map SrArpreq.addr).Nodup
  packets_nodup : (packetAddrs rs).Nodup
  addr_lt : ∀ a ∈ rs.map SrArpreq.addr ++ packetAddrs rs, a < mem.heap
  arpreqs_only : ∀ a, mem.arpreqs a ≠ none → a ∈ rs.map SrArpreq.addr
  packets_only : ∀ a, mem.packets a ≠ none → a ∈ packetAddrs rs

/-- The memory holds this queue, and these requests that are not on it. -/
structure Memory.Owns (mem : Memory) (queue kept : List SrArpreq) : Prop where
  linked : Segment mem.arpreqs mem.requests (queue.map SrArpreq.cell) none
  allocates : mem.Allocates (queue ++ kept)

theorem Memory.owns_init : Memory.init.Owns [] [] where
  linked := rfl
  allocates :=
    { arpreqs := fun _ h => absurd h List.not_mem_nil
      packets := fun _ h => absurd h List.not_mem_nil
      addr_nodup := List.nodup_nil
      packets_nodup := List.nodup_nil
      addr_lt := fun _ h => absurd h List.not_mem_nil
      arpreqs_only := fun _ h => absurd rfl h
      packets_only := fun _ h => absurd rfl h }

namespace Memory.Allocates

variable {mem : Memory} {rs : List SrArpreq} {r : SrArpreq}

theorem exists_cell (h : mem.Allocates rs) (hr : r ∈ rs) :
    ∃ next, mem.arpreqs r.addr = some ⟨r.cell.2, next⟩ := by
  obtain ⟨⟨value, next⟩, hc, hvalue⟩ := Option.map_eq_some_iff.mp (h.arpreqs r hr)
  exact ⟨next, hvalue ▸ hc⟩

theorem perm (h : mem.Allocates rs) {rs' : List SrArpreq} (hperm : rs.Perm rs') :
    mem.Allocates rs' := by
  have haddr := hperm.map SrArpreq.addr
  have hpackets : (packetAddrs rs).Perm (packetAddrs rs') := hperm.flatMap_right _
  exact
    { arpreqs := fun r hr => h.arpreqs r (hperm.mem_iff.mpr hr)
      packets := fun r hr => h.packets r (hperm.mem_iff.mpr hr)
      addr_nodup := haddr.nodup h.addr_nodup
      packets_nodup := hpackets.nodup h.packets_nodup
      addr_lt := fun a ha => h.addr_lt a ((haddr.append hpackets).mem_iff.mpr ha)
      arpreqs_only := fun a ha => haddr.mem_iff.mp (h.arpreqs_only a ha)
      packets_only := fun a ha => hpackets.mem_iff.mp (h.packets_only a ha) }

theorem relink (h : mem.Allocates rs) (requests : Option Addr) {arpreqs : Heap Addr ReqFields}
    (hvalue : ∀ a, (arpreqs a).map Cell.value = (mem.arpreqs a).map Cell.value) :
    { mem with requests := requests, arpreqs := arpreqs }.Allocates rs where
  arpreqs r hr := (hvalue r.addr).trans (h.arpreqs r hr)
  packets := h.packets
  addr_nodup := h.addr_nodup
  packets_nodup := h.packets_nodup
  addr_lt := h.addr_lt
  arpreqs_only a ha := by
    refine h.arpreqs_only a fun hnone => ha ?_
    have hmap := hvalue a
    rw [hnone] at hmap
    exact Option.map_eq_none_iff.mp hmap
  packets_only := h.packets_only

theorem mem_packetAddrs (hr : r ∈ rs) {p : SrPacket} (hp : p ∈ r.packets) :
    p.addr ∈ packetAddrs rs :=
  List.mem_flatMap.mpr ⟨r, hr, List.mem_map_of_mem hp⟩

theorem packets_addr_nodup (h : mem.Allocates rs) (hr : r ∈ rs) :
    ((r.packets.map SrPacket.cell).map Prod.fst).Nodup := by
  rw [List.map_map]
  exact (List.nodup_flatMap.mp h.packets_nodup).1 r hr

theorem length_le_of_lt {as : List Addr} {n : Addr} (hnodup : as.Nodup) (hlt : ∀ a ∈ as, a < n) :
    as.length ≤ n := by
  have hsub := (List.Nodup.subperm hnodup fun a ha =>
    List.mem_range.mpr (hlt a ha)).length_le
  rwa [List.length_range] at hsub

theorem length_packets_le (h : mem.Allocates rs) (hr : r ∈ rs) :
    (r.packets.map SrPacket.cell).length ≤ mem.heap := by
  have hle := length_le_of_lt (h.packets_addr_nodup hr) fun a ha => by
    rw [List.map_map] at ha
    obtain ⟨p, hp, rfl⟩ := List.mem_map.mp ha
    exact h.addr_lt _ (List.mem_append_right _ (mem_packetAddrs hr hp))
  rwa [List.length_map] at hle

theorem read_eq (h : mem.Allocates rs) (hr : r ∈ rs) : mem.read r.addr = some r := by
  obtain ⟨next, hcell⟩ := h.exists_cell hr
  have hcollect := collect_eq (h.packets r hr) (h.length_packets_le hr)
  have hback : ((r.packets.map SrPacket.cell).map fun p => p.2.packet p.1) = r.packets := by
    rw [List.map_map]
    exact (List.map_congr_left fun _ _ => rfl).trans (List.map_id _)
  rw [Memory.read, hcell]
  show (collect mem.packets mem.heap r.packetsPtr).map _ = _
  rw [hcollect, Option.map_some, hback]
  rfl

theorem newRequest (h : mem.Allocates rs) (ip : UInt32) :
    (mem.newRequest ip).Allocates
      ({ addr := mem.heap, ip := ip, sent := 0, timesSent := 0, packets := [] } :: rs) := by
  have hfresh : mem.heap ∉ rs.map SrArpreq.addr := fun hmem =>
    Nat.lt_irrefl _ (h.addr_lt _ (List.mem_append_left _ hmem))
  exact
    { arpreqs := List.forall_mem_cons.mpr ⟨congrArg (Option.map Cell.value)
          (Function.update_self mem.heap _ mem.arpreqs),
        fun r hr => by
          have hne : r.addr ≠ mem.heap := fun heq => hfresh (heq ▸ List.mem_map_of_mem hr)
          exact (congrArg (Option.map Cell.value) (Function.update_of_ne hne ..)).trans
            (h.arpreqs r hr)⟩
      packets := List.forall_mem_cons.mpr ⟨rfl, h.packets⟩
      addr_nodup := List.nodup_cons.mpr ⟨hfresh, h.addr_nodup⟩
      packets_nodup := h.packets_nodup
      addr_lt := List.forall_mem_cons.mpr
        ⟨Nat.lt_succ_self _, fun a ha => Nat.lt_succ_of_lt (h.addr_lt a ha)⟩
      arpreqs_only := fun a ha => by
        by_cases heq : a = mem.heap
        · exact heq ▸ List.mem_cons_self
        · dsimp only [Memory.newRequest] at ha
          rw [Function.update_of_ne heq] at ha
          exact List.mem_cons_of_mem _ (h.arpreqs_only a ha)
      packets_only := h.packets_only }

theorem write (h : mem.Allocates (r :: rs)) {f : ReqFields → ReqFields} {r' : SrArpreq}
    (hcell : r'.cell = (r.addr, f r.cell.2)) (hpackets : r'.packets = r.packets)
    (next : Option Addr) :
    { mem with
      arpreqs := Function.update mem.arpreqs r.addr (some ⟨f r.cell.2, next⟩) }.Allocates
        (r' :: rs) := by
  have haddr : r'.addr = r.addr := congrArg Prod.fst hcell
  have hnot := (List.nodup_cons.mp h.addr_nodup).1
  have haddrs : (r' :: rs).map SrArpreq.addr = (r :: rs).map SrArpreq.addr := by
    rw [List.map_cons, List.map_cons, haddr]
  have hpacketAddrs : packetAddrs (r' :: rs) = packetAddrs (r :: rs) := by
    rw [packetAddrs, packetAddrs, List.flatMap_cons, List.flatMap_cons, hpackets]
  exact
    { arpreqs := List.forall_mem_cons.mpr ⟨by
          rw [haddr, hcell]
          exact congrArg (Option.map Cell.value) (Function.update_self r.addr _ mem.arpreqs),
        fun q hq => by
          have hne : q.addr ≠ r.addr := fun heq => hnot (heq ▸ List.mem_map_of_mem hq)
          exact (congrArg (Option.map Cell.value) (Function.update_of_ne hne ..)).trans
            (h.arpreqs q (List.mem_cons_of_mem _ hq))⟩
      packets := List.forall_mem_cons.mpr ⟨by
          rw [SrArpreq.packetsPtr, hpackets]
          exact h.packets r List.mem_cons_self,
        fun q hq => h.packets q (List.mem_cons_of_mem _ hq)⟩
      addr_nodup := haddrs ▸ h.addr_nodup
      packets_nodup := hpacketAddrs ▸ h.packets_nodup
      addr_lt := haddrs ▸ hpacketAddrs ▸ h.addr_lt
      arpreqs_only := fun a ha => by
        rw [haddrs]
        by_cases heq : a = r.addr
        · exact heq ▸ List.mem_cons_self
        · dsimp only at ha
          rw [Function.update_of_ne heq] at ha
          exact h.arpreqs_only a ha
      packets_only := hpacketAddrs ▸ h.packets_only }

theorem linkPacket (h : mem.Allocates (r :: rs)) (p : SrPacket) (hp : p.addr = mem.heap)
    (next : Option Addr) :
    { mem with
      arpreqs := Function.update mem.arpreqs r.addr
        (some ⟨{ r.cell.2 with packets := some mem.heap }, next⟩)
      packets := Function.update mem.packets mem.heap (some ⟨p.cell.2, r.packetsPtr⟩)
      heap := mem.heap + 1 }.Allocates ({ r with packets := p :: r.packets } :: rs) := by
  have hnot := (List.nodup_cons.mp h.addr_nodup).1
  have hfresh : mem.heap ∉ packetAddrs (r :: rs) := fun hmem =>
    Nat.lt_irrefl _ (h.addr_lt _ (List.mem_append_right _ hmem))
  have hpacketAddrs : packetAddrs ({ r with packets := p :: r.packets } :: rs) =
      mem.heap :: packetAddrs (r :: rs) := by
    rw [packetAddrs, packetAddrs, List.flatMap_cons, List.flatMap_cons, List.map_cons, hp]
    rfl
  have hapart {q : SrArpreq} (hq : q ∈ r :: rs) :
      mem.heap ∉ (q.packets.map SrPacket.cell).map Prod.fst := by
    rw [List.map_map]
    intro hmem
    obtain ⟨p', hp', heq⟩ := List.mem_map.mp hmem
    exact hfresh (heq ▸ mem_packetAddrs hq hp')
  exact
    { arpreqs := List.forall_mem_cons.mpr ⟨by
          refine (congrArg (Option.map Cell.value)
            (Function.update_self r.addr _ mem.arpreqs)).trans ?_
          rw [← hp]
          rfl,
        fun q hq => by
          have hne : q.addr ≠ r.addr := fun heq => hnot (heq ▸ List.mem_map_of_mem hq)
          exact (congrArg (Option.map Cell.value) (Function.update_of_ne hne ..)).trans
            (h.arpreqs q (List.mem_cons_of_mem _ hq))⟩
      packets := List.forall_mem_cons.mpr ⟨by
          have hpush := (h.packets r List.mem_cons_self).push (hapart List.mem_cons_self) p.cell.2
          rw [← hp] at hpush ⊢
          exact hpush,
        fun q hq => (h.packets q (List.mem_cons_of_mem _ hq)).update_of_not_mem
          (hapart (List.mem_cons_of_mem _ hq)) _⟩
      addr_nodup := h.addr_nodup
      packets_nodup := hpacketAddrs ▸ List.nodup_cons.mpr ⟨hfresh, h.packets_nodup⟩
      addr_lt := fun a ha => by
        rw [hpacketAddrs] at ha
        obtain hold | rfl := (List.perm_middle.mem_iff.trans List.mem_cons).mp ha |>.symm
        · exact Nat.lt_succ_of_lt (h.addr_lt a hold)
        · exact Nat.lt_succ_self _
      arpreqs_only := fun a ha => by
        by_cases heq : a = r.addr
        · exact heq ▸ List.mem_cons_self
        · dsimp only at ha
          rw [Function.update_of_ne heq] at ha
          exact h.arpreqs_only a ha
      packets_only := fun a ha => by
        rw [hpacketAddrs]
        by_cases heq : a = mem.heap
        · exact heq ▸ List.mem_cons_self
        · dsimp only at ha
          rw [Function.update_of_ne heq] at ha
          exact List.mem_cons_of_mem _ (h.packets_only a ha) }

theorem free (h : mem.Allocates (r :: rs)) :
    ∃ packets, mem.free r.addr =
        some { mem with packets := packets, arpreqs := Function.update mem.arpreqs r.addr none } ∧
      { mem with packets := packets, arpreqs := Function.update mem.arpreqs r.addr none }.Allocates
        rs := by
  obtain ⟨next, hcell⟩ := h.exists_cell List.mem_cons_self
  obtain ⟨packets, hfree, hleft⟩ := freeAll_eq (h.packets r List.mem_cons_self)
    (h.packets_addr_nodup List.mem_cons_self) (h.length_packets_le List.mem_cons_self)
  rw [List.map_map] at hleft
  have hnodup : (r.packets.map SrPacket.addr ++ packetAddrs rs).Nodup := h.packets_nodup
  obtain ⟨-, hrest, hdisjoint⟩ := List.nodup_append.mp hnodup
  obtain ⟨hnot, haddrs⟩ := List.nodup_cons.mp h.addr_nodup
  refine ⟨packets, ?_, ?_⟩
  · rw [Memory.free, hcell]
    show (freeAll mem.heap r.packetsPtr mem.packets).map _ = _
    rw [hfree]
    rfl
  · exact
      { arpreqs := fun q hq => by
          have hne : q.addr ≠ r.addr := fun heq => hnot (heq ▸ List.mem_map_of_mem hq)
          exact (congrArg (Option.map Cell.value) (Function.update_of_ne hne ..)).trans
            (h.arpreqs q (List.mem_cons_of_mem _ hq))
        packets := fun q hq => (h.packets q (List.mem_cons_of_mem _ hq)).congr fun c hc => by
          obtain ⟨p, hp, rfl⟩ := List.mem_map.mp hc
          refine (hleft _).trans (if_neg fun hmem => ?_)
          exact hdisjoint _ hmem _ (mem_packetAddrs hq hp) rfl
        addr_nodup := haddrs
        packets_nodup := hrest
        addr_lt := fun a ha => h.addr_lt a (by
          rcases List.mem_append.mp ha with ha | ha
          · exact List.mem_append_left _ (List.mem_cons_of_mem _ ha)
          · exact List.mem_append_right _ (List.mem_append_right _ ha))
        arpreqs_only := fun a ha => by
          by_cases heq : a = r.addr
          · exact absurd (heq ▸ Function.update_self ..) ha
          · dsimp only at ha
            rw [Function.update_of_ne heq] at ha
            exact (List.mem_cons.mp (h.arpreqs_only a ha)).resolve_left heq
        packets_only := fun a ha => by
          have hold := hleft a
          by_cases hmem : a ∈ r.packets.map (Prod.fst ∘ SrPacket.cell)
          · exact absurd (hold.trans (if_pos hmem)) ha
          · rw [if_neg hmem] at hold
            have ha' : mem.packets a ≠ none := hold ▸ ha
            exact (List.mem_append.mp (h.packets_only a ha')).resolve_left hmem }

end Memory.Allocates

/-! ### What the operations do -/

/-- A request, in front of all others; it may be changed there. -/
theorem exists_perm_cons {rs : List SrArpreq} (hnodup : (rs.map SrArpreq.addr).Nodup)
    {r : SrArpreq} (hr : r ∈ rs) (g : SrArpreq → SrArpreq) :
    ∃ rest, rs.Perm (r :: rest) ∧
      (rs.map fun q => if q.addr = r.addr then g q else q).Perm (g r :: rest) := by
  obtain ⟨front, behind, rfl⟩ := List.append_of_mem hr
  rw [List.map_append, List.map_cons, List.nodup_middle, ← List.map_append, List.nodup_cons]
    at hnodup
  have hother : ∀ q ∈ front ++ behind, (if q.addr = r.addr then g q else q) = q := fun q hq =>
    if_neg fun heq : q.addr = r.addr => hnodup.1 (heq ▸ List.mem_map_of_mem hq)
  refine ⟨front ++ behind, List.perm_middle, ?_⟩
  rw [List.map_append, List.map_cons, if_pos rfl,
    List.map_congr_left fun q hq => hother q (List.mem_append_left _ hq),
    List.map_congr_left fun q hq => hother q (List.mem_append_right _ hq), List.map_id',
    List.map_id']
  exact List.perm_middle

/-- What is taken out, in front of what is left. -/
theorem perm_cons_eraseP {α : Type} {l : List α} {p : α → Bool} {a : α}
    (hfind : l.find? p = some a) : l.Perm (a :: l.eraseP p) := by
  obtain ⟨ha, front, behind, rfl, hno⟩ := List.find?_eq_some_iff_append.mp hfind
  rw [List.eraseP_append_right _ fun b hb => by simpa using hno b hb,
    List.eraseP_cons_of_pos (by exact ha)]
  exact List.perm_middle

namespace Memory.Owns

variable {mem : Memory} {queue kept : List SrArpreq} {r : SrArpreq}

theorem nodup_cells (h : mem.Owns queue kept) :
    ((queue.map SrArpreq.cell).map Prod.fst).Nodup := by
  rw [List.map_map]
  have hnodup := h.allocates.addr_nodup
  rw [List.map_append] at hnodup
  exact (List.nodup_append.mp hnodup).1

theorem length_cells_le (h : mem.Owns queue kept) :
    (queue.map SrArpreq.cell).length ≤ mem.heap := by
  have hle := Memory.Allocates.length_le_of_lt h.nodup_cells fun a ha => by
    rw [List.map_map] at ha
    obtain ⟨r, hr, rfl⟩ := List.mem_map.mp ha
    exact h.allocates.addr_lt _ (List.mem_append_left _
      (List.mem_map_of_mem (List.mem_append_left _ hr)))
  rwa [List.length_map] at hle

theorem addr_ne (h : mem.Owns queue kept) (hr : r ∈ queue) {q : SrArpreq} (hq : q ∈ kept) :
    q.addr ≠ r.addr := by
  have hnodup := h.allocates.addr_nodup
  rw [List.map_append] at hnodup
  exact fun heq => (List.nodup_append.mp hnodup).2.2 _ (List.mem_map_of_mem hr) _
    (List.mem_map_of_mem hq) heq.symm

theorem map_kept (h : mem.Owns queue kept) (hr : r ∈ queue) (g : SrArpreq → SrArpreq) :
    (kept.map fun q => if q.addr = r.addr then g q else q) = kept :=
  (List.map_congr_left fun _ hq => if_neg (h.addr_ne hr hq)).trans (List.map_id' _)

theorem segment_write (h : mem.Owns queue kept) {next : Option Addr}
    (hc : mem.arpreqs r.addr = some ⟨r.cell.2, next⟩) {f : ReqFields → ReqFields}
    {g : SrArpreq → SrArpreq} (hcell : ∀ q, (g q).cell = (q.addr, f q.cell.2)) :
    Segment (Function.update mem.arpreqs r.addr (some ⟨f r.cell.2, next⟩)) mem.requests
      ((queue.map fun q => if q.addr = r.addr then g q else q).map SrArpreq.cell) none := by
  have hwrite := h.linked.write h.nodup_cells hc f
  rw [List.map_map] at hwrite ⊢
  refine (List.map_congr_left fun q _ => ?_) ▸ hwrite
  show (if q.addr = r.addr then (q.addr, f q.cell.2) else q.cell) =
    (if q.addr = r.addr then g q else q).cell
  split
  · exact (hcell q).symm
  · rfl

theorem write (h : mem.Owns queue kept) (hr : r ∈ queue) {f : ReqFields → ReqFields}
    {g : SrArpreq → SrArpreq} (hcell : ∀ q, (g q).cell = (q.addr, f q.cell.2))
    (hpackets : ∀ q, (g q).packets = q.packets) :
    ∃ mem', mem.write r.addr f = some mem' ∧ mem'.heap = mem.heap ∧
      mem'.Owns (queue.map fun q => if q.addr = r.addr then g q else q) kept := by
  have hmem := List.mem_append_left kept hr
  obtain ⟨next, hc⟩ := h.allocates.exists_cell hmem
  obtain ⟨rest, hperm, hperm'⟩ := exists_perm_cons h.allocates.addr_nodup hmem g
  rw [List.map_append, h.map_kept hr] at hperm'
  refine ⟨{ mem with arpreqs := Function.update mem.arpreqs r.addr (some ⟨f r.cell.2, next⟩) },
    by rw [Memory.write, hc], rfl, h.segment_write hc hcell, ?_⟩
  exact ((h.allocates.perm hperm).write (hcell r) (hpackets r) next).perm hperm'.symm

theorem linkPacket (h : mem.Owns queue kept) (hr : r ∈ queue) (origin : Origin) (buf : Frame)
    (iface : Name) :
    ∃ mem', mem.linkPacket r.addr origin buf iface = some mem' ∧ mem'.heap = mem.heap + 1 ∧
      mem'.Owns (queue.map fun q => if q.addr = r.addr then
        { q with packets := { addr := mem.heap, origin := origin, buf := buf
                              iface := strncpy srIfaceNamelen iface } :: q.packets } else q)
        kept := by
  have hmem := List.mem_append_left kept hr
  let p : SrPacket :=
    { addr := mem.heap, origin := origin, buf := buf, iface := strncpy srIfaceNamelen iface }
  let g := fun q : SrArpreq => { q with packets := p :: q.packets }
  obtain ⟨next, hc⟩ := h.allocates.exists_cell hmem
  obtain ⟨rest, hperm, hperm'⟩ := exists_perm_cons h.allocates.addr_nodup hmem g
  rw [List.map_append, h.map_kept hr] at hperm'
  refine ⟨_, by rw [Memory.linkPacket, hc], rfl, ?_, ?_⟩
  · exact h.segment_write hc (f := fun v => { v with packets := some mem.heap }) fun _ => rfl
  · exact ((h.allocates.perm hperm).linkPacket p rfl next).perm hperm'.symm

theorem newRequest (h : mem.Owns queue kept) (ip : UInt32) :
    (mem.newRequest ip).Owns
      ({ addr := mem.heap, ip := ip, sent := 0, timesSent := 0, packets := [] } :: queue) kept where
  linked := by
    refine h.linked.push (fun hmem => ?_) _
    rw [List.map_map] at hmem
    refine Nat.lt_irrefl _ (h.allocates.addr_lt _ (List.mem_append_left _ ?_))
    rw [List.map_append]
    exact List.mem_append_left _ hmem
  allocates := h.allocates.newRequest ip

theorem find?_cells (queue : List SrArpreq) (stop : Addr → ReqFields → Bool) :
    ((queue.map SrArpreq.cell).find? fun c => stop c.1 c.2).map Prod.fst =
      (queue.find? fun r => stop r.addr r.cell.2).map SrArpreq.addr := by
  rw [List.find?_map, Option.map_map]
  rfl

theorem unlinkRequest (h : mem.Owns queue kept) (stop : Addr → ReqFields → Bool) :
    ∃ mem', mem.unlinkRequest stop =
        some ((queue.find? fun r => stop r.addr r.cell.2).map SrArpreq.addr, mem') ∧
      mem'.heap = mem.heap ∧
      mem'.Owns (queue.eraseP fun r => stop r.addr r.cell.2)
        ((queue.find? fun r => stop r.addr r.cell.2).toList ++ kept) := by
  obtain ⟨head, arpreqs, hremove, hseg, hvalue⟩ :=
    remove_eq stop h.linked h.nodup_cells h.length_cells_le
  rw [find?_cells] at hremove
  refine ⟨{ mem with requests := head, arpreqs := arpreqs },
    by rw [Memory.unlinkRequest, hremove]; rfl, rfl, ?_, ?_⟩
  · rw [List.eraseP_map] at hseg
    exact hseg
  · refine (h.allocates.relink head hvalue).perm ?_
    cases hfind : queue.find? fun r => stop r.addr r.cell.2 with
    | none =>
        have hno : ∀ r ∈ queue, ¬stop r.addr r.cell.2 = true := by simpa using hfind
        rw [List.eraseP_of_forall_not hno]
        exact .refl _
    | some r => exact ((perm_cons_eraseP hfind).append_right kept).trans List.perm_middle.symm

theorem free (h : mem.Owns queue (r :: kept)) :
    ∃ mem', mem.free r.addr = some mem' ∧ mem'.heap = mem.heap ∧ mem'.Owns queue kept := by
  obtain ⟨packets, hfree, halloc⟩ := (h.allocates.perm List.perm_middle).free
  refine ⟨_, hfree, rfl, h.linked.update_of_not_mem (fun hmem => ?_) none, halloc⟩
  rw [List.map_map] at hmem
  obtain ⟨q, hq, heq⟩ := List.mem_map.mp hmem
  exact h.addr_ne hq List.mem_cons_self heq.symm

theorem destroy (h : mem.Owns queue kept) (hr : r ∈ queue) :
    ∃ mem', mem.srArpreqDestroy r.addr = some mem' ∧ mem'.heap = mem.heap ∧
      mem'.Owns (queue.eraseP fun q => q.addr == r.addr) kept := by
  have hnodup : (queue.map SrArpreq.addr).Nodup := by
    have := h.nodup_cells
    rwa [List.map_map] at this
  have hfind : queue.find? (fun q => q.addr == r.addr) = some r := find?_key_eq_some hnodup hr
  obtain ⟨mem₁, hunlink, hheap₁, howns⟩ := h.unlinkRequest fun req _ => req == r.addr
  rw [hfind] at hunlink howns
  obtain ⟨mem₂, hfree, hheap₂, howns⟩ := howns.free
  exact ⟨mem₂, by rw [Memory.srArpreqDestroy, hunlink]; exact hfree, hheap₂.trans hheap₁, howns⟩

theorem destroy_kept (h : mem.Owns queue (r :: kept)) :
    ∃ mem', mem.srArpreqDestroy r.addr = some mem' ∧ mem'.heap = mem.heap ∧
      mem'.Owns queue kept := by
  have hno : ∀ q ∈ queue, ¬(q.addr == r.addr) = true := fun q hq heq =>
    h.addr_ne hq List.mem_cons_self (beq_iff_eq.mp heq).symm
  have hfind : queue.find? (fun q => q.addr == r.addr) = none := List.find?_eq_none.mpr hno
  obtain ⟨mem₁, hunlink, hheap₁, howns⟩ := h.unlinkRequest fun req _ => req == r.addr
  rw [hfind, List.eraseP_of_forall_not hno] at howns
  rw [hfind] at hunlink
  obtain ⟨mem₂, hfree, hheap₂, howns⟩ := howns.free
  exact ⟨mem₂, by rw [Memory.srArpreqDestroy, hunlink]; exact hfree, hheap₂.trans hheap₁, howns⟩

/-- The queue of the memory is used as that of the state. -/
theorem queuereq {s : Store} (h : mem.Owns s.requests kept) (hheap : mem.heap = s.heap)
    (ip : UInt32) (origin : Origin) (buf : Frame) (iface : Name) :
    ∃ mem', mem.srArpcacheQueuereq ip origin buf iface =
        some ((SrRouter.srArpcacheQueuereq s ip origin buf iface).1, mem') ∧
      mem'.heap = (SrRouter.srArpcacheQueuereq s ip origin buf iface).2.heap ∧
      mem'.Owns (SrRouter.srArpcacheQueuereq s ip origin buf iface).2.requests kept := by
  obtain ⟨last, hseek⟩ := seek_eq (fun _ r => r.ip == ip) none h.linked h.length_cells_le
  have hfound : ((s.requests.map SrArpreq.cell).find? fun c => c.2.ip == ip).map Prod.fst =
      (s.requests.find? fun r => r.ip == ip).map SrArpreq.addr :=
    find?_cells _ fun _ r => r.ip == ip
  rw [hfound] at hseek
  rw [Memory.srArpcacheQueuereq, SrRouter.srArpcacheQueuereq, hseek]
  cases hfind : s.requests.find? fun r => r.ip == ip with
  | some r =>
      obtain ⟨mem', hlink, hheap', howns⟩ :=
        h.linkPacket (List.mem_of_find?_eq_some hfind) origin buf iface
      refine ⟨mem', ?_, ?_, ?_⟩
      · show (mem.linkPacket r.addr origin buf iface).map _ = _
        rw [hlink]
        rfl
      · rw [hheap', hheap]
        rfl
      · rw [hheap] at howns
        exact howns
  | none =>
      obtain ⟨mem', hlink, hheap', howns⟩ :=
        (h.newRequest ip).linkPacket List.mem_cons_self origin buf iface
      refine ⟨mem', ?_, ?_, ?_⟩
      · show ((mem.newRequest ip).linkPacket mem.heap origin buf iface).map _ = _
        rw [hlink, ← hheap]
        rfl
      · rw [hheap']
        show mem.heap + 1 + 1 = s.heap + 1 + 1
        rw [hheap]
      · dsimp only [Memory.newRequest] at howns
        rw [hheap] at howns
        exact howns

end Memory.Owns

end SrRouter
