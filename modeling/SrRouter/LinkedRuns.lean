import SrRouter.Linkage
import SrRouter.References

/-!
Runs of the router on the queue as it is linked in memory.

A program of the router runs on the memory as it runs on the list, and has a
result: it goes through no pointer to a record that is not allocated, and frees
none twice. What `memoryDiscipline` asks of a program is that it goes through
pointers to requests on the queue only, and that what `sr_arpcache_insert` took
off the queue is destroyed before another one is. Then nothing is left behind:
from one frame or pass to the next, what is allocated is what is on the queue.
-/

namespace SrRouter

open ByteBuffer CString Interactive LinkedHeap

/-! ### Programs on the memory -/

/-- An operation. What it is answered about the queue is read from the memory;
the list of requests in the state beside it is only carried along. -/
def execMemory : (o : Op) → Store × Memory → Option (Res o × (Store × Memory))
  | .lookup ip, s => some (srArpcacheLookup s.1.cache ip, s)
  | .queuereq ip origin buf iface, s =>
    (s.2.srArpcacheQueuereq ip origin buf iface).map fun r =>
      (r.1, (exec (.queuereq ip origin buf iface) s.1).2, r.2)
  | .insert mac ip, s =>
    match s.2.srArpcacheInsert ip with
    | none => none
    | some (none, mem) => some (none, (exec (.insert mac ip) s.1).2, mem)
    | some (some req, mem) =>
      (mem.read req).map fun r => (some r, (exec (.insert mac ip) s.1).2, mem)
  | .destroy req, s =>
    (s.2.srArpreqDestroy req).map fun mem => ((), (exec (.destroy req) s.1).2, mem)
  | .readRequest req, s => (s.2.read req).map fun r => (r, s)
  | .writeSent req sent, s =>
    (s.2.write req fun r => { r with sent := sent }).map fun mem =>
      ((), (exec (.writeSent req sent) s.1).2, mem)
  | .incTimesSent req, s =>
    (s.2.write req fun r => { r with timesSent := r.timesSent + 1 }).map fun mem =>
      ((), (exec (.incTimesSent req) s.1).2, mem)
  | .time, s => some (s.1.now, s)
  | .trace e, s => some ((), s.1.trace e, s.2)

def runMemory {α : Type} : Prog Res α → Store × Memory → Option (α × (Store × Memory))
  | .pure a, s => some (a, s)
  | .call o next, s => (execMemory o s).bind fun r => runMemory (next r.1) r.2

/-- The loop over the packets of a request that is given up: the pointer to the
next packet is read when the error about this one is sent. -/
def reportPacketsMemory (sr : Config) :
    Nat → Option Addr → Store × Memory → Option (Store × Memory)
  | _, none, s => some s
  | 0, some _, _ => none
  | fuel + 1, some pkt, s =>
    (s.2.packets pkt).bind fun c =>
      (runMemory (srSendIcmpError sr (c.value.packet pkt) c.value.buf 3 1) s).bind fun r =>
        (r.2.2.packets pkt).bind fun c => reportPacketsMemory sr fuel c.next r.2

/-- The body of the loop of `sr_arpcache_sweepreqs`, through the pointers. -/
def handleArpreqMemory (sr : Config) (now : Int) (req : Addr) (s : Store × Memory) :
    Option (Store × Memory) :=
  (s.2.arpreqs req).bind fun c =>
    if now - c.value.sent ≥ 1 then
      if c.value.timesSent ≥ 5 then
        (reportPacketsMemory sr s.2.heap c.value.packets s).bind fun s =>
          (runMemory (Call.destroy req) s).map Prod.snd
      else
        match c.value.packets with
        | none => some s
        | some pkt =>
          (s.2.packets pkt).bind fun p =>
            (runMemory (retryArpreq sr now req c.value.ip p.value.iface) s).map Prod.snd
    else some s

def sweepLoopMemory (sr : Config) (now : Int) :
    Nat → Option Addr → Store × Memory → Option (Store × Memory)
  | _, none, s => some s
  | 0, some _, _ => none
  | fuel + 1, some req, s =>
    (s.2.arpreqs req).bind fun c =>
      (handleArpreqMemory sr now req s).bind fun s => sweepLoopMemory sr now fuel c.next s

def stepMemory (s : SrInstance × Memory) : Action → Option (SrInstance × Memory)
  | .recv now packet interface =>
    (runMemory (srHandlepacket s.1.config packet interface) (s.1.store.setNow now, s.2)).map
      fun r => ({ s.1 with store := r.2.1 }, r.2.2)
  | .timer now =>
    let store := s.1.store.setNow now
    let store := { store with cache := srArpcacheExpire store.cache store.now }
    (sweepLoopMemory s.1.config now s.2.heap s.2.requests (store, s.2)).map fun r =>
      ({ s.1 with store := r.1 }, r.2)
  | .hwinfo mem entries => some (s.1.step (.hwinfo mem entries), s.2)

def runMemorySteps : SrInstance × Memory → List Action → Option (SrInstance × Memory)
  | s, [] => some s
  | s, a :: actions => (stepMemory s a).bind fun s => runMemorySteps s actions

/-! ### The pointers of a program -/

/-- Pointers that are to requests on the queue, and the request that is off it
and not destroyed yet. -/
structure Pointers where
  live : List Addr
  kept : Option Addr

def memoryDiscipline : Discipline Res Pointers where
  guard g
    | .insert .. => g.kept = none
    | .destroy req => req ∈ g.live ∨ g.kept = some req
    | .readRequest req => req ∈ g.live
    | .writeSent req _ => req ∈ g.live
    | .incTimesSent req => req ∈ g.live
    | _ => True
  next g
    | .queuereq .., req => { g with live := req :: g.live }
    | .insert .., r => { live := [], kept := r.map SrArpreq.addr }
    | .destroy req, _ =>
      if g.kept = some req then { g with kept := none }
      else { g with live := g.live.filter (· ≠ req) }
    | _, _ => g

/-- What the program knows is true of the state and the memory beside it. -/
structure Tied (g : Pointers) (s : Store) (mem : Memory) : Prop where
  live : ∀ a ∈ g.live, a ∈ s.addrs
  owns : ∃ kept, mem.Owns s.requests kept ∧ kept.map SrArpreq.addr = g.kept.toList
  heap : mem.heap = s.heap

theorem Memory.Owns.allocated {mem : Memory} {s : Store} {kept : List SrArpreq}
    (h : mem.Owns s.requests kept) (hheap : mem.heap = s.heap) : s.Allocated where
  addr_nodup := by
    have hnodup := h.nodup_cells
    rwa [List.map_map] at hnodup
  addr_lt := fun r hr => hheap ▸ h.allocates.addr_lt _ (List.mem_append_left _
    (List.mem_map_of_mem (List.mem_append_left _ hr)))

theorem subset_addrs_queuereq (s : Store) (ip : UInt32) (origin : Origin) (buf : Frame)
    (iface : Name) : s.addrs ⊆ (srArpcacheQueuereq s ip origin buf iface).2.addrs := by
  have hlink (s : Store) (req : Addr) :
      (s.linkPacket req ip origin buf iface).addrs = s.addrs := s.addrs_update req fun _ => rfl
  unfold srArpcacheQueuereq
  cases s.requests.find? fun r => r.ip == ip with
  | some r => exact fun a ha => (hlink s r.addr).symm ▸ ha
  | none => exact fun a ha => (hlink (s.newRequest ip) s.heap).symm ▸ List.mem_cons_of_mem _ ha

namespace Tied

variable {g : Pointers} {s : Store} {mem : Memory}

theorem exists_request (h : Tied g s mem) {req : Addr} (hreq : req ∈ g.live) :
    ∃ r ∈ s.requests, r.addr = req := List.mem_map.mp (h.live req hreq)

theorem write (h : Tied g s mem) {req : Addr} (hreq : req ∈ g.live) {f : ReqFields → ReqFields}
    {k : SrArpreq → SrArpreq} (hcell : ∀ q, (k q).cell = (q.addr, f q.cell.2))
    (hpackets : ∀ q, (k q).packets = q.packets) :
    ∃ mem', mem.write req f = some mem' ∧ Tied g (s.update req k) mem' := by
  obtain ⟨r, hr, rfl⟩ := h.exists_request hreq
  obtain ⟨kept, howns, hkept⟩ := h.owns
  obtain ⟨mem', hwrite, hheap, howns'⟩ := howns.write hr hcell hpackets
  have haddrs := s.addrs_update r.addr fun q => congrArg Prod.fst (hcell q)
  exact ⟨mem', hwrite, fun a ha => haddrs.symm ▸ h.live a ha, ⟨kept, howns', hkept⟩,
    hheap.trans h.heap⟩

/-- The operation has a result, it is the one on the list, and what the program
knows stays true. -/
def Executes (g : Pointers) (s : Store) (mem : Memory) (o : Op) : Prop :=
  ∃ mem', execMemory o (s, mem) = some ((SrRouter.exec o s).1, (SrRouter.exec o s).2, mem') ∧
    Tied (memoryDiscipline.next g o (SrRouter.exec o s).1) (SrRouter.exec o s).2 mem'

theorem insert (h : Tied g s mem) (hnone : g.kept = none) (mac : Mac) (ip : UInt32) :
    Executes g s mem (.insert mac ip) := by
  obtain ⟨kept, howns, hkept⟩ := h.owns
  rw [hnone] at hkept
  obtain rfl : kept = [] := List.map_eq_nil_iff.mp hkept
  obtain ⟨mem', hunlink, hheap, howns'⟩ := howns.unlinkRequest fun _ r => r.ip == ip
  have hinsert : mem.srArpcacheInsert ip =
      some ((s.requests.find? fun r => r.ip == ip).map SrArpreq.addr, mem') := hunlink
  have howns'' : mem'.Owns (s.requests.eraseP fun r => r.ip == ip)
      ((s.requests.find? fun r => r.ip == ip).toList ++ []) := howns'
  refine ⟨mem', ?_, fun a ha => absurd ha List.not_mem_nil,
    ⟨_, howns'', by rw [List.append_nil]; exact (Option.toList_map ..).symm⟩,
    hheap.trans h.heap⟩
  rw [execMemory, hinsert]
  show _ = some (s.requests.find? fun r => r.ip == ip, _, mem')
  cases hfind : s.requests.find? fun r => r.ip == ip with
  | none => rfl
  | some r =>
      rw [hfind] at howns''
      have hmem : r ∈ (s.requests.eraseP fun r => r.ip == ip) ++ [r] :=
        List.mem_append_right _ List.mem_cons_self
      have hread := howns''.allocates.read_eq hmem
      show (mem'.read r.addr).map _ = _
      rw [hread]
      rfl

theorem destroy_kept (h : Tied g s mem) {req : Addr} (hoff : g.kept = some req) :
    Executes g s mem (.destroy req) := by
  obtain ⟨kept, howns, hkept⟩ := h.owns
  rw [hoff] at hkept
  obtain ⟨r, hr, rfl⟩ : ∃ r, kept = [r] ∧ r.addr = req := by
    obtain ⟨r, rest, rfl, haddr, hrest⟩ := List.map_eq_cons_iff.mp hkept
    exact ⟨r, by rw [List.map_eq_nil_iff.mp hrest], haddr⟩
  subst hr
  obtain ⟨mem', hdestroy, hheap, howns'⟩ := howns.destroy_kept
  have hmissing : srArpreqDestroy s r.addr = s := by
    rw [srArpreqDestroy, Store.deref, List.find?_eq_none.mpr fun q hq heq =>
      howns.addr_ne hq List.mem_cons_self (beq_iff_eq.mp heq).symm]
  have hexec : SrRouter.exec (.destroy r.addr) s = ((), s) := congrArg ((), ·) hmissing
  refine ⟨mem', by rw [execMemory, hdestroy]; rfl, ?_⟩
  rw [hexec]
  dsimp only [memoryDiscipline]
  rw [if_pos hoff]
  exact ⟨h.live, ⟨[], howns', rfl⟩, hheap.trans h.heap⟩

theorem destroy_live (h : Tied g s mem) {req : Addr} (hoff : g.kept ≠ some req)
    (hreq : req ∈ g.live) : Executes g s mem (.destroy req) := by
  obtain ⟨kept, howns, hkept⟩ := h.owns
  obtain ⟨r, hr, rfl⟩ := h.exists_request hreq
  obtain ⟨mem', hdestroy, hheap, howns'⟩ := howns.destroy hr
  have hfound : srArpreqDestroy s r.addr =
      (s.setRequests (s.requests.eraseP fun q => q.addr == r.addr)).trace (.destroyed r) := by
    rw [srArpreqDestroy, (howns.allocated h.heap).deref_eq hr]
  have hexec : SrRouter.exec (.destroy r.addr) s = ((), _) := congrArg ((), ·) hfound
  refine ⟨mem', by rw [execMemory, hdestroy]; rfl, ?_⟩
  rw [hexec]
  dsimp only [memoryDiscipline]
  rw [if_neg hoff]
  refine ⟨fun a ha => ?_, ⟨kept, howns', hkept⟩, hheap.trans h.heap⟩
  obtain ⟨hlive, hne⟩ := List.mem_filter.mp ha
  obtain ⟨q, hq, rfl⟩ := h.exists_request hlive
  exact List.mem_map_of_mem ((List.mem_eraseP_of_neg (by simpa using hne)).mpr hq)

theorem read (h : Tied g s mem) {req : Addr} (hreq : req ∈ g.live) :
    Executes g s mem (.readRequest req) := by
  obtain ⟨r, hr, rfl⟩ := h.exists_request hreq
  obtain ⟨kept, howns, hkept⟩ := h.owns
  have hread := howns.allocates.read_eq (List.mem_append_left kept hr)
  have hexec : (s.deref r.addr).getD (danglingRequest r.addr) = r := by
    rw [(howns.allocated h.heap).deref_eq hr]
    rfl
  refine ⟨mem, ?_, h⟩
  rw [execMemory, hread]
  show some (r, (s, mem)) = some ((s.deref r.addr).getD (danglingRequest r.addr), s, mem)
  rw [hexec]

theorem exec (h : Tied g s mem) {o : Op} (hguard : memoryDiscipline.guard g o) :
    Executes g s mem o := by
  cases o with
  | lookup ip => exact ⟨mem, rfl, h⟩
  | time => exact ⟨mem, rfl, h⟩
  | trace e => exact ⟨mem, rfl, h.live, h.owns, h.heap⟩
  | queuereq ip origin buf iface =>
      obtain ⟨kept, howns, hkept⟩ := h.owns
      obtain ⟨mem', hqueue, hheap, howns'⟩ := howns.queuereq h.heap ip origin buf iface
      refine ⟨mem', by rw [execMemory, hqueue]; rfl, ?_, ⟨kept, howns', hkept⟩, hheap⟩
      exact List.forall_mem_cons.mpr ⟨mem_addrs_srArpcacheQueuereq .., fun a ha =>
        subset_addrs_queuereq s ip origin buf iface (h.live a ha)⟩
  | insert mac ip => exact h.insert hguard mac ip
  | destroy req =>
      by_cases hoff : g.kept = some req
      · exact h.destroy_kept hoff
      · exact h.destroy_live hoff (hguard.resolve_right hoff)
  | readRequest req => exact h.read hguard
  | writeSent req sent =>
      obtain ⟨mem', hwrite, htied⟩ := h.write (f := fun r => { r with sent := sent })
        (k := fun r => { r with sent := sent }) hguard (fun _ => rfl) fun _ => rfl
      exact ⟨mem', by rw [execMemory, hwrite]; rfl, htied⟩
  | incTimesSent req =>
      obtain ⟨mem', hwrite, htied⟩ := h.write
        (f := fun r => { r with timesSent := r.timesSent + 1 })
        (k := fun r => { r with timesSent := r.timesSent + 1 }) hguard (fun _ => rfl) fun _ => rfl
      exact ⟨mem', by rw [execMemory, hwrite]; rfl, htied⟩

theorem run {α : Type} {Q : Pointers → α → Prop} {p : Prog Res α}
    (hp : p.Obeys memoryDiscipline Q g) (h : Tied g s mem) :
    ∃ g' mem', runMemory p (s, mem) =
        some ((p.run SrRouter.exec s).1, (p.run SrRouter.exec s).2, mem') ∧
      Tied g' (p.run SrRouter.exec s).2 mem' ∧ Q g' (p.run SrRouter.exec s).1 := by
  induction p generalizing g s mem with
  | pure a => exact ⟨g, mem, rfl, h, hp⟩
  | call o next ih =>
      obtain ⟨mem₁, hexec, htied⟩ := h.exec hp.1
      obtain ⟨g', mem', hrun, hend⟩ := ih _ (hp.2 _) htied
      exact ⟨g', mem', by rw [runMemory, hexec]; exact hrun, hend⟩

end Tied

/-! ### The programs of the router -/

section Programs

variable (sr : Config) {g : Pointers}

/-- The program keeps the pointers that it is given, and what is off the queue. -/
abbrev Keeps (g : Pointers) (p : Program) : Prop :=
  p.Obeys memoryDiscipline (fun g' _ => g.live ⊆ g'.live ∧ g'.kept = g.kept) g

theorem keeps_done : Keeps g (.pure ()) := ⟨List.Subset.refl _, rfl⟩

theorem Keeps.bind {p : Program} {f : Unit → Program} (hp : Keeps g p)
    (hf : ∀ g', g.live ⊆ g'.live → g'.kept = g.kept → Keeps g' (f ())) :
    Keeps g (Prog.bind p f) :=
  Prog.Obeys.bind hp fun g' _ hg => (hf g' hg.1 hg.2).mono fun _ _ hg' =>
    ⟨List.Subset.trans hg.1 hg'.1, hg'.2.trans hg.2⟩

theorem keeps_srSendPacket (cause : Cause) (buf : Frame) (iface : Name) :
    Keeps g (srSendPacket sr cause buf iface) := ⟨trivial, fun _ => keeps_done⟩

theorem keeps_sendArpRequest (ip : UInt32) (iface : Name) :
    Keeps g (sendArpRequest sr ip iface) := by
  unfold sendArpRequest
  cases srGetInterface sr.ifList iface with
  | none => exact keeps_done
  | some outIface => exact keeps_srSendPacket sr ..

theorem keeps_retried {req : Addr} (hreq : req ∈ g.live) (sent : Int) :
    Keeps g (Prog.call (.writeSent req sent) fun _ => Prog.call (.incTimesSent req) .pure) :=
  ⟨hreq, fun _ => ⟨hreq, fun _ => keeps_done⟩⟩

theorem keeps_firstSend (outIface : SrIf) {req : Addr} (hreq : req ∈ g.live) :
    Keeps g (do
      if (← Call.readRequest req).timesSent = 0 then
        let ip := (← Call.readRequest req).ip
        srSendArpRequest sr ip outIface.name
        let now ← Call.time
        Call.writeSent req now
        Call.incTimesSent req : Program) := by
  refine ⟨hreq, fun r => ?_⟩
  simp only [Prog.pure_bind]
  split
  · refine ⟨hreq, fun r => ?_⟩
    refine (keeps_sendArpRequest sr r.ip outIface.name).bind fun g' hlive _ => ?_
    exact ⟨trivial, fun now => keeps_retried (hlive hreq) now⟩
  · exact keeps_done

theorem keeps_srSendRoutedIpPacket (origin : Origin) (packet : Frame) :
    Keeps g (srSendRoutedIpPacket sr origin packet) := by
  unfold srSendRoutedIpPacket
  cases srFindLpmRoute sr.routingTable (ipDst packet) with
  | none => exact keeps_done
  | some route =>
      simp only
      cases srGetInterface sr.ifList route.interface with
      | none => exact keeps_done
      | some outIface =>
          refine ⟨trivial, fun entry => ?_⟩
          cases entry with
          | some entry => exact keeps_srSendPacket sr ..
          | none =>
              -- what was queued is on the queue
              exact ⟨trivial, fun req => (keeps_firstSend sr outIface List.mem_cons_self).mono
                fun _ _ hg => ⟨List.Subset.trans (List.subset_cons_self ..) hg.1, hg.2⟩⟩

theorem keeps_srSendIcmpError (pkt : Option SrPacket) (packet : Frame) (type code : UInt8) :
    Keeps g (srSendIcmpError sr pkt packet type code) := by
  refine ⟨trivial, fun _ => ?_⟩
  simp only [Prog.pure_bind]
  split
  · exact keeps_done
  · split
    · exact keeps_done
    · exact ⟨trivial, fun _ => keeps_srSendRoutedIpPacket sr ..⟩

theorem keeps_srHandleIp (packet : Frame) (interface : Name) :
    Keeps g (srHandleIp sr packet interface) := by
  unfold srHandleIp
  dsimp only
  split
  · exact keeps_done
  · split
    · split
      · split
        · unfold srSendIcmpEchoReply
          cases srGetInterface sr.ifList interface with
          | none => exact keeps_done
          | some outIface => exact keeps_srSendPacket sr ..
        · exact keeps_done
      · split
        · exact keeps_srSendIcmpError sr ..
        · exact keeps_done
    · split
      · exact keeps_srSendIcmpError sr ..
      · unfold srForwardIpPacket
        split
        · exact keeps_srSendIcmpError sr ..
        · exact keeps_srSendRoutedIpPacket sr ..

theorem keeps_flushPackets (ip : UInt32) (mac : Mac) (packets : List SrPacket) :
    Keeps g (flushPackets sr ip mac packets) := by
  induction packets generalizing g with
  | nil => exact keeps_done
  | cons pkt packets ih =>
      unfold flushPackets
      cases srGetInterface sr.ifList pkt.iface with
      | none => exact ih
      | some outIface => exact (keeps_srSendPacket sr ..).bind fun _ _ _ => ih

/-- In the end no request is off the queue. -/
abbrev Settles (g : Pointers) (p : Program) : Prop :=
  p.Obeys memoryDiscipline (fun g' _ => g'.kept = none) g

theorem Keeps.settles {p : Program} (h : Keeps g p) (hg : g.kept = none) : Settles g p :=
  h.mono fun _ _ hg' => hg'.2.trans hg

theorem settles_srCacheArpMapping (packet : Frame) (hg : g.kept = none) :
    Settles g (srCacheArpMapping sr packet) := by
  refine ⟨hg, fun req => ?_⟩
  cases req with
  | none => exact rfl
  | some req =>
      show Prog.Obeys _ _ _
        (Prog.bind (flushPackets sr (arSip packet) (arSha packet) req.packets) _)
      refine Prog.Obeys.bind (keeps_flushPackets sr _ _ req.packets) ?_
      rintro g' - ⟨-, hkept⟩
      -- what is destroyed is what was taken off
      have hoff : g'.kept = some req.addr := hkept
      refine ⟨.inr hoff, fun _ => ?_⟩
      dsimp only [memoryDiscipline]
      rw [if_pos hoff]
      rfl

theorem settles_srHandleArp (packet : Frame) (interface : Name) (hg : g.kept = none) :
    Settles g (srHandleArp sr packet interface) := by
  unfold srHandleArp
  split
  · exact hg
  · cases srGetInterface sr.ifList interface with
    | none => exact hg
    | some recvIface =>
        simp only
        split
        · exact hg
        · split
          · refine (settles_srCacheArpMapping sr packet hg).bind fun g' _ hg' => ?_
            split
            · unfold srSendArpReply
              cases srGetInterface sr.ifList interface with
              | none => exact hg'
              | some outIface => exact (keeps_srSendPacket sr ..).settles hg'
            · exact hg'
          · split
            · split
              · exact hg
              · exact settles_srCacheArpMapping sr packet hg
            · exact hg

theorem settles_srHandlepacket (packet : Frame) (interface : Name) (hg : g.kept = none) :
    Settles g (srHandlepacket sr packet interface) := by
  unfold srHandlepacket
  split
  · exact hg
  · split
    · exact settles_srHandleArp sr packet interface hg
    · split
      · exact (keeps_srHandleIp sr packet interface).settles hg
      · exact hg

theorem keeps_retryArpreq (now : Int) {req : Addr} (hreq : req ∈ g.live) (ip : UInt32)
    (iface : Name) : Keeps g (retryArpreq sr now req ip iface) :=
  (keeps_sendArpRequest sr ip iface).bind fun _ hlive _ => keeps_retried (hlive hreq) now

theorem settles_destroy {req : Addr} (hreq : req ∈ g.live) (hg : g.kept = none) :
    Settles g (Call.destroy req) := by
  refine ⟨.inl hreq, fun _ => ?_⟩
  dsimp only [memoryDiscipline]
  rw [if_neg (by simp [hg])]
  exact hg

end Programs

/-! ### Runs -/

/-- The memory holds the queue, and nothing else. -/
structure Memory.Holds (mem : Memory) (s : Store) : Prop where
  owns : mem.Owns s.requests []
  heap : mem.heap = s.heap

namespace Memory.Holds

variable {mem : Memory} {s : Store}

theorem tied (h : mem.Holds s) {live : List Addr} (hlive : ∀ a ∈ live, a ∈ s.addrs) :
    Tied { live := live, kept := none } s mem :=
  ⟨hlive, ⟨[], h.owns, rfl⟩, h.heap⟩

/-- A program that settles what it takes off. -/
theorem run (h : mem.Holds s) (live : List Addr) (hlive : ∀ a ∈ live, a ∈ s.addrs)
    {p : Program} (hp : Settles { live := live, kept := none } p) :
    ∃ mem', runMemory p (s, mem) = some ((), (p.run exec s).2, mem') ∧
      mem'.Holds (p.run exec s).2 := by
  obtain ⟨g', mem', hrun, htied, hnone⟩ := (h.tied hlive).run hp
  obtain ⟨kept, howns, hkept⟩ := htied.owns
  rw [hnone] at hkept
  obtain rfl : kept = [] := List.map_eq_nil_iff.mp hkept
  exact ⟨mem', hrun, howns, htied.heap⟩

theorem next_eq (h : mem.Holds s) {req : Addr} (hreq : req ∈ s.addrs) :
    ∃ c, mem.arpreqs req = some c ∧ c.next = s.next req := by
  obtain ⟨r, hr, rfl⟩ := List.mem_map.mp hreq
  obtain ⟨front, behind, hsplit⟩ := List.append_of_mem hr
  have hnodup := (h.owns.allocated h.heap).addr_nodup
  have hseg := h.owns.linked
  rw [hsplit, List.map_append, List.map_cons] at hnodup hseg
  have hnot : r.addr ∉ front.map SrArpreq.addr := fun hmem =>
    (List.nodup_append.mp hnodup).2.2 _ hmem _ List.mem_cons_self rfl
  have hnext : s.next r.addr = (behind.map SrArpreq.addr).head? :=
    SavedNext.follower_eq (by rw [hsplit, List.map_append, List.map_cons]) hnot
  refine ⟨_, hseg.next_eq, ?_⟩
  rw [hnext, List.head?_map, List.head?_map, Option.map_map]
  rfl

theorem head_eq (h : mem.Holds s) : mem.requests = s.requests.head?.map SrArpreq.addr := by
  rw [h.owns.linked.head_eq, List.head?_map, Option.map_map]
  rfl

theorem packets_eq (h : mem.Holds s) {r : SrArpreq} (hr : r ∈ s.requests)
    {front todo : List SrPacket} {pkt : SrPacket} (hpackets : r.packets = front ++ pkt :: todo) :
    mem.packets pkt.addr = some ⟨pkt.cell.2, todo.head?.map SrPacket.addr⟩ := by
  have hseg := h.owns.allocates.packets r (List.mem_append_left _ hr)
  rw [hpackets, List.map_append, List.map_cons] at hseg
  have hcell := hseg.next_eq
  rwa [List.head?_map, Option.map_map] at hcell

/-- **The packets of a request that is given up.** An error may put a packet on
any request, this one too, but only in front of those that are there: the ones
still to come stay where they are. -/
theorem reportPackets (h : mem.Holds s) (sr : Config) {r : SrArpreq} (hr : r ∈ s.requests)
    {front todo : List SrPacket} (hpackets : r.packets = front ++ todo) {fuel : Nat}
    (hfuel : todo.length ≤ fuel) :
    ∃ mem', reportPacketsMemory sr fuel (todo.head?.map SrPacket.addr) (s, mem) =
        some (((SrRouter.reportPackets sr todo).run exec s).2, mem') ∧
      mem'.Holds ((SrRouter.reportPackets sr todo).run exec s).2 := by
  induction todo generalizing r s mem front fuel with
  | nil => exact ⟨mem, by cases fuel <;> rfl, h⟩
  | cons pkt todo ih =>
      cases fuel with
      | zero => cases hfuel
      | succ fuel =>
          obtain ⟨mem₁, herror, hholds⟩ := h.run [] (fun _ ha => absurd ha List.not_mem_nil)
            ((keeps_srSendIcmpError sr (some pkt) pkt.buf 3 1).settles rfl)
          have halloc := h.owns.allocated h.heap
          have hswells := errored_swells halloc sr (some pkt) pkt.buf 3 1
          have hrun := run_srSendIcmpError sr (some pkt) pkt.buf 3 1 halloc
          rw [hrun] at herror hholds
          obtain ⟨r', hr', hgrown⟩ := hswells.exists_grown halloc hr
          obtain ⟨new, -, hnew⟩ := hgrown.packets
          rw [hpackets, ← List.append_assoc] at hnew
          have hnext := hholds.packets_eq hr' hnew
          rw [List.append_cons] at hnew
          obtain ⟨mem', hrest, hend⟩ := ih hholds hr' hnew (Nat.le_of_succ_le_succ hfuel)
          have hreport : ((SrRouter.reportPackets sr (pkt :: todo)).run exec s).2 =
              ((SrRouter.reportPackets sr todo).run exec
                (s.errored sr (some pkt) pkt.buf 3 1)).2 := by
            simp only [SrRouter.reportPackets, Prog.bind_def, Prog.run_bind, hrun]
          rw [hreport]
          refine ⟨mem', ?_, hend⟩
          rw [List.head?_cons, Option.map_some, reportPacketsMemory, h.packets_eq hr hpackets]
          show (runMemory (srSendIcmpError sr (some pkt) pkt.buf 3 1) (s, mem)).bind _ = _
          rw [herror, Option.bind_some]
          show (mem₁.packets pkt.addr).bind _ = _
          rw [hnext]
          exact hrest

theorem handleArpreq_giveUp (h : mem.Holds s) (sr : Config) {r : SrArpreq} (hr : r ∈ s.requests)
    {next : Option Addr} (hcell : mem.arpreqs r.addr = some ⟨r.cell.2, next⟩)
    (hexpired : r.Expired s.now) :
    ∃ mem', handleArpreqMemory sr s.now r.addr (s, mem) =
        some (SrRouter.srArpreqDestroy ((SrRouter.reportPackets sr r.packets).run exec s).2 r.addr,
          mem') ∧
      mem'.Holds
        (SrRouter.srArpreqDestroy ((SrRouter.reportPackets sr r.packets).run exec s).2 r.addr) := by
  have halloc := h.owns.allocated h.heap
  have hlength := h.owns.allocates.length_packets_le (List.mem_append_left [] hr)
  rw [List.length_map] at hlength
  obtain ⟨mem₁, hreport, hholds⟩ := h.reportPackets sr hr (List.nil_append _).symm hlength
  -- the record is still there to be destroyed
  obtain ⟨new, hnew, -⟩ := (reportPackets_swells halloc sr r.packets).addrs
  have hlive : ∀ a ∈ [r.addr], a ∈ ((SrRouter.reportPackets sr r.packets).run exec s).2.addrs :=
    List.forall_mem_singleton.mpr (hnew ▸ List.mem_append_right _ (List.mem_map_of_mem hr))
  obtain ⟨mem', hdestroy, hend⟩ := hholds.run [r.addr] hlive
    (settles_destroy List.mem_cons_self rfl)
  refine ⟨mem', ?_, hend⟩
  have hturn : handleArpreqMemory sr s.now r.addr (s, mem) =
      (reportPacketsMemory sr mem.heap r.packetsPtr (s, mem)).bind fun s =>
        (runMemory (Call.destroy r.addr) s).map Prod.snd := by
    rw [handleArpreqMemory, hcell]
    exact (if_pos hexpired.1).trans (if_pos hexpired.2)
  rw [hturn, SrArpreq.packetsPtr, hreport, Option.bind_some, hdestroy]
  rfl

theorem handleArpreq_retry (h : mem.Holds s) (sr : Config) {r : SrArpreq} (hr : r ∈ s.requests)
    {next : Option Addr} (hcell : mem.arpreqs r.addr = some ⟨r.cell.2, next⟩)
    (hdue : r.Due s.now) (hfew : ¬5 ≤ r.timesSent) {pkt : SrPacket} {packets : List SrPacket}
    (hpackets : r.packets = pkt :: packets) :
    ∃ mem', handleArpreqMemory sr s.now r.addr (s, mem) =
        some ((s.asked sr r.ip pkt.iface).retried r.addr s.now, mem') ∧
      mem'.Holds ((s.asked sr r.ip pkt.iface).retried r.addr s.now) := by
  have hlive : ∀ a ∈ [r.addr], a ∈ s.addrs :=
    List.forall_mem_singleton.mpr (List.mem_map_of_mem hr)
  obtain ⟨mem', hrun, hend⟩ := h.run [r.addr] hlive
    ((keeps_retryArpreq sr s.now List.mem_cons_self r.ip pkt.iface).settles rfl)
  rw [run_retryArpreq] at hrun hend
  refine ⟨mem', ?_, hend⟩
  have hptr : r.packetsPtr = some pkt.addr := by
    rw [SrArpreq.packetsPtr, hpackets]
    rfl
  have hsplit : r.packets = [] ++ pkt :: packets := hpackets
  have hfirst := h.packets_eq hr hsplit
  have hturn : handleArpreqMemory sr s.now r.addr (s, mem) =
      (mem.packets pkt.addr).bind fun p =>
        (runMemory (retryArpreq sr s.now r.addr r.ip p.value.iface) (s, mem)).map Prod.snd := by
    rw [handleArpreqMemory, hcell]
    refine (if_pos hdue).trans ((if_neg hfew).trans ?_)
    simp only [SrArpreq.cell, hptr]
  rw [hturn, hfirst]
  show (runMemory (retryArpreq sr s.now r.addr r.ip pkt.iface) (s, mem)).map _ = _
  rw [hrun]
  rfl

theorem handleArpreq (h : mem.Holds s) (sr : Config) {r : SrArpreq} (hr : r ∈ s.requests) :
    ∃ mem', handleArpreqMemory sr s.now r.addr (s, mem) = some (sweepTurn sr s.now r.addr s, mem') ∧
      mem'.Holds (sweepTurn sr s.now r.addr s) := by
  obtain ⟨next, hcell⟩ := h.owns.allocates.exists_cell (List.mem_append_left [] hr)
  rw [sweepTurn, run_handleArpreq sr (h.owns.allocated h.heap) hr]
  split
  · next hexpired => exact h.handleArpreq_giveUp sr hr hcell hexpired
  · next hkept =>
      split
      · next hdue =>
          have hfew : ¬5 ≤ r.timesSent := fun hmany => hkept ⟨hdue, hmany⟩
          cases hpackets : r.packets with
          | nil =>
              refine ⟨mem, ?_, h⟩
              rw [handleArpreqMemory, hcell]
              refine (if_pos hdue).trans ((if_neg hfew).trans ?_)
              simp only [SrArpreq.cell, SrArpreq.packetsPtr, hpackets, List.head?_nil,
                Option.map_none]
          | cons pkt packets => exact h.handleArpreq_retry sr hr hcell hdue hfew hpackets
      · next hfresh =>
          refine ⟨mem, ?_, h⟩
          rw [handleArpreqMemory, hcell]
          exact if_neg hfresh

/-- **The sweep.** Every pointer that the loop reads is to a request on the queue. -/
theorem sweepLoop (h : mem.Holds s) (sr : Config) {s₀ : Store} {pre todo : List SrArpreq}
    (hwalk : Walking s₀ pre todo s) {fuel fuel' : Nat} (hfuel : todo.length ≤ fuel)
    (hfuel' : todo.length ≤ fuel') :
    ∃ mem', sweepLoopMemory sr s₀.now fuel (todo.head?.map SrArpreq.addr) (s, mem) =
        some (SrRouter.sweepLoop sr s₀.now fuel' (todo.head?.map SrArpreq.addr) s, mem') ∧
      mem'.Holds (SrRouter.sweepLoop sr s₀.now fuel' (todo.head?.map SrArpreq.addr) s) := by
  induction todo generalizing pre s mem fuel fuel' with
  | nil => exact ⟨mem, by cases fuel <;> cases fuel' <;> rfl, by cases fuel' <;> exact h⟩
  | cons r todo ih =>
      cases fuel with
      | zero => cases hfuel
      | succ fuel =>
          cases fuel' with
          | zero => cases hfuel'
          | succ fuel' =>
              have hlive := hwalk.addrs.mem_addrs List.mem_cons_self
              obtain ⟨c, hcell, hnext⟩ := h.next_eq hlive
              rw [hwalk.addrs.next_eq hwalk.allocated] at hnext
              obtain ⟨q, hq, haddr⟩ := List.mem_map.mp hlive
              obtain ⟨mem₁, hturn, hholds⟩ := h.handleArpreq sr hq
              rw [haddr, hwalk.now] at hturn hholds
              obtain ⟨mem', hrest, hend⟩ := ih hholds (hwalk.visit sr)
                (Nat.le_of_succ_le_succ hfuel) (Nat.le_of_succ_le_succ hfuel')
              rw [List.head?_cons, Option.map_some, sweepLoopMemory, sweepLoop_eq,
                SavedNext.loop, hcell, hwalk.addrs.next_eq hwalk.allocated]
              refine ⟨mem', ?_, hend⟩
              rw [Option.bind_some, hturn, Option.bind_some, hnext]
              exact hrest

end Memory.Holds

theorem stepMemory_eq {sr : SrInstance} {mem : Memory} (h : mem.Holds sr.store) (a : Action) :
    ∃ mem', stepMemory (sr, mem) a = some (sr.step a, mem') ∧ mem'.Holds (sr.step a).store := by
  cases a with
  | recv now packet interface =>
      have hnow : mem.Holds (sr.store.setNow now) := ⟨h.owns, h.heap⟩
      obtain ⟨mem', hrun, hholds⟩ := hnow.run [] (fun _ ha => absurd ha List.not_mem_nil)
        (settles_srHandlepacket sr.config packet interface rfl)
      exact ⟨mem', by rw [stepMemory, hrun]; rfl, hholds⟩
  | timer now =>
      let store := sr.store.setNow now
      let store := { store with cache := srArpcacheExpire store.cache store.now }
      have hexpired : mem.Holds store := ⟨h.owns, h.heap⟩
      have halloc := hexpired.owns.allocated hexpired.heap
      have hfuel : store.requests.length ≤ mem.heap := by
        have hle := hexpired.owns.length_cells_le
        rwa [List.length_map] at hle
      obtain ⟨mem', hrun, hholds⟩ := hexpired.sweepLoop sr.config (Walking.start halloc) hfuel
        (Nat.le_refl _)
      refine ⟨mem', ?_, hholds⟩
      rw [stepMemory]
      show (sweepLoopMemory sr.config now mem.heap mem.requests (store, mem)).map _ = _
      rw [hexpired.head_eq]
      exact congrArg (Option.map _) hrun
  | hwinfo mac entries =>
      refine ⟨mem, rfl, ?_⟩
      rw [SrInstance.step]
      split
      · exact h
      · exact h

theorem runMemorySteps_eq {sr : SrInstance} {mem : Memory} (h : mem.Holds sr.store)
    (actions : List Action) :
    ∃ mem', runMemorySteps (sr, mem) actions = some (sr.run actions, mem') ∧
      mem'.Holds (sr.run actions).store := by
  induction actions generalizing sr mem with
  | nil => exact ⟨mem, rfl, h⟩
  | cons a actions ih =>
      obtain ⟨mem₁, hstep, hholds⟩ := stepMemory_eq h a
      obtain ⟨mem', hrun, hend⟩ := ih hholds
      exact ⟨mem', by rw [runMemorySteps, hstep]; exact hrun, hend⟩

namespace Memory.Holds

variable {mem : Memory} {s : Store}

theorem read_eq (h : mem.Holds s) {r : SrArpreq} (hr : r ∈ s.requests) :
    mem.read r.addr = some r :=
  h.owns.allocates.read_eq (List.mem_append_left _ hr)

theorem arpreqs_ne_none_iff (h : mem.Holds s) (a : Addr) :
    mem.arpreqs a ≠ none ↔ ∃ r ∈ s.requests, r.addr = a := by
  have halloc := h.owns.allocates
  rw [List.append_nil] at halloc
  constructor
  · exact fun ha => List.mem_map.mp (halloc.arpreqs_only a ha)
  · rintro ⟨r, hr, rfl⟩
    obtain ⟨next, hcell⟩ := halloc.exists_cell hr
    exact hcell ▸ Option.some_ne_none _

theorem packets_ne_none_iff (h : mem.Holds s) (a : Addr) :
    mem.packets a ≠ none ↔ ∃ r ∈ s.requests, ∃ p ∈ r.packets, p.addr = a := by
  have halloc := h.owns.allocates
  rw [List.append_nil] at halloc
  constructor
  · intro ha
    obtain ⟨r, hr, hmem⟩ := List.mem_flatMap.mp (halloc.packets_only a ha)
    exact ⟨r, hr, List.mem_map.mp hmem⟩
  · rintro ⟨r, hr, p, hp, rfl⟩
    obtain ⟨next, hcell⟩ := (halloc.packets r hr).exists_next (List.mem_map_of_mem hp)
    have hcell' : mem.packets p.addr = some ⟨p.cell.2, next⟩ := hcell
    exact hcell' ▸ Option.some_ne_none _

end Memory.Holds

theorem holds_init (config : Config) (now : Int) :
    Memory.init.Holds (SrInstance.init config now).store := ⟨Memory.owns_init, rfl⟩

/-- **No leak, no double free, no dangling pointer.** In every run, frame by
frame and pass by pass, the router goes through the pointers of its queue to
records that are allocated, and frees none twice. It does what it does on the
list, and in the end the records that are allocated are those of the requests
on the queue and of their packets. -/
theorem runMemorySteps_init (config : Config) (now : Int) (actions : List Action) :
    ∃ mem, runMemorySteps (.init config now, .init) actions =
        some ((SrInstance.init config now).run actions, mem) ∧
      (∀ r ∈ ((SrInstance.init config now).run actions).requests, mem.read r.addr = some r) ∧
      (∀ a, mem.arpreqs a ≠ none ↔
        ∃ r ∈ ((SrInstance.init config now).run actions).requests, r.addr = a) ∧
      ∀ a, mem.packets a ≠ none ↔
        ∃ r ∈ ((SrInstance.init config now).run actions).requests, ∃ p ∈ r.packets, p.addr = a := by
  obtain ⟨mem, hrun, hholds⟩ := runMemorySteps_eq (holds_init config now) actions
  exact ⟨mem, hrun, fun _ => hholds.read_eq, hholds.arpreqs_ne_none_iff,
    hholds.packets_ne_none_iff⟩

end SrRouter
