import SrRouter.Lib.Interactive
import SrRouter.Interfaces

/-!
The ARP cache and its request queue (`sr_arpcache.c`), with the operations
that take its lock.

The records that `malloc` hands out carry their address: the source compares
and keeps pointers to requests, so two requests for one IP at different
times must stay apart. The requests are the list that `cache->requests`
links, and a write through a pointer is an update of the one record at that
address. `heap` is the next address to be handed out, and no address is
handed out twice, so a dangling pointer stays recognisable.

`log` is the history of the run. It is never read by the code; it collects
what is observable (`sendPacket`) and the moments at which packets and
requests change hands, each with the clock value at which it happened.
Likewise the `origin` of a queued packet is a mark that no branch reads.
-/

namespace SrRouter

open ByteBuffer CString Interactive

def srArpcacheSz : Nat := 100
def srArpcacheTo : Int := 15

/-- The address of a heap record. -/
abbrev Addr := Nat

/-- Who built a packet that `sr_send_routed_ip_packet` is given: it was
received and is forwarded, or it is an ICMP error of this router. -/
inductive Origin | received | icmpError
  deriving DecidableEq

/-- `struct sr_packet`; the length field is the length of `buf`. -/
structure SrPacket where
  addr : Addr
  origin : Origin
  buf : Frame
  iface : Name
  deriving DecidableEq

structure SrArpentry where
  mac : Mac
  ip : UInt32
  added : Int
  valid : Bool
  deriving DecidableEq

structure SrArpreq where
  addr : Addr
  ip : UInt32
  sent : Int
  timesSent : Nat
  packets : List SrPacket
  deriving DecidableEq

/-- `struct sr_arpcache`, an array of `SR_ARPCACHE_SZ` entries and the list
of requests. -/
structure SrArpcache where
  entries : List SrArpentry
  length_entries : entries.length = srArpcacheSz
  requests : List SrArpreq

/-! ### The history -/

/-- Why a frame is handed to `sr_send_packet`. A packet flushed from the
queue is named by its address, with the mapping that releases it. -/
inductive Cause
  | arpReply
  | arpRequest
  | echoReply
  | routed (origin : Origin)
  | flush (pkt : SrPacket) (ip : UInt32) (mac : Mac)
  deriving DecidableEq

inductive Event
  /-- `sr_send_packet` was called and returned `ret`. -/
  | sendPacket (cause : Cause) (iface : Name) (frame : Frame) (ret : Int)
  /-- `sr_send_icmp_error` was called; `pkt` is the queued packet it is about,
  if it is about one. -/
  | icmpError (pkt : Option SrPacket) (type code : UInt8) (packet : Frame)
  /-- That call built an error message. -/
  | icmpReply (type code : UInt8) (packet reply : Frame)
  /-- A request record was allocated and linked. -/
  | created (req : Addr) (ip : UInt32)
  /-- A packet was put on the request record `req` for `ip`. -/
  | queued (req : Addr) (ip : UInt32) (pkt : SrPacket)
  /-- A mapping was inserted; `req` is the request it unlinked. -/
  | learned (mac : Mac) (ip : UInt32) (req : Option SrArpreq)
  /-- A request was destroyed while it was on the queue. -/
  | destroyed (req : SrArpreq)
  deriving DecidableEq

/-! ### The state the threads share -/

structure Store where
  cache : SrArpcache
  heap : Addr
  now : Int
  log : List (Int × Event)

def Store.trace (s : Store) (e : Event) : Store := { s with log := s.log ++ [(s.now, e)] }

def Store.requests (s : Store) : List SrArpreq := s.cache.requests

def Store.setRequests (s : Store) (requests : List SrArpreq) : Store :=
  { s with cache := { s.cache with requests := requests } }

def Store.update (s : Store) (req : Addr) (f : SrArpreq → SrArpreq) : Store :=
  s.setRequests (s.requests.map fun r => if r.addr = req then f r else r)

/-- The record that the pointer `req` refers to, while it is on the queue. -/
def Store.deref (s : Store) (req : Addr) : Option SrArpreq :=
  s.requests.find? fun r => r.addr == req

/-! ### The cache entries -/

def clearedEntry : SrArpentry := { mac := zeroMac, ip := 0, added := 0, valid := false }

def srArpcacheInit : SrArpcache :=
  { entries := List.replicate srArpcacheSz clearedEntry
    length_entries := List.length_replicate
    requests := [] }

/-- The loop of `sr_arpcache_lookup`: the last valid entry for `ip`. -/
def lookupEntries (ip : UInt32) (entries : List SrArpentry) : Option SrArpentry :=
  entries.foldl (fun entry e => if e.valid && e.ip == ip then some e else entry) none

def srArpcacheLookup (cache : SrArpcache) (ip : UInt32) : Option SrArpentry :=
  lookupEntries ip cache.entries

/-- The loop of `sr_arpcache_insert` that finds a slot: it stops at a valid
entry for `ip` and otherwise ends with the first slot that is free. -/
def findSlot (ip : UInt32) : List SrArpentry → Nat → Option Nat → Option Nat
  | [], _, slot => slot
  | e :: entries, i, slot =>
    if e.valid && e.ip == ip then some i
    else findSlot ip entries (i + 1) (if slot.isNone && !e.valid then some i else slot)

/-- The second half of `sr_arpcache_insert`, on the entries. -/
def insertEntry (now : Int) (mac : Mac) (ip : UInt32) (entries : List SrArpentry) :
    List SrArpentry :=
  match findSlot ip entries 0 none with
  | none => entries
  | some slot => entries.set slot { mac := mac, ip := ip, added := now, valid := true }

/-- The first half of `sr_arpcache_timeout`, on the entries. -/
def expireEntries (curtime : Int) (entries : List SrArpentry) : List SrArpentry :=
  entries.map fun e =>
    if e.valid && decide (curtime - e.added > srArpcacheTo) then { e with valid := false } else e

theorem length_insertEntry (now : Int) (mac : Mac) (ip : UInt32) (entries : List SrArpentry) :
    (insertEntry now mac ip entries).length = entries.length := by
  unfold insertEntry
  split <;> simp

theorem length_expireEntries (curtime : Int) (entries : List SrArpentry) :
    (expireEntries curtime entries).length = entries.length := by
  simp [expireEntries]

/-! ### The operations -/

/-- `sr_arpcache_insert`: unlink the request for `ip` and store the mapping. -/
def srArpcacheInsert (cache : SrArpcache) (now : Int) (mac : Mac) (ip : UInt32) :
    Option SrArpreq × SrArpcache :=
  (cache.requests.find? fun r => r.ip == ip,
    { entries := insertEntry now mac ip cache.entries
      length_entries := by rw [length_insertEntry, cache.length_entries]
      requests := cache.requests.eraseP fun r => r.ip == ip })

/-- The first half of `sr_arpcache_timeout`. -/
def srArpcacheExpire (cache : SrArpcache) (curtime : Int) : SrArpcache :=
  { entries := expireEntries curtime cache.entries
    length_entries := by rw [length_expireEntries, cache.length_entries]
    requests := cache.requests }

/-- Link a new request record for `ip` at the head of the queue. -/
def Store.newRequest (s : Store) (ip : UInt32) : Store :=
  { s.setRequests ({ addr := s.heap, ip := ip, sent := 0, timesSent := 0, packets := [] } ::
      s.requests) with heap := s.heap + 1 }.trace (.created s.heap ip)

/-- Put a packet at the head of the packets of the record at `req`. -/
def Store.linkPacket (s : Store) (req : Addr) (ip : UInt32) (origin : Origin) (buf : Frame)
    (iface : Name) : Store :=
  let pkt : SrPacket := { addr := s.heap, origin := origin, buf := buf,
                          iface := strncpy srIfaceNamelen iface }
  { s.update req (fun r => { r with packets := pkt :: r.packets }) with
    heap := s.heap + 1 }.trace (.queued req ip pkt)

/-- `sr_arpcache_queuereq`; every caller passes a packet and an interface. -/
def srArpcacheQueuereq (s : Store) (ip : UInt32) (origin : Origin) (buf : Frame)
    (iface : Name) : Addr × Store :=
  match s.requests.find? fun r => r.ip == ip with
  | some req => (req.addr, s.linkPacket req.addr ip origin buf iface)
  | none => (s.heap, (s.newRequest ip).linkPacket s.heap ip origin buf iface)

def srArpreqDestroy (s : Store) (req : Addr) : Store :=
  match s.deref req with
  | none => s
  | some r => (s.setRequests (s.requests.eraseP fun r => r.addr == req)).trace (.destroyed r)

/-! ### The operations as a signature

What a thread does to the shared state, one call at a time: the operations
that take the lock, the accesses through a pointer to a request, the clock,
and the entries of the history. -/

inductive Op
  | lookup (ip : UInt32)
  | queuereq (ip : UInt32) (origin : Origin) (buf : Frame) (iface : Name)
  | insert (mac : Mac) (ip : UInt32)
  | destroy (req : Addr)
  | readRequest (req : Addr)
  | writeSent (req : Addr) (sent : Int)
  | incTimesSent (req : Addr)
  | time
  | trace (e : Event)

/-- The answer of an operation. A request is read through its pointer as a
whole record; a pointer that dangles gives an arbitrary one. -/
abbrev Res : Op → Type
  | .lookup _ => Option SrArpentry
  | .queuereq .. => Addr
  | .insert .. => Option SrArpreq
  | .readRequest _ => SrArpreq
  | .time => Int
  | _ => Unit

/-- The pointer that an operation dereferences. -/
def Op.derefs : Op → Option Addr
  | .readRequest req => some req
  | .writeSent req _ => some req
  | .incTimesSent req => some req
  | _ => none

def danglingRequest (req : Addr) : SrArpreq :=
  { addr := req, ip := 0, sent := 0, timesSent := 0, packets := [] }

def exec : (o : Op) → Store → Res o × Store
  | .lookup ip, s => (srArpcacheLookup s.cache ip, s)
  | .queuereq ip origin buf iface, s => srArpcacheQueuereq s ip origin buf iface
  | .insert mac ip, s =>
    let r := srArpcacheInsert s.cache s.now mac ip
    (r.1, { s with cache := r.2 }.trace (.learned mac ip r.1))
  | .destroy req, s => ((), srArpreqDestroy s req)
  | .readRequest req, s => ((s.deref req).getD (danglingRequest req), s)
  | .writeSent req sent, s => ((), s.update req fun r => { r with sent := sent })
  | .incTimesSent req, s => ((), s.update req fun r => { r with timesSent := r.timesSent + 1 })
  | .time, s => (s.now, s)
  | .trace e, s => ((), s.trace e)

/-! The calls as programs, one for each operation. -/

namespace Call

abbrev lookup (ip : UInt32) : Prog Res (Option SrArpentry) := @Prog.perform Op Res (.lookup ip)

abbrev queuereq (ip : UInt32) (origin : Origin) (buf : Frame) (iface : Name) : Prog Res Addr :=
  @Prog.perform Op Res (.queuereq ip origin buf iface)

abbrev insert (mac : Mac) (ip : UInt32) : Prog Res (Option SrArpreq) :=
  @Prog.perform Op Res (.insert mac ip)

abbrev destroy (req : Addr) : Prog Res Unit := @Prog.perform Op Res (.destroy req)

abbrev readRequest (req : Addr) : Prog Res SrArpreq := @Prog.perform Op Res (.readRequest req)

abbrev writeSent (req : Addr) (sent : Int) : Prog Res Unit :=
  @Prog.perform Op Res (.writeSent req sent)

abbrev incTimesSent (req : Addr) : Prog Res Unit := @Prog.perform Op Res (.incTimesSent req)

abbrev time : Prog Res Int := @Prog.perform Op Res .time

abbrev trace (e : Event) : Prog Res Unit := @Prog.perform Op Res (.trace e)

end Call

end SrRouter
