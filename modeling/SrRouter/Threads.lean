import SrRouter.Sweep

/-!
The two threads of the router.

The thread that processes packets handles one frame after another, each as
the program `srHandlepacket` with its operations taken one at a time. The
timer thread holds the lock for a whole pass, so a pass is one step of the
environment, and it can fall between any two operations of a frame.

Between its operations the packet thread knows two things about the shared
state: after a lookup that found nothing, the address that is missing; and
after `sr_arpcache_queuereq`, the pointer that it returned. `ThreadState`
keeps them, and `packetDiscipline` says how every program of the thread uses
them: a request is only queued for an address that was just found missing,
and only the pointer that was returned is ever dereferenced.
-/

namespace SrRouter

open ByteBuffer Interactive

/-! ### The interleaving -/

/-- What happens around the packet thread while `p` is what is left of its
frame. `allowed` says which passes of the timer thread may fall there. -/
inductive Surroundings (allowed : Program → SrInstance → Int → Prop) :
    Program → SrInstance → SrInstance → Prop
  | timer {p : Program} {sr : SrInstance} (now : Int) (h : allowed p sr now) :
      Surroundings allowed p sr (sr.step (.timer now))
  | clock {p : Program} {sr : SrInstance} (now : Int) :
      Surroundings allowed p sr { sr with store := sr.store.setNow now }
  /-- VNSHWINFO messages are handled by the packet thread itself. -/
  | hwinfo {sr : SrInstance} (mem : Nat → Mac × UInt32) (entries : List HwEntry) :
      Surroundings allowed (.pure ()) sr (sr.step (.hwinfo mem entries))

/-- The operation goes through a pointer to a record that is not on the
queue. -/
def Op.Dangles (o : Op) (sr : SrInstance) : Prop := ∃ a ∈ o.derefs, a ∉ sr.store.addrs

instance (o : Op) (sr : SrInstance) : Decidable (o.Dangles sr) :=
  inferInstanceAs (Decidable (∃ a ∈ o.derefs, a ∉ sr.store.addrs))

/-- The packet thread among the passes of the timer thread that are allowed. -/
def threads (allowed : Program → SrInstance → Int → Prop) : World Res SrInstance where
  exec := fun o sr => ((exec o sr.store).1, { sr with store := (exec o sr.store).2 })
  dangles := Op.Dangles
  env := Surroundings allowed
  start := fun sr p => ∃ packet interface, p = srHandlepacket sr.config packet interface

def anyPass : Program → SrInstance → Int → Prop := fun _ _ _ => True

/-- The router when `sr_init` is done and no frame has arrived. -/
def atInit (config : Config) (now : Int) : Conf Res SrInstance :=
  ⟨.pure (), SrInstance.init config now⟩

/-! ### Schedules

Runs that are given choice by choice. -/

inductive Choice
  /-- The packet thread performs its next operation. -/
  | thread
  /-- The timer thread makes a pass. -/
  | timer (now : Int)
  /-- A frame arrives. -/
  | frame (packet : Frame) (interface : Name)

/-- The thread does not move when it is done or its operation dangles, and
takes no frame while it handles one. -/
def Choice.take (c : Conf Res SrInstance) : Choice → Conf Res SrInstance
  | .thread =>
    match c.prog with
    | .pure _ => c
    | .call o next =>
      if o.Dangles c.state then c
      else ⟨next (exec o c.state.store).1,
        { c.state with store := (exec o c.state.store).2 }⟩
  | .timer now => ⟨c.prog, c.state.step (.timer now)⟩
  | .frame packet interface =>
    match c.prog with
    | .pure _ => ⟨srHandlepacket c.state.config packet interface, c.state⟩
    | .call .. => c

def schedule (choices : List Choice) (c : Conf Res SrInstance) : Conf Res SrInstance :=
  choices.foldl Choice.take c

theorem reaches_take {allowed : Program → SrInstance → Int → Prop} (c : Conf Res SrInstance)
    (choice : Choice) (h : ∀ now, choice = .timer now → allowed c.prog c.state now) :
    Interleaved.Reaches (threads allowed) c (choice.take c) := by
  obtain ⟨p, sr⟩ := c
  cases choice with
  | thread =>
      cases p with
      | pure => exact .refl
      | call o next =>
          simp only [Choice.take]
          split
          · exact .refl
          · next hlive => exact .single (.thread hlive)
  | timer now => exact .single (.env (.timer now (h now rfl)))
  | frame packet interface =>
      cases p with
      | pure => exact .single (.start ⟨packet, interface, rfl⟩)
      | call => exact .refl

/-- Every schedule is a run of the threads. -/
theorem reaches_schedule (choices : List Choice) (c : Conf Res SrInstance) :
    Interleaved.Reaches (threads anyPass) c (schedule choices c) := by
  induction choices generalizing c with
  | nil => exact .refl
  | cons choice choices ih => exact (reaches_take c choice fun _ _ => trivial).trans (ih _)

/-! ### What the packet thread holds -/

/-- What the thread knows from its last operations. -/
inductive ThreadState
  | free
  | missed (ip : UInt32)
  /-- `sr_arpcache_queuereq` returned `req`. -/
  | returned (req : Addr)
  /-- The request is sent for the first time through `req`. -/
  | sending (req : Addr)

/-- How the programs of the thread use the operations. `P` is a condition on
the ICMP errors that they build. -/
def packetDiscipline (P : UInt8 → UInt8 → Frame → Prop) : Discipline Res ThreadState where
  guard
    | _, .trace (.icmpReply type code packet _) => P type code packet
    | _, .trace _ => True
    | _, .time => True
    | .free, .lookup _ => True
    | .free, .insert .. => True
    | .free, .destroy _ => True
    | .missed ip, .queuereq ip' .. => ip' = ip
    | .returned req, .readRequest req' => req' = req
    | .sending req, .readRequest req' => req' = req
    | .sending req, .writeSent req' _ => req' = req
    | .sending req, .incTimesSent req' => req' = req
    | _, _ => False
  next
    | .free, .lookup ip, none => .missed ip
    | .missed _, .queuereq .., req => .returned req
    | .returned req, .readRequest _, r => if r.timesSent = 0 then .sending req else .free
    | .sending _, .incTimesSent _, _ => .free
    | g, _, _ => g

/-- The program can be run by the thread from `g`, and lets go of everything. -/
abbrev Uses (P : UInt8 → UInt8 → Frame → Prop) (g : ThreadState) (p : Program) : Prop :=
  p.Obeys (packetDiscipline P) (fun g _ => g = .free) g

section Uses

variable {P : UInt8 → UInt8 → Frame → Prop} (sr : Config)

theorem uses_done : Uses P .free (.pure ()) := rfl

theorem uses_srSendPacket (cause : Cause) (buf : Frame) (iface : Name) :
    Uses P .free (srSendPacket sr cause buf iface) := ⟨trivial, fun _ => rfl⟩

theorem uses_firstSend (outIface : SrIf) (req : Addr) :
    Uses P (.returned req) (do
      if (← Call.readRequest req).timesSent = 0 then
        let ip := (← Call.readRequest req).ip
        srSendArpRequest sr ip outIface.name
        let now ← Call.time
        Call.writeSent req now
        Call.incTimesSent req : Program) := by
  refine ⟨rfl, fun r => ?_⟩
  simp only [packetDiscipline, Prog.pure_bind]
  by_cases hzero : r.timesSent = 0
  · rw [if_pos hzero, if_pos hzero]
    refine ⟨rfl, fun r => ?_⟩
    unfold srSendArpRequest sendArpRequest
    simp only [Prog.pure_bind]
    cases srGetInterface sr.ifList outIface.name with
    | none => exact ⟨trivial, fun _ => ⟨rfl, fun _ => ⟨rfl, fun _ => rfl⟩⟩⟩
    | some _ => exact ⟨trivial, fun _ => ⟨trivial, fun _ => ⟨rfl, fun _ => ⟨rfl, fun _ => rfl⟩⟩⟩⟩
  · rw [if_neg hzero, if_neg hzero]
    rfl

theorem uses_srSendRoutedIpPacket (origin : Origin) (packet : Frame) :
    Uses P .free (srSendRoutedIpPacket sr origin packet) := by
  unfold srSendRoutedIpPacket
  cases srFindLpmRoute sr.routingTable (ipDst packet) with
  | none => exact uses_done
  | some route =>
      simp only
      cases srGetInterface sr.ifList route.interface with
      | none => exact uses_done
      | some outIface =>
          refine ⟨trivial, fun entry => ?_⟩
          cases entry with
          | some entry => exact uses_srSendPacket sr ..
          | none => exact ⟨rfl, fun req => uses_firstSend sr outIface req⟩

theorem uses_srSendIcmpError (pkt : Option SrPacket) (packet : Frame) (type code : UInt8)
    (h : srValidIpPacket packet = true → P type code packet) :
    Uses P .free (srSendIcmpError sr pkt packet type code) := by
  refine ⟨trivial, fun _ => ?_⟩
  simp only [validIpPacketInPlace_eq, Prog.pure_bind]
  cases hvalid : srValidIpPacket packet with
  | false => exact uses_done
  | true =>
      simp only [Bool.not_true, Bool.false_eq_true, if_false]
      cases srFindIcmpSourceIface sr packet (ipSrc packet) with
      | none => exact uses_done
      | some outIface => exact ⟨h hvalid, fun _ => uses_srSendRoutedIpPacket sr ..⟩

theorem uses_srHandleIp {packet : Frame} (interface : Name)
    (hport : srIsRouterIp sr.ifList (ipDst packet) = true →
      (ipP packet = ipProtocolTcp ∨ ipP packet = ipProtocolUdp) → P 3 3 packet)
    (htime : srIsRouterIp sr.ifList (ipDst packet) = false → ipTtl packet ≤ 1 → P 11 0 packet)
    (hroute : srIsRouterIp sr.ifList (ipDst packet) = false → 1 < ipTtl packet →
      srFindLpmRoute sr.routingTable (ipDst packet) = none → P 3 0 (decrementTtl packet)) :
    Uses P .free (srHandleIp sr packet interface) := by
  unfold srHandleIp
  simp only [validIpPacketInPlace_eq, icmpSumInPlace_eq]
  cases srValidIpPacket packet with
  | false => exact uses_done
  | true =>
      simp only [Bool.not_true, Bool.false_eq_true, if_false]
      cases hdst : srIsRouterIp sr.ifList (ipDst packet) with
      | true =>
          simp only [if_true]
          split
          · split
            · unfold srSendIcmpEchoReply
              cases srGetInterface sr.ifList interface with
              | none => exact uses_done
              | some outIface => exact uses_srSendPacket sr ..
            · exact uses_done
          · split
            · next hproto => exact uses_srSendIcmpError sr _ _ _ _ fun _ => hport hdst hproto
            · exact uses_done
      | false =>
          simp only [Bool.false_eq_true, if_false]
          split
          · next httl => exact uses_srSendIcmpError sr _ _ _ _ fun _ => htime hdst httl
          · next httl =>
            unfold srForwardIpPacket
            split
            · next hnone =>
              refine uses_srSendIcmpError sr _ _ _ _ fun _ =>
                hroute hdst (UInt8.not_le.mp httl) ?_
              simpa [ipDst_decrementTtl] using hnone
            · exact uses_srSendRoutedIpPacket sr ..

theorem uses_flushPackets (ip : UInt32) (mac : Mac) (packets : List SrPacket) :
    Uses P .free (flushPackets sr ip mac packets) := by
  induction packets with
  | nil => exact uses_done
  | cons pkt packets ih =>
      unfold flushPackets
      cases srGetInterface sr.ifList pkt.iface with
      | none => exact ih
      | some outIface => exact ⟨trivial, fun _ => ih⟩

theorem uses_srCacheArpMapping (packet : Frame) :
    Uses P .free (srCacheArpMapping sr packet) := by
  refine ⟨trivial, fun req => ?_⟩
  cases req with
  | none => exact uses_done
  | some req =>
      refine (uses_flushPackets sr (arSip packet) (arSha packet) req.packets).bind ?_
      rintro g a rfl
      exact ⟨trivial, fun _ => rfl⟩

theorem uses_srHandleArp (packet : Frame) (interface : Name) :
    Uses P .free (srHandleArp sr packet interface) := by
  unfold srHandleArp
  split
  · exact uses_done
  · cases srGetInterface sr.ifList interface with
    | none => exact uses_done
    | some recvIface =>
        simp only
        split
        · exact uses_done
        · split
          · refine (uses_srCacheArpMapping sr packet).bind ?_
            rintro g a rfl
            split
            · unfold srSendArpReply
              cases srGetInterface sr.ifList interface with
              | none => exact uses_done
              | some outIface => exact uses_srSendPacket sr ..
            · exact uses_done
          · split
            · split
              · exact uses_done
              · exact uses_srCacheArpMapping sr packet
            · exact uses_done

/-- **How a frame is handled.** The only conditions are those under which the
four errors of `sr_handle_ip` and `sr_forward_ip_packet` are built. -/
theorem uses_srHandlepacket {packet : Frame} (interface : Name)
    (hport : srIsRouterIp sr.ifList (ipDst packet) = true →
      (ipP packet = ipProtocolTcp ∨ ipP packet = ipProtocolUdp) → P 3 3 packet)
    (htime : srIsRouterIp sr.ifList (ipDst packet) = false → ipTtl packet ≤ 1 → P 11 0 packet)
    (hroute : srIsRouterIp sr.ifList (ipDst packet) = false → 1 < ipTtl packet →
      srFindLpmRoute sr.routingTable (ipDst packet) = none → P 3 0 (decrementTtl packet)) :
    Uses P .free (srHandlepacket sr packet interface) := by
  unfold srHandlepacket
  split
  · exact uses_done
  · split
    · exact uses_srHandleArp sr packet interface
    · split
      · exact uses_srHandleIp sr interface hport htime hroute
      · exact uses_done

end Uses

end SrRouter
