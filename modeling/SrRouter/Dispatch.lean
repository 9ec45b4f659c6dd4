import SrRouter.Comm
import SrRouter.Forwarding

/-!
What the dispatcher does with a message of the server (`sr_vns_comm.c`), and
sessions of such messages.

A dispatched message has no result if an assertion fails on the way, which
ends the process. The assertions that are modelled are those about the
interface list; the others say that the arguments are not null, which every
caller sees to, and that `malloc` succeeded.

A session is what the router goes through: messages that are dispatched one
after the other, and passes of the timer thread in between.
-/

namespace SrRouter

open ByteBuffer CString Interactive

/-- `sr_verify_routing_table`: the number of routes whose interface does not
exist. -/
def srVerifyRoutingTable (sr : Config) : Nat :=
  if sr.ifList = [] ∨ sr.routingTable = [] then 999
  else sr.routingTable.countP fun rt =>
    !sr.ifList.any fun i => strncmp srIfaceNamelen i.name rt.interface == 0

/-- What dispatching depends on beside the message and the router: the clock,
the memory that `malloc` finds, whether the file of a routing table can be
opened, and whether the reply to an authentication request goes out. -/
structure Circumstances where
  now : Int
  mem : Nat → Mac × UInt32
  rtableFile : Bool
  authReply : Bool

def someCircumstances : Circumstances where
  now := 0
  mem := fun _ => (zeroMac, 0)
  rtableFile := false
  authReply := false

namespace Message

def hwEntries (msg : Message) : List HwEntry :=
  (List.range msg.numEntries.toInt.toNat).map msg.hwEntry

/-- The case of a VNSPACKET, with what is done with the packet. -/
def dispatchPacket {σ : Type} (msg : Message) (ifList : List SrIf) (srHandlepacket : σ → σ)
    (s : σ) : Option (Int × σ) :=
  match (msg.srArpReqNotForUs ifList).1 with
  | none => none
  -- an ARP request for somebody else
  | some true => some (1, s)
  | some false => some (1, srHandlepacket s)

/-- The `switch` of `sr_read_from_server_expect`: the value returned and the
router it leaves, unless an assertion fails. -/
def dispatch (msg : Message) (c : Circumstances) (sr : SrInstance) : Option (Int × SrInstance) :=
  if msg.command = vnsPacket then
    msg.dispatchPacket sr.config.ifList
      (fun sr => sr.step (.recv c.now msg.frame (msg.string 8))) sr
  else if msg.command = vnsClose then some (0, sr)
  else if msg.command = vnsBanner then some (1, sr)
  else if msg.command = vnsHwinfo then
    match srHandleHwinfo c.mem msg.hwEntries sr.config.ifList with
    | none => none
    | some ifList =>
      let sr := { sr with config := { sr.config with ifList := ifList } }
      -- the interfaces stay, whether or not the routes agree with them
      some (if srVerifyRoutingTable sr.config ≠ 0 then -1 else 1, sr)
  else if msg.command = vnsRtable then some (if c.rtableFile then 1 else -1, sr)
  else if msg.command = vnsAuthRequest then some (if c.authReply then 1 else -1, sr)
  else if msg.command = vnsAuthStatus then some (if load8 msg.bytes 8 = 0 then -1 else 1, sr)
  else some (1, sr)

/-- The message is as long as the fixed part of what it is read as. -/
def Complete (msg : Message) : Prop :=
  8 ≤ msg.len ∧ (msg.command = vnsPacket → sizeofCPacketHeader ≤ msg.len)

def ForUnknown (msg : Message) (ifList : List SrIf) : Prop :=
  msg.command = vnsPacket ∧ srGetInterface ifList (msg.string 8) = none

end Message

/-! ### Sessions -/

inductive Input
  /-- A complete message is dispatched. -/
  | message (c : Circumstances) (msg : Message) (complete : msg.Complete)
  /-- The timer thread takes the lock. -/
  | timer (now : Int)

/-- Whenever a message is dispatched in the course of the session, the property
holds of it and of the router at that moment. -/
def Along (P : SrInstance → Circumstances → Message → Prop) : SrInstance → List Input → Prop
  | _, [] => True
  | sr, .timer now :: inputs => Along P (sr.step (.timer now)) inputs
  | sr, .message c msg _ :: inputs =>
    P sr c msg ∧ ∀ ret sr', msg.dispatch c sr = some (ret, sr') → Along P sr' inputs

theorem SrInstance.Reachable.step {sr : SrInstance} (h : sr.Reachable) (a : Action) :
    (sr.step a).Reachable := by
  obtain ⟨config, now, actions, rfl⟩ := h
  exact ⟨config, now, actions ++ [a], by rw [SrInstance.run_append]; rfl⟩

/-- Dispatching a message is at most one step of the router. -/
theorem Message.dispatch_cases {msg : Message} {c : Circumstances} {sr sr' : SrInstance}
    {ret : Int} (h : msg.dispatch c sr = some (ret, sr')) : sr' = sr ∨ ∃ a, sr' = sr.step a := by
  unfold dispatch at h
  split at h
  · unfold dispatchPacket at h
    split at h
    · cases h
    · obtain ⟨-, rfl⟩ := Prod.mk.inj (Option.some.inj h)
      exact .inl rfl
    · obtain ⟨-, rfl⟩ := Prod.mk.inj (Option.some.inj h)
      exact .inr ⟨_, rfl⟩
  · split at h
    · obtain ⟨-, rfl⟩ := Prod.mk.inj (Option.some.inj h)
      exact .inl rfl
    · split at h
      · obtain ⟨-, rfl⟩ := Prod.mk.inj (Option.some.inj h)
        exact .inl rfl
      · split at h
        · split at h
          · cases h
          · next ifList hlist =>
              obtain ⟨-, rfl⟩ := Prod.mk.inj (Option.some.inj h)
              refine .inr ⟨.hwinfo c.mem msg.hwEntries, ?_⟩
              rw [SrInstance.step, hlist]
        · refine .inl ?_
          split at h
          · exact (Prod.mk.inj (Option.some.inj h)).2.symm
          · split at h
            · exact (Prod.mk.inj (Option.some.inj h)).2.symm
            · split at h
              · exact (Prod.mk.inj (Option.some.inj h)).2.symm
              · exact (Prod.mk.inj (Option.some.inj h)).2.symm

theorem Message.reachable_dispatch {msg : Message} {c : Circumstances} {sr sr' : SrInstance}
    {ret : Int} (hsr : sr.Reachable) (h : msg.dispatch c sr = some (ret, sr')) :
    sr'.Reachable := by
  rcases dispatch_cases h with rfl | ⟨a, rfl⟩
  · exact hsr
  · exact hsr.step a

theorem Along.congr {P Q : SrInstance → Circumstances → Message → Prop}
    (h : ∀ sr c msg, sr.Reachable → msg.Complete → (P sr c msg ↔ Q sr c msg)) {sr : SrInstance}
    (hsr : sr.Reachable) (inputs : List Input) : Along P sr inputs ↔ Along Q sr inputs := by
  induction inputs generalizing sr with
  | nil => exact Iff.rfl
  | cons input inputs ih =>
      cases input with
      | timer now => exact ih (hsr.step _)
      | message c msg complete =>
          refine and_congr (h sr c msg hsr complete) ?_
          refine forall_congr' fun ret => forall_congr' fun sr' => forall_congr' fun hstep => ?_
          exact ih (msg.reachable_dispatch hsr hstep)

end SrRouter
