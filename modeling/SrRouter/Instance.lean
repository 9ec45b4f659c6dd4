import SrRouter.Router

/-!
The router as a transition system whose steps are atomic: a frame handled
from start to end, one pass of the timer thread, or one VNSHWINFO message.
Each step happens at a clock value that the action carries.

A run is the fold of `SrInstance.step` over its actions. The initial state
has an empty cache and an empty queue; the interface list and the routing
table are arbitrary, since they come from the server and from a file.
-/

namespace SrRouter

open ByteBuffer Interactive

/-- `struct sr_instance`, less what no modelled function uses. -/
structure SrInstance where
  config : Config
  store : Store

namespace SrInstance

def requests (sr : SrInstance) : List SrArpreq := sr.store.requests

def init (config : Config) (now : Int) : SrInstance :=
  { config := config
    store := { cache := srArpcacheInit, heap := 0, now := now, log := [] } }

end SrInstance

inductive Action
  /-- `sr_handlepacket` is called on a frame. -/
  | recv (now : Int) (packet : Frame) (interface : Name)
  /-- The timer thread takes the lock. -/
  | timer (now : Int)
  /-- A VNSHWINFO message with these entries is handled. -/
  | hwinfo (mem : Nat → Mac × UInt32) (entries : List HwEntry)

namespace Store

def setNow (s : Store) (now : Int) : Store := { s with now := now }

end Store

namespace SrInstance

/-- One atomic step. A failed assertion in a VNSHWINFO message ends the
process; the state is then left as it is. -/
def step (sr : SrInstance) : Action → SrInstance
  | .recv now packet interface =>
    { sr with store :=
        ((srHandlepacket sr.config packet interface).run exec (sr.store.setNow now)).2 }
  | .timer now => { sr with store := srArpcacheTimeout sr.config (sr.store.setNow now) }
  | .hwinfo mem entries =>
    match srHandleHwinfo mem entries sr.config.ifList with
    | none => sr
    | some ifList => { sr with config := { sr.config with ifList := ifList } }

def run (sr : SrInstance) (actions : List Action) : SrInstance := actions.foldl step sr

@[simp] theorem run_nil (sr : SrInstance) : sr.run [] = sr := rfl

@[simp] theorem run_cons (sr : SrInstance) (a : Action) (actions : List Action) :
    sr.run (a :: actions) = (sr.step a).run actions := rfl

theorem run_append (sr : SrInstance) (as bs : List Action) :
    sr.run (as ++ bs) = (sr.run as).run bs := List.foldl_append

/-- What every step keeps, every run keeps. -/
theorem run_invariant (I : SrInstance → Prop) (sr : SrInstance) (actions : List Action)
    (hstep : ∀ sr, ∀ a ∈ actions, I sr → I (sr.step a)) (h : I sr) : I (sr.run actions) := by
  induction actions generalizing sr with
  | nil => exact h
  | cons a actions ih =>
      exact ih (sr.step a) (fun sr b hb => hstep sr b (List.mem_cons_of_mem a hb))
        (hstep sr a List.mem_cons_self h)

end SrInstance

end SrRouter
