import RemoteIface.Gateway.Lifecycle
import RemoteIface.Library.Discipline

/-!
The synchronous facade over a gateway, used from the thread of its running
event loop: `start` and `stop` create tasks and return at once. The loop takes
its ready tasks in order.
-/

namespace RemoteIface.HbCompat.SyncFacade

set_option autoImplicit false

open RemoteIface.Library.EventLoop
open RemoteIface.Library.EventLoop.Loop
open RemoteIface.Gateway.Lifecycle

/-- `_gateway` with its event loop, `_start_task` and `_stop_task`. -/
structure Facade where
  gateway : World
  startTask : Option TaskId
  stopTask : Option TaskId

def Facade.fresh (threshold components : Nat) : Facade where
  gateway := World.fresh threshold components
  startTask := none
  stopTask := none

inductive FacadeEvent where
  | start
  | stop
  | fired (task : TaskId)
  | ran (choice : Choice)
deriving DecidableEq, Repr

namespace Facade

def create (facade : Facade) (pc : Pc) : World :=
  facade.gateway.onLoop fun loop => loop.create pc

def start (facade : Facade) : Facade :=
  { facade with
    gateway := facade.create (.entry .start)
    startTask := some facade.gateway.loop.tasks.length }

def stop (facade : Facade) : Facade where
  gateway := facade.create (.stopAfter facade.startTask)
  startTask := none
  stopTask := some facade.gateway.loop.tasks.length

def step (facade : Facade) : FacadeEvent → Option Facade
  | .start => some facade.start
  | .stop => some facade.stop
  | .fired task => (facade.gateway.step (.fired task)).map fun world =>
      { facade with gateway := world }
  | .ran choice => (facade.gateway.step (.ran 0 choice)).map fun world =>
      { facade with gateway := world }

end Facade

def startedAfter (last : Bool) : FacadeEvent → Bool
  | .start => true
  | .stop => false
  | _ => last

/-- Whether the last call made was `start`. -/
def lastIsStart (events : List FacadeEvent) : Bool := events.foldl startedAfter false

end RemoteIface.HbCompat.SyncFacade
