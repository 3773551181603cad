import RemoteIface.Library.EventLoop
import RemoteIface.Library.Runs

/-!
The lifecycle of a `MQTTGateway` on one event loop: `start`, `stop`, `restart`,
the health loop, and the part of `NodeContext.start` and `stop` they await. A
program counter is an await together with the coroutines above it that go on
when it returns. A `_run` task is seen only as a task that goes on until it is
cancelled and then ends.
-/

namespace RemoteIface.Gateway.Lifecycle

set_option autoImplicit false

open RemoteIface.Library.EventLoop

abbrev ContextId := Nat
abbrev ComponentId := Nat

/-- The coroutine methods a caller runs as a task. -/
inductive Call where
  | start
  | stop
  | restart
deriving DecidableEq, Repr

/-- What awaits `start` or `restart`: the task of the call, or the health loop. -/
inductive Caller where
  | task
  | healthLoop
deriving DecidableEq, Repr

/-- `restart` tells whether `stop` was called by `restart`, which goes on with
`start`. `stopAfter` and `pendingStart` belong to `_stop_after` of the sync
facade, which ends in `stop`. -/
inductive Pc where
  | entry (call : Call)
  | nodeStart (context : ContextId) (caller : Caller)
  | stopHealth (restart : Bool) (caller : Caller)
  | nodeStop (context : ContextId) (restart : Bool) (caller : Caller)
  | healthEntry
  | healthSleep
  | runEntry (context : ContextId)
  | running (context : ContextId)
  | runClosing (context : ContextId)
  | stopAfter (pending : Option TaskId)
  | pendingStart
deriving DecidableEq, Repr

inductive Act where
  | start
  | stop
deriving DecidableEq, Repr

/-- `_started` and `_run_task` of a `NodeContext`. -/
structure NodeCore where
  started : Bool
  runTask : Option TaskId
deriving DecidableEq, Repr

/-- `calls` records the calls on the components, by registration index; what a
component raises is caught, so a call has no other effect here. `launched` are
the contexts whose `start` has set their `_loop`, which no `stop` resets. -/
structure World where
  threshold : Nat
  components : Nat
  running : Bool
  healthTask : Option TaskId
  failures : Nat
  node : ContextId
  contexts : List NodeCore
  launched : List ContextId
  calls : List (ComponentId × Act)
  loop : Loop Pc

def World.fresh (threshold components : Nat) : World where
  threshold := threshold
  components := components
  running := false
  healthTask := none
  failures := 0
  node := 0
  contexts := [⟨false, none⟩]
  launched := []
  calls := []
  loop := .empty

/-- The two ways in which a cancelled `_run` ends. -/
inductive RunEnd where
  | returned
  | cancelled
deriving DecidableEq, Repr

def RunEnd.signal : RunEnd → Signal
  | returned => .value
  | cancelled => .cancelled

/-- The outcome of a health check, and whether and how a cancelled `_run` task
ends in this step. -/
structure Choice where
  healthy : Bool
  runEnds : Option RunEnd
deriving DecidableEq, Repr

inductive Event where
  | called (call : Call)
  | added
  | fired (task : TaskId)
  | ran (place : Nat) (choice : Choice)
deriving DecidableEq, Repr

namespace World

def onLoop (world : World) (f : Loop Pc → Loop Pc) : World := { world with loop := f world.loop }

def core (world : World) (context : ContextId) : NodeCore :=
  (world.contexts[context]?).getD ⟨false, none⟩

def setCore (world : World) (context : ContextId) (core : NodeCore) : World :=
  { world with contexts := world.contexts.set context core }

def isAlive (world : World) (id : TaskId) : Bool :=
  ((world.loop.task id).map TaskState.alive).getD false

/-- A coroutine method returns to what awaits it. -/
def returned (world : World) (id : TaskId) : Caller → World
  | .task => world.onLoop fun loop => loop.finish id .value
  | .healthLoop => world.onLoop fun loop => loop.suspend id .healthSleep

/-- An exception leaves a coroutine method. The health loop catches
`CancelledError` and ends. -/
def raised (world : World) (id : TaskId) (signal : Signal) : Caller → World
  | .task => world.onLoop fun loop => loop.finish id signal
  | .healthLoop =>
      world.onLoop fun loop => loop.finish id (if signal = .cancelled then .value else signal)

/-- `start` after `NodeContext.start` has returned. -/
def startComponents (world : World) (id : TaskId) (caller : Caller) : World :=
  let started := { world with
    calls := world.calls ++ (List.range world.components).map fun component => (component, Act.start)
    healthTask := some world.loop.tasks.length
    running := true
    loop := world.loop.create .healthEntry }
  started.returned id caller

/-- `start` up to the `await asyncio.sleep(0)` in `NodeContext.start`. -/
def beginStart (world : World) (id : TaskId) (caller : Caller) : World :=
  if world.running then world.returned id caller
  else if (world.core world.node).started then world.startComponents id caller
  else
    let prepared := world.setCore world.node ⟨false, some world.loop.tasks.length⟩
    { prepared with
      launched := world.launched ++ [world.node]
      loop := (world.loop.create (.runEntry world.node)).yieldNow id
        (.nodeStart world.node caller) }

def nodeStarted (world : World) (id : TaskId) (context : ContextId) (caller : Caller) : World :=
  (world.setCore context { world.core context with started := true }).startComponents id caller

/-- `stop` has returned; `restart` goes on with a new `NodeContext`. -/
def stopped (world : World) (id : TaskId) (restart : Bool) (caller : Caller) : World :=
  if restart then
    let rebuilt : World := { world with
      node := world.contexts.length
      contexts := world.contexts ++ [⟨false, none⟩] }
    rebuilt.beginStart id caller
  else world.returned id caller

/-- The end of `NodeContext.stop` and of `stop`. -/
def nodeStopped (world : World) (id : TaskId) (context : ContextId) (restart : Bool)
    (caller : Caller) : World :=
  { world.setCore context ⟨false, none⟩ with running := false }.stopped id restart caller

/-- `stop` after the health task has ended. -/
def stopComponents (world : World) (id : TaskId) (restart : Bool) (caller : Caller) : World :=
  let quiet := { world with
    healthTask := none
    calls := world.calls ++
      (List.range world.components).reverse.map fun component => (component, Act.stop) }
  let core := quiet.core quiet.node
  if core.started then
    match core.runTask with
    | none => quiet.nodeStopped id quiet.node restart caller
    | some run =>
        if quiet.isAlive run then
          quiet.onLoop fun loop =>
            (loop.cancel run).await id (.nodeStop quiet.node restart caller) run
        else quiet.nodeStopped id quiet.node restart caller
  else { quiet with running := false }.stopped id restart caller

/-- `stop` up to its `await self._health_task`. -/
def beginStop (world : World) (id : TaskId) (restart : Bool) (caller : Caller) : World :=
  if world.running then
    match world.healthTask with
    | none => world.stopComponents id restart caller
    | some health =>
        if world.isAlive health then
          world.onLoop fun loop =>
            (loop.cancel health).await id (.stopHealth restart caller) health
        else world.stopComponents id restart caller
  else world.stopped id restart caller

/-- One pass of the loop in `_health_loop` after its sleep. -/
def checkHealth (world : World) (id : TaskId) (healthy : Bool) : World :=
  if healthy then
    { world with failures := 0 }.onLoop fun loop => loop.suspend id .healthSleep
  else if world.threshold ≤ world.failures + 1 then
    { world with failures := 0 }.beginStop id true .healthLoop
  else
    { world with failures := world.failures + 1 }.onLoop fun loop => loop.suspend id .healthSleep

def enter (world : World) (id : TaskId) : Call → World
  | .start => world.beginStart id .task
  | .stop => world.beginStop id false .task
  | .restart => world.beginStop id true .task

/-- `_stop_after` awaits the pending start, if it is not done, before `stop`. -/
def stopAfter (world : World) (id : TaskId) (pending : Option TaskId) : World :=
  match pending with
  | none => world.beginStop id false .task
  | some start =>
      if world.isAlive start then world.onLoop fun loop => loop.await id .pendingStart start
      else world.beginStop id false .task

def runStep (world : World) (id : TaskId) (context : ContextId) (ends : Option RunEnd) : World :=
  match ends with
  | none => world.onLoop fun loop => loop.suspend id (.runClosing context)
  | some ended => world.onLoop fun loop => loop.finish id ended.signal

/-- The task `id` runs from the await `pc` to its next one. A task that is
cancelled before its first step ends without running. -/
def resume (world : World) (id : TaskId) (choice : Choice) : Pc → Signal → World
  | .entry call, .value => world.enter id call
  | .entry _, signal => world.onLoop fun loop => loop.finish id signal
  | .nodeStart context caller, .value => world.nodeStarted id context caller
  | .nodeStart _ caller, signal => world.raised id signal caller
  | .stopHealth _ caller, .raised => world.raised id .raised caller
  | .stopHealth restart caller, _ => world.stopComponents id restart caller
  | .nodeStop _ restart caller, .raised =>
      { world with running := false }.stopped id restart caller
  | .nodeStop context restart caller, _ => world.nodeStopped id context restart caller
  | .healthEntry, .value => world.onLoop fun loop => loop.suspend id .healthSleep
  | .healthEntry, signal => world.onLoop fun loop => loop.finish id signal
  | .healthSleep, .value => world.checkHealth id choice.healthy
  | .healthSleep, signal => world.raised id signal .healthLoop
  | .runEntry context, .value => world.onLoop fun loop => loop.suspend id (.running context)
  | .runEntry _, signal => world.onLoop fun loop => loop.finish id signal
  | .running context, .value => world.onLoop fun loop => loop.suspend id (.running context)
  | .running context, _ => world.runStep id context choice.runEnds
  | .runClosing context, _ => world.runStep id context choice.runEnds
  | .stopAfter pending, .value => world.stopAfter id pending
  | .stopAfter _, signal => world.onLoop fun loop => loop.finish id signal
  | .pendingStart, .cancelled => world.onLoop fun loop => loop.finish id .cancelled
  | .pendingStart, _ => world.beginStop id false .task

def step (world : World) : Event → Option World
  | .called call => some (world.onLoop fun loop => loop.create (.entry call))
  | .added => if world.running then none else some { world with components := world.components + 1 }
  | .fired task => (world.loop.fire task).map fun loop => { world with loop := loop }
  | .ran place choice =>
      match world.loop.takeReady place with
      | none => none
      | some (loop, id, pc, signal) => some ({ world with loop := loop }.resume id choice pc signal)

theorem added_cases {world next : World} (taken : world.step .added = some next) :
    world.running = false ∧ next = { world with components := world.components + 1 } := by
  simp only [step] at taken
  split at taken <;> cases taken
  rename_i idle
  exact ⟨by simpa using idle, rfl⟩

theorem ran_cases {world next : World} {place : Nat} {choice : Choice}
    (taken : world.step (.ran place choice) = some next) :
    ∃ loop id pc signal, world.loop.takeReady place = some (loop, id, pc, signal) ∧
      next = ({ world with loop := loop } : World).resume id choice pc signal := by
  simp only [step] at taken
  split at taken <;> cases taken
  rename_i loop id pc signal entry
  exact ⟨loop, id, pc, signal, entry, rfl⟩

theorem begin_start_of_running {world : World} (running : world.running = true) (id : TaskId)
    (caller : Caller) : world.beginStart id caller = world.returned id caller := by
  rw [beginStart, if_pos running]

theorem begin_stop_of_idle {world : World} (idle : world.running = false) (id : TaskId)
    (restart : Bool) (caller : Caller) :
    world.beginStop id restart caller = world.stopped id restart caller := by
  rw [beginStop, if_neg (by simp [idle])]

end World

/-- The await at which the event resumes a task with a value. -/
def resumedAt (world : World) : Event → Option Pc
  | .ran place _ =>
      match world.loop.takeReady place with
      | some (_, _, pc, .value) => some pc
      | _ => none
  | _ => none

def begins (world : World) (event : Event) : Option Call :=
  match resumedAt world event with
  | some (.entry call) => some call
  | _ => none

/-- A health check is made and fails. -/
def checkFails (world : World) (event : Event) : Bool :=
  match resumedAt world event, event with
  | some .healthSleep, .ran _ choice => !choice.healthy
  | _, _ => false

def standing (world : World) (stands : Pc → Bool) : Bool :=
  world.loop.tasks.any fun task => task.alive && stands task.pc

theorem standing_iff (world : World) (stands : Pc → Bool) :
    standing world stands = true ↔
      ∃ id task, world.loop.task id = some task ∧ task.alive = true ∧ stands task.pc = true := by
  simp only [standing, List.any_eq_true, Bool.and_eq_true, List.mem_iff_getElem?, Loop.task]
  constructor
  · rintro ⟨task, ⟨id, known⟩, alive, stand⟩
    exact ⟨id, task, known, alive, stand⟩
  · rintro ⟨id, task, known, alive, stand⟩
    exact ⟨task, ⟨id, known⟩, alive, stand⟩

theorem resumed_at_of_taken {world : World} {loop : Loop Pc} {place : Nat} {id : TaskId} {pc : Pc}
    (taken : world.loop.takeReady place = some (loop, id, pc, .value)) (choice : Choice) :
    resumedAt world (.ran place choice) = some pc := by
  simp [resumedAt, taken]

end RemoteIface.Gateway.Lifecycle
