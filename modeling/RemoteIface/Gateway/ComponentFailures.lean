import RemoteIface.Commlib.Payload
import RemoteIface.Gateway.Lifecycle

/-!
`start`, `stop` and `add_component` of a gateway, one call after the other, with
components that may raise in any of their calls. The health task runs between
the calls: while `start` or `stop` awaits the node context there is none. Every
health check passes.
-/

namespace RemoteIface.Gateway.ComponentFailures

set_option autoImplicit false

open RemoteIface.Commlib.Payload
open RemoteIface.Gateway.Lifecycle (Act ComponentId World)
open RemoteIface.Library.Runs

inductive Call (Component : Type) where
  | nodeStart
  | component (component : Component) (act : Act)
  | nodeStop
deriving DecidableEq, Repr

/-- A call the gateway has made, and how it ended. -/
structure Record (Component : Type) where
  call : Call Component
  result : Except Failure Unit

inductive HealthState where
  | created
  | sleeping
  | returned
  | cancelled
deriving DecidableEq, Repr

/-- `not task.done()` -/
def HealthState.alive : HealthState → Bool
  | created => true
  | sleeping => true
  | returned => false
  | cancelled => false

/-- The health task after `cancel` and the await for its end. `_health_loop`
catches `CancelledError` at its sleep, but not before its first step. -/
def HealthState.cancel : HealthState → HealthState
  | created => cancelled
  | sleeping => returned
  | ended => ended

/-- `tasks` are the health tasks created so far, and `calls` the calls made. -/
structure MQTTGateway (Component Endpoint : Type) where
  components : List Component
  endpoints : List Endpoint
  running : Bool
  healthTask : Option Nat
  failures : Nat
  tasks : List HealthState
  calls : List (Record Component)

variable {Component Endpoint : Type}

def MQTTGateway.fresh : MQTTGateway Component Endpoint where
  components := []
  endpoints := []
  running := false
  healthTask := none
  failures := 0
  tasks := []
  calls := []

/-- What the parts of a gateway do when they are called, given all calls before.
A component may change `_endpoints`, also when it raises in the end. -/
structure Parts (Component Endpoint : Type) where
  component : Component → Act → List (Record Component) → List Endpoint →
    List Endpoint × Except Failure Unit
  nodeStop : List (Record Component) → Except Failure Unit

/-- The gateway after a call on it, and what the call returned or raised. -/
abbrev Outcome (Component Endpoint : Type) := MQTTGateway Component Endpoint × Except Failure Unit

def addComponentRefused : Failure :=
  ⟨⟨"RuntimeError"⟩, "Cannot add_component after gateway.start() — components must be registered " ++
    "before the gateway is started."⟩

namespace MQTTGateway

variable (parts : Parts Component Endpoint) (gateway : MQTTGateway Component Endpoint)

def addComponent (component : Component) : Outcome Component Endpoint :=
  if gateway.running then (gateway, .error addComponentRefused)
  else ({ gateway with components := gateway.components ++ [component] }, .ok ())

/-- `component.start(self)` or `component.stop(self)` -/
def callComponent (act : Act) (component : Component) : Outcome Component Endpoint :=
  let (endpoints, result) := parts.component component act gateway.calls gateway.endpoints
  ({ gateway with
      endpoints := endpoints
      calls := gateway.calls ++ [⟨.component component act, result⟩] }, result)

/-- The loop over the components. An exception of a component is logged, and
the loop goes on. -/
def callEach (act : Act) :
    List Component → MQTTGateway Component Endpoint → MQTTGateway Component Endpoint
  | [], gateway => gateway
  | component :: rest, gateway =>
      match gateway.callComponent parts act component with
      | (called, .ok ()) => callEach act rest called
      | (called, .error _) => callEach act rest called

def createHealthTask : MQTTGateway Component Endpoint :=
  { gateway with
    healthTask := some gateway.tasks.length
    tasks := gateway.tasks ++ [.created] }

/-- `NodeContext.start` succeeds. -/
def startNode : MQTTGateway Component Endpoint :=
  { gateway with calls := gateway.calls ++ [⟨.nodeStart, .ok ()⟩] }

def start : Outcome Component Endpoint :=
  if gateway.running then (gateway, .ok ())
  else
    let started := callEach parts .start gateway.components gateway.startNode
    ({ started.createHealthTask with running := true }, .ok ())

/-- The `CancelledError` with which a task may end that was awaited here is
suppressed. -/
def endHealthTask : MQTTGateway Component Endpoint :=
  match gateway.healthTask with
  | none => { gateway with healthTask := none }
  | some id =>
      { gateway with
        healthTask := none
        tasks := gateway.tasks.modify id HealthState.cancel }

def stopNode : Outcome Component Endpoint :=
  let result := parts.nodeStop gateway.calls
  ({ gateway with calls := gateway.calls ++ [⟨.nodeStop, result⟩] }, result)

def stop : Outcome Component Endpoint :=
  if gateway.running then
    let stopped := callEach parts .stop gateway.components.reverse gateway.endHealthTask
    let cleared := { stopped with endpoints := [] }
    match cleared.stopNode parts with
    | (closed, .ok ()) => ({ closed with running := false }, .ok ())
    | (closed, .error _) => ({ closed with running := false }, .ok ())
  else (gateway, .ok ())

/-- A step of a health task: up to its first sleep, or from a sleep to the next
one, with a check that passes. -/
def healthStep (id : Nat) : Option (MQTTGateway Component Endpoint) :=
  match gateway.tasks[id]? with
  | some .created => some { gateway with tasks := gateway.tasks.set id .sleeping }
  | some .sleeping => some { gateway with failures := 0 }
  | _ => none

end MQTTGateway

inductive Event (Component : Type) where
  | start
  | stop
  | addComponent (component : Component)
  | healthStep (id : Nat)
deriving DecidableEq, Repr

def step (parts : Parts Component Endpoint) (gateway : MQTTGateway Component Endpoint) :
    Event Component → Option (MQTTGateway Component Endpoint)
  | .start => some (gateway.start parts).1
  | .stop => some (gateway.stop parts).1
  | .addComponent component => some (gateway.addComponent component).1
  | .healthStep id => gateway.healthStep id

def Alive (gateway : MQTTGateway Component Endpoint) (id : Nat) : Prop :=
  ∃ state, gateway.tasks[id]? = some state ∧ state.alive = true

def OneHealthTask (gateway : MQTTGateway Component Endpoint) : Prop :=
  ∃ id, gateway.healthTask = some id ∧ ∀ other, Alive gateway other ↔ other = id

def NoHealthTask (gateway : MQTTGateway Component Endpoint) : Prop :=
  gateway.healthTask = none ∧ ∀ other, ¬ Alive gateway other

/-- Each of these calls ended as its component had it, with `_endpoints` as the
component left it: from the calls and endpoints before them to the endpoints
after. -/
def Answered (parts : Parts Component Endpoint) :
    List (Record Component) → List Endpoint → List (Record Component) → List Endpoint → Prop
  | _, endpoints, [], left => left = endpoints
  | calls, endpoints, ⟨.component component act, result⟩ :: rest, left =>
      result = (parts.component component act calls endpoints).2 ∧
        Answered parts (calls ++ [⟨.component component act, result⟩])
          (parts.component component act calls endpoints).1 rest left
  | _, _, _, _ => False

/-- `start` has called every component, in registration order. -/
structure StartsAll (parts : Parts Component Endpoint) (gateway : MQTTGateway Component Endpoint)
    (outcome : Outcome Component Endpoint) : Prop where
  returned : outcome.2 = .ok ()
  called : outcome.1.calls.map Record.call = gateway.calls.map Record.call ++
    .nodeStart :: gateway.components.map fun component => .component component .start
  answered : ∃ records, outcome.1.calls = gateway.startNode.calls ++ records ∧
    Answered parts gateway.startNode.calls gateway.endpoints records outcome.1.endpoints
  components : outcome.1.components = gateway.components
  running : outcome.1.running = true
  healthTask : OneHealthTask outcome.1

/-- `stop` has called every component, in reverse order, and then the node
context. -/
structure StopsAll (parts : Parts Component Endpoint) (gateway : MQTTGateway Component Endpoint)
    (outcome : Outcome Component Endpoint) : Prop where
  returned : outcome.2 = .ok ()
  called : outcome.1.calls.map Record.call = gateway.calls.map Record.call ++
    (gateway.components.reverse.map fun component => .component component .stop) ++ [.nodeStop]
  answered : ∃ records left, outcome.1.calls = gateway.calls ++ records ++
      [⟨.nodeStop, parts.nodeStop (gateway.calls ++ records)⟩] ∧
    Answered parts gateway.calls gateway.endpoints records left
  components : outcome.1.components = gateway.components
  running : outcome.1.running = false
  endpoints : outcome.1.endpoints = []
  healthTask : NoHealthTask outcome.1

/-- What every call does that is made in this state. -/
structure Lawful (parts : Parts Component Endpoint) (gateway : MQTTGateway Component Endpoint) :
    Prop where
  started : gateway.running = false → StartsAll parts gateway (gateway.start parts)
  startIgnored : gateway.running = true → gateway.start parts = (gateway, .ok ())
  stopped : gateway.running = true → StopsAll parts gateway (gateway.stop parts)
  stopIgnored : gateway.running = false → gateway.stop parts = (gateway, .ok ())
  added : ∀ component, gateway.running = false → gateway.addComponent component =
    ({ gateway with components := gateway.components ++ [component] }, .ok ())
  refused : ∀ component, gateway.running = true →
    gateway.addComponent component = (gateway, .error addComponentRefused)

structure Consistent (gateway : MQTTGateway Component Endpoint) : Prop where
  one : gateway.running = true → OneHealthTask gateway
  none : gateway.running = false → NoHealthTask gateway
  drained : gateway.running = false → gateway.endpoints = []

structure Passed (parts : Parts Component Endpoint) (act : Act) (components : List Component)
    (before after : MQTTGateway Component Endpoint) : Prop where
  called : after.calls.map Record.call = before.calls.map Record.call ++
    components.map fun component => .component component act
  answered : ∃ records, after.calls = before.calls ++ records ∧
    Answered parts before.calls before.endpoints records after.endpoints
  components : after.components = before.components
  running : after.running = before.running
  healthTask : after.healthTask = before.healthTask
  failures : after.failures = before.failures
  tasks : after.tasks = before.tasks

variable {parts : Parts Component Endpoint} {gateway : MQTTGateway Component Endpoint}

theorem answered_append {calls first second : List (Record Component)}
    {endpoints middle left : List Endpoint} (early : Answered parts calls endpoints first middle)
    (late : Answered parts (calls ++ first) middle second left) :
    Answered parts calls endpoints (first ++ second) left := by
  induction first generalizing calls endpoints with
  | nil =>
      rw [List.append_nil] at late
      obtain rfl : middle = endpoints := early
      exact late
  | cons record rest induction =>
      obtain ⟨call, result⟩ := record
      cases call with
      | component component act =>
          refine ⟨early.1, induction early.2 ?_⟩
          rw [List.append_assoc]
          exact late
      | nodeStart => exact early.elim
      | nodeStop => exact early.elim

theorem call_component_passed (parts : Parts Component Endpoint)
    (gateway : MQTTGateway Component Endpoint) (act : Act) (component : Component) :
    Passed parts act [component] gateway (gateway.callComponent parts act component).1 := by
  constructor
  · simp [MQTTGateway.callComponent]
  · exact ⟨[⟨.component component act, _⟩], rfl, rfl, rfl⟩
  all_goals rfl

theorem Passed.followed {act : Act} {first second : List Component}
    {before middle after : MQTTGateway Component Endpoint}
    (passed : Passed parts act first before middle)
    (later : Passed parts act second middle after) :
    Passed parts act (first ++ second) before after := by
  constructor
  · rw [later.called, passed.called, List.append_assoc, List.map_append]
  · obtain ⟨early, earlyCalls, earlyAnswered⟩ := passed.answered
    obtain ⟨late, lateCalls, lateAnswered⟩ := later.answered
    rw [earlyCalls] at lateCalls lateAnswered
    exact ⟨early ++ late, by rw [lateCalls, List.append_assoc],
      answered_append earlyAnswered lateAnswered⟩
  · exact later.components.trans passed.components
  · exact later.running.trans passed.running
  · exact later.healthTask.trans passed.healthTask
  · exact later.failures.trans passed.failures
  · exact later.tasks.trans passed.tasks

theorem call_each_passed (parts : Parts Component Endpoint) (act : Act)
    (components : List Component) (gateway : MQTTGateway Component Endpoint) :
    Passed parts act components gateway (gateway.callEach parts act components) := by
  induction components generalizing gateway with
  | nil =>
      constructor
      · exact (List.append_nil _).symm
      · exact ⟨[], (List.append_nil _).symm, rfl⟩
      all_goals rfl
  | cons component rest induction =>
      have first := call_component_passed parts gateway act component
      have later := first.followed (induction _)
      unfold MQTTGateway.callEach
      split
      · rename_i called taken
        rw [taken] at later
        exact later
      · rename_i called failure taken
        rw [taken] at later
        exact later

theorem create_health_task_one (none : ∀ other, ¬ Alive gateway other) :
    OneHealthTask gateway.createHealthTask := by
  refine ⟨gateway.tasks.length, rfl, ?_⟩
  intro other
  constructor
  · rintro ⟨state, known, alive⟩
    by_contra different
    have within : other < gateway.tasks.length := by
      have inside := (List.getElem?_eq_some_iff.mp known).1
      simp only [MQTTGateway.createHealthTask, List.length_append, List.length_singleton] at inside
      omega
    apply none other
    refine ⟨state, ?_, alive⟩
    rw [← known]
    exact (List.getElem?_append_left within).symm
  · intro same
    rw [same]
    exact ⟨.created, List.getElem?_concat_length, rfl⟩

theorem cancel_not_alive (state : HealthState) : state.cancel.alive = false := by
  cases state <;> rfl

theorem end_health_task_none (one : OneHealthTask gateway) :
    NoHealthTask gateway.endHealthTask := by
  obtain ⟨id, task, only⟩ := one
  unfold MQTTGateway.endHealthTask
  rw [task]
  refine ⟨rfl, ?_⟩
  rintro other ⟨state, known, alive⟩
  rw [List.getElem?_modify] at known
  obtain ⟨before, known, same⟩ := Option.map_eq_some_iff.mp known
  by_cases this : id = other
  · rw [if_pos this] at same
    rw [← same, cancel_not_alive] at alive
    cases alive
  · rw [if_neg this] at same
    cases same
    exact this ((only other).mp ⟨_, known, alive⟩).symm

theorem alive_congr {first second : MQTTGateway Component Endpoint}
    (same : first.tasks = second.tasks) (id : Nat) : Alive first id ↔ Alive second id := by
  unfold Alive
  rw [same]

theorem health_step_alive {next : MQTTGateway Component Endpoint} {id : Nat}
    (taken : gateway.healthStep id = some next) (other : Nat) :
    Alive next other ↔ Alive gateway other := by
  unfold MQTTGateway.healthStep at taken
  split at taken
  · rename_i created
    cases taken
    unfold Alive
    by_cases same : id = other
    · have within := (List.getElem?_eq_some_iff.mp created).1
      rw [← same, created, List.getElem?_set_self within]
      simp [HealthState.alive]
    · rw [List.getElem?_set_ne same]
  · cases taken
    exact alive_congr rfl other
  · cases taken

theorem start_all (parts : Parts Component Endpoint) (idle : gateway.running = false)
    (none : NoHealthTask gateway) :
    StartsAll parts gateway (gateway.start parts) := by
  have passed := call_each_passed parts .start gateway.components gateway.startNode
  unfold MQTTGateway.start
  rw [if_neg (by simp [idle])]
  constructor
  · rfl
  · change (MQTTGateway.callEach parts .start _ _).calls.map Record.call = _
    rw [passed.called]
    simp [MQTTGateway.startNode]
  · exact passed.answered
  · exact passed.components
  · rfl
  · apply create_health_task_one
    intro other
    rw [alive_congr passed.tasks]
    exact none.2 other

theorem stop_all (parts : Parts Component Endpoint) (running : gateway.running = true)
    (one : OneHealthTask gateway) :
    StopsAll parts gateway (gateway.stop parts) := by
  have passed := call_each_passed parts .stop gateway.components.reverse
    gateway.endHealthTask
  have quiet : gateway.endHealthTask.calls = gateway.calls ∧
      gateway.endHealthTask.components = gateway.components ∧
      gateway.endHealthTask.endpoints = gateway.endpoints := by
    unfold MQTTGateway.endHealthTask
    cases gateway.healthTask <;> exact ⟨rfl, rfl, rfl⟩
  have ended := end_health_task_none one
  have noTask : (MQTTGateway.callEach parts .stop gateway.components.reverse
      gateway.endHealthTask).healthTask = none := passed.healthTask.trans ended.1
  have calls := passed.called
  obtain ⟨records, grown, answered⟩ := passed.answered
  rw [quiet.1] at calls grown answered
  rw [quiet.2.2] at answered
  unfold MQTTGateway.stop
  rw [if_pos running]
  simp only [MQTTGateway.stopNode]
  split
  all_goals
    rename_i taken
    obtain ⟨rfl, _⟩ := Prod.mk.inj taken
    constructor
    · rfl
    · rw [List.map_append, calls]
      rfl
    · refine ⟨records, _, ?_, answered⟩
      rw [← grown]
    · exact passed.components.trans quiet.2.1
    · rfl
    · rfl
    · refine ⟨noTask, fun other alive => ended.2 other ?_⟩
      exact (alive_congr passed.tasks other).mp alive

theorem consistent_lawful (consistent : Consistent gateway) : Lawful parts gateway := by
  constructor
  · intro idle
    exact start_all parts idle (consistent.none idle)
  · intro running
    rw [MQTTGateway.start, if_pos running]
  · intro running
    exact stop_all parts running (consistent.one running)
  · intro idle
    rw [MQTTGateway.stop, if_neg (by simp [idle])]
  · intro component idle
    rw [MQTTGateway.addComponent, if_neg (by simp [idle])]
  · intro component running
    rw [MQTTGateway.addComponent, if_pos running]

theorem fresh_consistent : Consistent (MQTTGateway.fresh : MQTTGateway Component Endpoint) := by
  constructor
  · intro running
    cases running
  · intro _
    refine ⟨rfl, ?_⟩
    rintro other ⟨state, known, _⟩
    cases known
  · intro _
    rfl

theorem add_component_consistent (component : Component) (consistent : Consistent gateway) :
    Consistent (gateway.addComponent component).1 := by
  unfold MQTTGateway.addComponent
  split
  · exact consistent
  · exact ⟨consistent.one, consistent.none, consistent.drained⟩

theorem start_consistent (consistent : Consistent gateway) :
    Consistent (gateway.start parts).1 := by
  cases running : gateway.running with
  | true =>
      rw [(consistent_lawful consistent).startIgnored running]
      exact consistent
  | false =>
      have started := start_all parts running (consistent.none running)
      constructor
      · intro _
        exact started.healthTask
      · intro idle
        cases started.running.symm.trans idle
      · intro idle
        cases started.running.symm.trans idle

theorem stop_consistent (consistent : Consistent gateway) :
    Consistent (gateway.stop parts).1 := by
  cases running : gateway.running with
  | false =>
      rw [(consistent_lawful consistent).stopIgnored running]
      exact consistent
  | true =>
      have stopped := stop_all parts running (consistent.one running)
      constructor
      · intro again
        cases stopped.running.symm.trans again
      · intro _
        exact stopped.healthTask
      · intro _
        exact stopped.endpoints

theorem health_step_consistent {next : MQTTGateway Component Endpoint} {id : Nat}
    (consistent : Consistent gateway) (taken : gateway.healthStep id = some next) :
    Consistent next := by
  have alive := health_step_alive taken
  have kept : next.running = gateway.running ∧ next.healthTask = gateway.healthTask ∧
      next.endpoints = gateway.endpoints := by
    unfold MQTTGateway.healthStep at taken
    split at taken <;> cases taken <;> exact ⟨rfl, rfl, rfl⟩
  constructor
  · intro running
    obtain ⟨id, task, only⟩ := consistent.one (kept.1.symm.trans running)
    exact ⟨id, kept.2.1.trans task, fun other => (alive other).trans (only other)⟩
  · intro idle
    have none := consistent.none (kept.1.symm.trans idle)
    exact ⟨kept.2.1.trans none.1, fun other living => none.2 other ((alive other).mp living)⟩
  · intro idle
    exact kept.2.2.trans (consistent.drained (kept.1.symm.trans idle))

theorem step_consistent {next : MQTTGateway Component Endpoint} {event : Event Component}
    (consistent : Consistent gateway) (taken : step parts gateway event = some next) :
    Consistent next := by
  cases event with
  | start =>
      cases taken
      exact start_consistent consistent
  | stop =>
      cases taken
      exact stop_consistent consistent
  | addComponent component =>
      cases taken
      exact add_component_consistent component consistent
  | healthStep id => exact health_step_consistent consistent taken

/-- In every state that calls of `start`, `stop` and `add_component` lead to,
each further call does what it should, whichever components and whether the node
context raise. -/
theorem failing_components_contained (parts : Parts Component Endpoint)
    (events : List (Event Component)) :
    Always (step parts) (Lawful parts) MQTTGateway.fresh events :=
  always_of_guarded (step parts)
    (fun _ _ _ consistent _ taken => step_consistent consistent taken)
    (fun _ consistent => consistent_lawful consistent)
    fresh_consistent (guarded_true (step parts) _ events)

/-- The first component raises in `start`, and the second in `stop`. -/
def brokenParts : Parts Nat Unit where
  component component act _ endpoints :=
    (endpoints ++ [()],
      if (component, act) = (0, .start) ∨ (component, act) = (1, .stop) then
        .error addComponentRefused
      else .ok ())
  nodeStop _ := .error addComponentRefused

example :
    (run (step brokenParts) MQTTGateway.fresh
        [.addComponent 0, .addComponent 1, .start, .stop]).map
      (fun gateway => (gateway.calls.map Record.call, gateway.running, gateway.endpoints)) =
    some ([.nodeStart, .component 0 .start, .component 1 .start, .component 1 .stop,
      .component 0 .stop, .nodeStop], false, []) := by
  decide

def componentCalls (calls : List (Call Component)) : List (Component × Act) :=
  calls.filterMap fun call =>
    match call with
    | .component component act => some (component, act)
    | _ => none

/-- The world of the event loop numbers the components, and records the calls on
them without their results. -/
structure Agrees (gateway : MQTTGateway ComponentId Endpoint) (world : World) : Prop where
  components : gateway.components = List.range world.components
  calls : componentCalls (gateway.calls.map Record.call) = world.calls

theorem component_calls_pass (act : Act) (components : List Component) :
    componentCalls (components.map fun component => .component component act) =
      components.map fun component => (component, act) := by
  induction components with
  | nil => rfl
  | cons component rest induction =>
      rw [List.map_cons, List.map_cons, ← induction]
      rfl

theorem component_calls_append (first second : List (Call Component)) :
    componentCalls (first ++ second) = componentCalls first ++ componentCalls second :=
  List.filterMap_append

theorem returned_agrees {gateway : MQTTGateway ComponentId Endpoint} {world : World}
    (agrees : Agrees gateway world) (id : Nat) (caller : Lifecycle.Caller) :
    Agrees gateway (world.returned id caller) := by
  cases caller with
  | task => exact ⟨agrees.components, agrees.calls⟩
  | healthLoop => exact ⟨agrees.components, agrees.calls⟩

theorem node_stopped_agrees {gateway : MQTTGateway ComponentId Endpoint} {world : World}
    (agrees : Agrees gateway world) (id context : Nat) (caller : Lifecycle.Caller) :
    Agrees gateway (world.nodeStopped id context false caller) := by
  apply returned_agrees
  exact ⟨agrees.components, agrees.calls⟩

/-- The calls of `start` are those of the event-loop model, whatever raises. -/
theorem start_agrees {parts : Parts ComponentId Endpoint}
    {gateway : MQTTGateway ComponentId Endpoint} {world : World} (agrees : Agrees gateway world)
    (started : StartsAll parts gateway (gateway.start parts)) (id : Nat) (caller : Lifecycle.Caller) :
    Agrees (gateway.start parts).1 (world.startComponents id caller) := by
  apply returned_agrees
  constructor
  · exact started.components.trans agrees.components
  · rw [started.called, component_calls_append, agrees.calls, agrees.components]
    exact congrArg (world.calls ++ ·) (component_calls_pass .start _)

theorem stop_agrees {parts : Parts ComponentId Endpoint}
    {gateway : MQTTGateway ComponentId Endpoint} {world : World} (agrees : Agrees gateway world)
    (stopped : StopsAll parts gateway (gateway.stop parts)) (id : Nat) (caller : Lifecycle.Caller) :
    Agrees (gateway.stop parts).1 (world.stopComponents id false caller) := by
  have calls : componentCalls ((gateway.stop parts).1.calls.map Record.call) = world.calls ++
      (List.range world.components).reverse.map fun component => (component, Act.stop) := by
    rw [stopped.called, component_calls_append, component_calls_append, component_calls_pass,
      agrees.calls, agrees.components]
    exact List.append_nil _
  have components := stopped.components.trans agrees.components
  unfold World.stopComponents
  simp only
  split
  · split
    · apply node_stopped_agrees
      exact ⟨components, calls⟩
    · split
      · exact ⟨components, calls⟩
      · apply node_stopped_agrees
        exact ⟨components, calls⟩
  · apply returned_agrees
    exact ⟨components, calls⟩

end RemoteIface.Gateway.ComponentFailures
