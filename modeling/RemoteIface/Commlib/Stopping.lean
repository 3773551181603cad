import RemoteIface.Library.Progress
import RemoteIface.Commlib.ConnectionWorkers
import RemoteIface.Commlib.RunTask

/-!
`NodeContext.stop` comes to its end. Whatever await it finds `_run` at, and
whatever the client makes of the `CancelledError`, the task and the workers it
has cancelled take five steps at most before `stop` returns, and one of these
steps is possible until then.
-/

namespace RemoteIface.Commlib.Connection

set_option autoImplicit false

open RemoteIface.Commlib.Rpc

/-- The steps by which `_run` and cancelled workers come to their ends. -/
def Event.closes : Event → Bool
  | .drainCancelled _ => true
  | .dispatchCancelled _ => true
  | event => event.ofRun && !event.ofLifecycle

theorem closes_of_tidies {event : Event} (tidies : event.tidies = true) : event.closes = true := by
  cases event <;> simp_all [Event.tidies, Event.closes, Event.ofRun, Event.ofLifecycle]

namespace State

def stepsLeft (conn : State) : Nat :=
  ((conn.runTask.map RunPc.awaitsLeft).getD 0) + conn.aliveTasks

theorem awaits_left_le (pc : RunPc) : pc.awaitsLeft ≤ 3 := by
  cases pc <;> simp [RunPc.awaitsLeft]

theorem CalmStep.leaving_alive_tasks {desired : List String} {conn next : State} {pc : RunPc}
    (taken : CalmStep desired conn next) (stands : conn.runTask = some pc)
    (leaving : pc.leaving = true) : next.aliveTasks = conn.aliveTasks := by
  have here : ∀ {other : RunPc}, conn.runTask = some other → other.leaving = true := by
    intro other standsAt
    rw [Option.some.inj (standsAt.symm.trans stands)]
    exact leaving
  cases taken with
  | iterated factoryReturned standsAt atHead =>
      have leaves := here standsAt
      rcases atHead with rfl | rfl <;> cases leaves
  | entered standsAt => cases here standsAt
  | subscribed standsAt => cases here standsAt
  | failed standsAt inBody => exact alive_tasks_of_sessions rfl
  | refused standsAt => exact leave_alive_tasks conn _ _
  | exited raised standsAt => exact leave_alive_tasks conn _ _
  | cleanedUp standsAt => exact alive_tasks_of_sessions (after_cleanup_fields conn _).1

theorem CancelStep.alive_tasks {conn next : State} (taken : CancelStep conn next) :
    next.aliveTasks = conn.aliveTasks := by
  cases taken with
  | ended standsAt atHead => exact alive_tasks_of_sessions rfl
  | left exit standsAt outside => exact leave_alive_tasks _ _ _
  | closing exit standsAt inBody => exact alive_tasks_of_sessions rfl
  | cleanedUp standsAt =>
      exact alive_tasks_of_sessions
        (after_cleanup_fields { conn with cancelRequested := false } .cancelled).1

theorem steps_left_at {conn : State} {pc : RunPc} (stands : conn.runTask = some pc) :
    conn.stepsLeft = pc.awaitsLeft + conn.aliveTasks := by
  rw [stepsLeft, stands]
  rfl

theorem run_step_closes {desired : List String} {conn next : State} {event : Event}
    (poised : conn.Poised) (stopping : conn.lifecycle = .stopping) (ofRun : event.ofRun = true)
    (ofTask : event.ofLifecycle = false) (taken : conn.step desired event = some next) :
    next.stepsLeft < conn.stepsLeft := by
  obtain ⟨halted, pc, stands, either⟩ := poised.stopping stopping
  rcases run_task_step ofRun ofTask taken with ⟨calm, moved⟩ | ⟨_, moved⟩
  · have leaving : pc.leaving = true := either.resolve_left (by simp [calm])
    obtain ⟨_, later, standsNext, _, fewer⟩ := moved.leaving halted stands leaving
    have tasks := moved.leaving_alive_tasks stands leaving
    rw [steps_left_at standsNext, steps_left_at stands]
    omega
  · obtain ⟨_, later, standsNext, _, fewer⟩ := moved.leaving halted stands
    have tasks := moved.alive_tasks
    rw [steps_left_at standsNext, steps_left_at stands]
    omega

/-- While `stop` waits, the only step of a lifecycle call is its return. -/
theorem stopping_lifecycle {desired : List String} {conn next : State} {event : Event}
    (stopping : conn.lifecycle = .stopping) (ofLifecycle : event.ofLifecycle = true)
    (taken : conn.step desired event = some next) : event = .stopResumed := by
  cases event <;> simp only [Event.ofLifecycle, Bool.false_eq_true] at ofLifecycle
  case start => simp [step, start, stopping] at taken
  case startResumed => simp [step, startResumed, stopping] at taken
  case stop => simp [step, stop, stopping] at taken
  case stopResumed => rfl

theorem stopping_step {desired : List String} {conn next : State} {event : Event}
    (poised : conn.Poised) (stopping : conn.lifecycle = .stopping)
    (unreturned : event ≠ .stopResumed) (taken : conn.step desired event = some next) :
    next.lifecycle = .stopping ∧ next.stepsLeft ≤ conn.stepsLeft ∧
      (event.closes = true → next.stepsLeft < conn.stepsLeft) := by
  by_cases ofLifecycle : event.ofLifecycle = true
  · exact absurd (stopping_lifecycle stopping ofLifecycle taken) unreturned
  have ofTask : event.ofLifecycle = false := by simpa using ofLifecycle
  by_cases ofRun : event.ofRun = true
  · have fewer := run_step_closes poised stopping ofRun ofTask taken
    obtain ⟨_, lifecycle, _⟩ := (run_step ofRun ofTask taken).calls
    exact ⟨lifecycle.trans stopping, Nat.le_of_lt fewer, fun _ => fewer⟩
  by_cases ofWorker : event.ofWorker = true
  · obtain ⟨_, _, _, move⟩ := worker_move ofWorker taken
    have notMore := worker_alive_tasks move
    refine ⟨move.lifecycle.trans stopping, ?_, ?_⟩
    · unfold stepsLeft
      rw [move.runTask]
      omega
    · intro closes
      have cancels : (∃ id, event = .drainCancelled id) ∨ ∃ id, event = .dispatchCancelled id := by
        cases event <;> simp_all [Event.closes, Event.ofRun]
      have fewer := cancelled_alive_tasks cancels taken
      unfold stepsLeft
      rw [move.runTask]
      omega
  cases event <;> simp [Event.ofRun, Event.ofWorker] at ofRun ofWorker
  case enqueued item =>
    rcases enqueued_cases taken with rfl | rfl
    · exact ⟨stopping, Nat.le_refl _, by simp [Event.closes, Event.ofRun]⟩
    · exact ⟨stopping, Nat.le_refl _, by simp [Event.closes, Event.ofRun]⟩
  case putRan =>
    obtain ⟨item, rest, _, rfl⟩ := put_ran_cases taken
    exact ⟨stopping, Nat.le_refl _, by simp [Event.closes, Event.ofRun]⟩

/-- Until `_run` has ended, it or a worker it has cancelled can take a step. -/
theorem closing_step_enabled {desired : List String} {conn : State} (poised : conn.Poised)
    (stopping : conn.lifecycle = .stopping) (unended : conn.runTask ≠ some .ended) :
    ∃ event next, event.closes = true ∧ conn.step desired event = some next := by
  obtain ⟨_, pc, stands, either⟩ := poised.stopping stopping
  by_cases requested : conn.cancelRequested = true
  · have caught : ∀ next, conn.runCancelled = some next →
        ∃ event next, event.closes = true ∧ conn.step desired event = some next :=
      fun next taken => ⟨.runCancelled, next, rfl, taken⟩
    cases pc with
    | ended => exact absurd stands unended
    | cleanup client exit =>
        obtain ⟨event, next, tidies, taken⟩ := cleanup_goes_on poised.manned stands
        exact ⟨event, next, closes_of_tidies tidies, taken⟩
    | created => exact caught _ (by simp only [runCancelled, requested, stands, if_true]; rfl)
    | connecting client =>
        exact caught _ (by simp only [runCancelled, requested, stands, if_true]; rfl)
    | subscribing client todo =>
        exact caught _ (by simp only [runCancelled, requested, stands, if_true]; rfl)
    | waiting client =>
        exact caught _ (by simp only [runCancelled, requested, stands, if_true]; rfl)
    | closing client exit =>
        exact caught _ (by simp only [runCancelled, requested, stands, if_true]; rfl)
    | sleeping => exact caught _ (by simp only [runCancelled, requested, stands, if_true]; rfl)
  · have leaving : pc.leaving = true := either.resolve_left fun both => requested both.1
    cases pc with
    | ended => exact absurd stands unended
    | cleanup client exit =>
        obtain ⟨event, next, tidies, taken⟩ := cleanup_goes_on poised.manned stands
        exact ⟨event, next, closes_of_tidies tidies, taken⟩
    | closing client exit =>
        have ready : conn.runnable = some (.closing client exit) := by
          rw [runnable, if_neg requested, stands]
        exact ⟨.exited false, _, rfl, by simp only [step, ready]; rfl⟩
    | _ => cases leaving

end State

end RemoteIface.Commlib.Connection

namespace RemoteIface.Commlib.Stopping

open RemoteIface.Library.Runs
open RemoteIface.Library.Progress
open RemoteIface.Commlib.Payload
open RemoteIface.Commlib.Connection
open RemoteIface.Commlib.NodeContext

variable {Obj Resp : Type}

def closes : NodeContext.Event Obj Resp → Bool
  | .wire event => event.closes
  | _ => false

def Halting (ctx : Context Obj Resp) : Prop :=
  ctx.Steady ∧ ctx.conn.lifecycle = .stopping

theorem aside_steps_left {serialize : Resp → Except PyException Json} {ctx next : Context Obj Resp}
    {event : NodeContext.Event Obj Resp} (apart : ¬ Context.OfConnection event)
    (taken : ctx.step serialize event = some next) :
    next.conn.stepsLeft ≤ ctx.conn.stepsLeft := by
  cases Context.conn_move taken with
  | scheduled _ items conn =>
      rw [conn]
      exact Nat.le_refl _
  | @raised session _ _ client drain error stored conn =>
      rw [conn]
      have move := @State.set_session_move ctx.conn ctx.conn session _
        ⟨client, drain, .raised error, false⟩ stored rfl (fun kept => kept) (fun _ => rfl)
        ⟨rfl, rfl, rfl, rfl, rfl, rfl⟩
      exact Nat.add_le_add_left (State.worker_alive_tasks move) _
  | stepped moved => exact absurd trivial apart

theorem halting_step {serialize : Resp → Except PyException Json} {ctx next : Context Obj Resp}
    {event : NodeContext.Event Obj Resp} (halting : Halting ctx)
    (unreturned : event ≠ .wire .stopResumed) (taken : ctx.step serialize event = some next) :
    Halting next ∧ next.conn.stepsLeft ≤ ctx.conn.stepsLeft ∧
      (closes event = true → next.conn.stepsLeft < ctx.conn.stepsLeft) := by
  have steady := Context.steady_step halting.1 taken
  have aside : ¬ Context.OfConnection event → next.conn.lifecycle = .stopping ∧
      next.conn.stepsLeft ≤ ctx.conn.stepsLeft := by
    intro apart
    obtain ⟨_, _, _, lifecycle, _⟩ := (Context.session_step apart taken).task
    exact ⟨lifecycle.trans halting.2, aside_steps_left apart taken⟩
  cases event with
  | wire event =>
      obtain ⟨conn, moved, rfl⟩ := Option.map_eq_some_iff.mp taken
      obtain ⟨lifecycle, notMore, fewer⟩ := State.stopping_step halting.1.2 halting.2
        (fun same => unreturned (congrArg NodeContext.Event.wire same)) moved
      exact ⟨⟨steady, lifecycle⟩, notMore, fewer⟩
  | _ =>
      obtain ⟨lifecycle, notMore⟩ := aside not_false
      exact ⟨⟨steady, lifecycle⟩, notMore, by simp [closes]⟩

theorem steps_left_le_five {ctx : Context Obj Resp} (halting : Halting ctx) :
    ctx.conn.stepsLeft ≤ 5 := by
  obtain ⟨_, pc, stands, _⟩ := halting.1.2.stopping halting.2
  have awaits := State.awaits_left_le pc
  have tasks := State.alive_tasks_le_two halting.1.1
  rw [State.steps_left_at stands]
  omega

/-- From every state in which `stop` waits: at most five more steps of `_run`
and of the workers it cancels can be taken before `stop` returns, and such
steps lead to its return, after which nothing of the connection is alive. -/
theorem waiting_stop_ends (serialize : Resp → Except PyException Json)
    (events : List (NodeContext.Event Obj Resp)) (ctx : Context Obj Resp)
    (reached : run (Context.step serialize) Context.fresh events = some ctx)
    (waits : ctx.conn.lifecycle = .stopping) :
    (∀ later final, run (Context.step serialize) ctx later = some final →
        (∀ event ∈ later, event ≠ .wire .stopResumed) → later.countP closes ≤ 5) ∧
      ∃ ending final, (∀ event ∈ ending, closes event = true) ∧
        run (Context.step serialize) ctx (ending ++ [.wire .stopResumed]) = some final ∧
        final.conn.Idle ∧ final.conn.Quiet := by
  have halting : Halting ctx := ⟨Context.steady_run reached, waits⟩
  have five := steps_left_le_five halting
  constructor
  · intro later final continued unreturned
    have bounded := lowering_steps_bounded (Context.step serialize)
      (fun _ _ _ holds met taken => (halting_step holds met taken).1)
      (fun _ _ _ holds met taken => (halting_step holds met taken).2.1)
      (fun _ _ _ holds met lowers taken => (halting_step holds met taken).2.2 lowers)
      halting (guarded_of_forall (Context.step serialize) unreturned ctx) continued
    omega
  · have onwards : ∀ state : Context Obj Resp, Halting state →
        ¬ state.conn.runTask = some .ended →
        ∃ event next, closes event = true ∧ state.step serialize event = some next ∧
          Halting next ∧ next.conn.stepsLeft < state.conn.stepsLeft := by
      intro state holds unended
      obtain ⟨event, conn, closing, moved⟩ := State.closing_step_enabled
        holds.1.2 holds.2 unended
      have taken : state.step serialize (.wire event) = some { state with conn := conn } :=
        Option.map_eq_some_iff.mpr ⟨conn, moved, rfl⟩
      have unreturned : (NodeContext.Event.wire event : NodeContext.Event Obj Resp) ≠
          .wire .stopResumed := by
        rintro same
        cases same
        cases closing
      obtain ⟨kept, _, fewer⟩ := halting_step holds unreturned taken
      exact ⟨.wire event, _, closing, taken, kept, fewer closing⟩
    obtain ⟨ending, last, guarded, ended, still, arrived, _⟩ :=
      @goal_reached _ _ (Context.step serialize) _ _ (fun _ event => closes event = true) _
        onwards _ halting
    have allClose := forall_of_guarded (Context.step serialize) guarded ended
    have returns : last.step serialize (.wire .stopResumed) = some { last with
        conn := { last.conn with
          runTask := none
          connected := false
          started := false
          lifecycle := .none } } := by
      apply Option.map_eq_some_iff.mpr
      refine ⟨_, ?_, rfl⟩
      simp only [State.step, State.stopResumed, still.2, arrived]
    have steady := Context.steady_step still.1 returns
    refine ⟨ending, _, allClose, (run_snoc (Context.step serialize) ended).trans returns,
      ⟨rfl, rfl⟩, ⟨rfl, ?_, rfl⟩⟩
    exact steady.1.none_alive rfl

/-- `stop` during a connection, whose client turns the `CancelledError` of its
`__aexit__` into another exception. -/
def stoppedRun : List (NodeContext.Event Unit Unit) :=
  [.wire .start, .wire .startResumed, .wire (.iterated true), .wire (.entered true), .wire .stop]

theorem stopped_run_ends :
    ∃ ctx : Context Unit Unit,
      run (Context.step fun _ => .ok .null) Context.fresh stoppedRun = some ctx ∧
        ∃ ending final, (∀ event ∈ ending, closes event = true) ∧
          run (Context.step fun _ => .ok .null) ctx (ending ++ [.wire .stopResumed]) =
            some final ∧ final.conn.Idle ∧ final.conn.Quiet := by
  refine ⟨_, rfl, ?_⟩
  exact (waiting_stop_ends (fun _ => .ok .null) stoppedRun _ rfl rfl).2

end RemoteIface.Commlib.Stopping
