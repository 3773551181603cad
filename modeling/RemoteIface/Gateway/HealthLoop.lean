import RemoteIface.Gateway.Overlap

/-!
The health loop of a gateway whose callers wait for each call before the next.
A restart that the health loop makes by itself cancels and awaits its own task,
so that the old loop goes on beside the new one. As long as no failed check
reaches the threshold there is one loop while the gateway runs, and a `stop`
that has returned is final.
-/

namespace RemoteIface.Gateway.HealthLoop

set_option autoImplicit false

open RemoteIface.Library.EventLoop
open RemoteIface.Library.Runs
open RemoteIface.Gateway.Lifecycle
open RemoteIface.Gateway.Stages
open RemoteIface.Gateway.StageSteps
open RemoteIface.Gateway.Overlap

/-- A call begins only when no other call is at work. -/
def OneAtATime (world : World) (event : Event) : Prop :=
  ∀ _call ∈ begins world event, standing world isAtWork = false

/-- The failed check stays below the threshold. -/
def NoRestartDue (world : World) (event : Event) : Prop :=
  checkFails world event = true → world.failures + 1 < world.threshold

instance : DecidableRel OneAtATime := fun world event =>
  inferInstanceAs (Decidable (∀ _call ∈ begins world event, _))

instance : DecidableRel NoRestartDue := fun world event =>
  inferInstanceAs (Decidable (checkFails world event = true → _))

/-- No `start`, `stop` or `restart` is in progress, of a caller or of the health
loop. -/
def idle (world : World) : Bool :=
  !standing world fun
    | .nodeStart _ _ => true
    | .stopHealth _ _ => true
    | .nodeStop _ _ _ => true
    | _ => false

/-- The task is a `_health_loop` that has not ended. -/
def loopAlive (world : World) (id : TaskId) : Bool :=
  match world.loop.task id with
  | some task => task.alive && inHealthLoop task.pc
  | none => false

def OneHealthLoop (world : World) : Prop :=
  idle world = true →
    (world.running = true → ∃! id, loopAlive world id = true) ∧
      (world.running = false → ∀ id, loopAlive world id = false)

def inStop : Pc → Bool
  | .entry .stop => true
  | .stopHealth false .task => true
  | .nodeStop _ false .task => true
  | _ => false

/-- The event runs a caller's `stop` to its end. -/
def StopReturns (world : World) (event : Event) (next : World) : Prop :=
  ∃ place choice loop id pc signal task, event = .ran place choice ∧
    world.loop.takeReady place = some (loop, id, pc, signal) ∧ inStop pc = true ∧
      next.loop.task id = some task ∧ task.alive = false

/-- No `start` or `restart` begins in the step. -/
def NoStart (world : World) (event : Event) : Prop :=
  ∀ call ∈ begins world event, call = .stop

/-- After a `stop` has returned, and until a `start` or `restart` begins, no
component is called and the gateway does not run. -/
def StopIsFinal (start : World) (events : List Event) : Prop :=
  ∀ before event after, before ++ event :: after <+: events →
    ∀ world returned final, run World.step start before = some world →
      world.step event = some returned → StopReturns world event returned →
        Guarded World.step NoStart returned after → run World.step returned after = some final →
          final.running = false ∧ final.calls = returned.calls

theorem standing_mono {world : World} {weaker stronger : Pc → Bool}
    (implies : ∀ pc, stronger pc = true → weaker pc = true)
    (none : standing world weaker = false) : standing world stronger = false := by
  by_contra some
  obtain ⟨id, task, known, alive, stands⟩ :=
    (standing_iff world stronger).mp (by simpa using some)
  have found := (standing_iff world weaker).mpr ⟨id, task, known, alive, implies _ stands⟩
  rw [none] at found
  cases found

theorem apart_of_one_at_a_time {world : World} {event : Event}
    (oneAtATime : OneAtATime world event) : Apart world event := by
  intro call member
  have free := oneAtATime call member
  refine ⟨fun _ _ => standing_mono ?_ free, fun _ _ => standing_mono ?_ free⟩
  · intro pc stands
    split at stands <;> simp_all [isAtWork]
  · intro pc stands
    split at stands <;> simp_all [isAtWork]

theorem quiet_stage {world : World} {stage : Stage} (fits : Fits world stage)
    (quiet : standing world isAtWork = false) :
    stage = .off ∨ ∃ health run, stage = .on health run := by
  have busy {op : TaskId} {pc : Pc} {status : Status} {waiters : List TaskId}
      (known : world.loop.task op = some ⟨pc, status, waiters⟩) (alive : status.alive = true)
      (atWork : isAtWork pc = true) : False := by
    have found := (standing_iff world isAtWork).mpr ⟨op, _, known, alive, atWork⟩
    rw [quiet] at found
    cases found
  have tasks := fits.tasks
  cases stage with
  | off => exact .inl rfl
  | on health run => exact .inr ⟨health, run, rfl⟩
  | starting op run => exact (busy tasks.1 rfl rfl).elim
  | stoppingHealth op restart health run => exact (busy tasks.1 rfl rfl).elim
  | healthStopped op restart health run =>
      obtain ⟨signal, _, known⟩ := tasks.1
      exact (busy known rfl rfl).elim
  | stoppingRun op restart run => exact (busy tasks.1 rfl rfl).elim
  | runStopped op restart run =>
      obtain ⟨signal, _, known⟩ := tasks.1
      exact (busy known rfl rfl).elim

theorem loop_alive_iff (world : World) (id : TaskId) :
    loopAlive world id = true ↔
      ∃ task, world.loop.task id = some task ∧ task.alive = true ∧
        inHealthLoop task.pc = true := by
  unfold loopAlive
  cases world.loop.task id <;> simp

theorem one_health_loop_of_fits {world : World} {stage : Stage} (fits : Fits world stage) :
    OneHealthLoop world := by
  intro idle
  have once := started_once_of_fits fits
  have quiet : standing world isAtWork = false := by
    refine standing_mono ?_ (by simpa [HealthLoop.idle] using idle)
    intro pc atWork
    unfold isAtWork at atWork
    split at atWork <;> simp_all
  have held {id : TaskId} (alive : loopAlive world id = true) : world.healthTask = some id := by
    obtain ⟨task, known, living, loops⟩ := (loop_alive_iff world id).mp alive
    exact once.oneHealth id task known living loops
  rcases quiet_stage fits quiet with rfl | ⟨health, run, rfl⟩
  · refine ⟨fun running => absurd (fits.flags.running.symm.trans running) (by simp), fun _ id => ?_⟩
    by_contra alive
    have some := held (by simpa using alive)
    rw [fits.flags.healthTask] at some
    cases some
  · refine ⟨fun _ => ⟨health, (loop_alive_iff world health).mpr ?_, ?_⟩, fun stopped =>
      absurd (fits.flags.running.symm.trans stopped) (by simp)⟩
    · obtain ⟨⟨pc, status, known, stands, calm⟩, _⟩ := fits.tasks
      refine ⟨_, known, ?_, ?_⟩
      · rcases calm with rfl | rfl <;> rfl
      · rcases stands with rfl | rfl <;> rfl
    · intro id alive
      have same := held alive
      rw [fits.flags.healthTask, Option.some.injEq] at same
      exact same.symm

/-- A task of a stage that is resumed inside a caller's `stop` is the one that
has waited for the health task or for the `_run` task. -/
theorem stop_role {world : World} {stage : Stage} {id : TaskId} {pc : Pc} {signal : Signal}
    {waiters : List TaskId} (fits : Fits world stage) (role : id ∈ stage.roles)
    (known : world.loop.task id = some ⟨pc, .scheduled signal, waiters⟩)
    (stops : inStop pc = true) :
    (∃ health run, stage = .healthStopped id false health run) ∨
      ∃ run, stage = .runStopped id false run := by
  have notRun {node : ContextId} {run : TaskId} (calm : CalmRun world.loop node run) :
      id ≠ run := by
    refine calm_run_ne calm known ⟨?_, ?_⟩ <;> rintro rfl <;> cases stops
  have held {found : Pc} {status : Status} {others : List TaskId}
      (here : world.loop.task id = some ⟨found, status, others⟩) :
      found = pc ∧ status = .scheduled signal := by
    rw [known, Option.some.injEq, TaskState.mk.injEq] at here
    exact ⟨here.1.symm, here.2.1.symm⟩
  have tasks := fits.tasks
  cases stage with
  | off => simp [Stage.roles] at role
  | starting op run =>
      simp only [Stage.roles, List.mem_cons, List.not_mem_nil, or_false] at role
      rcases role with rfl | rfl
      · obtain ⟨rfl, _⟩ := held tasks.1
        cases stops
      · exact absurd rfl (notRun tasks.2)
  | on health run =>
      simp only [Stage.roles, List.mem_cons, List.not_mem_nil, or_false] at role
      rcases role with rfl | rfl
      · obtain ⟨found, status, here, rfl | rfl, _⟩ := tasks.1 <;>
          (obtain ⟨rfl, _⟩ := held here; cases stops)
      · exact absurd rfl (notRun tasks.2)
  | stoppingHealth op restart health run =>
      simp only [Stage.roles, List.mem_cons, List.not_mem_nil, or_false] at role
      rcases role with rfl | rfl | rfl
      · obtain ⟨_, asleep⟩ := held tasks.1
        cases asleep
      · obtain ⟨found, here, rfl | rfl⟩ := tasks.2.1 <;>
          (obtain ⟨rfl, _⟩ := held here; cases stops)
      · exact absurd rfl (notRun tasks.2.2)
  | healthStopped op restart health run =>
      simp only [Stage.roles, List.mem_cons, List.not_mem_nil, or_false] at role
      rcases role with rfl | rfl
      · obtain ⟨result, _, here⟩ := tasks.1
        obtain ⟨rfl, _⟩ := held here
        cases restart with
        | false => exact .inl ⟨health, run, rfl⟩
        | true => cases stops
      · exact absurd rfl (notRun tasks.2.2)
  | stoppingRun op restart run =>
      simp only [Stage.roles, List.mem_cons, List.not_mem_nil, or_false] at role
      rcases role with rfl | rfl
      · obtain ⟨_, asleep⟩ := held tasks.1
        cases asleep
      · obtain ⟨found, status, here, rfl | rfl | rfl, _⟩ := tasks.2 <;>
          (obtain ⟨rfl, _⟩ := held here; cases stops)
  | runStopped op restart run =>
      simp only [Stage.roles, List.mem_cons, List.not_mem_nil, or_false] at role
      subst role
      obtain ⟨result, _, here⟩ := tasks.1
      obtain ⟨rfl, _⟩ := held here
      cases restart with
      | false => exact .inr ⟨run, rfl⟩
      | true => cases stops

theorem stop_leaves_off {world returned : World} {stage : Stage} {event : Event}
    (fits : Fits world stage) (oneAtATime : OneAtATime world event)
    (stepped : world.step event = some returned) (returns : StopReturns world event returned) :
    Fits returned .off := by
  obtain ⟨place, choice, loop, id, pc, signal, task, rfl, entry, stops, known, dead⟩ := returns
  simp only [World.step, entry, Option.some.injEq] at stepped
  subst stepped
  obtain ⟨_, waiters, taken⟩ := Loop.take_ready_cases fits.queued entry
  have unfinished {found : Pc} {status : Status} {others : List TaskId}
      (here : (({ world with loop := loop } : World).resume id choice pc signal).loop.task id =
        some ⟨found, status, others⟩) : status.alive = false := by
    rw [known, Option.some.injEq] at here
    subst here
    exact dead
  by_cases role : id ∈ stage.roles
  · rcases stop_role fits role taken.known stops with ⟨health, run, rfl⟩ | ⟨run, rfl⟩
    · have next := health_stopped_step fits taken choice
      cases unfinished next.tasks.1
    · exact run_stopped_step fits taken choice
  · obtain ⟨call, held⟩ := fits.others id _ role taken.known rfl
    rw [TaskState.mk.injEq, Status.scheduled.injEq] at held
    obtain ⟨rfl, rfl, rfl⟩ := held
    have quiet := oneAtATime call (by simp [begins, resumed_at_of_taken entry])
    cases call with
    | start => cases stops
    | restart => cases stops
    | stop =>
        rcases quiet_stage fits quiet with rfl | ⟨health, run, rfl⟩
        · exact early_stop_step fits role taken fits.flags.running
        · have next : Fits (({ world with loop := loop } : World).resume id choice (.entry .stop)
              .value) (.stoppingHealth id false health run) := stop_step fits role taken false
          cases unfinished next.tasks.1

theorem off_step {world next : World} {event : Event} (fits : Fits world .off)
    (noStart : NoStart world event) (stepped : world.step event = some next) :
    Fits next .off ∧ next.calls = world.calls := by
  cases event with
  | called call =>
      cases stepped
      exact ⟨called_step fits call, rfl⟩
  | added =>
      obtain ⟨_, rfl⟩ := World.added_cases stepped
      exact ⟨added_step fits fits.flags.running, rfl⟩
  | fired id =>
      obtain ⟨loop, fired, rfl⟩ := Option.map_eq_some_iff.mp stepped
      exact ⟨fired_step fits fired, rfl⟩
  | ran place choice =>
      obtain ⟨loop, id, pc, signal, entry, rfl⟩ := World.ran_cases stepped
      obtain ⟨_, waiters, taken⟩ := Loop.take_ready_cases fits.queued entry
      have outside : id ∉ Stage.off.roles := by simp [Stage.roles]
      obtain ⟨call, held⟩ := fits.others id _ outside taken.known rfl
      rw [TaskState.mk.injEq, Status.scheduled.injEq] at held
      obtain ⟨rfl, rfl, rfl⟩ := held
      obtain rfl := noStart call (by simp [begins, resumed_at_of_taken entry])
      have idle : ({ world with loop := loop } : World).running = false := fits.flags.running
      refine ⟨early_stop_step fits outside taken idle, ?_⟩
      change (({ world with loop := loop } : World).beginStop id false .task).calls = world.calls
      rw [World.begin_stop_of_idle idle]
      rfl

theorem off_run {world final : World} {events : List Event} (fits : Fits world .off)
    (noStart : Guarded World.step NoStart world events)
    (reached : run World.step world events = some final) :
    final.running = false ∧ final.calls = world.calls := by
  induction events generalizing world with
  | nil =>
      cases reached
      exact ⟨fits.flags.running, rfl⟩
  | cons event rest induction =>
      obtain ⟨next, stepped, later⟩ := run_cons_some World.step reached
      obtain ⟨none, noStartLater⟩ := noStart next stepped
      obtain ⟨fitsNext, same⟩ := off_step fits none stepped
      obtain ⟨running, calls⟩ := induction fitsNext noStartLater later
      exact ⟨running, calls.trans same⟩

/-- One health loop while the gateway runs and none while it does not; and no
`stop` is undone. -/
theorem one_health_loop_of_no_restart_due (threshold components : Nat) (events : List Event)
    (guarded : Guarded World.step
      (fun world event => OneAtATime world event ∧ NoRestartDue world event)
      (World.fresh threshold components) events) :
    Always World.step OneHealthLoop (World.fresh threshold components) events ∧
      StopIsFinal (World.fresh threshold components) events := by
  have staged : ∀ world event next, Staged world →
      OneAtATime world event ∧ NoRestartDue world event → world.step event = some next →
        Staged next := by
    rintro world event next ⟨stage, fits⟩ ⟨oneAtATime, mild⟩ stepped
    exact fits_step fits (apart_of_one_at_a_time oneAtATime) mild stepped
  constructor
  · refine always_of_guarded World.step staged ?_ (staged_fresh threshold components) guarded
    rintro world ⟨stage, fits⟩
    exact one_health_loop_of_fits fits
  · rintro before event after ⟨rest, rfl⟩ world returned final reached stepped returns noStart later
    rw [List.append_assoc, guarded_append] at guarded
    obtain ⟨guardedBefore, guardedAfter⟩ := guarded
    obtain ⟨stage, fits⟩ := run_preserves World.step staged (staged_fresh threshold components)
      guardedBefore reached
    obtain ⟨⟨oneAtATime, _⟩, _⟩ := guardedAfter world reached returned stepped
    exact off_run (stop_leaves_off fits oneAtATime stepped returns) noStart later

/-- The gateway starts, one health check fails and the next succeeds, and the
gateway is stopped. -/
def mildFailure : List Event :=
  [.called .start, healthyStep, healthyStep, healthyStep, healthyStep, .fired 2,
    .ran 0 ⟨false, none⟩, .fired 2, healthyStep, .called .stop, healthyStep, healthyStep,
    healthyStep, healthyStep, healthyStep]

theorem one_health_loop_of_mild_failure :
    Always World.step OneHealthLoop (World.fresh 2 1) mildFailure ∧
      StopIsFinal (World.fresh 2 1) mildFailure :=
  one_health_loop_of_no_restart_due 2 1 mildFailure (by decide)

/-- The gateway starts, and the first health check that fails is enough for the
health loop to restart it. -/
def failureAtThreshold : List Event :=
  [.called .start, healthyStep, healthyStep, healthyStep, healthyStep, .fired 2,
    .ran 0 ⟨false, none⟩, healthyStep, healthyStep, healthyStep, healthyStep, healthyStep,
    healthyStep]

theorem self_restart_leaves_two_loops :
    Guarded World.step OneAtATime (World.fresh 1 1) failureAtThreshold ∧
      ∃ world, run World.step (World.fresh 1 1) failureAtThreshold = some world ∧
        loopAlive world 2 = true ∧ loopAlive world 4 = true ∧ ¬ OneHealthLoop world := by
  refine ⟨by decide, ?_⟩
  have seen : (run World.step (World.fresh 1 1) failureAtThreshold).map (fun world =>
      (idle world, world.running, loopAlive world 2, loopAlive world 4)) =
        some (true, true, true, true) := by decide
  obtain ⟨world, reached, read⟩ := Option.map_eq_some_iff.mp seen
  simp only [Prod.mk.injEq] at read
  obtain ⟨quiet, running, second, fourth⟩ := read
  refine ⟨world, reached, second, fourth, fun one => ?_⟩
  have same := ((one quiet).1 running).unique second fourth
  cases same

end RemoteIface.Gateway.HealthLoop
