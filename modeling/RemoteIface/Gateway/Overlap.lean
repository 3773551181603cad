import RemoteIface.Gateway.StageSteps

/-!
Concurrent `start` and `stop` of one gateway. Each tests `_running`, awaits,
and sets it, so two calls of the same kind can both pass the test. When no call
begins its work while another of its kind is at work, the components, the
`_run` task and the health task are started and stopped once.
-/

namespace RemoteIface.Gateway.Overlap

set_option autoImplicit false

open RemoteIface.Library.EventLoop
open RemoteIface.Library.Runs
open RemoteIface.Gateway.Lifecycle
open RemoteIface.Gateway.Components
open RemoteIface.Gateway.Stages
open RemoteIface.Gateway.StageSteps

/-- A `start` has passed its test and is at work. -/
def startAtWork (world : World) : Bool :=
  standing world fun
    | .nodeStart _ .task => true
    | _ => false

def stopAtWork (world : World) : Bool :=
  standing world fun
    | .stopHealth _ .task => true
    | .nodeStop _ _ .task => true
    | _ => false

/-- A call that is about to pass its test finds no other one of its kind at
work; a `restart` counts as the `stop` or the `start` it goes on with. -/
def Apart (world : World) (event : Event) : Prop :=
  ∀ call ∈ begins world event,
    (call ≠ .stop → world.running = false → startAtWork world = false) ∧
      (call ≠ .start → world.running = true → stopAtWork world = false)

instance : DecidableRel Apart := fun world event =>
  inferInstanceAs (Decidable (∀ call ∈ begins world event, _))

section

variable {world : World} {loop : Loop Pc} {stage : Stage} {id : TaskId} {pc : Pc} {signal : Signal}

theorem refused_call_step (fits : Fits world stage) (outside : id ∉ stage.roles)
    (taken : Loop.Taken world.loop loop id pc signal []) :
    Fits (({ world with loop := loop } : World).returned id .task) stage :=
  fits.retire outside taken.known (Loop.queued_finish taken.queued taken.runs .value)
    (taken.finish .value) (flags_of_loop fits.flags world.failures _) rfl

theorem late_start_step (fits : Fits world stage) (outside : id ∉ stage.roles)
    (taken : Loop.Taken world.loop loop id pc signal [])
    (running : ({ world with loop := loop } : World).running = true) :
    Fits (({ world with loop := loop } : World).beginStart id .task) stage := by
  rw [World.begin_start_of_running running]
  exact refused_call_step fits outside taken

theorem early_stop_step (fits : Fits world stage) (outside : id ∉ stage.roles)
    (taken : Loop.Taken world.loop loop id pc signal [])
    (idle : ({ world with loop := loop } : World).running = false) :
    Fits (({ world with loop := loop } : World).beginStop id false .task) stage := by
  rw [World.begin_stop_of_idle idle]
  exact refused_call_step fits outside taken

theorem stop_step {health run : TaskId} (fits : Fits world (.on health run))
    (outside : id ∉ (Stage.on health run).roles)
    (taken : Loop.Taken world.loop loop id pc signal []) (restart : Bool) :
    Fits (({ world with loop := loop } : World).beginStop id restart .task)
      (.stoppingHealth id restart health run) := by
  simp only [Stage.roles, List.mem_cons, List.not_mem_nil, or_false, not_or] at outside
  obtain ⟨calmHealth, calmRun⟩ := fits.tasks
  exact begin_stop_fits restart taken.queued taken.runs
    (calm_health_of_same calmHealth (taken.of_ne outside.1))
    (calm_run_of_same calmRun (taken.of_ne outside.2))
    ⟨outside.1, outside.2, health_ne_run calmHealth calmRun⟩
    (others_of_taken fits.others taken) (flags_on_loop fits.flags _ _)

end

theorem call_step {world : World} {loop : Loop Pc} {stage : Stage} {id : TaskId} {pc : Pc}
    {signal : Signal} {waiters : List TaskId} {place : Nat} {choice : Choice}
    (fits : Fits world stage) (outside : id ∉ stage.roles)
    (entry : world.loop.takeReady place = some (loop, id, pc, signal))
    (taken : Loop.Taken world.loop loop id pc signal waiters)
    (apart : Apart world (.ran place choice)) :
    Staged (({ world with loop := loop } : World).resume id choice pc signal) := by
  obtain ⟨call, held⟩ := fits.others id _ outside taken.known rfl
  rw [TaskState.mk.injEq, Status.scheduled.injEq] at held
  obtain ⟨rfl, rfl, rfl⟩ := held
  obtain ⟨noStart, noStop⟩ := apart call (by simp [begins, resumed_at_of_taken entry])
  have refused (running : world.running = true) (atWork : stopAtWork world = true) :
      Staged (({ world with loop := loop } : World).enter id call) := by
    cases call with
    | start => exact ⟨_, late_start_step fits outside taken running⟩
    | stop => exact absurd atWork (by simp [noStop (by simp) running])
    | restart => exact absurd atWork (by simp [noStop (by simp) running])
  cases stage with
  | off =>
      have free := free_of_taken fits taken
      cases call with
      | start => exact ⟨_, begin_start_fits free⟩
      | stop => exact ⟨_, early_stop_step fits outside taken fits.flags.running⟩
      | restart =>
          refine ⟨.starting id loop.tasks.length, ?_⟩
          change Fits (({ world with loop := loop } : World).beginStop id true .task) _
          rw [World.begin_stop_of_idle free.flags.running]
          exact rebuilt_fits free
  | starting op run =>
      have atWork : startAtWork world = true :=
        (standing_iff _ _).mpr ⟨op, _, fits.tasks.1, rfl, rfl⟩
      cases call with
      | start => exact absurd atWork (by simp [noStart (by simp) fits.flags.running])
      | stop => exact ⟨_, early_stop_step fits outside taken fits.flags.running⟩
      | restart => exact absurd atWork (by simp [noStart (by simp) fits.flags.running])
  | on health run =>
      cases call with
      | start => exact ⟨_, late_start_step fits outside taken fits.flags.running⟩
      | stop => exact ⟨_, stop_step fits outside taken false⟩
      | restart => exact ⟨_, stop_step fits outside taken true⟩
  | stoppingHealth op restart health run =>
      exact refused fits.flags.running ((standing_iff _ _).mpr ⟨op, _, fits.tasks.1, rfl, rfl⟩)
  | healthStopped op restart health run =>
      obtain ⟨result, _, known⟩ := fits.tasks.1
      exact refused fits.flags.running ((standing_iff _ _).mpr ⟨op, _, known, rfl, rfl⟩)
  | stoppingRun op restart run =>
      exact refused fits.flags.running ((standing_iff _ _).mpr ⟨op, _, fits.tasks.1, rfl, rfl⟩)
  | runStopped op restart run =>
      obtain ⟨result, _, known⟩ := fits.tasks.1
      exact refused fits.flags.running ((standing_iff _ _).mpr ⟨op, _, known, rfl, rfl⟩)

/-- A step of a gateway whose calls are apart and whose failed checks stay below
the threshold leads from a stage to a stage. -/
theorem fits_step {world next : World} {stage : Stage} {event : Event} (fits : Fits world stage)
    (apart : Apart world event)
    (mild : checkFails world event = true → world.failures + 1 < world.threshold)
    (stepped : world.step event = some next) : Staged next := by
  cases event with
  | called call =>
      cases stepped
      exact ⟨stage, called_step fits call⟩
  | added =>
      obtain ⟨idle, rfl⟩ := World.added_cases stepped
      exact ⟨stage, added_step fits idle⟩
  | fired id =>
      obtain ⟨loop, fired, rfl⟩ := Option.map_eq_some_iff.mp stepped
      exact ⟨stage, fired_step fits fired⟩
  | ran place choice =>
      obtain ⟨loop, id, pc, signal, entry, rfl⟩ := World.ran_cases stepped
      obtain ⟨_, waiters, taken⟩ := Loop.take_ready_cases fits.queued entry
      by_cases role : id ∈ stage.roles
      · refine role_step fits role taken choice fun sleeps value unhealthy => mild ?_
        subst sleeps value
        simp [checkFails, resumed_at_of_taken entry, unhealthy]
      · exact call_step fits role entry taken apart

structure StartedOnce (world : World) : Prop where
  alternate : ∀ component, Alternates component world.calls
  oneRun : ∀ id task, world.loop.task id = some task → task.alive = true →
    runsOn world.node task.pc = true → (world.core world.node).runTask = some id
  oneHealth : ∀ id task, world.loop.task id = some task → task.alive = true →
    inHealthLoop task.pc = true → world.healthTask = some id

theorem logged_of_flags {world : World} {stage : Stage} (flags : FlagsOf world stage) :
    ∃ on, Logged world.calls world.components on := by
  cases stage <;> exact ⟨_, flags.logged⟩

theorem role_of_alive {world : World} {stage : Stage} {id : TaskId} {task : TaskState Pc}
    (fits : Fits world stage) (known : world.loop.task id = some task) (alive : task.alive = true)
    (notEntry : ∀ call, task.pc ≠ .entry call) : id ∈ stage.roles := by
  by_contra outside
  obtain ⟨call, rfl⟩ := fits.others id task outside known alive
  exact notEntry call rfl

theorem not_run_at_work {pc : Pc} {node : ContextId} (atWork : isAtWork pc = true) :
    runsOn node pc = false := by
  cases pc <;> simp_all [isAtWork, runsOn]

theorem not_loop_at_work {pc : Pc} (atWork : isAtWork pc = true) : inHealthLoop pc = false := by
  unfold isAtWork at atWork
  split at atWork <;> simp_all [inHealthLoop]

theorem not_loop_on_run {pc : Pc} {node : ContextId} (runs : runsOn node pc = true) :
    inHealthLoop pc = false := by
  cases pc <;> simp_all [runsOn, inHealthLoop]

theorem started_once_of_fits {world : World} {stage : Stage} (fits : Fits world stage) :
    StartedOnce world where
  alternate := by
    obtain ⟨on, logged⟩ := logged_of_flags fits.flags
    exact logged.alternates
  oneRun := by
    intro id task known alive runs
    have role := role_of_alive fits known alive (by rintro call same; simp [same, runsOn] at runs)
    obtain ⟨held, found, kind⟩ := role_cases fits role
    rw [known, Option.some.injEq] at found
    subst found
    rcases kind with ⟨_, isRun⟩ | ⟨health, _⟩ | call
    · exact isRun
    · rcases health with same | same <;> simp [same, runsOn] at runs
    · exact absurd runs (by simp [not_run_at_work call])
  oneHealth := by
    intro id task known alive loops
    have role := role_of_alive fits known alive (by
      rintro call same
      simp [same, inHealthLoop] at loops)
    obtain ⟨held, found, kind⟩ := role_cases fits role
    rw [known, Option.some.injEq] at found
    subst found
    rcases kind with ⟨runs, _⟩ | ⟨_, isHealth⟩ | call
    · exact absurd loops (by simp [not_loop_on_run runs])
    · exact isHealth
    · exact absurd loops (by simp [not_loop_at_work call])

/-- Whatever calls are made, and however their steps interleave: when they are
apart, nothing is started or stopped twice. -/
theorem started_once_of_calls_apart (threshold components : Nat) (events : List Event)
    (guarded : Guarded World.step
      (fun world event => Apart world event ∧ checkFails world event = false)
      (World.fresh threshold components) events) :
    Always World.step StartedOnce (World.fresh threshold components) events := by
  refine always_of_guarded World.step ?_ ?_ (staged_fresh threshold components) guarded
  · rintro world event next ⟨stage, fits⟩ ⟨apart, healthy⟩ stepped
    exact fits_step fits apart (by simp [healthy]) stepped
  · rintro world ⟨stage, fits⟩
    exact started_once_of_fits fits

def healthyStep : Event := .ran 0 ⟨true, some .cancelled⟩

/-- A `stop` and a second `start` are called while the first `start` is pending. -/
def stopAfterStart : List Event :=
  [.called .start, .called .stop, healthyStep, healthyStep, .called .stop, healthyStep,
    healthyStep, .called .start, healthyStep, healthyStep, healthyStep, healthyStep, healthyStep]

theorem started_once_of_stop_after_start :
    Always World.step StartedOnce (World.fresh 3 2) stopAfterStart :=
  started_once_of_calls_apart 3 2 stopAfterStart (by decide)

/-- Two `start` calls, each of which runs while the other is pending. -/
def overlappingStarts : List Event :=
  [.called .start, .called .start, healthyStep, healthyStep, healthyStep, healthyStep, healthyStep,
    healthyStep]

theorem overlapping_starts_start_twice :
    Guarded World.step (fun world event => checkFails world event = false) (World.fresh 3 1)
        overlappingStarts ∧
      ∃ world, run World.step (World.fresh 3 1) overlappingStarts = some world ∧
        world.calls = [(0, .start), (0, .start)] ∧ ¬ StartedOnce world := by
  refine ⟨by decide, ?_⟩
  have logged : (run World.step (World.fresh 3 1) overlappingStarts).map World.calls =
      some [(0, .start), (0, .start)] := by decide
  obtain ⟨world, reached, calls⟩ := Option.map_eq_some_iff.mp logged
  refine ⟨world, reached, calls, fun once => ?_⟩
  have alternate := once.alternate 0
  rw [calls] at alternate
  exact absurd alternate (by decide)

end RemoteIface.Gateway.Overlap
