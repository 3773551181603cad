import RemoteIface.Gateway.Stages

/-!
What a step of the event loop does to the stage of a gateway. The calls and the
health loop move it on; a `_run` task that nothing has cancelled, a wakeup, a
new call and a new component leave it where it is.
-/

namespace RemoteIface.Gateway.StageSteps

set_option autoImplicit false

open RemoteIface.Library.EventLoop
open RemoteIface.Gateway.Lifecycle
open RemoteIface.Gateway.Components
open RemoteIface.Gateway.Stages

def calmRun : Stage → Option TaskId
  | .starting _ run => some run
  | .on _ run => some run
  | .stoppingHealth _ _ _ run => some run
  | .healthStopped _ _ _ run => some run
  | _ => none

theorem calm_run_ne {loop : Loop Pc} {node : ContextId} {run other : TaskId} {task : TaskState Pc}
    (calm : CalmRun loop node run) (known : loop.task other = some task)
    (differs : task.pc ≠ .runEntry node ∧ task.pc ≠ .running node) : other ≠ run := by
  obtain ⟨pc, status, runKnown, runAt, _⟩ := calm
  refine ne_of_pc known runKnown fun same => ?_
  rcases runAt with rfl | rfl
  · exact differs.1 same
  · exact differs.2 same

theorem health_ne_run {loop : Loop Pc} {node : ContextId} {health run : TaskId}
    (calmHealth : CalmHealth loop health) (calm : CalmRun loop node run) : health ≠ run := by
  obtain ⟨pc, status, known, stands, _⟩ := calmHealth
  refine calm_run_ne calm known ?_
  rcases stands with rfl | rfl <;> simp

theorem ending_health_ne_run {loop : Loop Pc} {node : ContextId} {health run op : TaskId}
    (ending : EndingHealth loop health op) (calm : CalmRun loop node run) : health ≠ run := by
  obtain ⟨pc, known, stands⟩ := ending
  refine calm_run_ne calm known ?_
  rcases stands with rfl | rfl <;> simp

/-- The `_run` task goes from one of its awaits to another. -/
theorem tasks_run_moves {loop next : Loop Pc} {node : ContextId} {stage : Stage} {run : TaskId}
    {held new : TaskState Pc} (tasks : TasksOf loop node stage) (isRun : calmRun stage = some run)
    (known : loop.task run = some held) (alive : held.alive = true)
    (updated : ∀ other, next.task other = if run = other then some new else loop.task other)
    (calm : CalmRun next node run) : TasksOf next node stage := by
  have same : ∀ other, other ≠ run → next.task other = loop.task other := by
    intro other different
    rw [updated, if_neg different.symm]
  have dead : ∀ other, Dead loop other → Dead next other :=
    fun _ => dead_update known alive updated
  cases stage with
  | starting op run' =>
      cases isRun
      exact ⟨(same op (calm_run_ne tasks.2 tasks.1 (by simp))).trans tasks.1, calm⟩
  | on health run' =>
      cases isRun
      exact ⟨calm_health_of_same tasks.1 (same health (health_ne_run tasks.1 tasks.2)), calm⟩
  | stoppingHealth op restart health run' =>
      cases isRun
      obtain ⟨awaits, ending, calmBefore⟩ := tasks
      have healthNe := ending_health_ne_run ending calmBefore
      obtain ⟨pc, healthKnown, stands⟩ := ending
      exact ⟨(same op (calm_run_ne calmBefore awaits (by simp))).trans awaits,
        ⟨pc, (same health healthNe).trans healthKnown, stands⟩, calm⟩
  | healthStopped op restart health run' =>
      cases isRun
      obtain ⟨⟨signal, fine, opKnown⟩, ended, calmBefore⟩ := tasks
      exact ⟨⟨signal, fine, (same op (calm_run_ne calmBefore opKnown (by simp))).trans opKnown⟩,
        dead _ ended, calm⟩
  | off => cases isRun
  | stoppingRun op restart run' => cases isRun
  | runStopped op restart run' => cases isRun

theorem run_is_role {stage : Stage} {run : TaskId} (isRun : calmRun stage = some run) :
    run ∈ stage.roles := by
  cases stage <;> cases isRun <;> simp [Stage.roles]

theorem role_moves {world next : World} {stage : Stage} {id : TaskId} {new : TaskState Pc}
    (fits : Fits world stage) (role : id ∈ stage.roles)
    (queued : next.loop.Queued)
    (updated : ∀ other, next.loop.task other =
      if id = other then some new else world.loop.task other)
    (flags : FlagsOf next stage) (tasks : TasksOf next.loop next.node stage) : Fits next stage where
  queued := queued
  others := fits.others.update updated (.inl role) fun _ member => .inl member
  flags := flags
  tasks := tasks

theorem flags_of_loop {world : World} {stage : Stage} (flags : FlagsOf world stage)
    (failures : Nat) (loop : Loop Pc) :
    FlagsOf { world with failures := failures, loop := loop } stage := by
  cases stage <;> exact flags_on_loop flags failures loop

theorem calm_run_of_fits {world : World} {stage : Stage} {run : TaskId} (fits : Fits world stage)
    (isRun : calmRun stage = some run) : CalmRun world.loop world.node run := by
  have tasks := fits.tasks
  cases stage <;> cases isRun <;> simp only [TasksOf] at tasks <;> tauto

/-- A `_run` task that nothing has cancelled runs to its next await. -/
theorem calm_run_step {world : World} {loop : Loop Pc} {stage : Stage} {run : TaskId} {pc : Pc}
    {signal : Signal} {waiters : List TaskId} (fits : Fits world stage)
    (isRun : calmRun stage = some run)
    (taken : Loop.Taken world.loop loop run pc signal waiters) (choice : Choice) :
    Fits (({ world with loop := loop } : World).resume run choice pc signal) stage := by
  have calm := calm_run_of_fits fits isRun
  obtain ⟨runPc, status, known, stands, calmStatus⟩ := calm
  have held := taken.known
  rw [known, Option.some.injEq, TaskState.mk.injEq] at held
  obtain ⟨rfl, rfl, rfl⟩ := held
  have isValue : signal = .value := by simpa using calmStatus
  subst isValue
  have suspended : ({ world with loop := loop } : World).resume run choice runPc .value =
      { world with loop := loop.suspend run (.running world.node) } := by
    rcases stands with rfl | rfl <;> rfl
  rw [suspended]
  have updated := taken.suspend (.running world.node)
  exact role_moves fits (run_is_role isRun)
    (Loop.queued_suspend taken.queued taken.runs _) updated
    (flags_of_loop fits.flags world.failures _) (tasks_run_moves fits.tasks isRun known rfl updated
      ⟨_, _, by rw [updated, if_pos rfl], .inr rfl, .inr rfl⟩)

theorem calm_run_wakes {world : World} {loop : Loop Pc} {stage : Stage} {run : TaskId}
    (fits : Fits world stage) (isRun : calmRun stage = some run) (queued : loop.Queued)
    {held : TaskState Pc} (known : world.loop.task run = some held)
    (pending : held.status = .pending)
    (updated : ∀ other, loop.task other =
      if run = other then some { held with status := .scheduled .value }
      else world.loop.task other) :
    Fits { world with loop := loop } stage := by
  obtain ⟨pc, status, found, stands, _⟩ := calm_run_of_fits fits isRun
  rw [known, Option.some.injEq] at found
  subst found
  refine role_moves fits (run_is_role isRun) queued updated
    (flags_of_loop fits.flags world.failures _) (tasks_run_moves fits.tasks isRun known ?_ updated
      ⟨pc, _, by rw [updated, if_pos rfl], stands, .inl rfl⟩)
  simp only at pending
  simp [TaskState.alive, Status.alive, pending]

/-- The health task of a running gateway goes from one of its awaits to another. -/
theorem health_moves {world : World} {loop : Loop Pc} {health run : TaskId} {pc : Pc}
    {status : Status} (fits : Fits world (.on health run)) (failures : Nat) (queued : loop.Queued)
    (stands : pc = .healthEntry ∨ pc = .healthSleep)
    (calm : status = .scheduled .value ∨ status = .pending)
    (updated : ∀ other, loop.task other =
      if health = other then some ⟨pc, status, []⟩ else world.loop.task other) :
    Fits { world with failures := failures, loop := loop } (.on health run) := by
  obtain ⟨calmHealth, calmRun⟩ := fits.tasks
  have different := health_ne_run calmHealth calmRun
  refine role_moves fits (by simp [Stage.roles]) queued updated
    (flags_of_loop fits.flags failures _) ⟨⟨pc, status, ?_, stands, calm⟩, ?_⟩
  · change loop.task health = _
    rw [updated, if_pos rfl]
  · refine calm_run_of_same calmRun ?_
    change loop.task run = _
    rw [updated, if_neg different]

theorem calm_health_step {world : World} {loop : Loop Pc} {health run : TaskId} {pc : Pc}
    {signal : Signal} {waiters : List TaskId} (fits : Fits world (.on health run))
    (taken : Loop.Taken world.loop loop health pc signal waiters) (choice : Choice)
    (mild : pc = .healthSleep → choice.healthy = false → world.failures + 1 < world.threshold) :
    Fits (({ world with loop := loop } : World).resume health choice pc signal) (.on health run) := by
  obtain ⟨⟨healthPc, status, known, stands, calmStatus⟩, _⟩ := fits.tasks
  have held := taken.known
  rw [known, Option.some.injEq, TaskState.mk.injEq] at held
  obtain ⟨rfl, rfl, rfl⟩ := held
  have isValue : signal = .value := by simpa using calmStatus
  subst isValue
  have suspended : ∃ failures, ({ world with loop := loop } : World).resume health choice healthPc
      .value = { world with failures := failures, loop := loop.suspend health .healthSleep } := by
    rcases stands with rfl | rfl
    · exact ⟨world.failures, rfl⟩
    · simp only [World.resume, World.checkHealth]
      split
      · exact ⟨0, rfl⟩
      · rename_i unhealthy
        rw [if_neg (Nat.not_le.mpr (mild rfl (by simpa using unhealthy)))]
        exact ⟨world.failures + 1, rfl⟩
  obtain ⟨failures, suspended⟩ := suspended
  rw [suspended]
  exact health_moves fits failures (Loop.queued_suspend taken.queued taken.runs _) (.inr rfl)
    (.inr rfl) (taken.suspend _)

theorem ending_health_step {world : World} {loop : Loop Pc} {op health run : TaskId}
    {restart : Bool} {pc : Pc} {signal : Signal} {waiters : List TaskId}
    (fits : Fits world (.stoppingHealth op restart health run))
    (taken : Loop.Taken world.loop loop health pc signal waiters) (choice : Choice) :
    Fits (({ world with loop := loop } : World).resume health choice pc signal)
      (.healthStopped op restart health run) := by
  obtain ⟨awaits, ending, calm⟩ := fits.tasks
  have healthRun := ending_health_ne_run ending calm
  have opRun := calm_run_ne calm awaits (by simp)
  obtain ⟨healthPc, known, stands⟩ := ending
  have opHealth : op ≠ health := by
    refine ne_of_pc awaits known ?_
    rcases stands with rfl | rfl <;> simp
  have held := taken.known
  rw [known, Option.some.injEq, TaskState.mk.injEq, Status.scheduled.injEq] at held
  obtain ⟨rfl, rfl, rfl⟩ := held
  have finished : ∃ result, result ≠ .raised ∧ ({ world with loop := loop } : World).resume health
      choice healthPc .cancelled = { world with loop := loop.finish health result } := by
    rcases stands with rfl | rfl
    · exact ⟨.cancelled, by simp, rfl⟩
    · exact ⟨.value, by simp, rfl⟩
  obtain ⟨result, fine, finished⟩ := finished
  rw [finished]
  have updated := taken.finish_one opHealth awaits result
  have opThere : loop.task op = some ⟨.stopHealth restart .task, .awaiting health, []⟩ :=
    (taken.of_ne opHealth.symm).trans awaits
  exact {
    queued := Loop.queued_finish_one taken.queued taken.runs opHealth opThere (by simp) result
    others := by
      intro other task outside found alive
      simp only [Stage.roles, List.mem_cons, List.not_mem_nil, or_false, not_or] at outside
      change Loop.task _ other = some task at found
      rw [updated] at found
      split at found
      · cases found
        cases alive
      · rename_i notHealth
        rw [if_neg fun same => outside.1 same.symm] at found
        refine fits.others other task ?_ found alive
        simp only [Stage.roles, List.mem_cons, List.not_mem_nil, or_false, not_or]
        exact ⟨outside.1, fun same => notHealth same.symm, outside.2⟩
    flags := flags_on_loop fits.flags _ _
    tasks := by
      have ended : (loop.finish health result).task health =
          some ⟨healthPc, .done result, []⟩ := by
        rw [updated, if_pos rfl]
      refine ⟨⟨result, fine, ?_⟩, ⟨_, ended, rfl⟩, calm_run_of_same calm ?_⟩
      · rw [updated, if_neg opHealth.symm, if_pos rfl]
      · rw [updated, if_neg healthRun, if_neg opRun] }

/-- The cancelled `_run` task suspends once more, or ends and wakes `stop`. -/
theorem ending_run_step {world : World} {loop : Loop Pc} {op run : TaskId} {restart : Bool}
    {pc : Pc} {signal : Signal} {waiters : List TaskId}
    (fits : Fits world (.stoppingRun op restart run))
    (taken : Loop.Taken world.loop loop run pc signal waiters) (choice : Choice) :
    Fits (({ world with loop := loop } : World).resume run choice pc signal)
        (.stoppingRun op restart run) ∨
      Fits (({ world with loop := loop } : World).resume run choice pc signal)
        (.runStopped op restart run) := by
  obtain ⟨awaits, runPc, status, known, stands, ending⟩ := fits.tasks
  have opRun : op ≠ run := by
    refine ne_of_pc awaits known ?_
    rcases stands with rfl | rfl | rfl <;> simp
  have held := taken.known
  rw [known, Option.some.injEq, TaskState.mk.injEq] at held
  obtain ⟨rfl, rfl, rfl⟩ := held
  have notRaised : signal ≠ .raised := by
    rintro rfl
    simp at ending
  have moved : (∃ new, (new = .running world.node ∨ new = .runClosing world.node) ∧
      ({ world with loop := loop } : World).resume run choice runPc signal =
        { world with loop := loop.suspend run new }) ∨
      ∃ result, result ≠ .raised ∧ ({ world with loop := loop } : World).resume run choice runPc
        signal = { world with loop := loop.finish run result } := by
    have closing : (∃ new, (new = .running world.node ∨ new = .runClosing world.node) ∧
        ({ world with loop := loop } : World).runStep run world.node choice.runEnds =
          { world with loop := loop.suspend run new }) ∨
        ∃ result, result ≠ .raised ∧ ({ world with loop := loop } : World).runStep run world.node
          choice.runEnds = { world with loop := loop.finish run result } := by
      cases choice.runEnds with
      | none => exact .inl ⟨_, .inr rfl, rfl⟩
      | some ended => exact .inr ⟨ended.signal, by cases ended <;> simp [RunEnd.signal], rfl⟩
    rcases stands with rfl | rfl | rfl <;> cases signal
    · exact .inl ⟨_, .inl rfl, rfl⟩
    · exact .inr ⟨.cancelled, by simp, rfl⟩
    · exact absurd rfl notRaised
    · exact .inl ⟨_, .inl rfl, rfl⟩
    · exact closing
    · exact absurd rfl notRaised
    · exact closing
    · exact closing
    · exact absurd rfl notRaised
  rcases moved with ⟨new, newStands, moved⟩ | ⟨result, fine, moved⟩
  · refine .inl ?_
    rw [moved]
    have updated := taken.suspend new
    refine role_moves fits (by simp [Stage.roles]) (Loop.queued_suspend taken.queued taken.runs _)
      updated (flags_of_loop fits.flags world.failures _) ⟨?_, new, .pending, ?_, .inr newStands,
        .inr (.inr rfl)⟩
    · exact (updated op).trans (by rw [if_neg opRun.symm, awaits])
    · exact (updated run).trans (if_pos rfl)
  · refine .inr ?_
    rw [moved]
    have updated := taken.finish_one opRun awaits result
    have opThere : loop.task op = some ⟨.nodeStop world.node restart .task, .awaiting run, []⟩ :=
      (taken.of_ne opRun.symm).trans awaits
    exact {
      queued := Loop.queued_finish_one taken.queued taken.runs opRun opThere (by simp) result
      others := by
        intro other task outside found alive
        simp only [Stage.roles, List.mem_cons, List.not_mem_nil, or_false] at outside
        change Loop.task _ other = some task at found
        rw [updated] at found
        split at found
        · cases found
          cases alive
        · rename_i notRun
          rw [if_neg fun same => outside same.symm] at found
          refine fits.others other task ?_ found alive
          simp only [Stage.roles, List.mem_cons, List.not_mem_nil, or_false, not_or]
          exact ⟨outside, fun same => notRun same.symm⟩
      flags := flags_on_loop fits.flags _ _
      tasks := by
        have ended : (loop.finish run result).task run = some ⟨runPc, .done result, []⟩ := by
          rw [updated, if_pos rfl]
        refine ⟨⟨result, fine, ?_⟩, ⟨_, ended, rfl⟩⟩
        rw [updated, if_neg opRun.symm, if_pos rfl] }

/-- The environment wakes the cancelled `_run` task in its clean-up. -/
theorem ending_run_wakes {world : World} {loop : Loop Pc} {op run : TaskId} {restart : Bool}
    (fits : Fits world (.stoppingRun op restart run)) (queued : loop.Queued)
    {held : TaskState Pc} (known : world.loop.task run = some held)
    (updated : ∀ other, loop.task other =
      if run = other then some { held with status := .scheduled .value }
      else world.loop.task other) :
    Fits { world with loop := loop } (.stoppingRun op restart run) := by
  obtain ⟨awaits, pc, status, found, stands, _⟩ := fits.tasks
  have opRun : op ≠ run := by
    refine ne_of_pc awaits found ?_
    rcases stands with rfl | rfl | rfl <;> simp
  rw [known, Option.some.injEq] at found
  subst found
  refine role_moves fits (by simp [Stage.roles]) queued updated
    (flags_of_loop fits.flags world.failures _) ⟨?_, pc, _, ?_, stands, .inl rfl⟩
  · exact (updated op).trans (by rw [if_neg opRun.symm, awaits])
  · exact (updated run).trans (if_pos rfl)

theorem others_of_taken {world : World} {loop : Loop Pc} {id : TaskId} {pc : Pc} {signal : Signal}
    {waiters roles : List TaskId} (others : Others world.loop roles)
    (taken : Loop.Taken world.loop loop id pc signal waiters) : Others loop (id :: roles) := by
  intro other task outside found alive
  rw [List.mem_cons, not_or] at outside
  rw [taken.of_ne fun same => outside.1 same.symm] at found
  exact others other task outside.2 found alive

theorem free_of_taken {world : World} {loop : Loop Pc} {id : TaskId} {pc : Pc} {signal : Signal}
    (fits : Fits world .off) (taken : Loop.Taken world.loop loop id pc signal []) :
    Free { world with loop := loop } id where
  queued := taken.queued
  runs := ⟨pc, taken.runs⟩
  others := others_of_taken fits.others taken
  flags := flags_on_loop fits.flags _ _

theorem others_of_taken_role {world : World} {loop : Loop Pc} {id : TaskId} {pc : Pc}
    {signal : Signal} {waiters roles : List TaskId} (others : Others world.loop roles)
    (role : id ∈ roles) (taken : Loop.Taken world.loop loop id pc signal waiters) :
    Others loop roles := by
  intro other task outside found alive
  refine others_of_taken others taken other task ?_ found alive
  rw [List.mem_cons, not_or]
  exact ⟨fun same => outside (same ▸ role), outside⟩

theorem calm_run_of_taken {world : World} {loop : Loop Pc} {run id : TaskId} {pc : Pc}
    {signal : Signal} {waiters : List TaskId} {node : ContextId}
    (calm : CalmRun world.loop node run)
    (taken : Loop.Taken world.loop loop id pc signal waiters) (different : id ≠ run) :
    CalmRun loop node run :=
  calm_run_of_same calm (taken.of_ne different)

theorem starting_step {world : World} {loop : Loop Pc} {op run : TaskId} {pc : Pc}
    {signal : Signal} {waiters : List TaskId} (fits : Fits world (.starting op run))
    (taken : Loop.Taken world.loop loop op pc signal waiters) (choice : Choice) :
    Fits (({ world with loop := loop } : World).resume op choice pc signal)
      (.on loop.tasks.length run) := by
  obtain ⟨known, calm⟩ := fits.tasks
  have held := taken.known
  rw [known, Option.some.injEq, TaskState.mk.injEq, Status.scheduled.injEq] at held
  obtain ⟨rfl, rfl, rfl⟩ := held
  have different := calm_run_ne calm known (by simp)
  change Fits (({ world with loop := loop } : World).nodeStarted op world.node .task) _
  exact node_started_fits taken.queued taken.runs
    (calm_run_of_taken calm taken different) different
    (others_of_taken_role fits.others (by simp) taken) (flags_on_loop fits.flags _ _)

theorem health_stopped_step {world : World} {loop : Loop Pc} {op health run : TaskId}
    {restart : Bool} {pc : Pc} {signal : Signal} {waiters : List TaskId}
    (fits : Fits world (.healthStopped op restart health run))
    (taken : Loop.Taken world.loop loop op pc signal waiters) (choice : Choice) :
    Fits (({ world with loop := loop } : World).resume op choice pc signal)
      (.stoppingRun op restart run) := by
  obtain ⟨⟨result, fine, known⟩, _, calm⟩ := fits.tasks
  have held := taken.known
  rw [known, Option.some.injEq, TaskState.mk.injEq, Status.scheduled.injEq] at held
  obtain ⟨rfl, rfl, rfl⟩ := held
  have different := calm_run_ne calm known (by simp)
  have goesOn : ({ world with loop := loop } : World).resume op choice (.stopHealth restart .task)
      result = ({ world with loop := loop } : World).stopComponents op restart .task := by
    cases result
    · rfl
    · rfl
    · exact absurd rfl fine
  rw [goesOn]
  exact stop_components_fits restart taken.queued taken.runs
    (calm_run_of_taken calm taken different) different
    (others_of_taken_role fits.others (by simp) taken) (flags_on_loop fits.flags _ _)

/-- `stop` goes on after the `_run` task has ended; a `restart` starts again. -/
theorem run_stopped_step {world : World} {loop : Loop Pc} {op run : TaskId} {restart : Bool}
    {pc : Pc} {signal : Signal} {waiters : List TaskId}
    (fits : Fits world (.runStopped op restart run))
    (taken : Loop.Taken world.loop loop op pc signal waiters) (choice : Choice) :
    Fits (({ world with loop := loop } : World).resume op choice pc signal)
      (if restart then .starting op loop.tasks.length else .off) := by
  obtain ⟨⟨result, fine, known⟩, _⟩ := fits.tasks
  have held := taken.known
  rw [known, Option.some.injEq, TaskState.mk.injEq, Status.scheduled.injEq] at held
  obtain ⟨rfl, rfl, rfl⟩ := held
  have goesOn : ({ world with loop := loop } : World).resume op choice
      (.nodeStop world.node restart .task) result =
        ({ world with loop := loop } : World).nodeStopped op world.node restart .task := by
    cases result
    · rfl
    · rfl
    · exact absurd rfl fine
  rw [goesOn]
  have free : Free { ({ world with loop := loop } : World).setCore world.node ⟨false, none⟩ with
      running := false } op := by
    refine ⟨taken.queued, ⟨_, taken.runs⟩, ?_, rfl, fits.flags.healthTask, ?_, ?_,
      fits.flags.logged⟩
    · exact others_of_taken_role fits.others (by simp) taken
    · simp [World.core, World.setCore, fits.flags.known]
    · simpa [World.setCore] using fits.flags.known
  cases restart with
  | true => exact rebuilt_fits free
  | false => exact free_fits free

theorem role_cases {world : World} {stage : Stage} {role : TaskId} (fits : Fits world stage)
    (member : role ∈ stage.roles) :
    ∃ task, world.loop.task role = some task ∧
      ((runsOn world.node task.pc = true ∧ (world.core world.node).runTask = some role) ∨
        ((task.pc = .healthEntry ∨ task.pc = .healthSleep) ∧ world.healthTask = some role) ∨
          isAtWork task.pc = true) := by
  have runs {loop : Loop Pc} {node : ContextId} {run : TaskId} (calm : CalmRun loop node run) :
      ∃ task, loop.task run = some task ∧ runsOn node task.pc = true := by
    obtain ⟨pc, status, known, stands, _⟩ := calm
    exact ⟨_, known, by rcases stands with rfl | rfl <;> simp [runsOn]⟩
  have tasks := fits.tasks
  have flags := fits.flags
  cases stage with
  | off => simp [Stage.roles] at member
  | starting op run =>
      simp only [Stage.roles, List.mem_cons, List.not_mem_nil, or_false] at member
      rcases member with rfl | rfl
      · exact ⟨_, tasks.1, .inr (.inr rfl)⟩
      · obtain ⟨task, known, runs⟩ := runs tasks.2
        exact ⟨task, known, .inl ⟨runs, by rw [flags.core]⟩⟩
  | on health run =>
      simp only [Stage.roles, List.mem_cons, List.not_mem_nil, or_false] at member
      rcases member with rfl | rfl
      · obtain ⟨pc, status, known, stands, _⟩ := tasks.1
        exact ⟨_, known, .inr (.inl ⟨stands, flags.healthTask⟩)⟩
      · obtain ⟨task, known, runs⟩ := runs tasks.2
        exact ⟨task, known, .inl ⟨runs, by rw [flags.core]⟩⟩
  | stoppingHealth op restart health run =>
      simp only [Stage.roles, List.mem_cons, List.not_mem_nil, or_false] at member
      rcases member with rfl | rfl | rfl
      · exact ⟨_, tasks.1, .inr (.inr rfl)⟩
      · obtain ⟨pc, known, stands⟩ := tasks.2.1
        exact ⟨_, known, .inr (.inl ⟨stands, flags.healthTask⟩)⟩
      · obtain ⟨task, known, runs⟩ := runs tasks.2.2
        exact ⟨task, known, .inl ⟨runs, by rw [flags.core]⟩⟩
  | healthStopped op restart health run =>
      simp only [Stage.roles, List.mem_cons, List.not_mem_nil, or_false] at member
      rcases member with rfl | rfl
      · obtain ⟨signal, _, known⟩ := tasks.1
        exact ⟨_, known, .inr (.inr rfl)⟩
      · obtain ⟨task, known, runs⟩ := runs tasks.2.2
        exact ⟨task, known, .inl ⟨runs, by rw [flags.core]⟩⟩
  | stoppingRun op restart run =>
      simp only [Stage.roles, List.mem_cons, List.not_mem_nil, or_false] at member
      rcases member with rfl | rfl
      · exact ⟨_, tasks.1, .inr (.inr rfl)⟩
      · obtain ⟨pc, status, known, stands, _⟩ := tasks.2
        refine ⟨_, known, .inl ⟨?_, by rw [flags.core]⟩⟩
        rcases stands with rfl | rfl | rfl <;> simp [runsOn]
  | runStopped op restart run =>
      simp only [Stage.roles, List.mem_cons, List.not_mem_nil, or_false] at member
      subst member
      obtain ⟨signal, _, known⟩ := tasks.1
      exact ⟨_, known, .inr (.inr rfl)⟩

theorem called_step {world : World} {stage : Stage} (fits : Fits world stage) (call : Call) :
    Fits { world with loop := world.loop.create (.entry call) } stage where
  queued := Loop.queued_create fits.queued _
  others := by
    intro other task outside found alive
    change Loop.task _ other = some task at found
    rw [Loop.task_create] at found
    split at found
    · cases found
      exact ⟨call, rfl⟩
    · exact fits.others other task outside found alive
  flags := flags_of_loop fits.flags world.failures _
  tasks := by
    refine fits.tasks.of_keeps ⟨fun role member => ?_, fun id dead => ?_⟩
    · obtain ⟨task, known, _⟩ := role_cases fits member
      exact (Loop.task_create world.loop _ role).trans (if_neg (Loop.ne_new_of_task known))
    · refine dead_of_same dead ?_
      obtain ⟨task, known, _⟩ := dead
      exact (Loop.task_create world.loop _ id).trans (if_neg (Loop.ne_new_of_task known))

theorem added_step {world : World} {stage : Stage} (fits : Fits world stage)
    (idle : world.running = false) :
    Fits { world with components := world.components + 1 } stage := by
  have more {nodeStarted : Bool} {health run : Option TaskId}
      (flags : Flags world false health run nodeStarted false) :
      Flags { world with components := world.components + 1 } false health run nodeStarted false :=
    ⟨flags.running, flags.healthTask, flags.core, flags.known, flags.logged.added _⟩
  refine ⟨fits.queued, fits.others, ?_, fits.tasks⟩
  have flags := fits.flags
  cases stage with
  | off => exact more flags
  | starting op run => exact more flags
  | on health run => exact absurd (idle.symm.trans flags.running) (by simp)
  | stoppingHealth op restart health run => exact absurd (idle.symm.trans flags.running) (by simp)
  | healthStopped op restart health run => exact absurd (idle.symm.trans flags.running) (by simp)
  | stoppingRun op restart run => exact absurd (idle.symm.trans flags.running) (by simp)
  | runStopped op restart run => exact absurd (idle.symm.trans flags.running) (by simp)

/-- Only the `_run` task and the health task wait for the environment. -/
theorem fired_step {world : World} {loop : Loop Pc} {stage : Stage} {id : TaskId}
    (fits : Fits world stage) (fired : world.loop.fire id = some loop) :
    Fits { world with loop := loop } stage := by
  obtain ⟨held, known, pending, queued, updated⟩ := Loop.queued_fire fits.queued fired
  have alive : held.alive = true := by simp [TaskState.alive, Status.alive, pending]
  have asleep {pc : Pc} {status : Status} {waiters : List TaskId}
      (found : world.loop.task id = some ⟨pc, status, waiters⟩) : status = .pending := by
    rw [known, Option.some.injEq] at found
    subst found
    exact pending
  by_cases isRun : calmRun stage = some id
  · exact calm_run_wakes fits isRun queued known pending updated
  have role : id ∈ stage.roles := by
    by_contra outside
    obtain ⟨call, rfl⟩ := fits.others id held outside known alive
    cases pending
  have tasks := fits.tasks
  cases stage with
  | off => simp [Stage.roles] at role
  | starting op run =>
      simp only [Stage.roles, List.mem_cons, List.not_mem_nil, or_false] at role
      rcases role with rfl | rfl
      · cases asleep tasks.1
      · exact absurd rfl isRun
  | on health run =>
      simp only [Stage.roles, List.mem_cons, List.not_mem_nil, or_false] at role
      rcases role with rfl | rfl
      · obtain ⟨pc, status, found, stands, _⟩ := tasks.1
        rw [known, Option.some.injEq] at found
        subst found
        exact health_moves fits world.failures queued stands (.inl rfl) updated
      · exact absurd rfl isRun
  | stoppingHealth op restart health run =>
      simp only [Stage.roles, List.mem_cons, List.not_mem_nil, or_false] at role
      rcases role with rfl | rfl | rfl
      · cases asleep tasks.1
      · obtain ⟨pc, found, _⟩ := tasks.2.1
        cases asleep found
      · exact absurd rfl isRun
  | healthStopped op restart health run =>
      simp only [Stage.roles, List.mem_cons, List.not_mem_nil, or_false] at role
      rcases role with rfl | rfl
      · obtain ⟨signal, _, found⟩ := tasks.1
        cases asleep found
      · exact absurd rfl isRun
  | stoppingRun op restart run =>
      simp only [Stage.roles, List.mem_cons, List.not_mem_nil, or_false] at role
      rcases role with rfl | rfl
      · cases asleep tasks.1
      · exact ending_run_wakes fits queued known updated
  | runStopped op restart run =>
      simp only [Stage.roles, List.mem_cons, List.not_mem_nil, or_false] at role
      subst role
      obtain ⟨signal, _, found⟩ := tasks.1
      cases asleep found

theorem role_step {world : World} {loop : Loop Pc} {stage : Stage} {id : TaskId} {pc : Pc}
    {signal : Signal} {waiters : List TaskId} (fits : Fits world stage) (role : id ∈ stage.roles)
    (taken : Loop.Taken world.loop loop id pc signal waiters) (choice : Choice)
    (mild : pc = .healthSleep → signal = .value → choice.healthy = false →
      world.failures + 1 < world.threshold) :
    ∃ after, Fits (({ world with loop := loop } : World).resume id choice pc signal) after := by
  have scheduled {found : Pc} {status : Status} {others : List TaskId}
      (known : world.loop.task id = some ⟨found, status, others⟩) : status = .scheduled signal := by
    rw [taken.known, Option.some.injEq, TaskState.mk.injEq] at known
    exact known.2.1.symm
  by_cases isRun : calmRun stage = some id
  · exact ⟨stage, calm_run_step fits isRun taken choice⟩
  have tasks := fits.tasks
  cases stage with
  | off => simp [Stage.roles] at role
  | starting op run =>
      simp only [Stage.roles, List.mem_cons, List.not_mem_nil, or_false] at role
      rcases role with rfl | rfl
      · exact ⟨_, starting_step fits taken choice⟩
      · exact absurd rfl isRun
  | on health run =>
      simp only [Stage.roles, List.mem_cons, List.not_mem_nil, or_false] at role
      rcases role with rfl | rfl
      · have value : signal = .value := by
          obtain ⟨_, status, known, _, calm⟩ := tasks.1
          simpa [scheduled known] using calm
        exact ⟨_, calm_health_step fits taken choice fun sleeps => mild sleeps value⟩
      · exact absurd rfl isRun
  | stoppingHealth op restart health run =>
      simp only [Stage.roles, List.mem_cons, List.not_mem_nil, or_false] at role
      rcases role with rfl | rfl | rfl
      · cases scheduled tasks.1
      · exact ⟨_, ending_health_step fits taken choice⟩
      · exact absurd rfl isRun
  | healthStopped op restart health run =>
      simp only [Stage.roles, List.mem_cons, List.not_mem_nil, or_false] at role
      rcases role with rfl | rfl
      · exact ⟨_, health_stopped_step fits taken choice⟩
      · exact absurd rfl isRun
  | stoppingRun op restart run =>
      simp only [Stage.roles, List.mem_cons, List.not_mem_nil, or_false] at role
      rcases role with rfl | rfl
      · cases scheduled tasks.1
      · rcases ending_run_step fits taken choice with stays | ended
        · exact ⟨_, stays⟩
        · exact ⟨_, ended⟩
  | runStopped op restart run =>
      simp only [Stage.roles, List.mem_cons, List.not_mem_nil, or_false] at role
      subst role
      exact ⟨_, run_stopped_step fits taken choice⟩

end RemoteIface.Gateway.StageSteps
