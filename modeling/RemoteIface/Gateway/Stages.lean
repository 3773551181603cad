import RemoteIface.Gateway.Components

/-!
The stages of a gateway whose calls do not overlap and whose health loop never
restarts it. Each stage names the tasks that matter in it and says at which
await they stand; every other living task is a call that has not begun.
-/

namespace RemoteIface.Gateway.Stages

set_option autoImplicit false

open RemoteIface.Library.EventLoop
open RemoteIface.Gateway.Lifecycle
open RemoteIface.Gateway.Components

def runsOn (node : ContextId) : Pc → Bool
  | .runEntry context => context = node
  | .running context => context = node
  | .runClosing context => context = node
  | _ => false

/-- The awaits of a `_health_loop` task, in a restart of its own too. -/
def inHealthLoop : Pc → Bool
  | .healthEntry => true
  | .healthSleep => true
  | .nodeStart _ .healthLoop => true
  | .stopHealth _ .healthLoop => true
  | .nodeStop _ _ .healthLoop => true
  | _ => false

/-- The awaits of a caller's `start`, `stop` or `restart` that has begun. -/
def isAtWork : Pc → Bool
  | .nodeStart _ .task => true
  | .stopHealth _ .task => true
  | .nodeStop _ _ .task => true
  | _ => false

/-- `op` is the task of the call in progress. -/
inductive Stage where
  | off
  | starting (op run : TaskId)
  | on (health run : TaskId)
  | stoppingHealth (op : TaskId) (restart : Bool) (health run : TaskId)
  | healthStopped (op : TaskId) (restart : Bool) (health run : TaskId)
  | stoppingRun (op : TaskId) (restart : Bool) (run : TaskId)
  | runStopped (op : TaskId) (restart : Bool) (run : TaskId)

def Stage.roles : Stage → List TaskId
  | .off => []
  | .starting op run => [op, run]
  | .on health run => [health, run]
  | .stoppingHealth op _ health run => [op, health, run]
  | .healthStopped op _ _ run => [op, run]
  | .stoppingRun op _ run => [op, run]
  | .runStopped op _ _ => [op]

def Others (loop : Loop Pc) (roles : List TaskId) : Prop :=
  ∀ id task, id ∉ roles → loop.task id = some task → task.alive = true →
    ∃ call, task = ⟨.entry call, .scheduled .value, []⟩

def CalmRun (loop : Loop Pc) (context : ContextId) (run : TaskId) : Prop :=
  ∃ pc status, loop.task run = some ⟨pc, status, []⟩ ∧
    (pc = .runEntry context ∨ pc = .running context) ∧
    (status = .scheduled .value ∨ status = .pending)

def CalmHealth (loop : Loop Pc) (health : TaskId) : Prop :=
  ∃ pc status, loop.task health = some ⟨pc, status, []⟩ ∧
    (pc = .healthEntry ∨ pc = .healthSleep) ∧ (status = .scheduled .value ∨ status = .pending)

def EndingHealth (loop : Loop Pc) (health op : TaskId) : Prop :=
  ∃ pc, loop.task health = some ⟨pc, .scheduled .cancelled, [op]⟩ ∧
    (pc = .healthEntry ∨ pc = .healthSleep)

def EndingRun (loop : Loop Pc) (context : ContextId) (run op : TaskId) : Prop :=
  ∃ pc status, loop.task run = some ⟨pc, status, [op]⟩ ∧
    (pc = .runEntry context ∨ pc = .running context ∨ pc = .runClosing context) ∧
    (status = .scheduled .value ∨ status = .scheduled .cancelled ∨ status = .pending)

def Awaits (loop : Loop Pc) (op : TaskId) (pc : Pc) (target : TaskId) : Prop :=
  loop.task op = some ⟨pc, .awaiting target, []⟩

def Resumes (loop : Loop Pc) (op : TaskId) (pc : Pc) : Prop :=
  ∃ signal, signal ≠ .raised ∧ loop.task op = some ⟨pc, .scheduled signal, []⟩

def Dead (loop : Loop Pc) (id : TaskId) : Prop :=
  ∃ task, loop.task id = some task ∧ task.alive = false

structure Flags (world : World) (running : Bool) (health run : Option TaskId)
    (nodeStarted on : Bool) : Prop where
  running : world.running = running
  healthTask : world.healthTask = health
  core : world.core world.node = ⟨nodeStarted, run⟩
  known : world.node < world.contexts.length
  logged : Logged world.calls world.components on

theorem flags_on_loop {world : World} {running nodeStarted on : Bool} {health run : Option TaskId}
    (flags : Flags world running health run nodeStarted on) (failures : Nat) (loop : Loop Pc) :
    Flags { world with failures := failures, loop := loop } running health run nodeStarted on :=
  ⟨flags.running, flags.healthTask, flags.core, flags.known, flags.logged⟩

def FlagsOf (world : World) : Stage → Prop
  | .off => Flags world false none none false false
  | .starting _ run => Flags world false none (some run) false false
  | .on health run => Flags world true (some health) (some run) true true
  | .stoppingHealth _ _ health run => Flags world true (some health) (some run) true true
  | .healthStopped _ _ health run => Flags world true (some health) (some run) true true
  | .stoppingRun _ _ run => Flags world true none (some run) true false
  | .runStopped _ _ run => Flags world true none (some run) true false

def TasksOf (loop : Loop Pc) (node : ContextId) : Stage → Prop
  | .off => True
  | .starting op run =>
      loop.task op = some ⟨.nodeStart node .task, .scheduled .value, []⟩ ∧ CalmRun loop node run
  | .on health run => CalmHealth loop health ∧ CalmRun loop node run
  | .stoppingHealth op restart health run =>
      Awaits loop op (.stopHealth restart .task) health ∧ EndingHealth loop health op ∧
        CalmRun loop node run
  | .healthStopped op restart health run =>
      Resumes loop op (.stopHealth restart .task) ∧ Dead loop health ∧ CalmRun loop node run
  | .stoppingRun op restart run =>
      Awaits loop op (.nodeStop node restart .task) run ∧ EndingRun loop node run op
  | .runStopped op restart run =>
      Resumes loop op (.nodeStop node restart .task) ∧ Dead loop run

structure Fits (world : World) (stage : Stage) : Prop where
  queued : world.loop.Queued
  others : Others world.loop stage.roles
  flags : FlagsOf world stage
  tasks : TasksOf world.loop world.node stage

theorem fits_fresh (threshold components : Nat) : Fits (World.fresh threshold components) .off where
  queued := Loop.queued_empty
  others := by
    intro id task _ known
    simp [World.fresh, Loop.task, Loop.empty] at known
  flags := ⟨rfl, rfl, rfl, Nat.one_pos, logged_fresh components⟩
  tasks := trivial

def Staged (world : World) : Prop := ∃ stage, Fits world stage

theorem staged_fresh (threshold components : Nat) : Staged (World.fresh threshold components) :=
  ⟨.off, fits_fresh threshold components⟩

theorem ne_of_pc {loop : Loop Pc} {first second : TaskId} {one two : TaskState Pc}
    (firstKnown : loop.task first = some one) (secondKnown : loop.task second = some two)
    (different : one.pc ≠ two.pc) : first ≠ second := by
  rintro rfl
  rw [firstKnown, Option.some.injEq] at secondKnown
  exact different (congrArg TaskState.pc secondKnown)

/-- One task changes: to one of the roles, to a call not begun, or to a dead one. -/
theorem Others.update {loop next : Loop Pc} {roles newRoles : List TaskId} {id : TaskId}
    {new : TaskState Pc} (others : Others loop roles)
    (updated : ∀ other, next.task other = if id = other then some new else loop.task other)
    (settled : id ∈ newRoles ∨ new.alive = false ∨ ∃ call, new = ⟨.entry call, .scheduled .value, []⟩)
    (kept : ∀ role ∈ roles, role ∈ newRoles ∨ role = id ∨ Dead loop role) :
    Others next newRoles := by
  intro other task outside known alive
  rw [updated] at known
  by_cases same : id = other
  · rw [if_pos same, Option.some.injEq] at known
    subst same known
    rcases settled with role | dead | entry
    · exact absurd role outside
    · rw [dead] at alive
      cases alive
    · exact entry
  · rw [if_neg same] at known
    by_cases role : other ∈ roles
    · rcases kept other role with new | self | ⟨held, found, dead⟩
      · exact absurd new outside
      · exact absurd self.symm same
      · rw [known, Option.some.injEq] at found
        rw [found, dead] at alive
        cases alive
    · exact others other task role known alive

theorem calm_run_of_same {loop next : Loop Pc} {context : ContextId} {run : TaskId}
    (calm : CalmRun loop context run) (same : next.task run = loop.task run) :
    CalmRun next context run := by
  obtain ⟨pc, status, known, rest⟩ := calm
  exact ⟨pc, status, same.trans known, rest⟩

theorem calm_health_of_same {loop next : Loop Pc} {health : TaskId}
    (calm : CalmHealth loop health) (same : next.task health = loop.task health) :
    CalmHealth next health := by
  obtain ⟨pc, status, known, rest⟩ := calm
  exact ⟨pc, status, same.trans known, rest⟩

theorem dead_of_same {loop next : Loop Pc} {id : TaskId} (dead : Dead loop id)
    (same : next.task id = loop.task id) : Dead next id := by
  obtain ⟨task, known, ended⟩ := dead
  exact ⟨task, same.trans known, ended⟩

def Keeps (loop next : Loop Pc) (stage : Stage) : Prop :=
  (∀ role ∈ stage.roles, next.task role = loop.task role) ∧ ∀ id, Dead loop id → Dead next id

theorem TasksOf.of_keeps {loop next : Loop Pc} {node : ContextId} {stage : Stage}
    (tasks : TasksOf loop node stage) (keeps : Keeps loop next stage) :
    TasksOf next node stage := by
  obtain ⟨same, dead⟩ := keeps
  cases stage with
  | off => trivial
  | starting op run =>
      exact ⟨(same op (by simp [Stage.roles])).trans tasks.1,
        calm_run_of_same tasks.2 (same run (by simp [Stage.roles]))⟩
  | on health run =>
      exact ⟨calm_health_of_same tasks.1 (same health (by simp [Stage.roles])),
        calm_run_of_same tasks.2 (same run (by simp [Stage.roles]))⟩
  | stoppingHealth op restart health run =>
      obtain ⟨awaits, ⟨pc, known, stands⟩, calm⟩ := tasks
      exact ⟨(same op (by simp [Stage.roles])).trans awaits,
        ⟨pc, (same health (by simp [Stage.roles])).trans known, stands⟩,
        calm_run_of_same calm (same run (by simp [Stage.roles]))⟩
  | healthStopped op restart health run =>
      obtain ⟨⟨signal, fine, known⟩, ended, calm⟩ := tasks
      exact ⟨⟨signal, fine, (same op (by simp [Stage.roles])).trans known⟩, dead _ ended,
        calm_run_of_same calm (same run (by simp [Stage.roles]))⟩
  | stoppingRun op restart run =>
      obtain ⟨awaits, pc, status, known, stands⟩ := tasks
      exact ⟨(same op (by simp [Stage.roles])).trans awaits, pc, status,
        (same run (by simp [Stage.roles])).trans known, stands⟩
  | runStopped op restart run =>
      obtain ⟨⟨signal, fine, known⟩, ended⟩ := tasks
      exact ⟨⟨signal, fine, (same op (by simp [Stage.roles])).trans known⟩, dead _ ended⟩

theorem dead_update {loop next : Loop Pc} {id : TaskId} {held new : TaskState Pc}
    (known : loop.task id = some held) (alive : held.alive = true)
    (updated : ∀ other, next.task other = if id = other then some new else loop.task other)
    {other : TaskId} (dead : Dead loop other) : Dead next other := by
  refine dead_of_same dead ?_
  obtain ⟨task, found, ended⟩ := dead
  rw [updated, if_neg]
  rintro rfl
  rw [known, Option.some.injEq] at found
  rw [← found, alive] at ended
  cases ended

theorem Fits.retire {world next : World} {stage : Stage} {id : TaskId} {pc : Pc}
    {signal result : Signal} {waiters : List TaskId} (fits : Fits world stage)
    (outside : id ∉ stage.roles)
    (known : world.loop.task id = some ⟨pc, .scheduled signal, waiters⟩)
    (queued : next.loop.Queued)
    (updated : ∀ other, next.loop.task other =
      if id = other then some ⟨pc, .done result, []⟩ else world.loop.task other)
    (flags : FlagsOf next stage) (node : next.node = world.node) : Fits next stage where
  queued := queued
  others := fits.others.update updated (.inr (.inl rfl)) fun _ member => .inl member
  flags := flags
  tasks := by
    rw [node]
    refine fits.tasks.of_keeps ⟨fun role member => ?_, fun _ dead => dead_update known rfl updated dead⟩
    rw [updated, if_neg]
    rintro rfl
    exact outside member

/-- The task `id` is running in a gateway that is off. -/
structure Free (world : World) (id : TaskId) : Prop where
  queued : world.loop.Queued
  runs : ∃ pc, world.loop.task id = some ⟨pc, .running false, []⟩
  others : Others world.loop [id]
  flags : Flags world false none none false false

theorem free_fits {world : World} {id : TaskId} (free : Free world id) :
    Fits (world.stopped id false .task) .off := by
  obtain ⟨queued, ⟨pc, runs⟩, others, flags⟩ := free
  exact {
    queued := Loop.queued_finish queued runs .value
    others := others.update (Loop.task_finish runs .value) (.inr (.inl rfl)) fun role member =>
      .inr (.inl (List.mem_singleton.mp member))
    flags := flags_on_loop flags _ _
    tasks := trivial }

/-- `start` in a gateway that is off launches `_run` and waits. -/
theorem begin_start_fits {world : World} {id : TaskId} (free : Free world id) :
    Fits (world.beginStart id .task) (.starting id world.loop.tasks.length) := by
  obtain ⟨queued, ⟨pc, runs⟩, others, running, healthTask, core, known, logged⟩ := free
  have different : id ≠ world.loop.tasks.length := Loop.ne_new_of_task runs
  have created : (world.loop.create (.runEntry world.node)).task id =
      some ⟨pc, .running false, []⟩ := by
    rw [Loop.task_create, if_neg different, runs]
  have updated := Loop.task_yieldNow created (.nodeStart world.node .task)
  have begun : world.beginStart id .task =
      { world.setCore world.node ⟨false, some world.loop.tasks.length⟩ with
        launched := world.launched ++ [world.node]
        loop := (world.loop.create (.runEntry world.node)).yieldNow id
          (.nodeStart world.node .task) } := by
    simp [World.beginStart, running, core]
  rw [begun]
  exact {
    queued := Loop.queued_yieldNow (Loop.queued_create queued _) created _
    others := by
      intro other task outside found alive
      simp only [Stage.roles, List.mem_cons, List.not_mem_nil, or_false, not_or] at outside
      change Loop.task _ other = some task at found
      rw [updated, if_neg fun same => outside.1 same.symm, Loop.task_create,
        if_neg outside.2] at found
      exact others other task (by simpa using outside.1) found alive
    flags := by
      refine ⟨running, healthTask, ?_, ?_, logged⟩
      · simp [World.core, World.setCore, known]
      · simpa [World.setCore] using known
    tasks := by
      refine ⟨?_, .runEntry world.node, .scheduled .value, ?_, .inl rfl, .inl rfl⟩
      · rw [updated, if_pos rfl]
        rfl
      · rw [updated, if_neg different, Loop.task_create, if_pos rfl] }

/-- `restart` in a gateway that is off starts a new `NodeContext`. -/
theorem rebuilt_fits {world : World} {id : TaskId} (free : Free world id) :
    Fits (world.stopped id true .task) (.starting id world.loop.tasks.length) := by
  have rebuilt : Free { world with
      node := world.contexts.length
      contexts := world.contexts ++ [⟨false, none⟩] } id := by
    refine ⟨free.queued, free.runs, free.others, free.flags.running, free.flags.healthTask, ?_, ?_,
      free.flags.logged⟩
    · simp [World.core]
    · simp
  have begun := begin_start_fits rebuilt
  simpa [World.stopped] using begun

/-- `start` goes on after `NodeContext.start`: components, health task, done. -/
theorem node_started_fits {world : World} {op run : TaskId} {pc : Pc}
    (queued : world.loop.Queued) (runs : world.loop.task op = some ⟨pc, .running false, []⟩)
    (calm : CalmRun world.loop world.node run) (different : op ≠ run)
    (others : Others world.loop [op, run]) (flags : Flags world false none (some run) false false) :
    Fits (world.nodeStarted op world.node .task) (.on world.loop.tasks.length run) := by
  obtain ⟨running, healthTask, core, known, logged⟩ := flags
  obtain ⟨runPc, runStatus, runKnown, runAt⟩ := calm
  have opOld : op ≠ world.loop.tasks.length := Loop.ne_new_of_task runs
  have runOld : run ≠ world.loop.tasks.length := Loop.ne_new_of_task runKnown
  have created : (world.loop.create .healthEntry).task op = some ⟨pc, .running false, []⟩ := by
    rw [Loop.task_create, if_neg opOld, runs]
  have updated := Loop.task_finish created .value
  have core' := core
  simp only [World.core] at core'
  have begun : world.nodeStarted op world.node .task =
      { world.setCore world.node ⟨true, some run⟩ with
        calls := world.calls ++
          (List.range world.components).map fun component => (component, Act.start)
        healthTask := some world.loop.tasks.length
        running := true
        loop := (world.loop.create .healthEntry).finish op .value } := by
    simp [World.nodeStarted, World.startComponents, World.returned, World.onLoop, World.core,
      World.setCore, core']
  rw [begun]
  exact {
    queued := Loop.queued_finish (Loop.queued_create queued _) created .value
    others := by
      intro other task outside found alive
      simp only [Stage.roles, List.mem_cons, List.not_mem_nil, or_false, not_or] at outside
      change Loop.task _ other = some task at found
      rw [updated] at found
      split at found
      · cases found
        cases alive
      · rename_i notOp
        rw [Loop.task_create, if_neg outside.1] at found
        refine others other task ?_ found alive
        simp only [List.mem_cons, List.not_mem_nil, or_false, not_or]
        exact ⟨fun same => notOp same.symm, outside.2⟩
    flags := by
      refine ⟨rfl, rfl, ?_, ?_, logged.startPass⟩
      · simp [World.core, World.setCore, known]
      · simpa [World.setCore] using known
    tasks := by
      refine ⟨⟨.healthEntry, .scheduled .value, ?_, .inl rfl, .inl rfl⟩,
        runPc, runStatus, ?_, runAt⟩
      · rw [updated, if_neg opOld, Loop.task_create, if_pos rfl]
      · rw [updated, if_neg different, Loop.task_create, if_neg runOld, runKnown] }

/-- `stop` in a running gateway cancels the health task and awaits it. -/
theorem begin_stop_fits {world : World} {op health run : TaskId} {pc : Pc} (restart : Bool)
    (queued : world.loop.Queued) (runs : world.loop.task op = some ⟨pc, .running false, []⟩)
    (calmHealth : CalmHealth world.loop health) (calm : CalmRun world.loop world.node run)
    (distinct : op ≠ health ∧ op ≠ run ∧ health ≠ run)
    (others : Others world.loop [op, health, run])
    (flags : Flags world true (some health) (some run) true true) :
    Fits (world.beginStop op restart .task) (.stoppingHealth op restart health run) := by
  obtain ⟨running, healthTask, core, known, logged⟩ := flags
  obtain ⟨healthPc, healthStatus, healthKnown, healthAt, healthCalm⟩ := calmHealth
  obtain ⟨runPc, runStatus, runKnown, runAt⟩ := calm
  obtain ⟨opHealth, opRun, healthRun⟩ := distinct
  have interruptible : healthStatus = .pending ∨ ∃ signal, healthStatus = .scheduled signal := by
    rcases healthCalm with rfl | rfl
    · exact .inr ⟨_, rfl⟩
    · exact .inl rfl
  have alive : world.isAlive health = true := by
    rcases healthCalm with rfl | rfl <;> simp [World.isAlive, healthKnown, TaskState.alive,
      Status.alive]
  have cancelled := Loop.task_cancel healthKnown interruptible
  have opThere : (world.loop.cancel health).task op = some ⟨pc, .running false, []⟩ := by
    rw [cancelled, if_neg opHealth.symm, runs]
  have healthThere : (world.loop.cancel health).task health =
      some ⟨healthPc, .scheduled .cancelled, []⟩ := by
    rw [cancelled, if_pos rfl]
  have updated := Loop.task_await opThere (.stopHealth restart .task) opHealth.symm healthThere
  have begun : world.beginStop op restart .task = { world with
      loop := (world.loop.cancel health).await op (.stopHealth restart .task) health } := by
    simp [World.beginStop, running, healthTask, alive, World.onLoop]
  rw [begun]
  exact {
    queued := Loop.queued_await (Loop.queued_cancel queued healthKnown interruptible) opThere _
      opHealth.symm healthThere
    others := by
      intro other task outside found living
      simp only [Stage.roles, List.mem_cons, List.not_mem_nil, or_false, not_or] at outside
      change Loop.task _ other = some task at found
      rw [updated, if_neg fun same => outside.1 same.symm,
        if_neg fun same => outside.2.1 same.symm, cancelled,
        if_neg fun same => outside.2.1 same.symm] at found
      refine others other task ?_ found living
      simpa using outside
    flags := ⟨running, healthTask, core, known, logged⟩
    tasks := by
      refine ⟨?_, ⟨healthPc, ?_, healthAt⟩, runPc, runStatus, ?_, runAt⟩
      · change Loop.task _ op = _
        rw [updated, if_pos rfl]
      · rw [updated, if_neg opHealth, if_pos rfl]
        rfl
      · rw [updated, if_neg opRun, if_neg healthRun, cancelled, if_neg healthRun, runKnown] }

/-- `stop` goes on after the health task: components, then the `_run` task. -/
theorem stop_components_fits {world : World} {op health run : TaskId} {pc : Pc} (restart : Bool)
    (queued : world.loop.Queued) (runs : world.loop.task op = some ⟨pc, .running false, []⟩)
    (calm : CalmRun world.loop world.node run) (different : op ≠ run)
    (others : Others world.loop [op, run])
    (flags : Flags world true (some health) (some run) true true) :
    Fits (world.stopComponents op restart .task) (.stoppingRun op restart run) := by
  obtain ⟨running, healthTask, core, known, logged⟩ := flags
  obtain ⟨runPc, runStatus, runKnown, runAt, runCalm⟩ := calm
  have interruptible : runStatus = .pending ∨ ∃ signal, runStatus = .scheduled signal := by
    rcases runCalm with rfl | rfl
    · exact .inr ⟨_, rfl⟩
    · exact .inl rfl
  have alive : (((world.loop.task run).map TaskState.alive).getD false) = true := by
    rcases runCalm with rfl | rfl <;> simp [runKnown, TaskState.alive, Status.alive]
  have cancelled := Loop.task_cancel runKnown interruptible
  have opThere : (world.loop.cancel run).task op = some ⟨pc, .running false, []⟩ := by
    rw [cancelled, if_neg different.symm, runs]
  have runThere : (world.loop.cancel run).task run =
      some ⟨runPc, .scheduled .cancelled, []⟩ := by
    rw [cancelled, if_pos rfl]
  have updated := Loop.task_await opThere (.nodeStop world.node restart .task) different.symm
    runThere
  have core' := core
  simp only [World.core] at core'
  have begun : world.stopComponents op restart .task =
      { world with
        healthTask := none
        calls := world.calls ++
          (List.range world.components).reverse.map fun component => (component, Act.stop)
        loop := (world.loop.cancel run).await op (.nodeStop world.node restart .task) run } := by
    simp [World.stopComponents, World.core, core', World.isAlive, alive, World.onLoop]
  rw [begun]
  exact {
    queued := Loop.queued_await (Loop.queued_cancel queued runKnown interruptible) opThere _
      different.symm runThere
    others := by
      intro other task outside found living
      simp only [Stage.roles, List.mem_cons, List.not_mem_nil, or_false, not_or] at outside
      change Loop.task _ other = some task at found
      rw [updated, if_neg fun same => outside.1 same.symm,
        if_neg fun same => outside.2 same.symm, cancelled,
        if_neg fun same => outside.2 same.symm] at found
      refine others other task ?_ found living
      simpa using outside
    flags := ⟨running, rfl, core, known, logged.stopPass⟩
    tasks := by
      refine ⟨?_, runPc, .scheduled .cancelled, ?_, ?_, .inr (.inl rfl)⟩
      · change Loop.task _ op = _
        rw [updated, if_pos rfl]
      · rw [updated, if_neg different, if_pos rfl]
        rfl
      · exact runAt.imp id .inl }

end RemoteIface.Gateway.Stages
