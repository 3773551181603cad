import RemoteIface.HbCompat.SyncFacade

/-!
The tasks of the facade. Nothing but the health task and the `_run` task is
ever cancelled, a pending start is awaited only by a stop, and whatever a step
wakes or creates besides its own task is no call and no start at work.
-/

namespace RemoteIface.HbCompat.CallTasks

set_option autoImplicit false

open RemoteIface.Library.EventLoop
open RemoteIface.Library.EventLoop.Loop
open RemoteIface.Gateway.Lifecycle

def isHealth : Pc → Bool
  | .healthEntry => true
  | .healthSleep => true
  | _ => false

def isRun : Pc → Bool
  | .runEntry _ => true
  | .running _ => true
  | .runClosing _ => true
  | _ => false

def isNew : Pc → Bool
  | .entry _ => true
  | .stopAfter _ => true
  | _ => false

def isStarting : Pc → Bool
  | .nodeStart _ _ => true
  | _ => false

def isStopping : Pc → Bool
  | .pendingStart => true
  | .stopHealth _ _ => true
  | .nodeStop _ _ _ => true
  | _ => false

def isStop : Pc → Bool
  | .stopAfter _ => true
  | .pendingStart => true
  | .stopHealth false .task => true
  | .nodeStop _ false .task => true
  | _ => false

def At (loop : Loop Pc) (id : TaskId) (kind : Pc → Bool) : Prop :=
  ∃ task, loop.task id = some task ∧ task.alive = true ∧ kind task.pc = true

def Dead (loop : Loop Pc) (id : TaskId) : Prop :=
  ∃ task, loop.task id = some task ∧ task.alive = false

def Spawned (pc : Pc) : Prop := isHealth pc = true ∨ isRun pc = true

def Background (pc : Pc) : Prop := isNew pc = false ∧ isStarting pc = false

def Ended (status : Status) : Prop := ∃ result, status = .done result

def Resumable (status : Status) : Prop := ∃ signal, signal ≠ .raised ∧ status = .scheduled signal

def allowed : Pc → Status → Prop
  | .entry .start, status => status = .scheduled .value ∨ Ended status
  | .nodeStart _ .task, status => status = .scheduled .value ∨ Ended status
  | .stopAfter _, status => status = .scheduled .value ∨ Ended status
  | .pendingStart, status =>
      status = .scheduled .value ∨ (∃ task, status = .awaiting task) ∨ Ended status
  | .stopHealth false .task, status =>
      Resumable status ∨ (∃ task, status = .awaiting task) ∨ Ended status
  | .nodeStop _ false .task, status =>
      Resumable status ∨ (∃ task, status = .awaiting task) ∨ Ended status
  | .healthEntry, status => status = .pending ∨ Resumable status ∨ Ended status
  | .healthSleep, status => status = .pending ∨ Resumable status ∨ Ended status
  | .runEntry _, status => status = .pending ∨ Resumable status ∨ Ended status
  | .running _, status => status = .pending ∨ Resumable status ∨ Ended status
  | .runClosing _, status => status = .pending ∨ Resumable status ∨ Ended status
  | _, _ => False

def awaits : Pc → Pc → Prop
  | .pendingStart, .nodeStart _ .task => True
  | .stopHealth false .task, target => isHealth target = true
  | .nodeStop _ false .task, target => isRun target = true
  | _, _ => False

def rules : Rules Pc := ⟨allowed, awaits⟩

abbrev CallFrame (id : TaskId) (loop next : Loop Pc) : Prop := Frame Spawned Background id loop next

structure Tidy (world : World) (running : Option TaskId) : Prop where
  orderly : Orderly rules world.loop running
  health : ∀ id, world.healthTask = some id →
    ∃ task, world.loop.task id = some task ∧ isHealth task.pc = true
  run : ∀ context id, (world.core context).runTask = some id →
    ∃ task, world.loop.task id = some task ∧ isRun task.pc = true

theorem background_of_awaits {waiter target : Pc} (waits : awaits waiter target) :
    Background waiter := by
  unfold awaits at waits
  split at waits <;> simp_all [Background, isNew, isStarting]

theorem allowed_of_health {pc : Pc} {status : Status} (health : isHealth pc = true)
    (fine : status = .pending ∨ Resumable status ∨ Ended status) : allowed pc status := by
  cases pc <;> simp_all [isHealth, allowed]

theorem allowed_of_run {pc : Pc} {status : Status} (run : isRun pc = true)
    (fine : status = .pending ∨ Resumable status ∨ Ended status) : allowed pc status := by
  cases pc <;> simp_all [isRun, allowed]

theorem health_of_allowed {pc : Pc} {status : Status} (health : isHealth pc = true)
    (fine : allowed pc status) : status = .pending ∨ Resumable status ∨ Ended status := by
  cases pc <;> simp_all [isHealth, allowed]

theorem run_of_allowed {pc : Pc} {status : Status} (run : isRun pc = true)
    (fine : allowed pc status) : status = .pending ∨ Resumable status ∨ Ended status := by
  cases pc <;> simp_all [isRun, allowed]

/-- A health task or `_run` task that ends wakes its waiters with a signal that
they can be resumed with. -/
theorem wakes_of_spawned {pc : Pc} {result : Signal} (spawned : Spawned pc)
    (fine : result ≠ .raised) (waiter : Pc) (waits : awaits waiter pc) :
    allowed waiter (.scheduled result) := by
  have resumable : Resumable (.scheduled result) := ⟨result, fine, rfl⟩
  unfold awaits at waits
  split at waits
  · rcases spawned with health | run
    · cases health
    · cases run
  · exact .inl resumable
  · exact .inl resumable
  · exact waits.elim

theorem awaits_of_same_kind {waiter pc new : Pc} (spawned : Spawned pc)
    (sameHealth : isHealth pc = isHealth new) (sameRun : isRun pc = isRun new)
    (waits : awaits waiter pc) : awaits waiter new := by
  unfold awaits at waits
  split at waits
  · rcases spawned with health | run
    · cases health
    · cases run
  · simpa [awaits] using sameHealth.symm.trans waits
  · simpa [awaits] using sameRun.symm.trans waits
  · exact waits.elim

theorem not_awaited_of_stop {pc : Pc} (stop : isStop pc = true) (waiter : Pc) :
    ¬ awaits waiter pc := by
  intro waits
  unfold awaits at waits
  split at waits <;> simp_all [isStop] <;> cases pc <;> simp_all [isHealth, isRun]

theorem allowed_done_of_stop {pc : Pc} (stop : isStop pc = true) (result : Signal) :
    allowed pc (.done result) := by
  unfold isStop at stop
  split at stop <;> simp_all [allowed, Ended]

theorem not_spawned_of_stop {pc : Pc} (stop : isStop pc = true) :
    isHealth pc = false ∧ isRun pc = false := by
  cases pc <;> simp_all [isStop, isHealth, isRun]

/-- A step of `id` that keeps the frame keeps the gateway tidy. -/
theorem Tidy.step {world after : World} {id : TaskId} {held new : TaskState Pc}
    (tidy : Tidy world (some id)) (known : world.loop.task id = some held)
    (orderly : Orderly rules after.loop none) (frame : CallFrame id world.loop after.loop)
    (self : after.loop.task id = some new)
    (sameHealth : isHealth held.pc = true → isHealth new.pc = true)
    (sameRun : isRun held.pc = true → isRun new.pc = true)
    (health : ∀ other, after.healthTask = some other → world.healthTask = some other ∨
      ∃ task, after.loop.task other = some task ∧ isHealth task.pc = true)
    (run : ∀ context other, (after.core context).runTask = some other →
      (world.core context).runTask = some other ∨
        ∃ task, after.loop.task other = some task ∧ isRun task.pc = true) :
    Tidy after none where
  orderly := orderly
  health := by
    intro other holds
    rcases health other holds with old | new
    · obtain ⟨task, found, isHealth⟩ := tidy.health other old
      by_cases same : other = id
      · subst same
        rw [known, Option.some.injEq] at found
        subst found
        exact ⟨_, self, sameHealth isHealth⟩
      · obtain ⟨later, there, pc, _⟩ := frame.kept other task same found
        exact ⟨later, there, pc ▸ isHealth⟩
    · exact new
  run := by
    intro context other holds
    rcases run context other holds with old | new
    · obtain ⟨task, found, isRun⟩ := tidy.run context other old
      by_cases same : other = id
      · subst same
        rw [known, Option.some.injEq] at found
        subst found
        exact ⟨_, self, sameRun isRun⟩
      · obtain ⟨later, there, pc, _⟩ := frame.kept other task same found
        exact ⟨later, there, pc ▸ isRun⟩
    · exact new

section

variable {world : World} {id : TaskId} {pc : Pc} {waiters : List TaskId}

theorem interruptible_of_alive {task : TaskState Pc}
    (fine : task.status = .pending ∨ Resumable task.status ∨ Ended task.status)
    (alive : task.alive = true) :
    task.status = .pending ∨ ∃ signal, task.status = .scheduled signal := by
  rcases fine with pending | ⟨signal, _, scheduled⟩ | ⟨result, done⟩
  · exact .inl pending
  · exact .inr ⟨signal, scheduled⟩
  · simp [TaskState.alive, Status.alive, done] at alive

theorem cancel_and_await {target : TaskId} {held : TaskState Pc} {new : Pc}
    (orderly : Orderly rules world.loop (some id))
    (runs : world.loop.task id = some ⟨pc, .running false, waiters⟩) (stop : isStop pc = true)
    (known : world.loop.task target = some held) (spawned : Spawned held.pc)
    (alive : held.alive = true) (waits : awaits new held.pc)
    (mayAwait : allowed new (.awaiting target)) :
    Orderly rules ((world.loop.cancel target).await id new target) none ∧
      CallFrame id world.loop ((world.loop.cancel target).await id new target) ∧
        ((world.loop.cancel target).await id new target).task id =
          some ⟨new, .awaiting target, waiters⟩ := by
  have notStop := not_spawned_of_stop stop
  have different : target ≠ id := by
    rintro rfl
    rw [runs, Option.some.injEq] at known
    subst known
    rcases spawned with health | run
    · simp [notStop.1] at health
    · simp [notStop.2] at run
  have mine := orderly.allowed target held known fun same => different (Option.some.inj same).symm
  have fine : held.status = .pending ∨ Resumable held.status ∨ Ended held.status := by
    rcases spawned with health | run
    · exact health_of_allowed health mine
    · exact run_of_allowed run mine
  have interruptible := interruptible_of_alive fine alive
  have resumable : Resumable (.scheduled .cancelled) := ⟨.cancelled, by simp, rfl⟩
  have cancelAllowed : rules.allowed held.pc (.scheduled .cancelled) := by
    rcases spawned with health | run
    · exact allowed_of_health health (.inr (.inl resumable))
    · exact allowed_of_run run (.inr (.inl resumable))
  have background : Background held.pc := by
    rcases spawned with health | run
    · revert health
      cases held.pc <;> simp [isHealth, Background, isNew, isStarting]
    · revert run
      cases held.pc <;> simp [isRun, Background, isNew, isStarting]
  have cancelled := task_cancel known interruptible
  have runsStill : (world.loop.cancel target).task id = some ⟨pc, .running false, waiters⟩ := by
    rw [cancelled, if_neg different, runs]
  have targetNow : (world.loop.cancel target).task target =
      some { held with status := .scheduled .cancelled } := by
    rw [cancelled, if_pos rfl]
  refine ⟨?_, ?_, ?_⟩
  · exact orderly_await (orderly_cancel orderly known interruptible cancelAllowed) runsStill
      different targetNow mayAwait waits fun waiter waits => (not_awaited_of_stop stop waiter waits).elim
  · exact (frame_cancel known interruptible background).trans
      (frame_await runsStill different targetNow) runs
  · rw [task_await runsStill new different targetNow, if_pos rfl]

/-- What a step of a stop task comes to: the gateway is off and the task has
ended, or the task waits. -/
def StopOutcome (id : TaskId) (next : World) : Prop :=
  next.running = false ∧ Dead next.loop id ∨ At next.loop id isStopping

theorem finish_stepped (after : World) (tidy : Tidy world (some id))
    (runs : world.loop.task id = some ⟨pc, .running false, waiters⟩) {result : Signal}
    (mayEnd : allowed pc (.done result))
    (wakes : ∀ waiter, awaits waiter pc → allowed waiter (.scheduled result))
    (ended : after.loop = world.loop.finish id result)
    (health : ∀ other, after.healthTask = some other → world.healthTask = some other)
    (run : ∀ context other, (after.core context).runTask = some other →
      (world.core context).runTask = some other) :
    Tidy after none ∧ CallFrame id world.loop after.loop ∧ Dead after.loop id := by
  have self : after.loop.task id = some ⟨pc, .done result, []⟩ := by
    rw [ended, task_finish_all runs (tidy.orderly.not_waiting runs runs), if_pos rfl]
  have orderly : Orderly rules after.loop none := by
    rw [ended]
    exact orderly_finish tidy.orderly runs mayEnd wakes
  have frame : CallFrame id world.loop after.loop := by
    rw [ended]
    exact frame_finish tidy.orderly runs result fun waiter => background_of_awaits
  exact ⟨tidy.step runs orderly frame self (fun same => same) (fun same => same)
    (fun other holds => .inl (health other holds))
    (fun context other holds => .inl (run context other holds)), frame, _, self, rfl⟩

theorem stop_ends {after : World} (tidy : Tidy world (some id))
    (runs : world.loop.task id = some ⟨pc, .running false, waiters⟩) (stop : isStop pc = true)
    (ended : after.loop = world.loop.finish id .value) (off : after.running = false)
    (health : ∀ other, after.healthTask = some other → world.healthTask = some other)
    (run : ∀ context other, (after.core context).runTask = some other →
      (world.core context).runTask = some other) :
    Tidy after none ∧ CallFrame id world.loop after.loop ∧ StopOutcome id after := by
  obtain ⟨tidyAfter, frame, dead⟩ := finish_stepped after tidy runs
    (allowed_done_of_stop stop .value) (fun waiter waits => (not_awaited_of_stop stop waiter waits).elim) ended health run
  exact ⟨tidyAfter, frame, .inl ⟨off, dead⟩⟩

theorem run_task_of_cleared {context other : ContextId} {task : TaskId}
    (holds : ((world.setCore context ⟨false, none⟩).core other).runTask = some task) :
    (world.core other).runTask = some task := by
  simp only [World.core, World.setCore, List.getElem?_set] at holds ⊢
  split at holds
  · split at holds <;> simp at holds
  · exact holds

theorem alive_of_isAlive {other : TaskId} (alive : world.isAlive other = true) :
    ∃ task, world.loop.task other = some task ∧ task.alive = true := by
  unfold World.isAlive at alive
  cases known : world.loop.task other with
  | none => simp [known] at alive
  | some task => exact ⟨task, rfl, by simpa [known] using alive⟩

theorem node_stopped_stepped (tidy : Tidy world (some id))
    (runs : world.loop.task id = some ⟨pc, .running false, waiters⟩) (stop : isStop pc = true)
    (context : ContextId) :
    Tidy (world.nodeStopped id context false .task) none ∧
      CallFrame id world.loop (world.nodeStopped id context false .task).loop ∧
        StopOutcome id (world.nodeStopped id context false .task) :=
  stop_ends tidy runs stop rfl rfl (fun _ holds => holds) fun _ _ => run_task_of_cleared

theorem stop_components_stepped (tidy : Tidy world (some id))
    (runs : world.loop.task id = some ⟨pc, .running false, waiters⟩) (stop : isStop pc = true) :
    Tidy (world.stopComponents id false .task) none ∧
      CallFrame id world.loop (world.stopComponents id false .task).loop ∧
        StopOutcome id (world.stopComponents id false .task) := by
  have notSpawned := not_spawned_of_stop stop
  have noHealth (other : TaskId) (holds : none = some other) : world.healthTask = some other := by
    cases holds
  simp only [World.stopComponents]
  split
  · split
    · exact stop_ends tidy runs stop rfl rfl noHealth fun _ _ => run_task_of_cleared
    · rename_i run holds
      split
      · rename_i alive
        obtain ⟨held, known, living⟩ := alive_of_isAlive alive
        obtain ⟨task, found, isRun⟩ := tidy.run _ run holds
        have same : held = task := Option.some.inj (known.symm.trans found)
        subst same
        have waits : awaits (.nodeStop world.node false .task) held.pc := isRun
        obtain ⟨orderly, frame, self⟩ := cancel_and_await tidy.orderly runs stop found (.inr isRun)
          living waits (.inr (.inl ⟨run, rfl⟩))
        refine ⟨tidy.step runs orderly frame self ?_ ?_ ?_ ?_, frame, .inr ⟨_, self, rfl, rfl⟩⟩
        · simp [notSpawned.1]
        · simp [notSpawned.2]
        · intro other none
          cases none
        · exact fun context other holds => .inl holds
      · exact stop_ends tidy runs stop rfl rfl noHealth fun _ _ => run_task_of_cleared
  · exact stop_ends tidy runs stop rfl rfl noHealth fun _ _ holds => holds

theorem begin_stop_waits (tidy : Tidy world (some id))
    (runs : world.loop.task id = some ⟨pc, .running false, waiters⟩) (stop : isStop pc = true)
    (running : world.running = true) {health : TaskId} (holds : world.healthTask = some health)
    (alive : world.isAlive health = true) :
    Tidy (world.beginStop id false .task) none ∧
      CallFrame id world.loop (world.beginStop id false .task).loop ∧
        At (world.beginStop id false .task).loop id isStopping := by
  have begun : world.beginStop id false .task = world.onLoop fun loop =>
      (loop.cancel health).await id (.stopHealth false .task) health := by
    simp [World.beginStop, running, holds, alive]
  obtain ⟨held, known, living⟩ := alive_of_isAlive alive
  obtain ⟨task, found, isHealth⟩ := tidy.health health holds
  have same : held = task := Option.some.inj (known.symm.trans found)
  subst same
  have waits : awaits (.stopHealth false .task) held.pc := isHealth
  have notSpawned := not_spawned_of_stop stop
  obtain ⟨orderly, frame, self⟩ := cancel_and_await tidy.orderly runs stop found
    (.inl isHealth) living waits (.inr (.inl ⟨health, rfl⟩))
  rw [begun]
  refine ⟨tidy.step runs orderly frame self ?_ ?_ ?_ ?_, frame, _, self, rfl, rfl⟩
  · simp [notSpawned.1]
  · simp [notSpawned.2]
  · exact fun other holds => .inl holds
  · exact fun context other holds => .inl holds

theorem begin_stop_stepped (tidy : Tidy world (some id))
    (runs : world.loop.task id = some ⟨pc, .running false, waiters⟩) (stop : isStop pc = true) :
    Tidy (world.beginStop id false .task) none ∧
      CallFrame id world.loop (world.beginStop id false .task).loop ∧
        StopOutcome id (world.beginStop id false .task) := by
  cases running : world.running with
  | false =>
      rw [World.begin_stop_of_idle running]
      exact stop_ends tidy runs stop rfl running (fun _ holds => holds) fun _ _ holds => holds
  | true =>
      by_cases waits : ∃ health, world.healthTask = some health ∧ world.isAlive health = true
      · obtain ⟨health, holds, alive⟩ := waits
        obtain ⟨tidyAfter, frame, waiting⟩ := begin_stop_waits tidy runs stop running holds alive
        exact ⟨tidyAfter, frame, .inr waiting⟩
      · have begun : world.beginStop id false .task = world.stopComponents id false .task := by
          cases holds : world.healthTask with
          | none => simp [World.beginStop, running, holds]
          | some health =>
              have dead : world.isAlive health = false := by
                by_contra alive
                exact waits ⟨health, holds, by simpa using alive⟩
              simp [World.beginStop, running, holds, dead]
        rw [begun]
        exact stop_components_stepped tidy runs stop

theorem pending_start_waits {start : TaskId} {held : TaskState Pc} (tidy : Tidy world (some id))
    (runs : world.loop.task id = some ⟨pc, .running false, waiters⟩) (stop : isStop pc = true)
    (known : world.loop.task start = some held) (alive : held.alive = true)
    (starting : isStarting held.pc = true) :
    Tidy (world.stopAfter id (some start)) none ∧
      CallFrame id world.loop (world.stopAfter id (some start)).loop ∧
        At (world.stopAfter id (some start)).loop id isStopping := by
  have waits : world.stopAfter id (some start) =
      world.onLoop fun loop => loop.await id .pendingStart start := by
    simp [World.stopAfter, World.isAlive, known, alive]
  have different : start ≠ id := by
    rintro rfl
    rw [runs, Option.some.injEq] at known
    subst known
    revert stop starting
    cases pc <;> simp [isStop, isStarting]
  have mine := tidy.orderly.allowed start held known fun same =>
    different (Option.some.inj same).symm
  have awaited : awaits .pendingStart held.pc := by
    change allowed held.pc held.status at mine
    revert mine starting
    cases held.pc with
    | nodeStart context caller => cases caller <;> simp [isStarting, allowed, awaits]
    | _ => simp [isStarting]
  have notSpawned := not_spawned_of_stop stop
  have self : (world.loop.await id .pendingStart start).task id =
      some ⟨.pendingStart, .awaiting start, waiters⟩ := by
    rw [task_await runs .pendingStart different known, if_pos rfl]
  have orderly : Orderly rules (world.loop.await id .pendingStart start) none :=
    orderly_await tidy.orderly runs different known (.inr (.inl ⟨start, rfl⟩)) awaited
      fun waiter waits => (not_awaited_of_stop stop waiter waits).elim
  have frame : CallFrame id world.loop (world.loop.await id .pendingStart start) :=
    frame_await runs different known
  rw [waits]
  refine ⟨tidy.step runs orderly frame self ?_ ?_ ?_ ?_, frame, _, self, rfl, rfl⟩
  · simp [notSpawned.1]
  · simp [notSpawned.2]
  · exact fun other holds => .inl holds
  · exact fun context other holds => .inl holds

def CalmHealth (world : World) : Prop :=
  ∃ id task, world.healthTask = some id ∧ world.loop.task id = some task ∧
    isHealth task.pc = true ∧ (task.status = .pending ∨ task.status = .scheduled .value)

def isStart : Pc → Bool
  | .entry .start => true
  | .nodeStart _ .task => true
  | _ => false

theorem not_spawned_of_start (start : isStart pc = true) : isHealth pc = false ∧ isRun pc = false := by
  cases pc <;> simp_all [isStart, isHealth, isRun]

theorem not_awaited_new (call : Call) (waiter : Pc) : ¬ awaits waiter (.entry call) := by
  intro waits
  unfold awaits at waits
  split at waits <;> simp_all [isHealth, isRun]

theorem start_ends_allowed (start : isStart pc = true) : allowed pc (.done .value) := by
  unfold isStart at start
  split at start <;> simp_all [allowed, Ended]

theorem start_wakes (start : isStart pc = true) (waiter : Pc) (waits : awaits waiter pc) :
    allowed waiter (.scheduled .value) := by
  have notSpawned := not_spawned_of_start start
  unfold awaits at waits
  split at waits
  · exact .inl rfl
  · simp [notSpawned.1] at waits
  · simp [notSpawned.2] at waits
  · exact waits.elim

theorem start_components_stepped (tidy : Tidy world (some id))
    (runs : world.loop.task id = some ⟨pc, .running false, waiters⟩) (start : isStart pc = true) :
    Tidy (world.startComponents id .task) none ∧
      CallFrame id world.loop (world.startComponents id .task).loop ∧
        Dead (world.startComponents id .task).loop id ∧
          CalmHealth (world.startComponents id .task) := by
  have different := ne_new_of_task runs
  have notSpawned := not_spawned_of_start start
  have createdRuns : (world.loop.create .healthEntry).task id =
      some ⟨pc, .running false, waiters⟩ := by
    rw [task_create, if_neg different, runs]
  have created : Orderly rules (world.loop.create .healthEntry) (some id) :=
    orderly_create tidy.orderly .healthEntry (.inr (.inl ⟨.value, by simp, rfl⟩))
  have orderly : Orderly rules ((world.loop.create .healthEntry).finish id .value) none :=
    orderly_finish created createdRuns (start_ends_allowed start) (start_wakes start)
  have frame : CallFrame id world.loop ((world.loop.create .healthEntry).finish id .value) :=
    (frame_create .healthEntry (.inl rfl) ⟨rfl, rfl⟩).trans
      (frame_finish created createdRuns .value fun _ => background_of_awaits) runs
  have self : ((world.loop.create .healthEntry).finish id .value).task id =
      some ⟨pc, .done .value, []⟩ := by
    rw [task_finish_all createdRuns (created.not_waiting createdRuns createdRuns), if_pos rfl]
  have health : ((world.loop.create .healthEntry).finish id .value).task world.loop.tasks.length =
      some ⟨.healthEntry, .scheduled .value, []⟩ :=
    spares_finish created createdRuns .value _ _ different.symm
      (by rw [task_create, if_pos rfl]) (by simp)
  refine ⟨tidy.step runs orderly frame self ?_ ?_ ?_ ?_, frame, ⟨_, self, rfl⟩,
    world.loop.tasks.length, _, rfl, health, rfl, .inr rfl⟩
  · simp [notSpawned.1]
  · simp [notSpawned.2]
  · intro other holds
    cases holds
    exact .inr ⟨_, health, rfl⟩
  · exact fun context other holds => .inl holds

/-- What a step of a start task comes to: the gateway runs and the task has
ended, or the task is at its one await. -/
def StartOutcome (id : TaskId) (next : World) : Prop :=
  next.running = true ∧ Dead next.loop id ∧ CalmHealth next ∨
    next.running = false ∧ At next.loop id isStarting

theorem calm_of_spares {after : World} (calm : CalmHealth world)
    (runs : world.loop.task id = some ⟨pc, .running false, waiters⟩)
    (same : after.healthTask = world.healthTask) (spares : Spares id world.loop after.loop) :
    CalmHealth after := by
  obtain ⟨health, task, holds, known, isHealth, status⟩ := calm
  have different : health ≠ id := by
    rintro rfl
    rw [runs, Option.some.injEq] at known
    subst known
    rcases status with status | status <;> cases status
  refine ⟨health, task, same.trans holds, spares health task different known ?_, isHealth, status⟩
  rcases status with status | status <;> simp [status]

theorem node_started_stepped (tidy : Tidy world (some id)) (context : ContextId)
    (runs : world.loop.task id = some ⟨pc, .running false, waiters⟩) (start : isStart pc = true) :
    Tidy (world.nodeStarted id context .task) none ∧
      CallFrame id world.loop (world.nodeStarted id context .task).loop ∧
        (world.nodeStarted id context .task).running = true ∧
          Dead (world.nodeStarted id context .task).loop id ∧
            CalmHealth (world.nodeStarted id context .task) := by
  have prepared : Tidy (world.setCore context { world.core context with started := true })
      (some id) := by
    refine ⟨tidy.orderly, tidy.health, fun other run holds => tidy.run other run ?_⟩
    simp only [World.core, World.setCore, List.getElem?_set] at holds ⊢
    split at holds
    · rename_i same
      subst same
      split at holds
      · simpa using holds
      · simp at holds
    · exact holds
  obtain ⟨tidyAfter, frame, dead, calm⟩ := start_components_stepped prepared runs start
  exact ⟨tidyAfter, frame, rfl, dead, calm⟩

theorem begin_start_stepped (tidy : Tidy world (some id))
    (runs : world.loop.task id = some ⟨.entry .start, .running false, waiters⟩)
    (calm : world.running = true → CalmHealth world) :
    Tidy (world.beginStart id .task) none ∧
      CallFrame id world.loop (world.beginStart id .task).loop ∧
        StartOutcome id (world.beginStart id .task) := by
  cases running : world.running with
  | true =>
      rw [World.begin_start_of_running running]
      obtain ⟨tidyAfter, frame, dead⟩ := finish_stepped (world.returned id .task) tidy runs
        (start_ends_allowed rfl) (start_wakes rfl) rfl (fun _ holds => holds) fun _ _ holds => holds
      refine ⟨tidyAfter, frame, .inl ⟨running, dead, ?_⟩⟩
      exact calm_of_spares (calm running) runs rfl (spares_finish tidy.orderly runs .value)
  | false =>
      simp only [World.beginStart, running, Bool.false_eq_true, if_false]
      split
      · obtain ⟨tidyAfter, frame, dead, calmAfter⟩ := start_components_stepped tidy runs rfl
        exact ⟨tidyAfter, frame, .inl ⟨rfl, dead, calmAfter⟩⟩
      · have different := ne_new_of_task runs
        have createdRuns : (world.loop.create (.runEntry world.node)).task id =
            some ⟨.entry .start, .running false, waiters⟩ := by
          rw [task_create, if_neg different, runs]
        have created : Orderly rules (world.loop.create (.runEntry world.node)) (some id) :=
          orderly_create tidy.orderly _ (.inr (.inl ⟨.value, by simp, rfl⟩))
        have updated := task_yieldNow createdRuns (.nodeStart world.node .task)
        have orderly : Orderly rules ((world.loop.create (.runEntry world.node)).yieldNow id
            (.nodeStart world.node .task)) none :=
          orderly_moved created createdRuns (queued_yieldNow created.queued createdRuns _) updated
            rfl (.inl rfl) fun waiter waits => (not_awaited_new .start waiter waits).elim
        have frame : CallFrame id world.loop ((world.loop.create (.runEntry world.node)).yieldNow id
            (.nodeStart world.node .task)) :=
          (frame_create _ (.inr rfl) ⟨rfl, rfl⟩).trans
            (frame_moved createdRuns updated (ready_yieldNow _ _ _) (by simp)) runs
        have self := (updated id).trans (if_pos rfl)
        refine ⟨tidy.step runs orderly frame self ?_ ?_ ?_ ?_, frame,
          .inr ⟨running, _, self, rfl, rfl⟩⟩
        · simp [isHealth]
        · simp [isRun]
        · exact fun other holds => .inl holds
        · intro context other holds
          simp only [World.core, World.setCore, List.getElem?_set] at holds
          split at holds
          · split at holds
            · simp only [Option.getD_some, Option.some.injEq] at holds
              subst holds
              refine .inr ⟨⟨.runEntry world.node, .scheduled .value, []⟩, ?_, rfl⟩
              exact (updated _).trans (by rw [if_neg different, task_create, if_pos rfl])
            · simp at holds
          · exact .inl holds

/-- A health task or `_run` task suspends again, or ends. A health task that is
resumed with a value suspends. -/
theorem spawned_cases (id : TaskId) (choice : Choice) {signal : Signal} (spawned : Spawned pc)
    (fine : signal ≠ .raised)
    (healthy : pc = .healthSleep → signal = .value → choice.healthy = true) :
    (∃ new failures, (isHealth pc = isHealth new ∧ isRun pc = isRun new) ∧
      world.resume id choice pc signal =
        { world with failures := failures, loop := world.loop.suspend id new }) ∨
      ∃ result, result ≠ .raised ∧ (isHealth pc = true → signal ≠ .value) ∧
        world.resume id choice pc signal =
          { world with loop := world.loop.finish id result } := by
  have closing {context : ContextId} (run : isRun pc = true) (notHealth : isHealth pc = false) :
      (∃ new failures, (isHealth pc = isHealth new ∧ isRun pc = isRun new) ∧
        world.runStep id context choice.runEnds =
          { world with failures := failures, loop := world.loop.suspend id new }) ∨
      ∃ result, result ≠ .raised ∧ (isHealth pc = true → signal ≠ .value) ∧
        world.runStep id context choice.runEnds =
          { world with loop := world.loop.finish id result } := by
    cases choice.runEnds with
    | none => exact .inl ⟨.runClosing context, world.failures, ⟨notHealth, run⟩, rfl⟩
    | some ended =>
        exact .inr ⟨ended.signal, by cases ended <;> simp [RunEnd.signal], by simp [notHealth], rfl⟩
  rcases spawned with health | run
  · cases pc with
    | healthEntry =>
        cases signal with
        | value => exact .inl ⟨.healthSleep, world.failures, ⟨rfl, rfl⟩, rfl⟩
        | cancelled => exact .inr ⟨.cancelled, by simp, by simp, rfl⟩
        | raised => exact absurd rfl fine
    | healthSleep =>
        cases signal with
        | value =>
            refine .inl ⟨.healthSleep, 0, ⟨rfl, rfl⟩, ?_⟩
            simp [World.resume, World.checkHealth, healthy rfl rfl, World.onLoop]
        | cancelled => exact .inr ⟨.value, by simp, by simp, rfl⟩
        | raised => exact absurd rfl fine
    | _ => cases health
  · cases pc with
    | runEntry context =>
        cases signal with
        | value => exact .inl ⟨.running context, world.failures, ⟨rfl, rfl⟩, rfl⟩
        | cancelled => exact .inr ⟨.cancelled, by simp, by simp, rfl⟩
        | raised => exact absurd rfl fine
    | running context =>
        cases signal with
        | value => exact .inl ⟨.running context, world.failures, ⟨rfl, rfl⟩, rfl⟩
        | cancelled => exact closing rfl rfl
        | raised => exact absurd rfl fine
    | runClosing context => exact closing rfl rfl
    | _ => cases run

theorem spawned_stepped (tidy : Tidy world (some id))
    (runs : world.loop.task id = some ⟨pc, .running false, waiters⟩) (choice : Choice)
    {signal : Signal} (spawned : Spawned pc) (fine : signal ≠ .raised)
    (healthy : pc = .healthSleep → signal = .value → choice.healthy = true) :
    Tidy (world.resume id choice pc signal) none ∧
      CallFrame id world.loop (world.resume id choice pc signal).loop ∧
        (world.resume id choice pc signal).running = world.running ∧
          (world.resume id choice pc signal).healthTask = world.healthTask ∧
            Spares id world.loop (world.resume id choice pc signal).loop ∧
              ∃ task, (world.resume id choice pc signal).loop.task id = some task ∧
                Spawned task.pc ∧ (isHealth pc = true → signal = .value →
                  isHealth task.pc = true ∧ task.status = .pending) := by
  have doneAllowed (result : Signal) : allowed pc (.done result) := by
    rcases spawned with health | run
    · exact allowed_of_health health (.inr (.inr ⟨result, rfl⟩))
    · exact allowed_of_run run (.inr (.inr ⟨result, rfl⟩))
  rcases spawned_cases id choice spawned fine healthy with
    ⟨new, failures, ⟨sameHealth, sameRun⟩, moved⟩ | ⟨result, fineResult, notValue, moved⟩
  · have updated := task_suspend runs new
    have self := (updated id).trans (if_pos rfl)
    have newSpawned : Spawned new := by
      rcases spawned with health | run
      · exact .inl (sameHealth ▸ health)
      · exact .inr (sameRun ▸ run)
    have pendingAllowed : allowed new .pending := by
      rcases newSpawned with health | run
      · exact allowed_of_health health (.inl rfl)
      · exact allowed_of_run run (.inl rfl)
    have orderly : Orderly rules (world.loop.suspend id new) none :=
      orderly_moved tidy.orderly runs (queued_suspend tidy.orderly.queued runs new) updated rfl
        pendingAllowed fun waiter => awaits_of_same_kind spawned sameHealth sameRun
    have frame : CallFrame id world.loop (world.loop.suspend id new) :=
      frame_moved runs updated (by rw [ready_suspend runs, List.append_nil]) (by simp)
    rw [moved]
    refine ⟨tidy.step runs orderly frame self ?_ ?_ ?_ ?_, frame, rfl, rfl, spares_moved updated,
      _, self, newSpawned, fun health _ => ⟨sameHealth ▸ health, rfl⟩⟩
    · exact fun health => sameHealth ▸ health
    · exact fun run => sameRun ▸ run
    · exact fun other holds => .inl holds
    · exact fun context other holds => .inl holds
  · obtain ⟨tidyAfter, frame, _⟩ := finish_stepped
      { world with loop := world.loop.finish id result } tidy runs (doneAllowed result)
      (wakes_of_spawned spawned fineResult) rfl (fun _ holds => holds) fun _ _ holds => holds
    have self : (world.loop.finish id result).task id = some ⟨pc, .done result, []⟩ := by
      rw [task_finish_all runs (tidy.orderly.not_waiting runs runs), if_pos rfl]
    rw [moved]
    exact ⟨tidyAfter, frame, rfl, rfl, spares_finish tidy.orderly runs result, _, self, spawned,
      fun health value => absurd value (notValue health)⟩

end

end RemoteIface.HbCompat.CallTasks
