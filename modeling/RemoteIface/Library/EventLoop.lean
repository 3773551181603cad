import Mathlib.Data.List.Basic
import Mathlib.Data.List.Nodup

/-!
A single-threaded event loop in the manner of `asyncio`. A task runs from one
await to the next; between two runs it is in the ready queue, waits for a
future that the environment completes, or waits for another task. A
cancellation travels along the chain of awaits to the task that really waits.
-/

namespace RemoteIface.Library.EventLoop

set_option autoImplicit false

abbrev TaskId := Nat

/-- How an await, or a whole task, ends. -/
inductive Signal where
  | value
  | cancelled
  | raised
deriving DecidableEq, Repr

/-- A scheduled task knows the signal it will be resumed with; the running task
knows whether it has cancelled itself. -/
inductive Status where
  | scheduled (signal : Signal)
  | running (cancelRequested : Bool)
  | pending
  | awaiting (task : TaskId)
  | done (result : Signal)
deriving DecidableEq, Repr

/-- `pc` is the await the task stands at. `waiters` are the tasks that await
this one, in the order in which they began to. -/
structure TaskState (Pc : Type*) where
  pc : Pc
  status : Status
  waiters : List TaskId

structure Loop (Pc : Type*) where
  tasks : List (TaskState Pc)
  ready : List TaskId

variable {Pc : Type*}

def Status.alive : Status → Bool
  | done _ => false
  | _ => true

def TaskState.alive (task : TaskState Pc) : Bool := task.status.alive

namespace Loop

def empty : Loop Pc := ⟨[], []⟩

def task (loop : Loop Pc) (id : TaskId) : Option (TaskState Pc) := loop.tasks[id]?

def change (loop : Loop Pc) (id : TaskId) (f : TaskState Pc → TaskState Pc) : Loop Pc :=
  { loop with tasks := loop.tasks.modify id f }

def create (loop : Loop Pc) (pc : Pc) : Loop Pc where
  tasks := loop.tasks ++ [⟨pc, .scheduled .value, []⟩]
  ready := loop.ready ++ [loop.tasks.length]

/-- The await of the task is over: it goes to the end of the ready queue. -/
def wake (loop : Loop Pc) (id : TaskId) (signal : Signal) : Loop Pc where
  tasks := loop.tasks.modify id fun task => { task with status := .scheduled signal }
  ready := loop.ready ++ [id]

/-- `cancel` with a bound on the length of the chain of awaits. -/
def cancelWithin : Nat → Loop Pc → TaskId → Loop Pc
  | 0, loop, _ => loop
  | fuel + 1, loop, id =>
      match (loop.task id).map TaskState.status with
      | some (.scheduled _) => loop.change id fun task => { task with status := .scheduled .cancelled }
      | some (.running _) => loop.change id fun task => { task with status := .running true }
      | some .pending => loop.wake id .cancelled
      | some (.awaiting other) => cancelWithin fuel loop other
      | some (.done _) => loop
      | none => loop

/-- `Task.cancel()`. A chain of awaits passes every task at most once. -/
def cancel (loop : Loop Pc) (id : TaskId) : Loop Pc := cancelWithin loop.tasks.length loop id

/-- The environment completes the future that the task waits for. -/
def fire (loop : Loop Pc) (id : TaskId) : Option (Loop Pc) :=
  match (loop.task id).map TaskState.status with
  | some .pending => some (loop.wake id .value)
  | _ => none

/-- The signal that a task which goes to sleep is resumed with when it has
cancelled itself before. -/
def requested (loop : Loop Pc) (id : TaskId) : Bool :=
  match (loop.task id).map TaskState.status with
  | some (.running cancelRequested) => cancelRequested
  | _ => false

def standAt (loop : Loop Pc) (id : TaskId) (pc : Pc) : Loop Pc :=
  loop.change id fun task => { task with pc := pc }

/-- The running task awaits a future of the environment. -/
def suspend (loop : Loop Pc) (id : TaskId) (pc : Pc) : Loop Pc :=
  if loop.requested id then (loop.standAt id pc).wake id .cancelled
  else (loop.standAt id pc).change id fun task => { task with status := .pending }

/-- `await asyncio.sleep(0)` in the running task. -/
def yieldNow (loop : Loop Pc) (id : TaskId) (pc : Pc) : Loop Pc :=
  (loop.standAt id pc).wake id (if loop.requested id then .cancelled else .value)

/-- The running task awaits an unfinished one. A task that awaits itself is
resumed with an exception. -/
def await (loop : Loop Pc) (id : TaskId) (pc : Pc) (other : TaskId) : Loop Pc :=
  if other = id then
    (loop.standAt id pc).wake id (if loop.requested id then .cancelled else .raised)
  else
    let waiting := ((loop.standAt id pc).change id fun task =>
      { task with status := .awaiting other }).change other fun task =>
        { task with waiters := task.waiters ++ [id] }
    if loop.requested id then waiting.cancel other else waiting

def wakeAll (loop : Loop Pc) (signal : Signal) : List TaskId → Loop Pc
  | [] => loop
  | id :: rest => (loop.wake id signal).wakeAll signal rest

/-- The running task ends and its waiters are resumed. -/
def finish (loop : Loop Pc) (id : TaskId) (result : Signal) : Loop Pc :=
  match loop.task id with
  | none => loop
  | some task =>
      (loop.change id fun task => { task with status := .done result, waiters := [] }).wakeAll
        result task.waiters

/-- Take the entry at a place of the ready queue: the task that runs next, the
await it stands at and the signal it is resumed with. -/
def takeReady (loop : Loop Pc) (place : Nat) : Option (Loop Pc × TaskId × Pc × Signal) :=
  match loop.ready[place]? with
  | none => none
  | some id =>
      match loop.task id with
      | some ⟨pc, .scheduled signal, _⟩ =>
          some ({ loop with ready := loop.ready.eraseIdx place }.change id fun task =>
            { task with status := .running false }, id, pc, signal)
      | _ => none

@[simp] theorem task_change (loop : Loop Pc) (id other : TaskId) (f : TaskState Pc → TaskState Pc) :
    (loop.change id f).task other = if id = other then (loop.task other).map f
      else loop.task other := by
  unfold task change
  rw [List.getElem?_modify]
  split <;> simp

@[simp] theorem ready_change (loop : Loop Pc) (id : TaskId) (f : TaskState Pc → TaskState Pc) :
    (loop.change id f).ready = loop.ready := rfl

@[simp] theorem task_standAt (loop : Loop Pc) (id other : TaskId) (pc : Pc) :
    (loop.standAt id pc).task other = if id = other then
      (loop.task other).map fun task => { task with pc := pc } else loop.task other :=
  task_change loop id other _

@[simp] theorem ready_standAt (loop : Loop Pc) (id : TaskId) (pc : Pc) :
    (loop.standAt id pc).ready = loop.ready := rfl

theorem task_create (loop : Loop Pc) (pc : Pc) (other : TaskId) :
    (loop.create pc).task other = if other = loop.tasks.length then
      some ⟨pc, .scheduled .value, []⟩ else loop.task other := by
  unfold task create
  rcases Nat.lt_trichotomy other loop.tasks.length with inside | rfl | outside
  · rw [List.getElem?_append_left inside, if_neg (Nat.ne_of_lt inside)]
  · rw [List.getElem?_concat_length, if_pos rfl]
  · rw [if_neg (Nat.ne_of_gt outside), List.getElem?_eq_none (Nat.le_of_lt outside),
      List.getElem?_eq_none (by simpa using Nat.succ_le_of_lt outside)]

@[simp] theorem ready_create (loop : Loop Pc) (pc : Pc) :
    (loop.create pc).ready = loop.ready ++ [loop.tasks.length] := rfl

@[simp] theorem task_wake (loop : Loop Pc) (id other : TaskId) (signal : Signal) :
    (loop.wake id signal).task other = if id = other then
      (loop.task other).map fun task => { task with status := .scheduled signal }
        else loop.task other :=
  task_change loop id other _

@[simp] theorem ready_wake (loop : Loop Pc) (id : TaskId) (signal : Signal) :
    (loop.wake id signal).ready = loop.ready ++ [id] := rfl

theorem task_new (loop : Loop Pc) : loop.task loop.tasks.length = none :=
  List.getElem?_eq_none (Nat.le_refl _)

theorem ne_new_of_task {loop : Loop Pc} {id : TaskId} {task : TaskState Pc}
    (known : loop.task id = some task) : id ≠ loop.tasks.length := by
  rintro rfl
  rw [task_new] at known
  cases known

section

variable {loop : Loop Pc} {id : TaskId} {pc : Pc} {waiters : List TaskId}

theorem requested_of_running (runs : loop.task id = some ⟨pc, .running false, waiters⟩) :
    loop.requested id = false := by
  simp [requested, runs]

theorem task_suspend (runs : loop.task id = some ⟨pc, .running false, waiters⟩) (new : Pc)
    (other : TaskId) :
    (loop.suspend id new).task other =
      if id = other then some ⟨new, .pending, waiters⟩ else loop.task other := by
  simp only [suspend, requested_of_running runs, Bool.false_eq_true, if_false, task_change,
    task_standAt]
  by_cases same : id = other
  · subst same
    simp [runs]
  · simp [same]

theorem ready_suspend (runs : loop.task id = some ⟨pc, .running false, waiters⟩) (new : Pc) :
    (loop.suspend id new).ready = loop.ready := by
  simp [suspend, requested_of_running runs]

theorem task_yieldNow (runs : loop.task id = some ⟨pc, .running false, waiters⟩) (new : Pc)
    (other : TaskId) :
    (loop.yieldNow id new).task other =
      if id = other then some ⟨new, .scheduled .value, waiters⟩ else loop.task other := by
  simp only [yieldNow, requested_of_running runs, Bool.false_eq_true, if_false, task_wake,
    task_standAt]
  by_cases same : id = other
  · subst same
    simp [runs]
  · simp [same]

@[simp] theorem ready_yieldNow (loop : Loop Pc) (id : TaskId) (new : Pc) :
    (loop.yieldNow id new).ready = loop.ready ++ [id] := rfl

theorem task_await (runs : loop.task id = some ⟨pc, .running false, waiters⟩) (new : Pc)
    {target : TaskId} {held : TaskState Pc} (different : target ≠ id)
    (known : loop.task target = some held) (other : TaskId) :
    (loop.await id new target).task other =
      if id = other then some ⟨new, .awaiting target, waiters⟩
      else if target = other then some { held with waiters := held.waiters ++ [id] }
      else loop.task other := by
  simp only [await, if_neg different, requested_of_running runs, Bool.false_eq_true, if_false,
    task_change, task_standAt]
  by_cases same : id = other
  · subst same
    simp [runs, different]
  · by_cases isTarget : target = other
    · subst isTarget
      simp [same, known]
    · simp [same, isTarget]

theorem ready_await (runs : loop.task id = some ⟨pc, .running false, waiters⟩) (new : Pc)
    {target : TaskId} (different : target ≠ id) :
    (loop.await id new target).ready = loop.ready := by
  simp [await, different, requested_of_running runs]

theorem task_finish (runs : loop.task id = some ⟨pc, .running false, []⟩) (result : Signal)
    (other : TaskId) :
    (loop.finish id result).task other =
      if id = other then some ⟨pc, .done result, []⟩ else loop.task other := by
  simp only [finish, runs, wakeAll, task_change]
  by_cases same : id = other
  · subst same
    simp [runs]
  · simp [same]

theorem ready_finish (runs : loop.task id = some ⟨pc, .running false, []⟩) (result : Signal) :
    (loop.finish id result).ready = loop.ready := by
  simp [finish, runs, wakeAll]

theorem task_finish_one {waiter : TaskId} {held : TaskState Pc}
    (runs : loop.task id = some ⟨pc, .running false, [waiter]⟩) (different : waiter ≠ id)
    (known : loop.task waiter = some held) (result : Signal) (other : TaskId) :
    (loop.finish id result).task other =
      if id = other then some ⟨pc, .done result, []⟩
      else if waiter = other then some { held with status := .scheduled result }
      else loop.task other := by
  simp only [finish, runs, wakeAll, task_wake, task_change]
  by_cases same : id = other
  · subst same
    simp [runs, different]
  · by_cases isWaiter : waiter = other
    · subst isWaiter
      simp [same, known]
    · simp [same, isWaiter]

theorem ready_finish_one {waiter : TaskId}
    (runs : loop.task id = some ⟨pc, .running false, [waiter]⟩) (result : Signal) :
    (loop.finish id result).ready = loop.ready ++ [waiter] := by
  simp [finish, runs, wakeAll]

end

theorem task_cancel {loop : Loop Pc} {id : TaskId} {held : TaskState Pc}
    (known : loop.task id = some held)
    (interruptible : held.status = .pending ∨ ∃ signal, held.status = .scheduled signal)
    (other : TaskId) :
    (loop.cancel id).task other =
      if id = other then some { held with status := .scheduled .cancelled }
      else loop.task other := by
  obtain ⟨inside, _⟩ := List.getElem?_eq_some_iff.mp known
  unfold cancel
  cases size : loop.tasks.length with
  | zero => simp [size] at inside
  | succ fuel =>
      rcases interruptible with pending | ⟨signal, scheduled⟩
      · simp only [cancelWithin, known, Option.map_some, pending, task_wake]
        split <;> simp_all
      · simp only [cancelWithin, known, Option.map_some, scheduled, task_change]
        split <;> simp_all

def IsScheduled (loop : Loop Pc) (id : TaskId) : Prop :=
  ∃ task signal, loop.task id = some task ∧ task.status = .scheduled signal

/-- Every scheduled task is in the ready queue, once, and nothing else is. -/
structure Queued (loop : Loop Pc) : Prop where
  unique : loop.ready.Nodup
  exact : ∀ id, id ∈ loop.ready ↔ loop.IsScheduled id

theorem queued_empty : Queued (empty : Loop Pc) where
  unique := List.nodup_nil
  exact := by simp [empty, IsScheduled, task]

theorem Queued.same {loop next : Loop Pc} (queued : loop.Queued) (ready : next.ready = loop.ready)
    (scheduled : ∀ id, next.IsScheduled id ↔ loop.IsScheduled id) : next.Queued where
  unique := by rw [ready]; exact queued.unique
  exact := by
    intro id
    rw [ready, scheduled]
    exact queued.exact id

theorem Queued.push {loop next : Loop Pc} {id : TaskId} (queued : loop.Queued)
    (ready : next.ready = loop.ready ++ [id]) (fresh : ¬ loop.IsScheduled id)
    (scheduled : ∀ other, next.IsScheduled other ↔ other = id ∨ loop.IsScheduled other) :
    next.Queued where
  unique := by
    rw [ready, List.nodup_append]
    refine ⟨queued.unique, List.nodup_singleton id, ?_⟩
    intro other member last isLast equal
    rw [equal, List.mem_singleton.mp isLast] at member
    exact fresh ((queued.exact id).mp member)
  exact := by
    intro other
    rw [ready, List.mem_append, List.mem_singleton, scheduled, queued.exact, or_comm]

theorem scheduled_of_update {loop next : Loop Pc} {id : TaskId} {new : TaskState Pc}
    (updated : ∀ other, next.task other = if id = other then some new else loop.task other)
    (other : TaskId) :
    next.IsScheduled other ↔
      (other = id ∧ ∃ signal, new.status = .scheduled signal) ∨
        (other ≠ id ∧ loop.IsScheduled other) := by
  unfold IsScheduled
  rw [updated other]
  by_cases same : id = other
  · simp [same]
  · have different : ¬ other = id := fun equal => same equal.symm
    simp [same, different]

theorem not_scheduled_of_status {loop : Loop Pc} {id : TaskId} {held : TaskState Pc}
    (known : loop.task id = some held) (unscheduled : ∀ signal, held.status ≠ .scheduled signal) :
    ¬ loop.IsScheduled id := by
  rintro ⟨task, signal, found, scheduled⟩
  rw [known, Option.some.injEq] at found
  exact unscheduled signal (found ▸ scheduled)

theorem Queued.update_unscheduled {loop next : Loop Pc} {id : TaskId} {held new : TaskState Pc}
    (queued : loop.Queued) (known : loop.task id = some held)
    (before : ∀ signal, held.status ≠ .scheduled signal)
    (after : ∀ signal, new.status ≠ .scheduled signal)
    (updated : ∀ other, next.task other = if id = other then some new else loop.task other)
    (ready : next.ready = loop.ready) : next.Queued := by
  refine queued.same ready fun other => ?_
  rw [scheduled_of_update updated]
  have unscheduled := not_scheduled_of_status known before
  constructor
  · rintro (⟨_, signal, scheduled⟩ | ⟨_, scheduled⟩)
    · exact absurd scheduled (after signal)
    · exact scheduled
  · intro scheduled
    refine .inr ⟨?_, scheduled⟩
    rintro rfl
    exact unscheduled scheduled

theorem Queued.update_scheduled {loop next : Loop Pc} {id : TaskId} {held new : TaskState Pc}
    {signal : Signal} (queued : loop.Queued) (known : loop.task id = some held)
    (before : ∀ signal, held.status ≠ .scheduled signal) (after : new.status = .scheduled signal)
    (updated : ∀ other, next.task other = if id = other then some new else loop.task other)
    (ready : next.ready = loop.ready ++ [id]) : next.Queued := by
  refine queued.push ready (not_scheduled_of_status known before) fun other => ?_
  rw [scheduled_of_update updated]
  by_cases same : other = id
  · simp [same, after]
  · simp [same]

theorem queued_create {loop : Loop Pc} (queued : loop.Queued) (pc : Pc) :
    (loop.create pc).Queued := by
  refine queued.push (ready_create loop pc) ?_ fun other => ?_
  · rintro ⟨task, signal, known, _⟩
    rw [task_new] at known
    cases known
  · unfold IsScheduled
    rw [task_create]
    by_cases same : other = loop.tasks.length
    · simp [same]
    · simp [same]

theorem queued_fire {loop next : Loop Pc} {id : TaskId} (queued : loop.Queued)
    (fired : loop.fire id = some next) :
    ∃ held, loop.task id = some held ∧ held.status = .pending ∧ next.Queued ∧
      ∀ other, next.task other =
        if id = other then some { held with status := .scheduled .value } else loop.task other := by
  unfold fire at fired
  cases known : loop.task id with
  | none => simp [known] at fired
  | some held =>
      simp only [known, Option.map_some] at fired
      split at fired <;> cases fired
      rename_i pending
      rw [Option.some.injEq] at pending
      have updated : ∀ other, (loop.wake id .value).task other =
          if id = other then some { held with status := .scheduled .value }
            else loop.task other := by
        intro other
        rw [task_wake]
        by_cases same : id = other
        · subst same
          simp [known]
        · simp [same]
      exact ⟨held, rfl, pending, queued.update_scheduled known (by simp [pending]) rfl updated
        (ready_wake _ _ _), updated⟩

/-- The task `id` has left the ready queue and runs. -/
structure Taken (loop next : Loop Pc) (id : TaskId) (pc : Pc) (signal : Signal)
    (waiters : List TaskId) : Prop where
  known : loop.task id = some ⟨pc, .scheduled signal, waiters⟩
  queued : next.Queued
  ready : next.ready = loop.ready.erase id
  updated : ∀ other, next.task other =
    if id = other then some ⟨pc, .running false, waiters⟩ else loop.task other

theorem take_ready_some {loop next : Loop Pc} {place : Nat} {id : TaskId} {pc : Pc}
    {signal : Signal} (taken : loop.takeReady place = some (next, id, pc, signal)) :
    loop.ready[place]? = some id ∧
      ∃ waiters, loop.task id = some ⟨pc, .scheduled signal, waiters⟩ ∧
        next = Loop.change { loop with ready := loop.ready.eraseIdx place } id
          fun task => { task with status := .running false } := by
  unfold takeReady at taken
  split at taken
  · cases taken
  · rename_i first entry
    split at taken
    · rename_i firstPc firstSignal waiters known
      cases taken
      exact ⟨entry, waiters, known, rfl⟩
    · cases taken

theorem take_ready_cases {loop next : Loop Pc} {place : Nat} {id : TaskId} {pc : Pc}
    {signal : Signal} (queued : loop.Queued)
    (taken : loop.takeReady place = some (next, id, pc, signal)) :
    loop.ready[place]? = some id ∧ ∃ waiters, Taken loop next id pc signal waiters := by
  obtain ⟨entry, waiters, known, rfl⟩ := take_ready_some taken
  have updated : ∀ other, (Loop.change { loop with ready := loop.ready.eraseIdx place } id
      fun task => { task with status := .running false }).task other =
        if id = other then some ⟨pc, .running false, waiters⟩ else loop.task other := by
    intro other
    rw [task_change]
    by_cases same : id = other
    · subst same
      have here : Loop.task { loop with ready := loop.ready.eraseIdx place } id =
          some ⟨pc, .scheduled signal, waiters⟩ := known
      simp [here]
    · rw [if_neg same, if_neg same]
      rfl
  have erased : loop.ready.eraseIdx place = loop.ready.erase id := by
    obtain ⟨inside, rfl⟩ := List.getElem?_eq_some_iff.mp entry
    exact (queued.unique.erase_getElem place inside).symm
  refine ⟨entry, waiters, known, ⟨queued.unique.eraseIdx place, fun other => ?_⟩, erased, updated⟩
  rw [scheduled_of_update updated, ← queued.exact, ready_change]
  dsimp only
  rw [erased, queued.unique.mem_erase_iff]
  simp

theorem update_twice {loop middle next : Loop Pc} {id : TaskId} {one two : TaskState Pc}
    (first : ∀ other, middle.task other = if id = other then some one else loop.task other)
    (second : ∀ other, next.task other = if id = other then some two else middle.task other)
    (other : TaskId) :
    next.task other = if id = other then some two else loop.task other := by
  rw [second, first]
  split <;> rfl

section

variable {loop : Loop Pc} {id : TaskId} {pc : Pc} {waiters : List TaskId}

theorem queued_suspend (queued : loop.Queued)
    (runs : loop.task id = some ⟨pc, .running false, waiters⟩) (new : Pc) :
    (loop.suspend id new).Queued :=
  queued.update_unscheduled runs (by simp) (by simp) (task_suspend runs new)
    (ready_suspend runs new)

theorem queued_yieldNow (queued : loop.Queued)
    (runs : loop.task id = some ⟨pc, .running false, waiters⟩) (new : Pc) :
    (loop.yieldNow id new).Queued :=
  queued.update_scheduled runs (by simp) rfl (task_yieldNow runs new) (ready_yieldNow loop id new)

theorem queued_await (queued : loop.Queued)
    (runs : loop.task id = some ⟨pc, .running false, waiters⟩) (new : Pc) {target : TaskId}
    {held : TaskState Pc} (different : target ≠ id) (known : loop.task target = some held) :
    (loop.await id new target).Queued := by
  refine queued.same (ready_await runs new different) fun other => ?_
  unfold IsScheduled
  rw [task_await runs new different known]
  by_cases same : id = other
  · subst same
    simp [runs]
  · by_cases isTarget : target = other
    · subst isTarget
      simp [same, known]
    · simp [same, isTarget]

theorem queued_finish (queued : loop.Queued)
    (runs : loop.task id = some ⟨pc, .running false, []⟩) (result : Signal) :
    (loop.finish id result).Queued :=
  queued.update_unscheduled runs (by simp) (by simp) (task_finish runs result)
    (ready_finish runs result)

theorem queued_finish_one (queued : loop.Queued) {waiter : TaskId} {held : TaskState Pc}
    (runs : loop.task id = some ⟨pc, .running false, [waiter]⟩) (different : waiter ≠ id)
    (known : loop.task waiter = some held) (asleep : ∀ signal, held.status ≠ .scheduled signal)
    (result : Signal) : (loop.finish id result).Queued := by
  refine queued.push (ready_finish_one runs result) (not_scheduled_of_status known asleep)
    fun other => ?_
  unfold IsScheduled
  rw [task_finish_one runs different known]
  by_cases same : id = other
  · subst same
    simp [runs, different.symm]
  · by_cases isWaiter : waiter = other
    · subst isWaiter
      simp [same]
    · have notWaiter : ¬ other = waiter := fun equal => isWaiter equal.symm
      simp [same, isWaiter, notWaiter]

theorem queued_cancel (queued : loop.Queued) {held : TaskState Pc} (known : loop.task id = some held)
    (interruptible : held.status = .pending ∨ ∃ signal, held.status = .scheduled signal) :
    (loop.cancel id).Queued := by
  have updated := task_cancel known interruptible
  obtain ⟨inside, _⟩ := List.getElem?_eq_some_iff.mp known
  rcases interruptible with pending | ⟨signal, scheduled⟩
  · refine queued.update_scheduled known (by simp [pending]) rfl updated ?_
    unfold cancel
    cases size : loop.tasks.length with
    | zero => simp [size] at inside
    | succ fuel => simp [cancelWithin, known, pending]
  · refine queued.same ?_ fun other => ?_
    · unfold cancel
      cases size : loop.tasks.length with
      | zero => simp [size] at inside
      | succ fuel => simp [cancelWithin, known, scheduled]
    · rw [scheduled_of_update updated]
      by_cases same : other = id
      · subst same
        simp [IsScheduled, known, scheduled]
      · simp [same]

end

namespace Taken

variable {loop next : Loop Pc} {id : TaskId} {pc : Pc} {signal : Signal} {waiters : List TaskId}

theorem runs (taken : Taken loop next id pc signal waiters) :
    next.task id = some ⟨pc, .running false, waiters⟩ := by
  rw [taken.updated, if_pos rfl]

theorem suspend (taken : Taken loop next id pc signal waiters) (new : Pc) (other : TaskId) :
    (next.suspend id new).task other =
      if id = other then some ⟨new, .pending, waiters⟩ else loop.task other :=
  update_twice taken.updated (task_suspend taken.runs new) other

theorem finish (taken : Taken loop next id pc signal []) (result : Signal) (other : TaskId) :
    (next.finish id result).task other =
      if id = other then some ⟨pc, .done result, []⟩ else loop.task other :=
  update_twice taken.updated (task_finish taken.runs result) other

theorem finish_one {waiter : TaskId} {held : TaskState Pc}
    (taken : Taken loop next id pc signal [waiter]) (different : waiter ≠ id)
    (known : loop.task waiter = some held) (result : Signal) (other : TaskId) :
    (next.finish id result).task other =
      if id = other then some ⟨pc, .done result, []⟩
      else if waiter = other then some { held with status := .scheduled result }
      else loop.task other := by
  have there : next.task waiter = some held := by
    rw [taken.updated, if_neg different.symm, known]
  rw [task_finish_one taken.runs different there, taken.updated]
  split <;> rfl

theorem of_ne (taken : Taken loop next id pc signal waiters) {other : TaskId}
    (different : id ≠ other) : next.task other = loop.task other := by
  rw [taken.updated, if_neg different]

end Taken

def standsAt (loop : Loop Pc) (id : TaskId) : Option Pc := (loop.task id).map TaskState.pc

section

variable {loop : Loop Pc} {id : TaskId}

theorem stands_of_update {next : Loop Pc} {f : TaskState Pc → TaskState Pc}
    (updated : ∀ other, next.task other =
      if id = other then (loop.task other).map f else loop.task other)
    (same : ∀ task, (f task).pc = task.pc) (other : TaskId) :
    next.standsAt other = loop.standsAt other := by
  unfold standsAt
  rw [updated]
  split
  · cases loop.task other with
    | none => rfl
    | some task => exact congrArg some (same task)
  · rfl

theorem stands_change (loop : Loop Pc) (id other : TaskId) (f : TaskState Pc → TaskState Pc)
    (same : ∀ task, (f task).pc = task.pc) :
    (loop.change id f).standsAt other = loop.standsAt other :=
  stands_of_update (fun other => task_change loop id other f) same other

theorem stands_wake (loop : Loop Pc) (id other : TaskId) (signal : Signal) :
    (loop.wake id signal).standsAt other = loop.standsAt other :=
  stands_of_update (fun other => task_wake loop id other signal) (fun _ => rfl) other

theorem stands_wake_all (signal : Signal) (ids : List TaskId) (loop : Loop Pc) (other : TaskId) :
    (loop.wakeAll signal ids).standsAt other = loop.standsAt other := by
  induction ids generalizing loop with
  | nil => rfl
  | cons id rest induction => exact (induction _).trans (stands_wake loop id other signal)

theorem stands_cancel_within (fuel : Nat) (loop : Loop Pc) (id other : TaskId) :
    (cancelWithin fuel loop id).standsAt other = loop.standsAt other := by
  induction fuel generalizing id with
  | zero => rfl
  | succ fuel induction =>
      unfold cancelWithin
      split
      · exact stands_change loop id other _ fun _ => rfl
      · exact stands_change loop id other _ fun _ => rfl
      · exact stands_wake loop id other .cancelled
      · exact induction _
      · rfl
      · rfl

theorem stands_cancel (loop : Loop Pc) (id other : TaskId) :
    (loop.cancel id).standsAt other = loop.standsAt other :=
  stands_cancel_within _ loop id other

theorem stands_finish (loop : Loop Pc) (id other : TaskId) (result : Signal) :
    (loop.finish id result).standsAt other = loop.standsAt other := by
  unfold finish
  split
  · rfl
  · rw [stands_wake_all]
    exact stands_change loop id other _ fun _ => rfl

theorem stands_create {pc : Pc} (known : loop.standsAt id = some pc) (new : Pc) :
    (loop.create new).standsAt id = some pc := by
  obtain ⟨task, stored, same⟩ := Option.map_eq_some_iff.mp known
  unfold standsAt
  rw [task_create, if_neg (ne_new_of_task stored), stored, Option.map_some, same]

theorem stands_stand_at {pc : Pc} (known : loop.standsAt id = some pc) (new : Pc) :
    (loop.standAt id new).standsAt id = some new := by
  obtain ⟨task, stored, _⟩ := Option.map_eq_some_iff.mp known
  unfold standsAt
  rw [task_standAt, if_pos rfl, stored]
  rfl

theorem stands_suspend {pc : Pc} (known : loop.standsAt id = some pc) (new : Pc) :
    (loop.suspend id new).standsAt id = some new := by
  have stands := stands_stand_at known new
  unfold suspend
  split
  · exact (stands_wake _ _ _ _).trans stands
  · rw [stands_change]
    · exact stands
    · exact fun _ => rfl

theorem stands_yield_now {pc : Pc} (known : loop.standsAt id = some pc) (new : Pc) :
    (loop.yieldNow id new).standsAt id = some new :=
  (stands_wake _ _ _ _).trans (stands_stand_at known new)

theorem stands_await {pc : Pc} (known : loop.standsAt id = some pc) (new : Pc) (other : TaskId) :
    (loop.await id new other).standsAt id = some new := by
  have stands := stands_stand_at known new
  have waiting : (((loop.standAt id new).change id fun task =>
      { task with status := .awaiting other }).change other fun task =>
        { task with waiters := task.waiters ++ [id] }).standsAt id = some new := by
    rw [stands_change _ other, stands_change _ id]
    · exact stands
    · exact fun _ => rfl
    · exact fun _ => rfl
  unfold await
  split
  · exact (stands_wake _ _ _ _).trans stands
  · dsimp only
    split
    · exact (stands_cancel _ _ _).trans waiting
    · exact waiting

theorem take_ready_size {next : Loop Pc} {place : Nat} {pc : Pc} {signal : Signal}
    (taken : loop.takeReady place = some (next, id, pc, signal)) :
    next.tasks.length = loop.tasks.length := by
  obtain ⟨_, _, _, rfl⟩ := take_ready_some taken
  exact List.length_modify _ _ _

theorem stands_take_ready {next : Loop Pc} {place : Nat} {pc : Pc} {signal : Signal}
    (taken : loop.takeReady place = some (next, id, pc, signal)) :
    next.standsAt id = some pc := by
  obtain ⟨_, _, known, rfl⟩ := take_ready_some taken
  rw [stands_change]
  · exact congrArg (Option.map TaskState.pc) known
  · exact fun _ => rfl

end

end Loop

end RemoteIface.Library.EventLoop
