import RemoteIface.Library.EventLoop

/-!
A discipline for the tasks of an event loop: which statuses go with an await,
and which awaits wait for which. A step of one task is a sequence of operations
while that task runs; each operation keeps the discipline and changes the other
tasks only within a frame.
-/

namespace RemoteIface.Library.EventLoop.Loop

set_option autoImplicit false

variable {Pc : Type*}

/-- What a system promises about its tasks: `allowed` relates an await to the
statuses of a task that stands at it, and `awaits` an await on another task to
the awaits that task may stand at. -/
structure Rules (Pc : Type*) where
  allowed : Pc → Status → Prop
  awaits : Pc → Pc → Prop

/-- All tasks but the running one keep the rules, and whoever is listed as a
waiter of a task waits for it. -/
structure Orderly (rules : Rules Pc) (loop : Loop Pc) (running : Option TaskId) : Prop where
  queued : loop.Queued
  allowed : ∀ id task, loop.task id = some task → running ≠ some id →
    rules.allowed task.pc task.status
  waiters : ∀ id task, loop.task id = some task → task.waiters.Nodup ∧
    ∀ waiter ∈ task.waiters, ∃ held, loop.task waiter = some held ∧
      held.status = .awaiting id ∧ rules.awaits held.pc task.pc

/-- What the step of the task `id` leaves as it is: the awaits of the other tasks
and whether they are alive. New tasks stand at `spawned` awaits, and the tasks
that it wakes at `background` awaits. -/
structure Frame (spawned background : Pc → Prop) (id : TaskId) (loop next : Loop Pc) : Prop where
  kept : ∀ other task, other ≠ id → loop.task other = some task →
    ∃ after, next.task other = some after ∧ after.pc = task.pc ∧ after.alive = task.alive
  born : ∀ other task, loop.task other = none → next.task other = some task → spawned task.pc
  pushed : ∃ new, next.ready = loop.ready ++ new ∧
    ∀ other ∈ new, other = id ∨ ∃ task, next.task other = some task ∧ background task.pc

/-- The step of the task `id` does not touch the other tasks that await none. -/
def Spares (id : TaskId) (loop next : Loop Pc) : Prop :=
  ∀ other task, other ≠ id → loop.task other = some task →
    (∀ target, task.status ≠ .awaiting target) → next.task other = some task

section

variable {spawned background : Pc → Prop} {id : TaskId} {loop middle next : Loop Pc}

theorem Frame.trans {held : TaskState Pc} (first : Frame spawned background id loop middle)
    (second : Frame spawned background id middle next) (known : loop.task id = some held) :
    Frame spawned background id loop next where
  kept := by
    intro other task different found
    obtain ⟨between, there, pc, alive⟩ := first.kept other task different found
    obtain ⟨after, here, pcAfter, aliveAfter⟩ := second.kept other between different there
    exact ⟨after, here, pcAfter.trans pc, aliveAfter.trans alive⟩
  born := by
    intro other task absent found
    cases there : middle.task other with
    | none => exact second.born other task there found
    | some between =>
        have isSpawned := first.born other between absent there
        have different : other ≠ id := by
          rintro rfl
          rw [absent] at known
          cases known
        obtain ⟨after, here, pc, _⟩ := second.kept other between different there
        rw [found, Option.some.injEq] at here
        subst here
        rw [pc]
        exact isSpawned
  pushed := by
    obtain ⟨early, readyEarly, kindsEarly⟩ := first.pushed
    obtain ⟨late, readyLate, kindsLate⟩ := second.pushed
    refine ⟨early ++ late, by rw [readyLate, readyEarly, List.append_assoc], ?_⟩
    intro other member
    rcases List.mem_append.mp member with isEarly | isLate
    · by_cases same : other = id
      · exact .inl same
      · rcases kindsEarly other isEarly with self | ⟨between, there, isBackground⟩
        · exact .inl self
        · obtain ⟨after, here, pc, _⟩ := second.kept other between same there
          exact .inr ⟨after, here, pc ▸ isBackground⟩
    · exact kindsLate other isLate

end

theorem task_wakeAll (loop : Loop Pc) (signal : Signal) (waiters : List TaskId) (other : TaskId) :
    (loop.wakeAll signal waiters).task other = if other ∈ waiters then
      (loop.task other).map fun task => { task with status := .scheduled signal }
        else loop.task other := by
  induction waiters generalizing loop with
  | nil => simp [wakeAll]
  | cons first rest induction =>
      rw [wakeAll, induction, task_wake]
      by_cases isFirst : first = other
      · subst isFirst
        cases loop.task first <;> simp
      · simp [isFirst, Ne.symm isFirst]

theorem ready_wakeAll (loop : Loop Pc) (signal : Signal) (waiters : List TaskId) :
    (loop.wakeAll signal waiters).ready = loop.ready ++ waiters := by
  induction waiters generalizing loop with
  | nil => simp [wakeAll]
  | cons first rest induction => simp [wakeAll, induction, List.append_assoc]

section

variable {loop : Loop Pc} {id : TaskId} {pc : Pc} {waiters : List TaskId}

theorem task_finish_all (runs : loop.task id = some ⟨pc, .running false, waiters⟩)
    (outside : id ∉ waiters) (result : Signal) (other : TaskId) :
    (loop.finish id result).task other =
      if id = other then some ⟨pc, .done result, []⟩
      else if other ∈ waiters then
        (loop.task other).map fun task => { task with status := .scheduled result }
      else loop.task other := by
  simp only [finish, runs, task_wakeAll, task_change]
  by_cases same : id = other
  · subst same
    simp [outside, runs]
  · simp [same]

theorem ready_finish_all (runs : loop.task id = some ⟨pc, .running false, waiters⟩)
    (result : Signal) : (loop.finish id result).ready = loop.ready ++ waiters := by
  simp [finish, runs, ready_wakeAll]

end

section

variable {rules : Rules Pc} {spawned background : Pc → Prop} {loop : Loop Pc} {id : TaskId} {pc : Pc}
  {waiters : List TaskId}

theorem Orderly.not_waiting (orderly : Orderly rules loop (some id))
    (runs : loop.task id = some ⟨pc, .running false, waiters⟩) {other : TaskId}
    {task : TaskState Pc} (known : loop.task other = some task) : id ∉ task.waiters := by
  intro member
  obtain ⟨held, found, status, _⟩ := (orderly.waiters other task known).2 id member
  rw [runs, Option.some.injEq] at found
  subst found
  cases status

theorem orderly_create {running : Option TaskId} (orderly : Orderly rules loop running)
    (new : Pc) (allowed : rules.allowed new (.scheduled .value)) :
    Orderly rules (loop.create new) running where
  queued := queued_create orderly.queued new
  allowed := by
    intro other task known notRunning
    rw [task_create] at known
    split at known
    · cases known
      exact allowed
    · exact orderly.allowed other task known notRunning
  waiters := by
    intro other task known
    rw [task_create] at known
    split at known
    · cases known
      exact ⟨List.nodup_nil, fun _ member => absurd member List.not_mem_nil⟩
    · obtain ⟨unique, waiting⟩ := orderly.waiters other task known
      refine ⟨unique, fun waiter member => ?_⟩
      obtain ⟨held, found, rest⟩ := waiting waiter member
      exact ⟨held, by rw [task_create, if_neg (ne_new_of_task found), found], rest⟩

theorem frame_create (new : Pc) (isSpawned : spawned new)
    (isBackground : background new) : Frame spawned background id loop (loop.create new) where
  kept := by
    intro other task _ found
    exact ⟨task, by rw [task_create, if_neg (ne_new_of_task found), found], rfl, rfl⟩
  born := by
    intro other task absent found
    rw [task_create] at found
    split at found
    · cases found
      exact isSpawned
    · rw [absent] at found
      cases found
  pushed := by
    refine ⟨[loop.tasks.length], ready_create loop new, ?_⟩
    intro other member
    rw [List.mem_singleton] at member
    exact .inr ⟨⟨new, .scheduled .value, []⟩, by rw [task_create, if_pos member], isBackground⟩

theorem orderly_taken {next : Loop Pc} {signal : Signal} (orderly : Orderly rules loop none)
    (taken : Taken loop next id pc signal waiters) : Orderly rules next (some id) where
  queued := taken.queued
  allowed := by
    intro other task known notRunning
    have different : id ≠ other := fun same => notRunning (congrArg some same)
    rw [taken.of_ne different] at known
    exact orderly.allowed other task known (by simp)
  waiters := by
    have waiting {target : TaskId} {task : TaskState Pc} (known : loop.task target = some task) :
        task.waiters.Nodup ∧ ∀ waiter ∈ task.waiters, ∃ held, next.task waiter = some held ∧
          held.status = .awaiting target ∧ rules.awaits held.pc task.pc := by
      obtain ⟨unique, waiting⟩ := orderly.waiters target task known
      refine ⟨unique, fun waiter member => ?_⟩
      obtain ⟨held, found, status, awaits⟩ := waiting waiter member
      have different : id ≠ waiter := by
        rintro rfl
        rw [taken.known, Option.some.injEq] at found
        subst found
        cases status
      exact ⟨held, (taken.of_ne different).trans found, status, awaits⟩
    intro other task known
    by_cases same : id = other
    · subst same
      rw [taken.runs, Option.some.injEq] at known
      subst known
      have before := waiting taken.known
      exact before
    · rw [taken.of_ne same] at known
      exact waiting known

theorem orderly_status {next : Loop Pc} {running : Option TaskId}
    (orderly : Orderly rules loop running) {held : TaskState Pc} {status : Status}
    (known : loop.task id = some held) (awake : ∀ target, held.status ≠ .awaiting target)
    (queued : next.Queued) (allowed : rules.allowed held.pc status)
    (updated : ∀ other, next.task other =
      if id = other then some { held with status := status } else loop.task other) :
    Orderly rules next running where
  queued := queued
  allowed := by
    intro other task found notRunning
    rw [updated] at found
    split at found
    · cases found
      exact allowed
    · exact orderly.allowed other task found notRunning
  waiters := by
    have waiting {target : TaskId} {task : TaskState Pc} (there : loop.task target = some task) :
        task.waiters.Nodup ∧ ∀ waiter ∈ task.waiters, ∃ found, next.task waiter =
          some found ∧ found.status = .awaiting target ∧ rules.awaits found.pc task.pc := by
      obtain ⟨unique, waiting⟩ := orderly.waiters target task there
      refine ⟨unique, fun waiter member => ?_⟩
      obtain ⟨found, here, isAwaiting, awaits⟩ := waiting waiter member
      have different : id ≠ waiter := by
        rintro rfl
        rw [known, Option.some.injEq] at here
        subst here
        exact awake target isAwaiting
      exact ⟨found, by rw [updated, if_neg different, here], isAwaiting, awaits⟩
    intro other task found
    rw [updated] at found
    split at found
    · rename_i same
      cases found
      subst same
      have before := waiting known
      exact before
    · exact waiting found

theorem orderly_cancel {running : Option TaskId} (orderly : Orderly rules loop running)
    {held : TaskState Pc} (known : loop.task id = some held)
    (interruptible : held.status = .pending ∨ ∃ signal, held.status = .scheduled signal)
    (allowed : rules.allowed held.pc (.scheduled .cancelled)) :
    Orderly rules (loop.cancel id) running := by
  refine orderly_status orderly known ?_ (queued_cancel orderly.queued known interruptible) allowed
    (task_cancel known interruptible)
  rcases interruptible with pending | ⟨signal, scheduled⟩
  · simp [pending]
  · simp [scheduled]

theorem frame_cancel {target : TaskId} {held : TaskState Pc} (known : loop.task target = some held)
    (interruptible : held.status = .pending ∨ ∃ signal, held.status = .scheduled signal)
    (isBackground : background held.pc) : Frame spawned background id loop (loop.cancel target) where
  kept := by
    intro other task _ found
    rw [task_cancel known interruptible]
    by_cases same : target = other
    · subst same
      rw [known, Option.some.injEq] at found
      subst found
      refine ⟨_, if_pos rfl, rfl, ?_⟩
      rcases interruptible with pending | ⟨signal, scheduled⟩
      · simp [TaskState.alive, Status.alive, pending]
      · simp [TaskState.alive, Status.alive, scheduled]
    · exact ⟨task, by rw [if_neg same, found], rfl, rfl⟩
  born := by
    intro other task absent found
    rw [task_cancel known interruptible] at found
    split at found
    · rename_i same
      rw [← same, known] at absent
      cases absent
    · rw [absent] at found
      cases found
  pushed := by
    obtain ⟨inside, _⟩ := List.getElem?_eq_some_iff.mp known
    unfold cancel
    cases size : loop.tasks.length with
    | zero => simp [size] at inside
    | succ fuel =>
        rcases interruptible with pending | ⟨signal, scheduled⟩
        · refine ⟨[target], by simp [cancelWithin, known, pending], fun other member => .inr ?_⟩
          rw [List.mem_singleton] at member
          subst member
          simp [cancelWithin, known, pending, isBackground]
        · exact ⟨[], by simp [cancelWithin, known, scheduled], by simp⟩

theorem orderly_moved {next : Loop Pc} {new : TaskState Pc} (orderly : Orderly rules loop (some id))
    (runs : loop.task id = some ⟨pc, .running false, waiters⟩) (queued : next.Queued)
    (updated : ∀ other, next.task other = if id = other then some new else loop.task other)
    (sameWaiters : new.waiters = waiters) (allowed : rules.allowed new.pc new.status)
    (moves : ∀ waiter, rules.awaits waiter pc → rules.awaits waiter new.pc) :
    Orderly rules next none where
  queued := queued
  allowed := by
    intro other task known _
    rw [updated] at known
    split at known
    · cases known
      exact allowed
    · rename_i different
      exact orderly.allowed other task known fun same => different (Option.some.inj same)
  waiters := by
    have waiting {target : TaskId} {task : TaskState Pc} (known : loop.task target = some task) :
        ∀ waiter ∈ task.waiters, ∃ held, next.task waiter = some held ∧
          held.status = .awaiting target ∧ rules.awaits held.pc task.pc := by
      intro waiter member
      obtain ⟨held, found, rest⟩ := (orderly.waiters target task known).2 waiter member
      have different : id ≠ waiter := by
        rintro rfl
        exact orderly.not_waiting runs known member
      exact ⟨held, by rw [updated, if_neg different, found], rest⟩
    intro other task known
    rw [updated] at known
    split at known
    · rename_i same
      cases known
      subst same
      rw [sameWaiters]
      refine ⟨(orderly.waiters id _ runs).1, fun waiter member => ?_⟩
      obtain ⟨held, found, status, awaits⟩ := waiting runs waiter member
      exact ⟨held, found, status, moves _ awaits⟩
    · exact ⟨(orderly.waiters other task known).1, waiting known⟩

theorem frame_moved {next : Loop Pc} {new held : TaskState Pc}
    (runs : loop.task id = some held)
    (updated : ∀ other, next.task other = if id = other then some new else loop.task other)
    {pushed : List TaskId} (ready : next.ready = loop.ready ++ pushed)
    (own : ∀ other ∈ pushed, other = id) : Frame spawned background id loop next where
  kept := by
    intro other task different found
    exact ⟨task, by rw [updated, if_neg different.symm, found], rfl, rfl⟩
  born := by
    intro other task absent found
    rw [updated] at found
    split at found
    · rename_i same
      rw [← same, runs] at absent
      cases absent
    · rw [absent] at found
      cases found
  pushed := ⟨pushed, ready, fun other member => .inl (own other member)⟩

theorem spares_moved {next : Loop Pc} {new : TaskState Pc}
    (updated : ∀ other, next.task other = if id = other then some new else loop.task other) :
    Spares id loop next := by
  intro other task different known _
  rw [updated, if_neg different.symm, known]

/-- The running task awaits another one, which waits for nothing that it
could end with first. -/
theorem orderly_await {target : TaskId} {held : TaskState Pc}
    (orderly : Orderly rules loop (some id))
    (runs : loop.task id = some ⟨pc, .running false, waiters⟩) {new : Pc} (different : target ≠ id)
    (known : loop.task target = some held) (allowed : rules.allowed new (.awaiting target))
    (awaits : rules.awaits new held.pc)
    (moves : ∀ waiter, rules.awaits waiter pc → rules.awaits waiter new) :
    Orderly rules (loop.await id new target) none where
  queued := queued_await orderly.queued runs new different known
  allowed := by
    intro other task found _
    rw [task_await runs new different known] at found
    split at found
    · cases found
      exact allowed
    · rename_i notSelf
      have notRunning : (some id : Option TaskId) ≠ some other :=
        fun same => notSelf (Option.some.inj same)
      split at found
      · rename_i same
        cases found
        subst same
        exact orderly.allowed target held known notRunning
      · exact orderly.allowed other task found notRunning
  waiters := by
    have waiting {other : TaskId} {task : TaskState Pc} (found : loop.task other = some task) :
        ∀ waiter ∈ task.waiters, ∃ after, (loop.await id new target).task waiter = some after ∧
          after.status = .awaiting other ∧ rules.awaits after.pc task.pc := by
      intro waiter member
      obtain ⟨before, there, rest⟩ := (orderly.waiters other task found).2 waiter member
      have notSelf : id ≠ waiter := by
        rintro rfl
        exact orderly.not_waiting runs found member
      rw [task_await runs new different known, if_neg notSelf]
      by_cases same : target = waiter
      · subst same
        rw [known, Option.some.injEq] at there
        subst there
        exact ⟨_, if_pos rfl, rest⟩
      · exact ⟨before, by rw [if_neg same, there], rest⟩
    intro other task found
    rw [task_await runs new different known] at found
    split at found
    · rename_i same
      cases found
      subst same
      refine ⟨(orderly.waiters id _ runs).1, fun waiter member => ?_⟩
      obtain ⟨after, here, status, isAwait⟩ := waiting runs waiter member
      exact ⟨after, here, status, moves _ isAwait⟩
    · split at found
      · rename_i same
        cases found
        subst same
        obtain ⟨unique, _⟩ := orderly.waiters target held known
        refine ⟨?_, fun waiter member => ?_⟩
        · rw [List.nodup_append]
          refine ⟨unique, List.nodup_singleton id, ?_⟩
          rintro waiter member last isLast rfl
          rw [List.mem_singleton] at isLast
          subst isLast
          exact orderly.not_waiting runs known member
        · rcases List.mem_append.mp member with old | isNew
          · exact waiting known waiter old
          · rw [List.mem_singleton] at isNew
            subst isNew
            exact ⟨_, by rw [task_await runs new different known, if_pos rfl], rfl, awaits⟩
      · exact ⟨(orderly.waiters other task found).1, waiting found⟩

theorem frame_await {target : TaskId} {held : TaskState Pc}
    (runs : loop.task id = some ⟨pc, .running false, waiters⟩) {new : Pc} (different : target ≠ id)
    (known : loop.task target = some held) :
    Frame spawned background id loop (loop.await id new target) where
  kept := by
    intro other task notSelf found
    rw [task_await runs new different known, if_neg notSelf.symm]
    by_cases same : target = other
    · subst same
      rw [known, Option.some.injEq] at found
      subst found
      exact ⟨_, if_pos rfl, rfl, rfl⟩
    · exact ⟨task, by rw [if_neg same, found], rfl, rfl⟩
  born := by
    intro other task absent found
    rw [task_await runs new different known] at found
    split at found
    · rename_i same
      rw [← same, runs] at absent
      cases absent
    · split at found
      · rename_i same
        rw [← same, known] at absent
        cases absent
      · rw [absent] at found
        cases found
  pushed := ⟨[], by rw [ready_await runs new different, List.append_nil], by simp⟩

theorem orderly_finish (orderly : Orderly rules loop (some id))
    (runs : loop.task id = some ⟨pc, .running false, waiters⟩) {result : Signal}
    (allowed : rules.allowed pc (.done result))
    (wakes : ∀ waiter, rules.awaits waiter pc → rules.allowed waiter (.scheduled result)) :
    Orderly rules (loop.finish id result) none := by
  obtain ⟨unique, waiting⟩ := orderly.waiters id _ runs
  have outside : id ∉ waiters := orderly.not_waiting runs runs
  have updated := task_finish_all runs outside result
  have asleep {waiter : TaskId} (member : waiter ∈ waiters) : ¬ loop.IsScheduled waiter := by
    obtain ⟨held, found, status, _⟩ := waiting waiter member
    exact not_scheduled_of_status found (by simp [status])
  have scheduled (other : TaskId) : (loop.finish id result).IsScheduled other ↔
      other ∈ waiters ∨ loop.IsScheduled other := by
    unfold IsScheduled
    rw [updated]
    by_cases same : id = other
    · subst same
      simp [outside, runs]
    · by_cases member : other ∈ waiters
      · obtain ⟨held, found, _⟩ := waiting other member
        simp [same, member, found]
      · simp [same, member]
  exact {
    queued := by
      refine ⟨?_, fun other => ?_⟩
      · rw [ready_finish_all runs, List.nodup_append]
        refine ⟨orderly.queued.unique, unique, ?_⟩
        rintro other queued waiter member rfl
        exact asleep member ((orderly.queued.exact other).mp queued)
      · rw [ready_finish_all runs, List.mem_append, scheduled, orderly.queued.exact, or_comm]
    allowed := by
      intro other task found _
      rw [updated] at found
      split at found
      · cases found
        exact allowed
      · rename_i notSelf
        split at found
        · rename_i member
          obtain ⟨held, there, _, awaits⟩ := waiting other member
          rw [there] at found
          cases found
          exact wakes _ awaits
        · exact orderly.allowed other task found fun same => notSelf (Option.some.inj same)
    waiters := by
      have kept {other : TaskId} {task : TaskState Pc} (found : loop.task other = some task)
          (different : id ≠ other) : ∀ waiter ∈ task.waiters, ∃ after,
            (loop.finish id result).task waiter = some after ∧ after.status = .awaiting other ∧
              rules.awaits after.pc task.pc := by
        intro waiter member
        obtain ⟨held, there, status, awaits⟩ := (orderly.waiters other task found).2 waiter member
        have notSelf : id ≠ waiter := by
          rintro rfl
          exact orderly.not_waiting runs found member
        have notWoken : waiter ∉ waiters := by
          intro woken
          obtain ⟨same, here, awaitsSelf, _⟩ := waiting waiter woken
          rw [there, Option.some.injEq] at here
          subst here
          rw [status, Status.awaiting.injEq] at awaitsSelf
          exact different awaitsSelf.symm
        exact ⟨held, by rw [updated, if_neg notSelf, if_neg notWoken, there], status, awaits⟩
      intro other task found
      rw [updated] at found
      split at found
      · cases found
        exact ⟨List.nodup_nil, fun _ member => absurd member List.not_mem_nil⟩
      · rename_i different
        split at found
        · rename_i member
          obtain ⟨held, there, _⟩ := waiting other member
          rw [there] at found
          cases found
          have before := kept there different
          exact ⟨(orderly.waiters other held there).1, before⟩
        · exact ⟨(orderly.waiters other task found).1, kept found different⟩ }

theorem frame_finish (orderly : Orderly rules loop (some id))
    (runs : loop.task id = some ⟨pc, .running false, waiters⟩) (result : Signal)
    (wakes : ∀ waiter, rules.awaits waiter pc → background waiter) :
    Frame spawned background id loop (loop.finish id result) := by
  obtain ⟨_, waiting⟩ := orderly.waiters id _ runs
  have outside : id ∉ waiters := orderly.not_waiting runs runs
  have updated := task_finish_all runs outside result
  exact {
    kept := by
      intro other task different found
      rw [updated, if_neg different.symm]
      by_cases member : other ∈ waiters
      · obtain ⟨held, there, status, _⟩ := waiting other member
        rw [found, Option.some.injEq] at there
        subst there
        rw [if_pos member, found]
        exact ⟨_, rfl, rfl, by simp [TaskState.alive, Status.alive, status]⟩
      · exact ⟨task, by rw [if_neg member, found], rfl, rfl⟩
    born := by
      intro other task absent found
      rw [updated, absent] at found
      split at found
      · rename_i same
        rw [← same, runs] at absent
        cases absent
      · simp at found
    pushed := by
      refine ⟨waiters, ready_finish_all runs result, fun waiter member => .inr ?_⟩
      obtain ⟨held, there, _, awaits⟩ := waiting waiter member
      have different : id ≠ waiter := fun same => outside (same ▸ member)
      refine ⟨{ held with status := .scheduled result }, ?_, wakes _ awaits⟩
      rw [updated, if_neg different, if_pos member, there, Option.map_some] }

theorem spares_finish (orderly : Orderly rules loop (some id))
    (runs : loop.task id = some ⟨pc, .running false, waiters⟩) (result : Signal) :
    Spares id loop (loop.finish id result) := by
  intro other task different known awake
  rw [task_finish_all runs (orderly.not_waiting runs runs), if_neg different.symm, if_neg, known]
  intro member
  obtain ⟨held, there, status, _⟩ := (orderly.waiters id _ runs).2 other member
  rw [known, Option.some.injEq] at there
  exact awake id (there ▸ status)

end

end RemoteIface.Library.EventLoop.Loop
