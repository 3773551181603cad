import RemoteIface.Library.Runs
import RemoteIface.HbCompat.CallTasks

/-!
The last call on the facade decides whether the gateway runs. A call only
creates a task, so a `start` can take its first step while an earlier `stop`
has begun and not ended; it then finds a gateway that still runs, and the stop
undoes it. When no start does, the calls take effect in their order: the ready
queue keeps the new ones in order, and no start at work stands behind a stop
that has begun.
-/

namespace RemoteIface.HbCompat.LastCall

set_option autoImplicit false

open RemoteIface.Library.EventLoop
open RemoteIface.Library.EventLoop.Loop
open RemoteIface.Library.Runs
open RemoteIface.Gateway.Lifecycle
open RemoteIface.HbCompat.SyncFacade
open RemoteIface.HbCompat.CallTasks

def newAt (loop : Loop Pc) (id : TaskId) : Bool :=
  match loop.task id with
  | some task => task.alive && isNew task.pc
  | none => false

def newCalls (loop : Loop Pc) : List TaskId := loop.ready.filter (newAt loop)

def StandsAt (loop : Loop Pc) (id : TaskId) (pc : Pc) : Prop :=
  ∃ task, loop.task id = some task ∧ task.alive = true ∧ task.pc = pc

/-- The new calls in order, with `_start_task` before the first and after the
last of them: a start sets it, and a stop takes it as its pending start. -/
inductive Waits (loop : Loop Pc) : Option TaskId → List TaskId → Option TaskId → Prop where
  | done (pending : Option TaskId) : Waits loop pending [] pending
  | start {pending last : Option TaskId} {id : TaskId} {rest : List TaskId}
      (stands : StandsAt loop id (.entry .start)) (later : Waits loop (some id) rest last) :
      Waits loop pending (id :: rest) last
  | stop {pending last : Option TaskId} {id : TaskId} {rest : List TaskId}
      (stands : StandsAt loop id (.stopAfter pending)) (later : Waits loop none rest last) :
      Waits loop pending (id :: rest) last

structure Started (world : World) (id : TaskId) : Prop where
  noStop : ∀ other, ¬ At world.loop other isStopping
  begun : ∃ task, world.loop.task id = some task ∧
    (task.alive = true → isStarting task.pc = true)
  working : At world.loop id isStarting ∨ world.running = true
  calm : world.running = true → CalmHealth world

/-- The last call to begin is a stop, or none has begun: what runs or starts
will be stopped. -/
def Stopped (world : World) : Prop :=
  (world.running = true ∨ ∃ id, At world.loop id isStarting) →
    ∃ id, At world.loop id isStopping

def Phase (world : World) : Option TaskId → Prop
  | some id => Started world id
  | none => Stopped world

def Ordered (loop : Loop Pc) : Prop :=
  loop.ready.Pairwise fun earlier later =>
    ¬ (At loop earlier isStopping ∧ At loop later isStarting)

structure Consistent (facade : Facade) : Prop where
  tidy : Tidy facade.gateway none
  ordered : Ordered facade.gateway.loop
  phase : ∃ pending, Waits facade.gateway.loop pending (newCalls facade.gateway.loop)
    facade.startTask ∧ Phase facade.gateway pending

theorem new_at_iff (loop : Loop Pc) (id : TaskId) : newAt loop id = true ↔ At loop id isNew := by
  unfold newAt At
  cases loop.task id <;> simp

theorem not_at_of_known {loop : Loop Pc} {id : TaskId} {task : TaskState Pc} {kind : Pc → Bool}
    (known : loop.task id = some task) (notKind : kind task.pc = false) : ¬ At loop id kind := by
  rintro ⟨held, found, _, stands⟩
  rw [known, Option.some.injEq] at found
  rw [← found, notKind] at stands
  cases stands

theorem At.ne {loop : Loop Pc} {first second : TaskId} {kind other : Pc → Bool}
    (one : At loop first kind) (two : At loop second other)
    (apart : ∀ pc, kind pc = true → other pc = false) : first ≠ second := by
  rintro rfl
  obtain ⟨task, known, _, stands⟩ := one
  exact not_at_of_known known (apart _ stands) two

theorem not_at_of_dead {loop : Loop Pc} {id : TaskId} {kind : Pc → Bool} (dead : Dead loop id) :
    ¬ At loop id kind := by
  rintro ⟨task, known, alive, _⟩
  obtain ⟨held, found, ended⟩ := dead
  rw [known, Option.some.injEq] at found
  rw [found, ended] at alive
  cases alive

theorem At.ne_dead {loop : Loop Pc} {id other : TaskId} {kind : Pc → Bool}
    (stands : At loop other kind) (dead : Dead loop id) : other ≠ id := by
  rintro rfl
  exact not_at_of_dead dead stands

theorem Waits.transfer {loop next : Loop Pc} {pending last : Option TaskId} {ids : List TaskId}
    (waits : Waits loop pending ids last)
    (kept : ∀ id ∈ ids, ∀ pc, StandsAt loop id pc → StandsAt next id pc) :
    Waits next pending ids last := by
  induction waits with
  | done pending => exact .done pending
  | start stands later induction =>
      exact .start (kept _ List.mem_cons_self _ stands)
        (induction fun id member => kept id (List.mem_cons_of_mem _ member))
  | stop stands later induction =>
      exact .stop (kept _ List.mem_cons_self _ stands)
        (induction fun id member => kept id (List.mem_cons_of_mem _ member))

/-- The task `id` has been taken from the head of the queue and has made a step. -/
structure Moved (loop next : Loop Pc) (id : TaskId) : Prop where
  known : ∃ task, loop.task id = some task
  kept : ∀ other task, other ≠ id → loop.task other = some task →
    ∃ after, next.task other = some after ∧ after.pc = task.pc ∧ after.alive = task.alive
  born : ∀ other task, loop.task other = none → next.task other = some task → Spawned task.pc
  queue : ∃ rest pushed, loop.ready = id :: rest ∧ next.ready = rest ++ pushed ∧
    ∀ other ∈ pushed, other = id ∨ ∃ task, next.task other = some task ∧ Background task.pc

theorem moved_of_frame {loop taken next : Loop Pc} {id : TaskId} {pc : Pc} {signal : Signal}
    {waiters : List TaskId} (step : Taken loop taken id pc signal waiters)
    (head : loop.ready[0]? = some id) (frame : CallFrame id taken next) : Moved loop next id where
  known := ⟨_, step.known⟩
  kept := by
    intro other task different found
    exact frame.kept other task different ((step.of_ne different.symm).trans found)
  born := by
    intro other task absent found
    refine frame.born other task ?_ found
    rw [step.of_ne, absent]
    rintro rfl
    rw [step.known] at absent
    cases absent
  queue := by
    obtain ⟨pushed, ready, kinds⟩ := frame.pushed
    cases queue : loop.ready with
    | nil => simp [queue] at head
    | cons first rest =>
        rw [queue, List.getElem?_cons_zero, Option.some.injEq] at head
        subst head
        refine ⟨rest, pushed, rfl, ?_, kinds⟩
        rw [ready, step.ready, queue, List.erase_cons_head]

section

variable {loop next : Loop Pc} {id : TaskId}

theorem at_of_moved (moved : Moved loop next id) {other : TaskId} (different : other ≠ id)
    {kind : Pc → Bool} (notSpawned : ∀ pc, Spawned pc → kind pc = false) :
    At next other kind ↔ At loop other kind := by
  constructor
  · rintro ⟨task, found, alive, stands⟩
    cases known : loop.task other with
    | none =>
        rw [notSpawned _ (moved.born other task known found)] at stands
        cases stands
    | some before =>
        obtain ⟨after, there, pc, same⟩ := moved.kept other before different known
        rw [found, Option.some.injEq] at there
        subst there
        exact ⟨before, known, same ▸ alive, pc ▸ stands⟩
  · rintro ⟨task, found, alive, stands⟩
    obtain ⟨after, there, pc, same⟩ := moved.kept other task different found
    exact ⟨after, there, same.trans alive, pc ▸ stands⟩

theorem starting_not_spawned (pc : Pc) (spawned : Spawned pc) : isStarting pc = false := by
  cases pc <;> simp_all [Spawned, isHealth, isRun, isStarting]

theorem stopping_not_spawned (pc : Pc) (spawned : Spawned pc) : isStopping pc = false := by
  cases pc <;> simp_all [Spawned, isHealth, isRun, isStopping]

theorem new_not_spawned (pc : Pc) (spawned : Spawned pc) : isNew pc = false := by
  cases pc <;> simp_all [Spawned, isHealth, isRun, isNew]

theorem starting_not_new (pc : Pc) (starting : isStarting pc = true) : isNew pc = false := by
  cases pc <;> simp_all [isStarting, isNew]

theorem stopping_not_new (pc : Pc) (stopping : isStopping pc = true) : isNew pc = false := by
  cases pc <;> simp_all [isStopping, isNew]

theorem starting_not_stopping (pc : Pc) (starting : isStarting pc = true) :
    isStopping pc = false := by
  cases pc <;> simp_all [isStarting, isStopping]

theorem stopping_not_starting (pc : Pc) (stopping : isStopping pc = true) :
    isStarting pc = false := by
  cases pc <;> simp_all [isStopping, isStarting]

theorem not_at_of_stop_outcome {next : World} {kind : Pc → Bool} (outcome : StopOutcome id next)
    (apart : ∀ pc, isStopping pc = true → kind pc = false) : ¬ At next.loop id kind := by
  intro stands
  rcases outcome with ⟨_, dead⟩ | stopping
  · exact not_at_of_dead dead stands
  · exact At.ne stopping stands apart rfl

/-- The gateway is stopped after a step of a stop task when every start at work has
another stop that is about to undo it. -/
theorem stopped_of_outcome {next : World} (moved : Moved loop next.loop id)
    (outcome : StopOutcome id next)
    (undone : ∀ other, At loop other isStarting → ∃ stop, stop ≠ id ∧ At loop stop isStopping) :
    Stopped next := by
  intro busy
  rcases outcome with ⟨off, dead⟩ | stopping
  · rcases busy with running | ⟨other, starting⟩
    · exact absurd (running.symm.trans off) (by simp)
    · rw [at_of_moved moved (At.ne_dead starting dead) starting_not_spawned] at starting
      obtain ⟨stop, different, stopping⟩ := undone other starting
      exact ⟨stop, (at_of_moved moved different stopping_not_spawned).mpr stopping⟩
  · exact ⟨id, stopping⟩

theorem new_calls_of_moved (moved : Moved loop next id) (unique : loop.ready.Nodup)
    (begun : ¬ At next id isNew) :
    newCalls loop = if newAt loop id = true then id :: newCalls next else newCalls next := by
  obtain ⟨rest, pushed, before, after, kinds⟩ := moved.queue
  have tail : rest.filter (newAt loop) = newCalls next := by
    have none : pushed.filter (newAt next) = [] := by
      rw [List.filter_eq_nil_iff]
      intro other member isNewAt
      rw [new_at_iff] at isNewAt
      rcases kinds other member with rfl | ⟨task, found, background⟩
      · exact begun isNewAt
      · obtain ⟨same, there, _, stands⟩ := isNewAt
        rw [found, Option.some.injEq] at there
        subst there
        rw [background.1] at stands
        cases stands
    rw [newCalls, after, List.filter_append, none, List.append_nil]
    refine List.filter_congr fun other member => ?_
    have different : other ≠ id := by
      rintro rfl
      rw [before, List.nodup_cons] at unique
      exact unique.1 member
    rw [Bool.eq_iff_iff, new_at_iff, new_at_iff]
    exact (at_of_moved moved different new_not_spawned).symm
  rw [newCalls, before, List.filter_cons, tail]

theorem ordered_of_moved (moved : Moved loop next id) (unique : loop.ready.Nodup)
    (ordered : Ordered loop)
    (clear : At next id isStarting → ∀ other, ¬ At next other isStopping) : Ordered next := by
  obtain ⟨rest, pushed, before, after, kinds⟩ := moved.queue
  rw [before, List.nodup_cons] at unique
  unfold Ordered at ordered ⊢
  rw [before, List.pairwise_cons] at ordered
  have starting {later : TaskId} (member : later ∈ pushed) (starts : At next later isStarting) :
      later = id := by
    rcases kinds later member with same | ⟨task, found, background⟩
    · exact same
    · obtain ⟨same, there, _, stands⟩ := starts
      rw [found, Option.some.injEq] at there
      subst there
      rw [background.2] at stands
      cases stands
  rw [after, List.pairwise_append]
  refine ⟨?_, ?_, ?_⟩
  · refine ordered.2.imp_of_mem fun {earlier later} first second inOrder => ?_
    have differs {other : TaskId} (member : other ∈ rest) : other ≠ id := by
      rintro rfl
      exact unique.1 member
    rw [at_of_moved moved (differs first) stopping_not_spawned,
      at_of_moved moved (differs second) starting_not_spawned]
    exact inOrder
  · refine List.pairwise_of_forall_mem_list fun earlier _ later member both => ?_
    exact clear (starting member both.2 ▸ both.2) earlier both.1
  · intro earlier _ later member both
    exact clear (starting member both.2 ▸ both.2) earlier both.1

theorem stands_of_moved (moved : Moved loop next id) {other : TaskId} {pc : Pc}
    (different : other ≠ id) (stands : StandsAt loop other pc) : StandsAt next other pc := by
  obtain ⟨task, known, alive, rfl⟩ := stands
  obtain ⟨after, there, pc, same⟩ := moved.kept other task different known
  exact ⟨after, there, same.trans alive, pc⟩

theorem waits_of_moved (moved : Moved loop next id) {pending last : Option TaskId}
    {ids : List TaskId} (waits : Waits loop pending ids last) (outside : id ∉ ids) :
    Waits next pending ids last :=
  waits.transfer fun _ member _ => stands_of_moved moved fun same => outside (same ▸ member)

end

theorem tidy_taken {world : World} {loop : Loop Pc} {id : TaskId} {pc : Pc} {signal : Signal}
    {waiters : List TaskId} (tidy : Tidy world none)
    (taken : Taken world.loop loop id pc signal waiters) :
    Tidy { world with loop := loop } (some id) := by
  have same {other : TaskId} {kind : Pc → Bool}
      (stands : ∃ task, world.loop.task other = some task ∧ kind task.pc = true) :
      ∃ task, loop.task other = some task ∧ kind task.pc = true := by
    obtain ⟨task, known, isKind⟩ := stands
    by_cases mine : id = other
    · subst mine
      rw [taken.known, Option.some.injEq] at known
      subst known
      exact ⟨_, taken.runs, isKind⟩
    · exact ⟨task, (taken.of_ne mine).trans known, isKind⟩
  exact ⟨orderly_taken tidy.orderly taken, fun other holds => same (tidy.health other holds),
    fun context other holds => same (tidy.run context other holds)⟩

theorem calm_taken {world : World} {loop : Loop Pc} {id : TaskId} {pc : Pc} {signal : Signal}
    {waiters : List TaskId} (calm : CalmHealth world)
    (taken : Taken world.loop loop id pc signal waiters) (notHealth : isHealth pc = false) :
    CalmHealth { world with loop := loop } := by
  obtain ⟨health, task, holds, known, isHealth, status⟩ := calm
  refine ⟨health, task, holds, (taken.of_ne ?_).trans known, isHealth, status⟩
  rintro rfl
  rw [taken.known, Option.some.injEq] at known
  subst known
  rw [notHealth] at isHealth
  cases isHealth

section

variable {facade : Facade} {loop : Loop Pc} {id : TaskId} {pc : Pc} {signal : Signal}
  {waiters : List TaskId}

theorem head_is_first (head : facade.gateway.loop.ready[0]? = some id)
    (taken : Taken facade.gateway.loop loop id pc signal waiters) (new : isNew pc = true) :
    ∃ rest, newCalls facade.gateway.loop = id :: rest := by
  have isNewAt : newAt facade.gateway.loop id = true := by
    rw [new_at_iff]
    exact ⟨_, taken.known, rfl, new⟩
  cases queue : facade.gateway.loop.ready with
  | nil => simp [queue] at head
  | cons one rest =>
      rw [queue, List.getElem?_cons_zero, Option.some.injEq] at head
      subst head
      exact ⟨_, by rw [newCalls, queue, List.filter_cons, if_pos isNewAt]⟩

theorem waits_after_head {next : Loop Pc} {rest : List TaskId} {pending last : Option TaskId}
    (moved : Moved facade.gateway.loop next id) (unique : facade.gateway.loop.ready.Nodup)
    (begun : ¬ At next id isNew) (first : newCalls facade.gateway.loop = id :: rest)
    (waits : Waits facade.gateway.loop pending rest last) :
    Waits next pending (newCalls next) last := by
  have isNewAt : newAt facade.gateway.loop id = true := by
    have member : id ∈ newCalls facade.gateway.loop := by
      rw [first]
      exact List.mem_cons_self
    exact (List.mem_filter.mp member).2
  have outside : id ∉ newCalls next := fun member =>
    begun ((new_at_iff next id).mp (List.mem_filter.mp member).2)
  rw [new_calls_of_moved moved unique begun, if_pos isNewAt, List.cons.injEq] at first
  rw [← first.2] at waits
  exact waits_of_moved moved waits outside

theorem head_is_start (consistent : Consistent facade)
    (head : facade.gateway.loop.ready[0]? = some id)
    (taken : Taken facade.gateway.loop loop id (.entry .start) signal waiters) :
    ∃ rest, newCalls facade.gateway.loop = id :: rest ∧
      Waits facade.gateway.loop (some id) rest facade.startTask := by
  obtain ⟨pending, waits, _⟩ := consistent.phase
  obtain ⟨rest, first⟩ := head_is_first head taken rfl
  rw [first] at waits
  refine ⟨rest, first, ?_⟩
  cases waits with
  | start stands later => exact later
  | stop stands later =>
      obtain ⟨task, known, _, pc⟩ := stands
      rw [taken.known, Option.some.injEq] at known
      subst known
      cases pc

theorem head_is_stop (consistent : Consistent facade)
    (head : facade.gateway.loop.ready[0]? = some id) {pending : Option TaskId}
    (taken : Taken facade.gateway.loop loop id (.stopAfter pending) signal waiters) :
    Phase facade.gateway pending ∧ ∃ rest, newCalls facade.gateway.loop = id :: rest ∧
      Waits facade.gateway.loop none rest facade.startTask := by
  obtain ⟨before, waits, phase⟩ := consistent.phase
  obtain ⟨rest, first⟩ := head_is_first head taken rfl
  rw [first] at waits
  cases waits with
  | start stands later =>
      obtain ⟨task, known, _, pc⟩ := stands
      rw [taken.known, Option.some.injEq] at known
      subst known
      cases pc
  | stop stands later =>
      obtain ⟨task, known, _, pc⟩ := stands
      rw [taken.known, Option.some.injEq] at known
      subst known
      cases pc
      exact ⟨phase, rest, first, later⟩

theorem start_begins (consistent : Consistent facade)
    (head : facade.gateway.loop.ready[0]? = some id)
    (taken : Taken facade.gateway.loop loop id (.entry .start) signal waiters)
    (clear : ∀ other, ¬ At facade.gateway.loop other isStopping) :
    Consistent { facade with
      gateway := ({ facade.gateway with loop := loop } : World).beginStart id .task } := by
  have tidyTaken := tidy_taken consistent.tidy taken
  have calm : facade.gateway.running = true → CalmHealth facade.gateway := by
    intro running
    obtain ⟨pending, _, phase⟩ := consistent.phase
    cases pending with
    | some start => exact phase.calm running
    | none =>
        obtain ⟨other, stopping⟩ := phase (.inl running)
        exact absurd stopping (clear other)
  obtain ⟨tidy, frame, outcome⟩ := begin_start_stepped tidyTaken taken.runs
    fun running => calm_taken (calm running) taken rfl
  have moved := moved_of_frame taken head frame
  have unique := consistent.tidy.orderly.queued.unique
  have notAt {kind : Pc → Bool} (other : ∀ pc, isStarting pc = true → kind pc = false) :
      ¬ At (World.beginStart { facade.gateway with loop := loop } id .task).loop id kind := by
    intro stands
    rcases outcome with ⟨_, dead, _⟩ | ⟨_, starting⟩
    · exact not_at_of_dead dead stands
    · exact At.ne starting stands other rfl
  have noStop (other : TaskId) :
      ¬ At (World.beginStart { facade.gateway with loop := loop } id .task).loop other
        isStopping := by
    by_cases same : other = id
    · subst same
      exact notAt starting_not_stopping
    · rw [at_of_moved moved same stopping_not_spawned]
      exact clear other
  obtain ⟨rest, first, later⟩ := head_is_start consistent head taken
  have waits := waits_after_head moved unique (notAt starting_not_new) first later
  refine ⟨tidy, ordered_of_moved moved unique consistent.ordered fun _ => noStop, some id, waits,
    noStop, ?_, ?_, ?_⟩
  · rcases outcome with ⟨_, ⟨task, known, ended⟩, _⟩ | ⟨_, task, known, _, starting⟩
    · exact ⟨task, known, fun alive => absurd (alive.symm.trans ended) (by simp)⟩
    · exact ⟨task, known, fun _ => starting⟩
  · rcases outcome with ⟨running, _⟩ | ⟨_, starting⟩
    · exact .inr running
    · exact .inl starting
  · intro running
    rcases outcome with ⟨_, _, calmAfter⟩ | ⟨notRunning, _⟩
    · exact calmAfter
    · exact absurd (running.symm.trans notRunning) (by simp)

theorem waits_of_begun (consistent : Consistent facade)
    (taken : Taken facade.gateway.loop loop id pc signal waiters) {next : Loop Pc}
    (moved : Moved facade.gateway.loop next id) (notNew : isNew pc = false)
    (begun : ¬ At next id isNew) :
    ∃ pending, Waits next pending (newCalls next) facade.startTask ∧
      Phase facade.gateway pending := by
  obtain ⟨pending, waits, phase⟩ := consistent.phase
  have unique := consistent.tidy.orderly.queued.unique
  have notNewAt : ¬ newAt facade.gateway.loop id = true := by
    rw [new_at_iff]
    exact not_at_of_known taken.known notNew
  rw [new_calls_of_moved moved unique begun, if_neg notNewAt] at waits
  have outside : id ∉ newCalls next := fun member =>
    begun ((new_at_iff next id).mp (List.mem_filter.mp member).2)
  exact ⟨pending, waits_of_moved moved waits outside, phase⟩

theorem start_goes_on (consistent : Consistent facade)
    (head : facade.gateway.loop.ready[0]? = some id) {context : ContextId}
    (taken : Taken facade.gateway.loop loop id (.nodeStart context .task) signal waiters) :
    Consistent { facade with
      gateway := ({ facade.gateway with loop := loop } : World).nodeStarted id context .task } := by
  have tidyTaken := tidy_taken consistent.tidy taken
  obtain ⟨tidy, frame, running, dead, calm⟩ := node_started_stepped tidyTaken context
    taken.runs rfl
  have moved := moved_of_frame taken head frame
  have unique := consistent.tidy.orderly.queued.unique
  have wasStarting : At facade.gateway.loop id isStarting := ⟨_, taken.known, rfl, rfl⟩
  obtain ⟨pending, waits, phase⟩ := waits_of_begun consistent taken moved rfl (not_at_of_dead dead)
  refine ⟨tidy, ordered_of_moved moved unique consistent.ordered fun starts =>
    absurd starts (not_at_of_dead dead), pending, waits, ?_⟩
  cases pending with
  | some start =>
      refine ⟨fun other stopping => ?_, ?_, .inr running, fun _ => calm⟩
      · rw [at_of_moved moved (At.ne_dead stopping dead) stopping_not_spawned] at stopping
        exact phase.noStop other stopping
      · obtain ⟨task, known, starts⟩ := phase.begun
        by_cases same : start = id
        · subst same
          obtain ⟨after, found, ended⟩ := dead
          exact ⟨after, found, fun alive => absurd (alive.symm.trans ended) (by simp)⟩
        · obtain ⟨after, found, pc, sameAlive⟩ := moved.kept start task same known
          exact ⟨after, found, fun alive => pc ▸ starts (sameAlive ▸ alive)⟩
  | none =>
      intro _
      obtain ⟨stop, stopping⟩ := phase (.inr ⟨id, wasStarting⟩)
      have different : stop ≠ id := (At.ne wasStarting stopping starting_not_stopping).symm
      exact ⟨stop, (at_of_moved moved different stopping_not_spawned).mpr stopping⟩

theorem stop_begins (consistent : Consistent facade)
    (head : facade.gateway.loop.ready[0]? = some id) {pending : Option TaskId}
    (taken : Taken facade.gateway.loop loop id (.stopAfter pending) signal waiters) :
    Consistent { facade with
      gateway := ({ facade.gateway with loop := loop } : World).stopAfter id pending } := by
  obtain ⟨phase, rest, first, later⟩ := head_is_stop consistent head taken
  have tidyTaken := tidy_taken consistent.tidy taken
  have unique := consistent.tidy.orderly.queued.unique
  have settled {next : World} (tidy : Tidy next none) (frame : CallFrame id loop next.loop)
      (outcome : StopOutcome id next)
      (stopped : Moved facade.gateway.loop next.loop id → Stopped next) :
      Consistent { facade with gateway := next } := by
    have moved := moved_of_frame taken head frame
    have begun : ¬ At next.loop id isNew := not_at_of_stop_outcome outcome stopping_not_new
    have notStarting : ¬ At next.loop id isStarting :=
      not_at_of_stop_outcome outcome stopping_not_starting
    exact ⟨tidy, ordered_of_moved moved unique consistent.ordered fun starts =>
      absurd starts notStarting, none, waits_after_head moved unique begun first later, stopped moved⟩
  cases pending with
  | some start =>
      obtain ⟨task, known, starts⟩ := phase.begun
      have different : id ≠ start := by
        rintro rfl
        rw [taken.known, Option.some.injEq] at known
        subst known
        cases starts rfl
      have knownTaken : loop.task start = some task := (taken.of_ne different).trans known
      cases alive : task.alive with
      | true =>
          obtain ⟨tidy, frame, waiting⟩ := pending_start_waits tidyTaken taken.runs rfl knownTaken
            alive (starts alive)
          exact settled tidy frame (.inr waiting) fun _ _ => ⟨id, waiting⟩
      | false =>
          have running : facade.gateway.running = true := by
            rcases phase.working with ⟨held, found, living, _⟩ | running
            · rw [known, Option.some.injEq] at found
              rw [found, living] at alive
              cases alive
            · exact running
          have goesOn : ({ facade.gateway with loop := loop } : World).stopAfter id (some start) =
              ({ facade.gateway with loop := loop } : World).beginStop id false .task := by
            simp [World.stopAfter, World.isAlive, knownTaken, alive]
          obtain ⟨health, held, holds, found, isHealth, status⟩ :=
            calm_taken (phase.calm running) taken rfl
          have healthAlive : ({ facade.gateway with loop := loop } : World).isAlive health =
              true := by
            rcases status with status | status <;>
              simp [World.isAlive, found, TaskState.alive, Status.alive, status]
          obtain ⟨tidy, frame, waiting⟩ := begin_stop_waits tidyTaken taken.runs rfl running holds
            healthAlive
          rw [goesOn]
          exact settled tidy frame (.inr waiting) fun _ _ => ⟨id, waiting⟩
  | none =>
      obtain ⟨tidy, frame, outcome⟩ := begin_stop_stepped tidyTaken taken.runs rfl
      refine settled tidy frame outcome fun moved busy => ?_
      refine stopped_of_outcome moved outcome (fun other starting => ?_) busy
      obtain ⟨stop, stopping⟩ := phase (.inr ⟨other, starting⟩)
      have notSelf : stop ≠ id := by
        rintro rfl
        exact not_at_of_known taken.known rfl stopping
      exact ⟨stop, notSelf, stopping⟩

theorem no_start_behind_stop (consistent : Consistent facade)
    (head : facade.gateway.loop.ready[0]? = some id) (here : At facade.gateway.loop id isStopping)
    (other : TaskId) : ¬ At facade.gateway.loop other isStarting := by
  intro starting
  have different : other ≠ id := At.ne starting here starting_not_stopping
  obtain ⟨task, known, alive, starts⟩ := starting
  have status : task.status = .scheduled .value := by
    have fine := consistent.tidy.orderly.allowed other task known (by simp)
    change allowed task.pc task.status at fine
    cases stands : task.pc <;> simp [stands, isStarting] at starts
    rename_i caller
    cases caller <;> simp only [stands, allowed] at fine
    rcases fine with scheduled | ⟨result, ended⟩
    · exact scheduled
    · simp [TaskState.alive, Status.alive, ended] at alive
  have member := (consistent.tidy.orderly.queued.exact other).mpr ⟨task, _, known, status⟩
  have ordered := consistent.ordered
  cases queue : facade.gateway.loop.ready with
  | nil => simp [queue] at head
  | cons one rest =>
      rw [queue, List.getElem?_cons_zero, Option.some.injEq] at head
      subst head
      rw [queue] at member
      unfold Ordered at ordered
      rw [queue, List.pairwise_cons] at ordered
      rcases List.mem_cons.mp member with same | behind
      · exact different same
      · exact ordered.1 other behind ⟨here, task, known, alive, starts⟩

theorem stop_goes_on (consistent : Consistent facade)
    (head : facade.gateway.loop.ready[0]? = some id)
    (taken : Taken facade.gateway.loop loop id pc signal waiters) (stopping : isStopping pc = true)
    {next : World} (tidy : Tidy next none) (frame : CallFrame id loop next.loop)
    (outcome : StopOutcome id next) : Consistent { facade with gateway := next } := by
  have moved := moved_of_frame taken head frame
  have unique := consistent.tidy.orderly.queued.unique
  have here : At facade.gateway.loop id isStopping := ⟨_, taken.known, rfl, stopping⟩
  have notStarting : ¬ At next.loop id isStarting :=
    not_at_of_stop_outcome outcome stopping_not_starting
  have notNew : isNew pc = false := stopping_not_new pc stopping
  have noStart := no_start_behind_stop consistent head here
  obtain ⟨pending, waits, phase⟩ := waits_of_begun consistent taken moved notNew
    (not_at_of_stop_outcome outcome stopping_not_new)
  refine ⟨tidy, ordered_of_moved moved unique consistent.ordered fun starts =>
    absurd starts notStarting, pending, waits, ?_⟩
  cases pending with
  | some start => exact absurd here (phase.noStop id)
  | none =>
      exact stopped_of_outcome moved outcome fun other starting => absurd starting (noStart other)

theorem phase_of_same {world next : World} {pending : Option TaskId} (phase : Phase world pending)
    (starting : ∀ other, At next.loop other isStarting ↔ At world.loop other isStarting)
    (stopping : ∀ other, At next.loop other isStopping ↔ At world.loop other isStopping)
    (kept : ∀ other task, world.loop.task other = some task →
      ∃ after, next.loop.task other = some after ∧ (after.alive = true → task.alive = true ∧
        (isStarting task.pc = true → isStarting after.pc = true)))
    (running : next.running = world.running) (calm : CalmHealth world → CalmHealth next) :
    Phase next pending := by
  cases pending with
  | some start =>
      refine ⟨fun other stops => phase.noStop other ((stopping other).mp stops), ?_, ?_,
        fun runs => calm (phase.calm (running.symm.trans runs))⟩
      · obtain ⟨task, known, starts⟩ := phase.begun
        obtain ⟨after, found, same⟩ := kept start task known
        exact ⟨after, found, fun alive => (same alive).2 (starts (same alive).1)⟩
      · rcases phase.working with starts | runs
        · exact .inl ((starting start).mpr starts)
        · exact .inr (running.trans runs)
  | none =>
      intro busy
      obtain ⟨stop, stops⟩ := phase (by
        rcases busy with runs | ⟨other, starts⟩
        · exact .inl (running.symm.trans runs)
        · exact .inr ⟨other, (starting other).mp starts⟩)
      exact ⟨stop, (stopping stop).mpr stops⟩

theorem spawned_step (consistent : Consistent facade)
    (head : facade.gateway.loop.ready[0]? = some id)
    (taken : Taken facade.gateway.loop loop id pc signal waiters) (choice : Choice)
    (spawned : Spawned pc) (fine : signal ≠ .raised)
    (healthy : pc = .healthSleep → signal = .value → choice.healthy = true) : Consistent { facade with
      gateway := ({ facade.gateway with loop := loop } : World).resume id choice pc signal } := by
  obtain ⟨tidy, frame, running, healthTask, spares, after, found, spawnedAfter, calmed⟩ :=
    spawned_stepped (tidy_taken consistent.tidy taken) taken.runs choice spawned fine healthy
  have moved := moved_of_frame taken head frame
  have unique := consistent.tidy.orderly.queued.unique
  have notAfter {kind : Pc → Bool} (notSpawned : ∀ pc, Spawned pc → kind pc = false) :
      ¬ At (World.resume { facade.gateway with loop := loop } id choice pc signal).loop id kind :=
    not_at_of_known found (notSpawned _ spawnedAfter)
  have same {kind : Pc → Bool} (notSpawned : ∀ pc, Spawned pc → kind pc = false)
      (other : TaskId) :
      At (World.resume { facade.gateway with loop := loop } id choice pc signal).loop other kind ↔
        At facade.gateway.loop other kind := by
    by_cases mine : other = id
    · subst mine
      exact iff_of_false (notAfter notSpawned) (not_at_of_known taken.known (notSpawned _ spawned))
    · exact at_of_moved moved mine notSpawned
  obtain ⟨pending, waits, phase⟩ := waits_of_begun consistent taken moved
    (new_not_spawned _ spawned) (notAfter new_not_spawned)
  refine ⟨tidy, ordered_of_moved moved unique consistent.ordered fun starts =>
    absurd starts (notAfter starting_not_spawned), pending, waits,
    phase_of_same phase (same starting_not_spawned) (same stopping_not_spawned) ?_ running ?_⟩
  · intro other task known
    by_cases mine : other = id
    · subst mine
      rw [taken.known, Option.some.injEq] at known
      subst known
      exact ⟨after, found, fun _ => ⟨rfl, fun starts => by
        rw [starting_not_spawned _ spawned] at starts
        cases starts⟩⟩
    · obtain ⟨later, there, pc, alive⟩ := moved.kept other task mine known
      exact ⟨later, there, fun living => ⟨alive ▸ living, fun starts => pc ▸ starts⟩⟩
  · rintro ⟨health, task, holds, known, isHealth, status⟩
    by_cases mine : health = id
    · subst mine
      rw [taken.known, Option.some.injEq] at known
      subst known
      have value : signal = .value := by simpa using status
      obtain ⟨healthAfter, pendingAfter⟩ := calmed isHealth value
      exact ⟨health, after, healthTask.trans holds, found, healthAfter, .inl pendingAfter⟩
    · have knownTaken : loop.task health = some task := (taken.of_ne (Ne.symm mine)).trans known
      refine ⟨health, task, healthTask.trans holds, spares health task mine knownTaken ?_, isHealth,
        status⟩
      rcases status with status | status <;> simp [status]

end

theorem at_of_create (loop : Loop Pc) (pc : Pc) {other : TaskId} {kind : Pc → Bool}
    (old : other ≠ loop.tasks.length) : At (loop.create pc) other kind ↔ At loop other kind := by
  unfold At
  rw [task_create, if_neg old]

theorem at_new (loop : Loop Pc) {pc : Pc} {kind : Pc → Bool} (notKind : kind pc = false) :
    ¬ At (loop.create pc) loop.tasks.length kind := by
  have known : (loop.create pc).task loop.tasks.length = some ⟨pc, .scheduled .value, []⟩ := by
    rw [task_create, if_pos rfl]
  exact not_at_of_known known notKind

theorem Waits.create {loop : Loop Pc} {pending last : Option TaskId} {ids : List TaskId}
    (waits : Waits loop pending ids last) (pc : Pc) : Waits (loop.create pc) pending ids last := by
  refine waits.transfer fun id _ stand here => ?_
  obtain ⟨task, known, rest⟩ := here
  exact ⟨task, by rw [task_create, if_neg (ne_new_of_task known), known], rest⟩

theorem Waits.append_start {loop : Loop Pc} {pending last : Option TaskId} {ids : List TaskId}
    {id : TaskId} (waits : Waits loop pending ids last) (stands : StandsAt loop id (.entry .start)) :
    Waits loop pending (ids ++ [id]) (some id) := by
  induction waits with
  | done pending => exact .start stands (.done _)
  | start here later induction => exact .start here induction
  | stop here later induction => exact .stop here induction

theorem Waits.append_stop {loop : Loop Pc} {pending last : Option TaskId} {ids : List TaskId}
    {id : TaskId} (waits : Waits loop pending ids last)
    (stands : StandsAt loop id (.stopAfter last)) : Waits loop pending (ids ++ [id]) none := by
  induction waits with
  | done pending => exact .stop stands (.done _)
  | start here later induction => exact .start here (induction stands)
  | stop here later induction => exact .stop here (induction stands)

theorem in_ready_known {loop : Loop Pc} (queued : loop.Queued) {id : TaskId}
    (member : id ∈ loop.ready) : id ≠ loop.tasks.length := by
  obtain ⟨task, _, known, _⟩ := (queued.exact id).mp member
  exact ne_new_of_task known

theorem new_calls_create {loop : Loop Pc} (queued : loop.Queued) {pc : Pc} (new : isNew pc = true) :
    newCalls (loop.create pc) = newCalls loop ++ [loop.tasks.length] := by
  have isNewAt : newAt (loop.create pc) loop.tasks.length = true := by
    rw [new_at_iff]
    exact ⟨⟨pc, .scheduled .value, []⟩, by rw [task_create, if_pos rfl], rfl, new⟩
  rw [newCalls, ready_create, List.filter_append, List.filter_singleton, isNewAt]
  simp only [cond_true, newCalls]
  congr 1
  refine List.filter_congr fun other member => ?_
  rw [Bool.eq_iff_iff, new_at_iff, new_at_iff, at_of_create loop pc (in_ready_known queued member)]

theorem call_step {facade : Facade} (consistent : Consistent facade) {pc : Pc}
    (new : isNew pc = true) (fine : allowed pc (.scheduled .value)) (stopTask : Option TaskId)
    {last : Option TaskId}
    (append : ∀ pending, Waits facade.gateway.loop pending (newCalls facade.gateway.loop)
      facade.startTask → Waits (facade.gateway.loop.create pc) pending
        (newCalls facade.gateway.loop ++ [facade.gateway.loop.tasks.length]) last) :
    Consistent ⟨facade.create pc, last, stopTask⟩ := by
  obtain ⟨tidy, ordered, pending, waits, phase⟩ := consistent
  have queued := tidy.orderly.queued
  have known {other : TaskId} {task : TaskState Pc}
      (found : facade.gateway.loop.task other = some task) :
      (facade.gateway.loop.create pc).task other = some task := by
    rw [task_create, if_neg (ne_new_of_task found), found]
  have notStarting : isStarting pc = false := by cases pc <;> simp_all [isNew, isStarting]
  have notStopping : isStopping pc = false := by cases pc <;> simp_all [isNew, isStopping]
  have same {kind : Pc → Bool} (notKind : kind pc = false) (other : TaskId) :
      At (facade.gateway.loop.create pc) other kind ↔ At facade.gateway.loop other kind := by
    by_cases isNew : other = facade.gateway.loop.tasks.length
    · subst isNew
      refine ⟨fun stands => absurd stands (at_new _ notKind), ?_⟩
      rintro ⟨task, found, _⟩
      rw [task_new] at found
      cases found
    · exact at_of_create _ pc isNew
  refine ⟨⟨orderly_create tidy.orderly pc fine, ?_, ?_⟩, ?_, pending, ?_, ?_⟩
  · intro other holds
    obtain ⟨task, found, isHealth⟩ := tidy.health other holds
    exact ⟨task, known found, isHealth⟩
  · intro context other holds
    obtain ⟨task, found, isRun⟩ := tidy.run context other holds
    exact ⟨task, known found, isRun⟩
  · change ((facade.gateway.loop.ready ++ [facade.gateway.loop.tasks.length]).Pairwise _)
    rw [List.pairwise_append]
    refine ⟨?_, List.pairwise_singleton _ _, ?_⟩
    · refine ordered.imp fun {earlier later} inOrder => ?_
      change ¬ (At (facade.gateway.loop.create pc) earlier isStopping ∧
        At (facade.gateway.loop.create pc) later isStarting)
      rw [same notStopping, same notStarting]
      exact inOrder
    · intro earlier _ later member both
      rw [List.mem_singleton] at member
      subst member
      exact at_new _ notStarting both.2
  · change Waits _ pending (newCalls (facade.gateway.loop.create pc)) last
    rw [new_calls_create queued new]
    exact append pending waits
  · refine phase_of_same phase (same notStarting) (same notStopping) ?_ rfl ?_
    · intro other task found
      exact ⟨task, known found, fun alive => ⟨alive, id⟩⟩
    · rintro ⟨health, task, holds, found, rest⟩
      exact ⟨health, task, holds, known found, rest⟩

structure Fired (before after : Loop Pc) (id : TaskId) (held : TaskState Pc) : Prop where
  known : before.task id = some held
  pending : held.status = .pending
  updated : ∀ other, after.task other =
    if id = other then some { held with status := .scheduled .value } else before.task other
  ready : after.ready = before.ready ++ [id]

theorem fired_of_fire {before after : Loop Pc} {id : TaskId} (queued : before.Queued)
    (fired : before.fire id = some after) : ∃ held, Fired before after id held ∧ after.Queued := by
  obtain ⟨held, known, pending, queuedAfter, updated⟩ := queued_fire queued fired
  refine ⟨held, ⟨known, pending, updated, ?_⟩, queuedAfter⟩
  unfold fire at fired
  simp only [known, Option.map_some, pending, Option.some.injEq] at fired
  rw [← fired]
  rfl

namespace Fired

variable {before after : Loop Pc} {id : TaskId} {held : TaskState Pc}

theorem kept (fired : Fired before after id held) {other : TaskId} {task : TaskState Pc}
    (found : before.task other = some task) :
    ∃ now, after.task other = some now ∧ now.pc = task.pc ∧ now.alive = task.alive := by
  rw [fired.updated]
  by_cases same : id = other
  · subst same
    rw [fired.known, Option.some.injEq] at found
    subst found
    exact ⟨_, if_pos rfl, rfl, by simp [TaskState.alive, Status.alive, fired.pending]⟩
  · exact ⟨task, by rw [if_neg same, found], rfl, rfl⟩

theorem at_iff (fired : Fired before after id held) (kind : Pc → Bool) (other : TaskId) :
    At after other kind ↔ At before other kind := by
  constructor
  · rintro ⟨now, found, alive, stands⟩
    cases there : before.task other with
    | none =>
        rw [fired.updated, there] at found
        split at found
        · rename_i mine
          rw [← mine, fired.known] at there
          cases there
        · cases found
    | some task =>
        obtain ⟨later, here, pc, sameAlive⟩ := fired.kept there
        rw [found, Option.some.injEq] at here
        subst here
        exact ⟨task, there, sameAlive ▸ alive, pc ▸ stands⟩
  · rintro ⟨task, found, alive, stands⟩
    obtain ⟨now, here, pc, sameAlive⟩ := fired.kept found
    exact ⟨now, here, sameAlive.trans alive, pc ▸ stands⟩

theorem kept_kind (fired : Fired before after id held) {other : TaskId} {kind : Pc → Bool}
    (stands : ∃ task, before.task other = some task ∧ kind task.pc = true) :
    ∃ task, after.task other = some task ∧ kind task.pc = true := by
  obtain ⟨task, found, isKind⟩ := stands
  obtain ⟨now, here, pc, _⟩ := fired.kept found
  exact ⟨now, here, pc ▸ isKind⟩

theorem not_at (fired : Fired before after id held) {kind : Pc → Bool}
    (notKind : kind held.pc = false) : ¬ At after id kind := by
  rw [fired.at_iff]
  exact not_at_of_known fired.known notKind

theorem new_calls (fired : Fired before after id held) (old : isNew held.pc = false) :
    newCalls after = newCalls before := by
  have notNew : newAt after id = false := by
    rw [Bool.eq_false_iff]
    exact fun isNewAt => fired.not_at old ((new_at_iff after id).mp isNewAt)
  rw [newCalls, fired.ready, List.filter_append, List.filter_singleton, notNew]
  simp only [cond_false, List.append_nil, newCalls]
  refine List.filter_congr fun other _ => ?_
  rw [Bool.eq_iff_iff, new_at_iff, new_at_iff, fired.at_iff]

end Fired

theorem fired_step {facade : Facade} {loop : Loop Pc} {id : TaskId} (consistent : Consistent facade)
    (taken : facade.gateway.loop.fire id = some loop) :
    Consistent { facade with gateway := { facade.gateway with loop := loop } } := by
  obtain ⟨tidy, ordered, pending, waits, phase⟩ := consistent
  obtain ⟨held, fired, queued⟩ := fired_of_fire tidy.orderly.queued taken
  have spawned : Spawned held.pc := by
    have fine : allowed held.pc held.status := tidy.orderly.allowed id held fired.known (by simp)
    rw [fired.pending] at fine
    unfold allowed at fine
    split at fine <;> simp_all [Ended, Resumable, Spawned, isHealth, isRun]
  have woken : rules.allowed held.pc (.scheduled .value) := by
    have resumable : Resumable (.scheduled .value) := ⟨.value, by simp, rfl⟩
    rcases spawned with health | run
    · exact allowed_of_health health (.inr (.inl resumable))
    · exact allowed_of_run run (.inr (.inl resumable))
  have orderly := orderly_status tidy.orderly fired.known (by simp [fired.pending]) queued woken
    fired.updated
  refine ⟨⟨orderly, ?_, ?_⟩, ?_, pending, ?_,
    phase_of_same phase (fired.at_iff _) (fired.at_iff _) ?_ rfl ?_⟩
  · exact fun other holds => fired.kept_kind (tidy.health other holds)
  · exact fun context other holds => fired.kept_kind (tidy.run context other holds)
  · change loop.ready.Pairwise _
    rw [fired.ready, List.pairwise_append]
    refine ⟨?_, List.pairwise_singleton _ _, ?_⟩
    · refine ordered.imp fun {earlier later} inOrder => ?_
      change ¬ (At loop earlier isStopping ∧ At loop later isStarting)
      rw [fired.at_iff, fired.at_iff]
      exact inOrder
    · intro earlier _ later member both
      rw [List.mem_singleton] at member
      subst member
      exact fired.not_at (starting_not_spawned _ spawned) both.2
  · change Waits loop pending (newCalls loop) facade.startTask
    rw [fired.new_calls (new_not_spawned _ spawned)]
    refine waits.transfer fun other _ pc stands => ?_
    obtain ⟨task, found, alive, rfl⟩ := stands
    obtain ⟨now, here, samePc, sameAlive⟩ := fired.kept found
    exact ⟨now, here, sameAlive.trans alive, samePc⟩
  · intro other task found
    obtain ⟨now, here, pc, alive⟩ := fired.kept found
    exact ⟨now, here, fun living => ⟨alive ▸ living, fun starts => pc ▸ starts⟩⟩
  · rintro ⟨health, task, holds, found, isHealth, status⟩
    by_cases mine : id = health
    · subst mine
      rw [fired.known, Option.some.injEq] at found
      subst found
      exact ⟨id, _, holds, (fired.updated id).trans (if_pos rfl), isHealth, .inr rfl⟩
    · exact ⟨health, task, holds, (fired.updated health).trans (by rw [if_neg mine, found]),
        isHealth, status⟩

/-- A start takes its first step only when no stop that has begun is unfinished. -/
def StartsClear (facade : Facade) : FacadeEvent → Prop
  | .ran choice => begins facade.gateway (.ran 0 choice) = some .start →
      standing facade.gateway isStopping = false
  | _ => True

def checkSucceeds (facade : Facade) : FacadeEvent → Bool
  | .ran choice => !checkFails facade.gateway (.ran 0 choice)
  | _ => true

instance (facade : Facade) (event : FacadeEvent) : Decidable (StartsClear facade event) := by
  cases event <;> unfold StartsClear <;> infer_instance

/-- Every task that a call has created has ended. -/
def settled (facade : Facade) : Bool :=
  !standing facade.gateway fun pc => isNew pc || isStarting pc || isStopping pc

theorem consistent_fresh (threshold components : Nat) :
    Consistent (Facade.fresh threshold components) := by
  have noTask (id : TaskId) : (Loop.empty : Loop Pc).task id = none := by
    simp [Loop.task, Loop.empty]
  refine ⟨⟨⟨queued_empty, ?_, ?_⟩, ?_, ?_⟩, List.Pairwise.nil, none, .done none, ?_⟩
  · intro id task known
    cases (noTask id).symm.trans known
  · intro id task known
    cases (noTask id).symm.trans known
  · intro id holds
    cases holds
  · intro context id holds
    simp only [World.core, Facade.fresh, World.fresh] at holds
    cases context <;> simp at holds
  · rintro (running | ⟨id, task, known, _⟩)
    · cases running
    · cases (noTask id).symm.trans known

/-- The step of a start, a stop, the health loop or `_run`. -/
theorem ran_step {facade : Facade} {loop : Loop Pc} {id : TaskId} {pc : Pc} {signal : Signal}
    (consistent : Consistent facade) (choice : Choice)
    (entry : facade.gateway.loop.takeReady 0 = some (loop, id, pc, signal))
    (clear : StartsClear facade (.ran choice)) (healthy : checkSucceeds facade (.ran choice) = true) :
    Consistent { facade with
      gateway := ({ facade.gateway with loop := loop } : World).resume id choice pc signal } := by
  obtain ⟨head, waiters, taken⟩ := take_ready_cases consistent.tidy.orderly.queued entry
  have fine : allowed pc (.scheduled signal) :=
    consistent.tidy.orderly.allowed id _ taken.known (by simp)
  have tidyTaken := tidy_taken consistent.tidy taken
  have value (same : Status.scheduled signal = .scheduled .value ∨ Ended (.scheduled signal)) :
      signal = .value := by
    simpa [Ended] using same
  have resumable (same : Resumable (.scheduled signal) ∨
      (∃ task, Status.scheduled signal = .awaiting task) ∨ Ended (.scheduled signal)) :
      signal ≠ .raised := by
    simpa [Resumable, Ended] using same
  have spawned (isSpawned : Spawned pc) : signal ≠ .raised := by
    have known : Status.scheduled signal = .pending ∨ Resumable (.scheduled signal) ∨
        Ended (.scheduled signal) := by
      rcases isSpawned with health | run
      · exact health_of_allowed health fine
      · exact run_of_allowed run fine
    simpa [Resumable, Ended] using known
  have mild (sleeps : pc = .healthSleep) (isValue : signal = .value) : choice.healthy = true := by
    subst sleeps isValue
    simpa [checkSucceeds, checkFails, resumed_at_of_taken entry] using healthy
  cases pc with
  | entry call =>
      cases call with
      | start =>
          obtain rfl := value fine
          refine start_begins consistent head taken fun other stopping => ?_
          have none := clear (by simp [begins, resumed_at_of_taken entry])
          rw [(standing_iff _ _).mpr ⟨other, stopping⟩] at none
          cases none
      | stop => exact fine.elim
      | restart => exact fine.elim
  | nodeStart context caller =>
      cases caller with
      | task =>
          obtain rfl := value fine
          exact start_goes_on consistent head taken
      | healthLoop => exact fine.elim
  | stopAfter pending =>
      obtain rfl := value fine
      exact stop_begins consistent head taken
  | pendingStart =>
      obtain ⟨tidy, frame, outcome⟩ := begin_stop_stepped tidyTaken taken.runs rfl
      obtain rfl : signal = .value := by simpa [allowed, Ended] using fine
      exact stop_goes_on consistent head taken rfl tidy frame outcome
  | stopHealth restart caller =>
      cases restart <;> cases caller <;> try exact fine.elim
      obtain ⟨tidy, frame, outcome⟩ := stop_components_stepped tidyTaken taken.runs rfl
      have goesOn : ({ facade.gateway with loop := loop } : World).resume id choice
          (.stopHealth false .task) signal =
            ({ facade.gateway with loop := loop } : World).stopComponents id false .task := by
        cases signal
        · rfl
        · rfl
        · exact absurd rfl (resumable fine)
      rw [goesOn]
      exact stop_goes_on consistent head taken rfl tidy frame outcome
  | nodeStop context restart caller =>
      cases restart <;> cases caller <;> try exact fine.elim
      obtain ⟨tidy, frame, outcome⟩ := node_stopped_stepped tidyTaken taken.runs rfl context
      have goesOn : ({ facade.gateway with loop := loop } : World).resume id choice
          (.nodeStop context false .task) signal =
            ({ facade.gateway with loop := loop } : World).nodeStopped id context false .task := by
        cases signal
        · rfl
        · rfl
        · exact absurd rfl (resumable fine)
      rw [goesOn]
      exact stop_goes_on consistent head taken rfl tidy frame outcome
  | healthEntry => exact spawned_step consistent head taken choice (.inl rfl) (spawned (.inl rfl)) mild
  | healthSleep => exact spawned_step consistent head taken choice (.inl rfl) (spawned (.inl rfl)) mild
  | runEntry context =>
      exact spawned_step consistent head taken choice (.inr rfl) (spawned (.inr rfl)) mild
  | running context =>
      exact spawned_step consistent head taken choice (.inr rfl) (spawned (.inr rfl)) mild
  | runClosing context =>
      exact spawned_step consistent head taken choice (.inr rfl) (spawned (.inr rfl)) mild

theorem consistent_step {facade next : Facade} {event : FacadeEvent}
    (consistent : Consistent facade)
    (guard : StartsClear facade event ∧ checkSucceeds facade event = true)
    (stepped : facade.step event = some next) : Consistent next := by
  cases event with
  | start =>
      cases stepped
      have fine : allowed (.entry .start) (.scheduled .value) := .inl rfl
      exact call_step consistent rfl fine facade.stopTask fun pending waits =>
        (waits.create _).append_start ⟨⟨_, .scheduled .value, []⟩, by rw [task_create, if_pos rfl],
          rfl, rfl⟩
  | stop =>
      cases stepped
      have fine : allowed (.stopAfter facade.startTask) (.scheduled .value) := .inl rfl
      exact call_step consistent rfl fine _ fun pending waits =>
        (waits.create _).append_stop ⟨⟨_, .scheduled .value, []⟩, by rw [task_create, if_pos rfl],
          rfl, rfl⟩
  | fired id =>
      obtain ⟨world, fired, rfl⟩ := Option.map_eq_some_iff.mp stepped
      obtain ⟨loop, woken, rfl⟩ := Option.map_eq_some_iff.mp fired
      exact fired_step consistent woken
  | ran choice =>
      obtain ⟨world, ran, rfl⟩ := Option.map_eq_some_iff.mp stepped
      obtain ⟨loop, id, pc, signal, entry, rfl⟩ := World.ran_cases ran
      exact ran_step consistent choice entry guard.1 guard.2

theorem start_task_of_run {facade final : Facade} {events : List FacadeEvent}
    (reached : run Facade.step facade events = some final) :
    final.startTask.isSome = events.foldl startedAfter facade.startTask.isSome := by
  induction events generalizing facade with
  | nil =>
      cases reached
      rfl
  | cons event rest induction =>
      obtain ⟨next, stepped, later⟩ := run_cons_some Facade.step reached
      rw [induction later, List.foldl_cons]
      congr 1
      cases event with
      | start =>
          cases stepped
          rfl
      | stop =>
          cases stepped
          rfl
      | fired id =>
          obtain ⟨world, _, rfl⟩ := Option.map_eq_some_iff.mp stepped
          rfl
      | ran choice =>
          obtain ⟨world, _, rfl⟩ := Option.map_eq_some_iff.mp stepped
          rfl

theorem running_of_settled {facade : Facade} (consistent : Consistent facade)
    (done : settled facade = true) :
    facade.gateway.running = true ↔ facade.startTask.isSome = true := by
  have none {id : TaskId} {kind : Pc → Bool} (isCall : ∀ pc, kind pc = true →
      (isNew pc || isStarting pc || isStopping pc) = true) :
      ¬ At facade.gateway.loop id kind := by
    rintro ⟨task, known, alive, stands⟩
    have found := (standing_iff facade.gateway fun pc =>
      isNew pc || isStarting pc || isStopping pc).mpr ⟨id, task, known, alive, isCall _ stands⟩
    rw [settled, found] at done
    cases done
  obtain ⟨pending, waits, phase⟩ := consistent.phase
  have noNew : newCalls facade.gateway.loop = [] := by
    rw [newCalls, List.filter_eq_nil_iff]
    intro id _ isNewAt
    exact none (by simp +contextual) ((new_at_iff _ id).mp isNewAt)
  rw [noNew] at waits
  cases waits
  cases start : facade.startTask with
  | some id =>
      rw [start] at phase
      refine ⟨fun _ => rfl, fun _ => ?_⟩
      rcases phase.working with starting | running
      · exact absurd starting (none (by simp +contextual))
      · exact running
  | none =>
      rw [start] at phase
      refine ⟨fun running => ?_, fun isSome => by cases isSome⟩
      obtain ⟨id, stopping⟩ := phase (.inl running)
      exact absurd stopping (none (by simp +contextual))

/-- Once every task has ended the gateway runs exactly when the last call was a
start, if no start began while an earlier stop was unfinished. -/
theorem last_call_wins_of_clear_starts (threshold components : Nat) (events : List FacadeEvent)
    (final : Facade)
    (guarded : Guarded Facade.step
      (fun facade event => StartsClear facade event ∧ checkSucceeds facade event = true)
      (Facade.fresh threshold components) events)
    (reached : run Facade.step (Facade.fresh threshold components) events = some final)
    (done : settled final = true) :
    final.gateway.running = true ↔ lastIsStart events = true := by
  have consistent : Consistent final :=
    run_preserves Facade.step (fun facade event next holds guard stepped =>
      consistent_step holds guard stepped) (consistent_fresh threshold components) guarded reached
  rw [running_of_settled consistent done, start_task_of_run reached]
  rfl

def loopStep : FacadeEvent := .ran ⟨true, some .cancelled⟩

/-- `stop` right after `start`, and a second `start` in the last step of the
first stop. -/
def startStopStart : List FacadeEvent :=
  [.start, .stop] ++ List.replicate 9 loopStep ++ [.start] ++ List.replicate 4 loopStep

theorem start_wins_after_finished_stop :
    ∃ final, run Facade.step (Facade.fresh 1 1) startStopStart = some final ∧
      (final.gateway.running = true ↔ lastIsStart startStopStart = true) := by
  have ends : ((run Facade.step (Facade.fresh 1 1) startStopStart).map settled) = some true := by
    decide
  obtain ⟨final, reached, done⟩ := Option.map_eq_some_iff.mp ends
  exact ⟨final, reached,
    last_call_wins_of_clear_starts 1 1 startStopStart final (by decide) reached done⟩

/-- A gateway runs; `stop` and `start` are called without a step of the loop
between them. -/
def stopThenStart : List FacadeEvent :=
  [.start] ++ List.replicate 4 loopStep ++ [.stop, .start] ++ List.replicate 6 loopStep

theorem stop_undoes_later_start :
    Guarded Facade.step (fun facade event => checkSucceeds facade event = true)
        (Facade.fresh 1 1) stopThenStart ∧
      ∃ final, run Facade.step (Facade.fresh 1 1) stopThenStart = some final ∧
        settled final = true ∧
          ¬ (final.gateway.running = true ↔ lastIsStart stopThenStart = true) := by
  refine ⟨by decide, ?_⟩
  have ends : ((run Facade.step (Facade.fresh 1 1) stopThenStart).map fun facade =>
      (settled facade, facade.gateway.running)) = some (true, false) := by decide
  obtain ⟨final, reached, read⟩ := Option.map_eq_some_iff.mp ends
  rw [Prod.mk.injEq] at read
  refine ⟨final, reached, read.1, fun same => ?_⟩
  have running := same.mpr (by decide)
  rw [read.2] at running
  cases running

end RemoteIface.HbCompat.LastCall
