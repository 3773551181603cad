import RemoteIface.Gateway.HealthLoop

/-!
The counter that the health loops of a gateway share. A failed check that makes
it reach the threshold calls `restart` and resets it; a check that succeeds
resets it too; `start` and `stop` do not. It counts the series of failed checks
since the last `start` as long as every `start` finds it reset.
-/

namespace RemoteIface.Gateway.FailureCount

set_option autoImplicit false

open RemoteIface.Library.EventLoop
open RemoteIface.Library.Runs
open RemoteIface.Gateway.Lifecycle
open RemoteIface.Gateway.Overlap
open RemoteIface.Gateway.HealthLoop

/-- A health check is made and succeeds. -/
def checkSucceeds (world : World) (event : Event) : Bool :=
  match resumedAt world event, event with
  | some .healthSleep, .ran _ choice => choice.healthy
  | _, _ => false

/-- A `start`, of a caller or inside a `restart`, runs to its end. -/
def finishesStart (world : World) (event : Event) : Bool :=
  match resumedAt world event with
  | some (.nodeStart _ _) => true
  | some (.entry .start) => !world.running && (world.core world.node).started
  | _ => false

/-- The awaits of the health loop inside its call of `restart`. -/
def insideRestart : Pc → Bool
  | .stopHealth true .healthLoop => true
  | .nodeStop _ true .healthLoop => true
  | .nodeStart _ .healthLoop => true
  | _ => false

/-- A health loop, resumed from its sleep, goes to sleep inside `restart`. -/
def callsRestart (world : World) (event : Event) : Bool :=
  match event, world.step event with
  | .ran place _, some next =>
      match world.loop.takeReady place with
      | some (_, id, .healthSleep, _) => (next.loop.standsAt id).any insideRestart
      | _ => false
  | _, _ => false

def seriesAfter (world : World) (event : Event) (series : Nat) : Nat :=
  if finishesStart world event || checkSucceeds world event || callsRestart world event then 0
  else if checkFails world event then series + 1
  else series

/-- The series at the end of a run, counted from its last `start`, its last
successful check and its last restart. -/
def series (world : World) : Nat → List Event → Nat
  | count, [] => count
  | count, event :: rest =>
      match world.step event with
      | none => count
      | some next => series next (seriesAfter world event count) rest

/-- The health loop calls `restart` at each failed check that is the last of as
many in a row as the threshold, and at no other time. -/
def RestartsOnTime (start : World) (events : List Event) : Prop :=
  ∀ before event after, events = before ++ event :: after →
    ∀ world next, run World.step start before = some world → world.step event = some next →
      (callsRestart world event = true ↔
        checkFails world event = true ∧ series start 0 before + 1 = start.threshold)

/-- A `start` that runs to its end finds the counter reset. -/
def StartsClean (world : World) (event : Event) : Prop :=
  finishesStart world event = true → world.failures = 0

instance : DecidableRel StartsClean := fun world event =>
  inferInstanceAs (Decidable (finishesStart world event = true → _))

/-- The counter stays as it is and no health loop is launched. -/
structure Undisturbed (world next : World) : Prop where
  failures : next.failures = world.failures
  threshold : next.threshold = world.threshold
  healthTask : next.healthTask = world.healthTask ∨ next.healthTask = none

theorem Undisturbed.after {world middle next : World} (later : Undisturbed middle next)
    (earlier : Undisturbed world middle) : Undisturbed world next := by
  constructor
  · exact later.failures.trans earlier.failures
  · exact later.threshold.trans earlier.threshold
  · rcases later.healthTask with same | none_left
    · rw [same]
      exact earlier.healthTask
    · exact .inr none_left

theorem returned_undisturbed (world : World) (id : TaskId) (caller : Caller) :
    Undisturbed world (world.returned id caller) := by
  cases caller <;> exact ⟨rfl, rfl, .inl rfl⟩

theorem raised_undisturbed (world : World) (id : TaskId) (signal : Signal) (caller : Caller) :
    Undisturbed world (world.raised id signal caller) := by
  cases caller <;> exact ⟨rfl, rfl, .inl rfl⟩

theorem begin_start_undisturbed {world : World}
    (unprepared : world.running = true ∨ (world.core world.node).started = false) (id : TaskId)
    (caller : Caller) : Undisturbed world (world.beginStart id caller) := by
  unfold World.beginStart
  split
  · exact returned_undisturbed world id caller
  · split
    · rename_i idle started
      rcases unprepared with running | unstarted
      · exact absurd running idle
      · rw [unstarted] at started
        cases started
    · exact ⟨rfl, rfl, .inl rfl⟩

/-- The `NodeContext` that a restart makes is not started. -/
theorem rebuilt_unstarted (world : World) :
    (World.core { world with
      node := world.contexts.length
      contexts := world.contexts ++ [⟨false, none⟩] } world.contexts.length).started = false := by
  simp [World.core]

theorem stopped_undisturbed (world : World) (id : TaskId) (restart : Bool) (caller : Caller) :
    Undisturbed world (world.stopped id restart caller) := by
  unfold World.stopped
  split
  · apply (begin_start_undisturbed (.inr (rebuilt_unstarted world)) id caller).after
    exact ⟨rfl, rfl, .inl rfl⟩
  · exact returned_undisturbed world id caller

theorem node_stopped_undisturbed (world : World) (id : TaskId) (context : ContextId)
    (restart : Bool) (caller : Caller) :
    Undisturbed world (world.nodeStopped id context restart caller) :=
  (stopped_undisturbed _ id restart caller).after ⟨rfl, rfl, .inl rfl⟩

theorem stop_components_undisturbed (world : World) (id : TaskId) (restart : Bool)
    (caller : Caller) : Undisturbed world (world.stopComponents id restart caller) := by
  unfold World.stopComponents
  dsimp only
  split
  · split
    · exact (node_stopped_undisturbed _ id _ restart caller).after ⟨rfl, rfl, .inr rfl⟩
    · split
      · exact ⟨rfl, rfl, .inr rfl⟩
      · exact (node_stopped_undisturbed _ id _ restart caller).after ⟨rfl, rfl, .inr rfl⟩
  · exact (stopped_undisturbed _ id restart caller).after ⟨rfl, rfl, .inr rfl⟩

theorem begin_stop_undisturbed (world : World) (id : TaskId) (restart : Bool) (caller : Caller) :
    Undisturbed world (world.beginStop id restart caller) := by
  unfold World.beginStop
  split
  · split
    · exact stop_components_undisturbed world id restart caller
    · split
      · exact ⟨rfl, rfl, .inl rfl⟩
      · exact stop_components_undisturbed world id restart caller
  · exact stopped_undisturbed world id restart caller

/-- The await is neither the sleep of a health loop nor one at which a `start`
runs to its end. -/
def Aside (world : World) (pc : Pc) : Prop :=
  pc ≠ .healthSleep ∧ (∀ context caller, pc ≠ .nodeStart context caller) ∧
    (pc = .entry .start → world.running = true ∨ (world.core world.node).started = false)

theorem resume_undisturbed (world : World) (id : TaskId) (choice : Choice) {pc : Pc}
    {signal : Signal} (aside : signal = .value → Aside world pc) :
    Undisturbed world (world.resume id choice pc signal) := by
  unfold World.resume
  split
  case h_1 call =>
    cases call with
    | start => exact begin_start_undisturbed ((aside rfl).2.2 rfl) id .task
    | stop => exact begin_stop_undisturbed world id false .task
    | restart => exact begin_stop_undisturbed world id true .task
  case h_3 context caller => exact absurd rfl ((aside rfl).2.1 context caller)
  case h_4 caller _ => exact raised_undisturbed world id signal caller
  case h_5 caller => exact raised_undisturbed world id .raised caller
  case h_6 restart caller _ => exact stop_components_undisturbed world id restart caller
  case h_7 restart caller =>
    exact (stopped_undisturbed _ id restart caller).after ⟨rfl, rfl, .inl rfl⟩
  case h_8 context restart caller _ => exact node_stopped_undisturbed world id context restart caller
  case h_11 => exact absurd rfl (aside rfl).1
  case h_12 => exact raised_undisturbed world id signal .healthLoop
  case h_16 context _ =>
    unfold World.runStep
    split <;> exact ⟨rfl, rfl, .inl rfl⟩
  case h_17 context =>
    unfold World.runStep
    split <;> exact ⟨rfl, rfl, .inl rfl⟩
  case h_18 pending =>
    unfold World.stopAfter
    split
    · exact begin_stop_undisturbed world id false .task
    · split
      · exact ⟨rfl, rfl, .inl rfl⟩
      · exact begin_stop_undisturbed world id false .task
  case h_21 => exact begin_stop_undisturbed world id false .task
  all_goals exact ⟨rfl, rfl, .inl rfl⟩

/-- The end of `start` launches a health loop and leaves the counter alone. -/
theorem start_components_launch (world : World) (id : TaskId) (caller : Caller) :
    (world.startComponents id caller).failures = world.failures ∧
      (world.startComponents id caller).threshold = world.threshold ∧
      (world.startComponents id caller).healthTask = some world.loop.tasks.length := by
  cases caller <;> exact ⟨rfl, rfl, rfl⟩

/-- The task is at one of the awaits inside the `restart` of a health loop. -/
def Restarting (world : World) (id : TaskId) : Prop :=
  ∃ pc, world.loop.standsAt id = some pc ∧ insideRestart pc = true

theorem stopped_restarting {world : World} {id : TaskId} {pc : Pc} (idle : world.running = false)
    (stands : world.loop.standsAt id = some pc) :
    Restarting (world.stopped id true .healthLoop) id := by
  have unstarted := rebuilt_unstarted world
  rw [World.stopped, if_pos rfl, World.beginStart]
  dsimp only
  rw [if_neg (by rw [idle]; exact Bool.false_ne_true),
    if_neg (by rw [unstarted]; exact Bool.false_ne_true)]
  exact ⟨_, Loop.stands_yield_now (Loop.stands_create stands _) _, rfl⟩

theorem stop_components_restarting {world : World} {id : TaskId} {pc : Pc}
    (stands : world.loop.standsAt id = some pc) :
    Restarting (world.stopComponents id true .healthLoop) id := by
  unfold World.stopComponents
  dsimp only
  split
  · split
    · exact stopped_restarting rfl stands
    · split
      · rename_i run _ _
        have cancelled := (Loop.stands_cancel world.loop run id).trans stands
        exact ⟨_, Loop.stands_await cancelled _ _, rfl⟩
      · exact stopped_restarting rfl stands
  · exact stopped_restarting rfl stands

theorem begin_stop_restarting (world : World) {id : TaskId} {pc : Pc}
    (stands : world.loop.standsAt id = some pc) :
    Restarting (world.beginStop id true .healthLoop) id := by
  unfold World.beginStop
  split
  · split
    · exact stop_components_restarting stands
    · rename_i health _
      split
      · have cancelled := (Loop.stands_cancel world.loop health id).trans stands
        exact ⟨_, Loop.stands_await cancelled _ _, rfl⟩
      · exact stop_components_restarting stands
  · rename_i idle
    rw [Bool.not_eq_true] at idle
    exact stopped_restarting idle stands

inductive CountMove (world next : World) (event : Event) : Prop where
  | started (finishes : finishesStart world event = true) (noCheck : checkFails world event = false)
      (noRestart : callsRestart world event = false) (threshold : next.threshold = world.threshold)
      (failures : next.failures = world.failures)
      (launched : next.healthTask = some world.loop.tasks.length)
  | succeeded (succeeds : checkSucceeds world event = true)
      (noFailure : checkFails world event = false) (noRestart : callsRestart world event = false)
      (threshold : next.threshold = world.threshold) (failures : next.failures = 0)
  | failed (fails : checkFails world event = true) (noStart : finishesStart world event = false)
      (noSuccess : checkSucceeds world event = false) (noRestart : callsRestart world event = false)
      (threshold : next.threshold = world.threshold) (below : world.failures + 1 < world.threshold)
      (failures : next.failures = world.failures + 1)
  | restarted (fails : checkFails world event = true) (restarts : callsRestart world event = true)
      (threshold : next.threshold = world.threshold) (due : world.threshold ≤ world.failures + 1)
      (failures : next.failures = 0)
  | other (noStart : finishesStart world event = false) (noSuccess : checkSucceeds world event = false)
      (noFailure : checkFails world event = false) (noRestart : callsRestart world event = false)
      (undisturbed : Undisturbed world next)

theorem other_of_idle_event {world next : World} {event : Event}
    (resumes : ∀ place choice, event ≠ .ran place choice) (undisturbed : Undisturbed world next) :
    CountMove world next event := by
  cases event with
  | ran place choice => exact absurd rfl (resumes place choice)
  | _ => exact .other rfl rfl rfl rfl undisturbed

section

variable {world : World} {place : Nat} {choice : Choice} {loop : Loop Pc} {id : TaskId} {pc : Pc}
  {signal : Signal}

theorem step_ran (entry : world.loop.takeReady place = some (loop, id, pc, signal)) :
    world.step (.ran place choice) =
      some (({ world with loop := loop } : World).resume id choice pc signal) := by
  rw [World.step, entry]

theorem calls_restart_at_sleep (choice : Choice)
    (entry : world.loop.takeReady place = some (loop, id, .healthSleep, signal)) :
    callsRestart world (.ran place choice) =
      ((({ world with loop := loop } : World).resume id choice .healthSleep
        signal).loop.standsAt id).any insideRestart := by
  unfold callsRestart
  rw [step_ran entry]
  dsimp only
  rw [entry]

theorem calls_restart_elsewhere (choice : Choice) (awake : pc ≠ .healthSleep)
    (entry : world.loop.takeReady place = some (loop, id, pc, signal)) :
    callsRestart world (.ran place choice) = false := by
  unfold callsRestart
  rw [step_ran entry]
  dsimp only
  rw [entry]
  cases pc <;> first | rfl | exact absurd rfl awake

theorem no_check_elsewhere (choice : Choice) (awake : pc ≠ .healthSleep)
    (entry : world.loop.takeReady place = some (loop, id, pc, .value)) :
    checkFails world (.ran place choice) = false ∧
      checkSucceeds world (.ran place choice) = false := by
  have resumed := resumed_at_of_taken entry choice
  unfold checkFails checkSucceeds
  rw [resumed]
  cases pc <;> first | exact ⟨rfl, rfl⟩ | exact absurd rfl awake

theorem check_move (entry : world.loop.takeReady place = some (loop, id, .healthSleep, .value)) :
    CountMove world (({ world with loop := loop } : World).resume id choice .healthSleep .value)
      (.ran place choice) := by
  have resumed := resumed_at_of_taken entry choice
  have stands := Loop.stands_take_ready entry
  have restarts := calls_restart_at_sleep choice entry
  have sleeping : ((loop.suspend id .healthSleep).standsAt id).any insideRestart = false := by
    rw [Loop.stands_suspend stands]
    rfl
  have checked : ({ world with loop := loop } : World).resume id choice .healthSleep .value =
      ({ world with loop := loop } : World).checkHealth id choice.healthy := rfl
  rw [checked] at restarts ⊢
  unfold World.checkHealth at restarts ⊢
  cases healthy : choice.healthy with
  | true =>
      rw [healthy, if_pos rfl] at restarts
      rw [if_pos rfl]
      exact .succeeded (by simp [checkSucceeds, resumed, healthy])
        (by simp [checkFails, resumed, healthy]) (restarts.trans sleeping) rfl rfl
  | false =>
      have fails : checkFails world (.ran place choice) = true := by
        simp [checkFails, resumed, healthy]
      rw [healthy, if_neg Bool.false_ne_true] at restarts
      rw [if_neg Bool.false_ne_true]
      by_cases due : world.threshold ≤ world.failures + 1
      · rw [if_pos due] at restarts ⊢
        have undisturbed := begin_stop_undisturbed
          ({ world with loop := loop, failures := 0 } : World) id true .healthLoop
        obtain ⟨last, standing, inside⟩ := begin_stop_restarting
          { world with loop := loop, failures := 0 } stands
        apply CountMove.restarted fails _ undisturbed.threshold due undisturbed.failures
        rw [restarts]
        refine (congrArg (Option.any insideRestart) standing).trans ?_
        exact inside
      · rw [if_neg due] at restarts ⊢
        exact .failed fails (by simp [finishesStart, resumed])
          (by simp [checkSucceeds, resumed, healthy]) (restarts.trans sleeping) rfl (by omega) rfl

theorem start_move (entry : world.loop.takeReady place = some (loop, id, pc, .value))
    (finishes : finishesStart world (.ran place choice) = true) :
    CountMove world (({ world with loop := loop } : World).resume id choice pc .value)
      (.ran place choice) := by
  have resumed := resumed_at_of_taken entry choice
  have size : loop.tasks.length = world.loop.tasks.length := Loop.take_ready_size entry
  have awake : pc ≠ .healthSleep := by
    intro asleep
    simp [finishesStart, resumed, asleep] at finishes
  have noCheck := (no_check_elsewhere choice awake entry).1
  have noRestart := calls_restart_elsewhere choice awake entry
  unfold finishesStart at finishes
  rw [resumed] at finishes
  split at finishes
  · rename_i context caller same
    cases same
    obtain ⟨failures, threshold, launched⟩ := start_components_launch
      ((({ world with loop := loop } : World).setCore context
        { ({ world with loop := loop } : World).core context with started := true })) id caller
    exact .started (by simp [finishesStart, resumed]) noCheck noRestart threshold failures
      (launched.trans (congrArg some size))
  · rename_i same
    cases same
    rw [Bool.and_eq_true, Bool.not_eq_true'] at finishes
    have begun : ({ world with loop := loop } : World).resume id choice (.entry .start) .value =
        ({ world with loop := loop } : World).startComponents id .task := by
      change ({ world with loop := loop } : World).beginStart id .task = _
      rw [World.beginStart, if_neg, if_pos]
      · exact finishes.2
      · simp [finishes.1]
    rw [begun]
    obtain ⟨failures, threshold, launched⟩ :=
      start_components_launch ({ world with loop := loop } : World) id .task
    exact .started (by simp [finishesStart, resumed, finishes.1, finishes.2]) noCheck noRestart
      threshold failures (launched.trans (congrArg some size))
  · cases finishes

theorem woken_move (unhealthy : signal ≠ .value)
    (entry : world.loop.takeReady place = some (loop, id, pc, signal)) :
    CountMove world (({ world with loop := loop } : World).resume id choice pc signal)
      (.ran place choice) := by
  have resumed : resumedAt world (.ran place choice) = none := by
    unfold resumedAt
    dsimp only
    rw [entry]
    cases signal <;> first | rfl | exact absurd rfl unhealthy
  have aside : signal = .value → Aside ({ world with loop := loop } : World) pc :=
    fun value => absurd value unhealthy
  have undisturbed := resume_undisturbed { world with loop := loop } id choice aside
  have noRestart : callsRestart world (.ran place choice) = false := by
    by_cases asleep : pc = .healthSleep
    · subst asleep
      rw [calls_restart_at_sleep choice entry]
      have raised : ({ world with loop := loop } : World).resume id choice .healthSleep signal =
          ({ world with loop := loop } : World).raised id signal .healthLoop := by
        cases signal <;> first | rfl | exact absurd rfl unhealthy
      rw [raised]
      change ((loop.finish id _).standsAt id).any insideRestart = false
      rw [Loop.stands_finish, Loop.stands_take_ready entry]
      rfl
    · exact calls_restart_elsewhere choice asleep entry
  exact .other (by simp [finishesStart, resumed]) (by simp [checkSucceeds, resumed])
    (by simp [checkFails, resumed]) noRestart (undisturbed.after ⟨rfl, rfl, .inl rfl⟩)

theorem aside_move (awake : pc ≠ .healthSleep)
    (entry : world.loop.takeReady place = some (loop, id, pc, .value))
    (noStart : finishesStart world (.ran place choice) = false) :
    CountMove world (({ world with loop := loop } : World).resume id choice pc .value)
      (.ran place choice) := by
  have resumed := resumed_at_of_taken entry choice
  have aside : Aside ({ world with loop := loop } : World) pc := by
    refine ⟨awake, ?_, ?_⟩
    · intro context caller same
      simp [finishesStart, resumed, same] at noStart
    · intro same
      have unprepared : world.running = false → (world.core world.node).started = false := by
        simpa [finishesStart, resumed, same] using noStart
      by_cases running : world.running = true
      · exact .inl running
      · exact .inr (unprepared (by simpa using running))
  obtain ⟨noFailure, noSuccess⟩ := no_check_elsewhere choice awake entry
  exact .other noStart noSuccess noFailure (calls_restart_elsewhere choice awake entry)
    ((resume_undisturbed _ id choice fun _ => aside).after ⟨rfl, rfl, .inl rfl⟩)

end

theorem count_move {world next : World} {event : Event} (taken : world.step event = some next) :
    CountMove world next event := by
  cases event with
  | called call =>
      cases taken
      exact other_of_idle_event (by simp) ⟨rfl, rfl, .inl rfl⟩
  | added =>
      obtain ⟨_, rfl⟩ := World.added_cases taken
      exact other_of_idle_event (by simp) ⟨rfl, rfl, .inl rfl⟩
  | fired task =>
      obtain ⟨loop, _, rfl⟩ := Option.map_eq_some_iff.mp taken
      exact other_of_idle_event (by simp) ⟨rfl, rfl, .inl rfl⟩
  | ran place choice =>
      obtain ⟨loop, id, pc, signal, entry, rfl⟩ := World.ran_cases taken
      by_cases value : signal = .value
      · subst value
        by_cases asleep : pc = .healthSleep
        · subst asleep
          exact check_move entry
        · cases finishes : finishesStart world (.ran place choice) with
          | true => exact start_move entry finishes
          | false => exact aside_move asleep entry finishes
      · exact woken_move value entry

structure Counted (threshold : Nat) (world : World) (count : Nat) : Prop where
  failures : world.failures = count
  configured : world.threshold = threshold
  below : count < threshold

theorem counted_step {threshold count : Nat} {world next : World} {event : Event}
    (counted : Counted threshold world count) (clean : StartsClean world event)
    (taken : world.step event = some next) :
    Counted threshold next (seriesAfter world event count) ∧
      (callsRestart world event = true ↔
        checkFails world event = true ∧ count + 1 = threshold) := by
  obtain ⟨failures, same, below⟩ := counted
  have positive : 0 < threshold := Nat.lt_of_le_of_lt (Nat.zero_le count) below
  cases count_move taken with
  | started finishes noCheck noRestart threshold kept _ =>
      have reset : seriesAfter world event count = 0 := by simp [seriesAfter, finishes]
      rw [reset, noRestart, noCheck]
      exact ⟨⟨kept.trans (clean finishes), threshold.trans same, positive⟩, by simp⟩
  | succeeded succeeds noFailure noRestart threshold kept =>
      have reset : seriesAfter world event count = 0 := by simp [seriesAfter, succeeds]
      rw [reset, noRestart, noFailure]
      exact ⟨⟨kept, threshold.trans same, positive⟩, by simp⟩
  | failed fails noStart noSuccess noRestart threshold room kept =>
      have longer : seriesAfter world event count = count + 1 := by
        simp [seriesAfter, noStart, noSuccess, noRestart, fails]
      rw [longer, noRestart, fails]
      refine ⟨⟨by omega, threshold.trans same, by omega⟩, ?_⟩
      apply iff_of_false Bool.false_ne_true
      omega
  | restarted fails restarts threshold due kept =>
      have reset : seriesAfter world event count = 0 := by simp [seriesAfter, restarts]
      rw [reset, restarts, fails]
      refine ⟨⟨kept, threshold.trans same, positive⟩, ?_⟩
      apply iff_of_true rfl
      exact ⟨rfl, by omega⟩
  | other noStart noSuccess noFailure noRestart undisturbed =>
      have still : seriesAfter world event count = count := by
        simp [seriesAfter, noStart, noSuccess, noRestart, noFailure]
      rw [still, noRestart, noFailure]
      exact ⟨⟨undisturbed.failures.trans failures, undisturbed.threshold.trans same, below⟩, by simp⟩

theorem counted_run {threshold count : Nat} {world final : World} {events : List Event}
    (counted : Counted threshold world count)
    (clean : Guarded World.step StartsClean world events)
    (reached : run World.step world events = some final) :
    Counted threshold final (series world count events) := by
  induction events generalizing world count with
  | nil =>
      cases reached
      exact counted
  | cons event rest induction =>
      obtain ⟨next, taken, later⟩ := run_cons_some World.step reached
      obtain ⟨here, cleanLater⟩ := clean next taken
      have counts := (counted_step counted here taken).1
      rw [series, taken]
      exact induction counts cleanLater later

/-- The health loop restarts the gateway at the threshold of consecutive failed
checks, in every run whose starts find the counter reset. -/
theorem restarts_on_time_of_clean_starts (threshold components : Nat) (positive : 0 < threshold)
    (events : List Event)
    (clean : Guarded World.step StartsClean (World.fresh threshold components) events) :
    RestartsOnTime (World.fresh threshold components) events := by
  intro before event after split world next reached taken
  rw [split, guarded_append] at clean
  obtain ⟨cleanBefore, cleanAfter⟩ := clean
  have fresh : Counted threshold (World.fresh threshold components) 0 := ⟨rfl, rfl, positive⟩
  have counted := counted_run fresh cleanBefore reached
  obtain ⟨here, _⟩ := cleanAfter world reached next taken
  exact (counted_step counted here taken).2

def failingStep : Event := .ran 0 ⟨false, none⟩

/-- Two failed checks in a row, and the `restart` that they lead to. -/
def twoFailures : List Event :=
  [.called .start, healthyStep, healthyStep, healthyStep, healthyStep, .fired 2, failingStep,
    .fired 2, failingStep, healthyStep, healthyStep, healthyStep, healthyStep, healthyStep,
    healthyStep]

theorem two_failures_restart_on_time : RestartsOnTime (World.fresh 2 1) twoFailures :=
  restarts_on_time_of_clean_starts 2 1 (by decide) twoFailures (by decide)

/-- The gateway is stopped after a failed check and started again. -/
def stopAfterFailure : List Event :=
  [.called .start, healthyStep, healthyStep, healthyStep, healthyStep, .fired 2, failingStep,
    .called .stop, healthyStep, healthyStep, healthyStep, healthyStep, healthyStep,
    .called .start, healthyStep, healthyStep, healthyStep, healthyStep, .fired 6]

/-- The first failed check of the new series restarts the gateway. -/
theorem first_failure_after_start_restarts :
    Guarded World.step OneAtATime (World.fresh 2 1) (stopAfterFailure ++ [failingStep]) ∧
      ¬ RestartsOnTime (World.fresh 2 1) (stopAfterFailure ++ [failingStep]) := by
  refine ⟨by decide, ?_⟩
  intro onTime
  have seen : (run World.step (World.fresh 2 1) stopAfterFailure).map (fun world =>
      (callsRestart world failingStep, (world.step failingStep).isSome)) =
        some (true, true) := by decide
  have short : series (World.fresh 2 1) 0 stopAfterFailure = 0 := by decide
  obtain ⟨world, reached, read⟩ := Option.map_eq_some_iff.mp seen
  obtain ⟨restarts, enabled⟩ := Prod.mk.inj read
  obtain ⟨next, taken⟩ := Option.isSome_iff_exists.mp enabled
  have counted := (onTime stopAfterFailure failingStep [] rfl world next reached taken).mp restarts
  rw [short] at counted
  exact absurd counted.2 (by decide)

end RemoteIface.Gateway.FailureCount
