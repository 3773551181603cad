import RemoteIface.Library.Awaits
import RemoteIface.Gateway.Lifecycle

/-!
The `NodeContext`s of a gateway over any run. They are numbered by the restarts
before them, so the current one is the last, and a gateway that runs has
started its current one: `_loop` is set there. Nothing is assumed about the
calls; they may overlap in any way.
-/

namespace RemoteIface.Gateway.Contexts

set_option autoImplicit false

open RemoteIface.Library.EventLoop
open RemoteIface.Gateway.Lifecycle

/-- A step keeps the contexts and which of them is current, or a restart adds
one and makes it the current one. -/
inductive Grows (world next : World) : Prop where
  | kept (node : next.node = world.node)
      (length : next.contexts.length = world.contexts.length)
  | rebuilt (node : next.node = world.contexts.length)
      (length : next.contexts.length = world.contexts.length + 1)

structure Untouched (world : World) : Prop where
  running : world.running = false
  stopped : ∀ core ∈ world.contexts, core.started = false
  awaits : world.loop.Everywhere fun pc => ∀ context caller, pc ≠ .nodeStart context caller

def CurrentStarted (world : World) : Prop := world.node ∈ world.launched ∨ Untouched world

structure Launched (world : World) : Prop where
  last : world.contexts.length = world.node + 1
  current : CurrentStarted world

theorem Launched.of_running {world : World} (launched : Launched world)
    (running : world.running = true) : world.node ∈ world.launched := by
  rcases launched.current with current | untouched
  · exact current
  · simp [untouched.running] at running

theorem launched_fresh (threshold components : Nat) :
    Launched (World.fresh threshold components) where
  last := rfl
  current := by
    refine .inr ⟨rfl, ?_, Loop.everywhere_empty⟩
    intro core member
    rw [List.mem_singleton.mp member]

theorem Grows.refl (world : World) : Grows world world := .kept rfl rfl

def SameContexts (world next : World) : Prop :=
  next.node = world.node ∧ next.contexts.length = world.contexts.length

theorem Grows.after {world middle next : World} (grows : Grows middle next)
    (same : SameContexts world middle) : Grows world next := by
  cases grows with
  | kept node length => exact .kept (node.trans same.1) (length.trans same.2)
  | rebuilt node length => exact .rebuilt (node.trans same.2) (length.trans (by rw [same.2]))

theorem returned_same (world : World) (id : TaskId) (caller : Caller) :
    SameContexts world (world.returned id caller) := by
  cases caller <;> exact ⟨rfl, rfl⟩

theorem raised_same (world : World) (id : TaskId) (signal : Signal) (caller : Caller) :
    SameContexts world (world.raised id signal caller) := by
  cases caller <;> exact ⟨rfl, rfl⟩

theorem start_components_same (world : World) (id : TaskId) (caller : Caller) :
    SameContexts world (world.startComponents id caller) := by
  cases caller <;> exact ⟨rfl, rfl⟩

theorem begin_start_same (world : World) (id : TaskId) (caller : Caller) :
    SameContexts world (world.beginStart id caller) := by
  unfold World.beginStart
  split
  · exact returned_same world id caller
  · split
    · exact start_components_same world id caller
    · exact ⟨rfl, by simp [World.setCore]⟩

theorem node_started_same (world : World) (id : TaskId) (context : ContextId) (caller : Caller) :
    SameContexts world (world.nodeStarted id context caller) := by
  obtain ⟨node, length⟩ := start_components_same
    (world.setCore context { world.core context with started := true }) id caller
  exact ⟨node, length.trans (by simp [World.setCore])⟩

theorem stopped_grows (world : World) (id : TaskId) (restart : Bool) (caller : Caller) :
    Grows world (world.stopped id restart caller) := by
  unfold World.stopped
  split
  · obtain ⟨node, length⟩ := begin_start_same
      { world with
        node := world.contexts.length
        contexts := world.contexts ++ [⟨false, none⟩] } id caller
    exact .rebuilt node (length.trans (by simp))
  · exact (Grows.refl _).after (returned_same world id caller)

theorem node_stopped_grows (world : World) (id : TaskId) (context : ContextId) (restart : Bool)
    (caller : Caller) : Grows world (world.nodeStopped id context restart caller) := by
  have same : SameContexts world { world.setCore context ⟨false, none⟩ with running := false } :=
    ⟨rfl, by simp [World.setCore]⟩
  exact (stopped_grows _ id restart caller).after same

theorem stop_components_grows (world : World) (id : TaskId) (restart : Bool) (caller : Caller) :
    Grows world (world.stopComponents id restart caller) := by
  unfold World.stopComponents
  dsimp only
  split
  · split
    · exact (node_stopped_grows _ id _ restart caller).after ⟨rfl, rfl⟩
    · split
      · exact .kept rfl rfl
      · exact (node_stopped_grows _ id _ restart caller).after ⟨rfl, rfl⟩
  · exact (stopped_grows _ id restart caller).after ⟨rfl, rfl⟩

theorem begin_stop_grows (world : World) (id : TaskId) (restart : Bool) (caller : Caller) :
    Grows world (world.beginStop id restart caller) := by
  unfold World.beginStop
  split
  · split
    · exact stop_components_grows world id restart caller
    · split
      · exact .kept rfl rfl
      · exact stop_components_grows world id restart caller
  · exact stopped_grows world id restart caller

theorem check_health_grows (world : World) (id : TaskId) (healthy : Bool) :
    Grows world (world.checkHealth id healthy) := by
  unfold World.checkHealth
  split
  · exact .kept rfl rfl
  · split
    · exact (begin_stop_grows _ id true .healthLoop).after ⟨rfl, rfl⟩
    · exact .kept rfl rfl

theorem resume_grows (world : World) (id : TaskId) (choice : Choice) (pc : Pc) (signal : Signal) :
    Grows world (world.resume id choice pc signal) := by
  unfold World.resume
  split
  case h_1 call =>
    cases call with
    | start => exact (Grows.refl _).after (begin_start_same world id .task)
    | stop => exact begin_stop_grows world id false .task
    | restart => exact begin_stop_grows world id true .task
  case h_3 context caller => exact (Grows.refl _).after (node_started_same world id context caller)
  case h_4 caller _ => exact (Grows.refl _).after (raised_same world id signal caller)
  case h_5 caller => exact (Grows.refl _).after (raised_same world id .raised caller)
  case h_6 restart caller _ => exact stop_components_grows world id restart caller
  case h_7 restart caller => exact (stopped_grows _ id restart caller).after ⟨rfl, rfl⟩
  case h_8 context restart caller _ => exact node_stopped_grows world id context restart caller
  case h_11 => exact check_health_grows world id choice.healthy
  case h_12 => exact (Grows.refl _).after (raised_same world id signal .healthLoop)
  case h_16 context _ =>
    unfold World.runStep
    split <;> exact .kept rfl rfl
  case h_17 context =>
    unfold World.runStep
    split <;> exact .kept rfl rfl
  case h_18 pending =>
    unfold World.stopAfter
    split
    · exact begin_stop_grows world id false .task
    · split
      · exact .kept rfl rfl
      · exact begin_stop_grows world id false .task
  case h_21 => exact begin_stop_grows world id false .task
  all_goals exact .kept rfl rfl

theorem grows_step {world next : World} {event : Event} (taken : world.step event = some next) :
    Grows world next := by
  cases event with
  | called call =>
      cases taken
      exact .kept rfl rfl
  | added =>
      obtain ⟨_, rfl⟩ := World.added_cases taken
      exact .kept rfl rfl
  | fired task =>
      obtain ⟨loop, _, rfl⟩ := Option.map_eq_some_iff.mp taken
      exact .kept rfl rfl
  | ran place choice =>
      obtain ⟨loop, id, pc, signal, _, rfl⟩ := World.ran_cases taken
      exact (resume_grows _ id choice pc signal).after ⟨rfl, rfl⟩

theorem Grows.last {world next : World} (grows : Grows world next)
    (last : world.contexts.length = world.node + 1) : next.contexts.length = next.node + 1 := by
  cases grows with
  | kept node length => rw [node, length, last]
  | rebuilt node length => rw [node, length]

theorem core_started_of_mem {world : World} {context : ContextId}
    (started : (world.core context).started = true) :
    ∃ core ∈ world.contexts, core.started = true := by
  unfold World.core at started
  cases stored : world.contexts[context]? with
  | none => simp [stored] at started
  | some core => exact ⟨core, List.mem_of_getElem? stored, by simpa [stored] using started⟩

theorem Untouched.core {world : World} (untouched : Untouched world) (context : ContextId) :
    (world.core context).started = false := by
  by_contra started
  obtain ⟨core, member, isStarted⟩ := core_started_of_mem (by simpa using started)
  rw [untouched.stopped core member] at isStarted
  cases isStarted

theorem CurrentStarted.onLoop {world : World} {f : Loop Pc → Loop Pc}
    (current : CurrentStarted world)
    (keeps : ∀ stands : Pc → Prop, (∀ pc, (∀ context caller, pc ≠ .nodeStart context caller) →
      stands pc) → world.loop.Everywhere stands → (f world.loop).Everywhere stands) :
    CurrentStarted (world.onLoop f) := by
  refine current.imp id fun untouched => ⟨untouched.running, untouched.stopped, ?_⟩
  exact keeps _ (fun _ other => other) untouched.awaits

theorem CurrentStarted.returned {world : World} (current : CurrentStarted world) (id : TaskId)
    (caller : Caller) : CurrentStarted (world.returned id caller) := by
  cases caller with
  | task => exact current.onLoop fun _ _ all => Loop.everywhere_finish all id _
  | healthLoop =>
      exact current.onLoop fun _ others all => Loop.everywhere_suspend all id (others _ (by simp))

theorem CurrentStarted.raised {world : World} (current : CurrentStarted world) (id : TaskId)
    (signal : Signal) (caller : Caller) : CurrentStarted (world.raised id signal caller) := by
  cases caller with
  | task => exact current.onLoop fun _ _ all => Loop.everywhere_finish all id _
  | healthLoop => exact current.onLoop fun _ _ all => Loop.everywhere_finish all id _

theorem start_components_current {world : World} (launched : world.node ∈ world.launched)
    (id : TaskId) (caller : Caller) : CurrentStarted (world.startComponents id caller) := by
  have started : CurrentStarted { world with
      calls := world.calls ++
        (List.range world.components).map fun component => (component, Act.start)
      healthTask := some world.loop.tasks.length
      running := true
      loop := world.loop.create .healthEntry } := .inl launched
  exact started.returned id caller

theorem begin_start_current {world : World}
    (current : world.node ∈ world.launched ∨
      world.running = false ∧ (world.core world.node).started = false)
    (id : TaskId) (caller : Caller) : CurrentStarted (world.beginStart id caller) := by
  unfold World.beginStart
  split
  · rename_i running
    rcases current with launched | ⟨idle, _⟩
    · exact CurrentStarted.returned (.inl launched) id caller
    · simp [running] at idle
  · split
    · rename_i started
      rcases current with launched | ⟨_, stopped⟩
      · exact start_components_current launched id caller
      · simp [started] at stopped
    · exact .inl (by simp [World.setCore])

theorem CurrentStarted.beginStart {world : World} (current : CurrentStarted world) (id : TaskId)
    (caller : Caller) : CurrentStarted (world.beginStart id caller) := by
  refine begin_start_current (current.imp_right fun untouched => ?_) id caller
  exact ⟨untouched.running, untouched.core _⟩

theorem CurrentStarted.stopped {world : World} (current : CurrentStarted world)
    (idle : world.running = false) (id : TaskId) (restart : Bool) (caller : Caller) :
    CurrentStarted (world.stopped id restart caller) := by
  unfold World.stopped
  split
  · have fresh : (World.core { world with
        node := world.contexts.length
        contexts := world.contexts ++ [⟨false, none⟩] } world.contexts.length).started = false := by
      simp [World.core]
    refine begin_start_current (.inr ⟨?_, fresh⟩) id caller
    exact idle
  · exact current.returned id caller

theorem CurrentStarted.nodeStopped {world : World} (current : CurrentStarted world) (id : TaskId)
    (context : ContextId) (restart : Bool) (caller : Caller) :
    CurrentStarted (world.nodeStopped id context restart caller) := by
  have quiet : CurrentStarted { world.setCore context ⟨false, none⟩ with running := false } := by
    refine current.imp (fun launched => launched) fun untouched => ⟨rfl, ?_, untouched.awaits⟩
    intro core member
    rcases List.mem_or_eq_of_mem_set member with old | rfl
    · exact untouched.stopped core old
    · rfl
  exact quiet.stopped rfl id restart caller

theorem CurrentStarted.stopComponents {world : World} (current : CurrentStarted world)
    (id : TaskId) (restart : Bool) (caller : Caller) :
    CurrentStarted (world.stopComponents id restart caller) := by
  have quiet : CurrentStarted { world with
      healthTask := none
      calls := world.calls ++
        (List.range world.components).reverse.map fun component => (component, Act.stop) } :=
    current.imp (fun launched => launched)
      fun untouched => ⟨untouched.running, untouched.stopped, untouched.awaits⟩
  unfold World.stopComponents
  dsimp only
  split
  · split
    · exact quiet.nodeStopped id _ restart caller
    · split
      · exact quiet.onLoop fun _ others all =>
          Loop.everywhere_await (Loop.everywhere_cancel all _) id (others _ (by simp)) _
      · exact quiet.nodeStopped id _ restart caller
  · have ended : CurrentStarted { world with
        healthTask := none
        calls := world.calls ++
          (List.range world.components).reverse.map fun component => (component, Act.stop)
        running := false } :=
      quiet.imp (fun launched => launched)
        fun untouched => ⟨rfl, untouched.stopped, untouched.awaits⟩
    exact ended.stopped rfl id restart caller

theorem CurrentStarted.beginStop {world : World} (current : CurrentStarted world) (id : TaskId)
    (restart : Bool) (caller : Caller) : CurrentStarted (world.beginStop id restart caller) := by
  unfold World.beginStop
  split
  · split
    · exact current.stopComponents id restart caller
    · split
      · exact current.onLoop fun _ others all =>
          Loop.everywhere_await (Loop.everywhere_cancel all _) id (others _ (by simp)) _
      · exact current.stopComponents id restart caller
  · rename_i idle
    exact current.stopped (by simpa using idle) id restart caller

theorem CurrentStarted.checkHealth {world : World} (current : CurrentStarted world) (id : TaskId)
    (healthy : Bool) : CurrentStarted (world.checkHealth id healthy) := by
  have counted : ∀ failures, CurrentStarted { world with failures := failures } := fun _ =>
    current.imp (fun launched => launched)
      fun untouched => ⟨untouched.running, untouched.stopped, untouched.awaits⟩
  unfold World.checkHealth
  split
  · exact (counted 0).onLoop fun _ others all =>
      Loop.everywhere_suspend all id (others _ (by simp))
  · split
    · exact (counted 0).beginStop id true .healthLoop
    · exact (counted _).onLoop fun _ others all =>
        Loop.everywhere_suspend all id (others _ (by simp))

theorem CurrentStarted.runStep {world : World} (current : CurrentStarted world) (id : TaskId)
    (context : ContextId) (ends : Option RunEnd) :
    CurrentStarted (world.runStep id context ends) := by
  unfold World.runStep
  split
  · exact current.onLoop fun _ others all =>
      Loop.everywhere_suspend all id (others _ (by simp))
  · exact current.onLoop fun _ _ all => Loop.everywhere_finish all id _

theorem CurrentStarted.stopAfter {world : World} (current : CurrentStarted world) (id : TaskId)
    (pending : Option TaskId) : CurrentStarted (world.stopAfter id pending) := by
  unfold World.stopAfter
  split
  · exact current.beginStop id false .task
  · split
    · exact current.onLoop fun _ others all =>
        Loop.everywhere_await all id (others _ (by simp)) _
    · exact current.beginStop id false .task

theorem CurrentStarted.resume {world : World} {pc : Pc} (current : CurrentStarted world)
    (stood : world.node ∈ world.launched ∨ ∀ context caller, pc ≠ .nodeStart context caller)
    (id : TaskId) (choice : Choice) (signal : Signal) :
    CurrentStarted (world.resume id choice pc signal) := by
  unfold World.resume
  split
  case h_1 call =>
    cases call with
    | start => exact current.beginStart id .task
    | stop => exact current.beginStop id false .task
    | restart => exact current.beginStop id true .task
  case h_3 context caller =>
    rcases stood with launched | elsewhere
    · have moved : (world.setCore context { world.core context with started := true }).node ∈
          (world.setCore context { world.core context with started := true }).launched := launched
      exact start_components_current moved id caller
    · exact absurd rfl (elsewhere context caller)
  case h_4 caller _ => exact current.raised id signal caller
  case h_5 caller => exact current.raised id .raised caller
  case h_6 restart caller _ => exact current.stopComponents id restart caller
  case h_7 restart caller =>
    have ended : CurrentStarted { world with running := false } :=
      current.imp (fun launched => launched)
        fun untouched => ⟨rfl, untouched.stopped, untouched.awaits⟩
    exact ended.stopped rfl id restart caller
  case h_8 context restart caller _ => exact current.nodeStopped id context restart caller
  case h_9 =>
    exact current.onLoop fun _ others all =>
      Loop.everywhere_suspend all id (others _ (by simp))
  case h_11 => exact current.checkHealth id choice.healthy
  case h_12 => exact current.raised id signal .healthLoop
  case h_13 =>
    exact current.onLoop fun _ others all =>
      Loop.everywhere_suspend all id (others _ (by simp))
  case h_15 =>
    exact current.onLoop fun _ others all =>
      Loop.everywhere_suspend all id (others _ (by simp))
  case h_16 context _ => exact current.runStep id context choice.runEnds
  case h_17 context => exact current.runStep id context choice.runEnds
  case h_18 pending => exact current.stopAfter id pending
  case h_21 => exact current.beginStop id false .task
  all_goals exact current.onLoop fun _ _ all => Loop.everywhere_finish all id _

theorem launched_step {world next : World} {event : Event} (launched : Launched world)
    (taken : world.step event = some next) : Launched next where
  last := (grows_step taken).last launched.last
  current := by
    have current := launched.current
    cases event with
    | called call =>
        cases taken
        exact current.onLoop fun _ others all => Loop.everywhere_create all (others _ (by simp))
    | added =>
        obtain ⟨_, rfl⟩ := World.added_cases taken
        exact current.imp (fun here => here)
          fun untouched => ⟨untouched.running, untouched.stopped, untouched.awaits⟩
    | fired task =>
        obtain ⟨loop, fired, rfl⟩ := Option.map_eq_some_iff.mp taken
        refine current.imp id fun untouched => ⟨untouched.running, untouched.stopped, ?_⟩
        exact Loop.everywhere_fire untouched.awaits fired
    | ran place choice =>
        obtain ⟨loop, id, pc, signal, took, rfl⟩ := World.ran_cases taken
        have moved : CurrentStarted { world with loop := loop } := by
          refine current.imp (fun here => here) fun untouched =>
            ⟨untouched.running, untouched.stopped, ?_⟩
          exact (Loop.everywhere_take untouched.awaits took).2
        refine moved.resume ?_ id choice signal
        exact current.imp (fun here => here)
          fun untouched => (Loop.everywhere_take untouched.awaits took).1

end RemoteIface.Gateway.Contexts
