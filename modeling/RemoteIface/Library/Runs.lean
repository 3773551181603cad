import Mathlib.Data.List.Basic
import Mathlib.Data.List.Induction

/-!
Runs of a system given by a partial step function. An event is enabled in a
state exactly when the step function returns a next state, so all the
nondeterminism of a system (schedules, peers, failures) sits in the events.
-/

namespace RemoteIface.Library.Runs

set_option autoImplicit false

variable {State Event : Type*} (step : State → Event → Option State)

/-- The state after a list of events, when every one of them is enabled. -/
def run : State → List Event → Option State
  | state, [] => some state
  | state, event :: rest => (step state event).bind fun next => run next rest

/-- Every step the run takes meets the condition in the state it starts from. -/
def Guarded (guard : State → Event → Prop) : State → List Event → Prop
  | _, [] => True
  | state, event :: rest =>
      ∀ next, step state event = some next →
        guard state event ∧ Guarded guard next rest

instance decidableGuarded (guard : State → Event → Prop)
    [∀ state event, Decidable (guard state event)] :
    ∀ state events, Decidable (Guarded step guard state events)
  | _, [] => .isTrue trivial
  | state, event :: rest =>
      match taken : step state event with
      | none => .isTrue fun next enabled => by simp [taken] at enabled
      | some next =>
          have := decidableGuarded guard next rest
          decidable_of_iff (guard state event ∧ Guarded step guard next rest) (by
            simp [Guarded, taken])

/-- The property holds in every state the run visits, its ends included. -/
def Always (property : State → Prop) (state : State) (events : List Event) : Prop :=
  ∀ before, before <+: events → ∀ visited, run step state before = some visited →
    property visited

@[simp] theorem run_nil (state : State) : run step state [] = some state := rfl

theorem run_cons (state : State) (event : Event) (rest : List Event) :
    run step state (event :: rest) =
      (step state event).bind fun next => run step next rest := rfl

theorem run_append (state : State) (first second : List Event) :
    run step state (first ++ second) =
      (run step state first).bind fun middle => run step middle second := by
  induction first generalizing state with
  | nil => rfl
  | cons event rest induction =>
      simp only [List.cons_append, run_cons]
      cases taken : step state event with
      | none => rfl
      | some next => simpa using induction next

theorem run_cons_some {state final : State} {event : Event} {rest : List Event}
    (reached : run step state (event :: rest) = some final) :
    ∃ next, step state event = some next ∧ run step next rest = some final := by
  simpa only [run_cons, Option.bind_eq_some_iff] using reached

/-- The induction every invariant goes through: a property that holds at the
start and that each guarded step preserves holds at the end of the run. -/
theorem run_preserves {property : State → Prop} {guard : State → Event → Prop}
    (preserved : ∀ state event next, property state → guard state event →
      step state event = some next → property next)
    {state final : State} {events : List Event}
    (start : property state) (guarded : Guarded step guard state events)
    (reached : run step state events = some final) : property final := by
  induction events generalizing state with
  | nil =>
      cases reached
      exact start
  | cons event rest induction =>
      obtain ⟨next, taken, later⟩ := run_cons_some step reached
      obtain ⟨met, guardedLater⟩ := guarded next taken
      exact induction (preserved state event next start met taken) guardedLater later

theorem run_snoc {state middle : State} {before : List Event} {event : Event}
    (reached : run step state before = some middle) :
    run step state (before ++ [event]) = step middle event := by
  rw [run_append, reached, Option.bind_some, run_cons]
  cases step middle event <;> rfl

/-- The induction over what has happened so far: a property of the events and
of the state they have led to. -/
theorem run_history {property : List Event → State → Prop} {start : State}
    (base : property [] start)
    (extended : ∀ before state event next, run step start before = some state →
      property before state → step state event = some next → property (before ++ [event]) next)
    {final : State} {events : List Event} (reached : run step start events = some final) :
    property events final := by
  have onwards : ∀ later before state, run step start before = some state →
      property before state → run step state later = some final →
      property (before ++ later) final := by
    intro later
    induction later with
    | nil =>
        intro before state _ holds finished
        cases finished
        simpa using holds
    | cons event rest induction =>
        intro before state earlier holds finished
        obtain ⟨next, taken, remaining⟩ := run_cons_some step finished
        have extendedRun := (run_snoc step earlier).trans taken
        have holdsNext := extended before state event next earlier holds taken
        simpa using induction (before ++ [event]) next extendedRun holdsNext remaining
  exact onwards events [] start rfl base reached

theorem guarded_true (state : State) (events : List Event) :
    Guarded step (fun _ _ => True) state events := by
  induction events generalizing state with
  | nil => trivial
  | cons event rest induction => exact fun next _ => ⟨trivial, induction next⟩

theorem run_invariant {property : State → Prop}
    (preserved : ∀ state event next, property state →
      step state event = some next → property next)
    {state final : State} {events : List Event}
    (start : property state) (reached : run step state events = some final) :
    property final :=
  run_preserves step (fun state event next holds _ => preserved state event next holds)
    start (guarded_true step state events) reached

theorem guarded_of_everywhere {guard : State → Event → Prop} {events : List Event}
    (all : ∀ event ∈ events, ∀ state, guard state event) (state : State) :
    Guarded step guard state events := by
  induction events generalizing state with
  | nil => trivial
  | cons event rest induction =>
      exact fun next _ => ⟨all event List.mem_cons_self state,
        induction (fun other member => all other (List.mem_cons_of_mem _ member)) next⟩

theorem guarded_of_forall {guard : Event → Prop} {events : List Event}
    (all : ∀ event ∈ events, guard event) (state : State) :
    Guarded step (fun _ event => guard event) state events :=
  guarded_of_everywhere step (fun event member _ => all event member) state

theorem forall_of_guarded {guard : Event → Prop} {state final : State} {events : List Event}
    (guarded : Guarded step (fun _ event => guard event) state events)
    (reached : run step state events = some final) : ∀ event ∈ events, guard event := by
  induction events generalizing state with
  | nil => simp
  | cons event rest induction =>
      obtain ⟨next, taken, later⟩ := run_cons_some step reached
      obtain ⟨met, guardedLater⟩ := guarded next taken
      intro other member
      rcases List.mem_cons.mp member with rfl | behind
      · exact met
      · exact induction guardedLater later other behind

theorem guarded_append {guard : State → Event → Prop} {state : State}
    {first second : List Event} :
    Guarded step guard state (first ++ second) ↔
      Guarded step guard state first ∧
        ∀ middle, run step state first = some middle → Guarded step guard middle second := by
  induction first generalizing state with
  | nil => simp [Guarded]
  | cons event rest induction =>
      simp only [List.cons_append, Guarded, induction, run_cons, Option.bind_eq_some_iff]
      constructor
      · intro guarded
        refine ⟨fun next taken => ⟨(guarded next taken).1, (guarded next taken).2.1⟩, ?_⟩
        rintro middle ⟨next, taken, later⟩
        exact (guarded next taken).2.2 middle later
      · rintro ⟨earlier, later⟩ next taken
        exact ⟨(earlier next taken).1, (earlier next taken).2,
          fun middle reached => later middle ⟨next, taken, reached⟩⟩

theorem always_nil {property : State → Prop} {state : State} :
    Always step property state ([] : List Event) ↔ property state := by
  simp [Always]

theorem always_cons {property : State → Prop} {state : State} {event : Event}
    {rest : List Event} :
    Always step property state (event :: rest) ↔
      property state ∧
        ∀ next, step state event = some next → Always step property next rest := by
  constructor
  · intro always
    refine ⟨always [] List.nil_prefix state rfl, ?_⟩
    intro next taken before shorter visited reached
    refine always (event :: before) (List.cons_prefix_cons.mpr ⟨rfl, shorter⟩) visited ?_
    rw [run_cons, taken]
    exact reached
  · rintro ⟨here, later⟩ before shorter visited reached
    cases before with
    | nil =>
        cases reached
        exact here
    | cons first tail =>
        obtain ⟨rfl, shorterTail⟩ := List.cons_prefix_cons.mp shorter
        obtain ⟨next, taken, reachedTail⟩ := run_cons_some step reached
        exact later next taken tail shorterTail visited reachedTail

/-- A property that follows from an invariant of the guarded steps holds in
every state of a guarded run. -/
theorem always_of_guarded {invariant property : State → Prop} {guard : State → Event → Prop}
    (preserved : ∀ state event next, invariant state → guard state event →
      step state event = some next → invariant next)
    (implies : ∀ state, invariant state → property state)
    {state : State} {events : List Event}
    (start : invariant state) (guarded : Guarded step guard state events) :
    Always step property state events := by
  rintro before ⟨rest, rfl⟩ visited reached
  have guardedBefore := ((guarded_append step).mp guarded).1
  exact implies visited (run_preserves step preserved start guardedBefore reached)

/-- When a step keeps a property precisely if it meets the guard, a run keeps
it in every state precisely if all its steps meet the guard. -/
theorem always_iff_guarded {invariant property : State → Prop}
    {guard : State → Event → Prop}
    (kept : ∀ state event next, invariant state → step state event = some next →
      invariant next)
    (exact_step : ∀ state event next, invariant state → property state →
      step state event = some next → (property next ↔ guard state event))
    {state : State} {events : List Event}
    (sound : invariant state) (start : property state) :
    Always step property state events ↔ Guarded step guard state events := by
  induction events generalizing state with
  | nil => simp [always_nil, Guarded, start]
  | cons event rest induction =>
      rw [always_cons]
      constructor
      · rintro ⟨_, later⟩ next taken
        have nextHolds : property next := later next taken [] List.nil_prefix next rfl
        have met := (exact_step state event next sound start taken).mp nextHolds
        have soundNext := kept state event next sound taken
        exact ⟨met, (induction soundNext nextHolds).mp (later next taken)⟩
      · intro guarded
        refine ⟨start, fun next taken => ?_⟩
        obtain ⟨met, guardedLater⟩ := guarded next taken
        have nextHolds := (exact_step state event next sound start taken).mpr met
        exact (induction (kept state event next sound taken) nextHolds).mpr guardedLater

theorem snoc_split {Item : Type*} {items before after : List Item} {last item : Item} :
    items ++ [last] = before ++ item :: after ↔
      (after = [] ∧ last = item ∧ items = before) ∨
        ∃ middle, after = middle ++ [last] ∧ items = before ++ item :: middle := by
  constructor
  · intro split
    rcases List.eq_nil_or_concat' after with rfl | ⟨middle, final, rfl⟩
    · obtain ⟨same, one⟩ := List.append_inj' split rfl
      exact .inl ⟨rfl, List.singleton_inj.mp one, same⟩
    · have regroup : items ++ [last] = (before ++ item :: middle) ++ [final] := by simp [split]
      obtain ⟨same, one⟩ := List.append_inj' regroup rfl
      exact .inr ⟨middle, by rw [List.singleton_inj.mp one], same⟩
  · rintro (⟨rfl, rfl, rfl⟩ | ⟨middle, rfl, rfl⟩)
    · rfl
    · simp

def Since (begins ends : Event → Prop) (events : List Event) : Prop :=
  ∃ before event after, events = before ++ event :: after ∧ begins event ∧
    ∀ later ∈ after, ¬ ends later

theorem not_since_nil (begins ends : Event → Prop) : ¬ Since begins ends [] := by
  rintro ⟨before, event, after, split, _⟩
  simp at split

theorem begun_of_since {begins ends : Event → Prop} {events : List Event}
    (since : Since begins ends events) : ∃ event ∈ events, begins event := by
  obtain ⟨before, event, after, rfl, begun, _⟩ := since
  exact ⟨event, by simp, begun⟩

theorem since_snoc {begins ends : Event → Prop} (events : List Event) (event : Event) :
    Since begins ends (events ++ [event]) ↔
      begins event ∨ ¬ ends event ∧ Since begins ends events := by
  constructor
  · rintro ⟨before, begun, after, split, begin, unended⟩
    rcases snoc_split.mp split with ⟨_, rfl, _⟩ | ⟨middle, rfl, earlier⟩
    · exact .inl begin
    · refine .inr ⟨unended event (by simp), before, begun, middle, earlier, begin, ?_⟩
      exact fun later member => unended later (List.mem_append_left _ member)
  · rintro (begin | ⟨unended, before, begun, after, rfl, begin, earlier⟩)
    · exact ⟨events, event, [], rfl, begin, by simp⟩
    · refine ⟨before, begun, after ++ [event], by simp, begin, ?_⟩
      intro later member
      rcases List.mem_append.mp member with old | new
      · exact earlier later old
      · rw [List.mem_singleton.mp new]
        exact unended

theorem since_disjoint {begins ends : Event → Prop} {events : List Event}
    (apart : ∀ event, begins event → ¬ ends event) (since : Since begins ends events) :
    ¬ Since ends begins events := by
  induction events using List.reverseRecOn with
  | nil => exact not_since_nil _ _
  | append_singleton events event induction =>
      rw [since_snoc] at since ⊢
      rintro (ended | ⟨unbegun, earlier⟩)
      · obtain begun | ⟨unended, _⟩ := since
        · exact apart event begun ended
        · exact unended ended
      · obtain begun | ⟨_, before⟩ := since
        · exact unbegun begun
        · exact induction before earlier

/-- An event has begun something, in the state the run was in then, that no
later one has ended. -/
def SinceIn (begins : State → Event → Prop) (ends : Event → Prop) (start : State)
    (events : List Event) : Prop :=
  ∃ before event after state, events = before ++ event :: after ∧
    run step start before = some state ∧ begins state event ∧ ∀ later ∈ after, ¬ ends later

theorem not_since_in_nil (begins : State → Event → Prop) (ends : Event → Prop) (start : State) :
    ¬ SinceIn step begins ends start [] := by
  rintro ⟨before, event, after, state, split, _⟩
  simp at split

theorem since_in_snoc {begins : State → Event → Prop} {ends : Event → Prop} {start state : State}
    {events : List Event} (reached : run step start events = some state) (event : Event) :
    SinceIn step begins ends start (events ++ [event]) ↔
      begins state event ∨ ¬ ends event ∧ SinceIn step begins ends start events := by
  constructor
  · rintro ⟨before, begun, after, earlier, split, there, begin, unended⟩
    rcases snoc_split.mp split with ⟨_, rfl, rfl⟩ | ⟨middle, rfl, same⟩
    · rw [reached, Option.some.injEq] at there
      exact .inl (there ▸ begin)
    · refine .inr ⟨unended event (by simp), before, begun, middle, earlier, same, there, begin, ?_⟩
      exact fun later member => unended later (List.mem_append_left _ member)
  · rintro (begin | ⟨unended, before, begun, after, earlier, rfl, there, begin, since⟩)
    · exact ⟨events, event, [], state, rfl, reached, begin, by simp⟩
    · refine ⟨before, begun, after ++ [event], earlier, by simp, there, begin, ?_⟩
      intro later member
      rcases List.mem_append.mp member with old | new
      · exact since later old
      · rw [List.mem_singleton.mp new]
        exact unended

/-- Every event meets the condition, given what came before it. -/
def Throughout (condition : List Event → Event → Prop) (events : List Event) : Prop :=
  ∀ before event later, events = before ++ event :: later → condition before event

theorem throughout_nil (condition : List Event → Event → Prop) : Throughout condition [] := by
  intro before event later split
  simp at split

theorem throughout_snoc {condition : List Event → Event → Prop} {events : List Event}
    {event : Event} :
    Throughout condition (events ++ [event]) ↔
      Throughout condition events ∧ condition events event := by
  constructor
  · intro throughout
    refine ⟨?_, throughout events event [] rfl⟩
    intro before other later split
    exact throughout before other (later ++ [event]) (by simp [split])
  · rintro ⟨earlier, last⟩ before other later split
    rcases snoc_split.mp split with ⟨_, rfl, rfl⟩ | ⟨middle, _, same⟩
    · exact last
    · exact earlier before other middle same

end RemoteIface.Library.Runs
