import RemoteIface.Library.Runs

/-!
Runs that come to an end. A measure that no step raises and that the steps of
one kind lower bounds how many of those a run can take. When every state short
of a goal has a step that lowers the measure, such steps lead to the goal.
-/

namespace RemoteIface.Library.Progress

set_option autoImplicit false

open RemoteIface.Library.Runs

variable {State Event : Type*} (step : State → Event → Option State)

/-- A run of steps that do not raise the measure takes no more of those that
lower it than the measure says. -/
theorem lowering_steps_bounded {invariant : State → Prop} {guard : State → Event → Prop}
    {lowering : Event → Bool} {measure : State → Nat}
    (kept : ∀ state event next, invariant state → guard state event →
      step state event = some next → invariant next)
    (never_raised : ∀ state event next, invariant state → guard state event →
      step state event = some next → measure next ≤ measure state)
    (lowered : ∀ state event next, invariant state → guard state event →
      lowering event = true → step state event = some next → measure next < measure state)
    {state final : State} {events : List Event} (start : invariant state)
    (guarded : Guarded step guard state events)
    (reached : run step state events = some final) :
    events.countP lowering + measure final ≤ measure state := by
  induction events generalizing state with
  | nil =>
      cases reached
      simp
  | cons event rest induction =>
      obtain ⟨next, taken, later⟩ := run_cons_some step reached
      obtain ⟨met, guardedLater⟩ := guarded next taken
      have onwards := induction (kept state event next start met taken) guardedLater later
      rw [List.countP_cons]
      by_cases lowers : lowering event = true
      · have less := lowered state event next start met lowers taken
        rw [if_pos lowers]
        omega
      · have notMore := never_raised state event next start met taken
        rw [if_neg lowers]
        omega

theorem count_run {counts : Event → Bool} {count : State → Nat}
    (counted : ∀ state event next, step state event = some next →
      count next = count state + (counts event).toNat)
    {state final : State} {events : List Event} (reached : run step state events = some final) :
    count final = count state + events.countP counts := by
  induction events generalizing state with
  | nil =>
      cases reached
      simp
  | cons event rest induction =>
      obtain ⟨next, taken, later⟩ := run_cons_some step reached
      rw [induction later, counted state event next taken, List.countP_cons]
      rw [Nat.add_assoc, Nat.add_comm (counts event).toNat]
      cases counts event
      · rfl
      · rfl

/-- Steps that lower the measure lead to the goal, in no more of them than the
measure says. Each of them is allowed where it is taken. -/
theorem goal_reached {invariant goal : State → Prop} {allowed : State → Event → Prop}
    {measure : State → Nat}
    (onwards : ∀ state, invariant state → ¬ goal state →
      ∃ event next, allowed state event ∧ step state event = some next ∧ invariant next ∧
        measure next < measure state)
    {state : State} (start : invariant state) :
    ∃ events final, Guarded step allowed state events ∧ run step state events = some final ∧
      invariant final ∧ goal final ∧ events.length ≤ measure state := by
  induction bound : measure state using Nat.strongRecOn generalizing state with
  | ind size induction =>
      by_cases there : goal state
      · exact ⟨[], state, trivial, rfl, start, there, Nat.zero_le size⟩
      · obtain ⟨event, next, fine, taken, sound, less⟩ := onwards state start there
        obtain ⟨events, final, guarded, reached, last, arrived, short⟩ :=
          induction (measure next) (bound ▸ less) sound rfl
        refine ⟨event :: events, final, ?_, ?_, last, arrived, ?_⟩
        · intro other takenToo
          obtain rfl : next = other := Option.some.inj (taken.symm.trans takenToo)
          exact ⟨fine, guarded⟩
        · rw [run_cons, taken]
          exact reached
        · rw [List.length_cons, ← bound]
          omega

end RemoteIface.Library.Progress
