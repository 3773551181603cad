import RemoteIface.Library.Runs

/-!
One part of a system, seen by itself. Each event of the system is at most one
event of the part. When every step moves the part the way its own step function
says, a run of the system is a run of the part on what the part has seen.
-/

namespace RemoteIface.Library.Projection

set_option autoImplicit false

open RemoteIface.Library.Runs

variable {State Event Part Sight : Type*} (step : State → Event → Option State)
  (partStep : Part → Sight → Option Part) (project : State → Part)
  (see : State → Event → Option Sight)

/-- What the part has seen of a run, in order. -/
def sights : State → List Event → List Sight
  | _, [] => []
  | state, event :: rest =>
      match step state event with
      | none => []
      | some next => (see state event).toList ++ sights next rest

def partMove (part : Part) : Option Sight → Option Part
  | none => some part
  | some sight => partStep part sight

theorem sights_cons {state next : State} {event : Event} (rest : List Event)
    (taken : step state event = some next) :
    sights step see state (event :: rest) =
      (see state event).toList ++ sights step see next rest := by
  rw [sights, taken]

theorem sights_snoc {state middle next : State} {before : List Event} {event : Event}
    (reached : run step state before = some middle) (taken : step middle event = some next) :
    sights step see state (before ++ [event]) =
      sights step see state before ++ (see middle event).toList := by
  induction before generalizing state with
  | nil =>
      cases reached
      rw [List.nil_append, sights_cons step see [] taken]
      exact List.append_nil _
  | cons first rest induction =>
      obtain ⟨later, begun, onwards⟩ := run_cons_some step reached
      rw [List.cons_append, sights_cons step see _ begun, sights_cons step see _ begun,
        induction onwards, List.append_assoc]

theorem run_sight {part moved : Part} {sight : Option Sight} (rest : List Sight)
    (move : partMove partStep part sight = some moved) :
    run partStep part (sight.toList ++ rest) = run partStep moved rest := by
  cases sight with
  | none =>
      cases move
      rfl
  | some seen =>
      have taken : partStep part seen = some moved := move
      rw [Option.toList_some, List.singleton_append, run_cons, taken, Option.bind_some]

theorem run_projects {invariant : State → Prop}
    (kept : ∀ state event next, invariant state → step state event = some next →
      invariant next)
    (moved : ∀ state event next, invariant state → step state event = some next →
      partMove partStep (project state) (see state event) = some (project next))
    {state final : State} {events : List Event} (start : invariant state)
    (reached : run step state events = some final) :
    run partStep (project state) (sights step see state events) = some (project final) := by
  induction events generalizing state with
  | nil =>
      cases reached
      rfl
  | cons event rest induction =>
      obtain ⟨next, taken, later⟩ := run_cons_some step reached
      have onwards := induction (kept state event next start taken) later
      rw [sights_cons step see rest taken, run_sight partStep _ (moved state event next start taken)]
      exact onwards

theorem sights_logged {invariant : State → Prop} {record : State → List Sight}
    (kept : ∀ state event next, invariant state → step state event = some next →
      invariant next)
    (logged : ∀ state event next, invariant state → step state event = some next →
      record next = record state ++ (see state event).toList)
    {state final : State} {events : List Event} (start : invariant state)
    (reached : run step state events = some final) :
    record final = record state ++ sights step see state events := by
  induction events generalizing state with
  | nil =>
      cases reached
      exact (List.append_nil _).symm
  | cons event rest induction =>
      obtain ⟨next, taken, later⟩ := run_cons_some step reached
      rw [induction (kept state event next start taken) later,
        logged state event next start taken, sights_cons step see rest taken, List.append_assoc]

theorem sights_sublist {less more : State → Event → Option Sight}
    (fewer : ∀ state event, (less state event).toList.Sublist (more state event).toList)
    (state : State) (events : List Event) :
    (sights step less state events).Sublist (sights step more state events) := by
  induction events generalizing state with
  | nil => exact List.Sublist.refl []
  | cons event rest induction =>
      unfold sights
      cases step state event with
      | none => exact List.Sublist.refl []
      | some next => exact (fewer state event).append (induction next)

theorem sights_counted {count : State → Nat}
    (counted : ∀ state event next, step state event = some next →
      count next = count state + (see state event).toList.length)
    {state final : State} {events : List Event} (reached : run step state events = some final) :
    count final = count state + (sights step see state events).length := by
  induction events generalizing state with
  | nil =>
      cases reached
      rfl
  | cons event rest induction =>
      obtain ⟨next, taken, later⟩ := run_cons_some step reached
      rw [induction later, counted state event next taken, sights_cons step see rest taken,
        List.length_append, Nat.add_assoc]

theorem sights_shared {One Two : Type*} (one : State → Event → Option One)
    (two : State → Event → Option Two)
    (shared : ∀ state event, (see state event).toList.length =
      (one state event).toList.length + (two state event).toList.length)
    (state : State) (events : List Event) :
    (sights step see state events).length =
      (sights step one state events).length + (sights step two state events).length := by
  induction events generalizing state with
  | nil => rfl
  | cons event rest induction =>
      unfold sights
      cases step state event with
      | none => rfl
      | some next =>
          have here := shared state event
          have onwards := induction next
          simp only [List.length_append]
          omega

end RemoteIface.Library.Projection
