import RemoteIface.Gateway.Lifecycle

/-!
The calls a gateway makes on its components. `start` calls them all in
registration order and `stop` in reverse; what the lifecycle has to keep is
that the calls on each component alternate.
-/

namespace RemoteIface.Gateway.Components

set_option autoImplicit false

open RemoteIface.Gateway.Lifecycle

def opposite : Act → Act
  | .start => .stop
  | .stop => .start

def dueAfter : Act → List Act → Option Act
  | due, [] => some due
  | due, act :: rest => if act = due then dueAfter (opposite due) rest else none

def callsOn (component : ComponentId) (calls : List (ComponentId × Act)) : List Act :=
  (calls.filter fun call => call.1 = component).map Prod.snd

def Alternates (component : ComponentId) (calls : List (ComponentId × Act)) : Prop :=
  (dueAfter .start (callsOn component calls)).isSome = true

instance (component : ComponentId) (calls : List (ComponentId × Act)) :
    Decidable (Alternates component calls) :=
  inferInstanceAs (Decidable (_ = true))

/-- Exactly the components below `count` are started when `on` holds, and none
otherwise; and all calls so far alternate. -/
def Logged (calls : List (ComponentId × Act)) (count : Nat) (on : Bool) : Prop :=
  ∀ component, dueAfter .start (callsOn component calls) =
    some (if on = true ∧ component < count then .stop else .start)

theorem due_after_append (due : Act) (first second : List Act) :
    dueAfter due (first ++ second) =
      (dueAfter due first).bind fun next => dueAfter next second := by
  induction first generalizing due with
  | nil => rfl
  | cons act rest induction =>
      simp only [List.cons_append, dueAfter]
      split
      · exact induction (opposite due)
      · rfl

theorem calls_on_append (component : ComponentId) (first second : List (ComponentId × Act)) :
    callsOn component (first ++ second) = callsOn component first ++ callsOn component second := by
  simp [callsOn]

theorem calls_on_pass (component count : Nat) (act : Act) :
    callsOn component ((List.range count).map fun index => (index, act)) =
      if component < count then [act] else [] := by
  induction count with
  | zero => rfl
  | succ count induction =>
      rw [List.range_succ, List.map_append, calls_on_append, induction]
      rcases Nat.lt_trichotomy component count with below | rfl | above
      · have notLast : count ≠ component := Nat.ne_of_gt below
        simp [callsOn, below, Nat.lt_succ_of_lt below, notLast]
      · simp [callsOn]
      · have notBelow : ¬ component < count := Nat.lt_asymm above
        have notLast : count ≠ component := Nat.ne_of_lt above
        have notWithin : ¬ component < count + 1 := by omega
        simp [callsOn, notBelow, notLast, notWithin]

theorem calls_on_reverse_pass (component count : Nat) (act : Act) :
    callsOn component ((List.range count).reverse.map fun index => (index, act)) =
      if component < count then [act] else [] := by
  have forward := calls_on_pass component count act
  unfold callsOn at forward ⊢
  rw [List.map_reverse, List.filter_reverse, List.map_reverse, forward]
  split <;> rfl

theorem logged_fresh (count : Nat) : Logged [] count false := by
  intro component
  simp [callsOn, dueAfter]

theorem Logged.alternates {calls : List (ComponentId × Act)} {count : Nat} {on : Bool}
    (logged : Logged calls count on) (component : ComponentId) : Alternates component calls := by
  rw [Alternates, logged component]
  rfl

theorem Logged.startPass {calls : List (ComponentId × Act)} {count : Nat}
    (logged : Logged calls count false) :
    Logged (calls ++ (List.range count).map fun component => (component, Act.start)) count true := by
  intro component
  rw [calls_on_append, due_after_append, logged component, calls_on_pass]
  by_cases inside : component < count <;> simp [inside, dueAfter, opposite]

theorem Logged.stopPass {calls : List (ComponentId × Act)} {count : Nat}
    (logged : Logged calls count true) :
    Logged (calls ++ (List.range count).reverse.map fun component => (component, Act.stop))
      count false := by
  intro component
  rw [calls_on_append, due_after_append, logged component, calls_on_reverse_pass]
  by_cases inside : component < count <;> simp [inside, dueAfter, opposite]

theorem Logged.added {calls : List (ComponentId × Act)} {count : Nat}
    (logged : Logged calls count false) (more : Nat) : Logged calls more false := by
  intro component
  simpa using logged component

end RemoteIface.Gateway.Components
