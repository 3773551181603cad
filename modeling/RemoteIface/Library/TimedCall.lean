import Mathlib.Algebra.Order.Ring.Rat
import Mathlib.Tactic.Linarith

/-!
A thread that runs a coroutine on an event loop and waits for it, as with
`run_coroutine_threadsafe(wait_for(coroutine, timeout), loop)` and `result` of
the future. Two timers are set: that of `wait_for`, on the loop, cancels the
coroutine; that of the thread, longer by some slack, only ends the wait.
-/

namespace RemoteIface.Library.TimedCall

set_option autoImplicit false

abbrev Time := Rat

/-- An exception: its text, and whether it is a `TimeoutError`. -/
structure Thrown where
  text : String
  timeout : Bool
deriving DecidableEq

/-- `TimeoutError()` -/
def Thrown.timedOut : Thrown := ⟨"", true⟩

/-- What `result` of a cancelled future raises. -/
def Thrown.cancelled : Thrown := ⟨"", false⟩

/-- How a coroutine leaves. `cancelled` is a `CancelledError`. -/
inductive Ending (Value : Type) where
  | returned (value : Value)
  | raised (thrown : Thrown)
  | cancelled

/-- Where the coroutine is on its loop. `expired` is the time at which its timer
cancelled it. With no time at all it is discarded before its first step. -/
inductive Coroutine (Value : Type) where
  | scheduled
  | entered (deadline : Time) (expired : Option Time)
  | discarded (since : Time)
  | resolved (result : Except Thrown Value)

inductive Caller (Value : Type) where
  | submitting
  | waiting (deadline : Time)
  | answered (result : Except Thrown Value)

structure Call (Value : Type) where
  submitted : Time
  coroutine : Coroutine Value
  caller : Caller Value

inductive Op (Value : Type) where
  | begun
  | fired
  | ended (ending : Ending Value)
  | waits
  | woke

variable {Value : Type}

def Call.submit (now : Time) : Call Value := ⟨now, .scheduled, .submitting⟩

/-- `wait_for` turns the `CancelledError` of its own timer into a `TimeoutError`;
what else leaves the coroutine it passes on. -/
def settle (expired : Bool) : Ending Value → Except Thrown Value
  | .returned value => .ok value
  | .raised thrown => .error thrown
  | .cancelled => .error (if expired then .timedOut else .cancelled)

/-- The caller raises a new `TimeoutError` for any that the future holds. -/
def relay : Except Thrown Value → Except Thrown Value
  | .ok value => .ok value
  | .error thrown => .error (if thrown.timeout then .timedOut else thrown)

namespace Call

def step (timeout slack now : Time) (call : Call Value) : Op Value → Option (Call Value)
  | .begun =>
      match call.coroutine with
      | .scheduled =>
          if timeout ≤ 0 then some { call with coroutine := .discarded now }
          else some { call with coroutine := .entered (now + timeout) none }
      | _ => none
  | .fired =>
      match call.coroutine with
      | .entered deadline none =>
          if deadline ≤ now then some { call with coroutine := .entered deadline (some now) }
          else none
      | _ => none
  | .ended ending =>
      match call.coroutine with
      | .entered _ expired =>
          some { call with coroutine := .resolved (settle expired.isSome ending) }
      | .discarded _ => some { call with coroutine := .resolved (.error .timedOut) }
      | _ => none
  | .waits =>
      match call.caller with
      | .submitting => some { call with caller := .waiting (now + timeout + slack) }
      | _ => none
  | .woke =>
      match call.caller with
      | .waiting deadline =>
          match call.coroutine with
          | .resolved result => some { call with caller := .answered (relay result) }
          | _ =>
              if deadline ≤ now then some { call with caller := .answered (.error .timedOut) }
              else none
      | _ => none

def answer (call : Call Value) : Option (Except Thrown Value) :=
  match call.caller with
  | .answered result => some result
  | _ => none

/-- The moves of a call. The guards are those of `step`. -/
inductive Move (timeout slack now : Time) (call : Call Value) : Op Value → Call Value → Prop where
  | discarded (scheduled : call.coroutine = .scheduled) (short : timeout ≤ 0) :
      Move timeout slack now call .begun { call with coroutine := .discarded now }
  | entered (scheduled : call.coroutine = .scheduled) (long : 0 < timeout) :
      Move timeout slack now call .begun { call with coroutine := .entered (now + timeout) none }
  | fired (deadline : Time) (inside : call.coroutine = .entered deadline none)
      (due : deadline ≤ now) :
      Move timeout slack now call .fired { call with coroutine := .entered deadline (some now) }
  | ended (ending : Ending Value) (deadline : Time) (expired : Option Time)
      (inside : call.coroutine = .entered deadline expired) :
      Move timeout slack now call (.ended ending)
        { call with coroutine := .resolved (settle expired.isSome ending) }
  | dropped (ending : Ending Value) (since : Time) (outside : call.coroutine = .discarded since) :
      Move timeout slack now call (.ended ending)
        { call with coroutine := .resolved (.error .timedOut) }
  | waits (submitting : call.caller = .submitting) :
      Move timeout slack now call .waits { call with caller := .waiting (now + timeout + slack) }
  | answered (deadline : Time) (result : Except Thrown Value)
      (waiting : call.caller = .waiting deadline) (resolved : call.coroutine = .resolved result) :
      Move timeout slack now call .woke { call with caller := .answered (relay result) }
  | gaveUp (deadline : Time) (waiting : call.caller = .waiting deadline)
      (open_still : ∀ result, call.coroutine ≠ .resolved result) (due : deadline ≤ now) :
      Move timeout slack now call .woke { call with caller := .answered (.error .timedOut) }

theorem step_move {timeout slack now : Time} {call next : Call Value} {op : Op Value}
    (taken : call.step timeout slack now op = some next) :
    Move timeout slack now call op next := by
  cases op with
  | begun =>
      unfold step at taken
      dsimp only at taken
      split at taken
      · rename_i scheduled
        split at taken <;> cases taken
        · rename_i short
          exact .discarded scheduled short
        · rename_i long
          exact .entered scheduled (not_le.mp long)
      · cases taken
  | fired =>
      unfold step at taken
      dsimp only at taken
      split at taken
      · rename_i deadline inside
        split at taken <;> cases taken
        rename_i due
        exact .fired deadline inside due
      · cases taken
  | ended ending =>
      unfold step at taken
      dsimp only at taken
      split at taken <;> cases taken
      · rename_i deadline expired inside
        exact .ended ending deadline expired inside
      · rename_i since outside
        exact .dropped ending since outside
  | waits =>
      unfold step at taken
      dsimp only at taken
      split at taken <;> cases taken
      rename_i submitting
      exact .waits submitting
  | woke =>
      unfold step at taken
      dsimp only at taken
      split at taken
      · rename_i deadline waiting
        split at taken
        · rename_i result resolved
          cases taken
          exact .answered deadline result waiting resolved
        · rename_i unresolved
          split at taken <;> cases taken
          rename_i due
          exact .gaveUp deadline waiting unresolved due
      · cases taken

theorem answer_step {timeout slack now : Time} {call next : Call Value} {op : Op Value}
    (taken : call.step timeout slack now op = some next) :
    next.caller = call.caller ∨ ∀ result, call.caller ≠ .answered result := by
  cases step_move taken with
  | waits submitting => exact .inr (by simp [submitting])
  | answered deadline result waiting known => exact .inr (by simp [waiting])
  | gaveUp deadline waiting open_still due => exact .inr (by simp [waiting])
  | _ => exact .inl rfl

def unbegun (call : Call Value) : Bool :=
  match call.coroutine with
  | .scheduled => true
  | _ => false

def Op.isBegun : Op Value → Bool
  | .begun => true
  | _ => false

theorem unbegun_step {timeout slack now : Time} {call next : Call Value} {op : Op Value}
    (taken : call.step timeout slack now op = some next) :
    if Op.isBegun op then call.unbegun = true ∧ next.unbegun = false
    else next.unbegun = call.unbegun := by
  cases step_move taken with
  | discarded scheduled short => simp [Op.isBegun, unbegun, scheduled]
  | entered scheduled long => simp [Op.isBegun, unbegun, scheduled]
  | fired deadline inside due => simp [Op.isBegun, unbegun, inside]
  | ended ending deadline expired inside => simp [Op.isBegun, unbegun, inside]
  | dropped ending since outside => simp [Op.isBegun, unbegun, outside]
  | waits submitting => rfl
  | answered deadline result waiting resolved => rfl
  | gaveUp deadline waiting open_still due => rfl

end Call

/-- How late a loop may be: with the first step of a coroutine, with its timer,
and with the end of one that its timer has cancelled. -/
structure Lag where
  start : Time
  fire : Time
  finish : Time
  fire_nonneg : 0 ≤ fire
  finish_nonneg : 0 ≤ finish

def Lag.total (lag : Lag) : Time := lag.start + lag.fire + lag.finish

namespace Call

def Prompt (lag : Lag) (now : Time) (call : Call Value) : Prop :=
  match call.coroutine with
  | .scheduled => now ≤ call.submitted + lag.start
  | .entered deadline none => now ≤ deadline + lag.fire
  | .entered _ (some since) => now ≤ since + lag.finish
  | .discarded since => now ≤ since + lag.finish
  | .resolved _ => True

instance (lag : Lag) (now : Time) : ∀ call : Call Value, Decidable (call.Prompt lag now)
  | ⟨submitted, .scheduled, _⟩ => inferInstanceAs (Decidable (now ≤ submitted + lag.start))
  | ⟨_, .entered deadline none, _⟩ => inferInstanceAs (Decidable (now ≤ deadline + lag.fire))
  | ⟨_, .entered _ (some since), _⟩ => inferInstanceAs (Decidable (now ≤ since + lag.finish))
  | ⟨_, .discarded since, _⟩ => inferInstanceAs (Decidable (now ≤ since + lag.finish))
  | ⟨_, .resolved _, _⟩ => .isTrue trivial

structure OnTime (lag : Lag) (timeout slack now : Time) (call : Call Value) : Prop where
  past : call.submitted ≤ now
  begun : ∀ deadline expired, call.coroutine = .entered deadline expired →
    deadline ≤ call.submitted + lag.start + timeout
  fired : ∀ deadline since, call.coroutine = .entered deadline (some since) →
    since ≤ deadline + lag.fire
  discarded : ∀ since, call.coroutine = .discarded since → since ≤ call.submitted + lag.start
  waiting : ∀ deadline, call.caller = .waiting deadline →
    call.submitted + timeout + slack ≤ deadline
  answered : ∀ result, call.caller = .answered result →
    ∃ settled, call.coroutine = .resolved settled ∧ result = relay settled

section OnTime

variable {lag : Lag} {timeout slack now later : Time} {call next : Call Value} {op : Op Value}

theorem on_time_submit (lag : Lag) (timeout slack now : Time) :
    (submit now : Call Value).OnTime lag timeout slack now := by
  constructor
  · exact le_refl now
  · intro deadline expired inside
    cases inside
  · intro deadline since inside
    cases inside
  · intro since outside
    cases outside
  · intro deadline waiting
    cases waiting
  · intro result answered
    cases answered

theorem OnTime.advance (onTime : call.OnTime lag timeout slack now) (passed : now ≤ later) :
    call.OnTime lag timeout slack later where
  past := le_trans onTime.past passed
  begun := onTime.begun
  fired := onTime.fired
  discarded := onTime.discarded
  waiting := onTime.waiting
  answered := onTime.answered

theorem OnTime.resolved_by_deadline (onTime : call.OnTime lag timeout slack now)
    (prompt : call.Prompt lag now) (nonneg : 0 ≤ timeout) (short : lag.total < slack)
    {deadline : Time} (waiting : call.caller = .waiting deadline) (due : deadline ≤ now) :
    ∃ result, call.coroutine = .resolved result := by
  have waited := onTime.waiting deadline waiting
  have fire := lag.fire_nonneg
  have finish := lag.finish_nonneg
  unfold Lag.total at short
  unfold Prompt at prompt
  cases where_now : call.coroutine with
  | scheduled =>
      rw [where_now] at prompt
      dsimp only at prompt
      linarith
  | entered inner expired =>
      rw [where_now] at prompt
      have begun := onTime.begun inner expired where_now
      cases expired with
      | none =>
          dsimp only at prompt
          linarith
      | some since =>
          have fired := onTime.fired inner since where_now
          dsimp only at prompt
          linarith
  | discarded since =>
      rw [where_now] at prompt
      have dropped := onTime.discarded since where_now
      dsimp only at prompt
      linarith
  | resolved result => exact ⟨result, rfl⟩

theorem OnTime.unanswered (onTime : call.OnTime lag timeout slack now)
    (open_still : ∀ result, call.coroutine ≠ .resolved result) (result : Except Thrown Value) :
    call.caller ≠ .answered result := by
  intro answered
  obtain ⟨settled, resolved, _⟩ := onTime.answered result answered
  exact open_still settled resolved

theorem on_time_step (onTime : call.OnTime lag timeout slack now) (prompt : call.Prompt lag now)
    (nonneg : 0 ≤ timeout) (short : lag.total < slack)
    (taken : call.step timeout slack now op = some next) : next.OnTime lag timeout slack now := by
  have late := onTime.unanswered
  unfold Prompt at prompt
  cases step_move taken with
  | discarded scheduled brief =>
      rw [scheduled] at prompt
      refine ⟨onTime.past, nofun, nofun, ?_, onTime.waiting, ?_⟩
      · intro since outside
        cases outside
        exact prompt
      · intro result answered
        exact absurd answered (late (by simp [scheduled]) result)
  | entered scheduled long =>
      rw [scheduled] at prompt
      dsimp only at prompt
      refine ⟨onTime.past, ?_, ?_, nofun, onTime.waiting, ?_⟩
      · intro deadline expired inside
        cases inside
        dsimp only
        linarith
      · intro deadline since inside
        cases inside
      · intro result answered
        exact absurd answered (late (by simp [scheduled]) result)
  | fired deadline inside due =>
      rw [inside] at prompt
      dsimp only at prompt
      have begun := onTime.begun deadline none inside
      refine ⟨onTime.past, ?_, ?_, nofun, onTime.waiting, ?_⟩
      · intro same expired here
        cases here
        exact begun
      · intro same since here
        cases here
        exact prompt
      · intro result answered
        exact absurd answered (late (by simp [inside]) result)
  | ended ending deadline expired inside =>
      refine ⟨onTime.past, nofun, nofun, nofun, onTime.waiting, ?_⟩
      intro result answered
      exact absurd answered (late (by simp [inside]) result)
  | dropped ending since outside =>
      refine ⟨onTime.past, nofun, nofun, nofun, onTime.waiting, ?_⟩
      intro result answered
      exact absurd answered (late (by simp [outside]) result)
  | waits submitting =>
      refine ⟨onTime.past, onTime.begun, onTime.fired, onTime.discarded, ?_, ?_⟩
      · intro deadline waiting
        cases waiting
        have past := onTime.past
        dsimp only
        linarith
      · intro result answered
        cases answered
  | answered deadline settled waiting resolved =>
      refine ⟨onTime.past, onTime.begun, onTime.fired, onTime.discarded, nofun, ?_⟩
      intro result answered
      cases answered
      exact ⟨settled, resolved, rfl⟩
  | gaveUp deadline waiting open_still due =>
      obtain ⟨result, resolved⟩ :=
        onTime.resolved_by_deadline prompt nonneg short waiting due
      exact absurd resolved (open_still result)

end OnTime

end Call

end RemoteIface.Library.TimedCall
