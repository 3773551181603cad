import Mathlib.Data.List.Perm.Basic
import RemoteIface.Library.Runs
import RemoteIface.HbCompat.Registrations

/-!
The unsubscribe handles that `HummingbotAppAdapter` gives out. A handle removes
the first entry that equals its callback and may be called any number of times;
a repeated call finds an entry exactly when an equal callback is registered
under another handle.
-/

namespace RemoteIface.HbCompat.UnsubscribeHandles

set_option autoImplicit false

open RemoteIface.Library.Runs
open RemoteIface.HbCompat.Registrations

/-- The two registry shims whose registrations come with a handle. -/
inductive Shim where
  | marketEvents
  | statusListeners
deriving DecidableEq, Repr

namespace Shim

def callbacks (adapter : AppAdapter) : Shim → List Callback
  | marketEvents => adapter.marketEventCallbacks
  | statusListeners => adapter.statusListeners

def register (adapter : AppAdapter) (callback : Callback) : Shim → AppAdapter
  | marketEvents => adapter.subscribeMarketEvents callback
  | statusListeners => adapter.registerStatusListener callback

/-- What the handle of a registration does when it is called. -/
def unregister (adapter : AppAdapter) (callback : Callback) : Shim → AppAdapter
  | marketEvents => adapter.unsubscribeMarketEvents callback
  | statusListeners => adapter.unregisterStatusListener callback

theorem callbacks_register (adapter : AppAdapter) (callback : Callback) (shim other : Shim) :
    other.callbacks (shim.register adapter callback) =
      if shim = other then other.callbacks adapter ++ [callback] else other.callbacks adapter := by
  cases shim <;> cases other <;> rfl

theorem callbacks_unregister (adapter : AppAdapter) (callback : Callback) (shim other : Shim) :
    other.callbacks (shim.unregister adapter callback) =
      if shim = other then (other.callbacks adapter).erase callback
      else other.callbacks adapter := by
  cases shim <;> cases other <;> rfl

end Shim

/-- One call of a shim, and whether the handle it returned has been called.
Callbacks that compare equal are one `Callback`. -/
structure Registration where
  shim : Shim
  callback : Callback
  called : Bool
deriving DecidableEq, Repr

structure Handles where
  adapter : AppAdapter
  registrations : List Registration
deriving DecidableEq, Repr

/-- The handles are numbered as their registrations. -/
inductive Event where
  | register (shim : Shim) (callback : Callback)
  | call (handle : Nat)
deriving DecidableEq, Repr

namespace Handles

def fresh : Handles := ⟨⟨[], [], []⟩, []⟩

def step (handles : Handles) : Event → Option Handles
  | .register shim callback =>
      some ⟨shim.register handles.adapter callback,
        handles.registrations ++ [⟨shim, callback, false⟩]⟩
  | .call handle =>
      (handles.registrations[handle]?).map fun registration =>
        ⟨registration.shim.unregister handles.adapter registration.callback,
          handles.registrations.set handle { registration with called := true }⟩

/-- The callbacks of the registrations of a shim whose handle is still uncalled. -/
def opened (handles : Handles) (shim : Shim) : List Callback :=
  (handles.registrations.filter fun registration =>
    registration.shim = shim ∧ registration.called = false).map Registration.callback

/-- Each list is, as a multiset, that of its open registrations. -/
def Matched (handles : Handles) : Prop :=
  ∀ shim : Shim, (shim.callbacks handles.adapter).Perm (handles.opened shim)

/-- A handle that has been called already is not called while an equal callback
has an open registration. -/
def OwnEntryOnly (handles : Handles) : Event → Prop
  | .register _ _ => True
  | .call handle => ∀ registration, handles.registrations[handle]? = some registration →
      registration.called = true → registration.callback ∉ handles.opened registration.shim

theorem count_opened (handles : Handles) (shim : Shim) (callback : Callback) :
    (handles.opened shim).count callback =
      handles.registrations.count ⟨shim, callback, false⟩ := by
  unfold opened
  rw [List.count_eq_countP, List.countP_map, List.countP_filter, List.count_eq_countP]
  apply List.countP_congr
  intro registration _
  cases registration with
  | mk own held called =>
      simp only [Function.comp_apply, Bool.and_eq_true, beq_iff_eq, decide_eq_true_eq,
        Registration.mk.injEq]
      tauto

theorem matched_iff_count (handles : Handles) :
    handles.Matched ↔ ∀ (shim : Shim) callback,
      (shim.callbacks handles.adapter).count callback =
        handles.registrations.count ⟨shim, callback, false⟩ := by
  unfold Matched
  simp only [List.perm_iff_count, count_opened]

theorem mem_opened_iff (handles : Handles) (shim : Shim) (callback : Callback) :
    callback ∈ handles.opened shim ↔
      0 < handles.registrations.count ⟨shim, callback, false⟩ := by
  rw [← List.count_pos_iff, count_opened]

theorem matched_register {handles : Handles} (matched : handles.Matched) (shim : Shim)
    (callback : Callback) :
    Matched ⟨shim.register handles.adapter callback,
      handles.registrations ++ [⟨shim, callback, false⟩]⟩ := by
  rw [matched_iff_count] at matched ⊢
  intro other held
  have before := matched other held
  dsimp only
  rw [Shim.callbacks_register, List.count_append, List.count_singleton]
  by_cases same : shim = other
  · rw [if_pos same, List.count_append, List.count_singleton, before, same]
    simp
  · rw [if_neg same, before]
    simp [same]

/-- A call keeps the lists matched unless it is a repeated one that takes the
entry of another registration. -/
theorem matched_call_iff {handles : Handles} (matched : handles.Matched) {handle : Nat}
    {registration : Registration} (stored : handles.registrations[handle]? = some registration) :
    Matched ⟨registration.shim.unregister handles.adapter registration.callback,
        handles.registrations.set handle { registration with called := true }⟩ ↔
      (registration.called = true → registration.callback ∉ handles.opened registration.shim) := by
  obtain ⟨inside, value⟩ := List.getElem?_eq_some_iff.mp stored
  rw [mem_opened_iff]
  rw [matched_iff_count] at matched ⊢
  have own := matched registration.shim registration.callback
  have removed : ∀ (shim : Shim) callback,
      (shim.callbacks (registration.shim.unregister handles.adapter
        registration.callback)).count callback =
        (shim.callbacks handles.adapter).count callback -
          if registration.shim = shim ∧ registration.callback = callback then 1 else 0 := by
    intro shim callback
    rw [Shim.callbacks_unregister]
    by_cases same : registration.shim = shim
    · simp [same, List.count_erase]
    · simp [same]
  have marked : ∀ (shim : Shim) callback,
      (handles.registrations.set handle { registration with called := true }).count
          ⟨shim, callback, false⟩ =
        handles.registrations.count ⟨shim, callback, false⟩ -
          if registration = ⟨shim, callback, false⟩ then 1 else 0 := by
    intro shim callback
    rw [List.count_set inside, value]
    simp
  constructor
  · intro after called
    have here := after registration.shim registration.callback
    dsimp only at here
    have apart : registration ≠ ⟨registration.shim, registration.callback, false⟩ := by
      intro same
      rw [same] at called
      cases called
    rw [removed, marked, if_pos ⟨rfl, rfl⟩, if_neg apart] at here
    omega
  · intro free shim callback
    dsimp only
    rw [removed, marked, matched]
    by_cases same : registration.shim = shim ∧ registration.callback = callback
    · obtain ⟨sameShim, sameCallback⟩ := same
      rw [← sameShim, ← sameCallback, if_pos ⟨rfl, rfl⟩]
      cases called : registration.called with
      | true =>
          have none := free called
          omega
      | false =>
          have whole : registration = ⟨registration.shim, registration.callback, false⟩ := by
            rw [← called]
          rw [if_pos whole]
    · have apart : registration ≠ ⟨shim, callback, false⟩ := by
        intro whole
        apply same
        rw [whole]
        exact ⟨rfl, rfl⟩
      rw [if_neg same, if_neg apart]

end Handles

open Handles

/-- In every state of a run the callback lists are those of the open
registrations exactly when no handle is called again while an equal callback
has an open registration. -/
theorem lists_matched_iff_own_entries (events : List Event) :
    Always Handles.step Matched Handles.fresh events ↔
      Guarded Handles.step OwnEntryOnly Handles.fresh events := by
  have kept : ∀ (handles : Handles) event next, True → handles.step event = some next → True :=
    fun _ _ _ _ _ => trivial
  refine always_iff_guarded Handles.step kept ?_ trivial ?_
  · intro handles event next _ matched taken
    cases event with
    | register shim callback =>
        cases taken
        exact iff_of_true (matched_register matched shim callback) trivial
    | call handle =>
        obtain ⟨registration, stored, same⟩ := Option.map_eq_some_iff.mp taken
        rw [← same, matched_call_iff matched stored]
        constructor
        · intro free other there called
          rw [stored, Option.some.injEq] at there
          rw [← there] at called ⊢
          exact free called
        · intro guarded
          exact guarded registration stored
  · intro shim
    cases shim <;> exact List.Perm.refl _

/-- Two registrations of one callback, and the first handle called twice. -/
def repeatedCall : List Event :=
  [.register .marketEvents (.other 0), .register .marketEvents (.other 0), .call 0, .call 0]

/-- The second call removes the entry of the other registration. -/
theorem repeated_call_removes_other :
    ∃ final, run Handles.step Handles.fresh repeatedCall = some final ∧
      final.adapter.marketEventCallbacks = [] ∧ final.opened .marketEvents = [.other 0] ∧
      ¬ Always Handles.step Matched Handles.fresh repeatedCall := by
  refine ⟨_, rfl, rfl, rfl, ?_⟩
  intro always
  have last := always repeatedCall List.prefix_rfl _ rfl .marketEvents
  exact absurd last.length_eq (by decide)

end RemoteIface.HbCompat.UnsubscribeHandles
