import RemoteIface.Library.Runs
import RemoteIface.HbCompat.EventBusAdapter
import Mathlib.Data.List.Induction

/-!
The calls on an `EventBusAdapter`. Its dictionary holds one subscription a pair,
and the bus counts every one, so a pair that is subscribed again while it is
subscribed leaves a subscription behind that no `unsubscribe` reaches.
-/

namespace RemoteIface.HbCompat.AdapterKeys

set_option autoImplicit false

open RemoteIface.Library.Runs
open RemoteIface.Library.InsertionOrder
open RemoteIface.HbCompat.EventBusAdapter

/-- A subscription that is made is none of those in force. -/
structure Fresh {Handler : Type} (events : EventBus Handler) : Prop where
  unused : ∀ bus eventType handler,
    events.registration bus (events.subscribe bus eventType handler).2 = none

inductive Call (Handler Payload : Type) where
  | subscribe (eventType : String) (handler : Handler)
  | unsubscribe (eventType : String) (handler : Handler)
  | publish (eventType : String) (payload : Payload)

variable {Handler Payload : Type} {events : EventBus Handler}

/-- The calls that `publish` makes. -/
def published (adapter : Adapter events) (eventType : String) (payload : Payload) :
    List (Handler × Payload) :=
  (adapter.receivers eventType).map fun handler => (handler, payload)

variable [DecidableEq Handler]

/-- A publication leaves the adapter as it is. -/
def perform (adapter : Adapter events) : Call Handler Payload → Adapter events
  | .subscribe eventType handler => adapter.subscribe eventType handler
  | .unsubscribe eventType handler => adapter.unsubscribe eventType handler
  | .publish _ _ => adapter

/-- The adapter after its construction and the calls. -/
def after (events : EventBus Handler) (calls : List (Call Handler Payload)) : Adapter events :=
  calls.foldl perform Adapter.new

/-- How often a publication calls the handler. -/
def callsTo (adapter : Adapter events) (eventType : String) (handler : Handler)
    (payload : Payload) : Nat :=
  (published adapter eventType payload).countP fun call => call.1 = handler

def Subscribed (calls : List (Call Handler Payload)) (eventType : String) (handler : Handler) :
    Prop :=
  Since (fun call => call = .subscribe eventType handler)
    (fun call => call = .unsubscribe eventType handler) calls

def Unsubscribed (calls : List (Call Handler Payload)) (eventType : String) (handler : Handler) :
    Prop :=
  Since (fun call => call = .unsubscribe eventType handler)
    (fun call => call = .subscribe eventType handler) calls

/-- An unsubscribed pair is not called, to unsubscribe leaves every other pair
as it was, and `_subs` holds each subscription in force under its pair. -/
structure InStep (events : EventBus Handler) (calls : List (Call Handler Payload)) : Prop where
  silent : ∀ eventType handler, Unsubscribed calls eventType handler → ∀ payload : Payload,
    callsTo (after events calls) eventType handler payload = 0
  spared : ∀ before eventType handler, calls = before ++ [.unsubscribe eventType handler] →
    ∀ other held, (other, held) ≠ (eventType, handler) →
      (∀ payload : Payload, callsTo (after events calls) other held payload =
        callsTo (after events before) other held payload) ∧
      (after events calls).subs.get? (other, held) = (after events before).subs.get? (other, held)
  stored : ∀ sub key, events.registration (after events calls).bus sub = some key →
    (after events calls).subs.get? key = some sub

/-- A pair is subscribed only while it is not. -/
def NotAgain (before : List (Call Handler Payload)) : Call Handler Payload → Prop
  | .subscribe eventType handler => ¬ Subscribed before eventType handler
  | _ => True

theorem after_snoc (calls : List (Call Handler Payload)) (call : Call Handler Payload) :
    after events (calls ++ [call]) = perform (after events calls) call := by
  simp [after]

/-- `_subs` has an entry for the pairs that are subscribed. -/
theorem stored_iff_subscribed (calls : List (Call Handler Payload)) (eventType : String)
    (handler : Handler) :
    ((after events calls).subs.get? (eventType, handler)).isSome = true ↔
      Subscribed calls eventType handler := by
  induction calls using List.reverseRecOn with
  | nil => exact iff_of_false (by simp [after, Adapter.new]) (not_since_nil _ _)
  | append_singleton calls call induction =>
      rw [after_snoc, Subscribed, since_snoc]
      cases call with
      | subscribe made held =>
          simp only [perform, Adapter.subscribe, OrderedDict.get_set]
          by_cases same : (made, held) = (eventType, handler)
          · cases same
            simp
          · rw [if_neg (Ne.symm same), induction, Subscribed]
            simp only [Prod.mk.injEq] at same
            simp [same]
      | unsubscribe ended held =>
          simp only [perform, Adapter.get_unsubscribe]
          by_cases same : (ended, held) = (eventType, handler)
          · cases same
            simp
          · rw [if_neg (Ne.symm same), induction, Subscribed]
            simp only [Prod.mk.injEq] at same
            simp [same]
      | publish eventType payload => simp [perform, induction, Subscribed]

/-- Every subscription in force is the one that `_subs` has for its pair. -/
def Exact (adapter : Adapter events) : Prop :=
  ∀ sub key, events.registration adapter.bus sub = some key → adapter.subs.get? key = some sub

section

variable (lawful : events.Lawful)

include lawful

theorem sound_after (calls : List (Call Handler Payload)) : (after events calls).Sound := by
  induction calls using List.reverseRecOn with
  | nil => exact Adapter.sound_new
  | append_singleton calls call induction =>
      rw [after_snoc]
      cases call with
      | subscribe eventType handler => exact Adapter.sound_subscribe lawful induction _ _
      | unsubscribe eventType handler => exact Adapter.sound_unsubscribe lawful induction _ _
      | publish eventType payload => exact induction

theorem exact_subscribe {adapter : Adapter events} (exact : Exact adapter) {eventType : String}
    {handler : Handler} (absent : adapter.subs.get? (eventType, handler) = none) :
    Exact (adapter.subscribe eventType handler) := by
  intro sub key registered
  rw [Adapter.registration_subscribe lawful] at registered
  simp only [Adapter.subscribe, OrderedDict.get_set]
  obtain ⟨rfl, rfl⟩ | ⟨_, before⟩ := registered
  · exact if_pos rfl
  · have stored := exact sub key before
    have different : key ≠ (eventType, handler) := by
      rintro rfl
      rw [absent] at stored
      cases stored
    rw [if_neg different]
    exact stored

theorem exact_unsubscribe {adapter : Adapter events} (exact : Exact adapter) (eventType : String)
    (handler : Handler) : Exact (adapter.unsubscribe eventType handler) := by
  intro sub key registered
  have before : events.registration adapter.bus sub = some key ∧ key ≠ (eventType, handler) := by
    cases stored : adapter.subs.get? (eventType, handler) with
    | none =>
        simp only [Adapter.unsubscribe, stored] at registered
        refine ⟨registered, ?_⟩
        rintro rfl
        rw [exact sub _ registered] at stored
        cases stored
    | some ended =>
        obtain ⟨other, earlier⟩ :=
          (Adapter.registration_unsubscribe lawful stored sub key).mp registered
        refine ⟨earlier, ?_⟩
        rintro rfl
        rw [exact sub _ earlier] at stored
        exact other (Option.some.inj stored)
  rw [Adapter.get_unsubscribe, if_neg before.2]
  exact exact sub key before.1

theorem exact_after {calls : List (Call Handler Payload)} (guarded : Throughout NotAgain calls) :
    Exact (after events calls) := by
  induction calls using List.reverseRecOn with
  | nil =>
      intro sub key registered
      rw [show (after events ([] : List (Call Handler Payload))).bus = events.new from rfl,
        lawful.blank] at registered
      cases registered
  | append_singleton calls call induction =>
      obtain ⟨earlier, first⟩ := throughout_snoc.mp guarded
      have exact := induction earlier
      rw [after_snoc]
      cases call with
      | subscribe eventType handler =>
          apply exact_subscribe lawful exact
          rw [← Option.not_isSome_iff_eq_none, stored_iff_subscribed]
          exact first
      | unsubscribe eventType handler => exact exact_unsubscribe lawful exact _ _
      | publish eventType payload => exact exact

theorem not_exact_of_again (fresh : Fresh events) {adapter : Adapter events} {eventType : String}
    {handler : Handler} {old : events.Subscription}
    (registered : events.registration adapter.bus old = some (eventType, handler)) :
    ¬ Exact (adapter.subscribe eventType handler) := by
  intro exact
  have different : old ≠ (events.subscribe adapter.bus eventType handler).2 := by
    intro same
    have unused := fresh.unused adapter.bus eventType handler
    rw [← same, registered] at unused
    cases unused
  have kept := exact old (eventType, handler)
    ((Adapter.registration_subscribe lawful _ _ _ _ _).mpr (.inr ⟨different, registered⟩))
  simp only [Adapter.subscribe, OrderedDict.get_set_self, Option.some.injEq] at kept
  exact different kept.symm

theorem calls_to_zero {adapter : Adapter events} (exact : Exact adapter) {eventType : String}
    {handler : Handler} (absent : adapter.subs.get? (eventType, handler) = none)
    (payload : Payload) : callsTo adapter eventType handler payload = 0 := by
  unfold callsTo published
  rw [List.countP_map, List.countP_eq_zero]
  intro other received
  simp only [Function.comp_apply, decide_eq_true_eq]
  rintro rfl
  obtain ⟨sub, registered⟩ := (lawful.receives _ _ _).mp received
  rw [exact sub _ registered] at absent
  cases absent

end

theorem calls_to_subscriptions (once : events.CallsOnce) (adapter : Adapter events)
    (eventType : String) (handler : Handler) (payload : Payload) :
    ∃ subs : List events.Subscription, subs.Nodup ∧
      (∀ sub, sub ∈ subs ↔ events.registration adapter.bus sub = some (eventType, handler)) ∧
      callsTo adapter eventType handler payload = subs.length := by
  obtain ⟨subs, distinct, inForce, called⟩ := once.calls adapter.bus eventType
  refine ⟨subs.filter fun sub => (events.registration adapter.bus sub).any fun made =>
    made.2 = handler, distinct.filter _, fun sub => ?_, ?_⟩
  · rw [List.mem_filter, inForce]
    constructor
    · rintro ⟨⟨held, registered⟩, own⟩
      rw [registered] at own
      simp only [Option.any_some, decide_eq_true_eq] at own
      rw [registered, own]
    · intro registered
      exact ⟨⟨handler, registered⟩, by simp [registered]⟩
  · unfold callsTo published Adapter.receivers
    rw [called, List.countP_map, List.countP_filterMap, ← List.countP_eq_length_filter]
    apply List.countP_congr
    intro sub _
    cases events.registration adapter.bus sub <;> simp

theorem calls_to_congr (once : events.CallsOnce) {one two : Adapter events} {eventType : String}
    {handler : Handler} (alike : ∀ sub, events.registration one.bus sub = some (eventType, handler) ↔
      events.registration two.bus sub = some (eventType, handler)) (payload : Payload) :
    callsTo one eventType handler payload = callsTo two eventType handler payload := by
  obtain ⟨first, firstDistinct, inFirst, countFirst⟩ :=
    calls_to_subscriptions once one eventType handler payload
  obtain ⟨second, secondDistinct, inSecond, countSecond⟩ :=
    calls_to_subscriptions once two eventType handler payload
  rw [countFirst, countSecond]
  apply List.Perm.length_eq
  refine (List.perm_ext_iff_of_nodup firstDistinct secondDistinct).mpr fun sub => ?_
  rw [inFirst, inSecond]
  exact alike sub

theorem in_step_of_not_again (lawful : events.Lawful) (once : events.CallsOnce)
    {calls : List (Call Handler Payload)} (guarded : Throughout NotAgain calls) :
    InStep events calls where
  silent eventType handler unsubscribed payload := by
    have exact : Exact (after events calls) := exact_after lawful guarded
    apply calls_to_zero lawful exact
    rw [← Option.not_isSome_iff_eq_none, stored_iff_subscribed]
    exact since_disjoint (by rintro call rfl; simp) unsubscribed
  spared before eventType handler split other held different := by
    rw [split, after_snoc]
    have sound : (after events before).Sound := sound_after lawful before
    have spared := Adapter.registration_unsubscribe_other lawful sound different
    refine ⟨fun payload => calls_to_congr once spared payload, ?_⟩
    exact (Adapter.get_unsubscribe _ _ _ _).trans (if_neg different)
  stored := exact_after lawful guarded

/-- The keys stay in step with the bus exactly as long as no pair is subscribed
again while it is subscribed. -/
theorem in_step_iff_not_again (lawful : events.Lawful) (fresh : Fresh events)
    (once : events.CallsOnce) (calls : List (Call Handler Payload)) :
    (∀ before, before <+: calls → InStep events before) ↔ Throughout NotAgain calls := by
  constructor
  · intro inStep before call later split
    cases call with
    | subscribe eventType handler =>
        intro subscribed
        obtain ⟨old, stored⟩ :=
          Option.isSome_iff_exists.mp ((stored_iff_subscribed before eventType handler).mpr subscribed)
        have registered := sound_after lawful before _ old stored
        have reached : before ++ [.subscribe eventType handler] <+: calls := by
          rw [split]
          exact ⟨later, by simp⟩
        have exact := (inStep _ reached).stored
        rw [after_snoc] at exact
        exact not_exact_of_again lawful fresh registered exact
    | _ => trivial
  · rintro guarded before ⟨rest, split⟩
    apply in_step_of_not_again lawful once
    intro first call last same
    exact guarded first call (last ++ rest) (by simp [← split, same])

theorem list_bus_fresh (Handler : Type) : Fresh (listBus Handler) where
  unused bus eventType handler := by
    have unused : bus.made ∉ bus.inForce.keys :=
      fun member => Nat.lt_irrefl _ (bus.older bus.made member)
    show bus.inForce.get? bus.made = none
    rwa [← Option.not_isSome_iff_eq_none, OrderedDict.get_isSome_iff]

/-- One pair takes its turns while another one stays subscribed. -/
def turns : List (Call Nat Unit) :=
  [.subscribe "order.filled" 1, .unsubscribe "order.filled" 1, .subscribe "order.filled" 2,
    .subscribe "order.filled" 1, .unsubscribe "order.filled" 1]

theorem turns_not_again : Throughout NotAgain turns := by
  have subscribed : Throughout NotAgain ([] ++ turns.take 1) :=
    throughout_snoc.mpr ⟨throughout_nil _, not_since_nil _ _⟩
  have unsubscribed : Throughout NotAgain (turns.take 1 ++ [turns[1]]) :=
    throughout_snoc.mpr ⟨subscribed, trivial⟩
  have other : Throughout NotAgain (turns.take 2 ++ [turns[2]]) := by
    refine throughout_snoc.mpr ⟨unsubscribed, fun since => ?_⟩
    obtain ⟨call, member, rfl⟩ := begun_of_since since
    simp [turns] at member
  have again : Throughout NotAgain (turns.take 3 ++ [turns[3]]) := by
    have ended : Unsubscribed (turns.take 3) "order.filled" 1 :=
      ⟨turns.take 1, turns[1], [turns[2]], rfl, rfl, by simp [turns]⟩
    refine throughout_snoc.mpr ⟨other, ?_⟩
    exact since_disjoint (by rintro call rfl; simp) ended
  have last : Throughout NotAgain (turns.take 4 ++ [turns[4]]) :=
    throughout_snoc.mpr ⟨again, trivial⟩
  exact last

/-- In the end the other pair alone is called. -/
theorem turns_in_step :
    InStep (listBus Nat) turns ∧
      callsTo (after (listBus Nat) turns) "order.filled" 1 () = 0 ∧
      callsTo (after (listBus Nat) turns) "order.filled" 2 () = 1 := by
  refine ⟨?_, by decide, by decide⟩
  exact (in_step_iff_not_again (list_bus_lawful Nat) (list_bus_fresh Nat)
    (list_bus_calls_once Nat) turns).mpr turns_not_again turns List.prefix_rfl

/-- A pair is subscribed twice and unsubscribed once. -/
def twice : List (Call Nat Unit) :=
  [.subscribe "order.filled" 1, .subscribe "order.filled" 1, .unsubscribe "order.filled" 1]

theorem twice_still_called : ¬ InStep (listBus Nat) twice := by
  intro inStep
  have unsubscribed : Unsubscribed twice "order.filled" 1 :=
    ⟨twice.take 2, twice[2], [], rfl, rfl, by simp⟩
  exact absurd (inStep.silent "order.filled" 1 unsubscribed ()) (by decide)

end RemoteIface.HbCompat.AdapterKeys
