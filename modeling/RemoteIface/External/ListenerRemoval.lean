import RemoteIface.External.EventDelivery

/-!
`EEventListenerFactory.remove` on a pair that may have been created several
times. Every creation adds a subscription to the event bus, and the registry of
the dispatch closures keeps the last one only; so a removal ends one listener,
and the calls stop exactly when the pair had no other.
-/

namespace RemoteIface.External.ListenerRemoval

set_option autoImplicit false

open RemoteIface.Library.Runs
open RemoteIface.Library.InsertionOrder
open RemoteIface.Commlib RemoteIface.Gateway
open RemoteIface.Commlib.Payload
open RemoteIface.Commlib.Endpoints
open RemoteIface.Commlib.Dispatch
open RemoteIface.Protocols.Messages
open RemoteIface.HbCompat.EventBusAdapter
open RemoteIface.External.Objects hiding Event
open RemoteIface.External.Bindings
open RemoteIface.External.Hearing
open RemoteIface.External.EventFlow
open RemoteIface.External.EventDelivery

variable {events : EventBus Handler}

/-- How often an event on the name calls the callback. -/
def callsOn (flow : Flow events) (name : String) (callback : CallbackId) (outcomes : Outcomes)
    (message : Delivered Instance) : Nat :=
  (flow.listenerCalls outcomes (eventKey name) message).countP fun call =>
    call.callback = callback

/-- The pair has been removed and not created since. -/
def Removed (history : List Event) (name : String) (callback : CallbackId) : Prop :=
  Since (fun made => made = .remove name callback) (fun made => made = .create name callback)
    history

/-- A removed pair is not called, and a removal leaves the calls of every other
pair what they were. -/
structure RemovalSilences (start : Flow events) (history : List Event) : Prop where
  silent : ∀ name callback, Removed history name callback → ∀ outcomes message,
    callsOn (start.after history) name callback outcomes message = 0
  spared : ∀ before name callback, history = before ++ [.remove name callback] →
    ∀ other held, (other, held) ≠ (name, callback) → ∀ outcomes message,
      callsOn (start.after history) other held outcomes message =
        callsOn (start.after before) other held outcomes message

def creations (name : String) (callback : CallbackId) (history : List Event) : Nat :=
  history.foldl (fun count event =>
    match event with
    | .create made held => if (made, held) = (name, callback) then count + 1 else count
    | .remove made held => if (made, held) = (name, callback) then 0 else count
    | _ => count) 0

/-- A pair that is removed has been created at most once since its last removal. -/
def CreatedOnce (before : List Event) : Event → Prop
  | .remove name callback => creations name callback before ≤ 1
  | _ => True

theorem creations_create (history : List Event) (made : String) (held : CallbackId)
    (name : String) (callback : CallbackId) :
    creations name callback (history ++ [.create made held]) =
      if (made, held) = (name, callback) then creations name callback history + 1
      else creations name callback history := by
  simp [creations]

theorem creations_remove (history : List Event) (made : String) (held : CallbackId)
    (name : String) (callback : CallbackId) :
    creations name callback (history ++ [.remove made held]) =
      if (made, held) = (name, callback) then 0 else creations name callback history := by
  simp [creations]

theorem creations_other (history : List Event) {event : Event}
    (spares : ∀ name callback, event ≠ .create name callback ∧ event ≠ .remove name callback)
    (name : String) (callback : CallbackId) :
    creations name callback (history ++ [event]) = creations name callback history := by
  unfold creations
  rw [List.foldl_append]
  cases event with
  | create made held => exact absurd rfl (spares made held).1
  | remove made held => exact absurd rfl (spares made held).2
  | _ => rfl

theorem removed_no_creations {history : List Event} {name : String} {callback : CallbackId}
    (removed : Removed history name callback) : creations name callback history = 0 := by
  induction history using List.reverseRecOn with
  | nil => exact absurd removed (not_since_nil _ _)
  | append_singleton history event induction =>
      rcases (since_snoc history event).mp removed with here | ⟨kept, earlier⟩
      · rw [here, creations_remove, if_pos rfl]
      · have before := induction earlier
        cases event with
        | create made held =>
            rw [creations_create]
            split
            · rename_i same
              cases same
              exact absurd rfl kept
            · exact before
        | remove made held =>
            rw [creations_remove, before]
            split <;> rfl
        | _ =>
            rw [creations_other history (by simp)]
            exact before

def ofPair (name : String) (callback : CallbackId) (listener : EventListener) : Bool :=
  listener.event = name ∧ listener.callback = callback ∧ listener.removed = false

def liveCount (listeners : List EventListener) (name : String) (callback : CallbackId) : Nat :=
  listeners.countP (ofPair name callback)

theorem live_count_create (host : Host events Instance Response) (made : String)
    (held : CallbackId) (name : String) (callback : CallbackId) :
    liveCount (host.createListener made held).listeners name callback =
      if (made, held) = (name, callback) then liveCount host.listeners name callback + 1
      else liveCount host.listeners name callback := by
  have fresh : ofPair name callback ⟨made, held, host.gateway.node, false⟩ =
      decide ((made, held) = (name, callback)) := by
    simp [ofPair]
  unfold liveCount Host.createListener
  rw [List.countP_append, List.countP_singleton, fresh]
  by_cases same : (made, held) = (name, callback)
  · simp [same]
  · simp [same]

theorem live_count_of_latest {listeners : List EventListener} {made : String} {held : CallbackId}
    {id : ListenerId} (latest : Latest listeners made held id) (name : String)
    (callback : CallbackId) :
    liveCount (listeners.modify id fun listener => { listener with removed := true }) name callback =
      if (made, held) = (name, callback) then liveCount listeners name callback - 1
      else liveCount listeners name callback := by
  rcases latest.1 with ⟨listener, stored, sameEvent, sameCallback, unremoved⟩
  obtain ⟨inside, value⟩ := List.getElem?_eq_some_iff.mp stored
  have change : listeners.modify id (fun listener => { listener with removed := true }) =
      listeners.set id { listener with removed := true } := by
    rw [List.modify_eq_set_getElem?, stored]
    rfl
  have gone : ofPair name callback { listener with removed := true } = false := by simp [ofPair]
  unfold liveCount
  rw [change, List.countP_set inside, value, gone]
  by_cases same : (made, held) = (name, callback)
  · cases same
    simp [ofPair, sameEvent, sameCallback, unremoved]
  · have apart : ofPair name callback listener = false := by
      simp only [ofPair, sameEvent, sameCallback, decide_eq_false_iff_not]
      intro both
      exact same (Prod.ext both.1 both.2.1)
    rw [apart, if_neg same]
    rfl

def liveIds (listeners : List EventListener) (name : String) (callback : CallbackId) :
    List ListenerId :=
  (List.range listeners.length).filter fun id => (listeners[id]?).any (ofPair name callback)

theorem live_ids_length (listeners : List EventListener) (name : String) (callback : CallbackId) :
    (liveIds listeners name callback).length = liveCount listeners name callback := by
  unfold liveIds liveCount
  rw [← List.countP_eq_length_filter]
  induction listeners using List.reverseRecOn with
  | nil => rfl
  | append_singleton listeners listener induction =>
      have older : (List.range listeners.length).countP
            (fun id => ((listeners ++ [listener])[id]?).any (ofPair name callback)) =
          (List.range listeners.length).countP
            (fun id => (listeners[id]?).any (ofPair name callback)) := by
        apply List.countP_congr
        intro id member
        rw [List.getElem?_append_left (List.mem_range.mp member)]
      rw [List.length_append, List.length_singleton, List.range_succ, List.countP_append,
        List.countP_append, older, induction]
      simp

theorem mem_live_ids {listeners : List EventListener} {name : String} {callback : CallbackId}
    {id : ListenerId} :
    id ∈ liveIds listeners name callback ↔ Live listeners name callback id := by
  unfold liveIds Live
  rw [List.mem_filter, List.mem_range, Option.any_eq_true]
  simp only [ofPair, decide_eq_true_eq]
  constructor
  · exact And.right
  · intro live
    obtain ⟨listener, stored, rest⟩ := live
    exact ⟨(List.getElem?_eq_some_iff.mp stored).1, listener, stored, rest⟩

structure Tuned (flow : Flow events) : Prop where
  present : ∃ node, flow.host.nodes[flow.node]? = some node
  heard : Heard flow.host
  here : ∀ listener ∈ flow.host.listeners, listener.node = flow.host.gateway.node

def listenerOf : Handler → Option ListenerId
  | .dispatch id => some id
  | .other _ => none

def calledIds (bus : Adapter events) (eventType : String) : List ListenerId :=
  (bus.receivers eventType).filterMap listenerOf

section

variable {flow : Flow events} {node : Node events Instance Response}

theorem mem_called_ids (lawful : events.Lawful) (tuned : Tuned flow)
    (stored : flow.host.nodes[flow.node]? = some node) (name : String) (id : ListenerId) :
    id ∈ calledIds node.bus (eventKey name) ↔
      ∃ callback, Live flow.host.listeners name callback id := by
  have serves := (tuned.heard.serves node stored).2 id (eventKey name)
  have received : id ∈ calledIds node.bus (eventKey name) ↔
      Handler.dispatch id ∈ node.bus.receivers (eventKey name) := by
    unfold calledIds
    rw [List.mem_filterMap]
    constructor
    · intro found
      obtain ⟨handler, member, same⟩ := found
      cases handler with
      | dispatch other =>
          cases same
          exact member
      | other other => cases same
    · intro member
      exact ⟨_, member, rfl⟩
  rw [received]
  constructor
  · intro member
    by_cases wanted : Wanted flow.host (eventKey name) id
    · obtain ⟨listener, made, _, key, unremoved⟩ := wanted
      exact ⟨listener.callback, listener, made, event_key_injective key, rfl, unremoved⟩
    · exact absurd member (Adapter.not_receives_of_lacks lawful (serves.2 wanted))
  · intro found
    obtain ⟨callback, listener, made, sameEvent, _, unremoved⟩ := found
    apply Adapter.receives_of_holds lawful
    apply serves.1
    refine ⟨listener, made, tuned.here listener (List.mem_of_getElem? made), ?_, unremoved⟩
    rw [sameEvent]

theorem called_ids_nodup (once : events.CallsOnce) (tuned : Tuned flow)
    (stored : flow.host.nodes[flow.node]? = some node) (eventType : String) :
    (calledIds node.bus eventType).Nodup := by
  unfold calledIds
  apply Adapter.receivers_filter_map_nodup once
  intro one two first second id oneMade isFirst twoMade isSecond
  obtain ⟨kind, handler⟩ := first
  obtain ⟨twin, twinHandler⟩ := second
  cases handler with
  | other other => cases isFirst
  | dispatch first =>
      cases twinHandler with
      | other other => cases isSecond
      | dispatch second =>
          cases isFirst
          cases isSecond
          exact tuned.heard.subscription_unique stored oneMade twoMade

theorem calls_on_eq (lawful : events.Lawful) (once : events.CallsOnce) (tuned : Tuned flow)
    (name : String) (callback : CallbackId) (outcomes : Outcomes) (message : Delivered Instance) :
    callsOn flow name callback outcomes message =
      liveCount flow.host.listeners name callback := by
  obtain ⟨node, stored⟩ := tuned.present
  have calls : flow.listenerCalls outcomes (eventKey name) message =
      (calledIds node.bus (eventKey name)).filterMap fun id =>
        (flow.host.listeners[id]?).map fun listener =>
          ⟨listener.callback, message, listener.event⟩ := by
    rw [listener_calls_eq stored, calledIds, List.filterMap_filterMap]
    apply List.filterMap_congr
    intro handler _
    cases handler <;> rfl
  have counted : callsOn flow name callback outcomes message =
      ((calledIds node.bus (eventKey name)).filter fun id =>
        (flow.host.listeners[id]?).any fun listener => listener.callback = callback).length := by
    unfold callsOn
    rw [calls, List.countP_filterMap, ← List.countP_eq_length_filter]
    apply List.countP_congr
    intro id _
    cases flow.host.listeners[id]? <;> simp
  rw [counted, ← live_ids_length]
  apply List.Perm.length_eq
  apply (List.perm_ext_iff_of_nodup ((called_ids_nodup once tuned stored _).filter _)
    (List.nodup_range.filter _)).mpr
  intro id
  rw [List.mem_filter, mem_called_ids lawful tuned stored, Option.any_eq_true]
  refine Iff.trans ?_ mem_live_ids.symm
  constructor
  · intro both
    obtain ⟨⟨other, listener, made, sameEvent, _, unremoved⟩, twin, there, sameCallback⟩ := both
    rw [made, Option.some.injEq] at there
    rw [← there, decide_eq_true_eq] at sameCallback
    exact ⟨listener, made, sameEvent, sameCallback, unremoved⟩
  · intro live
    obtain ⟨listener, made, sameEvent, sameCallback, unremoved⟩ := live
    constructor
    · exact ⟨callback, listener, made, sameEvent, sameCallback, unremoved⟩
    · exact ⟨listener, made, by simpa using sameCallback⟩

end

theorem tuned_fresh (lawful : events.Lawful) (botNamespace : String) (threshold components : Nat) :
    Tuned (Flow.fresh botNamespace threshold components : Flow events) where
  present := ⟨.fresh, rfl⟩
  heard := heard_fresh lawful botNamespace threshold components
  here := by simp [Flow.fresh, Host.fresh]

theorem tuned_step (lawful : events.Lawful) {flow : Flow events} (tuned : Tuned flow)
    (event : Event) : Tuned (flow.step event) where
  present := by
    obtain ⟨node, stored⟩ := tuned.present
    obtain ⟨next, there, _⟩ := step_context stored event
    rw [step_node]
    exact ⟨next, there⟩
  heard := step_heard lawful tuned.heard event
  here := by
    have gateway : (flow.step event).host.gateway.node = flow.host.gateway.node :=
      step_node flow event
    intro listener member
    rw [gateway]
    cases event with
    | create event callback =>
        rcases List.mem_append.mp member with old | made
        · exact tuned.here listener old
        · rw [List.mem_singleton.mp made]
    | remove event callback =>
        change listener ∈ (flow.host.removeListener event callback).listeners at member
        rcases flow.host.remove_listener_cases event callback with ⟨_, same⟩ | ⟨_, _, same⟩
        · rw [same] at member
          exact tuned.here listener member
        · rw [same] at member
          obtain ⟨place, stored⟩ := List.mem_iff_getElem?.mp member
          obtain ⟨before, there, change⟩ := get_removed.mp stored
          have earlier := tuned.here before (List.mem_of_getElem? there)
          rw [change]
          split <;> exact earlier
    | _ =>
        rw [(step_spares_listeners flow (by simp)).1] at member
        exact tuned.here listener member

theorem live_count_remove {host : Host events Instance Response} (heard : Heard host)
    (made : String) (held : CallbackId) (name : String) (callback : CallbackId) :
    liveCount (host.removeListener made held).listeners name callback =
      if (made, held) = (name, callback) ∧ (host.dispatchRegistry.get? (made, held)).isSome then
        liveCount host.listeners name callback - 1
      else liveCount host.listeners name callback := by
  unfold Host.removeListener
  cases stored : host.dispatchRegistry.get? (made, held) with
  | none => simp
  | some id =>
      have latest := (heard.registry made held id).mp stored
      simp [live_count_of_latest latest]

/-- The live listeners of a pair are at least its creations, and the registry
knows one as long as there has been a creation. -/
structure Follows (history : List Event) (flow : Flow events) : Prop where
  tuned : Tuned flow
  atLeast : ∀ name callback,
    creations name callback history ≤ liveCount flow.host.listeners name callback
  known : ∀ name callback, (flow.host.dispatchRegistry.get? (name, callback)).isSome ↔
    0 < creations name callback history

theorem follows_step (lawful : events.Lawful) {history : List Event} {flow : Flow events}
    (follows : Follows history flow) (event : Event) :
    Follows (history ++ [event]) (flow.step event) where
  tuned := tuned_step lawful follows.tuned event
  atLeast := by
    intro name callback
    have before := follows.atLeast name callback
    cases event with
    | create made held =>
        have count := live_count_create flow.host made held name callback
        rw [creations_create]
        show _ ≤ liveCount (flow.host.createListener made held).listeners name callback
        rw [count]
        split <;> omega
    | remove made held =>
        have count := live_count_remove follows.tuned.heard made held name callback
        rw [creations_remove]
        show _ ≤ liveCount (flow.host.removeListener made held).listeners name callback
        rw [count]
        by_cases same : (made, held) = (name, callback)
        · rw [if_pos same]
          omega
        · rw [if_neg same, if_neg (by simp [same])]
          exact before
    | _ =>
        rw [creations_other history (by simp), (step_spares_listeners flow (by simp)).1]
        exact before
  known := by
    intro name callback
    have before := follows.known name callback
    cases event with
    | create made held =>
        rw [creations_create]
        show ((flow.host.createListener made held).dispatchRegistry.get? (name, callback)).isSome ↔ _
        simp only [Host.createListener, OrderedDict.get_set]
        by_cases same : (made, held) = (name, callback)
        · simp [same]
        · rw [if_neg same, if_neg (Ne.symm same)]
          exact before
    | remove made held =>
        rw [creations_remove]
        show ((flow.host.removeListener made held).dispatchRegistry.get? (name, callback)).isSome ↔ _
        rw [Host.remove_listener_registry]
        by_cases same : (made, held) = (name, callback)
        · simp [same]
        · rw [if_neg same, if_neg (Ne.symm same)]
          exact before
    | _ =>
        rw [creations_other history (by simp), (step_spares_listeners flow (by simp)).2.1]
        exact before

theorem follows_run (lawful : events.Lawful) (botNamespace : String) (threshold components : Nat)
    (history : List Event) :
    Follows history ((Flow.fresh botNamespace threshold components : Flow events).after history) := by
  induction history using List.reverseRecOn with
  | nil =>
      exact ⟨tuned_fresh lawful botNamespace threshold components, by simp [creations],
        by simp [creations, Flow.after, Flow.fresh, Host.fresh]⟩
  | append_singleton history event induction =>
      rw [Flow.after_snoc]
      exact follows_step lawful induction event

/-- As long as every removed pair had been created once, the live listeners are
the creations. -/
theorem live_count_eq (lawful : events.Lawful) (botNamespace : String) (threshold components : Nat)
    {history : List Event} (guarded : Throughout CreatedOnce history) (name : String)
    (callback : CallbackId) :
    liveCount ((Flow.fresh botNamespace threshold components : Flow events).after
      history).host.listeners name callback = creations name callback history := by
  induction history using List.reverseRecOn with
  | nil => rfl
  | append_singleton history event induction =>
      obtain ⟨earlier, once⟩ := throughout_snoc.mp guarded
      have before := induction earlier
      have follows : Follows history
          ((Flow.fresh botNamespace threshold components : Flow events).after history) :=
        follows_run lawful botNamespace threshold components history
      rw [Flow.after_snoc]
      generalize (Flow.fresh botNamespace threshold components : Flow events).after history =
        flow at before follows
      cases event with
      | create made held =>
          rw [creations_create, ← before]
          exact live_count_create flow.host made held name callback
      | remove made held =>
          have count := live_count_remove follows.tuned.heard made held name callback
          rw [creations_remove]
          show liveCount (flow.host.removeListener made held).listeners name callback = _
          rw [count, before]
          by_cases same : (made, held) = (name, callback)
          · cases same
            have atMost : creations name callback history ≤ 1 := once
            have known := follows.known name callback
            rw [if_pos rfl]
            split
            · omega
            · rename_i unknown
              simp only [true_and] at unknown
              have zero : ¬ 0 < creations name callback history := mt known.mpr unknown
              omega
          · rw [if_neg same, if_neg (by simp [same])]
      | _ =>
          rw [creations_other history (by simp), (step_spares_listeners flow (by simp)).1]
          exact before

theorem removal_spares (lawful : events.Lawful) (once : events.CallsOnce) (botNamespace : String)
    (threshold components : Nat) (before : List Event) (name : String) (callback : CallbackId)
    {other : String} {held : CallbackId} (different : (other, held) ≠ (name, callback))
    (outcomes : Outcomes) (message : Delivered Instance) :
    callsOn ((Flow.fresh botNamespace threshold components : Flow events).after
        (before ++ [.remove name callback])) other held outcomes message =
      callsOn ((Flow.fresh botNamespace threshold components : Flow events).after before)
        other held outcomes message := by
  have earlier : Follows before
      ((Flow.fresh botNamespace threshold components : Flow events).after before) :=
    follows_run lawful botNamespace threshold components before
  have later := tuned_step lawful earlier.tuned (.remove name callback)
  rw [Flow.after_snoc, calls_on_eq lawful once later, calls_on_eq lawful once earlier.tuned]
  have count := live_count_remove earlier.tuned.heard name callback other held
  rw [if_neg (fun both => different both.1.symm)] at count
  exact count

/-- After any calls on a gateway, a removed pair is silent and all others are
untouched at every moment exactly when each removed pair had been created at
most once since its last removal. -/
theorem removal_silences_iff_created_once (lawful : events.Lawful) (once : events.CallsOnce)
    (botNamespace : String) (threshold components : Nat) (history : List Event) :
    (∀ before, before <+: history →
        RemovalSilences (Flow.fresh botNamespace threshold components : Flow events) before) ↔
      Throughout CreatedOnce history := by
  constructor
  · intro silences before event later split
    cases event with
    | remove name callback =>
        show creations name callback before ≤ 1
        by_contra many
        have earlier : Follows before
            ((Flow.fresh botNamespace threshold components : Flow events).after before) :=
          follows_run lawful botNamespace threshold components before
        have after := tuned_step lawful earlier.tuned (.remove name callback)
        have reached : before ++ [.remove name callback] <+: history := by
          rw [split]
          exact ⟨later, by simp⟩
        have removed : Removed (before ++ [.remove name callback]) name callback :=
          (since_snoc before _).mpr (.inl rfl)
        have silent := (silences _ reached).silent name callback removed failing (.raw .null)
        rw [Flow.after_snoc, calls_on_eq lawful once after] at silent
        have count := live_count_remove earlier.tuned.heard name callback name callback
        have many : creations name callback before ≤ _ := earlier.atLeast name callback
        change liveCount ((Flow.fresh botNamespace threshold components : Flow events).after
          before |>.host.removeListener name callback).listeners name callback = 0 at silent
        rw [silent] at count
        split at count <;> omega
    | _ => trivial
  · intro guarded before shorter
    obtain ⟨rest, split⟩ := shorter
    constructor
    · intro name callback removed outcomes message
      have reached : Follows before
          ((Flow.fresh botNamespace threshold components : Flow events).after before) :=
        follows_run lawful botNamespace threshold components before
      have guardedBefore : Throughout CreatedOnce before := by
        intro first event last same
        exact guarded first event (last ++ rest) (by simp [← split, same])
      rw [calls_on_eq lawful once reached.tuned,
        live_count_eq lawful botNamespace threshold components guardedBefore]
      exact removed_no_creations removed
    · intro first name callback same other held different outcomes message
      rw [same]
      exact removal_spares lawful once botNamespace threshold components first name callback
        different outcomes message

/-- Of the pairs under two names one is removed, and one is created twice. -/
def pairs : List Event :=
  [.create "foo" 1, .create "bar" 1, .create "foo" 2, .create "foo" 2, .remove "foo" 1]

/-- The removed pair is silent, and each of the others is called as before. -/
theorem single_removal_silences :
    RemovalSilences (Flow.fresh "hbot" 3 1 : Flow (listBus Handler)) pairs ∧
      Removed pairs "foo" 1 ∧
      callsOn ((Flow.fresh "hbot" 3 1 : Flow (listBus Handler)).after pairs) "foo" 2 failing
        (.raw .null) = 2 ∧
      callsOn ((Flow.fresh "hbot" 3 1 : Flow (listBus Handler)).after pairs) "bar" 1 failing
        (.raw .null) = 1 := by
  refine ⟨?_, ⟨pairs.dropLast, _, [], rfl, rfl, by simp⟩, by decide, by decide⟩
  have created : Throughout CreatedOnce
      [.create "foo" 1, .create "bar" 1, .create "foo" 2, .create "foo" 2] := by
    intro before event later split
    have member : event ∈ [EventFlow.Event.create "foo" 1, .create "bar" 1, .create "foo" 2,
        .create "foo" 2] := by simp [split]
    cases event with
    | remove name callback => simp at member
    | _ => trivial
  have single : CreatedOnce pairs.dropLast (.remove "foo" 1) := by
    show creations "foo" 1 pairs.dropLast ≤ 1
    decide
  apply (removal_silences_iff_created_once (list_bus_lawful Handler) (list_bus_calls_once Handler)
    "hbot" 3 1 pairs).mpr
  · exact throughout_snoc.mpr ⟨created, single⟩
  · exact List.prefix_rfl

/-- The pair is created twice and removed once, and its first subscription still
calls the callback. -/
theorem second_subscription_survives_removal :
    Removed [.create "foo" 1, .create "foo" 1, .remove "foo" 1] "foo" 1 ∧
      callsOn ((Flow.fresh "hbot" 3 1 : Flow (listBus Handler)).after
        [.create "foo" 1, .create "foo" 1, .remove "foo" 1]) "foo" 1 failing (.raw .null) = 1 ∧
      ¬ RemovalSilences (Flow.fresh "hbot" 3 1 : Flow (listBus Handler))
        [.create "foo" 1, .create "foo" 1, .remove "foo" 1] := by
  have removed : Removed [.create "foo" 1, .create "foo" 1, .remove "foo" 1] "foo" 1 :=
    ⟨[.create "foo" 1, .create "foo" 1], _, [], rfl, rfl, by simp⟩
  have called : callsOn ((Flow.fresh "hbot" 3 1 : Flow (listBus Handler)).after
      [.create "foo" 1, .create "foo" 1, .remove "foo" 1]) "foo" 1 failing (.raw .null) = 1 := by
    decide
  refine ⟨removed, called, ?_⟩
  intro silences
  have silent := silences.silent "foo" 1 removed failing (.raw .null)
  rw [called] at silent
  cases silent

end RemoteIface.External.ListenerRemoval
