import Mathlib.Data.List.Induction
import RemoteIface.Commlib.CommandTable
import RemoteIface.Gateway.Confinement
import RemoteIface.External.EventFlow

/-!
Every event once. On a `NodeContext` where nothing but `MQTTExternalEvents`
subscribes to the events, a message on `external/{name}` calls the app once, and
once each callback that is registered for the name at that moment. The two
halves are kept apart: who is on the topic is a matter of the registry, who is
on the event bus a matter of the listeners.
-/

namespace RemoteIface.External.EventDelivery

set_option autoImplicit false

open RemoteIface.Library.Runs
open RemoteIface.Library.InsertionOrder
open RemoteIface.Commlib RemoteIface.Gateway
open RemoteIface.Commlib.Payload
open RemoteIface.Commlib.Topic
open RemoteIface.Commlib.Endpoints
open RemoteIface.Commlib.Dispatch
open RemoteIface.Commlib.Subscriptions
open RemoteIface.Commlib.Delivery
open RemoteIface.Commlib.Handles
open RemoteIface.Commlib.Coverage
open RemoteIface.Commlib.CommandTable
open RemoteIface.Protocols.Messages
open RemoteIface.Gateway.Lifecycle hiding Event
open RemoteIface.Gateway.Wiring
open RemoteIface.Gateway.Confinement
open RemoteIface.HbCompat.EventBusAdapter
open RemoteIface.External.Objects hiding Event
open RemoteIface.External.Bindings
open RemoteIface.External.Hearing
open RemoteIface.External.EventFlow

def HearsEvents (filter : String) : Prop :=
  ∃ name, EventName name ∧ topicMatches filter (eventTopic name) = true

/-- A call of somebody else, who subscribes to no event and serves no command
under `external/`. -/
def Foreign : RegistryCall Instance → Prop
  | .createSubscriber filter _ _ => ¬ HearsEvents filter
  | .createRpc rpcName _ _ => ∀ rest, rpcName ≠ eventTopic rest
  | _ => True

/-- The pair has been created and not removed since. -/
def Registered (history : List Event) (event : String) (callback : CallbackId) : Prop :=
  Since (fun made => made = .create event callback) (fun made => made = .remove event callback)
    history

variable {events : EventBus Handler}

/-- What may happen after `before` has led to the flow. -/
def Allowed (before : List Event) (flow : Flow events) : Event → Prop
  | .start => flow.subscriber = none
  | .called call =>
      Foreign call ∧ ∀ sub, flow.subscriber = some sub → onSubscriber call ≠ some sub
  | .create event callback => ¬ Registered before event callback
  | .queue event _ => ¬ HearsEvents (eventTopic event)
  | .message name data _ =>
      flow.subscriber ≠ none ∧ EventName name ∧ ∃ message, Decodes data message
  | _ => True

def Admitted (start : Flow events) (history : List Event) : Prop :=
  Throughout (fun before event => Allowed before (start.after before) event) history

/-- What an event adds to the calls: a message calls the app once, and once each
callback that is registered for its name. -/
def CallsEachOnce (before : List Event) (flow next : Flow events) : Event → Prop
  | .message name data _ =>
      ∃ message, Decodes data message ∧ next.appCalls = flow.appCalls ++ [.typed message] ∧
        ∃ calls, next.heard = flow.heard ++ calls ∧ calls.Nodup ∧
          ∀ call, call ∈ calls ↔
            ∃ callback, Registered before name callback ∧ call = ⟨callback, .typed message, name⟩
  | _ => next.appCalls = flow.appCalls ∧ next.heard = flow.heard

/-- Only `MQTTExternalEvents` subscribes to events, and no command is one. -/
structure Exclusive (registry : Registry Instance) (subscriber : Option SubscriberId) : Prop where
  tracked : ∃ log, Tracks log registry
  filtersOwned : FiltersOwned registry
  namesOwned : NamesOwned registry
  filters : ∀ (id : SubscriberId) filter,
    (registry.subscribers.map Subscriber.topic)[id]? = some filter → HearsEvents filter →
      subscriber = some id ∧ filter = externalFilter
  names : ∀ name ∈ registry.services.map RpcService.rpcName, ∀ rest, name ≠ eventTopic rest
  own : ∀ sub, subscriber = some sub → ∃ held, registry.subscribers[sub]? = some held ∧
    settings held =
      ⟨externalFilter, none, some externalEventMessage.msgType, externalDispatch, true⟩

namespace Exclusive

variable {registry : Registry Instance} {subscriber : Option SubscriberId}

theorem empty : Exclusive .empty none where
  tracked := ⟨_, tracks_empty⟩
  filtersOwned := .empty
  namesOwned := .empty
  filters := by
    intro id filter stored
    cases stored
  names := by
    intro name member
    cases member
  own := by
    intro sub same
    cases same

theorem perform (exclusive : Exclusive registry subscriber) {call : RegistryCall Instance}
    (foreign : Foreign call) (spared : ∀ sub, subscriber = some sub → onSubscriber call ≠ some sub) :
    Exclusive (registry.perform call) subscriber where
  tracked := by
    obtain ⟨log, tracks⟩ := exclusive.tracked
    exact ⟨_, tracks.perform call⟩
  filtersOwned := exclusive.filtersOwned.perform call
  namesOwned := exclusive.namesOwned.perform call
  filters := by
    intro id filter stored hears
    rw [perform_topics, List.getElem?_append] at stored
    split at stored
    · exact exclusive.filters id filter stored hears
    · have made := List.mem_of_getElem? stored
      cases call with
      | createSubscriber topic onMessage msgType =>
          rw [madeFilter, List.mem_singleton] at made
          exact absurd (made ▸ hears) foreign
      | _ => cases made
  names := by
    intro name member
    rw [perform_names, List.mem_append] at member
    rcases member with old | made
    · exact exclusive.names name old
    · cases call with
      | createRpc rpcName msgType onRequest =>
          rw [madeName, List.mem_singleton] at made
          rw [made]
          exact foreign
      | _ => cases made
  own := by
    intro sub same
    obtain ⟨held, stored, settled⟩ := exclusive.own sub same
    exact ⟨held, perform_subscriber stored (spared sub same), settled⟩

/-- `MQTTExternalEvents` is started on a context that has none yet. -/
theorem start (exclusive : Exclusive registry none) :
    Exclusive (registry.perform (.createSubscriber externalFilter externalDispatch
      (some externalEventMessage.msgType))) (some registry.subscribers.length) where
  tracked := by
    obtain ⟨log, tracks⟩ := exclusive.tracked
    exact ⟨_, tracks.perform _⟩
  filtersOwned := exclusive.filtersOwned.perform _
  namesOwned := exclusive.namesOwned.perform _
  filters := by
    intro id filter stored hears
    rw [perform_topics] at stored
    rcases get_concat_cases stored with old | ⟨place, same⟩
    · have nobody := (exclusive.filters id filter old hears).1
      cases nobody
    · rw [place, List.length_map]
      exact ⟨rfl, same⟩
  names := by
    rw [perform_names]
    exact fun name member => exclusive.names name (by simpa [madeName] using member)
  own := by
    intro sub same
    cases same
    simp [Registry.perform, Registry.createSubscriber, Registry.startSubscriber, settings]

theorem routed (exclusive : Exclusive registry subscriber) {next : Registry Instance}
    (recorded : Recorded registry next) (same : SameTables registry next) :
    Exclusive next subscriber where
  tracked := by
    obtain ⟨log, tracks⟩ := exclusive.tracked
    exact ⟨log, tracks.congr same.topics same.flags same.subCallbacks⟩
  filtersOwned := exclusive.filtersOwned.congr same.topics same.subCallbacks
  namesOwned := exclusive.namesOwned.congr (by rw [recorded.services]) same.commandTable
  filters := by
    rw [same.topics]
    exact exclusive.filters
  names := by
    rw [recorded.services]
    exact exclusive.names
  own := by
    intro sub known
    obtain ⟨held, stored, settled⟩ := exclusive.own sub known
    have there : (next.subscribers.map settings)[sub]? = some (settings held) := by
      rw [recorded.subscribers, List.getElem?_map, stored]
      rfl
    rw [List.getElem?_map, Option.map_eq_some_iff] at there
    obtain ⟨after, atSub, same⟩ := there
    exact ⟨after, atSub, same.trans settled⟩

theorem listed {sub : SubscriberId} (exclusive : Exclusive registry (some sub)) :
    registry.callbacksOn externalFilter = [sub] := by
  obtain ⟨log, tracks⟩ := exclusive.tracked
  obtain ⟨held, stored, settled⟩ := exclusive.own sub rfl
  obtain ⟨topic, _, _, _, started⟩ := Subscriber.mk.inj settled
  have live : sub ∈ log.live := (tracks.started sub held stored).mp started
  have heard : HearsEvents externalFilter :=
    ⟨"", ⟨by decide, by decide⟩, external_filter_matches ⟨by decide, by decide⟩⟩
  rw [tracks.lists]
  apply List.perm_singleton.mp
  apply (List.perm_ext_iff_of_nodup (tracks.distinct.filter _) (List.nodup_singleton sub)).mpr
  intro id
  rw [List.mem_filter, List.mem_singleton, decide_eq_true_eq]
  constructor
  · rintro ⟨_, atId⟩
    rw [← tracks.filters] at atId
    have owner := (exclusive.filters id externalFilter atId heard).1
    cases owner
    rfl
  · intro same
    rw [same]
    exact ⟨live, (tracks.filter_of stored).trans (congrArg some topic)⟩

theorem handles {sub : SubscriberId} (exclusive : Exclusive registry (some sub)) :
    handling registry sub = some (externalDispatch, some externalEventMessage.msgType) := by
  obtain ⟨held, stored, settled⟩ := exclusive.own sub rfl
  obtain ⟨_, _, msgType, onMessage, _⟩ := Subscriber.mk.inj settled
  rw [handling, stored, Option.map_some, onMessage, msgType]

/-- A message reaches the subscriber of `MQTTExternalEvents` and nobody else. -/
theorem reaches {router : Router Instance Response} {sub : SubscriberId}
    (exclusive : Exclusive router.registry (some sub)) {name : String} (isName : EventName name) :
    reached router (eventTopic name) = [sub] := by
  have noCommand : eventTopic name ∉ router.registry.commandTable.keys := by
    intro key
    exact exclusive.names _ (exclusive.namesOwned _ key) name rfl
  have only : ∀ filter ∈ router.registry.subCallbacks.keys,
      topicMatches filter (eventTopic name) = true → filter = externalFilter := by
    intro filter key matching
    obtain ⟨id, stored⟩ := List.mem_iff_getElem?.mp (exclusive.filtersOwned filter key)
    exact (exclusive.filters id filter stored ⟨name, isName, matching⟩).2
  have isKey : externalFilter ∈ router.registry.subCallbacks.keys := by
    apply OrderedDict.get_isSome_iff.mp
    have listed := exclusive.listed
    unfold Registry.callbacksOn at listed
    cases entry : router.registry.subCallbacks.get? externalFilter with
    | none => simp [entry] at listed
    | some ids => rfl
  cases best : bestEntry router.registry (eventTopic name) with
  | none =>
      have unmatched := best_entry_none best externalFilter isKey
      rw [external_filter_matches isName] at unmatched
      cases unmatched
  | some entry =>
      rcases entry with ⟨filter, ids⟩
      obtain ⟨onFilter, matching, before, after, split, _⟩ := best_entry_splits best
      have same : filter = externalFilter := only filter (by simp [split]) matching
      rw [reached_of_best noCommand best, ← onFilter, same]
      exact exclusive.listed

end Exclusive

def Live (listeners : List EventListener) (event : String) (callback : CallbackId)
    (id : ListenerId) : Prop :=
  ∃ listener, listeners[id]? = some listener ∧ listener.event = event ∧
    listener.callback = callback ∧ listener.removed = false

/-- The bus serves the listeners, and they are what the history has registered:
each pair once. -/
structure Listening (history : List Event) (host : Host events Instance Response) : Prop where
  heard : Heard host
  here : ∀ listener ∈ host.listeners, listener.node = host.gateway.node
  latest : ∀ event callback id, Live host.listeners event callback id →
    Latest host.listeners event callback id
  registered : ∀ event callback, Registered history event callback ↔
    ∃ id, Live host.listeners event callback id

theorem registered_snoc (history : List Event) (next : Event) (event : String)
    (callback : CallbackId) :
    Registered (history ++ [next]) event callback ↔
      next = .create event callback ∨
        ¬ next = .remove event callback ∧ Registered history event callback :=
  since_snoc history next

theorem live_create {listeners : List EventListener} (made : EventListener)
    (kept : made.removed = false) (event : String) (callback : CallbackId) (id : ListenerId) :
    Live (listeners ++ [made]) event callback id ↔
      Live listeners event callback id ∨
        id = listeners.length ∧ made.event = event ∧ made.callback = callback := by
  constructor
  · rintro ⟨listener, stored, sameEvent, sameCallback, unremoved⟩
    rcases get_concat_cases stored with old | ⟨place, same⟩
    · exact .inl ⟨listener, old, sameEvent, sameCallback, unremoved⟩
    · rw [same] at sameEvent sameCallback
      exact .inr ⟨place, sameEvent, sameCallback⟩
  · rintro (⟨listener, stored, both⟩ | ⟨rfl, sameEvent, sameCallback⟩)
    · have inside := (List.getElem?_eq_some_iff.mp stored).1
      exact ⟨listener, (List.getElem?_append_left inside).trans stored, both⟩
    · exact ⟨made, List.getElem?_concat_length, sameEvent, sameCallback, kept⟩

theorem live_remove {listeners : List EventListener} (removed : ListenerId) (event : String)
    (callback : CallbackId) (id : ListenerId) :
    Live (listeners.modify removed fun held => { held with removed := true }) event callback id ↔
      id ≠ removed ∧ Live listeners event callback id := by
  unfold Live
  constructor
  · rintro ⟨listener, stored, sameEvent, sameCallback, unremoved⟩
    obtain ⟨before, there, same⟩ := get_removed.mp stored
    split at same
    · rw [same] at unremoved
      cases unremoved
    · rename_i different
      rw [same] at sameEvent sameCallback unremoved
      exact ⟨fun equal => different equal.symm, before, there, sameEvent, sameCallback, unremoved⟩
  · rintro ⟨different, listener, stored, both⟩
    refine ⟨listener, get_removed.mpr ⟨listener, stored, ?_⟩, both⟩
    rw [if_neg fun equal => different equal.symm]

namespace Listening

variable {history : List Event} {host : Host events Instance Response}

theorem fresh (lawful : events.Lawful) (botNamespace : String) (threshold components : Nat) :
    Listening [] (Host.fresh botNamespace threshold components : Host events Instance Response) where
  heard := heard_fresh lawful botNamespace threshold components
  here := by simp [Host.fresh]
  latest := by simp [Host.fresh, Live]
  registered := by
    intro event callback
    constructor
    · intro registered
      exact absurd registered (not_since_nil _ _)
    · rintro ⟨id, listener, stored, _⟩
      cases stored

theorem other (listening : Listening history host) {next : Host events Instance Response}
    {event : Event} (heard : Heard next) (gateway : next.gateway = host.gateway)
    (listeners : next.listeners = host.listeners)
    (spares : ∀ name callback, event ≠ .create name callback ∧ event ≠ .remove name callback) :
    Listening (history ++ [event]) next where
  heard := heard
  here := by
    rw [listeners, gateway]
    exact listening.here
  latest := by
    rw [listeners]
    exact listening.latest
  registered := by
    intro name callback
    rw [registered_snoc, listeners, ← listening.registered]
    simp [spares name callback]

theorem create (lawful : events.Lawful) (listening : Listening history host) {event : String}
    {callback : CallbackId} (new : ¬ Registered history event callback) :
    Listening (history ++ [.create event callback]) (host.createListener event callback) where
  heard := heard_create lawful listening.heard event callback
  here := by
    intro listener member
    rcases List.mem_append.mp member with old | made
    · exact listening.here listener old
    · rw [List.mem_singleton.mp made]
      rfl
  latest := by
    intro name held id live
    refine (latest_create _ rfl name held id).mpr ?_
    rcases (live_create _ rfl name held id).mp live with old | ⟨place, sameEvent, sameCallback⟩
    · split
      · rename_i same
        cases same
        exact absurd ((listening.registered _ _).mpr ⟨id, old⟩) new
      · exact listening.latest name held id old
    · rw [if_pos (by rw [← sameEvent, ← sameCallback])]
      exact place
  registered := by
    intro name held
    rw [registered_snoc, listening.registered]
    constructor
    · rintro (made | ⟨_, id, live⟩)
      · cases made
        exact ⟨host.listeners.length, (live_create _ rfl _ _ _).mpr (.inr ⟨rfl, rfl, rfl⟩)⟩
      · exact ⟨id, (live_create _ rfl _ _ _).mpr (.inl live)⟩
    · rintro ⟨id, live⟩
      rcases (live_create _ rfl name held id).mp live with old | ⟨_, sameEvent, sameCallback⟩
      · exact .inr ⟨by simp, id, old⟩
      · exact .inl (congrArg₂ EventFlow.Event.create sameEvent sameCallback)

theorem remove (lawful : events.Lawful) (listening : Listening history host) (event : String)
    (callback : CallbackId) :
    Listening (history ++ [.remove event callback]) (host.removeListener event callback) := by
  have heard := heard_remove lawful listening.heard event callback
  rcases remove_cases listening.heard event callback with ⟨nobody, same⟩ | ⟨removed, latest, same⟩
  · rw [same]
    exact {
      heard := listening.heard
      here := listening.here
      latest := listening.latest
      registered := by
        intro name held
        rw [registered_snoc, listening.registered]
        constructor
        · rintro (made | ⟨_, registered⟩)
          · cases made
          · exact registered
        · rintro ⟨id, live⟩
          refine .inr ⟨?_, id, live⟩
          intro removes
          cases removes
          exact nobody id (listening.latest event callback id live) }
  · rw [same] at heard ⊢
    -- Only the removed listener is live under its own event and callback.
    have apart : ∀ name held id, Live host.listeners name held id →
        (id ≠ removed ↔ ¬ EventFlow.Event.remove event callback = .remove name held) := by
      intro name held id live
      constructor
      · intro different removes
        cases removes
        exact different ((listening.latest event callback id live).unique latest)
      · rintro different rfl
        rcases latest with ⟨⟨listener, stored, sameEvent, sameCallback, _⟩, _⟩
        rcases live with ⟨other, there, isEvent, isCallback, _⟩
        rw [stored, Option.some.injEq] at there
        apply different
        rw [← sameEvent, ← sameCallback, ← isEvent, ← isCallback, there]
    exact {
      heard := heard
      here := by
        intro listener member
        obtain ⟨place, stored⟩ := List.mem_iff_getElem?.mp member
        obtain ⟨before, there, change⟩ := get_removed.mp stored
        have earlier := listening.here before (List.mem_of_getElem? there)
        rw [change]
        split <;> exact earlier
      latest := by
        intro name held id live
        obtain ⟨different, old⟩ := (live_remove removed name held id).mp live
        refine (latest_remove latest name held id).mpr ⟨?_, listening.latest name held id old⟩
        intro same
        cases same
        exact (apart event callback id old).mp different rfl
      registered := by
        intro name held
        rw [registered_snoc, listening.registered]
        constructor
        · rintro (made | ⟨different, id, live⟩)
          · cases made
          · exact ⟨id, (live_remove _ _ _ _).mpr ⟨(apart name held id live).mpr different, live⟩⟩
        · rintro ⟨id, live⟩
          obtain ⟨different, old⟩ := (live_remove removed name held id).mp live
          exact .inr ⟨(apart name held id old).mp different, id, old⟩ }

theorem wanted_iff (listening : Listening history host) (eventType : String) (id : ListenerId) :
    Wanted host eventType id ↔
      ∃ event callback, Live host.listeners event callback id ∧ eventKey event = eventType := by
  constructor
  · rintro ⟨listener, stored, _, key, unremoved⟩
    exact ⟨listener.event, listener.callback, ⟨listener, stored, rfl, rfl, unremoved⟩, key⟩
  · rintro ⟨event, callback, ⟨listener, stored, sameEvent, _, unremoved⟩, key⟩
    refine ⟨listener, stored, listening.here listener (List.mem_of_getElem? stored), ?_, unremoved⟩
    rw [sameEvent]
    exact key

end Listening

section

variable {history : List Event} {flow : Flow events} {node : Node events Instance Response}

theorem listener_calls_eq (stored : flow.host.nodes[flow.node]? = some node) (outcomes : Outcomes)
    (eventType : String) (message : Delivered Instance) :
    flow.listenerCalls outcomes eventType message =
      (node.bus.receivers eventType).filterMap fun handler =>
        match handler with
        | .dispatch id =>
            (flow.host.listeners[id]?).map fun listener =>
              ⟨listener.callback, message, listener.event⟩
        | .other _ => none := by
  have receivers : flow.host.receivers flow.node eventType = node.bus.receivers eventType := by
    simp [Host.receivers, stored]
  have all := listener_calls_all flow outcomes eventType message
  rw [receivers] at all
  exact all

/-- A listener whose `_dispatch` is subscribed to an event type is live, for the
event of that type. -/
theorem live_of_registration (listening : Listening history flow.host)
    (stored : flow.host.nodes[flow.node]? = some node) {sub : events.Subscription}
    {eventType : String} {id : ListenerId} {listener : EventListener}
    (subscribed : events.registration node.bus.bus sub = some (eventType, .dispatch id))
    (made : flow.host.listeners[id]? = some listener) :
    Live flow.host.listeners listener.event listener.callback id ∧
      eventKey listener.event = eventType := by
  have wanted := listening.heard.wanted_of_registration stored subscribed
  obtain ⟨event, callback, live, key⟩ := (listening.wanted_iff eventType id).mp wanted
  rcases live with ⟨held, there, sameEvent, sameCallback, unremoved⟩
  rw [made, Option.some.injEq] at there
  rw [there]
  exact ⟨⟨held, there ▸ made, rfl, rfl, unremoved⟩, sameEvent ▸ key⟩

theorem mem_listener_calls (lawful : events.Lawful) (listening : Listening history flow.host)
    (stored : flow.host.nodes[flow.node]? = some node) (outcomes : Outcomes) (name : String)
    (message : Delivered Instance) (call : ListenerCall) :
    call ∈ flow.listenerCalls outcomes (eventKey name) message ↔
      ∃ callback, Registered history name callback ∧ call = ⟨callback, message, name⟩ := by
  rw [listener_calls_eq stored, List.mem_filterMap]
  constructor
  · rintro ⟨handler, received, calls⟩
    cases handler with
    | other other => cases calls
    | dispatch id =>
        obtain ⟨listener, made, same⟩ := Option.map_eq_some_iff.mp calls
        obtain ⟨sub, subscribed⟩ := (lawful.receives _ _ _).mp received
        obtain ⟨live, key⟩ := live_of_registration listening stored subscribed made
        have named := event_key_injective key
        rw [named] at live same
        exact ⟨listener.callback, (listening.registered _ _).mpr ⟨id, live⟩, same.symm⟩
  · rintro ⟨callback, registered, same⟩
    obtain ⟨id, live⟩ := (listening.registered name callback).mp registered
    have wanted := (listening.wanted_iff (eventKey name) id).mpr ⟨name, callback, live, rfl⟩
    have holds := ((listening.heard.serves node stored).2 id (eventKey name)).1 wanted
    refine ⟨.dispatch id, Adapter.receives_of_holds lawful holds, ?_⟩
    rcases live with ⟨listener, made, sameEvent, sameCallback, _⟩
    dsimp only
    rw [made, Option.map_some, sameEvent, sameCallback, same]

theorem listener_calls_nodup (once : events.CallsOnce)
    (listening : Listening history flow.host) (stored : flow.host.nodes[flow.node]? = some node)
    (outcomes : Outcomes) (eventType : String) (message : Delivered Instance) :
    (flow.listenerCalls outcomes eventType message).Nodup := by
  rw [listener_calls_eq stored]
  apply Adapter.receivers_filter_map_nodup once
  intro one two first second call oneMade firstCalls twoMade secondCalls
  -- A subscription that leads to a call is that of a live listener.
  have origin : ∀ sub (made : String × Handler),
      events.registration node.bus.bus sub = some made →
      (match made.2 with
        | .dispatch id =>
            (flow.host.listeners[id]?).map fun listener =>
              (⟨listener.callback, message, listener.event⟩ : ListenerCall)
        | .other _ => none) = some call →
      ∃ id, made.2 = .dispatch id ∧ Live flow.host.listeners call.event call.callback id := by
    intro sub made subscribed calls
    obtain ⟨kind, handler⟩ := made
    cases handler with
    | other other => cases calls
    | dispatch id =>
        obtain ⟨listener, there, same⟩ := Option.map_eq_some_iff.mp calls
        obtain ⟨live, _⟩ := live_of_registration listening stored subscribed there
        rw [← same]
        exact ⟨id, rfl, live⟩
  obtain ⟨id, isFirst, firstLive⟩ := origin one first oneMade firstCalls
  obtain ⟨other, isSecond, secondLive⟩ := origin two second twoMade secondCalls
  have same : other = id :=
    (listening.latest _ _ _ secondLive).unique (listening.latest _ _ _ firstLive)
  subst same
  obtain ⟨kind, handler⟩ := first
  obtain ⟨twin, twinHandler⟩ := second
  cases isFirst
  cases isSecond
  exact listening.heard.subscription_unique stored oneMade twoMade

end

structure Sound (history : List Event) (flow : Flow events) : Prop where
  present : ∃ node, flow.host.nodes[flow.node]? = some node
  exclusive : Exclusive flow.router.registry flow.subscriber
  listening : Listening history flow.host

theorem sound_fresh (lawful : events.Lawful) (botNamespace : String) (threshold components : Nat) :
    Sound [] (Flow.fresh botNamespace threshold components : Flow events) where
  present := ⟨.fresh, rfl⟩
  exclusive := .empty
  listening := .fresh lawful botNamespace threshold components

variable {history : List Event} {flow : Flow events}

theorem exclusive_step (sound : Sound history flow) {event : Event}
    (allowed : Allowed history flow event) :
    Exclusive (flow.step event).router.registry (flow.step event).subscriber := by
  obtain ⟨node, stored⟩ := sound.present
  have exclusive := sound.exclusive
  rw [step_router stored event]
  cases event with
  | start =>
      have none : flow.subscriber = none := allowed
      rw [none] at exclusive
      exact exclusive.start
  | called call => exact exclusive.perform allowed.1 allowed.2
  | subscribeEvent eventType handler => exact exclusive
  | unsubscribeEvent eventType handler => exact exclusive
  | create event callback => exact exclusive
  | remove event callback => exact exclusive
  | queue event maxlen =>
      have foreign : Foreign (.createSubscriber (eventTopic event)
          (queueCallback flow.queues.length) none) := allowed
      exact exclusive.perform foreign (by simp [onSubscriber])
  | message name data outcomes =>
      have subscriber : (flow.receive name data outcomes).subscriber = flow.subscriber :=
        (receive_records flow name data outcomes).subscriber
      have dispatched : dispatchIncoming outcomes.edges flow.router ⟨eventTopic name, .value data⟩ =
          .ok (routeMessage outcomes.edges flow.router (eventTopic name) data) := rfl
      show Exclusive _ (flow.receive name data outcomes).subscriber
      rw [subscriber]
      exact exclusive.routed (dispatch_recorded dispatched) (dispatch_same_tables dispatched)

theorem listening_step (lawful : events.Lawful) (listening : Listening history flow.host)
    {event : Event} (allowed : Allowed history flow event) :
    Listening (history ++ [event]) (flow.step event).host := by
  have others : (∀ name callback, event ≠ .create name callback ∧
      event ≠ .remove name callback) → Listening (history ++ [event]) (flow.step event).host := by
    intro spares
    obtain ⟨listeners, _, gateway⟩ := step_spares_listeners flow spares
    exact listening.other (step_heard lawful listening.heard event) gateway listeners spares
  cases event with
  | create event callback => exact listening.create lawful allowed
  | remove event callback => exact listening.remove lawful event callback
  | _ => exact others (by simp)

theorem sound_step (lawful : events.Lawful) (sound : Sound history flow) {event : Event}
    (allowed : Allowed history flow event) :
    Sound (history ++ [event]) (flow.step event) where
  present := by
    obtain ⟨node, stored⟩ := sound.present
    obtain ⟨next, there, _⟩ := step_context stored event
    rw [step_node]
    exact ⟨next, there⟩
  exclusive := exclusive_step sound allowed
  listening := listening_step lawful sound.listening allowed

theorem sound_run (lawful : events.Lawful) {start : Flow events} (base : Sound [] start)
    {history : List Event} (admitted : Admitted start history) :
    Sound history (start.after history) := by
  induction history using List.reverseRecOn with
  | nil => exact base
  | append_singleton history event induction =>
      obtain ⟨earlier, allowed⟩ := throughout_snoc.mp admitted
      rw [Flow.after_snoc]
      exact sound_step lawful (induction earlier) allowed

theorem calls_each_once (lawful : events.Lawful) (once : events.CallsOnce)
    (sound : Sound history flow) {event : Event} (allowed : Allowed history flow event) :
    CallsEachOnce history flow (flow.step event) event := by
  cases event with
  | message name data outcomes =>
      rcases allowed with ⟨started, isName, message, decodes⟩
      obtain ⟨sub, own⟩ := Option.ne_none_iff_exists'.mp started
      obtain ⟨node, stored⟩ := sound.present
      have exclusive := sound.exclusive
      rw [own] at exclusive
      obtain ⟨appCalls, heard⟩ := receive_dispatches stored own exclusive.handles (by simp)
        (exclusive.reaches isName) decodes outcomes
      refine ⟨message, decodes, appCalls, _, heard, ?_, ?_⟩
      · exact listener_calls_nodup once sound.listening stored outcomes _ _
      · exact mem_listener_calls lawful sound.listening stored outcomes name _
  | _ => exact ⟨rfl, rfl⟩

/-- Every callback of the message raises, and so does the app. -/
def failing : Outcomes :=
  ⟨fun _ _ => .error typeError, .error typeError, fun _ => .error typeError⟩

/-- Three listeners under two names, of which one is removed again. -/
def listenersOfTwoNames : List Event :=
  [.create "foo" 1, .create "bar" 2, .create "foo" 3, .start, .remove "foo" 1]

theorem listeners_of_two_names_admitted :
    Admitted (Flow.fresh "hbot" 3 1 : Flow (listBus Handler)) listenersOfTwoNames := by
  have first : Admitted (Flow.fresh "hbot" 3 1 : Flow (listBus Handler))
      ([] ++ [.create "foo" 1]) :=
    throughout_snoc.mpr ⟨throughout_nil _, not_since_nil _ _⟩
  have second : Admitted (Flow.fresh "hbot" 3 1 : Flow (listBus Handler))
      ([.create "foo" 1] ++ [.create "bar" 2]) := by
    refine throughout_snoc.mpr ⟨first, fun registered => ?_⟩
    obtain ⟨event, member, rfl⟩ := begun_of_since registered
    simp at member
  have third : Admitted (Flow.fresh "hbot" 3 1 : Flow (listBus Handler))
      ([.create "foo" 1, .create "bar" 2] ++ [.create "foo" 3]) := by
    refine throughout_snoc.mpr ⟨second, fun registered => ?_⟩
    obtain ⟨event, member, rfl⟩ := begun_of_since registered
    simp at member
  have started : Admitted (Flow.fresh "hbot" 3 1 : Flow (listBus Handler))
      ([.create "foo" 1, .create "bar" 2, .create "foo" 3] ++ [.start]) :=
    throughout_snoc.mpr ⟨third, rfl⟩
  have removed : Admitted (Flow.fresh "hbot" 3 1 : Flow (listBus Handler))
      ([.create "foo" 1, .create "bar" 2, .create "foo" 3, .start] ++ [.remove "foo" 1]) :=
    throughout_snoc.mpr ⟨started, trivial⟩
  exact removed

end RemoteIface.External.EventDelivery
