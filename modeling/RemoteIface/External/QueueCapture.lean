import Mathlib.Data.List.Induction
import RemoteIface.Gateway.Confinement
import RemoteIface.External.EventFlow

/-!
A queue of `EEventQueueFactory` beside `MQTTExternalEvents`. The queue subscribes
to `external/{event_name}` itself, and a message goes to the most specific filter
only. Two runs of a gateway are compared, with its queues and without them.
-/

namespace RemoteIface.External.QueueCapture

set_option autoImplicit false

open RemoteIface.Library.Runs
open RemoteIface.Library.InsertionOrder
open RemoteIface.Commlib RemoteIface.Gateway
open RemoteIface.Commlib.Payload
open RemoteIface.Commlib.Topic
open RemoteIface.Commlib.Endpoints
open RemoteIface.Commlib.Dispatch
open RemoteIface.Commlib.Subscriptions
open RemoteIface.Commlib.Delivery
open RemoteIface.Commlib.Coverage
open RemoteIface.Protocols.Messages
open RemoteIface.Gateway.Lifecycle hiding Event
open RemoteIface.Gateway.Wiring
open RemoteIface.Gateway.TopicTables
open RemoteIface.Gateway.Confinement
open RemoteIface.HbCompat.EventBusAdapter
open RemoteIface.External.Objects hiding Event
open RemoteIface.External.Bindings
open RemoteIface.External.EventFlow

def componentEvents (config : GatewayConfig) : Component → List Event
  | .externalEvents => if config.enableExternalEvents then [.start] else []
  | component => (componentCalls config component).map .called

def startEvents (config : GatewayConfig) : List Event :=
  (createGateway config).flatMap (componentEvents config)

variable {events : EventBus Handler}

/-- A gateway whose components have been started. -/
def gatewayFlow (config : GatewayConfig) (threshold : Nat) : Flow events :=
  (Flow.fresh config.botNamespace threshold (createGateway config).length).after
    (startEvents config)

/-- Queues, listeners and decodable messages; nothing else uses the gateway. -/
def Plain : Event → Prop
  | .start => False
  | .called _ => False
  | .message name data _ => EventName name ∧ ∃ message, Decodes data message
  | _ => True

def queueName : Event → Option String
  | .queue event _ => some event
  | _ => none

def withoutQueues (history : List Event) : List Event :=
  history.filter fun event => (queueName event).isNone

/-- A queue of the first name takes the messages on the second one: its filter
is more specific than that of `MQTTExternalEvents`. From a queue of its own name
a command takes them. -/
def Takes (config : GatewayConfig) (queue name : String) : Prop :=
  if eventTopic name ∈ (startedRegistry config).commandTable.keys then queue = name
  else topicMatches (eventTopic queue) (eventTopic name) = true ∧
    patternSpecificity externalFilter < patternSpecificity (eventTopic queue)

/-- No queue that was created before the message takes it. -/
def Untaken (config : GatewayConfig) (before : List Event) : Event → Prop
  | .message name _ _ => ∀ queue ∈ before.filterMap queueName, ¬ Takes config queue name
  | _ => True

/-- Every queue of the name gets the message. Its deque drops the oldest entry
when it holds `maxlen` of them. -/
def Fills (flow next : Flow events) : Event → Prop
  | .message name data _ => ∀ (index : Nat) queue, flow.queues[index]? = some queue →
      queue.event = name → ∃ filled, next.queues[index]? = some filled ∧
        filled.received = queue.received ++ [(name, .raw data)] ∧
        filled.contents = (queue.contents ++ [(name, Delivered.raw data)]).drop
          (queue.contents.length + 1 - queue.maxlen)
  | _ => True

/-- What the queues take from nobody: the app and the listeners are called as
without them, and they get their own messages. -/
structure TakesNothing (start : Flow events) (history : List Event) : Prop where
  appCalls : (start.after history).appCalls = (start.after (withoutQueues history)).appCalls
  heard : (start.after history).heard = (start.after (withoutQueues history)).heard
  fills : Throughout (fun before event =>
    Fills (start.after before) (start.after (before ++ [event])) event) history

theorem external_specificity : patternSpecificity externalFilter = toLex (1, 1) := by
  decide

theorem name_specificity {name : String} (isName : EventName name) :
    patternSpecificity (eventTopic name) = toLex (2, 1) := by
  have literal : name.toList ≠ plus ∧ name.toList ≠ hash := by
    have flat := isName.2
    unfold hasWildcard at flat
    constructor
    · intro same
      rw [same] at flat
      cases flat
    · intro same
      rw [same] at flat
      cases flat
  unfold patternSpecificity
  rw [event_segments isName.1]
  have first : "external".toList ≠ plus ∧ "external".toList ≠ hash := by decide
  generalize "external".toList = lead at first ⊢
  simp [literal, first, literal.2.symm, first.2.symm]

theorem name_literal {name : String} (isName : EventName name) :
    hasWildcard (eventTopic name) = false := by
  have flat := isName.2
  unfold hasWildcard at flat ⊢
  simpa [eventTopic] using flat

theorem takes_own (config : GatewayConfig) {name : String} (isName : EventName name) :
    Takes config name name := by
  unfold Takes
  split
  · rfl
  · refine ⟨exact_filter_matches_self (name_literal isName), ?_⟩
    rw [external_specificity, name_specificity isName]
    decide

theorem takes_iff (config : GatewayConfig) {queue name : String} (isQueue : EventName queue)
    (isName : EventName name) : Takes config queue name ↔ queue = name := by
  constructor
  · unfold Takes
    split
    · exact id
    · rintro ⟨matching, _⟩
      exact event_topic_injective ((exact_filter_matches_iff (name_literal isQueue)).mp matching)
  · intro same
    rw [same]
    exact takes_own config isName

/-- The subscriber of `MQTTExternalEvents`. -/
def gatewaySubscriber : Subscriber Instance :=
  ⟨externalFilter, none, some externalEventMessage.msgType, externalDispatch, true⟩

def madeSubscriber : RegistryCall Instance → List (Subscriber Instance)
  | .createSubscriber topic onMessage msgType => [⟨topic, none, msgType, onMessage, true⟩]
  | _ => []

theorem created_subscribers (registry : Registry Instance) {call : RegistryCall Instance}
    (creates : Creates call) :
    (registry.perform call).subscribers = registry.subscribers ++ madeSubscriber call := by
  cases call with
  | createPublisher topic => exact (List.append_nil _).symm
  | createSubscriber topic onMessage msgType =>
      simp [Registry.perform, Registry.createSubscriber, Registry.startSubscriber, madeSubscriber]
  | createRpc rpcName msgType onRequest => simp [Registry.perform, madeSubscriber]
  | _ => exact creates.elim

theorem performed_subscribers {calls : List (RegistryCall Instance)}
    (create : ∀ call ∈ calls, Creates call) (registry : Registry Instance) :
    (registry.performAll calls).subscribers =
      registry.subscribers ++ calls.flatMap madeSubscriber := by
  induction calls generalizing registry with
  | nil => exact (List.append_nil _).symm
  | cons call rest induction =>
      have later := induction (fun other member => create other (List.mem_cons_of_mem _ member))
        (registry.perform call)
      rw [created_subscribers registry (create call List.mem_cons_self)] at later
      rw [List.flatMap_cons, ← List.append_assoc]
      exact later

theorem component_subscribers (config : GatewayConfig) {component : Component}
    (other : component ≠ .externalEvents) :
    (componentCalls config component).flatMap madeSubscriber = [] := by
  cases component with
  | commands => simp [componentCalls, madeSubscriber]
  | publishing role =>
      simp only [componentCalls]
      split <;> rfl
  | externalEvents => exact absurd rfl other

section

variable {config : GatewayConfig} (enabled : config.enableExternalEvents = true)

include enabled

theorem gateway_split :
    ∃ before after, createGateway config = before ++ .externalEvents :: after ∧
      .externalEvents ∉ before ∧ .externalEvents ∉ after := by
  refine ⟨(if config.enableCommands then [.commands] else []) ++
    (if config.enableNotifier then [.publishing .notifier] else []) ++
    (if config.enableStatusUpdates then [.publishing .statusUpdates] else []) ++
    (if config.enableEvents then [.publishing .marketEvents] else []),
    (if config.enableLogHandler then [.publishing .logHandler] else []), ?_, ?_, ?_⟩
  · simp [createGateway, enabled]
  · simp
  · simp

/-- The start of `MQTTExternalEvents` among the calls of the other components. -/
theorem start_split :
    ∃ before after : List (RegistryCall Instance),
      startEvents config = before.map .called ++ .start :: after.map .called ∧
      startCalls config = before ++ .createSubscriber externalFilter externalDispatch
        (some externalEventMessage.msgType) :: after ∧
      before.flatMap madeSubscriber = [] ∧ after.flatMap madeSubscriber = [] := by
  obtain ⟨before, after, split, notBefore, notAfter⟩ := gateway_split enabled
  have seen : ∀ components : List Component, .externalEvents ∉ components →
      components.flatMap (componentEvents config) =
          (components.flatMap (componentCalls config)).map .called ∧
        (components.flatMap (componentCalls config)).flatMap madeSubscriber = [] := by
    intro components absent
    constructor
    · rw [List.map_flatMap]
      apply List.flatMap_congr
      intro component member
      cases component with
      | externalEvents => exact absurd member absent
      | _ => rfl
    · rw [List.flatMap_assoc, List.flatMap_eq_nil_iff]
      intro component member
      apply component_subscribers config
      rintro rfl
      exact absent member
  refine ⟨before.flatMap (componentCalls config), after.flatMap (componentCalls config),
    ?_, ?_, (seen before notBefore).2, (seen after notAfter).2⟩
  · unfold startEvents
    rw [split, List.flatMap_append, List.flatMap_cons, (seen before notBefore).1,
      (seen after notAfter).1]
    simp [componentEvents, enabled]
  · unfold startCalls
    rw [split, List.flatMap_append, List.flatMap_cons]
    simp [componentCalls, enabled]

theorem started_subscribers : (startedRegistry config).subscribers = [gatewaySubscriber] := by
  obtain ⟨before, after, _, calls, noneBefore, noneAfter⟩ := start_split enabled
  rw [started_registry_eq, performed_subscribers (start_calls_create config), calls,
    List.flatMap_append, List.flatMap_cons, noneBefore, noneAfter]
  rfl

theorem started_keys : (startedRegistry config).subCallbacks.keys = [externalFilter] := by
  apply List.perm_singleton.mp
  apply (List.perm_ext_iff_of_nodup (OrderedDict.keys_nodup _) (List.nodup_singleton _)).mpr
  intro filter
  rw [started_filter_iff, List.mem_singleton]
  simp [enabled]

theorem started_tracks : ∃ log, Tracks log (startedRegistry config) ∧ log.live = [0] := by
  have tracks := perform_all_tracks (startCalls config)
  rw [← started_registry_eq] at tracks
  refine ⟨_, tracks, List.perm_singleton.mp ?_⟩
  apply (List.perm_ext_iff_of_nodup tracks.distinct (List.nodup_singleton 0)).mpr
  intro id
  have subscribers := started_subscribers enabled
  rw [List.mem_singleton]
  constructor
  · intro live
    have inside := tracks.bounded id live
    rw [← tracks.length_eq, subscribers] at inside
    exact Nat.lt_one_iff.mp inside
  · intro same
    rw [same]
    exact (tracks.started 0 gatewaySubscriber (by rw [subscribers]; rfl)).mp rfl

omit enabled in
theorem after_called {flow : Flow events} {node : Node events Instance Response}
    (stored : flow.host.nodes[flow.node]? = some node) (calls : List (RegistryCall Instance)) :
    (∃ last, (flow.after (calls.map .called)).host.nodes[
        (flow.after (calls.map .called)).node]? = some last) ∧
      (flow.after (calls.map .called)).router.registry = flow.router.registry.performAll calls ∧
      (flow.after (calls.map .called)).subscriber = flow.subscriber ∧
      (flow.after (calls.map .called)).queues = flow.queues := by
  induction calls generalizing flow node with
  | nil => exact ⟨⟨node, stored⟩, rfl, rfl, rfl⟩
  | cons call rest induction =>
      obtain ⟨next, there, _⟩ := step_context stored (.called call)
      have router := step_router stored (.called call)
      obtain ⟨present, registry, subscriber, queues⟩ := induction there
      refine ⟨present, ?_, subscriber, queues⟩
      refine registry.trans ?_
      rw [router]
      rfl

/-- The subscribers of a gateway and its queues, and the tables that list them. -/
structure Queued (config : GatewayConfig) (history : List Event) (flow : Flow events) : Prop where
  present : ∃ node, flow.host.nodes[flow.node]? = some node
  subscriber : flow.subscriber = some 0
  names : flow.queues.map EventQueue.event = history.filterMap queueName
  tracked : ∃ log rest, Tracks log flow.router.registry ∧ log.live = 0 :: rest
  owned : FiltersOwned flow.router.registry
  subscribers : flow.router.registry.subscribers.map settings =
    gatewaySubscriber :: (history.filterMap queueName).mapIdx fun index name =>
      ⟨eventTopic name, none, none, queueCallback index, true⟩
  commandTable : flow.router.registry.commandTable = (startedRegistry config).commandTable
  first : ∃ rest, flow.router.registry.subCallbacks.keys = externalFilter :: rest

theorem gateway_queued (threshold : Nat) :
    Queued config [] (gatewayFlow config threshold : Flow events) := by
  obtain ⟨before, after, starts, calls, noneBefore, _⟩ := start_split enabled
  have fresh : (Flow.fresh config.botNamespace threshold (createGateway config).length :
      Flow events).host.nodes[0]? = some .fresh := rfl
  obtain ⟨⟨early, earlyStored⟩, earlyRegistry, _, earlyQueues⟩ := after_called fresh before
  have unsubscribed : ((Flow.fresh config.botNamespace threshold (createGateway config).length :
      Flow events).after (before.map .called)).router.registry.subscribers = [] := by
    rw [earlyRegistry, performed_subscribers]
    · exact noneBefore
    · intro call member
      exact start_calls_create config call (by rw [calls]; exact List.mem_append_left _ member)
  obtain ⟨middle, middleStored, _⟩ := step_context earlyStored .start
  have middleRouter := step_router earlyStored .start
  obtain ⟨present, registry, subscriber, queues⟩ := after_called middleStored after
  have same : (gatewayFlow config threshold : Flow events) =
      (((Flow.fresh config.botNamespace threshold (createGateway config).length).after
        (before.map .called)).step .start).after (after.map .called) := by
    rw [gatewayFlow, starts]
    simp [Flow.after]
  have started : (gatewayFlow config threshold : Flow events).router.registry =
      startedRegistry config := by
    rw [same, registry, middleRouter, started_registry_eq, calls]
    simp only [routed, Router.perform, earlyRegistry, Registry.performAll, List.foldl_append,
      List.foldl_cons]
    rfl
  obtain ⟨log, tracks, live⟩ := started_tracks enabled
  have none : (gatewayFlow config threshold : Flow events).queues = [] := by
    rw [same, queues]
    exact earlyQueues
  exact {
    present := by
      rw [same]
      exact present
    subscriber := by
      rw [same, subscriber]
      exact congrArg (fun subscribers : List (Subscriber Instance) => some subscribers.length)
        unsubscribed
    names := by rw [none]; rfl
    tracked := ⟨log, [], by rw [started]; exact tracks, live⟩
    owned := by
      rw [started, started_registry_eq]
      exact filters_owned_perform_all _
    subscribers := by
      rw [started, started_subscribers enabled]
      rfl
    commandTable := by rw [started]
    first := ⟨[], by rw [started, started_keys enabled]⟩ }

end

section

variable {config : GatewayConfig} {history : List Event} {flow : Flow events}

namespace Queued

/-- An event after which the registry has but recorded something, and that makes
no queue. -/
theorem recorded (queued : Queued config history flow) {event : Event}
    (noQueue : queueName event = none)
    (recorded : Recorded flow.router.registry (routed flow event).registry)
    (tables : SameTables flow.router.registry (routed flow event).registry)
    (subscriber : (flow.step event).subscriber = flow.subscriber)
    (queues : (flow.step event).queues.map EventQueue.event = flow.queues.map EventQueue.event) :
    Queued config (history ++ [event]) (flow.step event) := by
  obtain ⟨node, stored⟩ := queued.present
  obtain ⟨next, there, _⟩ := step_context stored event
  have router := step_router stored event
  have names : (history ++ [event]).filterMap queueName = history.filterMap queueName := by
    simp [List.filterMap_append, noQueue]
  exact {
    present := ⟨next, by rw [step_node]; exact there⟩
    subscriber := subscriber.trans queued.subscriber
    names := by
      rw [names, queues]
      exact queued.names
    tracked := by
      obtain ⟨log, rest, tracks, live⟩ := queued.tracked
      rw [router]
      exact ⟨log, rest, tracks.congr tables.topics tables.flags tables.subCallbacks, live⟩
    owned := by
      rw [router]
      exact queued.owned.congr tables.topics tables.subCallbacks
    subscribers := by
      rw [router, names, ← queued.subscribers]
      exact recorded.subscribers
    commandTable := by
      rw [router, ← queued.commandTable]
      exact tables.commandTable
    first := by
      rw [router, tables.subCallbacks]
      exact queued.first }

theorem queue (queued : Queued config history flow) (event : String) (maxlen : Nat) :
    Queued config (history ++ [.queue event maxlen]) (flow.step (.queue event maxlen)) := by
  obtain ⟨node, stored⟩ := queued.present
  obtain ⟨next, there, _⟩ := step_context stored (.queue event maxlen)
  have router := step_router stored (.queue event maxlen)
  have names : List.filterMap queueName (history ++ [.queue event maxlen]) =
      history.filterMap queueName ++ [event] := by
    simp [List.filterMap_append, queueName]
  have count : flow.queues.length = (history.filterMap queueName).length := by
    rw [← queued.names, List.length_map]
  exact {
    present := ⟨next, by rw [step_node]; exact there⟩
    subscriber := queued.subscriber
    names := by
      rw [names, ← queued.names]
      exact List.map_append
    tracked := by
      obtain ⟨log, rest, tracks, live⟩ := queued.tracked
      have made := tracks.create (eventTopic event) (queueCallback flow.queues.length) none
      rw [router]
      have kept : ∃ later, ((log.create (eventTopic event)).start log.filters.length).live =
          0 :: later := by
        unfold StartLog.start
        split
        · exact ⟨rest ++ [log.filters.length], by simp [StartLog.create, live]⟩
        · exact ⟨rest, live⟩
      obtain ⟨later, same⟩ := kept
      exact ⟨_, later, made, same⟩
    owned := by
      rw [router]
      exact queued.owned.perform _
    subscribers := by
      rw [router, names, List.mapIdx_concat, ← List.cons_append, ← queued.subscribers, ← count]
      have creates : Creates (.createSubscriber (eventTopic event)
          (queueCallback flow.queues.length) none) := trivial
      simp only [routed, Router.perform]
      rw [created_subscribers _ creates, List.map_append]
      rfl
    commandTable := by
      rw [router, ← queued.commandTable]
      exact Registry.start_subscriber_command_table _ _
    first := by
      obtain ⟨rest, keys⟩ := queued.first
      rw [router]
      simp only [routed, Router.perform, Registry.perform]
      rw [created_table]
      by_cases known : eventTopic event ∈ flow.router.registry.subCallbacks.keys
      · rw [OrderedDict.keys_set_present _ known]
        exact ⟨rest, keys⟩
      · rw [OrderedDict.keys_set_absent _ known, keys]
        exact ⟨rest ++ [eventTopic event], rfl⟩ }

theorem step (queued : Queued config history flow) {event : Event} (plain : Plain event) :
    Queued config (history ++ [event]) (flow.step event) := by
  cases event with
  | start => exact plain.elim
  | called call => exact plain.elim
  | queue event maxlen => exact queued.queue event maxlen
  | message name data outcomes =>
      have dispatched : dispatchIncoming outcomes.edges flow.router
          ⟨eventTopic name, .value data⟩ =
            .ok (routeMessage outcomes.edges flow.router (eventTopic name) data) := rfl
      have records := receive_records flow name data outcomes
      exact queued.recorded rfl (dispatch_recorded dispatched) (dispatch_same_tables dispatched)
        records.subscriber records.queues
  | _ => exact queued.recorded rfl (.refl _) (.refl _) rfl rfl

end Queued

/-- The filter of the queue beats that of `MQTTExternalEvents` on the message. -/
def Outranks (queue name : String) : Prop :=
  topicMatches (eventTopic queue) (eventTopic name) = true ∧
    patternSpecificity externalFilter < patternSpecificity (eventTopic queue)

namespace Queued

theorem settings_at (queued : Queued config history flow) (id : SubscriberId) :
    (flow.router.registry.subscribers[id]?).map settings =
      (gatewaySubscriber :: (history.filterMap queueName).mapIdx fun index name =>
        ⟨eventTopic name, none, none, queueCallback index, true⟩)[id]? := by
  rw [← queued.subscribers, List.getElem?_map]

theorem settings_own (queued : Queued config history flow) :
    ∃ held, flow.router.registry.subscribers[0]? = some held ∧
      settings held = gatewaySubscriber :=
  Option.map_eq_some_iff.mp (queued.settings_at 0)

theorem settings_queue (queued : Queued config history flow) (index : Nat) :
    (flow.router.registry.subscribers[index + 1]?).map settings =
      ((history.filterMap queueName)[index]?).map fun name =>
        ⟨eventTopic name, none, none, queueCallback index, true⟩ := by
  rw [queued.settings_at, List.getElem?_cons_succ, List.getElem?_mapIdx]

theorem handles_own (queued : Queued config history flow) :
    handling flow.router.registry 0 =
      some (externalDispatch, some externalEventMessage.msgType) := by
  obtain ⟨held, stored, settled⟩ := queued.settings_own
  obtain ⟨_, _, msgType, onMessage, _⟩ := Subscriber.mk.inj settled
  rw [handling, stored, Option.map_some, onMessage, msgType]

theorem others_quiet (queued : Queued config history flow) {id : SubscriberId} (other : id ≠ 0)
    (msgType : Option (MsgType Instance)) :
    handling flow.router.registry id ≠ some (externalDispatch, msgType) := by
  intro handled
  obtain ⟨held, stored, same⟩ := Option.map_eq_some_iff.mp handled
  obtain ⟨index, rfl⟩ := Nat.exists_eq_succ_of_ne_zero other
  have settled := queued.settings_queue index
  rw [stored, Option.map_some, eq_comm, Option.map_eq_some_iff] at settled
  obtain ⟨name, _, made⟩ := settled
  have callback := (Subscriber.mk.inj made).2.2.2.1
  rw [(Prod.mk.inj same).1] at callback
  cases callback

theorem topic_cases (queued : Queued config history flow) {filter : String}
    (listed : filter ∈ flow.router.registry.subscribers.map Subscriber.topic) :
    filter = externalFilter ∨ ∃ queue ∈ history.filterMap queueName, filter = eventTopic queue := by
  obtain ⟨held, member, rfl⟩ := List.mem_map.mp listed
  obtain ⟨id, stored⟩ := List.mem_iff_getElem?.mp member
  cases id with
  | zero =>
      obtain ⟨own, there, settled⟩ := queued.settings_own
      rw [there, Option.some.injEq] at stored
      rw [← stored]
      exact .inl (Subscriber.mk.inj settled).1
  | succ index =>
      have settled := queued.settings_queue index
      rw [stored, Option.map_some, eq_comm, Option.map_eq_some_iff] at settled
      obtain ⟨queue, atIndex, made⟩ := settled
      exact .inr ⟨queue, List.mem_of_getElem? atIndex, (Subscriber.mk.inj made).1.symm⟩

theorem command_iff (queued : Queued config history flow) (name : String) :
    eventTopic name ∈ flow.router.registry.commandTable.keys ↔
      eventTopic name ∈ (startedRegistry config).commandTable.keys := by
  rw [queued.commandTable]

/-- The filter that wins a message: that of `MQTTExternalEvents` unless a queue
outranks it. -/
theorem winner (queued : Queued config history flow) {name : String} (isName : EventName name) :
    ∃ filter ids, bestEntry flow.router.registry (eventTopic name) = some (filter, ids) ∧
      flow.router.registry.callbacksOn filter = ids ∧
      (filter = externalFilter ↔
        ¬ ∃ queue ∈ history.filterMap queueName, Outranks queue name) := by
  obtain ⟨keysRest, keys⟩ := queued.first
  obtain ⟨log, _, tracks, _⟩ := queued.tracked
  cases best : bestEntry flow.router.registry (eventTopic name) with
  | none =>
      have unmatched := best_entry_none best externalFilter (by rw [keys]; exact List.mem_cons_self)
      rw [external_filter_matches isName] at unmatched
      cases unmatched
  | some entry =>
      rcases entry with ⟨filter, ids⟩
      obtain ⟨onFilter, matching, before, after, split, below, _⟩ := best_entry_splits best
      refine ⟨filter, ids, rfl, onFilter, ?_⟩
      constructor
      · rintro own ⟨queue, member, outranks⟩
        -- The filter of the queue is live, so the winner is no less specific.
        have live : LiveMatch log (eventTopic name) (eventTopic queue) := by
          obtain ⟨index, atIndex⟩ := List.mem_iff_getElem?.mp member
          have settled := queued.settings_queue index
          rw [atIndex, Option.map_some] at settled
          obtain ⟨held, stored, made⟩ := Option.map_eq_some_iff.mp settled
          obtain ⟨topic, _, _, _, started⟩ := Subscriber.mk.inj made
          obtain ⟨callbacks, _, list, inside⟩ := tracks.listed stored started
          have onTopic : held.topic = eventTopic queue := topic
          rw [list, onTopic] at inside
          exact ⟨List.ne_nil_of_mem inside, outranks.1⟩
        have most := winner_maximal tracks best (eventTopic queue) live
        rw [own] at most
        exact absurd outranks.2 (not_lt.mpr most)
      · intro nobody
        by_contra other
        have key : filter ∈ flow.router.registry.subCallbacks.keys := by simp [split]
        rcases queued.topic_cases (queued.owned filter key) with own | ⟨queue, member, rfl⟩
        · exact other own
        · -- The filter of `MQTTExternalEvents` comes first, so it lost by rank.
          have earlier : externalFilter ∈ before := by
            rw [keys] at split
            cases before with
            | nil => exact absurd (List.cons.inj split).1.symm other
            | cons first others =>
                rw [(List.cons.inj split).1]
                exact List.mem_cons_self
          have beaten := below externalFilter earlier (external_filter_matches isName)
          exact nobody ⟨queue, member, matching, beaten⟩

/-- A message that a queue takes never reaches `MQTTExternalEvents`. -/
theorem receive_taken (queued : Queued config history flow) {name : String}
    (isName : EventName name)
    (noCommand : eventTopic name ∉ (startedRegistry config).commandTable.keys)
    (taken : ∃ queue ∈ history.filterMap queueName, Outranks queue name) (data : Json)
    (outcomes : Outcomes) :
    (flow.receive name data outcomes).appCalls = flow.appCalls ∧
      (flow.receive name data outcomes).heard = flow.heard := by
  obtain ⟨filter, ids, best, onFilter, own_iff⟩ := queued.winner isName
  obtain ⟨log, _, tracks, _⟩ := queued.tracked
  have lost : filter ≠ externalFilter := fun own => own_iff.mp own taken
  rw [← queued.command_iff] at noCommand
  apply receive_quiet
  rw [reached_of_best noCommand best, ← onFilter, tracks.lists]
  intro id member
  apply queued.others_quiet
  rintro rfl
  obtain ⟨held, stored, settled⟩ := queued.settings_own
  have listed := (List.mem_filter.mp member).2
  rw [tracks.filter_of stored, decide_eq_true_eq, Option.some.injEq] at listed
  have topic : held.topic = externalFilter := (Subscriber.mk.inj settled).1
  exact lost (listed.symm.trans topic)

theorem receive_untaken (queued : Queued config history flow) {name : String} {data : Json}
    {message : Instance} (isName : EventName name) (decodes : Decodes data message)
    (noCommand : eventTopic name ∉ (startedRegistry config).commandTable.keys)
    (untaken : ¬ ∃ queue ∈ history.filterMap queueName, Outranks queue name)
    (outcomes : Outcomes) :
    (flow.receive name data outcomes).appCalls = flow.appCalls ++ [.typed message] ∧
      (flow.receive name data outcomes).heard = flow.heard ++
        flow.listenerCalls outcomes (eventKey name) (.typed message) := by
  obtain ⟨node, stored⟩ := queued.present
  obtain ⟨filter, ids, best, onFilter, own_iff⟩ := queued.winner isName
  obtain ⟨log, rest, tracks, live⟩ := queued.tracked
  obtain ⟨held, atZero, settled⟩ := queued.settings_own
  have topic : held.topic = externalFilter := (Subscriber.mk.inj settled).1
  have onZero : log.filters[0]? = some externalFilter := by
    rw [tracks.filter_of atZero, topic]
  rw [← queued.command_iff] at noCommand
  have reaches : reached flow.router (eventTopic name) =
      0 :: rest.filter fun id => log.filters[id]? = some externalFilter := by
    rw [reached_of_best noCommand best, ← onFilter, own_iff.mpr untaken, tracks.lists,
      StartLog.startedOn, live, List.filter_cons_of_pos (by simpa using onZero)]
  apply receive_dispatches stored queued.subscriber queued.handles_own _ reaches decodes
  intro id member
  apply queued.others_quiet
  rintro rfl
  have distinct := tracks.distinct
  rw [live, List.nodup_cons] at distinct
  exact distinct.1 (List.mem_of_mem_filter member)

end Queued

end

/-- What of a host decides whom an event on the bus reaches. -/
structure Way (events : EventBus Handler) where
  gateway : World
  listeners : List EventListener
  dispatchRegistry : OrderedDict (String × CallbackId) ListenerId
  bus : Option (Adapter events)

def wayOf (host : Host events Instance Response) : Way events :=
  ⟨host.gateway, host.listeners, host.dispatchRegistry,
    (host.nodes[host.gateway.node]?).map Node.bus⟩

def Way.removeListener (way : Way events) (event : String) (callback : CallbackId) : Way events :=
  match way.dispatchRegistry.get? (event, callback) with
  | none => way
  | some listener =>
      { way with
        listeners := way.listeners.modify listener fun held => { held with removed := true }
        dispatchRegistry := way.dispatchRegistry.pop (event, callback)
        bus := way.bus.map fun bus => bus.unsubscribe (eventKey event) (.dispatch listener) }

/-- Only the calls on the event bus change it. -/
def Way.step (way : Way events) : Event → Way events
  | .subscribeEvent eventType handler =>
      { way with bus := way.bus.map fun bus => bus.subscribe eventType (.other handler) }
  | .unsubscribeEvent eventType handler =>
      { way with bus := way.bus.map fun bus => bus.unsubscribe eventType (.other handler) }
  | .create event callback =>
      { way with
        listeners := way.listeners ++ [⟨event, callback, way.gateway.node, false⟩]
        dispatchRegistry := way.dispatchRegistry.set (event, callback) way.listeners.length
        bus := way.bus.map fun bus =>
          bus.subscribe (eventKey event) (.dispatch way.listeners.length) }
  | .remove event callback => way.removeListener event callback
  | _ => way

section

variable {host : Host events Instance Response} {flow : Flow events}

theorem bus_on_context
    (f : NodeContext.Context Instance Response → NodeContext.Context Instance Response) :
    ((host.onContext host.gateway.node f).nodes[host.gateway.node]?).map Node.bus =
      (host.nodes[host.gateway.node]?).map Node.bus := by
  unfold Host.onContext
  rw [node_onNode, if_pos rfl, Option.map_map]
  rfl

theorem bus_on_node (host : Host events Instance Response) (f : Adapter events → Adapter events) :
    ((host.onNode host.gateway.node fun node =>
        { node with bus := f node.bus }).nodes[host.gateway.node]?).map Node.bus =
      ((host.nodes[host.gateway.node]?).map Node.bus).map f := by
  rw [node_onNode, if_pos rfl, Option.map_map, Option.map_map]
  rfl

theorem way_remove (host : Host events Instance Response) (event : String)
    (callback : CallbackId) :
    wayOf (host.removeListener event callback) = (wayOf host).removeListener event callback := by
  have registry : (wayOf host).dispatchRegistry = host.dispatchRegistry := rfl
  unfold Host.removeListener Way.removeListener
  rw [registry]
  cases host.dispatchRegistry.get? (event, callback) with
  | none => rfl
  | some listener =>
      exact congrArg (Way.mk _ _ _) (bus_on_node host fun bus =>
        bus.unsubscribe (eventKey event) (.dispatch listener))

theorem way_step (flow : Flow events) (event : Event) :
    wayOf (flow.step event).host = (wayOf flow.host).step event := by
  cases event with
  | start => exact congrArg (Way.mk _ _ _) (bus_on_context _)
  | called call => exact congrArg (Way.mk _ _ _) (bus_on_context _)
  | subscribeEvent eventType handler =>
      exact congrArg (Way.mk _ _ _) (bus_on_node flow.host fun bus =>
        bus.subscribe eventType (.other handler))
  | unsubscribeEvent eventType handler =>
      exact congrArg (Way.mk _ _ _) (bus_on_node flow.host fun bus =>
        bus.unsubscribe eventType (.other handler))
  | create event callback =>
      exact congrArg (Way.mk _ _ _) (bus_on_node flow.host fun bus =>
        bus.subscribe (eventKey event) (.dispatch flow.host.listeners.length))
  | remove event callback => exact way_remove flow.host event callback
  | queue event maxlen =>
      have same : wayOf (flow.host.call flow.node (.createSubscriber (eventTopic event)
          (queueCallback flow.queues.length) none)) = wayOf flow.host :=
        congrArg (Way.mk _ _ _) (bus_on_context _)
      exact same
  | message name data outcomes =>
      show wayOf (flow.receive name data outcomes).host = wayOf flow.host
      rw [receive_host]
      exact congrArg (Way.mk _ _ _) (bus_on_context _)

theorem listener_calls_of_way {other : Flow events} (same : wayOf flow.host = wayOf other.host)
    (outcomes : Outcomes) (eventType : String) (message : Delivered Instance) :
    flow.listenerCalls outcomes eventType message =
      other.listenerCalls outcomes eventType message := by
  have listeners : flow.host.listeners = other.host.listeners := congrArg Way.listeners same
  have receivers : flow.host.receivers flow.node eventType =
      other.host.receivers other.node eventType := by
    have bus := congrArg
      (fun way => way.bus.map fun bus : Adapter events => bus.receivers eventType) same
    simp only [wayOf, Option.map_map] at bus
    exact congrArg (fun receivers => receivers.getD []) bus
  unfold Flow.listenerCalls
  rw [receivers, listeners]

end

theorem without_queues_snoc (history : List Event) (event : Event) :
    withoutQueues (history ++ [event]) =
      if (queueName event).isNone then withoutQueues history ++ [event]
      else withoutQueues history := by
  cases named : queueName event with
  | none => simp [withoutQueues, List.filter_append, named]
  | some queue => simp [withoutQueues, List.filter_append, named]

theorem without_queues_names (history : List Event) :
    (withoutQueues history).filterMap queueName = [] := by
  apply List.filterMap_eq_nil_iff.mpr
  intro event member
  exact Option.isNone_iff_eq_none.mp (List.mem_filter.mp member).2

structure Beside (config : GatewayConfig) (start : Flow events) (history : List Event) :
    Prop where
  queued : Queued config history (start.after history)
  bare : Queued config (withoutQueues history) (start.after (withoutQueues history))
  way : wayOf (start.after history).host = wayOf (start.after (withoutQueues history)).host
  fewer : (start.after history).appCalls.length ≤
    (start.after (withoutQueues history)).appCalls.length

def CallsAlike (start : Flow events) (history : List Event) : Prop :=
  (start.after history).appCalls = (start.after (withoutQueues history)).appCalls ∧
    (start.after history).heard = (start.after (withoutQueues history)).heard

def Unbeaten (config : GatewayConfig) (before : List Event) : Event → Prop
  | .message name _ _ => eventTopic name ∉ (startedRegistry config).commandTable.keys →
      ¬ ∃ queue ∈ before.filterMap queueName, Outranks queue name
  | _ => True

theorem step_calls (flow : Flow events) {event : Event}
    (noMessage : ∀ name data outcomes, event ≠ .message name data outcomes) :
    (flow.step event).appCalls = flow.appCalls ∧ (flow.step event).heard = flow.heard := by
  cases event with
  | message name data outcomes => exact absurd rfl (noMessage name data outcomes)
  | _ => exact ⟨rfl, rfl⟩

section

variable {config : GatewayConfig} {start : Flow events} {history : List Event}

theorem beside_message (beside : Beside config start history) {name : String} {data : Json}
    (isName : EventName name) {message : Instance} (decodes : Decodes data message)
    (outcomes : Outcomes) :
    (CallsAlike start (history ++ [.message name data outcomes]) ↔
        CallsAlike start history ∧ Unbeaten config history (.message name data outcomes)) ∧
      (start.after (history ++ [.message name data outcomes])).appCalls.length ≤
        (start.after (withoutQueues (history ++ [.message name data outcomes]))).appCalls.length := by
  have fewer := beside.fewer
  have noQueue : withoutQueues (history ++ [.message name data outcomes]) =
      withoutQueues history ++ [.message name data outcomes] :=
    without_queues_snoc history _
  unfold CallsAlike
  rw [noQueue, Flow.after_snoc, Flow.after_snoc]
  by_cases command : eventTopic name ∈ (startedRegistry config).commandTable.keys
  · have left := receive_command ((beside.queued.command_iff name).mpr command) data outcomes
    have right := receive_command ((beside.bare.command_iff name).mpr command) data outcomes
    simp only [Flow.step, left, right]
    exact ⟨⟨fun same => ⟨same, fun other => absurd command other⟩, fun both => both.1⟩, fewer⟩
  · have bareUntaken : ¬ ∃ queue ∈ (withoutQueues history).filterMap queueName,
        Outranks queue name := by
      rw [without_queues_names]
      simp
    obtain ⟨bareApp, bareHeard⟩ :=
      beside.bare.receive_untaken isName decodes command bareUntaken outcomes
    by_cases taken : ∃ queue ∈ history.filterMap queueName, Outranks queue name
    · obtain ⟨app, heard⟩ := beside.queued.receive_taken isName command taken data outcomes
      simp only [Flow.step, app, bareApp, List.length_append, List.length_singleton]
      refine ⟨⟨?_, ?_⟩, by omega⟩
      · -- The other run is ahead by this message at least.
        rintro ⟨same, _⟩
        have lengths := congrArg List.length same
        rw [List.length_append, List.length_singleton] at lengths
        omega
      · rintro ⟨_, unbeaten⟩
        exact absurd taken (unbeaten command)
    · obtain ⟨app, heard⟩ :=
        beside.queued.receive_untaken isName decodes command taken outcomes
      rw [listener_calls_of_way beside.way] at heard
      simp only [Flow.step, app, heard, bareApp, bareHeard, List.append_cancel_right_eq,
        List.length_append, List.length_singleton]
      exact ⟨⟨fun same => ⟨same, fun _ => taken⟩, fun both => both.1⟩, by omega⟩

theorem beside_other (beside : Beside config start history) {event : Event}
    (noMessage : ∀ name data outcomes, event ≠ .message name data outcomes) :
    (CallsAlike start (history ++ [event]) ↔ CallsAlike start history) ∧
      (start.after (history ++ [event])).appCalls.length ≤
        (start.after (withoutQueues (history ++ [event]))).appCalls.length := by
  have fewer := beside.fewer
  obtain ⟨app, heard⟩ := step_calls (start.after history) noMessage
  unfold CallsAlike
  rw [without_queues_snoc, Flow.after_snoc, app, heard]
  split
  · obtain ⟨bareApp, bareHeard⟩ := step_calls (start.after (withoutQueues history)) noMessage
    rw [Flow.after_snoc, bareApp, bareHeard]
    exact ⟨Iff.rfl, fewer⟩
  · exact ⟨Iff.rfl, fewer⟩

theorem calls_alike_snoc (beside : Beside config start history) {event : Event}
    (plain : Plain event) :
    (CallsAlike start (history ++ [event]) ↔
        CallsAlike start history ∧ Unbeaten config history event) ∧
      (start.after (history ++ [event])).appCalls.length ≤
        (start.after (withoutQueues (history ++ [event]))).appCalls.length := by
  by_cases isMessage : ∃ name data outcomes, event = .message name data outcomes
  · obtain ⟨name, data, outcomes, rfl⟩ := isMessage
    obtain ⟨isName, message, decodes⟩ := plain
    exact beside_message beside isName decodes outcomes
  · have noMessage : ∀ name data outcomes, event ≠ .message name data outcomes :=
      fun name data outcomes same => isMessage ⟨name, data, outcomes, same⟩
    have unbeaten : Unbeaten config history event := by
      cases event with
      | message name data outcomes => exact absurd rfl (noMessage name data outcomes)
      | _ => trivial
    obtain ⟨same, fewer⟩ := beside_other beside noMessage
    exact ⟨same.trans ⟨fun alike => ⟨alike, unbeaten⟩, fun both => both.1⟩, fewer⟩

theorem beside_step (beside : Beside config start history) {event : Event} (plain : Plain event) :
    Beside config start (history ++ [event]) where
  queued := by
    rw [Flow.after_snoc]
    exact beside.queued.step plain
  bare := by
    rw [without_queues_snoc]
    split
    · rw [Flow.after_snoc]
      exact beside.bare.step plain
    · exact beside.bare
  way := by
    rw [without_queues_snoc, Flow.after_snoc, way_step, beside.way]
    split
    · rw [Flow.after_snoc, way_step]
    · rename_i queue
      cases event with
      | queue event maxlen => rfl
      | _ => exact absurd rfl queue
  fewer := (calls_alike_snoc beside plain).2

/-- A queue of the name gets the message exactly when no command takes it; the
rest of what a queue takes, it takes from `MQTTExternalEvents`. -/
theorem untaken_iff {flow : Flow events} (queued : Queued config history flow) {event : Event}
    (plain : Plain event) :
    Untaken config history event ↔
      Unbeaten config history event ∧ Fills flow (flow.step event) event := by
  cases event with
  | message name data outcomes =>
      have isName : EventName name := plain.1
      have held : ∀ (index : Nat) queue, flow.queues[index]? = some queue →
          queue.event ∈ history.filterMap queueName := by
        intro index queue stored
        rw [← queued.names]
        exact List.mem_map_of_mem (List.mem_of_getElem? stored)
      unfold Untaken Unbeaten Fills
      by_cases command : eventTopic name ∈ (startedRegistry config).commandTable.keys
      · have queues : (flow.step (.message name data outcomes)).queues = flow.queues := by
          show (flow.receive name data outcomes).queues = flow.queues
          rw [receive_command ((queued.command_iff name).mpr command)]
          rfl
        simp only [Takes, if_pos command, queues]
        constructor
        · intro untaken
          refine ⟨fun other => absurd command other, fun index queue stored same => ?_⟩
          exact absurd same (untaken queue.event (held index queue stored))
        · rintro ⟨_, fills⟩ queue member same
          rw [same, ← queued.names] at member
          obtain ⟨made, there, named⟩ := List.mem_map.mp member
          obtain ⟨index, stored⟩ := List.mem_iff_getElem?.mp there
          obtain ⟨filled, after, more, _⟩ := fills index made stored named
          rw [stored, Option.some.injEq] at after
          rw [← after] at more
          simp at more
      · simp only [Takes, if_neg command]
        constructor
        · intro untaken
          constructor
          · rintro _ ⟨queue, member, outranks⟩
            exact untaken queue member outranks
          · intro index queue stored same
            have own := takes_own config isName
            rw [Takes, if_neg command] at own
            exact absurd own (same ▸ untaken queue.event (held index queue stored))
        · rintro ⟨unbeaten, _⟩ queue member outranks
          exact unbeaten command ⟨queue, member, outranks⟩
  | _ => exact ⟨fun _ => ⟨trivial, trivial⟩, fun _ => trivial⟩

/-- With the next event the queues still take nothing, exactly when nobody takes
that event. -/
theorem takes_nothing_snoc (beside : Beside config start history) {event : Event}
    (plain : Plain event) :
    TakesNothing start (history ++ [event]) ↔
      TakesNothing start history ∧ Untaken config history event := by
  have alike := (calls_alike_snoc beside plain).1
  rw [untaken_iff beside.queued plain]
  constructor
  · rintro ⟨app, heard, fills⟩
    obtain ⟨before, unbeaten⟩ := alike.mp ⟨app, heard⟩
    obtain ⟨filled, last⟩ := throughout_snoc.mp fills
    rw [Flow.after_snoc] at last
    exact ⟨⟨before.1, before.2, filled⟩, unbeaten, last⟩
  · rintro ⟨⟨app, heard, fills⟩, unbeaten, last⟩
    obtain ⟨appAlike, heardAlike⟩ := alike.mpr ⟨⟨app, heard⟩, unbeaten⟩
    rw [← Flow.after_snoc] at last
    exact ⟨appAlike, heardAlike, throughout_snoc.mpr ⟨fills, last⟩⟩

end

theorem beside_run {config : GatewayConfig} (enabled : config.enableExternalEvents = true)
    (threshold : Nat) (history : List Event) (plain : ∀ event ∈ history, Plain event) :
    Beside config (gatewayFlow config threshold : Flow events) history := by
  induction history using List.reverseRecOn with
  | nil =>
      have queued : Queued config [] (gatewayFlow config threshold : Flow events) :=
        gateway_queued enabled threshold
      exact ⟨queued, queued, rfl, Nat.le_refl _⟩
  | append_singleton history event induction =>
      rw [List.forall_mem_append] at plain
      exact beside_step (induction plain.1) (plain.2 event (List.mem_singleton_self event))

/-- The queues take nothing from anybody exactly in the runs in which no message
comes after a queue that takes it. -/
theorem queues_take_nothing_iff_untaken {config : GatewayConfig}
    (enabled : config.enableExternalEvents = true) (threshold : Nat) (history : List Event)
    (plain : ∀ event ∈ history, Plain event) :
    TakesNothing (gatewayFlow config threshold : Flow events) history ↔
      Throughout (Untaken config) history := by
  induction history using List.reverseRecOn with
  | nil => exact ⟨fun _ => throughout_nil _, fun _ => ⟨rfl, rfl, throughout_nil _⟩⟩
  | append_singleton history event induction =>
      rw [List.forall_mem_append] at plain
      have beside : Beside config (gatewayFlow config threshold : Flow events) history :=
        beside_run enabled threshold history plain.1
      have here : Plain event := plain.2 event (List.mem_singleton_self event)
      rw [throughout_snoc, ← induction plain.1]
      exact takes_nothing_snoc beside here

def quiet : Outcomes := ⟨fun _ _ => .ok (), .ok (), fun _ => .ok ()⟩

/-- A queue and a message on another name. -/
def apartRun : List Event :=
  [.create "bar" 1, .queue "foo" 10, .message "bar" (.obj []) quiet]

theorem queue_takes_nothing_from_another_name :
    TakesNothing (gatewayFlow {} 3 : Flow (listBus Handler)) apartRun := by
  have foo : EventName "foo" := ⟨by decide, by decide⟩
  have bar : EventName "bar" := ⟨by decide, by decide⟩
  have plain : ∀ event ∈ apartRun, Plain event := by
    have decodes : Decodes (.obj []) ⟨externalEventMessage, []⟩ := rfl
    simp only [apartRun, List.forall_mem_cons]
    exact ⟨trivial, trivial, ⟨bar, _, decodes⟩, by simp⟩
  have untaken : Throughout (Untaken {}) apartRun := by
    have created : Throughout (Untaken {}) ([] ++ [.create "bar" 1]) :=
      throughout_snoc.mpr ⟨throughout_nil _, trivial⟩
    have queued : Throughout (Untaken {}) (([] ++ [.create "bar" 1]) ++ [.queue "foo" 10]) :=
      throughout_snoc.mpr ⟨created, trivial⟩
    refine throughout_snoc.mpr ⟨queued, ?_⟩
    intro queue member takes
    have same : "foo" = queue := by simpa [queueName] using member
    rw [← same, takes_iff {} foo bar] at takes
    exact absurd takes (by decide)
  exact (queues_take_nothing_iff_untaken rfl 3 apartRun plain).mpr untaken

/-- A listener, a queue and a message on the one name. -/
def sharedRun : List Event :=
  [.create "foo" 1, .queue "foo" 10, .message "foo" (.obj []) quiet]

/-- With the queue neither the app nor the listener hears of the event. -/
theorem queue_takes_event_from_app :
    ¬ TakesNothing (gatewayFlow {} 3 : Flow (listBus Handler)) sharedRun := by
  intro nothing
  have lengths := congrArg List.length nothing.appCalls
  exact absurd lengths (by decide)

end RemoteIface.External.QueueCapture
