import RemoteIface.Gateway.TopicTables
import RemoteIface.Commlib.Delivery
import RemoteIface.External.Hearing

/-!
The way of a message on `external/{name}`: through the subscriber table of the
`NodeContext` to `_dispatch` of `MQTTExternalEvents` or to the `_on_event` of a
queue, and from `_dispatch` to the app and over the event bus to the listeners
of `EEventListenerFactory`. The host is that of the external objects; what is
followed beside it is whom a message has reached.
-/

namespace RemoteIface.External.EventFlow

set_option autoImplicit false

open RemoteIface.Library.Runs
open RemoteIface.Library.InsertionOrder
open RemoteIface.Commlib RemoteIface.Gateway
open RemoteIface.Commlib.Payload
open RemoteIface.Commlib.Topic
open RemoteIface.Commlib.Endpoints
open RemoteIface.Commlib.Dispatch
open RemoteIface.Commlib.Delivery
open RemoteIface.Commlib.Coverage
open RemoteIface.Protocols.Messages
open RemoteIface.Gateway.Lifecycle
open RemoteIface.Gateway.Wiring
open RemoteIface.Gateway.TopicTables
open RemoteIface.HbCompat.EventBusAdapter
open RemoteIface.External.Objects
open RemoteIface.External.Bindings
open RemoteIface.External.Hearing

/-- How the calls end that a message leads to: those of the edge callbacks, of
`app.handle_external_event` and of the callbacks of the listeners. -/
structure Outcomes where
  edges : Callbacks Instance
  app : Except PyException Unit
  listeners : ListenerId → Except PyException Unit

/-- A queue of `EEventQueueFactory` with all that `_on_event` has appended. -/
structure EventQueue where
  event : String
  maxlen : Nat
  received : List (String × Delivered Instance)

/-- One call `callback(msg, event_name)`. -/
structure ListenerCall where
  callback : CallbackId
  message : Delivered Instance
  event : String

/-- `subscriber` is `_subscriber` of `MQTTExternalEvents`. The last two fields
record the calls on the app and on the callbacks. -/
structure Flow (events : EventBus Handler) where
  host : Host events Instance Response
  subscriber : Option SubscriberId
  queues : List EventQueue
  appCalls : List (Delivered Instance)
  heard : List ListenerCall

inductive Event where
  | start
  | called (call : RegistryCall Instance)
  | subscribeEvent (eventType : String) (handler : Nat)
  | unsubscribeEvent (eventType : String) (handler : Nat)
  | create (event : String) (callback : CallbackId)
  | remove (event : String) (callback : CallbackId)
  | queue (event : String) (maxlen : Nat)
  | message (name : String) (data : Json) (outcomes : Outcomes)

/-- `last_topic.removeprefix("external/")` -/
def eventName (topic : String) : String :=
  let lead := "external/".toList
  if lead.isPrefixOf topic.toList then String.ofList (topic.toList.drop lead.length) else topic

/-- The number of the `_on_event` of a queue. That of `_dispatch` is
`externalDispatch`. -/
def queueCallback (queue : Nat) : CallbackId := queue + 1

def EventQueue.contents (queue : EventQueue) : List (String × Delivered Instance) :=
  queue.received.drop (queue.received.length - queue.maxlen)

/-- `EEventQueueFactory._on_event` -/
def EventQueue.onEvent (queue : EventQueue) (message : Delivered Instance) : EventQueue :=
  { queue with received := queue.received ++ [(queue.event, message)] }

/-- A `try` whose `except Exception` only logs. -/
def caught (_ended : Except PyException Unit) : Except PyException Unit := .ok ()

/-- `_dispatch` of one `create()`: the call of its callback, and how it ends. -/
def listenerDispatch (outcomes : Outcomes) (message : Delivered Instance) (id : ListenerId)
    (listener : EventListener) : ListenerCall × Except PyException Unit :=
  (⟨listener.callback, message, listener.event⟩, caught (outcomes.listeners id))

/-- The calls of one publication. What a bus does with an exception of a handler
is left open; here it ends the publication. -/
def untilRaised : List (ListenerCall × Except PyException Unit) → List ListenerCall
  | [] => []
  | (call, .ok ()) :: rest => call :: untilRaised rest
  | (call, .error _) :: _ => [call]

variable {events : EventBus Handler}

namespace Flow

def node (flow : Flow events) : ContextId := flow.host.gateway.node

def router (flow : Flow events) : Router Instance Response :=
  ((flow.host.nodes[flow.node]?).map fun node => node.ctx.router).getD .empty

/-- `subscriber.last_topic` of the subscriber of `MQTTExternalEvents`. -/
def lastTopic (flow : Flow events) : Option String :=
  flow.subscriber.bind fun sub =>
    (flow.router.registry.subscribers[sub]?).bind Subscriber.lastTopic

/-- The callbacks that a publication on the event bus leads to. A handler of
somebody else leads to none. -/
def listenerCalls (flow : Flow events) (outcomes : Outcomes) (eventType : String)
    (message : Delivered Instance) : List ListenerCall :=
  untilRaised <| (flow.host.receivers flow.node eventType).filterMap fun
    | .dispatch id => (flow.host.listeners[id]?).map (listenerDispatch outcomes message id)
    | .other _ => none

def publishEvent (flow : Flow events) (outcomes : Outcomes) (eventType : String)
    (message : Delivered Instance) : Flow events :=
  { flow with heard := flow.heard ++ flow.listenerCalls outcomes eventType message }

/-- `_dispatch` of `MQTTExternalEvents` -/
def dispatch (flow : Flow events) (outcomes : Outcomes) (message : Delivered Instance) :
    Flow events :=
  let handled := { flow with appCalls := flow.appCalls ++ [message] }
  match caught outcomes.app with
  | .error _ => handled
  | .ok () =>
      match handled.lastTopic with
      | none => handled
      | some topic => handled.publishEvent outcomes (eventKey (eventName topic)) message

/-- The `on_message` of an edge callback. -/
def onMessage (outcomes : Outcomes) (flow : Flow events) (call : EdgeCall Instance) :
    Flow events :=
  match call.onMessage with
  | none => flow
  | some (0, message) => flow.dispatch outcomes message
  | some (queue + 1, message) =>
      { flow with queues := flow.queues.modify queue fun held => held.onEvent message }

/-- A message on `external/{name}`. Every subscriber is called once for it, so
`last_topic` is that of this message at each of the calls. -/
def receive (flow : Flow events) (name : String) (data : Json) (outcomes : Outcomes) :
    Flow events :=
  let router := routeMessage outcomes.edges flow.router (eventTopic name) data
  let routed := { flow with
    host := flow.host.onContext flow.node fun ctx => { ctx with router := router } }
  (router.edgeCalls.drop flow.router.edgeCalls.length).foldl (onMessage outcomes) routed

/-- `MQTTExternalEvents.start` on a gateway that enables it. -/
def startExternalEvents (flow : Flow events) : Flow events :=
  { flow with
    host := flow.host.call flow.node
      (.createSubscriber externalFilter externalDispatch (some externalEventMessage.msgType))
    subscriber := some flow.router.registry.subscribers.length }

/-- `EEventQueueFactory.create` -/
def createQueue (flow : Flow events) (event : String) (maxlen : Nat) : Flow events :=
  { flow with
    host := flow.host.createReader .eventQueue (eventTopic event)
      (queueCallback flow.queues.length)
    queues := flow.queues ++ [⟨event, maxlen, []⟩] }

def onBus (flow : Flow events) (f : Adapter events → Adapter events) : Flow events :=
  { flow with host := flow.host.onNode flow.node fun node => { node with bus := f node.bus } }

def step (flow : Flow events) : Event → Flow events
  | .start => flow.startExternalEvents
  | .called call => { flow with host := flow.host.call flow.node call }
  | .subscribeEvent eventType handler =>
      flow.onBus fun bus => bus.subscribe eventType (.other handler)
  | .unsubscribeEvent eventType handler =>
      flow.onBus fun bus => bus.unsubscribe eventType (.other handler)
  | .create event callback => { flow with host := flow.host.createListener event callback }
  | .remove event callback => { flow with host := flow.host.removeListener event callback }
  | .queue event maxlen => flow.createQueue event maxlen
  | .message name data outcomes => flow.receive name data outcomes

/-- The flow after a sequence of calls and messages. -/
def after (flow : Flow events) (history : List Event) : Flow events := history.foldl step flow

/-- A new gateway, before its components are started. -/
def fresh (botNamespace : String) (threshold components : Nat) : Flow events :=
  ⟨.fresh botNamespace threshold components, none, [], [], []⟩

theorem after_snoc (flow : Flow events) (history : List Event) (event : Event) :
    flow.after (history ++ [event]) = (flow.after history).step event := by
  simp [after]

end Flow

def EventName (name : String) : Prop := '/' ∉ name.toList ∧ hasWildcard name = false

/-- The payload decodes to an `ExternalEventMessage`. -/
def Decodes (data : Json) (message : Instance) : Prop :=
  edgeMessage (some externalEventMessage.msgType) data = .ok (.typed message)

theorem event_name_topic (name : String) : eventName (eventTopic name) = name := by
  unfold eventName eventTopic
  simp

theorem event_key_injective {first second : String} (same : eventKey first = eventKey second) :
    first = second := by
  simpa [eventKey] using same

theorem event_topic_injective {first second : String}
    (same : eventTopic first = eventTopic second) : first = second := by
  simpa [eventTopic] using same

theorem event_segments {name : String} (flat : '/' ∉ name.toList) :
    segments (eventTopic name) = ["external".toList, name.toList] := by
  have lead : (eventTopic name).toList = "external".toList ++ '/' :: name.toList := by
    simp [eventTopic]
  unfold segments
  rw [lead, List.splitOn_append_cons_self, List.splitOn_eq_singleton flat,
    List.splitOn_eq_singleton (by decide)]
  rfl

theorem external_filter_matches {name : String} (isName : EventName name) :
    topicMatches externalFilter (eventTopic name) = true := by
  have wild : hasWildcard externalFilter = true := by decide
  have parts : segments externalFilter = ["external".toList, plus] := by decide
  unfold topicMatches
  rw [wild, if_neg (by decide), parts, event_segments isName.1]
  exact (one_level_match_iff (by decide) (by decide) ["external".toList] name.toList).mpr rfl

theorem until_raised_of_ok {dispatched : List (ListenerCall × Except PyException Unit)}
    (ended : ∀ entry ∈ dispatched, entry.2 = .ok ()) :
    untilRaised dispatched = dispatched.map Prod.fst := by
  induction dispatched with
  | nil => rfl
  | cons entry rest induction =>
      obtain ⟨call, result⟩ := entry
      obtain ⟨here, later⟩ := List.forall_mem_cons.mp ended
      obtain rfl : result = .ok () := here
      rw [untilRaised, induction later]
      rfl

/-- No `_dispatch` raises, so a publication calls them all. -/
theorem listener_calls_all (flow : Flow events) (outcomes : Outcomes) (eventType : String)
    (message : Delivered Instance) :
    flow.listenerCalls outcomes eventType message =
      (flow.host.receivers flow.node eventType).filterMap fun
        | .dispatch id =>
            (flow.host.listeners[id]?).map fun listener =>
              ⟨listener.callback, message, listener.event⟩
        | .other _ => none := by
  unfold Flow.listenerCalls
  rw [until_raised_of_ok, List.map_filterMap]
  · apply List.filterMap_congr
    intro handler _
    cases handler with
    | dispatch id => exact Option.map_map _ _ _
    | other id => rfl
  · intro entry member
    obtain ⟨handler, _, made⟩ := List.mem_filterMap.mp member
    cases handler with
    | dispatch id =>
        obtain ⟨listener, _, rfl⟩ := Option.map_eq_some_iff.mp made
        rfl
    | other id => cases made

/-- What changes in a flow while the `on_message` calls of one message are
made: the records and the queues. -/
structure Records (flow next : Flow events) : Prop where
  host : next.host = flow.host
  subscriber : next.subscriber = flow.subscriber
  queues : next.queues.map EventQueue.event = flow.queues.map EventQueue.event

theorem Records.refl (flow : Flow events) : Records flow flow := ⟨rfl, rfl, rfl⟩

theorem Records.trans {first second third : Flow events} (early : Records first second)
    (late : Records second third) : Records first third :=
  ⟨late.host.trans early.host, late.subscriber.trans early.subscriber,
    late.queues.trans early.queues⟩

theorem dispatch_records (flow : Flow events) (outcomes : Outcomes) (message : Delivered Instance) :
    Records flow (flow.dispatch outcomes message) := by
  unfold Flow.dispatch
  dsimp only [caught]
  split <;> exact ⟨rfl, rfl, rfl⟩

theorem on_message_records (outcomes : Outcomes) (flow : Flow events) (call : EdgeCall Instance) :
    Records flow (flow.onMessage outcomes call) := by
  unfold Flow.onMessage
  split
  · exact .refl flow
  · exact dispatch_records flow outcomes _
  · refine ⟨rfl, rfl, ?_⟩
    exact Subscriptions.map_modify_same EventQueue.event fun _ => rfl

theorem on_messages_records (outcomes : Outcomes) (calls : List (EdgeCall Instance))
    (flow : Flow events) : Records flow (calls.foldl (Flow.onMessage outcomes) flow) := by
  induction calls generalizing flow with
  | nil => exact .refl flow
  | cons call rest induction => exact (on_message_records outcomes flow call).trans (induction _)

/-- An `on_message` that is not `_dispatch` reaches neither the app nor a
listener. -/
theorem on_messages_quiet (outcomes : Outcomes) {calls : List (EdgeCall Instance)}
    (quiet : ∀ call ∈ calls, ∀ message, call.onMessage ≠ some (externalDispatch, message))
    (flow : Flow events) :
    (calls.foldl (Flow.onMessage outcomes) flow).appCalls = flow.appCalls ∧
      (calls.foldl (Flow.onMessage outcomes) flow).heard = flow.heard := by
  induction calls generalizing flow with
  | nil => exact ⟨rfl, rfl⟩
  | cons call rest induction =>
      have later := induction (fun other member => quiet other (List.mem_cons_of_mem _ member))
        (flow.onMessage outcomes call)
      have here : (flow.onMessage outcomes call).appCalls = flow.appCalls ∧
          (flow.onMessage outcomes call).heard = flow.heard := by
        unfold Flow.onMessage
        split
        · exact ⟨rfl, rfl⟩
        · rename_i message made
          exact absurd made (quiet call List.mem_cons_self message)
        · exact ⟨rfl, rfl⟩
      exact ⟨later.1.trans here.1, later.2.trans here.2⟩

theorem dispatch_calls {flow : Flow events} {topic : String} (shown : flow.lastTopic = some topic)
    (outcomes : Outcomes) (message : Delivered Instance) :
    flow.dispatch outcomes message = { flow with
      appCalls := flow.appCalls ++ [message]
      heard := flow.heard ++
        flow.listenerCalls outcomes (eventKey (eventName topic)) message } := by
  have shown : Flow.lastTopic { flow with appCalls := flow.appCalls ++ [message] } = some topic :=
    shown
  unfold Flow.dispatch
  dsimp only [caught]
  rw [shown]
  rfl

section

variable {flow : Flow events}

theorem router_of_node {node : Node events Instance Response}
    (stored : flow.host.nodes[flow.node]? = some node) : flow.router = node.ctx.router := by
  simp [Flow.router, stored]

theorem receivers_on_context (host : Host events Instance Response) (id other : ContextId)
    (f : NodeContext.Context Instance Response → NodeContext.Context Instance Response)
    (eventType : String) :
    (host.onContext id f).receivers other eventType = host.receivers other eventType := by
  unfold Host.receivers Host.onContext
  rw [node_onNode]
  split
  · cases host.nodes[other]? with
    | none => rfl
    | some node => rfl
  · rfl

def reroute (flow : Flow events) (router : Router Instance Response) : Flow events :=
  { flow with host := flow.host.onContext flow.node fun ctx => { ctx with router := router } }

theorem reroute_router {node : Node events Instance Response}
    (stored : flow.host.nodes[flow.node]? = some node) (router : Router Instance Response) :
    (reroute flow router).router = router := by
  have changed : (reroute flow router).host.nodes[(reroute flow router).node]? =
      some { node with ctx := { node.ctx with router := router } } := by
    show (flow.host.onNode flow.node _).nodes[flow.node]? = _
    rw [node_onNode, if_pos rfl, stored]
    rfl
  exact router_of_node changed

theorem reroute_listener_calls (flow : Flow events) (router : Router Instance Response)
    (outcomes : Outcomes) (eventType : String) (message : Delivered Instance) :
    (reroute flow router).listenerCalls outcomes eventType message =
      flow.listenerCalls outcomes eventType message := by
  have receivers := receivers_on_context flow.host flow.node flow.node
    (fun ctx => { ctx with router := router }) eventType
  rw [listener_calls_all, listener_calls_all]
  exact congrArg (List.filterMap _) receivers

theorem receive_records (flow : Flow events) (name : String) (data : Json) (outcomes : Outcomes) :
    Records (reroute flow (routeMessage outcomes.edges flow.router (eventTopic name) data))
      (flow.receive name data outcomes) :=
  on_messages_records outcomes _ _

theorem receive_host (flow : Flow events) (name : String) (data : Json) (outcomes : Outcomes) :
    (flow.receive name data outcomes).host =
      (reroute flow (routeMessage outcomes.edges flow.router (eventTopic name) data)).host :=
  (receive_records flow name data outcomes).host

def routed (flow : Flow events) : Event → Router Instance Response
  | .start => flow.router.perform
      (.createSubscriber externalFilter externalDispatch (some externalEventMessage.msgType))
  | .called call => flow.router.perform call
  | .queue event _ => flow.router.perform
      (.createSubscriber (eventTopic event) (queueCallback flow.queues.length) none)
  | .message name data outcomes => routeMessage outcomes.edges flow.router (eventTopic name) data
  | _ => flow.router

theorem step_node (flow : Flow events) (event : Event) : (flow.step event).node = flow.node := by
  cases event with
  | message name data outcomes =>
      show (flow.receive name data outcomes).host.gateway.node = flow.host.gateway.node
      rw [receive_host]
      rfl
  | remove event callback =>
      show (flow.host.removeListener event callback).gateway.node = flow.host.gateway.node
      rw [Host.remove_listener_gateway]
  | _ => rfl

theorem step_context {node : Node events Instance Response}
    (stored : flow.host.nodes[flow.node]? = some node) (event : Event) :
    ∃ next, (flow.step event).host.nodes[flow.node]? = some next ∧
      next.ctx.router = routed flow event := by
  have router := router_of_node stored
  have changed : ∀ f : Node events Instance Response → Node events Instance Response,
      (flow.host.onNode flow.node f).nodes[flow.node]? = some (f node) := by
    intro f
    rw [node_onNode, if_pos rfl, stored]
    rfl
  cases event with
  | start => exact ⟨_, changed _, by rw [routed, router]⟩
  | called call => exact ⟨_, changed _, by rw [routed, router]⟩
  | subscribeEvent eventType handler => exact ⟨_, changed _, router.symm⟩
  | unsubscribeEvent eventType handler => exact ⟨_, changed _, router.symm⟩
  | create event callback => exact ⟨_, changed _, router.symm⟩
  | remove event callback =>
      show ∃ next, (flow.host.removeListener event callback).nodes[flow.node]? = some next ∧ _
      rcases flow.host.remove_listener_cases event callback with ⟨_, same⟩ | ⟨_, _, same⟩
      · rw [same]
        exact ⟨node, stored, router.symm⟩
      · rw [same]
        exact ⟨_, changed _, router.symm⟩
  | queue event maxlen => exact ⟨_, changed _, by rw [routed, router]⟩
  | message name data outcomes =>
      show ∃ next, (flow.receive name data outcomes).host.nodes[flow.node]? = some next ∧ _
      rw [receive_host]
      exact ⟨_, changed _, rfl⟩

theorem step_router {node : Node events Instance Response}
    (stored : flow.host.nodes[flow.node]? = some node) (event : Event) :
    (flow.step event).router = routed flow event := by
  obtain ⟨next, there, router⟩ := step_context stored event
  rw [← step_node flow event] at there
  rw [router_of_node there, router]

theorem step_heard (lawful : events.Lawful) (heard : Heard flow.host) (event : Event) :
    Heard (flow.step event).host := by
  cases event with
  | start =>
      have called := heard_onContext heard flow.node fun ctx => { ctx with
        router := ctx.router.perform (.createSubscriber externalFilter externalDispatch
          (some externalEventMessage.msgType)) }
      exact called
  | called call =>
      exact heard_onContext heard flow.node fun ctx => { ctx with
        router := ctx.router.perform call }
  | subscribeEvent eventType handler =>
      exact heard_other_bus heard flow.node
        (fun bus => bus.subscribe eventType (.other handler))
        fun bus served => serves_subscribe_other lawful served eventType handler
  | unsubscribeEvent eventType handler =>
      exact heard_other_bus heard flow.node
        (fun bus => bus.unsubscribe eventType (.other handler))
        fun bus served => serves_unsubscribe_other lawful served eventType handler
  | create event callback => exact heard_create lawful heard event callback
  | remove event callback => exact heard_remove lawful heard event callback
  | queue event maxlen =>
      have called := heard_onContext heard flow.node fun ctx => { ctx with
        router := ctx.router.perform (.createSubscriber (eventTopic event)
          (queueCallback flow.queues.length) none) }
      exact ⟨called.created, called.serves, called.registry⟩
  | message name data outcomes =>
      show Heard (flow.receive name data outcomes).host
      rw [receive_host]
      exact heard_onContext heard flow.node fun ctx => { ctx with
        router := routeMessage outcomes.edges flow.router (eventTopic name) data }

/-- An event that is no call of `EEventListenerFactory` spares its listeners. -/
theorem step_spares_listeners (flow : Flow events) {event : Event}
    (spares : ∀ name callback, event ≠ .create name callback ∧ event ≠ .remove name callback) :
    (flow.step event).host.listeners = flow.host.listeners ∧
      (flow.step event).host.dispatchRegistry = flow.host.dispatchRegistry ∧
      (flow.step event).host.gateway = flow.host.gateway := by
  cases event with
  | create event callback => exact absurd rfl (spares event callback).1
  | remove event callback => exact absurd rfl (spares event callback).2
  | message name data outcomes =>
      show (flow.receive name data outcomes).host.listeners = _ ∧
        (flow.receive name data outcomes).host.dispatchRegistry = _ ∧
        (flow.receive name data outcomes).host.gateway = _
      rw [receive_host]
      exact ⟨rfl, rfl, rfl⟩
  | _ => exact ⟨rfl, rfl, rfl⟩

end

/-- The subscribers whose edge callbacks a message on the topic calls. -/
def reached (router : Router Instance Response) (topic : String) : List SubscriberId :=
  match router.registry.commandTable.get? topic with
  | some _ => []
  | none => calledSubscribers router.registry topic

theorem reached_of_command {router : Router Instance Response} {topic : String}
    (command : topic ∈ router.registry.commandTable.keys) : reached router topic = [] := by
  obtain ⟨entry, stored⟩ := Option.isSome_iff_exists.mp (OrderedDict.get_isSome_iff.mpr command)
  unfold reached
  rw [stored]

theorem reached_of_best {router : Router Instance Response} {topic filter : String}
    {ids : List SubscriberId} (noCommand : topic ∉ router.registry.commandTable.keys)
    (best : bestEntry router.registry topic = some (filter, ids)) : reached router topic = ids := by
  unfold reached calledSubscribers
  rw [OrderedDict.get_none_of_absent noCommand, best]

theorem routed_calls (callbacks : Callbacks Instance) (router : Router Instance Response)
    (topic : String) (data : Json) :
    (routeMessage callbacks router topic data).edgeCalls.drop router.edgeCalls.length =
      (reached router topic).flatMap fun id =>
        (edgeCallback callbacks router.registry id data topic).2 := by
  unfold routeMessage reached calledSubscribers
  cases command : router.registry.commandTable.get? topic with
  | some entry => simp
  | none =>
      cases best : bestEntry router.registry topic with
      | none => simp
      | some entry => simp [call_edges_calls]

theorem receive_eq (flow : Flow events) (name : String) (data : Json) (outcomes : Outcomes) :
    flow.receive name data outcomes =
      ((reached flow.router (eventTopic name)).flatMap fun id =>
        (edgeCallback outcomes.edges flow.router.registry id data (eventTopic name)).2).foldl
          (Flow.onMessage outcomes)
          (reroute flow (routeMessage outcomes.edges flow.router (eventTopic name) data)) := by
  rw [← routed_calls outcomes.edges]
  rfl

theorem routed_registry (callbacks : Callbacks Instance) (router : Router Instance Response)
    (topic : String) (data : Json) :
    (routeMessage callbacks router topic data).registry =
      (callEdges callbacks data topic (reached router topic) router.registry).1 := by
  unfold routeMessage reached calledSubscribers
  cases command : router.registry.commandTable.get? topic with
  | some entry => rfl
  | none =>
      cases best : bestEntry router.registry topic with
      | none => rfl
      | some entry => rfl

theorem edge_callback_on_message {callbacks : Callbacks Instance} {registry : Registry Instance}
    {id : SubscriberId} {raw : Json} {topic : String} {call : EdgeCall Instance}
    {callback : CallbackId} {message : Delivered Instance}
    (member : call ∈ (edgeCallback callbacks registry id raw topic).2)
    (made : call.onMessage = some (callback, message)) :
    ∃ msgType, handling registry id = some (callback, msgType) := by
  unfold edgeCallback at member
  split at member
  · cases member
  · rename_i subscriber stored
    split at member
    · rw [List.mem_singleton.mp member] at made
      cases made
    · rw [List.mem_singleton.mp member] at made
      cases made
      exact ⟨subscriber.msgType, by rw [handling, stored]; rfl⟩

theorem quiet_edges {callbacks : Callbacks Instance} {registry : Registry Instance} {raw : Json}
    {topic : String} {ids : List SubscriberId}
    (quiet : ∀ id ∈ ids, ∀ msgType, handling registry id ≠ some (externalDispatch, msgType)) :
    ∀ call ∈ ids.flatMap fun id => (edgeCallback callbacks registry id raw topic).2,
      ∀ message, call.onMessage ≠ some (externalDispatch, message) := by
  intro call member message made
  obtain ⟨id, isReached, here⟩ := List.mem_flatMap.mp member
  obtain ⟨msgType, handled⟩ := edge_callback_on_message here made
  exact quiet id isReached msgType handled

/-- The callback of `MQTTExternalEvents` on a payload that decodes. -/
theorem edge_callback_decodes {registry : Registry Instance} {sub : SubscriberId} {data : Json}
    {message : Instance}
    (handled : handling registry sub = some (externalDispatch, some externalEventMessage.msgType))
    (decodes : Decodes data message) (callbacks : Callbacks Instance) (topic : String) :
    (edgeCallback callbacks registry sub data topic).2 =
        [⟨sub, topic, some (externalDispatch, .typed message), callbacks sub (.typed message)⟩] ∧
      ((edgeCallback callbacks registry sub data topic).1.subscribers[sub]?).bind
        Subscriber.lastTopic = some topic := by
  obtain ⟨held, stored, same⟩ := Option.map_eq_some_iff.mp handled
  obtain ⟨onMessage, msgType⟩ := Prod.mk.inj same
  have inside := (List.getElem?_eq_some_iff.mp stored).1
  unfold Decodes at decodes
  unfold edgeCallback
  rw [stored]
  dsimp only
  rw [msgType, decodes, onMessage]
  simp [List.getElem?_set_self inside]

/-- A message that reaches only others than `MQTTExternalEvents`. -/
theorem receive_quiet {flow : Flow events} {name : String}
    (quiet : ∀ id ∈ reached flow.router (eventTopic name), ∀ msgType,
      handling flow.router.registry id ≠ some (externalDispatch, msgType))
    (data : Json) (outcomes : Outcomes) :
    (flow.receive name data outcomes).appCalls = flow.appCalls ∧
      (flow.receive name data outcomes).heard = flow.heard := by
  rw [receive_eq]
  exact on_messages_quiet outcomes (quiet_edges quiet) _

theorem receive_command {flow : Flow events} {name : String}
    (command : eventTopic name ∈ flow.router.registry.commandTable.keys) (data : Json)
    (outcomes : Outcomes) :
    flow.receive name data outcomes =
      reroute flow (routeMessage outcomes.edges flow.router (eventTopic name) data) := by
  rw [receive_eq, reached_of_command command]
  rfl

/-- A message that reaches `MQTTExternalEvents` first, and then only others. -/
theorem receive_dispatches {flow : Flow events} {node : Node events Instance Response}
    {name : String} {data : Json} {message : Instance} {sub : SubscriberId} {rest : List SubscriberId}
    (stored : flow.host.nodes[flow.node]? = some node) (own : flow.subscriber = some sub)
    (handled : handling flow.router.registry sub =
      some (externalDispatch, some externalEventMessage.msgType))
    (others : ∀ id ∈ rest, ∀ msgType,
      handling flow.router.registry id ≠ some (externalDispatch, msgType))
    (reaches : reached flow.router (eventTopic name) = sub :: rest)
    (decodes : Decodes data message) (outcomes : Outcomes) :
    (flow.receive name data outcomes).appCalls = flow.appCalls ++ [.typed message] ∧
      (flow.receive name data outcomes).heard = flow.heard ++
        flow.listenerCalls outcomes (eventKey name) (.typed message) := by
  have own_edge := edge_callback_decodes handled decodes outcomes.edges (eventTopic name)
  have registry := routed_registry outcomes.edges flow.router (eventTopic name) data
  rw [reaches] at registry
  rw [receive_eq, reaches, List.flatMap_cons, own_edge.1, List.singleton_append, List.foldl_cons]
  generalize routeMessage outcomes.edges flow.router (eventTopic name) data = router at registry
  -- `last_topic` shows this message, whatever the callbacks after the first do.
  have shown : (reroute flow router).lastTopic = some (eventTopic name) := by
    unfold Flow.lastTopic
    rw [reroute_router stored, registry]
    show flow.subscriber.bind _ = _
    rw [own]
    exact call_edges_last_topic outcomes.edges data (eventTopic name) rest own_edge.2
  have dispatched := dispatch_calls shown outcomes (.typed message)
  rw [event_name_topic, reroute_listener_calls] at dispatched
  have first : Flow.onMessage outcomes (reroute flow router)
      ⟨sub, eventTopic name, some (externalDispatch, .typed message),
        outcomes.edges sub (.typed message)⟩ = _ := dispatched
  rw [first]
  exact on_messages_quiet outcomes (quiet_edges others) _

end RemoteIface.External.EventFlow
