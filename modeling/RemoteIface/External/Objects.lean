import RemoteIface.Commlib.Handles
import RemoteIface.Gateway.Contexts
import RemoteIface.HbCompat.EventBusAdapter

/-!
A `MQTTGateway` together with the objects of the external API that were made on
it: `ETopicListener`, the queues, `EEventListenerFactory`, `ETopicPublisher` and
`EMTopicPublisher`. The `NodeContext`s of the gateway are numbered as in its
lifecycle, and an object keeps the number of the one it was made on. Inside a
`NodeContext` everything that `Commlib` allows may happen at any time, the
connection included; of its lifecycle only `_loop` is followed here. Calls are
made on the main thread.
-/

namespace RemoteIface.External.Objects

set_option autoImplicit false

open RemoteIface.Library.InsertionOrder
open RemoteIface.Commlib RemoteIface.Gateway
open RemoteIface.Commlib.Payload
open RemoteIface.Commlib.Endpoints
open RemoteIface.Commlib.Rpc
open RemoteIface.Commlib.Handles
open RemoteIface.Commlib.NodeContext
open RemoteIface.Gateway.Lifecycle
open RemoteIface.HbCompat.EventBusAdapter

abbrev ReaderId := Nat
abbrev ListenerId := Nat

/-- A handler on the event bus: the `_dispatch` of one `create()`, or one of
somebody else. -/
inductive Handler where
  | dispatch (listener : ListenerId)
  | other (id : Nat)
deriving DecidableEq, Repr

/-- Only an `ETopicListener` that was handed out can be stopped. -/
inductive ReaderKind where
  | listener
  | topicQueue
  | eventQueue
deriving DecidableEq, Repr

/-- An `ETopicListener`, or the subscriber that fills a queue. -/
structure Reader where
  kind : ReaderKind
  topic : String
  node : ContextId
  sub : SubscriberId
  stopped : Bool
deriving DecidableEq, Repr

/-- A listener of `EEventListenerFactory`. -/
structure EventListener where
  event : String
  callback : CallbackId
  node : ContextId
  removed : Bool
deriving DecidableEq, Repr

structure TopicPublisher where
  topic : String
  node : ContextId
  pub : PublisherId
deriving DecidableEq, Repr

structure MultiPublisher where
  useBotPrefix : Bool
  publishers : OrderedDict String (ContextId × PublisherId)

/-- `MQTTGateway.topic_for` -/
def topicFor (botNamespace instanceId topic : String) (botPrefix : Bool) : String :=
  if botPrefix then
    botNamespace ++ "/" ++ instanceId ++ "/" ++ String.ofList (topic.toList.dropWhile (· = '/'))
  else topic

/-- The key that `MQTTExternalEvents` republishes an event under. -/
def eventKey (event : String) : String := "external." ++ event

def eventTopic (event : String) : String := "external/" ++ event

structure Node (events : EventBus Handler) (Obj Resp : Type) where
  ctx : Context Obj Resp
  bus : Adapter events

/-- The registry of the dispatch closures is keyed by the gateway too, of which
there is one here. -/
structure Host (events : EventBus Handler) (Obj Resp : Type) where
  botNamespace : String
  gateway : World
  nodes : List (Node events Obj Resp)
  readers : List Reader
  listeners : List EventListener
  dispatchRegistry : OrderedDict (String × CallbackId) ListenerId
  publishers : List TopicPublisher
  multiPublishers : List MultiPublisher

/-- The `instanceId` is what `app.instance_id` returns during the call. -/
inductive Event (Obj Resp : Type) where
  | lifecycle (event : Lifecycle.Event)
  | inside (node : ContextId) (event : NodeContext.Event Obj Resp)
  | subscribeEvent (node : ContextId) (eventType : String) (handler : Nat)
  | unsubscribeEvent (node : ContextId) (eventType : String) (handler : Nat)
  | topicListener (instanceId topic : String) (useBotPrefix : Bool) (onMessage : CallbackId)
  | topicQueue (instanceId topic : String) (useBotPrefix : Bool) (onMessage : CallbackId)
  | eventQueue (event : String) (onMessage : CallbackId)
  | stop (reader : ReaderId)
  | create (event : String) (callback : CallbackId)
  | remove (event : String) (callback : CallbackId)
  | topicPublisher (instanceId topic : String) (useBotPrefix : Bool)
  | send (publisher : Nat) (serialized : Except PyException Json)
  | multiPublisher (useBotPrefix : Bool)
  | sendTo (publisher : Nat) (instanceId topic : String) (serialized : Except PyException Json)

variable {events : EventBus Handler} {Obj Resp : Type}

def Node.fresh : Node events Obj Resp := ⟨.fresh, .new⟩

/-- `NodeContext.start` has set `_loop`. -/
def Node.launch (node : Node events Obj Resp) : Node events Obj Resp :=
  { node with ctx := { node.ctx with conn := { node.ctx.conn with loopSet := true } } }

namespace Host

def fresh (botNamespace : String) (threshold components : Nat) : Host events Obj Resp where
  botNamespace := botNamespace
  gateway := .fresh threshold components
  nodes := [.fresh]
  readers := []
  listeners := []
  dispatchRegistry := .empty
  publishers := []
  multiPublishers := []

def onNode (host : Host events Obj Resp) (id : ContextId)
    (f : Node events Obj Resp → Node events Obj Resp) : Host events Obj Resp :=
  { host with nodes := host.nodes.modify id f }

def onContext (host : Host events Obj Resp) (id : ContextId)
    (f : Context Obj Resp → Context Obj Resp) : Host events Obj Resp :=
  host.onNode id fun node => { node with ctx := f node.ctx }

/-- A call on the endpoints of a context. -/
def call (host : Host events Obj Resp) (id : ContextId) (call : RegistryCall Obj) :
    Host events Obj Resp :=
  host.onContext id fun ctx => { ctx with router := ctx.router.perform call }

def registry (host : Host events Obj Resp) (id : ContextId) : Registry Obj :=
  ((host.nodes[id]?).map fun node => node.ctx.router.registry).getD .empty

def lifecycle (host : Host events Obj Resp) (event : Lifecycle.Event) :
    Option (Host events Obj Resp) :=
  (host.gateway.step event).map fun gateway =>
    let known := host.nodes ++
      List.replicate (gateway.contexts.length - host.nodes.length) Node.fresh
    { host with
      gateway := gateway
      nodes := known.mapIdx fun id node => if id ∈ gateway.launched then node.launch else node }

def owns (host : Host events Obj Resp) (id : ContextId) (call : RegistryCall Obj) : Bool :=
  (host.readers.any fun reader => reader.node = id ∧ onSubscriber call = some reader.sub) ||
  (host.publishers.any fun publisher =>
    publisher.node = id ∧ onPublisher call = some publisher.pub) ||
  host.multiPublishers.any fun multi => multi.publishers.entries.any fun entry =>
    entry.2.1 = id ∧ onPublisher call = some entry.2.2

/-- An event of a context. Nobody else calls the endpoints that an external
object keeps to itself. -/
def inside (serialize : Resp → Except PyException Json) (host : Host events Obj Resp)
    (id : ContextId) (event : NodeContext.Event Obj Resp) : Option (Host events Obj Resp) :=
  match host.nodes[id]? with
  | none => none
  | some node =>
      match event with
      | .called call =>
          if host.owns id call then none else some (host.call id call)
      | event =>
          (node.ctx.step serialize event).map fun ctx =>
            host.onNode id fun node => { node with ctx := ctx }

/-- `create_subscriber` on the current context. -/
def createReader (host : Host events Obj Resp) (kind : ReaderKind) (topic : String)
    (onMessage : CallbackId) : Host events Obj Resp :=
  let node := host.gateway.node
  let sub := (host.registry node).subscribers.length
  { host.call node (.createSubscriber topic onMessage none) with
    readers := host.readers ++ [⟨kind, topic, node, sub, false⟩] }

/-- `ETopicListener.stop` -/
def stopReader (host : Host events Obj Resp) (id : ReaderId) : Option (Host events Obj Resp) :=
  match host.readers[id]? with
  | some ⟨.listener, topic, node, sub, _⟩ =>
      some { host.call node (.stopSubscriber sub) with
        readers := host.readers.set id ⟨.listener, topic, node, sub, true⟩ }
  | _ => none

/-- `EEventListenerFactory.create`. A gateway without external events is only
warned about. -/
def createListener (host : Host events Obj Resp) (event : String) (callback : CallbackId) :
    Host events Obj Resp :=
  let listener := host.listeners.length
  let subscribed := host.onNode host.gateway.node fun node =>
    { node with bus := node.bus.subscribe (eventKey event) (.dispatch listener) }
  { subscribed with
    listeners := host.listeners ++ [⟨event, callback, host.gateway.node, false⟩]
    dispatchRegistry := host.dispatchRegistry.set (event, callback) listener }

/-- `EEventListenerFactory.remove` -/
def removeListener (host : Host events Obj Resp) (event : String) (callback : CallbackId) :
    Host events Obj Resp :=
  match host.dispatchRegistry.get? (event, callback) with
  | none => host
  | some listener =>
      let unsubscribed := host.onNode host.gateway.node fun node =>
        { node with bus := node.bus.unsubscribe (eventKey event) (.dispatch listener) }
      { unsubscribed with
        listeners := host.listeners.modify listener fun held => { held with removed := true }
        dispatchRegistry := host.dispatchRegistry.pop (event, callback) }

def createTopicPublisher (host : Host events Obj Resp) (topic : String) : Host events Obj Resp :=
  let node := host.gateway.node
  let pub := (host.registry node).publishers.length
  { host.call node (.createPublisher topic) with
    publishers := host.publishers ++ [⟨topic, node, pub⟩] }

/-- `Publisher.publish` -/
def publish (host : Host events Obj Resp) (node : ContextId) (pub : PublisherId)
    (serialized : Except PyException Json) : Host events Obj Resp :=
  host.onContext node fun ctx => ctx.publish pub serialized

/-- `ETopicPublisher.send` -/
def send (host : Host events Obj Resp) (id : Nat) (serialized : Except PyException Json) :
    Option (Host events Obj Resp) :=
  (host.publishers[id]?).map fun publisher => host.publish publisher.node publisher.pub serialized

/-- `EMTopicPublisher.send`. A publisher is made at the first message to a topic
and kept. -/
def sendTo (host : Host events Obj Resp) (id : Nat) (instanceId topic : String)
    (serialized : Except PyException Json) : Option (Host events Obj Resp) :=
  match host.multiPublishers[id]? with
  | none => none
  | some multi =>
      let resolved := topicFor host.botNamespace instanceId topic multi.useBotPrefix
      match multi.publishers.get? resolved with
      | some (node, pub) => some (host.publish node pub serialized)
      | none =>
          let node := host.gateway.node
          let pub := (host.registry node).publishers.length
          let made : Host events Obj Resp := { host.call node (.createPublisher resolved) with
            multiPublishers := host.multiPublishers.set id
              { multi with publishers := multi.publishers.set resolved (node, pub) } }
          some (made.publish node pub serialized)

def step (serialize : Resp → Except PyException Json) (host : Host events Obj Resp) :
    Event Obj Resp → Option (Host events Obj Resp)
  | .lifecycle event => host.lifecycle event
  | .inside id event => host.inside serialize id event
  | .subscribeEvent id eventType handler =>
      some (host.onNode id fun node =>
        { node with bus := node.bus.subscribe eventType (.other handler) })
  | .unsubscribeEvent id eventType handler =>
      some (host.onNode id fun node =>
        { node with bus := node.bus.unsubscribe eventType (.other handler) })
  | .topicListener instanceId topic useBotPrefix onMessage =>
      some (host.createReader .listener (topicFor host.botNamespace instanceId topic useBotPrefix)
        onMessage)
  | .topicQueue instanceId topic useBotPrefix onMessage =>
      some (host.createReader .topicQueue (topicFor host.botNamespace instanceId topic useBotPrefix)
        onMessage)
  | .eventQueue event onMessage =>
      some (host.createReader .eventQueue (eventTopic event) onMessage)
  | .stop reader => host.stopReader reader
  | .create event callback => some (host.createListener event callback)
  | .remove event callback => some (host.removeListener event callback)
  | .topicPublisher instanceId topic useBotPrefix =>
      some (host.createTopicPublisher (topicFor host.botNamespace instanceId topic useBotPrefix))
  | .send publisher serialized => host.send publisher serialized
  | .multiPublisher useBotPrefix =>
      some { host with multiPublishers := host.multiPublishers ++ [⟨useBotPrefix, .empty⟩] }
  | .sendTo publisher instanceId topic serialized =>
      host.sendTo publisher instanceId topic serialized

/-- The edge callbacks that a context lists on a topic. A callback belongs to a
subscriber of one context. -/
def edgesOn (host : Host events Obj Resp) (id : ContextId) (topic : String) :
    List (ContextId × SubscriberId) :=
  ((host.registry id).callbacksOn topic).map fun sub => (id, sub)

/-- The handlers that a publication on the event bus of a context calls. -/
def receivers (host : Host events Obj Resp) (id : ContextId) (eventType : String) :
    List Handler :=
  ((host.nodes[id]?).map fun node => node.bus.receivers eventType).getD []

def enqueuedOn (host : Host events Obj Resp) (id : ContextId) : List Outgoing :=
  ((host.nodes[id]?).map fun node => enqueued node.ctx.conn).getD []

/-- An event of a context is a call that nobody else owns, or a step of its own. -/
theorem inside_cases {serialize : Resp → Except PyException Json}
    {host next : Host events Obj Resp} {id : ContextId} {event : NodeContext.Event Obj Resp}
    (taken : host.inside serialize id event = some next) :
    ∃ node, host.nodes[id]? = some node ∧
      ((∃ call, event = .called call ∧ host.owns id call = false ∧ next = host.call id call) ∨
        (∀ call, event ≠ .called call) ∧ ∃ ctx, node.ctx.step serialize event = some ctx ∧
          next = host.onNode id fun node => { node with ctx := ctx }) := by
  unfold inside at taken
  split at taken
  · cases taken
  · rename_i node stored
    refine ⟨node, stored, ?_⟩
    split at taken
    · rename_i call
      split at taken <;> cases taken
      rename_i free
      exact .inl ⟨call, rfl, by simpa using free, rfl⟩
    · rename_i _ noCall
      obtain ⟨ctx, stepped, rfl⟩ := Option.map_eq_some_iff.mp taken
      exact .inr ⟨noCall, ctx, stepped, rfl⟩

theorem remove_listener_cases (host : Host events Obj Resp) (event : String)
    (callback : CallbackId) :
    (host.dispatchRegistry.get? (event, callback) = none ∧
        host.removeListener event callback = host) ∨
      ∃ listener, host.dispatchRegistry.get? (event, callback) = some listener ∧
        host.removeListener event callback =
          { host.onNode host.gateway.node fun node =>
              { node with bus := node.bus.unsubscribe (eventKey event) (.dispatch listener) } with
            listeners := host.listeners.modify listener fun held => { held with removed := true }
            dispatchRegistry := host.dispatchRegistry.pop (event, callback) } := by
  unfold removeListener
  cases stored : host.dispatchRegistry.get? (event, callback) with
  | none => exact .inl ⟨rfl, rfl⟩
  | some listener => exact .inr ⟨listener, rfl, rfl⟩

theorem remove_listener_gateway (host : Host events Obj Resp) (event : String)
    (callback : CallbackId) : (host.removeListener event callback).gateway = host.gateway := by
  rcases host.remove_listener_cases event callback with ⟨_, same⟩ | ⟨_, _, same⟩
  · rw [same]
  · rw [same]
    rfl

theorem remove_listener_registry (host : Host events Obj Resp) (event : String)
    (callback : CallbackId) (pair : String × CallbackId) :
    (host.removeListener event callback).dispatchRegistry.get? pair =
      if pair = (event, callback) then none else host.dispatchRegistry.get? pair := by
  rcases host.remove_listener_cases event callback with ⟨missing, same⟩ | ⟨_, _, same⟩
  · rw [same]
    split
    · rename_i equal
      rw [equal]
      exact missing
    · rfl
  · rw [same]
    exact OrderedDict.get_pop _ _ _

end Host

end RemoteIface.External.Objects
