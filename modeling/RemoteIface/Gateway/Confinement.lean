import RemoteIface.Commlib.Delivery
import RemoteIface.Commlib.Replies
import RemoteIface.Gateway.Traffic

/-!
What the endpoints of a gateway are confined to, over any run: its RPC services
to the command topics, its subscriber to the filter of the external events, its
publishers to their own topics, and all that it sends to publications on these
and to replies.
-/

namespace RemoteIface.Gateway.Confinement

set_option autoImplicit false

open RemoteIface.Library.InsertionOrder
open RemoteIface.Commlib RemoteIface.Gateway
open RemoteIface.Commlib.Payload
open RemoteIface.Commlib.Endpoints
open RemoteIface.Commlib.Rpc
open RemoteIface.Commlib.Dispatch
open RemoteIface.Commlib.Subscriptions
open RemoteIface.Commlib.Handles
open RemoteIface.Commlib.NodeContext
open RemoteIface.Protocols.Messages
open RemoteIface.Gateway.Wiring
open RemoteIface.Gateway.TopicTables
open RemoteIface.Gateway.Traffic

def ServesCommand (config : GatewayConfig) (topic : String) (msgType : MsgType Instance) : Prop :=
  config.enableCommands = true ∧
    ∃ command, topic = commandTopic config command ∧ msgType = command.request.msgType

def HearsExternal (config : GatewayConfig) (filter : String) (msgType : Option (MsgType Instance)) :
    Prop :=
  config.enableExternalEvents = true ∧ filter = externalFilter ∧
    msgType = some externalEventMessage.msgType

structure Fenced (config : GatewayConfig) (registry : Registry Instance) : Prop where
  services : ∀ service ∈ registry.services, ServesCommand config service.rpcName service.msgType
  commands : ∀ topic msgType service, registry.commandTable.get? topic = some (msgType, service) →
    ServesCommand config topic msgType
  listeners : ∀ subscriber ∈ registry.subscribers, subscriber.onMessage = externalDispatch →
    HearsExternal config subscriber.topic subscriber.msgType

def Keeps (config : GatewayConfig) : RegistryCall Instance → Prop
  | .createRpc rpcName msgType _ => ServesCommand config rpcName msgType
  | .createSubscriber topic onMessage msgType =>
      onMessage = externalDispatch → HearsExternal config topic msgType
  | .setCallback _ fn => fn ≠ externalDispatch
  | _ => True

theorem fenced_empty (config : GatewayConfig) : Fenced config .empty where
  services := by simp [Registry.empty]
  commands := by simp [Registry.empty]
  listeners := by simp [Registry.empty]

theorem mem_modify_cases {Item : Type} {items : List Item} {index : Nat} {change : Item → Item}
    {item : Item} (member : item ∈ items.modify index change) :
    item ∈ items ∨ ∃ before ∈ items, item = change before := by
  obtain ⟨position, stored⟩ := List.mem_iff_getElem?.mp member
  rw [List.getElem?_modify] at stored
  obtain ⟨before, there, rfl⟩ := Option.map_eq_some_iff.mp stored
  split
  · exact .inr ⟨before, List.mem_of_getElem? there, rfl⟩
  · exact .inl (List.mem_of_getElem? there)

section

variable {config : GatewayConfig} {registry : Registry Instance}

theorem Fenced.start_subscriber (fenced : Fenced config registry) (id : SubscriberId) :
    Fenced config (registry.startSubscriber id) := by
  constructor
  · rw [Registry.start_subscriber_services]
    exact fenced.services
  · rw [Registry.start_subscriber_command_table]
    exact fenced.commands
  · intro subscriber member
    obtain ⟨before, old, flag, rfl⟩ := Registry.mem_start_subscriber member
    exact fenced.listeners before old

theorem Fenced.stop_subscriber (fenced : Fenced config registry) (id : SubscriberId) :
    Fenced config (registry.stopSubscriber id) := by
  constructor
  · rw [Registry.stop_subscriber_services]
    exact fenced.services
  · rw [Registry.stop_subscriber_command_table]
    exact fenced.commands
  · intro subscriber member
    obtain ⟨before, old, flag, rfl⟩ := Registry.mem_stop_subscriber member
    exact fenced.listeners before old

theorem Fenced.create_subscriber (fenced : Fenced config registry) {topic : String}
    {onMessage : CallbackId} {msgType : Option (MsgType Instance)}
    (hears : onMessage = externalDispatch → HearsExternal config topic msgType) :
    Fenced config (registry.createSubscriber topic onMessage msgType) := by
  have bound : Fenced config { registry with
      subscribers := registry.subscribers ++ [⟨topic, none, msgType, onMessage, false⟩] } := by
    refine ⟨fenced.services, fenced.commands, fun subscriber member => ?_⟩
    rcases List.mem_append.mp member with old | new
    · exact fenced.listeners subscriber old
    · rw [List.mem_singleton.mp new]
      exact hears
  exact bound.start_subscriber registry.subscribers.length

theorem Fenced.set_callback (fenced : Fenced config registry) (id : SubscriberId)
    {fn : CallbackId} (other : fn ≠ externalDispatch) :
    Fenced config (registry.setCallback id fn) := by
  refine ⟨fenced.services, fenced.commands, fun subscriber member owned => ?_⟩
  rcases mem_modify_cases member with old | ⟨before, _, rfl⟩
  · exact fenced.listeners subscriber old owned
  · exact absurd owned other

theorem Fenced.start_rpc (fenced : Fenced config registry) (id : ServiceId) :
    Fenced config (registry.startRpc id) := by
  rcases Registry.start_rpc_cases registry id with same | ⟨service, stored, same⟩
  · rw [same]
    exact fenced
  · have serves := fenced.services service (List.mem_of_getElem? stored)
    rw [same]
    constructor
    · intro other member
      rcases List.mem_or_eq_of_mem_set member with old | rfl
      · exact fenced.services other old
      · exact serves
    · intro topic msgType owner entry
      rw [OrderedDict.get_set] at entry
      split at entry
      · rename_i named
        cases entry
        exact named ▸ serves
      · exact fenced.commands topic msgType owner entry
    · exact fenced.listeners

theorem Fenced.stop_rpc (fenced : Fenced config registry) (id : ServiceId) :
    Fenced config (registry.stopRpc id) := by
  rcases Registry.stop_rpc_cases registry id with same | ⟨service, stored, same⟩
  · rw [same]
    exact fenced
  · rw [same]
    constructor
    · intro other member
      rcases List.mem_or_eq_of_mem_set member with old | rfl
      · exact fenced.services other old
      · exact fenced.services service (List.mem_of_getElem? stored)
    · intro topic msgType owner entry
      rw [OrderedDict.get_pop] at entry
      split at entry
      · cases entry
      · exact fenced.commands topic msgType owner entry
    · exact fenced.listeners

theorem Fenced.create_rpc (fenced : Fenced config registry) {rpcName : String}
    {msgType : MsgType Instance} (onRequest : CallbackId)
    (serves : ServesCommand config rpcName msgType) :
    Fenced config (registry.createRpc rpcName msgType onRequest) := by
  have bound : Fenced config { registry with
      services := registry.services ++ [⟨rpcName, msgType, onRequest, 5, none, false⟩] } := by
    refine ⟨fun service member => ?_, fenced.commands, fenced.listeners⟩
    rcases List.mem_append.mp member with old | new
    · exact fenced.services service old
    · rw [List.mem_singleton.mp new]
      exact serves
  exact bound.start_rpc registry.services.length

theorem Fenced.perform (fenced : Fenced config registry) {call : RegistryCall Instance}
    (keeps : Keeps config call) : Fenced config (registry.perform call) := by
  cases call with
  | createPublisher topic => exact ⟨fenced.services, fenced.commands, fenced.listeners⟩
  | startPublisher id => exact ⟨fenced.services, fenced.commands, fenced.listeners⟩
  | stopPublisher id => exact ⟨fenced.services, fenced.commands, fenced.listeners⟩
  | createSubscriber topic onMessage msgType => exact fenced.create_subscriber keeps
  | startSubscriber id => exact fenced.start_subscriber id
  | stopSubscriber id => exact fenced.stop_subscriber id
  | setCallback id fn => exact fenced.set_callback id keeps
  | createRpc rpcName msgType onRequest => exact fenced.create_rpc onRequest keeps
  | startRpc id => exact fenced.start_rpc id
  | stopRpc id => exact fenced.stop_rpc id

end

/-- The subscriber without the record of its last topic. -/
def settings (subscriber : Subscriber Instance) : Subscriber Instance :=
  { subscriber with lastTopic := none }

structure Recorded (registry next : Registry Instance) : Prop where
  services : next.services = registry.services
  commandTable : next.commandTable = registry.commandTable
  subscribers : next.subscribers.map settings = registry.subscribers.map settings
  publishers : next.publishers.map Publisher.topic = registry.publishers.map Publisher.topic

theorem Recorded.refl (registry : Registry Instance) : Recorded registry registry :=
  ⟨rfl, rfl, rfl, rfl⟩

theorem Recorded.trans {first second third : Registry Instance} (early : Recorded first second)
    (late : Recorded second third) : Recorded first third :=
  ⟨late.services.trans early.services, late.commandTable.trans early.commandTable,
    late.subscribers.trans early.subscribers, late.publishers.trans early.publishers⟩

theorem Recorded.subscriber {registry next : Registry Instance} (recorded : Recorded registry next)
    {id : SubscriberId} {subscriber : Subscriber Instance}
    (stored : next.subscribers[id]? = some subscriber) :
    ∃ before, registry.subscribers[id]? = some before ∧ settings before = settings subscriber := by
  have here : (registry.subscribers.map settings)[id]? = some (settings subscriber) := by
    rw [← recorded.subscribers, List.getElem?_map, stored]
    rfl
  exact Option.map_eq_some_iff.mp (by simpa using here)

theorem Fenced.recorded {config : GatewayConfig} {registry next : Registry Instance}
    (fenced : Fenced config registry) (recorded : Recorded registry next) : Fenced config next where
  services := by
    rw [recorded.services]
    exact fenced.services
  commands := by
    rw [recorded.commandTable]
    exact fenced.commands
  listeners := by
    intro subscriber member owned
    obtain ⟨id, stored⟩ := List.mem_iff_getElem?.mp member
    obtain ⟨before, there, same⟩ := recorded.subscriber stored
    obtain ⟨topic, _, msgType, onMessage, _⟩ := Subscriber.mk.inj same
    rw [← topic, ← msgType]
    exact fenced.listeners before (List.mem_of_getElem? there) (onMessage.trans owned)

theorem edge_callback_recorded (callbacks : Callbacks Instance) (registry : Registry Instance)
    (id : SubscriberId) (raw : Json) (topic : String) :
    Recorded registry (edgeCallback callbacks registry id raw topic).1 := by
  unfold edgeCallback
  split
  · exact .refl registry
  · rename_i subscriber stored
    split
    · exact .refl registry
    · exact ⟨rfl, rfl, map_set_same settings stored rfl, rfl⟩

theorem dispatch_recorded {callbacks : Callbacks Instance}
    {router next : Router Instance Response} {message : Message}
    (dispatched : dispatchIncoming callbacks router message = .ok next) :
    Recorded router.registry next.registry := by
  refine Delivery.dispatch_keeps (Recorded router.registry) ?_ dispatched (.refl router.registry)
  exact fun registry id raw topic recorded =>
    recorded.trans (edge_callback_recorded callbacks registry id raw topic)

theorem step_recorded {ctx next : Context Instance Response}
    {event : NodeContext.Event Instance Response}
    (taken : ctx.step Response.serialize event = some next) :
    (∃ call, event = .called call ∧
      next.router.registry = ctx.router.registry.perform call) ∨
      Recorded ctx.router.registry next.router.registry := by
  cases event with
  | called call =>
      cases taken
      exact .inl ⟨call, rfl, rfl⟩
  | received session message callbacks =>
      obtain ⟨client, drain, _, passed | failed⟩ := Context.received_cases taken
      · obtain ⟨router, dispatched, rfl⟩ := passed
        exact .inr (dispatch_recorded dispatched)
      · obtain ⟨error, _, rfl⟩ := failed
        exact .inr (.refl _)
  | publish id serialized =>
      cases taken
      rcases Context.publish_cases ctx id serialized with same | counted | ⟨item, _, queued⟩
      · rw [same]
        exact .inr (.refl _)
      · rw [counted]
        exact .inr ⟨rfl, rfl, rfl, map_modify_same Publisher.topic fun _ => rfl⟩
      · rw [queued]
        exact .inr (.refl _)
  | workStarted id =>
      rw [(Context.work_started_conn taken).2.2]
      exact .inr (.refl _)
  | workEnded id outcome now =>
      obtain ⟨_, _, _, _, _, _, _, router, _⟩ := Context.work_ended_cases taken
      rw [router]
      exact .inr (.refl _)
  | wire event =>
      obtain ⟨conn, _, rfl⟩ := Option.map_eq_some_iff.mp taken
      exact .inr (.refl _)

def IsPublication (config : GatewayConfig) (item : Outgoing) : Prop :=
  ∃ role : Role, role.component.enabled config = true ∧
    item.topic = .str (publisherTopic config role) ∧
    ∃ value, role.component.message.serialize value = .ok item.payload

def IsReply (item : Outgoing) : Prop :=
  ∃ now response data, Response.serialize response = .ok data ∧
    item.payload = wrapResponse now data

structure Kept (config : GatewayConfig) (ctx : Context Instance Response) : Prop where
  tracked : ∃ log, Tracks log ctx.router.registry
  fenced : Fenced config ctx.router.registry
  replies : ∀ reply ∈ ctx.replies, IsReply reply.2

theorem kept_fresh (config : GatewayConfig) : Kept config .fresh where
  tracked := ⟨_, tracks_empty⟩
  fenced := fenced_empty config
  replies := by simp [Context.fresh]

theorem step_replies {ctx next : Context Instance Response}
    {event : NodeContext.Event Instance Response}
    (taken : ctx.step Response.serialize event = some next)
    (replies : ∀ reply ∈ ctx.replies, IsReply reply.2) : ∀ reply ∈ next.replies, IsReply reply.2 := by
  rcases Context.replies_step taken with same | ⟨id, outcome, now, _, rfl, _, _⟩
  · rw [same]
    exact replies
  · obtain ⟨_, _, _, _, _, _, _, _, ⟨_, same, _⟩ | ⟨item, done, _, _, appended⟩⟩ :=
      Context.work_ended_cases taken
    · rw [same]
      exact replies
    · obtain ⟨_, _, response, body, _, serialized, rfl⟩ := Replies.done_some_iff.mp done
      intro reply member
      rw [appended] at member
      rcases List.mem_append.mp member with old | new
      · exact replies reply old
      · rw [List.mem_singleton.mp new]
        exact ⟨now, response, body, serialized, rfl⟩

theorem kept_step {config : GatewayConfig} {ctx next : Context Instance Response}
    {event : NodeContext.Event Instance Response} (kept : Kept config ctx)
    (keeps : ∀ call, event = .called call → Keeps config call)
    (taken : ctx.step Response.serialize event = some next) : Kept config next where
  tracked := step_tracked taken kept.tracked
  fenced := by
    rcases step_recorded taken with ⟨call, called, new⟩ | recorded
    · rw [new]
      exact kept.fenced.perform (keeps call called)
    · exact kept.fenced.recorded recorded
  replies := step_replies taken kept.replies

def KeepsTopics (registry next : Registry Instance) : Prop :=
  ∀ (pub : PublisherId) (topic : String),
    (registry.publishers.map Publisher.topic)[pub]? = some topic →
    (next.publishers.map Publisher.topic)[pub]? = some topic

theorem keeps_topics_of_same {registry next : Registry Instance}
    (same : next.publishers.map Publisher.topic = registry.publishers.map Publisher.topic) :
    KeepsTopics registry next := by
  intro pub topic stored
  rw [same]
  exact stored

theorem perform_keeps_topics (registry : Registry Instance) (call : RegistryCall Instance) :
    KeepsTopics registry (registry.perform call) := by
  have same : ∀ next : Registry Instance, next.publishers = registry.publishers →
      KeepsTopics registry next :=
    fun next publishers => keeps_topics_of_same (congrArg _ publishers)
  cases call with
  | createPublisher topic =>
      intro pub old stored
      rw [Registry.perform, created_publisher_topics]
      rw [List.getElem?_append_left (List.getElem?_eq_some_iff.mp stored).1]
      exact stored
  | startPublisher id => exact keeps_topics_of_same (map_modify_same Publisher.topic fun _ => rfl)
  | stopPublisher id => exact keeps_topics_of_same (map_modify_same Publisher.topic fun _ => rfl)
  | createSubscriber topic onMessage msgType =>
      exact same _ (Registry.start_subscriber_publishers _ _)
  | startSubscriber id => exact same _ (Registry.start_subscriber_publishers registry id)
  | stopSubscriber id => exact same _ (Registry.stop_subscriber_publishers registry id)
  | setCallback id fn => exact same _ rfl
  | createRpc rpcName msgType onRequest => exact same _ (Registry.start_rpc_publishers _ _)
  | startRpc id => exact same _ (Registry.start_rpc_publishers registry id)
  | stopRpc id => exact same _ (Registry.stop_rpc_publishers registry id)

theorem step_keeps_topics {ctx next : Context Instance Response}
    {event : NodeContext.Event Instance Response}
    (taken : ctx.step Response.serialize event = some next) :
    KeepsTopics ctx.router.registry next.router.registry := by
  rcases step_recorded taken with ⟨call, _, new⟩ | recorded
  · rw [new]
    exact perform_keeps_topics _ call
  · exact keeps_topics_of_same recorded.publishers

def Owns (config : GatewayConfig) (system : System) (role : Role)
    (publisher : ContextNumber × PublisherId) : Prop :=
  role.component.enabled config = true ∧
    ∃ ctx, system.contexts[publisher.1]? = some ctx ∧
      (ctx.router.registry.publishers.map Publisher.topic)[publisher.2]? =
        some (publisherTopic config role)

structure Confined (config : GatewayConfig) (system : System) : Prop where
  contexts : ∀ ctx ∈ system.contexts, Kept config ctx
  publishers : ∀ role publisher, system.endpoints.publisher role = some publisher →
    Owns config system role publisher

section

variable {config : GatewayConfig} {system : System}

theorem owns_onContext {id : ContextNumber}
    {f : Context Instance Response → Context Instance Response} {role : Role}
    {publisher : ContextNumber × PublisherId} (owns : Owns config system role publisher)
    (topics : ∀ ctx, system.contexts[id]? = some ctx →
      KeepsTopics ctx.router.registry (f ctx).router.registry) :
    Owns config (system.onContext id f) role publisher := by
  obtain ⟨enabled, ctx, stored, topic⟩ := owns
  refine ⟨enabled, ?_⟩
  rw [System.onContext, List.getElem?_modify, stored]
  by_cases here : id = publisher.1
  · exact ⟨f ctx, by simp [here], topics ctx (here ▸ stored) _ _ topic⟩
  · exact ⟨ctx, by simp [here], topic⟩

theorem Confined.onContext {id : ContextNumber}
    {f : Context Instance Response → Context Instance Response} (confined : Confined config system)
    (kept : ∀ ctx, system.contexts[id]? = some ctx → Kept config (f ctx) ∧
      KeepsTopics ctx.router.registry (f ctx).router.registry) :
    Confined config (system.onContext id f) where
  contexts := by
    intro ctx member
    obtain ⟨place, stored⟩ := List.mem_iff_getElem?.mp member
    rw [System.onContext, List.getElem?_modify] at stored
    obtain ⟨before, there, rfl⟩ := Option.map_eq_some_iff.mp stored
    split
    · rename_i here
      exact (kept before (here ▸ there)).1
    · exact confined.contexts before (List.mem_of_getElem? there)
  publishers := fun role publisher held =>
    owns_onContext (confined.publishers role publisher held) fun ctx stored => (kept ctx stored).2

theorem Confined.call (confined : Confined config system) (id : ContextNumber)
    {call : RegistryCall Instance} (keeps : Keeps config call) :
    Confined config (system.call id call) := by
  refine confined.onContext fun ctx stored => ?_
  have taken : ctx.step Response.serialize (.called call) =
      some { ctx with router := ctx.router.perform call } := rfl
  have before := confined.contexts ctx (List.mem_of_getElem? stored)
  exact ⟨kept_step before (fun other same => by cases same; exact keeps) taken,
    step_keeps_topics taken⟩

theorem Confined.hold (confined : Confined config system) {endpoints : Endpoints}
    (publishers : ∀ role publisher, endpoints.publisher role = some publisher →
      Owns config system role publisher) : Confined config (system.hold endpoints) :=
  ⟨confined.contexts, publishers⟩

theorem Confined.create_commands (confined : Confined config system) (id : ContextNumber)
    (enabled : config.enableCommands = true) (commands : List Command) :
    Confined config (commands.foldl (System.createCommand config id) system) := by
  induction commands generalizing system with
  | nil => exact confined
  | cons command rest induction =>
      have keeps : Keeps config (.createRpc (commandTopic config command)
          command.request.msgType (commandHandler command)) :=
        ⟨enabled, command, rfl, rfl⟩
      have called := confined.call id keeps
      exact induction (called.hold called.publishers)

theorem Confined.stop_commands (confined : Confined config system) :
    Confined config system.stopCommands := by
  have all : ∀ services : List (ContextNumber × ServiceId), ∀ system : System,
      Confined config system → Confined config (services.foldl
        (fun (system : System) service => system.call service.1 (.stopRpc service.2)) system) := by
    intro services
    induction services with
    | nil => exact fun system confined => confined
    | cons service rest induction =>
        exact fun system confined => induction _ (confined.call service.1 trivial)
  have stopped := all system.endpoints.services system confined
  exact stopped.hold stopped.publishers

theorem Confined.start_publishing (confined : Confined config system) {id : ContextNumber}
    (known : id < system.contexts.length) (role : Role) :
    Confined config (system.startPublishing config id role) := by
  unfold System.startPublishing
  split
  · rename_i enabled
    have keeps : Keeps config (.createPublisher (publisherTopic config role)) := trivial
    have called := confined.call id keeps
    refine called.hold fun other publisher held => ?_
    dsimp only at held
    split at held
    · rename_i same
      cases held
      subst same
      have made : (system.call id (.createPublisher (publisherTopic config other))).contexts[id]? =
          some { system.contexts[id] with
            router := system.contexts[id].router.perform
              (.createPublisher (publisherTopic config other)) } := by
        simp [System.call, System.onContext, known]
      refine ⟨enabled, _, made, ?_⟩
      have position : (system.registry id).publishers.length =
          (((system.contexts[id]).router.registry.publishers).map Publisher.topic).length := by
        simp [System.registry, known]
      dsimp only [Router.perform, Registry.perform]
      rw [created_publisher_topics, position, List.getElem?_concat_length]
    · exact called.publishers other publisher held
  · exact confined

theorem Confined.stop_publishing (confined : Confined config system) (role : Role) :
    Confined config (system.stopPublishing role) := by
  unfold System.stopPublishing
  split
  · exact confined
  · rename_i id pub _
    have keeps : Keeps config (.stopPublisher pub) := trivial
    have called := confined.call id keeps
    refine called.hold fun other publisher held => ?_
    dsimp only at held
    split at held
    · cases held
    · exact called.publishers other publisher held

theorem Confined.start_external_events (confined : Confined config system) (id : ContextNumber) :
    Confined config (system.startExternalEvents config id) := by
  unfold System.startExternalEvents
  split
  · rename_i enabled
    have keeps : Keeps config (.createSubscriber externalFilter externalDispatch
        (some externalEventMessage.msgType)) := fun _ => ⟨enabled, rfl, rfl⟩
    have called := confined.call id keeps
    exact called.hold called.publishers
  · exact confined

theorem Confined.stop_external_events (confined : Confined config system) :
    Confined config system.stopExternalEvents := by
  unfold System.stopExternalEvents
  split
  · exact confined
  · rename_i id sub _
    have keeps : Keeps config (.stopSubscriber sub) := trivial
    have called := confined.call id keeps
    exact called.hold called.publishers

theorem Confined.start_component (confined : Confined config system) {id : ContextNumber}
    (known : id < system.contexts.length) {component : Component}
    (registered : component ∈ createGateway config) :
    Confined config (system.startComponent config id component) := by
  cases component with
  | commands =>
      exact confined.create_commands id ((mem_create_gateway config _).mp registered) allCommands
  | publishing role => exact confined.start_publishing known role
  | externalEvents => exact confined.start_external_events id

theorem Confined.stop_component (confined : Confined config system) (component : Component) :
    Confined config (system.stopComponent component) := by
  cases component with
  | commands => exact confined.stop_commands
  | publishing role => exact confined.stop_publishing role
  | externalEvents => exact confined.stop_external_events

end

structure Contained (config : GatewayConfig) (exchange : Exchange) : Prop where
  system : Confined config exchange.system
  own : ∀ item ∈ exchange.own, IsPublication config item

theorem contained_fresh (config : GatewayConfig) : Contained config .fresh where
  system := {
    contexts := by
      intro ctx member
      rw [List.mem_singleton.mp member]
      exact kept_fresh config
    publishers := by
      intro role publisher held
      cases held }
  own := by simp [Exchange.fresh]

theorem published_item {ctx : Context Instance Response} {pub : PublisherId}
    {serialized : Except PyException Json} {item : Outgoing}
    (member : item ∈ enqueuedSince ctx (ctx.publish pub serialized)) :
    serialized = .ok item.payload ∧ ∃ topic, item.topic = .str topic ∧
      (ctx.router.registry.publishers.map Publisher.topic)[pub]? = some topic := by
  have silent : ∀ next : Context Instance Response, next.conn = ctx.conn →
      item ∉ enqueuedSince ctx next := by
    intro next same
    simp [enqueuedSince, same]
  unfold Context.publish at member
  split at member
  · exact absurd member (silent _ rfl)
  · rename_i publisher stored
    split at member
    · split at member
      · exact absurd member (silent _ rfl)
      · rename_i payload
        split at member
        · exact absurd member (silent _ rfl)
        · rename_i conn queued
          obtain ⟨_, rfl⟩ := Context.enqueue_cases queued
          have only : item = ⟨.str publisher.topic, payload, 0⟩ := by
            simpa [enqueuedSince, enqueued, ← List.append_assoc] using member
          rw [only]
          exact ⟨rfl, publisher.topic, rfl, by simp [stored]⟩
    · exact absurd member (silent _ rfl)

theorem contained_broadcast {config : GatewayConfig} {exchange : Exchange}
    (contained : Contained config exchange) (role : Role) (value : String → Option Json) :
    Contained config (exchange.broadcast role (role.component.message.serialize value)) := by
  unfold Exchange.broadcast
  split
  · exact contained
  · rename_i id pub held
    obtain ⟨enabled, _, stored, topic⟩ := contained.system.publishers role _ held
    rw [stored]
    refine ⟨contained.system.onContext fun ctx there => ?_, fun item member => ?_⟩
    · have taken : ctx.step Response.serialize
          (.publish pub (role.component.message.serialize value)) = some (ctx.publish pub _) := rfl
      have before := contained.system.contexts ctx (List.mem_of_getElem? there)
      exact ⟨kept_step before (fun call same => by cases same) taken, step_keeps_topics taken⟩
    · rcases List.mem_append.mp member with old | new
      · exact contained.own item old
      · obtain ⟨serialized, here, on_topic, there⟩ := published_item new
        rw [topic] at there
        cases there
        exact ⟨role, enabled, on_topic, value, serialized⟩

theorem keeps_of_host {config : GatewayConfig} {id : ContextNumber}
    {event : NodeContext.Event Instance Response} (byHost : ByHost (.inside id event)) :
    ∀ call, event = .called call → Keeps config call := by
  rintro call rfl
  cases call with
  | createRpc rpcName msgType onRequest => exact byHost.elim
  | createSubscriber topic onMessage msgType => exact fun owned => absurd owned byHost
  | setCallback id fn => exact byHost
  | _ => trivial

theorem contained_step {config : GatewayConfig} {exchange next : Exchange} {event : Event}
    (contained : Contained config exchange) (byHost : ByHost event)
    (taken : exchange.step config event = some next) : Contained config next := by
  cases event with
  | rebuilt =>
      cases taken
      refine ⟨⟨fun ctx member => ?_, fun role publisher held => ?_⟩, contained.own⟩
      · rcases List.mem_append.mp member with old | new
        · exact contained.system.contexts ctx old
        · rw [List.mem_singleton.mp new]
          exact kept_fresh config
      · obtain ⟨enabled, ctx, stored, topic⟩ := contained.system.publishers role publisher held
        refine ⟨enabled, ctx, ?_, topic⟩
        rw [List.getElem?_append_left (List.getElem?_eq_some_iff.mp stored).1]
        exact stored
  | started id component =>
      simp only [Exchange.step] at taken
      split at taken <;> cases taken
      rename_i both
      exact ⟨contained.system.start_component both.2 both.1, contained.own⟩
  | stopped component =>
      cases taken
      exact ⟨contained.system.stop_component component, contained.own⟩
  | broadcast role value =>
      cases taken
      exact contained_broadcast contained role value
  | inside id event =>
      simp only [Exchange.step, Exchange.inside] at taken
      split at taken
      · cases taken
      · rename_i ctx stored
        obtain ⟨after, moved, rfl⟩ := Option.map_eq_some_iff.mp taken
        refine ⟨contained.system.onContext fun before there => ?_, contained.own⟩
        rw [stored] at there
        cases there
        have kept := contained.system.contexts ctx (List.mem_of_getElem? stored)
        exact ⟨kept_step kept (keeps_of_host byHost) moved, step_keeps_topics moved⟩

end RemoteIface.Gateway.Confinement
