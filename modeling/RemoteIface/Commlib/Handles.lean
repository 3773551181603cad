import RemoteIface.Commlib.Coverage

/-!
What the holder of a `Subscriber` or a `Publisher` can rely on while anything
else happens to its `NodeContext`: nobody but the holder starts or stops the
endpoint, so its topic and its started flag stay as they are.
-/

namespace RemoteIface.Commlib.Handles

set_option autoImplicit false

open RemoteIface.Commlib.Payload
open RemoteIface.Commlib.Endpoints
open RemoteIface.Commlib.Rpc
open RemoteIface.Commlib.Dispatch
open RemoteIface.Commlib.Subscriptions
open RemoteIface.Commlib.Coverage
open RemoteIface.Commlib.NodeContext

variable {Obj Resp : Type}

def subscriberState (registry : Registry Obj) (id : SubscriberId) : Option (String × Bool) :=
  (registry.subscribers[id]?).map fun subscriber => (subscriber.topic, subscriber.started)

def publisherState (registry : Registry Obj) (id : PublisherId) : Option (String × Bool) :=
  (registry.publishers[id]?).map fun publisher => (publisher.topic, publisher.started)

def onSubscriber : RegistryCall Obj → Option SubscriberId
  | .startSubscriber id => some id
  | .stopSubscriber id => some id
  | .setCallback id _ => some id
  | _ => none

def onPublisher : RegistryCall Obj → Option PublisherId
  | .startPublisher id => some id
  | .stopPublisher id => some id
  | _ => none

theorem start_subscriber_other (registry : Registry Obj) {id other : SubscriberId}
    (different : other ≠ id) :
    (registry.startSubscriber id).subscribers[other]? = registry.subscribers[other]? := by
  rcases Registry.start_subscriber_cases registry id with same | ⟨subscriber, _, same⟩
  · rw [same]
  · rw [same]
    exact List.getElem?_set_ne different.symm

theorem stop_subscriber_other (registry : Registry Obj) {id other : SubscriberId}
    (different : other ≠ id) :
    (registry.stopSubscriber id).subscribers[other]? = registry.subscribers[other]? := by
  rcases Registry.stop_subscriber_cases registry id with same | ⟨subscriber, _, _, _, same⟩
  · rw [same]
  · rw [same]
    exact List.getElem?_set_ne different.symm

theorem stop_subscriber_self {registry : Registry Obj} {id : SubscriberId} {topic : String}
    {started : Bool} (held : subscriberState registry id = some (topic, started)) :
    subscriberState (registry.stopSubscriber id) id = some (topic, false) := by
  obtain ⟨subscriber, stored, same⟩ := Option.map_eq_some_iff.mp held
  cases same
  unfold Registry.stopSubscriber
  rw [stored]
  dsimp only
  split
  · obtain ⟨inside, _⟩ := List.getElem?_eq_some_iff.mp stored
    simp [subscriberState, inside]
  · rename_i stopped
    simp [subscriberState, stored, stopped]

theorem create_subscriber_old (registry : Registry Obj) (topic : String) (onMessage : CallbackId)
    (msgType : Option (MsgType Obj)) {id : SubscriberId} {held : Subscriber Obj}
    (stored : registry.subscribers[id]? = some held) :
    (registry.createSubscriber topic onMessage msgType).subscribers[id]? = some held := by
  have inside := (List.getElem?_eq_some_iff.mp stored).1
  unfold Registry.createSubscriber
  dsimp only
  rw [start_subscriber_other _ (Nat.ne_of_lt inside)]
  exact (List.getElem?_append_left inside).trans stored

theorem create_subscriber_new (registry : Registry Obj) (topic : String) (onMessage : CallbackId)
    (msgType : Option (MsgType Obj)) :
    subscriberState (registry.createSubscriber topic onMessage msgType)
      registry.subscribers.length = some (topic, true) := by
  unfold Registry.createSubscriber subscriberState Registry.startSubscriber
  simp

/-- A call on another endpoint, or one that makes a new one, leaves a subscriber
as it is. -/
theorem perform_subscriber {registry : Registry Obj} {call : RegistryCall Obj}
    {id : SubscriberId} {held : Subscriber Obj} (stored : registry.subscribers[id]? = some held)
    (spared : onSubscriber call ≠ some id) :
    (registry.perform call).subscribers[id]? = some held := by
  cases call with
  | createSubscriber topic onMessage msgType =>
      exact create_subscriber_old registry topic onMessage msgType stored
  | startSubscriber other =>
      have different : id ≠ other := fun same => spared (same ▸ rfl)
      exact (start_subscriber_other registry different).trans stored
  | stopSubscriber other =>
      have different : id ≠ other := fun same => spared (same ▸ rfl)
      exact (stop_subscriber_other registry different).trans stored
  | setCallback other fn =>
      have different : other ≠ id := fun same => spared (same ▸ rfl)
      exact (List.getElem?_modify_ne _ _ different).trans stored
  | createPublisher topic => exact stored
  | startPublisher other => exact stored
  | stopPublisher other => exact stored
  | createRpc rpcName msgType onRequest => simpa [Registry.perform] using stored
  | startRpc other => simpa [Registry.perform] using stored
  | stopRpc other => simpa [Registry.perform] using stored

theorem perform_subscriber_state {registry : Registry Obj} {call : RegistryCall Obj}
    {id : SubscriberId} {flags : String × Bool}
    (held : subscriberState registry id = some flags) (spared : onSubscriber call ≠ some id) :
    subscriberState (registry.perform call) id = some flags := by
  obtain ⟨subscriber, stored, same⟩ := Option.map_eq_some_iff.mp held
  rw [subscriberState, perform_subscriber stored spared, Option.map_some, same]

theorem create_publisher_new (registry : Registry Obj) (topic : String) :
    publisherState (registry.createPublisher topic) registry.publishers.length =
      some (topic, true) := by
  simp [Registry.createPublisher, Registry.startPublisher, publisherState]

theorem create_publisher_old (registry : Registry Obj) (topic : String) {id : PublisherId}
    {flags : String × Bool} (held : publisherState registry id = some flags) :
    publisherState (registry.createPublisher topic) id = some flags := by
  obtain ⟨publisher, stored, same⟩ := Option.map_eq_some_iff.mp held
  have inside := (List.getElem?_eq_some_iff.mp stored).1
  simp only [Registry.createPublisher, Registry.startPublisher, publisherState]
  rw [List.getElem?_modify_ne _ _ (Nat.ne_of_gt inside), List.getElem?_append_left inside, stored]
  simp [same]

theorem perform_publisher_state {registry : Registry Obj} {call : RegistryCall Obj}
    {id : PublisherId} {flags : String × Bool}
    (held : publisherState registry id = some flags) (spared : onPublisher call ≠ some id) :
    publisherState (registry.perform call) id = some flags := by
  have same : ∀ next : Registry Obj, next.publishers = registry.publishers →
      publisherState next id = some flags := by
    intro next publishers
    rw [publisherState, publishers]
    exact held
  cases call with
  | createPublisher topic => exact create_publisher_old registry topic held
  | startPublisher other =>
      have different : other ≠ id := fun equal => spared (equal ▸ rfl)
      simp only [Registry.perform, Registry.startPublisher, publisherState]
      rw [List.getElem?_modify_ne _ _ different]
      exact held
  | stopPublisher other =>
      have different : other ≠ id := fun equal => spared (equal ▸ rfl)
      simp only [Registry.perform, Registry.stopPublisher, publisherState]
      rw [List.getElem?_modify_ne _ _ different]
      exact held
  | createSubscriber topic onMessage msgType =>
      exact same _ (Registry.start_subscriber_publishers _ _)
  | startSubscriber other => exact same _ (Registry.start_subscriber_publishers registry other)
  | stopSubscriber other => exact same _ (Registry.stop_subscriber_publishers registry other)
  | setCallback other fn => exact held
  | createRpc rpcName msgType onRequest => exact same _ (Registry.start_rpc_publishers _ _)
  | startRpc other => exact same _ (Registry.start_rpc_publishers registry other)
  | stopRpc other => exact same _ (Registry.stop_rpc_publishers registry other)

inductive RegistryMove (registry next : Registry Obj) : NodeContext.Event Obj Resp → Prop where
  | performed (call : RegistryCall Obj) (new : next = registry.perform call) :
      RegistryMove registry next (.called call)
  | counted (id : PublisherId) (serialized : Except PyException Json)
      (new : next = { registry with
        publishers := registry.publishers.modify id fun publisher =>
          { publisher with publishFailureCount := publisher.publishFailureCount + 1 } }) :
      RegistryMove registry next (.publish id serialized)
  | dispatched (event : NodeContext.Event Obj Resp) (tables : SameTables registry next)
      (publishers : next.publishers = registry.publishers) : RegistryMove registry next event

theorem edge_callback_publishers (callbacks : Callbacks Obj) (registry : Registry Obj)
    (id : SubscriberId) (raw : Json) (topic : String) :
    (edgeCallback callbacks registry id raw topic).1.publishers = registry.publishers := by
  unfold edgeCallback
  split
  · rfl
  · split <;> rfl

theorem dispatch_publishers {callbacks : Callbacks Obj} {router next : Router Obj Resp}
    {message : Message} (dispatched : dispatchIncoming callbacks router message = .ok next) :
    next.registry.publishers = router.registry.publishers := by
  refine Delivery.dispatch_keeps (fun next => next.publishers = router.registry.publishers) ?_
    dispatched rfl
  exact fun registry id raw topic same =>
    (edge_callback_publishers callbacks registry id raw topic).trans same

theorem registry_move {serialize : Resp → Except PyException Json} {ctx next : Context Obj Resp}
    {event : NodeContext.Event Obj Resp} (taken : ctx.step serialize event = some next) :
    RegistryMove ctx.router.registry next.router.registry event := by
  have still : ∀ event : NodeContext.Event Obj Resp,
      next.router.registry = ctx.router.registry →
        RegistryMove ctx.router.registry next.router.registry event := by
    intro event same
    rw [same]
    exact .dispatched event (.refl _) rfl
  cases event with
  | called call =>
      cases taken
      exact .performed call rfl
  | publish id serialized =>
      cases taken
      rcases Context.publish_cases ctx id serialized with same | counted | ⟨item, _, queued⟩
      · exact still _ (by rw [same])
      · rw [counted]
        exact .counted id serialized rfl
      · exact still _ (by rw [queued])
  | received session message callbacks =>
      obtain ⟨client, drain, stored, passed | failed⟩ := Context.received_cases taken
      · obtain ⟨router, dispatched, rfl⟩ := passed
        exact .dispatched _ (dispatch_same_tables dispatched) (dispatch_publishers dispatched)
      · obtain ⟨error, _, rfl⟩ := failed
        exact still _ rfl
  | workStarted id => exact still _ (Context.work_started_conn taken).2.2
  | workEnded id outcome now =>
      obtain ⟨_, _, _, _, _, _, _, router, _⟩ := Context.work_ended_cases taken
      exact still _ (by rw [router])
  | wire event =>
      obtain ⟨conn, _, rfl⟩ := Option.map_eq_some_iff.mp taken
      exact still _ rfl

section

variable {serialize : Resp → Except PyException Json} {ctx next : Context Obj Resp}
  {event : NodeContext.Event Obj Resp} {flags : String × Bool}

theorem state_of_maps {Item : Type} {topic : Item → String} {started : Item → Bool}
    {items others : List Item} {id : Nat}
    (topics : others.map topic = items.map topic) (starts : others.map started = items.map started)
    (held : (items[id]?).map (fun item => (topic item, started item)) = some flags) :
    (others[id]?).map (fun item => (topic item, started item)) = some flags := by
  obtain ⟨item, stored, same⟩ := Option.map_eq_some_iff.mp held
  have topicHere : (others[id]?).map topic = some (topic item) := by
    rw [← List.getElem?_map, topics, List.getElem?_map, stored]
    rfl
  have startedHere : (others[id]?).map started = some (started item) := by
    rw [← List.getElem?_map, starts, List.getElem?_map, stored]
    rfl
  obtain ⟨other, there, sameTopic⟩ := Option.map_eq_some_iff.mp topicHere
  rw [there, Option.map_some, Option.some.injEq] at startedHere
  rw [there, Option.map_some, sameTopic, startedHere, same]

theorem step_subscriber_state {id : SubscriberId} (taken : ctx.step serialize event = some next)
    (held : subscriberState ctx.router.registry id = some flags)
    (spared : ∀ call, event = .called call → onSubscriber call ≠ some id) :
    subscriberState next.router.registry id = some flags := by
  cases registry_move taken with
  | performed call new =>
      rw [new]
      exact perform_subscriber_state held (spared call rfl)
  | counted _ _ new =>
      rw [new]
      exact held
  | dispatched _ tables _ => exact state_of_maps tables.topics tables.flags held

theorem step_publisher_state {id : PublisherId} (taken : ctx.step serialize event = some next)
    (held : publisherState ctx.router.registry id = some flags)
    (spared : ∀ call, event = .called call → onPublisher call ≠ some id) :
    publisherState next.router.registry id = some flags := by
  cases registry_move taken with
  | performed call new =>
      rw [new]
      exact perform_publisher_state held (spared call rfl)
  | counted other _ new =>
      rw [new]
      exact state_of_maps (map_modify_same Publisher.topic fun _ => rfl)
        (map_modify_same Publisher.started fun _ => rfl) held
  | dispatched _ _ publishers =>
      rw [publisherState, publishers]
      exact held

theorem step_tracked (taken : ctx.step serialize event = some next)
    (tracked : ∃ log, Tracks log ctx.router.registry) :
    ∃ log, Tracks log next.router.registry := by
  obtain ⟨log, tracks⟩ := tracked
  cases registry_move taken with
  | performed call new =>
      rw [new]
      exact ⟨_, tracks.perform call⟩
  | counted _ _ new =>
      rw [new]
      exact ⟨log, tracks.congr rfl rfl rfl⟩
  | dispatched _ tables _ => exact ⟨log, tracks.congr tables.topics tables.flags tables.subCallbacks⟩

theorem step_loop_set (prepared : ctx.Prepared) (taken : ctx.step serialize event = some next)
    (set : ctx.conn.loopSet = true) : next.conn.loopSet = true := by
  cases Context.conn_move taken with
  | scheduled _ items conn =>
      rw [conn]
      exact set
  | raised _ conn =>
      rw [conn]
      exact set
  | stepped moved => exact (Connection.State.loop_known_step prepared.1 moved).2 set

end

/-- All that `_enqueue_outgoing` was called with, in order. -/
def enqueued (conn : Connection.State) : List Outgoing := conn.accepted ++ conn.scheduled

/-- A started publisher of a context with a loop enqueues what can be
serialized. -/
theorem publish_enqueues {ctx : Context Obj Resp} {id : PublisherId} {topic : String}
    (held : publisherState ctx.router.registry id = some (topic, true))
    (set : ctx.conn.loopSet = true) (payload : Json) :
    enqueued (ctx.publish id (.ok payload)).conn =
      enqueued ctx.conn ++ [⟨.str topic, payload, 0⟩] := by
  obtain ⟨publisher, stored, same⟩ := Option.map_eq_some_iff.mp held
  obtain ⟨rfl, started⟩ := Prod.mk.inj same
  simp [Context.publish, stored, started, Connection.State.enqueueOutgoing, set, enqueued]

end RemoteIface.Commlib.Handles
