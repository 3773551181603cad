import RemoteIface.Commlib.Payload

/-!
The endpoints of one `NodeContext` and the two tables they register in.
`Publisher`, `Subscriber` and `RPCService` share the idempotent `start` and
`stop` of `Endpoint`; what differs is `_do_start` and `_do_stop`. An edge
callback is a closure made by one `create_subscriber` call, so the table lists
it by the number of its subscriber.
-/

namespace RemoteIface.Commlib.Endpoints

set_option autoImplicit false

open RemoteIface.Library.InsertionOrder
open RemoteIface.Commlib.Payload

abbrev SubscriberId := Nat
abbrev ServiceId := Nat
abbrev PublisherId := Nat
abbrev ExecutorId := Nat
abbrev CallbackId := Nat

structure Publisher where
  topic : String
  publishFailureCount : Nat
  started : Bool
deriving DecidableEq

structure Subscriber (Obj : Type) where
  topic : String
  lastTopic : Option String
  msgType : Option (MsgType Obj)
  onMessage : CallbackId
  started : Bool

structure RpcService (Obj : Type) where
  rpcName : String
  msgType : MsgType Obj
  onRequest : CallbackId
  maxWorkers : Nat
  executor : Option ExecutorId
  started : Bool

/-- The executor that stopping the service shuts down. -/
def RpcService.liveExecutor {Obj : Type} (service : RpcService Obj) : Option ExecutorId :=
  if service.started then service.executor else none

/-- `_wrappers` by kind, each in creation order, with `_sub_callbacks` and
`_command_table`. `executors` counts the thread pools made so far. -/
structure Registry (Obj : Type) where
  publishers : List Publisher
  subscribers : List (Subscriber Obj)
  services : List (RpcService Obj)
  subCallbacks : OrderedDict String (List SubscriberId)
  commandTable : OrderedDict String (MsgType Obj × ServiceId)
  executors : Nat

variable {Obj : Type}

def Registry.empty : Registry Obj where
  publishers := []
  subscribers := []
  services := []
  subCallbacks := .empty
  commandTable := .empty
  executors := 0

namespace Registry

/-- `_sub_callbacks.get(topic, [])` -/
def callbacksOn (registry : Registry Obj) (topic : String) : List SubscriberId :=
  (registry.subCallbacks.get? topic).getD []

/-- `Endpoint.start` over `Publisher._do_start`, which changes nothing. -/
def startPublisher (registry : Registry Obj) (id : PublisherId) : Registry Obj :=
  { registry with
    publishers := registry.publishers.modify id fun publisher =>
      { publisher with started := true } }

def stopPublisher (registry : Registry Obj) (id : PublisherId) : Registry Obj :=
  { registry with
    publishers := registry.publishers.modify id fun publisher =>
      { publisher with started := false } }

def createPublisher (registry : Registry Obj) (topic : String) : Registry Obj :=
  let bound : Registry Obj := { registry with
    publishers := registry.publishers ++ [⟨topic, 0, false⟩] }
  bound.startPublisher registry.publishers.length

/-- `Subscriber._do_start`: `setdefault(topic, []).append(edge_callback)` -/
def startSubscriber (registry : Registry Obj) (id : SubscriberId) : Registry Obj :=
  match registry.subscribers[id]? with
  | none => registry
  | some subscriber =>
      if subscriber.started then registry
      else { registry with
        subscribers := registry.subscribers.set id { subscriber with started := true }
        subCallbacks := registry.subCallbacks.set subscriber.topic
          (registry.callbacksOn subscriber.topic ++ [id]) }

/-- `Subscriber._do_stop`: the callback leaves the list of its filter, and the
filter stays a key of the table even when its list is empty. -/
def stopSubscriber (registry : Registry Obj) (id : SubscriberId) : Registry Obj :=
  match registry.subscribers[id]? with
  | none => registry
  | some subscriber =>
      if subscriber.started then
        { registry with
          subscribers := registry.subscribers.set id { subscriber with started := false }
          subCallbacks :=
            match registry.subCallbacks.get? subscriber.topic with
            | none => registry.subCallbacks
            | some callbacks =>
                registry.subCallbacks.set subscriber.topic (callbacks.erase id) }
      else registry

def createSubscriber (registry : Registry Obj) (topic : String) (onMessage : CallbackId)
    (msgType : Option (MsgType Obj)) : Registry Obj :=
  let bound : Registry Obj := { registry with
    subscribers := registry.subscribers ++ [⟨topic, none, msgType, onMessage, false⟩] }
  bound.startSubscriber registry.subscribers.length

/-- `Subscriber.set_callback` -/
def setCallback (registry : Registry Obj) (id : SubscriberId) (fn : CallbackId) :
    Registry Obj :=
  { registry with
    subscribers := registry.subscribers.modify id fun subscriber =>
      { subscriber with onMessage := fn } }

/-- `RPCService._do_start`: a fresh executor, and the table entry of the name
is overwritten whoever holds it. -/
def startRpc (registry : Registry Obj) (id : ServiceId) : Registry Obj :=
  match registry.services[id]? with
  | none => registry
  | some service =>
      if service.started then registry
      else { registry with
        services := registry.services.set id
          { service with started := true, executor := some registry.executors }
        commandTable := registry.commandTable.set service.rpcName (service.msgType, id)
        executors := registry.executors + 1 }

/-- `RPCService._do_stop`: the name is popped whoever holds it. -/
def stopRpc (registry : Registry Obj) (id : ServiceId) : Registry Obj :=
  match registry.services[id]? with
  | none => registry
  | some service =>
      if service.started then
        { registry with
          services := registry.services.set id
            { service with started := false, executor := none }
          commandTable := registry.commandTable.pop service.rpcName }
      else registry

def createRpc (registry : Registry Obj) (rpcName : String) (msgType : MsgType Obj)
    (onRequest : CallbackId) : Registry Obj :=
  let bound : Registry Obj := { registry with
    services := registry.services ++ [⟨rpcName, msgType, onRequest, 5, none, false⟩] }
  bound.startRpc registry.services.length

/-- `_desired_subscriptions` -/
def desiredSubscriptions (registry : Registry Obj) : List String :=
  registry.subCallbacks.keys ++ registry.commandTable.keys

end Registry

/-- The calls a host makes on the endpoints of a `NodeContext`. -/
inductive RegistryCall (Obj : Type) where
  | createPublisher (topic : String)
  | startPublisher (id : PublisherId)
  | stopPublisher (id : PublisherId)
  | createSubscriber (topic : String) (onMessage : CallbackId) (msgType : Option (MsgType Obj))
  | startSubscriber (id : SubscriberId)
  | stopSubscriber (id : SubscriberId)
  | setCallback (id : SubscriberId) (fn : CallbackId)
  | createRpc (rpcName : String) (msgType : MsgType Obj) (onRequest : CallbackId)
  | startRpc (id : ServiceId)
  | stopRpc (id : ServiceId)

namespace Registry

def perform (registry : Registry Obj) : RegistryCall Obj → Registry Obj
  | .createPublisher topic => registry.createPublisher topic
  | .startPublisher id => registry.startPublisher id
  | .stopPublisher id => registry.stopPublisher id
  | .createSubscriber topic onMessage msgType =>
      registry.createSubscriber topic onMessage msgType
  | .startSubscriber id => registry.startSubscriber id
  | .stopSubscriber id => registry.stopSubscriber id
  | .setCallback id fn => registry.setCallback id fn
  | .createRpc rpcName msgType onRequest => registry.createRpc rpcName msgType onRequest
  | .startRpc id => registry.startRpc id
  | .stopRpc id => registry.stopRpc id

/-! What one operation changes. Later modules use these equations and do not
unfold the operations. -/

theorem start_subscriber_missing {registry : Registry Obj} {id : SubscriberId}
    (missing : registry.subscribers[id]? = none) : registry.startSubscriber id = registry := by
  simp [startSubscriber, missing]

theorem start_subscriber_started {registry : Registry Obj} {id : SubscriberId}
    {subscriber : Subscriber Obj} (stored : registry.subscribers[id]? = some subscriber)
    (started : subscriber.started = true) : registry.startSubscriber id = registry := by
  simp [startSubscriber, stored, started]

theorem start_subscriber_stopped {registry : Registry Obj} {id : SubscriberId}
    {subscriber : Subscriber Obj} (stored : registry.subscribers[id]? = some subscriber)
    (stopped : subscriber.started = false) :
    registry.startSubscriber id = { registry with
      subscribers := registry.subscribers.set id { subscriber with started := true }
      subCallbacks := registry.subCallbacks.set subscriber.topic
        (registry.callbacksOn subscriber.topic ++ [id]) } := by
  simp [startSubscriber, stored, stopped]

theorem stop_subscriber_missing {registry : Registry Obj} {id : SubscriberId}
    (missing : registry.subscribers[id]? = none) : registry.stopSubscriber id = registry := by
  simp [stopSubscriber, missing]

theorem stop_subscriber_stopped {registry : Registry Obj} {id : SubscriberId}
    {subscriber : Subscriber Obj} (stored : registry.subscribers[id]? = some subscriber)
    (stopped : subscriber.started = false) : registry.stopSubscriber id = registry := by
  simp [stopSubscriber, stored, stopped]

theorem stop_subscriber_started {registry : Registry Obj} {id : SubscriberId}
    {subscriber : Subscriber Obj} {callbacks : List SubscriberId}
    (stored : registry.subscribers[id]? = some subscriber)
    (started : subscriber.started = true)
    (entry : registry.subCallbacks.get? subscriber.topic = some callbacks) :
    registry.stopSubscriber id = { registry with
      subscribers := registry.subscribers.set id { subscriber with started := false }
      subCallbacks := registry.subCallbacks.set subscriber.topic (callbacks.erase id) } := by
  simp [stopSubscriber, stored, started, entry]

theorem start_rpc_missing {registry : Registry Obj} {id : ServiceId}
    (missing : registry.services[id]? = none) : registry.startRpc id = registry := by
  simp [startRpc, missing]

theorem start_rpc_started {registry : Registry Obj} {id : ServiceId} {service : RpcService Obj}
    (stored : registry.services[id]? = some service) (started : service.started = true) :
    registry.startRpc id = registry := by
  simp [startRpc, stored, started]

theorem start_rpc_stopped {registry : Registry Obj} {id : ServiceId} {service : RpcService Obj}
    (stored : registry.services[id]? = some service) (stopped : service.started = false) :
    registry.startRpc id = { registry with
      services := registry.services.set id
        { service with started := true, executor := some registry.executors }
      commandTable := registry.commandTable.set service.rpcName (service.msgType, id)
      executors := registry.executors + 1 } := by
  simp [startRpc, stored, stopped]

theorem stop_rpc_missing {registry : Registry Obj} {id : ServiceId}
    (missing : registry.services[id]? = none) : registry.stopRpc id = registry := by
  simp [stopRpc, missing]

theorem stop_rpc_stopped {registry : Registry Obj} {id : ServiceId} {service : RpcService Obj}
    (stored : registry.services[id]? = some service) (stopped : service.started = false) :
    registry.stopRpc id = registry := by
  simp [stopRpc, stored, stopped]

theorem stop_rpc_started {registry : Registry Obj} {id : ServiceId} {service : RpcService Obj}
    (stored : registry.services[id]? = some service) (started : service.started = true) :
    registry.stopRpc id = { registry with
      services := registry.services.set id { service with started := false, executor := none }
      commandTable := registry.commandTable.pop service.rpcName } := by
  simp [stopRpc, stored, started]

theorem start_subscriber_cases (registry : Registry Obj) (id : SubscriberId) :
    registry.startSubscriber id = registry ∨
      ∃ subscriber, registry.subscribers[id]? = some subscriber ∧
        registry.startSubscriber id = { registry with
          subscribers := registry.subscribers.set id { subscriber with started := true }
          subCallbacks := registry.subCallbacks.set subscriber.topic
            (registry.callbacksOn subscriber.topic ++ [id]) } := by
  cases stored : registry.subscribers[id]? with
  | none => exact .inl (start_subscriber_missing stored)
  | some subscriber =>
      cases running : subscriber.started with
      | true => exact .inl (start_subscriber_started stored running)
      | false => exact .inr ⟨subscriber, rfl, start_subscriber_stopped stored running⟩

/-- Stopping a subscriber changes nothing, or resets its flag and takes it out
of a list; the filters stay keys. -/
theorem stop_subscriber_cases (registry : Registry Obj) (id : SubscriberId) :
    registry.stopSubscriber id = registry ∨
      ∃ subscriber table, registry.subscribers[id]? = some subscriber ∧
        table.keys = registry.subCallbacks.keys ∧
        registry.stopSubscriber id = { registry with
          subscribers := registry.subscribers.set id { subscriber with started := false }
          subCallbacks := table } := by
  cases stored : registry.subscribers[id]? with
  | none => exact .inl (stop_subscriber_missing stored)
  | some subscriber =>
      cases running : subscriber.started with
      | false => exact .inl (stop_subscriber_stopped stored running)
      | true =>
          cases entry : registry.subCallbacks.get? subscriber.topic with
          | none =>
              refine .inr ⟨subscriber, registry.subCallbacks, rfl, rfl, ?_⟩
              simp [stopSubscriber, stored, running, entry]
          | some callbacks =>
              have present : subscriber.topic ∈ registry.subCallbacks.keys :=
                OrderedDict.get_isSome_iff.mp (by rw [entry]; rfl)
              exact .inr ⟨subscriber, _, rfl, OrderedDict.keys_set_present _ present,
                stop_subscriber_started stored running entry⟩

theorem start_rpc_cases (registry : Registry Obj) (id : ServiceId) :
    registry.startRpc id = registry ∨
      ∃ service, registry.services[id]? = some service ∧
        registry.startRpc id = { registry with
          services := registry.services.set id
            { service with started := true, executor := some registry.executors }
          commandTable := registry.commandTable.set service.rpcName (service.msgType, id)
          executors := registry.executors + 1 } := by
  cases stored : registry.services[id]? with
  | none => exact .inl (start_rpc_missing stored)
  | some service =>
      cases running : service.started with
      | true => exact .inl (start_rpc_started stored running)
      | false => exact .inr ⟨service, rfl, start_rpc_stopped stored running⟩

theorem stop_rpc_cases (registry : Registry Obj) (id : ServiceId) :
    registry.stopRpc id = registry ∨
      ∃ service, registry.services[id]? = some service ∧
        registry.stopRpc id = { registry with
          services := registry.services.set id { service with started := false, executor := none }
          commandTable := registry.commandTable.pop service.rpcName } := by
  cases stored : registry.services[id]? with
  | none => exact .inl (stop_rpc_missing stored)
  | some service =>
      cases running : service.started with
      | false => exact .inl (stop_rpc_stopped stored running)
      | true => exact .inr ⟨service, rfl, stop_rpc_started stored running⟩

/-! What the calls on a subscriber or a service leave alone. -/

@[simp] theorem start_subscriber_publishers (registry : Registry Obj) (id : SubscriberId) :
    (registry.startSubscriber id).publishers = registry.publishers := by
  rcases start_subscriber_cases registry id with same | ⟨_, _, same⟩ <;> rw [same]

@[simp] theorem start_subscriber_services (registry : Registry Obj) (id : SubscriberId) :
    (registry.startSubscriber id).services = registry.services := by
  rcases start_subscriber_cases registry id with same | ⟨_, _, same⟩ <;> rw [same]

@[simp] theorem start_subscriber_command_table (registry : Registry Obj) (id : SubscriberId) :
    (registry.startSubscriber id).commandTable = registry.commandTable := by
  rcases start_subscriber_cases registry id with same | ⟨_, _, same⟩ <;> rw [same]

@[simp] theorem stop_subscriber_publishers (registry : Registry Obj) (id : SubscriberId) :
    (registry.stopSubscriber id).publishers = registry.publishers := by
  rcases stop_subscriber_cases registry id with same | ⟨_, _, _, _, same⟩ <;> rw [same]

@[simp] theorem stop_subscriber_services (registry : Registry Obj) (id : SubscriberId) :
    (registry.stopSubscriber id).services = registry.services := by
  rcases stop_subscriber_cases registry id with same | ⟨_, _, _, _, same⟩ <;> rw [same]

@[simp] theorem stop_subscriber_command_table (registry : Registry Obj) (id : SubscriberId) :
    (registry.stopSubscriber id).commandTable = registry.commandTable := by
  rcases stop_subscriber_cases registry id with same | ⟨_, _, _, _, same⟩ <;> rw [same]

@[simp] theorem start_rpc_publishers (registry : Registry Obj) (id : ServiceId) :
    (registry.startRpc id).publishers = registry.publishers := by
  rcases start_rpc_cases registry id with same | ⟨_, _, same⟩ <;> rw [same]

@[simp] theorem start_rpc_subscribers (registry : Registry Obj) (id : ServiceId) :
    (registry.startRpc id).subscribers = registry.subscribers := by
  rcases start_rpc_cases registry id with same | ⟨_, _, same⟩ <;> rw [same]

@[simp] theorem start_rpc_sub_callbacks (registry : Registry Obj) (id : ServiceId) :
    (registry.startRpc id).subCallbacks = registry.subCallbacks := by
  rcases start_rpc_cases registry id with same | ⟨_, _, same⟩ <;> rw [same]

@[simp] theorem create_rpc_subscribers (registry : Registry Obj) (rpcName : String)
    (msgType : MsgType Obj) (onRequest : CallbackId) :
    (registry.createRpc rpcName msgType onRequest).subscribers = registry.subscribers := by
  simp [createRpc]

@[simp] theorem create_rpc_sub_callbacks (registry : Registry Obj) (rpcName : String)
    (msgType : MsgType Obj) (onRequest : CallbackId) :
    (registry.createRpc rpcName msgType onRequest).subCallbacks = registry.subCallbacks := by
  simp [createRpc]

@[simp] theorem stop_rpc_publishers (registry : Registry Obj) (id : ServiceId) :
    (registry.stopRpc id).publishers = registry.publishers := by
  rcases stop_rpc_cases registry id with same | ⟨_, _, same⟩ <;> rw [same]

@[simp] theorem stop_rpc_subscribers (registry : Registry Obj) (id : ServiceId) :
    (registry.stopRpc id).subscribers = registry.subscribers := by
  rcases stop_rpc_cases registry id with same | ⟨_, _, same⟩ <;> rw [same]

@[simp] theorem stop_rpc_sub_callbacks (registry : Registry Obj) (id : ServiceId) :
    (registry.stopRpc id).subCallbacks = registry.subCallbacks := by
  rcases stop_rpc_cases registry id with same | ⟨_, _, same⟩ <;> rw [same]

theorem mem_start_subscriber {registry : Registry Obj} {id : SubscriberId}
    {subscriber : Subscriber Obj} (member : subscriber ∈ (registry.startSubscriber id).subscribers) :
    ∃ before ∈ registry.subscribers, ∃ flag, subscriber = { before with started := flag } := by
  rcases start_subscriber_cases registry id with same | ⟨held, stored, same⟩
  · rw [same] at member
    exact ⟨subscriber, member, subscriber.started, rfl⟩
  · rw [same] at member
    rcases List.mem_or_eq_of_mem_set member with old | new
    · exact ⟨subscriber, old, subscriber.started, rfl⟩
    · exact ⟨held, List.mem_of_getElem? stored, true, new⟩

theorem mem_stop_subscriber {registry : Registry Obj} {id : SubscriberId}
    {subscriber : Subscriber Obj} (member : subscriber ∈ (registry.stopSubscriber id).subscribers) :
    ∃ before ∈ registry.subscribers, ∃ flag, subscriber = { before with started := flag } := by
  rcases stop_subscriber_cases registry id with same | ⟨held, table, stored, _, same⟩
  · rw [same] at member
    exact ⟨subscriber, member, subscriber.started, rfl⟩
  · rw [same] at member
    rcases List.mem_or_eq_of_mem_set member with old | new
    · exact ⟨subscriber, old, subscriber.started, rfl⟩
    · exact ⟨held, List.mem_of_getElem? stored, false, new⟩

theorem mem_keys_start_subscriber {registry : Registry Obj} {id : SubscriberId} {filter : String}
    (key : filter ∈ (registry.startSubscriber id).subCallbacks.keys) :
    filter ∈ registry.subCallbacks.keys ∨
      (registry.subscribers[id]?).map Subscriber.topic = some filter := by
  rcases start_subscriber_cases registry id with same | ⟨subscriber, stored, same⟩
  · rw [same] at key
    exact .inl key
  · rw [same] at key
    rcases OrderedDict.mem_keys_set.mp key with new | old
    · right
      rw [stored, new]
      rfl
    · exact .inl old

@[simp] theorem stop_subscriber_keys (registry : Registry Obj) (id : SubscriberId) :
    (registry.stopSubscriber id).subCallbacks.keys = registry.subCallbacks.keys := by
  rcases stop_subscriber_cases registry id with same | ⟨_, _, _, keys, same⟩
  · rw [same]
  · rw [same]
    exact keys

def performAll (registry : Registry Obj) (calls : List (RegistryCall Obj)) : Registry Obj :=
  calls.foldl perform registry

theorem perform_all_keeps (keeps : Registry Obj → Prop) {calls : List (RegistryCall Obj)}
    (each : ∀ registry, ∀ call ∈ calls, keeps registry → keeps (registry.perform call))
    {registry : Registry Obj} (holds : keeps registry) : keeps (registry.performAll calls) := by
  induction calls generalizing registry with
  | nil => exact holds
  | cons call rest induction =>
      apply induction
      · intro registry other member
        exact each registry other (List.mem_cons_of_mem _ member)
      · exact each registry call List.mem_cons_self holds

end Registry

end RemoteIface.Commlib.Endpoints
