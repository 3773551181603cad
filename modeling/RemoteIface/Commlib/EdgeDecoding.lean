import RemoteIface.Library.Runs
import RemoteIface.Protocols.Messages
import RemoteIface.Commlib.Delivery
import RemoteIface.Commlib.NodeContext

/-!
`deserialize` beside the edge callback of `create_subscriber`, which writes the
same coercion a second time and makes it depend on the payload: what is no
`dict` is handed on as it is. So the two agree on objects and on nothing else.
-/

namespace RemoteIface.Commlib.EdgeDecoding

set_option autoImplicit false

open RemoteIface.Library.Runs
open RemoteIface.Library.InsertionOrder
open RemoteIface.Commlib.Payload
open RemoteIface.Commlib.Endpoints
open RemoteIface.Commlib.Subscriptions
open RemoteIface.Commlib.Dispatch
open RemoteIface.Commlib.Delivery
open RemoteIface.Commlib.NodeContext
open RemoteIface.Protocols.Messages

variable {Obj Resp : Type}

/-- `deserialize` after `json.loads`. -/
def deserialize (data : Json) : Option (MsgType Obj) → Except PyException (Delivered Obj)
  | none => .ok (.raw data)
  | some msgType => (msgType.hydrate data).map .typed

/-- `isinstance(raw, dict)` -/
def isDict : Json → Bool
  | .obj _ => true
  | _ => false

/-- The `msg_type` a subscriber was created with. -/
def typeOf (registry : Registry Obj) (id : SubscriberId) : Option (MsgType Obj) :=
  (registry.subscribers[id]?).bind Subscriber.msgType

/-- The edge callback calls `on_message` with what `deserialize` returns, and not
at all when `deserialize` raises. -/
def DecodesAlike (callbacks : Callbacks Obj) (registry : Registry Obj) (id : SubscriberId)
    (data : Json) (topic : String) : Prop :=
  ∀ subscriber, registry.subscribers[id]? = some subscriber →
    (edgeCallback callbacks registry id data topic).2.filterMap EdgeCall.onMessage =
      match deserialize data subscriber.msgType with
      | .ok value => [(subscriber.onMessage, value)]
      | .error _ => []

def HandsInstance (registry : Registry Obj) (call : EdgeCall Obj) : Prop :=
  ∀ msgType, typeOf registry call.subscriber = some msgType →
    ∀ fn delivered, call.onMessage = some (fn, delivered) →
      ∃ data value, msgType.hydrate data = .ok value ∧ delivered = .typed value

/-- Subscribers with a message type have been handed instances of it only. -/
def InstancesOnly (ctx : Context Obj Resp) : Prop :=
  ∀ call ∈ ctx.router.edgeCalls, HandsInstance ctx.router.registry call

/-- What reaches a subscriber with a message type is a JSON object. -/
def ObjectsToTyped (ctx : Context Obj Resp) : NodeContext.Event Obj Resp → Prop
  | .received _ message _ =>
      ∀ data, message.payload = .value data →
        message.topic ∉ ctx.router.registry.commandTable.keys →
        ∀ id ∈ calledSubscribers ctx.router.registry message.topic,
          (typeOf ctx.router.registry id).isSome = true → isDict data = true
  | _ => True

theorem edge_message_of_dict {data : Json} (dict : isDict data = true)
    (msgType : Option (MsgType Obj)) : edgeMessage msgType data = deserialize data msgType := by
  cases data with
  | obj fields => cases msgType <;> rfl
  | _ => cases dict

theorem edge_message_raw {data : Json} (other : isDict data = false)
    (msgType : Option (MsgType Obj)) : edgeMessage msgType data = .ok (.raw data) := by
  cases data with
  | obj fields => cases other
  | _ => rfl

theorem deserialize_typed {data : Json} {msgType : MsgType Obj} {delivered : Delivered Obj}
    (decoded : deserialize data (some msgType) = .ok delivered) :
    ∃ value, msgType.hydrate data = .ok value ∧ delivered = .typed value := by
  change (msgType.hydrate data).map Delivered.typed = _ at decoded
  cases hydrated : msgType.hydrate data with
  | error error =>
      rw [hydrated] at decoded
      cases decoded
  | ok value =>
      rw [hydrated] at decoded
      cases decoded
      exact ⟨value, rfl, rfl⟩

/-- What the callback of a subscriber calls `on_message` with. -/
theorem edge_callback_on_message (callbacks : Callbacks Obj) {registry : Registry Obj}
    {id : SubscriberId} {subscriber : Subscriber Obj}
    (stored : registry.subscribers[id]? = some subscriber) (data : Json) (topic : String) :
    (edgeCallback callbacks registry id data topic).2.map EdgeCall.onMessage =
      match edgeMessage subscriber.msgType data with
      | .ok value => [some (subscriber.onMessage, value)]
      | .error _ => [none] := by
  unfold edgeCallback
  rw [stored]
  dsimp only
  cases edgeMessage subscriber.msgType data <;> rfl

theorem decodes_alike_iff (callbacks : Callbacks Obj) (registry : Registry Obj)
    (id : SubscriberId) (data : Json) (topic : String) :
    DecodesAlike callbacks registry id data topic ↔
      ((typeOf registry id).isSome = true → isDict data = true) := by
  unfold DecodesAlike typeOf
  cases stored : registry.subscribers[id]? with
  | none => simp
  | some subscriber =>
      have made := congrArg (List.filterMap (fun call => call))
        (edge_callback_on_message callbacks stored data topic)
      rw [List.filterMap_map] at made
      have calls : (edgeCallback callbacks registry id data topic).2.filterMap EdgeCall.onMessage =
          match edgeMessage subscriber.msgType data with
          | .ok value => [(subscriber.onMessage, value)]
          | .error _ => [] := by
        refine made.trans ?_
        split <;> rfl
      simp only [Option.some.injEq, forall_eq', calls, Option.bind_some]
      cases dict : isDict data with
      | true => simp [edge_message_of_dict dict]
      | false =>
          rw [edge_message_raw dict]
          cases typed : subscriber.msgType with
          | none => simp [deserialize]
          | some msgType =>
              cases decoded : deserialize data (some msgType) with
              | error error => simp
              | ok delivered =>
                  obtain ⟨value, _, rfl⟩ := deserialize_typed decoded
                  simp

theorem edge_callback_own (callbacks : Callbacks Obj) (registry : Registry Obj)
    (id : SubscriberId) (data : Json) (topic : String) :
    ∀ call ∈ (edgeCallback callbacks registry id data topic).2,
      call.subscriber = id ∧ id < registry.subscribers.length := by
  intro call made
  unfold edgeCallback at made
  cases stored : registry.subscribers[id]? with
  | none =>
      rw [stored] at made
      cases made
  | some subscriber =>
      have inside := (List.getElem?_eq_some_iff.mp stored).1
      rw [stored] at made
      dsimp only at made
      split at made <;> exact ⟨by rw [List.mem_singleton.mp made], inside⟩

/-- A callback hands its subscriber an instance exactly when it gets an object. -/
theorem edge_callback_instance_iff (callbacks : Callbacks Obj) (registry : Registry Obj)
    (id : SubscriberId) (data : Json) (topic : String) :
    (∀ call ∈ (edgeCallback callbacks registry id data topic).2, HandsInstance registry call) ↔
      ((typeOf registry id).isSome = true → isDict data = true) := by
  constructor
  · intro instances typed
    obtain ⟨msgType, same⟩ := Option.isSome_iff_exists.mp typed
    obtain ⟨subscriber, stored, own⟩ := Option.bind_eq_some_iff.mp same
    by_contra other
    have made := edge_callback_on_message callbacks stored data topic
    rw [edge_message_raw (by simpa using other)] at made
    have member : some (subscriber.onMessage, Delivered.raw data) ∈
        (edgeCallback callbacks registry id data topic).2.map EdgeCall.onMessage := by
      rw [made]
      exact List.mem_singleton.mpr rfl
    obtain ⟨call, called, raw⟩ := List.mem_map.mp member
    have mine := (edge_callback_own callbacks registry id data topic call called).1
    obtain ⟨_, value, _, typedValue⟩ :=
      instances call called msgType (by rw [mine, same]) _ _ raw
    cases typedValue
  · intro objects call called msgType same fn delivered handed
    have mine := (edge_callback_own callbacks registry id data topic call called).1
    rw [mine] at same
    obtain ⟨subscriber, stored, own⟩ := Option.bind_eq_some_iff.mp same
    have made := edge_callback_on_message callbacks stored data topic
    have member : some (fn, delivered) ∈
        (edgeCallback callbacks registry id data topic).2.map EdgeCall.onMessage :=
      List.mem_map.mpr ⟨call, called, handed⟩
    rw [made, edge_message_of_dict (objects (by rw [same]; rfl)), own] at member
    cases decoded : deserialize data (some msgType) with
    | error error => simp [decoded] at member
    | ok value =>
        simp only [decoded, List.mem_singleton, Option.some.injEq, Prod.mk.injEq] at member
        obtain ⟨result, hydrated, typed⟩ := deserialize_typed decoded
        exact ⟨data, result, hydrated, member.2.trans typed⟩

def TypesKept (registry next : Registry Obj) : Prop :=
  registry.subscribers.map Subscriber.msgType <+: next.subscribers.map Subscriber.msgType

theorem types_kept_of_eq {registry next : Registry Obj}
    (same : next.subscribers.map Subscriber.msgType =
      registry.subscribers.map Subscriber.msgType) : TypesKept registry next := by
  unfold TypesKept
  exact same ▸ List.prefix_rfl

theorem TypesKept.trans {first second third : Registry Obj} (early : TypesKept first second)
    (late : TypesKept second third) : TypesKept first third :=
  List.IsPrefix.trans early late

theorem TypesKept.known {registry next : Registry Obj} (kept : TypesKept registry next)
    {id : SubscriberId} (known : id < registry.subscribers.length) :
    id < next.subscribers.length := by
  have longer := List.IsPrefix.length_le kept
  rw [List.length_map, List.length_map] at longer
  exact Nat.lt_of_lt_of_le known longer

theorem TypesKept.same {registry next : Registry Obj} (kept : TypesKept registry next)
    {id : SubscriberId} (known : id < registry.subscribers.length) :
    typeOf next id = typeOf registry id := by
  obtain ⟨later, grown⟩ := kept
  have inside : id < (registry.subscribers.map Subscriber.msgType).length := by
    rw [List.length_map]
    exact known
  have read := congrArg (fun types => types[id]?) grown
  simp only [List.getElem?_append_left inside, List.getElem?_map] at read
  unfold typeOf
  cases before : registry.subscribers[id]? <;> cases after : next.subscribers[id]? <;>
    simp_all

theorem start_subscriber_types (registry : Registry Obj) (id : SubscriberId) :
    TypesKept registry (registry.startSubscriber id) :=
  types_kept_of_eq (start_subscriber_map Subscriber.msgType (fun _ _ => rfl) registry id)

theorem stop_subscriber_types (registry : Registry Obj) (id : SubscriberId) :
    TypesKept registry (registry.stopSubscriber id) :=
  types_kept_of_eq (stop_subscriber_map Subscriber.msgType (fun _ _ => rfl) registry id)

theorem perform_types (registry : Registry Obj) (call : RegistryCall Obj) :
    TypesKept registry (registry.perform call) := by
  cases call with
  | createPublisher topic => exact types_kept_of_eq rfl
  | startPublisher id => exact types_kept_of_eq rfl
  | stopPublisher id => exact types_kept_of_eq rfl
  | createSubscriber topic onMessage msgType =>
      refine TypesKept.trans ?_ (start_subscriber_types _ _)
      unfold TypesKept
      rw [List.map_append]
      exact List.prefix_append _ _
  | startSubscriber id => exact start_subscriber_types registry id
  | stopSubscriber id => exact stop_subscriber_types registry id
  | setCallback id fn =>
      apply types_kept_of_eq
      exact map_modify_same Subscriber.msgType fun _ => rfl
  | createRpc rpcName msgType onRequest =>
      apply types_kept_of_eq
      exact congrArg _ (Registry.create_rpc_subscribers registry rpcName msgType onRequest)
  | startRpc id =>
      apply types_kept_of_eq
      exact congrArg _ (Registry.start_rpc_subscribers registry id)
  | stopRpc id =>
      apply types_kept_of_eq
      exact congrArg _ (Registry.stop_rpc_subscribers registry id)

theorem edge_callback_types (callbacks : Callbacks Obj) (registry : Registry Obj)
    (id : SubscriberId) (data : Json) (topic : String) :
    (edgeCallback callbacks registry id data topic).1.subscribers.map Subscriber.msgType =
      registry.subscribers.map Subscriber.msgType := by
  unfold edgeCallback
  split
  · rfl
  · rename_i stored
    split
    · rfl
    · exact map_set_same Subscriber.msgType stored rfl

theorem call_edges_types (callbacks : Callbacks Obj) (data : Json) (topic : String)
    (ids : List SubscriberId) (registry : Registry Obj) :
    TypesKept registry (callEdges callbacks data topic ids registry).1 := by
  apply types_kept_of_eq
  refine call_edges_keep (fun other => other.subscribers.map Subscriber.msgType =
    registry.subscribers.map Subscriber.msgType) ?_ ids rfl
  intro other id same
  exact (edge_callback_types callbacks other id data topic).trans same

/-- A message is taken by a command or dropped, or it goes to the called subscribers. -/
theorem dispatch_calls {callbacks : Callbacks Obj} {router next : Router Obj Resp}
    {message : Message} (dispatched : dispatchIncoming callbacks router message = .ok next) :
    (next.registry = router.registry ∧ next.edgeCalls = router.edgeCalls ∧
      ∀ data, message.payload = .value data →
        message.topic ∈ router.registry.commandTable.keys) ∨
    ∃ data, message.payload = .value data ∧
      message.topic ∉ router.registry.commandTable.keys ∧
      TypesKept router.registry next.registry ∧
      next.edgeCalls = router.edgeCalls ++
        (calledSubscribers router.registry message.topic).flatMap fun id =>
          (edgeCallback callbacks router.registry id data message.topic).2 := by
  rcases dispatch_incoming_cases dispatched with ⟨malformed, rfl⟩ | ⟨data, loaded, rfl⟩
  · left
    refine ⟨rfl, rfl, fun data loaded => ?_⟩
    cases malformed.symm.trans loaded
  · unfold routeMessage calledSubscribers
    cases command : router.registry.commandTable.get? message.topic with
    | some entry =>
        left
        refine ⟨rfl, rfl, fun _ _ => ?_⟩
        apply OrderedDict.get_isSome_iff.mp
        rw [command]
        rfl
    | none =>
        have noCommand : message.topic ∉ router.registry.commandTable.keys := by
          rw [← OrderedDict.get_isSome_iff, command]
          exact Bool.false_ne_true
        right
        refine ⟨data, loaded, noCommand, ?_⟩
        cases bestEntry router.registry message.topic with
        | none => exact ⟨types_kept_of_eq rfl, (List.append_nil _).symm⟩
        | some entry =>
            refine ⟨call_edges_types callbacks data message.topic entry.2 router.registry, ?_⟩
            exact congrArg _ (call_edges_calls callbacks data message.topic entry.2 router.registry)

def CallsKnown (ctx : Context Obj Resp) : Prop :=
  ∀ call ∈ ctx.router.edgeCalls, call.subscriber < ctx.router.registry.subscribers.length

inductive CallsMove (ctx next : Context Obj Resp) : NodeContext.Event Obj Resp → Prop where
  | quiet {event : NodeContext.Event Obj Resp} (calm : ObjectsToTyped ctx event)
      (types : TypesKept ctx.router.registry next.router.registry)
      (calls : next.router.edgeCalls = ctx.router.edgeCalls) : CallsMove ctx next event
  | delivered {session : Nat} {message : Message} {callbacks : Callbacks Obj} {data : Json}
      (loaded : message.payload = .value data)
      (noCommand : message.topic ∉ ctx.router.registry.commandTable.keys)
      (types : TypesKept ctx.router.registry next.router.registry)
      (calls : next.router.edgeCalls = ctx.router.edgeCalls ++
        (calledSubscribers ctx.router.registry message.topic).flatMap fun id =>
          (edgeCallback callbacks ctx.router.registry id data message.topic).2) :
      CallsMove ctx next (.received session message callbacks)

theorem calls_move {serialize : Resp → Except PyException Json} {ctx next : Context Obj Resp}
    {event : NodeContext.Event Obj Resp} (taken : ctx.step serialize event = some next) :
    CallsMove ctx next event := by
  cases event with
  | called call =>
      cases taken
      exact .quiet trivial (perform_types ctx.router.registry call) rfl
  | publish id serialized =>
      cases taken
      rcases Context.publish_cases ctx id serialized with same | counted | ⟨item, _, queued⟩
      · rw [same]
        exact .quiet trivial (types_kept_of_eq rfl) rfl
      · rw [counted]
        exact .quiet trivial (types_kept_of_eq rfl) rfl
      · rw [queued]
        exact .quiet trivial (types_kept_of_eq rfl) rfl
  | received session message callbacks =>
      obtain ⟨client, drain, _, passed | failed⟩ := Context.received_cases taken
      · obtain ⟨router, dispatched, rfl⟩ := passed
        rcases dispatch_calls dispatched with ⟨registry, calls, command⟩ | reached
        · refine .quiet ?_ (types_kept_of_eq (by rw [registry])) calls
          intro data loaded noCommand
          exact absurd (command data loaded) noCommand
        · obtain ⟨data, loaded, noCommand, types, calls⟩ := reached
          exact .delivered loaded noCommand types calls
      · obtain ⟨error, raised, rfl⟩ := failed
        refine .quiet ?_ (types_kept_of_eq rfl) rfl
        intro data loaded
        cases raised.symm.trans loaded
  | workStarted id =>
      obtain ⟨requests, _, rfl⟩ := Option.map_eq_some_iff.mp taken
      exact .quiet trivial (types_kept_of_eq rfl) rfl
  | workEnded id outcome now =>
      obtain ⟨_, _, _, _, _, _, _, router, _⟩ := Context.work_ended_cases taken
      exact .quiet trivial (types_kept_of_eq (by rw [router])) (by rw [router])
  | wire event =>
      obtain ⟨conn, _, rfl⟩ := Option.map_eq_some_iff.mp taken
      exact .quiet trivial (types_kept_of_eq rfl) rfl

theorem hands_instance_kept {registry next : Registry Obj} (types : TypesKept registry next)
    {call : EdgeCall Obj} (known : call.subscriber < registry.subscribers.length) :
    HandsInstance next call ↔ HandsInstance registry call := by
  unfold HandsInstance
  rw [types.same known]

theorem new_call_known {callbacks : Callbacks Obj} {registry : Registry Obj}
    {ids : List SubscriberId} {data : Json} {topic : String} {call : EdgeCall Obj}
    (made : call ∈ ids.flatMap fun id => (edgeCallback callbacks registry id data topic).2) :
    call.subscriber < registry.subscribers.length := by
  obtain ⟨id, _, called⟩ := List.mem_flatMap.mp made
  obtain ⟨own, known⟩ := edge_callback_own callbacks registry id data topic call called
  rw [own]
  exact known

theorem calls_known_step {serialize : Resp → Except PyException Json} {ctx next : Context Obj Resp}
    {event : NodeContext.Event Obj Resp} (known : CallsKnown ctx)
    (taken : ctx.step serialize event = some next) : CallsKnown next := by
  intro call member
  cases calls_move taken with
  | quiet _ types calls =>
      rw [calls] at member
      exact types.known (known call member)
  | delivered _ _ types calls =>
      rw [calls] at member
      apply types.known
      rcases List.mem_append.mp member with old | new
      · exact known call old
      · exact new_call_known new

theorem instances_step_iff {serialize : Resp → Except PyException Json}
    {ctx next : Context Obj Resp} {event : NodeContext.Event Obj Resp} (known : CallsKnown ctx)
    (instances : InstancesOnly ctx) (taken : ctx.step serialize event = some next) :
    InstancesOnly next ↔ ObjectsToTyped ctx event := by
  cases calls_move taken with
  | quiet calm types calls =>
      refine iff_of_true ?_ calm
      intro call member
      rw [calls] at member
      exact (hands_instance_kept types (known call member)).mpr (instances call member)
  | @delivered session message callbacks data loaded noCommand types calls =>
      constructor
      · intro after other same _ id called
        cases loaded.symm.trans same
        apply (edge_callback_instance_iff callbacks ctx.router.registry id data message.topic).mp
        intro call made
        have new : call ∈ (calledSubscribers ctx.router.registry message.topic).flatMap fun id =>
            (edgeCallback callbacks ctx.router.registry id data message.topic).2 :=
          List.mem_flatMap.mpr ⟨id, called, made⟩
        apply (hands_instance_kept types (new_call_known new)).mp
        apply after
        rw [calls]
        exact List.mem_append_right _ new
      · intro objects call member
        rw [calls] at member
        rcases List.mem_append.mp member with old | new
        · exact (hands_instance_kept types (known call old)).mpr (instances call old)
        · apply (hands_instance_kept types (new_call_known new)).mpr
          obtain ⟨id, called, made⟩ := List.mem_flatMap.mp new
          exact (edge_callback_instance_iff callbacks ctx.router.registry id data
            message.topic).mpr (objects data loaded noCommand id called) call made

/-- The edge callback of a subscriber with a message type decodes a payload like
`deserialize` exactly when the payload is a JSON object, and in every run the
subscribers with a message type are handed instances only exactly when nothing
but objects reaches them. -/
theorem edge_decodes_iff_object (serialize : Resp → Except PyException Json) :
    (∀ (callbacks : Callbacks Obj) registry id data topic,
      DecodesAlike callbacks registry id data topic ↔
        ((typeOf registry id).isSome = true → isDict data = true)) ∧
    ∀ events : List (NodeContext.Event Obj Resp),
      Always (Context.step serialize) InstancesOnly Context.fresh events ↔
        Guarded (Context.step serialize) ObjectsToTyped Context.fresh events := by
  constructor
  · exact decodes_alike_iff
  · intro events
    apply always_iff_guarded (Context.step serialize)
      (fun _ _ _ known taken => calls_known_step known taken)
      (fun _ _ _ known instances taken => instances_step_iff known instances taken)
    · intro call member
      exact absurd member List.not_mem_nil
    · intro call member
      exact absurd member List.not_mem_nil

/-- The subscriber of `MQTTExternalEvents`. -/
def externalRegistry : Registry Instance :=
  Registry.empty.createSubscriber "external/+" 0 (some externalEventMessage.msgType)

/-- A list is handed on as it is, where `deserialize` raises. -/
theorem list_reaches_external_events :
    deserialize (.arr [.int 1]) (some externalEventMessage.msgType) = .error typeError ∧
    (edgeCallback (fun _ _ => .ok ()) externalRegistry 0 (.arr [.int 1]) "external/order").2.map
      EdgeCall.onMessage = [some (0, .raw (.arr [.int 1]))] ∧
    ¬ DecodesAlike (fun _ _ => .ok ()) externalRegistry 0 (.arr [.int 1]) "external/order" := by
  refine ⟨rfl, rfl, ?_⟩
  intro alike
  have made := alike _ rfl
  cases made

end RemoteIface.Commlib.EdgeDecoding
