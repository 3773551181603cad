import RemoteIface.Commlib.Topic
import RemoteIface.Commlib.Rpc

/-!
`_dispatch_incoming` on one message: malformed payloads are dropped, a command
topic goes to `_dispatch_rpc`, and any other topic goes to the edge callbacks
of the one filter that wins by specificity. A callback's own calls on the
registry are not part of the step: the list it is in was copied before the
first callback ran, so they act like calls made right after the message.
-/

namespace RemoteIface.Commlib.Dispatch

set_option autoImplicit false

open RemoteIface.Library.InsertionOrder
open RemoteIface.Library.FirstMax
open RemoteIface.Commlib.Payload
open RemoteIface.Commlib.Topic
open RemoteIface.Commlib.Endpoints
open RemoteIface.Commlib.Rpc

/-- How `json.loads` of the payload bytes ended. The loop catches `ValueError`
and `TypeError`; `raised` is any other exception. -/
inductive Loaded where
  | value (data : Json)
  | malformed
  | raised (error : PyException)

structure Message where
  topic : String
  payload : Loaded

/-- What `on_message` is called with. -/
inductive Delivered (Obj : Type) where
  | raw (value : Json)
  | typed (value : Obj)

/-- One call of an edge callback: the `on_message` call it made, if hydration
got that far, and how it ended. -/
structure EdgeCall (Obj : Type) where
  subscriber : SubscriberId
  topic : String
  onMessage : Option (CallbackId × Delivered Obj)
  result : Except PyException Unit

structure Router (Obj Resp : Type) where
  registry : Registry Obj
  requests : List (Request Obj Resp)
  edgeCalls : List (EdgeCall Obj)

variable {Obj Resp : Type}

def Router.empty : Router Obj Resp := ⟨.empty, [], []⟩

/-- How the `on_message` calls of one message end, by subscriber. -/
abbrev Callbacks (Obj : Type) := SubscriberId → Delivered Obj → Except PyException Unit

/-- The hydration in `_edge_callback`: only a `dict` is turned into the
subscriber's message type. -/
def edgeMessage (msgType : Option (MsgType Obj)) (raw : Json) :
    Except PyException (Delivered Obj) :=
  match raw, msgType with
  | .obj fields, some msgType => (msgType.hydrate (.obj fields)).map .typed
  | other, _ => .ok (.raw other)

/-- `_edge_callback`. It reads the wrapper's live `on_message`. -/
def edgeCallback (callbacks : Callbacks Obj) (registry : Registry Obj) (id : SubscriberId)
    (raw : Json) (topic : String) : Registry Obj × List (EdgeCall Obj) :=
  match registry.subscribers[id]? with
  | none => (registry, [])
  | some subscriber =>
      match edgeMessage subscriber.msgType raw with
      | .error error => (registry, [⟨id, topic, none, .error error⟩])
      | .ok delivered =>
          ({ registry with
              subscribers := registry.subscribers.set id
                { subscriber with lastTopic := some topic } },
            [⟨id, topic, some (subscriber.onMessage, delivered),
              callbacks id delivered⟩])

/-- The `for cb in list(best_callbacks)` loop. Whatever a callback raises is
logged and the loop goes on with the next one. -/
def callEdges (callbacks : Callbacks Obj) (raw : Json) (topic : String) :
    List SubscriberId → Registry Obj → Registry Obj × List (EdgeCall Obj)
  | [], registry => (registry, [])
  | id :: rest, registry =>
      let called := edgeCallback callbacks registry id raw topic
      let later := callEdges callbacks raw topic rest called.1
      (later.1, called.2 ++ later.2)

/-- The entries of `_sub_callbacks` whose filter matches the topic. -/
def matchingEntries (registry : Registry Obj) (topic : String) :
    List (String × List SubscriberId) :=
  registry.subCallbacks.entries.filter fun entry => topicMatches entry.1 topic

/-- The entry that `max` picks. -/
def bestEntry (registry : Registry Obj) (topic : String) :
    Option (String × List SubscriberId) :=
  firstMax (fun entry => patternSpecificity entry.1) (matchingEntries registry topic)

/-- The part of the loop body after `json.loads`. -/
def routeMessage (callbacks : Callbacks Obj) (router : Router Obj Resp) (topic : String)
    (data : Json) : Router Obj Resp :=
  match router.registry.commandTable.get? topic with
  | some (msgType, service) =>
      { router with
        requests := router.requests ++
          [dispatchRpc router.registry topic data msgType service] }
  | none =>
      match bestEntry router.registry topic with
      | none => router
      | some (_, bestCallbacks) =>
          let called := callEdges callbacks data topic bestCallbacks router.registry
          { router with
            registry := called.1
            edgeCalls := router.edgeCalls ++ called.2 }

/-- The loop body of `_dispatch_incoming`. An error is an exception that leaves
the loop, and with it the task. -/
def dispatchIncoming (callbacks : Callbacks Obj) (router : Router Obj Resp)
    (message : Message) : Except PyException (Router Obj Resp) :=
  match message.payload with
  | .malformed => .ok router
  | .raised error => .error error
  | .value data => .ok (routeMessage callbacks router message.topic data)

theorem dispatch_incoming_cases {callbacks : Callbacks Obj} {router next : Router Obj Resp}
    {message : Message} (dispatched : dispatchIncoming callbacks router message = .ok next) :
    message.payload = .malformed ∧ next = router ∨
      ∃ data, message.payload = .value data ∧
        next = routeMessage callbacks router message.topic data := by
  unfold dispatchIncoming at dispatched
  split at dispatched <;> cases dispatched
  · rename_i malformed
    exact .inl ⟨malformed, rfl⟩
  · rename_i data loaded
    exact .inr ⟨data, loaded, rfl⟩

/-- A registry call as the router sees it: stopping a service also shuts its
executor down. -/
def Router.perform (router : Router Obj Resp) (call : RegistryCall Obj) : Router Obj Resp :=
  { router with
    registry := router.registry.perform call
    requests :=
      match call with
      | .stopRpc id =>
          match (router.registry.services[id]?).bind RpcService.liveExecutor with
          | none => router.requests
          | some executor => shutdown router.requests executor
      | _ => router.requests }

end RemoteIface.Commlib.Dispatch
