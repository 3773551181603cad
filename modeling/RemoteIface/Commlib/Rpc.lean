import RemoteIface.Commlib.Endpoints

/-!
One RPC request from `_dispatch_rpc` to its reply. The handler runs on the
thread pool of its service, so a request is a record that moves from queued to
running to an outcome, and the done-callback fires when it gets there.
-/

namespace RemoteIface.Commlib.Rpc

set_option autoImplicit false

open RemoteIface.Commlib.Payload
open RemoteIface.Commlib.Endpoints

abbrev RequestId := Nat

/-- Where the work of a request is. `rejected` is the early return of
`_dispatch_rpc`; the others are the states of the `Future` it got. -/
inductive Work (Obj Resp : Type) where
  | rejected (error : PyException)
  | queued (executor : ExecutorId) (request : Obj)
  | running (executor : ExecutorId) (request : Obj)
  | returned (request : Obj) (response : Resp)
  | raised (request : Obj) (error : PyException)
  | cancelled (request : Obj)

structure Request (Obj Resp : Type) where
  topic : String
  payload : Json
  service : ServiceId
  replyTo : Json
  work : Work Obj Resp

/-- An element of `_outgoing`. The payload is kept as the JSON value whose
UTF-8 text is sent. A reply's topic is whatever `reply_to` held. -/
structure Outgoing where
  topic : Json
  payload : Json
  qos : Nat

variable {Obj Resp : Type}

def Work.ended : Work Obj Resp → Bool
  | .queued _ _ => false
  | .running _ _ => false
  | _ => true

def Work.runningOn (executor : ExecutorId) : Work Obj Resp → Bool
  | .running owner _ => owner = executor
  | _ => false

/-- `header.get("reply_to")` -/
def replyToOf (payload : Json) : Json :=
  (payload.getOr "header" (.obj [])).getOr "reply_to" .null

/-- `data or {}` -/
def dataOf (payload : Json) : Json :=
  (payload.getOr "data" (.obj [])).orEmpty

/-- `RPCService._dispatch`: submit to the service's own executor. -/
def serviceDispatch (registry : Registry Obj) (service : ServiceId) :
    Except PyException ExecutorId :=
  match (registry.services[service]?).bind RpcService.executor with
  | none => .error assertionError
  | some executor => .ok executor

/-- `_dispatch_rpc` for the table entry of the topic. -/
def dispatchRpc (registry : Registry Obj) (topic : String) (payload : Json)
    (msgType : MsgType Obj) (service : ServiceId) : Request Obj Resp where
  topic := topic
  payload := payload
  service := service
  replyTo := replyToOf payload
  work :=
    match msgType.hydrate (dataOf payload) with
    | .error error => .rejected error
    | .ok request =>
        match serviceDispatch registry service with
        | .error error => .rejected error
        | .ok executor => .queued executor request

/-- `_wrap_response` around the decoded JSON of the response. -/
def wrapResponse (now : Int) (data : Json) : Json :=
  .obj [
    ("header", .obj [
      ("reply_to", .str ""),
      ("timestamp", .int now),
      ("content_type", .str "json"),
      ("encoding", .str "utf8"),
      ("agent", .str "aiomqtt")]),
    ("data", data)]

/-- `_on_rpc_future_done`. The callback is attached only for a truthy
`reply_to`. An exception of the handler, or the `CancelledError` of a future
its service cancelled, is logged and nothing is sent; one that `serialize`
raises leaves the callback and is logged by the executor. -/
def onRpcFutureDone (serialize : Resp → Except PyException Json) (now : Int)
    (request : Request Obj Resp) : Option Outgoing :=
  if request.replyTo.truthy then
    match request.work with
    | .returned _ response =>
        match serialize response with
        | .error _ => none
        | .ok data => some ⟨request.replyTo, wrapResponse now data, 1⟩
    | _ => none
  else none

/-- How a handler call ends. -/
inductive Outcome (Resp : Type) where
  | returned (response : Resp)
  | raised (error : PyException)

/-- A worker thread takes a queued request when its pool has a free worker. The
pool hands its items out first in first out; any queued request may be next here,
so what holds of all runs holds of those in that order. -/
def startWork (registry : Registry Obj) (requests : List (Request Obj Resp)) (id : RequestId) :
    Option (List (Request Obj Resp)) :=
  match requests[id]? with
  | none => none
  | some request =>
      match request.work with
      | .queued executor decoded =>
          let busy := requests.countP fun other => other.work.runningOn executor
          let maxWorkers := ((registry.services[request.service]?).map RpcService.maxWorkers).getD 0
          if busy < maxWorkers then
            some (requests.set id { request with work := .running executor decoded })
          else none
      | _ => none

def Outcome.work (outcome : Outcome Resp) (decoded : Obj) : Work Obj Resp :=
  match outcome with
  | .returned response => .returned decoded response
  | .raised error => .raised decoded error

/-- The handler of a running request ends. The result is the finished request,
whose done-callback runs next. -/
def finishWork (requests : List (Request Obj Resp)) (id : RequestId) (outcome : Outcome Resp) :
    Option (List (Request Obj Resp) × Request Obj Resp) :=
  match requests[id]? with
  | none => none
  | some request =>
      match request.work with
      | .running _ decoded =>
          let finished := { request with work := outcome.work decoded }
          some (requests.set id finished, finished)
      | _ => none

def Request.cancelQueued (executor : ExecutorId) (request : Request Obj Resp) :
    Request Obj Resp :=
  match request.work with
  | .queued owner decoded =>
      if owner = executor then { request with work := .cancelled decoded } else request
  | _ => request

/-- `executor.shutdown(wait=False, cancel_futures=True)`. The done-callbacks of
the cancelled futures run and send nothing. -/
def shutdown (requests : List (Request Obj Resp)) (executor : ExecutorId) :
    List (Request Obj Resp) :=
  requests.map (Request.cancelQueued executor)

end RemoteIface.Commlib.Rpc
