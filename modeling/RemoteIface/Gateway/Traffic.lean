import RemoteIface.Gateway.TopicTables

/-!
A gateway, the messages it publishes and a broker that may send any of them
back. The components are started on any context and stopped in any order, and
the host does with the contexts what it likes, except that the RPC services and
the callback of the external events are the gateway's.
-/

namespace RemoteIface.Gateway.Traffic

set_option autoImplicit false

open RemoteIface.Commlib RemoteIface.Gateway
open RemoteIface.Commlib.Payload
open RemoteIface.Commlib.Endpoints
open RemoteIface.Commlib.Rpc
open RemoteIface.Commlib.Dispatch
open RemoteIface.Commlib.NodeContext
open RemoteIface.Commlib.Handles
open RemoteIface.Protocols.Messages
open RemoteIface.Gateway.Wiring

/-- `own` records what the components published. -/
structure Exchange where
  system : System
  own : List Outgoing

/-- `rebuilt` is the new context of a restart. A broadcast is what makes a
component publish: a market event, a status push, a notification or a log line. -/
inductive Event where
  | rebuilt
  | started (id : ContextNumber) (component : Component)
  | stopped (component : Component)
  | broadcast (role : Role) (value : String → Option Json)
  | inside (id : ContextNumber) (event : NodeContext.Event Instance Response)

def enqueuedSince (before after : Context Instance Response) : List Outgoing :=
  (enqueued after.conn).drop (enqueued before.conn).length

namespace Exchange

def fresh : Exchange := ⟨.fresh, []⟩

/-- `self._publisher.publish(payload)`, when the component has a publisher. -/
def broadcast (exchange : Exchange) (role : Role) (serialized : Except PyException Json) : Exchange :=
  match exchange.system.endpoints.publisher role with
  | none => exchange
  | some (id, pub) =>
      match exchange.system.contexts[id]? with
      | none => exchange
      | some ctx =>
          ⟨exchange.system.onContext id fun ctx => ctx.publish pub serialized,
            exchange.own ++ enqueuedSince ctx (ctx.publish pub serialized)⟩

def inside (exchange : Exchange) (id : ContextNumber)
    (event : NodeContext.Event Instance Response) : Option Exchange :=
  match exchange.system.contexts[id]? with
  | none => none
  | some ctx =>
      (ctx.step Response.serialize event).map fun next =>
        { exchange with system := exchange.system.onContext id fun _ => next }

def step (config : GatewayConfig) (exchange : Exchange) : Event → Option Exchange
  | .rebuilt =>
      some { exchange with
        system := { exchange.system with contexts := exchange.system.contexts ++ [.fresh] } }
  | .started id component =>
      if component ∈ createGateway config ∧ id < exchange.system.contexts.length then
        some { exchange with system := exchange.system.startComponent config id component }
      else none
  | .stopped component =>
      some { exchange with system := exchange.system.stopComponent component }
  | .broadcast role value =>
      some (exchange.broadcast role (role.component.message.serialize value))
  | .inside id event => exchange.inside id event

/-- The messages of the gateway: what its components published and the replies
of its RPC services. -/
def sent (exchange : Exchange) : List Outgoing :=
  exchange.own ++ exchange.system.contexts.flatMap fun ctx => ctx.replies.map Prod.snd

def Echoes (exchange : Exchange) (message : Message) : Prop :=
  ∃ item ∈ exchange.sent, item.topic = .str message.topic ∧ message.payload = .value item.payload

end Exchange

/-- The step handed a message to an RPC handler or to the callback of the
external events. -/
def Executes (ctx next : Context Instance Response) : Prop :=
  (∃ request executor decoded, next.router.requests = ctx.router.requests ++ [request] ∧
    request.work = .queued executor decoded) ∨
  ∃ calls, next.router.edgeCalls = ctx.router.edgeCalls ++ calls ∧
    ∃ call ∈ calls, ∃ delivered, call.onMessage = some (externalDispatch, delivered)

/-- The host creates no RPC service and does not pass on the callback of the
external events. -/
def ByHost : Event → Prop
  | .inside _ (.called (.createRpc _ _ _)) => False
  | .inside _ (.called (.createSubscriber _ onMessage _)) => onMessage ≠ externalDispatch
  | .inside _ (.called (.setCallback _ fn)) => fn ≠ externalDispatch
  | _ => True

end RemoteIface.Gateway.Traffic
