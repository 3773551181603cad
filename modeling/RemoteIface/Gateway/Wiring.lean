import RemoteIface.Commlib.NodeContext
import RemoteIface.Commlib.Subscriptions
import RemoteIface.Protocols.Messages

/-!
The components that `create_gateway` registers, with the endpoints they create
on `start` and give up on `stop`. A `NodeContext` is known by its number, since
a component keeps the endpoints of the one it was started on. The four
components that only publish differ in a toggle, a topic and a message class.
-/

namespace RemoteIface.Gateway.Wiring

set_option autoImplicit false

open RemoteIface.Commlib.Payload
open RemoteIface.Commlib.Endpoints
open RemoteIface.Commlib.Rpc
open RemoteIface.Commlib.NodeContext
open RemoteIface.Protocols.Messages

abbrev ContextNumber := Nat

/-- The fields of `GatewayConfig` that the components read, with their defaults.
The first is `namespace`. -/
structure GatewayConfig where
  botNamespace : String := "hummingbot"
  enableCommands : Bool := true
  enableNotifier : Bool := true
  enableStatusUpdates : Bool := true
  enableEvents : Bool := true
  enableExternalEvents : Bool := true
  enableLogHandler : Bool := true
deriving DecidableEq, Repr

/-- The suffix constants of `commands.py`. -/
def commandSuffix : Command → String
  | .start => "/start"
  | .stop => "/stop"
  | .config => "/config"
  | .importStrategy => "/import"
  | .status => "/status"
  | .history => "/history"
  | .balanceLimit => "/balance/limit"
  | .balancePaper => "/balance/paper"

/-- The order of the specs in `MQTTCommands.start`. -/
def allCommands : List Command :=
  [.start, .stop, .config, .importStrategy, .status, .history, .balanceLimit, .balancePaper]

def commandTopic (config : GatewayConfig) (command : Command) : String :=
  config.botNamespace ++ commandSuffix command

/-- The bound method that handles a command. -/
def commandHandler : Command → CallbackId
  | .start => 1
  | .stop => 2
  | .config => 3
  | .importStrategy => 4
  | .status => 5
  | .history => 6
  | .balanceLimit => 7
  | .balancePaper => 8

/-- `_dispatch` of `MQTTExternalEvents`: it calls `app.handle_external_event` and
republishes on the event bus. -/
def externalDispatch : CallbackId := 0

def externalFilter : String := "external/+"

structure PublishingComponent where
  enabled : GatewayConfig → Bool
  suffix : String
  message : Dataclass

def mqttNotifier : PublishingComponent :=
  ⟨GatewayConfig.enableNotifier, "/notify", notifyMessage⟩

def mqttStatusUpdates : PublishingComponent :=
  ⟨GatewayConfig.enableStatusUpdates, "/status", statusUpdateMessage⟩

def mqttMarketEventForwarder : PublishingComponent :=
  ⟨GatewayConfig.enableEvents, "/market-events", internalEventMessage⟩

def mqttLogHandler : PublishingComponent :=
  ⟨GatewayConfig.enableLogHandler, "/log", logMessage⟩

inductive Role where
  | notifier
  | statusUpdates
  | marketEvents
  | logHandler
deriving DecidableEq, Repr

def Role.component : Role → PublishingComponent
  | notifier => mqttNotifier
  | statusUpdates => mqttStatusUpdates
  | marketEvents => mqttMarketEventForwarder
  | logHandler => mqttLogHandler

def publisherTopic (config : GatewayConfig) (role : Role) : String :=
  config.botNamespace ++ role.component.suffix

inductive Component where
  | commands
  | publishing (role : Role)
  | externalEvents
deriving DecidableEq, Repr

/-- `create_gateway`: the registered components, in order. -/
def createGateway (config : GatewayConfig) : List Component :=
  (if config.enableCommands then [.commands] else []) ++
  (if config.enableNotifier then [.publishing .notifier] else []) ++
  (if config.enableStatusUpdates then [.publishing .statusUpdates] else []) ++
  (if config.enableEvents then [.publishing .marketEvents] else []) ++
  (if config.enableExternalEvents then [.externalEvents] else []) ++
  (if config.enableLogHandler then [.publishing .logHandler] else [])

/-- `_services`, the `_publisher` of each publishing component and
`_subscriber`, with the contexts they were created on. -/
structure Endpoints where
  services : List (ContextNumber × ServiceId)
  publisher : Role → Option (ContextNumber × PublisherId)
  subscriber : Option (ContextNumber × SubscriberId)

/-- The contexts made so far and the endpoints the components hold. -/
structure System where
  contexts : List (Context Instance Response)
  endpoints : Endpoints

namespace System

def fresh : System := ⟨[.fresh], ⟨[], fun _ => none, none⟩⟩

def onContext (system : System) (id : ContextNumber)
    (f : Context Instance Response → Context Instance Response) : System :=
  { system with contexts := system.contexts.modify id f }

def call (system : System) (id : ContextNumber) (call : RegistryCall Instance) : System :=
  system.onContext id fun ctx => { ctx with router := ctx.router.perform call }

def registry (system : System) (id : ContextNumber) : Registry Instance :=
  ((system.contexts[id]?).map fun ctx => ctx.router.registry).getD .empty

def hold (system : System) (endpoints : Endpoints) : System :=
  { system with endpoints := endpoints }

/-- `create_rpc` for one command. -/
def createCommand (config : GatewayConfig) (id : ContextNumber) (system : System)
    (command : Command) : System :=
  let service := (system.registry id).services.length
  let created := system.call id (.createRpc (commandTopic config command)
    command.request.msgType (commandHandler command))
  created.hold { created.endpoints with
    services := created.endpoints.services ++ [(id, service)] }

/-- `MQTTCommands.start` -/
def startCommands (config : GatewayConfig) (id : ContextNumber) (system : System) : System :=
  allCommands.foldl (createCommand config id) system

/-- `MQTTCommands.stop` -/
def stopCommands (system : System) : System :=
  let stopped := system.endpoints.services.foldl
    (fun (system : System) service => system.call service.1 (.stopRpc service.2)) system
  stopped.hold { stopped.endpoints with services := [] }

/-- `start` of a publishing component. -/
def startPublishing (config : GatewayConfig) (id : ContextNumber) (system : System) (role : Role) :
    System :=
  if role.component.enabled config then
    let pub := (system.registry id).publishers.length
    let created := system.call id (.createPublisher (publisherTopic config role))
    created.hold { created.endpoints with
      publisher := fun other =>
        if other = role then some (id, pub) else created.endpoints.publisher other }
  else system

/-- `stop` of a publishing component. -/
def stopPublishing (system : System) (role : Role) : System :=
  match system.endpoints.publisher role with
  | none => system
  | some (id, pub) =>
      let stopped := system.call id (.stopPublisher pub)
      stopped.hold { stopped.endpoints with
        publisher := fun other =>
          if other = role then none else stopped.endpoints.publisher other }

/-- `MQTTExternalEvents.start` -/
def startExternalEvents (config : GatewayConfig) (id : ContextNumber) (system : System) : System :=
  if config.enableExternalEvents then
    let sub := (system.registry id).subscribers.length
    let created := system.call id (.createSubscriber externalFilter externalDispatch
      (some externalEventMessage.msgType))
    created.hold { created.endpoints with subscriber := some (id, sub) }
  else system

/-- `MQTTExternalEvents.stop` -/
def stopExternalEvents (system : System) : System :=
  match system.endpoints.subscriber with
  | none => system
  | some (id, sub) =>
      let stopped := system.call id (.stopSubscriber sub)
      stopped.hold { stopped.endpoints with subscriber := none }

def startComponent (config : GatewayConfig) (id : ContextNumber) (system : System) :
    Component → System
  | .commands => system.startCommands config id
  | .publishing role => system.startPublishing config id role
  | .externalEvents => system.startExternalEvents config id

def stopComponent (system : System) : Component → System
  | .commands => system.stopCommands
  | .publishing role => system.stopPublishing role
  | .externalEvents => system.stopExternalEvents

/-- The loop over the components in `MQTTGateway.start`, when the context is the
gateway's `_node_context`. -/
def startComponents (config : GatewayConfig) (id : ContextNumber) (system : System) : System :=
  (createGateway config).foldl (startComponent config id) system

/-- The loop in `MQTTGateway.stop`. -/
def stopComponents (config : GatewayConfig) (system : System) : System :=
  (createGateway config).reverse.foldl stopComponent system

end System

end RemoteIface.Gateway.Wiring
