import RemoteIface.Gateway.TopicTables
import RemoteIface.Gateway.LogHandler

/-!
What the components of `create_gateway` register outside themselves: with the
lists of `HummingbotAppAdapter`, with the notifiers of the host, with the
loggers, with the `NodeContext` and in `_endpoints`. `start` and `stop` of the
gateway go through the components, each of which minds its own registries; the
host may patch loggers, ask for market events and fire the strategy-loaded
callbacks. What happens on the connection plays no part.
-/

namespace RemoteIface.HbCompat.Registrations

set_option autoImplicit false

open RemoteIface.Library.Loggers
open RemoteIface.Commlib.Endpoints
open RemoteIface.Protocols.Messages
open RemoteIface.Gateway.Wiring
open RemoteIface.Gateway.TopicTables
open RemoteIface.Gateway.LogHandler

/-- A callable in a list of the adapter. `_on_strategy_loaded` is a new closure
with every `start` of the forwarder. -/
inductive Callback where
  | forwardEvent
  | onStatusEvent
  | onStrategyLoaded (number : Nat)
  | other (id : Nat)
deriving DecidableEq, Repr

/-- The registries of `HummingbotAppAdapter`. -/
structure AppAdapter where
  marketEventCallbacks : List Callback
  statusListeners : List Callback
  strategyLoadedCallbacks : List Callback
deriving DecidableEq, Repr

namespace AppAdapter

def subscribeMarketEvents (adapter : AppAdapter) (callback : Callback) : AppAdapter :=
  { adapter with marketEventCallbacks := adapter.marketEventCallbacks ++ [callback] }

/-- The callable that `subscribe_market_events` returns. -/
def unsubscribeMarketEvents (adapter : AppAdapter) (callback : Callback) : AppAdapter :=
  { adapter with marketEventCallbacks := adapter.marketEventCallbacks.erase callback }

def registerStatusListener (adapter : AppAdapter) (callback : Callback) : AppAdapter :=
  { adapter with statusListeners := adapter.statusListeners ++ [callback] }

/-- The callable that `register_status_listener` returns. -/
def unregisterStatusListener (adapter : AppAdapter) (callback : Callback) : AppAdapter :=
  { adapter with statusListeners := adapter.statusListeners.erase callback }

def registerStrategyLoadedCallback (adapter : AppAdapter) (callback : Callback) : AppAdapter :=
  { adapter with strategyLoadedCallbacks := adapter.strategyLoadedCallbacks ++ [callback] }

end AppAdapter

/-- The notifiers of the host app, whose `register_notifier` and
`unregister_notifier` of the gateway's notifier are an add/remove pair. -/
structure NotifierRegistry where
  State : Type
  Free : State → Prop
  register : State → State
  unregister : State → State
  pair : ∀ state, Free state → unregister (register state) = state

/-- `_unsubscribe is not None` and `_subscribed` of the forwarder. -/
structure Forwarder where
  unsubscribe : Bool
  subscribed : Bool
deriving DecidableEq, Repr

inductive Endpoint where
  | service (context : ContextNumber) (id : ServiceId)
  | publisher (context : ContextNumber) (id : PublisherId)
  | subscriber (context : ContextNumber) (id : SubscriberId)
deriving DecidableEq, Repr

/-- What others had registered before the first `start`. -/
structure Surroundings (Logger : Type) (notifiers : NotifierRegistry) where
  handlers : Logger → List Nat
  marketEventCallbacks : List Nat
  statusListeners : List Nat
  strategyLoadedCallbacks : List Nat
  registered : notifiers.State
  free : notifiers.Free registered

/-- A gateway with all the registries around it. The `_publisher` of each
component is in the `system`. -/
structure Gateway (Logger : Type) (notifiers : NotifierRegistry) where
  running : Bool
  system : System
  node : ContextNumber
  endpoints : List Endpoint
  adapter : AppAdapter
  registered : notifiers.State
  attachments : Attachments Logger
  forwarder : Forwarder
  statusUnsubscribe : Bool
  closures : Nat

variable {Logger : Type} {notifiers : NotifierRegistry}

/-- The endpoints a component appends to `_endpoints` on `start`. -/
def created (config : GatewayConfig) (before after : Endpoints) : Component → List Endpoint
  | .commands => (after.services.drop before.services.length).map fun service =>
      .service service.1 service.2
  | .publishing role =>
      if role.component.enabled config then
        (after.publisher role).toList.map fun publisher => .publisher publisher.1 publisher.2
      else []
  | .externalEvents =>
      if config.enableExternalEvents then
        after.subscriber.toList.map fun subscriber => .subscriber subscriber.1 subscriber.2
      else []

/-- The endpoints a component removes from `_endpoints` on `stop`. -/
def owned (held : Endpoints) : Component → List Endpoint
  | .commands => held.services.map fun service => .service service.1 service.2
  | .publishing role =>
      (held.publisher role).toList.map fun publisher => .publisher publisher.1 publisher.2
  | .externalEvents =>
      held.subscriber.toList.map fun subscriber => .subscriber subscriber.1 subscriber.2

namespace Gateway

/-- What `create_gateway` returns. -/
def fresh (surroundings : Surroundings Logger notifiers) : Gateway Logger notifiers where
  running := false
  system := .fresh
  node := 0
  endpoints := []
  adapter :=
    ⟨surroundings.marketEventCallbacks.map .other, surroundings.statusListeners.map .other,
      surroundings.strategyLoadedCallbacks.map .other⟩
  registered := surroundings.registered
  attachments := .foreign surroundings.handlers
  forwarder := ⟨false, false⟩
  statusUnsubscribe := false
  closures := 0

/-- `MQTTMarketEventForwarder.subscribe_now` -/
def subscribeNow (gateway : Gateway Logger notifiers) : Gateway Logger notifiers :=
  match gateway.system.endpoints.publisher .marketEvents with
  | none => gateway
  | some _ =>
      if gateway.forwarder.subscribed then gateway
      else { gateway with
        adapter := gateway.adapter.subscribeMarketEvents .forwardEvent
        forwarder := ⟨true, true⟩ }

variable [DecidableEq Logger]

/-- What the `start` of a component registers outside the `NodeContext`. -/
def register (config : GatewayConfig) (logging : Logging Logger)
    (gateway : Gateway Logger notifiers) : Component → Gateway Logger notifiers
  | .publishing .notifier =>
      if config.enableNotifier then
        { gateway with registered := notifiers.register gateway.registered }
      else gateway
  | .publishing .statusUpdates =>
      if config.enableStatusUpdates then
        { gateway with
          adapter := gateway.adapter.registerStatusListener .onStatusEvent
          statusUnsubscribe := true }
      else gateway
  | .publishing .marketEvents =>
      if config.enableEvents then
        { gateway with
          adapter := gateway.adapter.registerStrategyLoadedCallback
            (.onStrategyLoaded gateway.closures)
          closures := gateway.closures + 1 }
      else gateway
  | .publishing .logHandler =>
      if config.enableLogHandler then
        { gateway with attachments := gateway.attachments.addToRoot logging }
      else gateway
  | .commands => gateway
  | .externalEvents => gateway

/-- What the `stop` of a component takes back outside the `NodeContext`. -/
def unregister (logging : Logging Logger) (gateway : Gateway Logger notifiers) :
    Component → Gateway Logger notifiers
  | .publishing .notifier =>
      { gateway with registered := notifiers.unregister gateway.registered }
  | .publishing .statusUpdates =>
      if gateway.statusUnsubscribe then
        { gateway with
          adapter := gateway.adapter.unregisterStatusListener .onStatusEvent
          statusUnsubscribe := false }
      else gateway
  | .publishing .marketEvents =>
      if gateway.forwarder.unsubscribe then
        { gateway with
          adapter := gateway.adapter.unsubscribeMarketEvents .forwardEvent
          forwarder := ⟨false, false⟩ }
      else { gateway with forwarder := ⟨false, false⟩ }
  | .publishing .logHandler =>
      { gateway with attachments := gateway.attachments.detachAll logging }
  | .commands => gateway
  | .externalEvents => gateway

/-- `component.start(self)` -/
def startComponent (config : GatewayConfig) (logging : Logging Logger)
    (gateway : Gateway Logger notifiers) (component : Component) : Gateway Logger notifiers :=
  let system := gateway.system.startComponent config gateway.node component
  { gateway with
    system := system
    endpoints := gateway.endpoints ++
      created config gateway.system.endpoints system.endpoints component }.register config logging
    component

/-- `component.stop(self)` -/
def stopComponent (logging : Logging Logger) (gateway : Gateway Logger notifiers)
    (component : Component) : Gateway Logger notifiers :=
  { gateway with
    system := gateway.system.stopComponent component
    endpoints := (owned gateway.system.endpoints component).foldl List.erase
      gateway.endpoints }.unregister logging component

/-- `MQTTGateway.start` -/
def start (config : GatewayConfig) (logging : Logging Logger) (gateway : Gateway Logger notifiers) :
    Gateway Logger notifiers :=
  if gateway.running then gateway
  else { (createGateway config).foldl (startComponent config logging) gateway with running := true }

/-- `MQTTGateway.stop` -/
def stop (config : GatewayConfig) (logging : Logging Logger) (gateway : Gateway Logger notifiers) :
    Gateway Logger notifiers :=
  if gateway.running then
    { (createGateway config).reverse.foldl (stopComponent logging) gateway with
      endpoints := []
      running := false }
  else gateway

/-- The new `NodeContext` of a restart. -/
def rebuild (gateway : Gateway Logger notifiers) : Gateway Logger notifiers :=
  { gateway with
    endpoints := []
    system := { gateway.system with contexts := gateway.system.contexts ++ [.fresh] }
    node := gateway.system.contexts.length }

/-- `MQTTGateway.restart`, by a caller or by the health loop. -/
def restart (config : GatewayConfig) (logging : Logging Logger)
    (gateway : Gateway Logger notifiers) : Gateway Logger notifiers :=
  ((gateway.stop config logging).rebuild).start config logging

end Gateway

/-- What the host does with a gateway. A strategy-loaded callback is fired from
the list it is in, and stays there. -/
inductive HostEvent where
  | patchLoggers (names : List String)
  | startMarketEventsFw
  | strategyLoaded (callback : Callback)
deriving DecidableEq, Repr

inductive Event where
  | start
  | stop
  | restart
  | host (event : HostEvent)
deriving DecidableEq, Repr

namespace Gateway

variable [DecidableEq Logger]

def hostStep (config : GatewayConfig) (logging : Logging Logger)
    (gateway : Gateway Logger notifiers) : HostEvent → Gateway Logger notifiers
  | .patchLoggers names =>
      if config.enableLogHandler then
        { gateway with attachments := gateway.attachments.attach logging names }
      else gateway
  | .startMarketEventsFw => if config.enableEvents then gateway.subscribeNow else gateway
  | .strategyLoaded callback =>
      if callback ∈ gateway.adapter.strategyLoadedCallbacks then
        match callback with
        | .onStrategyLoaded _ => gateway.subscribeNow
        | _ => gateway
      else gateway

def step (config : GatewayConfig) (logging : Logging Logger) (gateway : Gateway Logger notifiers) :
    Event → Gateway Logger notifiers
  | .start => gateway.start config logging
  | .stop => gateway.stop config logging
  | .restart => gateway.restart config logging
  | .host event => gateway.hostStep config logging event

end Gateway

theorem fold_others {State Item Part : Type*} {step : State → Item → State} (part : State → Part)
    {mover : Item} (others : ∀ state item, item ≠ mover → part (step state item) = part state)
    {items : List Item} (absent : mover ∉ items) (state : State) :
    part (items.foldl step state) = part state := by
  induction items generalizing state with
  | nil => rfl
  | cons item rest induction =>
      rw [List.mem_cons, not_or] at absent
      exact (induction absent.2 (step state item)).trans (others state item (Ne.symm absent.1))

theorem fold_part {State Item Part : Type*} {step : State → Item → State} (part : State → Part)
    {change : Part → Part} {mover : Item}
    (moves : ∀ state, part (step state mover) = change (part state))
    (others : ∀ state item, item ≠ mover → part (step state item) = part state)
    {items : List Item} (distinct : items.Nodup) (member : mover ∈ items) (state : State) :
    part (items.foldl step state) = change (part state) := by
  induction items generalizing state with
  | nil => cases member
  | cons item rest induction =>
      rw [List.nodup_cons] at distinct
      rw [List.foldl_cons]
      rcases List.mem_cons.mp member with rfl | later
      · rw [fold_others part others distinct.1, moves]
      · have other : item ≠ mover := fun same => distinct.1 (same ▸ later)
        rw [induction distinct.2 later, others state item other]

theorem fold_untouched {State Item Part : Type*} {step : State → Item → State}
    (part : State → Part) (same : ∀ state item, part (step state item) = part state)
    (items : List Item) (state : State) : part (items.foldl step state) = part state := by
  induction items generalizing state with
  | nil => rfl
  | cons item rest induction => exact (induction (step state item)).trans (same state item)

theorem create_gateway_nodup (config : GatewayConfig) : (createGateway config).Nodup := by
  have whole : ([.commands, .publishing .notifier, .publishing .statusUpdates,
      .publishing .marketEvents, .externalEvents, .publishing .logHandler] :
        List Component).Nodup := by decide
  apply List.Nodup.sublist _ whole
  have optional : ∀ (enabled : Bool) (component : Component),
      (if enabled then [component] else []).Sublist [component] := by
    intro enabled component
    cases enabled with
    | true => exact List.Sublist.refl _
    | false => exact List.nil_sublist _
  unfold createGateway
  exact ((((((optional _ .commands).append (optional _ _)).append (optional _ _)).append
    (optional _ _)).append (optional _ _)).append (optional _ _))

namespace Gateway

def marketPart (gateway : Gateway Logger notifiers) : List Callback × Forwarder :=
  (gateway.adapter.marketEventCallbacks, gateway.forwarder)

def statusPart (gateway : Gateway Logger notifiers) : List Callback × Bool :=
  (gateway.adapter.statusListeners, gateway.statusUnsubscribe)

def strategyPart (gateway : Gateway Logger notifiers) : List Callback × Nat :=
  (gateway.adapter.strategyLoadedCallbacks, gateway.closures)

variable [DecidableEq Logger] {config : GatewayConfig} {logging : Logging Logger}

theorem started_part {Part : Type*} (part : Gateway Logger notifiers → Part)
    {change : Part → Part} {mover : Component}
    (moves : toggle config mover = true → ∀ gateway,
      part (startComponent config logging gateway mover) = change (part gateway))
    (others : ∀ gateway component, component ≠ mover →
      part (startComponent config logging gateway component) = part gateway)
    (gateway : Gateway Logger notifiers) :
    part ((createGateway config).foldl (startComponent config logging) gateway) =
      if toggle config mover then change (part gateway) else part gateway := by
  cases enabled : toggle config mover with
  | true =>
      exact fold_part part (moves enabled) others (create_gateway_nodup config)
        ((mem_create_gateway config mover).mpr enabled) gateway
  | false =>
      apply fold_others part others
      rw [mem_create_gateway, enabled]
      exact Bool.false_ne_true

theorem stopped_part {Part : Type*} (part : Gateway Logger notifiers → Part)
    {change : Part → Part} {mover : Component}
    (moves : ∀ gateway, part (stopComponent logging gateway mover) = change (part gateway))
    (others : ∀ gateway component, component ≠ mover →
      part (stopComponent logging gateway component) = part gateway)
    (gateway : Gateway Logger notifiers) :
    part ((createGateway config).reverse.foldl (stopComponent logging) gateway) =
      if toggle config mover then change (part gateway) else part gateway := by
  cases enabled : toggle config mover with
  | true =>
      exact fold_part part moves others (List.nodup_reverse.mpr (create_gateway_nodup config))
        (List.mem_reverse.mpr ((mem_create_gateway config mover).mpr enabled)) gateway
  | false =>
      apply fold_others part others
      rw [List.mem_reverse, mem_create_gateway, enabled]
      exact Bool.false_ne_true

theorem start_component_frame (gateway : Gateway Logger notifiers) (component : Component) :
    let next := startComponent config logging gateway component
    next.marketPart = gateway.marketPart ∧
      (component ≠ .publishing .statusUpdates → next.statusPart = gateway.statusPart) ∧
      (component ≠ .publishing .marketEvents → next.strategyPart = gateway.strategyPart) ∧
      (component ≠ .publishing .notifier → next.registered = gateway.registered) ∧
      (component ≠ .publishing .logHandler → next.attachments = gateway.attachments) := by
  intro next
  rcases component with _ | role | _
  · exact ⟨rfl, fun _ => rfl, fun _ => rfl, fun _ => rfl, fun _ => rfl⟩
  · cases role with
    | notifier =>
        simp only [next, startComponent, register]
        split
        · exact ⟨rfl, fun _ => rfl, fun _ => rfl, fun self => absurd rfl self, fun _ => rfl⟩
        · exact ⟨rfl, fun _ => rfl, fun _ => rfl, fun _ => rfl, fun _ => rfl⟩
    | statusUpdates =>
        simp only [next, startComponent, register]
        split
        · exact ⟨rfl, fun self => absurd rfl self, fun _ => rfl, fun _ => rfl, fun _ => rfl⟩
        · exact ⟨rfl, fun _ => rfl, fun _ => rfl, fun _ => rfl, fun _ => rfl⟩
    | marketEvents =>
        simp only [next, startComponent, register]
        split
        · exact ⟨rfl, fun _ => rfl, fun self => absurd rfl self, fun _ => rfl, fun _ => rfl⟩
        · exact ⟨rfl, fun _ => rfl, fun _ => rfl, fun _ => rfl, fun _ => rfl⟩
    | logHandler =>
        simp only [next, startComponent, register]
        split
        · exact ⟨rfl, fun _ => rfl, fun _ => rfl, fun _ => rfl, fun self => absurd rfl self⟩
        · exact ⟨rfl, fun _ => rfl, fun _ => rfl, fun _ => rfl, fun _ => rfl⟩
  · exact ⟨rfl, fun _ => rfl, fun _ => rfl, fun _ => rfl, fun _ => rfl⟩

theorem start_market_part (gateway : Gateway Logger notifiers) :
    marketPart ((createGateway config).foldl (startComponent config logging) gateway) =
      gateway.marketPart :=
  fold_untouched marketPart (fun gateway component => (start_component_frame gateway component).1)
    _ gateway

theorem start_status_part (gateway : Gateway Logger notifiers) :
    statusPart ((createGateway config).foldl (startComponent config logging) gateway) =
      if config.enableStatusUpdates then (gateway.adapter.statusListeners ++ [.onStatusEvent], true)
      else gateway.statusPart := by
  refine @started_part _ _ _ _ _ _ statusPart
    (fun part => (part.1 ++ [.onStatusEvent], true)) (.publishing .statusUpdates) ?_
    (fun gateway component => (start_component_frame gateway component).2.1) gateway
  intro enabled gateway
  have on : config.enableStatusUpdates = true := enabled
  simp [startComponent, register, on, statusPart, AppAdapter.registerStatusListener]

theorem start_strategy_part (gateway : Gateway Logger notifiers) :
    strategyPart ((createGateway config).foldl (startComponent config logging) gateway) =
      if config.enableEvents then
        (gateway.adapter.strategyLoadedCallbacks ++ [.onStrategyLoaded gateway.closures],
          gateway.closures + 1)
      else gateway.strategyPart := by
  refine @started_part _ _ _ _ _ _ strategyPart
    (fun part => (part.1 ++ [.onStrategyLoaded part.2], part.2 + 1)) (.publishing .marketEvents)
    ?_ (fun gateway component => (start_component_frame gateway component).2.2.1) gateway
  intro enabled gateway
  have on : config.enableEvents = true := enabled
  simp [startComponent, register, on, strategyPart, AppAdapter.registerStrategyLoadedCallback]

theorem start_registered (gateway : Gateway Logger notifiers) :
    ((createGateway config).foldl (startComponent config logging) gateway).registered =
      if config.enableNotifier then notifiers.register gateway.registered
      else gateway.registered := by
  refine @started_part _ _ _ _ _ _ Gateway.registered notifiers.register (.publishing .notifier)
    ?_ (fun gateway component => (start_component_frame gateway component).2.2.2.1) gateway
  intro enabled gateway
  have on : config.enableNotifier = true := enabled
  simp [startComponent, register, on]

theorem start_attachments (gateway : Gateway Logger notifiers) :
    ((createGateway config).foldl (startComponent config logging) gateway).attachments =
      if config.enableLogHandler then gateway.attachments.addToRoot logging
      else gateway.attachments := by
  refine @started_part _ _ _ _ _ _ Gateway.attachments (Attachments.addToRoot logging)
    (.publishing .logHandler) ?_
    (fun gateway component => (start_component_frame gateway component).2.2.2.2) gateway
  intro enabled gateway
  have on : config.enableLogHandler = true := enabled
  simp [startComponent, register, on]

theorem stop_component_frame (gateway : Gateway Logger notifiers) (component : Component) :
    let next := stopComponent logging gateway component
    next.strategyPart = gateway.strategyPart ∧
      (component ≠ .publishing .statusUpdates → next.statusPart = gateway.statusPart) ∧
      (component ≠ .publishing .marketEvents → next.marketPart = gateway.marketPart) ∧
      (component ≠ .publishing .notifier → next.registered = gateway.registered) ∧
      (component ≠ .publishing .logHandler → next.attachments = gateway.attachments) := by
  intro next
  rcases component with _ | role | _
  · exact ⟨rfl, fun _ => rfl, fun _ => rfl, fun _ => rfl, fun _ => rfl⟩
  · cases role with
    | notifier => exact ⟨rfl, fun _ => rfl, fun _ => rfl, fun self => absurd rfl self, fun _ => rfl⟩
    | statusUpdates =>
        simp only [next, stopComponent, unregister]
        split
        · exact ⟨rfl, fun self => absurd rfl self, fun _ => rfl, fun _ => rfl, fun _ => rfl⟩
        · exact ⟨rfl, fun _ => rfl, fun _ => rfl, fun _ => rfl, fun _ => rfl⟩
    | marketEvents =>
        simp only [next, stopComponent, unregister]
        split
        · exact ⟨rfl, fun _ => rfl, fun self => absurd rfl self, fun _ => rfl, fun _ => rfl⟩
        · exact ⟨rfl, fun _ => rfl, fun self => absurd rfl self, fun _ => rfl, fun _ => rfl⟩
    | logHandler => exact ⟨rfl, fun _ => rfl, fun _ => rfl, fun _ => rfl, fun self => absurd rfl self⟩
  · exact ⟨rfl, fun _ => rfl, fun _ => rfl, fun _ => rfl, fun _ => rfl⟩

theorem stop_strategy_part (gateway : Gateway Logger notifiers) :
    strategyPart ((createGateway config).reverse.foldl (stopComponent logging) gateway) =
      gateway.strategyPart :=
  fold_untouched strategyPart (fun gateway component => (stop_component_frame gateway component).1)
    _ gateway

theorem stop_market_part (gateway : Gateway Logger notifiers) :
    marketPart ((createGateway config).reverse.foldl (stopComponent logging) gateway) =
      if config.enableEvents then
        (if gateway.forwarder.unsubscribe then
            gateway.adapter.marketEventCallbacks.erase .forwardEvent
          else gateway.adapter.marketEventCallbacks, ⟨false, false⟩)
      else gateway.marketPart := by
  refine @stopped_part _ _ _ _ _ _ marketPart
    (fun part => (if part.2.unsubscribe then part.1.erase .forwardEvent else part.1,
      ⟨false, false⟩)) (.publishing .marketEvents) ?_
    (fun gateway component => (stop_component_frame gateway component).2.2.1) gateway
  intro gateway
  by_cases held : gateway.forwarder.unsubscribe = true
  · simp [stopComponent, unregister, marketPart, held, AppAdapter.unsubscribeMarketEvents]
  · simp [stopComponent, unregister, marketPart, held]

theorem stop_status_part (gateway : Gateway Logger notifiers) :
    statusPart ((createGateway config).reverse.foldl (stopComponent logging) gateway) =
      if config.enableStatusUpdates then
        (if gateway.statusUnsubscribe then gateway.adapter.statusListeners.erase .onStatusEvent
          else gateway.adapter.statusListeners, false)
      else gateway.statusPart := by
  refine @stopped_part _ _ _ _ _ _ statusPart
    (fun part => (if part.2 then part.1.erase .onStatusEvent else part.1, false))
    (.publishing .statusUpdates) ?_
    (fun gateway component => (stop_component_frame gateway component).2.1) gateway
  intro gateway
  by_cases held : gateway.statusUnsubscribe = true
  · simp [stopComponent, unregister, statusPart, held, AppAdapter.unregisterStatusListener]
  · simp [stopComponent, unregister, statusPart, held]

theorem stop_registered (gateway : Gateway Logger notifiers) :
    ((createGateway config).reverse.foldl (stopComponent logging) gateway).registered =
      if config.enableNotifier then notifiers.unregister gateway.registered
      else gateway.registered :=
  @stopped_part _ _ _ _ _ _ Gateway.registered notifiers.unregister (.publishing .notifier)
    (fun _ => rfl) (fun gateway component => (stop_component_frame gateway component).2.2.2.1)
    gateway

theorem stop_attachments (gateway : Gateway Logger notifiers) :
    ((createGateway config).reverse.foldl (stopComponent logging) gateway).attachments =
      if config.enableLogHandler then gateway.attachments.detachAll logging
      else gateway.attachments :=
  @stopped_part _ _ _ _ _ _ Gateway.attachments (Attachments.detachAll logging)
    (.publishing .logHandler) (fun _ => rfl)
    (fun gateway component => (stop_component_frame gateway component).2.2.2.2) gateway

theorem start_eq {gateway : Gateway Logger notifiers} (stopped : gateway.running = false) :
    gateway.start config logging =
      { (createGateway config).foldl (startComponent config logging) gateway with
        running := true } := by
  rw [start, if_neg (by rw [stopped]; exact Bool.false_ne_true)]

theorem stop_eq {gateway : Gateway Logger notifiers} (running : gateway.running = true) :
    gateway.stop config logging =
      { (createGateway config).reverse.foldl (stopComponent logging) gateway with
        endpoints := []
        running := false } := by
  rw [stop, if_pos running]

theorem start_running (gateway : Gateway Logger notifiers) :
    (gateway.start config logging).running = true := by
  unfold start
  split
  · assumption
  · rfl

theorem stop_running (gateway : Gateway Logger notifiers) :
    (gateway.stop config logging).running = false := by
  unfold stop
  split
  · rfl
  · rename_i stopped
    simpa using stopped

end Gateway

def MarketSide (config : GatewayConfig) (base : Surroundings Logger notifiers)
    (part : List Callback × Forwarder) : Prop :=
  part.1 = base.marketEventCallbacks.map .other ++
      (if part.2.unsubscribe then [.forwardEvent] else []) ∧
    part.2.subscribed = part.2.unsubscribe ∧
    (part.2.unsubscribe = true → config.enableEvents = true)

def StatusSide (config : GatewayConfig) (base : Surroundings Logger notifiers) (running : Bool)
    (part : List Callback × Bool) : Prop :=
  part.1 = base.statusListeners.map .other ++ (if part.2 then [.onStatusEvent] else []) ∧
    part.2 = (running && config.enableStatusUpdates)

/-- One closure is left for every `start` with market events enabled. -/
def StrategySide (config : GatewayConfig) (base : Surroundings Logger notifiers)
    (part : List Callback × Nat) : Prop :=
  part.1 = base.strategyLoadedCallbacks.map .other ++
      (List.range part.2).map .onStrategyLoaded ∧
    (config.enableEvents = false → part.2 = 0)

def NotifierSide (config : GatewayConfig) (base : Surroundings Logger notifiers) (running : Bool)
    (registered : notifiers.State) : Prop :=
  registered = if running && config.enableNotifier then notifiers.register base.registered
    else base.registered

def LogSide (config : GatewayConfig) (logging : Logging Logger)
    (base : Surroundings Logger notifiers) (attachments : Attachments Logger) : Prop :=
  Sound logging base.handlers attachments ∧
    (config.enableLogHandler = false → attachments = .foreign base.handlers)

structure Sides (config : GatewayConfig) (logging : Logging Logger)
    (base : Surroundings Logger notifiers) (gateway : Gateway Logger notifiers) : Prop where
  market : MarketSide config base gateway.marketPart
  status : StatusSide config base gateway.running gateway.statusPart
  strategy : StrategySide config base gateway.strategyPart
  notifier : NotifierSide config base gateway.running gateway.registered
  log : LogSide config logging base gateway.attachments

variable {config : GatewayConfig} {logging : Logging Logger}
  {base : Surroundings Logger notifiers} {gateway : Gateway Logger notifiers}

theorem sides_fresh (config : GatewayConfig) (logging : Logging Logger)
    (base : Surroundings Logger notifiers) : Sides config logging base (.fresh base) where
  market := by simp [MarketSide, Gateway.marketPart, Gateway.fresh]
  status := by simp [StatusSide, Gateway.statusPart, Gateway.fresh]
  strategy := by simp [StrategySide, Gateway.strategyPart, Gateway.fresh]
  notifier := rfl
  log := ⟨sound_foreign logging base.handlers, fun _ => rfl⟩

theorem erase_own (ids : List Nat) {callback : Callback} (own : ∀ id, callback ≠ .other id) :
    (ids.map Callback.other ++ [callback]).erase callback = ids.map Callback.other := by
  have absent : callback ∉ ids.map Callback.other := by
    intro member
    obtain ⟨id, _, same⟩ := List.mem_map.mp member
    exact own id same.symm
  rw [List.erase_append_right _ absent]
  simp

/-- What `stop` leaves: nothing of the gateway in any registry but the closures
of its starts. -/
structure Cleared (base : Surroundings Logger notifiers) (gateway : Gateway Logger notifiers) :
    Prop where
  market : gateway.adapter.marketEventCallbacks = base.marketEventCallbacks.map .other
  forwarder : gateway.forwarder = ⟨false, false⟩
  status : gateway.adapter.statusListeners = base.statusListeners.map .other
  unsubscribe : gateway.statusUnsubscribe = false
  notifier : gateway.registered = base.registered
  log : gateway.attachments = .foreign base.handlers
  endpoints : gateway.endpoints = []

theorem Cleared.sides (cleared : Cleared base gateway) (stopped : gateway.running = false)
    (strategy : StrategySide config base gateway.strategyPart) :
    Sides config logging base gateway := by
  constructor
  · simp [MarketSide, Gateway.marketPart, cleared.market, cleared.forwarder]
  · simp [StatusSide, Gateway.statusPart, stopped, cleared.status, cleared.unsubscribe]
  · exact strategy
  · simp [NotifierSide, stopped, cleared.notifier]
  · rw [cleared.log]
    exact ⟨sound_foreign logging base.handlers, fun _ => rfl⟩

theorem MarketSide.cleared {part : List Callback × Forwarder} (side : MarketSide config base part) :
    (if config.enableEvents then
        (if part.2.unsubscribe then part.1.erase .forwardEvent else part.1, ⟨false, false⟩)
      else part) = (base.marketEventCallbacks.map .other, ⟨false, false⟩) := by
  obtain ⟨callbacks, ⟨unsubscribe, subscribed⟩⟩ := part
  obtain ⟨listed, guard, forwarding⟩ := side
  dsimp only at listed guard forwarding ⊢
  subst guard
  cases subscribed with
  | true =>
      rw [if_pos rfl] at listed
      rw [if_pos (forwarding rfl), if_pos rfl, listed, erase_own _ (by simp)]
  | false =>
      rw [if_neg Bool.false_ne_true, List.append_nil] at listed
      rw [if_neg Bool.false_ne_true, listed, ite_self]

theorem StatusSide.cleared {part : List Callback × Bool} (side : StatusSide config base true part) :
    (if config.enableStatusUpdates then
        (if part.2 then part.1.erase .onStatusEvent else part.1, false)
      else part) = (base.statusListeners.map .other, false) := by
  obtain ⟨listeners, unsubscribe⟩ := part
  obtain ⟨listed, listening⟩ := side
  dsimp only at listed listening ⊢
  rw [Bool.true_and] at listening
  subst listening
  cases enabled : config.enableStatusUpdates with
  | true =>
      rw [enabled, if_pos rfl] at listed
      rw [if_pos rfl, if_pos rfl, listed, erase_own _ (by simp)]
  | false =>
      rw [enabled, if_neg Bool.false_ne_true, List.append_nil] at listed
      rw [if_neg Bool.false_ne_true, listed]

variable [DecidableEq Logger]

theorem Sides.start (sides : Sides config logging base gateway)
    (stopped : gateway.running = false) :
    Sides config logging base (gateway.start config logging) := by
  rw [Gateway.start_eq stopped]
  have status := sides.status
  have strategy := sides.strategy
  have notifier := sides.notifier
  rw [stopped] at status notifier
  constructor
  · have same := @Gateway.start_market_part _ _ _ config logging gateway
    exact (congrArg (MarketSide config base) same).mpr sides.market
  · have listened := @Gateway.start_status_part _ _ _ config logging gateway
    refine (congrArg (StatusSide config base true) listened).mpr ?_
    obtain ⟨listeners, silent⟩ := status
    have unheard : gateway.statusUnsubscribe = false := silent
    have only : gateway.adapter.statusListeners = base.statusListeners.map .other := by
      simpa [Gateway.statusPart, unheard] using listeners
    cases enabled : config.enableStatusUpdates with
    | true => simp [StatusSide, only, enabled]
    | false => simp [StatusSide, Gateway.statusPart, only, unheard, enabled]
  · have made := @Gateway.start_strategy_part _ _ _ config logging gateway
    refine (congrArg (StrategySide config base) made).mpr ?_
    cases enabled : config.enableEvents with
    | true =>
        have closures : gateway.adapter.strategyLoadedCallbacks =
            base.strategyLoadedCallbacks.map .other ++
              (List.range gateway.closures).map .onStrategyLoaded := strategy.1
        simp [StrategySide, enabled, closures, List.range_succ]
    | false => exact strategy
  · have registered := @Gateway.start_registered _ _ _ config logging gateway
    refine (congrArg (NotifierSide config base true) registered).mpr ?_
    have unnotified : gateway.registered = base.registered := notifier
    simp [NotifierSide, unnotified]
  · have attachments := @Gateway.start_attachments _ _ _ config logging gateway
    refine (congrArg (LogSide config logging base) attachments).mpr ?_
    cases enabled : config.enableLogHandler with
    | true =>
        refine ⟨sides.log.1.add_to_root, ?_⟩
        intro disabled
        rw [enabled] at disabled
        cases disabled
    | false => exact sides.log

theorem Sides.cleared (sides : Sides config logging base gateway)
    (running : gateway.running = true) : Cleared base (gateway.stop config logging) := by
  rw [Gateway.stop_eq running]
  have status := sides.status
  have notifier := sides.notifier
  rw [running] at status notifier
  obtain ⟨market, forwarder⟩ := Prod.mk.inj
    ((@Gateway.stop_market_part _ _ _ config logging gateway).trans sides.market.cleared)
  obtain ⟨listeners, unsubscribe⟩ := Prod.mk.inj
    ((@Gateway.stop_status_part _ _ _ config logging gateway).trans status.cleared)
  constructor
  · exact market
  · exact forwarder
  · exact listeners
  · exact unsubscribe
  · refine (@Gateway.stop_registered _ _ _ config logging gateway).trans ?_
    rw [NotifierSide, Bool.true_and] at notifier
    cases enabled : config.enableNotifier with
    | true =>
        rw [enabled, if_pos rfl] at notifier
        rw [if_pos rfl, notifier]
        exact notifiers.pair base.registered base.free
    | false =>
        rw [enabled, if_neg Bool.false_ne_true] at notifier
        rw [if_neg Bool.false_ne_true, notifier]
  · refine (@Gateway.stop_attachments _ _ _ config logging gateway).trans ?_
    cases enabled : config.enableLogHandler with
    | true =>
        rw [if_pos rfl]
        exact sides.log.1.detach_all
    | false =>
        rw [if_neg Bool.false_ne_true]
        exact sides.log.2 enabled
  · rfl

theorem Sides.stop (sides : Sides config logging base gateway)
    (running : gateway.running = true) :
    Sides config logging base (gateway.stop config logging) := by
  apply (sides.cleared running).sides (Gateway.stop_running gateway)
  rw [Gateway.stop_eq running]
  have kept := @Gateway.stop_strategy_part _ _ _ config logging gateway
  exact (congrArg (StrategySide config base) kept).mpr sides.strategy

omit [DecidableEq Logger] in
theorem Sides.subscribe_now (sides : Sides config logging base gateway)
    (enabled : config.enableEvents = true) : Sides config logging base gateway.subscribeNow := by
  unfold Gateway.subscribeNow
  split
  · exact sides
  · split
    · exact sides
    · rename_i unsubscribed
      refine ⟨?_, sides.status, sides.strategy, sides.notifier, sides.log⟩
      obtain ⟨listed, guard, _⟩ := sides.market
      have unset : gateway.forwarder.unsubscribe = false := by
        rw [Bool.not_eq_true] at unsubscribed
        exact guard.symm.trans unsubscribed
      refine ⟨?_, rfl, fun _ => enabled⟩
      have before : gateway.adapter.marketEventCallbacks =
          base.marketEventCallbacks.map .other := by
        simpa [Gateway.marketPart, unset] using listed
      simp [Gateway.marketPart, AppAdapter.subscribeMarketEvents, before]

theorem Sides.host_step (sides : Sides config logging base gateway) (event : HostEvent) :
    Sides config logging base (gateway.hostStep config logging event) := by
  cases event with
  | patchLoggers names =>
      unfold Gateway.hostStep
      dsimp only
      split
      · rename_i enabled
        refine ⟨sides.market, sides.status, sides.strategy, sides.notifier,
          (sides.log.1.attach names).1, ?_⟩
        intro disabled
        rw [enabled] at disabled
        cases disabled
      · exact sides
  | startMarketEventsFw =>
      unfold Gateway.hostStep
      dsimp only
      split
      · rename_i enabled
        exact sides.subscribe_now enabled
      · exact sides
  | strategyLoaded callback =>
      unfold Gateway.hostStep
      dsimp only
      split
      · rename_i listed
        split
        · rename_i number
          apply sides.subscribe_now
          obtain ⟨callbacks, disabled⟩ := sides.strategy
          by_contra off
          rw [Bool.not_eq_true] at off
          have none_left : gateway.closures = 0 := disabled off
          have only : gateway.adapter.strategyLoadedCallbacks =
              base.strategyLoadedCallbacks.map .other := by
            simpa [Gateway.strategyPart, none_left] using callbacks
          rw [only] at listed
          obtain ⟨id, _, same⟩ := List.mem_map.mp listed
          cases same
        · exact sides
      · exact sides

theorem Sides.step (sides : Sides config logging base gateway) (event : Event) :
    Sides config logging base (gateway.step config logging event) := by
  have started : ∀ {gateway : Gateway Logger notifiers}, Sides config logging base gateway →
      Sides config logging base (gateway.start config logging) := by
    intro gateway sides
    cases running : gateway.running with
    | true =>
        rw [Gateway.start, if_pos running]
        exact sides
    | false => exact sides.start running
  have stopped : Sides config logging base (gateway.stop config logging) := by
    cases running : gateway.running with
    | true => exact sides.stop running
    | false =>
        rw [Gateway.stop, if_neg (by rw [running]; exact Bool.false_ne_true)]
        exact sides
  cases event with
  | start => exact started sides
  | stop => exact stopped
  | restart =>
      apply started
      exact ⟨stopped.market, stopped.status, stopped.strategy, stopped.notifier, stopped.log⟩
  | host event => exact sides.host_step event

/-- The gateway after any sequence of calls. -/
def after (config : GatewayConfig) (logging : Logging Logger)
    (base : Surroundings Logger notifiers) (events : List Event) : Gateway Logger notifiers :=
  events.foldl (Gateway.step config logging) (.fresh base)

theorem sides_after (config : GatewayConfig) (logging : Logging Logger)
    (base : Surroundings Logger notifiers) (events : List Event) :
    Sides config logging base (after config logging base events) := by
  have onwards : ∀ (events : List Event) (gateway : Gateway Logger notifiers),
      Sides config logging base gateway →
      Sides config logging base (events.foldl (Gateway.step config logging) gateway) := by
    intro events
    induction events with
    | nil => exact fun gateway sides => sides
    | cons event rest induction => exact fun gateway sides => induction _ (sides.step event)
  exact onwards events _ (sides_fresh config logging base)

def listNotifiers : NotifierRegistry where
  State := List Nat
  Free := fun registered => 0 ∉ registered
  register := fun registered => registered ++ [0]
  unregister := fun registered => registered.erase 0
  pair := by
    intro registered free
    rw [List.erase_append_right _ free]
    simp

def bareHost : Surroundings String listNotifiers :=
  ⟨fun _ => [], [], [], [], [], List.not_mem_nil⟩

end RemoteIface.HbCompat.Registrations
