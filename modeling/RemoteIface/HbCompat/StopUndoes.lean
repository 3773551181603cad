import RemoteIface.Commlib.CommandTable
import RemoteIface.HbCompat.Registrations

/-!
What is left in the registries around a gateway after cycles of `start` and
`stop`, with the host patching loggers, asking for market events and firing
strategy-loaded callbacks while the gateway runs. `stop` takes back everything
but the strategy-loaded callback, for which the adapter has no way back.
-/

namespace RemoteIface.HbCompat.StopUndoes

set_option autoImplicit false

open RemoteIface.Commlib.Payload
open RemoteIface.Commlib.Endpoints
open RemoteIface.Commlib.CommandTable
open RemoteIface.Protocols.Messages
open RemoteIface.Gateway.Wiring
open RemoteIface.Gateway.TopicTables
open RemoteIface.Gateway.LogHandler hiding Event
open RemoteIface.HbCompat.Registrations

/-- The registries are as they were. -/
structure Restored {Logger : Type} {notifiers : NotifierRegistry}
    (before after : Gateway Logger notifiers) : Prop where
  handlers : after.attachments.handlers = before.attachments.handlers
  adapter : after.adapter = before.adapter
  registered : after.registered = before.registered
  commandTable : (after.system.registry after.node).commandTable =
    (before.system.registry before.node).commandTable
  endpoints : after.endpoints = before.endpoints

/-- One `start`, what the host does while the gateway runs, and one `stop`. -/
def cycle {Logger : Type} {notifiers : NotifierRegistry} [DecidableEq Logger]
    (config : GatewayConfig) (logging : Logging Logger) (gateway : Gateway Logger notifiers)
    (events : List HostEvent) : Gateway Logger notifiers :=
  (events.foldl (Gateway.hostStep config logging) (gateway.start config logging)).stop config
    logging

def afterCycles {Logger : Type} {notifiers : NotifierRegistry} [DecidableEq Logger]
    (config : GatewayConfig) (logging : Logging Logger) (base : Surroundings Logger notifiers)
    (cycles : List (List HostEvent)) : Gateway Logger notifiers :=
  cycles.foldl (cycle config logging) (.fresh base)

section

variable {node : ContextNumber} {system : System}

/-- The services of the gateway are those of its context, and all names of the
command table are theirs. -/
structure Owned (node : ContextNumber) (system : System) : Prop where
  known : node < system.contexts.length
  here : ∀ service ∈ system.endpoints.services, service.1 = node
  covered : Covered (system.registry node) (system.endpoints.services.map Prod.snd)

theorem call_known (id : ContextNumber) (call : RegistryCall Instance)
    (known : node < system.contexts.length) : node < (system.call id call).contexts.length := by
  simpa [System.call, System.onContext] using known

theorem call_services (id : ContextNumber) {call : RegistryCall Instance}
    (spared : ¬ AboutServices call) (known : node < system.contexts.length) :
    ((system.call id call).registry node).services = (system.registry node).services ∧
      ((system.call id call).registry node).commandTable =
        (system.registry node).commandTable := by
  by_cases same : id = node
  · rw [same, registry_call known call]
    exact perform_services _ spared
  · have unchanged : (system.call id call).registry node = system.registry node := by
      simp [System.registry, System.call, System.onContext, List.getElem?_modify_ne _ _ same]
    rw [unchanged]
    exact ⟨rfl, rfl⟩

inductive Elsewhere (system : System) : System → Prop where
  | kept : Elsewhere system system
  | called (id : ContextNumber) {call : RegistryCall Instance} {endpoints : Endpoints}
      (spared : ¬ AboutServices call) (same : endpoints.services = system.endpoints.services) :
      Elsewhere system ((system.call id call).hold endpoints)

theorem start_component_elsewhere (config : GatewayConfig) (id : ContextNumber) (system : System)
    {component : Component} (other : component ≠ .commands) :
    Elsewhere system (system.startComponent config id component) := by
  cases component with
  | commands => exact absurd rfl other
  | publishing role =>
      unfold System.startComponent System.startPublishing
      dsimp only
      split
      · exact .called id not_false rfl
      · exact .kept
  | externalEvents =>
      unfold System.startComponent System.startExternalEvents
      dsimp only
      split
      · exact .called id not_false rfl
      · exact .kept

theorem stop_component_elsewhere (system : System) {component : Component}
    (other : component ≠ .commands) : Elsewhere system (system.stopComponent component) := by
  cases component with
  | commands => exact absurd rfl other
  | publishing role =>
      unfold System.stopComponent System.stopPublishing
      dsimp only
      split
      · exact .kept
      · exact .called _ not_false rfl
  | externalEvents =>
      unfold System.stopComponent System.stopExternalEvents
      dsimp only
      split
      · exact .kept
      · exact .called _ not_false rfl

theorem Elsewhere.services {next : System} (elsewhere : Elsewhere system next) :
    next.endpoints.services = system.endpoints.services := by
  cases elsewhere with
  | kept => rfl
  | called id spared same => exact same

theorem Owned.elsewhere {next : System} (owned : Owned node system)
    (elsewhere : Elsewhere system next) : Owned node next := by
  cases elsewhere with
  | kept => exact owned
  | @called id call endpoints spared same =>
      obtain ⟨services, table⟩ := call_services id spared owned.known
      constructor
      · exact call_known id call owned.known
      · intro service member
        exact owned.here service (same ▸ member)
      · have names : ((system.call id call).hold endpoints).endpoints.services =
            system.endpoints.services := same
        rw [names]
        exact owned.covered.congr services table

theorem Owned.create_command (owned : Owned node system) (config : GatewayConfig)
    (command : Command) : Owned node (System.createCommand config node system command) := by
  constructor
  · exact call_known node _ owned.known
  · intro service member
    rcases List.mem_append.mp member with old | new
    · exact owned.here service old
    · rw [List.mem_singleton.mp new]
  · have table : (System.createCommand config node system command).registry node =
        (system.registry node).createRpc (commandTopic config command) command.request.msgType
          (commandHandler command) :=
      registry_call owned.known _
    have held : (System.createCommand config node system command).endpoints.services =
        system.endpoints.services ++ [(node, (system.registry node).services.length)] := rfl
    rw [table, held, List.map_append]
    exact owned.covered.create_rpc _ _ _

theorem Owned.start_component (owned : Owned node system) (config : GatewayConfig)
    (component : Component) : Owned node (system.startComponent config node component) := by
  by_cases commands : component = .commands
  · subst commands
    have general : ∀ commands : List Command,
        Owned node (commands.foldl (System.createCommand config node) system) := by
      intro commands
      exact List.foldlRecOn (motive := Owned node) commands (System.createCommand config node)
        owned fun system owned command _ => owned.create_command config command
    exact general allCommands
  · exact owned.elsewhere (start_component_elsewhere config node system commands)

theorem stop_services (services : List (ContextNumber × ServiceId)) {system : System}
    (known : node < system.contexts.length) (here : ∀ service ∈ services, service.1 = node)
    (covered : Covered (system.registry node) (services.map Prod.snd)) :
    let stopped := services.foldl
      (fun (system : System) service => system.call service.1 (.stopRpc service.2)) system
    node < stopped.contexts.length ∧ Covered (stopped.registry node) [] := by
  induction services generalizing system with
  | nil => exact ⟨known, covered⟩
  | cons service rest induction =>
      have first := here service List.mem_cons_self
      apply induction
      · exact call_known service.1 _ known
      · intro other member
        exact here other (List.mem_cons_of_mem _ member)
      · dsimp only
        rw [first, registry_call known]
        exact covered.stop_rpc

theorem Owned.stop_component (owned : Owned node system) (component : Component) :
    Owned node (system.stopComponent component) := by
  by_cases commands : component = .commands
  · subst commands
    obtain ⟨known, covered⟩ := stop_services _ owned.known owned.here owned.covered
    exact ⟨known, by simp [System.stopComponent, System.stopCommands, System.hold], covered⟩
  · exact owned.elsewhere (stop_component_elsewhere system commands)

theorem owned_fresh : Owned 0 System.fresh := by
  constructor
  · simp [System.fresh]
  · simp [System.fresh]
  · intro name key
    cases key

end

variable {Logger : Type} {notifiers : NotifierRegistry} [DecidableEq Logger]
  {config : GatewayConfig} {logging : Logging Logger} {base : Surroundings Logger notifiers}
  {gateway : Gateway Logger notifiers}

theorem register_system (gateway : Gateway Logger notifiers) (component : Component) :
    (gateway.register config logging component).system = gateway.system ∧
      (gateway.register config logging component).node = gateway.node := by
  rcases component with _ | role | _
  · exact ⟨rfl, rfl⟩
  · cases role <;>
    · unfold Gateway.register
      dsimp only
      split <;> exact ⟨rfl, rfl⟩
  · exact ⟨rfl, rfl⟩

theorem unregister_system (gateway : Gateway Logger notifiers) (component : Component) :
    (gateway.unregister logging component).system = gateway.system ∧
      (gateway.unregister logging component).node = gateway.node := by
  rcases component with _ | role | _
  · exact ⟨rfl, rfl⟩
  · cases role with
    | notifier => exact ⟨rfl, rfl⟩
    | statusUpdates =>
        unfold Gateway.unregister
        dsimp only
        split <;> exact ⟨rfl, rfl⟩
    | marketEvents =>
        unfold Gateway.unregister
        dsimp only
        split <;> exact ⟨rfl, rfl⟩
    | logHandler => exact ⟨rfl, rfl⟩
  · exact ⟨rfl, rfl⟩

theorem start_component_system (gateway : Gateway Logger notifiers) (component : Component) :
    (Gateway.startComponent config logging gateway component).system =
        gateway.system.startComponent config gateway.node component ∧
      (Gateway.startComponent config logging gateway component).node = gateway.node :=
  register_system _ component

theorem stop_component_system (gateway : Gateway Logger notifiers) (component : Component) :
    (Gateway.stopComponent logging gateway component).system =
        gateway.system.stopComponent component ∧
      (Gateway.stopComponent logging gateway component).node = gateway.node :=
  unregister_system _ component

theorem owned_start (owned : Owned gateway.node gateway.system)
    (stopped : gateway.running = false) :
    Owned (gateway.start config logging).node (gateway.start config logging).system := by
  rw [Gateway.start_eq stopped]
  refine List.foldlRecOn (motive := fun gateway : Gateway Logger notifiers =>
    Owned gateway.node gateway.system) (createGateway config)
    (Gateway.startComponent config logging) owned ?_
  intro gateway owned component _
  obtain ⟨system, node⟩ := @start_component_system _ _ _ config logging gateway component
  rw [system, node]
  exact owned.start_component config component

theorem owned_stop (owned : Owned gateway.node gateway.system)
    (running : gateway.running = true) :
    Owned (gateway.stop config logging).node (gateway.stop config logging).system := by
  rw [Gateway.stop_eq running]
  refine List.foldlRecOn (motive := fun gateway : Gateway Logger notifiers =>
    Owned gateway.node gateway.system) (createGateway config).reverse
    (Gateway.stopComponent logging) owned ?_
  intro gateway owned component _
  obtain ⟨system, node⟩ := @stop_component_system _ _ _ logging gateway component
  rw [system, node]
  exact owned.stop_component component

theorem start_no_services (stopped : gateway.running = false)
    (bare : gateway.system.endpoints.services = []) (off : config.enableCommands = false) :
    (gateway.start config logging).system.endpoints.services = [] := by
  rw [Gateway.start_eq stopped, ← bare]
  have others : ∀ (gateway : Gateway Logger notifiers) (component : Component),
      component ≠ .commands →
      (Gateway.startComponent config logging gateway component).system.endpoints.services =
        gateway.system.endpoints.services := by
    intro gateway component other
    rw [(start_component_system gateway component).1]
    exact (start_component_elsewhere config gateway.node gateway.system other).services
  have absent : Component.commands ∉ createGateway config := by
    rw [mem_create_gateway, toggle, off]
    exact Bool.false_ne_true
  exact fold_others (fun gateway : Gateway Logger notifiers => gateway.system.endpoints.services)
    others absent gateway

theorem stop_no_services (running : gateway.running = true)
    (bare : config.enableCommands = false → gateway.system.endpoints.services = []) :
    (gateway.stop config logging).system.endpoints.services = [] := by
  rw [Gateway.stop_eq running]
  have stopped := @Gateway.stopped_part _ _ _ config logging _
    (fun gateway => gateway.system.endpoints.services) (fun _ => []) .commands
    (fun gateway => congrArg (fun system : System => system.endpoints.services)
      (stop_component_system gateway .commands).1)
    (fun gateway component other =>
      (congrArg (fun system : System => system.endpoints.services)
        (stop_component_system gateway component).1).trans
          (stop_component_elsewhere gateway.system other).services)
    gateway
  refine stopped.trans ?_
  cases enabled : toggle config .commands with
  | true => rfl
  | false => exact bare enabled

theorem host_step_frame (gateway : Gateway Logger notifiers) (event : HostEvent) :
    (gateway.hostStep config logging event).system = gateway.system ∧
      (gateway.hostStep config logging event).node = gateway.node ∧
      (gateway.hostStep config logging event).running = gateway.running ∧
      (gateway.hostStep config logging event).strategyPart = gateway.strategyPart := by
  have subscribed : gateway.subscribeNow.system = gateway.system ∧
      gateway.subscribeNow.node = gateway.node ∧
      gateway.subscribeNow.running = gateway.running ∧
      gateway.subscribeNow.strategyPart = gateway.strategyPart := by
    unfold Gateway.subscribeNow
    split
    · exact ⟨rfl, rfl, rfl, rfl⟩
    · split <;> exact ⟨rfl, rfl, rfl, rfl⟩
  cases event with
  | patchLoggers names =>
      unfold Gateway.hostStep
      dsimp only
      split <;> exact ⟨rfl, rfl, rfl, rfl⟩
  | startMarketEventsFw =>
      unfold Gateway.hostStep
      dsimp only
      split
      · exact subscribed
      · exact ⟨rfl, rfl, rfl, rfl⟩
  | strategyLoaded callback =>
      unfold Gateway.hostStep
      dsimp only
      split
      · split
        · exact subscribed
        · exact ⟨rfl, rfl, rfl, rfl⟩
      · exact ⟨rfl, rfl, rfl, rfl⟩

/-- A running gateway between its `start` and its `stop`. -/
structure Running (config : GatewayConfig) (logging : Logging Logger)
    (base : Surroundings Logger notifiers) (strategy : List Callback × Nat)
    (gateway : Gateway Logger notifiers) : Prop where
  running : gateway.running = true
  sides : Sides config logging base gateway
  owned : Owned gateway.node gateway.system
  bare : config.enableCommands = false → gateway.system.endpoints.services = []
  strategy : gateway.strategyPart = strategy

theorem Running.host_step {strategy : List Callback × Nat}
    (state : Running config logging base strategy gateway) (event : HostEvent) :
    Running config logging base strategy (gateway.hostStep config logging event) := by
  obtain ⟨system, node, running, kept⟩ := @host_step_frame _ _ _ config logging gateway event
  constructor
  · exact running.trans state.running
  · exact state.sides.host_step event
  · rw [system, node]
    exact state.owned
  · rw [system]
    exact state.bare
  · exact kept.trans state.strategy

/-- A gateway before its first `start` or after a `stop`. -/
structure Idle (config : GatewayConfig) (logging : Logging Logger)
    (base : Surroundings Logger notifiers) (gateway : Gateway Logger notifiers) : Prop where
  stopped : gateway.running = false
  cleared : Cleared base gateway
  strategy : StrategySide config base gateway.strategyPart
  owned : Owned gateway.node gateway.system
  bare : gateway.system.endpoints.services = []

omit [DecidableEq Logger] in
theorem idle_fresh (config : GatewayConfig) (logging : Logging Logger)
    (base : Surroundings Logger notifiers) :
    Idle config logging base (Gateway.fresh base) where
  stopped := rfl
  cleared := ⟨rfl, rfl, rfl, rfl, rfl, rfl, rfl⟩
  strategy := (sides_fresh config logging base).strategy
  owned := owned_fresh
  bare := rfl

/-- A cycle ends as it began, but for the closure that its `start` made. -/
theorem Idle.cycle (idle : Idle config logging base gateway) (events : List HostEvent) :
    Idle config logging base (cycle config logging gateway events) ∧
      (StopUndoes.cycle config logging gateway events).closures =
        gateway.closures + if config.enableEvents then 1 else 0 := by
  have started : Running config logging base (gateway.start config logging).strategyPart
      (gateway.start config logging) :=
    ⟨Gateway.start_running gateway,
      (idle.cleared.sides idle.stopped idle.strategy).start idle.stopped,
      owned_start idle.owned idle.stopped, start_no_services idle.stopped idle.bare, rfl⟩
  have state : Running config logging base (gateway.start config logging).strategyPart
      (events.foldl (Gateway.hostStep config logging) (gateway.start config logging)) :=
    List.foldlRecOn events (Gateway.hostStep config logging) started
      fun gateway state event _ => state.host_step event
  have sides := state.sides.stop state.running
  constructor
  · exact ⟨Gateway.stop_running _, state.sides.cleared state.running, sides.strategy,
      owned_stop state.owned state.running, stop_no_services state.running state.bare⟩
  · have made : (gateway.start config logging).strategyPart =
        if config.enableEvents then
          (gateway.adapter.strategyLoadedCallbacks ++ [.onStrategyLoaded gateway.closures],
            gateway.closures + 1)
        else gateway.strategyPart := by
      rw [Gateway.start_eq idle.stopped]
      exact @Gateway.start_strategy_part _ _ _ config logging gateway
    have kept : (StopUndoes.cycle config logging gateway events).strategyPart =
        (gateway.start config logging).strategyPart := by
      unfold StopUndoes.cycle
      rw [Gateway.stop_eq state.running]
      exact (@Gateway.stop_strategy_part _ _ _ config logging _).trans state.strategy
    have counted := congrArg Prod.snd (kept.trans made)
    refine counted.trans ?_
    cases config.enableEvents with
    | true => rfl
    | false => rfl

theorem idle_after (config : GatewayConfig) (logging : Logging Logger)
    (base : Surroundings Logger notifiers) (cycles : List (List HostEvent)) :
    Idle config logging base (afterCycles config logging base cycles) ∧
      (afterCycles config logging base cycles).closures =
        if config.enableEvents then cycles.length else 0 := by
  induction cycles using List.reverseRecOn with
  | nil => exact ⟨idle_fresh config logging base, by cases config.enableEvents <;> rfl⟩
  | append_singleton cycles events induction =>
      obtain ⟨idle, closures⟩ := induction
      have last : afterCycles config logging base (cycles ++ [events]) =
          cycle config logging (afterCycles config logging base cycles) events := by
        simp [afterCycles]
      obtain ⟨next, counted⟩ := idle.cycle events
      rw [last]
      refine ⟨next, ?_⟩
      rw [counted, closures]
      cases config.enableEvents with
      | true => simp
      | false => simp

omit [DecidableEq Logger] in
/-- Everything is as before the first `start` when no closure was made since. -/
theorem Idle.restored_iff (idle : Idle config logging base gateway) :
    Restored (.fresh base) gateway ↔ gateway.closures = 0 := by
  have callbacks : gateway.adapter.strategyLoadedCallbacks =
      base.strategyLoadedCallbacks.map .other ++
        (List.range gateway.closures).map .onStrategyLoaded := idle.strategy.1
  constructor
  · intro restored
    have adapter := congrArg AppAdapter.strategyLoadedCallbacks restored.adapter
    rw [callbacks] at adapter
    have no_closure : (List.range gateway.closures).map Callback.onStrategyLoaded = [] := by
      simpa [Gateway.fresh] using adapter
    simpa using no_closure
  · intro no_closure
    constructor
    · rw [idle.cleared.log]
      rfl
    · rw [no_closure, List.range_zero, List.map_nil, List.append_nil] at callbacks
      have market := idle.cleared.market
      have status := idle.cleared.status
      cases adapter : gateway.adapter with
      | mk marketEvents statusListeners strategyLoaded =>
          rw [adapter] at market status callbacks
          subst market status callbacks
          rfl
    · exact idle.cleared.notifier
    · have covered := idle.owned.covered
      rw [idle.bare] at covered
      exact covered.table_empty
    · exact idle.cleared.endpoints

/-- After each `stop` everything is as before the first `start`, exactly when
market events are disabled or there was no cycle at all. -/
theorem cycles_restore_iff (config : GatewayConfig) (logging : Logging Logger)
    (base : Surroundings Logger notifiers) (cycles : List (List HostEvent)) :
    (∀ done, done <+: cycles →
        Restored (.fresh base) (afterCycles config logging base done)) ↔
      config.enableEvents = false ∨ cycles = [] := by
  constructor
  · intro restored
    obtain ⟨idle, closures⟩ := idle_after config logging base cycles
    have no_closure := idle.restored_iff.mp (restored cycles List.prefix_rfl)
    rw [closures] at no_closure
    cases enabled : config.enableEvents with
    | false => exact .inl rfl
    | true =>
        rw [enabled, if_pos rfl] at no_closure
        exact .inr (List.length_eq_zero_iff.mp no_closure)
  · intro either done earlier
    obtain ⟨idle, closures⟩ := idle_after config logging base done
    apply idle.restored_iff.mpr
    rw [closures]
    rcases either with disabled | none_made
    · rw [disabled, if_neg Bool.false_ne_true]
    · rw [none_made] at earlier
      rw [List.prefix_nil.mp earlier, List.length_nil, ite_self]

/-- One cycle of a gateway that is left alone leaves its callback with the adapter. -/
theorem one_cycle_leaves_callback :
    ¬ ∀ done, done <+: [[]] → Restored (.fresh bareHost) (afterCycles {} plainLogging bareHost done) := by
  intro restored
  have adapter := (restored [[]] List.prefix_rfl).adapter
  have left : (afterCycles {} plainLogging bareHost [[]]).adapter.strategyLoadedCallbacks =
      [.onStrategyLoaded 0] := by
    decide
  rw [adapter] at left
  cases left

end RemoteIface.HbCompat.StopUndoes
