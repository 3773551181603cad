import RemoteIface.Commlib.CommandTable
import RemoteIface.Gateway.Wiring

/-!
The topics of a gateway whose components have been started once: those it
publishes on, and the keys of its two tables. They are built from one namespace
by independent components, and whether they are disjoint is a question about
the toggles and the namespace only.
-/

namespace RemoteIface.Gateway.TopicTables

set_option autoImplicit false

open RemoteIface.Library.InsertionOrder
open RemoteIface.Commlib.Payload
open RemoteIface.Commlib.Topic
open RemoteIface.Commlib.Endpoints
open RemoteIface.Commlib.Subscriptions
open RemoteIface.Commlib.Handles
open RemoteIface.Commlib.CommandTable
open RemoteIface.Protocols.Messages
open RemoteIface.Gateway.Wiring

def componentCalls (config : GatewayConfig) : Component → List (RegistryCall Instance)
  | .commands => allCommands.map fun command =>
      .createRpc (commandTopic config command) command.request.msgType (commandHandler command)
  | .publishing role =>
      if role.component.enabled config then [.createPublisher (publisherTopic config role)] else []
  | .externalEvents =>
      if config.enableExternalEvents then
        [.createSubscriber externalFilter externalDispatch (some externalEventMessage.msgType)]
      else []

theorem registry_call {system : System} {id : ContextNumber} (known : id < system.contexts.length)
    (call : RegistryCall Instance) :
    (system.call id call).registry id = (system.registry id).perform call := by
  simp [System.registry, System.call, System.onContext, List.getElem?_eq_getElem known,
    RemoteIface.Commlib.Dispatch.Router.perform]

theorem start_component_registry (config : GatewayConfig) {id : ContextNumber} {system : System}
    (known : id < system.contexts.length) (component : Component) :
    (system.startComponent config id component).registry id =
        (system.registry id).performAll (componentCalls config component) ∧
      id < (system.startComponent config id component).contexts.length := by
  cases component with
  | commands =>
      have general : ∀ commands : List Command, ∀ system : System, id < system.contexts.length →
          (commands.foldl (System.createCommand config id) system).registry id =
              (system.registry id).performAll (commands.map fun command =>
                .createRpc (commandTopic config command) command.request.msgType
                  (commandHandler command)) ∧
            id < (commands.foldl (System.createCommand config id) system).contexts.length := by
        intro commands
        induction commands with
        | nil => exact fun system known => ⟨rfl, known⟩
        | cons command rest induction =>
            intro system known
            have known_next : id < (System.createCommand config id system command).contexts.length := by
              simpa [System.createCommand, System.hold, System.call, System.onContext] using known
            obtain ⟨registry, later⟩ := induction _ known_next
            refine ⟨registry.trans ?_, later⟩
            exact congrArg (fun registry : Registry Instance => registry.performAll _)
              (registry_call known _)
      exact general allCommands system known
  | publishing role =>
      simp only [System.startComponent, System.startPublishing, componentCalls]
      split
      · exact ⟨registry_call known _,
          by simpa [System.hold, System.call, System.onContext] using known⟩
      · exact ⟨rfl, known⟩
  | externalEvents =>
      simp only [System.startComponent, System.startExternalEvents, componentCalls]
      split
      · exact ⟨registry_call known _,
          by simpa [System.hold, System.call, System.onContext] using known⟩
      · exact ⟨rfl, known⟩

theorem start_components_registry (config : GatewayConfig) {id : ContextNumber} {system : System}
    (known : id < system.contexts.length) :
    (system.startComponents config id).registry id =
      (system.registry id).performAll ((createGateway config).flatMap (componentCalls config)) := by
  unfold System.startComponents
  generalize createGateway config = components
  induction components generalizing system with
  | nil => rfl
  | cons component rest induction =>
      obtain ⟨registry, later⟩ := start_component_registry config known component
      rw [List.foldl_cons, induction later, registry, List.flatMap_cons, Registry.performAll,
        Registry.performAll, Registry.performAll, List.foldl_append]

def startedRegistry (config : GatewayConfig) : Registry Instance :=
  (System.fresh.startComponents config 0).registry 0

def startCalls (config : GatewayConfig) : List (RegistryCall Instance) :=
  (createGateway config).flatMap (componentCalls config)

theorem started_registry_eq (config : GatewayConfig) :
    startedRegistry config = Registry.empty.performAll (startCalls config) :=
  start_components_registry config (by simp [System.fresh])

def Creates : RegistryCall Instance → Prop
  | .createPublisher _ => True
  | .createSubscriber _ _ _ => True
  | .createRpc _ _ _ => True
  | _ => False

theorem start_calls_create (config : GatewayConfig) :
    ∀ call ∈ startCalls config, Creates call := by
  intro call member
  obtain ⟨component, _, here⟩ := List.mem_flatMap.mp member
  cases component with
  | commands =>
      obtain ⟨command, _, rfl⟩ := List.mem_map.mp here
      trivial
  | publishing role =>
      simp only [componentCalls] at here
      split at here
      · rw [List.mem_singleton.mp here]
        trivial
      · cases here
  | externalEvents =>
      simp only [componentCalls] at here
      split at here
      · rw [List.mem_singleton.mp here]
        trivial
      · cases here

theorem after_calls_iff (property : Registry Instance → Prop)
    (brings : RegistryCall Instance → Prop) {calls : List (RegistryCall Instance)}
    (each : ∀ registry, ∀ call ∈ calls,
      (property (registry.perform call) ↔ property registry ∨ brings call))
    (registry : Registry Instance) :
    property (registry.performAll calls) ↔ property registry ∨ ∃ call ∈ calls, brings call := by
  induction calls generalizing registry with
  | nil => simp [Registry.performAll]
  | cons call rest induction =>
      have later := induction (fun registry other member =>
        each registry other (List.mem_cons_of_mem _ member)) (registry.perform call)
      have unfolded : registry.performAll (call :: rest) =
          (registry.perform call).performAll rest := rfl
      rw [unfolded, later, each registry call List.mem_cons_self, or_assoc]
      simp

theorem started_topics (publishers : List Publisher) (id : PublisherId) :
    (publishers.modify id fun publisher => { publisher with started := true }).map
      Publisher.topic = publishers.map Publisher.topic :=
  map_modify_same Publisher.topic fun _ => rfl

theorem created_publisher_topics (registry : Registry Instance) (topic : String) :
    (registry.createPublisher topic).publishers.map Publisher.topic =
      registry.publishers.map Publisher.topic ++ [topic] := by
  simp [Registry.createPublisher, Registry.startPublisher,
    started_topics _ registry.publishers.length]

theorem created_publisher_iff (registry : Registry Instance) {call : RegistryCall Instance}
    (creates : Creates call) (topic : String) :
    topic ∈ (registry.perform call).publishers.map Publisher.topic ↔
      topic ∈ registry.publishers.map Publisher.topic ∨ call = .createPublisher topic := by
  cases call with
  | createPublisher made =>
      rw [Registry.perform, created_publisher_topics, List.mem_append, List.mem_singleton]
      simp [eq_comm]
  | createSubscriber filter onMessage msgType =>
      have same : (registry.createSubscriber filter onMessage msgType).publishers =
          registry.publishers := Registry.start_subscriber_publishers _ _
      simp [Registry.perform, same]
  | createRpc rpcName msgType onRequest =>
      have same : (registry.createRpc rpcName msgType onRequest).publishers =
          registry.publishers := Registry.start_rpc_publishers _ _
      simp [Registry.perform, same]
  | _ => exact creates.elim

theorem created_command_iff (registry : Registry Instance) {call : RegistryCall Instance}
    (creates : Creates call) (topic : String) :
    topic ∈ (registry.perform call).commandTable.keys ↔
      topic ∈ registry.commandTable.keys ∨
        ∃ msgType onRequest, call = .createRpc topic msgType onRequest := by
  cases call with
  | createPublisher made => simp [Registry.perform, Registry.createPublisher, Registry.startPublisher]
  | createSubscriber filter onMessage msgType =>
      have same : (registry.createSubscriber filter onMessage msgType).commandTable =
          registry.commandTable := Registry.start_subscriber_command_table _ _
      simp [Registry.perform, same]
  | createRpc rpcName msgType onRequest =>
      rw [Registry.perform, (create_rpc_table registry rpcName msgType onRequest).2,
        OrderedDict.mem_keys_set, or_comm]
      simp [eq_comm]
  | _ => exact creates.elim

theorem created_table (registry : Registry Instance) (filter : String) (onMessage : CallbackId)
    (msgType : Option (MsgType Instance)) :
    (registry.createSubscriber filter onMessage msgType).subCallbacks =
      registry.subCallbacks.set filter
        (registry.callbacksOn filter ++ [registry.subscribers.length]) := by
  simp [Registry.createSubscriber, Registry.startSubscriber, Registry.callbacksOn]

theorem created_filter_iff (registry : Registry Instance) {call : RegistryCall Instance}
    (creates : Creates call) (topic : String) :
    topic ∈ (registry.perform call).subCallbacks.keys ↔
      topic ∈ registry.subCallbacks.keys ∨
        ∃ onMessage msgType, call = .createSubscriber topic onMessage msgType := by
  cases call with
  | createPublisher made => simp [Registry.perform, Registry.createPublisher, Registry.startPublisher]
  | createSubscriber filter onMessage msgType =>
      rw [Registry.perform, created_table, OrderedDict.mem_keys_set, or_comm]
      simp [eq_comm]
  | createRpc rpcName msgType onRequest => simp [Registry.perform]
  | _ => exact creates.elim

def toggle (config : GatewayConfig) : Component → Bool
  | .commands => config.enableCommands
  | .publishing role => role.component.enabled config
  | .externalEvents => config.enableExternalEvents

theorem mem_create_gateway (config : GatewayConfig) (component : Component) :
    component ∈ createGateway config ↔ toggle config component = true := by
  cases component with
  | commands => simp [createGateway, toggle]
  | externalEvents => simp [createGateway, toggle]
  | publishing role =>
      cases role with
      | notifier => simp [createGateway, toggle, Role.component, mqttNotifier]
      | statusUpdates => simp [createGateway, toggle, Role.component, mqttStatusUpdates]
      | marketEvents => simp [createGateway, toggle, Role.component, mqttMarketEventForwarder]
      | logHandler => simp [createGateway, toggle, Role.component, mqttLogHandler]

theorem mem_all_commands (command : Command) : command ∈ allCommands := by
  cases command <;> decide

theorem publisher_call_iff (config : GatewayConfig) (topic : String) :
    .createPublisher topic ∈ startCalls config ↔
      ∃ role, role.component.enabled config = true ∧ topic = publisherTopic config role := by
  unfold startCalls
  rw [List.mem_flatMap]
  constructor
  · rintro ⟨component, _, call⟩
    cases component with
    | commands => simp [componentCalls] at call
    | externalEvents =>
        simp only [componentCalls] at call
        split at call <;> simp at call
    | publishing role =>
        simp only [componentCalls] at call
        split at call
        · rename_i enabled
          exact ⟨role, enabled, by simpa using call⟩
        · simp at call
  · rintro ⟨role, enabled, rfl⟩
    exact ⟨.publishing role, (mem_create_gateway config _).mpr enabled,
      by simp [componentCalls, enabled]⟩

theorem command_call_iff (config : GatewayConfig) (topic : String) :
    (∃ msgType onRequest, .createRpc topic msgType onRequest ∈ startCalls config) ↔
      config.enableCommands = true ∧ ∃ command, topic = commandTopic config command := by
  unfold startCalls
  constructor
  · rintro ⟨msgType, onRequest, member⟩
    obtain ⟨component, registered, call⟩ := List.mem_flatMap.mp member
    cases component with
    | commands =>
        obtain ⟨command, _, same⟩ := List.mem_map.mp call
        cases same
        exact ⟨(mem_create_gateway config _).mp registered, command, rfl⟩
    | externalEvents =>
        simp only [componentCalls] at call
        split at call <;> simp at call
    | publishing role =>
        simp only [componentCalls] at call
        split at call <;> simp at call
  · rintro ⟨enabled, command, rfl⟩
    refine ⟨command.request.msgType, commandHandler command, List.mem_flatMap.mpr
      ⟨.commands, (mem_create_gateway config _).mpr enabled, ?_⟩⟩
    exact List.mem_map_of_mem (mem_all_commands command)

theorem filter_call_iff (config : GatewayConfig) (topic : String) :
    (∃ onMessage msgType, .createSubscriber topic onMessage msgType ∈ startCalls config) ↔
      config.enableExternalEvents = true ∧ topic = externalFilter := by
  unfold startCalls
  constructor
  · rintro ⟨onMessage, msgType, member⟩
    obtain ⟨component, _, call⟩ := List.mem_flatMap.mp member
    cases component with
    | commands => simp [componentCalls] at call
    | externalEvents =>
        simp only [componentCalls] at call
        split at call
        · rename_i enabled
          simp only [List.mem_singleton, RegistryCall.createSubscriber.injEq] at call
          exact ⟨enabled, call.1⟩
        · simp at call
    | publishing role =>
        simp only [componentCalls] at call
        split at call <;> simp at call
  · rintro ⟨enabled, rfl⟩
    exact ⟨externalDispatch, some externalEventMessage.msgType, List.mem_flatMap.mpr
      ⟨.externalEvents, (mem_create_gateway config _).mpr enabled, by simp [componentCalls, enabled]⟩⟩

theorem started_publisher_iff (config : GatewayConfig) (topic : String) :
    topic ∈ (startedRegistry config).publishers.map Publisher.topic ↔
      ∃ role, role.component.enabled config = true ∧ topic = publisherTopic config role := by
  rw [started_registry_eq, ← publisher_call_iff]
  refine (after_calls_iff (fun registry => topic ∈ registry.publishers.map Publisher.topic)
    (fun call => call = .createPublisher topic) ?_ .empty).trans ?_
  · exact fun registry call member =>
      created_publisher_iff registry (start_calls_create config call member) topic
  · simp [Registry.empty]

theorem started_command_iff (config : GatewayConfig) (topic : String) :
    topic ∈ (startedRegistry config).commandTable.keys ↔
      config.enableCommands = true ∧ ∃ command, topic = commandTopic config command := by
  rw [started_registry_eq, ← command_call_iff]
  refine (after_calls_iff (fun registry => topic ∈ registry.commandTable.keys)
    (fun call => ∃ msgType onRequest, call = .createRpc topic msgType onRequest) ?_ .empty).trans ?_
  · exact fun registry call member =>
      created_command_iff registry (start_calls_create config call member) topic
  · constructor
    · rintro (nothing | ⟨call, member, msgType, onRequest, rfl⟩)
      · simp [Registry.empty] at nothing
      · exact ⟨msgType, onRequest, member⟩
    · rintro ⟨msgType, onRequest, member⟩
      exact .inr ⟨_, member, msgType, onRequest, rfl⟩

theorem started_filter_iff (config : GatewayConfig) (topic : String) :
    topic ∈ (startedRegistry config).subCallbacks.keys ↔
      config.enableExternalEvents = true ∧ topic = externalFilter := by
  rw [started_registry_eq, ← filter_call_iff]
  refine (after_calls_iff (fun registry => topic ∈ registry.subCallbacks.keys)
    (fun call => ∃ onMessage msgType, call = .createSubscriber topic onMessage msgType)
    ?_ .empty).trans ?_
  · exact fun registry call member =>
      created_filter_iff registry (start_calls_create config call member) topic
  · constructor
    · rintro (nothing | ⟨call, member, onMessage, msgType, rfl⟩)
      · simp [Registry.empty] at nothing
      · exact ⟨onMessage, msgType, member⟩
    · rintro ⟨onMessage, msgType, member⟩
      exact .inr ⟨_, member, onMessage, msgType, rfl⟩

theorem topic_eq_iff (config : GatewayConfig) (role : Role) (command : Command) :
    publisherTopic config role = commandTopic config command ↔
      role = .statusUpdates ∧ command = .status := by
  unfold publisherTopic commandTopic
  rw [String.append_right_inj]
  cases role <;> cases command <;> decide

def lastLevel : Role → Segment
  | .notifier => "notify".toList
  | .statusUpdates => "status".toList
  | .marketEvents => "market-events".toList
  | .logHandler => "log".toList

theorem publisher_segments (config : GatewayConfig) (role : Role) :
    segments (publisherTopic config role) = segments config.botNamespace ++ [lastLevel role] := by
  have suffix : role.component.suffix.toList = '/' :: lastLevel role := by
    cases role <;> decide
  have flat : '/' ∉ lastLevel role := by
    cases role <;> decide
  unfold segments publisherTopic
  rw [String.toList_append, suffix, List.splitOn_append_cons_self, List.splitOn_eq_singleton flat]

/-- A filter of a literal level and a `+` matches one level below the first. -/
theorem one_level_match_iff {literal : Segment} (notHash : literal ≠ hash)
    (notPlus : literal ≠ plus) (levels : List Segment) (last : Segment) :
    segmentsMatch [literal, plus] (levels ++ [last]) = true ↔ levels = [literal] := by
  have plusNotHash : plus ≠ hash := by decide
  cases levels with
  | nil => simp [segmentsMatch, notHash, plusNotHash]
  | cons level rest =>
      cases rest with
      | nil => simp [segmentsMatch, notHash, notPlus, plusNotHash, eq_comm]
      | cons second others => simp [segmentsMatch, notHash, plusNotHash]

theorem external_filter_matches_iff (config : GatewayConfig) (role : Role) :
    topicMatches externalFilter (publisherTopic config role) = true ↔
      config.botNamespace = "external" := by
  have wild : hasWildcard externalFilter = true := by decide
  have parts : segments externalFilter = ["external".toList, plus] := by decide
  unfold topicMatches
  rw [wild, parts, publisher_segments, if_neg (by decide),
    one_level_match_iff (by decide) (by decide)]
  constructor
  · intro one
    have joined := congrArg (List.intercalate ['/']) one
    rw [segments, List.intercalate_splitOn] at joined
    exact String.toList_inj.mp (by simpa using joined)
  · intro same
    rw [same]
    decide

/-- No publisher's topic is a command or is matched by the filter of the
external events. -/
def TopicsDisjoint (config : GatewayConfig) : Prop :=
  ∀ topic ∈ (startedRegistry config).publishers.map Publisher.topic,
    topic ∉ (startedRegistry config).commandTable.keys ∧
    ∀ filter ∈ (startedRegistry config).subCallbacks.keys, topicMatches filter topic = false

/-- The condition on the toggles and the namespace: not both owners of the
status topic, and nothing published under the filter of the external events. -/
def Separate (config : GatewayConfig) : Prop :=
  ¬ (config.enableCommands = true ∧ config.enableStatusUpdates = true) ∧
  ¬ (config.botNamespace = "external" ∧ config.enableExternalEvents = true ∧
    ∃ role : Role, role.component.enabled config = true)

theorem topics_disjoint_iff (config : GatewayConfig) :
    TopicsDisjoint config ↔ Separate config := by
  constructor
  · intro disjoint
    refine ⟨?_, ?_⟩
    · rintro ⟨commands, updates⟩
      have published := (started_publisher_iff config _).mpr ⟨.statusUpdates, updates, rfl⟩
      refine (disjoint _ published).1 ((started_command_iff config _).mpr ⟨commands, .status, ?_⟩)
      exact (topic_eq_iff config .statusUpdates .status).mpr ⟨rfl, rfl⟩
    · rintro ⟨external, events, role, enabled⟩
      have published := (started_publisher_iff config _).mpr ⟨role, enabled, rfl⟩
      have key := (started_filter_iff config externalFilter).mpr ⟨events, rfl⟩
      have matched := (external_filter_matches_iff config role).mpr external
      rw [(disjoint _ published).2 _ key] at matched
      cases matched
  · rintro ⟨commandsApart, eventsApart⟩ topic published
    obtain ⟨role, enabled, rfl⟩ := (started_publisher_iff config topic).mp published
    refine ⟨?_, ?_⟩
    · intro key
      obtain ⟨commands, command, same⟩ := (started_command_iff config _).mp key
      obtain ⟨rfl, _⟩ := (topic_eq_iff config role command).mp same
      exact commandsApart ⟨commands, enabled⟩
    · intro filter key
      obtain ⟨events, rfl⟩ := (started_filter_iff config filter).mp key
      rw [Bool.eq_false_iff]
      intro matched
      exact eventsApart
        ⟨(external_filter_matches_iff config role).mp matched, events, role, enabled⟩

end RemoteIface.Gateway.TopicTables
