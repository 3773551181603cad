import RemoteIface.Library.Runs
import RemoteIface.Gateway.Confinement

/-!
Whether a gateway executes its own messages when the broker sends them back. A
reply never is: its `status` is no field of a request and its `header` no field
of an external event. A publication is when its topic is a command or lies under
the filter of the external events, and the namespace and the toggles decide that.
-/

namespace RemoteIface.Gateway.Loopback

set_option autoImplicit false

open RemoteIface.Library.Runs
open RemoteIface.Library.InsertionOrder
open RemoteIface.Commlib RemoteIface.Gateway
open RemoteIface.Commlib.Payload
open RemoteIface.Commlib.Topic
open RemoteIface.Commlib.Endpoints
open RemoteIface.Commlib.Rpc
open RemoteIface.Commlib.Dispatch
open RemoteIface.Commlib.Subscriptions
open RemoteIface.Commlib.Connection
open RemoteIface.Commlib.NodeContext
open RemoteIface.Protocols.Messages
open RemoteIface.Gateway.Wiring
open RemoteIface.Gateway.TopicTables
open RemoteIface.Gateway.Traffic
open RemoteIface.Gateway.Confinement

/-- Over every run, no message of the gateway that comes back is handed to an
RPC handler or to the callback of the external events. -/
def NeverConsumesOwn (config : GatewayConfig) : Prop :=
  ∀ (events : List Traffic.Event) (exchange : Exchange),
    Guarded (Exchange.step config) (fun _ event => ByHost event) .fresh events →
    run (Exchange.step config) .fresh events = some exchange →
    ∀ (id : ContextNumber) (ctx next : Context Instance Response) (session : SessionId)
      (message : Message) (callbacks : Callbacks Instance),
      exchange.system.contexts[id]? = some ctx → exchange.Echoes message →
      ctx.received session message callbacks = some next → ¬ Executes ctx next

/-- An edge call ran the `on_message` of a listed subscriber on what hydration
made of the payload. -/
theorem call_edges_origin {callbacks : Callbacks Instance} {raw : Json} {topic : String}
    {ids : List SubscriberId} {registry : Registry Instance} {call : EdgeCall Instance}
    {handled : CallbackId × Delivered Instance}
    (member : call ∈ (callEdges callbacks raw topic ids registry).2)
    (ran : call.onMessage = some handled) :
    ∃ id ∈ ids, ∃ subscriber, registry.subscribers[id]? = some subscriber ∧
      subscriber.onMessage = handled.1 ∧ edgeMessage subscriber.msgType raw = .ok handled.2 := by
  rw [Delivery.call_edges_calls] at member
  obtain ⟨id, inside, here⟩ := List.mem_flatMap.mp member
  unfold edgeCallback at here
  split at here
  · cases here
  · rename_i subscriber stored
    split at here
    · rw [List.mem_singleton.mp here] at ran
      cases ran
    · rename_i delivered hydrated
      rw [List.mem_singleton.mp here] at ran
      cases ran
      exact ⟨id, inside, subscriber, stored, rfl, hydrated⟩

theorem winner_topic {registry : Registry Instance} {topic filter : String}
    {listed : List SubscriberId} {id : SubscriberId} {subscriber : Subscriber Instance}
    (tracked : ∃ log, Tracks log registry)
    (best : bestEntry registry topic = some (filter, listed)) (inside : id ∈ listed)
    (stored : registry.subscribers[id]? = some subscriber) :
    topicMatches subscriber.topic topic = true := by
  obtain ⟨log, tracks⟩ := tracked
  obtain ⟨onFilter, matched, _⟩ := Delivery.best_entry_splits best
  rw [tracks.lists, StartLog.startedOn] at onFilter
  rw [← onFilter, List.mem_filter] at inside
  have same : log.filters[id]? = some filter := by simpa using inside.2
  rw [tracks.filter_of stored] at same
  cases same
  exact matched

theorem routed_cases {config : GatewayConfig} {ctx : Context Instance Response} {topic : String}
    {callbacks : Callbacks Instance} {data : Json} (kept : Kept config ctx)
    (executes : Executes ctx
      { ctx with router := routeMessage callbacks ctx.router topic data }) :
    (∃ msgType decoded, ServesCommand config topic msgType ∧
      msgType.hydrate (dataOf data) = .ok decoded) ∨
    (config.enableExternalEvents = true ∧ topicMatches externalFilter topic = true ∧
      ∃ delivered, edgeMessage (some externalEventMessage.msgType) data = .ok delivered) := by
  unfold Executes routeMessage at executes
  split at executes
  · rename_i msgType service entry
    rcases executes with ⟨request, executor, decoded, appended, queued⟩ | ⟨calls, same, call, inside, _⟩
    · have request_eq := List.singleton_inj.mp (List.append_cancel_left appended)
      have accepted : ∀ error, (dispatchRpc ctx.router.registry topic data msgType service :
          Request Instance Response).work ≠ .rejected error := by
        intro error rejected
        rw [request_eq, queued] at rejected
        cases rejected
      obtain ⟨⟨hydrated, ok⟩, _⟩ := Replies.dispatch_rpc_accepted accepted
      exact .inl ⟨msgType, hydrated, kept.fenced.commands topic msgType service entry, ok⟩
    · have nothing := List.self_eq_append_right.mp same
      rw [nothing] at inside
      cases inside
  · split at executes
    · rcases executes with ⟨request, _, _, appended, _⟩ | ⟨calls, same, call, inside, _⟩
      · have nothing := List.self_eq_append_right.mp appended
        cases nothing
      · have nothing := List.self_eq_append_right.mp same
        rw [nothing] at inside
        cases inside
    · rename_i filter listed best
      rcases executes with ⟨request, _, _, appended, _⟩ |
        ⟨calls, same, call, inside, delivered, ran⟩
      · have nothing := List.self_eq_append_right.mp appended
        cases nothing
      · rw [← List.append_cancel_left same] at inside
        obtain ⟨id, member, subscriber, stored, owner, hydrated⟩ := call_edges_origin inside ran
        have matched := winner_topic kept.tracked best member stored
        obtain ⟨enabled, filterEq, typeEq⟩ :=
          kept.fenced.listeners subscriber (List.mem_of_getElem? stored) owner
        rw [filterEq] at matched
        rw [typeEq] at hydrated
        exact .inr ⟨enabled, matched, delivered, hydrated⟩

/-- What an executed message went through: an RPC service on its topic that
could decode it, or a subscriber of the external events whose filter matches. -/
theorem executes_cases {config : GatewayConfig} {ctx next : Context Instance Response}
    {session : SessionId} {message : Message} {callbacks : Callbacks Instance} {data : Json}
    (kept : Kept config ctx) (payload : message.payload = .value data)
    (taken : ctx.received session message callbacks = some next) (executes : Executes ctx next) :
    (∃ msgType decoded, ServesCommand config message.topic msgType ∧
      msgType.hydrate (dataOf data) = .ok decoded) ∨
    (config.enableExternalEvents = true ∧ topicMatches externalFilter message.topic = true ∧
      ∃ delivered, edgeMessage (some externalEventMessage.msgType) data = .ok delivered) := by
  obtain ⟨client, drain, _, passed | failed⟩ := Context.received_cases taken
  · obtain ⟨router, dispatched, rfl⟩ := passed
    unfold dispatchIncoming at dispatched
    rw [payload] at dispatched
    cases dispatched
    exact routed_cases kept executes
  · obtain ⟨error, raised, _⟩ := failed
    rw [payload] at raised
    cases raised

theorem reply_not_decoded (now : Int) {response : Response} {body : Json}
    (serialized : Response.serialize response = .ok body) :
    (∀ command : Command, ∀ decoded,
      command.request.msgType.hydrate (dataOf (wrapResponse now body)) ≠ .ok decoded) ∧
    ∀ delivered, edgeMessage (some externalEventMessage.msgType) (wrapResponse now body) ≠
      .ok delivered := by
  refine ⟨fun command decoded hydrated => ?_, fun delivered hydrated => ?_⟩
  · obtain ⟨entries, rfl, keys⟩ := serialize_keys serialized
    have status : "status" ∈ entries.map Prod.fst := by
      rw [keys]
      exact response_has_status response.command
    have whole : dataOf (wrapResponse now (.obj entries)) = .obj entries := by
      have some_entry : entries.isEmpty = false := by
        cases entries with
        | nil => cases status
        | cons _ _ => rfl
      simp [dataOf, wrapResponse, Json.getOr, lookupEntry, Json.orEmpty, Json.truthy, some_entry]
    rw [whole, hydrate_error_of_key status (request_lacks_status command)] at hydrated
    cases hydrated
  · have refused : externalEventMessage.msgType.hydrate (wrapResponse now body) =
        .error typeError :=
      @hydrate_error_of_key externalEventMessage _ "header" (by simp) (by decide)
    unfold edgeMessage wrapResponse at hydrated
    unfold wrapResponse at refused
    dsimp only at hydrated
    rw [refused] at hydrated
    cases hydrated

theorem never_consumes_own {config : GatewayConfig} (separate : Separate config) :
    NeverConsumesOwn config := by
  intro events exchange byHost reached id ctx next session message callbacks stored echoes taken
    executes
  have contained : Contained config exchange :=
    run_preserves (Exchange.step config)
      (fun _ _ _ contained met taken => contained_step contained met taken)
      (contained_fresh config) byHost reached
  have kept := contained.system.contexts ctx (List.mem_of_getElem? stored)
  obtain ⟨item, sent, on_topic, payload⟩ := echoes
  have through := executes_cases kept payload taken executes
  rcases List.mem_append.mp sent with own | reply
  · obtain ⟨role, enabled, published, _⟩ := contained.own item own
    rw [on_topic] at published
    have topic : message.topic = publisherTopic config role := Json.str.inj published
    rcases through with ⟨_, _, ⟨commands, command, named, _⟩, _⟩ | ⟨events, matched, _⟩
    · obtain ⟨rfl, _⟩ := (topic_eq_iff config role command).mp (topic.symm.trans named)
      exact separate.1 ⟨commands, enabled⟩
    · rw [topic, external_filter_matches_iff] at matched
      exact separate.2 ⟨matched, events, role, enabled⟩
  · obtain ⟨other, member, replied⟩ := List.mem_flatMap.mp reply
    obtain ⟨entry, inside, rfl⟩ := List.mem_map.mp replied
    obtain ⟨now, response, body, serialized, same⟩ :=
      (contained.system.contexts other member).replies entry inside
    obtain ⟨noCommand, noEvent⟩ := reply_not_decoded now serialized
    rw [same] at through
    rcases through with ⟨_, decoded, ⟨_, command, _, rfl⟩, hydrated⟩ | ⟨_, _, delivered, hydrated⟩
    · exact noCommand command decoded hydrated
    · exact noEvent delivered hydrated

/-- A gateway never consumes its own publications, exactly when its commands and
its status updates are not both enabled and none of its publishers is under the
filter of its external events. -/
theorem own_messages_unconsumed_iff_separate (config : GatewayConfig) :
    (TopicsDisjoint config ∧ NeverConsumesOwn config) ↔ Separate config := by
  constructor
  · exact fun both => (topics_disjoint_iff config).mp both.1
  · exact fun separate => ⟨(topics_disjoint_iff config).mpr separate, never_consumes_own separate⟩

/-- A status push of the host: what `_on_status_event` makes of it. -/
def statusPush : String → Option Json
  | "timestamp" => some (.int 0)
  | "type" => some (.str "hbapp")
  | "msg" => some (.str "up")
  | _ => none

def pushRun : List Traffic.Event :=
  [.inside 0 (.wire .start), .inside 0 (.wire (.iterated true)), .inside 0 (.wire .startResumed)] ++
  (createGateway {}).map (Traffic.Event.started 0) ++
  [.inside 0 (.wire (.entered true))] ++
  List.replicate 9 (.inside 0 (.wire (.subscribed true))) ++
  [.broadcast .statusUpdates statusPush, .inside 0 (.wire .putRan),
    .inside 0 (.wire (.drainTook 0)), .inside 0 (.wire (.published 0 true))]

/-- The broker sends the status update back, and the status command runs. -/
theorem status_update_runs_command : ¬ TopicsDisjoint {} ∧ ¬ NeverConsumesOwn {} := by
  refine ⟨fun disjoint => ?_, fun never => ?_⟩
  · exact ((topics_disjoint_iff {}).mp disjoint).1 ⟨rfl, rfl⟩
  · have byHost : ∀ event ∈ pushRun, ByHost event := by
      simp [pushRun, createGateway, ByHost]
    exact never pushRun _ (guarded_of_forall _ byHost Exchange.fresh) rfl 0 _ _ 0
      ⟨"hummingbot/status", .value _⟩ (fun _ _ => .ok ()) rfl
      ⟨_, List.mem_cons_self, rfl, rfl⟩ rfl (.inl ⟨_, _, _, rfl, rfl⟩)

end RemoteIface.Gateway.Loopback
