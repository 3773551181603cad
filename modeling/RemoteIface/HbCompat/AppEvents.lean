import RemoteIface.Library.Projection
import RemoteIface.Gateway.Outbox
import RemoteIface.HbCompat.StopUndoes

/-!
The market events and the status updates of the app, from the callback lists of
the adapter to the queues of the contexts. The app calls what is in a list at
the time; the gateway is in it once or not at all, and what it hears it queues
on the context it has then. A pass of the app over a list is one step: nothing
starts or stops a component while it lasts.
-/

namespace RemoteIface.HbCompat.AppEvents

set_option autoImplicit false

open RemoteIface.Library.Runs
open RemoteIface.Library.Projection
open RemoteIface.Commlib RemoteIface.Gateway
open RemoteIface.Commlib.Payload
open RemoteIface.Commlib.Rpc
open RemoteIface.Commlib.Handles
open RemoteIface.Commlib.NodeContext
open RemoteIface.Commlib.OutgoingQueue
open RemoteIface.Commlib.OutgoingLog
open RemoteIface.Protocols.Messages
open RemoteIface.Gateway.Wiring
open RemoteIface.Gateway.TopicTables
open RemoteIface.Gateway.LogHandler hiding Event
open RemoteIface.Gateway.Outbox hiding Sound
open RemoteIface.HbCompat.Registrations hiding Event
open RemoteIface.HbCompat.StopUndoes (start_component_system stop_component_system host_step_frame)

/-- `InternalEventMessage(timestamp=…, type=…, data=…)` -/
def internalEvent (tag : Int) (pubsub event : String) (now : Int) : String → Option Json
  | "timestamp" => some (.int now)
  | "type" => some (.str (toString tag))
  | "data" => some (.obj [("pubsub", .str pubsub), ("event", .str event)])
  | _ => none

/-- `StatusUpdateMessage(timestamp=…, type=…, msg=…)` -/
def statusUpdate (text type : String) (now : Int) : String → Option Json
  | "timestamp" => some (.int now)
  | "type" => some (.str type)
  | "msg" => some (.str text)
  | _ => none

/-- `started` is what `MQTTGateway.start` does once `NodeContext.start` has
returned, and `stopped` what `stop` does before `NodeContext.stop`; `rebuilt` is
the new context between the two in a restart. The texts of a market event are
`str` of its objects, which may raise. A broadcast is a notification or a log
line. -/
inductive Event where
  | started
  | stopped
  | rebuilt
  | host (event : HostEvent)
  | broadcast (role : Role) (value : String → Option Json)
  | inside (id : ContextNumber) (event : NodeContext.Event Instance Response)
  | marketEvent (tag : Int) (texts : Except PyException (String × String)) (now : Int)
  | statusEvent (text type : String) (now : Int)

variable {Logger : Type} {notifiers : NotifierRegistry}

/-- `self._publisher.publish(payload)`, when the component has a publisher. -/
def publish (gateway : Gateway Logger notifiers) (role : Role)
    (serialized : Except PyException Json) : Gateway Logger notifiers :=
  match gateway.system.endpoints.publisher role with
  | none => gateway
  | some (id, pub) =>
      { gateway with system := gateway.system.onContext id fun ctx => ctx.publish pub serialized }

/-- `_forward_event` -/
def forwardEvent (tag : Int) (texts : Except PyException (String × String)) (now : Int)
    (gateway : Gateway Logger notifiers) : Gateway Logger notifiers :=
  match texts with
  | .error _ => gateway
  | .ok (pubsub, event) =>
      publish gateway .marketEvents
        (internalEventMessage.serialize (internalEvent tag pubsub event now))

/-- `_on_status_event` -/
def onStatusEvent (text type : String) (now : Int) (gateway : Gateway Logger notifiers) :
    Gateway Logger notifiers :=
  publish gateway .statusUpdates (statusUpdateMessage.serialize (statusUpdate text type now))

/-- The app calls the callables of a list in order. Those of others are no
business of the gateway. -/
def callEach (callbacks : List Callback) (own : Callback)
    (body : Gateway Logger notifiers → Gateway Logger notifiers)
    (gateway : Gateway Logger notifiers) : Gateway Logger notifiers :=
  callbacks.foldl (fun gateway callback => if callback = own then body gateway else gateway) gateway

def step [DecidableEq Logger] (config : GatewayConfig) (logging : Logging Logger)
    (gateway : Gateway Logger notifiers) : Event → Option (Gateway Logger notifiers)
  | .started =>
      match gateway.system.contexts[gateway.node]? with
      | none => none
      | some ctx => if ctx.conn.loopSet then some (gateway.start config logging) else none
  | .stopped => some (gateway.stop config logging)
  | .rebuilt => if gateway.running then none else some gateway.rebuild
  | .host event => some (gateway.hostStep config logging event)
  | .broadcast role value =>
      some (publish gateway role (role.component.message.serialize value))
  | .inside id event =>
      match gateway.system.contexts[id]? with
      | none => none
      | some ctx =>
          (ctx.step Response.serialize event).map fun next =>
            { gateway with system := gateway.system.onContext id fun _ => next }
  | .marketEvent tag texts now =>
      some (callEach gateway.adapter.marketEventCallbacks .forwardEvent
        (forwardEvent tag texts now) gateway)
  | .statusEvent text type now =>
      some (callEach gateway.adapter.statusListeners .onStatusEvent
        (onStatusEvent text type now) gateway)

theorem internal_event_serialized (tag : Int) (pubsub event : String) (now : Int) :
    internalEventMessage.serialize (internalEvent tag pubsub event now) =
      .ok (.obj [("timestamp", .int now), ("type", .str (toString tag)),
        ("data", .obj [("pubsub", .str pubsub), ("event", .str event)])]) := rfl

theorem status_update_serialized (text type : String) (now : Int) :
    statusUpdateMessage.serialize (statusUpdate text type now) =
      .ok (.obj [("timestamp", .int now), ("type", .str type), ("msg", .str text)]) := rfl

/-- The message for what the app has fired, when the gateway listens, and the
context that is current. -/
def announced (config : GatewayConfig) (gateway : Gateway Logger notifiers) :
    Event → Option (ContextNumber × Outgoing)
  | .marketEvent tag (.ok (pubsub, event)) now =>
      if .forwardEvent ∈ gateway.adapter.marketEventCallbacks then
        some (gateway.node, ⟨.str (publisherTopic config .marketEvents),
          .obj [("timestamp", .int now), ("type", .str (toString tag)),
            ("data", .obj [("pubsub", .str pubsub), ("event", .str event)])], 0⟩)
      else none
  | .statusEvent text type now =>
      if .onStatusEvent ∈ gateway.adapter.statusListeners then
        some (gateway.node, ⟨.str (publisherTopic config .statusUpdates),
          .obj [("timestamp", .int now), ("type", .str type), ("msg", .str text)], 0⟩)
      else none
  | _ => none

/-- A message of `MQTTMarketEventForwarder` or `MQTTStatusUpdates`. -/
def announcement (config : GatewayConfig) (item : Outgoing) : Bool :=
  match item.topic, item.payload.getOr "timestamp" .null with
  | .str topic, .int _ =>
      topic = publisherTopic config .marketEvents || topic = publisherTopic config .statusUpdates
  | _, _ => false

/-- The host sends no such messages of its own and leaves the publishers of the
components alone. -/
def Undisturbed (config : GatewayConfig) (gateway : Gateway Logger notifiers) : Event → Prop
  | .broadcast role _ => role ≠ .marketEvents ∧ role ≠ .statusUpdates
  | .inside id event =>
      (∀ call, event = .called call → ∀ role pub,
        gateway.system.endpoints.publisher role = some (id, pub) → onPublisher call ≠ some pub) ∧
      ∀ ctx, gateway.system.contexts[id]? = some ctx →
        (∀ request outcome now, event ≠ .workEnded request outcome now) →
        Silent (announcement config) ctx event
  | _ => True

/-- The host asks a running gateway for market events: itself, or by a
strategy-loaded callback that it has been given at any time. -/
def Asks (config : GatewayConfig) (gateway : Gateway Logger notifiers) (event : Event) : Prop :=
  gateway.running = true ∧ config.enableEvents = true ∧
    (event = .host .startMarketEventsFw ∨
      ∃ number, event = .host (.strategyLoaded (.onStrategyLoaded number)) ∧
        .onStrategyLoaded number ∈ gateway.adapter.strategyLoadedCallbacks)

/-- The gateway's callable is called once when it is listed, after those of others. -/
theorem call_each_own (ids : List Nat) {own : Callback} (listed : Bool)
    (apart : ∀ id, own ≠ .other id)
    (body : Gateway Logger notifiers → Gateway Logger notifiers)
    (gateway : Gateway Logger notifiers) :
    callEach (ids.map .other ++ if listed then [own] else []) own body gateway =
      if listed then body gateway else gateway := by
  have others : ∀ ids : List Nat, (ids.map Callback.other).foldl
      (fun gateway callback => if callback = own then body gateway else gateway) gateway =
        gateway := by
    intro ids
    induction ids with
    | nil => rfl
    | cons id rest induction =>
        rw [List.map_cons, List.foldl_cons, if_neg (apart id).symm]
        exact induction
  rw [callEach, List.foldl_append, others]
  cases listed with
  | true => exact if_pos rfl
  | false => rfl

theorem mem_own (ids : List Nat) {own : Callback} (listed : Bool)
    (apart : ∀ id, own ≠ .other id) :
    own ∈ ids.map Callback.other ++ (if listed then [own] else []) ↔ listed = true := by
  have absent : own ∉ ids.map Callback.other := by
    intro member
    obtain ⟨id, _, same⟩ := List.mem_map.mp member
    exact apart id same.symm
  cases listed <;> simp [absent]

def publishesOn (gateway : Gateway Logger notifiers) (role : Role) : Option ContextNumber :=
  (gateway.system.endpoints.publisher role).map Prod.fst

/-- The enabled components of a running gateway publish on its current context,
and nobody else does. -/
def Staffed (config : GatewayConfig) (gateway : Gateway Logger notifiers) : Prop :=
  ∀ role, publishesOn gateway role =
    if gateway.running && role.component.enabled config then some gateway.node else none

section Staff

variable [DecidableEq Logger] {config : GatewayConfig} {logging : Logging Logger} {gateway : Gateway Logger notifiers}

theorem Staffed.start (staffed : Staffed config gateway) (stopped : gateway.running = false) :
    Staffed config (gateway.start config logging) := by
  intro role
  have toggled : toggle config (.publishing role) = role.component.enabled config := by
    cases role <;> rfl
  have moves : toggle config (.publishing role) = true → ∀ gateway : Gateway Logger notifiers,
      ((gateway.startComponent config logging (.publishing role)).node,
        publishesOn (gateway.startComponent config logging (.publishing role)) role) =
          (gateway.node, some gateway.node) := by
    intro enabled gateway
    obtain ⟨system, node⟩ := @start_component_system _ _ _ config logging gateway (.publishing role)
    have held := start_own_publisher config gateway.node gateway.system
      (toggled.symm.trans enabled)
    simp only [publishesOn, system, node, held, Option.map_some]
  have others : ∀ (gateway : Gateway Logger notifiers) component, component ≠ .publishing role →
      ((gateway.startComponent config logging component).node,
        publishesOn (gateway.startComponent config logging component) role) =
          (gateway.node, publishesOn gateway role) := by
    intro gateway component other
    obtain ⟨system, node⟩ := @start_component_system _ _ _ config logging gateway component
    simp only [publishesOn, system, node,
      start_other_publisher config gateway.node gateway.system other]
  have part := @Gateway.started_part _ _ _ config logging _
    (fun gateway : Gateway Logger notifiers => (gateway.node, publishesOn gateway role))
    (fun part => (part.1, some part.1)) (.publishing role) moves others gateway
  have before := staffed role
  rw [stopped, Bool.false_and, if_neg Bool.false_ne_true] at before
  rw [Gateway.start_eq stopped]
  rw [toggled] at part
  cases enabled : role.component.enabled config with
  | true =>
      rw [enabled, if_pos rfl] at part
      obtain ⟨node, held⟩ := Prod.mk.inj part
      simpa [publishesOn, node] using held
  | false =>
      rw [enabled, if_neg Bool.false_ne_true] at part
      obtain ⟨_, held⟩ := Prod.mk.inj part
      rw [before] at held
      simpa [publishesOn] using held

theorem Staffed.stop (staffed : Staffed config gateway) (running : gateway.running = true) :
    Staffed config (gateway.stop config logging) := by
  intro role
  have toggled : toggle config (.publishing role) = role.component.enabled config := by
    cases role <;> rfl
  have moves : ∀ gateway : Gateway Logger notifiers,
      publishesOn (gateway.stopComponent logging (.publishing role)) role = none := by
    intro gateway
    obtain ⟨system, _⟩ := @stop_component_system _ _ _ logging gateway (.publishing role)
    simp only [publishesOn, system, stop_own_publisher, Option.map_none]
  have others : ∀ (gateway : Gateway Logger notifiers) component, component ≠ .publishing role →
      publishesOn (gateway.stopComponent logging component) role = publishesOn gateway role := by
    intro gateway component other
    obtain ⟨system, _⟩ := @stop_component_system _ _ _ logging gateway component
    simp only [publishesOn, system, stop_other_publisher gateway.system other]
  have part := @Gateway.stopped_part _ _ _ config logging _
    (fun gateway : Gateway Logger notifiers => publishesOn gateway role) (fun _ => none)
    (.publishing role) moves others gateway
  have before := staffed role
  rw [Gateway.stop_eq running]
  rw [toggled] at part
  cases enabled : role.component.enabled config with
  | true =>
      rw [enabled, if_pos rfl] at part
      simpa [publishesOn] using part
  | false =>
      rw [enabled, if_neg Bool.false_ne_true, before, enabled, running] at part
      simpa [publishesOn] using part

end Staff

/-- `_forward_event` is registered only while the gateway runs, and what has been
announced is on the queues. -/
structure Heard (config : GatewayConfig) (logging : Logging Logger)
    (base : Surroundings Logger notifiers) (log : List (ContextNumber × Outgoing))
    (gateway : Gateway Logger notifiers) : Prop where
  sides : Sides config logging base gateway
  logged : Logged config (announcement config) gateway.system log
  staffed : Staffed config gateway
  wired : gateway.forwarder.unsubscribe = true → gateway.running = true

section Steps

variable {config : GatewayConfig} {logging : Logging Logger} {base : Surroundings Logger notifiers}
  {log : List (ContextNumber × Outgoing)} {gateway : Gateway Logger notifiers}

theorem heard_fresh (config : GatewayConfig) (logging : Logging Logger)
    (base : Surroundings Logger notifiers) : Heard config logging base [] (.fresh base) where
  sides := sides_fresh config logging base
  logged := logged_fresh config _
  staffed := fun _ => rfl
  wired := by
    intro unsubscribe
    cases unsubscribe

theorem Heard.market_listed (heard : Heard config logging base log gateway) :
    gateway.adapter.marketEventCallbacks = base.marketEventCallbacks.map .other ++
      if gateway.forwarder.unsubscribe then [.forwardEvent] else [] :=
  heard.sides.market.1

theorem Heard.status_listed (heard : Heard config logging base log gateway) :
    gateway.adapter.statusListeners = base.statusListeners.map .other ++
      if gateway.running && config.enableStatusUpdates then [.onStatusEvent] else [] := by
  obtain ⟨listed, set⟩ := heard.sides.status
  rw [set] at listed
  exact listed

theorem Heard.hears_market (heard : Heard config logging base log gateway) :
    .forwardEvent ∈ gateway.adapter.marketEventCallbacks ↔
      gateway.forwarder.unsubscribe = true := by
  rw [heard.market_listed]
  exact mem_own _ _ fun id => by simp

theorem Heard.hears_status (heard : Heard config logging base log gateway) :
    .onStatusEvent ∈ gateway.adapter.statusListeners ↔
      (gateway.running && config.enableStatusUpdates) = true := by
  rw [heard.status_listed]
  exact mem_own _ _ fun id => by simp

theorem Heard.queued (heard : Heard config logging base log gateway) (role : Role)
    (running : gateway.running = true) (enabled : role.component.enabled config = true)
    (payload : Json) :
    Heard config logging base
      (log ++ if announcement config ⟨.str (publisherTopic config role), payload, 0⟩ then
        [(gateway.node, ⟨.str (publisherTopic config role), payload, 0⟩)] else [])
      (publish gateway role (.ok payload)) := by
  have staff := heard.staffed role
  rw [running, enabled, Bool.true_and, if_pos rfl] at staff
  obtain ⟨⟨id, pub⟩, held, here⟩ := Option.map_eq_some_iff.mp staff
  cases here
  have done : publish gateway role (.ok payload) =
      { gateway with system := gateway.system.onContext gateway.node fun ctx =>
          ctx.publish pub (.ok payload) } := by
    simp [publish, held]
  rw [done]
  exact ⟨⟨heard.sides.market, heard.sides.status, heard.sides.strategy, heard.sides.notifier,
    heard.sides.log⟩, heard.logged.publish held payload, heard.staffed, heard.wired⟩

theorem Heard.unqueued (heard : Heard config logging base log gateway) {role : Role}
    {serialized : Except PyException Json}
    (other : ∀ payload, serialized = .ok payload →
      announcement config ⟨.str (publisherTopic config role), payload, 0⟩ = false) :
    Heard config logging base log (publish gateway role serialized) := by
  unfold publish
  split
  · exact heard
  · rename_i id pub held
    exact ⟨⟨heard.sides.market, heard.sides.status, heard.sides.strategy, heard.sides.notifier,
      heard.sides.log⟩, heard.logged.publish_other other held, heard.staffed, heard.wired⟩

theorem announcement_reply (config : GatewayConfig) (topic : Json) (now : Int) (body : Json)
    (qos : Nat) : announcement config ⟨topic, wrapResponse now body, qos⟩ = false := by
  cases topic <;> rfl

theorem announcement_other (config : GatewayConfig) {role : Role} (market : role ≠ .marketEvents)
    (status : role ≠ .statusUpdates) (payload : Json) :
    announcement config ⟨.str (publisherTopic config role), payload, 0⟩ = false := by
  have apart : ∀ {other : Role}, role ≠ other →
      publisherTopic config role ≠ publisherTopic config other :=
    fun different same => different (publisher_topic_injective config same)
  unfold announcement
  split
  · rename_i topic _ same _
    cases same
    simp [apart market, apart status]
  · rfl

theorem Heard.market_event (heard : Heard config logging base log gateway) (tag : Int)
    (texts : Except PyException (String × String)) (now : Int) :
    Heard config logging base
      (log ++ (announced config gateway (.marketEvent tag texts now)).toList)
      (callEach gateway.adapter.marketEventCallbacks .forwardEvent
        (forwardEvent tag texts now) gateway) := by
  have called := @call_each_own _ _ base.marketEventCallbacks .forwardEvent
    gateway.forwarder.unsubscribe (fun id => by simp) (forwardEvent tag texts now) gateway
  rw [← heard.market_listed] at called
  rw [called]
  cases texts with
  | error error =>
      simp only [forwardEvent, ite_self, announced, Option.toList_none, List.append_nil]
      exact heard
  | ok texts =>
      obtain ⟨pubsub, event⟩ := texts
      unfold announced
      simp only [heard.hears_market, forwardEvent, internal_event_serialized]
      cases wired : gateway.forwarder.unsubscribe with
      | false => simpa using heard
      | true =>
          have enabled : config.enableEvents = true := heard.sides.market.2.2 wired
          have published := heard.queued .marketEvents (heard.wired wired) enabled
            (.obj [("timestamp", .int now), ("type", .str (toString tag)),
              ("data", .obj [("pubsub", .str pubsub), ("event", .str event)])])
          simpa [announcement, Json.getOr, Library.InsertionOrder.lookupEntry] using published

theorem Heard.status_event (heard : Heard config logging base log gateway) (text type : String)
    (now : Int) :
    Heard config logging base (log ++ (announced config gateway (.statusEvent text type now)).toList)
      (callEach gateway.adapter.statusListeners .onStatusEvent
        (onStatusEvent text type now) gateway) := by
  have called := @call_each_own _ _ base.statusListeners .onStatusEvent
    (gateway.running && config.enableStatusUpdates) (fun id => by simp)
    (onStatusEvent text type now) gateway
  rw [← heard.status_listed] at called
  rw [called]
  unfold announced
  simp only [heard.hears_status, onStatusEvent, status_update_serialized]
  cases listens : gateway.running && config.enableStatusUpdates with
  | false => simpa using heard
  | true =>
      obtain ⟨running, enabled⟩ := Bool.and_eq_true_iff.mp listens
      have published := heard.queued .statusUpdates running enabled
        (.obj [("timestamp", .int now), ("type", .str type), ("msg", .str text)])
      simpa [announcement, Json.getOr, Library.InsertionOrder.lookupEntry] using published

theorem Heard.rebuild (heard : Heard config logging base log gateway)
    (stopped : gateway.running = false) : Heard config logging base log gateway.rebuild where
  sides := ⟨heard.sides.market, heard.sides.status, heard.sides.strategy, heard.sides.notifier,
    heard.sides.log⟩
  logged := heard.logged.rebuilt
  staffed := by
    intro role
    have before := heard.staffed role
    rw [stopped, Bool.false_and, if_neg Bool.false_ne_true] at before
    simpa [Gateway.rebuild, publishesOn, stopped] using before
  wired := heard.wired

/-- The forwarder of a gateway that runs is subscribed by `subscribe_now`, and
that of one that is off is not. -/
theorem Heard.subscribe_now (heard : Heard config logging base log gateway) :
    gateway.subscribeNow.forwarder.unsubscribe = true ↔
      gateway.running = true ∧ config.enableEvents = true ∨
        gateway.forwarder.unsubscribe = true := by
  have staff : publishesOn gateway .marketEvents =
      if gateway.running && config.enableEvents then some gateway.node else none :=
    heard.staffed .marketEvents
  unfold Gateway.subscribeNow
  split
  · rename_i absent
    rw [publishesOn, absent] at staff
    have off : ¬ (gateway.running = true ∧ config.enableEvents = true) := by
      rintro ⟨running, enabled⟩
      simp [running, enabled] at staff
    simp [off]
  · rename_i publisher held
    have on : gateway.running = true ∧ config.enableEvents = true := by
      rw [← Bool.and_eq_true_iff]
      by_contra off
      simp [publishesOn, held, off] at staff
    split
    · rename_i subscribed
      have wired : gateway.forwarder.unsubscribe = true := heard.sides.market.2.1 ▸ subscribed
      simp [wired]
    · simp [on]

theorem publish_forwarder (gateway : Gateway Logger notifiers) (role : Role)
    (serialized : Except PyException Json) :
    (publish gateway role serialized).forwarder = gateway.forwarder := by
  unfold publish
  split <;> rfl

theorem call_each_forwarder (callbacks : List Callback) (own : Callback)
    {body : Gateway Logger notifiers → Gateway Logger notifiers}
    (same : ∀ gateway, (body gateway).forwarder = gateway.forwarder)
    (gateway : Gateway Logger notifiers) :
    (callEach callbacks own body gateway).forwarder = gateway.forwarder := by
  apply fold_untouched Gateway.forwarder
  intro gateway callback
  split
  · exact same gateway
  · rfl

theorem forward_event_forwarder (tag : Int) (texts : Except PyException (String × String))
    (now : Int) (gateway : Gateway Logger notifiers) :
    (forwardEvent tag texts now gateway).forwarder = gateway.forwarder := by
  cases texts with
  | error error => rfl
  | ok texts => exact publish_forwarder gateway .marketEvents _

variable [DecidableEq Logger]

theorem Heard.start (heard : Heard config logging base log gateway)
    {ctx : Context Instance Response} (stored : gateway.system.contexts[gateway.node]? = some ctx)
    (set : ctx.conn.loopSet = true) :
    Heard config logging base log (gateway.start config logging) := by
  cases running : gateway.running with
  | true =>
      rw [Gateway.start, if_pos running]
      exact heard
  | false =>
      refine ⟨heard.sides.start running, ?_, heard.staffed.start running,
        fun _ => Gateway.start_running gateway⟩
      rw [Gateway.start_eq running]
      refine (List.foldlRecOn (motive := fun gateway : Gateway Logger notifiers =>
        Logged config (announcement config) gateway.system log ∧
          ∃ ctx, gateway.system.contexts[gateway.node]? = some ctx ∧ ctx.conn.loopSet = true)
        (createGateway config) (Gateway.startComponent config logging)
        ⟨heard.logged, ctx, stored, set⟩ ?_).1
      rintro gateway ⟨logged, ctx, stored, set⟩ component _
      obtain ⟨system, node⟩ := @start_component_system _ _ _ config logging gateway component
      rw [system, node]
      refine ⟨logged.start component stored set, ?_⟩
      obtain ⟨after, there, conn, _⟩ :=
        (start_component_calls config gateway.node gateway.system component).contexts
          (fun _ _ => True) (fun _ _ _ _ _ => trivial) stored trivial
      exact ⟨after, there, conn ▸ set⟩

theorem Heard.stop (heard : Heard config logging base log gateway) :
    Heard config logging base log (gateway.stop config logging) ∧
      (gateway.stop config logging).forwarder.unsubscribe = false := by
  cases running : gateway.running with
  | false =>
      rw [Gateway.stop, if_neg (by rw [running]; exact Bool.false_ne_true)]
      refine ⟨heard, ?_⟩
      by_contra wired
      have on := heard.wired (by simpa using wired)
      rw [running] at on
      cases on
  | true =>
      have cleared := heard.sides.cleared running
      have unwired : (gateway.stop config logging).forwarder.unsubscribe = false := by
        rw [cleared.forwarder]
      refine ⟨⟨heard.sides.stop running, ?_, heard.staffed.stop running, ?_⟩, unwired⟩
      · rw [Gateway.stop_eq running]
        refine List.foldlRecOn (motive := fun gateway : Gateway Logger notifiers =>
          Logged config (announcement config) gateway.system log) (createGateway config).reverse
          (Gateway.stopComponent logging) heard.logged ?_
        intro gateway logged component _
        obtain ⟨system, _⟩ := @stop_component_system _ _ _ logging gateway component
        rw [system]
        exact logged.stop component
      · intro wired
        rw [unwired] at wired
        cases wired

theorem Heard.host_step (heard : Heard config logging base log gateway) (event : HostEvent) :
    Heard config logging base log (gateway.hostStep config logging event) := by
  obtain ⟨system, node, running, _⟩ :=
    @host_step_frame _ _ _ config logging gateway event
  refine ⟨heard.sides.host_step event, ?_, ?_, ?_⟩
  · rw [system]
    exact heard.logged
  · intro role
    have before := heard.staffed role
    simpa only [publishesOn, system, node, running] using before
  · rw [running]
    intro wired
    cases event with
    | patchLoggers names =>
        unfold Gateway.hostStep at wired
        dsimp only at wired
        split at wired <;> exact heard.wired wired
    | startMarketEventsFw =>
        unfold Gateway.hostStep at wired
        dsimp only at wired
        split at wired
        · exact (heard.subscribe_now.mp wired).elim And.left heard.wired
        · exact heard.wired wired
    | strategyLoaded callback =>
        unfold Gateway.hostStep at wired
        dsimp only at wired
        split at wired
        · split at wired
          · exact (heard.subscribe_now.mp wired).elim And.left heard.wired
          · exact heard.wired wired
        · exact heard.wired wired

theorem heard_step {next : Gateway Logger notifiers} {event : Event}
    (heard : Heard config logging base log gateway) (undisturbed : Undisturbed config gateway event)
    (taken : step config logging gateway event = some next) :
    Heard config logging base (log ++ (announced config gateway event).toList) next := by
  have silent : announced config gateway event = none →
      Heard config logging base log next →
      Heard config logging base (log ++ (announced config gateway event).toList) next := by
    intro nothing holds
    rw [nothing, Option.toList_none, List.append_nil]
    exact holds
  cases event with
  | started =>
      apply silent rfl
      simp only [step] at taken
      split at taken
      · cases taken
      · rename_i ctx stored
        split at taken
        · rename_i set
          cases taken
          exact heard.start stored set
        · cases taken
  | stopped =>
      cases taken
      exact silent rfl heard.stop.1
  | rebuilt =>
      apply silent rfl
      simp only [step] at taken
      split at taken
      · cases taken
      · rename_i stopped
        cases taken
        exact heard.rebuild (by simpa using stopped)
  | host event =>
      cases taken
      exact silent rfl (heard.host_step event)
  | broadcast role value =>
      cases taken
      obtain ⟨market, status⟩ := undisturbed
      exact silent rfl (heard.unqueued fun payload _ =>
        announcement_other config market status payload)
  | inside id event =>
      apply silent rfl
      simp only [step] at taken
      split at taken
      · cases taken
      · rename_i ctx stored
        obtain ⟨after, went, rfl⟩ := Option.map_eq_some_iff.mp taken
        refine ⟨⟨heard.sides.market, heard.sides.status, heard.sides.strategy,
          heard.sides.notifier, heard.sides.log⟩, ?_, heard.staffed, heard.wired⟩
        apply heard.logged.of_inside stored undisturbed.1 ?_ went
        exact silent_of_replies (announcement_reply config) (undisturbed.2 ctx stored)
  | marketEvent tag texts now =>
      cases taken
      exact heard.market_event tag texts now
  | statusEvent text type now =>
      cases taken
      exact heard.status_event text type now

/-- The forwarder is subscribed by what asks for it, and until the next stop. -/
theorem wired_step {next : Gateway Logger notifiers} {event : Event}
    (heard : Heard config logging base log gateway)
    (taken : step config logging gateway event = some next) :
    next.forwarder.unsubscribe = true ↔
      Asks config gateway event ∨ event ≠ .stopped ∧ gateway.forwarder.unsubscribe = true := by
  have same : next.forwarder = gateway.forwarder → event ≠ .stopped →
      ¬ Asks config gateway event →
      (next.forwarder.unsubscribe = true ↔
        Asks config gateway event ∨ event ≠ .stopped ∧ gateway.forwarder.unsubscribe = true) := by
    intro forwarder going unasked
    simp [forwarder, going, unasked]
  cases event with
  | started =>
      apply same _ (by simp) (by simp [Asks])
      simp only [step] at taken
      split at taken
      · cases taken
      · split at taken
        · cases taken
          cases running : gateway.running with
          | true => rw [Gateway.start, if_pos running]
          | false =>
              rw [Gateway.start_eq running]
              exact (Prod.mk.inj (@Gateway.start_market_part _ _ _ config logging gateway)).2
        · cases taken
  | stopped =>
      cases taken
      simp [heard.stop.2, Asks]
  | rebuilt =>
      apply same _ (by simp) (by simp [Asks])
      simp only [step] at taken
      split at taken
      · cases taken
      · cases taken
        rfl
  | host event =>
      cases taken
      cases event with
      | patchLoggers names =>
          apply same _ (by simp) (by simp [Asks])
          unfold Gateway.hostStep
          dsimp only
          split <;> rfl
      | startMarketEventsFw =>
          unfold Gateway.hostStep
          dsimp only
          split
          · rename_i enabled
            rw [heard.subscribe_now]
            simp [Asks, enabled]
          · rename_i disabled
            simp [Asks, disabled]
      | strategyLoaded callback =>
          by_cases asked : (∃ number, callback = .onStrategyLoaded number) ∧
              callback ∈ gateway.adapter.strategyLoadedCallbacks
          · obtain ⟨⟨number, rfl⟩, listed⟩ := asked
            have subscribes : gateway.hostStep config logging
                (.strategyLoaded (.onStrategyLoaded number)) = gateway.subscribeNow := by
              simp [Gateway.hostStep, listed]
            rw [subscribes, heard.subscribe_now]
            simp [Asks, listed]
          · have idle : gateway.hostStep config logging (.strategyLoaded callback) = gateway := by
              unfold Gateway.hostStep
              dsimp only
              split
              · rename_i listed
                split
                · rename_i number
                  exact absurd ⟨⟨number, rfl⟩, listed⟩ asked
                · rfl
              · rfl
            apply same (by rw [idle]) (by simp)
            rintro ⟨_, _, other | ⟨number, named, listed⟩⟩
            · cases other
            · cases named
              exact asked ⟨⟨number, rfl⟩, listed⟩
  | broadcast role value =>
      cases taken
      exact same (publish_forwarder gateway role _) (by simp) (by simp [Asks])
  | inside id event =>
      apply same _ (by simp) (by simp [Asks])
      simp only [step] at taken
      split at taken
      · cases taken
      · obtain ⟨after, went, rfl⟩ := Option.map_eq_some_iff.mp taken
        rfl
  | marketEvent tag texts now =>
      cases taken
      exact same (call_each_forwarder _ _ (forward_event_forwarder tag texts now) gateway) (by simp)
        (by simp [Asks])
  | statusEvent text type now =>
      cases taken
      exact same (call_each_forwarder _ _ (fun gateway =>
        publish_forwarder gateway .statusUpdates _) gateway) (by simp) (by simp [Asks])

end Steps

variable [DecidableEq Logger]

theorem heard_run {config : GatewayConfig} {logging : Logging Logger}
    {base : Surroundings Logger notifiers} {events : List Event}
    {final : Gateway Logger notifiers}
    (undisturbed : Guarded (step config logging) (Undisturbed config) (.fresh base) events)
    (reached : run (step config logging) (.fresh base) events = some final) :
    Heard config logging base
        (sights (step config logging) (announced config) (.fresh base) events) final ∧
      (final.forwarder.unsubscribe = true ↔
        SinceIn (step config logging) (Asks config) (fun event => event = .stopped) (.fresh base)
          events) := by
  refine @run_history _ _ (step config logging) (fun events final =>
    Guarded (step config logging) (Undisturbed config) (.fresh base) events →
      Heard config logging base
          (sights (step config logging) (announced config) (.fresh base) events) final ∧
        (final.forwarder.unsubscribe = true ↔
          SinceIn (step config logging) (Asks config) (fun event => event = .stopped)
            (.fresh base) events)) _ ?_ ?_ _ _ reached undisturbed
  · intro _
    refine ⟨heard_fresh config logging base, ?_⟩
    simp [not_since_in_nil, Gateway.fresh]
  · intro before gateway event next earlier holds taken guarded
    obtain ⟨guardedBefore, last⟩ := (guarded_append (step config logging)).mp guarded
    obtain ⟨heard, wired⟩ := holds guardedBefore
    obtain ⟨met, _⟩ := last gateway earlier next taken
    rw [sights_snoc (step config logging) (announced config) earlier taken]
    refine ⟨heard_step heard met taken, ?_⟩
    rw [since_in_snoc (step config logging) earlier, wired_step heard taken, wired]

def forwarding : GatewayConfig :=
  { enableCommands := false, enableNotifier := false, enableExternalEvents := false,
    enableLogHandler := false }

/-- Market events before the host asks for them, after it, and on both sides of a
restart, after which the closure of the first start asks again. -/
def restartedRun : List Event :=
  [.marketEvent 1 (.ok ("book", "early")) 1, .inside 0 (.wire .start), .started,
    .statusEvent "up" "info" 2, .marketEvent 2 (.ok ("book", "unasked")) 3,
    .host .startMarketEventsFw, .marketEvent 3 (.ok ("book", "trade")) 4, .stopped, .rebuilt,
    .inside 1 (.wire .start), .started, .marketEvent 4 (.ok ("book", "forgotten")) 5,
    .host (.strategyLoaded (.onStrategyLoaded 0)), .marketEvent 5 (.error typeError) 6,
    .marketEvent 6 (.ok ("book", "fill")) 7]

theorem restarted_run_quiet :
    Guarded (step forwarding plainLogging) (Undisturbed forwarding) (.fresh bareHost)
      restartedRun := by
  apply guarded_of_everywhere
  have begun : ∀ (gateway : Gateway String listNotifiers) id,
      Undisturbed forwarding gateway (.inside id (.wire .start)) := by
    intro gateway id
    refine ⟨?_, ?_⟩
    · intro call called
      cases called
    · intro ctx _ _ item seen
      cases seen
  simp only [restartedRun, List.forall_mem_cons, begun, implies_true, true_and]
  simp [Undisturbed]

end RemoteIface.HbCompat.AppEvents
