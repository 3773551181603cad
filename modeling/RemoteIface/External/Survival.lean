import RemoteIface.External.Hearing
import RemoteIface.Gateway.HealthLoop

/-!
Which external objects still work while the gateway runs. A restart gives the
gateway a new `NodeContext`, and an object keeps the one it was made on: it
works exactly as long as no restart has replaced that one. Contexts are
numbered by the restarts before them, so this is a comparison of two numbers.
-/

namespace RemoteIface.External.Survival

set_option autoImplicit false

open RemoteIface.Library.InsertionOrder
open RemoteIface.Library.Runs
open RemoteIface.Commlib RemoteIface.Gateway
open RemoteIface.Commlib.Payload
open RemoteIface.Commlib.Endpoints
open RemoteIface.Commlib.Rpc
open RemoteIface.Commlib.Handles
open RemoteIface.Commlib.Subscriptions
open RemoteIface.Gateway.Lifecycle
open RemoteIface.Gateway.Contexts
open RemoteIface.HbCompat.EventBusAdapter
open RemoteIface.External.Objects
open RemoteIface.External.Bindings
open RemoteIface.External.Hearing

variable {events : EventBus Handler} {Obj Resp : Type}

/-- The edge callback of the listener or queue is in the callback table of the
current context. -/
def Registered (host : Host events Obj Resp) (reader : Reader) : Prop :=
  (reader.node, reader.sub) ∈ host.edgesOn host.gateway.node reader.topic

/-- The listener is on the event bus of the current context, and `remove` would
leave no listener of its event and callback there. -/
def HeardAndRemovable (host : Host events Obj Resp) (id : ListenerId) (listener : EventListener) :
    Prop :=
  .dispatch id ∈ host.receivers host.gateway.node (eventKey listener.event) ∧
  ∀ other held, host.listeners[other]? = some held → held.event = listener.event →
    held.callback = listener.callback →
      .dispatch other ∉ (host.removeListener listener.event listener.callback).receivers
        host.gateway.node (eventKey listener.event)

def Enqueues (host next : Host events Obj Resp) (topic : String) (payload : Json) : Prop :=
  next.enqueuedOn host.gateway.node =
    host.enqueuedOn host.gateway.node ++ [⟨.str topic, payload, 0⟩]

def SendEnqueues (host : Host events Obj Resp) (id : Nat) (publisher : TopicPublisher) : Prop :=
  ∀ payload next, host.send id (.ok payload) = some next →
    Enqueues host next publisher.topic payload

def SendToEnqueues (host : Host events Obj Resp) (id : Nat) (multi : MultiPublisher)
    (instanceId topic : String) : Prop :=
  ∀ payload next, host.sendTo id instanceId topic (.ok payload) = some next →
    Enqueues host next (topicFor host.botNamespace instanceId topic multi.useBotPrefix) payload

/-- The listener is on the current context and the last for its event and
callback, and the earlier ones on this context have been removed. -/
structure SoleOnContext (host : Host events Obj Resp) (id : ListenerId) (listener : EventListener) :
    Prop where
  current : listener.node = host.gateway.node
  last : ∀ other held, id < other → host.listeners[other]? = some held →
    ¬ (held.event = listener.event ∧ held.callback = listener.callback)
  earlier : ∀ other held, other < id → host.listeners[other]? = some held →
    held.event = listener.event → held.callback = listener.callback →
      held.node = host.gateway.node → held.removed = true

/-- The publisher that the object keeps for the topic, if any, is on the current
context. -/
def KeptOnContext (host : Host events Obj Resp) (multi : MultiPublisher) (topic : String) : Prop :=
  ∀ node pub, multi.publishers.get? topic = some (node, pub) → node = host.gateway.node

/-- The steps of a run in which a restart replaces the context. -/
def replacements (serialize : Resp → Except PyException Json) (host : Host events Obj Resp) :
    List (Objects.Event Obj Resp) → Nat
  | [] => 0
  | event :: rest =>
      match host.step serialize event with
      | none => 0
      | some next =>
          (if next.gateway.node = host.gateway.node then 0 else 1) + replacements serialize next rest

theorem gateway_step {serialize : Resp → Except PyException Json} {host next : Host events Obj Resp}
    {event : Objects.Event Obj Resp} (taken : host.step serialize event = some next) :
    next.gateway = host.gateway ∨ Grows host.gateway next.gateway := by
  cases event with
  | lifecycle event => exact .inr (lifecycle_contexts taken)
  | inside id event =>
      obtain ⟨_, _, ⟨call, _, _, rfl⟩ | ⟨_, ctx, _, rfl⟩⟩ := Host.inside_cases taken
      · exact .inl rfl
      · exact .inl rfl
  | stop reader =>
      obtain ⟨_, _, _, _, _, rfl⟩ := stop_reader_cases taken
      exact .inl rfl
  | remove event callback =>
      cases taken
      exact .inl (host.remove_listener_gateway event callback)
  | send publisher serialized =>
      obtain ⟨held, _, rfl⟩ := Option.map_eq_some_iff.mp taken
      exact .inl rfl
  | sendTo publisher instanceId topic serialized =>
      obtain ⟨_, _, _, _, cached | ⟨_, rfl⟩⟩ := send_to_cases taken
      · obtain ⟨node, pub, _, rfl⟩ := cached
        exact .inl rfl
      · exact .inl rfl
  | subscribeEvent id eventType handler =>
      cases taken
      exact .inl rfl
  | unsubscribeEvent id eventType handler =>
      cases taken
      exact .inl rfl
  | topicListener instanceId topic useBotPrefix onMessage =>
      cases taken
      exact .inl rfl
  | topicQueue instanceId topic useBotPrefix onMessage =>
      cases taken
      exact .inl rfl
  | eventQueue event onMessage =>
      cases taken
      exact .inl rfl
  | create event callback =>
      cases taken
      exact .inl rfl
  | topicPublisher instanceId topic useBotPrefix =>
      cases taken
      exact .inl rfl
  | multiPublisher useBotPrefix =>
      cases taken
      exact .inl rfl

theorem node_counts_replacements {serialize : Resp → Except PyException Json}
    {host final : Host events Obj Resp} {steps : List (Objects.Event Obj Resp)} (bound : Bound host)
    (reached : run (Host.step serialize) host steps = some final) :
    final.gateway.node = host.gateway.node + replacements serialize host steps := by
  induction steps generalizing host with
  | nil =>
      cases reached
      rfl
  | cons event rest induction =>
      obtain ⟨next, taken, later⟩ := run_cons_some _ reached
      have counted := induction (bound_step bound taken) later
      have moved : next.gateway.node =
          host.gateway.node + if next.gateway.node = host.gateway.node then 0 else 1 := by
        rcases gateway_step taken with same | grows
        · simp [same]
        · cases grows with
          | kept node _ => simp [node]
          | rebuilt node _ =>
              rw [node, bound.launched.last]
              simp
      rw [counted]
      simp only [replacements, taken]
      exact (congrArg (· + replacements serialize next rest) moved).trans (Nat.add_assoc _ _ _)

theorem registered_iff {host : Host events Obj Resp} (bound : Bound host) {reader : Reader}
    (member : reader ∈ host.readers) (kept : reader.stopped = false) :
    Registered host reader ↔ reader.node = host.gateway.node := by
  unfold Registered Host.edgesOn
  constructor
  · intro listed
    obtain ⟨sub, _, same⟩ := List.mem_map.mp listed
    exact (congrArg Prod.fst same).symm
  · intro current
    have held := bound.readers reader member
    rw [current, kept] at held
    obtain ⟨node, stored⟩ := bound.current
    obtain ⟨log, tracks⟩ := (bound.nodes _ node stored).tracked
    rw [registry_of_node stored] at held ⊢
    obtain ⟨subscriber, found, same⟩ := Option.map_eq_some_iff.mp held
    obtain ⟨sameTopic, started⟩ := Prod.mk.inj same
    obtain ⟨callbacks, entry, _, listed⟩ := tracks.listed found (by simpa using started)
    rw [sameTopic] at entry
    refine List.mem_map.mpr ⟨reader.sub, ?_, by rw [current]⟩
    rw [Registry.callbacksOn, entry]
    exact listed

theorem receivers_of_node {host : Host events Obj Resp} {id : ContextId}
    {node : Node events Obj Resp} (stored : host.nodes[id]? = some node) (eventType : String) :
    host.receivers id eventType = node.bus.receivers eventType := by
  simp [Host.receivers, stored]

theorem receives_iff (lawful : events.Lawful) {host : Host events Obj Resp} (bound : Bound host)
    (heard : Heard host) (eventType : String) (id : ListenerId) :
    .dispatch id ∈ host.receivers host.gateway.node eventType ↔ Wanted host eventType id := by
  obtain ⟨node, stored⟩ := bound.current
  obtain ⟨_, served⟩ := heard.serves node stored
  rw [receivers_of_node stored]
  constructor
  · intro received
    by_contra unwanted
    exact Adapter.not_receives_of_lacks lawful ((served id eventType).2 unwanted) received
  · exact fun wanted => Adapter.receives_of_holds lawful ((served id eventType).1 wanted)

theorem heard_and_removable_iff (lawful : events.Lawful) {host : Host events Obj Resp}
    (bound : Bound host) (heard : Heard host) {id : ListenerId} {listener : EventListener}
    (stored : host.listeners[id]? = some listener) (kept : listener.removed = false) :
    HeardAndRemovable host id listener ↔ SoleOnContext host id listener := by
  have taken : host.step (fun _ : Resp => .ok .null) (.remove listener.event listener.callback) =
      some (host.removeListener listener.event listener.callback) := rfl
  have after := receives_iff lawful (bound_step bound taken)
    (heard_remove lawful heard listener.event listener.callback) (eventKey listener.event)
  have sameNode : (host.removeListener listener.event listener.callback).gateway.node =
      host.gateway.node :=
    congrArg _ (host.remove_listener_gateway listener.event listener.callback)
  rw [sameNode] at after
  have now := receives_iff lawful bound heard (eventKey listener.event)
  have wantedIff : ∀ other held, host.listeners[other]? = some held → held.event = listener.event →
      (Wanted host (eventKey listener.event) other ↔
        held.node = host.gateway.node ∧ held.removed = false) := by
    intro other held found sameEvent
    constructor
    · rintro ⟨same, foundSame, here, _, unremoved⟩
      rw [found, Option.some.injEq] at foundSame
      subst foundSame
      exact ⟨here, unremoved⟩
    · rintro ⟨here, unremoved⟩
      exact ⟨held, found, here, by rw [sameEvent], unremoved⟩
  constructor
  · rintro ⟨received, quiet⟩
    have wanted := (now id).mp received
    have here := ((wantedIff id listener stored rfl).mp wanted).1
    rcases remove_cases heard listener.event listener.callback with ⟨_, same⟩ | ⟨removed, latest, same⟩
    · have silent := quiet id listener stored rfl rfl
      rw [same] at silent
      exact absurd received silent
    · have isRemoved : id = removed := by
        by_contra different
        exact quiet id listener stored rfl rfl
          ((after id).mpr ((wanted_remove same _ id).mpr ⟨different, wanted⟩))
      subst isRemoved
      refine ⟨here, latest.2, fun other held before found sameEvent sameCallback onCurrent => ?_⟩
      by_contra unremoved
      have wantedOther := (wantedIff other held found sameEvent).mpr
        ⟨onCurrent, by simpa using unremoved⟩
      exact quiet other held found sameEvent sameCallback
        ((after other).mpr ((wanted_remove same _ other).mpr ⟨Nat.ne_of_lt before, wantedOther⟩))
  · intro sole
    have wanted := (wantedIff id listener stored rfl).mpr ⟨sole.current, kept⟩
    refine ⟨(now id).mpr wanted, fun other held found sameEvent sameCallback received => ?_⟩
    have latest : Latest host.listeners listener.event listener.callback id :=
      ⟨⟨listener, stored, rfl, rfl, kept⟩, sole.last⟩
    rcases remove_cases heard listener.event listener.callback with ⟨none, _⟩ | ⟨removed, is, same⟩
    · exact none id latest
    · rw [is.unique latest] at same
      obtain ⟨different, wantedOther⟩ := (wanted_remove same _ other).mp ((after other).mp received)
      obtain ⟨onCurrent, unremoved⟩ := (wantedIff other held found sameEvent).mp wantedOther
      rcases Nat.lt_or_gt_of_ne different with before | later
      · rw [sole.earlier other held before found sameEvent sameCallback onCurrent] at unremoved
        cases unremoved
      · exact sole.last other held later found ⟨sameEvent, sameCallback⟩

theorem enqueued_onContext (host : Host events Obj Resp) (id other : ContextId)
    (f : NodeContext.Context Obj Resp → NodeContext.Context Obj Resp) :
    (host.onContext id f).enqueuedOn other =
      if id = other then
        ((host.nodes[other]?).map fun node => enqueued (f node.ctx).conn).getD []
      else host.enqueuedOn other := by
  rw [Host.enqueuedOn, Host.onContext, node_onNode]
  split
  · cases host.nodes[other]? <;> rfl
  · rfl

theorem publish_enqueues_iff {host : Host events Obj Resp} (bound : Bound host)
    (running : host.gateway.running = true) {node : ContextId} {pub : PublisherId} {topic : String}
    (held : publisherState (host.registry node) pub = some (topic, true)) (payload : Json) :
    Enqueues host (host.publish node pub (.ok payload)) topic payload ↔
      node = host.gateway.node := by
  unfold Enqueues Host.publish
  rw [enqueued_onContext]
  constructor
  · intro enqueues
    by_contra elsewhere
    rw [if_neg elsewhere] at enqueues
    simpa using congrArg List.length enqueues
  · rintro rfl
    obtain ⟨current, stored⟩ := bound.current
    have loopSet := (bound.nodes _ current stored).loopSet (bound.launched.of_running running)
    rw [registry_of_node stored] at held
    rw [if_pos rfl, Host.enqueuedOn, stored]
    exact publish_enqueues held loopSet payload

theorem send_enqueues_iff {host : Host events Obj Resp} (bound : Bound host)
    (running : host.gateway.running = true) {id : Nat} {publisher : TopicPublisher}
    (stored : host.publishers[id]? = some publisher) :
    SendEnqueues host id publisher ↔ publisher.node = host.gateway.node := by
  have sent : ∀ payload, host.send id (.ok payload) =
      some (host.publish publisher.node publisher.pub (.ok payload)) := by
    intro payload
    rw [Host.send, stored]
    rfl
  have held := bound.publishers publisher (List.mem_of_getElem? stored)
  constructor
  · intro works
    exact (publish_enqueues_iff bound running held .null).mp (works .null _ (sent .null))
  · intro current payload next taken
    rw [sent, Option.some.injEq] at taken
    subst taken
    exact (publish_enqueues_iff bound running held payload).mpr current

theorem send_to_enqueues_iff {host : Host events Obj Resp} (bound : Bound host)
    (running : host.gateway.running = true) {id : Nat} {multi : MultiPublisher}
    (stored : host.multiPublishers[id]? = some multi) (instanceId topic : String) :
    SendToEnqueues host id multi instanceId topic ↔
      KeptOnContext host multi
        (topicFor host.botNamespace instanceId topic multi.useBotPrefix) := by
  have member := List.mem_of_getElem? stored
  cases cached : multi.publishers.get?
      (topicFor host.botNamespace instanceId topic multi.useBotPrefix) with
  | some kept =>
      obtain ⟨node, pub⟩ := kept
      have sent : ∀ payload, host.sendTo id instanceId topic (.ok payload) =
          some (host.publish node pub (.ok payload)) := by
        intro payload
        simp [Host.sendTo, stored, cached]
      have held := bound.multiPublishers multi member _ node pub cached
      constructor
      · intro works keptNode keptPub found
        rw [cached] at found
        cases found
        exact (publish_enqueues_iff bound running held .null).mp (works .null _ (sent .null))
      · intro current payload next taken
        rw [sent, Option.some.injEq] at taken
        subst taken
        exact (publish_enqueues_iff bound running held payload).mpr (current node pub cached)
  | none =>
      have nothing : KeptOnContext host multi
          (topicFor host.botNamespace instanceId topic multi.useBotPrefix) := by
        intro node pub found
        rw [cached] at found
        cases found
      refine ⟨fun _ => nothing, ?_⟩
      intro _ payload next taken
      obtain ⟨other, resolved, sameMulti, rfl, ⟨node, pub, found, _⟩ | ⟨_, rfl⟩⟩ :=
        send_to_cases taken
      · rw [stored, Option.some.injEq] at sameMulti
        subst sameMulti
        rw [cached] at found
        cases found
      · rw [stored, Option.some.injEq] at sameMulti
        subst sameMulti
        have boundMade := bound_cache_publisher bound stored
          (topicFor host.botNamespace instanceId topic multi.useBotPrefix)
        have enqueues := (publish_enqueues_iff boundMade running
          (made_publisher bound (topicFor host.botNamespace instanceId topic multi.useBotPrefix))
          payload).mpr rfl
        unfold Enqueues at enqueues ⊢
        refine enqueues.trans (congrArg (· ++ _) ?_)
        have made := enqueued_onContext host host.gateway.node host.gateway.node fun ctx =>
          { ctx with router := ctx.router.perform (.createPublisher
            (topicFor host.botNamespace instanceId topic multi.useBotPrefix)) }
        rw [if_pos rfl] at made
        exact made

def Tied (host : Host events Obj Resp) : Prop := Bound host ∧ Heard host

def tick : Objects.Event Unit Unit := .lifecycle (.ran 0 ⟨true, some .cancelled⟩)

def noResponse : Unit → Except PyException Json := fun _ => .ok .null

def objectsMade : List (Objects.Event Unit Unit) :=
  [.lifecycle (.called .start), tick, tick, tick, tick,
    .topicListener "bot" "/orders" true 0, .eventQueue "fill" 1, .create "fill" 2,
    .topicPublisher "bot" "orders" false, .multiPublisher false, .sendTo 0 "bot" "orders" (.ok .null)]

/-- The restart that follows is the only one. -/
def objectsOutlived : List (Objects.Event Unit Unit) :=
  objectsMade ++ [.lifecycle (.called .restart), tick, tick, tick, tick, tick, tick, tick, tick]

def started : Host (listBus Handler) Unit Unit := .fresh "hb" 3 1

/-- After the restart another listener on the event bus, another publisher and
another event queue are made. -/
def objectsRemade : List (Objects.Event Unit Unit) :=
  objectsOutlived ++ [.create "late" 3, .topicPublisher "bot" "orders" false, .eventQueue "late" 2]

end RemoteIface.External.Survival
