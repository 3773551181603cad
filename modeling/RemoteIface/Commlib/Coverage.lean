import RemoteIface.Commlib.Delivery
import RemoteIface.Commlib.NodeContext

/-!
Which topics the broker was asked for. `_run` subscribes the keys that the two
tables have when the connection comes up, and nothing subscribes a key that
appears later: until the next connection the broker does not know it.
-/

namespace RemoteIface.Commlib.Coverage

set_option autoImplicit false

open RemoteIface.Library.Runs
open RemoteIface.Library.InsertionOrder
open RemoteIface.Commlib.Payload
open RemoteIface.Commlib.Endpoints
open RemoteIface.Commlib.Rpc
open RemoteIface.Commlib.Dispatch
open RemoteIface.Commlib.Subscriptions
open RemoteIface.Commlib.Connection
open RemoteIface.Commlib.NodeContext

variable {Obj Resp : Type}

/-- While a dispatch task is alive, the filter of every started subscriber and
every command topic is subscribed on the current client. -/
def Covered (ctx : Context Obj Resp) : Prop :=
  (∃ session ∈ ctx.conn.sessions, session.dispatch.alive = true) →
    (∀ subscriber ∈ ctx.router.registry.subscribers, subscriber.started = true →
      subscriber.topic ∈ ctx.conn.subscribed) ∧
    ∀ name ∈ ctx.router.registry.commandTable.keys, name ∈ ctx.conn.subscribed

def registers (registry : Registry Obj) : RegistryCall Obj → Option String
  | .createSubscriber topic _ _ => some topic
  | .startSubscriber id => (registry.subscribers[id]?).map Subscriber.topic
  | .createRpc rpcName _ _ => some rpcName
  | .startRpc id => (registry.services[id]?).map RpcService.rpcName
  | _ => none

/-- The subscriptions of the current client are fixed: its subscribe loop has
its list, or is through with it. -/
def SnapshotTaken (conn : Connection.State) : Prop :=
  conn.todo ≠ none ∨ ∃ session ∈ conn.sessions, session.dispatch.alive = true

/-- A call after the snapshot registers only topics that are in it. -/
def InTime (ctx : Context Obj Resp) : NodeContext.Event Obj Resp → Prop
  | .called call =>
      SnapshotTaken ctx.conn → ∀ topic, registers ctx.router.registry call = some topic →
        topic ∈ ctx.conn.promised
  | _ => True

theorem mem_desired_iff {registry : Registry Obj} {topic : String} :
    topic ∈ registry.desiredSubscriptions ↔
      topic ∈ registry.subCallbacks.keys ∨ topic ∈ registry.commandTable.keys :=
  List.mem_append

theorem desired_start_subscriber {registry : Registry Obj} {id : SubscriberId} {topic : String}
    (wanted : topic ∈ (registry.startSubscriber id).desiredSubscriptions) :
    topic ∈ registry.desiredSubscriptions ∨
      (registry.subscribers[id]?).map Subscriber.topic = some topic := by
  rw [mem_desired_iff, Registry.start_subscriber_command_table] at wanted
  rw [mem_desired_iff]
  rcases wanted with key | command
  · rcases Registry.mem_keys_start_subscriber key with old | new
    · exact .inl (.inl old)
    · exact .inr new
  · exact .inl (.inr command)

theorem desired_stop_subscriber {registry : Registry Obj} {id : SubscriberId} {topic : String}
    (wanted : topic ∈ (registry.stopSubscriber id).desiredSubscriptions) :
    topic ∈ registry.desiredSubscriptions := by
  rw [mem_desired_iff, Registry.stop_subscriber_keys, Registry.stop_subscriber_command_table]
    at wanted
  exact mem_desired_iff.mpr wanted

theorem desired_start_rpc {registry : Registry Obj} {id : ServiceId} {topic : String}
    (wanted : topic ∈ (registry.startRpc id).desiredSubscriptions) :
    topic ∈ registry.desiredSubscriptions ∨
      (registry.services[id]?).map RpcService.rpcName = some topic := by
  rcases Registry.start_rpc_cases registry id with same | ⟨service, stored, same⟩
  · rw [same] at wanted
    exact .inl wanted
  · rw [same, mem_desired_iff, OrderedDict.mem_keys_set] at wanted
    rw [mem_desired_iff, stored]
    simp only [Option.map_some, Option.some.injEq]
    tauto

theorem desired_stop_rpc {registry : Registry Obj} {id : ServiceId} {topic : String}
    (wanted : topic ∈ (registry.stopRpc id).desiredSubscriptions) :
    topic ∈ registry.desiredSubscriptions := by
  rcases Registry.stop_rpc_cases registry id with same | ⟨service, _, same⟩
  · rw [same] at wanted
    exact wanted
  · rw [same, mem_desired_iff, OrderedDict.mem_keys_pop] at wanted
    rw [mem_desired_iff]
    tauto

theorem desired_perform {registry : Registry Obj} {call : RegistryCall Obj} {topic : String}
    (wanted : topic ∈ (registry.perform call).desiredSubscriptions) :
    topic ∈ registry.desiredSubscriptions ∨ registers registry call = some topic := by
  cases call with
  | createSubscriber filter onMessage msgType =>
      rcases desired_start_subscriber wanted with old | new
      · exact .inl old
      · exact .inr (by simpa [registers] using new)
  | startSubscriber id => exact desired_start_subscriber wanted
  | stopSubscriber id => exact .inl (desired_stop_subscriber wanted)
  | createRpc rpcName msgType onRequest =>
      rcases desired_start_rpc wanted with old | new
      · exact .inl old
      · exact .inr (by simpa [registers] using new)
  | startRpc id => exact desired_start_rpc wanted
  | stopRpc id => exact .inl (desired_stop_rpc wanted)
  | createPublisher topic => exact .inl wanted
  | startPublisher id => exact .inl wanted
  | stopPublisher id => exact .inl wanted
  | setCallback id fn => exact .inl wanted

/-- What dispatching leaves alone in the registry: everything but the record of
the last topic. -/
structure SameTables (registry next : Registry Obj) : Prop where
  topics : next.subscribers.map Subscriber.topic = registry.subscribers.map Subscriber.topic
  flags : next.subscribers.map Subscriber.started = registry.subscribers.map Subscriber.started
  subCallbacks : next.subCallbacks = registry.subCallbacks
  commandTable : next.commandTable = registry.commandTable

theorem SameTables.refl (registry : Registry Obj) : SameTables registry registry :=
  ⟨rfl, rfl, rfl, rfl⟩

theorem SameTables.trans {first second third : Registry Obj} (early : SameTables first second)
    (late : SameTables second third) : SameTables first third :=
  ⟨late.topics.trans early.topics, late.flags.trans early.flags,
    late.subCallbacks.trans early.subCallbacks, late.commandTable.trans early.commandTable⟩

theorem SameTables.desired {registry next : Registry Obj} (same : SameTables registry next) :
    next.desiredSubscriptions = registry.desiredSubscriptions := by
  rw [Registry.desiredSubscriptions, Registry.desiredSubscriptions, same.subCallbacks,
    same.commandTable]

theorem edge_callback_same_tables (callbacks : Callbacks Obj) (registry : Registry Obj)
    (id : SubscriberId) (raw : Json) (topic : String) :
    SameTables registry (edgeCallback callbacks registry id raw topic).1 := by
  unfold edgeCallback
  split
  · exact .refl registry
  · rename_i subscriber stored
    split
    · exact .refl registry
    · exact ⟨map_set_same Subscriber.topic stored rfl, map_set_same Subscriber.started stored rfl,
        rfl, rfl⟩

theorem dispatch_same_tables {callbacks : Callbacks Obj} {router next : Router Obj Resp}
    {message : Message} (dispatched : dispatchIncoming callbacks router message = .ok next) :
    SameTables router.registry next.registry := by
  refine Delivery.dispatch_keeps (SameTables router.registry) ?_ dispatched (.refl router.registry)
  exact fun registry id raw topic same =>
    same.trans (edge_callback_same_tables callbacks registry id raw topic)

/-- From the snapshot on, every key of the two tables is among the topics that
are subscribed or still to be subscribed. -/
structure Synced (ctx : Context Obj Resp) : Prop where
  sound : ctx.conn.WellFormed
  tracked : ∃ log, Tracks log ctx.router.registry
  covers : SnapshotTaken ctx.conn →
    ∀ topic ∈ ctx.router.registry.desiredSubscriptions, topic ∈ ctx.conn.promised

theorem todo_none_of_owner {conn : Connection.State} {client : ClientId}
    (owned : conn.owner = some client) : conn.todo = none := by
  unfold State.owner at owned
  unfold State.todo
  cases standsAt : conn.runTask with
  | none => rfl
  | some pc =>
      rw [standsAt] at owned
      cases pc <;> simp_all [RunPc.client, RunPc.todo]

theorem Synced.covered {ctx : Context Obj Resp} (synced : Synced ctx) : Covered ctx := by
  rintro ⟨session, member, alive⟩
  have owned := synced.sound.owned session member (by simp [Session.alive, alive])
  have promised : ctx.conn.promised = ctx.conn.subscribed := by
    simp [State.promised, todo_none_of_owner owned]
  have covers := synced.covers (.inr ⟨session, member, alive⟩)
  rw [promised] at covers
  constructor
  · intro subscriber known started
    obtain ⟨log, tracks⟩ := synced.tracked
    obtain ⟨id, inside, rfl⟩ := List.getElem_of_mem known
    obtain ⟨callbacks, entry, _⟩ := tracks.listed (List.getElem?_eq_getElem inside) started
    apply covers
    exact mem_desired_iff.mpr (.inl (OrderedDict.get_isSome_iff.mp (by simp [entry])))
  · intro name command
    exact covers name (mem_desired_iff.mpr (.inr command))

theorem Synced.of_same {ctx next : Context Obj Resp} (synced : Synced ctx)
    (same : SameTables ctx.router.registry next.router.registry)
    (sound : next.conn.WellFormed)
    (kept : SnapshotTaken next.conn →
      SnapshotTaken ctx.conn ∧ next.conn.promised = ctx.conn.promised) : Synced next := by
  obtain ⟨log, tracks⟩ := synced.tracked
  refine ⟨sound, ⟨log, tracks.congr same.topics same.flags same.subCallbacks⟩, ?_⟩
  intro taken topic wanted
  obtain ⟨before, promised⟩ := kept taken
  rw [same.desired] at wanted
  rw [promised]
  exact synced.covers before topic wanted

theorem snapshot_worker_move {conn next : Connection.State} {id : SessionId}
    {session new : Session} (move : State.WorkerMove conn next id session new)
    (taken : SnapshotTaken next) :
    SnapshotTaken conn ∧ next.promised = conn.promised := by
  have todo : next.todo = conn.todo := by rw [State.todo, State.todo, move.runTask]
  refine ⟨?_, by rw [State.promised, State.promised, move.subscribed, todo]⟩
  rcases taken with looping | ⟨other, member, alive⟩
  · exact .inl (todo ▸ looping)
  · rw [move.sessions] at member
    rcases List.mem_or_eq_of_mem_set member with old | rfl
    · exact .inr ⟨other, old, alive⟩
    · exact .inr ⟨session, List.mem_of_getElem? move.stored, move.dispatch alive⟩

theorem promised_of_alive {conn next : Connection.State} (sound : conn.WellFormed)
    {session : Session} (member : session ∈ conn.sessions)
    (alive : session.dispatch.alive = true) (subscribed : next.subscribed = conn.subscribed)
    (todo : next.todo = none ∨ next.todo = conn.todo) : next.promised = conn.promised := by
  have owned := sound.owned session member (by simp [Session.alive, alive])
  have through := todo_none_of_owner owned
  rw [through, or_self] at todo
  rw [State.promised, State.promised, subscribed, todo, through]

theorem cancel_for_dispatch (client : ClientId) (session : Session) :
    (session.cancelFor client).dispatch = session.dispatch := by
  unfold Session.cancelFor
  split <;> rfl

/-- A step of `_run` keeps the snapshot, drops it, or takes a new one of
`desired`. -/
theorem snapshot_run_move {desired : List String} {conn next : Connection.State}
    (sound : conn.WellFormed) (move : State.RunMove desired conn next)
    (taken : SnapshotTaken next) :
    next.promised = desired ∨ SnapshotTaken conn ∧ next.promised = conn.promised := by
  cases move with
  | kept sessions subscribed todo _ =>
      right
      rcases taken with looping | ⟨session, member, alive⟩
      · have same := todo.resolve_left looping
        refine ⟨.inl (same ▸ looping), ?_⟩
        rw [State.promised, State.promised, subscribed, same]
      · rw [sessions] at member
        exact ⟨.inr ⟨session, member, alive⟩,
          promised_of_alive sound member alive subscribed todo⟩
  | left client sessions subscribed todo _ =>
      right
      rcases taken with looping | ⟨session, member, alive⟩
      · exact absurd todo looping
      · rw [sessions] at member
        obtain ⟨old, oldMember, rfl⟩ := List.mem_map.mp member
        rw [cancel_for_dispatch] at alive
        exact ⟨.inr ⟨old, oldMember, alive⟩,
          promised_of_alive sound oldMember alive subscribed (.inl todo)⟩
  | subscribing _ promised _ => exact promised.imp id fun same => ⟨.inl same.1, same.2⟩
  | opened _ _ promised _ _ => exact promised.imp id fun same => ⟨.inl same.1, same.2⟩

theorem synced_wire {ctx : Context Obj Resp} {next : Connection.State}
    {event : Connection.Event} (synced : Synced ctx)
    (moved : ctx.conn.step ctx.router.registry.desiredSubscriptions event = some next) :
    Synced { ctx with conn := next } := by
  have sound := State.well_formed_step synced.sound moved
  have same := SameTables.refl ctx.router.registry
  by_cases ofRun : event.ofRun = true
  · have move := (State.run_move synced.sound.dormant ofRun moved).1
    refine ⟨sound, synced.tracked, ?_⟩
    intro taken topic wanted
    rcases snapshot_run_move synced.sound move taken with fresh | ⟨before, promised⟩
    · exact fresh ▸ wanted
    · exact promised ▸ synced.covers before topic wanted
  by_cases ofWorker : event.ofWorker = true
  · obtain ⟨_, _, _, move⟩ := State.worker_move ofWorker moved
    exact synced.of_same same sound (snapshot_worker_move move)
  cases event <;> simp [Event.ofRun, Event.ofWorker] at ofRun ofWorker
  case enqueued item =>
    rcases State.enqueued_cases moved with rfl | rfl
    · exact synced
    · exact synced.of_same same sound (fun taken => ⟨taken, rfl⟩)
  case putRan =>
    obtain ⟨item, rest, _, rfl⟩ := State.put_ran_cases moved
    exact synced.of_same same sound (fun taken => ⟨taken, rfl⟩)

theorem synced_step {serialize : Resp → Except PyException Json} {ctx next : Context Obj Resp}
    {event : NodeContext.Event Obj Resp} (synced : Synced ctx) (inTime : InTime ctx event)
    (taken : ctx.step serialize event = some next) : Synced next := by
  have sound := Context.well_formed_step synced.sound taken
  have same := SameTables.refl ctx.router.registry
  cases event with
  | called call =>
      cases taken
      obtain ⟨log, tracks⟩ := synced.tracked
      refine ⟨sound, ⟨log.perform call, tracks.perform call⟩, ?_⟩
      intro snapshot topic wanted
      rcases desired_perform wanted with old | new
      · exact synced.covers snapshot topic old
      · exact inTime snapshot topic new
  | publish id serialized =>
      cases taken
      rcases Context.publish_cases ctx id serialized with unchanged | counted | ⟨item, _, queued⟩
      · rw [unchanged]
        exact synced
      · rw [counted] at sound ⊢
        exact synced.of_same ⟨rfl, rfl, rfl, rfl⟩ sound (fun before => ⟨before, rfl⟩)
      · rw [queued] at sound ⊢
        exact synced.of_same same sound (fun before => ⟨before, rfl⟩)
  | received session message callbacks =>
      obtain ⟨client, drain, stored, passed | failed⟩ := Context.received_cases taken
      · obtain ⟨router, dispatched, rfl⟩ := passed
        exact synced.of_same (dispatch_same_tables dispatched) sound
          (fun before => ⟨before, rfl⟩)
      · obtain ⟨error, _, rfl⟩ := failed
        have move := @State.set_session_move ctx.conn ctx.conn session _
          ⟨client, drain, .raised error, false⟩ stored rfl (fun kept => kept) (fun _ => rfl)
          ⟨rfl, rfl, rfl, rfl, rfl, rfl⟩
        exact synced.of_same same sound (snapshot_worker_move move)
  | workStarted id =>
      obtain ⟨requests, _, rfl⟩ := Option.map_eq_some_iff.mp taken
      exact synced.of_same same sound (fun before => ⟨before, rfl⟩)
  | workEnded id outcome now =>
      obtain ⟨_, _, _, _, _, _, _, router, ⟨conn, _⟩ | ⟨_, _, _, conn, _⟩⟩ :=
        Context.work_ended_cases taken
      · refine synced.of_same (router ▸ same) sound (fun before => ?_)
        rw [conn] at before ⊢
        exact ⟨before, rfl⟩
      · refine synced.of_same (router ▸ same) sound (fun before => ?_)
        rw [conn] at before ⊢
        exact ⟨before, rfl⟩
  | wire event =>
      obtain ⟨conn, moved, rfl⟩ := Option.map_eq_some_iff.mp taken
      exact synced_wire synced moved

theorem synced_fresh : Synced (Context.fresh : Context Obj Resp) where
  sound := State.well_formed_fresh
  tracked := ⟨_, tracks_empty⟩
  covers := by
    rintro (looping | ⟨session, member, _⟩)
    · exact absurd rfl looping
    · cases member

/-- In every run in which no call registers a topic that the current client's
snapshot lacks, the live topics are subscribed whenever messages are dispatched. -/
theorem live_topics_subscribed_of_calls_in_time (serialize : Resp → Except PyException Json)
    (events : List (NodeContext.Event Obj Resp))
    (inTime : Guarded (Context.step serialize) InTime Context.fresh events) :
    Always (Context.step serialize) Covered Context.fresh events :=
  always_of_guarded (Context.step serialize)
    (fun _ _ _ synced met taken => synced_step synced met taken)
    (fun _ synced => synced.covered) synced_fresh inTime

/-- A subscriber created before the connection comes up. -/
def earlyRun : List (NodeContext.Event Unit Unit) :=
  [.called (.createSubscriber "external/+" 0 none), .wire .start, .wire .startResumed,
    .wire (.iterated true), .wire (.entered true), .wire (.subscribed true)]

theorem live_topics_subscribed_of_early_run :
    Always (Context.step fun _ : Unit => .error typeError) Covered Context.fresh earlyRun := by
  apply live_topics_subscribed_of_calls_in_time
  intro next taken
  cases taken
  refine ⟨?_, ?_⟩
  · rintro (looping | ⟨_, member, _⟩)
    · exact absurd rfl looping
    · cases member
  · refine fun next taken => ⟨trivial, ?_⟩
    cases taken
    refine fun next taken => ⟨trivial, ?_⟩
    cases taken
    refine fun next taken => ⟨trivial, ?_⟩
    cases taken
    refine fun next taken => ⟨trivial, ?_⟩
    cases taken
    exact fun next taken => ⟨trivial, trivial⟩

/-- A subscriber created while the connection is up. -/
def lateRun : List (NodeContext.Event Unit Unit) :=
  [.wire .start, .wire .startResumed, .wire (.iterated true), .wire (.entered true),
    .called (.createSubscriber "external/+" 0 none)]

/-- The late filter is live, and the broker was never asked for it. -/
theorem late_filter_is_not_subscribed :
    ∃ final, run (Context.step fun _ : Unit => .error typeError) Context.fresh lateRun =
        some final ∧ ¬ Covered final := by
  refine ⟨_, rfl, ?_⟩
  intro covered
  have alive : (Session.create 0).dispatch.alive = true := rfl
  have subscribed := (covered ⟨Session.create 0, List.mem_singleton_self _, alive⟩).1
    ⟨"external/+", none, none, 0, true⟩ (List.mem_singleton_self _) rfl
  cases subscribed

end RemoteIface.Commlib.Coverage
