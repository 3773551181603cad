import RemoteIface.Commlib.NodeContext

/-!
The way of a message from `_outgoing` to the broker. The drain task takes an
item off the queue before it publishes it, so an item is published, queued or
in the hands of the drain task; it is lost when its publish raises or its
drain task is cancelled, and in no other way.
-/

namespace RemoteIface.Commlib.OutgoingQueue

set_option autoImplicit false

open RemoteIface.Library.Runs
open RemoteIface.Commlib.Payload
open RemoteIface.Commlib.Endpoints
open RemoteIface.Commlib.Rpc
open RemoteIface.Commlib.Dispatch
open RemoteIface.Commlib.Connection
open RemoteIface.Commlib.NodeContext

/-- What was published, what is being published and what is queued make up what
was put on `_outgoing`, in order. -/
def Lossless (conn : Connection.State) : Prop :=
  conn.published ++ conn.inFlight ++ conn.outgoing = conn.accepted

def LosesItem (conn : Connection.State) : Connection.Event → Prop
  | .published _ false => True
  | .drainCancelled id =>
      ∃ session item, conn.sessions[id]? = some session ∧ session.drain = .publishing item
  | _ => False

theorem in_flight_dead {session : Session} (dead : session.alive = false) :
    session.drain.inFlight = [] := by
  simp only [Session.alive, Bool.or_eq_false_iff] at dead
  cases drain : session.drain <;> simp_all [DrainTask.alive, DrainTask.inFlight]

theorem in_flight_of_last {sessions : List Session} {id : SessionId} {session : Session}
    (stored : sessions[id]? = some session) (isLast : id + 1 = sessions.length)
    (older : ∀ other current, sessions[other]? = some current → current.alive = true →
      other + 1 = sessions.length) (new : Session) :
    (sessions.set id new).flatMap (fun current => current.drain.inFlight) =
      new.drain.inFlight := by
  obtain ⟨before, last, rfl⟩ := List.eq_nil_or_concat' sessions |>.resolve_left (by
    rintro rfl
    simp at isLast)
  have position : id = before.length := by simpa using isLast
  subst position
  have empty : before.flatMap (fun current => current.drain.inFlight) = [] := by
    rw [List.flatMap_eq_nil_iff]
    intro current member
    obtain ⟨other, inside, rfl⟩ := List.getElem_of_mem member
    apply in_flight_dead
    by_contra alive
    have position := older other before[other]
      (by rw [List.getElem?_append_left inside, List.getElem?_eq_getElem inside])
      (by simpa using alive)
    simp at position
    omega
  simp [List.set_append_right, empty]

theorem in_flight_set {conn : Connection.State} (sound : conn.WellFormed) {id : SessionId}
    {session : Session} (stored : conn.sessions[id]? = some session)
    (alive : session.alive = true) (base : Connection.State)
    (same : base.sessions = conn.sessions) (new : Session) :
    (base.setSession id new).inFlight = new.drain.inFlight := by
  have isLast := sound.last id session stored alive
  simp only [State.inFlight, State.setSession, same]
  exact in_flight_of_last stored isLast sound.last new

theorem in_flight_alive {conn : Connection.State} (sound : conn.WellFormed) {id : SessionId}
    {session : Session} (stored : conn.sessions[id]? = some session)
    (alive : session.alive = true) : conn.inFlight = session.drain.inFlight := by
  have unchanged : conn.setSession id session = conn := by
    have same : conn.sessions.set id session = conn.sessions := by
      obtain ⟨inside, rfl⟩ := List.getElem?_eq_some_iff.mp stored
      exact List.set_getElem_self inside
    simp [State.setSession, same]
  rw [← in_flight_set sound stored alive conn rfl session, unchanged]

theorem same_drain_in_flight {conn : Connection.State} (sound : conn.WellFormed)
    {id : SessionId} {session : Session} (stored : conn.sessions[id]? = some session)
    (alive : session.alive = true) (new : Session) (drain : new.drain = session.drain) :
    (conn.setSession id new).inFlight = conn.inFlight := by
  rw [in_flight_set sound stored alive conn rfl new, drain, in_flight_alive sound stored alive]

theorem run_move_in_flight {desired : List String} {conn next : Connection.State}
    (move : State.RunMove desired conn next) : next.inFlight = conn.inFlight := by
  unfold State.inFlight
  cases move with
  | kept sessions _ _ _ => rw [sessions]
  | left client sessions _ _ _ =>
      rw [sessions, List.flatMap_map]
      congr 1
      funext session
      unfold Session.cancelFor
      split <;> rfl
  | subscribing sessions _ _ => rw [sessions]
  | opened client sessions _ _ _ =>
      rw [sessions]
      simp [Session.create, DrainTask.inFlight]

/-- Where the items are that were put on the queue and are not lost. -/
def held (conn : Connection.State) : List Outgoing :=
  conn.published ++ conn.inFlight ++ conn.outgoing

def ItemsKept (conn next : Connection.State) : Prop :=
  ∃ new, held next = held conn ++ new ∧ next.accepted = conn.accepted ++ new

def ItemLost (conn next : Connection.State) : Prop :=
  ∃ before item after, held conn = before ++ item :: after ∧ held next = before ++ after ∧
    next.accepted = conn.accepted

theorem items_kept_of_held {conn next : Connection.State} (same : held next = held conn)
    (accepted : next.accepted = conn.accepted) : ItemsKept conn next :=
  ⟨[], by rw [same, List.append_nil], by rw [accepted, List.append_nil]⟩

theorem items_kept_of_same {conn next : Connection.State}
    (inFlight : next.inFlight = conn.inFlight) (outgoing : next.outgoing = conn.outgoing)
    (accepted : next.accepted = conn.accepted) (published : next.published = conn.published) :
    ItemsKept conn next := by
  apply items_kept_of_held _ accepted
  rw [held, held, inFlight, outgoing, published]

theorem item_lost_of_publishing {conn : Connection.State} (sound : conn.WellFormed)
    {id : SessionId} {session : Session} (stored : conn.sessions[id]? = some session)
    (alive : session.alive = true) {item : Outgoing} (drain : session.drain = .publishing item)
    (new : Session) (empty : new.drain.inFlight = []) :
    ItemLost conn (conn.setSession id new) := by
  refine ⟨conn.published, item, conn.outgoing, ?_, ?_, rfl⟩
  · rw [held, in_flight_alive sound stored alive, drain]
    simp [DrainTask.inFlight]
  · rw [held, in_flight_set sound stored alive conn rfl new, empty, List.append_nil]
    rfl

/-- A step of the connection loses the item in the hands of the drain task, or
it loses none. -/
theorem item_step_cases {desired : List String} {conn next : Connection.State}
    {event : Connection.Event} (sound : conn.WellFormed)
    (taken : conn.step desired event = some next) :
    ¬ LosesItem conn event ∧ ItemsKept conn next ∨
      LosesItem conn event ∧ ItemLost conn next := by
  by_cases ofRun : event.ofRun = true
  · obtain ⟨move, _, outgoing, accepted, published⟩ := State.run_move sound.dormant ofRun taken
    have harmless : ¬ LosesItem conn event := by
      cases event <;> simp [Event.ofRun, LosesItem] at ofRun ⊢
    exact .inl ⟨harmless,
      items_kept_of_same (run_move_in_flight move) outgoing accepted published⟩
  cases event <;> simp only [Event.ofRun, not_true_eq_false] at ofRun
  case drainTook id =>
    obtain ⟨client, dispatch, item, rest, stored, queue, rfl⟩ := State.drain_took_cases taken
    refine .inl ⟨fun never => never, items_kept_of_held ?_ rfl⟩
    have before := in_flight_alive sound stored rfl
    have after := in_flight_set sound stored rfl { conn with outgoing := rest } rfl
      ⟨client, .publishing item, dispatch, false⟩
    rw [held, held, before, queue, after]
    simp [State.setSession, DrainTask.inFlight]
  case published id returned =>
    obtain ⟨client, item, dispatch, stored, rfl⟩ := State.publish_ended_cases taken
    cases returned with
    | true =>
        rw [if_pos rfl]
        refine .inl ⟨fun never => never, items_kept_of_held ?_ rfl⟩
        have before := in_flight_alive sound stored rfl
        have after := in_flight_set sound stored rfl
          { conn with published := conn.published ++ [item] } rfl
          ⟨client, .waiting, dispatch, false⟩
        rw [held, held, before, after]
        simp [State.setSession, DrainTask.inFlight]
    | false =>
        rw [if_neg (by simp)]
        exact .inr ⟨trivial, item_lost_of_publishing sound stored rfl rfl _ rfl⟩
  case messagesEnded id raised =>
    obtain ⟨client, drain, stored, rfl⟩ := State.messages_ended_cases taken
    have running : (⟨client, drain, .iterating, false⟩ : Session).alive = true := by
      simp [Session.alive, DispatchTask.alive]
    have same := same_drain_in_flight sound stored running
      ⟨client, drain, if raised then .lost else .returned, false⟩ rfl
    exact .inl ⟨fun never => never, items_kept_of_same same rfl rfl rfl⟩
  case drainCancelled id =>
    obtain ⟨session, stored, alive, rfl⟩ := State.drain_cancelled_cases taken
    have running : session.alive = true := by simp [Session.alive, alive]
    cases drain : session.drain with
    | waiting =>
        refine .inl ⟨?_, items_kept_of_same ?_ rfl rfl rfl⟩
        · rintro ⟨other, item, found, publishing⟩
          rw [stored, Option.some.injEq] at found
          rw [← found, drain] at publishing
          cases publishing
        · rw [in_flight_set sound stored running conn rfl,
            in_flight_alive sound stored running, drain]
          rfl
    | publishing item =>
        exact .inr ⟨⟨session, item, stored, drain⟩,
          item_lost_of_publishing sound stored running drain _ rfl⟩
    | raised item => simp [drain, DrainTask.alive] at alive
    | cancelled => simp [drain, DrainTask.alive] at alive
  case dispatchCancelled id =>
    obtain ⟨session, stored, alive, rfl⟩ := State.dispatch_cancelled_cases taken
    have running : session.alive = true := by simp [Session.alive, alive]
    have same := same_drain_in_flight sound stored running
      { session with dispatch := .cancelled } rfl
    exact .inl ⟨fun never => never, items_kept_of_same same rfl rfl rfl⟩
  case enqueued item =>
    rcases State.enqueued_cases taken with rfl | rfl
    · exact .inl ⟨fun never => never, items_kept_of_held rfl rfl⟩
    · exact .inl ⟨fun never => never, items_kept_of_held rfl rfl⟩
  case putRan =>
    obtain ⟨item, rest, _, rfl⟩ := State.put_ran_cases taken
    refine .inl ⟨fun never => never, [item], ?_, rfl⟩
    exact (List.append_assoc _ conn.outgoing [item]).symm

theorem ItemsKept.lossless {conn next : Connection.State} (kept : ItemsKept conn next)
    (lossless : Lossless conn) : Lossless next := by
  obtain ⟨new, same, accepted⟩ := kept
  have before : held conn = conn.accepted := lossless
  have after : held next = next.accepted := by rw [same, before, accepted]
  exact after

theorem ItemLost.not_lossless {conn next : Connection.State} (lost : ItemLost conn next)
    (lossless : Lossless conn) : ¬ Lossless next := by
  obtain ⟨before, item, after, whole, rest, accepted⟩ := lost
  intro kept
  have all : held conn = conn.accepted := lossless
  have still : held next = next.accepted := kept
  have lengths := congrArg List.length (all.trans (accepted.symm.trans still.symm))
  rw [whole, rest] at lengths
  simp at lengths

/-- A step of the connection keeps the queue lossless exactly when it loses no
item. -/
theorem lossless_step_iff {desired : List String} {conn next : Connection.State}
    {event : Connection.Event} (sound : conn.WellFormed) (lossless : Lossless conn)
    (taken : conn.step desired event = some next) :
    Lossless next ↔ ¬ LosesItem conn event := by
  rcases item_step_cases sound taken with ⟨harmless, kept⟩ | ⟨loses, lost⟩
  · exact iff_of_true (kept.lossless lossless) harmless
  · exact iff_of_false (lost.not_lossless lossless) (fun harmless => harmless loses)

/-- Every item on the queue is published at most once, in the order of the
queue. -/
def Drained (conn : Connection.State) : Prop := (held conn).Sublist conn.accepted

theorem ItemsKept.drained {conn next : Connection.State} (kept : ItemsKept conn next)
    (drained : Drained conn) : Drained next := by
  obtain ⟨new, same, accepted⟩ := kept
  rw [Drained, same, accepted]
  exact drained.append_right new

theorem ItemLost.drained {conn next : Connection.State} (lost : ItemLost conn next)
    (drained : Drained conn) : Drained next := by
  obtain ⟨before, item, after, whole, rest, accepted⟩ := lost
  rw [Drained, whole] at drained
  rw [Drained, rest, accepted]
  exact ((List.sublist_cons_self item after).append_left before).trans drained

theorem drained_step {desired : List String} {conn next : Connection.State}
    {event : Connection.Event} (sound : conn.WellFormed) (drained : Drained conn)
    (taken : conn.step desired event = some next) : Drained next := by
  rcases item_step_cases sound taken with ⟨_, kept⟩ | ⟨_, lost⟩
  · exact kept.drained drained
  · exact lost.drained drained

variable {Obj Resp : Type}

/-- `LosesItem` for an event of the whole context. -/
def Loses (ctx : Context Obj Resp) : NodeContext.Event Obj Resp → Prop
  | .wire event => LosesItem ctx.conn event
  | _ => False

theorem raised_in_flight {conn : Connection.State} (sound : conn.WellFormed) {id : SessionId}
    {client : ClientId} {drain : DrainTask}
    (stored : conn.sessions[id]? = some ⟨client, drain, .iterating, false⟩) (error : PyException) :
    (conn.setSession id ⟨client, drain, .raised error, false⟩).inFlight = conn.inFlight := by
  have running : (⟨client, drain, .iterating, false⟩ : Session).alive = true := by
    simp [Session.alive, DispatchTask.alive]
  exact same_drain_in_flight sound stored running ⟨client, drain, .raised error, false⟩ rfl

theorem lossless_context_step_iff {serialize : Resp → Except PyException Json}
    {ctx next : Context Obj Resp} {event : NodeContext.Event Obj Resp}
    (sound : ctx.conn.WellFormed) (lossless : Lossless ctx.conn)
    (taken : ctx.step serialize event = some next) :
    Lossless next.conn ↔ ¬ Loses ctx event := by
  cases Context.conn_move taken with
  | scheduled apart items conn =>
      rw [conn]
      refine iff_of_true lossless fun loses => apart ?_
      cases event with
      | wire event => trivial
      | _ => exact loses.elim
  | @raised _ _ _ _ _ error stored conn =>
      rw [conn]
      have kept := items_kept_of_same (raised_in_flight sound stored error) rfl rfl rfl
      exact iff_of_true (kept.lossless lossless) fun never => never
  | stepped moved => exact lossless_step_iff sound lossless moved

theorem drained_context_step {serialize : Resp → Except PyException Json}
    {ctx next : Context Obj Resp} {event : NodeContext.Event Obj Resp}
    (sound : ctx.conn.WellFormed) (drained : Drained ctx.conn)
    (taken : ctx.step serialize event = some next) : Drained next.conn := by
  cases Context.conn_move taken with
  | scheduled _ items conn =>
      rw [conn]
      exact drained
  | @raised _ _ _ _ _ error stored conn =>
      rw [conn]
      have kept := items_kept_of_same (raised_in_flight sound stored error) rfl rfl rfl
      exact kept.drained drained
  | stepped moved => exact drained_step sound drained moved

/-- In every run the queue is lossless in all states exactly when no publish
raises and no drain task is cancelled with an item in its hands. -/
theorem outgoing_lossless_iff_no_item_dropped (serialize : Resp → Except PyException Json)
    (events : List (NodeContext.Event Obj Resp)) :
    Always (Context.step serialize) (fun ctx => Lossless ctx.conn) Context.fresh events ↔
      Guarded (Context.step serialize) (fun ctx event => ¬ Loses ctx event) Context.fresh
        events := by
  refine always_iff_guarded (Context.step serialize) (fun ctx _ _ sound taken =>
    Context.well_formed_step sound taken) ?_ State.well_formed_fresh rfl
  intro ctx event next sound lossless taken
  exact lossless_context_step_iff sound lossless taken

/-- One publication whose `client.publish` raises because the broker is gone. -/
def droppedRun : List (NodeContext.Event Unit Unit) :=
  [.called (.createPublisher "bot/notify"), .wire .start, .wire .startResumed,
    .wire (.iterated true), .wire (.entered true), .publish 0 (.ok (.str "note")),
    .wire .putRan, .wire (.drainTook 0), .wire (.published 0 false)]

/-- The item was put on the queue and is in no place any more. -/
theorem dropped_item_is_lost :
    ∃ final, run (Context.step fun _ => .error typeError) Context.fresh droppedRun = some final ∧
      final.conn.accepted.length = 1 ∧ ¬ Lossless final.conn := by
  refine ⟨_, rfl, rfl, ?_⟩
  intro kept
  exact absurd (congrArg List.length kept) (by decide)

end RemoteIface.Commlib.OutgoingQueue
