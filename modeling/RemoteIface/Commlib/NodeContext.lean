import RemoteIface.Commlib.ConnectionSteps
import RemoteIface.Commlib.Dispatch

/-!
One `NodeContext` as a whole: its endpoints, the requests its services work
on, and its connection. The events are the calls of the host, the messages the
broker delivers, the worker threads of the services and the steps of the
connection, in any order.
-/

namespace RemoteIface.Commlib.NodeContext

set_option autoImplicit false

open RemoteIface.Commlib.Payload
open RemoteIface.Commlib.Endpoints
open RemoteIface.Commlib.Rpc
open RemoteIface.Commlib.Dispatch
open RemoteIface.Commlib.Connection

/-- `replies` records what `_on_rpc_future_done` enqueued, by request. -/
structure Context (Obj Resp : Type) where
  router : Router Obj Resp
  conn : Connection.State
  replies : List (RequestId × Outgoing)

/-- The payload of a publication is what `serialize` made of the message; the
time of a finished request is the clock of its reply. -/
inductive Event (Obj Resp : Type) where
  | called (call : RegistryCall Obj)
  | publish (id : PublisherId) (serialized : Except PyException Json)
  | received (session : SessionId) (message : Message) (callbacks : Callbacks Obj)
  | workStarted (id : RequestId)
  | workEnded (id : RequestId) (outcome : Outcome Resp) (now : Int)
  | wire (event : Connection.Event)

variable {Obj Resp : Type}

namespace Context

def fresh : Context Obj Resp := ⟨.empty, .fresh, []⟩

/-- `Publisher.publish` drops a message it cannot send and counts the failure. -/
def countFailure (ctx : Context Obj Resp) (id : PublisherId) : Context Obj Resp :=
  { ctx with
    router := { ctx.router with
      registry := { ctx.router.registry with
        publishers := ctx.router.registry.publishers.modify id fun publisher =>
          { publisher with publishFailureCount := publisher.publishFailureCount + 1 } } } }

def publish (ctx : Context Obj Resp) (id : PublisherId)
    (serialized : Except PyException Json) : Context Obj Resp :=
  match ctx.router.registry.publishers[id]? with
  | none => ctx
  | some publisher =>
      if publisher.started then
        match serialized with
        | .error _ => ctx.countFailure id
        | .ok payload =>
            match ctx.conn.enqueueOutgoing ⟨.str publisher.topic, payload, 0⟩ with
            | .error _ => ctx.countFailure id
            | .ok conn => { ctx with conn := conn }
      else ctx.countFailure id

/-- One pass of the loop of `_dispatch_incoming`. -/
def received (ctx : Context Obj Resp) (session : SessionId) (message : Message)
    (callbacks : Callbacks Obj) : Option (Context Obj Resp) :=
  match ctx.conn.worker session with
  | some ⟨client, drain, .iterating, requested⟩ =>
      match dispatchIncoming callbacks ctx.router message with
      | .ok router => some { ctx with router := router }
      | .error error =>
          some { ctx with
            conn := ctx.conn.setSession session ⟨client, drain, .raised error, requested⟩ }
  | _ => none

def workStarted (ctx : Context Obj Resp) (id : RequestId) : Option (Context Obj Resp) :=
  (startWork ctx.router.registry ctx.router.requests id).map fun requests =>
    { ctx with router := { ctx.router with requests := requests } }

/-- The handler of a request ends and the done-callback runs. What the
callback raises is logged by the executor. -/
def workEnded (serialize : Resp → Except PyException Json) (ctx : Context Obj Resp)
    (id : RequestId) (outcome : Outcome Resp) (now : Int) : Option (Context Obj Resp) :=
  match finishWork ctx.router.requests id outcome with
  | none => none
  | some (requests, finished) =>
      let done : Context Obj Resp :=
        { ctx with router := { ctx.router with requests := requests } }
      match onRpcFutureDone serialize now finished with
      | none => some done
      | some reply =>
          match ctx.conn.enqueueOutgoing reply with
          | .error _ => some done
          | .ok conn => some { done with conn := conn, replies := ctx.replies ++ [(id, reply)] }

def step (serialize : Resp → Except PyException Json) (ctx : Context Obj Resp) :
    Event Obj Resp → Option (Context Obj Resp)
  | .called call => some { ctx with router := ctx.router.perform call }
  | .publish id serialized => some (ctx.publish id serialized)
  | .received session message callbacks => ctx.received session message callbacks
  | .workStarted id => ctx.workStarted id
  | .workEnded id outcome now => ctx.workEnded serialize id outcome now
  | .wire event =>
      (ctx.conn.step ctx.router.registry.desiredSubscriptions event).map fun conn =>
        { ctx with conn := conn }

theorem enqueue_cases {conn next : Connection.State} {item : Outgoing}
    (queued : conn.enqueueOutgoing item = .ok next) :
    conn.loopSet = true ∧ next = { conn with scheduled := conn.scheduled ++ [item] } := by
  unfold State.enqueueOutgoing at queued
  split at queued <;> cases queued
  rename_i set
  exact ⟨set, rfl⟩

theorem publish_cases (ctx : Context Obj Resp) (id : PublisherId)
    (serialized : Except PyException Json) :
    ctx.publish id serialized = ctx ∨ ctx.publish id serialized = ctx.countFailure id ∨
      ∃ item : Outgoing, item.qos = 0 ∧
        ctx.publish id serialized =
          { ctx with conn := { ctx.conn with scheduled := ctx.conn.scheduled ++ [item] } } := by
  unfold publish
  split
  · exact .inl rfl
  · rename_i publisher _
    split
    · split
      · exact .inr (.inl rfl)
      · rename_i payload
        split
        · exact .inr (.inl rfl)
        · rename_i conn queued
          obtain ⟨_, rfl⟩ := enqueue_cases queued
          exact .inr (.inr ⟨⟨.str publisher.topic, payload, 0⟩, rfl, rfl⟩)
    · exact .inr (.inl rfl)

theorem received_cases {ctx next : Context Obj Resp} {session : SessionId} {message : Message}
    {callbacks : Callbacks Obj} (taken : ctx.received session message callbacks = some next) :
    ∃ client drain, ctx.conn.sessions[session]? = some ⟨client, drain, .iterating, false⟩ ∧
      ((∃ router, dispatchIncoming callbacks ctx.router message = .ok router ∧
          next = { ctx with router := router }) ∨
        ∃ error, message.payload = .raised error ∧
          next = { ctx with
            conn := ctx.conn.setSession session ⟨client, drain, .raised error, false⟩ }) := by
  unfold received at taken
  split at taken
  · rename_i client drain requested found
    obtain ⟨stored, calm⟩ := State.worker_some found
    cases calm
    refine ⟨client, drain, stored, ?_⟩
    split at taken <;> cases taken <;> rename_i dispatched
    · exact .inl ⟨_, dispatched, rfl⟩
    · unfold dispatchIncoming at dispatched
      split at dispatched <;> cases dispatched
      rename_i raised
      exact .inr ⟨_, raised, rfl⟩
  · cases taken

theorem work_ended_cases {serialize : Resp → Except PyException Json}
    {ctx next : Context Obj Resp} {id : RequestId} {outcome : Outcome Resp} {now : Int}
    (taken : ctx.workEnded serialize id outcome now = some next) :
    ∃ request executor decoded finished,
      ctx.router.requests[id]? = some request ∧ request.work = .running executor decoded ∧
      finished = { request with work := outcome.work decoded } ∧
      next.router = { ctx.router with requests := ctx.router.requests.set id finished } ∧
      ((next.conn = ctx.conn ∧ next.replies = ctx.replies ∧
          (onRpcFutureDone serialize now finished = none ∨ ctx.conn.loopSet = false)) ∨
        ∃ reply, onRpcFutureDone serialize now finished = some reply ∧
          ctx.conn.loopSet = true ∧
          next.conn = { ctx.conn with scheduled := ctx.conn.scheduled ++ [reply] } ∧
          next.replies = ctx.replies ++ [(id, reply)]) := by
  unfold workEnded finishWork at taken
  split at taken
  · cases taken
  · rename_i requests finished ended
    split at ended
    · cases ended
    · rename_i request stored
      split at ended <;> cases ended
      rename_i executor decoded running
      refine ⟨request, executor, decoded, _, stored, running, rfl, ?_⟩
      dsimp only at taken
      split at taken
      · rename_i silent
        cases taken
        exact ⟨rfl, .inl ⟨rfl, rfl, .inl silent⟩⟩
      · rename_i reply replied
        split at taken
        · rename_i error refused
          cases taken
          refine ⟨rfl, .inl ⟨rfl, rfl, .inr ?_⟩⟩
          unfold State.enqueueOutgoing at refused
          split at refused
          · cases refused
          · rename_i unset
            simpa using unset
        · rename_i conn queued
          obtain ⟨set, rfl⟩ := enqueue_cases queued
          cases taken
          exact ⟨rfl, .inr ⟨reply, replied, set, rfl, rfl⟩⟩

theorem work_started_conn {ctx next : Context Obj Resp} {id : RequestId}
    (taken : ctx.workStarted id = some next) :
    next.conn = ctx.conn ∧ next.replies = ctx.replies ∧
      next.router.registry = ctx.router.registry := by
  obtain ⟨requests, _, rfl⟩ := Option.map_eq_some_iff.mp taken
  exact ⟨rfl, rfl, rfl⟩

theorem well_formed_scheduled {conn : Connection.State} (sound : conn.WellFormed)
    (scheduled : List Outgoing) :
    State.WellFormed { conn with scheduled := scheduled } :=
  ⟨sound.owned, sound.last, sound.dormant⟩

def OfConnection : Event Obj Resp → Prop
  | .wire _ => True
  | _ => False

/-- What an event does to the connection. An event of the context itself
schedules a `put_nowait` at most, or ends the dispatch task it runs in. -/
inductive ConnMove (ctx next : Context Obj Resp) : Event Obj Resp → Prop where
  | scheduled {event : Event Obj Resp} (apart : ¬ OfConnection event) (items : List Outgoing)
      (conn : next.conn = { ctx.conn with scheduled := items }) :
      ConnMove ctx next event
  | raised {session : SessionId} {message : Message} {callbacks : Callbacks Obj}
      {client : ClientId} {drain : DrainTask} {error : PyException}
      (stored : ctx.conn.sessions[session]? = some ⟨client, drain, .iterating, false⟩)
      (conn : next.conn = ctx.conn.setSession session ⟨client, drain, .raised error, false⟩) :
      ConnMove ctx next (.received session message callbacks)
  | stepped {event : Connection.Event}
      (taken : ctx.conn.step ctx.router.registry.desiredSubscriptions event = some next.conn) :
      ConnMove ctx next (.wire event)

theorem conn_move {serialize : Resp → Except PyException Json} {ctx next : Context Obj Resp}
    {event : Event Obj Resp} (taken : ctx.step serialize event = some next) :
    ConnMove ctx next event := by
  cases event with
  | called call =>
      cases taken
      exact .scheduled not_false ctx.conn.scheduled rfl
  | publish id serialized =>
      cases taken
      rcases publish_cases ctx id serialized with same | counted | ⟨item, _, queued⟩
      · exact .scheduled not_false ctx.conn.scheduled (by rw [same])
      · exact .scheduled not_false ctx.conn.scheduled (by rw [counted]; rfl)
      · exact .scheduled not_false (ctx.conn.scheduled ++ [item]) (by rw [queued])
  | received session message callbacks =>
      obtain ⟨client, drain, stored, passed | failed⟩ := received_cases taken
      · obtain ⟨router, _, rfl⟩ := passed
        exact .scheduled not_false ctx.conn.scheduled rfl
      · obtain ⟨error, _, rfl⟩ := failed
        exact .raised stored rfl
  | workStarted id =>
      exact .scheduled not_false ctx.conn.scheduled (work_started_conn taken).1
  | workEnded id outcome now =>
      obtain ⟨_, _, _, _, _, _, _, _, ⟨conn, _⟩ | ⟨reply, _, _, conn, _⟩⟩ := work_ended_cases taken
      · exact .scheduled not_false ctx.conn.scheduled conn
      · exact .scheduled not_false (ctx.conn.scheduled ++ [reply]) conn
  | wire event =>
      obtain ⟨conn, moved, rfl⟩ := Option.map_eq_some_iff.mp taken
      exact .stepped moved

theorem well_formed_step {serialize : Resp → Except PyException Json}
    {ctx next : Context Obj Resp} {event : Event Obj Resp} (sound : ctx.conn.WellFormed)
    (taken : ctx.step serialize event = some next) : next.conn.WellFormed := by
  cases conn_move taken with
  | scheduled _ items conn =>
      rw [conn]
      exact well_formed_scheduled sound items
  | @raised session _ _ client drain error stored conn =>
      rw [conn]
      have move := @State.set_session_move ctx.conn ctx.conn session _
        ⟨client, drain, .raised error, false⟩ stored rfl (fun kept => kept) (fun _ => rfl)
        ⟨rfl, rfl, rfl, rfl, rfl, rfl⟩
      exact sound.of_worker_move sound.dormant move
  | stepped moved => exact State.well_formed_step sound moved

/-- A request exists only when the loop is known to `_enqueue_outgoing`. -/
def Prepared (ctx : Context Obj Resp) : Prop :=
  ctx.conn.LoopKnown ∧ (ctx.router.requests ≠ [] → ctx.conn.loopSet = true)

theorem prepared_fresh : Prepared (fresh : Context Obj Resp) :=
  ⟨fun made => by simp [fresh, State.fresh] at made, fun known => absurd rfl known⟩

@[simp] theorem shutdown_nil_iff (requests : List (Request Obj Resp)) (executor : ExecutorId) :
    shutdown requests executor = [] ↔ requests = [] := by
  simp [shutdown]

theorem prepared_step {serialize : Resp → Except PyException Json} {ctx next : Context Obj Resp}
    {event : Event Obj Resp} (prepared : ctx.Prepared)
    (taken : ctx.step serialize event = some next) : next.Prepared := by
  obtain ⟨known, requested⟩ := prepared
  cases event with
  | called call =>
      cases taken
      refine ⟨known, fun some_request => requested ?_⟩
      unfold Router.perform at some_request
      dsimp only at some_request
      split at some_request
      · split at some_request
        · exact some_request
        · simpa using some_request
      · exact some_request
  | publish id serialized =>
      cases taken
      rcases publish_cases ctx id serialized with same | counted | ⟨item, _, queued⟩
      · rw [same]
        exact ⟨known, requested⟩
      · rw [counted]
        exact ⟨known, requested⟩
      · rw [queued]
        exact ⟨known, requested⟩
  | received session message callbacks =>
      obtain ⟨client, drain, stored, passed | failed⟩ := received_cases taken
      · obtain ⟨router, _, rfl⟩ := passed
        have some_session : ctx.conn.sessions ≠ [] :=
          List.ne_nil_of_mem (List.mem_of_getElem? stored)
        exact ⟨known, fun _ => known (.inr some_session)⟩
      · obtain ⟨error, _, rfl⟩ := failed
        refine ⟨fun _ => ?_, requested⟩
        exact known (.inr (List.ne_nil_of_mem (List.mem_of_getElem? stored)))
  | workStarted id =>
      obtain ⟨requests, started, rfl⟩ := Option.map_eq_some_iff.mp taken
      refine ⟨known, fun _ => requested ?_⟩
      rintro nothing
      simp [nothing, startWork] at started
  | workEnded id outcome now =>
      obtain ⟨request, _, _, _, stored, _, _, _, ⟨conn, _⟩ | ⟨_, _, _, conn, _⟩⟩ :=
        work_ended_cases taken
      all_goals
        have set := requested (List.ne_nil_of_mem (List.mem_of_getElem? stored))
        refine ⟨fun _ => ?_, fun _ => ?_⟩ <;> rw [conn] <;> exact set
  | wire event =>
      obtain ⟨conn, moved, rfl⟩ := Option.map_eq_some_iff.mp taken
      obtain ⟨knownNext, kept⟩ := State.loop_known_step known moved
      exact ⟨knownNext, fun some_request => kept (requested some_request)⟩

def Sound (ctx : Context Obj Resp) : Prop := ctx.conn.WellFormed ∧ ctx.Prepared

theorem sound_fresh : Sound (fresh : Context Obj Resp) :=
  ⟨State.well_formed_fresh, prepared_fresh⟩

theorem sound_step {serialize : Resp → Except PyException Json} {ctx next : Context Obj Resp}
    {event : Event Obj Resp} (sound : ctx.Sound) (taken : ctx.step serialize event = some next) :
    next.Sound :=
  ⟨well_formed_step sound.1 taken, prepared_step sound.2 taken⟩

end Context

/-- The outcome of the handler of request `id`, when the event is its end. -/
def Event.ends (id : RequestId) : Event Obj Resp → Option (Outcome Resp)
  | .workEnded other outcome _ => if other = id then some outcome else none
  | _ => none

/-- What an event can do to the work of a request, by the outcome it brings. -/
inductive Progress : Work Obj Resp → Work Obj Resp → Option (Outcome Resp) → Prop where
  | same (work : Work Obj Resp) : Progress work work none
  | started (executor : ExecutorId) (request : Obj) :
      Progress (.queued executor request) (.running executor request) none
  | cancelled (executor : ExecutorId) (request : Obj) :
      Progress (.queued executor request) (.cancelled request) none
  | ended (executor : ExecutorId) (request : Obj) (outcome : Outcome Resp) :
      Progress (.running executor request) (outcome.work request) (some outcome)

namespace Context

theorem cancel_queued_progress (executor : ExecutorId) (request : Request Obj Resp) :
    ∃ work, request.cancelQueued executor = { request with work := work } ∧
      Progress request.work work none := by
  unfold Request.cancelQueued
  split
  · rename_i owner decoded queued
    split
    · exact ⟨.cancelled decoded, rfl, queued ▸ .cancelled owner decoded⟩
    · exact ⟨request.work, rfl, .same _⟩
  · exact ⟨request.work, rfl, .same _⟩

theorem perform_progress {router : Router Obj Resp} {id : RequestId}
    {request : Request Obj Resp} (call : RegistryCall Obj)
    (stored : router.requests[id]? = some request) :
    ∃ work, (router.perform call).requests[id]? = some { request with work := work } ∧
      Progress request.work work none := by
  have unchanged : ∃ work, router.requests[id]? = some { request with work := work } ∧
      Progress request.work work none := ⟨request.work, stored, .same _⟩
  unfold Router.perform
  dsimp only
  split
  · split
    · exact unchanged
    · rename_i executor _
      obtain ⟨work, changed, progress⟩ := cancel_queued_progress executor request
      refine ⟨work, ?_, progress⟩
      rw [shutdown, List.getElem?_map, stored, Option.map_some, changed]
  · exact unchanged

theorem start_work_progress {registry : Registry Obj} {requests next : List (Request Obj Resp)}
    {started id : RequestId} {request : Request Obj Resp}
    (taken : startWork registry requests started = some next)
    (stored : requests[id]? = some request) :
    ∃ work, next[id]? = some { request with work := work } ∧
      Progress request.work work none := by
  unfold startWork at taken
  split at taken
  · cases taken
  · rename_i first firstStored
    split at taken
    · rename_i executor decoded queued
      dsimp only at taken
      split at taken <;> cases taken
      rw [List.getElem?_set]
      split
      · rename_i same
        rw [← same, firstStored] at stored
        cases stored
        refine ⟨.running executor decoded, ?_, queued ▸ .started executor decoded⟩
        rw [if_pos (List.getElem?_eq_some_iff.mp firstStored).1]
      · exact ⟨request.work, stored, .same _⟩
    · cases taken

theorem route_message_requests (callbacks : Callbacks Obj) (router : Router Obj Resp)
    (topic : String) (data : Json) :
    (∃ msgType service,
        router.registry.commandTable.get? topic = some (msgType, service) ∧
        (routeMessage callbacks router topic data).requests =
          router.requests ++ [dispatchRpc router.registry topic data msgType service]) ∨
      router.registry.commandTable.get? topic = none ∧
        (routeMessage callbacks router topic data).requests = router.requests := by
  unfold routeMessage
  split
  · rename_i msgType service entry
    exact .inl ⟨msgType, service, entry, rfl⟩
  · rename_i entry
    refine .inr ⟨entry, ?_⟩
    split <;> rfl

theorem dispatch_requests {callbacks : Callbacks Obj} {router next : Router Obj Resp}
    {message : Message} (dispatched : dispatchIncoming callbacks router message = .ok next) :
    next.requests = router.requests ∨ ∃ data msgType service,
      message.payload = .value data ∧
      router.registry.commandTable.get? message.topic = some (msgType, service) ∧
      next.requests =
        router.requests ++ [dispatchRpc router.registry message.topic data msgType service] := by
  rcases dispatch_incoming_cases dispatched with ⟨_, rfl⟩ | ⟨data, payload, rfl⟩
  · exact .inl rfl
  · rcases route_message_requests callbacks router message.topic data with
      ⟨msgType, service, entry, appended⟩ | ⟨_, same⟩
    · exact .inr ⟨data, msgType, service, payload, entry, appended⟩
    · exact .inl same

theorem request_step {serialize : Resp → Except PyException Json} {ctx next : Context Obj Resp}
    {event : Event Obj Resp} {id : RequestId} {request : Request Obj Resp}
    (stored : ctx.router.requests[id]? = some request)
    (taken : ctx.step serialize event = some next) :
    ∃ work, next.router.requests[id]? = some { request with work := work } ∧
      Progress request.work work (event.ends id) := by
  have unchanged : ∃ work, ctx.router.requests[id]? = some { request with work := work } ∧
      Progress request.work work none := ⟨request.work, stored, .same _⟩
  cases event with
  | called call =>
      cases taken
      exact perform_progress call stored
  | publish other serialized =>
      cases taken
      rcases publish_cases ctx other serialized with same | counted | ⟨item, _, queued⟩
      · rw [same]
        exact unchanged
      · rw [counted]
        exact unchanged
      · rw [queued]
        exact unchanged
  | received session message callbacks =>
      obtain ⟨client, drain, _, passed | failed⟩ := received_cases taken
      · obtain ⟨router, dispatched, rfl⟩ := passed
        rcases dispatch_requests dispatched with same | ⟨data, msgType, service, _, _, appended⟩
        · rw [same]
          exact unchanged
        · rw [appended, List.getElem?_append_left (List.getElem?_eq_some_iff.mp stored).1]
          exact unchanged
      · obtain ⟨error, _, rfl⟩ := failed
        exact unchanged
  | workStarted other =>
      obtain ⟨requests, started, rfl⟩ := Option.map_eq_some_iff.mp taken
      exact start_work_progress started stored
  | workEnded other outcome now =>
      obtain ⟨first, executor, decoded, finished, firstStored, running, rfl, router, _⟩ :=
        work_ended_cases taken
      rw [router, Event.ends]
      dsimp only
      rw [List.getElem?_set]
      split
      · rename_i same
        rw [← same, firstStored] at stored
        cases stored
        refine ⟨outcome.work decoded, ?_, running ▸ .ended executor decoded outcome⟩
        rw [if_pos (List.getElem?_eq_some_iff.mp firstStored).1]
      · exact unchanged
  | wire event =>
      obtain ⟨conn, _, rfl⟩ := Option.map_eq_some_iff.mp taken
      exact unchanged

theorem requests_length_le {serialize : Resp → Except PyException Json}
    {ctx next : Context Obj Resp} {event : Event Obj Resp}
    (taken : ctx.step serialize event = some next) :
    ctx.router.requests.length ≤ next.router.requests.length := by
  by_contra shorter
  have inside : next.router.requests.length < ctx.router.requests.length := Nat.not_le.mp shorter
  obtain ⟨work, stored, _⟩ := request_step (List.getElem?_eq_getElem inside) taken
  have bound := (List.getElem?_eq_some_iff.mp stored).1
  exact Nat.lt_irrefl _ bound

theorem new_request_cases {serialize : Resp → Except PyException Json}
    {ctx next : Context Obj Resp} {event : Event Obj Resp} {id : RequestId}
    {request : Request Obj Resp} (absent : ctx.router.requests[id]? = none)
    (stored : next.router.requests[id]? = some request)
    (taken : ctx.step serialize event = some next) :
    id = ctx.router.requests.length ∧ next.replies = ctx.replies ∧
      ∃ session topic data callbacks msgType service,
        event = .received session ⟨topic, .value data⟩ callbacks ∧
        ctx.router.registry.commandTable.get? topic = some (msgType, service) ∧
        request = dispatchRpc ctx.router.registry topic data msgType service := by
  have outside := List.getElem?_eq_none_iff.mp absent
  have inside := (List.getElem?_eq_some_iff.mp stored).1
  have grown : next.router.requests.length = ctx.router.requests.length → False :=
    fun same => absurd (same ▸ inside) (Nat.not_lt.mpr outside)
  cases event with
  | called call =>
      cases taken
      refine (grown ?_).elim
      unfold Router.perform
      dsimp only
      split
      · split <;> simp [shutdown]
      · rfl
  | publish other serialized =>
      cases taken
      refine (grown ?_).elim
      rcases publish_cases ctx other serialized with same | counted | ⟨item, _, queued⟩
      · rw [same]
      · rw [counted]
        rfl
      · rw [queued]
  | received session message callbacks =>
      obtain ⟨client, drain, _, passed | failed⟩ := received_cases taken
      · obtain ⟨router, dispatched, rfl⟩ := passed
        rcases dispatch_requests dispatched with
          same | ⟨data, msgType, service, payload, entry, appended⟩
        · exact (grown (by rw [same])).elim
        · rw [appended] at inside stored
          rw [List.length_append, List.length_singleton] at inside
          have position : id = ctx.router.requests.length :=
            Nat.le_antisymm (Nat.lt_succ_iff.mp inside) outside
          rw [position, List.getElem?_concat_length, Option.some.injEq] at stored
          refine ⟨position, rfl, session, message.topic, data, callbacks, msgType, service, ?_,
            entry, stored.symm⟩
          rw [← payload]
      · obtain ⟨error, _, rfl⟩ := failed
        exact (grown rfl).elim
  | workStarted other =>
      obtain ⟨requests, started, rfl⟩ := Option.map_eq_some_iff.mp taken
      refine (grown ?_).elim
      unfold startWork at started
      split at started
      · cases started
      · split at started
        · dsimp only at started
          split at started <;> cases started
          exact List.length_set
        · cases started
  | workEnded other outcome now =>
      obtain ⟨_, _, _, _, _, _, _, router, _⟩ := work_ended_cases taken
      exact (grown (by rw [router]; exact List.length_set)).elim
  | wire event =>
      obtain ⟨conn, _, rfl⟩ := Option.map_eq_some_iff.mp taken
      exact (grown rfl).elim

theorem replies_step {serialize : Resp → Except PyException Json}
    {ctx next : Context Obj Resp} {event : Event Obj Resp}
    (taken : ctx.step serialize event = some next) :
    next.replies = ctx.replies ∨
      ∃ id outcome now reply, event = .workEnded id outcome now ∧
        id < ctx.router.requests.length ∧ next.replies = ctx.replies ++ [(id, reply)] := by
  cases event with
  | called call =>
      cases taken
      exact .inl rfl
  | publish other serialized =>
      cases taken
      rcases publish_cases ctx other serialized with same | counted | ⟨item, _, queued⟩
      · exact .inl (by rw [same])
      · exact .inl (by rw [counted]; rfl)
      · exact .inl (by rw [queued])
  | received session message callbacks =>
      obtain ⟨client, drain, _, passed | failed⟩ := received_cases taken
      · obtain ⟨router, _, rfl⟩ := passed
        exact .inl rfl
      · obtain ⟨error, _, rfl⟩ := failed
        exact .inl rfl
  | workStarted other => exact .inl (work_started_conn taken).2.1
  | workEnded id outcome now =>
      obtain ⟨_, _, _, _, stored, _, _, _, ⟨_, replies, _⟩ | ⟨reply, _, _, _, replies⟩⟩ :=
        work_ended_cases taken
      · exact .inl replies
      · have inside := (List.getElem?_eq_some_iff.mp stored).1
        exact .inr ⟨id, outcome, now, reply, rfl, inside, replies⟩
  | wire event =>
      obtain ⟨conn, _, rfl⟩ := Option.map_eq_some_iff.mp taken
      exact .inl rfl

end Context

end RemoteIface.Commlib.NodeContext
