import RemoteIface.Commlib.Replies

/-!
Which reply belongs to which request. A request has the number it got when its
message was dispatched; its handler ends once, and the done-callback of that
end is the only thing that sends a reply with this number. What the drain task
publishes afterwards is taken from the queue once.
-/

namespace RemoteIface.Commlib.ReplyCorrelation

set_option autoImplicit false

open RemoteIface.Library.Runs
open RemoteIface.Library.Projection
open RemoteIface.Library.InsertionOrder
open RemoteIface.Commlib.Payload
open RemoteIface.Commlib.Endpoints
open RemoteIface.Commlib.Rpc
open RemoteIface.Commlib.Dispatch
open RemoteIface.Commlib.Connection
open RemoteIface.Commlib.NodeContext
open RemoteIface.Commlib.OutgoingLog
open RemoteIface.Commlib.Replies

variable {Obj Resp : Type}

/-- The dispatch of one RPC message: what happened before it, the context it
met, and the entry of `_command_table` that its topic named. -/
structure Arrival (Obj Resp : Type) where
  before : List (NodeContext.Event Obj Resp)
  context : Context Obj Resp
  session : SessionId
  topic : String
  data : Json
  callbacks : Callbacks Obj
  msgType : MsgType Obj
  service : ServiceId

namespace Arrival

def event (arrival : Arrival Obj Resp) : NodeContext.Event Obj Resp :=
  .received arrival.session ⟨arrival.topic, .value arrival.data⟩ arrival.callbacks

/-- The request, with its work at some later time. -/
def request (arrival : Arrival Obj Resp) (work : Work Obj Resp) : Request Obj Resp :=
  ⟨arrival.topic, arrival.data, arrival.service, replyToOf arrival.data, work⟩

/-- In this history the message made request number `id`. -/
structure Makes (serialize : Resp → Except PyException Json) (arrival : Arrival Obj Resp)
    (id : RequestId) (events later : List (NodeContext.Event Obj Resp)) : Prop where
  history : events = arrival.before ++ arrival.event :: later
  reached : run (Context.step serialize) Context.fresh arrival.before = some arrival.context
  command : arrival.context.router.registry.commandTable.get? arrival.topic =
    some (arrival.msgType, arrival.service)
  number : arrival.context.router.requests.length = id

def Submits (arrival : Arrival Obj Resp) (decoded : Obj) (executor : ExecutorId) : Prop :=
  arrival.msgType.hydrate (dataOf arrival.data) = .ok decoded ∧
    serviceDispatch arrival.context.router.registry arrival.service = .ok executor

end Arrival

/-- The end of a handler call: what happened since its message was dispatched,
and what it was running for and on. -/
structure Ending (Obj Resp : Type) where
  middle : List (NodeContext.Event Obj Resp)
  context : Context Obj Resp
  executor : ExecutorId
  decoded : Obj
  response : Resp
  now : Int

/-- Reply and request: the message carried a truthy `reply_to`, its service's
handler ran for its own decoded data, and what that call returned is in the
reply, which goes to the message's own `reply_to`. -/
structure Answers (serialize : Resp → Except PyException Json)
    (events : List (NodeContext.Event Obj Resp)) (id : RequestId) (reply : Outgoing)
    (arrival : Arrival Obj Resp) (ending : Ending Obj Resp) : Prop where
  made : ∃ after, arrival.Makes serialize id events
    (ending.middle ++ .workEnded id (.returned ending.response) ending.now :: after)
  wanted : (replyToOf arrival.data).truthy = true
  submitted : arrival.Submits ending.decoded ending.executor
  reached : run (Context.step serialize) Context.fresh
    (arrival.before ++ arrival.event :: ending.middle) = some ending.context
  running : ending.context.router.requests[id]? =
    some (arrival.request (.running ending.executor ending.decoded))
  content : ∃ body, serialize ending.response = .ok body ∧
    reply = ⟨replyToOf arrival.data, wrapResponse ending.now body, 1⟩

structure Stems (serialize : Resp → Except PyException Json)
    (events : List (NodeContext.Event Obj Resp)) (id : RequestId) (request : Request Obj Resp)
    (arrival : Arrival Obj Resp) : Prop where
  made : ∃ later, arrival.Makes serialize id events later
  data : request = arrival.request request.work
  pending : ∀ executor decoded,
    request.work = .queued executor decoded ∨ request.work = .running executor decoded →
      arrival.Submits decoded executor

theorem Arrival.Makes.extended {serialize : Resp → Except PyException Json}
    {arrival : Arrival Obj Resp} {id : RequestId}
    {events later : List (NodeContext.Event Obj Resp)}
    (made : arrival.Makes serialize id events later) (event : NodeContext.Event Obj Resp) :
    arrival.Makes serialize id (events ++ [event]) (later ++ [event]) := by
  refine ⟨?_, made.reached, made.command, made.number⟩
  rw [made.history]
  simp

theorem progress_pending {work after : Work Obj Resp} {ended : Option (Outcome Resp)}
    (progress : Progress work after ended) {executor : ExecutorId} {decoded : Obj}
    (pending : after = .queued executor decoded ∨ after = .running executor decoded) :
    work = .queued executor decoded ∨ work = .running executor decoded := by
  cases progress with
  | same => exact pending
  | started owner request =>
      rcases pending with queued | running
      · cases queued
      · cases running
        exact .inl rfl
  | cancelled owner request => rcases pending with queued | running <;> contradiction
  | ended owner request outcome =>
      cases outcome <;> rcases pending with queued | running <;> contradiction

theorem dispatch_rpc_pending {registry : Registry Obj} {topic : String} {data : Json}
    {msgType : MsgType Obj} {service : ServiceId} {executor : ExecutorId} {decoded : Obj}
    (pending : (dispatchRpc registry topic data msgType service : Request Obj Resp).work =
        .queued executor decoded ∨
      (dispatchRpc registry topic data msgType service : Request Obj Resp).work =
        .running executor decoded) :
    msgType.hydrate (dataOf data) = .ok decoded ∧
      serviceDispatch registry service = .ok executor := by
  unfold dispatchRpc at pending
  dsimp only at pending
  cases hydrated : msgType.hydrate (dataOf data) with
  | error error => simp [hydrated] at pending
  | ok request =>
      cases submitted : serviceDispatch registry service with
      | error error => simp [hydrated, submitted] at pending
      | ok owner =>
          simp only [hydrated, submitted, Work.queued.injEq, reduceCtorEq, or_false] at pending
          exact ⟨congrArg _ pending.2, congrArg _ pending.1⟩

theorem new_request_arrival {serialize : Resp → Except PyException Json}
    {before : List (NodeContext.Event Obj Resp)} {ctx next : Context Obj Resp}
    {event : NodeContext.Event Obj Resp} {id : RequestId} {request : Request Obj Resp}
    (reached : run (Context.step serialize) Context.fresh before = some ctx)
    (absent : ctx.router.requests[id]? = none)
    (stored : next.router.requests[id]? = some request)
    (taken : ctx.step serialize event = some next) :
    ∃ arrival, Stems serialize (before ++ [event]) id request arrival := by
  obtain ⟨number, _, session, topic, data, callbacks, msgType, service, rfl, command, rfl⟩ :=
    Context.new_request_cases absent stored taken
  refine ⟨⟨before, ctx, session, topic, data, callbacks, msgType, service⟩, ?_⟩
  constructor
  · exact ⟨[], rfl, reached, command, number.symm⟩
  · rfl
  · intro executor decoded pending
    exact dispatch_rpc_pending pending

theorem stems_step {serialize : Resp → Except PyException Json}
    {before : List (NodeContext.Event Obj Resp)} {ctx next : Context Obj Resp}
    {event : NodeContext.Event Obj Resp}
    (reached : run (Context.step serialize) Context.fresh before = some ctx)
    (stems : ∀ id request, ctx.router.requests[id]? = some request →
      ∃ arrival, Stems serialize before id request arrival)
    (taken : ctx.step serialize event = some next) (id : RequestId)
    (request : Request Obj Resp) (stored : next.router.requests[id]? = some request) :
    ∃ arrival, Stems serialize (before ++ [event]) id request arrival := by
  cases known : ctx.router.requests[id]? with
  | none => exact new_request_arrival reached known stored taken
  | some old =>
      obtain ⟨arrival, ⟨later, made⟩, data, pending⟩ := stems id old known
      obtain ⟨work, afterStored, progress⟩ := Context.request_step known taken
      rw [afterStored, Option.some.injEq] at stored
      subst stored
      refine ⟨arrival, ⟨later ++ [event], made.extended event⟩, ?_, ?_⟩
      · rw [data]
        rfl
      · intro executor decoded stillPending
        exact pending executor decoded (progress_pending progress stillPending)

theorem stems_run {serialize : Resp → Except PyException Json} {final : Context Obj Resp}
    {events : List (NodeContext.Event Obj Resp)}
    (reached : run (Context.step serialize) Context.fresh events = some final) :
    ∀ id request, final.router.requests[id]? = some request →
      ∃ arrival, Stems serialize events id request arrival :=
  run_history (Context.step serialize)
    (fun id request stored => by simp [Context.fresh, Router.empty] at stored)
    (fun _ _ _ _ earlier stems taken => stems_step earlier stems taken) reached

theorem Answers.extended {serialize : Resp → Except PyException Json}
    {events : List (NodeContext.Event Obj Resp)} {id : RequestId} {reply : Outgoing}
    {arrival : Arrival Obj Resp} {ending : Ending Obj Resp}
    (answers : Answers serialize events id reply arrival ending)
    (event : NodeContext.Event Obj Resp) :
    Answers serialize (events ++ [event]) id reply arrival ending := by
  obtain ⟨after, made⟩ := answers.made
  refine ⟨⟨after ++ [event], ?_⟩, answers.wanted, answers.submitted, answers.reached,
    answers.running, answers.content⟩
  simpa using made.extended event

theorem ended_answers {serialize : Resp → Except PyException Json}
    {before : List (NodeContext.Event Obj Resp)} {ctx next : Context Obj Resp}
    {id : RequestId} {outcome : Outcome Resp} {now : Int} {reply : Outgoing}
    (reached : run (Context.step serialize) Context.fresh before = some ctx)
    (taken : ctx.step serialize (.workEnded id outcome now) = some next)
    (appended : next.replies = ctx.replies ++ [(id, reply)]) :
    ∃ arrival ending,
      Answers serialize (before ++ [.workEnded id outcome now]) id reply arrival ending := by
  obtain ⟨request, executor, decoded, finished, stored, running, rfl, _, sent⟩ :=
    Context.work_ended_cases taken
  rcases sent with ⟨_, same, _⟩ | ⟨sentReply, done, _, _, replies⟩
  · rw [same] at appended
    exact absurd appended (by simp)
  · rw [appended] at replies
    have sameReply : reply = sentReply := by simpa using replies
    subst sameReply
    obtain ⟨wanted, decodedBack, response, body, work, serialized, content⟩ :=
      done_some_iff.mp done
    obtain ⟨arrival, ⟨later, made⟩, data, pending⟩ := stems_run reached id request stored
    cases outcome with
    | raised error => cases work
    | returned value =>
        cases work
        rw [data] at wanted content stored
        refine ⟨arrival, ⟨later, ctx, executor, decoded, response, now⟩, ?_⟩
        constructor
        · exact ⟨[], by simpa using made.extended (.workEnded id (.returned response) now)⟩
        · exact wanted
        · exact pending executor decoded (.inr running)
        · rw [← made.history]
          exact reached
        · rw [stored, running]
        · exact ⟨body, serialized, content⟩

theorem answers_step {serialize : Resp → Except PyException Json}
    {before : List (NodeContext.Event Obj Resp)} {ctx next : Context Obj Resp}
    {event : NodeContext.Event Obj Resp}
    (reached : run (Context.step serialize) Context.fresh before = some ctx)
    (answered : ∀ id reply, (id, reply) ∈ ctx.replies →
      ∃ arrival ending, Answers serialize before id reply arrival ending)
    (taken : ctx.step serialize event = some next) (id : RequestId) (reply : Outgoing)
    (member : (id, reply) ∈ next.replies) :
    ∃ arrival ending, Answers serialize (before ++ [event]) id reply arrival ending := by
  have earlier : (id, reply) ∈ ctx.replies →
      ∃ arrival ending, Answers serialize (before ++ [event]) id reply arrival ending := by
    intro old
    obtain ⟨arrival, ending, answers⟩ := answered id reply old
    exact ⟨arrival, ending, answers.extended event⟩
  rcases Context.replies_step taken with same | ⟨other, outcome, now, sent, rfl, _, appended⟩
  · rw [same] at member
    exact earlier member
  · rw [appended] at member
    rcases List.mem_append.mp member with old | new
    · exact earlier old
    · cases List.mem_singleton.mp new
      exact ended_answers reached taken appended

theorem answers_run {serialize : Resp → Except PyException Json} {final : Context Obj Resp}
    {events : List (NodeContext.Event Obj Resp)}
    (reached : run (Context.step serialize) Context.fresh events = some final) :
    ∀ id reply, (id, reply) ∈ final.replies →
      ∃ arrival ending, Answers serialize events id reply arrival ending :=
  run_history (Context.step serialize)
    (fun id reply member => by simp [Context.fresh] at member)
    (fun _ _ _ _ earlier answered taken => answers_step earlier answered taken) reached

theorem requests_length_run {serialize : Resp → Except PyException Json}
    {ctx final : Context Obj Resp} {events : List (NodeContext.Event Obj Resp)}
    (reached : run (Context.step serialize) ctx events = some final) :
    ctx.router.requests.length ≤ final.router.requests.length :=
  @run_invariant _ _ (Context.step serialize)
    (fun visited => ctx.router.requests.length ≤ visited.router.requests.length)
    (fun _ _ _ below taken => below.trans (Context.requests_length_le taken)) _ _ _
    (Nat.le_refl _) reached

theorem Arrival.Makes.number_lt {serialize : Resp → Except PyException Json}
    {arrival : Arrival Obj Resp} {id : RequestId}
    {events later middle : List (NodeContext.Event Obj Resp)} {ctx : Context Obj Resp}
    (made : arrival.Makes serialize id events later)
    (reached : run (Context.step serialize) Context.fresh
      (arrival.before ++ arrival.event :: middle) = some ctx) :
    id < ctx.router.requests.length := by
  rw [run_append, made.reached] at reached
  obtain ⟨next, taken, laterReached⟩ := run_cons_some _ reached
  have stored := received_request made.command taken
  have inside := (List.getElem?_eq_some_iff.mp stored).1
  rw [made.number] at inside
  exact inside.trans_le (requests_length_run laterReached)

theorem Arrival.Makes.same_message {serialize : Resp → Except PyException Json}
    {first second : Arrival Obj Resp} {id : RequestId}
    {events firstLater secondLater : List (NodeContext.Event Obj Resp)}
    (madeFirst : first.Makes serialize id events firstLater)
    (madeSecond : second.Makes serialize id events secondLater) :
    first.before = second.before ∧ first.event = second.event := by
  have earlier_absurd : ∀ {one other : Arrival Obj Resp}
      {later : List (NodeContext.Event Obj Resp)} (rest : List (NodeContext.Event Obj Resp)),
      one.Makes serialize id events later →
      run (Context.step serialize) Context.fresh other.before = some other.context →
      other.context.router.requests.length = id →
      other.before = one.before ++ one.event :: rest → False := by
    intro one other later rest made reached number longer
    rw [longer] at reached
    have taken := made.number_lt reached
    rw [number] at taken
    exact Nat.lt_irrefl id taken
  have same := madeFirst.history.symm.trans madeSecond.history
  rcases List.append_eq_append_iff.mp same with ⟨gap, before, rest⟩ | ⟨gap, before, rest⟩
  · cases gap with
    | nil =>
        rw [List.nil_append, List.cons.injEq] at rest
        exact ⟨by simpa using before.symm, rest.1⟩
    | cons event gap =>
        rw [List.cons_append, List.cons.injEq] at rest
        rw [← rest.1] at before
        exact (earlier_absurd gap madeFirst madeSecond.reached madeSecond.number before).elim
  · cases gap with
    | nil =>
        rw [List.nil_append, List.cons.injEq] at rest
        exact ⟨by simpa using before, rest.1.symm⟩
    | cons event gap =>
        rw [List.cons_append, List.cons.injEq] at rest
        rw [← rest.1] at before
        exact (earlier_absurd gap madeSecond madeFirst.reached madeFirst.number before).elim

theorem replies_to_le_one {serialize : Resp → Except PyException Json} {ctx : Context Obj Resp}
    (recorded : Recorded serialize ctx) (id : RequestId) : (repliesTo ctx id).length ≤ 1 := by
  cases stored : ctx.router.requests[id]? with
  | none => simp [replies_to_unknown recorded stored]
  | some request =>
      obtain ⟨now, replies⟩ := recorded.matching id request stored
      rw [replies]
      exact Option.length_toList_le

theorem replies_nodup {serialize : Resp → Except PyException Json} {ctx : Context Obj Resp}
    (recorded : Recorded serialize ctx) : (ctx.replies.map Prod.fst).Nodup := by
  rw [List.nodup_iff_count_le_one]
  intro id
  have single := replies_to_le_one recorded id
  rw [repliesTo, List.length_map] at single
  rw [List.count, List.countP_map, List.countP_eq_length_filter]
  exact single

/-- A message without a truthy `reply_to` is never answered. -/
theorem unwanted_unanswered {serialize : Resp → Except PyException Json}
    {final : Context Obj Resp} {events later : List (NodeContext.Event Obj Resp)}
    (reached : run (Context.step serialize) Context.fresh events = some final)
    {arrival : Arrival Obj Resp} {id : RequestId}
    (made : arrival.Makes serialize id events later)
    (unwanted : (replyToOf arrival.data).truthy = false) : repliesTo final id = [] := by
  rw [repliesTo, List.map_eq_nil_iff, List.filter_eq_nil_iff]
  intro entry member same
  obtain ⟨other, ending, answers⟩ := answers_run reached entry.1 entry.2 member
  rw [of_decide_eq_true same] at answers
  obtain ⟨after, otherMade⟩ := answers.made
  have sameEvent := (made.same_message otherMade).2
  simp only [Arrival.event, NodeContext.Event.received.injEq, Message.mk.injEq,
    Loaded.value.injEq] at sameEvent
  have wanted := answers.wanted
  rw [← sameEvent.2.1.2, unwanted] at wanted
  cases wanted

/-- The replies are on the queue, or on their way to it, in their order. -/
def Queued (ctx : Context Obj Resp) : Prop :=
  (ctx.replies.map Prod.snd).Sublist (ctx.conn.accepted ++ ctx.conn.scheduled)

/-- A publication of the host, or an item it hands to `_enqueue_outgoing` itself. -/
def sentByHost : NodeContext.Event Obj Resp → Bool
  | .publish _ _ => true
  | .wire (.enqueued _) => true
  | _ => false

/-- What a step logs as a reply is what it puts on the queue, unless the host
sends it. -/
theorem replies_sent {serialize : Resp → Except PyException Json} {ctx next : Context Obj Resp}
    {event : NodeContext.Event Obj Resp} (taken : ctx.step serialize event = some next) :
    next.replies.map Prod.snd = ctx.replies.map Prod.snd ++
      (sentIf serialize (fun event => !sentByHost event) ctx event).toList := by
  have silent : next.replies = ctx.replies →
      sentIf serialize (fun event => !sentByHost event) ctx event = none →
      next.replies.map Prod.snd = ctx.replies.map Prod.snd ++
        (sentIf serialize (fun event => !sentByHost event) ctx event).toList := by
    intro same nothing
    rw [same, nothing]
    exact (List.append_nil _).symm
  cases event with
  | workEnded id outcome now =>
      have counted : sentIf serialize (fun event => !sentByHost event) ctx
          (.workEnded id outcome now) = sent serialize ctx (.workEnded id outcome now) := rfl
      rcases sent_of_work_ended serialize taken with ⟨nothing, _, replies⟩ | ⟨reply, one, _, replies⟩
      · exact silent replies (counted.trans nothing)
      · rw [counted, one, replies, List.map_append]
        rfl
  | called call =>
      cases taken
      exact silent rfl rfl
  | publish id serialized =>
      cases taken
      refine silent ?_ rfl
      rcases Context.publish_cases ctx id serialized with same | counted | ⟨item, _, published⟩
      · rw [same]
      · rw [counted]
        rfl
      · rw [published]
  | received session message callbacks =>
      obtain ⟨client, drain, _, passed | failed⟩ := Context.received_cases taken
      · obtain ⟨router, _, rfl⟩ := passed
        exact silent rfl rfl
      · obtain ⟨error, _, rfl⟩ := failed
        exact silent rfl rfl
  | workStarted id => exact silent (Context.work_started_conn taken).2.1 rfl
  | wire event =>
      obtain ⟨conn, _, rfl⟩ := Option.map_eq_some_iff.mp taken
      exact silent rfl (by cases event <;> rfl)

theorem replies_enqueued {serialize : Resp → Except PyException Json} {final : Context Obj Resp}
    {events : List (NodeContext.Event Obj Resp)}
    (reached : run (Context.step serialize) Context.fresh events = some final) :
    enqueuedBy serialize (fun event => !sentByHost event) Context.fresh events =
      final.replies.map Prod.snd := by
  rw [enqueued_by_sent serialize _ State.well_formed_fresh]
  exact (sights_logged (Context.step serialize)
    (sentIf serialize fun event => !sentByHost event)
    (fun _ _ _ sound taken => Context.well_formed_step sound taken)
    (fun _ _ _ _ taken => replies_sent taken) State.well_formed_fresh reached).symm

theorem queued_run {serialize : Resp → Except PyException Json} {final : Context Obj Resp}
    {events : List (NodeContext.Event Obj Resp)}
    (reached : run (Context.step serialize) Context.fresh events = some final) :
    Queued final := by
  have logged : final.conn.accepted ++ final.conn.scheduled = sentLog serialize events :=
    sent_logged serialize reached
  rw [Queued, logged, ← replies_enqueued reached,
    enqueued_by_sent serialize _ State.well_formed_fresh]
  exact sights_sublist (Context.step serialize)
    (sent_if_sublist serialize fun event => !sentByHost event) Context.fresh events

/-- In every run each reply answers one request, that request alone, with what
its own handler call returned and at its own address; a request gets one reply
at most, and none without a truthy `reply_to`; what the host did not send itself
is on the queue as these replies and nothing else; and the queue repeats nothing. -/
theorem replies_answer_their_own_requests (serialize : Resp → Except PyException Json)
    (events : List (NodeContext.Event Obj Resp)) (final : Context Obj Resp)
    (reached : run (Context.step serialize) Context.fresh events = some final) :
    (final.replies.map Prod.fst).Nodup ∧
      (∀ id reply, (id, reply) ∈ final.replies →
        ∃ arrival ending, Answers serialize events id reply arrival ending ∧
          ∀ (other : Arrival Obj Resp) later, other.Makes serialize id events later →
            other.before = arrival.before ∧ other.event = arrival.event) ∧
      (∀ (arrival : Arrival Obj Resp) id later, arrival.Makes serialize id events later →
        (replyToOf arrival.data).truthy = false → repliesTo final id = []) ∧
      enqueuedBy serialize (fun event => !sentByHost event) Context.fresh events =
        final.replies.map Prod.snd ∧
      Queued final ∧ OutgoingQueue.Drained final.conn := by
  refine ⟨replies_nodup (accounted_run reached).2, ?_, ?_, replies_enqueued reached,
    queued_run reached, drained_run serialize reached⟩
  · intro id reply member
    obtain ⟨arrival, ending, answers⟩ := answers_run reached id reply member
    obtain ⟨after, made⟩ := answers.made
    exact ⟨arrival, ending, answers, fun other later otherMade => otherMade.same_message made⟩
  · intro arrival id later made unwanted
    exact unwanted_unanswered reached made unwanted

/-- Two services; their requests end in the other order, and the one without
an address ends too. -/
def crossingRun : List (NodeContext.Event Unit Int) :=
  [.called (.createRpc "bot/status" emptyRequest 0), .called (.createRpc "bot/stop" emptyRequest 1),
    .wire .start, .wire .startResumed, .wire (.iterated true), .wire (.entered true),
    .wire (.subscribed true), .wire (.subscribed true),
    .received 0 ⟨"bot/status", .value (requestWith .null)⟩ (fun _ _ => .ok ()),
    .received 0 ⟨"bot/stop", .value (requestWith .null)⟩ (fun _ _ => .ok ()),
    .received 0 ⟨"bot/stop", .value (.obj [])⟩ (fun _ _ => .ok ()),
    .workStarted 0, .workStarted 1, .workStarted 2, .workEnded 1 (.returned 11) 7,
    .workEnded 2 (.returned 12) 8, .workEnded 0 (.returned 10) 9]

theorem crossing_run_answers :
    ∃ final : Context Unit Int,
      run (Context.step fun response => .ok (.int response)) Context.fresh crossingRun =
          some final ∧
        final.replies = [(1, ⟨.str "peer", wrapResponse 7 (.int 11), 1⟩),
          (0, ⟨.str "peer", wrapResponse 9 (.int 10), 1⟩)] ∧
        (final.replies.map Prod.fst).Nodup ∧
        enqueuedBy (fun response => .ok (.int response)) (fun event => !sentByHost event)
          Context.fresh crossingRun = final.replies.map Prod.snd := by
  refine ⟨_, rfl, rfl, ?_⟩
  have correlated :=
    replies_answer_their_own_requests (fun response => .ok (.int response)) crossingRun _ rfl
  exact ⟨correlated.1, correlated.2.2.2.1⟩

end RemoteIface.Commlib.ReplyCorrelation
