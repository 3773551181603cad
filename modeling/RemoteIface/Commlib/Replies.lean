import RemoteIface.Commlib.OutgoingLog

/-!
Which requests are answered. A reply is put on the queue only by the
done-callback of a request whose handler returned a value that serialises;
every other end of a request is logged and puts nothing there. What a request
was answered with is read off the queue, as what it has gained in the steps that
belong to the request.
-/

namespace RemoteIface.Commlib.Replies

set_option autoImplicit false

open RemoteIface.Library.Runs
open RemoteIface.Library.Projection
open RemoteIface.Library.InsertionOrder
open RemoteIface.Commlib.Payload
open RemoteIface.Commlib.Endpoints
open RemoteIface.Commlib.Rpc
open RemoteIface.Commlib.Dispatch
open RemoteIface.Commlib.Connection
open RemoteIface.Commlib.NodeContext
open RemoteIface.Commlib.OutgoingLog

variable {Obj Resp : Type}

/-- The replies that are logged for one request. -/
def repliesTo (ctx : Context Obj Resp) (id : RequestId) : List Outgoing :=
  (ctx.replies.filter fun entry => entry.1 = id).map Prod.snd

/-- The reply carries `MQTTStatusCode.ERROR`. -/
def CarriesError (reply : Outgoing) : Prop :=
  (reply.payload.getOr "data" .null).getOr "status" .null = .int 400

/-- The request could be decoded and submitted, and its handler returned a
value that serialises. -/
def Handled (serialize : Resp → Except PyException Json) (registry : Registry Obj)
    (msgType : MsgType Obj) (service : ServiceId) (data : Json) (id : RequestId)
    (later : List (NodeContext.Event Obj Resp)) : Prop :=
  (∃ decoded, msgType.hydrate (dataOf data) = .ok decoded) ∧
    (∃ executor, serviceDispatch registry service = .ok executor) ∧
    ∃ response now body, .workEnded id (.returned response) now ∈ later ∧
      serialize response = .ok body

/-- The steps that can belong to a request: the dispatch of a message, a call on
the endpoints, which may cancel its future, and its own start and end. -/
def serves (id : RequestId) : NodeContext.Event Obj Resp → Bool
  | .received _ _ _ => true
  | .called _ => true
  | .workStarted other => other = id
  | .workEnded other _ _ => other = id
  | .publish _ _ => false
  | .wire _ => false

/-- In these events exactly one reply is enqueued for the request, to the address
it gave, and an ERROR response when it was not handled. -/
def Answered (serialize : Resp → Except PyException Json) (ctx : Context Obj Resp)
    (events : List (NodeContext.Event Obj Resp)) (id : RequestId) (replyTo : String)
    (handled : Prop) : Prop :=
  ∃ reply, enqueuedBy serialize (serves id) ctx events = [reply] ∧ reply.topic = .str replyTo ∧
    (¬ handled → CarriesError reply)

structure Recorded (serialize : Resp → Except PyException Json)
    (ctx : Context Obj Resp) : Prop where
  matching : ∀ id request, ctx.router.requests[id]? = some request →
    ∃ now, repliesTo ctx id = (onRpcFutureDone serialize now request).toList
  known : ∀ entry ∈ ctx.replies, entry.1 < ctx.router.requests.length

theorem no_reply_unless_returned {serialize : Resp → Except PyException Json} {now : Int}
    {request : Request Obj Resp}
    (unreturned : ∀ decoded response, request.work ≠ .returned decoded response) :
    onRpcFutureDone serialize now request = none := by
  unfold onRpcFutureDone
  split
  · split
    · rename_i decoded response returned
      exact absurd returned (unreturned decoded response)
    · rfl
  · rfl

theorem done_of_progress {serialize : Resp → Except PyException Json} {now : Int}
    {request : Request Obj Resp} {work : Work Obj Resp}
    (progress : Progress request.work work none) :
    onRpcFutureDone serialize now { request with work := work } =
      onRpcFutureDone serialize now request := by
  obtain ⟨topic, payload, service, replyTo, old⟩ := request
  dsimp only at progress ⊢
  cases progress with
  | same => rfl
  | started executor decoded =>
      rw [no_reply_unless_returned (by simp), no_reply_unless_returned (by simp)]
  | cancelled executor decoded =>
      rw [no_reply_unless_returned (by simp), no_reply_unless_returned (by simp)]

theorem dispatch_rpc_unreturned (registry : Registry Obj) (topic : String) (data : Json)
    (msgType : MsgType Obj) (service : ServiceId) (decoded : Obj) (response : Resp) :
    (dispatchRpc registry topic data msgType service : Request Obj Resp).work ≠
      .returned decoded response := by
  unfold dispatchRpc
  dsimp only
  split
  · simp
  · split <;> simp

theorem replies_to_unended {serialize : Resp → Except PyException Json}
    {ctx next : Context Obj Resp} {event : NodeContext.Event Obj Resp} {id : RequestId}
    (taken : ctx.step serialize event = some next) (unended : event.ends id = none) :
    repliesTo next id = repliesTo ctx id := by
  rcases Context.replies_step taken with same | ⟨other, outcome, now, reply, rfl, _, appended⟩
  · rw [repliesTo, same, repliesTo]
  · have different : other ≠ id := by
      rintro rfl
      simp [NodeContext.Event.ends] at unended
    rw [repliesTo, appended, List.filter_append, List.map_append, repliesTo]
    simp [different]

theorem replies_to_unknown {serialize : Resp → Except PyException Json} {ctx : Context Obj Resp}
    (recorded : Recorded serialize ctx) {id : RequestId}
    (absent : ctx.router.requests[id]? = none) : repliesTo ctx id = [] := by
  have outside := List.getElem?_eq_none_iff.mp absent
  rw [repliesTo, List.map_eq_nil_iff, List.filter_eq_nil_iff]
  intro entry member same
  have inside := recorded.known entry member
  rw [of_decide_eq_true same] at inside
  exact absurd inside (Nat.not_lt.mpr outside)

theorem recorded_end {serialize : Resp → Except PyException Json} {ctx next : Context Obj Resp}
    {id : RequestId} {outcome : Outcome Resp} {now : Int} (prepared : ctx.Prepared)
    (recorded : Recorded serialize ctx)
    (taken : ctx.step serialize (.workEnded id outcome now) = some next)
    {request : Request Obj Resp} (stored : next.router.requests[id]? = some request) :
    ∃ now, repliesTo next id = (onRpcFutureDone serialize now request).toList := by
  obtain ⟨before, executor, decoded, finished, beforeStored, running, _, router, sent⟩ :=
    Context.work_ended_cases taken
  have inside := (List.getElem?_eq_some_iff.mp beforeStored).1
  rw [router, List.getElem?_set_self inside, Option.some.injEq] at stored
  subst stored
  obtain ⟨earlier, silent⟩ := recorded.matching id before beforeStored
  rw [no_reply_unless_returned (by simp [running])] at silent
  refine ⟨now, ?_⟩
  rcases sent with ⟨_, same, nothing⟩ | ⟨reply, replied, _, _, appended⟩
  · have quiet : onRpcFutureDone serialize now finished = none := by
      refine nothing.resolve_right ?_
      have set := prepared.2 (List.ne_nil_of_mem (List.mem_of_getElem? beforeStored))
      simp [set]
    rw [quiet, repliesTo, same]
    exact silent
  · have before : (ctx.replies.filter fun entry => entry.1 = id).map Prod.snd = [] := silent
    rw [replied, repliesTo, appended, List.filter_append, List.map_append, before]
    simp

theorem recorded_step {serialize : Resp → Except PyException Json} {ctx next : Context Obj Resp}
    {event : NodeContext.Event Obj Resp} (prepared : ctx.Prepared)
    (recorded : Recorded serialize ctx) (taken : ctx.step serialize event = some next) :
    Recorded serialize next := by
  constructor
  · intro id request stored
    cases before : ctx.router.requests[id]? with
    | none =>
        obtain ⟨_, replies, _, topic, data, _, msgType, service, _, _, rfl⟩ :=
          Context.new_request_cases before stored taken
        refine ⟨0, ?_⟩
        rw [no_reply_unless_returned (dispatch_rpc_unreturned _ _ _ _ _), repliesTo, replies]
        exact replies_to_unknown recorded before
    | some old =>
        obtain ⟨work, afterStored, progress⟩ := Context.request_step before taken
        rw [afterStored, Option.some.injEq] at stored
        cases ends : event.ends id with
        | none =>
            rw [ends] at progress
            obtain ⟨now, same⟩ := recorded.matching id old before
            refine ⟨now, ?_⟩
            rw [replies_to_unended taken ends, same, ← stored, done_of_progress progress]
        | some outcome =>
            unfold NodeContext.Event.ends at ends
            split at ends
            · rename_i other outcome' now
              split at ends
              · rename_i same
                subst same
                exact recorded_end prepared recorded taken (stored ▸ afterStored)
              · cases ends
            · cases ends
  · intro entry member
    have grown := Context.requests_length_le taken
    rcases Context.replies_step taken with same | ⟨id, _, _, reply, _, inside, appended⟩
    · rw [same] at member
      exact (recorded.known entry member).trans_le grown
    · rw [appended] at member
      rcases List.mem_append.mp member with old | new
      · exact (recorded.known entry old).trans_le grown
      · rw [List.mem_singleton.mp new]
        exact inside.trans_le grown

def Accounted (serialize : Resp → Except PyException Json) (ctx : Context Obj Resp) : Prop :=
  ctx.Prepared ∧ Recorded serialize ctx

theorem accounted_fresh (serialize : Resp → Except PyException Json) :
    Accounted serialize (Context.fresh : Context Obj Resp) :=
  ⟨Context.prepared_fresh,
    ⟨by simp [Context.fresh, Router.empty], by simp [Context.fresh]⟩⟩

theorem accounted_run {serialize : Resp → Except PyException Json} {final : Context Obj Resp}
    {events : List (NodeContext.Event Obj Resp)}
    (reached : run (Context.step serialize) Context.fresh events = some final) :
    Accounted serialize final :=
  run_invariant (Context.step serialize)
    (fun _ _ _ holds taken =>
      ⟨Context.prepared_step holds.1 taken, recorded_step holds.1 holds.2 taken⟩)
    (accounted_fresh serialize) reached

theorem replies_to_sent {serialize : Resp → Except PyException Json} {ctx next : Context Obj Resp}
    {event : NodeContext.Event Obj Resp} (id : RequestId)
    (taken : ctx.step serialize event = some next) :
    repliesTo next id = repliesTo ctx id ++ (sentIf serialize (serves id) ctx event).toList := by
  have silent : event.ends id = none → sentIf serialize (serves id) ctx event = none →
      repliesTo next id = repliesTo ctx id ++ (sentIf serialize (serves id) ctx event).toList := by
    intro unended nothing
    rw [nothing, replies_to_unended taken unended]
    exact (List.append_nil _).symm
  cases event with
  | workEnded other outcome now =>
      by_cases same : other = id
      · subst same
        have counted : sentIf serialize (serves other) ctx (.workEnded other outcome now) =
            sent serialize ctx (.workEnded other outcome now) := by simp [sentIf, serves]
        rcases sent_of_work_ended serialize taken with ⟨nothing, _, replies⟩ | ⟨reply, one, _, replies⟩
        · rw [counted, nothing, repliesTo, replies]
          exact (List.append_nil _).symm
        · rw [counted, one, repliesTo, replies, List.filter_append, List.map_append]
          simp [repliesTo]
      · exact silent (by simp [NodeContext.Event.ends, same]) (by simp [sentIf, serves, same])
  | workStarted other => exact silent rfl (by simp [sentIf, sent])
  | called call => exact silent rfl rfl
  | received session message callbacks => exact silent rfl rfl
  | publish publisher serialized => exact silent rfl rfl
  | wire event => exact silent rfl rfl

theorem replies_to_enqueued {serialize : Resp → Except PyException Json}
    {ctx final : Context Obj Resp} {events : List (NodeContext.Event Obj Resp)} (id : RequestId)
    (sound : ctx.conn.WellFormed) (reached : run (Context.step serialize) ctx events = some final) :
    repliesTo final id =
      repliesTo ctx id ++ enqueuedBy serialize (serves id) ctx events := by
  rw [enqueued_by_sent serialize (serves id) sound]
  exact sights_logged (Context.step serialize) (sentIf serialize (serves id))
    (fun _ _ _ sound taken => Context.well_formed_step sound taken)
    (fun _ _ _ _ taken => replies_to_sent id taken) sound reached

theorem ends_iff {event : NodeContext.Event Obj Resp} {id : RequestId}
    {outcome : Outcome Resp} :
    event.ends id = some outcome ↔ ∃ now, event = .workEnded id outcome now := by
  cases event with
  | workEnded other actual now =>
      unfold NodeContext.Event.ends
      dsimp only
      by_cases same : other = id
      · simp [same]
      · simp [same]
  | _ => simp [NodeContext.Event.ends]

theorem returned_progress_iff {work after : Work Obj Resp} {ended : Option (Outcome Resp)}
    (progress : Progress work after ended) (response : Resp) :
    (∃ decoded, after = .returned decoded response) ↔
      (∃ decoded, work = .returned decoded response) ∨ ended = some (.returned response) := by
  cases progress with
  | same => simp
  | started executor decoded => simp
  | cancelled executor decoded => simp
  | ended executor decoded outcome => cases outcome <;> simp [Outcome.work]

/-- Along a run, a rejected request stays rejected, and a request has returned
exactly when one of the events was that return. -/
theorem request_run {serialize : Resp → Except PyException Json} {ctx final : Context Obj Resp}
    {later : List (NodeContext.Event Obj Resp)} {id : RequestId} {request : Request Obj Resp}
    (stored : ctx.router.requests[id]? = some request)
    (reached : run (Context.step serialize) ctx later = some final) :
    ∃ work, final.router.requests[id]? = some { request with work := work } ∧
      (∀ error, request.work = .rejected error → work = .rejected error) ∧
      ∀ response, (∃ decoded, work = .returned decoded response) ↔
        (∃ decoded, request.work = .returned decoded response) ∨
          ∃ now, NodeContext.Event.workEnded id (.returned response) now ∈ later := by
  induction later generalizing ctx request with
  | nil =>
      cases reached
      exact ⟨request.work, stored, fun _ rejected => rejected, fun response => by simp⟩
  | cons event rest induction =>
      obtain ⟨next, taken, later⟩ := run_cons_some _ reached
      obtain ⟨middle, middleStored, progress⟩ := Context.request_step stored taken
      obtain ⟨work, finalStored, rejectedLater, returnedLater⟩ := induction middleStored later
      refine ⟨work, finalStored, ?_, ?_⟩
      · intro error rejected
        apply rejectedLater
        rw [rejected] at progress
        generalize event.ends id = ended at progress
        cases progress with
        | same => rfl
      · intro response
        have first := returned_progress_iff progress response
        rw [ends_iff] at first
        rw [returnedLater response]
        dsimp only
        rw [first]
        constructor
        · rintro ((old | ⟨now, rfl⟩) | ⟨now, member⟩)
          · exact .inl old
          · exact .inr ⟨now, List.mem_cons_self⟩
          · exact .inr ⟨now, List.mem_cons_of_mem _ member⟩
        · rintro (old | ⟨now, member⟩)
          · exact .inl (.inl old)
          · rcases List.mem_cons.mp member with same | tail
            · exact .inl (.inr ⟨now, same.symm⟩)
            · exact .inr ⟨now, tail⟩

theorem done_some_iff {serialize : Resp → Except PyException Json} {now : Int}
    {request : Request Obj Resp} {reply : Outgoing} :
    onRpcFutureDone serialize now request = some reply ↔
      request.replyTo.truthy = true ∧ ∃ decoded response body,
        request.work = .returned decoded response ∧ serialize response = .ok body ∧
        reply = ⟨request.replyTo, wrapResponse now body, 1⟩ := by
  unfold onRpcFutureDone
  split
  · rename_i wanted
    split
    · rename_i decoded response returned
      rw [returned]
      cases serialized : serialize response with
      | error _ => simp [serialized]
      | ok body => simp [wanted, serialized, eq_comm]
    · rename_i unreturned
      simp only [reduceCtorEq, false_iff, not_and, not_exists]
      intro _ decoded response _ returned
      exact absurd returned (unreturned decoded response)
  · rename_i unwanted
    simp [unwanted]

theorem dispatch_rpc_accepted {registry : Registry Obj} {topic : String} {data : Json}
    {msgType : MsgType Obj} {service : ServiceId}
    (accepted : ∀ error, (dispatchRpc registry topic data msgType service :
      Request Obj Resp).work ≠ .rejected error) :
    (∃ decoded, msgType.hydrate (dataOf data) = .ok decoded) ∧
      ∃ executor, serviceDispatch registry service = .ok executor := by
  unfold dispatchRpc at accepted
  dsimp only at accepted
  cases hydrated : msgType.hydrate (dataOf data) with
  | error error => simp [hydrated] at accepted
  | ok decoded =>
      cases submitted : serviceDispatch registry service with
      | error error => simp [hydrated, submitted] at accepted
      | ok executor => exact ⟨⟨decoded, rfl⟩, executor, rfl⟩

theorem received_request {serialize : Resp → Except PyException Json}
    {arrival next : Context Obj Resp} {session : SessionId} {topic : String} {data : Json}
    {callbacks : Callbacks Obj} {msgType : MsgType Obj} {service : ServiceId}
    (command : arrival.router.registry.commandTable.get? topic = some (msgType, service))
    (taken : arrival.step serialize (.received session ⟨topic, .value data⟩ callbacks) =
      some next) :
    next.router.requests[arrival.router.requests.length]? =
      some (dispatchRpc arrival.router.registry topic data msgType service) := by
  have passes : arrival.received session ⟨topic, .value data⟩ callbacks = some next := taken
  obtain ⟨client, drain, _, passed | failed⟩ := Context.received_cases passes
  · obtain ⟨router, dispatched, rfl⟩ := passed
    cases dispatched
    rcases Context.route_message_requests callbacks arrival.router topic data with
      ⟨_, _, entry, appended⟩ | ⟨missing, _⟩
    · rw [command] at entry
      cases entry
      rw [appended, List.getElem?_concat_length]
    · rw [command] at missing
      cases missing
  · obtain ⟨error, raised, _⟩ := failed
    cases raised

/-- In every run, and so once its processing has ended, a request on a command
topic with a reply address has got its one reply on the queue exactly when it
was handled. -/
theorem request_answered_iff_handled {serialize : Resp → Except PyException Json}
    {before later : List (NodeContext.Event Obj Resp)} {arrival final : Context Obj Resp}
    {session : SessionId} {topic replyTo : String} {data : Json} {callbacks : Callbacks Obj}
    {msgType : MsgType Obj} {service : ServiceId}
    (arrived : run (Context.step serialize) Context.fresh before = some arrival)
    (command : arrival.router.registry.commandTable.get? topic = some (msgType, service))
    (address : replyToOf data = .str replyTo) (nonempty : replyTo ≠ "")
    (reached : run (Context.step serialize) arrival
      (.received session ⟨topic, .value data⟩ callbacks :: later) = some final) :
    Answered serialize arrival (.received session ⟨topic, .value data⟩ callbacks :: later)
        arrival.router.requests.length replyTo
        (Handled serialize arrival.router.registry msgType service data
          arrival.router.requests.length later) ↔
      Handled serialize arrival.router.registry msgType service data
        arrival.router.requests.length later := by
  have whole : run (Context.step serialize) Context.fresh
      (before ++ .received session ⟨topic, .value data⟩ callbacks :: later) = some final := by
    rw [run_append, arrived]
    exact reached
  obtain ⟨next, taken, laterReached⟩ := run_cons_some _ reached
  have first := received_request command taken
  obtain ⟨work, stored, rejected, returned⟩ := request_run first laterReached
  obtain ⟨now, replies⟩ := (accounted_run whole).2.matching _ _ stored
  have sound : arrival.conn.WellFormed :=
    run_invariant (Context.step serialize)
      (fun _ _ _ holds taken => Context.well_formed_step holds taken) State.well_formed_fresh arrived
  have unanswered : repliesTo arrival arrival.router.requests.length = [] :=
    replies_to_unknown (accounted_run arrived).2 (List.getElem?_eq_none (Nat.le_refl _))
  rw [replies_to_enqueued arrival.router.requests.length sound reached, unanswered,
    List.nil_append] at replies
  unfold Answered
  constructor
  · rintro ⟨reply, single, _⟩
    rw [single] at replies
    have sent := Option.toList_eq_singleton_iff.mp replies.symm
    obtain ⟨_, decoded, response, body, workReturned, serialized, _⟩ := done_some_iff.mp sent
    dsimp only at workReturned
    have accepted : ∀ error, (dispatchRpc arrival.router.registry topic data msgType service :
        Request Obj Resp).work ≠ .rejected error := by
      intro error initial
      rw [rejected error initial] at workReturned
      cases workReturned
    have ended := ((returned response).mp ⟨decoded, workReturned⟩).resolve_left (by
      rintro ⟨decoded, initial⟩
      exact dispatch_rpc_unreturned _ _ _ _ _ _ _ initial)
    obtain ⟨time, member⟩ := ended
    obtain ⟨hydrated, submitted⟩ := dispatch_rpc_accepted accepted
    exact ⟨hydrated, submitted, response, time, body, member, serialized⟩
  · intro handled
    have ⟨_, _, response, time, body, member, serialized⟩ := handled
    obtain ⟨decoded, workReturned⟩ := (returned response).mpr (.inr ⟨time, member⟩)
    have wanted : (replyToOf data).truthy = true := by
      rw [address]
      simpa [Json.truthy] using nonempty
    rw [done_some_iff.mpr ⟨wanted, decoded, response, body, workReturned, serialized, rfl⟩]
      at replies
    exact ⟨_, replies, address, fun unhandled => absurd handled unhandled⟩

/-- A request type without fields. -/
def emptyRequest : MsgType Unit :=
  .plain fun fields => if fields.isEmpty then .ok () else .error typeError

/-- One service, and a connection that is up. -/
def serviceRun : List (NodeContext.Event Unit Unit) :=
  [.called (.createRpc "bot/status" emptyRequest 0), .wire .start, .wire .startResumed,
    .wire (.iterated true), .wire (.entered true), .wire (.subscribed true)]

def requestWith (data : Json) : Json :=
  .obj [("header", .obj [("reply_to", .str "peer")]), ("data", data)]

def nullResponse : Unit → Except PyException Json := fun _ => .ok .null

theorem status_request_answered :
    ∃ arrival final,
      run (Context.step nullResponse) Context.fresh serviceRun = some arrival ∧
      run (Context.step nullResponse) arrival
        [.received 0 ⟨"bot/status", .value (requestWith .null)⟩ (fun _ _ => .ok ()),
          .workStarted 0, .workEnded 0 (.returned ()) 7] = some final ∧
      Answered nullResponse arrival
        [.received 0 ⟨"bot/status", .value (requestWith .null)⟩ (fun _ _ => .ok ()),
          .workStarted 0, .workEnded 0 (.returned ()) 7] 0 "peer"
        (Handled nullResponse arrival.router.registry emptyRequest 0
          (requestWith .null) 0 [.workStarted 0, .workEnded 0 (.returned ()) 7]) := by
  refine ⟨_, _, rfl, rfl, ?_⟩
  refine (@request_answered_iff_handled _ _ nullResponse serviceRun
    [.workStarted 0, .workEnded 0 (.returned ()) 7] _ _ 0 "bot/status" "peer" _ _ _ _ rfl rfl rfl
    (by decide) rfl).mpr ?_
  exact ⟨⟨(), rfl⟩, ⟨0, rfl⟩, (), 7, .null, .tail _ (.head _), rfl⟩

/-- A request whose data is no mapping cannot be decoded: its processing is
over at once, and nothing is put on the queue for it. -/
theorem undecodable_request_unanswered :
    ∃ arrival final request,
      run (Context.step nullResponse) Context.fresh serviceRun = some arrival ∧
      arrival.router.registry.commandTable.get? "bot/status" = some (emptyRequest, 0) ∧
      replyToOf (requestWith (.int 5)) = .str "peer" ∧
      run (Context.step nullResponse) arrival
        [.received 0 ⟨"bot/status", .value (requestWith (.int 5))⟩ (fun _ _ => .ok ())] =
          some final ∧
      final.router.requests[0]? = some request ∧ request.work.ended = true ∧
      ∀ handled, ¬ Answered nullResponse arrival
        [.received 0 ⟨"bot/status", .value (requestWith (.int 5))⟩ (fun _ _ => .ok ())] 0 "peer"
        handled := by
  refine ⟨_, _, _, rfl, rfl, rfl, rfl, rfl, rfl, ?_⟩
  rintro handled ⟨reply, single, _⟩
  cases single

end RemoteIface.Commlib.Replies
