import RemoteIface.Library.Projection
import RemoteIface.Commlib.OutgoingQueue
import RemoteIface.Commlib.Handles

/-!
What the host publishes and what the handlers return, and the order in which it
is queued. A publication is put on its way to the queue or counted as a
failure; so the queue is a log of the calls, and the broker gets a part of it.
-/

namespace RemoteIface.Commlib.OutgoingLog

set_option autoImplicit false

open RemoteIface.Library.Runs
open RemoteIface.Library.Projection
open RemoteIface.Commlib.Payload
open RemoteIface.Commlib.Endpoints
open RemoteIface.Commlib.Rpc
open RemoteIface.Commlib.Dispatch
open RemoteIface.Commlib.Connection
open RemoteIface.Commlib.NodeContext
open RemoteIface.Commlib.OutgoingQueue
open RemoteIface.Commlib.Handles

variable {Obj Resp : Type} (serialize : Resp → Except PyException Json)

/-- What becomes of a publication: an item for the queue, or a failure. -/
def publication (ctx : Context Obj Resp) (id : PublisherId)
    (serialized : Except PyException Json) : Option (Option Outgoing) :=
  (ctx.router.registry.publishers[id]?).map fun publisher =>
    if publisher.started ∧ ctx.conn.loopSet then
      serialized.toOption.map fun payload => ⟨.str publisher.topic, payload, 0⟩
    else none

/-- What an event puts on its way to `_outgoing`. -/
def sent (ctx : Context Obj Resp) : NodeContext.Event Obj Resp → Option Outgoing
  | .publish id serialized => (publication ctx id serialized).join
  | .workEnded id outcome now =>
      if ctx.conn.loopSet then
        (finishWork ctx.router.requests id outcome).bind fun ended =>
          onRpcFutureDone serialize now ended.2
      else none
  | .wire (.enqueued item) => if ctx.conn.loopSet then some item else none
  | _ => none

/-- The publications of one publisher, by what becomes of them. -/
def attempted (id : PublisherId) (ctx : Context Obj Resp) :
    NodeContext.Event Obj Resp → Option Unit
  | .publish other serialized =>
      if other = id then (publication ctx id serialized).map fun _ => () else none
  | _ => none

def sentBy (id : PublisherId) (ctx : Context Obj Resp) :
    NodeContext.Event Obj Resp → Option Outgoing
  | .publish other serialized =>
      if other = id then (publication ctx id serialized).join else none
  | _ => none

def failed (id : PublisherId) (ctx : Context Obj Resp) :
    NodeContext.Event Obj Resp → Option Unit
  | .publish other serialized =>
      if other = id then
        (publication ctx id serialized).bind fun item => if item.isNone then some () else none
      else none
  | _ => none

def queueLog (ctx : Context Obj Resp) : List Outgoing :=
  ctx.conn.accepted ++ ctx.conn.scheduled

section Publication

variable {ctx : Context Obj Resp} {id : PublisherId} {serialized : Except PyException Json}

theorem publish_missing (missing : publication ctx id serialized = none) :
    ctx.publish id serialized = ctx := by
  have absent := Option.map_eq_none_iff.mp missing
  unfold Context.publish
  rw [absent]

theorem publish_failed (failed : publication ctx id serialized = some none) :
    ctx.publish id serialized = ctx.countFailure id := by
  obtain ⟨publisher, stored, refused⟩ := Option.map_eq_some_iff.mp failed
  unfold Context.publish
  rw [stored]
  dsimp only
  split
  · rename_i started
    cases serialized with
    | error error => rfl
    | ok payload =>
        have unset : ctx.conn.loopSet = false := by
          by_contra set
          rw [if_pos ⟨started, by simpa using set⟩] at refused
          cases refused
        simp [State.enqueueOutgoing, unset]
  · rfl

theorem publish_sent {item : Outgoing} (sent : publication ctx id serialized = some (some item)) :
    ctx.publish id serialized =
      { ctx with conn := { ctx.conn with scheduled := ctx.conn.scheduled ++ [item] } } := by
  obtain ⟨publisher, stored, accepted⟩ := Option.map_eq_some_iff.mp sent
  split at accepted
  · rename_i ready
    obtain ⟨payload, same, rfl⟩ := Option.map_eq_some_iff.mp accepted
    cases serialized with
    | error error => cases same
    | ok given =>
        cases same
        unfold Context.publish
        simp [stored, ready.1, State.enqueueOutgoing, ready.2]
  · cases accepted

end Publication

/-- Apart from `_enqueue_outgoing` itself, the steps of the connection put
nothing on the way to the queue. -/
theorem log_of_wire {desired : List String} {conn next : Connection.State}
    {event : Connection.Event} (dormant : conn.Dormant) (taken : conn.step desired event = some next)
    (quiet : ∀ item, event ≠ .enqueued item) :
    next.accepted ++ next.scheduled = conn.accepted ++ conn.scheduled := by
  by_cases ofRun : event.ofRun = true
  · obtain ⟨_, scheduled, _, accepted, _⟩ := State.run_move dormant ofRun taken
    rw [scheduled, accepted]
  cases event <;> simp only [Event.ofRun, not_true_eq_false] at ofRun
  case drainTook id =>
    obtain ⟨client, dispatch, item, rest, _, _, rfl⟩ := State.drain_took_cases taken
    rfl
  case published id returned =>
    obtain ⟨client, item, dispatch, _, rfl⟩ := State.publish_ended_cases taken
    cases returned <;> rfl
  case messagesEnded id raised =>
    obtain ⟨client, drain, _, rfl⟩ := State.messages_ended_cases taken
    rfl
  case drainCancelled id =>
    obtain ⟨session, _, _, rfl⟩ := State.drain_cancelled_cases taken
    rfl
  case dispatchCancelled id =>
    obtain ⟨session, _, _, rfl⟩ := State.dispatch_cancelled_cases taken
    rfl
  case enqueued item => exact absurd rfl (quiet item)
  case putRan =>
    obtain ⟨item, rest, scheduled, rfl⟩ := State.put_ran_cases taken
    simp [scheduled]

/-- The end of a handler sends nothing, or one reply, which is logged under the
request. -/
theorem sent_of_work_ended {ctx next : Context Obj Resp} {id : RequestId} {outcome : Outcome Resp}
    {now : Int} (taken : ctx.workEnded serialize id outcome now = some next) :
    (sent serialize ctx (.workEnded id outcome now) = none ∧ next.conn = ctx.conn ∧
        next.replies = ctx.replies) ∨
      ∃ reply, sent serialize ctx (.workEnded id outcome now) = some reply ∧
        next.conn = { ctx.conn with scheduled := ctx.conn.scheduled ++ [reply] } ∧
        next.replies = ctx.replies ++ [(id, reply)] := by
  obtain ⟨request, executor, decoded, finished, stored, running, ended, _, result⟩ :=
    Context.work_ended_cases taken
  have finishes : finishWork ctx.router.requests id outcome =
      some (ctx.router.requests.set id finished, finished) := by
    unfold finishWork
    rw [stored]
    dsimp only
    rw [running, ended]
  have seen : sent serialize ctx (.workEnded id outcome now) =
      if ctx.conn.loopSet then onRpcFutureDone serialize now finished else none := by
    unfold sent
    dsimp only
    rw [finishes, Option.bind_some]
  rcases result with ⟨conn, replies, silent⟩ | ⟨reply, replied, set, conn, replies⟩
  · refine .inl ⟨?_, conn, replies⟩
    rw [seen]
    rcases silent with unanswered | unset
    · simp [unanswered]
    · simp [unset]
  · refine .inr ⟨reply, ?_, conn, replies⟩
    rw [seen, if_pos set, replied]

theorem log_of_quiet {ctx next : Context Obj Resp} {event : NodeContext.Event Obj Resp}
    (nothing : sent serialize ctx event = none) (accepted : next.conn.accepted = ctx.conn.accepted)
    (scheduled : next.conn.scheduled = ctx.conn.scheduled) :
    queueLog next = queueLog ctx ++ (sent serialize ctx event).toList := by
  rw [nothing, queueLog, accepted, scheduled]
  exact (List.append_nil _).symm

theorem publish_log (ctx : Context Obj Resp) (id : PublisherId)
    (serialized : Except PyException Json) :
    queueLog (ctx.publish id serialized) =
      queueLog ctx ++ (sent serialize ctx (.publish id serialized)).toList := by
  cases result : publication ctx id serialized with
  | none =>
      rw [publish_missing result]
      exact log_of_quiet serialize (by simp [sent, result]) rfl rfl
  | some item =>
      cases item with
      | none =>
          rw [publish_failed result]
          exact log_of_quiet serialize (by simp [sent, result]) rfl rfl
      | some item =>
          rw [publish_sent result]
          simp [queueLog, sent, result]

theorem wire_log {ctx : Context Obj Resp} {event : Connection.Event} {conn : Connection.State}
    (sound : ctx.conn.WellFormed)
    (moved : ctx.conn.step ctx.router.registry.desiredSubscriptions event = some conn) :
    queueLog { ctx with conn := conn } =
      queueLog ctx ++ (sent serialize ctx (.wire event)).toList := by
  by_cases direct : ∃ item, event = .enqueued item
  · obtain ⟨item, rfl⟩ := direct
    unfold State.step at moved
    cases set : ctx.conn.loopSet with
    | true =>
        simp only [State.enqueueOutgoing, set, if_true, Option.some.injEq] at moved
        cases moved
        simp [queueLog, sent, set]
    | false =>
        simp only [State.enqueueOutgoing, set] at moved
        cases moved
        exact log_of_quiet serialize (by simp [sent, set]) rfl rfl
  · have quiet : ∀ item, event ≠ .enqueued item := fun item same => direct ⟨item, same⟩
    have nothing : sent serialize ctx (.wire event) = none := by
      unfold sent
      split
      · rename_i same
        cases same
      · rename_i same
        cases same
      · rename_i item same
        cases same
        exact absurd rfl (quiet item)
      · rfl
    rw [nothing, queueLog, log_of_wire sound.dormant moved quiet]
    exact (List.append_nil _).symm

theorem log_step {ctx next : Context Obj Resp} {event : NodeContext.Event Obj Resp}
    (sound : ctx.conn.WellFormed) (taken : ctx.step serialize event = some next) :
    queueLog next = queueLog ctx ++ (sent serialize ctx event).toList := by
  cases event with
  | called call =>
      cases taken
      exact log_of_quiet serialize rfl rfl rfl
  | publish id serialized =>
      cases taken
      exact publish_log serialize ctx id serialized
  | received session message callbacks =>
      obtain ⟨client, drain, _, passed | failed⟩ := Context.received_cases taken
      · obtain ⟨router, _, rfl⟩ := passed
        exact log_of_quiet serialize rfl rfl rfl
      · obtain ⟨error, _, rfl⟩ := failed
        exact log_of_quiet serialize rfl rfl rfl
  | workStarted id =>
      obtain ⟨conn, _⟩ := Context.work_started_conn taken
      exact log_of_quiet serialize rfl (by rw [conn]) (by rw [conn])
  | workEnded id outcome now =>
      rcases sent_of_work_ended serialize taken with ⟨nothing, conn, _⟩ | ⟨reply, one, conn, _⟩
      · exact log_of_quiet serialize nothing (by rw [conn]) (by rw [conn])
      · rw [one, queueLog, conn, ← List.append_assoc]
        rfl
  | wire event =>
      obtain ⟨conn, moved, rfl⟩ := Option.map_eq_some_iff.mp taken
      exact wire_log serialize sound moved

def gained (ctx next : Context Obj Resp) : List Outgoing :=
  (queueLog next).drop (queueLog ctx).length

/-- What the queue has gained in those steps of a run that count. -/
def enqueuedBy (counts : NodeContext.Event Obj Resp → Bool) :
    Context Obj Resp → List (NodeContext.Event Obj Resp) → List Outgoing
  | _, [] => []
  | ctx, event :: rest =>
      match ctx.step serialize event with
      | none => []
      | some next =>
          (if counts event then gained ctx next else []) ++ enqueuedBy counts next rest

def sentIf (counts : NodeContext.Event Obj Resp → Bool) (ctx : Context Obj Resp)
    (event : NodeContext.Event Obj Resp) : Option Outgoing :=
  if counts event then sent serialize ctx event else none

theorem sent_if_sublist (counts : NodeContext.Event Obj Resp → Bool) (ctx : Context Obj Resp)
    (event : NodeContext.Event Obj Resp) :
    (sentIf serialize counts ctx event).toList.Sublist (sent serialize ctx event).toList := by
  unfold sentIf
  split
  · exact List.Sublist.refl _
  · exact List.nil_sublist _

theorem enqueued_by_sent (counts : NodeContext.Event Obj Resp → Bool) {ctx : Context Obj Resp}
    (sound : ctx.conn.WellFormed) (events : List (NodeContext.Event Obj Resp)) :
    enqueuedBy serialize counts ctx events =
      sights (Context.step serialize) (sentIf serialize counts) ctx events := by
  induction events generalizing ctx with
  | nil => rfl
  | cons event rest induction =>
      unfold enqueuedBy sights
      cases taken : ctx.step serialize event with
      | none => rfl
      | some next =>
          have grown : gained ctx next = (sent serialize ctx event).toList := by
            rw [gained, log_step serialize sound taken, List.drop_left]
          dsimp only
          rw [induction (Context.well_formed_step sound taken), grown, sentIf]
          split
          · rfl
          · rfl

def failureCount (registry : Registry Obj) (id : PublisherId) : Nat :=
  ((registry.publishers[id]?).map Publisher.publishFailureCount).getD 0

theorem create_publisher_failures (registry : Registry Obj) (topic : String) (id : PublisherId) :
    failureCount (registry.createPublisher topic) id = failureCount registry id := by
  unfold failureCount Registry.createPublisher Registry.startPublisher
  dsimp only
  by_cases new : registry.publishers.length = id
  · subst new
    simp
  · rw [List.getElem?_modify_ne _ _ new]
    by_cases inside : id < registry.publishers.length
    · rw [List.getElem?_append_left inside]
    · have beyond : registry.publishers.length ≤ id := Nat.not_lt.mp inside
      have outside : (registry.publishers ++ [Publisher.mk topic 0 false]).length ≤ id := by
        rw [List.length_append]
        exact Nat.lt_of_le_of_ne beyond new
      rw [List.getElem?_eq_none outside, List.getElem?_eq_none beyond]

theorem modify_failures {publishers : List Publisher} {other id : PublisherId}
    {change : Publisher → Publisher}
    (kept : ∀ publisher, (change publisher).publishFailureCount = publisher.publishFailureCount) :
    (((publishers.modify other change)[id]?).map Publisher.publishFailureCount).getD 0 =
      ((publishers[id]?).map Publisher.publishFailureCount).getD 0 := by
  by_cases same : other = id
  · subst same
    rw [List.getElem?_modify_eq, Option.map_eq_map, Option.map_map]
    congr 2
    funext publisher
    exact kept publisher
  · rw [List.getElem?_modify_ne _ _ same]

theorem perform_failures (registry : Registry Obj) (call : RegistryCall Obj) (id : PublisherId) :
    failureCount (registry.perform call) id = failureCount registry id := by
  have unchanged : ∀ next : Registry Obj, next.publishers = registry.publishers →
      failureCount next id = failureCount registry id := by
    intro next same
    rw [failureCount, same]
    rfl
  cases call with
  | createPublisher topic => exact create_publisher_failures registry topic id
  | startPublisher other => exact modify_failures fun _ => rfl
  | stopPublisher other => exact modify_failures fun _ => rfl
  | createSubscriber topic onMessage msgType =>
      exact unchanged _ (Registry.start_subscriber_publishers _ _)
  | startSubscriber other => exact unchanged _ (Registry.start_subscriber_publishers registry other)
  | stopSubscriber other => exact unchanged _ (Registry.stop_subscriber_publishers registry other)
  | setCallback other fn => exact unchanged _ rfl
  | createRpc rpcName msgType onRequest => exact unchanged _ (Registry.start_rpc_publishers _ _)
  | startRpc other => exact unchanged _ (Registry.start_rpc_publishers registry other)
  | stopRpc other => exact unchanged _ (Registry.stop_rpc_publishers registry other)

theorem count_failure (ctx : Context Obj Resp) (other id : PublisherId) {publisher : Publisher}
    (stored : ctx.router.registry.publishers[other]? = some publisher) :
    failureCount (ctx.countFailure other).router.registry id =
      failureCount ctx.router.registry id + if other = id then 1 else 0 := by
  unfold failureCount Context.countFailure
  dsimp only
  by_cases same : other = id
  · subst same
    simp [List.getElem?_modify_eq, stored]
  · rw [List.getElem?_modify_ne _ _ same, if_neg same, Nat.add_zero]

theorem failures_step {ctx next : Context Obj Resp} {event : NodeContext.Event Obj Resp}
    (id : PublisherId) (taken : ctx.step serialize event = some next) :
    failureCount next.router.registry id =
      failureCount ctx.router.registry id + (failed id ctx event).toList.length := by
  cases event with
  | publish other serialized =>
      cases taken
      cases result : publication ctx other serialized with
      | none =>
          have nothing : failed id ctx (.publish other serialized) = none := by
            unfold failed
            dsimp only
            split
            · rename_i same
              rw [← same, result]
              rfl
            · rfl
          rw [publish_missing result, nothing]
          rfl
      | some item =>
          obtain ⟨publisher, stored, _⟩ := Option.map_eq_some_iff.mp result
          cases item with
          | none =>
              rw [publish_failed result, count_failure ctx other id stored]
              unfold failed
              dsimp only
              split
              · rename_i same
                rw [← same, result]
                rfl
              · rfl
          | some item =>
              have nothing : failed id ctx (.publish other serialized) = none := by
                unfold failed
                dsimp only
                split
                · rename_i same
                  rw [← same, result]
                  rfl
                · rfl
              rw [publish_sent result, nothing]
              rfl
  | called call =>
      cases taken
      exact perform_failures ctx.router.registry call id
  | _ =>
      cases registry_move taken with
      | dispatched _ _ publishers =>
          rw [failureCount, publishers]
          rfl

theorem attempts_shared (id : PublisherId) (ctx : Context Obj Resp)
    (event : NodeContext.Event Obj Resp) :
    (attempted id ctx event).toList.length =
      (failed id ctx event).toList.length + (sentBy id ctx event).toList.length := by
  cases event with
  | publish other serialized =>
      unfold attempted failed sentBy
      dsimp only
      split
      · cases publication ctx id serialized with
        | none => rfl
        | some item => cases item <;> rfl
      · rfl
  | _ => rfl

/-- What a run has put on the way to the queue, in order. -/
def sentLog (events : List (NodeContext.Event Obj Resp)) : List Outgoing :=
  sights (Context.step serialize) (sent serialize) Context.fresh events

theorem sent_logged {events : List (NodeContext.Event Obj Resp)} {final : Context Obj Resp}
    (reached : run (Context.step serialize) Context.fresh events = some final) :
    queueLog final = sentLog serialize events :=
  sights_logged (Context.step serialize) (sent serialize)
    (fun _ _ _ sound taken => Context.well_formed_step sound taken)
    (fun _ _ _ sound taken => log_step serialize sound taken) State.well_formed_fresh reached

theorem drained_run {events : List (NodeContext.Event Obj Resp)} {final : Context Obj Resp}
    (reached : run (Context.step serialize) Context.fresh events = some final) :
    Drained final.conn := by
  have preserved : ∀ (ctx : Context Obj Resp) event next,
      ctx.conn.WellFormed ∧ Drained ctx.conn → ctx.step serialize event = some next →
      next.conn.WellFormed ∧ Drained next.conn := by
    intro ctx event next sound taken
    exact ⟨Context.well_formed_step sound.1 taken, drained_context_step sound.1 sound.2 taken⟩
  have fresh : (Context.fresh : Context Obj Resp).conn.WellFormed ∧
      Drained (Context.fresh : Context Obj Resp).conn :=
    ⟨State.well_formed_fresh, List.Sublist.refl []⟩
  exact (run_invariant (Context.step serialize) preserved fresh reached).2

theorem lossless_run {events : List (NodeContext.Event Obj Resp)} {final : Context Obj Resp}
    (reached : run (Context.step serialize) Context.fresh events = some final)
    (kept : Guarded (Context.step serialize) (fun ctx event => ¬ Loses ctx event) Context.fresh
      events) : Lossless final.conn := by
  have preserved : ∀ (ctx : Context Obj Resp) event next,
      ctx.conn.WellFormed ∧ Lossless ctx.conn → ¬ Loses ctx event →
      ctx.step serialize event = some next → next.conn.WellFormed ∧ Lossless next.conn := by
    intro ctx event next sound harmless taken
    exact ⟨Context.well_formed_step sound.1 taken,
      (lossless_context_step_iff sound.1 sound.2 taken).mpr harmless⟩
  have fresh : (Context.fresh : Context Obj Resp).conn.WellFormed ∧
      Lossless (Context.fresh : Context Obj Resp).conn := ⟨State.well_formed_fresh, rfl⟩
  exact (run_preserves (Context.step serialize) preserved fresh kept reached).2

/-- In every run the queue is the log of what the host has published and of what
the handlers have returned; the broker has been given a part of it in order, and
without a lost item the beginning of it. What a publisher did not send it has
counted. -/
theorem queue_logs_what_was_sent (events : List (NodeContext.Event Obj Resp))
    (final : Context Obj Resp)
    (reached : run (Context.step serialize) Context.fresh events = some final) :
    final.conn.accepted ++ final.conn.scheduled = sentLog serialize events ∧
      (held final.conn ++ final.conn.scheduled).Sublist (sentLog serialize events) ∧
      (Guarded (Context.step serialize) (fun ctx event => ¬ Loses ctx event) Context.fresh events →
        held final.conn ++ final.conn.scheduled = sentLog serialize events) ∧
      ∀ id, failureCount final.router.registry id +
          (sights (Context.step serialize) (sentBy id) Context.fresh events).length =
        (sights (Context.step serialize) (attempted id) Context.fresh events).length := by
  have logged := sent_logged serialize reached
  unfold queueLog at logged
  refine ⟨logged, ?_, ?_, ?_⟩
  · rw [← logged]
    exact (drained_run serialize reached).append_right final.conn.scheduled
  · intro kept
    have lossless : held final.conn = final.conn.accepted := lossless_run serialize reached kept
    rw [← logged, lossless]
  · intro id
    have counted := sights_counted (Context.step serialize) (failed id)
      (fun _ _ _ taken => failures_step serialize id taken) reached
    have none_yet : failureCount (Context.fresh : Context Obj Resp).router.registry id = 0 := rfl
    rw [none_yet, Nat.zero_add] at counted
    rw [counted]
    exact (sights_shared (Context.step serialize) (attempted id) (failed id) (sentBy id)
      (attempts_shared id) Context.fresh events).symm

/-- A publication before the first start, one that is queued, one that has no
JSON form, and one after the publisher is stopped. -/
def mixedRun : List (NodeContext.Event Unit Unit) :=
  [.called (.createPublisher "bot/notify"), .publish 0 (.ok (.str "early")), .wire .start,
    .publish 0 (.ok (.str "note")), .publish 0 (.error typeError), .called (.stopPublisher 0),
    .publish 0 (.ok (.str "late")), .wire .putRan]

theorem mixed_run_logged :
    ∃ final, run (Context.step fun _ => .error typeError) Context.fresh mixedRun = some final ∧
      failureCount final.router.registry 0 = 3 ∧
      sentLog (fun _ => .error typeError) mixedRun = [⟨.str "bot/notify", .str "note", 0⟩] ∧
      final.conn.accepted ++ final.conn.scheduled =
        sentLog (fun _ => .error typeError) mixedRun := by
  refine ⟨_, rfl, rfl, rfl, ?_⟩
  exact (queue_logs_what_was_sent (fun _ => .error typeError) mixedRun _ rfl).1

end RemoteIface.Commlib.OutgoingLog
