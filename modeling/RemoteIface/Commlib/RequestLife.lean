import RemoteIface.Library.Progress
import RemoteIface.Commlib.Replies
import RemoteIface.Commlib.ServicePools

/-!
The life of a request between its arrival and its end. The handler of a request
runs at most once, and what has become of its work tells how often it has begun
and ended. A service that is stopped lets the handlers that run go on, cancels
those that wait, and begins none until it is started again.
-/

namespace RemoteIface.Commlib.RequestLife

set_option autoImplicit false

open RemoteIface.Library.Runs
open RemoteIface.Library.Progress
open RemoteIface.Commlib.Payload
open RemoteIface.Commlib.Endpoints
open RemoteIface.Commlib.Rpc
open RemoteIface.Commlib.Dispatch
open RemoteIface.Commlib.NodeContext
open RemoteIface.Commlib.Replies
open RemoteIface.Commlib.CommandTable
open RemoteIface.Commlib.ServicePools

variable {Obj Resp : Type}

/-- How often the handler has begun, by the work. -/
def begun : Work Obj Resp → Nat
  | .running _ _ => 1
  | .returned _ _ => 1
  | .raised _ _ => 1
  | _ => 0

def finished : Work Obj Resp → Nat
  | .returned _ _ => 1
  | .raised _ _ => 1
  | _ => 0

/-- The handler of the request is called. -/
def begins (id : RequestId) : NodeContext.Event Obj Resp → Bool
  | .workStarted other => other = id
  | _ => false

def finishes (id : RequestId) (event : NodeContext.Event Obj Resp) : Bool :=
  (event.ends id).isSome

theorem finished_le_begun (work : Work Obj Resp) : finished work ≤ begun work := by
  cases work with
  | running executor task => exact Nat.zero_le _
  | _ => exact Nat.le_refl _

theorem begun_le_one (work : Work Obj Resp) : begun work ≤ 1 := by
  cases work with
  | running executor task => exact Nat.le_refl _
  | returned task response => exact Nat.le_refl _
  | raised task error => exact Nat.le_refl _
  | _ => exact Nat.zero_le _

def begunOf (id : RequestId) (ctx : Context Obj Resp) : Nat :=
  ((ctx.router.requests[id]?).map fun request => begun request.work).getD 0

def finishedOf (id : RequestId) (ctx : Context Obj Resp) : Nat :=
  ((ctx.router.requests[id]?).map fun request => finished request.work).getD 0

theorem begun_cancel_queued (executor : ExecutorId) (request : Request Obj Resp) :
    begun (request.cancelQueued executor).work = begun request.work := by
  unfold Request.cancelQueued
  split
  · rename_i owner task queued
    split
    · rw [queued]
      rfl
    · rfl
  · rfl

theorem begun_dispatched (registry : Registry Obj) (topic : String) (data : Json)
    (msgType : MsgType Obj) (service : ServiceId) :
    begun (dispatchRpc registry topic data msgType service : Request Obj Resp).work = 0 ∧
      finished (dispatchRpc registry topic data msgType service : Request Obj Resp).work = 0 := by
  unfold dispatchRpc
  dsimp only
  split
  · exact ⟨rfl, rfl⟩
  · split <;> exact ⟨rfl, rfl⟩

theorem perform_request (router : Router Obj Resp) (call : RegistryCall Obj) (id : RequestId) :
    (router.perform call).requests[id]? = router.requests[id]? ∨
      ∃ executor, (router.perform call).requests[id]? =
        (router.requests[id]?).map (Request.cancelQueued executor) := by
  unfold Router.perform
  dsimp only
  split
  · split
    · exact .inl rfl
    · rename_i executor _
      exact .inr ⟨executor, List.getElem?_map⟩
  · exact .inl rfl

theorem begun_set {requests : List (Request Obj Resp)} {other : RequestId}
    {request : Request Obj Resp} (stored : requests[other]? = some request) (id : RequestId)
    (work : Work Obj Resp) (more : Nat) (raised : begun work = begun request.work + more) :
    (((requests.set other { request with work := work })[id]?).map
        fun changed => begun changed.work).getD 0 =
      ((requests[id]?).map fun known => begun known.work).getD 0 +
        if other = id then more else 0 := by
  have inside := (List.getElem?_eq_some_iff.mp stored).1
  by_cases same : other = id
  · subst same
    rw [List.getElem?_set_self inside, stored, if_pos rfl]
    exact raised
  · rw [List.getElem?_set_ne same, if_neg same, Nat.add_zero]

theorem begun_step {serialize : Resp → Except PyException Json} (id : RequestId)
    {ctx next : Context Obj Resp} {event : NodeContext.Event Obj Resp}
    (taken : ctx.step serialize event = some next) :
    begunOf id next = begunOf id ctx + (begins id event).toNat := by
  unfold begunOf
  cases event with
  | called call =>
      cases taken
      rcases perform_request ctx.router call id with same | ⟨executor, cancelled⟩
      · dsimp only
        rw [same]
        rfl
      · dsimp only
        rw [cancelled, Option.map_map]
        simp [Function.comp_def, begun_cancel_queued, begins]
  | publish other serialized =>
      cases taken
      rcases Context.publish_cases ctx other serialized with same | counted | ⟨item, _, queued⟩
      · rw [same]
        rfl
      · rw [counted]
        rfl
      · rw [queued]
        rfl
  | received session message callbacks =>
      obtain ⟨client, drain, _, passed | failed⟩ := Context.received_cases taken
      · obtain ⟨router, dispatched, rfl⟩ := passed
        rcases Context.dispatch_requests dispatched with
          same | ⟨data, msgType, service, _, _, appended⟩
        · dsimp only
          rw [same]
          rfl
        · dsimp only
          rw [appended, List.getElem?_append]
          split
          · rfl
          · rename_i outside
            rw [List.getElem?_eq_none (Nat.not_lt.mp outside), List.getElem?_singleton]
            split
            · exact (begun_dispatched ctx.router.registry message.topic data msgType service).1
            · rfl
      · obtain ⟨error, _, rfl⟩ := failed
        rfl
  | workStarted other =>
      obtain ⟨requests, started, rfl⟩ := Option.map_eq_some_iff.mp taken
      obtain ⟨request, executor, task, stored, queued, _, rfl⟩ := start_work_some started
      have changed := begun_set stored id (.running executor task) 1 (by rw [queued]; rfl)
      refine changed.trans ?_
      by_cases same : other = id <;> simp [begins, same]
  | workEnded other outcome now =>
      obtain ⟨request, executor, task, ended, stored, running, rfl, router, _⟩ :=
        Context.work_ended_cases taken
      have changed := begun_set stored id (outcome.work task) 0 (by
        rw [running]
        cases outcome <;> rfl)
      rw [router]
      refine changed.trans ?_
      simp [begins]
  | wire event =>
      obtain ⟨conn, _, rfl⟩ := Option.map_eq_some_iff.mp taken
      rfl

theorem finished_progress {before after : Work Obj Resp} {ended : Option (Outcome Resp)}
    (progress : Progress before after ended) :
    finished after = finished before + ended.isSome.toNat := by
  cases progress with
  | same => rfl
  | started executor task => rfl
  | cancelled executor task => rfl
  | ended executor task outcome => cases outcome <;> rfl

theorem finished_step {serialize : Resp → Except PyException Json} (id : RequestId)
    {ctx next : Context Obj Resp} {event : NodeContext.Event Obj Resp}
    (taken : ctx.step serialize event = some next) :
    finishedOf id next = finishedOf id ctx + (finishes id event).toNat := by
  unfold finishedOf finishes
  cases before : ctx.router.requests[id]? with
  | some request =>
      obtain ⟨work, after, progress⟩ := Context.request_step before taken
      rw [after]
      exact finished_progress progress
  | none =>
      have unended : event.ends id = none := by
        cases ends : event.ends id with
        | none => rfl
        | some outcome =>
            obtain ⟨now, rfl⟩ := ends_iff.mp ends
            obtain ⟨request, _, _, _, stored, _⟩ := Context.work_ended_cases taken
            cases before.symm.trans stored
      rw [unended]
      cases after : next.router.requests[id]? with
      | none => rfl
      | some request =>
          obtain ⟨_, _, _, topic, data, _, msgType, service, _, _, rfl⟩ :=
            Context.new_request_cases before after taken
          exact (begun_dispatched ctx.router.registry topic data msgType service).2

theorem replies_le_finished {serialize : Resp → Except PyException Json} {ctx : Context Obj Resp}
    (recorded : Recorded serialize ctx) (id : RequestId) :
    (repliesTo ctx id).length ≤ finishedOf id ctx := by
  cases stored : ctx.router.requests[id]? with
  | none => simp [replies_to_unknown recorded stored]
  | some request =>
      obtain ⟨now, replies⟩ := recorded.matching id request stored
      unfold finishedOf
      rw [replies, stored, Option.map_some, Option.getD_some]
      cases work : request.work with
      | returned task response =>
          exact Option.length_toList_le
      | raised task error =>
          exact Option.length_toList_le
      | _ =>
          rw [no_reply_unless_returned (by simp [work])]
          exact Nat.zero_le _

/-- The handler of a request begins at most once, ends at most as often as it
has begun, and is answered at most as often as it has ended; how often it has
begun and ended is what has become of the work. -/
theorem handler_runs_at_most_once (serialize : Resp → Except PyException Json)
    (events : List (NodeContext.Event Obj Resp)) (ctx : Context Obj Resp)
    (reached : run (Context.step serialize) Context.fresh events = some ctx) (id : RequestId) :
    (∀ request, ctx.router.requests[id]? = some request →
        events.countP (begins id) = begun request.work ∧
          events.countP (finishes id) = finished request.work) ∧
      (repliesTo ctx id).length ≤ events.countP (finishes id) ∧
      events.countP (finishes id) ≤ events.countP (begins id) ∧
      events.countP (begins id) ≤ 1 := by
  have began : begunOf id ctx = events.countP (begins id) := by
    have counted := count_run (Context.step serialize) (fun _ _ _ => begun_step id) reached
    have none_yet : begunOf id (Context.fresh : Context Obj Resp) = 0 := rfl
    rw [counted, none_yet, Nat.zero_add]
  have ended : finishedOf id ctx = events.countP (finishes id) := by
    have counted := count_run (Context.step serialize) (fun _ _ _ => finished_step id) reached
    have none_yet : finishedOf id (Context.fresh : Context Obj Resp) = 0 := rfl
    rw [counted, none_yet, Nat.zero_add]
  have answered := replies_le_finished (accounted_run reached).2 id
  rw [← began, ← ended]
  refine ⟨?_, answered, ?_, ?_⟩
  · intro request stored
    simp [begunOf, finishedOf, stored]
  · unfold begunOf finishedOf
    cases ctx.router.requests[id]? with
    | none => exact Nat.le_refl _
    | some request => exact finished_le_begun request.work
  · unfold begunOf
    cases ctx.router.requests[id]? with
    | none => exact Nat.zero_le _
    | some request => exact begun_le_one request.work

theorem slow_run_begins_once :
    ∃ ctx : Context Unit Int,
      run (Context.step intText) Context.fresh (slowRun ++ [.workEnded 0 (.returned 1) 7]) =
          some ctx ∧
        (slowRun ++ [NodeContext.Event.workEnded 0 (.returned 1) 7]).countP (begins 0) ≤ 1 := by
  refine ⟨_, rfl, ?_⟩
  exact (handler_runs_at_most_once intText (slowRun ++ [.workEnded 0 (.returned 1) 7]) _ rfl
    0).2.2.2

structure Resting (id : ServiceId) (ctx : Context Obj Resp) : Prop where
  separate : Separate ctx.router
  stopped : startedFlag ctx.router.registry id = some false

theorem flag_of_services {registry next : Registry Obj} {id : ServiceId}
    (same : next.services[id]? = registry.services[id]?) :
    startedFlag next id = startedFlag registry id := by
  rw [startedFlag, startedFlag, same]

theorem perform_flag {registry : Registry Obj} {call : RegistryCall Obj} {id : ServiceId}
    (stopped : startedFlag registry id = some false) (unstarted : call ≠ .startRpc id) :
    startedFlag (registry.perform call) id = some false := by
  have inside : id < registry.services.length := by
    unfold startedFlag at stopped
    obtain ⟨service, stored, _⟩ := Option.map_eq_some_iff.mp stopped
    exact (List.getElem?_eq_some_iff.mp stored).1
  by_cases about : AboutServices call
  · cases call with
    | createRpc rpcName msgType onRequest =>
        refine (flag_of_services ?_).trans stopped
        change (registry.createRpc rpcName msgType onRequest).services[id]? = _
        rw [(create_rpc_table registry rpcName msgType onRequest).1,
          List.getElem?_append_left inside]
    | startRpc other =>
        have different : other ≠ id := by
          rintro rfl
          exact unstarted rfl
        rcases Registry.start_rpc_cases registry other with same | ⟨service, _, changed⟩
        · change startedFlag (registry.startRpc other) id = _
          rw [same]
          exact stopped
        · refine (flag_of_services ?_).trans stopped
          change (registry.startRpc other).services[id]? = _
          rw [changed]
          exact List.getElem?_set_ne different
    | stopRpc other =>
        change startedFlag (registry.stopRpc other) id = _
        rcases Registry.stop_rpc_cases registry other with same | ⟨service, stored, changed⟩
        · rw [same]
          exact stopped
        · by_cases own : other = id
          · subst own
            simp [startedFlag, changed, List.getElem?_set_self inside]
          · refine (flag_of_services ?_).trans stopped
            rw [changed]
            exact List.getElem?_set_ne own
    | _ => exact absurd about not_false
  · exact (flag_of_services (by rw [(perform_spared about).1])).trans stopped

theorem services_step {serialize : Resp → Except PyException Json}
    {ctx next : Context Obj Resp} {event : NodeContext.Event Obj Resp}
    (taken : ctx.step serialize event = some next) :
    (∃ call, event = .called call ∧
        next.router.registry = ctx.router.registry.perform call) ∨
      next.router.registry.services = ctx.router.registry.services := by
  cases event with
  | called call =>
      cases taken
      exact .inl ⟨call, rfl, rfl⟩
  | publish other serialized =>
      cases taken
      rcases Context.publish_cases ctx other serialized with same | counted | ⟨item, _, queued⟩
      · rw [same]
        exact .inr rfl
      · rw [counted]
        exact .inr rfl
      · rw [queued]
        exact .inr rfl
  | received session message callbacks =>
      obtain ⟨client, drain, _, passed | failed⟩ := Context.received_cases taken
      · obtain ⟨router, dispatched, rfl⟩ := passed
        exact .inr (dispatch_services dispatched).1
      · obtain ⟨error, _, rfl⟩ := failed
        exact .inr rfl
  | workStarted other =>
      rw [(Context.work_started_conn taken).2.2]
      exact .inr rfl
  | workEnded other outcome now =>
      obtain ⟨_, _, _, _, _, _, _, router, _⟩ := Context.work_ended_cases taken
      rw [router]
      exact .inr rfl
  | wire event =>
      obtain ⟨conn, _, rfl⟩ := Option.map_eq_some_iff.mp taken
      exact .inr rfl

theorem resting_step {serialize : Resp → Except PyException Json} {id : ServiceId}
    {ctx next : Context Obj Resp} {event : NodeContext.Event Obj Resp} (resting : Resting id ctx)
    (unstarted : event ≠ .called (.startRpc id)) (taken : ctx.step serialize event = some next) :
    Resting id next := by
  refine ⟨separate_step resting.separate taken, ?_⟩
  rcases services_step taken with ⟨call, rfl, performed⟩ | same
  · rw [performed]
    exact perform_flag resting.stopped fun same => unstarted (congrArg NodeContext.Event.called same)
  · exact (flag_of_services (by rw [same])).trans resting.stopped

theorem resting_executor {id : ServiceId} {ctx : Context Obj Resp} (resting : Resting id ctx) :
    executorOf ctx.router.registry id = none := by
  have stopped := resting.stopped
  unfold startedFlag at stopped
  obtain ⟨service, stored, flag⟩ := Option.map_eq_some_iff.mp stopped
  have known := (resting.separate.staffed id service stored).2
  rw [flag, Option.isSome_eq_false_iff, Option.isNone_iff_eq_none] at known
  rw [executorOf, stored, Option.bind_some, known]

theorem resting_none_queued {id : ServiceId} {ctx : Context Obj Resp} (resting : Resting id ctx)
    {request : Request Obj Resp} (member : request ∈ ctx.router.requests)
    (own : request.service = id) (executor : ExecutorId) (task : Obj) :
    request.work ≠ .queued executor task := by
  intro queued
  have placed := resting.separate.placed request member
  unfold Placed at placed
  rw [queued] at placed
  dsimp only at placed
  rw [own, resting_executor resting] at placed
  cases placed

theorem over_run {serialize : Resp → Except PyException Json} {ctx final : Context Obj Resp}
    {events : List (NodeContext.Event Obj Resp)} {number : RequestId}
    {request : Request Obj Resp} (stored : ctx.router.requests[number]? = some request)
    (finished : request.work.ended = true)
    (reached : run (Context.step serialize) ctx events = some final) :
    final.router.requests[number]? = some request := by
  have kept : ∀ (state : Context Obj Resp) event next,
      state.router.requests[number]? = some request →
        state.step serialize event = some next → next.router.requests[number]? = some request := by
    intro state event next known taken
    obtain ⟨work, after, progress⟩ := Context.request_step known taken
    rw [after]
    generalize event.ends number = ended at progress
    generalize before : request.work = old at progress finished
    cases progress with
    | same => rw [← before]
    | ended => cases finished
    | started => cases finished
    | cancelled => cases finished
  exact run_invariant (Context.step serialize) kept stored reached

theorem outcome_over (outcome : Outcome Resp) (task : Obj) :
    (outcome.work task).ended = true := by
  cases outcome <;> rfl

/-- A handler that runs goes on, or has ended with the outcome its work shows. -/
theorem running_run {serialize : Resp → Except PyException Json} {ctx final : Context Obj Resp}
    {events : List (NodeContext.Event Obj Resp)} {number : RequestId}
    {request : Request Obj Resp} {executor : ExecutorId} {task : Obj}
    (stored : ctx.router.requests[number]? = some request)
    (running : request.work = .running executor task)
    (reached : run (Context.step serialize) ctx events = some final) :
    final.router.requests[number]? = some request ∨
      ∃ outcome now, NodeContext.Event.workEnded number outcome now ∈ events ∧
        final.router.requests[number]? = some { request with work := outcome.work task } := by
  induction events generalizing ctx with
  | nil =>
      cases reached
      exact .inl stored
  | cons event rest induction =>
      obtain ⟨next, taken, later⟩ := run_cons_some _ reached
      obtain ⟨work, after, progress⟩ := Context.request_step stored taken
      cases ended : event.ends number with
      | none =>
          rw [running, ended] at progress
          cases progress
          have unchanged : next.router.requests[number]? = some request := by
            rw [after, ← running]
          rcases induction unchanged later with same | ⟨outcome, now, member, finished⟩
          · exact .inl same
          · exact .inr ⟨outcome, now, List.mem_cons_of_mem event member, finished⟩
      | some outcome =>
          rw [running, ended] at progress
          cases progress
          obtain ⟨now, rfl⟩ := ends_iff.mp ended
          exact .inr ⟨outcome, now, List.mem_cons_self, over_run after (outcome_over _ _) later⟩

theorem resting_begins_none {serialize : Resp → Except PyException Json} {id : ServiceId}
    {ctx final : Context Obj Resp} {events : List (NodeContext.Event Obj Resp)}
    {number : RequestId} {request : Request Obj Resp} (resting : Resting id ctx)
    (unstarted : .called (.startRpc id) ∉ events)
    (reached : run (Context.step serialize) ctx events = some final)
    (stored : final.router.requests[number]? = some request) (own : request.service = id) :
    events.countP (begins number) = 0 := by
  induction events generalizing ctx with
  | nil => rfl
  | cons event rest induction =>
      obtain ⟨next, taken, later⟩ := run_cons_some _ reached
      obtain ⟨other, unstartedLater⟩ := List.ne_and_not_mem_of_not_mem_cons unstarted
      have restingLater := resting_step resting (fun same => other same.symm) taken
      rw [List.countP_cons_of_neg, induction restingLater unstartedLater later]
      intro beginning
      cases event with
      | workStarted begun =>
          have same : begun = number := of_decide_eq_true beginning
          subst same
          obtain ⟨requests, started, rfl⟩ := Option.map_eq_some_iff.mp taken
          obtain ⟨waiting, executor, task, known, queued, _, rfl⟩ := start_work_some started
          have inside := (List.getElem?_eq_some_iff.mp known).1
          obtain ⟨work, last, _⟩ := request_run (List.getElem?_set_self inside) later
          rw [last, Option.some.injEq] at stored
          subst stored
          exact resting_none_queued resting (List.mem_of_getElem? known) own executor task queued
      | _ => cases beginning

theorem stop_cancels {ctx : Context Obj Resp} {id : ServiceId} (separate : Separate ctx.router)
    (started : startedFlag ctx.router.registry id = some true) :
    startedFlag (ctx.router.perform (.stopRpc id)).registry id = some false ∧
      ∃ executor, executorOf ctx.router.registry id = some executor ∧
        (ctx.router.perform (.stopRpc id)).requests =
          ctx.router.requests.map (Request.cancelQueued executor) := by
  rcases stop_rpc_move separate.staffed id with ⟨stopped, _⟩ | ⟨_, executor, held, live, _⟩
  · exact absurd started stopped
  · refine ⟨?_, executor, held, ?_⟩
    · obtain ⟨service, stored, running⟩ := Option.map_eq_some_iff.mp started
      have inside := (List.getElem?_eq_some_iff.mp stored).1
      change startedFlag (ctx.router.registry.stopRpc id) id = some false
      rw [Registry.stop_rpc_started stored running, startedFlag, List.getElem?_set_self inside]
      rfl
    · simp only [Router.perform, live, shutdown]

end RemoteIface.Commlib.RequestLife
