import RemoteIface.Library.Projection
import RemoteIface.Library.WorkerPool
import RemoteIface.Commlib.CommandTable

/-!
Every `RPCService` has a bounded thread pool of its own. What happens to the
requests of one service is a run of one pool on the events of that service;
the requests of the others, however slow, are no part of it.
-/

namespace RemoteIface.Commlib.ServicePools

set_option autoImplicit false

open RemoteIface.Library
open RemoteIface.Library.Runs
open RemoteIface.Library.InsertionOrder
open RemoteIface.Library.Projection
open RemoteIface.Library.WorkerPool
open RemoteIface.Commlib.Payload
open RemoteIface.Commlib.Endpoints
open RemoteIface.Commlib.Rpc
open RemoteIface.Commlib.Dispatch
open RemoteIface.Commlib.CommandTable
open RemoteIface.Commlib.NodeContext

variable {Obj Resp : Type}

/-- The default of `max_workers`, which `create_rpc` does not override. -/
def maxWorkers : Nat := 5

/-- `_executor` of a service. -/
def executorOf (registry : Registry Obj) (service : ServiceId) : Option ExecutorId :=
  (registry.services[service]?).bind RpcService.executor

/-- Whether a service is started. -/
def startedFlag (registry : Registry Obj) (id : ServiceId) : Option Bool :=
  (registry.services[id]?).map RpcService.started

/-- A request as its service's pool sees it. -/
def jobOf (executor : Option ExecutorId) : Work Obj Resp → Job Obj (Outcome Resp)
  | .rejected _ => .refused
  | .queued _ task => .queued task
  | .running owner task => .running task (executor = some owner)
  | .returned task response => .ended task (.returned response)
  | .raised task error => .ended task (.raised error)
  | .cancelled task => .cancelled task

def requestsOf (service : ServiceId) (requests : List (Request Obj Resp)) :
    List (Request Obj Resp) :=
  requests.filter fun request => request.service = service

/-- The place of a request among those of the service. -/
def placeOf (service : ServiceId) (requests : List (Request Obj Resp)) (id : RequestId) : Nat :=
  (requests.take id).countP fun request => request.service = service

def poolOf (service : ServiceId) (router : Router Obj Resp) : Pool Obj (Outcome Resp) where
  live := (executorOf router.registry service).isSome
  jobs := (requestsOf service router.requests).map fun request =>
    jobOf (executorOf router.registry service) request.work

def holds (service : ServiceId) (requests : List (Request Obj Resp)) (id : RequestId) : Bool :=
  (requests[id]?).any fun request => request.service = service

/-- What an event is to the pool of a service. -/
def seen (service : ServiceId) (ctx : Context Obj Resp) :
    NodeContext.Event Obj Resp → Option (WorkerPool.Event Obj (Outcome Resp))
  | .called (.createRpc _ _ _) =>
      if ctx.router.registry.services.length = service then some .opened else none
  | .called (.startRpc id) =>
      if id = service ∧ startedFlag ctx.router.registry id = some false then some .opened
      else none
  | .called (.stopRpc id) =>
      if id = service ∧ startedFlag ctx.router.registry id = some true then some .closed
      else none
  | .received _ ⟨topic, .value data⟩ _ =>
      match ctx.router.registry.commandTable.get? topic with
      | some (msgType, holder) =>
          if holder = service then
            some (.submitted (msgType.hydrate (dataOf data)).toOption)
          else none
      | none => none
  | .workStarted id =>
      if holds service ctx.router.requests id then
        some (.begun (placeOf service ctx.router.requests id))
      else none
  | .workEnded id outcome _ =>
      if holds service ctx.router.requests id then
        some (.ended (placeOf service ctx.router.requests id) outcome)
      else none
  | _ => none

section Requests

variable {service : ServiceId} {requests : List (Request Obj Resp)} {id : RequestId}
  {request : Request Obj Resp}

theorem requests_of_get (stored : requests[id]? = some request) (own : request.service = service) :
    (requestsOf service requests)[placeOf service requests id]? = some request := by
  induction requests generalizing id with
  | nil => simp at stored
  | cons first rest induction =>
      cases id with
      | zero =>
          simp only [List.getElem?_cons_zero, Option.some.injEq] at stored
          simp [requestsOf, placeOf, stored, own]
      | succ id =>
          have later := induction (by simpa using stored)
          unfold requestsOf placeOf at later ⊢
          rw [List.filter_cons, List.take_succ_cons, List.countP_cons]
          split
          · simpa using later
          · simpa using later

theorem requests_of_set (stored : requests[id]? = some request) (own : request.service = service)
    (changed : Request Obj Resp) (same : changed.service = service) :
    requestsOf service (requests.set id changed) =
      (requestsOf service requests).set (placeOf service requests id) changed := by
  induction requests generalizing id with
  | nil => simp at stored
  | cons first rest induction =>
      cases id with
      | zero =>
          simp only [List.getElem?_cons_zero, Option.some.injEq] at stored
          simp [requestsOf, placeOf, stored, own, same]
      | succ id =>
          have later := induction (by simpa using stored)
          unfold requestsOf placeOf at later ⊢
          rw [List.set_cons_succ, List.filter_cons, List.filter_cons, List.take_succ_cons,
            List.countP_cons, later]
          split
          · simp
          · simp

theorem requests_of_set_other (stored : requests[id]? = some request)
    (foreign : request.service ≠ service) (changed : Request Obj Resp)
    (same : changed.service = request.service) :
    requestsOf service (requests.set id changed) = requestsOf service requests := by
  induction requests generalizing id with
  | nil => simp at stored
  | cons first rest induction =>
      cases id with
      | zero =>
          simp only [List.getElem?_cons_zero, Option.some.injEq] at stored
          simp [requestsOf, stored, foreign, same]
      | succ id =>
          have later := induction (by simpa using stored)
          unfold requestsOf at later ⊢
          rw [List.set_cons_succ, List.filter_cons, List.filter_cons, later]

theorem stored_of_holds (held : holds service requests id = true) :
    ∃ request, requests[id]? = some request ∧ request.service = service := by
  unfold holds at held
  cases stored : requests[id]? with
  | none =>
      rw [stored] at held
      cases held
  | some request =>
      rw [stored] at held
      exact ⟨request, rfl, of_decide_eq_true held⟩

theorem holds_of_stored (stored : requests[id]? = some request) :
    holds service requests id = decide (request.service = service) := by
  simp [holds, stored]

end Requests

def Staffed (registry : Registry Obj) : Prop :=
  ∀ (id : ServiceId) service, registry.services[id]? = some service →
    service.maxWorkers = maxWorkers ∧ service.executor.isSome = service.started

/-- What a step does to the executors: nothing, or it gives a service without
one a new one, or takes one away. -/
inductive ExecutorMove (registry next : Registry Obj) : Prop where
  | same (executors : next.executors = registry.executors)
      (kept : ∀ id, executorOf next id = executorOf registry id)
  | opened (id : ServiceId) (without : executorOf registry id = none)
      (given : executorOf next id = some registry.executors)
      (executors : next.executors = registry.executors + 1)
      (kept : ∀ other, other ≠ id → executorOf next other = executorOf registry other)
  | closed (id : ServiceId) (taken : executorOf next id = none)
      (executors : next.executors = registry.executors)
      (kept : ∀ other, other ≠ id → executorOf next other = executorOf registry other)

/-- A queued request is with the executor its service has now, and no other
service has the executor of a running one. -/
def Placed (registry : Registry Obj) (request : Request Obj Resp) : Prop :=
  match request.work with
  | .queued executor _ => executorOf registry request.service = some executor
  | .running executor _ =>
      executor < registry.executors ∧
        ∀ id, executorOf registry id = some executor → id = request.service
  | _ => True

/-- Each executor belongs to one service, and so do the requests it has. -/
structure Separate (router : Router Obj Resp) : Prop where
  staffed : Staffed router.registry
  known : ∀ (id : ServiceId) executor, executorOf router.registry id = some executor →
    executor < router.registry.executors
  distinct : ∀ (one two : ServiceId) executor, executorOf router.registry one = some executor →
    executorOf router.registry two = some executor → one = two
  placed : ∀ request ∈ router.requests, Placed router.registry request

theorem separate_empty : Separate (Router.empty : Router Obj Resp) := by
  constructor
  · intro id service stored
    simp [Router.empty, Registry.empty] at stored
  · intro id executor held
    simp [executorOf, Router.empty, Registry.empty] at held
  · intro one two executor held
    simp [executorOf, Router.empty, Registry.empty] at held
  · intro request member
    cases member

theorem executor_of_set {registry next : Registry Obj} {id : ServiceId}
    {service changed : RpcService Obj} (stored : registry.services[id]? = some service)
    (services : next.services = registry.services.set id changed) :
    executorOf next id = changed.executor ∧
      ∀ other, other ≠ id → executorOf next other = executorOf registry other := by
  have inside := (List.getElem?_eq_some_iff.mp stored).1
  unfold executorOf
  rw [services]
  constructor
  · rw [List.getElem?_set_self inside]
    rfl
  · intro other different
    rw [List.getElem?_set_ne different.symm]

theorem staffed_set {registry next : Registry Obj} {id : ServiceId}
    {service changed : RpcService Obj} (staffed : Staffed registry)
    (stored : registry.services[id]? = some service)
    (services : next.services = registry.services.set id changed)
    (workers : changed.maxWorkers = service.maxWorkers)
    (flag : changed.executor.isSome = changed.started) : Staffed next := by
  intro other twin known
  rw [services, List.getElem?_set] at known
  split at known
  · split at known <;> cases known
    exact ⟨workers.trans (staffed id service stored).1, flag⟩
  · exact staffed other twin known

section Calls

variable {registry : Registry Obj}

theorem start_subscriber_executors (registry : Registry Obj) (id : SubscriberId) :
    (registry.startSubscriber id).executors = registry.executors := by
  rcases Registry.start_subscriber_cases registry id with same | ⟨_, _, same⟩ <;> rw [same]

theorem stop_subscriber_executors (registry : Registry Obj) (id : SubscriberId) :
    (registry.stopSubscriber id).executors = registry.executors := by
  rcases Registry.stop_subscriber_cases registry id with same | ⟨_, _, _, _, same⟩ <;> rw [same]

theorem perform_spared {call : RegistryCall Obj} (spared : ¬ AboutServices call) :
    (registry.perform call).services = registry.services ∧
      (registry.perform call).executors = registry.executors := by
  refine ⟨(perform_services registry spared).1, ?_⟩
  cases call with
  | createPublisher topic => rfl
  | startPublisher id => rfl
  | stopPublisher id => rfl
  | createSubscriber topic onMessage msgType => exact start_subscriber_executors _ _
  | startSubscriber id => exact start_subscriber_executors registry id
  | stopSubscriber id => exact stop_subscriber_executors registry id
  | setCallback id fn => rfl
  | createRpc rpcName msgType onRequest => exact absurd trivial spared
  | startRpc id => exact absurd trivial spared
  | stopRpc id => exact absurd trivial spared

theorem executors_of_services {next : Registry Obj} (services : next.services = registry.services)
    (executors : next.executors = registry.executors) : ExecutorMove registry next := by
  apply ExecutorMove.same executors
  intro id
  unfold executorOf
  rw [services]

theorem create_rpc_executors (registry : Registry Obj) (rpcName : String) (msgType : MsgType Obj)
    (onRequest : CallbackId) :
    (registry.createRpc rpcName msgType onRequest).executors = registry.executors + 1 ∧
      executorOf (registry.createRpc rpcName msgType onRequest) registry.services.length =
        some registry.executors ∧
      ∀ other, other ≠ registry.services.length →
        executorOf (registry.createRpc rpcName msgType onRequest) other =
          executorOf registry other := by
  have services := (create_rpc_table registry rpcName msgType onRequest).1
  refine ⟨?_, ?_, ?_⟩
  · simp [Registry.createRpc, Registry.startRpc]
  · unfold executorOf
    rw [services, List.getElem?_concat_length]
    rfl
  · intro other different
    unfold executorOf
    rw [services, List.getElem?_append]
    split
    · rfl
    · rename_i outside
      have beyond : registry.services.length < other := by omega
      rw [List.getElem?_eq_none_iff.mpr (by simp; omega),
        List.getElem?_eq_none_iff.mpr (by omega)]

theorem executor_beyond (registry : Registry Obj) :
    executorOf registry registry.services.length = none := by
  simp [executorOf]

end Calls

theorem placed_move {registry next : Registry Obj} {request : Request Obj Resp}
    (placed : Placed registry request) (move : ExecutorMove registry next)
    (spared : ∀ executor task, request.work = .queued executor task →
      executorOf next request.service ≠ none) : Placed next request := by
  unfold Placed at placed ⊢
  cases work : request.work with
  | queued executor task =>
      rw [work] at placed
      have occupied := spared executor task work
      cases move with
      | same executors kept => exact (kept request.service).trans placed
      | opened id without given executors kept =>
          have different : request.service ≠ id := by
            intro same
            rw [same, without] at placed
            cases placed
          exact (kept request.service different).trans placed
      | closed id taken executors kept =>
          have different : request.service ≠ id := by
            intro same
            rw [same] at occupied
            exact occupied taken
          exact (kept request.service different).trans placed
  | running executor task =>
      rw [work] at placed
      obtain ⟨old, own⟩ := placed
      cases move with
      | same executors kept =>
          refine ⟨executors.symm ▸ old, ?_⟩
          intro id held
          exact own id ((kept id).symm.trans held)
      | opened fresh without given executors kept =>
          refine ⟨executors.symm ▸ Nat.lt_succ_of_lt old, ?_⟩
          intro id held
          by_cases new : id = fresh
          · rw [new, given, Option.some.injEq] at held
            exact absurd held (Nat.ne_of_gt old)
          · exact own id ((kept id new).symm.trans held)
      | closed gone taken executors kept =>
          refine ⟨executors.symm ▸ old, ?_⟩
          intro id held
          by_cases shut : id = gone
          · rw [shut, taken] at held
            cases held
          · exact own id ((kept id shut).symm.trans held)
  | _ => trivial

theorem Separate.of_move {router next : Router Obj Resp} (separate : Separate router)
    (staffed : Staffed next.registry) (move : ExecutorMove router.registry next.registry)
    (placed : ∀ request ∈ next.requests, Placed next.registry request) : Separate next := by
  refine ⟨staffed, ?_, ?_, placed⟩
  · intro id executor held
    cases move with
    | same executors kept =>
        rw [executors]
        exact separate.known id executor ((kept id).symm.trans held)
    | opened fresh without given executors kept =>
        rw [executors]
        by_cases new : id = fresh
        · rw [new, given, Option.some.injEq] at held
          rw [held]
          exact Nat.lt_succ_self executor
        · have old := separate.known id executor ((kept id new).symm.trans held)
          exact Nat.lt_succ_of_lt old
    | closed gone taken executors kept =>
        rw [executors]
        by_cases shut : id = gone
        · rw [shut, taken] at held
          cases held
        · exact separate.known id executor ((kept id shut).symm.trans held)
  · intro one two executor first second
    cases move with
    | same executors kept =>
        exact separate.distinct one two executor ((kept one).symm.trans first)
          ((kept two).symm.trans second)
    | opened fresh without given executors kept =>
        by_cases newOne : one = fresh <;> by_cases newTwo : two = fresh
        · rw [newOne, newTwo]
        · rw [newOne, given, Option.some.injEq] at first
          have old := separate.known two executor ((kept two newTwo).symm.trans second)
          exact absurd first (Nat.ne_of_gt old)
        · rw [newTwo, given, Option.some.injEq] at second
          have old := separate.known one executor ((kept one newOne).symm.trans first)
          exact absurd second (Nat.ne_of_gt old)
        · exact separate.distinct one two executor ((kept one newOne).symm.trans first)
            ((kept two newTwo).symm.trans second)
    | closed gone taken executors kept =>
        have other : ∀ id, executorOf next.registry id = some executor → id ≠ gone := by
          intro id held same
          rw [same, taken] at held
          cases held
        exact separate.distinct one two executor ((kept one (other one first)).symm.trans first)
          ((kept two (other two second)).symm.trans second)

section Pools

variable {service : ServiceId} {router next : Router Obj Resp}

theorem pool_same (executor : executorOf next.registry service = executorOf router.registry service)
    (requests : next.requests = router.requests) : poolOf service next = poolOf service router := by
  unfold poolOf
  rw [executor, requests]

theorem mem_requests_of {requests : List (Request Obj Resp)} {request : Request Obj Resp}
    (member : request ∈ requestsOf service requests) :
    request ∈ requests ∧ request.service = service := by
  have both := List.mem_filter.mp member
  exact ⟨both.1, of_decide_eq_true both.2⟩

theorem pool_opened (separate : Separate router)
    (without : executorOf router.registry service = none)
    (given : executorOf next.registry service = some router.registry.executors)
    (requests : next.requests = router.requests) :
    (poolOf service router).step maxWorkers .opened = some (poolOf service next) := by
  have shut : (poolOf service router).live = false := by simp [poolOf, without]
  have jobs : (poolOf service next).jobs = (poolOf service router).jobs := by
    unfold poolOf
    rw [requests, without, given]
    apply List.map_congr_left
    intro request member
    obtain ⟨inside, _⟩ := mem_requests_of member
    have placed := separate.placed request inside
    unfold Placed at placed
    cases work : request.work with
    | running executor task =>
        rw [work] at placed
        have older : router.registry.executors ≠ executor := Nat.ne_of_gt placed.1
        simp [jobOf, older]
    | _ => rfl
  have live : (poolOf service next).live = true := by simp [poolOf, given]
  have opened : poolOf service next = { poolOf service router with live := true } :=
    Pool.ext live jobs
  unfold Pool.step
  rw [shut, opened]
  rfl

theorem cancel_queued_service (executor : ExecutorId) (request : Request Obj Resp) :
    (request.cancelQueued executor).service = request.service := by
  unfold Request.cancelQueued
  split
  · split <;> rfl
  · rfl

theorem requests_of_shutdown (requests : List (Request Obj Resp)) (executor : ExecutorId) :
    requestsOf service (shutdown requests executor) =
      (requestsOf service requests).map (Request.cancelQueued executor) := by
  unfold requestsOf shutdown
  rw [List.filter_map]
  congr 1
  apply List.filter_congr
  intro request _
  simp [cancel_queued_service]

theorem pool_closed {executor : ExecutorId} (separate : Separate router)
    (held : executorOf router.registry service = some executor)
    (taken : executorOf next.registry service = none)
    (requests : next.requests = shutdown router.requests executor) :
    (poolOf service router).step maxWorkers .closed = some (poolOf service next) := by
  have live : (poolOf service router).live = true := by simp [poolOf, held]
  have jobs : (poolOf service next).jobs = (poolOf service router).jobs.map Job.close := by
    unfold poolOf
    rw [requests, requests_of_shutdown, held, taken, List.map_map, List.map_map]
    apply List.map_congr_left
    intro request member
    obtain ⟨inside, own⟩ := mem_requests_of member
    have placed := separate.placed request inside
    unfold Placed at placed
    cases work : request.work with
    | queued owner task =>
        rw [work] at placed
        dsimp only at placed
        rw [own, held, Option.some.injEq] at placed
        simp [Request.cancelQueued, jobOf, Job.close, work, placed]
    | running owner task => simp [Request.cancelQueued, jobOf, Job.close, work]
    | _ => simp [Request.cancelQueued, jobOf, Job.close, work]
  have shut : (poolOf service next).live = false := by simp [poolOf, taken]
  have closed : poolOf service next = ⟨false, (poolOf service router).jobs.map Job.close⟩ :=
    Pool.ext shut jobs
  unfold Pool.step
  rw [live, closed]
  rfl

theorem pool_shutdown_other {executor : ExecutorId} {other : ServiceId} (separate : Separate router)
    (held : executorOf router.registry other = some executor) (different : service ≠ other)
    (same : executorOf next.registry service = executorOf router.registry service)
    (requests : next.requests = shutdown router.requests executor) :
    poolOf service next = poolOf service router := by
  have jobs : (poolOf service next).jobs = (poolOf service router).jobs := by
    unfold poolOf
    rw [requests, requests_of_shutdown, same, List.map_map]
    apply List.map_congr_left
    intro request member
    obtain ⟨inside, own⟩ := mem_requests_of member
    have placed := separate.placed request inside
    unfold Placed at placed
    cases work : request.work with
    | queued owner task =>
        rw [work] at placed
        dsimp only at placed
        rw [own] at placed
        have foreign : owner ≠ executor := by
          intro equal
          rw [equal] at placed
          exact different (separate.distinct service other executor placed held)
        simp [Request.cancelQueued, work, foreign]
    | _ => simp [Request.cancelQueued, work]
  have live : (poolOf service next).live = (poolOf service router).live := by
    unfold poolOf
    rw [same]
  exact Pool.ext live jobs

end Pools

theorem start_rpc_move {registry : Registry Obj} (staffed : Staffed registry) (id : ServiceId) :
    (startedFlag registry id ≠ some false ∧ registry.startRpc id = registry) ∨
      startedFlag registry id = some false ∧ executorOf registry id = none ∧
        executorOf (registry.startRpc id) id = some registry.executors ∧
        (registry.startRpc id).executors = registry.executors + 1 ∧
        (∀ other, other ≠ id →
          executorOf (registry.startRpc id) other = executorOf registry other) ∧
        Staffed (registry.startRpc id) := by
  cases stored : registry.services[id]? with
  | none => exact .inl ⟨by simp [startedFlag, stored], Registry.start_rpc_missing stored⟩
  | some service =>
      have flag : startedFlag registry id = some service.started := by simp [startedFlag, stored]
      have known := (staffed id service stored).2
      cases running : service.started with
      | true => exact .inl ⟨by simp [flag, running], Registry.start_rpc_started stored running⟩
      | false =>
          have changed := Registry.start_rpc_stopped stored running
          have services : (registry.startRpc id).services = registry.services.set id
              { service with started := true, executor := some registry.executors } := by
            rw [changed]
          obtain ⟨own, others⟩ := executor_of_set stored services
          refine .inr ⟨by rw [flag, running], ?_, own, by rw [changed], others,
            staffed_set staffed stored services rfl rfl⟩
          rw [running] at known
          simpa [executorOf, stored] using known

theorem stop_rpc_move {registry : Registry Obj} (staffed : Staffed registry) (id : ServiceId) :
    (startedFlag registry id ≠ some true ∧ registry.stopRpc id = registry ∧
        (registry.services[id]?).bind RpcService.liveExecutor = none) ∨
      startedFlag registry id = some true ∧ ∃ executor, executorOf registry id = some executor ∧
        (registry.services[id]?).bind RpcService.liveExecutor = some executor ∧
        executorOf (registry.stopRpc id) id = none ∧
        (registry.stopRpc id).executors = registry.executors ∧
        (∀ other, other ≠ id →
          executorOf (registry.stopRpc id) other = executorOf registry other) ∧
        Staffed (registry.stopRpc id) := by
  cases stored : registry.services[id]? with
  | none => exact .inl ⟨by simp [startedFlag, stored], Registry.stop_rpc_missing stored, rfl⟩
  | some service =>
      have flag : startedFlag registry id = some service.started := by simp [startedFlag, stored]
      have known := (staffed id service stored).2
      cases running : service.started with
      | false =>
          exact .inl ⟨by simp [flag, running], Registry.stop_rpc_stopped stored running,
            by simp [RpcService.liveExecutor, running]⟩
      | true =>
          have changed := Registry.stop_rpc_started stored running
          have services : (registry.stopRpc id).services = registry.services.set id
              { service with started := false, executor := none } := by
            rw [changed]
          obtain ⟨gone, others⟩ := executor_of_set stored services
          rw [running] at known
          obtain ⟨executor, held⟩ := Option.isSome_iff_exists.mp known
          refine .inr ⟨by rw [flag, running], executor, ?_, ?_, gone, by rw [changed], others,
            staffed_set staffed stored services rfl rfl⟩
          · simp [executorOf, stored, held]
          · simp [RpcService.liveExecutor, running, held]

theorem create_rpc_staffed {registry : Registry Obj} (staffed : Staffed registry)
    (rpcName : String) (msgType : MsgType Obj) (onRequest : CallbackId) :
    Staffed (registry.createRpc rpcName msgType onRequest) := by
  intro id service stored
  rw [(create_rpc_table registry rpcName msgType onRequest).1] at stored
  rw [List.getElem?_append] at stored
  split at stored
  · exact staffed id service stored
  · cases place : id - registry.services.length with
    | zero =>
        rw [place] at stored
        cases stored
        exact ⟨rfl, rfl⟩
    | succ beyond =>
        rw [place] at stored
        cases stored

theorem spared_call (service : ServiceId) (ctx : Context Obj Resp) {call : RegistryCall Obj}
    (spared : ¬ AboutServices call) :
    seen service ctx (.called call) = none ∧
      (ctx.router.perform call).requests = ctx.router.requests := by
  cases call with
  | createRpc rpcName msgType onRequest => exact absurd trivial spared
  | startRpc id => exact absurd trivial spared
  | stopRpc id => exact absurd trivial spared
  | _ => exact ⟨rfl, rfl⟩

theorem Separate.spared {router : Router Obj Resp} (separate : Separate router)
    {next : Registry Obj} (lost : ∀ id, executorOf next id = none →
      executorOf router.registry id = none)
    {request : Request Obj Resp} (member : request ∈ router.requests) (executor : ExecutorId)
    (task : Obj) (work : request.work = .queued executor task) :
    executorOf next request.service ≠ none := by
  intro gone
  have placed := separate.placed request member
  unfold Placed at placed
  rw [work] at placed
  dsimp only at placed
  rw [lost request.service gone] at placed
  cases placed

theorem placed_cancelled {registry next : Registry Obj} {request : Request Obj Resp}
    {id : ServiceId} {executor : ExecutorId} (placed : Placed registry request)
    (held : executorOf registry id = some executor) (move : ExecutorMove registry next)
    (others : ∀ other, other ≠ id → executorOf next other = executorOf registry other) :
    Placed next (request.cancelQueued executor) := by
  unfold Request.cancelQueued
  split
  · rename_i owner task work
    split
    · trivial
    · rename_i foreign
      apply placed_move placed move
      intro _ _ _ gone
      unfold Placed at placed
      rw [work] at placed
      dsimp only at placed
      have different : request.service ≠ id := by
        intro same
        rw [same, held, Option.some.injEq] at placed
        exact foreign placed.symm
      rw [others request.service different, placed] at gone
      cases gone
  · rename_i settled
    apply placed_move placed move
    intro owner task work
    exact absurd work (settled owner task)

theorem staffed_same {registry next : Registry Obj} (staffed : Staffed registry)
    (services : next.services = registry.services) : Staffed next := by
  unfold Staffed
  rw [services]
  exact staffed

theorem Separate.of_same {router next : Router Obj Resp} (separate : Separate router)
    (services : next.registry.services = router.registry.services)
    (executors : next.registry.executors = router.registry.executors)
    (placed : ∀ request ∈ next.requests, Placed router.registry request) : Separate next := by
  have move := executors_of_services services executors
  apply separate.of_move (staffed_same separate.staffed services) move
  intro request member
  apply placed_move (placed request member) move
  intro executor task work
  have here := placed request member
  unfold Placed at here
  rw [work] at here
  unfold executorOf at here ⊢
  rw [services, here]
  exact Option.some_ne_none executor

theorem separate_called {ctx : Context Obj Resp} (separate : Separate ctx.router)
    (call : RegistryCall Obj) : Separate (ctx.router.perform call) := by
  by_cases about : AboutServices call
  · cases call with
    | createRpc rpcName msgType onRequest =>
        obtain ⟨executors, given, others⟩ :=
          create_rpc_executors ctx.router.registry rpcName msgType onRequest
        have move : ExecutorMove ctx.router.registry
            (ctx.router.registry.createRpc rpcName msgType onRequest) :=
          .opened _ (executor_beyond _) given executors others
        apply separate.of_move (create_rpc_staffed separate.staffed rpcName msgType onRequest) move
        intro request member
        apply placed_move (separate.placed request member) move
        apply separate.spared ?_ member
        intro id gone
        by_cases new : id = ctx.router.registry.services.length
        · rw [new]
          exact executor_beyond _
        · exact (others id new).symm.trans gone
    | startRpc id =>
        rcases start_rpc_move separate.staffed id with
          ⟨_, same⟩ | ⟨_, without, given, executors, others, staffed⟩
        · simp only [Router.perform, Registry.perform, same]
          exact separate
        · have move : ExecutorMove ctx.router.registry (ctx.router.registry.startRpc id) :=
            .opened id without given executors others
          apply separate.of_move staffed move
          intro request member
          apply placed_move (separate.placed request member) move
          apply separate.spared ?_ member
          intro other gone
          by_cases new : other = id
          · rw [new]
            exact without
          · exact (others other new).symm.trans gone
    | stopRpc id =>
        rcases stop_rpc_move separate.staffed id with
          ⟨_, same, idle⟩ | ⟨_, executor, held, live, gone, executors, others, staffed⟩
        · simp only [Router.perform, Registry.perform, same, idle]
          exact separate
        · have move : ExecutorMove ctx.router.registry (ctx.router.registry.stopRpc id) :=
            .closed id gone executors others
          apply separate.of_move staffed move
          intro request member
          simp only [Router.perform, live] at member
          obtain ⟨before, inside, rfl⟩ := List.mem_map.mp member
          exact placed_cancelled (separate.placed before inside) held move others
    | _ => exact absurd about not_false
  · obtain ⟨services, executors⟩ := perform_spared about
    apply separate.of_same services executors
    rw [(spared_call 0 ctx about).2]
    exact separate.placed

theorem called_pool {ctx : Context Obj Resp} (separate : Separate ctx.router)
    (service : ServiceId) (call : RegistryCall Obj) :
    partMove (Pool.step maxWorkers) (poolOf service ctx.router) (seen service ctx (.called call)) =
      some (poolOf service (ctx.router.perform call)) := by
  by_cases about : AboutServices call
  · cases call with
    | createRpc rpcName msgType onRequest =>
        obtain ⟨_, given, others⟩ :=
          create_rpc_executors ctx.router.registry rpcName msgType onRequest
        unfold seen
        dsimp only
        split
        · rename_i new
          rw [← new]
          exact pool_opened separate (executor_beyond _) given rfl
        · rename_i old
          have same : executorOf
              (ctx.router.perform (.createRpc rpcName msgType onRequest)).registry service =
                executorOf ctx.router.registry service := others service (Ne.symm old)
          exact congrArg some (pool_same same rfl).symm
    | startRpc id =>
        unfold seen
        dsimp only
        rcases start_rpc_move separate.staffed id with
          ⟨busy, same⟩ | ⟨idle, without, given, _, others, _⟩
        · rw [if_neg fun both => busy both.2]
          simp only [Router.perform, Registry.perform, same]
          rfl
        · by_cases own : id = service
          · rw [if_pos ⟨own, idle⟩]
            rw [own] at without given
            exact pool_opened separate without (own ▸ given) rfl
          · rw [if_neg fun both => own both.1]
            have same : executorOf (ctx.router.perform (.startRpc id)).registry service =
                executorOf ctx.router.registry service := others service (Ne.symm own)
            exact congrArg some (pool_same same rfl).symm
    | stopRpc id =>
        unfold seen
        dsimp only
        rcases stop_rpc_move separate.staffed id with
          ⟨idle, same, unheld⟩ | ⟨busy, executor, held, live, gone, _, others, _⟩
        · rw [if_neg fun both => idle both.2]
          simp only [Router.perform, Registry.perform, same, unheld]
          rfl
        · have requests : (ctx.router.perform (.stopRpc id)).requests =
              shutdown ctx.router.requests executor := by
            simp only [Router.perform, live]
          by_cases own : id = service
          · rw [if_pos ⟨own, busy⟩]
            subst own
            exact pool_closed separate held gone requests
          · rw [if_neg fun both => own both.1]
            have same := pool_shutdown_other separate held (Ne.symm own)
              (others service (Ne.symm own)) requests
            exact congrArg some same.symm
    | _ => exact absurd about not_false
  · obtain ⟨unseen, requests⟩ := spared_call service ctx about
    rw [unseen]
    apply congrArg some
    apply Eq.symm
    apply pool_same ?_ requests
    have services : (ctx.router.perform call).registry.services = ctx.router.registry.services :=
      (perform_spared about).1
    unfold executorOf
    rw [services]

theorem dispatch_services {callbacks : Callbacks Obj} {router next : Router Obj Resp}
    {message : Message} (dispatched : dispatchIncoming callbacks router message = .ok next) :
    next.registry.services = router.registry.services ∧
      next.registry.executors = router.registry.executors := by
  refine Delivery.dispatch_keeps (fun changed => changed.services = router.registry.services ∧
    changed.executors = router.registry.executors) ?_ dispatched ⟨rfl, rfl⟩
  intro registry id raw topic same
  unfold edgeCallback
  split
  · exact same
  · split
    · exact same
    · exact same

section Dispatched

variable (registry : Registry Obj) (topic : String) (payload : Json) (msgType : MsgType Obj)
  (holder : ServiceId)

theorem job_of_dispatch :
    jobOf (executorOf registry holder)
        (dispatchRpc registry topic payload msgType holder : Request Obj Resp).work =
      Job.submit (executorOf registry holder).isSome
        (msgType.hydrate (dataOf payload)).toOption := by
  unfold dispatchRpc serviceDispatch
  cases msgType.hydrate (dataOf payload) with
  | error error => rfl
  | ok task =>
      cases held : executorOf registry holder with
      | none =>
          unfold executorOf at held
          simp only [held]
          rfl
      | some executor =>
          unfold executorOf at held
          simp only [held]
          rfl

theorem placed_dispatch :
    Placed registry (dispatchRpc registry topic payload msgType holder : Request Obj Resp) := by
  unfold Placed dispatchRpc serviceDispatch
  cases msgType.hydrate (dataOf payload) with
  | error error => trivial
  | ok task =>
      cases held : executorOf registry holder with
      | none =>
          unfold executorOf at held
          simp only [held]
      | some executor =>
          unfold executorOf at held
          simp [held]

end Dispatched

section Workers

variable {service : ServiceId} {router : Router Obj Resp} {id : RequestId}
  {request : Request Obj Resp}

theorem pool_job (stored : router.requests[id]? = some request) (own : request.service = service) :
    (poolOf service router).jobs[placeOf service router.requests id]? =
      some (jobOf (executorOf router.registry service) request.work) := by
  unfold poolOf
  rw [List.getElem?_map, requests_of_get stored own, Option.map_some]

/-- The workers of an executor are counted among all requests as in the pool
of its service. -/
theorem pool_busy {executor : ExecutorId} (separate : Separate router)
    (held : executorOf router.registry service = some executor) :
    (poolOf service router).busy =
      router.requests.countP fun other => other.work.runningOn executor := by
  unfold Pool.busy poolOf requestsOf
  rw [List.countP_map, List.countP_filter]
  apply List.countP_congr
  intro other member
  have placed := separate.placed other member
  unfold Placed at placed
  rw [held]
  cases work : other.work with
  | running owner task =>
      rw [work] at placed
      simp only [Function.comp_apply, work, jobOf, Job.busy, Work.runningOn, Bool.and_eq_true,
        decide_eq_true_eq, Option.some.injEq]
      constructor
      · rintro ⟨same, _⟩
        exact same.symm
      · intro same
        exact ⟨same.symm, (placed.2 service (same ▸ held)).symm⟩
  | _ => simp [Function.comp_apply, work, jobOf, Job.busy, Work.runningOn]

theorem own_workers {executor : ExecutorId} (separate : Separate router)
    (held : executorOf router.registry service = some executor) :
    (router.requests.countP fun other =>
        other.service = service && other.work.runningOn executor) =
      router.requests.countP fun other => other.work.runningOn executor := by
  apply List.countP_congr
  intro other member
  have placed := separate.placed other member
  unfold Placed at placed
  cases work : other.work with
  | running owner task =>
      rw [work] at placed
      simp only [Work.runningOn, Bool.and_eq_true, decide_eq_true_eq, and_iff_right_iff_imp]
      intro same
      exact (placed.2 service (same ▸ held)).symm
  | _ => simp [Work.runningOn]

theorem start_work_some {registry : Registry Obj} {requests next : List (Request Obj Resp)}
    (taken : startWork registry requests id = some next) :
    ∃ request executor task, requests[id]? = some request ∧ request.work = .queued executor task ∧
      (requests.countP fun other => other.work.runningOn executor) <
        ((registry.services[request.service]?).map RpcService.maxWorkers).getD 0 ∧
      next = requests.set id { request with work := .running executor task } := by
  unfold startWork at taken
  split at taken
  · cases taken
  · rename_i request stored
    split at taken
    · rename_i executor task queued
      dsimp only at taken
      split at taken <;> cases taken
      rename_i free
      exact ⟨request, executor, task, stored, queued, free, rfl⟩
    · cases taken

theorem max_workers_of (staffed : Staffed router.registry) {executor : ExecutorId}
    (held : executorOf router.registry service = some executor) :
    ((router.registry.services[service]?).map RpcService.maxWorkers).getD 0 = maxWorkers := by
  unfold executorOf at held
  obtain ⟨known, stored, _⟩ := Option.bind_eq_some_iff.mp held
  rw [stored]
  exact (staffed service known stored).1

theorem own_pool (stored : router.requests[id]? = some request) (own : request.service = service)
    (work : Work Obj Resp) :
    poolOf service { router with requests := router.requests.set id { request with work := work } } =
      { poolOf service router with
        jobs := (poolOf service router).jobs.set (placeOf service router.requests id)
          (jobOf (executorOf router.registry service) work) } := by
  apply Pool.ext
  · rfl
  · unfold poolOf
    dsimp only
    rw [requests_of_set stored own { request with work := work } own, List.map_set]

/-- A worker that is free to the context is free to the pool, and the request
it takes is the same. -/
theorem started_pool (separate : Separate router) (stored : router.requests[id]? = some request)
    (own : request.service = service) :
    (poolOf service router).step maxWorkers (.begun (placeOf service router.requests id)) =
      (startWork router.registry router.requests id).map fun requests =>
        poolOf service { router with requests := requests } := by
  have job := pool_job stored own
  have placed := separate.placed request (List.mem_of_getElem? stored)
  unfold Placed at placed
  unfold startWork
  rw [stored]
  dsimp only
  cases work : request.work with
  | queued executor task =>
      rw [work] at placed job
      dsimp only at placed ⊢
      rw [own] at placed
      rw [Pool.step_begun job, pool_busy separate placed, own,
        max_workers_of separate.staffed placed]
      split
      · have changed := own_pool stored own (.running executor task)
        have owned : jobOf (executorOf router.registry service) (.running executor task) =
            (.running task true : Job Obj (Outcome Resp)) := by simp [jobOf, placed]
        rw [own] at changed
        rw [Option.map_some, changed, owned]
      · rfl
  | _ =>
      rw [work] at job
      simp only [Pool.step, job, jobOf]
      rfl

theorem work_ended_is_some (serialize : Resp → Except PyException Json) (ctx : Context Obj Resp)
    (id : RequestId) (outcome : Outcome Resp) (now : Int) :
    (ctx.step serialize (.workEnded id outcome now)).isSome =
      (finishWork ctx.router.requests id outcome).isSome := by
  unfold Context.step Context.workEnded
  dsimp only
  cases finishWork ctx.router.requests id outcome with
  | none => rfl
  | some done =>
      dsimp only
      split
      · rfl
      · split <;> rfl

theorem job_of_outcome (executor : Option ExecutorId) (outcome : Outcome Resp) (task : Obj) :
    jobOf executor (outcome.work task) = .ended task outcome := by
  cases outcome <;> rfl

theorem ended_pool (stored : router.requests[id]? = some request) (own : request.service = service)
    (outcome : Outcome Resp) :
    (poolOf service router).step maxWorkers (.ended (placeOf service router.requests id) outcome) =
      (finishWork router.requests id outcome).map fun done =>
        poolOf service { router with requests := done.1 } := by
  have job := pool_job stored own
  unfold finishWork
  rw [stored]
  dsimp only
  cases work : request.work with
  | running executor task =>
      rw [work] at job
      have changed := own_pool stored own (outcome.work task)
      rw [job_of_outcome] at changed
      rw [Pool.step_ended job outcome, Option.map_some, changed]
  | _ =>
      rw [work] at job
      simp only [Pool.step, job, jobOf]
      rfl

theorem foreign_pool (stored : router.requests[id]? = some request)
    (foreign : request.service ≠ service) (work : Work Obj Resp) :
    poolOf service { router with requests := router.requests.set id { request with work := work } } =
      poolOf service router := by
  unfold poolOf
  dsimp only
  rw [requests_of_set_other stored foreign { request with work := work } rfl]

end Workers

section Steps

variable {serialize : Resp → Except PyException Json} {ctx next : Context Obj Resp}
  {event : NodeContext.Event Obj Resp}

theorem separate_set {router : Router Obj Resp} (separate : Separate router) (id : RequestId)
    {changed : Request Obj Resp} (placed : Placed router.registry changed) :
    Separate { router with requests := router.requests.set id changed } := by
  have all : ∀ other ∈ router.requests.set id changed, Placed router.registry other := by
    intro other member
    rcases List.mem_or_eq_of_mem_set member with old | new
    · exact separate.placed other old
    · rw [new]
      exact placed
  exact ⟨separate.staffed, separate.known, separate.distinct, all⟩

theorem separate_step (separate : Separate ctx.router)
    (taken : ctx.step serialize event = some next) : Separate next.router := by
  cases event with
  | called call =>
      cases taken
      exact separate_called separate call
  | publish id serialized =>
      cases taken
      rcases Context.publish_cases ctx id serialized with same | counted | ⟨item, _, queued⟩
      · rw [same]
        exact separate
      · rw [counted]
        exact separate.of_same rfl rfl separate.placed
      · rw [queued]
        exact separate
  | received session message callbacks =>
      obtain ⟨client, drain, _, passed | failed⟩ := Context.received_cases taken
      · obtain ⟨router, dispatched, rfl⟩ := passed
        obtain ⟨services, executors⟩ := dispatch_services dispatched
        apply separate.of_same services executors
        rcases Context.dispatch_requests dispatched with
          same | ⟨data, msgType, holder, _, _, appended⟩
        · rw [same]
          exact separate.placed
        · rw [appended]
          intro request member
          rcases List.mem_append.mp member with old | new
          · exact separate.placed request old
          · rw [List.mem_singleton.mp new]
            exact placed_dispatch ctx.router.registry message.topic data msgType holder
      · obtain ⟨error, _, rfl⟩ := failed
        exact separate
  | workStarted id =>
      obtain ⟨requests, started, rfl⟩ := Option.map_eq_some_iff.mp taken
      obtain ⟨request, executor, task, stored, queued, _, rfl⟩ := start_work_some started
      have placed := separate.placed request (List.mem_of_getElem? stored)
      unfold Placed at placed
      rw [queued] at placed
      dsimp only at placed
      apply separate_set separate id
      constructor
      · exact separate.known request.service executor placed
      · intro other held
        exact separate.distinct other request.service executor held placed
  | workEnded id outcome now =>
      obtain ⟨request, executor, task, finished, stored, running, rfl, router, _⟩ :=
        Context.work_ended_cases taken
      rw [router]
      apply separate_set separate id
      cases outcome <;> trivial
  | wire event =>
      obtain ⟨conn, _, rfl⟩ := Option.map_eq_some_iff.mp taken
      exact separate

theorem received_pool {callbacks : Callbacks Obj} {router changed : Router Obj Resp}
    {message : Message} {session : Connection.SessionId} (owner : ctx.router = router)
    (dispatched : dispatchIncoming callbacks router message = .ok changed) (service : ServiceId) :
    partMove (Pool.step maxWorkers) (poolOf service router)
        (seen service ctx (.received session message callbacks)) =
      some (poolOf service changed) := by
  subst owner
  obtain ⟨services, _⟩ := dispatch_services dispatched
  have executor : executorOf changed.registry service = executorOf ctx.router.registry service := by
    unfold executorOf
    rw [services]
  rcases dispatch_incoming_cases dispatched with ⟨malformed, rfl⟩ | ⟨data, payload, rfl⟩
  · obtain ⟨topic, loaded⟩ := message
    cases malformed
    rfl
  · obtain ⟨topic, loaded⟩ := message
    cases payload
    rcases Context.route_message_requests callbacks ctx.router topic data with
      ⟨msgType, holder, entry, appended⟩ | ⟨missing, same⟩
    · simp only [seen, entry]
      split
      · rename_i own
        subst own
        apply congrArg some
        apply Pool.ext
        · simp [poolOf, executor]
        · have job : jobOf (executorOf ctx.router.registry holder)
              (dispatchRpc ctx.router.registry topic data msgType holder : Request Obj Resp).work = _ :=
            job_of_dispatch ctx.router.registry topic data msgType holder
          unfold poolOf requestsOf
          dsimp only
          rw [appended, executor, List.filter_append, List.map_append, ← job]
          simp [dispatchRpc]
      · rename_i foreign
        apply congrArg some
        apply Eq.symm
        apply Pool.ext
        · simp [poolOf, executor]
        · unfold poolOf requestsOf
          dsimp only
          rw [appended, executor, List.filter_append]
          simp [dispatchRpc, foreign]
    · simp only [seen, missing]
      exact congrArg some (pool_same executor same).symm

theorem pool_step (separate : Separate ctx.router) (taken : ctx.step serialize event = some next)
    (service : ServiceId) :
    partMove (Pool.step maxWorkers) (poolOf service ctx.router) (seen service ctx event) =
      some (poolOf service next.router) := by
  cases event with
  | called call =>
      cases taken
      exact called_pool separate service call
  | publish id serialized =>
      cases taken
      apply congrArg some
      apply Eq.symm
      rcases Context.publish_cases ctx id serialized with same | counted | ⟨item, _, queued⟩
      · rw [same]
      · rw [counted]
        rfl
      · rw [queued]
  | received session message callbacks =>
      obtain ⟨client, drain, _, passed | failed⟩ := Context.received_cases taken
      · obtain ⟨router, dispatched, rfl⟩ := passed
        exact received_pool rfl dispatched service
      · obtain ⟨error, raised, rfl⟩ := failed
        obtain ⟨topic, loaded⟩ := message
        cases raised
        rfl
  | workStarted id =>
      obtain ⟨requests, started, rfl⟩ := Option.map_eq_some_iff.mp taken
      obtain ⟨request, executor, task, stored, _, _, changed⟩ := start_work_some started
      unfold seen
      dsimp only
      rw [holds_of_stored stored]
      by_cases own : request.service = service
      · rw [decide_eq_true own, if_pos rfl]
        exact (started_pool separate stored own).trans (by rw [started]; rfl)
      · rw [decide_eq_false own, if_neg Bool.false_ne_true, changed]
        exact congrArg some (foreign_pool stored own _).symm
  | workEnded id outcome now =>
      obtain ⟨request, executor, task, finished, stored, running, rfl, router, _⟩ :=
        Context.work_ended_cases taken
      unfold seen
      dsimp only
      rw [holds_of_stored stored, router]
      by_cases own : request.service = service
      · rw [decide_eq_true own, if_pos rfl]
        have finish : finishWork ctx.router.requests id outcome =
            some (ctx.router.requests.set id { request with work := outcome.work task },
              { request with work := outcome.work task }) := by
          simp only [finishWork, stored, running]
        exact (ended_pool stored own outcome).trans (by rw [finish]; rfl)
      · rw [decide_eq_false own, if_neg Bool.false_ne_true]
        exact congrArg some (foreign_pool stored own _).symm
  | wire event =>
      obtain ⟨conn, _, rfl⟩ := Option.map_eq_some_iff.mp taken
      rfl

theorem separate_run {events : List (NodeContext.Event Obj Resp)}
    (reached : run (Context.step serialize) Context.fresh events = some ctx) :
    Separate ctx.router := by
  have preserved : ∀ (state : Context Obj Resp) event after, Separate state.router →
      state.step serialize event = some after → Separate after.router :=
    fun _ _ _ separate taken => separate_step separate taken
  exact run_invariant (Context.step serialize) preserved separate_empty reached

def Bounded (requests : List (Request Obj Resp)) : Prop :=
  ∀ executor, (requests.countP fun other => other.work.runningOn executor) ≤ maxWorkers

theorem bounded_set_ended {requests : List (Request Obj Resp)} (bounded : Bounded requests)
    {id : RequestId} {request changed : Request Obj Resp} (stored : requests[id]? = some request)
    (idle : ∀ executor, changed.work.runningOn executor = false) :
    Bounded (requests.set id changed) := by
  intro executor
  obtain ⟨inside, _⟩ := List.getElem?_eq_some_iff.mp stored
  have before := bounded executor
  rw [List.countP_set inside, idle executor]
  simp only [Bool.false_eq_true, if_false]
  omega

theorem running_on_cancelled (executor owner : ExecutorId) (request : Request Obj Resp) :
    (request.cancelQueued owner).work.runningOn executor = request.work.runningOn executor := by
  unfold Request.cancelQueued
  split
  · rename_i holder task queued
    split
    · rw [queued]
      rfl
    · rfl
  · rfl

theorem bounded_step (separate : Separate ctx.router) (bounded : Bounded ctx.router.requests)
    (taken : ctx.step serialize event = some next) : Bounded next.router.requests := by
  cases event with
  | called call =>
      cases taken
      by_cases about : AboutServices call
      · cases call with
        | stopRpc id =>
            simp only [Router.perform]
            split
            · exact bounded
            · rename_i owner _
              intro executor
              unfold shutdown
              rw [List.countP_map]
              have same := bounded executor
              simpa only [Function.comp_def, running_on_cancelled] using same
        | createRpc rpcName msgType onRequest => exact bounded
        | startRpc id => exact bounded
        | _ => exact absurd about not_false
      · have requests := (spared_call 0 ctx about).2
        simp only [requests]
        exact bounded
  | publish id serialized =>
      cases taken
      rcases Context.publish_cases ctx id serialized with same | counted | ⟨item, _, queued⟩
      · rw [same]
        exact bounded
      · rw [counted]
        exact bounded
      · rw [queued]
        exact bounded
  | received session message callbacks =>
      obtain ⟨client, drain, _, passed | failed⟩ := Context.received_cases taken
      · obtain ⟨router, dispatched, rfl⟩ := passed
        rcases Context.dispatch_requests dispatched with
          same | ⟨data, msgType, holder, _, _, appended⟩
        · rw [same]
          exact bounded
        · intro executor
          have idle : (dispatchRpc ctx.router.registry message.topic data msgType holder :
              Request Obj Resp).work.runningOn executor = false := by
            unfold dispatchRpc
            dsimp only
            split
            · rfl
            · split <;> rfl
          rw [appended, List.countP_append, List.countP_singleton, idle]
          exact bounded executor
      · obtain ⟨error, _, rfl⟩ := failed
        exact bounded
  | workStarted id =>
      obtain ⟨requests, started, rfl⟩ := Option.map_eq_some_iff.mp taken
      obtain ⟨request, owner, task, stored, queued, free, rfl⟩ := start_work_some started
      obtain ⟨inside, here⟩ := List.getElem?_eq_some_iff.mp stored
      have placed := separate.placed request (List.mem_of_getElem? stored)
      unfold Placed at placed
      rw [queued] at placed
      rw [max_workers_of separate.staffed placed] at free
      intro executor
      have before := bounded executor
      have waiting : ctx.router.requests[id].work.runningOn executor = false := by
        rw [here, queued]
        rfl
      have begun : (Work.running owner task : Work Obj Resp).runningOn executor =
          decide (owner = executor) := rfl
      dsimp only
      rw [List.countP_set inside, waiting, begun]
      by_cases same : owner = executor
      · rw [same] at free
        rw [decide_eq_true same, if_neg Bool.false_ne_true, if_pos rfl]
        omega
      · rw [decide_eq_false same, if_neg Bool.false_ne_true]
        omega
  | workEnded id outcome now =>
      obtain ⟨request, executor, task, finished, stored, running, rfl, router, _⟩ :=
        Context.work_ended_cases taken
      rw [router]
      apply bounded_set_ended bounded stored
      intro other
      cases outcome <;> rfl
  | wire event =>
      obtain ⟨conn, _, rfl⟩ := Option.map_eq_some_iff.mp taken
      exact bounded

theorem bounded_run {events : List (NodeContext.Event Obj Resp)}
    (reached : run (Context.step serialize) Context.fresh events = some ctx) :
    Bounded ctx.router.requests := by
  have preserved : ∀ (state : Context Obj Resp) event after,
      Separate state.router ∧ Bounded state.router.requests →
      state.step serialize event = some after →
      Separate after.router ∧ Bounded after.router.requests :=
    fun _ _ _ both taken => ⟨separate_step both.1 taken, bounded_step both.1 both.2 taken⟩
  have empty : Bounded (Context.fresh : Context Obj Resp).router.requests :=
    fun _ => Nat.zero_le _
  exact (run_invariant (Context.step serialize) preserved ⟨separate_empty, empty⟩ reached).2

end Steps

/-- In every run what happens to the requests of a service is what its own
pool, shown the events of that service alone, makes of them; and a worker can
take or end a request of it exactly when it could in that pool. -/
theorem service_pool_runs_alone (serialize : Resp → Except PyException Json)
    (service : ServiceId) (events : List (NodeContext.Event Obj Resp)) (ctx : Context Obj Resp)
    (reached : run (Context.step serialize) Context.fresh events = some ctx) :
    run (Pool.step maxWorkers) Pool.shut
        (sights (Context.step serialize) (seen service) Context.fresh events) =
      some (poolOf service ctx.router) ∧
    (poolOf service ctx.router).busy ≤ maxWorkers ∧
    ∀ id, holds service ctx.router.requests id = true →
      (ctx.step serialize (.workStarted id)).isSome =
          ((poolOf service ctx.router).step maxWorkers
            (.begun (placeOf service ctx.router.requests id))).isSome ∧
        ∀ outcome now, (ctx.step serialize (.workEnded id outcome now)).isSome =
          ((poolOf service ctx.router).step maxWorkers
            (.ended (placeOf service ctx.router.requests id) outcome)).isSome := by
  have separate := separate_run reached
  have alone : run (Pool.step maxWorkers) (poolOf service (Context.fresh : Context Obj Resp).router)
      (sights (Context.step serialize) (seen service) Context.fresh events) =
        some (poolOf service ctx.router) :=
    run_projects (Context.step serialize) (Pool.step maxWorkers)
      (fun state => poolOf service state.router) (seen service)
      (fun _ _ _ here taken => separate_step here taken)
      (fun _ _ _ here taken => pool_step here taken service) separate_empty reached
  have sound : (poolOf service ctx.router).Sound maxWorkers :=
    run_invariant (Pool.step maxWorkers) (fun _ _ _ here taken => Pool.sound_step here taken)
      (Pool.sound_shut maxWorkers) alone
  refine ⟨alone, sound.bounded, ?_⟩
  intro id held
  obtain ⟨request, stored, own⟩ := stored_of_holds held
  constructor
  · rw [started_pool separate stored own]
    simp only [Context.step, Context.workStarted, Option.isSome_map]
  · intro outcome now
    rw [ended_pool stored own outcome, Option.isSome_map]
    exact work_ended_is_some serialize ctx id outcome now

/-- Requests of two services, of the first one more than it has workers. -/
def slowRun : List (NodeContext.Event Unit Int) :=
  [.called (.createRpc "bot/history" (.plain fun _ => .ok ()) 0),
    .called (.createRpc "bot/stop" (.plain fun _ => .ok ()) 1),
    .wire .start, .wire .startResumed, .wire (.iterated true), .wire (.entered true),
    .wire (.subscribed true), .wire (.subscribed true)] ++
  List.replicate 6 (.received 0 ⟨"bot/history", .value (.obj [])⟩ fun _ _ => .ok ()) ++
  [.received 0 ⟨"bot/stop", .value (.obj [])⟩ fun _ _ => .ok (),
    .workStarted 0, .workStarted 1, .workStarted 2, .workStarted 3, .workStarted 4]

def intText (response : Int) : Except PyException Json := .ok (.int response)

theorem slow_run_leaves_other_pool :
    ∃ ctx : Context Unit Int, run (Context.step intText) Context.fresh slowRun = some ctx ∧
      run (Pool.step maxWorkers) Pool.shut
          (sights (Context.step intText) (seen 1) Context.fresh slowRun) =
        some (poolOf 1 ctx.router) ∧
      (sights (Context.step intText) (seen 1) Context.fresh slowRun).length = 2 := by
  refine ⟨_, rfl, ?_, rfl⟩
  exact (service_pool_runs_alone intText 1 slowRun _ rfl).1

def Waits (requests : List (Request Obj Resp)) (executor : ExecutorId) (id : RequestId)
    (request : Request Obj Resp) : Prop :=
  requests[id]? = some request ∧ ∃ task, request.work = .queued executor task

/-- The request that has waited longest: an executor takes what was submitted to
it first in first out, and requests are numbered as they are submitted. -/
def FirstInLine (requests : List (Request Obj Resp)) (executor : ExecutorId) (id : RequestId)
    (request : Request Obj Resp) : Prop :=
  Waits requests executor id request ∧
    ∀ earlier other, earlier < id → ¬ Waits requests executor earlier other

theorem first_in_line_exists {requests : List (Request Obj Resp)} {executor : ExecutorId}
    {id : RequestId} {request : Request Obj Resp} (waits : Waits requests executor id request) :
    ∃ first other, first ≤ id ∧ FirstInLine requests executor first other := by
  induction id using Nat.strongRecOn generalizing request with
  | ind id induction =>
      by_cases overtaken : ∃ earlier other, earlier < id ∧ Waits requests executor earlier other
      · obtain ⟨earlier, other, before, waitsToo⟩ := overtaken
        obtain ⟨first, head, atMost, inLine⟩ := induction earlier before waitsToo
        exact ⟨first, head, atMost.trans (Nat.le_of_lt before), inLine⟩
      · exact ⟨id, request, Nat.le_refl _, waits, fun earlier other before waitsToo =>
          overtaken ⟨earlier, other, before, waitsToo⟩⟩

def busyWith (requests : List (Request Obj Resp)) (service : ServiceId) (executor : ExecutorId) :
    Nat :=
  requests.countP fun other => other.service = service && other.work.runningOn executor

section Starting

variable {serialize : Resp → Except PyException Json} {ctx : Context Obj Resp}
  {executor : ExecutorId} {id : RequestId} {request : Request Obj Resp}

theorem waits_on_own (separate : Separate ctx.router)
    (waits : Waits ctx.router.requests executor id request) :
    executorOf ctx.router.registry request.service = some executor := by
  obtain ⟨stored, task, queued⟩ := waits
  have placed := separate.placed request (List.mem_of_getElem? stored)
  unfold Placed at placed
  rw [queued] at placed
  exact placed

theorem start_enabled_iff (separate : Separate ctx.router)
    (waits : Waits ctx.router.requests executor id request) :
    (ctx.step serialize (.workStarted id)).isSome = true ↔
      busyWith ctx.router.requests request.service executor < maxWorkers := by
  have held := waits_on_own separate waits
  obtain ⟨stored, task, queued⟩ := waits
  rw [busyWith, own_workers separate held, ← max_workers_of separate.staffed held]
  simp only [Context.step, Context.workStarted, Option.isSome_map, startWork, stored, queued]
  split
  · rename_i free
    exact iff_of_true rfl free
  · rename_i full
    exact iff_of_false (by simp) full

end Starting

/-- In every run no executor has more requests than `max_workers`. A worker takes
only a request that waits, when fewer than that of its own service are running;
and where a request waits, the first in line is of the same service, and can be
taken exactly when fewer than that of this service are running. -/
theorem first_in_line_starts (serialize : Resp → Except PyException Json)
    (events : List (NodeContext.Event Obj Resp)) (ctx : Context Obj Resp)
    (reached : run (Context.step serialize) Context.fresh events = some ctx) :
    Bounded ctx.router.requests ∧
      (∀ id, (ctx.step serialize (.workStarted id)).isSome = true →
        ∃ executor request, Waits ctx.router.requests executor id request ∧
          busyWith ctx.router.requests request.service executor < maxWorkers) ∧
      ∀ executor id request, Waits ctx.router.requests executor id request →
        ∃ first head, first ≤ id ∧ FirstInLine ctx.router.requests executor first head ∧
          head.service = request.service ∧
          ((ctx.step serialize (.workStarted first)).isSome = true ↔
            busyWith ctx.router.requests request.service executor < maxWorkers) := by
  have separate := separate_run reached
  refine ⟨bounded_run reached, ?_, ?_⟩
  · intro id enabled
    obtain ⟨next, taken⟩ := Option.isSome_iff_exists.mp enabled
    obtain ⟨requests, started, rfl⟩ := Option.map_eq_some_iff.mp taken
    obtain ⟨request, executor, task, stored, queued, _⟩ := start_work_some started
    have waits : Waits ctx.router.requests executor id request := ⟨stored, task, queued⟩
    exact ⟨executor, request, waits, (start_enabled_iff separate waits).mp enabled⟩
  · intro executor id request waits
    obtain ⟨first, head, atMost, inLine⟩ := first_in_line_exists waits
    have same : head.service = request.service :=
      separate.distinct _ _ executor (waits_on_own separate inLine.1) (waits_on_own separate waits)
    refine ⟨first, head, atMost, inLine, same, ?_⟩
    rw [← same]
    exact start_enabled_iff separate inLine.1

def slowState : Context Unit Int :=
  (run (Context.step intText) Context.fresh slowRun).getD .fresh

theorem slow_run_blocks_itself_only :
    run (Context.step intText) Context.fresh slowRun = some slowState ∧
      (slowState.step intText (.workStarted 5)).isSome = false ∧
      ∃ first head, first ≤ 6 ∧ FirstInLine slowState.router.requests 1 first head ∧
        (slowState.step intText (.workStarted first)).isSome = true := by
  have reached : run (Context.step intText) Context.fresh slowRun = some slowState := rfl
  refine ⟨reached, rfl, ?_⟩
  have waits : Waits slowState.router.requests 1 6 ⟨"bot/stop", .obj [], 1, .null, .queued 1 ()⟩ :=
    ⟨rfl, (), rfl⟩
  obtain ⟨first, head, atMost, inLine, _, enabled⟩ :=
    (first_in_line_starts intText slowRun slowState reached).2.2 1 6 _ waits
  have free : busyWith slowState.router.requests 1 1 < maxWorkers := by decide
  exact ⟨first, head, atMost, inLine, enabled.mpr free⟩

end RemoteIface.Commlib.ServicePools
