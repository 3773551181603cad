import RemoteIface.Library.Projection
import RemoteIface.Commlib.RequestLife
import RemoteIface.Protocols.Envelope
import RemoteIface.Gateway.AppCalls
import RemoteIface.Gateway.Wiring

/-!
The way of a command from the broker to the app and back. A `NodeContext` and
the handlers of `MQTTCommands` run side by side: a worker thread that takes the
request of a command enters its handler, and what the handler returns is what
the request ends with. `_handle_config` is not followed here; its requests end
like those of a service of somebody else.
-/

namespace RemoteIface.Gateway.CommandPath

set_option autoImplicit false

open RemoteIface.Library.Runs
open RemoteIface.Library.Projection
open RemoteIface.Library.TimedCall (Time)
open RemoteIface.Commlib
open RemoteIface.Commlib.Payload
open RemoteIface.Commlib.Endpoints
open RemoteIface.Commlib.Rpc
open RemoteIface.Commlib.Dispatch (Router dispatchIncoming)
open RemoteIface.Commlib.CommandTable
open RemoteIface.Commlib.Subscriptions (map_set_same)
open RemoteIface.Commlib.NodeContext
open RemoteIface.Commlib.Serialization
open RemoteIface.Commlib.ServicePools
open RemoteIface.Commlib.Replies
open RemoteIface.Commlib.ReplyCorrelation
open RemoteIface.Commlib.RequestLife
open RemoteIface.Protocols.Messages
open RemoteIface.Protocols.RoundTrip
open RemoteIface.Protocols.Envelope
open RemoteIface.Gateway.Wiring hiding System
open RemoteIface.Gateway.CommandHandlers (Server Execution handlerOf)
open RemoteIface.Gateway.AppCalls

/-- The handler calls are numbered by the server; `calls` says for which request
each of them is. -/
structure Bot where
  ctx : Context Message Message
  server : Server
  calls : List RequestId

/-- `context` is anything but a worker thread at a handler, and `handlers`
anything but the entry of one. -/
inductive Event where
  | context (event : NodeContext.Event Message Message)
  | entered (id : RequestId)
  | handlers (event : CommandHandlers.Event)
  | answered (id : RequestId) (now : Int)
  | ended (id : RequestId) (outcome : Outcome Message) (now : Int)

def callbackOf (registry : Registry Message) (service : ServiceId) : Option CallbackId :=
  (registry.services[service]?).map RpcService.onRequest

/-- The command of a service, by the handler that it was created with. -/
def commandOf (registry : Registry Message) (service : ServiceId) : Option Command :=
  (callbackOf registry service).bind fun onRequest =>
    allCommands.find? fun command => commandHandler command = onRequest

/-- The call of a handler that a worker thread makes when it takes the request. -/
def entry (ctx : Context Message Message) (id : RequestId) : Option (Command × Message) :=
  match ctx.router.requests[id]? with
  | none => none
  | some request =>
      match request.work, commandOf ctx.router.registry request.service with
      | .queued _ task, some command => if command = .config then none else some (command, task)
      | _, _ => none

namespace Bot

def start (now : Time) : Bot := ⟨.fresh, .start now, []⟩

/-- What the handler of the request has returned. -/
def answer (bot : Bot) (id : RequestId) : Option Message :=
  (bot.calls.idxOf? id).bind fun place =>
    (bot.server.executions[place]?).bind Execution.reply

variable {Bytes : Type} (json : JsonModule Bytes) (repr : PyValue → String) (timeout : Time)

def step (bot : Bot) : Event → Option Bot
  | .context (.workStarted _) => none
  | .context (.workEnded _ _ _) => none
  | .context event =>
      (bot.ctx.step (responseData json) event).map fun ctx => { bot with ctx := ctx }
  | .entered id =>
      (bot.ctx.step (responseData json) (.workStarted id)).bind fun ctx =>
        match entry bot.ctx id with
        | none => some { bot with ctx := ctx }
        | some (command, req) =>
            (bot.server.step repr timeout (.handled command req)).map fun server =>
              ⟨ctx, server, bot.calls ++ [id]⟩
  | .handlers (.handled _ _) => none
  | .handlers event =>
      (bot.server.step repr timeout event).map fun server => { bot with server := server }
  | .answered id now =>
      (bot.answer id).bind fun response =>
        (bot.ctx.step (responseData json) (.workEnded id (.returned response) now)).map
          fun ctx => { bot with ctx := ctx }
  | .ended id outcome now =>
      if id ∈ bot.calls then none
      else (bot.ctx.step (responseData json) (.workEnded id outcome now)).map
        fun ctx => { bot with ctx := ctx }

end Bot

/-- What the context sees of an event. -/
def contextSight (bot : Bot) : Event → Option (NodeContext.Event Message Message)
  | .context event => some event
  | .entered id => some (.workStarted id)
  | .handlers _ => none
  | .answered id now => (bot.answer id).map fun response => .workEnded id (.returned response) now
  | .ended id outcome now => some (.workEnded id outcome now)

/-- What the handlers see of it. -/
def handlerSight (bot : Bot) : Event → Option CommandHandlers.Event
  | .entered id => (entry bot.ctx id).map fun entered => .handled entered.1 entered.2
  | .handlers event => some event
  | _ => none

section Steps

variable {Bytes : Type} {json : JsonModule Bytes} {repr : PyValue → String} {timeout : Time}

def newCalls (bot : Bot) : Event → List RequestId
  | .entered id => if (entry bot.ctx id).isSome then [id] else []
  | _ => []

theorem context_taken {bot next : Bot} {event : NodeContext.Event Message Message}
    (taken : bot.step json repr timeout (.context event) = some next) :
    (∀ id, event ≠ .workStarted id) ∧ (∀ id, event.ends id = none) ∧
      ∃ ctx, bot.ctx.step (responseData json) event = some ctx ∧
        next = { bot with ctx := ctx } := by
  have plain : ∀ {moved : Option (Context Message Message)},
      moved.map (fun ctx => { bot with ctx := ctx }) = some next →
        ∃ ctx, moved = some ctx ∧ next = { bot with ctx := ctx } := by
    intro moved mapped
    obtain ⟨ctx, stepped, same⟩ := Option.map_eq_some_iff.mp mapped
    exact ⟨ctx, stepped, same.symm⟩
  cases event with
  | workStarted id => cases taken
  | workEnded id outcome now => cases taken
  | _ => exact ⟨by simp, fun _ => rfl, plain taken⟩

theorem handlers_taken {bot next : Bot} {event : CommandHandlers.Event}
    (taken : bot.step json repr timeout (.handlers event) = some next) :
    (∀ command req, event ≠ .handled command req) ∧
      ∃ server, bot.server.step repr timeout event = some server ∧
        next = { bot with server := server } := by
  have plain : ∀ {moved : Option Server},
      moved.map (fun server => { bot with server := server }) = some next →
        ∃ server, moved = some server ∧ next = { bot with server := server } := by
    intro moved mapped
    obtain ⟨server, stepped, same⟩ := Option.map_eq_some_iff.mp mapped
    exact ⟨server, stepped, same.symm⟩
  cases event with
  | handled command req => cases taken
  | _ => exact ⟨by simp, plain taken⟩

theorem step_sides {bot next : Bot} {event : Event}
    (taken : bot.step json repr timeout event = some next) :
    partMove (Context.step (responseData json)) bot.ctx (contextSight bot event) =
        some next.ctx ∧
      partMove (Server.step repr timeout) bot.server (handlerSight bot event) =
        some next.server ∧
      next.calls = bot.calls ++ newCalls bot event := by
  cases event with
  | context event =>
      obtain ⟨_, _, ctx, stepped, rfl⟩ := context_taken taken
      exact ⟨stepped, rfl, (List.append_nil _).symm⟩
  | entered id =>
      obtain ⟨ctx, stepped, entering⟩ := Option.bind_eq_some_iff.mp taken
      unfold handlerSight newCalls
      dsimp only
      cases entered : entry bot.ctx id with
      | none =>
          rw [entered] at entering
          cases entering
          exact ⟨stepped, rfl, (List.append_nil _).symm⟩
      | some call =>
          obtain ⟨command, req⟩ := call
          rw [entered] at entering
          obtain ⟨server, handled, rfl⟩ := Option.map_eq_some_iff.mp entering
          exact ⟨stepped, handled, rfl⟩
  | handlers event =>
      obtain ⟨_, server, stepped, rfl⟩ := handlers_taken taken
      exact ⟨rfl, stepped, (List.append_nil _).symm⟩
  | answered id now =>
      obtain ⟨response, answered, ending⟩ := Option.bind_eq_some_iff.mp taken
      obtain ⟨ctx, stepped, rfl⟩ := Option.map_eq_some_iff.mp ending
      refine ⟨?_, rfl, (List.append_nil _).symm⟩
      unfold contextSight
      dsimp only
      rw [answered]
      exact stepped
  | ended id outcome now =>
      unfold Bot.step at taken
      dsimp only at taken
      split at taken
      · cases taken
      · obtain ⟨ctx, stepped, rfl⟩ := Option.map_eq_some_iff.mp taken
        exact ⟨stepped, rfl, (List.append_nil _).symm⟩

theorem context_run {now : Time} {events : List Event} {bot : Bot}
    (reached : run (Bot.step json repr timeout) (.start now) events = some bot) :
    run (Context.step (responseData json)) Context.fresh
        (sights (Bot.step json repr timeout) contextSight (.start now) events) =
      some bot.ctx :=
  run_projects (Bot.step json repr timeout) (Context.step (responseData json)) Bot.ctx contextSight
    (fun _ _ _ _ _ => trivial) (fun _ _ _ _ taken => (step_sides taken).1) trivial reached

theorem handler_run {now : Time} {events : List Event} {bot : Bot}
    (reached : run (Bot.step json repr timeout) (.start now) events = some bot) :
    run (Server.step repr timeout) (.start now)
        (sights (Bot.step json repr timeout) handlerSight (.start now) events) =
      some bot.server :=
  run_projects (Bot.step json repr timeout) (Server.step repr timeout) Bot.server handlerSight
    (fun _ _ _ _ _ => trivial) (fun _ _ _ _ taken => (step_sides taken).2.1) trivial reached

end Steps

theorem command_inside {registry : Registry Message} {service : ServiceId} {command : Command}
    (serves : commandOf registry service = some command) : service < registry.services.length := by
  obtain ⟨onRequest, called, _⟩ := Option.bind_eq_some_iff.mp serves
  obtain ⟨held, stored, _⟩ := Option.map_eq_some_iff.mp called
  exact (List.getElem?_eq_some_iff.mp stored).1

theorem perform_callbacks (registry : Registry Message) (call : RegistryCall Message) :
    ∃ made, (registry.perform call).services.map RpcService.onRequest =
      registry.services.map RpcService.onRequest ++ made := by
  by_cases about : AboutServices call
  · cases call with
    | createRpc rpcName msgType onRequest =>
        refine ⟨[onRequest], ?_⟩
        rw [Registry.perform, (create_rpc_table registry rpcName msgType onRequest).1,
          List.map_append]
        rfl
    | startRpc id =>
        refine ⟨[], ?_⟩
        rw [Registry.perform, List.append_nil]
        rcases Registry.start_rpc_cases registry id with same | ⟨service, stored, same⟩
        · rw [same]
        · rw [same]
          exact map_set_same RpcService.onRequest stored rfl
    | stopRpc id =>
        refine ⟨[], ?_⟩
        rw [Registry.perform, List.append_nil]
        rcases Registry.stop_rpc_cases registry id with same | ⟨service, stored, same⟩
        · rw [same]
        · rw [same]
          exact map_set_same RpcService.onRequest stored rfl
    | _ => exact about.elim
  · exact ⟨[], by rw [(perform_services registry about).1, List.append_nil]⟩

section Coupling

variable {serialize : Message → Except PyException Json} {ctx next : Context Message Message}
  {event : NodeContext.Event Message Message} {id : RequestId}

theorem callbacks_step (taken : ctx.step serialize event = some next) :
    ∃ made, next.router.registry.services.map RpcService.onRequest =
      ctx.router.registry.services.map RpcService.onRequest ++ made := by
  rcases services_step taken with ⟨call, _, performed⟩ | same
  · rw [performed]
    exact perform_callbacks ctx.router.registry call
  · exact ⟨[], by rw [same, List.append_nil]⟩

theorem service_step (taken : ctx.step serialize event = some next) {service : ServiceId}
    (inside : service < ctx.router.registry.services.length) :
    service < next.router.registry.services.length ∧
      commandOf next.router.registry service = commandOf ctx.router.registry service := by
  obtain ⟨made, callbacks⟩ := callbacks_step taken
  constructor
  · have grown := congrArg List.length callbacks
    simp only [List.length_map, List.length_append] at grown
    rw [grown]
    exact Nat.lt_add_right made.length inside
  · have mapped : (ctx.router.registry.services.map RpcService.onRequest).length =
        ctx.router.registry.services.length := List.length_map _
    unfold commandOf callbackOf
    rw [← List.getElem?_map, ← List.getElem?_map, callbacks,
      List.getElem?_append_left (mapped ▸ inside)]

def WorksOn (execution : Execution) (task : Message) : Work Message Message → Prop
  | .running _ decoded => decoded = task
  | .returned decoded response => decoded = task ∧ execution.reply = some response
  | _ => False

variable {repr : PyValue → String}

def Follows (repr : PyValue → String) (ctx : Context Message Message) (server : Server)
    (place : Nat) (id : RequestId) : Prop :=
  ∃ request execution command task, ctx.router.requests[id]? = some request ∧
    server.executions[place]? = some execution ∧
    commandOf ctx.router.registry request.service = some command ∧
    handlerOf repr command task = some execution.handling ∧
    WorksOn execution task request.work

theorem follows_context {server : Server} {place : Nat}
    (follows : Follows repr ctx server place id) (unended : event.ends id = none)
    (taken : ctx.step serialize event = some next) : Follows repr next server place id := by
  obtain ⟨request, execution, command, task, stored, called, serves, handles, works⟩ := follows
  obtain ⟨work, after, progress⟩ := Context.request_step stored taken
  have kept : commandOf next.router.registry request.service = some command := by
    rw [(service_step taken (command_inside serves)).2]
    exact serves
  refine ⟨{ request with work := work }, execution, command, task, after, called, kept, handles, ?_⟩
  rw [unended] at progress
  generalize request.work = old at progress works
  cases progress with
  | same => exact works
  | started executor decoded => exact works.elim
  | cancelled executor decoded => exact works.elim

theorem follows_return {server : Server} {place : Nat} {response : Message} {now : Int}
    {execution : Execution} (follows : Follows repr ctx server place id)
    (called : server.executions[place]? = some execution)
    (replied : execution.reply = some response)
    (taken : ctx.step serialize (.workEnded id (.returned response) now) = some next) :
    Follows repr next server place id := by
  obtain ⟨request, known, command, task, stored, same, serves, handles, works⟩ := follows
  rw [called, Option.some.injEq] at same
  subst same
  obtain ⟨work, after, progress⟩ := Context.request_step stored taken
  have kept : commandOf next.router.registry request.service = some command := by
    rw [(service_step taken (command_inside serves)).2]
    exact serves
  refine ⟨{ request with work := work }, execution, command, task, after, called, kept, handles, ?_⟩
  have ends : (NodeContext.Event.workEnded id (.returned response) now :
      NodeContext.Event Message Message).ends id = some (.returned response) := if_pos rfl
  rw [ends] at progress
  generalize request.work = old at progress works
  cases progress with
  | ended executor decoded => exact ⟨works, replied⟩

theorem follows_handlers {timeout : Time} {server moved : Server} {place : Nat}
    {event : CommandHandlers.Event} (follows : Follows repr ctx server place id)
    (taken : server.step repr timeout event = some moved) : Follows repr ctx moved place id := by
  obtain ⟨request, execution, command, task, stored, called, serves, handles, works⟩ := follows
  obtain ⟨stage, after, _⟩ := CommandHandlers.execution_step repr called taken
  refine ⟨request, { execution with stage := stage }, command, task, stored, after, serves, handles,
    ?_⟩
  cases work : request.work with
  | running executor decoded =>
      rw [work] at works
      exact works
  | returned decoded response =>
      rw [work] at works
      obtain ⟨later, there, replied⟩ := CommandHandlers.reply_kept repr called works.2 taken
      rw [after, Option.some.injEq] at there
      exact ⟨works.1, there ▸ replied⟩
  | _ =>
      rw [work] at works
      exact works.elim

end Coupling

theorem entry_iff {ctx : Context Message Message} {id : RequestId} {command : Command}
    {req : Message} :
    entry ctx id = some (command, req) ↔ ∃ request executor,
      ctx.router.requests[id]? = some request ∧ request.work = .queued executor req ∧
        commandOf ctx.router.registry request.service = some command ∧ command ≠ .config := by
  unfold entry
  cases stored : ctx.router.requests[id]? with
  | none => simp
  | some request =>
      dsimp only
      constructor
      · intro entered
        split at entered
        · rename_i executor task other queued serves
          split at entered <;> cases entered
          rename_i followed
          exact ⟨request, executor, rfl, queued, serves, followed⟩
        · cases entered
      · rintro ⟨known, executor, same, queued, serves, followed⟩
        cases same
        rw [queued, serves]
        exact if_neg followed

/-- The handler calls are those of the command requests that have begun, each of
one. -/
structure Coupled (repr : PyValue → String) (bot : Bot) : Prop where
  separate : Separate bot.ctx.router
  length : bot.calls.length = bot.server.executions.length
  nodup : bot.calls.Nodup
  follows : ∀ place id, bot.calls[place]? = some id →
    Follows repr bot.ctx bot.server place id
  inside : ∀ (id : RequestId) request, bot.ctx.router.requests[id]? = some request →
    begun request.work = 1 → request.service < bot.ctx.router.registry.services.length
  complete : ∀ (id : RequestId) request command, bot.ctx.router.requests[id]? = some request →
    begun request.work = 1 →
    commandOf bot.ctx.router.registry request.service = some command → command ≠ .config →
    id ∈ bot.calls

theorem coupled_start (repr : PyValue → String) (now : Time) : Coupled repr (.start now) where
  separate := separate_empty
  length := rfl
  nodup := List.nodup_nil
  follows := by
    intro place id called
    cases called
  inside := by
    intro id request stored
    cases stored
  complete := by
    intro id request command stored
    cases stored

section Taken

variable {serialize : Message → Except PyException Json} {ctx next : Context Message Message}
  {event : NodeContext.Event Message Message} {id : RequestId}

theorem begun_before (taken : ctx.step serialize event = some next)
    {request : Request Message Message} (stored : next.router.requests[id]? = some request)
    (running : begun request.work = 1) :
    begins id event = true ∨ ∃ before, ctx.router.requests[id]? = some before ∧
      before.service = request.service ∧ begun before.work = 1 := by
  have counted := begun_step id taken
  have now : begunOf id next = 1 := by
    unfold begunOf
    rw [stored]
    exact running
  cases starting : begins id event with
  | true => exact .inl rfl
  | false =>
      rw [now, starting] at counted
      cases known : ctx.router.requests[id]? with
      | none => simp [begunOf, known] at counted
      | some before =>
          obtain ⟨work, after, _⟩ := Context.request_step known taken
          rw [after, Option.some.injEq] at stored
          refine .inr ⟨before, rfl, by rw [← stored], ?_⟩
          simpa [begunOf, known] using counted.symm

theorem begins_iff : begins id event = true ↔ event = .workStarted id := by
  cases event <;> simp [begins]

theorem started_request (separate : Separate ctx.router)
    (taken : ctx.step serialize (.workStarted id) = some next) :
    ∃ request executor task, ctx.router.requests[id]? = some request ∧
      request.work = .queued executor task ∧
      next.router.requests[id]? = some { request with work := .running executor task } ∧
      request.service < ctx.router.registry.services.length := by
  obtain ⟨requests, started, rfl⟩ := Option.map_eq_some_iff.mp taken
  obtain ⟨request, executor, task, stored, queued, _, rfl⟩ := start_work_some started
  have placed := separate.placed request (List.mem_of_getElem? stored)
  unfold Placed at placed
  rw [queued] at placed
  obtain ⟨service, known, _⟩ := Option.bind_eq_some_iff.mp placed
  refine ⟨request, executor, task, stored, queued, ?_, (List.getElem?_eq_some_iff.mp known).1⟩
  exact List.getElem?_set_self (List.getElem?_eq_some_iff.mp stored).1

end Taken

section Runs

variable {Bytes : Type} {json : JsonModule Bytes} {repr : PyValue → String} {timeout : Time}

theorem coupled_next {serialize : Message → Except PyException Json} {bot next : Bot}
    {event : NodeContext.Event Message Message} (coupled : Coupled repr bot)
    (taken : bot.ctx.step serialize event = some next.ctx)
    (length : next.calls.length = next.server.executions.length) (nodup : next.calls.Nodup)
    (follows : ∀ place id, next.calls[place]? = some id →
      Follows repr next.ctx next.server place id)
    (grown : ∀ id ∈ bot.calls, id ∈ next.calls)
    (started : ∀ id req command, event = .workStarted id →
      entry bot.ctx id = some (command, req) → id ∈ next.calls) : Coupled repr next where
  separate := separate_step coupled.separate taken
  length := length
  nodup := nodup
  follows := follows
  inside := by
    intro id request stored running
    rcases begun_before taken stored running with now | ⟨before, known, same, earlier⟩
    · rw [begins_iff.mp now] at taken
      obtain ⟨held, executor, task, _, _, after, inside⟩ := started_request coupled.separate taken
      rw [after, Option.some.injEq] at stored
      rw [← stored]
      exact (service_step taken inside).1
    · rw [← same]
      exact (service_step taken (coupled.inside id before known earlier)).1
  complete := by
    intro id request command stored running serves followed
    rcases begun_before taken stored running with now | ⟨before, known, same, earlier⟩
    · have starts := begins_iff.mp now
      rw [starts] at taken
      obtain ⟨held, executor, task, waiting, queued, after, inside⟩ :=
        started_request coupled.separate taken
      rw [after, Option.some.injEq] at stored
      rw [← stored, (service_step taken inside).2] at serves
      exact started id task command starts
        (entry_iff.mpr ⟨held, executor, waiting, queued, serves, followed⟩)
    · rw [← same, (service_step taken (coupled.inside id before known earlier)).2] at serves
      exact grown id (coupled.complete id before command known earlier serves followed)

theorem not_called_of_queued {bot : Bot} {id : RequestId} {request : Request Message Message}
    {executor : ExecutorId} {task : Message} (coupled : Coupled repr bot)
    (stored : bot.ctx.router.requests[id]? = some request)
    (queued : request.work = .queued executor task) : id ∉ bot.calls := by
  intro member
  obtain ⟨place, called⟩ := List.getElem?_of_mem member
  obtain ⟨known, execution, command, req, same, _, _, _, works⟩ := coupled.follows place id called
  rw [stored, Option.some.injEq] at same
  rw [← same, queued] at works
  exact works

theorem executions_length {server next : Server} {event : CommandHandlers.Event}
    (unhandled : ∀ command req, event ≠ .handled command req)
    (taken : server.step repr timeout event = some next) :
    next.executions.length = server.executions.length := by
  cases CommandHandlers.step_move repr taken with
  | passed now later new => rw [new]
  | handled command req handling handler executions calls now =>
      exact absurd rfl (unhandled command req)
  | advanced id _ execution stage stored move executions calls now =>
      rw [executions, List.length_set]

theorem ends_other {id other : RequestId} (different : id ≠ other) (outcome : Outcome Message)
    (now : Int) :
    (NodeContext.Event.workEnded id outcome now : NodeContext.Event Message Message).ends other =
      none :=
  if_neg different

theorem coupled_entered {serialize : Message → Except PyException Json} {bot : Bot}
    {ctx : Context Message Message} {server : Server} {id : RequestId} {command : Command}
    {req : Message} (coupled : Coupled repr bot)
    (taken : bot.ctx.step serialize (.workStarted id) = some ctx)
    (entered : entry bot.ctx id = some (command, req))
    (handled : bot.server.step repr timeout (.handled command req) = some server) :
    Coupled repr ⟨ctx, server, bot.calls ++ [id]⟩ := by
  obtain ⟨request, executor, stored, queued, serves, _⟩ := entry_iff.mp entered
  obtain ⟨handling, handles, rfl⟩ := Option.map_eq_some_iff.mp handled
  apply coupled_next coupled taken
  · simp [coupled.length]
  · have new := not_called_of_queued coupled stored queued
    exact List.nodup_append.mpr ⟨coupled.nodup, List.nodup_singleton id, by
      rintro one member two only rfl
      exact new (List.mem_singleton.mp only ▸ member)⟩
  · intro place other called
    rw [List.getElem?_append] at called
    split at called
    · have before := coupled.follows place other called
      exact follows_handlers (follows_context before rfl taken) handled
    · rename_i outside
      have last : place = bot.calls.length ∧ id = other := by
        rw [List.getElem?_singleton] at called
        split at called
        · rename_i first
          exact ⟨by omega, Option.some.inj called⟩
        · cases called
      obtain ⟨rfl, rfl⟩ := last
      obtain ⟨known, _, task, waiting, same, after, inside⟩ :=
        started_request coupled.separate taken
      rw [stored, Option.some.injEq] at waiting
      subst waiting
      rw [queued] at same
      cases same
      refine ⟨_, ⟨handling, handling.stage⟩, command, req, after, ?_, ?_, handles, rfl⟩
      · rw [coupled.length]
        exact List.getElem?_concat_length
      · rw [(service_step taken inside).2]
        exact serves
  · intro other member
    exact List.mem_append_left _ member
  · intro other task found same _
    cases same
    exact List.mem_append_right _ (List.mem_singleton_self id)

theorem coupled_answered {serialize : Message → Except PyException Json} {bot : Bot}
    {ctx : Context Message Message} {id : RequestId} {response : Message} {now : Int}
    (coupled : Coupled repr bot) (answered : bot.answer id = some response)
    (taken : bot.ctx.step serialize (.workEnded id (.returned response) now) = some ctx) :
    Coupled repr { bot with ctx := ctx } := by
  obtain ⟨place, found, replies⟩ := Option.bind_eq_some_iff.mp answered
  obtain ⟨execution, called, replied⟩ := Option.bind_eq_some_iff.mp replies
  obtain ⟨inside, same, _⟩ := List.idxOf?_eq_some_iff.mp found
  refine coupled_next coupled taken coupled.length coupled.nodup ?_ (fun _ member => member)
    (by simp)
  intro spot other there
  have before := coupled.follows spot other there
  by_cases own : id = other
  · subst own
    have here : spot = place := by
      obtain ⟨within, value⟩ := List.getElem?_eq_some_iff.mp there
      exact (coupled.nodup.getElem_inj_iff).mp (value.trans same.symm)
    exact follows_return before (here ▸ called) replied taken
  · exact follows_context before (ends_other own _ now) taken

theorem coupled_step {bot next : Bot} {event : Event} (coupled : Coupled repr bot)
    (taken : bot.step json repr timeout event = some next) : Coupled repr next := by
  cases event with
  | context event =>
      obtain ⟨unbegun, unended, ctx, stepped, rfl⟩ := context_taken taken
      refine coupled_next coupled stepped coupled.length coupled.nodup ?_ (fun _ member => member) ?_
      · intro place id called
        exact follows_context (coupled.follows place id called) (unended id) stepped
      · intro id req command begins _
        exact absurd begins (unbegun id)
  | entered id =>
      obtain ⟨ctx, stepped, entering⟩ := Option.bind_eq_some_iff.mp taken
      cases entered : entry bot.ctx id with
      | none =>
          rw [entered] at entering
          cases entering
          refine coupled_next coupled stepped coupled.length coupled.nodup ?_
            (fun _ member => member) ?_
          · intro place other called
            exact follows_context (coupled.follows place other called) rfl stepped
          · intro other req command same calls
            cases same
            rw [entered] at calls
            cases calls
      | some call =>
          obtain ⟨command, req⟩ := call
          rw [entered] at entering
          obtain ⟨server, handled, rfl⟩ := Option.map_eq_some_iff.mp entering
          exact coupled_entered coupled stepped entered handled
  | handlers event =>
      obtain ⟨unhandled, server, stepped, rfl⟩ := handlers_taken taken
      refine ⟨coupled.separate, ?_, coupled.nodup, ?_, coupled.inside, coupled.complete⟩
      · rw [executions_length unhandled stepped]
        exact coupled.length
      · intro place id called
        exact follows_handlers (coupled.follows place id called) stepped
  | answered id now =>
      obtain ⟨response, answered, ending⟩ := Option.bind_eq_some_iff.mp taken
      obtain ⟨ctx, stepped, rfl⟩ := Option.map_eq_some_iff.mp ending
      exact coupled_answered coupled answered stepped
  | ended id outcome now =>
      unfold Bot.step at taken
      dsimp only at taken
      split at taken
      · cases taken
      · rename_i foreign
        obtain ⟨ctx, stepped, rfl⟩ := Option.map_eq_some_iff.mp taken
        refine coupled_next coupled stepped coupled.length coupled.nodup ?_
          (fun _ member => member) (by simp)
        intro place other called
        have different : id ≠ other := by
          rintro rfl
          exact foreign (List.mem_of_getElem? called)
        exact follows_context (coupled.follows place other called)
          (ends_other different outcome now) stepped

theorem coupled_run {now : Time} {events : List Event} {bot : Bot}
    (reached : run (Bot.step json repr timeout) (.start now) events = some bot) :
    Coupled repr bot :=
  run_invariant (Bot.step json repr timeout) (fun _ _ _ => coupled_step)
    (coupled_start repr now) reached

theorem answered_request {serialize : Message → Except PyException Json}
    {happened : List (NodeContext.Event Message Message)} {ctx : Context Message Message}
    (reached : run (Context.step serialize) Context.fresh happened = some ctx)
    {id : RequestId} {reply : Outgoing} {arrival : Arrival Message Message}
    {ending : Ending Message Message}
    (answers : Answers serialize happened id reply arrival ending) :
    ctx.router.requests[id]? =
      some (arrival.request (.returned ending.decoded ending.response)) := by
  obtain ⟨after, made⟩ := answers.made
  have split : happened = (arrival.before ++ arrival.event :: ending.middle) ++
      .workEnded id (.returned ending.response) ending.now :: after := by
    rw [made.history]
    simp
  rw [split, run_append, answers.reached, Option.bind_some] at reached
  obtain ⟨next, taken, later⟩ := run_cons_some _ reached
  obtain ⟨work, stored, progress⟩ := Context.request_step answers.running taken
  have ends : (NodeContext.Event.workEnded id (.returned ending.response) ending.now :
      NodeContext.Event Message Message).ends id = some (.returned ending.response) := if_pos rfl
  rw [ends] at progress
  have returned : work = .returned ending.decoded ending.response := by
    cases progress
    rfl
  rw [returned] at stored
  exact over_run stored rfl later

theorem only_reply {serialize : Message → Except PyException Json} {ctx : Context Message Message}
    (recorded : Replies.Recorded serialize ctx) {id : RequestId} {reply : Outgoing}
    {request : Request Message Message} (stored : ctx.router.requests[id]? = some request)
    (member : (id, reply) ∈ ctx.replies) : repliesTo ctx id = [reply] := by
  obtain ⟨now, replies⟩ := recorded.matching id request stored
  have listed : reply ∈ repliesTo ctx id := by
    unfold repliesTo
    exact List.mem_map.mpr ⟨(id, reply), List.mem_filter.mpr ⟨member, decide_eq_true rfl⟩, rfl⟩
  rw [replies] at listed ⊢
  rw [Option.mem_toList] at listed
  rw [listed, Option.toList_some]

/-- The message `arrival` asked for the command, its handler was called as number
`place`, and what that call has made of the app's answer is the reply. -/
structure Served (json : JsonModule Bytes) (repr : PyValue → String) (timeout now : Time)
    (events : List Event) (bot : Bot) (command : Command) (id : RequestId) (reply : Outgoing)
    (arrival : Arrival Message Message) (ending : Ending Message Message) (place : Nat)
    (execution : Execution) : Prop where
  answers : Answers (responseData json)
    (sights (Bot.step json repr timeout) contextSight (.start now) events) id reply arrival ending
  peer : RoundTrips json reply arrival ending
  called : bot.calls[place]? = some id
  stored : bot.server.executions[place]? = some execution
  handler : handlerOf repr command ending.decoded = some execution.handling
  replied : execution.reply = some ending.response
  cls : ending.response.cls = .response command
  tells : CommandHandlers.TellsEnd timeout now
    (sights (Bot.step json repr timeout) handlerSight (.start now) events) place
    execution.handling ending.response
  app : CalledOnce timeout (sights (Bot.step json repr timeout) handlerSight (.start now) events)
    bot.server place execution

end Runs

def stopRequest : Message := ⟨.request .stop, fun _ => .bool false⟩

def stopRun : List Event :=
  [.context (.called (.createRpc "bot/stop" stopRequest.cls.msgType (commandHandler .stop))),
    .context (.wire .start), .context (.wire .startResumed), .context (.wire (.iterated true)),
    .context (.wire (.entered true)), .context (.wire (.subscribed true)),
    .context (.received 0 ⟨"bot/stop", .value (requestEnvelope "peer" stopRequest).toJson⟩
      fun _ _ => .ok ()),
    .entered 0, .handlers (.submitted 0 (.ok ())), .handlers (.awaited 0 .waits),
    .handlers (.awaited 0 .begun),
    .handlers (.awaited 0 (.ended (.returned (.str "stopped")))),
    .handlers (.awaited 0 .woke), .answered 0 9]

end RemoteIface.Gateway.CommandPath
