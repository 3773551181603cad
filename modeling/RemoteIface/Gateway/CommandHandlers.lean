import RemoteIface.Library.CallStory
import RemoteIface.Protocols.RoundTrip

/-!
The command handlers of `MQTTCommands` but `_handle_config`. Each calls at most
one method of the app, directly or as a coroutine through `_call_async`, inside
one `try`, and answers with the response dataclass of its command.
-/

namespace RemoteIface.Gateway.CommandHandlers

set_option autoImplicit false

open RemoteIface.Library
open RemoteIface.Library.Runs
open RemoteIface.Library.TimedCall (Time Thrown Ending Caller Coroutine Call Op Story Learns)
open RemoteIface.Commlib.Serialization
open RemoteIface.Protocols.Messages
open RemoteIface.Protocols.RoundTrip

/-- Python's truth value. -/
def truthy : PyValue → Bool
  | .none => false
  | .bool value => value
  | .int value => value ≠ 0
  | .float bits => bits ≠ 0 ∧ bits ≠ 0x8000000000000000
  | .decoderNaN => true
  | .str value => value ≠ ""
  | .list items => !items.isEmpty
  | .tuple items => !items.isEmpty
  | .dict entries => !entries.isEmpty

/-- `value or default` -/
def orElse (value default : PyValue) : PyValue := if truthy value then value else default

/-- `str(value)`. The text of anything but a string is a parameter. -/
def str (repr : PyValue → String) : PyValue → String
  | .str value => value
  | value => repr value

/-- A call of a method of the app with its arguments. -/
inductive AppCall where
  | start (logLevel script conf isQuickstart : PyValue)
  | startCheck (logLevel script conf isQuickstart : PyValue)
  | stop (skipOrderCancellation : PyValue)
  | stopLoop
  | importConfigFile (filename : String)
  | strategyStatus
  | history (days verbose precision : PyValue)
  | getHistoryTradesJson (days : PyValue)
  | balance (mode : String) (args : List PyValue)

/-- `message.name = value` -/
def assign (message : Message) (name : String) (value : PyValue) : Message where
  cls := message.cls
  value other := if other = name then value else message.value other

/-- `Response()` of a command. -/
def emptyResponse (command : Command) : Message := (MessageClass.response command).init []

def succeed (response : Message) : Message :=
  assign response "status" (.int 200)

def fail (response : Message) (msg : String) : Message :=
  assign (assign response "status" (.int 400)) "msg" (.str msg)

/-- The end of a `try` with a clause for `TimeoutError` before that for
`Exception`. The block has filled in the response when nothing was raised. -/
def concludeTimed (response : Message) : Except Thrown Message → Message
  | .ok filled => succeed filled
  | .error thrown => fail response (if thrown.timeout then "timeout" else thrown.text)

def concludePlain (response : Message) : Except Thrown Message → Message
  | .ok filled => succeed filled
  | .error thrown => fail response thrown.text

/-- A handler up to its one call: what it answers without any, or the call and
what it makes of how that ends. `awaits` goes through `_call_async`. -/
inductive Handling where
  | answers (response : Message)
  | calls (call : AppCall) (finish : Except Thrown PyValue → Message)
  | awaits (call : AppCall) (finish : Except Thrown PyValue → Message)

variable (repr : PyValue → String)

def handleStart (req : Message) : Handling :=
  let response := emptyResponse .start
  let logLevel := orElse (req.value "log_level") (.str "")
  let script := orElse (req.value "script") (.str "")
  let conf := orElse (req.value "conf") (.str "")
  let isQuickstart := req.value "is_quickstart"
  if truthy (req.value "async_backend") then
    .calls (.start logLevel script conf isQuickstart) fun result =>
      concludeTimed response (result.map fun _ => response)
  else
    .awaits (.startCheck logLevel script conf isQuickstart) fun result =>
      concludeTimed response (result.map fun value =>
        assign response "msg" (orElse value (.str "")))

def handleStop (req : Message) : Handling :=
  let response := emptyResponse .stop
  if truthy (req.value "async_backend") then
    .calls (.stop (req.value "skip_order_cancellation")) fun result =>
      concludeTimed response (result.map fun _ => response)
  else
    .awaits .stopLoop fun result =>
      concludeTimed response (result.map fun value =>
        assign response "msg" (orElse value (.str "")))

def handleImport (req : Message) : Handling :=
  let response := emptyResponse .importStrategy
  if truthy (req.value "strategy") then
    .awaits (.importConfigFile (str repr (req.value "strategy") ++ ".yml")) fun result =>
      concludeTimed response (result.map fun value =>
        assign response "msg" (orElse value (.str "")))
  else .answers (fail response "Empty strategy_name given!")

def handleStatus (req : Message) : Handling :=
  let response := emptyResponse .status
  if truthy (req.value "async_backend") then .answers (succeed response)
  else
    .awaits .strategyStatus fun result =>
      concludeTimed response (result.map fun value =>
        assign response "msg" (orElse value (.str "")))

def handleHistory (req : Message) : Handling :=
  let response := emptyResponse .history
  if truthy (req.value "async_backend") then
    .calls (.history (req.value "days") (req.value "verbose") (req.value "precision")) fun result =>
      concludeTimed response (result.map fun _ => response)
  else
    .awaits (.getHistoryTradesJson (req.value "days")) fun result =>
      concludeTimed response (result.map fun value =>
        assign response "trades" (orElse value (.list [])))

/-- `str(data) if data is not None else ""` -/
def dataText (data : PyValue) : PyValue :=
  match data with
  | .none => .str ""
  | data => .str (str repr data)

def handleBalanceLimit (req : Message) : Handling :=
  let response := emptyResponse .balanceLimit
  let args := [req.value "exchange", req.value "asset", .str (str repr (req.value "amount"))]
  .calls (.balance "limit" args) fun result =>
    concludePlain response (result.map fun data => assign response "data" (dataText repr data))

def handleBalancePaper (req : Message) : Handling :=
  let response := emptyResponse .balancePaper
  let args := [req.value "asset", .str (str repr (req.value "amount"))]
  .calls (.balance "paper" args) fun result =>
    concludePlain response (result.map fun data => assign response "data" (dataText repr data))

/-- The handler that `start` registers for a command. That of `config` makes
its calls in a loop. -/
def handlerOf (command : Command) (req : Message) : Option Handling :=
  match command with
  | .start => some (handleStart req)
  | .stop => some (handleStop req)
  | .config => none
  | .importStrategy => some (handleImport repr req)
  | .status => some (handleStatus req)
  | .history => some (handleHistory req)
  | .balanceLimit => some (handleBalanceLimit repr req)
  | .balancePaper => some (handleBalancePaper repr req)

/-- Where the thread of a handler is. In `awaiting` it may have its answer
already while the coroutine still runs. -/
inductive Stage where
  | inside
  | awaiting (call : Call PyValue)
  | replied (response : Message)

structure Execution where
  handling : Handling
  stage : Stage

/-- `appCalls` records the methods of the app that have begun to run, with the
number of the handler call they are for. -/
structure Server where
  now : Time
  executions : List Execution
  appCalls : List (Nat × AppCall)

/-- The handler of a request is entered, its direct call of the app ends,
`run_coroutine_threadsafe` returns or raises, or something happens to the
coroutine and the wait for it. -/
inductive Event where
  | passed (now : Time)
  | handled (command : Command) (req : Message)
  | returned (id : Nat) (result : Except Thrown PyValue)
  | submitted (id : Nat) (result : Except Thrown Unit)
  | awaited (id : Nat) (op : Op PyValue)

/-- `future.result(timeout=self._timeout + 5.0)` -/
def slack : Time := 5

def Handling.stage : Handling → Stage
  | answers response => .replied response
  | calls _ _ => .inside
  | awaits _ _ => .inside

/-- What a handler has called when its thread first waits. -/
def Handling.direct : Handling → List AppCall
  | calls call _ => [call]
  | _ => []

/-- The first step of a coroutine enters the method of the app. -/
def entered (timeout : Time) (id : Nat) (call : AppCall) : Op PyValue → List (Nat × AppCall)
  | .begun => if timeout ≤ 0 then [] else [(id, call)]
  | _ => []

namespace Server

def start (now : Time) : Server := ⟨now, [], []⟩

def setStage (server : Server) (id : Nat) (execution : Execution) (stage : Stage) : Server :=
  { server with executions := server.executions.set id { execution with stage := stage } }

def step (timeout : Time) (server : Server) : Event → Option Server
  | .passed now => if server.now ≤ now then some { server with now := now } else none
  | .handled command req =>
      (handlerOf repr command req).map fun handling =>
        { server with
          executions := server.executions ++ [⟨handling, handling.stage⟩]
          appCalls := server.appCalls ++
            handling.direct.map fun call => (server.executions.length, call) }
  | .returned id result =>
      match server.executions[id]? with
      | some ⟨.calls call finish, .inside⟩ =>
          some (server.setStage id ⟨.calls call finish, .inside⟩ (.replied (finish result)))
      | _ => none
  | .submitted id result =>
      match server.executions[id]? with
      | some ⟨.awaits call finish, .inside⟩ =>
          match result with
          | .ok () =>
              some (server.setStage id ⟨.awaits call finish, .inside⟩
                (.awaiting (.submit server.now)))
          | .error thrown =>
              some (server.setStage id ⟨.awaits call finish, .inside⟩
                (.replied (finish (.error thrown))))
      | _ => none
  | .awaited id op =>
      match server.executions[id]? with
      | some ⟨.awaits call finish, .awaiting timed⟩ =>
          (timed.step timeout slack server.now op).map fun moved =>
            { server.setStage id ⟨.awaits call finish, .awaiting timed⟩ (.awaiting moved) with
              appCalls := server.appCalls ++ entered timeout id call op }
      | _ => none

end Server

/-- The response of the handler, once its thread has it. -/
def Execution.reply (execution : Execution) : Option Message :=
  match execution.handling, execution.stage with
  | _, .replied response => some response
  | .awaits _ finish, .awaiting timed => timed.answer.map finish
  | _, _ => none

inductive Advance (timeout now : Time) (id : Nat) (handling : Handling) :
    Event → Stage → Stage → Prop where
  | returned (call : AppCall) (finish : Except Thrown PyValue → Message)
      (direct : handling = .calls call finish) (result : Except Thrown PyValue) :
      Advance timeout now id handling (.returned id result) .inside (.replied (finish result))
  | submitted (call : AppCall) (finish : Except Thrown PyValue → Message)
      (waits : handling = .awaits call finish) :
      Advance timeout now id handling (.submitted id (.ok ())) .inside
        (.awaiting (.submit now))
  | refused (call : AppCall) (finish : Except Thrown PyValue → Message)
      (waits : handling = .awaits call finish) (thrown : Thrown) :
      Advance timeout now id handling (.submitted id (.error thrown)) .inside
        (.replied (finish (.error thrown)))
  | moved (call : AppCall) (finish : Except Thrown PyValue → Message)
      (waits : handling = .awaits call finish) (op : Op PyValue) (timed moved : Call PyValue)
      (taken : timed.step timeout slack now op = some moved) :
      Advance timeout now id handling (.awaited id op) (.awaiting timed) (.awaiting moved)

def Event.about : Event → Option Nat
  | .passed _ => none
  | .handled _ _ => none
  | .returned id _ => some id
  | .submitted id _ => some id
  | .awaited id _ => some id

theorem advance_about {timeout now : Time} {id : Nat} {handling : Handling} {event : Event}
    {before after : Stage} (advance : Advance timeout now id handling event before after) :
    event.about = some id := by
  cases advance <;> rfl

def newCalls (timeout : Time) (id : Nat) : Handling → Event → List (Nat × AppCall)
  | .awaits call _, .awaited _ op => entered timeout id call op
  | _, _ => []

/-- The moves of the whole: time passes, a handler is entered, or one handler
call moves on. -/
inductive Move (timeout : Time) (server next : Server) : Event → Prop where
  | passed (now : Time) (later : server.now ≤ now) (new : next = { server with now := now }) :
      Move timeout server next (.passed now)
  | handled (command : Command) (req : Message) (handling : Handling)
      (handler : handlerOf repr command req = some handling)
      (executions : next.executions = server.executions ++ [⟨handling, handling.stage⟩])
      (calls : next.appCalls = server.appCalls ++
        handling.direct.map fun call => (server.executions.length, call))
      (now : next.now = server.now) : Move timeout server next (.handled command req)
  | advanced (id : Nat) (event : Event) (execution : Execution) (stage : Stage)
      (stored : server.executions[id]? = some execution)
      (move : Advance timeout server.now id execution.handling event execution.stage stage)
      (executions : next.executions = server.executions.set id { execution with stage := stage })
      (calls : next.appCalls = server.appCalls ++ newCalls timeout id execution.handling event)
      (now : next.now = server.now) : Move timeout server next event

theorem step_move {timeout : Time} {server next : Server} {event : Event}
    (taken : server.step repr timeout event = some next) : Move repr timeout server next event := by
  cases event with
  | passed now =>
      unfold Server.step at taken
      dsimp only at taken
      split at taken <;> cases taken
      rename_i later
      exact .passed now later rfl
  | handled command req =>
      obtain ⟨handling, handler, rfl⟩ := Option.map_eq_some_iff.mp taken
      exact .handled command req handling handler rfl rfl rfl
  | returned id result =>
      unfold Server.step at taken
      dsimp only at taken
      split at taken <;> cases taken
      rename_i call finish stored
      exact .advanced id _ _ _ stored (.returned call finish rfl result) rfl
        (List.append_nil _).symm rfl
  | submitted id result =>
      unfold Server.step at taken
      dsimp only at taken
      split at taken
      · rename_i call finish stored
        cases result with
        | ok done =>
            cases taken
            exact .advanced id _ _ _ stored (.submitted call finish rfl) rfl
              (List.append_nil _).symm rfl
        | error thrown =>
            cases taken
            exact .advanced id _ _ _ stored (.refused call finish rfl thrown) rfl
              (List.append_nil _).symm rfl
      · cases taken
  | awaited id op =>
      unfold Server.step at taken
      dsimp only at taken
      split at taken
      · rename_i call finish timed stored
        obtain ⟨moved, went, rfl⟩ := Option.map_eq_some_iff.mp taken
        exact .advanced id _ _ _ stored (.moved call finish rfl op timed moved went) rfl rfl rfl
      · cases taken

/-- What a handler call was entered as stays, and its stage moves as the event
says, if it is about that call. -/
theorem execution_step {timeout : Time} {server next : Server} {event : Event} {id : Nat}
    {execution : Execution} (stored : server.executions[id]? = some execution)
    (taken : server.step repr timeout event = some next) :
    ∃ stage, next.executions[id]? = some { execution with stage := stage } ∧
      ((event.about ≠ some id ∧ stage = execution.stage) ∨
        Advance timeout server.now id execution.handling event execution.stage stage) := by
  have inside := (List.getElem?_eq_some_iff.mp stored).1
  cases step_move repr taken with
  | passed now later new =>
      rw [new]
      exact ⟨execution.stage, stored, .inl ⟨by simp [Event.about], rfl⟩⟩
  | handled command req handling handler executions calls now =>
      rw [executions, List.getElem?_append_left inside]
      exact ⟨execution.stage, stored, .inl ⟨by simp [Event.about], rfl⟩⟩
  | advanced other _ found stage there move executions calls now =>
      rw [executions]
      by_cases same : other = id
      · subst same
        rw [stored] at there
        cases there
        rw [List.getElem?_set_self inside]
        exact ⟨stage, rfl, .inr move⟩
      · rw [List.getElem?_set_ne same]
        exact ⟨execution.stage, stored, .inl ⟨by simp [advance_about move, same], rfl⟩⟩

theorem new_execution {timeout : Time} {server next : Server} {event : Event} {id : Nat}
    {execution : Execution} (absent : server.executions[id]? = none)
    (stored : next.executions[id]? = some execution)
    (taken : server.step repr timeout event = some next) :
    id = server.executions.length ∧ ∃ command req handling, event = .handled command req ∧
      handlerOf repr command req = some handling ∧ execution = ⟨handling, handling.stage⟩ := by
  have outside := List.getElem?_eq_none_iff.mp absent
  have inside := (List.getElem?_eq_some_iff.mp stored).1
  cases step_move repr taken with
  | passed now later new =>
      rw [new, absent] at stored
      cases stored
  | handled command req handling handler executions calls now =>
      rw [executions] at inside stored
      rw [List.length_append, List.length_singleton] at inside
      have place : id = server.executions.length := by omega
      rw [place, List.getElem?_concat_length, Option.some.injEq] at stored
      exact ⟨place, command, req, handling, rfl, handler, stored.symm⟩
  | advanced other _ found stage there move executions calls now =>
      rw [executions, List.length_set] at inside
      omega

def clockStep (now : Time) : Event → Time
  | .passed later => later
  | _ => now

def moment (id : Nat) (now : Time) : Event → Option (Time × Op PyValue)
  | .awaited other op => if other = id then some (now, op) else none
  | _ => none

def storyOf (id : Nat) : Time → List Event → Story PyValue
  | _, [] => []
  | now, event :: rest => (moment id now event).toList ++ storyOf id (clockStep now event) rest

theorem story_snoc (id : Nat) (now : Time) (events : List Event) (event : Event) :
    storyOf id now (events ++ [event]) =
      storyOf id now events ++ (moment id (events.foldl clockStep now) event).toList := by
  induction events generalizing now with
  | nil => simp [storyOf]
  | cons first rest induction =>
      rw [List.cons_append, storyOf, storyOf, induction, List.foldl_cons, List.append_assoc]

theorem moment_other {id : Nat} {event : Event} (other : event.about ≠ some id) (now : Time) :
    moment id now event = none := by
  cases event with
  | awaited actual op =>
      have different : actual ≠ id := fun same => other (congrArg some same)
      exact if_neg different
  | _ => rfl

theorem story_nil {id : Nat} {events : List Event}
    (foreign : ∀ event ∈ events, event.about ≠ some id) (now : Time) :
    storyOf id now events = [] := by
  induction events generalizing now with
  | nil => rfl
  | cons event rest induction =>
      rw [storyOf, moment_other (foreign event List.mem_cons_self) now,
        induction fun later member => foreign later (List.mem_cons_of_mem _ member)]
      rfl

theorem story_mem {id : Nat} {op : Op PyValue} {events : List Event} {now : Time} :
    (∃ time, (time, op) ∈ storyOf id now events) ↔ .awaited id op ∈ events := by
  induction events generalizing now with
  | nil => simp [storyOf]
  | cons event rest induction =>
      simp only [storyOf, List.mem_append, exists_or, induction, List.mem_cons]
      apply or_congr_left
      cases event with
      | awaited other actual =>
          by_cases same : other = id
          · simp [moment, same, eq_comm]
          · simp [moment, same, Ne.symm same]
      | _ => simp [moment]

theorem clock_run {timeout start : Time} {events : List Event} {server : Server}
    (reached : run (Server.step repr timeout) (.start start) events = some server) :
    server.now = events.foldl clockStep start := by
  refine @run_history _ _ (Server.step repr timeout)
    (fun events server => server.now = events.foldl clockStep start) _ rfl ?_ _ _ reached
  intro before state event next _ agrees taken
  rw [List.foldl_append, ← agrees]
  cases step_move repr taken with
  | passed now later new =>
      rw [new]
      rfl
  | handled command req handling handler executions calls now => exact now
  | advanced id _ execution stage stored move executions calls now =>
      rw [now, List.foldl_cons, List.foldl_nil]
      unfold clockStep
      split
      · exact absurd (advance_about move) (by simp [Event.about])
      · rfl

/-- What the thread of a handler call has learnt of its call of the app: how the
method ended, that the coroutine could not be submitted, or what its story says. -/
inductive Learnt (timeout start : Time) (events : List Event) (id : Nat) :
    Handling → Except Thrown PyValue → Prop where
  | returned (call : AppCall) (finish : Except Thrown PyValue → Message)
      (result : Except Thrown PyValue) (happened : .returned id result ∈ events) :
      Learnt timeout start events id (.calls call finish) result
  | refused (call : AppCall) (finish : Except Thrown PyValue → Message) (thrown : Thrown)
      (happened : .submitted id (.error thrown) ∈ events) :
      Learnt timeout start events id (.awaits call finish) (.error thrown)
  | learns (call : AppCall) (finish : Except Thrown PyValue → Message)
      (result : Except Thrown PyValue) (learns : Learns timeout slack (storyOf id start events) result) :
      Learnt timeout start events id (.awaits call finish) result

def Explained (timeout start : Time) (events : List Event) (id : Nat) (execution : Execution) :
    Prop :=
  match execution.handling, execution.stage with
  | .answers fixed, .replied response => response = fixed
  | .calls _ _, .inside => ∀ result, .returned id result ∉ events
  | .calls _ finish, .replied response =>
      ∃ result, (∀ other, .returned id other ∈ events ↔ other = result) ∧ response = finish result
  | .awaits _ _, .inside =>
      storyOf id start events = [] ∧ ∀ thrown, .submitted id (.error thrown) ∉ events
  | .awaits _ finish, .replied response =>
      storyOf id start events = [] ∧ ∃ thrown,
        (∀ other, .submitted id (.error other) ∈ events ↔ other = thrown) ∧
          response = finish (.error thrown)
  | .awaits _ _, .awaiting timed =>
      (∀ thrown, .submitted id (.error thrown) ∉ events) ∧
        ∃ submitted, run (Call.stepAt timeout slack) (Call.submit submitted)
          (storyOf id start events) = some timed
  | _, _ => False

theorem explained_new {timeout start : Time} {events : List Event} {id : Nat}
    (foreign : ∀ event ∈ events, event.about ≠ some id) (handling : Handling) :
    Explained timeout start events id ⟨handling, handling.stage⟩ := by
  cases handling with
  | answers response => exact rfl
  | calls call finish => exact fun result member => foreign _ member rfl
  | awaits call finish =>
      exact ⟨story_nil foreign start, fun thrown member => foreign _ member rfl⟩

theorem mem_snoc_other {events : List Event} {event member : Event} {id : Nat}
    (own : member.about = some id) (other : event.about ≠ some id) :
    member ∈ events ++ [event] ↔ member ∈ events := by
  have different : member ≠ event := by
    rintro rfl
    exact other own
  simp [different]

theorem explained_more {timeout start : Time} {events : List Event} {id : Nat}
    {execution : Execution} (explained : Explained timeout start events id execution)
    {event : Event} (other : event.about ≠ some id) :
    Explained timeout start (events ++ [event]) id execution := by
  have story : storyOf id start (events ++ [event]) = storyOf id start events := by
    rw [story_snoc, moment_other other]
    exact List.append_nil _
  have returns : ∀ result, .returned id result ∈ events ++ [event] ↔ .returned id result ∈ events :=
    fun result => mem_snoc_other rfl other
  have refusals : ∀ thrown, .submitted id (.error thrown) ∈ events ++ [event] ↔
      .submitted id (.error thrown) ∈ events := fun thrown => mem_snoc_other rfl other
  unfold Explained at explained ⊢
  simp only [story, returns, refusals]
  exact explained

theorem explained_move {timeout start : Time} {events : List Event} {event : Event} {id : Nat}
    {execution : Execution} {stage : Stage}
    (explained : Explained timeout start events id execution)
    (move : Advance timeout (events.foldl clockStep start) id execution.handling event
      execution.stage stage) :
    Explained timeout start (events ++ [event]) id { execution with stage := stage } := by
  obtain ⟨handling, before⟩ := execution
  dsimp only at move
  cases move with
  | returned call finish direct result =>
      subst direct
      have none_yet : ∀ other, .returned id other ∉ events := explained
      exact ⟨result, by simp [none_yet], rfl⟩
  | submitted call finish waits =>
      subst waits
      obtain ⟨story, unrefused⟩ := explained
      refine ⟨by simp [unrefused], events.foldl clockStep start, ?_⟩
      rw [story_snoc, story]
      rfl
  | refused call finish waits thrown =>
      subst waits
      obtain ⟨story, unrefused⟩ := explained
      refine ⟨?_, thrown, by simp [unrefused], rfl⟩
      rw [story_snoc, story]
      rfl
  | moved call finish waits op timed moved taken =>
      subst waits
      obtain ⟨unrefused, submitted, ran⟩ := explained
      refine ⟨by simp [unrefused], submitted, ?_⟩
      have now : moment id (events.foldl clockStep start) (.awaited id op) =
          some (events.foldl clockStep start, op) := if_pos rfl
      rw [story_snoc, now, Option.toList_some, run_snoc (Call.stepAt timeout slack) ran]
      exact taken

def Tells (timeout start : Time) (events : List Event) (id : Nat) (handling : Handling)
    (response : Message) : Prop :=
  match handling with
  | .answers fixed => response = fixed
  | .calls _ finish => ∃ result,
      (∀ other, Learnt timeout start events id handling other ↔ other = result) ∧
        response = finish result
  | .awaits _ finish => ∃ result,
      (∀ other, Learnt timeout start events id handling other ↔ other = result) ∧
        response = finish result

theorem answer_iff {timed : Call PyValue} {result : Except Thrown PyValue} :
    timed.answer = some result ↔ timed.caller = .answered result := by
  unfold Call.answer
  split
  · rename_i given known
    simp [known]
  · rename_i silent
    exact iff_of_false (by simp) (silent result)

theorem learnt_calls_iff {timeout start : Time} {events : List Event} {id : Nat} {call : AppCall}
    {finish : Except Thrown PyValue → Message} {result : Except Thrown PyValue} :
    Learnt timeout start events id (.calls call finish) result ↔ .returned id result ∈ events := by
  constructor
  · rintro ⟨_, _, _, happened⟩
    exact happened
  · exact fun happened => .returned call finish result happened

theorem learnt_awaits_iff {timeout start : Time} {events : List Event} {id : Nat} {call : AppCall}
    {finish : Except Thrown PyValue → Message} {result : Except Thrown PyValue} :
    Learnt timeout start events id (.awaits call finish) result ↔
      (∃ thrown, result = .error thrown ∧ .submitted id (.error thrown) ∈ events) ∨
        Learns timeout slack (storyOf id start events) result := by
  constructor
  · rintro (_ | ⟨_, _, thrown, happened⟩ | ⟨_, _, _, learns⟩)
    · exact .inl ⟨thrown, rfl, happened⟩
    · exact .inr learns
  · rintro (⟨thrown, rfl, happened⟩ | learns)
    · exact .refused call finish thrown happened
    · exact .learns call finish result learns

theorem Explained.tells {timeout start : Time} {events : List Event} {id : Nat}
    {execution : Execution} (explained : Explained timeout start events id execution)
    {response : Message} (replied : execution.reply = some response) :
    Tells timeout start events id execution.handling response := by
  obtain ⟨handling, stage⟩ := execution
  cases handling with
  | answers fixed =>
      cases stage with
      | replied given =>
          cases replied
          exact explained
      | _ => exact explained.elim
  | calls call finish =>
      cases stage with
      | inside => cases replied
      | awaiting timed => exact explained.elim
      | replied given =>
          cases replied
          obtain ⟨result, only, rest⟩ := explained
          exact ⟨result, fun other => learnt_calls_iff.trans (only other), rest⟩
  | awaits call finish =>
      cases stage with
      | inside => cases replied
      | replied given =>
          cases replied
          obtain ⟨story, thrown, only, rest⟩ := explained
          refine ⟨.error thrown, fun other => ?_, rest⟩
          rw [learnt_awaits_iff, story]
          simp [Learns, only]
      | awaiting timed =>
          obtain ⟨unrefused, submitted, ran⟩ := explained
          obtain ⟨result, answered, concluded⟩ := Option.map_eq_some_iff.mp replied
          refine ⟨result, fun other => ?_, concluded.symm⟩
          rw [learnt_awaits_iff, ← (TimedCall.told_run ran).answered, answer_iff.mp answered]
          simp [unrefused, eq_comm]

def statusOf (result : Except Thrown PyValue) : Int :=
  match result with
  | .ok _ => 200
  | .error _ => 400

/-- The response is one of the command, and its status says whether the call of
the app has ended well. -/
structure Concludes (command : Command) (finish : Except Thrown PyValue → Message) : Prop where
  cls : ∀ result, (finish result).cls = .response command
  status : ∀ result, (finish result).value "status" = .int (statusOf result)

theorem concludes_timed (command : Command) (fill : PyValue → Message)
    (filled : ∀ value, (fill value).cls = .response command) :
    Concludes command fun result =>
      concludeTimed (emptyResponse command) (result.map fill) := by
  constructor
  · intro result
    cases result with
    | ok value => exact filled value
    | error thrown => rfl
  · intro result
    cases result with
    | ok value => rfl
    | error thrown => rfl

theorem concludes_plain (command : Command) (fill : PyValue → Message)
    (filled : ∀ value, (fill value).cls = .response command) :
    Concludes command fun result =>
      concludePlain (emptyResponse command) (result.map fill) := by
  constructor
  · intro result
    cases result with
    | ok value => exact filled value
    | error thrown => rfl
  · intro result
    cases result with
    | ok value => rfl
    | error thrown => rfl

def Handling.Serves (command : Command) : Handling → Prop
  | .answers response => response.cls = .response command ∧
      (response.value "status" = .int 200 ∨ response.value "status" = .int 400)
  | .calls _ finish => Concludes command finish
  | .awaits _ finish => Concludes command finish

theorem handler_serves {command : Command} {req : Message} {handling : Handling}
    (handler : handlerOf repr command req = some handling) : handling.Serves command := by
  cases command with
  | config => cases handler
  | start =>
      cases handler
      unfold handleStart
      dsimp only
      split
      · exact concludes_timed .start (fun _ => emptyResponse .start) fun _ => rfl
      · exact concludes_timed .start _ fun _ => rfl
  | stop =>
      cases handler
      unfold handleStop
      dsimp only
      split
      · exact concludes_timed .stop (fun _ => emptyResponse .stop) fun _ => rfl
      · exact concludes_timed .stop _ fun _ => rfl
  | importStrategy =>
      cases handler
      unfold handleImport
      dsimp only
      split
      · exact concludes_timed .importStrategy _ fun _ => rfl
      · exact ⟨rfl, .inr rfl⟩
  | status =>
      cases handler
      unfold handleStatus
      dsimp only
      split
      · exact ⟨rfl, .inl rfl⟩
      · exact concludes_timed .status _ fun _ => rfl
  | history =>
      cases handler
      unfold handleHistory
      dsimp only
      split
      · exact concludes_timed .history (fun _ => emptyResponse .history) fun _ => rfl
      · exact concludes_timed .history _ fun _ => rfl
  | balanceLimit =>
      cases handler
      exact concludes_plain .balanceLimit _ fun _ => rfl
  | balancePaper =>
      cases handler
      exact concludes_plain .balancePaper _ fun _ => rfl

/-- The handler call has been entered for a request of the history. -/
def Requested (events : List Event) (execution : Execution) (command : Command) : Prop :=
  ∃ req, .handled command req ∈ events ∧ handlerOf repr command req = some execution.handling

structure Accounted (timeout start : Time) (events : List Event) (server : Server) : Prop where
  now : server.now = events.foldl clockStep start
  entered : ∀ event ∈ events, ∀ id, event.about = some id → id < server.executions.length
  explained : ∀ id execution, server.executions[id]? = some execution →
    Explained timeout start events id execution ∧
      ∃ command, Requested repr events execution command

theorem executions_length_le {timeout : Time} {server next : Server} {event : Event}
    (taken : server.step repr timeout event = some next) :
    server.executions.length ≤ next.executions.length ∧
      ∀ id, event.about = some id → id < server.executions.length := by
  cases step_move repr taken with
  | passed now later new =>
      rw [new]
      exact ⟨Nat.le_refl _, by simp [Event.about]⟩
  | handled command req handling handler executions calls now =>
      rw [executions, List.length_append]
      exact ⟨Nat.le_add_right _ _, by simp [Event.about]⟩
  | advanced id _ execution stage stored move executions calls now =>
      rw [executions, List.length_set]
      refine ⟨Nat.le_refl _, ?_⟩
      rw [advance_about move]
      rintro other ⟨⟩
      exact (List.getElem?_eq_some_iff.mp stored).1

theorem accounted_snoc {timeout start : Time} {events : List Event} {server next : Server}
    {event : Event} (accounted : Accounted repr timeout start events server)
    (reached : run (Server.step repr timeout) (.start start) events = some server)
    (taken : server.step repr timeout event = some next) :
    Accounted repr timeout start (events ++ [event]) next := by
  obtain ⟨grown, inside⟩ := executions_length_le repr taken
  constructor
  · exact clock_run repr ((run_snoc (Server.step repr timeout) reached).trans taken)
  · intro earlier member id about
    rcases List.mem_append.mp member with old | new
    · exact (accounted.entered earlier old id about).trans_le grown
    · rw [List.mem_singleton.mp new] at about
      exact (inside id about).trans_le grown
  · intro id execution stored
    cases known : server.executions[id]? with
    | none =>
        obtain ⟨_, command, req, handling, rfl, handler, rfl⟩ :=
          new_execution repr known stored taken
        have outside := List.getElem?_eq_none_iff.mp known
        have foreign : ∀ earlier ∈ events, earlier.about ≠ some id := fun earlier member about =>
          absurd (accounted.entered earlier member id about) (Nat.not_lt.mpr outside)
        have entered := @explained_more timeout start events id _ (explained_new foreign handling)
          (.handled command req) (by simp [Event.about])
        exact ⟨entered, command, req, by simp, handler⟩
    | some before =>
        obtain ⟨stage, now_stored, move⟩ := execution_step repr known taken
        rw [now_stored, Option.some.injEq] at stored
        obtain ⟨explained, command, req, happened, handler⟩ := accounted.explained id before known
        rw [← stored]
        refine ⟨?_, command, req, List.mem_append_left _ happened, handler⟩
        rcases move with ⟨other, same⟩ | advance
        · rw [same]
          exact explained_more explained other
        · exact explained_move explained (accounted.now ▸ advance)

theorem accounted_run {timeout start : Time} {events : List Event} {server : Server}
    (reached : run (Server.step repr timeout) (.start start) events = some server) :
    Accounted repr timeout start events server := by
  apply run_history (Server.step repr timeout) ?_ ?_ reached
  · refine ⟨rfl, by simp, ?_⟩
    intro id execution stored
    simp [Server.start] at stored
  · intro before state event next earlier accounted taken
    exact accounted_snoc repr accounted earlier taken

theorem reply_kept {timeout : Time} {server next : Server} {event : Event} {id : Nat}
    {execution : Execution} {response : Message} (stored : server.executions[id]? = some execution)
    (replied : execution.reply = some response)
    (taken : server.step repr timeout event = some next) :
    ∃ later, next.executions[id]? = some later ∧ later.reply = some response := by
  obtain ⟨stage, there, move⟩ := execution_step repr stored taken
  refine ⟨_, there, ?_⟩
  obtain ⟨handling, before⟩ := execution
  dsimp only at move ⊢
  rcases move with ⟨_, same⟩ | advance
  · rw [same]
    exact replied
  cases advance with
  | returned call finish direct result =>
      subst direct
      cases replied
  | submitted call finish waits =>
      subst waits
      cases replied
  | refused call finish waits thrown =>
      subst waits
      cases replied
  | moved call finish waits op timed moved went =>
      subst waits
      obtain ⟨result, answered, concluded⟩ := Option.map_eq_some_iff.mp replied
      have same : moved.answer = timed.answer := by
        rcases Call.answer_step went with kept | silent
        · unfold Call.answer
          rw [kept]
        · exact absurd (answer_iff.mp answered) (silent result)
      change moved.answer.map finish = some response
      rw [same, answered, ← concluded]
      rfl

theorem reply_final {timeout : Time} {server final : Server} {more : List Event} {id : Nat}
    {execution : Execution} {response : Message} (stored : server.executions[id]? = some execution)
    (replied : execution.reply = some response)
    (reached : run (Server.step repr timeout) server more = some final) :
    ∃ later, final.executions[id]? = some later ∧ later.reply = some response := by
  have preserved : ∀ (state : Server) event next,
      (∃ found, state.executions[id]? = some found ∧ found.reply = some response) →
      state.step repr timeout event = some next →
      ∃ later, next.executions[id]? = some later ∧ later.reply = some response := by
    rintro state event next ⟨found, there, answered⟩ taken
    exact reply_kept repr there answered taken
  exact run_invariant (Server.step repr timeout) preserved ⟨execution, stored, replied⟩ reached

/-- The response is what the handler makes of the one thing it has learnt, and
its status says whether that was a result. -/
def TellsEnd (timeout start : Time) (events : List Event) (id : Nat) (handling : Handling)
    (response : Message) : Prop :=
  match handling with
  | .answers fixed => response = fixed
  | .calls _ finish => ∃ result,
      (∀ other, Learnt timeout start events id handling other ↔ other = result) ∧
        response = finish result ∧ response.value "status" = .int (statusOf result)
  | .awaits _ finish => ∃ result,
      (∀ other, Learnt timeout start events id handling other ↔ other = result) ∧
        response = finish result ∧ response.value "status" = .int (statusOf result)

theorem Tells.end {timeout start : Time} {events : List Event} {id : Nat} {command : Command}
    {handling : Handling} {response : Message}
    (tells : Tells timeout start events id handling response) (serves : handling.Serves command) :
    response.cls = .response command ∧ TellsEnd timeout start events id handling response := by
  cases handling with
  | answers fixed =>
      have same : response = fixed := tells
      rw [same]
      exact ⟨serves.1, rfl⟩
  | calls call finish =>
      obtain ⟨result, learnt, rfl⟩ := tells
      exact ⟨serves.cls result, result, learnt, rfl, serves.status result⟩
  | awaits call finish =>
      obtain ⟨result, learnt, rfl⟩ := tells
      exact ⟨serves.cls result, result, learnt, rfl, serves.status result⟩

/-- A start command whose coroutine returns after 20 seconds, and a status
command that is answered at once. -/
def startingRun : List Event :=
  [.handled .start ⟨.request .start, fun _ => .bool false⟩,
    .handled .status ⟨.request .status, fun _ => .bool true⟩,
    .submitted 0 (.ok ()), .awaited 0 .waits, .awaited 0 .begun, .passed 20,
    .awaited 0 (.ended (.returned (.str "started"))), .awaited 0 .woke]

end RemoteIface.Gateway.CommandHandlers
