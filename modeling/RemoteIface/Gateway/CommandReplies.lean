import RemoteIface.Gateway.CommandHandlers
import RemoteIface.Protocols.Envelope

/-!
What the command handlers answer, read by the peer. The coroutines of the app
are declared to return strings, and one a list; the handlers allow `None` as
well. Then every response holds what its class declares, and JSON carries it.
-/

namespace RemoteIface.Gateway.CommandReplies

set_option autoImplicit false

open RemoteIface.Library
open RemoteIface.Library.Runs
open RemoteIface.Library.TimedCall (Time Thrown Ending)
open RemoteIface.Commlib.Payload
open RemoteIface.Commlib.Rpc
open RemoteIface.Commlib.Dispatch (Delivered)
open RemoteIface.Commlib.Serialization
open RemoteIface.Protocols.Messages
open RemoteIface.Protocols.RoundTrip
open RemoteIface.Protocols.Envelope
open RemoteIface.Gateway.CommandHandlers

variable {repr : PyValue → String}

/-- What a coroutine of the app returns, or `None`. -/
def resultType : AppCall → FieldType
  | .getHistoryTradesJson _ => .optional (.list .any)
  | _ => .optional .str

/-- The coroutines that have been awaited returned values of these types. -/
def ReturnsDeclared (events : List Event) (server : Server) : Prop :=
  ∀ id execution call finish value, server.executions[id]? = some execution →
    execution.handling = .awaits call finish →
    .awaited id (.ended (.returned value)) ∈ events → (resultType call).Holds value

theorem typed_assign {message : Message} (typed : message.Typed) {name : String} {value : PyValue}
    (holds : ∀ field ∈ message.cls.fields, field.name = name → field.declared.Holds value) :
    (assign message name value).Typed := by
  intro field member
  change field.declared.Holds (if field.name = name then value else message.value field.name)
  split
  · rename_i same
    exact holds field member same
  · exact typed field member

theorem response_declares (command : Command) :
    ∀ field ∈ (MessageClass.response command).fields,
      (field.name = "status" → field.declared = .int) ∧
        (field.name = "msg" → field.declared = .str) ∧
        (field.name = "trades" → field.declared = .list .any) ∧
        (field.name = "data" → command ≠ .status → field.declared = .str) := by
  cases command <;> decide

def Responds (command : Command) (response : Message) : Prop :=
  response.cls = .response command ∧ response.Typed

theorem responds_empty (command : Command) : Responds command (emptyResponse command) :=
  ⟨rfl, MessageClass.defaults_typed (.response command)⟩

theorem responds_assign {command : Command} {response : Message}
    (responds : Responds command response) {name : String} {value : PyValue} {type : FieldType}
    (declared : ∀ field ∈ (MessageClass.response command).fields,
      field.name = name → field.declared = type)
    (holds : type.Holds value) : Responds command (assign response name value) := by
  refine ⟨responds.1, typed_assign responds.2 ?_⟩
  intro field member same
  rw [responds.1] at member
  rw [declared field member same]
  exact holds

theorem responds_succeed {command : Command} {response : Message}
    (responds : Responds command response) : Responds command (succeed response) :=
  responds_assign responds (fun field member => (response_declares command field member).1) trivial

theorem responds_fail {command : Command} {response : Message}
    (responds : Responds command response) (msg : String) :
    Responds command (fail response msg) := by
  have status : Responds command (assign response "status" (.int 400)) :=
    responds_assign responds (fun field member => (response_declares command field member).1)
      trivial
  exact responds_assign status (fun field member => (response_declares command field member).2.1)
    trivial

theorem text_or_empty {value : PyValue} (holds : (FieldType.optional .str).Holds value) :
    FieldType.str.Holds (orElse value (.str "")) := by
  rcases holds with rfl | text
  · trivial
  · unfold orElse
    split
    · exact text
    · trivial

theorem list_or_empty {value : PyValue} (holds : (FieldType.optional (.list .any)).Holds value) :
    (FieldType.list .any).Holds (orElse value (.list [])) := by
  have empty : (FieldType.list .any).Holds (.list []) := by
    intro item member
    cases member
  rcases holds with rfl | items
  · exact empty
  · unfold orElse
    split
    · exact items
    · exact empty

theorem responds_msg {command : Command} {value : PyValue}
    (holds : (FieldType.optional .str).Holds value) :
    Responds command (assign (emptyResponse command) "msg" (orElse value (.str ""))) :=
  responds_assign (responds_empty command)
    (fun field member => (response_declares command field member).2.1) (text_or_empty holds)

theorem responds_data {command : Command} (texts : command ≠ .status) (data : PyValue) :
    Responds command (assign (emptyResponse command) "data" (dataText repr data)) := by
  have holds : FieldType.str.Holds (dataText repr data) := by
    unfold dataText
    split <;> trivial
  exact responds_assign (responds_empty command)
    (fun field member same => (response_declares command field member).2.2.2 same texts) holds

def Concludes (command : Command) (type : Option FieldType)
    (finish : Except Thrown PyValue → Message) : Prop :=
  ∀ result : Except Thrown PyValue,
    (∀ declared value, type = some declared → result = .ok value → declared.Holds value) →
      Responds command (finish result)

theorem concludes_timed {command : Command} {type : Option FieldType} {fill : PyValue → Message}
    (filled : ∀ value, (∀ declared, type = some declared → declared.Holds value) →
      Responds command (fill value)) :
    Concludes command type fun result =>
      concludeTimed (emptyResponse command) (result.map fill) := by
  intro result holds
  cases result with
  | ok value => exact responds_succeed (filled value fun declared same => holds declared value same rfl)
  | error thrown => exact responds_fail (responds_empty command) _

theorem concludes_plain {command : Command} {type : Option FieldType} {fill : PyValue → Message}
    (filled : ∀ value, Responds command (fill value)) :
    Concludes command type fun result =>
      concludePlain (emptyResponse command) (result.map fill) := by
  intro result holds
  cases result with
  | ok value => exact responds_succeed (filled value)
  | error thrown => exact responds_fail (responds_empty command) _

def TypedHandling (command : Command) : Handling → Prop
  | .answers response => Responds command response
  | .calls _ finish => Concludes command none finish
  | .awaits call finish => Concludes command (some (resultType call)) finish

theorem handler_typed {command : Command} {req : Message} {handling : Handling}
    (handler : handlerOf repr command req = some handling) : TypedHandling command handling := by
  cases command with
  | config => cases handler
  | start =>
      cases handler
      unfold handleStart
      dsimp only
      split
      · exact concludes_timed fun _ _ => responds_empty .start
      · exact concludes_timed fun _ holds => responds_msg (holds _ rfl)
  | stop =>
      cases handler
      unfold handleStop
      dsimp only
      split
      · exact concludes_timed fun _ _ => responds_empty .stop
      · exact concludes_timed fun _ holds => responds_msg (holds _ rfl)
  | importStrategy =>
      cases handler
      unfold handleImport
      dsimp only
      split
      · exact concludes_timed fun _ holds => responds_msg (holds _ rfl)
      · exact responds_fail (responds_empty .importStrategy) _
  | status =>
      cases handler
      unfold handleStatus
      dsimp only
      split
      · exact responds_succeed (responds_empty .status)
      · exact concludes_timed fun _ holds => responds_msg (holds _ rfl)
  | history =>
      cases handler
      unfold handleHistory
      dsimp only
      split
      · exact concludes_timed fun _ _ => responds_empty .history
      · apply concludes_timed
        intro value holds
        exact responds_assign (responds_empty .history)
          (fun field member => (response_declares .history field member).2.2.1)
          (list_or_empty (holds _ rfl))
  | balanceLimit =>
      cases handler
      exact concludes_plain fun data => responds_data (by decide) data
  | balancePaper =>
      cases handler
      exact concludes_plain fun data => responds_data (by decide) data

section Replies

variable {timeout start : Time} {events : List Event} {id : Nat} {execution : Execution}

theorem answer_returned {call : AppCall} {finish : Except Thrown PyValue → Message}
    {timed : TimedCall.Call PyValue} {value : PyValue}
    (explained : Explained timeout start events id ⟨.awaits call finish, .awaiting timed⟩)
    (answered : timed.answer = some (.ok value)) :
    .awaited id (.ended (.returned value)) ∈ events := by
  obtain ⟨_, submitted, ran⟩ := explained
  have learns := ((TimedCall.told_run ran).answered (.ok value)).mp (answer_iff.mp answered)
  exact story_mem.mp learns.value_settled.returned.2

theorem reply_responds {server : Server} {command : Command} {response : Message}
    (declared : ReturnsDeclared events server) (stored : server.executions[id]? = some execution)
    (explained : Explained timeout start events id execution)
    (typed : TypedHandling command execution.handling)
    (replied : execution.reply = some response) : Responds command response := by
  obtain ⟨handling, stage⟩ := execution
  cases handling with
  | answers fixed =>
      cases stage with
      | replied given =>
          cases replied
          exact explained ▸ typed
      | _ => exact explained.elim
  | calls call finish =>
      cases stage with
      | inside => cases replied
      | awaiting timed => exact explained.elim
      | replied given =>
          cases replied
          obtain ⟨result, _, rfl⟩ := explained
          exact typed result (by simp)
  | awaits call finish =>
      cases stage with
      | inside => cases replied
      | replied given =>
          cases replied
          obtain ⟨_, thrown, _, rfl⟩ := explained
          exact typed (.error thrown) (by simp)
      | awaiting timed =>
          obtain ⟨result, answered, rfl⟩ := Option.map_eq_some_iff.mp replied
          apply typed result
          intro type value same known
          cases same
          rw [known] at answered
          exact declared id _ call finish value stored rfl (answer_returned explained answered)

end Replies

theorem response_survives {command : Command} {response : Message}
    (responds : Responds command response) : response.Survives := by
  apply (Message.carried_iff_survives responds.2).mp
  intro field member
  have plain : field.declared.plain = true := by
    have each : ∀ field ∈ (MessageClass.response command).fields,
        field.declared.plain = true := by
      cases command <;> decide
    rw [responds.1] at member
    exact each field member
  exact FieldType.plain_carried plain (responds.2 field member)

variable {Bytes : Type} {json : JsonModule Bytes}

end RemoteIface.Gateway.CommandReplies
