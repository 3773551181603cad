import RemoteIface.Commlib.Payload

/-!
The message dataclasses: what hydrating one from a decoded payload accepts, and
what serializing one sends. Every field has a default, so hydration fails only
on a keyword that is no field.
-/

namespace RemoteIface.Protocols.Messages

set_option autoImplicit false

open RemoteIface.Library.InsertionOrder
open RemoteIface.Commlib.Payload

structure Dataclass where
  name : String
  fields : List String
deriving DecidableEq, Repr

/-- An instance by the keywords it was made with. -/
structure Instance where
  dataclass : Dataclass
  given : List (String × Json)

/-- `cls(**kwargs)` -/
def Dataclass.construct (cls : Dataclass) (kwargs : List (String × Json)) :
    Except PyException Instance :=
  if kwargs.all fun entry => cls.fields.contains entry.1 then .ok ⟨cls, kwargs⟩
  else .error typeError

def Dataclass.msgType (cls : Dataclass) : MsgType Instance := .plain cls.construct

/-- `serialize` of an instance: `dataclasses.asdict`, then `json.dumps`, which
raises on a value without a JSON form. -/
def Dataclass.serialize (cls : Dataclass) (value : String → Option Json) :
    Except PyException Json :=
  match cls.fields.mapM fun field => (value field).map fun json => (field, json) with
  | some entries => .ok (.obj entries)
  | none => .error typeError

def notifyMessage : Dataclass := ⟨"NotifyMessage", ["seq", "timestamp", "msg"]⟩

def statusUpdateMessage : Dataclass := ⟨"StatusUpdateMessage", ["timestamp", "type", "msg"]⟩

def internalEventMessage : Dataclass := ⟨"InternalEventMessage", ["timestamp", "type", "data"]⟩

def logMessage : Dataclass :=
  ⟨"LogMessage", ["timestamp", "msg", "level_no", "level_name", "logger_name"]⟩

def externalEventMessage : Dataclass :=
  ⟨"ExternalEventMessage", ["timestamp", "sequence", "type", "data"]⟩

/-- The RPC command message pairs. -/
inductive Command where
  | start
  | stop
  | config
  | importStrategy
  | status
  | history
  | balanceLimit
  | balancePaper
deriving DecidableEq, Repr

def Command.request : Command → Dataclass
  | start => ⟨"StartCommandMessage.Request",
      ["log_level", "script", "conf", "is_quickstart", "async_backend"]⟩
  | stop => ⟨"StopCommandMessage.Request", ["skip_order_cancellation", "async_backend"]⟩
  | config => ⟨"ConfigCommandMessage.Request", ["params"]⟩
  | importStrategy => ⟨"ImportCommandMessage.Request", ["strategy"]⟩
  | status => ⟨"StatusCommandMessage.Request", ["async_backend"]⟩
  | history => ⟨"HistoryCommandMessage.Request", ["days", "verbose", "precision", "async_backend"]⟩
  | balanceLimit => ⟨"BalanceLimitCommandMessage.Request", ["exchange", "asset", "amount"]⟩
  | balancePaper => ⟨"BalancePaperCommandMessage.Request", ["asset", "amount"]⟩

def Command.response : Command → Dataclass
  | start => ⟨"StartCommandMessage.Response", ["status", "msg"]⟩
  | stop => ⟨"StopCommandMessage.Response", ["status", "msg"]⟩
  | config => ⟨"ConfigCommandMessage.Response", ["changes", "config", "status", "msg"]⟩
  | importStrategy => ⟨"ImportCommandMessage.Response", ["status", "msg"]⟩
  | status => ⟨"StatusCommandMessage.Response", ["status", "msg", "data"]⟩
  | history => ⟨"HistoryCommandMessage.Response", ["status", "msg", "trades"]⟩
  | balanceLimit => ⟨"BalanceLimitCommandMessage.Response", ["status", "msg", "data"]⟩
  | balancePaper => ⟨"BalancePaperCommandMessage.Response", ["status", "msg", "data"]⟩

/-- What the handler of a command returned, field by field. -/
structure Response where
  command : Command
  value : String → Option Json

def Response.serialize (response : Response) : Except PyException Json :=
  response.command.response.serialize response.value

theorem serialize_keys {cls : Dataclass} {value : String → Option Json} {data : Json}
    (sent : cls.serialize value = .ok data) :
    ∃ entries, data = .obj entries ∧ entries.map Prod.fst = cls.fields := by
  unfold Dataclass.serialize at sent
  split at sent <;> cases sent
  rename_i entries collected
  refine ⟨entries, rfl, ?_⟩
  generalize cls.fields = fields at collected
  induction fields generalizing entries with
  | nil =>
      cases collected
      rfl
  | cons field rest induction =>
      simp only [List.mapM_cons, Option.bind_eq_bind, Option.bind_eq_some_iff,
        Option.map_eq_some_iff, Option.pure_def, Option.some.injEq] at collected
      obtain ⟨_, ⟨json, _, rfl⟩, tail, collectedRest, rfl⟩ := collected
      rw [List.map_cons, induction tail collectedRest]

theorem hydrate_error_of_key {cls : Dataclass} {entries : List (String × Json)} {key : String}
    (member : key ∈ entries.map Prod.fst) (unknown : key ∉ cls.fields) :
    cls.msgType.hydrate (.obj entries) = .error typeError := by
  obtain ⟨entry, inside, rfl⟩ := List.mem_map.mp member
  have refused : ¬ (entries.all fun entry => cls.fields.contains entry.1) = true := by
    intro all
    have known := List.all_eq_true.mp all entry inside
    exact unknown (by simpa using known)
  simp only [Dataclass.msgType, MsgType.hydrate, Dataclass.construct, if_neg refused]

theorem response_has_status (command : Command) : "status" ∈ command.response.fields := by
  cases command <;> decide

theorem request_lacks_status (command : Command) : "status" ∉ command.request.fields := by
  cases command <;> decide

end RemoteIface.Protocols.Messages
