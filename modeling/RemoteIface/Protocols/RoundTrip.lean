import RemoteIface.Commlib.Serialization

/-!
The message classes with the declared types and the defaults of their fields,
and a message that is serialized and deserialized again. One declared type has
no JSON form: `params` of `ConfigCommandMessage.Request` is a list of tuples.
-/

namespace RemoteIface.Protocols.RoundTrip

set_option autoImplicit false

open RemoteIface.Library
open RemoteIface.Library.InsertionOrder
open RemoteIface.Commlib.Payload
open RemoteIface.Commlib.Dispatch
open RemoteIface.Commlib.Serialization
open RemoteIface.Protocols.Messages

/-- `pair` is `tuple[first, second]`, and the keys of a `dict` are strings. -/
inductive FieldType where
  | int
  | float
  | str
  | bool
  | any
  | optional (type : FieldType)
  | list (item : FieldType)
  | dict (value : FieldType)
  | pair (first second : FieldType)
deriving DecidableEq

/-- The values of a type. An integer is a value of `float` too, and a bool of
both. -/
def FieldType.Holds : FieldType → PyValue → Prop
  | int, .bool _ => True
  | int, .int _ => True
  | float, .bool _ => True
  | float, .int _ => True
  | float, .float _ => True
  | float, .decoderNaN => True
  | str, .str _ => True
  | bool, .bool _ => True
  | any, value => value.UniqueKeys ∧ value.isJson = true
  | optional type, value => value = .none ∨ type.Holds value
  | list item, .list items => ∀ value ∈ items, item.Holds value
  | dict type, .dict entries =>
      (entries.map Prod.fst).Nodup ∧ ∀ entry ∈ entries, type.Holds entry.2
  | pair first second, .tuple [one, two] => first.Holds one ∧ second.Holds two
  | _, _ => False

structure Field where
  name : String
  declared : FieldType
  default : PyValue

inductive MessageClass where
  | notify
  | statusUpdate
  | internalEvent
  | log
  | externalEvent
  | request (command : Command)
  | response (command : Command)
deriving DecidableEq

namespace MessageClass

def dataclass : MessageClass → Dataclass
  | notify => notifyMessage
  | statusUpdate => statusUpdateMessage
  | internalEvent => internalEventMessage
  | log => logMessage
  | externalEvent => externalEventMessage
  | request command => command.request
  | response command => command.response

/-- A field with `None` as its default. -/
def orNone (name : String) (type : FieldType) : Field := ⟨name, .optional type, .none⟩

def text (name : String) : Field := ⟨name, .str, .str ""⟩

def flag (name : String) : Field := ⟨name, .bool, .bool false⟩

/-- The bits of `0.0` are all zero. -/
def real (name : String) : Field := ⟨name, .float, .float 0⟩

def status : Field := ⟨"status", .int, .int 0⟩

def requestFields : Command → List Field
  | .start => [orNone "log_level" .str, orNone "script" .str, orNone "conf" .str,
      flag "is_quickstart", flag "async_backend"]
  | .stop => [flag "skip_order_cancellation", flag "async_backend"]
  | .config => [⟨"params", .list (.pair .str .any), .list []⟩]
  | .importStrategy => [text "strategy"]
  | .status => [flag "async_backend"]
  | .history => [real "days", flag "verbose", ⟨"precision", .int, .int 8⟩, flag "async_backend"]
  | .balanceLimit => [text "exchange", text "asset", real "amount"]
  | .balancePaper => [text "asset", real "amount"]

def responseFields : Command → List Field
  | .start => [status, text "msg"]
  | .stop => [status, text "msg"]
  | .config => [⟨"changes", .list .any, .list []⟩, ⟨"config", .dict .any, .dict []⟩, status,
      text "msg"]
  | .importStrategy => [status, text "msg"]
  | .status => [status, text "msg", ⟨"data", .any, .none⟩]
  | .history => [status, text "msg", ⟨"trades", .list .any, .list []⟩]
  | .balanceLimit => [status, text "msg", text "data"]
  | .balancePaper => [status, text "msg", text "data"]

def fields : MessageClass → List Field
  | notify => [orNone "seq" .int, orNone "timestamp" .int, orNone "msg" .str]
  | statusUpdate => [orNone "timestamp" .int, orNone "type" .str, orNone "msg" .str]
  | internalEvent => [orNone "timestamp" .int, orNone "type" .str, orNone "data" (.dict .any)]
  | log => [real "timestamp", text "msg", ⟨"level_no", .int, .int 0⟩, text "level_name",
      text "logger_name"]
  | externalEvent => [orNone "timestamp" .int, orNone "sequence" .int, orNone "type" .str,
      orNone "data" (.dict .any)]
  | request command => requestFields command
  | response command => responseFields command

theorem field_names (cls : MessageClass) : cls.fields.map Field.name = cls.dataclass.fields := by
  cases cls with
  | request command => cases command <;> rfl
  | response command => cases command <;> rfl
  | _ => rfl

theorem field_names_nodup (cls : MessageClass) : (cls.fields.map Field.name).Nodup := by
  cases cls with
  | request command => cases command <;> decide
  | response command => cases command <;> decide
  | _ => decide

end MessageClass

/-- An instance. Its `value` is asked for the fields of its class only. -/
structure Message where
  cls : MessageClass
  value : String → PyValue

def MessageClass.default (cls : MessageClass) (name : String) : PyValue :=
  (lookupEntry name (cls.fields.map fun field => (field.name, field.default))).getD .none

/-- What `__init__` makes of the keyword arguments. -/
def MessageClass.init (cls : MessageClass) (kwargs : List (String × Json)) : Message where
  cls := cls
  value name :=
    match lookupEntry name kwargs with
    | some value => PyValue.ofJson value
    | none => cls.default name

/-- `cls(**kwargs)` -/
def MessageClass.construct (cls : MessageClass) (kwargs : List (String × Json)) :
    Except PyException Message :=
  (cls.dataclass.construct kwargs).map fun made => cls.init made.given

def MessageClass.msgType (cls : MessageClass) : MsgType Message := .plain cls.construct

namespace Message

def attributes (message : Message) : List (String × PyValue) :=
  message.cls.fields.map fun field => (field.name, message.value field.name)

def sendable (message : Message) : Sendable := .dataclass message.attributes

/-- `__eq__` of a dataclass: the same class, and equal tuples of the fields. -/
def same (one two : Message) : Bool :=
  one.cls = two.cls &&
    one.cls.fields.all fun field => (one.value field.name).same (two.value field.name)

/-- The fields hold values of their declared types. -/
def Typed (message : Message) : Prop :=
  ∀ field ∈ message.cls.fields, field.declared.Holds (message.value field.name)

/-- Every `dict` in the fields has its keys once, as Python's have. -/
def UniqueKeys (message : Message) : Prop :=
  (PyValue.dict message.attributes).UniqueKeys

/-- No tuple is anywhere in the fields, and no NaN but the one of the decoder. -/
def Carried (message : Message) : Prop :=
  ∀ field ∈ message.cls.fields, (message.value field.name).carried = true

/-- No tuple is among the fields, and no float that is a NaN. -/
structure Survives (message : Message) : Prop where
  params : message.cls = .request .config → message.value "params" = .list []
  numbers : ∀ field ∈ message.cls.fields, ∀ bits,
    message.value field.name = .float bits → Binary64.isNaN bits = false

end Message

namespace FieldType

theorem holds_list {item : FieldType} {value : PyValue} (holds : (list item).Holds value) :
    ∃ items, value = .list items ∧ ∀ value ∈ items, item.Holds value := by
  cases value with
  | list items => exact ⟨items, rfl, holds⟩
  | _ => exact holds.elim

theorem holds_dict {type : FieldType} {value : PyValue} (holds : (dict type).Holds value) :
    ∃ entries, value = .dict entries ∧ (entries.map Prod.fst).Nodup ∧
      ∀ entry ∈ entries, type.Holds entry.2 := by
  cases value with
  | dict entries => exact ⟨entries, rfl, holds⟩
  | _ => exact holds.elim

theorem holds_pair {first second : FieldType} {value : PyValue}
    (holds : (pair first second).Holds value) :
    ∃ one two, value = .tuple [one, two] ∧ first.Holds one ∧ second.Holds two := by
  cases value with
  | tuple items =>
      match items, holds with
      | [one, two], holds => exact ⟨one, two, rfl, holds⟩
  | _ => exact holds.elim

theorem holds_unique_keys {type : FieldType} {value : PyValue} (holds : type.Holds value) :
    value.UniqueKeys := by
  induction type generalizing value with
  | any => exact holds.1
  | optional type induction =>
      obtain rfl | some := holds
      · trivial
      · exact induction some
  | list item induction =>
      obtain ⟨items, rfl, each⟩ := holds_list holds
      exact (PyValue.unique_keys_items_iff items).mpr
        fun value member => induction (each value member)
  | dict type induction =>
      obtain ⟨entries, rfl, keys, each⟩ := holds_dict holds
      exact ⟨keys, (PyValue.unique_keys_entries_iff entries).mpr
        fun entry member => induction (each entry member)⟩
  | pair first second inductionFirst inductionSecond =>
      obtain ⟨one, two, rfl, holdsOne, holdsTwo⟩ := holds_pair holds
      exact ⟨inductionFirst holdsOne, inductionSecond holdsTwo, trivial⟩
  | _ => cases value <;> trivial

/-- A type all of whose values JSON carries. -/
def plain : FieldType → Bool
  | float => false
  | pair _ _ => false
  | optional type => type.plain
  | list item => item.plain
  | dict type => type.plain
  | _ => true

theorem plain_carried {type : FieldType} {value : PyValue} (plain : type.plain = true)
    (holds : type.Holds value) : value.carried = true := by
  induction type generalizing value with
  | any => exact PyValue.carried_of_json value holds.2
  | optional type induction =>
      obtain rfl | some := holds
      · rfl
      · exact induction plain some
  | list item induction =>
      obtain ⟨items, rfl, each⟩ := holds_list holds
      exact (PyValue.carried_items_iff items).mpr
        fun value member => induction plain (each value member)
  | dict type induction =>
      obtain ⟨entries, rfl, _, each⟩ := holds_dict holds
      exact (PyValue.carried_entries_iff entries).mpr
        fun entry member => induction plain (each entry member)
  | float => cases plain
  | pair first second => cases plain
  | _ => cases value <;> first | rfl | exact holds.elim

end FieldType

theorem MessageClass.declared_cases (cls : MessageClass) : ∀ field ∈ cls.fields,
    field.declared.plain = true ∨ field.declared = .float ∨
      cls = .request .config ∧ field.name = "params" ∧
        field.declared = .list (.pair .str .any) := by
  cases cls with
  | request command => cases command <;> decide
  | response command => cases command <;> decide
  | _ => decide

theorem MessageClass.defaults_typed (cls : MessageClass) : (cls.init []).Typed := by
  have each : ∀ field ∈ cls.fields, field.declared.Holds field.default := by
    cases cls with
    | request command =>
        cases command <;> simp [fields, requestFields, orNone, text, flag, real, FieldType.Holds]
    | response command =>
        cases command <;> simp [fields, responseFields, text, status, FieldType.Holds,
          PyValue.UniqueKeys, PyValue.isJson]
    | _ => simp [fields, orNone, text, real, FieldType.Holds]
  intro field member
  have unique : ((cls.fields.map fun field => (field.name, field.default)).map Prod.fst).Nodup := by
    rw [List.map_map]
    exact cls.field_names_nodup
  have stored : (field.name, field.default) ∈
      cls.fields.map fun field => (field.name, field.default) :=
    List.mem_map.mpr ⟨field, member, rfl⟩
  change field.declared.Holds (cls.default field.name)
  rw [default, OrderedDict.lookup_of_mem unique stored]
  exact each field member

variable {Bytes : Type} {json : JsonModule Bytes}

namespace Message

theorem attributes_keys (message : Message) :
    message.attributes.map Prod.fst = message.cls.dataclass.fields := by
  rw [← message.cls.field_names]
  unfold attributes
  rw [List.map_map]
  rfl

/-- The message that the entries of the decoded object make. -/
def restored (message : Message) : Message :=
  message.cls.init (PyValue.toJsonEntries message.attributes)

theorem restored_value (message : Message) {field : Field} (member : field ∈ message.cls.fields) :
    message.restored.value field.name = (message.value field.name).restored := by
  have unique : (message.attributes.map Prod.fst).Nodup := by
    rw [attributes_keys, ← message.cls.field_names]
    exact message.cls.field_names_nodup
  have stored : (field.name, message.value field.name) ∈ message.attributes :=
    List.mem_map.mpr ⟨field, member, rfl⟩
  unfold restored MessageClass.init
  simp only [PyValue.lookup_to_json, OrderedDict.lookup_of_mem unique stored, Option.map_some,
    PyValue.restored]

theorem value_unique_keys {message : Message} (unique : message.UniqueKeys) {field : Field}
    (member : field ∈ message.cls.fields) : (message.value field.name).UniqueKeys :=
  (PyValue.unique_keys_entries_iff _).mp unique.2 (field.name, message.value field.name)
    (List.mem_map.mpr ⟨field, member, rfl⟩)

theorem typed_unique_keys {message : Message} (typed : message.Typed) : message.UniqueKeys := by
  refine ⟨?_, (PyValue.unique_keys_entries_iff _).mpr ?_⟩
  · rw [attributes_keys, ← message.cls.field_names]
    exact message.cls.field_names_nodup
  · intro entry member
    obtain ⟨field, declared, rfl⟩ := List.mem_map.mp member
    exact FieldType.holds_unique_keys (typed field declared)

theorem deserialize_serialize (inverts : json.Inverts) {message : Message}
    (typed : message.Typed) :
    deserialize json (serialize json message.sendable) (some message.cls.msgType) =
      .ok (.typed message.restored) := by
  have read := inverts _ (PyValue.to_json_written _ (typed_unique_keys typed))
  have known : ((PyValue.toJsonEntries message.attributes).all fun entry =>
      message.cls.dataclass.fields.contains entry.1) = true := by
    rw [List.all_eq_true]
    intro entry member
    have key := List.mem_map_of_mem (f := Prod.fst) member
    rw [PyValue.to_json_keys, attributes_keys] at key
    simpa using key
  have constructed : message.cls.construct (PyValue.toJsonEntries message.attributes) =
      .ok message.restored := by
    unfold MessageClass.construct Dataclass.construct
    rw [if_pos known]
    rfl
  unfold deserialize serialize
  change (json.loads (json.dumps (PyValue.dict message.attributes).toJson)).bind _ = _
  rw [read]
  change (message.cls.construct (PyValue.toJsonEntries message.attributes)).map Delivered.typed = _
  rw [constructed]
  rfl

theorem same_restored (message : Message) (unique : message.UniqueKeys) :
    message.restored.same message = true ↔ message.Carried := by
  have sameClass : message.restored.cls = message.cls := rfl
  simp only [same, sameClass, decide_true, Bool.true_and, List.all_eq_true]
  constructor
  all_goals
    intro each field member
    have equal := PyValue.same_restored _ (value_unique_keys unique member)
    have here := each field member
  · rwa [restored_value message member, equal] at here
  · rwa [restored_value message member, equal]

theorem carried_iff_survives {message : Message} (typed : message.Typed) :
    message.Carried ↔ message.Survives := by
  constructor
  · intro carried
    refine ⟨fun config => ?_, fun field member bits float => ?_⟩
    · have member : (⟨"params", .list (.pair .str .any), .list []⟩ : Field) ∈
          message.cls.fields := by
        rw [config]
        exact List.mem_singleton.mpr rfl
      obtain ⟨items, same, pairs⟩ := FieldType.holds_list (typed _ member)
      have kept := carried _ member
      rw [same] at kept
      cases items with
      | nil => exact same
      | cons item rest =>
          obtain ⟨one, two, rfl, _⟩ := FieldType.holds_pair (pairs item List.mem_cons_self)
          cases kept
    · have kept := carried field member
      rw [float] at kept
      simpa only [PyValue.carried, Bool.not_eq_true'] using kept
  · intro survives field member
    have holds := typed field member
    obtain plain | float | ⟨config, name, _⟩ := message.cls.declared_cases field member
    · exact FieldType.plain_carried plain holds
    · rw [float] at holds
      cases value : message.value field.name with
      | float bits =>
          have number := survives.numbers field member bits value
          simp only [PyValue.carried, number, Bool.not_false]
      | bool truth => rfl
      | int whole => rfl
      | decoderNaN => rfl
      | _ =>
          rw [value] at holds
          exact holds.elim
    · rw [name, survives.params config]
      rfl

end Message

/-- A message comes back equal unless it has `params`, or a NaN of its own. -/
theorem message_survives_iff (inverts : json.Inverts) (message : Message)
    (typed : message.Typed) :
    (∃ restored, deserialize json (serialize json message.sendable)
      (some message.cls.msgType) = .ok (.typed restored) ∧ restored.same message = true) ↔
      message.Survives := by
  rw [← Message.carried_iff_survives typed,
    ← Message.same_restored message (Message.typed_unique_keys typed)]
  constructor
  · rintro ⟨restored, read, equal⟩
    rw [Message.deserialize_serialize inverts typed] at read
    cases read
    exact equal
  · intro equal
    exact ⟨message.restored, Message.deserialize_serialize inverts typed, equal⟩

/-- A module whose texts are the values themselves. -/
def exactJson : JsonModule Json := ⟨id, .ok⟩

theorem exact_json_inverts : exactJson.Inverts := fun _ _ => rfl

/-- `NotifyMessage(seq=42, timestamp=1000, msg="test")` -/
def notification : Message where
  cls := .notify
  value
    | "seq" => .int 42
    | "timestamp" => .int 1000
    | "msg" => .str "test"
    | _ => .none

theorem notification_survives :
    ∃ restored, deserialize exactJson (serialize exactJson notification.sendable)
      (some notification.cls.msgType) = .ok (.typed restored) ∧
        restored.same notification = true := by
  refine (message_survives_iff exact_json_inverts notification ?_).mpr ?_
  · intro field member
    simp only [notification, MessageClass.fields, MessageClass.orNone, List.mem_cons,
      List.not_mem_nil, or_false] at member
    obtain rfl | rfl | rfl := member <;> exact .inr trivial
  · refine ⟨nofun, fun field member bits float => ?_⟩
    simp only [notification, MessageClass.fields, MessageClass.orNone, List.mem_cons,
      List.not_mem_nil, or_false] at member
    obtain rfl | rfl | rfl := member <;> cases float

/-- `ConfigCommandMessage.Request(params=[("log_level", "DEBUG")])` -/
def configRequest : Message where
  cls := .request .config
  value _ := .list [.tuple [.str "log_level", .str "DEBUG"]]

theorem params_read_back_as_lists :
    configRequest.Typed ∧
      ¬ ∃ restored, deserialize exactJson (serialize exactJson configRequest.sendable)
        (some configRequest.cls.msgType) = .ok (.typed restored) ∧
          restored.same configRequest = true := by
  constructor
  · intro field member
    obtain rfl := List.mem_singleton.mp member
    intro value inside
    obtain rfl := List.mem_singleton.mp inside
    exact ⟨trivial, trivial, rfl⟩
  · rintro ⟨restored, read, equal⟩
    injection read with read
    injection read with read
    rw [← read] at equal
    exact absurd equal (by decide)

end RemoteIface.Protocols.RoundTrip
