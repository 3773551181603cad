import RemoteIface.Commlib.ReplyCorrelation
import RemoteIface.Protocols.RoundTrip

/-!
An RPC from end to end: the envelope a peer sends, the request its handler
gets, and the response the peer reads from the reply. `_wrap_response` sends a
response that has been serialized and read back before, so it matters that a
second crossing changes nothing.
-/

namespace RemoteIface.Protocols.Envelope

set_option autoImplicit false

open RemoteIface.Library
open RemoteIface.Library.Runs
open RemoteIface.Library.InsertionOrder
open RemoteIface.Commlib.Payload
open RemoteIface.Commlib.Endpoints
open RemoteIface.Commlib.Rpc
open RemoteIface.Commlib.Dispatch hiding Message
open RemoteIface.Commlib.NodeContext
open RemoteIface.Commlib.Serialization
open RemoteIface.Commlib.ReplyCorrelation
open RemoteIface.Protocols.Messages
open RemoteIface.Protocols.RoundTrip

variable {Bytes : Type} {json : JsonModule Bytes}

mutual

theorem of_json_to_json : ∀ value : Json, Written value → (PyValue.ofJson value).toJson = value
  | .null, _ => rfl
  | .bool _, _ => rfl
  | .int _, _ => rfl
  | .float bits, written => by
      cases nan : Binary64.isNaN bits with
      | true =>
          have canonical : bits = PyValue.nanBits := written nan
          subst canonical
          rfl
      | false => simp [PyValue.ofJson, PyValue.toJson, nan]
  | .str _, _ => rfl
  | .arr items, written => congrArg Json.arr (of_json_items_to_json items written)
  | .obj fields, written => congrArg Json.obj (of_json_fields_to_json fields written.2)

theorem of_json_items_to_json : ∀ items : List Json, WrittenItems items →
    PyValue.toJsonItems (PyValue.ofJsonItems items) = items
  | [], _ => rfl
  | item :: rest, written => by
      simp only [PyValue.ofJsonItems, PyValue.toJsonItems, of_json_to_json item written.1,
        of_json_items_to_json rest written.2]

theorem of_json_fields_to_json : ∀ fields : List (String × Json), WrittenFields fields →
    PyValue.toJsonEntries (PyValue.ofJsonFields fields) = fields
  | [], _ => rfl
  | (key, value) :: rest, written => by
      simp only [PyValue.ofJsonFields, PyValue.toJsonEntries, of_json_to_json value written.1,
        of_json_fields_to_json rest written.2]

end

theorem of_json_fields_keys (fields : List (String × Json)) :
    (PyValue.ofJsonFields fields).map Prod.fst = fields.map Prod.fst := by
  induction fields with
  | nil => rfl
  | cons field rest induction =>
      simp only [PyValue.ofJsonFields, List.map_cons, induction]

mutual

theorem of_json_unique_keys : ∀ value : Json, Written value → (PyValue.ofJson value).UniqueKeys
  | .null, _ => trivial
  | .bool _, _ => trivial
  | .int _, _ => trivial
  | .float bits, _ => by
      unfold PyValue.ofJson
      split
      · trivial
      · trivial
  | .str _, _ => trivial
  | .arr items, written => of_json_items_unique_keys items written
  | .obj fields, written =>
      ⟨(of_json_fields_keys fields).symm ▸ written.1, of_json_fields_unique_keys fields written.2⟩

theorem of_json_items_unique_keys : ∀ items : List Json, WrittenItems items →
    PyValue.UniqueKeysItems (PyValue.ofJsonItems items)
  | [], _ => trivial
  | item :: rest, written =>
      ⟨of_json_unique_keys item written.1, of_json_items_unique_keys rest written.2⟩

theorem of_json_fields_unique_keys : ∀ fields : List (String × Json), WrittenFields fields →
    PyValue.UniqueKeysEntries (PyValue.ofJsonFields fields)
  | [], _ => trivial
  | (_, value) :: rest, written =>
      ⟨of_json_unique_keys value written.1, of_json_fields_unique_keys rest written.2⟩

end

theorem written_of_lookup {fields : List (String × Json)} (written : WrittenFields fields)
    {key : String} {value : Json} (stored : lookupEntry key fields = some value) :
    Written value := by
  induction fields with
  | nil => cases stored
  | cons field rest induction =>
      unfold lookupEntry at stored
      split at stored
      · cases stored
        exact written.1
      · exact induction written.2 stored

theorem default_restored (cls : MessageClass) (name : String) :
    (cls.default name).restored = cls.default name := by
  have each : ∀ field ∈ cls.fields, field.default.restored = field.default := by
    have zero : (PyValue.float 0).restored = .float 0 := rfl
    cases cls with
    | request command =>
        cases command <;> simp [MessageClass.fields, MessageClass.requestFields,
          MessageClass.orNone, MessageClass.text, MessageClass.flag, MessageClass.real, zero] <;>
          trivial
    | response command =>
        cases command <;> simp [MessageClass.fields, MessageClass.responseFields,
          MessageClass.text, MessageClass.status] <;> trivial
    | _ =>
        simp [MessageClass.fields, MessageClass.orNone, MessageClass.text, MessageClass.real, zero]
        trivial
  unfold MessageClass.default
  cases stored : lookupEntry name (cls.fields.map fun field => (field.name, field.default)) with
  | none => rfl
  | some value =>
      obtain ⟨field, member, same⟩ := List.mem_map.mp (OrderedDict.mem_of_lookup stored)
      cases same
      exact each field member

/-- What a message type makes of a JSON object holds the object's values as
they are. -/
theorem hydrate_cases {cls : MessageClass} {data : Json} {read : Message}
    (hydrated : cls.msgType.hydrate data = .ok read) :
    ∃ fields, data = .obj fields ∧ read = cls.init fields ∧
      ∀ entry ∈ fields, entry.1 ∈ cls.dataclass.fields := by
  cases data with
  | obj fields =>
      change (cls.dataclass.construct fields).map _ = _ at hydrated
      unfold Dataclass.construct at hydrated
      split at hydrated
      · rename_i known
        cases hydrated
        refine ⟨fields, rfl, rfl, ?_⟩
        intro entry member
        simpa using List.all_eq_true.mp known entry member
      · cases hydrated
  | _ => cases hydrated

theorem hydrate_attributes (message : Message) :
    message.cls.msgType.hydrate (.obj (PyValue.toJsonEntries message.attributes)) =
      .ok message.restored := by
  have known : ((PyValue.toJsonEntries message.attributes).all fun entry =>
      message.cls.dataclass.fields.contains entry.1) = true := by
    rw [List.all_eq_true]
    intro entry member
    have key := List.mem_map_of_mem (f := Prod.fst) member
    rw [PyValue.to_json_keys, Message.attributes_keys] at key
    simpa using key
  change (message.cls.dataclass.construct _).map _ = _
  unfold Dataclass.construct
  rw [if_pos known]
  rfl

theorem read_value_restored {cls : MessageClass} {fields : List (String × Json)}
    (written : WrittenFields fields) (name : String) :
    ((cls.init fields).value name).restored = (cls.init fields).value name := by
  unfold MessageClass.init
  dsimp only
  cases stored : lookupEntry name fields with
  | none => exact default_restored cls name
  | some value =>
      dsimp only
      unfold PyValue.restored
      rw [of_json_to_json value (written_of_lookup written stored)]

theorem read_restored {cls : MessageClass} {fields : List (String × Json)}
    (written : WrittenFields fields)
    (known : ∀ entry ∈ fields, entry.1 ∈ cls.dataclass.fields) :
    (cls.init fields).restored = cls.init fields := by
  have values : ∀ name, (cls.init fields).restored.value name = (cls.init fields).value name := by
    intro name
    by_cases declared : name ∈ cls.dataclass.fields
    · rw [← cls.field_names] at declared
      obtain ⟨field, member, rfl⟩ := List.mem_map.mp declared
      rw [Message.restored_value _ member]
      exact read_value_restored written field.name
    · have absent : ∀ entries : List (String × Json),
          (∀ entry ∈ entries, entry.1 ∈ cls.dataclass.fields) → lookupEntry name entries = none := by
        intro entries each
        cases stored : lookupEntry name entries with
        | none => rfl
        | some value =>
            exact (declared (each _ (OrderedDict.mem_of_lookup stored))).elim
      unfold Message.restored MessageClass.init
      dsimp only
      rw [absent fields known, absent]
      intro entry member
      have key := List.mem_map_of_mem (f := Prod.fst) member
      rwa [PyValue.to_json_keys, Message.attributes_keys] at key
  exact congrArg (RoundTrip.Message.mk cls) (funext values)

theorem read_unique_keys {cls : MessageClass} {fields : List (String × Json)}
    (written : WrittenFields fields) : (cls.init fields).UniqueKeys := by
  refine ⟨?_, (PyValue.unique_keys_entries_iff _).mpr ?_⟩
  · rw [Message.attributes_keys, ← MessageClass.field_names]
    exact MessageClass.field_names_nodup _
  · intro entry member
    obtain ⟨field, declared, rfl⟩ := List.mem_map.mp member
    change ((cls.init fields).value field.name).UniqueKeys
    unfold MessageClass.init
    dsimp only
    cases stored : lookupEntry field.name fields with
    | none => exact FieldType.holds_unique_keys (cls.defaults_typed field declared)
    | some value => exact of_json_unique_keys value (written_of_lookup written stored)

theorem loads_serialized (inverts : json.Inverts) {message : Message}
    (unique : message.UniqueKeys) :
    json.loads (serialize json message.sendable) =
      .ok (.obj (PyValue.toJsonEntries message.attributes)) :=
  inverts _ (PyValue.to_json_written _ unique)

/-- Whatever object a peer has sent, with whatever values in its fields: once
decoded it is sent and decoded again without any change. A loaded object names
a key once and has the decoder's NaN only. -/
theorem decoded_message_crosses_unchanged (inverts : json.Inverts) (cls : MessageClass)
    (payload : Bytes) (loads : ∀ value, json.loads payload = .ok value → Written value)
    (read : Message)
    (decoded : deserialize json payload (some cls.msgType) = .ok (.typed read)) :
    deserialize json (serialize json read.sendable) (some cls.msgType) = .ok (.typed read) := by
  unfold deserialize at decoded
  cases loaded : json.loads payload with
  | error error =>
      rw [loaded] at decoded
      cases decoded
  | ok data =>
      rw [loaded] at decoded
      change (cls.msgType.hydrate data).map Delivered.typed = _ at decoded
      cases hydrated : cls.msgType.hydrate data with
      | error error =>
          rw [hydrated] at decoded
          cases decoded
      | ok message =>
          rw [hydrated] at decoded
          cases decoded
          obtain ⟨fields, rfl, rfl, known⟩ := hydrate_cases hydrated
          have written : WrittenFields fields := (loads _ loaded).2
          unfold deserialize
          rw [loads_serialized inverts (read_unique_keys written)]
          change (cls.msgType.hydrate _).map Delivered.typed = _
          have again := hydrate_attributes (cls.init fields)
          rw [read_restored written known] at again
          exact congrArg (Except.map Delivered.typed) again

/-- A start request with a list as its script and without its other fields. -/
def sparsePayload : Json := .obj [("script", .arr [.int 1, .null]), ("conf", .bool true)]

theorem sparse_payload_crosses_unchanged :
    ∃ read, deserialize exactJson sparsePayload (some (MessageClass.request .start).msgType) =
        .ok (.typed read) ∧
      deserialize exactJson (serialize exactJson read.sendable)
        (some (MessageClass.request .start).msgType) = .ok (.typed read) := by
  refine ⟨_, rfl, ?_⟩
  apply decoded_message_crosses_unchanged exact_json_inverts (.request .start) sparsePayload
  · intro value loaded
    cases loaded
    exact ⟨by decide, ⟨trivial, trivial, trivial⟩, trivial, trivial⟩
  · rfl

def requestEnvelope (replyTo : String) (request : Message) : PyValue :=
  .dict [("header", .dict [("reply_to", .str replyTo)]), ("data", .dict request.attributes)]

/-- `json.loads(serialize(response))`, which `_wrap_response` puts in the reply. -/
def responseData (json : JsonModule Bytes) (response : Message) : Except PyException Json :=
  json.loads (serialize json response.sendable)

/-- The peer decodes the reply, and its `data` as the class it waits for. -/
def readReply (json : JsonModule Bytes) (cls : MessageClass) (payload : Bytes) :
    Except PyException (Delivered Message) :=
  (json.loads payload).bind fun reply =>
    Commlib.EdgeDecoding.deserialize (reply.getOr "data" .null) (some cls.msgType)

/-- The message is this request, as its peer has sent it. -/
structure Carries (json : JsonModule Bytes) (arrival : Arrival Message Message)
    (replyTo : String) (request : Message) : Prop where
  data : json.loads (serialize json (.value (requestEnvelope replyTo request))) = .ok arrival.data
  msgType : arrival.msgType = request.cls.msgType

theorem envelope_unique_keys (replyTo : String) {request : Message}
    (unique : request.UniqueKeys) : (requestEnvelope replyTo request).UniqueKeys :=
  ⟨by simp, ⟨by simp, trivial, trivial⟩, unique, trivial⟩

theorem attributes_ne_nil (message : Message) :
    (PyValue.toJsonEntries message.attributes).isEmpty = false := by
  obtain ⟨cls, value⟩ := message
  cases cls with
  | request command => cases command <;> rfl
  | response command => cases command <;> rfl
  | _ => rfl

theorem carried_data (inverts : json.Inverts) {arrival : Arrival Message Message}
    {replyTo : String} {request : Message} (unique : request.UniqueKeys)
    (carries : Carries json arrival replyTo request) :
    arrival.data = (requestEnvelope replyTo request).toJson := by
  have read := inverts _ (PyValue.to_json_written _ (envelope_unique_keys replyTo unique))
  have sent := carries.data
  unfold serialize at sent
  change json.loads (json.dumps (requestEnvelope replyTo request).toJson) = _ at sent
  rw [read] at sent
  exact (Except.ok.inj sent).symm

theorem reply_to_of_envelope (replyTo : String) (request : Message) :
    replyToOf (requestEnvelope replyTo request).toJson = .str replyTo := rfl

theorem data_of_envelope (replyTo : String) (request : Message) :
    dataOf (requestEnvelope replyTo request).toJson =
      .obj (PyValue.toJsonEntries request.attributes) := by
  have full : (Json.obj (PyValue.toJsonEntries request.attributes)).truthy = true := by
    simp [Json.truthy, attributes_ne_nil]
  change (Json.obj (PyValue.toJsonEntries request.attributes)).orEmpty = _
  unfold Json.orEmpty
  rw [if_pos full]

theorem response_data (inverts : json.Inverts) {response : Message}
    (unique : response.UniqueKeys) :
    responseData json response = .ok (.obj (PyValue.toJsonEntries response.attributes)) :=
  loads_serialized inverts unique

theorem read_reply (inverts : json.Inverts) {response : Message} (unique : response.UniqueKeys)
    (now : Int) :
    readReply json response.cls
        (json.dumps (wrapResponse now (.obj (PyValue.toJsonEntries response.attributes)))) =
      .ok (.typed response.restored) := by
  have body : Written (.obj (PyValue.toJsonEntries response.attributes)) :=
    PyValue.to_json_written _ unique
  have header : Written (wrapResponse now .null) := by
    unfold wrapResponse
    exact ⟨by simp, ⟨by simp, trivial, trivial, trivial, trivial, trivial, trivial⟩, trivial,
      trivial⟩
  have written : Written (wrapResponse now (.obj (PyValue.toJsonEntries response.attributes))) :=
    ⟨header.1, header.2.1, body, trivial⟩
  unfold readReply
  rw [inverts _ written]
  exact congrArg (Except.map Delivered.typed) (hydrate_attributes response)

/-- What a peer's request and the reply to it have to do with each other. Nothing
is assumed of the types of their fields. -/
structure RoundTrips (json : JsonModule Bytes) (reply : Outgoing)
    (arrival : Arrival Message Message) (ending : Ending Message Message) : Prop where
  /-- The handler got the request of the envelope, the reply goes to its address. -/
  request : ∀ replyTo request, request.UniqueKeys → Carries json arrival replyTo request →
    reply.topic = .str replyTo ∧ ending.decoded = request.restored ∧
      (ending.decoded.same request = true ↔ request.Carried)
  /-- The peer reads the response that the handler returned for it. -/
  response : ending.response.UniqueKeys → ∃ read,
    readReply json ending.response.cls (json.dumps reply.payload) = .ok (.typed read) ∧
      (read.same ending.response = true ↔ ending.response.Carried)

theorem answers_round_trip (inverts : json.Inverts)
    {events : List (Commlib.NodeContext.Event Message Message)} {id : RequestId} {reply : Outgoing}
    {arrival : Arrival Message Message} {ending : Ending Message Message}
    (answers : Answers (responseData json) events id reply arrival ending) :
    RoundTrips json reply arrival ending := by
  obtain ⟨body, serialized, rfl⟩ := answers.content
  constructor
  · intro replyTo request unique carries
    have data := carried_data inverts unique carries
    have hydrated := answers.submitted.1
    rw [data, data_of_envelope, carries.msgType, hydrate_attributes] at hydrated
    have decoded := (Except.ok.inj hydrated).symm
    refine ⟨?_, decoded, ?_⟩
    · rw [data, reply_to_of_envelope]
    · rw [decoded]
      exact Message.same_restored request unique
  · intro unique
    rw [response_data inverts unique] at serialized
    cases serialized
    exact ⟨ending.response.restored, read_reply inverts unique ending.now,
      Message.same_restored _ unique⟩

def statusRequest : Message := ⟨.request .status, fun _ => .bool true⟩

def statusResponse : Message where
  cls := .response .status
  value
    | "status" => .int 200
    | "msg" => .str "running"
    | "data" => .list [.tuple [.str "left", .int 2]]
    | _ => .none

def statusArrival : List (Commlib.NodeContext.Event Message Message) :=
  [.called (.createRpc "bot/status" statusRequest.cls.msgType 0),
    .wire .start, .wire .startResumed, .wire (.iterated true), .wire (.entered true),
    .wire (.subscribed true),
    .received 0 ⟨"bot/status", .value (requestEnvelope "peer" statusRequest).toJson⟩
      (fun _ _ => .ok ()),
    .workStarted 0, .workEnded 0 (.returned statusResponse) 9]

end RemoteIface.Protocols.Envelope
