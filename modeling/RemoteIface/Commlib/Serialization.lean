import RemoteIface.Library.Binary64
import RemoteIface.Commlib.EdgeDecoding

/-!
`serialize` and `deserialize`. What is sent is flattened to values that JSON
has, and these are what comes back: a list for a tuple, and for every NaN the
one that the decoder keeps.
-/

namespace RemoteIface.Commlib.Serialization

set_option autoImplicit false

open RemoteIface.Library
open RemoteIface.Library.InsertionOrder
open RemoteIface.Library.Binary64 (Bits)
open RemoteIface.Commlib.Payload
open RemoteIface.Commlib.Dispatch

/-- Python values that `json.dumps` takes. `decoderNaN` is the object
`json.decoder.NaN`, `float` is every other float object. -/
inductive PyValue where
  | none
  | bool (value : Bool)
  | int (value : Int)
  | float (bits : Bits)
  | decoderNaN
  | str (value : String)
  | list (items : List PyValue)
  | tuple (items : List PyValue)
  | dict (entries : List (String × PyValue))

namespace PyValue

inductive Number where
  | whole (value : Int)
  | float (bits : Bits)

def Number.same : Number → Number → Bool
  | whole one, whole two => one = two
  | float one, float two => Binary64.equal one two
  | whole one, float two => Binary64.integer two = some one
  | float one, whole two => Binary64.integer one = some two

/-- A bool counts as zero or one. -/
def number : PyValue → Option Number
  | bool value => some (.whole value.toInt)
  | int value => some (.whole value)
  | float bits => some (.float bits)
  | _ => .none

def sameNumber (one two : PyValue) : Bool :=
  match one.number, two.number with
  | some one, some two => one.same two
  | _, _ => false

mutual

/-- `one is two or one == two`, as the items of two containers are compared. -/
def same : PyValue → PyValue → Bool
  | none, none => true
  | decoderNaN, decoderNaN => true
  | str one, str two => one = two
  | list one, list two => sameItems one two
  | tuple one, tuple two => sameItems one two
  | dict one, dict two => one.length = two.length && sameEntries one two
  | one, two => sameNumber one two

def sameItems : List PyValue → List PyValue → Bool
  | [], [] => true
  | one :: ones, two :: twos => same one two && sameItems ones twos
  | _, _ => false

def sameEntries : List (String × PyValue) → List (String × PyValue) → Bool
  | [], _ => true
  | (key, value) :: rest, others =>
      (match lookupEntry key others with
        | some other => same value other
        | Option.none => false) && sameEntries rest others

end

def nanBits : Bits := 0x7FF8000000000000

mutual

/-- The JSON value that `json.dumps` writes. A NaN is written without its bits. -/
def toJson : PyValue → Json
  | none => .null
  | bool value => .bool value
  | int value => .int value
  | float bits => .float (if Binary64.isNaN bits then nanBits else bits)
  | decoderNaN => .float nanBits
  | str value => .str value
  | list items => .arr (toJsonItems items)
  | tuple items => .arr (toJsonItems items)
  | dict entries => .obj (toJsonEntries entries)

def toJsonItems : List PyValue → List Json
  | [] => []
  | item :: rest => toJson item :: toJsonItems rest

def toJsonEntries : List (String × PyValue) → List (String × Json)
  | [] => []
  | (key, value) :: rest => (key, toJson value) :: toJsonEntries rest

end

mutual

/-- The objects that `json.loads` makes of a JSON value. -/
def ofJson : Json → PyValue
  | .null => none
  | .bool value => bool value
  | .int value => int value
  | .float bits => if Binary64.isNaN bits then decoderNaN else float bits
  | .str value => str value
  | .arr items => list (ofJsonItems items)
  | .obj fields => dict (ofJsonFields fields)

def ofJsonItems : List Json → List PyValue
  | [] => []
  | item :: rest => ofJson item :: ofJsonItems rest

def ofJsonFields : List (String × Json) → List (String × PyValue)
  | [] => []
  | (key, value) :: rest => (key, ofJson value) :: ofJsonFields rest

end

end PyValue

/-- What `serialize` tells apart: a pydantic model by what `model_dump` returns,
a dataclass instance by its fields, another object by its `__dict__`. -/
inductive Sendable where
  | model (dump : PyValue)
  | dataclass (fields : List (String × PyValue))
  | object (attributes : List (String × PyValue))
  | value (data : PyValue)

/-- `dataclasses.asdict` copies the containers in the fields with their types. -/
def Sendable.data : Sendable → PyValue
  | model dump => dump
  | dataclass fields => .dict fields
  | object attributes => .dict attributes
  | value data => data

/-- The `json` module, with the UTF-8 bytes of its texts. -/
structure JsonModule (Bytes : Type) where
  dumps : Json → Bytes
  loads : Bytes → Except PyException Json

variable {Bytes Obj : Type}

def serialize (json : JsonModule Bytes) (message : Sendable) : Bytes :=
  json.dumps message.data.toJson

def deserialize (json : JsonModule Bytes) (payload : Bytes) (msgType : Option (MsgType Obj)) :
    Except PyException (Delivered Obj) :=
  (json.loads payload).bind fun data => EdgeDecoding.deserialize data msgType

mutual

/-- A value that `json.dumps` writes: an object names a key once, and one bit
pattern stands for all NaNs. -/
def Written : Json → Prop
  | .float bits => Binary64.isNaN bits = true → bits = PyValue.nanBits
  | .arr items => WrittenItems items
  | .obj fields => (fields.map Prod.fst).Nodup ∧ WrittenFields fields
  | _ => True

def WrittenItems : List Json → Prop
  | [] => True
  | item :: rest => Written item ∧ WrittenItems rest

def WrittenFields : List (String × Json) → Prop
  | [] => True
  | (_, value) :: rest => Written value ∧ WrittenFields rest

end

/-- `json.loads` inverts `json.dumps`. -/
def JsonModule.Inverts (json : JsonModule Bytes) : Prop :=
  ∀ value, Written value → json.loads (json.dumps value) = .ok value

namespace PyValue

mutual

/-- Every `dict` in the value has its keys once. -/
def UniqueKeys : PyValue → Prop
  | list items => UniqueKeysItems items
  | tuple items => UniqueKeysItems items
  | dict entries => (entries.map Prod.fst).Nodup ∧ UniqueKeysEntries entries
  | _ => True

def UniqueKeysItems : List PyValue → Prop
  | [] => True
  | item :: rest => item.UniqueKeys ∧ UniqueKeysItems rest

def UniqueKeysEntries : List (String × PyValue) → Prop
  | [] => True
  | (_, value) :: rest => value.UniqueKeys ∧ UniqueKeysEntries rest

end

mutual

def carried : PyValue → Bool
  | float bits => !Binary64.isNaN bits
  | list items => carriedItems items
  | tuple _ => false
  | dict entries => carriedEntries entries
  | _ => true

def carriedItems : List PyValue → Bool
  | [] => true
  | item :: rest => item.carried && carriedItems rest

def carriedEntries : List (String × PyValue) → Bool
  | [] => true
  | (_, value) :: rest => value.carried && carriedEntries rest

end

mutual

/-- A JSON value: no tuple, and finite floats only. -/
def isJson : PyValue → Bool
  | float bits => Binary64.isFinite bits
  | decoderNaN => false
  | list items => isJsonItems items
  | tuple _ => false
  | dict entries => isJsonEntries entries
  | _ => true

def isJsonItems : List PyValue → Bool
  | [] => true
  | item :: rest => item.isJson && isJsonItems rest

def isJsonEntries : List (String × PyValue) → Bool
  | [] => true
  | (_, value) :: rest => value.isJson && isJsonEntries rest

end

mutual

theorem carried_of_json : ∀ value : PyValue, value.isJson = true → value.carried = true
  | none, _ => rfl
  | bool _, _ => rfl
  | int _, _ => rfl
  | float bits, finite => by
      have number := Binary64.not_nan_of_finite finite
      simp only [carried, number, Bool.not_false]
  | str _, _ => rfl
  | list items, json => carried_items_of_json items json
  | dict entries, json => carried_entries_of_json entries json

theorem carried_items_of_json :
    ∀ items : List PyValue, isJsonItems items = true → carriedItems items = true
  | [], _ => rfl
  | item :: rest, json => by
      obtain ⟨first, others⟩ := Bool.and_eq_true_iff.mp json
      exact Bool.and_eq_true_iff.mpr
        ⟨carried_of_json item first, carried_items_of_json rest others⟩

theorem carried_entries_of_json : ∀ entries : List (String × PyValue),
    isJsonEntries entries = true → carriedEntries entries = true
  | [], _ => rfl
  | (_, value) :: rest, json => by
      obtain ⟨first, others⟩ := Bool.and_eq_true_iff.mp json
      exact Bool.and_eq_true_iff.mpr
        ⟨carried_of_json value first, carried_entries_of_json rest others⟩

end

theorem unique_keys_items_iff (items : List PyValue) :
    UniqueKeysItems items ↔ ∀ item ∈ items, item.UniqueKeys := by
  induction items with
  | nil => simp [UniqueKeysItems]
  | cons item rest induction => simp [UniqueKeysItems, induction]

theorem unique_keys_entries_iff (entries : List (String × PyValue)) :
    UniqueKeysEntries entries ↔ ∀ entry ∈ entries, entry.2.UniqueKeys := by
  induction entries with
  | nil => simp [UniqueKeysEntries]
  | cons entry rest induction => simp [UniqueKeysEntries, induction]

theorem carried_items_iff (items : List PyValue) :
    carriedItems items = true ↔ ∀ item ∈ items, item.carried = true := by
  induction items with
  | nil => simp [carriedItems]
  | cons item rest induction => simp [carriedItems, induction]

theorem carried_entries_iff (entries : List (String × PyValue)) :
    carriedEntries entries = true ↔ ∀ entry ∈ entries, entry.2.carried = true := by
  induction entries with
  | nil => simp [carriedEntries]
  | cons entry rest induction => simp [carriedEntries, induction]

theorem lookup_to_json (key : String) (entries : List (String × PyValue)) :
    lookupEntry key (toJsonEntries entries) = (lookupEntry key entries).map toJson := by
  induction entries with
  | nil => rfl
  | cons entry rest induction =>
      simp only [toJsonEntries, lookupEntry, induction]
      split <;> rfl

theorem to_json_keys (entries : List (String × PyValue)) :
    (toJsonEntries entries).map Prod.fst = entries.map Prod.fst := by
  induction entries with
  | nil => rfl
  | cons entry rest induction =>
      simp only [toJsonEntries, List.map_cons, induction]

theorem restored_length (entries : List (String × PyValue)) :
    (ofJsonFields (toJsonEntries entries)).length = entries.length := by
  induction entries with
  | nil => rfl
  | cons entry rest induction =>
      simp only [toJsonEntries, ofJsonFields, List.length_cons, induction]

theorem nan_bits_nan : Binary64.isNaN nanBits = true := by decide

mutual

theorem to_json_written : ∀ value : PyValue, value.UniqueKeys → Written value.toJson
  | none, _ => trivial
  | bool _, _ => trivial
  | int _, _ => trivial
  | float bits, _ => by
      simp only [toJson, Written]
      split
      · exact fun _ => rfl
      · next number => exact fun nan => absurd nan number
  | decoderNaN, _ => fun _ => rfl
  | str _, _ => trivial
  | list items, unique => to_json_items_written items unique
  | tuple items, unique => to_json_items_written items unique
  | dict entries, unique =>
      ⟨(to_json_keys entries).symm ▸ unique.1, to_json_entries_written entries unique.2⟩

theorem to_json_items_written :
    ∀ items : List PyValue, UniqueKeysItems items → WrittenItems (toJsonItems items)
  | [], _ => trivial
  | item :: rest, unique =>
      ⟨to_json_written item unique.1, to_json_items_written rest unique.2⟩

theorem to_json_entries_written : ∀ entries : List (String × PyValue),
    UniqueKeysEntries entries → WrittenFields (toJsonEntries entries)
  | [], _ => trivial
  | (_, value) :: rest, unique =>
      ⟨to_json_written value unique.1, to_json_entries_written rest unique.2⟩

end

/-- What a value that was sent is read back as. -/
def restored (value : PyValue) : PyValue := ofJson value.toJson

mutual

theorem same_restored : ∀ value : PyValue, value.UniqueKeys →
    value.restored.same value = value.carried
  | none, _ => rfl
  | bool value, _ => by cases value <;> rfl
  | int value, _ => by
      simp [restored, toJson, ofJson, same, sameNumber, number, Number.same, carried]
  | float bits, _ => by
      cases nan : Binary64.isNaN bits with
      | true =>
          simp [restored, toJson, ofJson, nan, nan_bits_nan, same, sameNumber, number, carried]
      | false =>
          simp [restored, toJson, ofJson, nan, same, sameNumber, number, Number.same, carried,
            Binary64.equal_self_iff]
  | decoderNaN, _ => rfl
  | str value, _ => by simp [restored, toJson, ofJson, same, carried]
  | list items, unique => same_items_restored items unique
  | tuple items, _ => rfl
  | dict entries, unique => by
      have found : ∀ entry ∈ entries, lookupEntry entry.1 entries = some entry.2 :=
        fun entry member => OrderedDict.lookup_of_mem unique.1 member
      have values := same_entries_restored entries entries unique.2 found
      simp only [restored, toJson, ofJson, same, restored_length, decide_true, Bool.true_and,
        values, carried]

theorem same_items_restored : ∀ items : List PyValue, UniqueKeysItems items →
    sameItems (ofJsonItems (toJsonItems items)) items = carriedItems items
  | [], _ => rfl
  | item :: rest, unique => by
      have first := same_restored item unique.1
      have others := same_items_restored rest unique.2
      unfold restored at first
      simp only [toJsonItems, ofJsonItems, sameItems, carriedItems, first, others]

/-- `all` is the whole `dict` that the entries are compared with. -/
theorem same_entries_restored (all : List (String × PyValue)) :
    ∀ entries : List (String × PyValue), UniqueKeysEntries entries →
      (∀ entry ∈ entries, lookupEntry entry.1 all = some entry.2) →
      sameEntries (ofJsonFields (toJsonEntries entries)) all = carriedEntries entries
  | [], _, _ => rfl
  | (key, value) :: rest, unique, found => by
      have first := same_restored value unique.1
      have others := same_entries_restored all rest unique.2
        fun entry member => found entry (List.mem_cons_of_mem _ member)
      have here : lookupEntry key all = some value := found (key, value) List.mem_cons_self
      unfold restored at first
      simp only [toJsonEntries, ofJsonFields, sameEntries, carriedEntries, here, first, others]

end

end PyValue

end RemoteIface.Commlib.Serialization
