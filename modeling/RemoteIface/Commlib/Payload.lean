import RemoteIface.Library.InsertionOrder

/-!
JSON values as `json.loads` returns them, and what the code asks of them:
truth, the `.get` of a decoded object, and the hydration of a message type.
-/

namespace RemoteIface.Commlib.Payload

set_option autoImplicit false

open RemoteIface.Library.InsertionOrder

/-- A float is kept as its IEEE bit pattern: nothing here computes with one. -/
inductive Json where
  | null
  | bool (value : Bool)
  | int (value : Int)
  | float (bits : UInt64)
  | str (value : String)
  | arr (items : List Json)
  | obj (fields : List (String × Json))

namespace Json

/-- Python's truth value. Both float zeros are false. -/
def truthy : Json → Bool
  | null => false
  | bool value => value
  | int value => value ≠ 0
  | float bits => bits ≠ 0 ∧ bits ≠ 0x8000000000000000
  | str value => value ≠ ""
  | arr items => !items.isEmpty
  | obj fields => !fields.isEmpty

/-- `value or {}` -/
def orEmpty (value : Json) : Json := if value.truthy then value else obj []

/-- `value.get(key, default) if isinstance(value, dict) else default` -/
def getOr (value : Json) (key : String) (default : Json) : Json :=
  match value with
  | obj fields => (lookupEntry key fields).getD default
  | _ => default

end Json

/-- An `Exception` that Python code raised, by its class. -/
structure PyException where
  className : String
deriving DecidableEq, Repr

/-- An `Exception` with the text that `str` gives for it. -/
structure Failure where
  error : PyException
  text : String
deriving DecidableEq, Repr

def typeError : PyException := ⟨"TypeError"⟩

def assertionError : PyException := ⟨"AssertionError"⟩

/-- A message type hydrates an object from a decoded value: a pydantic model
validates any value, every other class is called with keyword arguments. -/
inductive MsgType (Obj : Type) where
  | model (modelValidate : Json → Except PyException Obj)
  | plain (construct : List (String × Json) → Except PyException Obj)

/-- `msg_type.model_validate(value)` or `msg_type(**value)`. Unpacking a value
that is no mapping raises `TypeError`. -/
def MsgType.hydrate {Obj : Type} : MsgType Obj → Json → Except PyException Obj
  | model modelValidate, value => modelValidate value
  | plain construct, .obj fields => construct fields
  | plain _, _ => .error typeError

end RemoteIface.Commlib.Payload
