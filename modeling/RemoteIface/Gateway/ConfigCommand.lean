import Mathlib.Data.List.Induction
import RemoteIface.Commlib.Payload

/-!
`_handle_config`: the loop that applies the params of a config command to the
app, and the snapshot of the config maps after it. Everything is inside one
`try`, so what the loop has done to the app and to the reply stays when an
element of the params, the app or the snapshot raises.
-/

namespace RemoteIface.Gateway.ConfigCommand

set_option autoImplicit false

open RemoteIface.Commlib.Payload

abbrev Pair := Json × Json

/-- One call of `app.config`, without arguments or with a key and a value, and
how it ended. -/
structure ConfigCall where
  arguments : Option Pair
  result : Except Failure Unit

/-- A config map: an object with a `dict` method, a `dict`, or neither. -/
inductive ConfigMap (Config : Type) where
  | model (dict : Except Failure Config)
  | mapping (value : Config)
  | other

/-- What `_handle_config` asks of the app. Every answer may depend on the calls
of `config` before it; reading a config map covers the test for its `dict`. -/
structure App (Config : Type) where
  configurableKeys : Except Failure (List String)
  config : List ConfigCall → Option Pair → Except Failure Unit
  clientConfigMap : List ConfigCall → Except Failure (ConfigMap Config)
  strategyConfigMap : List ConfigCall → Except Failure (ConfigMap Config)

/-- The two parts of `response.config`. Without one it is the empty dictionary
the handler starts from. -/
structure Snapshot (Config : Type) where
  client : Option Config
  strategy : Option Config

structure Response (Config : Type) where
  changes : List Pair
  config : Option (Snapshot Config)
  status : Int
  msg : String

namespace MQTTStatusCode

def success : Int := 200

def error : Int := 400

end MQTTStatusCode

def notIterable (typeName : String) : Failure :=
  ⟨typeError, "cannot unpack non-iterable " ++ typeName ++ " object"⟩

/-- Unpacking an iterable of another length than two. -/
def wrongCount (count : Nat) : Failure :=
  if count < 2 then
    ⟨⟨"ValueError"⟩, "not enough values to unpack (expected 2, got " ++ toString count ++ ")"⟩
  else ⟨⟨"ValueError"⟩, "too many values to unpack (expected 2)"⟩

def unhashable (typeName : String) : Failure :=
  ⟨typeError, "unhashable type: '" ++ typeName ++ "'"⟩

/-- `key, value = element`. Iterating a string gives its characters, iterating
a `dict` its keys. -/
def unpack : Json → Except Failure Pair
  | .arr [key, value] => .ok (key, value)
  | .arr items => .error (wrongCount items.length)
  | .str text =>
      match text.toList with
      | [key, value] => .ok (.str (String.singleton key), .str (String.singleton value))
      | letters => .error (wrongCount letters.length)
  | .obj [key, value] => .ok (.str key.1, .str value.1)
  | .obj fields => .error (wrongCount fields.length)
  | .null => .error (notIterable "NoneType")
  | .bool _ => .error (notIterable "bool")
  | .int _ => .error (notIterable "int")
  | .float _ => .error (notIterable "float")

/-- `key in configurable`. The set holds strings only. -/
def inKeys (configurable : List String) : Json → Except Failure Bool
  | .arr _ => .error (unhashable "list")
  | .obj _ => .error (unhashable "dict")
  | .str key => .ok (configurable.contains key)
  | _ => .ok false

/-- The pair of an element, and whether its key is configurable. -/
def readParam (configurable : List String) (element : Json) : Except Failure (Pair × Bool) :=
  match unpack element with
  | .error failure => .error failure
  | .ok (key, value) =>
      match inKeys configurable key with
      | .error failure => .error failure
      | .ok known => .ok ((key, value), known)

/-- What the loop has done so far: `response.changes`, the calls it has made and
`invalid_params`. -/
structure Progress where
  changes : List Pair
  calls : List ConfigCall
  invalidParams : List Json

def Progress.start : Progress := ⟨[], [], []⟩

variable {Config : Type} (app : App Config)

/-- The loop over `req.params`. -/
def applyParams (configurable : List String) :
    List Json → Progress → Progress × Except Failure Unit
  | [], progress => (progress, .ok ())
  | element :: rest, progress =>
      match readParam configurable element with
      | .error failure => (progress, .error failure)
      | .ok ((key, _), false) =>
          applyParams configurable rest
            { progress with invalidParams := progress.invalidParams ++ [key] }
      | .ok (pair, true) =>
          let result := app.config progress.calls (some pair)
          let called := { progress with calls := progress.calls ++ [⟨some pair, result⟩] }
          match result with
          | .error failure => (called, .error failure)
          | .ok () =>
              applyParams configurable rest { called with changes := progress.changes ++ [pair] }

/-- The part of the snapshot that one config map gives. -/
def readMap (map : Except Failure (ConfigMap Config)) : Except Failure (Option Config) :=
  match map with
  | .error failure => .error failure
  | .ok (.model dict) => dict.map some
  | .ok (.mapping value) => .ok (some value)
  | .ok .other => .ok none

def snapshot (calls : List ConfigCall) : Except Failure (Snapshot Config) :=
  match readMap (app.clientConfigMap calls) with
  | .error failure => .error failure
  | .ok client =>
      match readMap (app.strategyConfigMap calls) with
      | .error failure => .error failure
      | .ok strategy => .ok ⟨client, strategy⟩

/-- `listRepr` is Python's text of a list, which goes into the message. -/
def invalidKeys (listRepr : List Json → String) (keys : List Json) : Failure :=
  ⟨⟨"ValueError"⟩, "Invalid param key(s): " ++ listRepr keys⟩

/-- The `try` block before the snapshot. -/
def applyRequest (listRepr : List Json → String) (params : List Json) :
    Progress × Except Failure Unit :=
  if params.isEmpty then
    let result := app.config [] none
    ({ Progress.start with calls := [⟨none, result⟩] }, result)
  else
    match app.configurableKeys with
    | .error failure => (.start, .error failure)
    | .ok configurable =>
        match applyParams app configurable params .start with
        | (progress, .error failure) => (progress, .error failure)
        | (progress, .ok ()) =>
            if progress.invalidParams.isEmpty then (progress, .ok ())
            else (progress, .error (invalidKeys listRepr progress.invalidParams))

/-- `_handle_config`, and the calls of `app.config` it has made. -/
def handleConfig (listRepr : List Json → String) (params : List Json) :
    Response Config × List ConfigCall :=
  let (progress, applied) := applyRequest app listRepr params
  let built := applied.bind fun _ => snapshot app progress.calls
  match built with
  | .ok config => (⟨progress.changes, some config, MQTTStatusCode.success, ""⟩, progress.calls)
  | .error failure =>
      (⟨progress.changes, none, MQTTStatusCode.error, failure.text⟩, progress.calls)

def returnedCalls (changes : List Pair) : List ConfigCall :=
  changes.map fun pair => ⟨some pair, .ok ()⟩

def configurablePair (configurable : List String) (element : Json) : Option Pair :=
  match readParam configurable element with
  | .ok (pair, true) => some pair
  | _ => none

/-- The element raises after these changes: it is no pair with a hashable key, or
the app refuses it. -/
def Raises (configurable : List String) (changes : List Pair) (element : Json) : Prop :=
  (∃ failure, readParam configurable element = .error failure) ∨
    ∃ pair failure, readParam configurable element = .ok (pair, true) ∧
      app.config (returnedCalls changes) (some pair) = .error failure

/-- The elements before the first one that raises have been processed, and
their configurable pairs have been added to the earlier changes. -/
structure ProcessedUpTo (configurable : List String) (earlier changes : List Pair)
    (before after : List Json) : Prop where
  changed : changes = earlier ++ before.filterMap (configurablePair configurable)
  unraised : ∀ first element rest, before = first ++ element :: rest →
    ¬ Raises app configurable (earlier ++ first.filterMap (configurablePair configurable)) element
  stopped : ∀ element rest, after = element :: rest → Raises app configurable changes element

def Keyed (configurable : List String) (pair : Pair) : Prop :=
  ∃ name ∈ configurable, pair.1 = .str name

/-- The result of every call is what the app has answered after the calls before
it. -/
def Answered (calls : List ConfigCall) : Prop :=
  ∀ earlier call later, calls = earlier ++ call :: later →
    call.result = app.config earlier call.arguments

theorem in_keys_true {configurable : List String} {key : Json}
    (known : inKeys configurable key = .ok true) : ∃ name ∈ configurable, key = .str name := by
  cases key with
  | str name =>
      simp only [inKeys, Except.ok.injEq, List.contains_iff_mem] at known
      exact ⟨name, known, rfl⟩
  | arr items => cases known
  | obj fields => cases known
  | _ => simp [inKeys] at known

theorem read_param_keyed {configurable : List String} {element : Json} {pair : Pair}
    (read : readParam configurable element = .ok (pair, true)) : Keyed configurable pair := by
  unfold readParam at read
  split at read
  · cases read
  · split at read
    · cases read
    · rename_i known
      cases read
      exact in_keys_true known

theorem read_param_unpack {configurable : List String} {element : Json} {pair : Pair}
    {known : Bool} (read : readParam configurable element = .ok (pair, known)) :
    unpack element = .ok pair := by
  unfold readParam at read
  split at read
  · cases read
  · rename_i unpacked
    split at read
    · cases read
    · cases read
      exact unpacked

inductive Loops (configurable : List String) :
    List Json → Progress → Progress × Except Failure Unit → Prop where
  | done (progress : Progress) : Loops configurable [] progress (progress, .ok ())
  | unread {element : Json} {failure : Failure} (rest : List Json) (progress : Progress)
      (read : readParam configurable element = .error failure) :
      Loops configurable (element :: rest) progress (progress, .error failure)
  | skipped {element : Json} {pair : Pair} {rest : List Json} {progress : Progress}
      {out : Progress × Except Failure Unit}
      (read : readParam configurable element = .ok (pair, false))
      (later : Loops configurable rest
        { progress with invalidParams := progress.invalidParams ++ [pair.1] } out) :
      Loops configurable (element :: rest) progress out
  | refused {element : Json} {pair : Pair} {failure : Failure} (rest : List Json)
      {progress : Progress} (read : readParam configurable element = .ok (pair, true))
      (raised : app.config progress.calls (some pair) = .error failure) :
      Loops configurable (element :: rest) progress
        ({ progress with calls := progress.calls ++ [⟨some pair, .error failure⟩] },
          .error failure)
  | applied {element : Json} {pair : Pair} {rest : List Json} {progress : Progress}
      {out : Progress × Except Failure Unit}
      (read : readParam configurable element = .ok (pair, true))
      (returned : app.config progress.calls (some pair) = .ok ())
      (later : Loops configurable rest
        { progress with
          changes := progress.changes ++ [pair]
          calls := progress.calls ++ [⟨some pair, .ok ()⟩] } out) :
      Loops configurable (element :: rest) progress out

theorem loops_apply_params (configurable : List String) (params : List Json)
    (progress : Progress) :
    Loops app configurable params progress (applyParams app configurable params progress) := by
  induction params generalizing progress with
  | nil => exact .done progress
  | cons element rest induction =>
      unfold applyParams
      split
      · rename_i failure read
        exact .unread rest progress read
      · rename_i key value read
        exact .skipped read (induction _)
      · rename_i pair read
        cases result : app.config progress.calls (some pair) with
        | error failure => exact .refused rest read result
        | ok done => exact .applied read result (induction _)

variable {app} {configurable : List String} {params : List Json} {progress : Progress}
  {out : Progress × Except Failure Unit}

theorem loops_calls (loops : Loops app configurable params progress out)
    (sound : progress.calls = returnedCalls progress.changes) :
    out.1.calls = returnedCalls out.1.changes ∨
      ∃ pair failure, Keyed configurable pair ∧ out.2 = .error failure ∧
        out.1.calls = returnedCalls out.1.changes ++ [⟨some pair, .error failure⟩] := by
  induction loops with
  | done progress => exact .inl sound
  | unread rest progress read => exact .inl sound
  | skipped read later induction => exact induction sound
  | refused rest read raised =>
      right
      exact ⟨_, _, read_param_keyed read, rfl, by rw [sound]⟩
  | applied read returned later induction =>
      apply induction
      rw [sound]
      simp [returnedCalls]

theorem loops_keyed (loops : Loops app configurable params progress out)
    (keyed : ∀ pair ∈ progress.changes, Keyed configurable pair) :
    ∀ pair ∈ out.1.changes, Keyed configurable pair := by
  induction loops with
  | done progress => exact keyed
  | unread rest progress read => exact keyed
  | skipped read later induction => exact induction keyed
  | refused rest read raised => exact keyed
  | applied read returned later induction =>
      apply induction
      intro pair member
      rcases List.mem_append.mp member with old | new
      · exact keyed pair old
      · rw [List.mem_singleton.mp new]
        exact read_param_keyed read

theorem answered_nil : Answered app [] := by
  intro earlier call later split
  simp at split

theorem answered_snoc {calls : List ConfigCall} (answered : Answered app calls)
    (arguments : Option Pair) :
    Answered app (calls ++ [⟨arguments, app.config calls arguments⟩]) := by
  intro earlier call later split
  induction later using List.reverseRecOn with
  | nil =>
      have last := List.append_inj' split rfl
      cases last.1
      cases last.2
      rfl
  | append_singleton before last induction =>
      apply answered earlier call before
      rw [← List.cons_append, ← List.append_assoc] at split
      exact (List.append_inj' split rfl).1

theorem loops_answered (loops : Loops app configurable params progress out)
    (answered : Answered app progress.calls) : Answered app out.1.calls := by
  induction loops with
  | done progress => exact answered
  | unread rest progress read => exact answered
  | skipped read later induction => exact induction answered
  | refused rest read raised =>
      rw [← raised]
      exact answered_snoc answered _
  | applied read returned later induction =>
      apply induction
      rw [← returned]
      exact answered_snoc answered _

theorem processed_cons {element : Json} {earlier changes : List Pair} {before after : List Json}
    (calm : ¬ Raises app configurable earlier element)
    (processed : ProcessedUpTo app configurable
      (earlier ++ (configurablePair configurable element).toList) changes before after) :
    ProcessedUpTo app configurable earlier changes (element :: before) after := by
  have filtered (elements : List Json) :
      (element :: elements).filterMap (configurablePair configurable) =
        (configurablePair configurable element).toList ++
          elements.filterMap (configurablePair configurable) := by
    cases pair : configurablePair configurable element <;> simp [pair]
  constructor
  · rw [processed.changed, filtered, List.append_assoc]
  · intro first other rest split
    cases first with
    | nil =>
        cases split
        simpa using calm
    | cons head first =>
        cases split
        rw [filtered, ← List.append_assoc]
        exact processed.unraised first other rest rfl
  · exact processed.stopped

theorem processed_nothing {element : Json} {earlier : List Pair} {rest : List Json}
    (raises : Raises app configurable earlier element) :
    ProcessedUpTo app configurable earlier earlier [] (element :: rest) := by
  constructor
  · simp
  · intro first other others split
    simp at split
  · intro other others split
    cases split
    exact raises

/-- The loop processes its elements in order, up to the first one that raises. -/
theorem loops_processed (loops : Loops app configurable params progress out)
    (sound : progress.calls = returnedCalls progress.changes) :
    ∃ before after, params = before ++ after ∧
      ProcessedUpTo app configurable progress.changes out.1.changes before after := by
  induction loops with
  | done progress =>
      refine ⟨[], [], rfl, by simp, ?_, ?_⟩
      · intro first element rest split
        simp at split
      · intro element rest split
        simp at split
  | unread rest progress read =>
      exact ⟨[], _, rfl, processed_nothing (.inl ⟨_, read⟩)⟩
  | refused rest read raised =>
      rw [sound] at raised
      exact ⟨[], _, rfl, processed_nothing (.inr ⟨_, _, read, raised⟩)⟩
  | skipped read later induction =>
      obtain ⟨before, after, split, processed⟩ := induction sound
      refine ⟨_ :: before, after, by rw [split]; rfl, processed_cons ?_ ?_⟩
      · rintro (⟨failure, unread⟩ | ⟨pair, failure, known, raised⟩)
        · cases read.symm.trans unread
        · cases read.symm.trans known
      · simpa [configurablePair, read] using processed
  | applied read returned later induction =>
      obtain ⟨before, after, split, processed⟩ := induction (by rw [sound]; simp [returnedCalls])
      refine ⟨_ :: before, after, by rw [split]; rfl, processed_cons ?_ ?_⟩
      · rintro (⟨failure, unread⟩ | ⟨pair, failure, known, raised⟩)
        · cases read.symm.trans unread
        · cases read.symm.trans known
          rw [← sound] at raised
          cases returned.symm.trans raised
      · simpa [configurablePair, read] using processed

theorem loops_applied (loops : Loops app configurable params progress out)
    (ended : out.2 = .ok ()) (valid : out.1.invalidParams = []) :
    progress.invalidParams = [] ∧ ∃ applied, out.1.changes = progress.changes ++ applied ∧
      params.map unpack = applied.map .ok := by
  induction loops with
  | done progress => exact ⟨valid, [], by simp, rfl⟩
  | unread rest progress read => cases ended
  | refused rest read raised => cases ended
  | skipped read later induction =>
      have none := (induction ended valid).1
      simp at none
  | @applied element pair rest progress out read returned later induction =>
      obtain ⟨none, applied, changed, pairs⟩ := induction ended valid
      refine ⟨none, pair :: applied, ?_, ?_⟩
      · rw [changed, List.append_assoc]
        rfl
      · rw [List.map_cons, List.map_cons, pairs, read_param_unpack read]

/-- Every element gives at most one change or one invalid key, and the one that
raises gives none. -/
theorem loops_count (loops : Loops app configurable params progress out) :
    out.1.changes.length + out.1.invalidParams.length ≤
        progress.changes.length + progress.invalidParams.length + params.length ∧
      (out.2 ≠ .ok () → out.1.changes.length + out.1.invalidParams.length <
        progress.changes.length + progress.invalidParams.length + params.length) := by
  induction loops with
  | done progress => simp
  | unread rest progress read => simp
  | refused rest read raised => simp
  | skipped read later induction =>
      simp only [List.length_append, List.length_cons, List.length_nil] at induction ⊢
      constructor
      · omega
      · intro raised
        have fewer := induction.2 raised
        omega
  | applied read returned later induction =>
      simp only [List.length_append, List.length_cons, List.length_nil] at induction ⊢
      constructor
      · omega
      · intro raised
        have fewer := induction.2 raised
        omega

section Reply

variable (app) (listRepr : List Json → String)

/-- The reply and the calls of one run of `_handle_config`. -/
structure ReplyTells (params : List Json) (response : Response Config)
    (calls : List ConfigCall) : Prop where
  answered : Answered app calls
  changed : params ≠ [] →
    response.changes.map some =
      (calls.filter fun call => call.result.isOk).map ConfigCall.arguments
  processed : params ≠ [] →
    (∃ configurable, app.configurableKeys = .ok configurable ∧ ∃ before after,
      params = before ++ after ∧
        ProcessedUpTo app configurable [] response.changes before after) ∨
    (∃ failure, app.configurableKeys = .error failure) ∧ response.changes = []
  keyed : ∀ call ∈ calls, ∀ pair, call.arguments = some pair →
    ∃ configurable, app.configurableKeys = .ok configurable ∧ Keyed configurable pair
  succeeded : response.status = MQTTStatusCode.success ↔
    (params = [] → app.config [] none = .ok ()) ∧
      params.map unpack = response.changes.map .ok ∧
      ∃ config, snapshot app calls = .ok config
  failed : response.status ≠ MQTTStatusCode.success → response.status = MQTTStatusCode.error

theorem handle_config_reply (params : List Json) :
    (handleConfig app listRepr params).1.changes = (applyRequest app listRepr params).1.changes ∧
      (handleConfig app listRepr params).2 = (applyRequest app listRepr params).1.calls ∧
      ((handleConfig app listRepr params).1.status = MQTTStatusCode.success ↔
        (applyRequest app listRepr params).2 = .ok () ∧
          ∃ config, snapshot app (applyRequest app listRepr params).1.calls = .ok config) ∧
      ((handleConfig app listRepr params).1.status ≠ MQTTStatusCode.success →
        (handleConfig app listRepr params).1.status = MQTTStatusCode.error) := by
  have differ : MQTTStatusCode.error ≠ MQTTStatusCode.success := by decide
  unfold handleConfig
  rcases applyRequest app listRepr params with ⟨progress, failure | done⟩
  · simp [Except.bind, differ]
  · cases built : snapshot app progress.calls with
    | error failure => simp [Except.bind, built, differ]
    | ok config => simp [Except.bind, built]

theorem apply_request_empty :
    applyRequest app listRepr [] =
      ({ Progress.start with calls := [⟨none, app.config [] none⟩] }, app.config [] none) := rfl

theorem apply_request_unknown {params : List Json} (given : params ≠ []) {failure : Failure}
    (raised : app.configurableKeys = .error failure) :
    applyRequest app listRepr params = (.start, .error failure) := by
  simp [applyRequest, given, raised]

/-- The request is applied exactly when the loop ends without an invalid key. -/
theorem apply_request_loop {params : List Json} (given : params ≠ [])
    {configurable : List String} (keys : app.configurableKeys = .ok configurable) :
    (applyRequest app listRepr params).1 = (applyParams app configurable params .start).1 ∧
      ((applyRequest app listRepr params).2 = .ok () ↔
        (applyParams app configurable params .start).2 = .ok () ∧
          (applyParams app configurable params .start).1.invalidParams = []) := by
  unfold applyRequest
  rw [if_neg (by simpa using given)]
  simp only [keys]
  rcases applyParams app configurable params .start with ⟨progress, failure | done⟩
  · simp
  · cases invalid : progress.invalidParams <;> simp [invalid]

end Reply

/-- The loop from the start has applied every element exactly when its changes
are the elements. -/
theorem loops_all_applied (loops : Loops app configurable params .start out) :
    out.2 = .ok () ∧ out.1.invalidParams = [] ↔ params.map unpack = out.1.changes.map .ok := by
  constructor
  · intro ended
    obtain ⟨_, applied, changed, pairs⟩ := loops_applied loops ended.1 ended.2
    rw [changed, pairs]
    rfl
  · intro pairs
    have same : params.length = out.1.changes.length := by
      simpa using congrArg List.length pairs
    have count := loops_count loops
    simp only [Progress.start, List.length_nil, Nat.zero_add] at count
    constructor
    · by_contra raised
      have fewer := count.2 raised
      omega
    · apply List.eq_nil_of_length_eq_zero
      omega

theorem returned_calls_pairs (changes : List Pair) :
    ((returnedCalls changes).filter fun call => call.result.isOk).map ConfigCall.arguments =
      changes.map some := by
  induction changes with
  | nil => rfl
  | cons pair changes induction =>
      simp only [returnedCalls, List.map_cons] at induction ⊢
      rw [List.filter_cons_of_pos (by rfl), List.map_cons, induction]

theorem loops_returned (loops : Loops app configurable params progress out)
    (sound : progress.calls = returnedCalls progress.changes) :
    out.1.changes.map some =
      (out.1.calls.filter fun call => call.result.isOk).map ConfigCall.arguments := by
  rcases loops_calls loops sound with calls | ⟨pair, failure, _, _, calls⟩
  · rw [calls, returned_calls_pairs]
  · rw [calls, List.filter_append, List.map_append, returned_calls_pairs]
    exact (List.append_nil _).symm

theorem loops_keyed_calls (loops : Loops app configurable params .start out) :
    ∀ call ∈ out.1.calls, ∀ pair, call.arguments = some pair → Keyed configurable pair := by
  have keyed := loops_keyed loops (fun pair member => absurd member List.not_mem_nil)
  have changed (call : ConfigCall) (member : call ∈ returnedCalls out.1.changes) (pair : Pair)
      (called : call.arguments = some pair) : Keyed configurable pair := by
    obtain ⟨change, changed, rfl⟩ := List.mem_map.mp member
    cases called
    exact keyed _ changed
  intro call member pair called
  rcases loops_calls loops rfl with calls | ⟨last, failure, known, _, calls⟩
  · rw [calls] at member
    exact changed call member pair called
  · rw [calls] at member
    rcases List.mem_append.mp member with old | new
    · exact changed call old pair called
    · rw [List.mem_singleton.mp new] at called
      cases called
      exact known

theorem reply_tells_empty (listRepr : List Json → String) :
    ReplyTells app [] (handleConfig app listRepr []).1 (handleConfig app listRepr []).2 := by
  obtain ⟨changes, calls, succeeded, failed⟩ := handle_config_reply app listRepr []
  rw [apply_request_empty] at changes calls succeeded
  constructor
  · rw [calls]
    exact answered_snoc answered_nil none
  · intro given
    exact absurd rfl given
  · intro given
    exact absurd rfl given
  · intro call member pair called
    rw [calls] at member
    rw [List.mem_singleton.mp member] at called
    cases called
  · rw [succeeded, changes, calls]
    simp [Progress.start]
  · exact failed

theorem reply_tells_unknown (listRepr : List Json → String) (given : params ≠ [])
    {failure : Failure} (raised : app.configurableKeys = .error failure) :
    ReplyTells app params (handleConfig app listRepr params).1
      (handleConfig app listRepr params).2 := by
  obtain ⟨changes, calls, succeeded, failed⟩ := handle_config_reply app listRepr params
  rw [apply_request_unknown app listRepr given raised] at changes calls succeeded
  constructor
  · rw [calls]
    exact answered_nil
  · intro _
    rw [changes, calls]
    rfl
  · intro _
    exact .inr ⟨⟨failure, raised⟩, changes⟩
  · intro call member
    rw [calls] at member
    exact absurd member List.not_mem_nil
  · rw [succeeded, changes]
    simp [Progress.start, given]
  · exact failed

theorem reply_tells_loop (listRepr : List Json → String) (given : params ≠ [])
    (keys : app.configurableKeys = .ok configurable) :
    ReplyTells app params (handleConfig app listRepr params).1
      (handleConfig app listRepr params).2 := by
  have loops := loops_apply_params app configurable params .start
  obtain ⟨changes, calls, succeeded, failed⟩ := handle_config_reply app listRepr params
  obtain ⟨same, ended⟩ := apply_request_loop app listRepr given keys
  rw [same] at changes calls succeeded
  constructor
  · rw [calls]
    exact loops_answered loops answered_nil
  · intro _
    rw [changes, calls]
    exact loops_returned loops rfl
  · intro _
    rw [changes]
    exact .inl ⟨configurable, keys, loops_processed loops rfl⟩
  · intro call member pair called
    rw [calls] at member
    exact ⟨configurable, keys, loops_keyed_calls loops call member pair called⟩
  · rw [succeeded, ended, loops_all_applied loops, changes, calls]
    simp [given]
  · exact failed

/-- The reply to a config command tells what was applied. The changes are the
pairs of the calls of `config` that returned, which are the configurable pairs
before the first element that raises, and the status is a success exactly when
every element was applied and the snapshot was built. -/
theorem config_reply_exact (listRepr : List Json → String) (app : App Config)
    (params : List Json) :
    ReplyTells app params (handleConfig app listRepr params).1
      (handleConfig app listRepr params).2 := by
  by_cases given : params = []
  · rw [given]
    exact reply_tells_empty listRepr
  · cases keys : app.configurableKeys with
    | error failure => exact reply_tells_unknown listRepr given keys
    | ok configurable => exact reply_tells_loop listRepr given keys

end RemoteIface.Gateway.ConfigCommand
