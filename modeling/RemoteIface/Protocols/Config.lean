import RemoteIface.Library.Binary64
import RemoteIface.Library.InsertionOrder

/-!
`BrokerConfig` and `GatewayConfig`. A range check is a validator that runs
before pydantic's conversion and looks at some types only, so a number that
arrives in another type is converted after its check has let it pass. The one
bound declared on a field itself is checked after the conversion.
-/

namespace RemoteIface.Protocols.Config

set_option autoImplicit false

open RemoteIface.Library
open RemoteIface.Library.InsertionOrder
open RemoteIface.Library.Binary64 (Bits)

structure BrokerConfig where
  host : String
  port : Int
  username : String
  password : String
  ssl : Bool

/-- `botNamespace` is the field `namespace`. -/
structure GatewayConfig where
  botNamespace : String
  broker : BrokerConfig
  enableCommands : Bool
  enableNotifier : Bool
  enableStatusUpdates : Bool
  enableEvents : Bool
  enableExternalEvents : Bool
  enableLogHandler : Bool
  healthCheckInterval : Bits
  consecutiveFailureThreshold : Int
  restartShortDelay : Bits
  restartLongDelay : Bits
  externalEventQueueSize : Int
  commandTimeout : Bits

/-- What a field is given, by its class. `other` is an object of none of the
classes before it: `None`, bytes, a `Decimal`, a list. -/
inductive Raw (Object : Type) where
  | bool (value : Bool)
  | int (value : Int)
  | float (bits : Bits)
  | str (value : String)
  | dict (entries : List (String × Raw Object))
  | broker (config : BrokerConfig)
  | other (object : Object)

variable {Object : Type}

abbrev Keywords (Object : Type) := List (String × Raw Object)

/-- pydantic's conversions to the types of the fields, each with a text when it
refuses the value, and Python's `str`. -/
structure Lax (Object : Type) where
  toStr : Raw Object → Except String String
  toBool : Raw Object → Except String Bool
  toInt : Raw Object → Except String Int
  toFloat : Raw Object → Except String Bits
  text : Raw Object → String

/-- Numbers of the type of the field stay what they are, a bool is zero or one,
and an integer keeps its sign as a float. -/
structure Lax.Documented (lax : Lax Object) : Prop where
  int : ∀ value, lax.toInt (.int value) = .ok value
  intOfBool : ∀ value, lax.toInt (.bool value) = .ok value.toInt
  float : ∀ bits, lax.toFloat (.float bits) = .ok bits
  floatOfBool : ∀ value bits, lax.toFloat (.bool value) = .ok bits →
    Binary64.isNonNegative bits = true
  floatOfInt : ∀ value bits, lax.toFloat (.int value) = .ok bits →
    (Binary64.isNonNegative bits = true ↔ 0 ≤ value)

structure FieldError where
  loc : List String
  text : String
deriving DecidableEq, Repr

/-- A model is made from all its fields, or raises the errors of all of them. -/
abbrev Validated (Value : Type) := Except (List FieldError) Value

def withField {Value Model : Type} (value : Validated Value)
    (make : Validated (Value → Model)) : Validated Model :=
  match make, value with
  | .ok make, .ok value => .ok (make value)
  | .error errors, .ok _ => .error errors
  | .ok _, .error errors => .error errors
  | .error earlier, .error errors => .error (earlier ++ errors)

/-- A field of the keywords, or its default. A default is not validated. -/
def readField {Value : Type} (keywords : Keywords Object) (name : String) (default : Value)
    (validate : Raw Object → Validated Value) : Validated Value :=
  match lookupEntry name keywords with
  | none => .ok default
  | some raw =>
      match validate raw with
      | .ok value => .ok value
      | .error errors => .error (errors.map fun error => ⟨name :: error.loc, error.text⟩)

/-- A conversion as the whole validation of a field. -/
def converted {Value : Type} (convert : Raw Object → Except String Value) (raw : Raw Object) :
    Validated Value :=
  match convert raw with
  | .ok value => .ok value
  | .error text => .error [⟨[], text⟩]

/-- `field_validator(..., mode="before")`: the conversion gets what the validator
returns, and a `ValueError` of the validator becomes an error of the field. -/
def validatedBefore {Value : Type} (validator : Raw Object → Except String (Raw Object))
    (convert : Raw Object → Except String Value) (raw : Raw Object) : Except String Value :=
  match validator raw with
  | .ok passed => convert passed
  | .error text => .error ("Value error, " ++ text)

/-- `Field(gt=0)` -/
def greaterThanZero (convert : Raw Object → Except String Int) (raw : Raw Object) :
    Except String Int :=
  (convert raw).bind fun value =>
    if 0 < value then .ok value else .error "Input should be greater than 0"

/-- `extra="forbid"` -/
def forbidExtra {Model : Type} (keywords : Keywords Object) (names : List String)
    (model : Validated Model) : Validated Model :=
  let extra := keywords.filter fun entry => !names.contains entry.1
  let refused := extra.map fun entry =>
    (⟨[entry.1], "Extra inputs are not permitted"⟩ : FieldError)
  match model with
  | .ok model => if refused.isEmpty then .ok model else .error refused
  | .error errors => .error (errors ++ refused)

/-- `v` where `isinstance(v, int)` -/
def asInt : Raw Object → Option Int
  | .bool value => some value.toInt
  | .int value => some value
  | _ => none

/-- `isinstance(v, (int, float)) and v < 0` -/
def isNegative : Raw Object → Bool
  | .float bits => Binary64.isNegative bits
  | raw => (asInt raw).any fun value => value < 0

/-- A validator that lets an integer pass when it is in range, and everything
that is no integer. -/
def checkInt (inRange : Int → Bool) (message : Raw Object → String) (raw : Raw Object) :
    Except String (Raw Object) :=
  if (asInt raw).all inRange then .ok raw else .error (message raw)

variable (lax : Lax Object)

namespace BrokerConfig

def portInRange (port : Int) : Bool := 1 ≤ port ∧ port ≤ 65535

/-- `_validate_port` -/
def validatePort : Raw Object → Except String (Raw Object) :=
  checkInt portInRange fun raw => "port must be between 1 and 65535, got " ++ lax.text raw

/-- `BrokerConfig(**keywords)` -/
def construct (keywords : Keywords Object) : Validated BrokerConfig :=
  (.ok BrokerConfig.mk : Validated _)
    |> withField (readField keywords "host" "localhost" (converted lax.toStr))
    |> withField (readField keywords "port" 1883
        (converted (validatedBefore (validatePort lax) lax.toInt)))
    |> withField (readField keywords "username" "" (converted lax.toStr))
    |> withField (readField keywords "password" "" (converted lax.toStr))
    |> withField (readField keywords "ssl" false (converted lax.toBool))

end BrokerConfig

namespace GatewayConfig

def names : List String :=
  ["namespace", "broker", "enable_commands", "enable_notifier", "enable_status_updates",
    "enable_events", "enable_external_events", "enable_log_handler", "health_check_interval",
    "consecutive_failure_threshold", "restart_short_delay", "restart_long_delay",
    "external_event_queue_size", "command_timeout"]

/-- `_validate_non_negative` -/
def validateNonNegative (raw : Raw Object) : Except String (Raw Object) :=
  if isNegative raw then .error ("timing value must be >= 0, got " ++ lax.text raw) else .ok raw

/-- `_validate_queue_size` -/
def validateQueueSize : Raw Object → Except String (Raw Object) :=
  checkInt (fun size => 0 < size) fun raw =>
    "external_event_queue_size must be > 0, got " ++ lax.text raw

/-- The default factory of `broker`. -/
def defaultBroker : BrokerConfig := ⟨"localhost", 1883, "", "", false⟩

/-- An instance is taken as it is, a `dict` is validated. -/
def readBroker : Raw Object → Validated BrokerConfig
  | .broker config => .ok config
  | .dict entries => BrokerConfig.construct lax entries
  | _ => .error [⟨[], "Input should be a valid dictionary or instance of BrokerConfig"⟩]

def timing (keywords : Keywords Object) (name : String) (default : Int) : Validated Bits :=
  readField keywords name (Binary64.ofInt default)
    (converted (validatedBefore (validateNonNegative lax) lax.toFloat))

def toggle (keywords : Keywords Object) (name : String) : Validated Bool :=
  readField keywords name true (converted lax.toBool)

/-- `GatewayConfig(**keywords)` -/
def construct (keywords : Keywords Object) : Validated GatewayConfig :=
  (.ok GatewayConfig.mk : Validated _)
    |> withField (readField keywords "namespace" "hummingbot" (converted lax.toStr))
    |> withField (readField keywords "broker" defaultBroker (readBroker lax))
    |> withField (toggle lax keywords "enable_commands")
    |> withField (toggle lax keywords "enable_notifier")
    |> withField (toggle lax keywords "enable_status_updates")
    |> withField (toggle lax keywords "enable_events")
    |> withField (toggle lax keywords "enable_external_events")
    |> withField (toggle lax keywords "enable_log_handler")
    |> withField (timing lax keywords "health_check_interval" 10)
    |> withField (readField keywords "consecutive_failure_threshold" 3
        (converted (greaterThanZero lax.toInt)))
    |> withField (timing lax keywords "restart_short_delay" 5)
    |> withField (timing lax keywords "restart_long_delay" 10)
    |> withField (readField keywords "external_event_queue_size" 1000
        (converted (validatedBefore (validateQueueSize lax) lax.toInt)))
    |> withField (timing lax keywords "command_timeout" 30)
    |> forbidExtra keywords names

end GatewayConfig

section Fields

variable {Value Model : Type}

theorem with_field_ok {value : Validated Value} {make : Validated (Value → Model)}
    {model : Model} (made : withField value make = .ok model) :
    ∃ rest field, make = .ok rest ∧ value = .ok field ∧ rest field = model := by
  cases make with
  | error earlier => cases value <;> cases made
  | ok rest =>
      cases value with
      | error errors => cases made
      | ok field => exact ⟨rest, field, rfl, rfl, by injection made⟩

theorem read_field_ok {keywords : Keywords Object} {name : String} {default value : Value}
    {validate : Raw Object → Validated Value}
    (read : readField keywords name default validate = .ok value) :
    (lookupEntry name keywords = none ∧ value = default) ∨
      ∃ raw, lookupEntry name keywords = some raw ∧ validate raw = .ok value := by
  unfold readField at read
  cases given : lookupEntry name keywords with
  | none =>
      rw [given] at read
      injection read with same
      exact .inl ⟨rfl, same.symm⟩
  | some raw =>
      rw [given] at read
      refine .inr ⟨raw, rfl, ?_⟩
      cases validated : validate raw with
      | error errors => simp only [validated, reduceCtorEq] at read
      | ok field =>
          simp only [validated, Except.ok.injEq] at read
          rw [read]

theorem converted_ok {convert : Raw Object → Except String Value} {raw : Raw Object}
    {value : Value} (accepted : converted convert raw = .ok value) : convert raw = .ok value := by
  unfold converted at accepted
  cases done : convert raw with
  | error text => simp only [done, reduceCtorEq] at accepted
  | ok field =>
      simp only [done, Except.ok.injEq] at accepted
      rw [accepted]

theorem validated_before_ok {validator : Raw Object → Except String (Raw Object)}
    {convert : Raw Object → Except String Value} {raw : Raw Object} {value : Value}
    (accepted : validatedBefore validator convert raw = .ok value) :
    ∃ passed, validator raw = .ok passed ∧ convert passed = .ok value := by
  unfold validatedBefore at accepted
  cases checked : validator raw with
  | error text => simp only [checked, reduceCtorEq] at accepted
  | ok passed => exact ⟨passed, rfl, by simpa only [checked] using accepted⟩

end Fields

theorem greater_than_zero_ok {convert : Raw Object → Except String Int} {raw : Raw Object}
    {value : Int} (accepted : greaterThanZero convert raw = .ok value) : 0 < value := by
  unfold greaterThanZero at accepted
  cases done : convert raw with
  | error text => simp only [done, Except.bind, reduceCtorEq] at accepted
  | ok number =>
      simp only [done, Except.bind] at accepted
      split at accepted
      · next positive =>
          injection accepted with same
          rwa [← same]
      · cases accepted

theorem forbid_extra_ok {Model : Type} {keywords : Keywords Object} {names : List String}
    {made : Validated Model} {model : Model}
    (accepted : forbidExtra keywords names made = .ok model) : made = .ok model := by
  unfold forbidExtra at accepted
  cases made with
  | error errors => cases accepted
  | ok built =>
      simp only at accepted
      split at accepted
      · exact accepted
      · cases accepted

theorem check_int_ok {inRange : Int → Bool} {message : Raw Object → String}
    {raw passed : Raw Object} (accepted : checkInt inRange message raw = .ok passed) :
    passed = raw ∧ ∀ value, asInt raw = some value → inRange value = true := by
  unfold checkInt at accepted
  split at accepted
  · next checked =>
      injection accepted with same
      refine ⟨same.symm, fun value isInt => ?_⟩
      simpa only [isInt, Option.all_some] using checked
  · cases accepted

structure BrokerConfig.ReadFrom (keywords : Keywords Object) (config : BrokerConfig) : Prop where
  host : readField keywords "host" "localhost" (converted lax.toStr) = .ok config.host
  port : readField keywords "port" 1883
    (converted (validatedBefore (validatePort lax) lax.toInt)) = .ok config.port
  username : readField keywords "username" "" (converted lax.toStr) = .ok config.username
  password : readField keywords "password" "" (converted lax.toStr) = .ok config.password
  ssl : readField keywords "ssl" false (converted lax.toBool) = .ok config.ssl

structure GatewayConfig.ReadFrom (keywords : Keywords Object) (config : GatewayConfig) :
    Prop where
  botNamespace : readField keywords "namespace" "hummingbot" (converted lax.toStr) =
    .ok config.botNamespace
  broker : readField keywords "broker" defaultBroker (readBroker lax) = .ok config.broker
  enableCommands : toggle lax keywords "enable_commands" = .ok config.enableCommands
  enableNotifier : toggle lax keywords "enable_notifier" = .ok config.enableNotifier
  enableStatusUpdates : toggle lax keywords "enable_status_updates" =
    .ok config.enableStatusUpdates
  enableEvents : toggle lax keywords "enable_events" = .ok config.enableEvents
  enableExternalEvents : toggle lax keywords "enable_external_events" =
    .ok config.enableExternalEvents
  enableLogHandler : toggle lax keywords "enable_log_handler" = .ok config.enableLogHandler
  healthCheckInterval : timing lax keywords "health_check_interval" 10 =
    .ok config.healthCheckInterval
  consecutiveFailureThreshold : readField keywords "consecutive_failure_threshold" 3
    (converted (greaterThanZero lax.toInt)) = .ok config.consecutiveFailureThreshold
  restartShortDelay : timing lax keywords "restart_short_delay" 5 = .ok config.restartShortDelay
  restartLongDelay : timing lax keywords "restart_long_delay" 10 = .ok config.restartLongDelay
  externalEventQueueSize : readField keywords "external_event_queue_size" 1000
    (converted (validatedBefore (validateQueueSize lax) lax.toInt)) =
    .ok config.externalEventQueueSize
  commandTimeout : timing lax keywords "command_timeout" 30 = .ok config.commandTimeout

variable {lax}

theorem BrokerConfig.construct_ok {keywords : Keywords Object} {config : BrokerConfig}
    (accepted : construct lax keywords = .ok config) : ReadFrom lax keywords config := by
  obtain ⟨_, _, upToPassword, readSsl, rfl⟩ := with_field_ok accepted
  obtain ⟨_, _, upToUsername, readPassword, rfl⟩ := with_field_ok upToPassword
  obtain ⟨_, _, upToPort, readUsername, rfl⟩ := with_field_ok upToUsername
  obtain ⟨_, _, upToHost, readPort, rfl⟩ := with_field_ok upToPort
  obtain ⟨_, _, bare, readHost, rfl⟩ := with_field_ok upToHost
  cases bare
  exact ⟨readHost, readPort, readUsername, readPassword, readSsl⟩

theorem GatewayConfig.construct_ok {keywords : Keywords Object} {config : GatewayConfig}
    (accepted : construct lax keywords = .ok config) : ReadFrom lax keywords config := by
  obtain ⟨_, _, upToQueueSize, readTimeout, rfl⟩ := with_field_ok (forbid_extra_ok accepted)
  obtain ⟨_, _, upToLongDelay, readQueueSize, rfl⟩ := with_field_ok upToQueueSize
  obtain ⟨_, _, upToShortDelay, readLongDelay, rfl⟩ := with_field_ok upToLongDelay
  obtain ⟨_, _, upToThreshold, readShortDelay, rfl⟩ := with_field_ok upToShortDelay
  obtain ⟨_, _, upToInterval, readThreshold, rfl⟩ := with_field_ok upToThreshold
  obtain ⟨_, _, upToLogHandler, readInterval, rfl⟩ := with_field_ok upToInterval
  obtain ⟨_, _, upToExternalEvents, readLogHandler, rfl⟩ := with_field_ok upToLogHandler
  obtain ⟨_, _, upToEvents, readExternalEvents, rfl⟩ := with_field_ok upToExternalEvents
  obtain ⟨_, _, upToStatusUpdates, readEvents, rfl⟩ := with_field_ok upToEvents
  obtain ⟨_, _, upToNotifier, readStatusUpdates, rfl⟩ := with_field_ok upToStatusUpdates
  obtain ⟨_, _, upToCommands, readNotifier, rfl⟩ := with_field_ok upToNotifier
  obtain ⟨_, _, upToBroker, readCommands, rfl⟩ := with_field_ok upToCommands
  obtain ⟨_, _, upToNamespace, readBroker, rfl⟩ := with_field_ok upToBroker
  obtain ⟨_, _, bare, readNamespace, rfl⟩ := with_field_ok upToNamespace
  cases bare
  exact ⟨readNamespace, readBroker, readCommands, readNotifier, readStatusUpdates, readEvents,
    readExternalEvents, readLogHandler, readInterval, readThreshold, readShortDelay,
    readLongDelay, readQueueSize, readTimeout⟩

def ErrorsAre {Value : Type} (kind : FieldError → Prop) (made : Validated Value) : Prop :=
  ∀ errors, made = .error errors → ∀ error ∈ errors, kind error

def Names (keywords : Keywords Object) (error : FieldError) : Prop :=
  ∃ name raw, (name, raw) ∈ keywords ∧ error.loc.head? = some name

section Errors

variable {Value Model : Type} {kind : FieldError → Prop}

theorem ok_errors (value : Value) : ErrorsAre kind (.ok value) := by
  intro errors failed
  cases failed

theorem with_field_errors {value : Validated Value} {make : Validated (Value → Model)}
    (earlier : ErrorsAre kind make) (errors : ErrorsAre kind value) :
    ErrorsAre kind (withField value make) := by
  intro all failed error member
  cases make with
  | ok rest =>
      cases value with
      | ok field => cases failed
      | error own =>
          injection failed with same
          exact errors own rfl error (same ▸ member)
  | error first =>
      cases value with
      | ok field =>
          injection failed with same
          exact earlier first rfl error (same ▸ member)
      | error own =>
          injection failed with same
          rw [← same, List.mem_append] at member
          obtain before | here := member
          · exact earlier first rfl error before
          · exact errors own rfl error here

theorem read_field_errors {keywords : Keywords Object} (name : String) (default : Value)
    (validate : Raw Object → Validated Value) :
    ErrorsAre (Names keywords) (readField keywords name default validate) := by
  intro all failed error member
  unfold readField at failed
  cases given : lookupEntry name keywords with
  | none =>
      rw [given] at failed
      cases failed
  | some raw =>
      cases validated : validate raw with
      | ok value => simp only [given, validated, reduceCtorEq] at failed
      | error errors =>
          simp only [given, validated, Except.error.injEq] at failed
          rw [← failed] at member
          obtain ⟨inner, _, rfl⟩ := List.mem_map.mp member
          exact ⟨name, raw, OrderedDict.mem_of_lookup given, rfl⟩

theorem forbid_extra_errors {keywords : Keywords Object} {model : Validated Model}
    (names : List String) (errors : ErrorsAre (Names keywords) model) :
    ErrorsAre (Names keywords) (forbidExtra keywords names model) := by
  have refused : ∀ error ∈ (keywords.filter fun entry => !names.contains entry.1).map
      (fun entry => (⟨[entry.1], "Extra inputs are not permitted"⟩ : FieldError)),
      Names keywords error := by
    intro error member
    obtain ⟨entry, extra, rfl⟩ := List.mem_map.mp member
    exact ⟨entry.1, entry.2, List.mem_of_mem_filter extra, rfl⟩
  intro all failed error member
  unfold forbidExtra at failed
  cases model with
  | ok built =>
      simp only at failed
      split at failed
      · cases failed
      · injection failed with same
        exact refused error (same ▸ member)
  | error own =>
      injection failed with same
      rw [← same, List.mem_append] at member
      obtain before | here := member
      · exact errors own rfl error before
      · exact refused error here

end Errors

theorem BrokerConfig.errors_name_keywords (keywords : Keywords Object) :
    ErrorsAre (Names keywords) (construct lax keywords) := by
  unfold construct
  repeat' apply with_field_errors
  all_goals first
    | exact ok_errors _
    | exact read_field_errors _ _ _

theorem GatewayConfig.errors_name_keywords (keywords : Keywords Object) :
    ErrorsAre (Names keywords) (construct lax keywords) := by
  unfold construct
  apply forbid_extra_errors
  repeat' apply with_field_errors
  all_goals first
    | exact ok_errors _
    | exact read_field_errors _ _ _

def Escapes {Value : Type} (seen : Raw Object → Bool) (convert : Raw Object → Except String Value)
    (inRange : Value → Bool) (raw : Raw Object) : Prop :=
  seen raw = false ∧ ∃ value, convert raw = .ok value ∧ inRange value = false

/-- The keywords give the field a value with the property. -/
def Given (keywords : Keywords Object) (name : String) (property : Raw Object → Prop) : Prop :=
  ∃ raw, lookupEntry name keywords = some raw ∧ property raw

/-- A validator that returns what it is given, and rejects what it sees to be
out of range. -/
def Guards {Value : Type} (validator : Raw Object → Except String (Raw Object))
    (seen : Raw Object → Bool) (convert : Raw Object → Except String Value)
    (inRange : Value → Bool) : Prop :=
  ∀ raw passed, validator raw = .ok passed →
    passed = raw ∧ (seen raw = true → ∀ value, convert raw = .ok value → inRange value = true)

theorem field_in_range_iff {Value : Type} {keywords : Keywords Object} {name : String}
    {default value : Value} {validator : Raw Object → Except String (Raw Object)}
    {seen : Raw Object → Bool} {convert : Raw Object → Except String Value}
    {inRange : Value → Bool} (guards : Guards validator seen convert inRange)
    (defaultInRange : inRange default = true)
    (read : readField keywords name default (converted (validatedBefore validator convert)) =
      .ok value) :
    inRange value = true ↔ ¬ Given keywords name (Escapes seen convert inRange) := by
  obtain ⟨absent, rfl⟩ | ⟨raw, given, accepted⟩ := read_field_ok read
  · simp only [defaultInRange, Given, absent, reduceCtorEq, false_and, exists_false,
      not_false_eq_true]
  · obtain ⟨passed, validated, done⟩ := validated_before_ok (converted_ok accepted)
    obtain ⟨rfl, checked⟩ := guards raw passed validated
    constructor
    · rintro inside ⟨other, again, _, out, doneAgain, outside⟩
      obtain rfl : passed = other := by simpa only [given, Option.some.injEq] using again
      obtain rfl : value = out := by simpa only [done, Except.ok.injEq] using doneAgain
      rw [inside] at outside
      cases outside
    · intro nothing
      cases looked : seen passed with
      | true => exact checked looked value done
      | false =>
          by_contra outside
          exact nothing ⟨passed, given, looked, value, done, by simpa using outside⟩

/-- `isinstance(v, int)` -/
def isInt (raw : Raw Object) : Bool := (asInt raw).isSome

/-- The numbers that `v < 0` decides: no NaN is one. -/
def isOrdered : Raw Object → Bool
  | .float bits => !Binary64.isNaN bits
  | raw => isInt raw

theorem check_int_guards (documented : lax.Documented) (inRange : Int → Bool)
    (message : Raw Object → String) :
    Guards (checkInt inRange message) isInt lax.toInt inRange := by
  intro raw passed accepted
  obtain ⟨same, checked⟩ := check_int_ok accepted
  refine ⟨same, fun looked value done => ?_⟩
  obtain ⟨number, isNumber⟩ := Option.isSome_iff_exists.mp looked
  have kept : lax.toInt raw = .ok number := by
    cases raw with
    | bool truth =>
        cases isNumber
        exact documented.intOfBool truth
    | int whole =>
        cases isNumber
        exact documented.int _
    | _ => cases isNumber
  obtain rfl : number = value := by simpa only [kept, Except.ok.injEq] using done
  exact checked number isNumber

theorem non_negative_guards (documented : lax.Documented) :
    Guards (GatewayConfig.validateNonNegative lax) isOrdered lax.toFloat
      Binary64.isNonNegative := by
  intro raw passed accepted
  unfold GatewayConfig.validateNonNegative at accepted
  split at accepted
  · cases accepted
  next positive =>
  injection accepted with same
  refine ⟨same.symm, fun looked value done => ?_⟩
  cases raw with
  | bool truth => exact documented.floatOfBool truth value done
  | int whole =>
      refine (documented.floatOfInt whole value done).mpr ?_
      simpa [isNegative, asInt] using positive
  | float bits =>
      obtain rfl : bits = value := by
        simpa only [documented.float, Except.ok.injEq] using done
      refine (Binary64.non_negative_iff bits).mpr ⟨?_, ?_⟩
      · simpa [isOrdered] using looked
      · simpa only [isNegative, Bool.not_eq_true] using positive
  | _ => cases looked

def BrokerConfig.InRange (config : BrokerConfig) : Prop := 1 ≤ config.port ∧ config.port ≤ 65535

structure GatewayConfig.InRange (config : GatewayConfig) : Prop where
  broker : config.broker.InRange
  healthCheckInterval : Binary64.isNonNegative config.healthCheckInterval = true
  restartShortDelay : Binary64.isNonNegative config.restartShortDelay = true
  restartLongDelay : Binary64.isNonNegative config.restartLongDelay = true
  commandTimeout : Binary64.isNonNegative config.commandTimeout = true
  externalEventQueueSize : 0 < config.externalEventQueueSize
  consecutiveFailureThreshold : 0 < config.consecutiveFailureThreshold

variable (lax)

def BrokerConfig.PortEscapes (keywords : Keywords Object) : Prop :=
  Given keywords "port" (Escapes isInt lax.toInt portInRange)

/-- The broker arrives as an instance with its port out of range, or as a `dict`
whose port escapes. -/
def GatewayConfig.BrokerEscapes : Raw Object → Prop
  | .broker config => ¬ config.InRange
  | .dict entries => BrokerConfig.PortEscapes lax entries
  | _ => False

def GatewayConfig.TimingEscapes (keywords : Keywords Object) (name : String) : Prop :=
  Given keywords name (Escapes isOrdered lax.toFloat Binary64.isNonNegative)

def GatewayConfig.QueueSizeEscapes (keywords : Keywords Object) : Prop :=
  Given keywords "external_event_queue_size" (Escapes isInt lax.toInt fun size => 0 < size)

def GatewayConfig.timings : List String :=
  ["health_check_interval", "restart_short_delay", "restart_long_delay", "command_timeout"]

def GatewayConfig.SomethingEscapes (keywords : Keywords Object) : Prop :=
  Given keywords "broker" (BrokerEscapes lax) ∨
    (∃ name ∈ timings, TimingEscapes lax keywords name) ∨ QueueSizeEscapes lax keywords

variable {lax}

theorem BrokerConfig.in_range_iff (config : BrokerConfig) :
    config.InRange ↔ portInRange config.port = true := by
  simp only [InRange, portInRange, decide_eq_true_eq]

theorem BrokerConfig.accepted_in_range_iff (documented : lax.Documented)
    {keywords : Keywords Object} {config : BrokerConfig}
    (accepted : construct lax keywords = .ok config) :
    config.InRange ↔ ¬ PortEscapes lax keywords := by
  rw [in_range_iff]
  exact field_in_range_iff (check_int_guards documented portInRange _) (by decide)
    (construct_ok accepted).port

theorem GatewayConfig.timing_in_range_iff (documented : lax.Documented)
    {keywords : Keywords Object} {name : String} {default : Int} {value : Bits}
    (defaultInRange : Binary64.isNonNegative (Binary64.ofInt default) = true)
    (read : timing lax keywords name default = .ok value) :
    Binary64.isNonNegative value = true ↔ ¬ TimingEscapes lax keywords name :=
  field_in_range_iff (non_negative_guards documented) defaultInRange read

theorem GatewayConfig.broker_in_range_iff (documented : lax.Documented)
    {keywords : Keywords Object} {config : BrokerConfig}
    (read : readField keywords "broker" defaultBroker (readBroker lax) = .ok config) :
    config.InRange ↔ ¬ Given keywords "broker" (BrokerEscapes lax) := by
  obtain ⟨absent, rfl⟩ | ⟨raw, given, accepted⟩ := read_field_ok read
  · have default : defaultBroker.InRange := by
      rw [BrokerConfig.in_range_iff]
      decide
    simp only [default, Given, absent, reduceCtorEq, false_and, exists_false, not_false_eq_true]
  · have only : Given keywords "broker" (BrokerEscapes lax) ↔ BrokerEscapes lax raw := by
      simp only [Given, given, Option.some.injEq, exists_eq_left']
    rw [only]
    cases raw with
    | broker ready =>
        injection accepted with same
        rw [← same]
        exact not_not.symm
    | dict entries => exact BrokerConfig.accepted_in_range_iff documented accepted
    | _ => cases accepted

theorem GatewayConfig.threshold_positive {keywords : Keywords Object} {config : GatewayConfig}
    (read : ReadFrom lax keywords config) : 0 < config.consecutiveFailureThreshold := by
  obtain ⟨_, default⟩ | ⟨raw, _, accepted⟩ := read_field_ok read.consecutiveFailureThreshold
  · rw [default]
    decide
  · exact greater_than_zero_ok (converted_ok accepted)

/-- An accepted configuration is in range unless a value of a type that its check
passes over is converted to a number that is not. -/
theorem accepted_in_range_iff_nothing_escapes (documented : lax.Documented) :
    (∀ keywords config, BrokerConfig.construct lax keywords = .ok config →
      (config.InRange ↔ ¬ BrokerConfig.PortEscapes lax keywords)) ∧
    (∀ keywords config, GatewayConfig.construct lax keywords = .ok config →
      (config.InRange ↔ ¬ GatewayConfig.SomethingEscapes lax keywords)) := by
  refine ⟨fun _ _ accepted => BrokerConfig.accepted_in_range_iff documented accepted,
    fun keywords config accepted => ?_⟩
  have read := GatewayConfig.construct_ok accepted
  have broker := GatewayConfig.broker_in_range_iff documented read.broker
  have interval := GatewayConfig.timing_in_range_iff documented (by decide)
    read.healthCheckInterval
  have shortDelay := GatewayConfig.timing_in_range_iff documented (by decide)
    read.restartShortDelay
  have longDelay := GatewayConfig.timing_in_range_iff documented (by decide)
    read.restartLongDelay
  have timeout := GatewayConfig.timing_in_range_iff documented (by decide) read.commandTimeout
  have queueSize := field_in_range_iff (check_int_guards documented (fun size => 0 < size) _)
    (by decide) read.externalEventQueueSize
  constructor
  · rintro inRange (escapes | ⟨name, member, escapes⟩ | escapes)
    · exact broker.mp inRange.broker escapes
    · simp only [GatewayConfig.timings, List.mem_cons, List.not_mem_nil, or_false] at member
      obtain rfl | rfl | rfl | rfl := member
      · exact interval.mp inRange.healthCheckInterval escapes
      · exact shortDelay.mp inRange.restartShortDelay escapes
      · exact longDelay.mp inRange.restartLongDelay escapes
      · exact timeout.mp inRange.commandTimeout escapes
    · exact queueSize.mp (decide_eq_true inRange.externalEventQueueSize) escapes
  · intro nothing
    have noTiming : ∀ name ∈ GatewayConfig.timings,
        ¬ GatewayConfig.TimingEscapes lax keywords name :=
      fun name member escapes => nothing (.inr (.inl ⟨name, member, escapes⟩))
    exact
      { broker := broker.mpr fun escapes => nothing (.inl escapes)
        healthCheckInterval := interval.mpr (noTiming _ (by decide))
        restartShortDelay := shortDelay.mpr (noTiming _ (by decide))
        restartLongDelay := longDelay.mpr (noTiming _ (by decide))
        commandTimeout := timeout.mpr (noTiming _ (by decide))
        externalEventQueueSize :=
          of_decide_eq_true (queueSize.mpr fun escapes => nothing (.inr (.inr escapes)))
        consecutiveFailureThreshold := GatewayConfig.threshold_positive read }

def decimalDigits : List Char → Nat → Option Nat
  | [], value => some value
  | digit :: rest, value =>
      if digit.isDigit then decimalDigits rest (10 * value + (digit.toNat - '0'.toNat))
      else none

def decimal (text : String) : Option Int :=
  match text.toList with
  | [] => none
  | ['-'] => none
  | '-' :: digits => (decimalDigits digits 0).map fun value => -(value : Int)
  | digits => (decimalDigits digits 0).map fun value => (value : Int)

def numberOf (value : Int) : Except String Bits :=
  if value.natAbs < 2 ^ 53 then .ok (Binary64.ofInt value)
  else .error "Input should be a valid number"

/-- The conversions on whole numbers and decimal strings of them. -/
def plainLax : Lax Unit where
  toStr
    | .str value => .ok value
    | _ => .error "Input should be a valid string"
  toBool
    | .bool value => .ok value
    | .int 0 => .ok false
    | .int 1 => .ok true
    | _ => .error "Input should be a valid boolean"
  toInt
    | .bool value => .ok value.toInt
    | .int value => .ok value
    | .float bits =>
        match Binary64.integer bits with
        | some value => .ok value
        | none => .error "Input should be a valid integer, got a number with a fractional part"
    | .str text =>
        match decimal text with
        | some value => .ok value
        | none => .error "Input should be a valid integer, unable to parse string as an integer"
    | _ => .error "Input should be a valid integer"
  toFloat
    | .bool value => .ok (Binary64.ofInt value.toInt)
    | .int value => numberOf value
    | .float bits => .ok bits
    | .str text =>
        match decimal text with
        | some value => numberOf value
        | none => .error "Input should be a valid number, unable to parse string as a number"
    | _ => .error "Input should be a valid number"
  text
    | .bool value => if value then "True" else "False"
    | .int value => toString value
    | .str text => text
    | _ => ""

theorem plain_lax_documented : plainLax.Documented where
  int _ := rfl
  intOfBool _ := rfl
  float _ := rfl
  floatOfBool value bits converted := by
    injection converted with same
    rw [← same]
    cases value <;> decide
  floatOfInt value bits converted := by
    change numberOf value = .ok bits at converted
    unfold numberOf at converted
    split at converted
    · next bounded =>
        injection converted with same
        rw [← same]
        exact Binary64.of_int_non_negative_iff bounded
    · cases converted

/-- `BrokerConfig(port="1883")` and `GatewayConfig(restart_short_delay=True)` -/
theorem plain_values_in_range :
    (⟨"localhost", 1883, "", "", false⟩ : BrokerConfig).InRange ∧
      ∃ config, GatewayConfig.construct plainLax [("restart_short_delay", .bool true)] =
        .ok config ∧ config.InRange := by
  constructor
  · refine ((accepted_in_range_iff_nothing_escapes plain_lax_documented).1
      [("port", .str "1883")] _ rfl).mpr ?_
    rintro ⟨raw, given, _, value, converted, outside⟩
    cases given
    cases converted
    exact absurd outside (by decide)
  · refine ⟨_, rfl, ((accepted_in_range_iff_nothing_escapes plain_lax_documented).2
      [("restart_short_delay", .bool true)] _ rfl).mpr ?_⟩
    rintro (⟨raw, given, _⟩ | ⟨name, member, raw, given, looked, _⟩ | ⟨raw, given, _⟩)
    · cases given
    · simp only [GatewayConfig.timings, List.mem_cons, List.not_mem_nil, or_false] at member
      obtain rfl | rfl | rfl | rfl := member
      · cases given
      · cases given
        cases looked
      · cases given
      · cases given
    · cases given

/-- `BrokerConfig(port="70000")` and `GatewayConfig(health_check_interval="-1")` -/
theorem numeric_strings_unchecked :
    (∃ config, BrokerConfig.construct plainLax [("port", .str "70000")] = .ok config ∧
      ¬ config.InRange) ∧
    ∃ config, GatewayConfig.construct plainLax [("health_check_interval", .str "-1")] =
      .ok config ∧ ¬ config.InRange := by
  refine ⟨⟨_, rfl, ?_⟩, ⟨_, rfl, ?_⟩⟩
  · rintro ⟨_, below⟩
    exact absurd below (by decide)
  · intro inRange
    exact absurd inRange.healthCheckInterval (by decide)

end RemoteIface.Protocols.Config
