import RemoteIface.Commlib.Payload
import RemoteIface.Gateway.LogHandler

/-!
`emit` of the log handler, the `publish` it calls, and what `publish` itself logs
on `remote_iface.Publisher`. That logger is in the tree the handler is attached
to, so a record of the publish path can come back to `emit`. The recursion is
bounded by a stack depth: an `emit` that finds no stack left ends exhausted.
-/

namespace RemoteIface.Gateway.LogFeedback

set_option autoImplicit false

open RemoteIface.Commlib.Payload
open RemoteIface.Library.Loggers
open RemoteIface.Gateway.LogHandler

abbrev Level := Nat

def levelDebug : Level := 10

def levelWarning : Level := 30

/-- `logging.getLevelName`, of these two. -/
def levelName (level : Level) : String :=
  if level = levelDebug then "DEBUG" else "WARNING"

/-- What `emit` reads of a `LogRecord`; `message` is what a formatter makes its
text from. The time is a float, kept as its bits. -/
structure LogRecord where
  created : UInt64
  name : String
  levelno : Level
  levelname : String
  message : String
deriving DecidableEq, Repr

structure LogMessage where
  timestamp : UInt64
  msg : String
  levelNo : Level
  levelName : String
  loggerName : String
deriving DecidableEq, Repr

/-- The logging system, the handler with its level and its formatter, and the
publisher with its node context. `enabledFor` is `isEnabledFor`. The clock and
the queue answer by the number of `publish` calls made so far. -/
structure Setup (Logger : Type*) where
  logging : Logging Logger
  tree : LoggerTree Logger
  enabledFor : Logger → Level → Bool
  clock : Nat → UInt64
  handler : MQTTLogHandler Logger
  level : Level
  format : LogRecord → Except Failure String
  topicRepr : String
  started : Bool
  enqueueOutgoing : Nat → Except Failure Unit

/-- `published` are the messages `publish` was called with, `sent` those that it
has enqueued. -/
structure State where
  publishFailureCount : Nat
  published : List LogMessage
  sent : List LogMessage
  exhausted : Bool
deriving DecidableEq, Repr

def State.idle (publishFailureCount : Nat) : State := ⟨publishFailureCount, [], [], false⟩

namespace Setup

variable {Logger : Type*} (setup : Setup Logger)

/-- `get_logger("remote_iface.Publisher")` -/
def publisherLogger : Logger := setup.logging.getLogger "remote_iface.Publisher"

def makeRecord (level : Level) (text : String) (calls : Nat) : LogRecord where
  created := setup.clock calls
  name := "remote_iface.Publisher"
  levelno := level
  levelname := levelName level
  message := text

/-- The body of the loop in `callHandlers`. -/
def handle (emit : LogRecord → State → State) (record : LogRecord) (state : State) :
    Handler → State
  | .mqtt => if setup.level ≤ record.levelno then emit record state else state
  | .other _ => state

/-- `self._logger.debug` and `self._logger.warning` of the publisher. -/
def log (emit : LogRecord → State → State) (level : Level) (text : String) (state : State) :
    State :=
  if setup.enabledFor setup.publisherLogger level then
    (callHandlers setup.tree setup.handler.attachments.handlers setup.publisherLogger).foldl
      (setup.handle emit (setup.makeRecord level text state.published.length)) state
  else state

def stoppedText : String :=
  "publish() called on stopped Publisher(topic=" ++ setup.topicRepr ++ ") — dropping"

def failedText (failure : Failure) : String :=
  "Publisher(topic=" ++ setup.topicRepr ++ ") publish failed: " ++ failure.error.className ++
    ": " ++ failure.text

/-- `Publisher.publish`. `serialize` does not raise on the numbers and strings of
a `LogMessage`. -/
def publish (emit : LogRecord → State → State) (message : LogMessage) (state : State) : State :=
  let called := { state with published := state.published ++ [message] }
  if setup.started then
    match setup.enqueueOutgoing state.published.length with
    | .ok () => { called with sent := called.sent ++ [message] }
    | .error failure =>
        setup.log emit levelWarning (setup.failedText failure)
          { called with publishFailureCount := called.publishFailureCount + 1 }
  else
    let logged := setup.log emit levelDebug setup.stoppedText called
    { logged with publishFailureCount := logged.publishFailureCount + 1 }

/-- `emit`, with this much stack left. What formatting raises is suppressed. -/
def emit : Nat → LogRecord → State → State
  | 0, _, state => { state with exhausted := true }
  | depth + 1, record, state =>
      if setup.handler.publisher then
        match setup.format record with
        | .error _ => state
        | .ok msg =>
            setup.publish (emit depth)
              ⟨record.created, msg, record.levelno, record.levelname, record.name⟩ state
      else state

/-- What `publish` logs after this many calls before it. -/
def ownLog (calls : Nat) : Option (Level × String) :=
  if setup.started then
    match setup.enqueueOutgoing calls with
    | .ok () => none
    | .error failure => some (levelWarning, setup.failedText failure)
  else some (levelDebug, setup.stoppedText)

/-- A record of this level, logged by the publisher, comes to `emit`. -/
def Hears (level : Level) : Prop :=
  setup.enabledFor setup.publisherLogger level = true ∧ setup.level ≤ level ∧
    .mqtt ∈ callHandlers setup.tree setup.handler.attachments.handlers setup.publisherLogger

/-- `publish` is called for the record. -/
def Publishes (record : LogRecord) : Prop :=
  setup.handler.publisher = true ∧ ∃ msg, setup.format record = .ok msg

/-- The call of `publish` after this many others logs a record that leads to
another one. -/
def FeedsBack (calls : Nat) : Prop :=
  ∃ level text, setup.ownLog calls = some (level, text) ∧ setup.Hears level ∧
    setup.Publishes (setup.makeRecord level text (calls + 1))

/-- With enough stack the record is handled without exhausting it, with at most
one call of `publish`. -/
def Settles (record : LogRecord) (publishFailureCount : Nat) : Prop :=
  ∃ enough, ∀ depth ≥ enough,
    (setup.emit depth record (.idle publishFailureCount)).exhausted = false ∧
      (setup.emit depth record (.idle publishFailureCount)).published.length ≤ 1

structure Grows (before after : State) : Prop where
  calls : before.published.length ≤ after.published.length
  exhausted : before.exhausted = true → after.exhausted = true

theorem Grows.refl (state : State) : Grows state state := ⟨Nat.le_refl _, fun same => same⟩

theorem Grows.trans {first second third : State} (early : Grows first second)
    (late : Grows second third) : Grows first third :=
  ⟨Nat.le_trans early.calls late.calls, fun ended => late.exhausted (early.exhausted ended)⟩

/-- At least this many calls of `publish`, or no stack left. -/
def Calls (count : Nat) (before after : State) : Prop :=
  after.exhausted = true ∨ before.published.length + count ≤ after.published.length

def Overruns (count : Nat) (before after : State) : Prop :=
  after.exhausted = true ∧ before.published.length + count ≤ after.published.length

structure Widens (relation : State → State → Prop) : Prop where
  before : ∀ first second third, Grows first second → relation second third → relation first third
  after : ∀ first second third, relation first second → Grows second third → relation first third

theorem calls_widens (count : Nat) : Widens (Calls count) where
  before := by
    intro first second third early late
    rcases late with ended | called
    · exact .inl ended
    · right
      have kept := early.calls
      omega
  after := by
    intro first second third early late
    rcases early with ended | called
    · exact .inl (late.exhausted ended)
    · right
      have kept := late.calls
      omega

theorem overruns_widens (count : Nat) : Widens (Overruns count) where
  before := by
    intro first second third early late
    have kept := early.calls
    have called := late.2
    constructor
    · exact late.1
    · omega
  after := by
    intro first second third early late
    have kept := late.calls
    have called := early.2
    constructor
    · exact late.exhausted early.1
    · omega

theorem fold_grows {Item : Type*} {f : State → Item → State}
    (each : ∀ state item, Grows state (f state item)) (items : List Item) (state : State) :
    Grows state (items.foldl f state) := by
  induction items generalizing state with
  | nil => exact Grows.refl state
  | cons item rest induction => exact (each state item).trans (induction (f state item))

theorem fold_relates {Item : Type*} {f : State → Item → State}
    (each : ∀ state item, Grows state (f state item)) {relation : State → State → Prop}
    (widens : Widens relation) {one : Item} (relates : ∀ state, relation state (f state one))
    {items : List Item} (member : one ∈ items) (state : State) :
    relation state (items.foldl f state) := by
  obtain ⟨before, after, split⟩ := List.append_of_mem member
  rw [split, List.foldl_append, List.foldl_cons]
  apply widens.before _ _ _ (fold_grows each before state)
  apply widens.after _ _ _ (relates _)
  exact fold_grows each after _

section

variable {emit : LogRecord → State → State}

theorem handle_grows (each : ∀ record state, Grows state (emit record state)) (record : LogRecord)
    (state : State) (handler : Handler) : Grows state (setup.handle emit record state handler) := by
  cases handler with
  | other id => exact Grows.refl state
  | mqtt =>
      change Grows state (if setup.level ≤ record.levelno then emit record state else state)
      split
      · exact each record state
      · exact Grows.refl state

theorem log_grows (each : ∀ record state, Grows state (emit record state)) (level : Level)
    (text : String) (state : State) : Grows state (setup.log emit level text state) := by
  unfold log
  split
  · exact fold_grows (handle_grows setup each _) _ state
  · exact Grows.refl state

/-- A record that the handler hears does what `emit` does with it. -/
theorem log_relates (each : ∀ record state, Grows state (emit record state))
    {relation : State → State → Prop} (widens : Widens relation) {level : Level} {text : String}
    (hears : setup.Hears level) (state : State)
    (relates : ∀ later, relation later
      (emit (setup.makeRecord level text state.published.length) later)) :
    relation state (setup.log emit level text state) := by
  obtain ⟨enabled, loud, member⟩ := hears
  unfold log
  rw [if_pos enabled]
  apply fold_relates (handle_grows setup each _) widens (fun later => ?_) member
  change relation later (if setup.level ≤ level then _ else later)
  rw [if_pos loud]
  exact relates later

/-- What `publish` does after it was called: it logs, or it does not. -/
def afterCall (setup : Setup Logger) (emit : LogRecord → State → State) (calls : Nat)
    (called : State) : State :=
  match setup.ownLog calls with
  | none => called
  | some (level, text) => setup.log emit level text called

/-- Up to the counter and what is sent, `publish` is its call and its own log. -/
theorem publish_after_call (emit : LogRecord → State → State) (message : LogMessage)
    (state : State) :
    ∃ called, called.published = state.published ++ [message] ∧
      called.exhausted = state.exhausted ∧
      (setup.publish emit message state).published =
        (setup.afterCall emit state.published.length called).published ∧
      (setup.publish emit message state).exhausted =
        (setup.afterCall emit state.published.length called).exhausted := by
  unfold publish afterCall ownLog
  cases setup.started with
  | false =>
      exact ⟨{ state with published := state.published ++ [message] }, rfl, rfl, rfl, rfl⟩
  | true =>
      cases setup.enqueueOutgoing state.published.length with
      | ok done =>
          exact ⟨{ state with published := state.published ++ [message] }, rfl, rfl, rfl, rfl⟩
      | error failure =>
          exact ⟨{ state with
            published := state.published ++ [message]
            publishFailureCount := state.publishFailureCount + 1 }, rfl, rfl, rfl, rfl⟩

theorem after_call_grows (each : ∀ record state, Grows state (emit record state)) (calls : Nat)
    (called : State) : Grows called (setup.afterCall emit calls called) := by
  unfold afterCall
  split
  · exact Grows.refl called
  · exact log_grows setup each _ _ called

theorem publish_grows (each : ∀ record state, Grows state (emit record state))
    (message : LogMessage) (state : State) :
    state.published.length + 1 ≤ (setup.publish emit message state).published.length ∧
      (state.exhausted = true → (setup.publish emit message state).exhausted = true) := by
  obtain ⟨called, made, same, published, exhausted⟩ :=
    publish_after_call setup emit message state
  have grows := after_call_grows setup each state.published.length called
  have longer := grows.calls
  rw [made, List.length_append, List.length_singleton] at longer
  constructor
  · rw [published]
    exact longer
  · intro ended
    rw [exhausted]
    exact grows.exhausted (same.trans ended)

end

theorem emit_grows (depth : Nat) (record : LogRecord) (state : State) :
    Grows state (setup.emit depth record state) := by
  induction depth generalizing record state with
  | zero => exact ⟨Nat.le_refl _, fun _ => rfl⟩
  | succ depth induction =>
      unfold emit
      split
      · split
        · exact Grows.refl state
        · rename_i msg formatted
          have grown := publish_grows setup induction
            ⟨record.created, msg, record.levelno, record.levelname, record.name⟩ state
          constructor
          · have longer := grown.1
            omega
          · exact grown.2
      · exact Grows.refl state

section

variable {setup}

/-- `emit` with some stack left, for a record that formats. -/
theorem emit_publishes {record : LogRecord} (publishes : setup.Publishes record) (depth : Nat)
    (state : State) :
    ∃ message, setup.emit (depth + 1) record state =
      setup.publish (setup.emit depth) message state := by
  obtain ⟨publisher, msg, formatted⟩ := publishes
  refine ⟨⟨record.created, msg, record.levelno, record.levelname, record.name⟩, ?_⟩
  rw [emit, if_pos publisher, formatted]

theorem emit_calls {record : LogRecord} (publishes : setup.Publishes record) (depth : Nat)
    (state : State) : Calls 1 state (setup.emit depth record state) := by
  cases depth with
  | zero => exact .inl rfl
  | succ depth =>
      obtain ⟨message, same⟩ := emit_publishes publishes depth state
      rw [same]
      exact .inr (publish_grows setup (emit_grows setup depth) message state).1

theorem publish_feeds {calls : Nat} (feeds : setup.FeedsBack calls) (depth : Nat)
    (message : LogMessage) (state : State) (made : state.published.length = calls) :
    ∃ called record, called.published.length = calls + 1 ∧ setup.Publishes record ∧
      ∀ relation, Widens relation → (∀ later, relation later (setup.emit depth record later)) →
        ∃ after, relation called after ∧
          (setup.publish (setup.emit depth) message state).published = after.published ∧
          (setup.publish (setup.emit depth) message state).exhausted = after.exhausted := by
  obtain ⟨level, text, own, hears, publishes⟩ := feeds
  obtain ⟨called, published, _, same, exhausted⟩ :=
    publish_after_call setup (setup.emit depth) message state
  have length : called.published.length = calls + 1 := by
    rw [published, List.length_append, made, List.length_singleton]
  refine ⟨called, _, length, publishes, fun relation widens relates => ?_⟩
  refine ⟨_, ?_, same, exhausted⟩
  rw [made]
  unfold afterCall
  rw [own]
  apply log_relates setup (emit_grows setup depth) widens hears
  rw [length]
  exact relates

/-- A record whose `publish` feeds back makes a second call. -/
theorem emit_calls_again {record : LogRecord} (publishes : setup.Publishes record)
    {state : State} (feeds : setup.FeedsBack state.published.length) (depth : Nat) :
    Calls 2 state (setup.emit depth record state) := by
  cases depth with
  | zero => exact .inl rfl
  | succ depth =>
      obtain ⟨message, same⟩ := emit_publishes publishes depth state
      obtain ⟨called, own, length, again, fed⟩ := publish_feeds feeds depth message state rfl
      obtain ⟨after, calls, published, exhausted⟩ :=
        fed (Calls 1) (calls_widens 1) (emit_calls again depth)
      rw [same]
      rcases calls with ended | longer
      · exact .inl (exhausted.trans ended)
      · right
        rw [published]
        omega

theorem emit_overruns (feeds : ∀ calls, setup.FeedsBack calls) {record : LogRecord}
    (publishes : setup.Publishes record) (depth : Nat) (state : State) :
    Overruns depth state (setup.emit depth record state) := by
  induction depth generalizing record state with
  | zero => exact ⟨rfl, Nat.le_refl _⟩
  | succ depth induction =>
      obtain ⟨message, same⟩ := emit_publishes publishes depth state
      obtain ⟨called, own, length, again, fed⟩ :=
        publish_feeds (feeds state.published.length) depth message state rfl
      obtain ⟨after, overruns, published, exhausted⟩ :=
        fed (Overruns depth) (overruns_widens depth) (induction again)
      have longer := overruns.2
      rw [same]
      constructor
      · exact exhausted.trans overruns.1
      · rw [published]
        omega

theorem log_quiet {level : Level} {text : String} {state : State}
    (quiet : ¬ (setup.Hears level ∧
      setup.Publishes (setup.makeRecord level text state.published.length)))
    (depth : Nat) : setup.log (setup.emit (depth + 1)) level text state = state := by
  unfold log
  split
  · rename_i enabled
    have still : ∀ handlers : List Handler,
        (∀ handler ∈ handlers, handler ∈ callHandlers setup.tree
          setup.handler.attachments.handlers setup.publisherLogger) →
        handlers.foldl (setup.handle (setup.emit (depth + 1))
          (setup.makeRecord level text state.published.length)) state = state := by
      intro handlers met
      induction handlers with
      | nil => rfl
      | cons handler rest induction =>
          have here : setup.handle (setup.emit (depth + 1))
              (setup.makeRecord level text state.published.length) state handler = state := by
            cases handler with
            | other id => rfl
            | mqtt =>
                change (if setup.level ≤ level then _ else state) = state
                split
                · rename_i loud
                  have hears : setup.Hears level := ⟨enabled, loud, met _ List.mem_cons_self⟩
                  rw [emit]
                  split
                  · rename_i publisher
                    split
                    · rfl
                    · rename_i msg formatted
                      exact absurd ⟨hears, publisher, msg, formatted⟩ quiet
                  · rfl
                · rfl
          rw [List.foldl_cons, here]
          exact induction fun other member => met other (List.mem_cons_of_mem _ member)
    exact still _ fun _ member => member
  · rfl

theorem publish_quiet {message : LogMessage} {state : State}
    (quiet : ¬ setup.FeedsBack state.published.length) (depth : Nat) :
    (setup.publish (setup.emit (depth + 1)) message state).published =
        state.published ++ [message] ∧
      (setup.publish (setup.emit (depth + 1)) message state).exhausted = state.exhausted := by
  obtain ⟨called, published, exhausted, same, ended⟩ :=
    publish_after_call setup (setup.emit (depth + 1)) message state
  have calm : setup.afterCall (setup.emit (depth + 1)) state.published.length called = called := by
    unfold afterCall
    split
    · rfl
    · rename_i level text own
      apply log_quiet
      rw [published, List.length_append, List.length_singleton]
      rintro ⟨hears, publishes⟩
      exact quiet ⟨level, text, own, hears, publishes⟩
  rw [same, ended, calm]
  exact ⟨published, exhausted⟩

end

/-- Handling a record ends, with one call of `publish` at most, exactly when the
first call of `publish` does not feed back, or is not made. -/
theorem settles_iff_not_fed_back (record : LogRecord) (publishFailureCount : Nat) :
    setup.Settles record publishFailureCount ↔
      (setup.Publishes record → ¬ setup.FeedsBack 0) := by
  constructor
  · rintro ⟨enough, settled⟩ publishes feeds
    obtain ⟨kept, once⟩ := settled enough (Nat.le_refl _)
    have first : setup.FeedsBack (State.idle publishFailureCount).published.length := feeds
    rcases emit_calls_again publishes first enough with ended | twice
    · cases kept.symm.trans ended
    · change 0 + 2 ≤ _ at twice
      omega
  · intro quiet
    refine ⟨2, fun depth deep => ?_⟩
    obtain ⟨more, rfl⟩ := Nat.exists_eq_add_of_le' deep
    rw [emit]
    split
    · rename_i publisher
      split
      · exact ⟨rfl, Nat.zero_le _⟩
      · rename_i msg formatted
        have first : ¬ setup.FeedsBack (State.idle publishFailureCount).published.length :=
          quiet ⟨publisher, msg, formatted⟩
        obtain ⟨published, exhausted⟩ := publish_quiet first more
        rw [published, exhausted]
        exact ⟨rfl, Nat.le_refl _⟩
    · exact ⟨rfl, Nat.zero_le _⟩

/-- The handler is on the root logger, and records of the publisher get there. -/
def OnRoot : Prop :=
  .mqtt ∈ setup.handler.attachments.handlers setup.logging.root ∧
    setup.logging.root ∈ setup.tree.path setup.publisherLogger

/-- From the root the handler hears every enabled record, its own level permitting. -/
theorem hears_iff_enabled (onRoot : setup.OnRoot) (level : Level) :
    setup.Hears level ↔
      setup.enabledFor setup.publisherLogger level = true ∧ setup.level ≤ level := by
  constructor
  · intro hears
    exact ⟨hears.1, hears.2.1⟩
  · intro loud
    exact ⟨loud.1, loud.2, List.mem_flatMap.mpr ⟨_, onRoot.2, onRoot.1⟩⟩

end Setup

/-- A started gateway whose event loop was closed, with the level of the root
logger at WARNING. -/
def closedLoop : Setup String where
  logging := plainLogging
  tree := rootAndChild
  enabledFor := fun _ level => levelWarning ≤ level
  clock := fun _ => 0
  handler := MQTTLogHandler.after plainLogging (fun _ => []) [.start true]
  level := 0
  format := fun record => .ok record.message
  topicRepr := "'hbot/log'"
  started := true
  enqueueOutgoing := fun _ => .error ⟨⟨"RuntimeError"⟩, "Event loop is closed"⟩

theorem closed_loop_on_root : closedLoop.OnRoot := by
  constructor
  · decide
  · change "" ∈ rootAndChild.path "remote_iface.Publisher"
    rw [rootAndChild.path_parent rfl rfl, rootAndChild.path_last (.inr rfl)]
    exact .tail _ (.head _)

theorem closed_loop_feeds (calls : Nat) : closedLoop.FeedsBack calls := by
  refine ⟨levelWarning, _, rfl, ?_, rfl, _, rfl⟩
  apply (closedLoop.hears_iff_enabled closed_loop_on_root levelWarning).mpr
  decide

def hostWarning : LogRecord := ⟨0, "hbot.strategy", levelWarning, "WARNING", "no price feed"⟩

/-- One warning of the host takes all the stack there is, whatever its depth, and
calls `publish` at every level of it. -/
theorem closed_loop_never_settles :
    closedLoop.OnRoot ∧ closedLoop.handler.publisher = true ∧
    (∀ depth, (closedLoop.emit depth hostWarning (.idle 0)).exhausted = true ∧
      depth ≤ (closedLoop.emit depth hostWarning (.idle 0)).published.length) ∧
    ¬ closedLoop.Settles hostWarning 0 := by
  have overruns (depth : Nat) := Setup.emit_overruns closed_loop_feeds
    (show closedLoop.Publishes hostWarning from ⟨rfl, _, rfl⟩) depth (.idle 0)
  refine ⟨closed_loop_on_root, rfl, fun depth => ?_, ?_⟩
  · constructor
    · exact (overruns depth).1
    · have many := (overruns depth).2
      change 0 + depth ≤ _ at many
      omega
  · rintro ⟨enough, settled⟩
    cases (settled enough (Nat.le_refl _)).1.symm.trans (overruns enough).1

end RemoteIface.Gateway.LogFeedback
