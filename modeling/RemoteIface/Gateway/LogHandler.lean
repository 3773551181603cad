import Mathlib.Data.List.Induction
import RemoteIface.Library.Loggers
import RemoteIface.Library.Runs

/-!
`MQTTLogHandler`, which is a component of the gateway and a handler of the
logging system: `start` puts it on the root logger, `attach` on any named ones,
and `stop` takes it off all of them. A record climbs the tree of loggers, so
the same record can meet the handler on several of them.
-/

namespace RemoteIface.Gateway.LogHandler

set_option autoImplicit false

open RemoteIface.Library.Loggers
open RemoteIface.Library.Runs

/-- A handler on a logger: the one of the gateway, or somebody else's. -/
inductive Handler where
  | mqtt
  | other (id : Nat)
deriving DecidableEq, Repr

/-- The root and `logging.getLogger`, which returns one logger for one name. -/
structure Logging (Logger : Type*) where
  root : Logger
  getLogger : String → Logger
  unnamed : getLogger "" = root

/-- The handlers of all loggers, and the names in `_attached`. -/
structure Attachments (Logger : Type*) where
  handlers : Handlers Logger Handler
  attached : List String

/-- The component with its `_publisher`. -/
structure MQTTLogHandler (Logger : Type*) where
  attachments : Attachments Logger
  publisher : Bool

inductive Event where
  | start (enableLogHandler : Bool)
  | attach (names : List String)
  | stop
deriving DecidableEq, Repr

variable {Logger : Type*}

/-- The loggers before the first `start`, with the handlers of others only. -/
def Attachments.foreign (ids : Logger → List Nat) : Attachments Logger :=
  ⟨fun logger => (ids logger).map Handler.other, []⟩

def MQTTLogHandler.fresh (ids : Logger → List Nat) : MQTTLogHandler Logger := ⟨.foreign ids, false⟩

namespace MQTTLogHandler

/-- `emit` calls for one record that is logged on `logger`. -/
def emits (tree : LoggerTree Logger) (handler : MQTTLogHandler Logger) (logger : Logger) : Nat :=
  (callHandlers tree handler.attachments.handlers logger).count .mqtt

/-- An `emit` without publisher returns at once; one with it publishes one
`LogMessage` at most. -/
def published (tree : LoggerTree Logger) (handler : MQTTLogHandler Logger) (logger : Logger) : Nat :=
  if handler.publisher then handler.emits tree logger else 0

end MQTTLogHandler

def Event.Gives (logging : Logging Logger) (logger : Logger) : Event → Prop
  | .start enableLogHandler => enableLogHandler = true ∧ logger = logging.root
  | .attach names => ∃ name ∈ names, logging.getLogger name = logger
  | .stop => False

/-- Since the last `stop`, some call has given the handler to the logger. -/
def Given (logging : Logging Logger) (events : List Event) (logger : Logger) : Prop :=
  ∃ before event later, events = before ++ event :: later ∧ .stop ∉ later ∧
    event.Gives logging logger

/-- One record leads to one `emit` at most, and to one message at most. -/
def AtMostOnce (tree : LoggerTree Logger) (handler : MQTTLogHandler Logger) (logger : Logger) :
    Prop :=
  handler.emits tree logger ≤ 1 ∧ handler.published tree logger ≤ 1

variable [DecidableEq Logger]

namespace Attachments

def attachOne (logging : Logging Logger) (attachments : Attachments Logger) (name : String) :
    Attachments Logger :=
  let target := logging.getLogger name
  ⟨addHandler .mqtt target (removeHandler .mqtt target attachments.handlers),
    if name ∈ attachments.attached then attachments.attached
    else attachments.attached ++ [name]⟩

/-- `attach` -/
def attach (logging : Logging Logger) (attachments : Attachments Logger) (names : List String) :
    Attachments Logger :=
  names.foldl (attachOne logging) attachments

/-- The part of `start` that is about the loggers. -/
def addToRoot (logging : Logging Logger) (attachments : Attachments Logger) : Attachments Logger :=
  { attachments with handlers := addHandler .mqtt logging.root attachments.handlers }

/-- The part of `stop` that is about the loggers. -/
def detachAll (logging : Logging Logger) (attachments : Attachments Logger) : Attachments Logger :=
  ⟨attachments.attached.foldl
      (fun handlers name => removeHandler .mqtt (logging.getLogger name) handlers)
      (removeHandler .mqtt logging.root attachments.handlers),
    []⟩

end Attachments

namespace MQTTLogHandler

def start (logging : Logging Logger) (handler : MQTTLogHandler Logger) (enableLogHandler : Bool) :
    MQTTLogHandler Logger :=
  if enableLogHandler then ⟨handler.attachments.addToRoot logging, true⟩ else handler

def stop (logging : Logging Logger) (handler : MQTTLogHandler Logger) : MQTTLogHandler Logger :=
  ⟨handler.attachments.detachAll logging, false⟩

def step (logging : Logging Logger) (handler : MQTTLogHandler Logger) :
    Event → MQTTLogHandler Logger
  | .start enableLogHandler => handler.start logging enableLogHandler
  | .attach names => { handler with attachments := handler.attachments.attach logging names }
  | .stop => handler.stop logging

/-- The component after a sequence of calls. -/
def after (logging : Logging Logger) (ids : Logger → List Nat) (events : List Event) :
    MQTTLogHandler Logger :=
  events.foldl (step logging) (fresh ids)

end MQTTLogHandler

/-- The handler is on no logger twice, on every attached one, on none that `stop`
would miss, and the handlers of others are as they were. -/
structure Sound (logging : Logging Logger) (ids : Logger → List Nat)
    (attachments : Attachments Logger) : Prop where
  untouched : ∀ logger, others .mqtt (attachments.handlers logger) = (ids logger).map Handler.other
  single : ∀ logger, (attachments.handlers logger).count .mqtt ≤ 1
  tracked : ∀ logger, .mqtt ∈ attachments.handlers logger →
    logger = logging.root ∨ ∃ name ∈ attachments.attached, logging.getLogger name = logger
  carried : ∀ name ∈ attachments.attached, .mqtt ∈ attachments.handlers (logging.getLogger name)

omit [DecidableEq Logger] in
theorem not_mem_foreign (ids : List Nat) : Handler.mqtt ∉ ids.map Handler.other := by
  intro member
  obtain ⟨id, _, same⟩ := List.mem_map.mp member
  cases same

section

variable {logging : Logging Logger} {ids : Logger → List Nat} {attachments : Attachments Logger}

omit [DecidableEq Logger] in
theorem sound_foreign (logging : Logging Logger) (ids : Logger → List Nat) :
    Sound logging ids (.foreign ids) where
  untouched := fun logger => others_of_absent (not_mem_foreign (ids logger))
  single := by
    intro logger
    have absent : (Attachments.foreign ids).handlers logger = (ids logger).map Handler.other := rfl
    rw [absent, List.count_eq_zero.mpr (not_mem_foreign (ids logger))]
    omega
  tracked := fun logger member => absurd member (not_mem_foreign (ids logger))
  carried := by simp [Attachments.foreign]

theorem mem_add_to_root (logger : Logger) :
    .mqtt ∈ (attachments.addToRoot logging).handlers logger ↔
      logger = logging.root ∨ .mqtt ∈ attachments.handlers logger :=
  mem_add_iff .mqtt logging.root logger attachments.handlers

theorem Sound.add_to_root (sound : Sound logging ids attachments) :
    Sound logging ids (attachments.addToRoot logging) := by
  constructor
  · intro logger
    exact (others_add _ _ _ _).trans (sound.untouched logger)
  · intro logger
    exact count_add_le sound.single _ _
  · intro logger member
    rcases (mem_add_to_root logger).mp member with root | old
    · exact .inl root
    · exact sound.tracked logger old
  · intro name attached
    exact (mem_add_to_root _).mpr (.inr (sound.carried name attached))

theorem mem_attach_one (sound : Sound logging ids attachments) (name : String) (logger : Logger) :
    .mqtt ∈ (attachments.attachOne logging name).handlers logger ↔
      logging.getLogger name = logger ∨ .mqtt ∈ attachments.handlers logger := by
  refine (mem_add_iff _ _ _ _).trans ?_
  rw [mem_remove_iff sound.single]
  by_cases same : logger = logging.getLogger name
  · simp [same]
  · simp [same, Ne.symm same]

theorem mem_attach_one_names (name other : String) :
    other ∈ (attachments.attachOne logging name).attached ↔
      other = name ∨ other ∈ attachments.attached := by
  unfold Attachments.attachOne
  dsimp only
  split
  · rename_i present
    constructor
    · exact Or.inr
    · intro either
      rcases either with rfl | old
      · exact present
      · exact old
  · rw [List.mem_append, List.mem_singleton, or_comm]

theorem Sound.attach_one (sound : Sound logging ids attachments) (name : String) :
    Sound logging ids (attachments.attachOne logging name) := by
  constructor
  · intro logger
    refine (others_add _ _ _ _).trans ?_
    exact (others_remove _ _ _ _).trans (sound.untouched logger)
  · intro logger
    exact count_add_le (count_remove_le sound.single _) _ _
  · intro logger member
    rcases (mem_attach_one sound name logger).mp member with named | old
    · exact .inr ⟨name, (mem_attach_one_names name name).mpr (.inl rfl), named⟩
    · rcases sound.tracked logger old with root | ⟨other, attached, named⟩
      · exact .inl root
      · exact .inr ⟨other, (mem_attach_one_names name other).mpr (.inr attached), named⟩
  · intro other attached
    apply (mem_attach_one sound name _).mpr
    rcases (mem_attach_one_names name other).mp attached with rfl | old
    · exact .inl rfl
    · exact .inr (sound.carried other old)

theorem Sound.attach (sound : Sound logging ids attachments) (names : List String) :
    Sound logging ids (attachments.attach logging names) ∧
      (∀ logger, .mqtt ∈ (attachments.attach logging names).handlers logger ↔
        (∃ name ∈ names, logging.getLogger name = logger) ∨
          .mqtt ∈ attachments.handlers logger) ∧
      ∀ other, other ∈ (attachments.attach logging names).attached ↔
        other ∈ names ∨ other ∈ attachments.attached := by
  induction names generalizing attachments with
  | nil => exact ⟨sound, by simp [Attachments.attach], by simp [Attachments.attach]⟩
  | cons name rest induction =>
      obtain ⟨later, members, attached⟩ := induction (sound.attach_one name)
      refine ⟨later, ?_, ?_⟩
      · intro logger
        refine (members logger).trans ?_
        rw [mem_attach_one sound name logger]
        simp only [List.mem_cons, exists_eq_or_imp]
        rw [or_left_comm, or_assoc]
      · intro other
        refine (attached other).trans ?_
        rw [mem_attach_one_names name other, List.mem_cons]
        rw [or_left_comm, or_assoc]

theorem removed_from {handlers : Handlers Logger Handler}
    (single : ∀ logger, (handlers logger).count .mqtt ≤ 1) (logging : Logging Logger)
    (names : List String) (logger : Logger) :
    others .mqtt (names.foldl
        (fun handlers name => removeHandler .mqtt (logging.getLogger name) handlers)
        handlers logger) = others .mqtt (handlers logger) ∧
      (.mqtt ∈ names.foldl
          (fun handlers name => removeHandler .mqtt (logging.getLogger name) handlers)
          handlers logger ↔
        (∀ name ∈ names, logging.getLogger name ≠ logger) ∧ .mqtt ∈ handlers logger) := by
  induction names generalizing handlers with
  | nil => simp
  | cons name rest induction =>
      obtain ⟨untouched, members⟩ :=
        induction (count_remove_le single (logging.getLogger name))
      constructor
      · exact untouched.trans (others_remove _ _ _ _)
      · refine members.trans ?_
        rw [mem_remove_iff single, List.forall_mem_cons, ne_comm]
        tauto

/-- `stop` leaves the loggers as they were before the first `start`. -/
theorem Sound.detach_all (sound : Sound logging ids attachments) :
    attachments.detachAll logging = .foreign ids := by
  have single := count_remove_le sound.single logging.root
  unfold Attachments.detachAll Attachments.foreign
  congr 1
  funext logger
  obtain ⟨untouched, members⟩ := removed_from single logging attachments.attached logger
  have gone : Handler.mqtt ∉ attachments.attached.foldl
      (fun handlers name => removeHandler .mqtt (logging.getLogger name) handlers)
      (removeHandler .mqtt logging.root attachments.handlers) logger := by
    intro member
    obtain ⟨elsewhere, present⟩ := members.mp member
    obtain ⟨notRoot, old⟩ := (mem_remove_iff sound.single _ _).mp present
    rcases sound.tracked logger old with root | ⟨name, attached, named⟩
    · exact notRoot root
    · exact elsewhere name attached named
  rw [← others_of_absent gone, untouched, others_remove]
  exact sound.untouched logger

end

omit [DecidableEq Logger] in
theorem given_snoc (logging : Logging Logger) (events : List Event) (event : Event)
    (logger : Logger) :
    Given logging (events ++ [event]) logger ↔
      event.Gives logging logger ∨ event ≠ .stop ∧ Given logging events logger := by
  have since : ∀ events : List Event, Given logging events logger ↔
      Since (fun event => event.Gives logging logger) (fun event => event = .stop) events := by
    intro events
    constructor
    · rintro ⟨before, given, later, split, unstopped, gives⟩
      exact ⟨before, given, later, split, gives, fun event member same => unstopped (same ▸ member)⟩
    · rintro ⟨before, given, later, split, gives, unstopped⟩
      exact ⟨before, given, later, split, fun member => unstopped _ member rfl, gives⟩
  rw [since, since, since_snoc]

/-- After any sequence of calls the handler is on the loggers it was given to. -/
theorem after_calls (logging : Logging Logger) (ids : Logger → List Nat) (events : List Event) :
    Sound logging ids (MQTTLogHandler.after logging ids events).attachments ∧
      ∀ logger, .mqtt ∈ (MQTTLogHandler.after logging ids events).attachments.handlers logger ↔
        Given logging events logger := by
  induction events using List.reverseRecOn with
  | nil =>
      refine ⟨sound_foreign logging ids, ?_⟩
      intro logger
      refine iff_of_false (not_mem_foreign (ids logger)) ?_
      rintro ⟨before, event, later, split, _⟩
      simp at split
  | append_singleton events event induction =>
      obtain ⟨sound, members⟩ := induction
      have last : MQTTLogHandler.after logging ids (events ++ [event]) =
          (MQTTLogHandler.after logging ids events).step logging event := by
        simp [MQTTLogHandler.after]
      rw [last]
      cases event with
      | start enableLogHandler =>
          cases enableLogHandler with
          | true =>
              refine ⟨sound.add_to_root, ?_⟩
              intro logger
              rw [given_snoc, ← members logger]
              refine (mem_add_to_root logger).trans ?_
              simp [Event.Gives]
          | false =>
              refine ⟨sound, ?_⟩
              intro logger
              rw [given_snoc, ← members logger]
              simp [Event.Gives, MQTTLogHandler.step, MQTTLogHandler.start]
      | attach names =>
          obtain ⟨later, attached, _⟩ := sound.attach names
          refine ⟨later, ?_⟩
          intro logger
          rw [given_snoc, ← members logger]
          refine (attached logger).trans ?_
          simp [Event.Gives]
      | stop =>
          have clean : ((MQTTLogHandler.after logging ids events).step logging .stop).attachments =
              .foreign ids := sound.detach_all
          rw [clean]
          refine ⟨sound_foreign logging ids, ?_⟩
          intro logger
          rw [given_snoc]
          refine iff_of_false (not_mem_foreign (ids logger)) ?_
          simp [Event.Gives]

omit [DecidableEq Logger] in
theorem published_le (tree : LoggerTree Logger) (handler : MQTTLogHandler Logger)
    (logger : Logger) : handler.published tree logger ≤ handler.emits tree logger := by
  unfold MQTTLogHandler.published
  split <;> omega

theorem emits_le_one_iff (logging : Logging Logger) (ids : Logger → List Nat)
    (events : List Event) (tree : LoggerTree Logger) (logger : Logger) :
    (MQTTLogHandler.after logging ids events).emits tree logger ≤ 1 ↔
      ∀ first ∈ tree.path logger, ∀ second ∈ tree.path logger,
        Given logging events first → Given logging events second → first = second := by
  obtain ⟨sound, members⟩ := after_calls logging ids events
  have emitted := count_le_one_iff sound.single tree logger
  simp only [members] at emitted
  exact emitted

/-- A record is published once at most exactly when, since the last `stop`, the
handler was given to one logger of its path at most. -/
theorem at_most_once_iff_one_given (logging : Logging Logger) (ids : Logger → List Nat)
    (events : List Event) (tree : LoggerTree Logger) (logger : Logger) :
    AtMostOnce tree (MQTTLogHandler.after logging ids events) logger ↔
      ∀ first ∈ tree.path logger, ∀ second ∈ tree.path logger,
        Given logging events first → Given logging events second → first = second := by
  rw [← emits_le_one_iff logging ids events tree logger]
  constructor
  · intro once
    exact once.1
  · intro once
    exact ⟨once, Nat.le_trans (published_le tree _ logger) once⟩

/-- Two loggers, `""` being the root. -/
def rootAndChild : LoggerTree String where
  parent := fun logger => if logger = "" then none else some ""
  propagate := fun _ => true
  depth := fun logger => if logger = "" then 0 else 1
  above_depth := by
    intro logger above next
    by_cases root : logger = ""
    · simp [root] at next
    · simp only [if_neg root, Option.some.injEq] at next
      simp [root, ← next]

def plainLogging : Logging String := ⟨"", id, rfl⟩

/-- The host patches one logger of a started gateway: its records are published
twice, by itself and by the root. -/
theorem patched_logger_published_twice :
    ¬ AtMostOnce rootAndChild
      (MQTTLogHandler.after plainLogging (fun _ => []) [.start true, .attach ["markets"]])
      "markets" := by
  intro once
  have same := (emits_le_one_iff _ _ _ _ _).mp once.1
  have onPath : rootAndChild.path "markets" = ["markets", ""] := by
    rw [rootAndChild.path_parent rfl rfl, rootAndChild.path_last (.inr rfl)]
  have equal := same "markets" (by simp [onPath]) "" (by simp [onPath])
    ⟨[.start true], .attach ["markets"], [], rfl, by simp, "markets", by simp, rfl⟩
    ⟨[], .start true, [.attach ["markets"]], rfl, by simp, rfl, rfl⟩
  exact absurd equal (by decide)

end RemoteIface.Gateway.LogHandler
