import RemoteIface.HbCompat.Registrations

/-!
What a restart, by a caller or by the health loop, keeps of the wiring that the
host had asked for: the market events it subscribed the forwarder to, and the
loggers it patched. `stop` takes both back, and the `start` that follows
registers again only what the components register by themselves.
-/

namespace RemoteIface.HbCompat.RestartWiring

set_option autoImplicit false

open RemoteIface.Library.Loggers
open RemoteIface.Gateway.Wiring
open RemoteIface.Gateway.LogHandler hiding Event
open RemoteIface.HbCompat.Registrations

variable {Logger : Type} {notifiers : NotifierRegistry}

/-- What the host had wired before is still wired after. -/
def WiringKept (logging : Logging Logger) (before after : Gateway Logger notifiers) : Prop :=
  (.forwardEvent ∈ before.adapter.marketEventCallbacks →
      .forwardEvent ∈ after.adapter.marketEventCallbacks) ∧
    ∀ name ∈ before.attachments.attached,
      .mqtt ∈ after.attachments.handlers (logging.getLogger name)

variable [DecidableEq Logger] {config : GatewayConfig} {logging : Logging Logger}
  {base : Surroundings Logger notifiers} {gateway : Gateway Logger notifiers}

omit [DecidableEq Logger] in
theorem rebuild_cleared (cleared : Cleared base gateway) : Cleared base gateway.rebuild :=
  ⟨cleared.market, cleared.forwarder, cleared.status, cleared.unsubscribe, cleared.notifier,
    cleared.log, rfl⟩

/-- The adapter and the loggers of a restarted gateway, whatever they were before. -/
theorem restart_wiring (sides : Sides config logging base gateway)
    (running : gateway.running = true) :
    (gateway.restart config logging).adapter.marketEventCallbacks =
        base.marketEventCallbacks.map .other ∧
      (gateway.restart config logging).attachments =
        if config.enableLogHandler then (Attachments.foreign base.handlers).addToRoot logging
        else .foreign base.handlers := by
  have cleared := rebuild_cleared (sides.cleared running)
  have stopped : (gateway.stop config logging).rebuild.running = false :=
    Gateway.stop_running gateway
  rw [Gateway.restart, Gateway.start_eq stopped]
  constructor
  · have same := @Gateway.start_market_part _ _ _ config logging
      (gateway.stop config logging).rebuild
    exact (Prod.mk.inj same).1.trans cleared.market
  · have started := @Gateway.start_attachments _ _ _ config logging
      (gateway.stop config logging).rebuild
    rw [cleared.log] at started
    exact started

theorem restarts_running (running : gateway.running = true) (count : Nat) :
    ((Gateway.restart config logging)^[count] gateway).running = true := by
  cases count with
  | zero => exact running
  | succ count =>
      rw [Function.iterate_succ_apply']
      exact Gateway.start_running _

theorem Sides.restarts (sides : Sides config logging base gateway) (count : Nat) :
    Sides config logging base ((Gateway.restart config logging)^[count] gateway) := by
  induction count with
  | zero => exact sides
  | succ count induction =>
      rw [Function.iterate_succ_apply']
      exact induction.step .restart

omit [DecidableEq Logger] in
theorem forward_event_foreign (ids : List Nat) : Callback.forwardEvent ∉ ids.map .other := by
  intro member
  obtain ⟨id, _, same⟩ := List.mem_map.mp member
  cases same

/-- Of the loggers, a restarted gateway carries its handler on the root only. -/
theorem restarted_carries_iff (sides : Sides config logging base gateway)
    (running : gateway.running = true) (logger : Logger) :
    .mqtt ∈ (gateway.restart config logging).attachments.handlers logger ↔
      config.enableLogHandler = true ∧ logger = logging.root := by
  rw [(restart_wiring sides running).2]
  cases config.enableLogHandler with
  | true =>
      rw [if_pos rfl, mem_add_to_root]
      constructor
      · intro either
        rcases either with root | foreign
        · exact ⟨rfl, root⟩
        · exact absurd foreign (not_mem_foreign _)
      · intro both
        exact .inl both.2
  | false =>
      rw [if_neg Bool.false_ne_true]
      constructor
      · intro foreign
        exact absurd foreign (not_mem_foreign _)
      · intro both
        exact absurd both.1 Bool.false_ne_true

/-- A restart keeps the wiring of the host when there is none but the root logger. -/
theorem restart_keeps_iff {before : Gateway Logger notifiers}
    (enabled : before.attachments.attached ≠ [] → config.enableLogHandler = true)
    (sides : Sides config logging base gateway) (running : gateway.running = true) :
    WiringKept logging before (gateway.restart config logging) ↔
      .forwardEvent ∉ before.adapter.marketEventCallbacks ∧
        ∀ name ∈ before.attachments.attached, logging.getLogger name = logging.root := by
  unfold WiringKept
  rw [(restart_wiring sides running).1]
  constructor
  · intro kept
    constructor
    · intro forwarded
      exact forward_event_foreign _ (kept.1 forwarded)
    · intro name attached
      exact ((restarted_carries_iff sides running _).mp (kept.2 name attached)).2
  · intro unwired
    constructor
    · intro forwarded
      exact absurd forwarded unwired.1
    · intro name attached
      have handling := enabled (List.ne_nil_of_mem attached)
      exact (restarted_carries_iff sides running _).mpr ⟨handling, unwired.2 name attached⟩

/-- Any number of restarts of a running gateway keeps what the host had wired
exactly when it had wired neither market events nor a logger below the root. -/
theorem restarts_keep_wiring_iff (config : GatewayConfig) (logging : Logging Logger)
    (base : Surroundings Logger notifiers) (events : List Event)
    (running : (after config logging base events).running = true) (count : Nat) :
    WiringKept logging (after config logging base events)
        ((Gateway.restart config logging)^[count] (after config logging base events)) ↔
      count = 0 ∨
        .forwardEvent ∉ (after config logging base events).adapter.marketEventCallbacks ∧
          ∀ name ∈ (after config logging base events).attachments.attached,
            logging.getLogger name = logging.root := by
  have sides := sides_after config logging base events
  have enabled : (after config logging base events).attachments.attached ≠ [] →
      config.enableLogHandler = true := by
    intro attached
    by_contra off
    rw [Bool.not_eq_true] at off
    have none_attached := congrArg Attachments.attached (sides.log.2 off)
    exact attached none_attached
  cases count with
  | zero =>
      apply iff_of_true
      · exact ⟨id, fun name attached => sides.log.1.carried name attached⟩
      · exact .inl rfl
  | succ count =>
      rw [Function.iterate_succ_apply',
        restart_keeps_iff enabled (RestartWiring.Sides.restarts sides count)
          (restarts_running running count)]
      constructor
      · exact .inr
      · intro either
        rcases either with none_left | unwired
        · cases none_left
        · exact unwired

/-- The host wires the market events and one logger of a started gateway. -/
def wiredEvents : List Event :=
  [.start, .host .startMarketEventsFw, .host (.patchLoggers ["markets"])]

theorem wired_running : (after {} plainLogging bareHost wiredEvents).running = true := rfl

/-- The host patches the root logger only. -/
def rootPatchedEvents : List Event := [.start, .host (.patchLoggers [""])]

/-- The root logger carries its handler through two restarts. -/
theorem patched_root_keeps_wiring :
    (after {} plainLogging bareHost rootPatchedEvents).attachments.attached = [""] ∧
      WiringKept plainLogging (after {} plainLogging bareHost rootPatchedEvents)
        ((Gateway.restart {} plainLogging)^[2]
          (after {} plainLogging bareHost rootPatchedEvents)) := by
  refine ⟨rfl, ?_⟩
  apply (restarts_keep_wiring_iff {} plainLogging bareHost rootPatchedEvents rfl 2).mpr
  right
  constructor
  · decide
  · intro name attached
    exact List.mem_singleton.mp attached

/-- One restart takes the market events and the logger from the host. -/
theorem restart_forgets_host_wiring :
    (after {} plainLogging bareHost wiredEvents).running = true ∧
    ¬ WiringKept plainLogging (after {} plainLogging bareHost wiredEvents)
      ((Gateway.restart {} plainLogging)^[1] (after {} plainLogging bareHost wiredEvents)) := by
  apply And.intro wired_running
  intro kept
  have wired : Callback.forwardEvent ∈
      (after {} plainLogging bareHost wiredEvents).adapter.marketEventCallbacks := by
    decide
  have restarted := restart_wiring (sides_after {} plainLogging bareHost wiredEvents) wired_running
  have listed := kept.1 wired
  rw [Function.iterate_one, restarted.1] at listed
  exact forward_event_foreign _ listed

end RemoteIface.HbCompat.RestartWiring
