import RemoteIface.Library.Runs
import RemoteIface.HbCompat.Registrations

/-!
The subscription of one `MQTTMarketEventForwarder` with one adapter. Its
`start` and `stop`, `subscribe_now` and every strategy-loaded callback it ever
registered, those of earlier starts included, share one flag, one handle and
the callback list of the adapter.
-/

namespace RemoteIface.HbCompat.ForwarderSubscription

set_option autoImplicit false

open RemoteIface.Library.Runs
open RemoteIface.Library.Loggers
open RemoteIface.Gateway.Wiring
open RemoteIface.Gateway.LogHandler
open RemoteIface.HbCompat.Registrations hiding Event

/-- A call on the forwarder. The strategy-loaded callbacks are numbered in the
order in which its starts registered them. -/
inductive Call where
  | start (config : GatewayConfig)
  | stop
  | subscribeNow
  | strategyLoaded (number : Nat)

variable {Logger : Type} {notifiers : NotifierRegistry} [DecidableEq Logger]

/-- A callback can be invoked once it has been registered, also when the start
that did so is over. -/
def step (logging : Logging Logger) (gateway : Gateway Logger notifiers) :
    Call → Option (Gateway Logger notifiers)
  | .start config => some (gateway.startComponent config logging (.publishing .marketEvents))
  | .stop => some (gateway.stopComponent logging (.publishing .marketEvents))
  | .subscribeNow => some gateway.subscribeNow
  | .strategyLoaded number =>
      if number < gateway.closures then some gateway.subscribeNow else none

/-- `_subscribed` tells whether `_forward_event` is in the list, where it is
never twice, and it holds only with a publisher. The entries of others are those
of the beginning. -/
structure SubscribedOnce (start gateway : Gateway Logger notifiers) : Prop where
  count : gateway.adapter.marketEventCallbacks.count .forwardEvent =
    if gateway.forwarder.subscribed then 1 else 0
  published : gateway.forwarder.subscribed = true →
    (gateway.system.endpoints.publisher .marketEvents).isSome
  others : (gateway.adapter.marketEventCallbacks.filter fun callback => callback ≠ .forwardEvent) =
    start.adapter.marketEventCallbacks.filter fun callback => callback ≠ .forwardEvent

structure Sound (start gateway : Gateway Logger notifiers) : Prop
    extends SubscribedOnce start gateway where
  handle : gateway.forwarder.unsubscribe = gateway.forwarder.subscribed

variable {start gateway : Gateway Logger notifiers} {logging : Logging Logger}

omit [DecidableEq Logger] in
theorem sound_fresh (surroundings : Surroundings Logger notifiers) :
    Sound (.fresh surroundings) (.fresh surroundings) where
  count := by
    apply List.count_eq_zero_of_not_mem
    intro member
    obtain ⟨id, _, same⟩ := List.mem_map.mp member
    cases same
  published := by
    intro subscribed
    cases subscribed
  others := rfl
  handle := rfl

omit [DecidableEq Logger] in
theorem Sound.subscribe_now (sound : Sound start gateway) : Sound start gateway.subscribeNow := by
  unfold Gateway.subscribeNow
  cases publisher : gateway.system.endpoints.publisher .marketEvents with
  | none => exact sound
  | some held =>
      cases subscribed : gateway.forwarder.subscribed with
      | true => simpa [subscribed] using sound
      | false =>
          have absent := sound.count
          rw [subscribed] at absent
          exact {
            count := by
              simpa [AppAdapter.subscribeMarketEvents] using absent
            published := by
              intro _
              simp [publisher]
            others := by
              simpa [AppAdapter.subscribeMarketEvents] using sound.others
            handle := rfl }

theorem Sound.start_component (sound : Sound start gateway) (config : GatewayConfig) :
    Sound start (gateway.startComponent config logging (.publishing .marketEvents)) := by
  have enabled : Role.marketEvents.component.enabled config = config.enableEvents := rfl
  cases events : config.enableEvents with
  | true =>
      simp only [Gateway.startComponent, Gateway.register, System.startComponent,
        System.startPublishing, enabled, events, if_true]
      exact {
        count := sound.count
        published := by
          intro _
          rfl
        others := sound.others
        handle := sound.handle }
  | false =>
      simp only [Gateway.startComponent, Gateway.register, System.startComponent,
        System.startPublishing, enabled, events, Bool.false_eq_true, if_false]
      exact ⟨⟨sound.count, sound.published, sound.others⟩, sound.handle⟩

theorem filter_erase_other (callbacks : List Callback) :
    ((callbacks.erase .forwardEvent).filter fun callback => callback ≠ .forwardEvent) =
      callbacks.filter fun callback => callback ≠ .forwardEvent := by
  have absent : Callback.forwardEvent ∉
      callbacks.filter fun callback => callback ≠ .forwardEvent := by
    simp
  rw [← List.erase_filter, List.erase_of_not_mem absent]

/-- After `stop` the forwarder is not subscribed, and not in the list. -/
theorem Sound.stop_component (sound : Sound start gateway) :
    Sound start (gateway.stopComponent logging (.publishing .marketEvents)) ∧
      (gateway.stopComponent logging (.publishing .marketEvents)).forwarder = ⟨false, false⟩ := by
  have count := sound.count
  have others := sound.others
  simp only [Gateway.stopComponent, Gateway.unregister]
  cases subscribed : gateway.forwarder.subscribed with
  | true =>
      rw [subscribed] at count
      rw [sound.handle, subscribed, if_pos rfl]
      refine ⟨⟨⟨?_, by simp, ?_⟩, rfl⟩, rfl⟩
      · simp [AppAdapter.unsubscribeMarketEvents, count]
      · rw [← others]
        exact filter_erase_other _
  | false =>
      rw [subscribed] at count
      rw [sound.handle, subscribed, if_neg Bool.false_ne_true]
      exact ⟨⟨⟨count, by simp, others⟩, rfl⟩, rfl⟩

theorem sound_step {next : Gateway Logger notifiers} {call : Call} (sound : Sound start gateway)
    (taken : step logging gateway call = some next) : Sound start next := by
  cases call with
  | start config =>
      cases taken
      exact sound.start_component config
  | stop =>
      cases taken
      exact sound.stop_component.1
  | subscribeNow =>
      cases taken
      exact sound.subscribe_now
  | strategyLoaded number =>
      change (if number < gateway.closures then some gateway.subscribeNow else none) =
        some next at taken
      split at taken
      · cases taken
        exact sound.subscribe_now
      · cases taken

/-- In every run of the forwarder from its construction on, it is in the list
of the adapter once while `_subscribed` is set and not at all otherwise, and
not at all right after a `stop`. -/
theorem forwarder_subscribed_once (logging : Logging Logger)
    (surroundings : Surroundings Logger notifiers) (calls : List Call)
    (final : Gateway Logger notifiers)
    (reached : run (step logging) (.fresh surroundings) calls = some final) :
    SubscribedOnce (.fresh surroundings) final ∧
      ∀ earlier, calls = earlier ++ [.stop] →
        final.adapter.marketEventCallbacks.count .forwardEvent = 0 := by
  have sound : ∀ (calls : List Call) final,
      run (step logging) (.fresh surroundings) calls = some final →
        Sound (.fresh surroundings) final := by
    intro calls final reached
    exact run_invariant (step logging) (fun _ _ _ holds taken => sound_step holds taken)
      (sound_fresh surroundings) reached
  constructor
  · exact (sound calls final reached).toSubscribedOnce
  · intro earlier split
    rw [split, run_append] at reached
    obtain ⟨middle, before, last⟩ := Option.bind_eq_some_iff.mp reached
    cases last
    have ended : Sound (.fresh surroundings)
          (middle.stopComponent logging (.publishing .marketEvents)) ∧
        (middle.stopComponent logging (.publishing .marketEvents)).forwarder = ⟨false, false⟩ :=
      (sound earlier middle before).stop_component
    obtain ⟨stopped, forwarder⟩ := ended
    have count := stopped.count
    rw [forwarder] at count
    exact count

/-- Both ways of subscribing, a stale callback after a `stop` and a second start. -/
def staleCalls : List Call :=
  [.start {}, .strategyLoaded 0, .subscribeNow, .stop, .strategyLoaded 0, .start {},
    .strategyLoaded 0, .strategyLoaded 1]

/-- Others are in the list of the adapter already. -/
def sharedHost : Surroundings String listNotifiers := { bareHost with marketEventCallbacks := [7, 8] }

theorem stale_callbacks_subscribe_once :
    ∃ subscribed stopped,
      run (step plainLogging) (.fresh sharedHost) staleCalls = some subscribed ∧
      run (step plainLogging) (.fresh sharedHost) (staleCalls ++ [.stop]) = some stopped ∧
      SubscribedOnce (.fresh sharedHost) subscribed ∧
      subscribed.adapter.marketEventCallbacks = [.other 7, .other 8, .forwardEvent] ∧
      SubscribedOnce (.fresh sharedHost) stopped ∧
      stopped.adapter.marketEventCallbacks.count .forwardEvent = 0 := by
  have holds := forwarder_subscribed_once plainLogging sharedHost staleCalls _ rfl
  have ended := forwarder_subscribed_once plainLogging sharedHost (staleCalls ++ [.stop]) _ rfl
  exact ⟨_, _, rfl, rfl, holds.1, rfl, ended.1, ended.2 staleCalls rfl⟩

end RemoteIface.HbCompat.ForwarderSubscription
