import RemoteIface.Library.Runs
import RemoteIface.Gateway.ConfigCommand

/-!
Several config commands at once. The service of the config command has worker
threads of its own, so between two calls of the app that one `_handle_config`
makes another one may make its own. Each handler keeps what it does in local
variables; beside them stands what the app has answered it, and the app has the
log of all the calls of `config` in the order in which they ended.
-/

namespace RemoteIface.Gateway.ConfigThreads

set_option autoImplicit false

open RemoteIface.Library.Runs
open RemoteIface.Commlib.Payload
open RemoteIface.Gateway.ConfigCommand

/-- Where the thread of a handler is: inside a call of the app, or done. -/
inductive Stage (Config : Type) where
  | resetting
  | listing
  | applying (configurable : List String) (pair : Pair) (rest : List Json) (progress : Progress)
  | client (progress : Progress)
  | strategy (progress : Progress) (client : Option Config)
  | replied (response : Response Config) (progress : Progress)

/-- `keys`, `calls` and the two maps are the answers of the app. -/
structure Handler (Config : Type) where
  params : List Json
  stage : Stage Config
  keys : Option (Except Failure (List String))
  calls : List ConfigCall
  clientMap : Option (Except Failure (ConfigMap Config))
  strategyMap : Option (Except Failure (ConfigMap Config))

structure Threads (Config : Type) where
  handlers : List (Handler Config)
  log : List (Nat × ConfigCall)

/-- How a call of the app ends. -/
inductive Answer (Config : Type) where
  | listed (keys : Except Failure (List String))
  | returned (result : Except Failure Unit)
  | clientRead (map : Except Failure (ConfigMap Config))
  | strategyRead (map : Except Failure (ConfigMap Config))

/-- A handler is entered, or the call of the app that it waits for ends. -/
inductive Event (Config : Type) where
  | handled (params : List Json)
  | answered (id : Nat) (answer : Answer Config)

variable {Config : Type} (listRepr : List Json → String)

/-- The `except` clause. -/
def failed (progress : Progress) (failure : Failure) : Stage Config :=
  .replied ⟨progress.changes, none, MQTTStatusCode.error, failure.text⟩ progress

/-- The loop up to its next call of the app, or to its end. -/
def iterate (configurable : List String) : List Json → Progress → Stage Config
  | [], progress =>
      if progress.invalidParams.isEmpty then .client progress
      else failed progress (invalidKeys listRepr progress.invalidParams)
  | element :: rest, progress =>
      match readParam configurable element with
      | .error failure => failed progress failure
      | .ok ((key, _), false) =>
          iterate configurable rest
            { progress with invalidParams := progress.invalidParams ++ [key] }
      | .ok (pair, true) => .applying configurable pair rest progress

/-- What the handler does once `config` has returned or raised. -/
def afterCall (result : Except Failure Unit) : Stage Config → Option (ConfigCall × Stage Config)
  | .resetting =>
      let call : ConfigCall := ⟨none, result⟩
      let called := { Progress.start with calls := [call] }
      match result with
      | .error failure => some (call, failed called failure)
      | .ok () => some (call, .client called)
  | .applying configurable pair rest progress =>
      let call : ConfigCall := ⟨some pair, result⟩
      let called := { progress with calls := progress.calls ++ [call] }
      match result with
      | .error failure => some (call, failed called failure)
      | .ok () => some (call, iterate listRepr configurable rest
          { called with changes := progress.changes ++ [pair] })
  | _ => none

def afterListing (keys : Except Failure (List String)) (params : List Json) : Stage Config :=
  match keys with
  | .error failure => failed .start failure
  | .ok configurable => iterate listRepr configurable params .start

def afterClient (map : Except Failure (ConfigMap Config)) (progress : Progress) : Stage Config :=
  match readMap map with
  | .error failure => failed progress failure
  | .ok client => .strategy progress client

def afterStrategy (map : Except Failure (ConfigMap Config)) (progress : Progress)
    (client : Option Config) : Stage Config :=
  match readMap map with
  | .error failure => failed progress failure
  | .ok strategy =>
      .replied ⟨progress.changes, some ⟨client, strategy⟩, MQTTStatusCode.success, ""⟩ progress

namespace Handler

/-- A handler that has just been entered. -/
def enter (params : List Json) : Handler Config :=
  ⟨params, if params.isEmpty then .resetting else .listing, none, [], none, none⟩

/-- The handler goes on with the answer, and the call of `config` it was for. -/
def proceed (handler : Handler Config) : Answer Config → Option (Handler Config × List ConfigCall)
  | .listed keys =>
      match handler.stage with
      | .listing =>
          some ({ handler with
            stage := afterListing listRepr keys handler.params
            keys := some keys }, [])
      | _ => none
  | .returned result =>
      (afterCall listRepr result handler.stage).map fun next =>
        ({ handler with stage := next.2, calls := handler.calls ++ [next.1] }, [next.1])
  | .clientRead map =>
      match handler.stage with
      | .client progress =>
          some ({ handler with stage := afterClient map progress, clientMap := some map }, [])
      | _ => none
  | .strategyRead map =>
      match handler.stage with
      | .strategy progress client =>
          some ({ handler with
            stage := afterStrategy map progress client
            strategyMap := some map }, [])
      | _ => none

end Handler

namespace Threads

def start : Threads Config := ⟨[], []⟩

def step (threads : Threads Config) : Event Config → Option (Threads Config)
  | .handled params => some { threads with handlers := threads.handlers ++ [.enter params] }
  | .answered id answer =>
      match threads.handlers[id]? with
      | none => none
      | some handler =>
          (handler.proceed listRepr answer).map fun next =>
            { handlers := threads.handlers.set id next.1
              log := threads.log ++ next.2.map fun call => (id, call) }

end Threads

/-- The app has answered the handler like this. -/
structure Observed (app : App Config) (handler : Handler Config) : Prop where
  keys : ∀ keys, handler.keys = some keys → app.configurableKeys = keys
  calls : Answered app handler.calls
  client : ∀ map, handler.clientMap = some map → app.clientConfigMap handler.calls = map
  strategy : ∀ map, handler.strategyMap = some map → app.strategyConfigMap handler.calls = map

/-- The loop from one of its calls of the app on. -/
def resume (app : App Config) (configurable : List String) (pair : Pair) (rest : List Json)
    (progress : Progress) : Progress × Except Failure Unit :=
  let result := app.config progress.calls (some pair)
  let called := { progress with calls := progress.calls ++ [⟨some pair, result⟩] }
  match result with
  | .error failure => (called, .error failure)
  | .ok () => applyParams app configurable rest { called with changes := progress.changes ++ [pair] }

theorem apply_params_resume (app : App Config) {configurable : List String} {element : Json}
    {pair : Pair} (rest : List Json) (progress : Progress)
    (read : readParam configurable element = .ok (pair, true)) :
    applyParams app configurable (element :: rest) progress =
      resume app configurable pair rest progress := by
  obtain ⟨key, value⟩ := pair
  rw [applyParams, read]
  rfl

/-- What `handleConfig` has come to with this app when the handler is there. -/
def Agrees (app : App Config) (params : List Json) : Stage Config → Prop
  | .resetting => params = []
  | .listing => params ≠ []
  | .applying configurable pair rest progress =>
      params ≠ [] ∧ app.configurableKeys = .ok configurable ∧
        applyParams app configurable params .start = resume app configurable pair rest progress
  | .client progress => applyRequest app listRepr params = (progress, .ok ())
  | .strategy progress client =>
      applyRequest app listRepr params = (progress, .ok ()) ∧
        readMap (app.clientConfigMap progress.calls) = .ok client
  | .replied response progress => handleConfig app listRepr params = (response, progress.calls)

variable {listRepr : List Json → String} {app : App Config} {params : List Json} {progress : Progress}

theorem handle_config_failed {failure : Failure}
    (applied : applyRequest app listRepr params = (progress, .error failure)) :
    Agrees listRepr app params (failed progress failure) := by
  unfold failed Agrees handleConfig
  rw [applied]
  rfl

/-- The block before the snapshot, once the loop has ended like this. -/
def conclude (listRepr : List Json → String) :
    Progress × Except Failure Unit → Progress × Except Failure Unit
  | (progress, .error failure) => (progress, .error failure)
  | (progress, .ok ()) =>
      if progress.invalidParams.isEmpty then (progress, .ok ())
      else (progress, .error (invalidKeys listRepr progress.invalidParams))

theorem apply_request_conclude {configurable : List String} (given : params ≠ [])
    (keys : app.configurableKeys = .ok configurable) :
    applyRequest app listRepr params =
      conclude listRepr (applyParams app configurable params .start) := by
  unfold applyRequest
  rw [if_neg (by simpa using given), keys]
  dsimp only
  rcases applyParams app configurable params .start with ⟨ended, failure | done⟩ <;> rfl

theorem agrees_iterate {configurable : List String} (given : params ≠ [])
    (keys : app.configurableKeys = .ok configurable) (rest : List Json)
    (so_far : applyParams app configurable params .start =
      applyParams app configurable rest progress) :
    Agrees listRepr app params (iterate listRepr configurable rest progress) := by
  have request := @apply_request_conclude _ listRepr _ _ _ given keys
  rw [so_far] at request
  induction rest generalizing progress with
  | nil =>
      unfold iterate
      split
      · rename_i valid
        rw [applyParams, conclude, if_pos valid] at request
        exact request
      · rename_i invalid
        rw [applyParams, conclude, if_neg invalid] at request
        exact handle_config_failed request
  | cons element rest induction =>
      unfold iterate
      cases read : readParam configurable element with
      | error failure =>
          have stopped : applyParams app configurable (element :: rest) progress =
              (progress, .error failure) := by
            rw [applyParams, read]
          rw [stopped] at request
          exact handle_config_failed request
      | ok found =>
          obtain ⟨⟨key, value⟩, known⟩ := found
          cases known with
          | false =>
              have skipped : applyParams app configurable (element :: rest) progress =
                  applyParams app configurable rest
                    { progress with invalidParams := progress.invalidParams ++ [key] } := by
                rw [applyParams, read]
              rw [skipped] at so_far request
              exact induction so_far request
          | true => exact ⟨given, keys, so_far.trans (apply_params_resume app rest progress read)⟩

/-- The calls that the handler has counted. -/
def Stage.calls : Stage Config → List ConfigCall
  | .resetting => []
  | .listing => []
  | .applying _ _ _ progress => progress.calls
  | .client progress => progress.calls
  | .strategy progress _ => progress.calls
  | .replied _ progress => progress.calls

def Unasked (handler : Handler Config) : Prop :=
  match handler.stage with
  | .resetting => handler.clientMap = none ∧ handler.strategyMap = none
  | .listing => handler.keys = none ∧ handler.clientMap = none ∧ handler.strategyMap = none
  | .applying _ _ _ _ => handler.clientMap = none ∧ handler.strategyMap = none
  | .client _ => handler.clientMap = none ∧ handler.strategyMap = none
  | .strategy _ _ => handler.strategyMap = none
  | .replied _ _ => True

structure Sound (listRepr : List Json → String) (handler : Handler Config) : Prop where
  counted : handler.stage.calls = handler.calls
  unasked : Unasked handler
  agrees : ∀ app, Observed app handler → Agrees listRepr app handler.params handler.stage

theorem iterate_calls (configurable : List String) (rest : List Json) (progress : Progress) :
    (iterate listRepr configurable rest progress : Stage Config).calls = progress.calls := by
  induction rest generalizing progress with
  | nil =>
      unfold iterate
      split <;> rfl
  | cons element rest induction =>
      unfold iterate
      split
      · rfl
      · exact induction _
      · rfl

theorem iterate_unasked {handler : Handler Config} (client : handler.clientMap = none)
    (strategy : handler.strategyMap = none) (configurable : List String) (rest : List Json)
    (progress : Progress) :
    Unasked { handler with stage := iterate listRepr configurable rest progress } := by
  induction rest generalizing progress with
  | nil =>
      unfold iterate
      split
      · exact ⟨client, strategy⟩
      · trivial
  | cons element rest induction =>
      unfold iterate
      split
      · trivial
      · exact induction _
      · exact ⟨client, strategy⟩

theorem sound_enter (params : List Json) : Sound listRepr (Handler.enter params : Handler Config) := by
  cases params with
  | nil => exact ⟨rfl, ⟨rfl, rfl⟩, fun _ _ => rfl⟩
  | cons element rest => exact ⟨rfl, ⟨rfl, rfl, rfl⟩, fun _ _ => by simp [Handler.enter, Agrees]⟩

theorem answered_last {calls : List ConfigCall} {call : ConfigCall}
    (answered : Answered app (calls ++ [call])) :
    Answered app calls ∧ app.config calls call.arguments = call.result := by
  constructor
  · intro earlier other later split
    apply answered earlier other (later ++ [call])
    rw [split]
    simp
  · exact (answered calls call [] rfl).symm

theorem snapshot_failed {failure : Failure}
    (applied : applyRequest app listRepr params = (progress, .ok ()))
    (raised : snapshot app progress.calls = .error failure) :
    Agrees listRepr app params (failed progress failure) := by
  unfold failed Agrees handleConfig
  rw [applied]
  simp only [Except.bind, raised]

section Proceed

variable {handler : Handler Config}

theorem sound_listed (sound : Sound listRepr handler) (listing : handler.stage = .listing)
    (keys : Except Failure (List String)) :
    Sound listRepr { handler with
      stage := afterListing listRepr keys handler.params
      keys := some keys } := by
  have counted := sound.counted
  have unasked := sound.unasked
  unfold Unasked at unasked
  rw [listing] at counted unasked
  constructor
  · cases keys with
    | error failure => exact counted
    | ok configurable => exact (iterate_calls configurable _ _).trans counted
  · cases keys with
    | error failure => trivial
    | ok configurable =>
        exact @iterate_unasked _ listRepr { handler with keys := some (.ok configurable) }
          unasked.2.1 unasked.2.2 configurable _ _
  · intro app observed
    have before : Observed app handler := by
      refine ⟨?_, observed.calls, observed.client, observed.strategy⟩
      intro asked known
      rw [unasked.1] at known
      cases known
    have given := sound.agrees app before
    rw [listing] at given
    have answered := observed.keys keys rfl
    cases keys with
    | error failure =>
        exact handle_config_failed (apply_request_unknown app listRepr given answered)
    | ok configurable => exact agrees_iterate given answered _ rfl

theorem observed_call {stage : Stage Config} {call : ConfigCall}
    (unread : handler.clientMap = none ∧ handler.strategyMap = none)
    (observed : Observed app { handler with
      stage := stage
      calls := handler.calls ++ [call] }) :
    Observed app handler ∧ app.config handler.calls call.arguments = call.result := by
  obtain ⟨earlier, answered⟩ := answered_last observed.calls
  refine ⟨⟨observed.keys, earlier, ?_, ?_⟩, answered⟩
  · intro map known
    rw [unread.1] at known
    cases known
  · intro map known
    rw [unread.2] at known
    cases known

theorem sound_reset (sound : Sound listRepr handler) (resetting : handler.stage = .resetting)
    {result : Except Failure Unit} {call : ConfigCall} {stage : Stage Config}
    (went : afterCall listRepr result handler.stage = some (call, stage)) :
    Sound listRepr { handler with stage := stage, calls := handler.calls ++ [call] } := by
  have counted := sound.counted
  have unasked := sound.unasked
  unfold Unasked at unasked
  rw [resetting] at counted unasked went
  have none_yet : handler.calls = [] := counted.symm
  have request : ∀ app, Observed app { handler with
      stage := stage
      calls := handler.calls ++ [⟨none, result⟩] } →
      handler.params = [] ∧ applyRequest app listRepr handler.params =
        ({ Progress.start with calls := [⟨none, result⟩] }, result) := by
    intro app observed
    obtain ⟨before, answered⟩ := observed_call unasked observed
    have empty := sound.agrees app before
    rw [resetting] at empty
    have same : handler.params = [] := empty
    rw [none_yet] at answered
    refine ⟨same, ?_⟩
    rw [same, apply_request_empty, answered]
  cases result with
  | error failure =>
      cases went
      refine ⟨by rw [none_yet]; rfl, trivial, ?_⟩
      intro app observed
      exact handle_config_failed (request app observed).2
  | ok done =>
      cases went
      refine ⟨by rw [none_yet]; rfl, unasked, ?_⟩
      intro app observed
      exact (request app observed).2

theorem sound_applied (sound : Sound listRepr handler) {configurable : List String} {pair : Pair}
    {rest : List Json} {progress : Progress}
    (applying : handler.stage = .applying configurable pair rest progress)
    {result : Except Failure Unit} {call : ConfigCall} {stage : Stage Config}
    (went : afterCall listRepr result handler.stage = some (call, stage)) :
    Sound listRepr { handler with stage := stage, calls := handler.calls ++ [call] } := by
  have counted := sound.counted
  have unasked := sound.unasked
  unfold Unasked at unasked
  rw [applying] at counted unasked went
  have sameCalls : handler.calls = progress.calls := counted.symm
  have loop : ∀ app, Observed app { handler with
      stage := stage
      calls := handler.calls ++ [⟨some pair, result⟩] } →
      handler.params ≠ [] ∧ app.configurableKeys = .ok configurable ∧
        app.config progress.calls (some pair) = result ∧
        applyParams app configurable handler.params .start =
          resume app configurable pair rest progress := by
    intro app observed
    obtain ⟨before, answered⟩ := observed_call unasked observed
    have here := sound.agrees app before
    rw [applying] at here
    rw [sameCalls] at answered
    exact ⟨here.1, here.2.1, answered, here.2.2⟩
  cases result with
  | error failure =>
      cases went
      refine ⟨by rw [sameCalls]; rfl, trivial, ?_⟩
      intro app observed
      obtain ⟨given, keys, answered, so_far⟩ := loop app observed
      have request := @apply_request_conclude _ listRepr _ _ _ given keys
      unfold resume at so_far
      rw [answered] at so_far
      rw [so_far] at request
      exact handle_config_failed request
  | ok done =>
      cases went
      refine ⟨?_, ?_, ?_⟩
      · rw [sameCalls]
        exact iterate_calls configurable rest _
      · exact @iterate_unasked _ listRepr
          { handler with calls := handler.calls ++ [⟨some pair, .ok ()⟩] } unasked.1 unasked.2
          configurable rest _
      · intro app observed
        obtain ⟨given, keys, answered, so_far⟩ := loop app observed
        unfold resume at so_far
        rw [answered] at so_far
        exact agrees_iterate given keys rest so_far

theorem sound_client (sound : Sound listRepr handler) {progress : Progress}
    (reading : handler.stage = .client progress) (map : Except Failure (ConfigMap Config)) :
    Sound listRepr { handler with stage := afterClient map progress, clientMap := some map } := by
  have counted := sound.counted
  have unasked := sound.unasked
  unfold Unasked at unasked
  rw [reading] at counted unasked
  have sameCalls : handler.calls = progress.calls := counted.symm
  have request : ∀ app, Observed app { handler with
      stage := afterClient map progress
      clientMap := some map } →
      applyRequest app listRepr handler.params = (progress, .ok ()) ∧
        app.clientConfigMap progress.calls = map := by
    intro app observed
    have before : Observed app handler := by
      refine ⟨observed.keys, observed.calls, ?_, observed.strategy⟩
      intro other known
      rw [unasked.1] at known
      cases known
    have here := sound.agrees app before
    rw [reading] at here
    exact ⟨here, sameCalls ▸ observed.client map rfl⟩
  unfold afterClient at request ⊢
  cases read : readMap map with
  | error failure =>
      refine ⟨counted, trivial, ?_⟩
      intro app observed
      rw [read] at request
      obtain ⟨applied, answered⟩ := request app observed
      apply snapshot_failed applied
      rw [snapshot, answered, read]
  | ok client =>
      refine ⟨counted, unasked.2, ?_⟩
      intro app observed
      rw [read] at request
      obtain ⟨applied, answered⟩ := request app observed
      exact ⟨applied, answered ▸ read⟩

theorem sound_strategy (sound : Sound listRepr handler) {progress : Progress}
    {client : Option Config} (reading : handler.stage = .strategy progress client)
    (map : Except Failure (ConfigMap Config)) :
    Sound listRepr { handler with
      stage := afterStrategy map progress client
      strategyMap := some map } := by
  have counted := sound.counted
  have unasked := sound.unasked
  unfold Unasked at unasked
  rw [reading] at counted unasked
  have sameCalls : handler.calls = progress.calls := counted.symm
  have request : ∀ app, Observed app { handler with
      stage := afterStrategy map progress client
      strategyMap := some map } →
      applyRequest app listRepr handler.params = (progress, .ok ()) ∧
        readMap (app.clientConfigMap progress.calls) = .ok client ∧
        app.strategyConfigMap progress.calls = map := by
    intro app observed
    have before : Observed app handler := by
      refine ⟨observed.keys, observed.calls, observed.client, ?_⟩
      intro other known
      rw [unasked] at known
      cases known
    have here := sound.agrees app before
    rw [reading] at here
    exact ⟨here.1, here.2, sameCalls ▸ observed.strategy map rfl⟩
  unfold afterStrategy at request ⊢
  cases read : readMap map with
  | error failure =>
      refine ⟨counted, trivial, ?_⟩
      intro app observed
      rw [read] at request
      obtain ⟨applied, first, answered⟩ := request app observed
      apply snapshot_failed applied
      simp only [snapshot, first, answered, read]
  | ok strategy =>
      refine ⟨counted, trivial, ?_⟩
      intro app observed
      rw [read] at request
      obtain ⟨applied, first, answered⟩ := request app observed
      have built : snapshot app progress.calls = .ok ⟨client, strategy⟩ := by
        simp only [snapshot, first, answered, read]
      unfold Agrees handleConfig
      rw [applied]
      simp only [Except.bind, built]

theorem proceed_keeps {next : Handler Config} {calls : List ConfigCall} {answer : Answer Config}
    (went : handler.proceed listRepr answer = some (next, calls)) :
    next.calls = handler.calls ++ calls := by
  cases answer with
  | returned result =>
      obtain ⟨moved, _, same⟩ := Option.map_eq_some_iff.mp went
      cases same
      rfl
  | _ =>
      unfold Handler.proceed at went
      dsimp only at went
      split at went <;> cases went
      exact (List.append_nil _).symm

theorem sound_proceed (sound : Sound listRepr handler) {next : Handler Config}
    {calls : List ConfigCall} {answer : Answer Config}
    (went : handler.proceed listRepr answer = some (next, calls)) : Sound listRepr next := by
  cases answer with
  | listed keys =>
      unfold Handler.proceed at went
      dsimp only at went
      split at went <;> cases went
      rename_i listing
      exact sound_listed sound listing keys
  | returned result =>
      obtain ⟨⟨call, stage⟩, after, same⟩ := Option.map_eq_some_iff.mp went
      cases same
      cases there : handler.stage with
      | resetting => exact sound_reset sound there after
      | applying configurable pair rest progress => exact sound_applied sound there after
      | _ =>
          rw [there] at after
          cases after
  | clientRead map =>
      unfold Handler.proceed at went
      dsimp only at went
      split at went <;> cases went
      rename_i progress reading
      exact sound_client sound reading map
  | strategyRead map =>
      unfold Handler.proceed at went
      dsimp only at went
      split at went <;> cases went
      rename_i progress client reading
      exact sound_strategy sound reading map

end Proceed

/-- The calls of `config` that a handler has made, out of the log of the app. -/
def callsOf (threads : Threads Config) (id : Nat) : List ConfigCall :=
  (threads.log.filter fun entry => entry.1 = id).map Prod.snd

def Accounted (listRepr : List Json → String) (threads : Threads Config) : Prop :=
  ∀ id, callsOf threads id = ((threads.handlers[id]?).map Handler.calls).getD [] ∧
    ∀ handler, threads.handlers[id]? = some handler → Sound listRepr handler

theorem calls_of_append (log : List (Nat × ConfigCall)) (handlers : List (Handler Config))
    (maker : Nat) (calls : List ConfigCall) (id : Nat) :
    callsOf ⟨handlers, log ++ calls.map fun call => (maker, call)⟩ id =
      callsOf ⟨handlers, log⟩ id ++ if maker = id then calls else [] := by
  unfold callsOf
  rw [List.filter_append, List.map_append]
  congr 1
  by_cases own : maker = id
  · simp [own, List.filter_map, Function.comp_def]
  · simp [own, List.filter_map, Function.comp_def]

theorem accounted_step {threads next : Threads Config} {event : Event Config}
    (accounted : Accounted listRepr threads) (taken : threads.step listRepr event = some next) :
    Accounted listRepr next := by
  cases event with
  | handled params =>
      cases taken
      intro id
      obtain ⟨logged, sound⟩ := accounted id
      dsimp only
      rw [List.getElem?_append]
      by_cases inside : id < threads.handlers.length
      · rw [if_pos inside]
        exact ⟨logged, sound⟩
      · rw [List.getElem?_eq_none (Nat.not_lt.mp inside)] at logged
        rw [if_neg inside, List.getElem?_singleton]
        split
        · refine ⟨logged, ?_⟩
          rintro handler ⟨⟩
          exact sound_enter params
        · exact ⟨logged, by simp⟩
  | answered id answer =>
      unfold Threads.step at taken
      dsimp only at taken
      split at taken
      · cases taken
      · rename_i handler stored
        obtain ⟨⟨after, calls⟩, went, rfl⟩ := Option.map_eq_some_iff.mp taken
        intro other
        obtain ⟨logged, sound⟩ := accounted other
        rw [calls_of_append]
        change callsOf threads other ++ _ = _ ∧ _
        rw [logged]
        by_cases own : id = other
        · subst own
          have inside := (List.getElem?_eq_some_iff.mp stored).1
          rw [if_pos rfl, stored, List.getElem?_set_self inside]
          refine ⟨(proceed_keeps went).symm, ?_⟩
          rintro found ⟨⟩
          exact sound_proceed (sound handler stored) went
        · rw [if_neg own, List.append_nil, List.getElem?_set_ne own]
          exact ⟨rfl, sound⟩

theorem accounted_run {events : List (Event Config)} {threads : Threads Config}
    (reached : run (Threads.step listRepr) .start events = some threads) :
    Accounted listRepr threads := by
  have none_yet : Accounted listRepr (.start : Threads Config) := by
    intro id
    exact ⟨rfl, by simp [Threads.start]⟩
  exact run_invariant (Threads.step listRepr) (fun _ _ _ => accounted_step) none_yet reached

/-- The app that gives the handler's answers again. -/
def replay (handler : Handler Config) : App Config where
  configurableKeys := handler.keys.getD (.ok [])
  config earlier _ := ((handler.calls[earlier.length]?).map ConfigCall.result).getD (.ok ())
  clientConfigMap _ := handler.clientMap.getD (.ok .other)
  strategyConfigMap _ := handler.strategyMap.getD (.ok .other)

theorem observed_replay (handler : Handler Config) : Observed (replay handler) handler := by
  refine ⟨?_, ?_, ?_, ?_⟩
  · intro keys known
    simp [replay, known]
  · intro earlier call later split
    simp [replay, split]
  · intro map known
    simp [replay, known]
  · intro map known
    simp [replay, known]

/-- Whatever the other config handlers do to the app between its calls, the
reply of each is the one it would give alone with an app that answers it the
same, and such an app there is. Its changes are, in order, the pairs of those
of its own calls in the app's log that returned. -/
theorem config_reply_as_alone (events : List (Event Config)) (threads : Threads Config)
    (reached : run (Threads.step listRepr) .start events = some threads) (id : Nat)
    (handler : Handler Config) (stored : threads.handlers[id]? = some handler)
    (response : Response Config) (progress : Progress)
    (replied : handler.stage = .replied response progress) :
    (∃ app, Observed app handler) ∧
      (∀ app, Observed app handler →
        handleConfig app listRepr handler.params = (response, callsOf threads id)) ∧
      (handler.params ≠ [] → response.changes.map some =
        ((callsOf threads id).filter fun call => call.result.isOk).map ConfigCall.arguments) := by
  obtain ⟨logged, sound⟩ := accounted_run reached id
  have counted := (sound handler stored).counted
  rw [replied] at counted
  have calls : callsOf threads id = progress.calls := by
    rw [logged, stored, Option.map_some, Option.getD_some, ← counted]
    rfl
  have alone : ∀ app, Observed app handler →
      handleConfig app listRepr handler.params = (response, callsOf threads id) := by
    intro app observed
    have agrees := (sound handler stored).agrees app observed
    rw [replied] at agrees
    rw [calls]
    exact agrees
  refine ⟨⟨replay handler, observed_replay handler⟩, alone, ?_⟩
  intro given
  have same := alone (replay handler) (observed_replay handler)
  cases keys : (replay handler).configurableKeys with
  | error failure =>
      have tells := (reply_tells_unknown listRepr given keys).changed given
      rw [same] at tells
      exact tells
  | ok configurable =>
      have tells := (reply_tells_loop listRepr given keys).changed given
      rw [same] at tells
      exact tells

/-- Two config commands whose calls alternate; the app refuses the second one of
the first command. -/
def alternating : List (Event Unit) :=
  [.handled [.arr [.str "a", .int 1], .arr [.str "b", .int 2]], .handled [.arr [.str "a", .int 3]],
    .answered 0 (.listed (.ok ["a", "b"])), .answered 1 (.listed (.ok ["a", "b"])),
    .answered 0 (.returned (.ok ())), .answered 1 (.returned (.ok ())),
    .answered 0 (.returned (.error ⟨⟨"ValueError"⟩, "b is fixed"⟩)),
    .answered 1 (.clientRead (.ok (.mapping ()))), .answered 1 (.strategyRead (.ok .other))]

def refused : Failure := ⟨⟨"ValueError"⟩, "b is fixed"⟩

/-- The reply to the first command is that of an app which refuses its second
key, and tells of the first one. -/
theorem alternating_replies_apart :
    ∃ threads, run (Threads.step fun _ => "") .start alternating = some threads ∧
      ∃ handler response progress, threads.handlers[0]? = some handler ∧
        handler.stage = .replied response progress ∧
        callsOf threads 0 =
          [⟨some (.str "a", .int 1), .ok ()⟩, ⟨some (.str "b", .int 2), .error refused⟩] ∧
        (∃ app, Observed app handler ∧
          handleConfig app (fun _ => "") handler.params = (response, callsOf threads 0)) ∧
        response.changes = [(.str "a", .int 1)] ∧ response.status = MQTTStatusCode.error ∧
        response.changes.map some =
          ((callsOf threads 0).filter fun call => call.result.isOk).map ConfigCall.arguments := by
  refine ⟨_, rfl, _, _, _, rfl, rfl, rfl, ?_, rfl, rfl, ?_⟩
  · obtain ⟨⟨app, observed⟩, alone, _⟩ :=
      @config_reply_as_alone _ (fun _ => "") alternating _ rfl 0 _ rfl _ _ rfl
    exact ⟨app, observed, alone app observed⟩
  · exact (@config_reply_as_alone _ (fun _ => "") alternating _ rfl 0 _ rfl _ _ rfl).2.2
      (List.cons_ne_nil _ _)

end RemoteIface.Gateway.ConfigThreads
