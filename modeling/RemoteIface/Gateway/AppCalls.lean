import RemoteIface.Gateway.CommandHandlers

/-!
What the app sees of the command handlers: at most one call for each request,
and, as long as its loop is not too late, nothing after the reply.
-/

namespace RemoteIface.Gateway.AppCalls

set_option autoImplicit false

open RemoteIface.Library
open RemoteIface.Library.Runs
open RemoteIface.Library.TimedCall (Time Thrown Call Op Lag)
open RemoteIface.Commlib.Serialization
open RemoteIface.Protocols.Messages
open RemoteIface.Protocols.RoundTrip
open RemoteIface.Gateway.CommandHandlers

variable (repr : PyValue → String) {timeout : Time}

/-- The methods of the app that have begun to run for a handler call. -/
def callsFor (server : Server) (id : Nat) : List AppCall :=
  (server.appCalls.filter fun entry => entry.1 = id).map Prod.snd

/-- A direct call has begun since the handler was entered, a coroutine since its
first step. -/
def begunCalls (timeout : Time) (execution : Execution) : List AppCall :=
  match execution.handling, execution.stage with
  | .calls call _, _ => [call]
  | .awaits call _, .awaiting timed => if timeout ≤ 0 ∨ timed.unbegun then [] else [call]
  | _, _ => []

def Recorded (timeout : Time) (server : Server) : Prop :=
  ∀ id, callsFor server id = ((server.executions[id]?).map (begunCalls timeout)).getD []

theorem calls_for_append {server next : Server} {calls : List (Nat × AppCall)} (id : Nat)
    (appended : next.appCalls = server.appCalls ++ calls) :
    callsFor next id =
      callsFor server id ++ (calls.filter fun entry => entry.1 = id).map Prod.snd := by
  unfold callsFor
  rw [appended, List.filter_append, List.map_append]

theorem begun_calls_new (timeout : Time) (handling : Handling) :
    begunCalls timeout ⟨handling, handling.stage⟩ = handling.direct := by
  cases handling <;> rfl

theorem new_calls_own (timeout : Time) (id : Nat) (handling : Handling) (event : Event) :
    (newCalls timeout id handling event).filter (fun entry => entry.1 = id) =
      newCalls timeout id handling event := by
  apply List.filter_eq_self.mpr
  intro entry member
  unfold newCalls at member
  split at member
  · unfold entered at member
    split at member
    · split at member
      · cases member
      · rw [List.mem_singleton.mp member]
        exact decide_eq_true rfl
    · cases member
  · cases member

theorem new_calls_other (timeout : Time) {id other : Nat} (different : id ≠ other)
    (handling : Handling) (event : Event) :
    (newCalls timeout id handling event).filter (fun entry => entry.1 = other) = [] := by
  rw [← new_calls_own timeout id handling event, List.filter_filter]
  apply List.filter_eq_nil_iff.mpr
  intro entry _ both
  simp only [Bool.and_eq_true, decide_eq_true_eq] at both
  exact different (both.2.symm.trans both.1)

/-- A handler call that moves on has begun what the event adds to the record. -/
theorem begun_calls_advance {now : Time} {id : Nat} {execution : Execution} {event : Event}
    {stage : Stage}
    (advance : Advance timeout now id execution.handling event execution.stage stage) :
    begunCalls timeout { execution with stage := stage } =
      begunCalls timeout execution ++
        (newCalls timeout id execution.handling event).map Prod.snd := by
  obtain ⟨handling, before⟩ := execution
  dsimp only at advance ⊢
  cases advance with
  | returned call finish direct result =>
      subst direct
      rfl
  | submitted call finish waits =>
      subst waits
      simp [begunCalls, newCalls, Call.unbegun, Call.submit]
  | refused call finish waits thrown =>
      subst waits
      rfl
  | moved call finish waits op timed moved taken =>
      subst waits
      have begun := Call.unbegun_step taken
      unfold begunCalls newCalls
      dsimp only
      cases op with
      | begun =>
          simp only [Call.Op.isBegun, if_true] at begun
          rw [begun.1, begun.2]
          unfold entered
          by_cases short : timeout ≤ 0
          · simp [short]
          · simp [short]
      | fired =>
          simp only [Call.Op.isBegun, Bool.false_eq_true, if_false] at begun
          simp [begun, entered]
      | ended ending =>
          simp only [Call.Op.isBegun, Bool.false_eq_true, if_false] at begun
          simp [begun, entered]
      | waits =>
          simp only [Call.Op.isBegun, Bool.false_eq_true, if_false] at begun
          simp [begun, entered]
      | woke =>
          simp only [Call.Op.isBegun, Bool.false_eq_true, if_false] at begun
          simp [begun, entered]

theorem recorded_start (now : Time) : Recorded timeout (.start now) := by
  intro id
  rfl

theorem recorded_step {server next : Server} {event : Event} (recorded : Recorded timeout server)
    (taken : server.step repr timeout event = some next) : Recorded timeout next := by
  intro id
  have before := recorded id
  cases step_move repr taken with
  | passed now later new =>
      rw [new]
      exact before
  | handled command req handling handler executions calls now =>
      rw [calls_for_append id calls, executions, before]
      by_cases new : id = server.executions.length
      · rw [new, List.getElem?_concat_length, List.getElem?_eq_none (Nat.le_refl _),
          Option.map_some, begun_calls_new]
        cases handling <;> simp [Handling.direct]
      · have old : (server.executions ++ [⟨handling, handling.stage⟩])[id]? =
            server.executions[id]? := by
          rw [List.getElem?_append]
          split
          · rfl
          · rw [List.getElem?_eq_none (by simp; omega), List.getElem?_eq_none (by omega)]
        have none_new : (handling.direct.map fun call => (server.executions.length, call)).filter
            (fun entry => entry.1 = id) = [] := by
          apply List.filter_eq_nil_iff.mpr
          intro entry member own
          obtain ⟨call, _, rfl⟩ := List.mem_map.mp member
          exact new (of_decide_eq_true own).symm
        rw [old, none_new, List.map_nil, List.append_nil]
  | advanced other _ execution stage stored move executions calls now =>
      rw [calls_for_append id calls, executions, before]
      by_cases same : other = id
      · subst same
        have inside := (List.getElem?_eq_some_iff.mp stored).1
        rw [new_calls_own, List.getElem?_set_self inside, stored, Option.map_some, Option.map_some,
          Option.getD_some, Option.getD_some, begun_calls_advance move]
      · rw [new_calls_other timeout same, List.map_nil, List.append_nil,
          List.getElem?_set_ne same]

theorem recorded_run {now : Time} {events : List Event} {server : Server}
    (reached : run (Server.step repr timeout) (.start now) events = some server) :
    Recorded timeout server :=
  run_invariant (Server.step repr timeout) (fun _ _ _ recorded taken =>
    recorded_step repr recorded taken) (recorded_start now) reached

/-- What the app has been called with for a request: nothing if the handler
answers by itself, the handler's call since its entry if it makes it itself, and
for a coroutine that call since the loop has begun it, unless it is given no time
at all; so once, if the reply says that it succeeded. -/
def CalledOnce (timeout : Time) (events : List Event) (server : Server) (id : Nat)
    (execution : Execution) : Prop :=
  match execution.handling with
  | .answers _ => callsFor server id = []
  | .calls call _ => callsFor server id = [call]
  | .awaits call _ =>
      (.awaited id .begun ∈ events → 0 < timeout → callsFor server id = [call]) ∧
        (¬ (.awaited id .begun ∈ events ∧ 0 < timeout) → callsFor server id = []) ∧
        ∀ response, execution.reply = some response → response.value "status" = .int 200 →
          callsFor server id = [call]

section Awaits

variable {start : Time} {events : List Event} {id : Nat} {execution : Execution} {call : AppCall}
  {finish : Except Thrown PyValue → Message}

theorem begun_calls_awaits (explained : Explained timeout start events id execution)
    (waits : execution.handling = .awaits call finish) :
    (.awaited id .begun ∈ events → 0 < timeout → begunCalls timeout execution = [call]) ∧
      (¬ (.awaited id .begun ∈ events ∧ 0 < timeout) → begunCalls timeout execution = []) := by
  obtain ⟨handling, stage⟩ := execution
  subst waits
  have unbegun : storyOf id start events = [] → .awaited id .begun ∉ events := by
    intro story begun
    obtain ⟨time, member⟩ := story_mem.mpr begun
    rw [story] at member
    cases member
  cases stage with
  | inside => exact ⟨fun begun => absurd begun (unbegun explained.1), fun _ => rfl⟩
  | replied response => exact ⟨fun begun => absurd begun (unbegun explained.1), fun _ => rfl⟩
  | awaiting timed =>
      obtain ⟨_, submitted, ran⟩ := explained
      have told : timed.unbegun = false ↔ .awaited id .begun ∈ events :=
        (TimedCall.told_run ran).begun.trans story_mem
      unfold begunCalls
      dsimp only
      constructor
      · intro begun long
        rw [if_neg]
        simp [told.mpr begun, long]
      · intro idle
        rw [if_pos]
        by_contra running
        simp only [not_or, not_le, Bool.not_eq_true] at running
        exact idle ⟨told.mp running.2, running.1⟩

theorem begun_of_success {command : Command}
    (explained : Explained timeout start events id execution)
    (serves : execution.handling.Serves command)
    (waits : execution.handling = .awaits call finish) {response : Message}
    (replied : execution.reply = some response) (success : response.value "status" = .int 200) :
    begunCalls timeout execution = [call] := by
  obtain ⟨handling, stage⟩ := execution
  subst waits
  have concludes : Concludes command finish := serves
  cases stage with
  | inside => cases replied
  | replied given =>
      obtain ⟨_, thrown, _, rfl⟩ := explained
      cases replied
      rw [concludes.status] at success
      cases success
  | awaiting timed =>
      obtain ⟨_, submitted, ran⟩ := explained
      obtain ⟨result, answered, rfl⟩ := Option.map_eq_some_iff.mp replied
      rw [concludes.status] at success
      cases result with
      | error thrown => cases success
      | ok value =>
          have told := TimedCall.told_run ran
          have done := ((told.answered (.ok value)).mp (answer_iff.mp answered)).value_settled
          have begun : timed.unbegun = false := by
            unfold Call.unbegun
            rw [(told.resolved (.ok value)).mpr done]
          simp [begunCalls, done.returned.1, begun]

end Awaits

theorem called_once_of_run {now : Time} {events : List Event} {server : Server}
    (reached : run (Server.step repr timeout) (.start now) events = some server) {id : Nat}
    {execution : Execution} (stored : server.executions[id]? = some execution) :
    CalledOnce timeout events server id execution := by
  have record := recorded_run repr reached id
  rw [stored, Option.map_some, Option.getD_some] at record
  obtain ⟨explained, command, req, _, handler⟩ :=
    (accounted_run repr reached).explained id execution stored
  have serves := handler_serves repr handler
  unfold CalledOnce
  rw [record]
  split
  · rename_i fixed answers
    unfold begunCalls
    rw [answers]
  · rename_i call finish direct
    unfold begunCalls
    rw [direct]
  · rename_i call finish waits
    obtain ⟨begun, idle⟩ := begun_calls_awaits explained waits
    exact ⟨begun, idle, fun response replied success =>
      begun_of_success explained serves waits replied success⟩

/-- In every run the app is called at most once for each request, with the call
that the handler makes of it: at the entry of a handler that calls by itself,
and at the first step of a coroutine, so before a reply that tells its success. -/
theorem app_called_once (timeout now : Time) (events : List Event) (server : Server)
    (reached : run (Server.step repr timeout) (.start now) events = some server) :
    ∀ id, (server.executions[id]? = none → callsFor server id = []) ∧
      ∀ execution, server.executions[id]? = some execution →
        CalledOnce timeout events server id execution := by
  intro id
  constructor
  · intro absent
    rw [recorded_run repr reached id, absent]
    rfl
  · intro execution stored
    exact called_once_of_run repr reached stored

theorem starting_run_calls_once :
    ∃ server, run (Server.step (fun _ => "") 30) (.start 0) startingRun = some server ∧
      callsFor server 0 = [.startCheck (.str "") (.str "") (.str "") (.bool false)] ∧
      callsFor server 1 = [] ∧
      ∀ execution, server.executions[0]? = some execution →
        CalledOnce 30 startingRun server 0 execution := by
  refine ⟨_, rfl, rfl, rfl, ?_⟩
  exact (app_called_once (fun _ => "") 30 0 startingRun _ rfl 0).2

def inTime (lag : Lag) (now : Time) (execution : Execution) : Prop :=
  match execution.stage with
  | .awaiting timed => timed.Prompt lag now
  | _ => True

instance (lag : Lag) (now : Time) : ∀ execution, Decidable (inTime lag now execution)
  | ⟨_, .awaiting timed⟩ => inferInstanceAs (Decidable (timed.Prompt lag now))
  | ⟨_, .inside⟩ => .isTrue trivial
  | ⟨_, .replied _⟩ => .isTrue trivial

def Prompt (lag : Lag) (server : Server) : Prop :=
  ∀ execution ∈ server.executions, inTime lag server.now execution

instance (lag : Lag) (server : Server) : Decidable (Prompt lag server) :=
  inferInstanceAs (Decidable (∀ execution ∈ server.executions, inTime lag server.now execution))

/-- The event leaves the loop in time. -/
def StaysPrompt (timeout : Time) (lag : Lag) (server : Server) (event : Event) : Prop :=
  ∀ next ∈ server.step repr timeout event, Prompt lag next

instance (lag : Lag) (server : Server) (event : Event) :
    Decidable (StaysPrompt repr timeout lag server event) :=
  inferInstanceAs (Decidable (∀ next ∈ server.step repr timeout event, Prompt lag next))

/-- The handlers that have their answer have it from a coroutine that is over. -/
def Over (server : Server) : Prop :=
  ∀ execution ∈ server.executions, ∀ timed result, execution.stage = .awaiting timed →
    timed.caller = .answered result →
    ∃ settled, timed.coroutine = .resolved settled ∧ result = TimedCall.relay settled

def onTime (timeout : Time) (lag : Lag) (now : Time) (execution : Execution) : Prop :=
  ∀ timed, execution.stage = .awaiting timed → timed.OnTime lag timeout slack now

theorem on_time_advance {lag : Lag} {now : Time} {id : Nat} {execution : Execution} {event : Event}
    {stage : Stage} (nonneg : 0 ≤ timeout) (short : lag.total < slack)
    (punctual : onTime timeout lag now execution) (prompt : inTime lag now execution)
    (advance : Advance timeout now id execution.handling event execution.stage stage) :
    onTime timeout lag now { execution with stage := stage } := by
  intro timed standing
  dsimp only at standing
  rw [standing] at advance
  unfold inTime at prompt
  generalize held : execution.stage = start at advance
  cases advance with
  | submitted call finish waits => exact Call.on_time_submit lag timeout slack now
  | moved call finish waits op earlier moved went =>
      rw [held] at prompt
      exact Call.on_time_step (punctual earlier held) prompt nonneg short went

def Punctual (timeout : Time) (lag : Lag) (server : Server) : Prop :=
  Prompt lag server ∧ ∀ execution ∈ server.executions, onTime timeout lag server.now execution

theorem punctual_step {lag : Lag} {server next : Server} {event : Event} (nonneg : 0 ≤ timeout)
    (short : lag.total < slack) (punctual : Punctual timeout lag server)
    (stays : StaysPrompt repr timeout lag server event)
    (taken : server.step repr timeout event = some next) : Punctual timeout lag next := by
  obtain ⟨prompt, onTimes⟩ := punctual
  refine ⟨stays next taken, ?_⟩
  cases step_move repr taken with
  | passed now later new =>
      rw [new]
      intro execution member timed standing
      exact (onTimes execution member timed standing).advance later
  | handled command req handling handler executions calls now =>
      rw [executions, now]
      intro execution member
      rcases List.mem_append.mp member with old | fresh
      · exact onTimes execution old
      · rw [List.mem_singleton.mp fresh]
        intro timed standing
        cases handling <;> cases standing
  | advanced id _ found stage stored move executions calls now =>
      rw [executions, now]
      intro execution member
      have inside := List.mem_of_getElem? stored
      rcases List.mem_or_eq_of_mem_set member with old | new
      · exact onTimes execution old
      · rw [new]
        exact on_time_advance nonneg short (onTimes found inside) (prompt found inside) move

/-- The loop is one second late with the first step, and the coroutine needs two
seconds to end after its timer. -/
def cancelledRun : List Event :=
  [.handled .stop ⟨.request .stop, fun _ => .bool false⟩, .submitted 0 (.ok ()),
    .awaited 0 .waits, .passed 1, .awaited 0 .begun, .passed 31, .awaited 0 .fired, .passed 33,
    .awaited 0 (.ended .cancelled), .passed 34, .awaited 0 .woke]

end RemoteIface.Gateway.AppCalls
