import RemoteIface.Commlib.NodeContext

/-!
The workers of one `NodeContext` over its whole life. Every connection attempt
works on the client it has made last, and `is_healthy` is about the body of its
`async with`. So a drain and a dispatch task are alive only for the newest
client, and none is left when the next client is made or `stop` has returned.
-/

namespace RemoteIface.Commlib.Connection

set_option autoImplicit false

/-- The client that the connection attempt at this await has made. -/
def RunPc.attempt : RunPc → Option ClientId
  | connecting client => some client
  | subscribing client _ => some client
  | waiting client => some client
  | closing client _ => some client
  | cleanup client _ => some client
  | _ => none

/-- The client whose `async with` body or `__aexit__` stands at this await. -/
def RunPc.entered : RunPc → Option ClientId
  | subscribing client _ => some client
  | waiting client => some client
  | closing client _ => some client
  | _ => none

namespace State

def attempt (conn : State) : Option ClientId := conn.runTask.bind RunPc.attempt

def entered (conn : State) : Option ClientId := conn.runTask.bind RunPc.entered

def NoneAlive (conn : State) : Prop := ∀ session ∈ conn.sessions, session.alive = false

/-- One drain and one dispatch task at most, both on the newest client. -/
structure OnePair (conn : State) : Prop where
  drain : conn.sessions.countP (fun session => session.drain.alive) ≤ 1
  dispatch : conn.sessions.countP (fun session => session.dispatch.alive) ≤ 1
  newest : ∀ session ∈ conn.sessions, session.alive = true → session.client + 1 = conn.clients

/-- The attempt at hand is on the newest client, and `_connected` is set only
inside its `async with`. -/
structure Current (conn : State) : Prop where
  newest : ∀ client, conn.attempt = some client → client + 1 = conn.clients
  healthy : conn.connected = true → ∃ client, conn.entered = some client

/-- A call of `stop` returns: at once, or when it is resumed. -/
def StopReturned (event : Event) (next : State) : Prop :=
  event = .stopResumed ∨ event = .stop ∧ next.lifecycle = .none

/-- No call is under way, and the last one that had an effect was no `start`. -/
def Idle (conn : State) : Prop := conn.lifecycle = .none ∧ conn.started = false

structure Quiet (conn : State) : Prop where
  runTask : conn.runTask = none
  sessions : conn.NoneAlive
  unhealthy : conn.connected = false

theorem attempt_of_entered {conn : State} {client : ClientId}
    (entered : conn.entered = some client) : conn.attempt = some client := by
  obtain ⟨pc, standsAt, inside⟩ := Option.bind_eq_some_iff.mp entered
  apply Option.bind_eq_some_iff.mpr
  refine ⟨pc, standsAt, ?_⟩
  cases pc <;> simp_all [RunPc.entered, RunPc.attempt]

theorem attempt_of_owner {conn : State} {client : ClientId}
    (owner : conn.owner = some client) : conn.attempt = some client := by
  obtain ⟨pc, standsAt, owned⟩ := Option.bind_eq_some_iff.mp owner
  apply Option.bind_eq_some_iff.mpr
  refine ⟨pc, standsAt, ?_⟩
  cases pc <;> simp_all [RunPc.client, RunPc.attempt]

theorem attempt_at {conn : State} {pc : RunPc} (standsAt : conn.runTask = some pc) :
    conn.attempt = pc.attempt := by
  rw [attempt, standsAt]
  rfl

theorem entered_at {conn : State} {pc : RunPc} (standsAt : conn.runTask = some pc) :
    conn.entered = pc.entered := by
  rw [entered, standsAt]
  rfl

/-- All that a step can do to the attempt: keep it, end it, make the next
client, connect it, or go on with it. Only an event that `connects` connects. -/
inductive AttemptMove (connects : Prop) (conn next : State) : Prop where
  | kept (runTask : next.runTask = conn.runTask) (connected : next.connected = conn.connected)
      (clients : next.clients = conn.clients)
  | parked (attempt : next.attempt = none)
      (connected : next.connected = true → conn.connected = true ∧ conn.entered = none)
      (clients : next.clients = conn.clients)
  | made (free : conn.entered = none ∧ conn.owner = none)
      (runTask : next.runTask = some (.connecting conn.clients))
      (connected : next.connected = conn.connected) (clients : next.clients = conn.clients + 1)
  | connected (client : ClientId) (succeeded : connects)
      (before : conn.attempt = some client) (after : next.entered = some client)
      (clients : next.clients = conn.clients)
  | went (client : ClientId) (before : conn.attempt = some client)
      (after : next.attempt = some client)
      (connected : next.connected = true →
        conn.connected = true ∧ next.entered = some client)
      (clients : next.clients = conn.clients)

theorem Current.of_move {connects : Prop} {conn next : State} (current : conn.Current)
    (move : AttemptMove connects conn next) : next.Current := by
  cases move with
  | kept runTask connected clients =>
      constructor
      · intro client attempt
        rw [clients]
        apply current.newest
        rw [← attempt, State.attempt, State.attempt, runTask]
      · intro healthy
        rw [connected] at healthy
        rw [entered, runTask]
        exact current.healthy healthy
  | parked attempt connected clients =>
      constructor
      · intro client attempted
        rw [attempt] at attempted
        cases attempted
      · intro healthy
        obtain ⟨before, free⟩ := connected healthy
        obtain ⟨client, entered⟩ := current.healthy before
        rw [free] at entered
        cases entered
  | made free runTask connected clients =>
      constructor
      · intro client attempted
        rw [attempt_at runTask] at attempted
        cases attempted
        exact clients.symm
      · intro healthy
        rw [connected] at healthy
        obtain ⟨client, entered⟩ := current.healthy healthy
        rw [free.1] at entered
        cases entered
  | connected client succeeded before after clients =>
      constructor
      · intro other attempted
        rw [attempt_of_entered after, Option.some.injEq] at attempted
        rw [clients, ← attempted]
        exact current.newest client before
      · intro healthy
        exact ⟨client, after⟩
  | went client before after connected clients =>
      constructor
      · intro other attempted
        rw [after, Option.some.injEq] at attempted
        rw [clients, ← attempted]
        exact current.newest client before
      · intro healthy
        exact ⟨client, (connected healthy).2⟩

theorem AttemptMove.of_caught {connects : Prop} {conn next : State} {requested : Bool}
    (move : AttemptMove connects { conn with cancelRequested := requested } next) :
    AttemptMove connects conn next := by
  cases move with
  | kept runTask connected clients => exact .kept runTask connected clients
  | parked attempt connected clients => exact .parked attempt connected clients
  | made free runTask connected clients => exact .made free runTask connected clients
  | connected client succeeded before after clients =>
      exact .connected client succeeded before after clients
  | went client before after connected clients => exact .went client before after connected clients

theorem after_cleanup_parked (conn : State) (exit : Exit) :
    (conn.afterCleanup exit).attempt = none ∧
      (conn.afterCleanup exit).connected = conn.connected ∧
      (conn.afterCleanup exit).clients = conn.clients := by
  cases exit with
  | cancelled => exact ⟨rfl, rfl, rfl⟩
  | failed =>
      unfold afterCleanup
      dsimp only
      split <;> exact ⟨rfl, rfl, rfl⟩

/-- The `finally` clears `_connected` before anything else. -/
theorem leave_attempt {connects : Prop} {conn : State} {client : ClientId} (exit : Exit)
    (attempt : conn.attempt = some client) : AttemptMove connects conn (conn.leave client exit) := by
  unfold leave
  split
  · apply AttemptMove.went client attempt rfl
    · intro healthy
      cases healthy
    · rfl
  · obtain ⟨parked, connected, clients⟩ :=
      after_cleanup_parked { conn with connected := false } exit
    apply AttemptMove.parked parked
    · intro healthy
      rw [connected] at healthy
      cases healthy
    · exact clients

theorem iterate_attempt {connects : Prop} {conn : State} (factoryReturned : Bool)
    (free : conn.entered = none ∧ conn.owner = none) :
    AttemptMove connects conn (conn.iterate factoryReturned) := by
  unfold iterate
  split
  · exact .parked rfl (fun healthy => ⟨healthy, free.1⟩) rfl
  · split
    · exact .made free rfl rfl rfl
    · obtain ⟨parked, connected, clients⟩ :=
        after_cleanup_parked { conn with connected := false } .failed
      apply AttemptMove.parked parked
      · intro healthy
        rw [connected] at healthy
        cases healthy
      · exact clients

theorem subscribe_loop_entered (loop : State) (client : ClientId) (todo : List String) :
    (loop.subscribeLoop client todo).entered = some client ∧
      (loop.subscribeLoop client todo).connected = loop.connected ∧
      (loop.subscribeLoop client todo).clients = loop.clients := by
  cases todo with
  | nil => exact ⟨rfl, rfl, rfl⟩
  | cons topic rest => exact ⟨rfl, rfl, rfl⟩

theorem enter_attempt {conn : State} {client : ClientId} (desired : List String)
    (attempt : conn.attempt = some client) {connects : Prop} (succeeded : connects) :
    AttemptMove connects conn (conn.enter client desired) := by
  obtain ⟨entered, _, clients⟩ :=
    subscribe_loop_entered { conn with connected := true, subscribed := [] } client desired
  exact .connected client succeeded attempt entered clients

theorem subscribe_attempt {connects : Prop} {conn : State} {client : ClientId} (topic : String)
    (rest : List String) (attempt : conn.attempt = some client) :
    AttemptMove connects conn (conn.subscribe client topic rest) := by
  obtain ⟨entered, connected, clients⟩ :=
    subscribe_loop_entered { conn with subscribed := conn.subscribed ++ [topic] } client rest
  apply AttemptMove.went client attempt (attempt_of_entered entered)
  · intro healthy
    exact ⟨connected ▸ healthy, entered⟩
  · exact clients

theorem closing_attempt {connects : Prop} {conn : State} {client : ClientId} (exit : Exit)
    (attempt : conn.attempt = some client) :
    AttemptMove connects conn (conn.goTo (.closing client exit)) :=
  .went client attempt rfl (fun healthy => ⟨healthy, rfl⟩) rfl

theorem LifecycleStep.attempt {connects : Prop} {conn next : State} {event : Event}
    (taken : LifecycleStep conn event next) (dormant : conn.Dormant) :
    AttemptMove connects conn next := by
  cases taken with
  | idle => exact .kept rfl rfl rfl
  | start between notStarted =>
      have free : conn.entered = none := by simp [entered, dormant between notStarted]
      exact .parked rfl (fun healthy => ⟨healthy, free⟩) rfl
  | startResumed waits => exact .kept rfl rfl rfl
  | stopAlone gone =>
      apply AttemptMove.parked
      · simp [State.attempt, gone]
      · intro healthy
        cases healthy
      · rfl
  | stop standsAt => exact .kept rfl rfl rfl
  | stopResumed ended =>
      apply AttemptMove.parked rfl
      · intro healthy
        cases healthy
      · rfl

theorem RunStep.attempt {desired : List String} {conn next : State} {event : Event}
    (taken : RunStep desired conn event next) :
    AttemptMove (event = .entered true) conn next := by
  cases taken with
  | iterated factoryReturned standsAt atHead =>
      have free : conn.entered = none ∧ conn.owner = none := by
        rcases atHead with rfl | rfl <;> exact ⟨entered_at standsAt, owner_at standsAt⟩
      exact iterate_attempt factoryReturned free
  | entered standsAt => exact enter_attempt desired (attempt_at standsAt) rfl
  | subscribed standsAt => exact subscribe_attempt _ _ (attempt_at standsAt)
  | @closing _ pc client requested exit standsAt inBody =>
      have attempt : conn.attempt = some client := by
        rcases inBody with ⟨todo, rfl⟩ | rfl <;> exact attempt_at standsAt
      exact (@closing_attempt _ { conn with cancelRequested := requested } _ exit
        attempt).of_caught
  | @left _ pc client requested exit standsAt outside =>
      have attempt : conn.attempt = some client := by
        rcases outside with rfl | ⟨held, rfl⟩ <;> exact attempt_at standsAt
      exact (@leave_attempt _ { conn with cancelRequested := requested } _ exit
        attempt).of_caught
  | cleanedUp requested exit standsAt _ =>
      obtain ⟨parked, connected, clients⟩ :=
        after_cleanup_parked { conn with cancelRequested := requested } exit
      exact .parked parked (fun healthy => ⟨connected ▸ healthy, entered_at standsAt⟩) clients
  | ended requested standsAt atHead =>
      have free : conn.entered = none := by
        rcases atHead with rfl | rfl <;> exact entered_at standsAt
      exact .parked rfl (fun healthy => ⟨healthy, free⟩) rfl

theorem worker_attempt {desired : List String} {conn next : State} {event : Event}
    (ofTask : event.ofRun = false) (taken : conn.step desired event = some next) :
    AttemptMove (event = .entered true) conn next := by
  cases event <;> simp only [Event.ofRun, Bool.true_eq_false] at ofTask
  case drainTook id =>
    obtain ⟨client, dispatch, item, rest, _, _, rfl⟩ := drain_took_cases taken
    exact .kept rfl rfl rfl
  case published id returned =>
    obtain ⟨client, item, dispatch, _, rfl⟩ := publish_ended_cases taken
    cases returned with
    | true => exact .kept rfl rfl rfl
    | false => exact .kept rfl rfl rfl
  case messagesEnded id raised =>
    obtain ⟨client, drain, _, rfl⟩ := messages_ended_cases taken
    exact .kept rfl rfl rfl
  case drainCancelled id =>
    obtain ⟨session, _, _, rfl⟩ := drain_cancelled_cases taken
    exact .kept rfl rfl rfl
  case dispatchCancelled id =>
    obtain ⟨session, _, _, rfl⟩ := dispatch_cancelled_cases taken
    exact .kept rfl rfl rfl
  case enqueued item =>
    rcases enqueued_cases taken with rfl | rfl
    · exact .kept rfl rfl rfl
    · exact .kept rfl rfl rfl
  case putRan =>
    obtain ⟨item, rest, _, rfl⟩ := put_ran_cases taken
    exact .kept rfl rfl rfl

theorem step_attempt {desired : List String} {conn next : State} {event : Event}
    (dormant : conn.Dormant) (taken : conn.step desired event = some next) :
    AttemptMove (event = .entered true) conn next := by
  by_cases ofRun : event.ofRun = true
  · by_cases ofLifecycle : event.ofLifecycle = true
    · exact (lifecycle_step ofLifecycle taken).attempt dormant
    · exact (run_step ofRun (by simpa using ofLifecycle) taken).attempt
  · exact worker_attempt (by simpa using ofRun) taken

theorem current_fresh : Current State.fresh where
  newest := by simp [State.fresh, attempt]
  healthy := by simp [State.fresh]

theorem count_le_one_of_last {sessions : List Session} {passes : Session → Bool}
    (last : ∀ id session, sessions[id]? = some session → passes session = true →
      id + 1 = sessions.length) : sessions.countP passes ≤ 1 := by
  rcases List.eq_nil_or_concat' sessions with rfl | ⟨older, newest, rfl⟩
  · simp
  · have none_older : older.countP passes = 0 := by
      rw [List.countP_eq_zero]
      intro session member passed
      obtain ⟨id, inside, rfl⟩ := List.getElem_of_mem member
      have position := last id older[id]
        (by rw [List.getElem?_append_left inside, List.getElem?_eq_getElem inside]) passed
      simp at position
      omega
    rw [List.countP_append, none_older, Nat.zero_add]
    exact List.countP_le_length

theorem WellFormed.one_pair {conn : State} (sound : conn.WellFormed) (current : conn.Current) :
    conn.OnePair := by
  constructor
  · apply count_le_one_of_last
    intro id session stored alive
    exact sound.last id session stored (by simp [Session.alive, alive])
  · apply count_le_one_of_last
    intro id session stored alive
    exact sound.last id session stored (by simp [Session.alive, alive])
  · intro session member alive
    exact current.newest session.client (attempt_of_owner (sound.owned session member alive))

theorem WellFormed.none_alive {conn : State} (sound : conn.WellFormed)
    (free : conn.owner = none) : conn.NoneAlive :=
  sound.quiet (settled_of_no_owner free)

theorem WellFormed.idle_quiet {conn : State} (sound : conn.WellFormed) (current : conn.Current)
    (idle : conn.Idle) : conn.Quiet := by
  have gone := sound.dormant idle.1 idle.2
  constructor
  · exact gone
  · apply sound.none_alive
    simp [owner, gone]
  · by_contra healthy
    rw [Bool.not_eq_false] at healthy
    obtain ⟨client, entered⟩ := current.healthy healthy
    simp [State.entered, gone] at entered

theorem AttemptMove.free_of_made {connects : Prop} {conn next : State}
    (move : AttemptMove connects conn next) (more : conn.clients < next.clients) :
    conn.owner = none ∧ next.owner = none := by
  cases move with
  | made free runTask connected clients => exact ⟨free.2, owner_at runTask⟩
  | kept _ _ clients => exact absurd more (by rw [clients]; exact Nat.lt_irrefl _)
  | parked _ _ clients => exact absurd more (by rw [clients]; exact Nat.lt_irrefl _)
  | connected _ _ _ _ clients => exact absurd more (by rw [clients]; exact Nat.lt_irrefl _)
  | went _ _ _ _ clients => exact absurd more (by rw [clients]; exact Nat.lt_irrefl _)

theorem AttemptMove.connects_of_rise {connects : Prop} {conn next : State}
    (move : AttemptMove connects conn next) (before : conn.connected = false)
    (after : next.connected = true) : connects := by
  cases move with
  | kept runTask connected clients => simp [connected, before] at after
  | parked attempt connected clients => simp [before] at connected; simp [connected] at after
  | made free runTask connected clients => simp [connected, before] at after
  | connected client succeeded _ _ _ => exact succeeded
  | went client _ _ connected clients => simp [(connected after).1] at before

/-- When `stop` returns, the task it waited for has ended. -/
theorem stop_returned {desired : List String} {conn next : State} {event : Event}
    (dormant : conn.Dormant) (returned : StopReturned event next)
    (taken : conn.step desired event = some next) :
    next.Idle ∧ (conn.runTask = none ∨ conn.runTask = some .ended) := by
  rcases returned with rfl | ⟨rfl, ended⟩
  · simp only [step, stopResumed] at taken
    split at taken <;> cases taken
    rename_i ended
    exact ⟨⟨rfl, rfl⟩, .inr ended⟩
  · simp only [step, stop] at taken
    split at taken
    · rename_i idle
      split at taken
      · split at taken <;> cases taken
        · rename_i gone
          exact ⟨⟨idle, rfl⟩, .inl gone⟩
        · cases ended
      · cases taken
        rename_i notStarted
        have unstarted : conn.started = false := by simpa using notStarted
        exact ⟨⟨idle, unstarted⟩, .inl (dormant idle unstarted)⟩
    · cases taken

/-- A `_run` task that is there is not replaced by `start`. -/
theorem start_keeps {desired : List String} {conn next : State} (dormant : conn.Dormant)
    (taken : conn.step desired .start = some next) :
    next.runTask = conn.runTask ∨ conn.runTask = none := by
  simp only [step, start] at taken
  split at taken
  · rename_i idle
    split at taken <;> cases taken
    · exact .inl rfl
    · rename_i notStarted
      exact .inr (dormant idle (by simpa using notStarted))
  · cases taken

end State

end RemoteIface.Commlib.Connection

namespace RemoteIface.Commlib.ConnectionWorkers

open RemoteIface.Library.Runs
open RemoteIface.Commlib.Payload
open RemoteIface.Commlib.Connection
open RemoteIface.Commlib.NodeContext

variable {Obj Resp : Type}

theorem context_attempt {serialize : Resp → Except PyException Json}
    {ctx next : Context Obj Resp} {event : NodeContext.Event Obj Resp}
    (dormant : ctx.conn.Dormant) (taken : ctx.step serialize event = some next) :
    State.AttemptMove (event = .wire (.entered true)) ctx.conn next.conn := by
  cases Context.conn_move taken with
  | scheduled _ items conn =>
      rw [conn]
      exact .kept rfl rfl rfl
  | raised _ conn =>
      rw [conn]
      exact .kept rfl rfl rfl
  | stepped moved =>
      rw [NodeContext.Event.wire.injEq]
      exact State.step_attempt dormant moved

def Orderly (ctx : Context Obj Resp) : Prop := ctx.conn.WellFormed ∧ ctx.conn.Current

theorem orderly_step {serialize : Resp → Except PyException Json} {ctx next : Context Obj Resp}
    {event : NodeContext.Event Obj Resp} (orderly : Orderly ctx)
    (taken : ctx.step serialize event = some next) : Orderly next := by
  constructor
  · exact Context.well_formed_step orderly.1 taken
  · exact orderly.2.of_move (context_attempt orderly.1.dormant taken)

theorem orderly_run {serialize : Resp → Except PyException Json} {final : Context Obj Resp}
    {events : List (NodeContext.Event Obj Resp)}
    (reached : run (Context.step serialize) Context.fresh events = some final) :
    Orderly final :=
  run_invariant (Context.step serialize) (fun _ _ _ orderly taken => orderly_step orderly taken)
    ⟨State.well_formed_fresh, State.current_fresh⟩ reached

/-- In every run the workers are at most one pair, on the newest client; they
have ended before a client is made and when `stop` has returned. -/
theorem workers_follow_the_newest_client (serialize : Resp → Except PyException Json)
    (events : List (NodeContext.Event Obj Resp)) (ctx : Context Obj Resp)
    (reached : run (Context.step serialize) Context.fresh events = some ctx) :
    ctx.conn.OnePair ∧
      (ctx.conn.connected = true →
        ∃ client, ctx.conn.entered = some client ∧ client + 1 = ctx.conn.clients) ∧
      (ctx.conn.Idle → ctx.conn.Quiet) ∧
      ∀ event next, ctx.step serialize event = some next →
        (ctx.conn.clients < next.conn.clients → ctx.conn.NoneAlive ∧ next.conn.NoneAlive) ∧
        (ctx.conn.connected = false → next.conn.connected = true →
          event = .wire (.entered true)) ∧
        (event = .wire .start →
          next.conn.runTask = ctx.conn.runTask ∨ ctx.conn.runTask = none) ∧
        ∀ wire, event = .wire wire → State.StopReturned wire next.conn →
          next.conn.Idle ∧
            (ctx.conn.runTask = none ∨ ctx.conn.runTask = some .ended) := by
  have orderly := orderly_run reached
  obtain ⟨sound, current⟩ := orderly
  refine ⟨sound.one_pair current, ?_, sound.idle_quiet current, ?_⟩
  · intro healthy
    obtain ⟨client, entered⟩ := current.healthy healthy
    exact ⟨client, entered, current.newest client (State.attempt_of_entered entered)⟩
  · intro event next taken
    have move := context_attempt sound.dormant taken
    have soundNext := Context.well_formed_step sound taken
    refine ⟨?_, move.connects_of_rise, ?_, ?_⟩
    · intro more
      obtain ⟨before, after⟩ := move.free_of_made more
      exact ⟨sound.none_alive before, soundNext.none_alive after⟩
    · rintro rfl
      obtain ⟨conn, moved, rfl⟩ := Option.map_eq_some_iff.mp taken
      exact State.start_keeps sound.dormant moved
    · rintro wire rfl returned
      obtain ⟨conn, moved, rfl⟩ := Option.map_eq_some_iff.mp taken
      exact State.stop_returned sound.dormant returned moved

/-- Two connections: the second client is made after the workers of the first
have been cancelled, and `stop` arrives while the second subscribes. -/
def reconnectingRun : List (NodeContext.Event Unit Unit) :=
  [.called (.createSubscriber "bot/x" 0 none), .wire .start, .wire .startResumed,
    .wire (.iterated true), .wire (.entered true), .wire (.subscribed true),
    .wire (.messagesEnded 0 true), .wire .waitReturned, .wire (.exited true),
    .wire (.drainCancelled 0), .wire .cleanedUp, .wire (.iterated true), .wire (.entered true),
    .wire .stop, .wire .cancelReplaced, .wire (.exited false)]

theorem reconnecting_run_follows_the_newest_client :
    ∃ ctx : Context Unit Unit,
      run (Context.step fun _ => .ok .null) Context.fresh reconnectingRun = some ctx ∧
        ctx.conn.clients = 2 ∧ ctx.conn.OnePair := by
  refine ⟨_, rfl, rfl, ?_⟩
  exact (workers_follow_the_newest_client (fun _ => .ok .null) reconnectingRun _ rfl).1

end RemoteIface.Commlib.ConnectionWorkers
