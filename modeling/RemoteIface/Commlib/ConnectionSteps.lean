import RemoteIface.Commlib.Connection

/-!
What one step of the connection can do, said once: a step of a lifecycle call is
a `LifecycleStep` and one of `_run` a `RunStep`, both are a `RunMove`, and a
step of a worker task is a `WorkerMove`. The invariant that follows is about the sessions: only the last one can be alive,
and only while `_run` is at an await that belongs to its client.
-/

namespace RemoteIface.Commlib.Connection

set_option autoImplicit false

open RemoteIface.Commlib.Rpc

namespace State

theorem runnable_some {conn : State} {pc : RunPc} (ready : conn.runnable = some pc) :
    conn.runTask = some pc := by
  unfold runnable at ready
  split at ready
  · cases ready
  · exact ready

/-- The steps of `start` and `stop`. A call that finds its work done changes
nothing. -/
inductive LifecycleStep (conn : State) : Event → State → Prop where
  | idle {event : Event} : LifecycleStep conn event conn
  | start (between : conn.lifecycle = .none) (notStarted : conn.started = false) :
      LifecycleStep conn .start { conn with
        loopSet := true
        stopped := false
        runTask := some .created
        cancelRequested := false
        lifecycle := .starting }
  | startResumed (waits : conn.lifecycle = .starting) :
      LifecycleStep conn .startResumed { conn with started := true, lifecycle := .none }
  | stopAlone (gone : conn.runTask = none) :
      LifecycleStep conn .stop { conn with stopped := true, connected := false, started := false }
  | stop {pc : RunPc} (standsAt : conn.runTask = some pc) :
      LifecycleStep conn .stop
        { conn with stopped := true, cancelRequested := pc.alive, lifecycle := .stopping }
  | stopResumed (ended : conn.runTask = some .ended) :
      LifecycleStep conn .stopResumed { conn with
        runTask := none
        connected := false
        started := false
        lifecycle := .none }

theorem lifecycle_step {desired : List String} {conn next : State} {event : Event}
    (ofLifecycle : event.ofLifecycle = true) (taken : conn.step desired event = some next) :
    LifecycleStep conn event next := by
  cases event <;> simp only [Event.ofLifecycle, Bool.false_eq_true] at ofLifecycle <;>
    simp only [step] at taken
  case start =>
    unfold start at taken
    split at taken
    · rename_i between
      split at taken <;> cases taken
      · exact .idle
      · rename_i notStarted
        exact .start between (by simpa using notStarted)
    · cases taken
  case startResumed =>
    unfold startResumed at taken
    split at taken <;> cases taken
    rename_i waits
    exact .startResumed waits
  case stop =>
    unfold stop at taken
    split at taken
    · split at taken
      · split at taken <;> cases taken
        · rename_i gone
          exact .stopAlone gone
        · rename_i standsAt
          exact .stop standsAt
      · cases taken
        exact .idle
    · cases taken
  case stopResumed =>
    unfold stopResumed at taken
    split at taken <;> cases taken
    rename_i ended
    exact .stopResumed ended

/-- The steps of `_run` by the await they leave. `requested` is what they make of
the request to cancel it. -/
inductive RunStep (desired : List String) (conn : State) : Event → State → Prop where
  | iterated {pc : RunPc} (factoryReturned : Bool) (standsAt : conn.runTask = some pc)
      (atHead : pc = .created ∨ pc = .sleeping) :
      RunStep desired conn (.iterated factoryReturned) (conn.iterate factoryReturned)
  | entered {client : ClientId} (standsAt : conn.runTask = some (.connecting client)) :
      RunStep desired conn (.entered true) (conn.enter client desired)
  | subscribed {client : ClientId} {topic : String} {rest : List String}
      (standsAt : conn.runTask = some (.subscribing client (topic :: rest))) :
      RunStep desired conn (.subscribed true) (conn.subscribe client topic rest)
  | closing {event : Event} {pc : RunPc} {client : ClientId} (requested : Bool) (exit : Exit)
      (standsAt : conn.runTask = some pc)
      (inBody : (∃ todo, pc = .subscribing client todo) ∨ pc = .waiting client) :
      RunStep desired conn event
        ({ conn with cancelRequested := requested }.goTo (.closing client exit))
  | left {event : Event} {pc : RunPc} {client : ClientId} (requested : Bool) (exit : Exit)
      (standsAt : conn.runTask = some pc)
      (outside : pc = .connecting client ∨ ∃ held, pc = .closing client held) :
      RunStep desired conn event ({ conn with cancelRequested := requested }.leave client exit)
  | cleanedUp {event : Event} {client : ClientId} {held : Exit} (requested : Bool) (exit : Exit)
      (standsAt : conn.runTask = some (.cleanup client held))
      (ended : ∀ session ∈ conn.sessions, session.client = client → session.alive = false) :
      RunStep desired conn event ({ conn with cancelRequested := requested }.afterCleanup exit)
  | ended {event : Event} {pc : RunPc} (requested : Bool) (standsAt : conn.runTask = some pc)
      (atHead : pc = .created ∨ pc = .sleeping) :
      RunStep desired conn event ({ conn with cancelRequested := requested }.goTo .ended)

theorem run_cancelled_step {desired : List String} {conn next : State} {event : Event}
    (taken : conn.runCancelled = some next) : RunStep desired conn event next := by
  unfold runCancelled at taken
  split at taken
  · dsimp only at taken
    split at taken <;> cases taken <;> rename_i standsAt
    · exact .ended false standsAt (.inl rfl)
    · exact .left false .cancelled standsAt (.inl rfl)
    · exact .closing false .cancelled standsAt (.inl ⟨_, rfl⟩)
    · exact .closing false .cancelled standsAt (.inr rfl)
    · exact .left false .cancelled standsAt (.inr ⟨_, rfl⟩)
    · exact .ended false standsAt (.inr rfl)
  · cases taken

theorem cancel_replaced_step {desired : List String} {conn next : State} {event : Event}
    (taken : conn.cancelReplaced = some next) : RunStep desired conn event next := by
  unfold cancelReplaced at taken
  split at taken
  · dsimp only at taken
    split at taken <;> cases taken <;> rename_i standsAt
    · exact .left false .failed standsAt (.inl rfl)
    · exact .closing false .failed standsAt (.inl ⟨_, rfl⟩)
    · exact .left false .failed standsAt (.inr ⟨_, rfl⟩)
  · cases taken

theorem cleaned_up_step {desired : List String} {conn next : State} {event : Event}
    (taken : conn.cleanedUp = some next) : RunStep desired conn event next := by
  unfold cleanedUp at taken
  split at taken
  · rename_i client exit standsAt
    split at taken
    · cases taken
    · rename_i noneAlive
      have ended : ∀ session ∈ conn.sessions, session.client = client →
          session.alive = false := by
        intro session member held
        by_contra alive
        exact noneAlive (List.any_eq_true.mpr ⟨session, member, by simp [held, alive]⟩)
      split at taken <;> cases taken
      · exact .cleanedUp false .cancelled standsAt ended
      · exact .cleanedUp conn.cancelRequested exit standsAt ended
  · cases taken

theorem run_step {desired : List String} {conn next : State} {event : Event}
    (ofRun : event.ofRun = true) (ofTask : event.ofLifecycle = false)
    (taken : conn.step desired event = some next) : RunStep desired conn event next := by
  cases event <;> simp only [Event.ofRun, Event.ofLifecycle, Bool.false_eq_true,
    Bool.true_eq_false] at ofRun ofTask <;> simp only [step] at taken
  case iterated factoryReturned =>
    split at taken <;> cases taken <;> rename_i ready
    · exact .iterated factoryReturned (runnable_some ready) (.inl rfl)
    · exact .iterated factoryReturned (runnable_some ready) (.inr rfl)
  case entered returned =>
    split at taken
    · rename_i client ready
      have standsAt := runnable_some ready
      cases returned <;> cases taken
      · exact .left conn.cancelRequested .failed standsAt (.inl rfl)
      · exact .entered standsAt
    · cases taken
  case subscribed returned =>
    split at taken
    · rename_i client topic rest ready
      have standsAt := runnable_some ready
      cases returned <;> cases taken
      · exact .closing conn.cancelRequested .failed standsAt (.inl ⟨_, rfl⟩)
      · exact .subscribed standsAt
    · cases taken
  case waitReturned =>
    split at taken
    · rename_i client ready
      split at taken <;> cases taken
      exact .closing conn.cancelRequested .failed (runnable_some ready) (.inr rfl)
    · cases taken
  case exited raised =>
    split at taken <;> cases taken
    rename_i client exit ready
    exact .left conn.cancelRequested _ (runnable_some ready) (.inr ⟨exit, rfl⟩)
  case cleanedUp => exact cleaned_up_step taken
  case runCancelled => exact run_cancelled_step taken
  case cancelReplaced => exact cancel_replaced_step taken

def inFlight (conn : State) : List Outgoing :=
  conn.sessions.flatMap fun session => session.drain.inFlight

def owner (conn : State) : Option ClientId := conn.runTask.bind RunPc.client

/-- What the subscribe loop still has to subscribe, while it runs. -/
def todo (conn : State) : Option (List String) := conn.runTask.bind RunPc.todo

/-- The topics the current client has, or will have when its loop is through. -/
def promised (conn : State) : List String := conn.subscribed ++ conn.todo.getD []

def Settled (conn : State) : Prop :=
  ∀ session ∈ conn.sessions, session.alive = true → conn.owner ≠ some session.client

def SameQueue (conn next : State) : Prop :=
  next.scheduled = conn.scheduled ∧ next.outgoing = conn.outgoing ∧
    next.accepted = conn.accepted ∧ next.published = conn.published

/-- All that a step of `_run` or of a lifecycle call does to the subscriptions
and to the sessions: nothing, cancel the tasks of a client, start or continue
a subscribe loop, or open a session after its last topic. -/
inductive RunMove (desired : List String) (conn next : State) : Prop where
  | kept (sessions : next.sessions = conn.sessions)
      (subscribed : next.subscribed = conn.subscribed)
      (todo : next.todo = none ∨ next.todo = conn.todo)
      (owner : next.owner = conn.owner ∨ conn.Settled)
  | left (client : ClientId)
      (sessions : next.sessions = conn.sessions.map (Session.cancelFor client))
      (subscribed : next.subscribed = conn.subscribed)
      (todo : next.todo = none)
      (owner : next.owner = conn.owner ∨ conn.Settled)
  | subscribing (sessions : next.sessions = conn.sessions)
      (promised : next.promised = desired ∨ conn.todo ≠ none ∧ next.promised = conn.promised)
      (settled : conn.Settled)
  | opened (client : ClientId)
      (sessions : next.sessions = conn.sessions ++ [Session.create client])
      (promised : next.promised = desired ∨ conn.todo ≠ none ∧ next.promised = conn.promised)
      (owner : next.owner = some client)
      (settled : conn.Settled)

theorem settled_of_no_owner {conn : State} (free : conn.owner = none) : conn.Settled := by
  intro session _ _
  simp [free]

theorem after_cleanup_fields (conn : State) (exit : Exit) :
    (conn.afterCleanup exit).sessions = conn.sessions ∧
      (conn.afterCleanup exit).subscribed = conn.subscribed ∧
      (conn.afterCleanup exit).todo = none ∧
      SameQueue conn (conn.afterCleanup exit) := by
  cases exit with
  | cancelled => exact ⟨rfl, rfl, rfl, rfl, rfl, rfl, rfl⟩
  | failed =>
      unfold afterCleanup
      dsimp only
      split <;> exact ⟨rfl, rfl, rfl, rfl, rfl, rfl, rfl⟩

theorem leave_move {desired : List String} {conn : State} {client : ClientId} (exit : Exit)
    (responsible : conn.owner = none ∨ conn.owner = some client) :
    RunMove desired conn (conn.leave client exit) ∧ SameQueue conn (conn.leave client exit) := by
  unfold leave
  split
  · rename_i hasTasks
    refine ⟨.left client rfl rfl rfl ?_, rfl, rfl, rfl, rfl⟩
    rcases responsible with free | held
    · exact .inr (settled_of_no_owner free)
    · exact .inl held.symm
  · rename_i noTasks
    obtain ⟨sessions, subscribed, todo, queue⟩ :=
      after_cleanup_fields { conn with connected := false } exit
    have settled : conn.Settled := by
      intro session member _ held
      rcases responsible with free | owned
      · simp [free] at held
      · rw [owned, Option.some.injEq] at held
        exact noTasks (List.any_eq_true.mpr ⟨session, member, by simp [held]⟩)
    exact ⟨.kept sessions subscribed (.inl todo) (.inr settled), queue⟩

theorem iterate_move {desired : List String} {conn : State} (factoryReturned : Bool)
    (free : conn.owner = none) :
    RunMove desired conn (conn.iterate factoryReturned) ∧
      SameQueue conn (conn.iterate factoryReturned) := by
  have settled := settled_of_no_owner free
  unfold iterate
  split
  · exact ⟨.kept rfl rfl (.inl rfl) (.inr settled), rfl, rfl, rfl, rfl⟩
  · split
    · exact ⟨.kept rfl rfl (.inl rfl) (.inr settled), rfl, rfl, rfl, rfl⟩
    · obtain ⟨sessions, subscribed, todo, queue⟩ :=
        after_cleanup_fields { conn with connected := false } .failed
      exact ⟨.kept sessions subscribed (.inl todo) (.inr settled), queue⟩

theorem subscribe_loop_move {desired : List String} {conn loop : State} {client : ClientId}
    {rest : List String} (free : conn.owner = none)
    (sessions : loop.sessions = conn.sessions)
    (queue : SameQueue conn loop)
    (promised : loop.subscribed ++ rest = desired ∨
      conn.todo ≠ none ∧ loop.subscribed ++ rest = conn.promised) :
    RunMove desired conn (loop.subscribeLoop client rest) ∧
      SameQueue conn (loop.subscribeLoop client rest) := by
  have settled := settled_of_no_owner free
  cases rest with
  | nil =>
      refine ⟨.opened client ?_ promised rfl settled, queue⟩
      simp [subscribeLoop, sessions]
  | cons topic rest => exact ⟨.subscribing sessions promised settled, queue⟩

theorem RunMove.of_caught {desired : List String} {conn next : State} {requested : Bool}
    (move : RunMove desired { conn with cancelRequested := requested } next) :
    RunMove desired conn next := by
  cases move with
  | kept sessions subscribed todo owner => exact .kept sessions subscribed todo owner
  | left client sessions subscribed todo owner => exact .left client sessions subscribed todo owner
  | subscribing sessions promised settled => exact .subscribing sessions promised settled
  | opened client sessions promised owner settled =>
      exact .opened client sessions promised owner settled

theorem owner_at {conn : State} {pc : RunPc} (standsAt : conn.runTask = some pc) :
    conn.owner = pc.client := by
  rw [owner, standsAt]
  rfl

theorem todo_at {conn : State} {pc : RunPc} (standsAt : conn.runTask = some pc) :
    conn.todo = pc.todo := by
  rw [todo, standsAt]
  rfl

theorem go_to_move {desired : List String} {conn : State} {pc new : RunPc}
    (standsAt : conn.runTask = some pc) (same : pc.client = none ∨ new.client = pc.client)
    (todo : new.todo = none) : RunMove desired conn (conn.goTo new) := by
  refine .kept rfl rfl (.inl todo) ?_
  rcases same with free | held
  · exact .inr (settled_of_no_owner ((owner_at standsAt).trans free))
  · exact .inl (held.trans (owner_at standsAt).symm)

def Dormant (conn : State) : Prop :=
  conn.lifecycle = .none → conn.started = false → conn.runTask = none

theorem LifecycleStep.move {desired : List String} {conn next : State} {event : Event}
    (dormant : conn.Dormant) (taken : LifecycleStep conn event next) :
    RunMove desired conn next ∧ SameQueue conn next := by
  have same : SameQueue conn conn := ⟨rfl, rfl, rfl, rfl⟩
  cases taken with
  | idle => exact ⟨.kept rfl rfl (.inr rfl) (.inl rfl), same⟩
  | start between notStarted =>
      have free : conn.owner = none := by simp [owner, dormant between notStarted]
      exact ⟨.kept rfl rfl (.inl rfl) (.inr (settled_of_no_owner free)), same⟩
  | startResumed waits => exact ⟨.kept rfl rfl (.inr rfl) (.inl rfl), same⟩
  | stopAlone gone => exact ⟨.kept rfl rfl (.inr rfl) (.inl rfl), same⟩
  | stop standsAt => exact ⟨.kept rfl rfl (.inr rfl) (.inl rfl), same⟩
  | stopResumed ended =>
      have free : conn.owner = none := owner_at ended
      exact ⟨.kept rfl rfl (.inl rfl) (.inr (settled_of_no_owner free)), same⟩

theorem RunStep.move {desired : List String} {conn next : State} {event : Event}
    (taken : RunStep desired conn event next) :
    RunMove desired conn next ∧ SameQueue conn next := by
  have same : SameQueue conn conn := ⟨rfl, rfl, rfl, rfl⟩
  cases taken with
  | iterated factoryReturned standsAt atHead =>
      have free : conn.owner = none := by
        rcases atHead with rfl | rfl <;> exact owner_at standsAt
      exact iterate_move factoryReturned free
  | entered standsAt => exact subscribe_loop_move (owner_at standsAt) rfl same (.inl rfl)
  | subscribed standsAt =>
      refine subscribe_loop_move (owner_at standsAt) rfl same (.inr ?_)
      simp [promised, todo_at standsAt, RunPc.todo]
  | closing requested exit standsAt inBody =>
      rcases inBody with ⟨todo, rfl⟩ | rfl
      · exact ⟨.of_caught (go_to_move standsAt (.inl rfl) rfl), same⟩
      · exact ⟨.of_caught (go_to_move standsAt (.inr rfl) rfl), same⟩
  | @left _ pc client requested exit standsAt outside =>
      have responsible : conn.owner = none ∨ conn.owner = some client := by
        rcases outside with rfl | ⟨held, rfl⟩
        · exact .inl (owner_at standsAt)
        · exact .inr (owner_at standsAt)
      obtain ⟨move, queue⟩ := @leave_move desired { conn with cancelRequested := requested } _
        exit responsible
      exact ⟨move.of_caught, queue⟩
  | cleanedUp requested exit standsAt ended =>
      have settled : conn.Settled := by
        intro session member alive held
        rw [owner_at standsAt, RunPc.client, Option.some.injEq] at held
        rw [ended session member held.symm] at alive
        cases alive
      obtain ⟨sessions, subscribed, todo, queue⟩ :=
        after_cleanup_fields { conn with cancelRequested := requested } exit
      exact ⟨.kept sessions subscribed (.inl todo) (.inr settled), queue⟩
  | ended requested standsAt atHead =>
      rcases atHead with rfl | rfl <;>
        exact ⟨.of_caught (go_to_move standsAt (.inl rfl) rfl), same⟩

theorem run_move {desired : List String} {conn next : State} {event : Event}
    (dormant : conn.Dormant) (ofRun : event.ofRun = true)
    (taken : conn.step desired event = some next) :
    RunMove desired conn next ∧ SameQueue conn next := by
  by_cases ofLifecycle : event.ofLifecycle = true
  · exact (lifecycle_step ofLifecycle taken).move dormant
  · exact (run_step ofRun (by simpa using ofLifecycle) taken).move

structure WorkerMove (conn next : State) (id : SessionId) (session new : Session) : Prop where
  stored : conn.sessions[id]? = some session
  sessions : next.sessions = conn.sessions.set id new
  client : new.client = session.client
  drain : new.drain.alive = true → session.drain.alive = true
  dispatch : new.dispatch.alive = true → session.dispatch.alive = true
  runTask : next.runTask = conn.runTask
  subscribed : next.subscribed = conn.subscribed
  lifecycle : next.lifecycle = conn.lifecycle
  started : next.started = conn.started
  loopSet : next.loopSet = conn.loopSet

theorem worker_some {conn : State} {id : SessionId} {session : Session}
    (found : conn.worker id = some session) :
    conn.sessions[id]? = some session ∧ session.cancelRequested = false := by
  simpa [worker, Option.filter_eq_some_iff] using found

theorem drain_took_cases {conn next : State} {id : SessionId}
    (taken : conn.drainTook id = some next) :
    ∃ client dispatch item rest,
      conn.sessions[id]? = some ⟨client, .waiting, dispatch, false⟩ ∧
      conn.outgoing = item :: rest ∧
      next = { conn with outgoing := rest }.setSession id
        ⟨client, .publishing item, dispatch, false⟩ := by
  unfold drainTook at taken
  split at taken
  · rename_i client dispatch requested item rest found queue
    obtain ⟨stored, calm⟩ := worker_some found
    cases calm
    cases taken
    exact ⟨client, dispatch, item, rest, stored, queue, rfl⟩
  · cases taken

theorem publish_ended_cases {conn next : State} {id : SessionId} {returned : Bool}
    (taken : conn.publishEnded id returned = some next) :
    ∃ client item dispatch,
      conn.sessions[id]? = some ⟨client, .publishing item, dispatch, false⟩ ∧
      next = if returned then
          { conn with published := conn.published ++ [item] }.setSession id
            ⟨client, .waiting, dispatch, false⟩
        else conn.setSession id ⟨client, .raised item, dispatch, false⟩ := by
  unfold publishEnded at taken
  split at taken
  · rename_i client item dispatch requested found
    obtain ⟨stored, calm⟩ := worker_some found
    cases calm
    refine ⟨client, item, dispatch, stored, ?_⟩
    split at taken <;> cases taken <;> simp_all
  · cases taken

theorem messages_ended_cases {conn next : State} {id : SessionId} {raised : Bool}
    (taken : conn.messagesEnded id raised = some next) :
    ∃ client drain, conn.sessions[id]? = some ⟨client, drain, .iterating, false⟩ ∧
      next = conn.setSession id ⟨client, drain, if raised then .lost else .returned, false⟩ := by
  unfold messagesEnded at taken
  split at taken
  · rename_i client drain requested found
    obtain ⟨stored, calm⟩ := worker_some found
    cases calm
    cases taken
    exact ⟨client, drain, stored, rfl⟩
  · cases taken

theorem drain_cancelled_cases {conn next : State} {id : SessionId}
    (taken : conn.drainCancelled id = some next) :
    ∃ session, conn.sessions[id]? = some session ∧ session.drain.alive = true ∧
      next = conn.setSession id { session with drain := .cancelled } := by
  unfold drainCancelled at taken
  split at taken
  · rename_i session stored
    split at taken <;> cases taken
    rename_i both
    exact ⟨session, stored, both.2, rfl⟩
  · cases taken

theorem dispatch_cancelled_cases {conn next : State} {id : SessionId}
    (taken : conn.dispatchCancelled id = some next) :
    ∃ session, conn.sessions[id]? = some session ∧ session.dispatch.alive = true ∧
      next = conn.setSession id { session with dispatch := .cancelled } := by
  unfold dispatchCancelled at taken
  split at taken
  · rename_i session stored
    split at taken <;> cases taken
    rename_i both
    exact ⟨session, stored, both.2, rfl⟩
  · cases taken

theorem set_session_move {conn base : State} {id : SessionId} {session new : Session}
    (stored : conn.sessions[id]? = some session) (client : new.client = session.client)
    (drain : new.drain.alive = true → session.drain.alive = true)
    (dispatch : new.dispatch.alive = true → session.dispatch.alive = true)
    (same : base.sessions = conn.sessions ∧ base.runTask = conn.runTask ∧
      base.subscribed = conn.subscribed ∧ base.lifecycle = conn.lifecycle ∧
      base.started = conn.started ∧ base.loopSet = conn.loopSet) :
    WorkerMove conn (base.setSession id new) id session new := by
  obtain ⟨sessions, runTask, subscribed, lifecycle, started, loopSet⟩ := same
  exact ⟨stored, by simp [setSession, sessions], client, drain, dispatch, runTask, subscribed,
    lifecycle, started, loopSet⟩

theorem worker_move {desired : List String} {conn next : State} {event : Event}
    (ofWorker : event.ofWorker = true) (taken : conn.step desired event = some next) :
    ∃ id session new, WorkerMove conn next id session new := by
  cases event <;> simp only [Event.ofWorker, Bool.false_eq_true] at ofWorker <;>
    simp only [step] at taken
  case drainTook id =>
    obtain ⟨client, dispatch, item, rest, stored, _, rfl⟩ := drain_took_cases taken
    exact ⟨id, _, _, set_session_move stored rfl (fun _ => rfl) (fun kept => kept) ⟨rfl, rfl, rfl, rfl, rfl, rfl⟩⟩
  case published id returned =>
    obtain ⟨client, item, dispatch, stored, rfl⟩ := publish_ended_cases taken
    cases returned
    · exact ⟨id, _, _, set_session_move stored rfl (fun _ => rfl) (fun kept => kept) ⟨rfl, rfl, rfl, rfl, rfl, rfl⟩⟩
    · exact ⟨id, _, _, set_session_move stored rfl (fun _ => rfl) (fun kept => kept) ⟨rfl, rfl, rfl, rfl, rfl, rfl⟩⟩
  case messagesEnded id raised =>
    obtain ⟨client, drain, stored, rfl⟩ := messages_ended_cases taken
    exact ⟨id, _, _, set_session_move stored rfl (fun kept => kept) (fun _ => rfl) ⟨rfl, rfl, rfl, rfl, rfl, rfl⟩⟩
  case drainCancelled id =>
    obtain ⟨session, stored, alive, rfl⟩ := drain_cancelled_cases taken
    exact ⟨id, _, _, set_session_move stored rfl (fun _ => alive) (fun kept => kept) ⟨rfl, rfl, rfl, rfl, rfl, rfl⟩⟩
  case dispatchCancelled id =>
    obtain ⟨session, stored, alive, rfl⟩ := dispatch_cancelled_cases taken
    exact ⟨id, _, _, set_session_move stored rfl (fun kept => kept) (fun _ => alive) ⟨rfl, rfl, rfl, rfl, rfl, rfl⟩⟩

def SameCalls (conn next : State) : Prop :=
  next.lifecycle = conn.lifecycle ∧ next.started = conn.started ∧ next.loopSet = conn.loopSet

theorem after_cleanup_calls (conn : State) (exit : Exit) :
    SameCalls conn (conn.afterCleanup exit) := by
  cases exit with
  | cancelled => exact ⟨rfl, rfl, rfl⟩
  | failed =>
      unfold afterCleanup
      dsimp only
      split <;> exact ⟨rfl, rfl, rfl⟩

theorem leave_calls (conn : State) (client : ClientId) (exit : Exit) :
    SameCalls conn (conn.leave client exit) := by
  unfold leave
  split
  · exact ⟨rfl, rfl, rfl⟩
  · exact after_cleanup_calls { conn with connected := false } exit

theorem iterate_calls (conn : State) (factoryReturned : Bool) :
    SameCalls conn (conn.iterate factoryReturned) := by
  unfold iterate
  split
  · exact ⟨rfl, rfl, rfl⟩
  · split
    · exact ⟨rfl, rfl, rfl⟩
    · exact after_cleanup_calls { conn with connected := false } .failed

theorem subscribe_loop_calls (conn : State) (client : ClientId) (todo : List String) :
    SameCalls conn (conn.subscribeLoop client todo) := by
  cases todo <;> exact ⟨rfl, rfl, rfl⟩

theorem RunStep.calls {desired : List String} {conn next : State} {event : Event}
    (taken : RunStep desired conn event next) : conn.runTask ≠ none ∧ SameCalls conn next := by
  have exists_at : ∀ {pc : RunPc}, conn.runTask = some pc → conn.runTask ≠ none :=
    fun standsAt => by simp [standsAt]
  cases taken with
  | iterated factoryReturned standsAt _ =>
      exact ⟨exists_at standsAt, iterate_calls conn factoryReturned⟩
  | @entered client standsAt =>
      exact ⟨exists_at standsAt, subscribe_loop_calls _ client desired⟩
  | @subscribed client _ rest standsAt =>
      exact ⟨exists_at standsAt, subscribe_loop_calls _ client rest⟩
  | closing requested exit standsAt _ => exact ⟨exists_at standsAt, rfl, rfl, rfl⟩
  | @left _ _ client requested exit standsAt _ =>
      exact ⟨exists_at standsAt,
        leave_calls { conn with cancelRequested := requested } client exit⟩
  | cleanedUp requested exit standsAt _ =>
      exact ⟨exists_at standsAt,
        after_cleanup_calls { conn with cancelRequested := requested } exit⟩
  | ended requested standsAt _ => exact ⟨exists_at standsAt, rfl, rfl, rfl⟩

theorem enqueued_cases {conn next : State} {desired : List String} {item : Outgoing}
    (taken : conn.step desired (.enqueued item) = some next) :
    next = conn ∨ next = { conn with scheduled := conn.scheduled ++ [item] } := by
  simp only [step, enqueueOutgoing] at taken
  split at taken <;> rename_i queued <;> split at queued <;> cases queued <;> cases taken
  · exact .inr rfl
  · exact .inl rfl

theorem put_ran_cases {conn next : State} (taken : conn.putRan = some next) :
    ∃ item rest, conn.scheduled = item :: rest ∧
      next = { conn with
        scheduled := rest
        outgoing := conn.outgoing ++ [item]
        accepted := conn.accepted ++ [item] } := by
  unfold putRan at taken
  split at taken <;> cases taken
  rename_i item rest scheduled
  exact ⟨item, rest, scheduled, rfl⟩

theorem LifecycleStep.dormant {conn next : State} {event : Event}
    (taken : LifecycleStep conn event next) (dormant : conn.Dormant) : next.Dormant := by
  cases taken with
  | idle => exact dormant
  | start between notStarted =>
      intro idle
      cases idle
  | startResumed waits =>
      intro _ notStarted
      cases notStarted
  | stopAlone gone => exact fun _ _ => gone
  | stop standsAt =>
      intro idle
      cases idle
  | stopResumed ended => exact fun _ _ => rfl

theorem dormant_step {desired : List String} {conn next : State} {event : Event}
    (dormant : conn.Dormant) (taken : conn.step desired event = some next) : next.Dormant := by
  by_cases ofLifecycle : event.ofLifecycle = true
  · exact (lifecycle_step ofLifecycle taken).dormant dormant
  by_cases ofRun : event.ofRun = true
  · obtain ⟨alive, lifecycle, started, _⟩ :=
      (run_step ofRun (by simpa using ofLifecycle) taken).calls
    intro idle notStarted
    exact absurd (dormant (lifecycle ▸ idle) (started ▸ notStarted)) alive
  by_cases ofWorker : event.ofWorker = true
  · obtain ⟨_, _, _, move⟩ := worker_move ofWorker taken
    intro idle notStarted
    rw [move.runTask]
    exact dormant (move.lifecycle ▸ idle) (move.started ▸ notStarted)
  cases event <;> simp [Event.ofRun, Event.ofWorker] at ofRun ofWorker
  case enqueued item =>
    rcases enqueued_cases taken with rfl | rfl
    · exact dormant
    · exact dormant
  case putRan =>
    obtain ⟨item, rest, _, rfl⟩ := put_ran_cases taken
    exact dormant

/-- An alive worker belongs to the last session, and `_run` to its client. -/
structure WellFormed (conn : State) : Prop where
  owned : ∀ session ∈ conn.sessions, session.alive = true → conn.owner = some session.client
  last : ∀ id session, conn.sessions[id]? = some session → session.alive = true →
    id + 1 = conn.sessions.length
  dormant : conn.Dormant

theorem well_formed_fresh : WellFormed State.fresh where
  owned := by simp [State.fresh]
  last := by simp [State.fresh]
  dormant := fun _ _ => rfl

theorem WellFormed.quiet {conn : State} (sound : WellFormed conn) (settled : conn.Settled) :
    ∀ session ∈ conn.sessions, session.alive = false := by
  intro session member
  by_contra alive
  rw [Bool.not_eq_false] at alive
  exact settled session member alive (sound.owned session member alive)

@[simp] theorem cancel_for_alive (client : ClientId) (session : Session) :
    (session.cancelFor client).alive = session.alive := by
  unfold Session.cancelFor
  split <;> rfl

@[simp] theorem cancel_for_client (client : ClientId) (session : Session) :
    (session.cancelFor client).client = session.client := by
  unfold Session.cancelFor
  split <;> rfl

theorem WellFormed.of_run_move {desired : List String} {conn next : State}
    (sound : WellFormed conn) (dormant : next.Dormant) (move : RunMove desired conn next) :
    WellFormed next := by
  cases move with
  | kept sessions _ _ owner =>
      refine ⟨?_, by rw [sessions]; exact sound.last, dormant⟩
      rw [sessions]
      intro session member alive
      rcases owner with same | settled
      · rw [same]
        exact sound.owned session member alive
      · rw [sound.quiet settled session member] at alive
        cases alive
  | left client sessions _ _ owner =>
      refine ⟨?_, ?_, dormant⟩
      · rw [sessions]
        intro session member alive
        obtain ⟨old, oldMember, rfl⟩ := List.mem_map.mp member
        rw [cancel_for_alive] at alive
        rw [cancel_for_client]
        rcases owner with same | settled
        · rw [same]
          exact sound.owned old oldMember alive
        · rw [sound.quiet settled old oldMember] at alive
          cases alive
      · rw [sessions]
        intro id session stored alive
        rw [List.getElem?_map, Option.map_eq_some_iff] at stored
        obtain ⟨old, oldStored, rfl⟩ := stored
        rw [cancel_for_alive] at alive
        rw [List.length_map]
        exact sound.last id old oldStored alive
  | subscribing sessions _ settled =>
      refine ⟨?_, by rw [sessions]; exact sound.last, dormant⟩
      rw [sessions]
      intro session member alive
      rw [sound.quiet settled session member] at alive
      cases alive
  | opened client sessions _ owner settled =>
      have quiet := sound.quiet settled
      refine ⟨?_, ?_, dormant⟩
      · rw [sessions]
        intro session member alive
        rcases List.mem_append.mp member with old | new
        · rw [quiet session old] at alive
          cases alive
        · rw [List.mem_singleton.mp new]
          exact owner
      · rw [sessions]
        intro id session stored alive
        rw [List.length_append, List.length_singleton]
        rcases Nat.lt_trichotomy id conn.sessions.length with older | newest | outside
        · rw [List.getElem?_append_left older] at stored
          rw [quiet session (List.mem_of_getElem? stored)] at alive
          cases alive
        · rw [newest]
        · rw [List.getElem?_eq_none (by simp; omega)] at stored
          cases stored

theorem WorkerMove.alive {conn next : State} {id : SessionId} {session new : Session}
    (move : WorkerMove conn next id session new) (alive : new.alive = true) :
    session.alive = true := by
  simp only [Session.alive, Bool.or_eq_true] at alive ⊢
  exact alive.imp move.drain move.dispatch

theorem WellFormed.of_worker_move {conn next : State} {id : SessionId} {session new : Session}
    (sound : WellFormed conn) (dormant : next.Dormant)
    (move : WorkerMove conn next id session new) : WellFormed next := by
  have known : session ∈ conn.sessions := List.mem_of_getElem? move.stored
  have owner : next.owner = conn.owner := by rw [owner, owner, move.runTask]
  refine ⟨?_, ?_, dormant⟩
  · intro other member alive
    rw [owner]
    rw [move.sessions] at member
    rcases List.mem_or_eq_of_mem_set member with old | rfl
    · exact sound.owned other old alive
    · rw [move.client]
      exact sound.owned session known (move.alive alive)
  · intro other current stored alive
    rw [move.sessions, List.length_set]
    rw [move.sessions, List.getElem?_set] at stored
    split at stored
    · rename_i same
      split at stored <;> cases stored
      exact sound.last other session (same ▸ move.stored) (move.alive alive)
    · exact sound.last other current stored alive

theorem well_formed_step {desired : List String} {conn next : State} {event : Event}
    (sound : WellFormed conn) (taken : conn.step desired event = some next) :
    WellFormed next := by
  have dormant := dormant_step sound.dormant taken
  by_cases ofRun : event.ofRun = true
  · exact sound.of_run_move dormant (run_move sound.dormant ofRun taken).1
  by_cases ofWorker : event.ofWorker = true
  · obtain ⟨_, _, _, move⟩ := worker_move ofWorker taken
    exact sound.of_worker_move dormant move
  cases event <;> simp [Event.ofRun, Event.ofWorker] at ofRun ofWorker
  case enqueued item =>
    rcases enqueued_cases taken with rfl | rfl
    · exact sound
    · exact ⟨sound.owned, sound.last, sound.dormant⟩
  case putRan =>
    obtain ⟨item, rest, _, rfl⟩ := put_ran_cases taken
    exact ⟨sound.owned, sound.last, sound.dormant⟩

def LoopKnown (conn : State) : Prop :=
  conn.runTask ≠ none ∨ conn.sessions ≠ [] → conn.loopSet = true

theorem LifecycleStep.loop_known {conn next : State} {event : Event}
    (taken : LifecycleStep conn event next) (known : conn.LoopKnown) :
    next.LoopKnown ∧ (conn.loopSet = true → next.loopSet = true) := by
  cases taken with
  | idle => exact ⟨known, id⟩
  | start between notStarted => exact ⟨fun _ => rfl, fun _ => rfl⟩
  | startResumed waits => exact ⟨known, id⟩
  | stopAlone gone => exact ⟨known, id⟩
  | stop standsAt => exact ⟨known, id⟩
  | stopResumed ended =>
      exact ⟨fun made => known (.inr (made.resolve_left fun gone => gone rfl)), id⟩

theorem loop_known_step {desired : List String} {conn next : State} {event : Event}
    (known : conn.LoopKnown) (taken : conn.step desired event = some next) :
    next.LoopKnown ∧ (conn.loopSet = true → next.loopSet = true) := by
  by_cases ofLifecycle : event.ofLifecycle = true
  · exact (lifecycle_step ofLifecycle taken).loop_known known
  by_cases ofRun : event.ofRun = true
  · obtain ⟨alive, _, _, loopSet⟩ := (run_step ofRun (by simpa using ofLifecycle) taken).calls
    have set : next.loopSet = true := loopSet.trans (known (.inl alive))
    exact ⟨fun _ => set, fun _ => set⟩
  by_cases ofWorker : event.ofWorker = true
  · obtain ⟨_, session, _, move⟩ := worker_move ofWorker taken
    have some_session : conn.sessions ≠ [] :=
      List.ne_nil_of_mem (List.mem_of_getElem? move.stored)
    have set : next.loopSet = true := move.loopSet.trans (known (.inr some_session))
    exact ⟨fun _ => set, fun _ => set⟩
  cases event <;> simp [Event.ofRun, Event.ofWorker] at ofRun ofWorker
  case enqueued item =>
    rcases enqueued_cases taken with rfl | rfl
    · exact ⟨known, id⟩
    · exact ⟨known, id⟩
  case putRan =>
    obtain ⟨item, rest, _, rfl⟩ := put_ran_cases taken
    exact ⟨known, id⟩

end State

end RemoteIface.Commlib.Connection
