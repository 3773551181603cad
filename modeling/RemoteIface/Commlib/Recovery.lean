import RemoteIface.Library.Progress
import RemoteIface.Commlib.FilterCover
import RemoteIface.Commlib.OutgoingQueue
import RemoteIface.Commlib.PeerSafety
import RemoteIface.Commlib.RunTask

/-!
A `NodeContext` that is started is never stuck. Whatever has happened to its
connection, a broker that answers from now on brings it back to a connection
whose drain task empties the queue, and every item that had not been taken off
the queue is published, in order. This needs a client that takes those items
and the filters of the subscribers: one that it refuses breaks every connection
it is met on.
-/

namespace RemoteIface.Commlib.Connection

set_option autoImplicit false

open RemoteIface.Library
open RemoteIface.Commlib.Rpc
open RemoteIface.Commlib.OutgoingQueue

/-- The steps of a connection on which nothing more fails. No call of the host
and no publication is among them. -/
def Event.helps : Event → Bool
  | .iterated factoryReturned => factoryReturned
  | .entered returned => returned
  | .subscribed returned => returned
  | .waitReturned => true
  | .exited raised => !raised
  | .drainTook _ => true
  | .published _ returned => returned
  | .putRan => true
  | event => event.tidies

/-- What the broker client takes on a live connection. Its `publish` and its
`subscribe` raise on everything else. -/
structure ClientRules where
  publishes : Outgoing → Bool
  subscribes : String → Bool

theorem helps_of_tidies {event : Event} (tidies : event.tidies = true) :
    event.helps = true ∧ event.ofLifecycle = false := by
  cases event <;> simp_all [Event.tidies, Event.helps, Event.ofLifecycle]

/-- How far `_run` is from its `asyncio.wait`, with so many topics to subscribe. -/
def RunPc.distance (topics : Nat) : RunPc → Nat
  | ended => 0
  | subscribing _ todo => todo.length + 3
  | connecting _ => topics + 4
  | created => topics + 5
  | sleeping => topics + 5
  | cleanup _ _ => topics + 6
  | closing _ _ => topics + 7
  | waiting _ => topics + 8

def Session.drains (client : ClientId) (session : Session) : Bool :=
  session.client = client && !session.cancelRequested && !session.failed && session.drain.alive

namespace State

/-- The step is not the return of a `publish` or a `subscribe` that raises. -/
def Takes (rules : ClientRules) (conn : State) : Event → Prop
  | .published id _ =>
      ∀ session item, conn.sessions[id]? = some session → session.drain = .publishing item →
        rules.publishes item = true
  | .subscribed _ =>
      ∀ topic rest, conn.todo = some (topic :: rest) → rules.subscribes topic = true
  | _ => True

def underway (conn : State) : List Outgoing :=
  conn.inFlight ++ conn.outgoing ++ conn.scheduled

/-- The client takes what is on its way and the filters there are to subscribe,
on this connection and on the next. -/
structure Acceptable (rules : ClientRules) (desired : List String) (conn : State) : Prop where
  items : ∀ item ∈ conn.underway, rules.publishes item = true
  desired : ∀ topic ∈ desired, rules.subscribes topic = true
  todo : ∀ todo, conn.todo = some todo → ∀ topic ∈ todo, rules.subscribes topic = true

theorem Acceptable.takes {rules : ClientRules} {desired : List String} {conn : State}
    (acceptable : conn.Acceptable rules desired) (event : Event) : conn.Takes rules event := by
  cases event with
  | published id returned =>
      intro session item stored publishing
      apply acceptable.items
      have inHand : item ∈ conn.inFlight := by
        refine List.mem_flatMap.mpr ⟨session, List.mem_of_getElem? stored, ?_⟩
        rw [publishing]
        exact List.mem_singleton_self item
      exact List.mem_append_left _ (List.mem_append_left _ inHand)
  | subscribed returned =>
      intro topic rest ahead
      exact acceptable.todo _ ahead topic List.mem_cons_self
  | _ => trivial

/-- `_run` waits for a drain task that works. -/
def serving (conn : State) : Bool :=
  match conn.runTask with
  | some (.waiting client) => conn.sessions.any (Session.drains client)
  | _ => false

def distance (topics : Nat) (conn : State) : Nat :=
  if conn.serving then 0
  else ((conn.runTask.map (RunPc.distance topics)).getD 0) + conn.aliveTasks

structure QueueSpared (conn next : State) : Prop where
  queue : SameQueue conn next
  inFlight : next.inFlight.Sublist conn.inFlight

theorem serving_at {conn : State} {client : ClientId}
    (waits : conn.runTask = some (.waiting client)) :
    conn.serving = conn.sessions.any (Session.drains client) := by
  simp only [serving, waits]

theorem distance_le {conn : State} {pc : RunPc} (topics : Nat) (stands : conn.runTask = some pc) :
    conn.distance topics ≤ pc.distance topics + conn.aliveTasks := by
  unfold distance
  split
  · exact Nat.zero_le _
  · rw [stands]
    exact Nat.le_refl _

theorem distance_at {conn : State} {pc : RunPc} (topics : Nat) (stands : conn.runTask = some pc)
    (idle : conn.serving = false) :
    conn.distance topics = pc.distance topics + conn.aliveTasks := by
  rw [distance, idle, stands]
  rfl

theorem distance_serving {conn : State} (topics : Nat) (serves : conn.serving = true) :
    conn.distance topics = 0 := by
  rw [distance, if_pos serves]

theorem spared_run {desired : List String} {conn next : State} {event : Event}
    (sound : conn.WellFormed) (ofRun : event.ofRun = true)
    (taken : conn.step desired event = some next) : QueueSpared conn next := by
  obtain ⟨move, queue⟩ := run_move sound.dormant ofRun taken
  exact ⟨queue, by rw [run_move_in_flight move]⟩

theorem subscribe_loop_nears {conn : State} {client : ClientId} {todo : List String}
    {topics steps : Nat} (fewer : todo.length + 3 < steps) :
    (conn.subscribeLoop client todo).distance topics < steps + conn.aliveTasks := by
  cases todo with
  | nil =>
      have opened : (conn.subscribeLoop client []).serving = true := by
        simp [serving, subscribeLoop, Session.drains, Session.create, Session.failed,
          DrainTask.alive]
      rw [distance_serving topics opened]
      omega
  | cons topic rest =>
      have near := @distance_le (conn.subscribeLoop client (topic :: rest)) _ topics rfl
      have tasks : (conn.subscribeLoop client (topic :: rest)).aliveTasks = conn.aliveTasks := rfl
      simp only [RunPc.distance] at near
      omega

theorem leave_nears {conn : State} {client : ClientId} (topics : Nat)
    (running : conn.stopped = false) :
    (conn.leave client .failed).distance topics < topics + 7 + conn.aliveTasks := by
  have tasks := leave_alive_tasks conn client .failed
  obtain ⟨_, _, ⟨cleaning, _⟩ | ⟨_, must⟩ | ⟨asleep, _⟩⟩ := leave_stands conn client .failed
  · have near := distance_le topics cleaning
    simp only [RunPc.distance] at near
    omega
  · exact absurd (must rfl) (by simp [running])
  · have near := distance_le topics asleep
    simp only [RunPc.distance] at near
    omega

theorem tidy_nears {desired : List String} {conn next : State} {client : ClientId}
    {event : Event} (topics : Nat) (sound : conn.WellFormed)
    (stands : conn.runTask = some (.cleanup client .failed)) (running : conn.stopped = false)
    (calm : conn.cancelRequested = false) (tidies : event.tidies = true)
    (taken : conn.step desired event = some next) :
    QueueSpared conn next ∧ next.distance topics < topics + 6 + conn.aliveTasks := by
  cases event <;> simp only [Event.tidies, Bool.false_eq_true] at tidies
  case drainCancelled id =>
    have fewer := cancelled_alive_tasks (.inl ⟨id, rfl⟩) taken
    obtain ⟨session, stored, alive, rfl⟩ := drain_cancelled_cases taken
    have emptied : (conn.setSession id { session with drain := .cancelled }).inFlight = [] :=
      in_flight_set sound stored (by simp [Session.alive, alive]) conn rfl _
    have near := @distance_le (conn.setSession id { session with drain := .cancelled }) _ topics
      stands
    simp only [RunPc.distance] at near
    refine ⟨⟨⟨rfl, rfl, rfl, rfl⟩, ?_⟩, ?_⟩
    · rw [emptied]
      exact List.nil_sublist _
    · omega
  case dispatchCancelled id =>
    have fewer := cancelled_alive_tasks (.inr ⟨id, rfl⟩) taken
    obtain ⟨session, stored, alive, rfl⟩ := dispatch_cancelled_cases taken
    have kept := same_drain_in_flight sound stored (by simp [Session.alive, alive])
      { session with dispatch := .cancelled } rfl
    have near := @distance_le (conn.setSession id { session with dispatch := .cancelled }) _
      topics stands
    simp only [RunPc.distance] at near
    refine ⟨⟨⟨rfl, rfl, rfl, rfl⟩, ?_⟩, ?_⟩
    · rw [kept]
    · omega
  case cleanedUp =>
    have spared := spared_run sound rfl taken
    simp only [step, cleanedUp, stands, calm, Bool.false_eq_true, if_false] at taken
    split at taken <;> cases taken
    refine ⟨spared, ?_⟩
    obtain ⟨_, _, ⟨_, must⟩ | ⟨asleep, _⟩⟩ := after_cleanup_stands conn .failed
    · exact absurd (must rfl) (by simp [running])
    · have near := distance_le topics asleep
      have tasks : (conn.afterCleanup .failed).aliveTasks = conn.aliveTasks :=
        alive_tasks_of_sessions (after_cleanup_fields conn .failed).1
      simp only [RunPc.distance] at near
      omega

theorem wait_returns {conn : State} {client : ClientId} (manned : conn.Manned)
    (waits : conn.runTask = some (.waiting client)) (idle : conn.serving = false) :
    (conn.sessions.any fun session =>
      session.client = client ∧ session.failed = true) = true := by
  obtain ⟨id, session, stored, own, calm, either⟩ := manned.waiting client waits
  have member := List.mem_of_getElem? stored
  rw [serving_at waits, List.any_eq_false] at idle
  have notServing := idle session member
  apply List.any_eq_true.mpr
  refine ⟨session, member, ?_⟩
  cases failed : session.failed with
  | true => simp [own]
  | false =>
      have works := either.resolve_left (by simp [failed])
      exact absurd (by simp [Session.drains, own, calm, failed, works]) notServing

theorem nearer_step (desired : List String) {conn : State} (sound : conn.WellFormed)
    (poised : conn.Poised) (running : conn.Running) (idle : conn.serving = false) :
    ∃ event next, event.helps = true ∧ event.ofLifecycle = false ∧
      conn.step desired event = some next ∧ QueueSpared conn next ∧
      next.distance desired.length < conn.distance desired.length := by
  obtain ⟨unstopped, calm, pc, stands, duty⟩ := poised.running running
  have ready : conn.runnable = some pc := by rw [runnable, calm, stands]; rfl
  have here := distance_at desired.length stands idle
  have along : ∀ event next, event.ofRun = true → event.helps = true →
      event.ofLifecycle = false → conn.step desired event = some next →
      next.distance desired.length < pc.distance desired.length + conn.aliveTasks →
      ∃ event next, event.helps = true ∧ event.ofLifecycle = false ∧
        conn.step desired event = some next ∧ QueueSpared conn next ∧
        next.distance desired.length < conn.distance desired.length := by
    intro event next ofRun helps ofTask taken nearer
    exact ⟨event, next, helps, ofTask, taken, spared_run sound ofRun taken, here ▸ nearer⟩
  have iterated : pc = .created ∨ pc = .sleeping →
      conn.step desired (.iterated true) = some (conn.iterate true) := by
    rintro (rfl | rfl) <;> simp only [step, ready]
  have connects : (conn.iterate true).distance desired.length <
      desired.length + 5 + conn.aliveTasks := by
    have moved : (conn.iterate true).runTask = some (.connecting conn.clients) := by
      simp [iterate, unstopped]
    have tasks : (conn.iterate true).aliveTasks = conn.aliveTasks :=
      alive_tasks_of_sessions (by simp [iterate, unstopped])
    have near := distance_le desired.length moved
    simp only [RunPc.distance] at near
    omega
  cases pc with
  | ended => cases duty
  | created => exact along (.iterated true) _ rfl rfl rfl (iterated (.inl rfl)) connects
  | sleeping => exact along (.iterated true) _ rfl rfl rfl (iterated (.inr rfl)) connects
  | connecting client =>
      have taken : conn.step desired (.entered true) = some (conn.enter client desired) := by
        simp only [step, ready, if_true]
      exact along (.entered true) _ rfl rfl rfl taken
        (@subscribe_loop_nears { conn with connected := true, subscribed := [] } client desired
          desired.length _ (Nat.lt_succ_self _))
  | subscribing client todo =>
      cases todo with
      | nil => cases duty
      | cons topic rest =>
          have taken : conn.step desired (.subscribed true) =
              some (conn.subscribe client topic rest) := by
            simp only [step, ready, if_true]
          exact along (.subscribed true) _ rfl rfl rfl taken
            (@subscribe_loop_nears { conn with subscribed := conn.subscribed ++ [topic] } client
              rest desired.length _ (Nat.lt_succ_self _))
  | waiting client =>
      have returns := wait_returns poised.manned stands idle
      have taken : conn.step desired .waitReturned =
          some (conn.goTo (.closing client .failed)) := by
        simp only [step, ready, if_pos returns]
      have near := @distance_le (conn.goTo (.closing client .failed)) _ desired.length rfl
      have tasks : (conn.goTo (.closing client .failed)).aliveTasks = conn.aliveTasks := rfl
      refine along .waitReturned _ rfl rfl rfl taken ?_
      simp only [RunPc.distance] at near ⊢
      omega
  | closing client exit =>
      have failed : exit = .failed := of_decide_eq_true duty
      subst failed
      have taken : conn.step desired (.exited false) = some (conn.leave client .failed) := by
        simp only [step, ready]
        rfl
      exact along (.exited false) _ rfl rfl rfl taken (leave_nears desired.length unstopped)
  | cleanup client exit =>
      have failed : exit = .failed := of_decide_eq_true duty
      subst failed
      obtain ⟨event, next, tidies, taken⟩ := @cleanup_goes_on desired conn client .failed
        poised.manned stands
      obtain ⟨spared, nearer⟩ := tidy_nears desired.length sound stands unstopped calm tidies taken
      obtain ⟨helps, aside⟩ := helps_of_tidies tidies
      exact ⟨event, next, helps, aside, taken, spared, here ▸ nearer⟩

theorem running_kept {desired : List String} {conn next : State} {event : Event}
    (running : conn.Running) (aside : event.ofLifecycle = false)
    (taken : conn.step desired event = some next) : next.Running := by
  have same : next.lifecycle = conn.lifecycle → next.started = conn.started → next.Running := by
    intro lifecycle started
    unfold Running
    rw [lifecycle, started]
    exact running
  by_cases ofRun : event.ofRun = true
  · obtain ⟨_, lifecycle, started, _⟩ := (run_step ofRun aside taken).calls
    exact same lifecycle started
  by_cases ofWorker : event.ofWorker = true
  · obtain ⟨_, _, _, lifecycle, started, _⟩ := (worker_step ofWorker taken).task
    exact same lifecycle started
  cases event <;> simp [Event.ofRun, Event.ofWorker] at ofRun ofWorker
  case enqueued item =>
    rcases enqueued_cases taken with rfl | rfl
    · exact running
    · exact running
  case putRan =>
    obtain ⟨item, rest, _, rfl⟩ := put_ran_cases taken
    exact running

theorem subscribe_loop_todo (conn : State) (client : ClientId) (todo : List String) :
    (conn.subscribeLoop client todo).todo = none ∨
      (conn.subscribeLoop client todo).todo = some todo := by
  cases todo with
  | nil => exact .inl rfl
  | cons topic rest => exact .inr rfl

theorem leave_todo (conn : State) (client : ClientId) (exit : Exit) :
    (conn.leave client exit).todo = none := by
  unfold leave
  split
  · rfl
  · exact (after_cleanup_fields _ exit).2.2.1

/-- `_run` takes up the list of filters there is, or goes on with its own. -/
theorem RunStep.todo {desired : List String} {conn next : State} {event : Event}
    (moved : RunStep desired conn event next) :
    next.todo = none ∨ next.todo = some desired ∨
      ∃ topic rest, conn.todo = some (topic :: rest) ∧ next.todo = some rest := by
  cases moved with
  | iterated factoryReturned standsAt atHead =>
      refine .inl ?_
      unfold iterate
      split
      · rfl
      · split
        · rfl
        · exact (after_cleanup_fields _ .failed).2.2.1
  | @entered client standsAt =>
      exact (subscribe_loop_todo _ client desired).imp id .inl
  | @subscribed client topic rest standsAt =>
      rcases subscribe_loop_todo { conn with subscribed := conn.subscribed ++ [topic] } client rest
        with through | goesOn
      · exact .inl through
      · exact .inr (.inr ⟨topic, rest, todo_at standsAt, goesOn⟩)
  | closing requested exit standsAt inBody => exact .inl rfl
  | @left event pc client requested exit standsAt outside => exact .inl (leave_todo _ client exit)
  | cleanedUp requested exit standsAt ended => exact .inl (after_cleanup_fields _ exit).2.2.1
  | ended requested standsAt atHead => exact .inl rfl

theorem todo_acceptable {rules : ClientRules} {desired : List String} {conn next : State}
    {event : Event} (acceptable : conn.Acceptable rules desired)
    (aside : event.ofLifecycle = false) (taken : conn.step desired event = some next) :
    ∀ todo, next.todo = some todo → ∀ topic ∈ todo, rules.subscribes topic = true := by
  have same : next.runTask = conn.runTask →
      ∀ todo, next.todo = some todo → ∀ topic ∈ todo, rules.subscribes topic = true := by
    intro runTask todo ahead
    rw [State.todo, runTask] at ahead
    exact acceptable.todo todo ahead
  by_cases ofRun : event.ofRun = true
  · intro todo ahead topic member
    rcases (run_step ofRun aside taken).todo with through | taken | ⟨first, rest, stood, goesOn⟩
    · simp [through] at ahead
    · obtain rfl : desired = todo := Option.some.inj (taken.symm.trans ahead)
      exact acceptable.desired topic member
    · obtain rfl : rest = todo := Option.some.inj (goesOn.symm.trans ahead)
      exact acceptable.todo _ stood topic (List.mem_cons_of_mem _ member)
  by_cases ofWorker : event.ofWorker = true
  · exact same (worker_step ofWorker taken).task.1
  cases event <;> simp [Event.ofRun, Event.ofWorker] at ofRun ofWorker
  case enqueued item =>
    rcases enqueued_cases taken with rfl | rfl
    · exact same rfl
    · exact same rfl
  case putRan =>
    obtain ⟨item, rest, _, rfl⟩ := put_ran_cases taken
    exact same rfl

theorem QueueSpared.underway {conn next : State} (spared : QueueSpared conn next) :
    next.underway.Sublist conn.underway := by
  obtain ⟨scheduled, outgoing, _, _⟩ := spared.queue
  unfold State.underway
  rw [scheduled, outgoing]
  exact (spared.inFlight.append_right _).append_right _

theorem QueueSpared.refl (conn : State) : QueueSpared conn conn :=
  ⟨⟨rfl, rfl, rfl, rfl⟩, List.Sublist.refl _⟩

theorem QueueSpared.trans {first second third : State} (early : QueueSpared first second)
    (late : QueueSpared second third) : QueueSpared first third := by
  obtain ⟨scheduled, outgoing, accepted, published⟩ := early.queue
  obtain ⟨scheduled', outgoing', accepted', published'⟩ := late.queue
  exact ⟨⟨scheduled'.trans scheduled, outgoing'.trans outgoing, accepted'.trans accepted,
    published'.trans published⟩, late.inFlight.trans early.inFlight⟩

def Emptied (conn : State) : Prop :=
  conn.inFlight = [] ∧ conn.outgoing = [] ∧ conn.scheduled = []

def backlog (conn : State) : Nat :=
  conn.inFlight.length + 2 * conn.outgoing.length + 3 * conn.scheduled.length

theorem todo_of_serving {conn : State} (serves : conn.serving = true) : conn.todo = none := by
  unfold serving at serves
  split at serves
  · rename_i client waits
    exact todo_at waits
  · cases serves

theorem serving_session {conn : State} (serves : conn.serving = true) :
    ∃ (client : ClientId) (id : SessionId) (drain : DrainTask) (dispatch : DispatchTask),
      conn.runTask = some (.waiting client) ∧
      conn.sessions[id]? = some ⟨client, drain, dispatch, false⟩ ∧ drain.alive = true ∧
      (⟨client, drain, dispatch, false⟩ : Session).failed = false := by
  unfold serving at serves
  split at serves
  · rename_i client waits
    obtain ⟨session, member, drains⟩ := List.any_eq_true.mp serves
    obtain ⟨id, stored⟩ := List.getElem?_of_mem member
    obtain ⟨holder, drain, dispatch, requested⟩ := session
    simp only [Session.drains, Bool.and_eq_true, Bool.not_eq_true', decide_eq_true_eq] at drains
    obtain ⟨⟨⟨rfl, rfl⟩, fine⟩, alive⟩ := drains
    exact ⟨holder, id, drain, dispatch, waits, stored, alive, fine⟩
  · cases serves

theorem serving_set {conn base : State} {client : ClientId} {id : SessionId} {new : Session}
    (waits : conn.runTask = some (.waiting client)) (runTask : base.runTask = conn.runTask)
    (sessions : base.sessions = conn.sessions) (inside : id < conn.sessions.length)
    (drains : new.drains client = true) : (base.setSession id new).serving = true := by
  have stands : (base.setSession id new).runTask = some (.waiting client) := runTask.trans waits
  rw [serving_at stands, List.any_eq_true]
  refine ⟨new, ?_, drains⟩
  simp only [setSession, sessions]
  exact List.mem_of_getElem? (List.getElem?_set_self inside)

theorem failed_of_alive {client : ClientId} {drain : DrainTask} (dispatch : DispatchTask)
    (works : drain.alive = true) :
    (⟨client, drain, dispatch, false⟩ : Session).failed =
      (⟨client, .waiting, dispatch, false⟩ : Session).failed := by
  cases drain with
  | waiting => rfl
  | publishing item => cases dispatch <;> rfl
  | _ => cases works

theorem drains_of_alive {client : ClientId} {drain other : DrainTask} {dispatch : DispatchTask}
    (fine : (⟨client, drain, dispatch, false⟩ : Session).failed = false)
    (before : drain.alive = true) (after : other.alive = true) :
    (⟨client, other, dispatch, false⟩ : Session).drains client = true := by
  have same := (@failed_of_alive client other dispatch after).trans
    (failed_of_alive dispatch before).symm
  simp [Session.drains, same, fine, after]

/-- One item has come nearer to the broker, and the connection still serves. -/
structure Drained (conn next : State) : Prop where
  serves : next.serving = true
  line : held next ++ next.scheduled = held conn ++ conn.scheduled
  underway : next.underway.Sublist conn.underway
  fewer : next.backlog < conn.backlog

theorem put_drains {conn : State} {item : Outgoing} {rest : List Outgoing}
    (serves : conn.serving = true) (scheduled : conn.scheduled = item :: rest) :
    Drained conn { conn with
      scheduled := rest
      outgoing := conn.outgoing ++ [item]
      accepted := conn.accepted ++ [item] } := by
  refine ⟨serves, ?_, ?_, ?_⟩
  · simp [held, State.inFlight, scheduled]
  · simp [State.underway, State.inFlight, scheduled]
  · simp only [backlog, State.inFlight, scheduled, List.length_append, List.length_cons,
      List.length_nil]
    omega

section Worker

variable {conn : State} {client : ClientId} {id : SessionId} {dispatch : DispatchTask}
  {item : Outgoing}

theorem publish_drains (sound : conn.WellFormed) (waits : conn.runTask = some (.waiting client))
    (stored : conn.sessions[id]? = some ⟨client, .publishing item, dispatch, false⟩)
    (fine : (⟨client, .publishing item, dispatch, false⟩ : Session).failed = false) :
    Drained conn ({ conn with published := conn.published ++ [item] }.setSession id
      ⟨client, .waiting, dispatch, false⟩) := by
  have inHand := in_flight_alive sound stored rfl
  have emptied := in_flight_set sound stored rfl
    { conn with published := conn.published ++ [item] } rfl ⟨client, .waiting, dispatch, false⟩
  refine ⟨?_, ?_, ?_, ?_⟩
  · exact serving_set waits rfl rfl (List.getElem?_eq_some_iff.mp stored).1
      (drains_of_alive fine rfl rfl)
  · unfold held
    rw [emptied, inHand]
    simp [setSession, DrainTask.inFlight]
  · unfold State.underway
    rw [emptied, inHand]
    simp [setSession, DrainTask.inFlight]
  · unfold backlog
    rw [emptied, inHand]
    simp [setSession, DrainTask.inFlight]

theorem take_drains {rest : List Outgoing} (sound : conn.WellFormed)
    (waits : conn.runTask = some (.waiting client))
    (stored : conn.sessions[id]? = some ⟨client, .waiting, dispatch, false⟩)
    (fine : (⟨client, .waiting, dispatch, false⟩ : Session).failed = false)
    (outgoing : conn.outgoing = item :: rest) :
    Drained conn ({ conn with outgoing := rest }.setSession id
      ⟨client, .publishing item, dispatch, false⟩) := by
  have inHand := in_flight_alive sound stored rfl
  have taken := in_flight_set sound stored rfl { conn with outgoing := rest } rfl
    ⟨client, .publishing item, dispatch, false⟩
  refine ⟨?_, ?_, ?_, ?_⟩
  · exact serving_set waits rfl rfl (List.getElem?_eq_some_iff.mp stored).1
      (drains_of_alive fine rfl rfl)
  · unfold held
    rw [taken, inHand]
    simp [setSession, DrainTask.inFlight, outgoing]
  · unfold State.underway
    rw [taken, inHand]
    simp [setSession, DrainTask.inFlight, outgoing]
  · unfold backlog
    rw [taken, inHand]
    simp only [setSession, DrainTask.inFlight, outgoing, List.length_cons, List.length_nil]
    omega

end Worker

theorem drain_step (desired : List String) {conn : State} (sound : conn.WellFormed)
    (serves : conn.serving = true) (left : ¬ conn.Emptied) :
    ∃ event next, event.helps = true ∧ conn.step desired event = some next ∧
      Drained conn next := by
  obtain ⟨client, id, drain, dispatch, waits, stored, alive, fine⟩ := serving_session serves
  have found : conn.worker id = some ⟨client, drain, dispatch, false⟩ := by
    simp [worker, stored]
  cases scheduled : conn.scheduled with
  | cons item rest =>
      exact ⟨.putRan, _, rfl, by simp only [step, putRan, scheduled], put_drains serves scheduled⟩
  | nil =>
      cases drain with
      | publishing item =>
          refine ⟨.published id true, _, rfl, ?_, publish_drains sound waits stored fine⟩
          simp only [step, publishEnded, found, if_true]
      | waiting =>
          cases outgoing : conn.outgoing with
          | nil =>
              have inHand := in_flight_alive sound stored rfl
              exact absurd ⟨inHand, outgoing, scheduled⟩ left
          | cons item rest =>
              refine ⟨.drainTook id, _, rfl, ?_, take_drains sound waits stored fine outgoing⟩
              simp only [step, drainTook, found, outgoing]
      | _ => cases alive

end State

end RemoteIface.Commlib.Connection

namespace RemoteIface.Commlib.Recovery

open RemoteIface.Library.Runs
open RemoteIface.Library.Progress
open RemoteIface.Commlib.Payload
open RemoteIface.Commlib.Rpc
open RemoteIface.Commlib.Connection
open RemoteIface.Commlib.NodeContext
open RemoteIface.Commlib.PeerSafety
open RemoteIface.Commlib.FilterCover
open RemoteIface.Commlib.OutgoingQueue

variable {Obj Resp : Type}

/-- A step of the connection that fails in nothing, and that the client takes. -/
def Helps (rules : ClientRules) (ctx : Context Obj Resp) (event : NodeContext.Event Obj Resp) :
    Prop :=
  ∃ wire, event = .wire wire ∧ wire.helps = true ∧ ctx.conn.Takes rules wire

/-- The client takes what waits and the filters of the registry. -/
def Acceptable (rules : ClientRules) (ctx : Context Obj Resp) : Prop :=
  ctx.conn.Acceptable rules ctx.router.registry.desiredSubscriptions

theorem wire_taken (serialize : Resp → Except PyException Json) {ctx : Context Obj Resp}
    {event : Connection.Event} {conn : Connection.State}
    (moved : ctx.conn.step ctx.router.registry.desiredSubscriptions event = some conn) :
    ctx.step serialize (.wire event) = some { ctx with conn := conn } :=
  Option.map_eq_some_iff.mpr ⟨conn, moved, rfl⟩

structure Returning (rules : ClientRules) (start ctx : Context Obj Resp) : Prop where
  steady : ctx.Steady
  running : ctx.conn.Running
  acceptable : Acceptable rules ctx
  router : ctx.router = start.router
  spared : State.QueueSpared start.conn ctx.conn

structure Draining (rules : ClientRules) (start ctx : Context Obj Resp) : Prop where
  steady : ctx.Steady
  serves : ctx.conn.serving = true
  acceptable : Acceptable rules ctx
  router : ctx.router = start.router
  line : held ctx.conn ++ ctx.conn.scheduled = held start.conn ++ start.conn.scheduled

theorem serving_reached (serialize : Resp → Except PyException Json) {rules : ClientRules}
    {ctx : Context Obj Resp} (steady : ctx.Steady) (running : ctx.conn.Running)
    (acceptable : Acceptable rules ctx) :
    ∃ events served, Guarded (Context.step serialize) (Helps rules) ctx events ∧
      run (Context.step serialize) ctx events = some served ∧ Returning rules ctx served ∧
      served.conn.serving = true := by
  have onwards : ∀ state : Context Obj Resp, Returning rules ctx state →
      ¬ state.conn.serving = true → ∃ event next, Helps rules state event ∧
        state.step serialize event = some next ∧ Returning rules ctx next ∧
        next.conn.distance next.router.registry.desiredSubscriptions.length <
          state.conn.distance state.router.registry.desiredSubscriptions.length := by
    intro state returning idle
    obtain ⟨event, conn, helps, aside, moved, spared, nearer⟩ :=
      State.nearer_step state.router.registry.desiredSubscriptions returning.steady.1
        returning.steady.2 returning.running (by simpa using idle)
    have taken := wire_taken serialize moved
    have takes : Helps rules state (.wire event) :=
      ⟨event, rfl, helps, returning.acceptable.takes event⟩
    have still : Acceptable rules { state with conn := conn } :=
      ⟨fun item member => returning.acceptable.items item (spared.underway.subset member),
        returning.acceptable.desired, State.todo_acceptable returning.acceptable aside moved⟩
    refine ⟨.wire event, { state with conn := conn }, takes, taken, ?_, nearer⟩
    exact ⟨Context.steady_step returning.steady taken,
      State.running_kept returning.running aside moved, still, returning.router,
      returning.spared.trans spared⟩
  obtain ⟨events, served, helping, reached, returning, serves, _⟩ :=
    goal_reached (Context.step serialize) onwards
      ⟨steady, running, acceptable, rfl, State.QueueSpared.refl ctx.conn⟩
  exact ⟨events, served, helping, reached, returning, serves⟩

theorem queue_emptied (serialize : Resp → Except PyException Json) {rules : ClientRules}
    {ctx : Context Obj Resp} (steady : ctx.Steady) (serves : ctx.conn.serving = true)
    (acceptable : Acceptable rules ctx) :
    ∃ events final, Guarded (Context.step serialize) (Helps rules) ctx events ∧
      run (Context.step serialize) ctx events = some final ∧ Draining rules ctx final ∧
      final.conn.Emptied := by
  have onwards : ∀ state : Context Obj Resp, Draining rules ctx state → ¬ state.conn.Emptied →
      ∃ event next, Helps rules state event ∧ state.step serialize event = some next ∧
        Draining rules ctx next ∧ next.conn.backlog < state.conn.backlog := by
    intro state draining left
    obtain ⟨event, conn, helps, moved, drained⟩ :=
      State.drain_step state.router.registry.desiredSubscriptions draining.steady.1
        draining.serves left
    have taken := wire_taken serialize moved
    have takes : Helps rules state (.wire event) :=
      ⟨event, rfl, helps, draining.acceptable.takes event⟩
    have still : Acceptable rules { state with conn := conn } := by
      refine ⟨fun item member => draining.acceptable.items item (drained.underway.subset member),
        draining.acceptable.desired, ?_⟩
      intro todo ahead
      simp [State.todo_of_serving drained.serves] at ahead
    refine ⟨.wire event, { state with conn := conn }, takes, taken, ?_, drained.fewer⟩
    exact ⟨Context.steady_step draining.steady taken, drained.serves, still, draining.router,
      drained.line.trans draining.line⟩
  obtain ⟨events, final, helping, reached, draining, emptied, _⟩ :=
    goal_reached (Context.step serialize) onwards ⟨steady, serves, acceptable, rfl, rfl⟩
  exact ⟨events, final, helping, reached, draining, emptied⟩

/-- From every state of a started context whose waiting items and filters the
client takes, a broker that answers leads to a connection with an empty queue.
What was queued or scheduled is published then, in order, after what was
published already; of the rest only an item that was in flight can be missing. -/
theorem started_context_recovers (serialize : Resp → Except PyException Json)
    (rules : ClientRules) (events : List (NodeContext.Event Obj Resp)) (ctx : Context Obj Resp)
    (reached : run (Context.step serialize) Context.fresh events = some ctx)
    (running : ctx.conn.Running) (acceptable : Acceptable rules ctx) :
    ∃ helping final fate, Guarded (Context.step serialize) (Helps rules) ctx helping ∧
      run (Context.step serialize) ctx helping = some final ∧ final.router = ctx.router ∧
      final.conn.connected = true ∧ final.conn.serving = true ∧ final.conn.Emptied ∧
      fate.Sublist ctx.conn.inFlight ∧
      final.conn.published =
        ctx.conn.published ++ fate ++ ctx.conn.outgoing ++ ctx.conn.scheduled := by
  obtain ⟨back, served, backHelps, backRun, returning, serves⟩ :=
    serving_reached serialize (Context.steady_run reached) running acceptable
  obtain ⟨out, final, outHelps, outRun, draining, emptied⟩ :=
    queue_emptied serialize returning.steady serves returning.acceptable
  refine ⟨back ++ out, final, served.conn.inFlight, ?_, ?_, ?_, ?_, draining.serves, emptied,
    returning.spared.inFlight, ?_⟩
  · refine (guarded_append (Context.step serialize)).mpr ⟨backHelps, ?_⟩
    intro middle reachedMiddle
    obtain rfl : served = middle := Option.some.inj (backRun.symm.trans reachedMiddle)
    exact outHelps
  · rw [run_append, backRun]
    exact outRun
  · exact draining.router.trans returning.router
  · obtain ⟨client, _, _, _, waits, _⟩ := State.serving_session draining.serves
    apply draining.steady.2.healthy
    rw [State.entered_at waits]
    simp [RunPc.entered]
  · obtain ⟨scheduled, outgoing, _, published⟩ := returning.spared.queue
    obtain ⟨nothingInFlight, nothingQueued, nothingScheduled⟩ := emptied
    have line := draining.line
    unfold held at line
    rw [nothingInFlight, nothingQueued, nothingScheduled, scheduled, outgoing, published] at line
    simpa using line

/-- A client that goes by the rules of the protocol. -/
def protocolRules : ClientRules :=
  ⟨fun item => publishAccepts item.topic, fun pattern => pattern ≠ "" ∧ ValidFilter pattern⟩

/-- A publication that waits for a first connection, and one that is in flight
when the connection breaks. -/
def brokenRun : List (NodeContext.Event Unit Unit) :=
  [.called (.createSubscriber "bot/+" 0 none), .wire .start, .wire .startResumed,
    .called (.createPublisher "bot/notify"), .publish 0 (.ok (.str "first")),
    .publish 0 (.ok (.str "second")), .wire .putRan, .wire (.iterated true),
    .wire (.entered true), .wire (.subscribed true), .wire (.drainTook 0),
    .wire (.messagesEnded 0 true), .wire .waitReturned]

def brokenState : Context Unit Unit :=
  (run (Context.step fun _ => .ok .null) Context.fresh brokenRun).getD Context.fresh

theorem broken_run_acceptable : Acceptable protocolRules brokenState := by
  have topic : publishAccepts (.str "bot/notify") = true := by decide
  have filter : protocolRules.subscribes "bot/+" = true := by decide
  refine ⟨?_, ?_, ?_⟩
  · intro item member
    have line : brokenState.conn.underway =
        [⟨.str "bot/notify", .str "first", 0⟩, ⟨.str "bot/notify", .str "second", 0⟩] := rfl
    have queued : item = ⟨.str "bot/notify", .str "first", 0⟩ ∨
        item = ⟨.str "bot/notify", .str "second", 0⟩ := by
      rw [line] at member
      simpa using member
    rcases queued with rfl | rfl
    · exact topic
    · exact topic
  · intro pattern member
    obtain rfl : pattern = "bot/+" := List.mem_singleton.mp member
    exact filter
  · intro todo ahead
    cases ahead

theorem broken_run_recovers :
    run (Context.step fun _ => .ok .null) Context.fresh brokenRun = some brokenState ∧
      brokenState.conn.connected = true ∧ brokenState.conn.published = [] ∧
      brokenState.conn.scheduled = [⟨.str "bot/notify", .str "second", 0⟩] ∧
      ∃ helping final fate,
        Guarded (Context.step fun _ => .ok .null) (Helps protocolRules) brokenState helping ∧
        run (Context.step fun _ => .ok .null) brokenState helping = some final ∧
        final.conn.serving = true ∧
        final.conn.published = fate ++ [⟨.str "bot/notify", .str "second", 0⟩] := by
  refine ⟨rfl, rfl, rfl, rfl, ?_⟩
  obtain ⟨helping, final, fate, helps, recovered, _, _, serves, _, _, line⟩ :=
    started_context_recovers (fun _ => .ok .null) protocolRules brokenRun brokenState rfl
      (.inr ⟨rfl, rfl⟩) broken_run_acceptable
  refine ⟨helping, final, fate, helps, recovered, serves, ?_⟩
  rw [line]
  change [] ++ fate ++ [] ++ [(⟨.str "bot/notify", .str "second", 0⟩ : Outgoing)] = _
  rw [List.nil_append, List.append_nil]

end RemoteIface.Commlib.Recovery
