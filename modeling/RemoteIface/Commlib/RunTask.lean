import RemoteIface.Commlib.ConnectionWorkers

/-!
Where `_run` can stand. A step of `_run` is told by whether somebody has asked
for its cancellation; from that follows what holds at each of its awaits: only
`stop` asks, the tasks that `_run` waits to end have been cancelled, and the
ones it waits for have not.
-/

namespace RemoteIface.Commlib.Connection

set_option autoImplicit false

open RemoteIface.Commlib.Rpc

def RunPc.leaving : RunPc → Bool
  | closing _ _ => true
  | cleanup _ _ => true
  | ended => true
  | _ => false

def RunPc.onDuty : RunPc → Bool
  | closing _ exit => exit = .failed
  | cleanup _ exit => exit = .failed
  | subscribing _ todo => !todo.isEmpty
  | ended => false
  | _ => true

def RunPc.forWorkers : RunPc → Bool
  | waiting _ => true
  | cleanup _ _ => true
  | _ => false

def RunPc.awaitsLeft : RunPc → Nat
  | ended => 0
  | cleanup _ _ => 1
  | closing _ _ => 2
  | _ => 3

/-- The steps that the `gather` of the clean-up waits for, and its return. -/
def Event.tidies : Event → Bool
  | .drainCancelled _ => true
  | .dispatchCancelled _ => true
  | .cleanedUp => true
  | _ => false

/-- The drain task of the session works, or `asyncio.wait` has an exception to
return for. -/
def Session.attended (session : Session) : Prop :=
  session.cancelRequested = false ∧ (session.failed = true ∨ session.drain.alive = true)

namespace State

inductive CalmStep (desired : List String) (conn : State) : State → Prop where
  | iterated {pc : RunPc} (factoryReturned : Bool) (standsAt : conn.runTask = some pc)
      (atHead : pc = .created ∨ pc = .sleeping) :
      CalmStep desired conn (conn.iterate factoryReturned)
  | entered {client : ClientId} (standsAt : conn.runTask = some (.connecting client)) :
      CalmStep desired conn (conn.enter client desired)
  | subscribed {client : ClientId} {topic : String} {rest : List String}
      (standsAt : conn.runTask = some (.subscribing client (topic :: rest))) :
      CalmStep desired conn (conn.subscribe client topic rest)
  | failed {pc : RunPc} {client : ClientId} (standsAt : conn.runTask = some pc)
      (inBody : (∃ todo, pc = .subscribing client todo) ∨ pc = .waiting client) :
      CalmStep desired conn (conn.goTo (.closing client .failed))
  | refused {client : ClientId} (standsAt : conn.runTask = some (.connecting client)) :
      CalmStep desired conn (conn.leave client .failed)
  | exited {client : ClientId} {exit : Exit} (raised : Bool)
      (standsAt : conn.runTask = some (.closing client exit)) :
      CalmStep desired conn (conn.leave client (if raised then .failed else exit))
  | cleanedUp {client : ClientId} {exit : Exit}
      (standsAt : conn.runTask = some (.cleanup client exit)) :
      CalmStep desired conn (conn.afterCleanup exit)

inductive CancelStep (conn : State) : State → Prop where
  | ended {pc : RunPc} (standsAt : conn.runTask = some pc)
      (atHead : pc = .created ∨ pc = .sleeping) :
      CancelStep conn ({ conn with cancelRequested := false }.goTo .ended)
  | left {pc : RunPc} {client : ClientId} (exit : Exit) (standsAt : conn.runTask = some pc)
      (outside : pc = .connecting client ∨ ∃ held, pc = .closing client held) :
      CancelStep conn ({ conn with cancelRequested := false }.leave client exit)
  | closing {pc : RunPc} {client : ClientId} (exit : Exit) (standsAt : conn.runTask = some pc)
      (inBody : (∃ todo, pc = .subscribing client todo) ∨ pc = .waiting client) :
      CancelStep conn ({ conn with cancelRequested := false }.goTo (.closing client exit))
  | cleanedUp {client : ClientId} {exit : Exit}
      (standsAt : conn.runTask = some (.cleanup client exit)) :
      CancelStep conn ({ conn with cancelRequested := false }.afterCleanup .cancelled)

theorem runnable_calm {conn : State} {pc : RunPc} (ready : conn.runnable = some pc) :
    conn.runTask = some pc ∧ conn.cancelRequested = false := by
  unfold runnable at ready
  split at ready
  · cases ready
  · rename_i calm
    exact ⟨ready, by simpa using calm⟩

theorem run_cancelled_cases {conn next : State} (taken : conn.runCancelled = some next) :
    conn.cancelRequested = true ∧ CancelStep conn next := by
  unfold runCancelled at taken
  split at taken
  · rename_i requested
    refine ⟨requested, ?_⟩
    dsimp only at taken
    split at taken <;> cases taken <;> rename_i standsAt
    · exact .ended standsAt (.inl rfl)
    · exact .left .cancelled standsAt (.inl rfl)
    · exact .closing .cancelled standsAt (.inl ⟨_, rfl⟩)
    · exact .closing .cancelled standsAt (.inr rfl)
    · exact .left .cancelled standsAt (.inr ⟨_, rfl⟩)
    · exact .ended standsAt (.inr rfl)
  · cases taken

theorem cancel_replaced_cases {conn next : State} (taken : conn.cancelReplaced = some next) :
    conn.cancelRequested = true ∧ CancelStep conn next := by
  unfold cancelReplaced at taken
  split at taken
  · rename_i requested
    refine ⟨requested, ?_⟩
    dsimp only at taken
    split at taken <;> cases taken <;> rename_i standsAt
    · exact .left .failed standsAt (.inl rfl)
    · exact .closing .failed standsAt (.inl ⟨_, rfl⟩)
    · exact .left .failed standsAt (.inr ⟨_, rfl⟩)
  · cases taken

theorem cleaned_up_cases {desired : List String} {conn next : State}
    (taken : conn.cleanedUp = some next) :
    conn.cancelRequested = false ∧ CalmStep desired conn next ∨
      conn.cancelRequested = true ∧ CancelStep conn next := by
  unfold cleanedUp at taken
  split at taken
  · rename_i client exit standsAt
    split at taken
    · cases taken
    · split at taken <;> cases taken
      · rename_i requested
        exact .inr ⟨requested, .cleanedUp standsAt⟩
      · rename_i calm
        exact .inl ⟨by simpa using calm, .cleanedUp standsAt⟩
  · cases taken

theorem run_task_step {desired : List String} {conn next : State} {event : Event}
    (ofRun : event.ofRun = true) (ofTask : event.ofLifecycle = false)
    (taken : conn.step desired event = some next) :
    conn.cancelRequested = false ∧ CalmStep desired conn next ∨
      conn.cancelRequested = true ∧ CancelStep conn next := by
  cases event <;> simp only [Event.ofRun, Event.ofLifecycle, Bool.false_eq_true,
    Bool.true_eq_false] at ofRun ofTask <;> simp only [step] at taken
  case iterated factoryReturned =>
    split at taken <;> cases taken <;> rename_i ready
    all_goals obtain ⟨standsAt, calm⟩ := runnable_calm ready
    · exact .inl ⟨calm, .iterated factoryReturned standsAt (.inl rfl)⟩
    · exact .inl ⟨calm, .iterated factoryReturned standsAt (.inr rfl)⟩
  case entered returned =>
    split at taken
    · rename_i client ready
      obtain ⟨standsAt, calm⟩ := runnable_calm ready
      cases returned <;> cases taken
      · exact .inl ⟨calm, .refused standsAt⟩
      · exact .inl ⟨calm, .entered standsAt⟩
    · cases taken
  case subscribed returned =>
    split at taken
    · rename_i client topic rest ready
      obtain ⟨standsAt, calm⟩ := runnable_calm ready
      cases returned <;> cases taken
      · exact .inl ⟨calm, .failed standsAt (.inl ⟨_, rfl⟩)⟩
      · exact .inl ⟨calm, .subscribed standsAt⟩
    · cases taken
  case waitReturned =>
    split at taken
    · rename_i client ready
      obtain ⟨standsAt, calm⟩ := runnable_calm ready
      split at taken <;> cases taken
      exact .inl ⟨calm, .failed standsAt (.inr rfl)⟩
    · cases taken
  case exited raised =>
    split at taken <;> cases taken
    rename_i client exit ready
    obtain ⟨standsAt, calm⟩ := runnable_calm ready
    exact .inl ⟨calm, .exited raised standsAt⟩
  case cleanedUp => exact cleaned_up_cases taken
  case runCancelled => exact .inr (run_cancelled_cases taken)
  case cancelReplaced => exact .inr (cancel_replaced_cases taken)

theorem after_cleanup_stands (conn : State) (exit : Exit) :
    (conn.afterCleanup exit).stopped = conn.stopped ∧
      (conn.afterCleanup exit).cancelRequested = conn.cancelRequested ∧
      ((conn.afterCleanup exit).runTask = some .ended ∧ (exit = .failed → conn.stopped = true) ∨
        (conn.afterCleanup exit).runTask = some .sleeping ∧ conn.stopped = false) := by
  cases exit with
  | cancelled => exact ⟨rfl, rfl, .inl ⟨rfl, by simp⟩⟩
  | failed =>
      unfold afterCleanup
      dsimp only
      split
      · rename_i stopped
        exact ⟨rfl, rfl, .inl ⟨rfl, fun _ => stopped⟩⟩
      · rename_i running
        exact ⟨rfl, rfl, .inr ⟨rfl, by simpa using running⟩⟩

theorem leave_stands (conn : State) (client : ClientId) (exit : Exit) :
    (conn.leave client exit).stopped = conn.stopped ∧
      (conn.leave client exit).cancelRequested = conn.cancelRequested ∧
      ((conn.leave client exit).runTask = some (.cleanup client exit) ∧
          (conn.leave client exit).sessions = conn.sessions.map (Session.cancelFor client) ∨
        (conn.leave client exit).runTask = some .ended ∧ (exit = .failed → conn.stopped = true) ∨
        (conn.leave client exit).runTask = some .sleeping ∧ conn.stopped = false) := by
  unfold leave
  dsimp only
  split
  · exact ⟨rfl, rfl, .inl ⟨rfl, rfl⟩⟩
  · obtain ⟨stopped, requested, stands⟩ :=
      after_cleanup_stands { conn with connected := false } exit
    exact ⟨stopped, requested, .inr stands⟩

theorem iterate_stands (conn : State) (factoryReturned : Bool) :
    (conn.iterate factoryReturned).stopped = conn.stopped ∧
      (conn.iterate factoryReturned).cancelRequested = conn.cancelRequested ∧
      ((conn.iterate factoryReturned).runTask = some .ended ∧ conn.stopped = true ∨
        ∃ pc, (conn.iterate factoryReturned).runTask = some pc ∧
          (pc = .connecting conn.clients ∨ pc = .sleeping) ∧ conn.stopped = false) := by
  unfold iterate
  split
  · rename_i stopped
    exact ⟨rfl, rfl, .inl ⟨rfl, stopped⟩⟩
  · rename_i running
    have running : conn.stopped = false := by simpa using running
    split
    · exact ⟨rfl, rfl, .inr ⟨_, rfl, .inl rfl, running⟩⟩
    · obtain ⟨stopped, requested, ended | asleep⟩ :=
        after_cleanup_stands { conn with connected := false } .failed
      · exact absurd (ended.2 rfl) (by simp [running])
      · exact ⟨stopped, requested, .inr ⟨_, asleep.1, .inr rfl, running⟩⟩

theorem subscribe_loop_stands (conn : State) (client : ClientId) (todo : List String) :
    (conn.subscribeLoop client todo).stopped = conn.stopped ∧
      (conn.subscribeLoop client todo).cancelRequested = conn.cancelRequested ∧
      (todo = [] ∧ (conn.subscribeLoop client todo).runTask = some (.waiting client) ∧
          (conn.subscribeLoop client todo).sessions =
            conn.sessions ++ [Session.create client] ∨
        (conn.subscribeLoop client todo).runTask = some (.subscribing client todo) ∧
          todo.isEmpty = false) := by
  cases todo with
  | nil => exact ⟨rfl, rfl, .inl ⟨rfl, rfl, rfl⟩⟩
  | cons topic rest => exact ⟨rfl, rfl, .inr ⟨rfl, rfl⟩⟩

/-- Without a request and without `_stopped`, the task goes on. -/
theorem CalmStep.on_duty {desired : List String} {conn next : State} {pc : RunPc}
    (taken : CalmStep desired conn next) (running : conn.stopped = false)
    (stands : conn.runTask = some pc) (duty : pc.onDuty = true) :
    next.stopped = false ∧ next.cancelRequested = conn.cancelRequested ∧
      ∃ later, next.runTask = some later ∧ later.onDuty = true := by
  have left : ∀ client exit, exit = Exit.failed →
      (conn.leave client exit).stopped = false ∧
        (conn.leave client exit).cancelRequested = conn.cancelRequested ∧
        ∃ later, (conn.leave client exit).runTask = some later ∧ later.onDuty = true := by
    rintro client exit rfl
    obtain ⟨stopped, requested, ⟨cleanup, _⟩ | ⟨_, must⟩ | ⟨asleep, _⟩⟩ :=
      leave_stands conn client .failed
    · exact ⟨stopped.trans running, requested, _, cleanup, rfl⟩
    · exact absurd (must rfl) (by simp [running])
    · exact ⟨stopped.trans running, requested, _, asleep, rfl⟩
  cases taken with
  | iterated factoryReturned standsAt atHead =>
      obtain ⟨stopped, requested, ⟨_, must⟩ | ⟨later, standsNext, either, _⟩⟩ :=
        iterate_stands conn factoryReturned
      · exact absurd must (by simp [running])
      · refine ⟨stopped.trans running, requested, later, standsNext, ?_⟩
        rcases either with rfl | rfl <;> rfl
  | @entered client standsAt =>
      obtain ⟨stopped, requested, ⟨_, waits, _⟩ | ⟨subscribes, some_left⟩⟩ :=
        subscribe_loop_stands { conn with connected := true, subscribed := [] } client desired
      · exact ⟨stopped.trans running, requested, _, waits, rfl⟩
      · exact ⟨stopped.trans running, requested, _, subscribes, by simp [RunPc.onDuty, some_left]⟩
  | @subscribed client topic rest standsAt =>
      obtain ⟨stopped, requested, ⟨_, waits, _⟩ | ⟨subscribes, some_left⟩⟩ :=
        subscribe_loop_stands { conn with subscribed := conn.subscribed ++ [topic] } client rest
      · exact ⟨stopped.trans running, requested, _, waits, rfl⟩
      · exact ⟨stopped.trans running, requested, _, subscribes, by simp [RunPc.onDuty, some_left]⟩
  | failed standsAt inBody => exact ⟨running, rfl, _, rfl, rfl⟩
  | @refused client standsAt => exact left client .failed rfl
  | @exited client exit raised standsAt =>
      rw [standsAt, Option.some.injEq] at stands
      subst stands
      have failed : exit = .failed := of_decide_eq_true duty
      exact left client _ (by rw [failed]; simp)
  | @cleanedUp client exit standsAt =>
      rw [standsAt, Option.some.injEq] at stands
      subst stands
      have failed : exit = .failed := of_decide_eq_true duty
      obtain ⟨stopped, requested, ⟨_, must⟩ | ⟨asleep, _⟩⟩ := after_cleanup_stands conn exit
      · exact absurd (must failed) (by simp [running])
      · exact ⟨stopped.trans running, requested, _, asleep, rfl⟩

/-- With `_stopped` set, leaving a client brings the task closer to its end. -/
theorem leave_leaving {conn : State} (client : ClientId) (exit : Exit)
    (halted : conn.stopped = true) :
    (conn.leave client exit).stopped = true ∧
      ∃ later, (conn.leave client exit).runTask = some later ∧ later.leaving = true ∧
        later.awaitsLeft ≤ 1 := by
  obtain ⟨stopped, _, ⟨cleanup, _⟩ | ⟨ended, _⟩ | ⟨_, running⟩⟩ := leave_stands conn client exit
  · exact ⟨stopped.trans halted, _, cleanup, rfl, Nat.le_refl 1⟩
  · exact ⟨stopped.trans halted, _, ended, rfl, Nat.zero_le 1⟩
  · exact absurd halted (by simp [running])

theorem after_cleanup_leaving {conn : State} (exit : Exit) (halted : conn.stopped = true) :
    (conn.afterCleanup exit).stopped = true ∧
      (conn.afterCleanup exit).runTask = some .ended := by
  obtain ⟨stopped, _, ⟨ended, _⟩ | ⟨_, running⟩⟩ := after_cleanup_stands conn exit
  · exact ⟨stopped.trans halted, ended⟩
  · exact absurd halted (by simp [running])

theorem CalmStep.leaving {desired : List String} {conn next : State} {pc : RunPc}
    (taken : CalmStep desired conn next) (halted : conn.stopped = true)
    (stands : conn.runTask = some pc) (leaving : pc.leaving = true) :
    next.stopped = true ∧ ∃ later, next.runTask = some later ∧ later.leaving = true ∧
      later.awaitsLeft < pc.awaitsLeft := by
  have here : ∀ {other : RunPc}, conn.runTask = some other → other = pc := by
    intro other standsAt
    exact Option.some.inj (standsAt.symm.trans stands)
  cases taken with
  | iterated factoryReturned standsAt atHead =>
      rw [← here standsAt] at leaving
      rcases atHead with rfl | rfl <;> cases leaving
  | entered standsAt =>
      rw [← here standsAt] at leaving
      cases leaving
  | subscribed standsAt =>
      rw [← here standsAt] at leaving
      cases leaving
  | failed standsAt inBody =>
      rw [← here standsAt] at leaving
      rcases inBody with ⟨_, rfl⟩ | rfl <;> cases leaving
  | refused standsAt =>
      rw [← here standsAt] at leaving
      cases leaving
  | @exited client exit raised standsAt =>
      obtain ⟨stopped, later, standsNext, leavingNext, few⟩ :=
        leave_leaving client (if raised then .failed else exit) halted
      rw [← here standsAt]
      exact ⟨stopped, later, standsNext, leavingNext, Nat.lt_succ_of_le few⟩
  | @cleanedUp client exit standsAt =>
      obtain ⟨stopped, ended⟩ := after_cleanup_leaving exit halted
      rw [← here standsAt]
      exact ⟨stopped, _, ended, rfl, Nat.zero_lt_one⟩

theorem CancelStep.leaving {conn next : State} {pc : RunPc} (taken : CancelStep conn next)
    (halted : conn.stopped = true) (stands : conn.runTask = some pc) :
    next.stopped = true ∧ ∃ later, next.runTask = some later ∧ later.leaving = true ∧
      later.awaitsLeft < pc.awaitsLeft := by
  have here : ∀ {other : RunPc}, conn.runTask = some other → other = pc := by
    intro other standsAt
    exact Option.some.inj (standsAt.symm.trans stands)
  cases taken with
  | ended standsAt atHead =>
      rw [← here standsAt]
      refine ⟨halted, _, rfl, rfl, ?_⟩
      rcases atHead with rfl | rfl <;> exact Nat.zero_lt_succ 2
  | @left _ client exit standsAt outside =>
      have stoppedNow : ({ conn with cancelRequested := false } : State).stopped = true := halted
      obtain ⟨stopped, later, standsNext, leavingNext, few⟩ := leave_leaving client exit stoppedNow
      rw [← here standsAt]
      refine ⟨stopped, later, standsNext, leavingNext, ?_⟩
      rcases outside with rfl | ⟨_, rfl⟩
      · exact Nat.lt_of_le_of_lt few (Nat.succ_lt_succ (Nat.zero_lt_succ 1))
      · exact Nat.lt_of_le_of_lt few (Nat.lt_succ_self 1)
  | closing exit standsAt inBody =>
      rw [← here standsAt]
      refine ⟨halted, _, rfl, rfl, ?_⟩
      rcases inBody with ⟨_, rfl⟩ | rfl <;> exact Nat.lt_succ_self 2
  | cleanedUp standsAt =>
      obtain ⟨stopped, ended⟩ := @after_cleanup_leaving
        { conn with cancelRequested := false } .cancelled halted
      rw [← here standsAt]
      exact ⟨stopped, _, ended, rfl, Nat.zero_lt_one⟩

/-- `start` has set the task off and `stop` has not been called. -/
def Running (conn : State) : Prop :=
  conn.lifecycle = .starting ∨ conn.lifecycle = .none ∧ conn.started = true

/-- What `_run` waits for at `asyncio.wait` is attended, and what it waits for
at the `gather` has been told to end. -/
structure Manned (conn : State) : Prop where
  waiting : ∀ client, conn.runTask = some (.waiting client) →
    ∃ (id : SessionId) (session : Session), conn.sessions[id]? = some session ∧
      session.client = client ∧ session.attended
  cleanup : ∀ client exit, conn.runTask = some (.cleanup client exit) →
    ∀ session ∈ conn.sessions, session.client = client → session.cancelRequested = true

structure Poised (conn : State) : Prop where
  stopping : conn.lifecycle = .stopping → conn.stopped = true ∧ ∃ pc, conn.runTask = some pc ∧
    (conn.cancelRequested = true ∧ pc.alive = true ∨ pc.leaving = true)
  running : conn.Running → conn.stopped = false ∧ conn.cancelRequested = false ∧
    ∃ pc, conn.runTask = some pc ∧ pc.onDuty = true
  manned : conn.Manned
  healthy : conn.entered ≠ none → conn.connected = true

theorem manned_elsewhere {conn : State} {pc : RunPc} (stands : conn.runTask = some pc)
    (elsewhere : pc.forWorkers = false) : conn.Manned := by
  constructor
  · intro client waits
    cases Option.some.inj (stands.symm.trans waits)
    cases elsewhere
  · intro client exit cleaning
    cases Option.some.inj (stands.symm.trans cleaning)
    cases elsewhere

theorem attended_create (client : ClientId) : (Session.create client).attended :=
  ⟨rfl, .inr rfl⟩

theorem leave_manned (conn : State) (client : ClientId) (exit : Exit) :
    (conn.leave client exit).Manned := by
  obtain ⟨_, _, ⟨cleaning, sessions⟩ | ⟨ended, _⟩ | ⟨asleep, _⟩⟩ := leave_stands conn client exit
  · constructor
    · intro other waits
      cases cleaning.symm.trans waits
    · intro other held stands session member own
      rw [cleaning, Option.some.injEq, RunPc.cleanup.injEq] at stands
      rw [sessions] at member
      obtain ⟨before, _, rfl⟩ := List.mem_map.mp member
      rw [cancel_for_client, ← stands.1] at own
      unfold Session.cancelFor
      rw [if_pos own]
  · exact manned_elsewhere ended rfl
  · exact manned_elsewhere asleep rfl

theorem after_cleanup_manned (conn : State) (exit : Exit) : (conn.afterCleanup exit).Manned := by
  obtain ⟨_, _, ⟨ended, _⟩ | ⟨asleep, _⟩⟩ := after_cleanup_stands conn exit
  · exact manned_elsewhere ended rfl
  · exact manned_elsewhere asleep rfl

theorem subscribe_loop_manned (conn : State) (client : ClientId) (todo : List String) :
    (conn.subscribeLoop client todo).Manned := by
  obtain ⟨_, _, ⟨_, waits, sessions⟩ | ⟨subscribes, _⟩⟩ := subscribe_loop_stands conn client todo
  · constructor
    · intro other waitsFor
      rw [waits, Option.some.injEq, RunPc.waiting.injEq] at waitsFor
      refine ⟨conn.sessions.length, Session.create client, ?_, waitsFor, attended_create client⟩
      rw [sessions, List.getElem?_concat_length]
    · intro other exit cleaning
      cases waits.symm.trans cleaning
  · exact manned_elsewhere subscribes rfl

theorem CalmStep.manned {desired : List String} {conn next : State}
    (taken : CalmStep desired conn next) : next.Manned := by
  cases taken with
  | iterated factoryReturned standsAt atHead =>
      obtain ⟨_, _, ⟨ended, _⟩ | ⟨later, stands, either, _⟩⟩ := iterate_stands conn factoryReturned
      · exact manned_elsewhere ended rfl
      · rcases either with rfl | rfl
        · exact manned_elsewhere stands rfl
        · exact manned_elsewhere stands rfl
  | entered standsAt => exact subscribe_loop_manned _ _ _
  | subscribed standsAt => exact subscribe_loop_manned _ _ _
  | failed standsAt inBody => exact manned_elsewhere rfl rfl
  | refused standsAt => exact leave_manned conn _ _
  | exited raised standsAt => exact leave_manned conn _ _
  | cleanedUp standsAt => exact after_cleanup_manned conn _

theorem CancelStep.manned {conn next : State} (taken : CancelStep conn next) : next.Manned := by
  cases taken with
  | ended standsAt atHead => exact manned_elsewhere rfl rfl
  | left exit standsAt outside => exact leave_manned _ _ _
  | closing exit standsAt inBody => exact manned_elsewhere rfl rfl
  | cleanedUp standsAt => exact after_cleanup_manned _ _

theorem unentered {conn : State} {pc : RunPc} (stands : conn.runTask = some pc)
    (outside : pc.entered = none) : conn.entered ≠ none → conn.connected = true := by
  intro entered
  exact absurd ((entered_at stands).trans outside) entered

theorem leave_healthy (conn : State) (client : ClientId) (exit : Exit) :
    (conn.leave client exit).entered ≠ none → (conn.leave client exit).connected = true := by
  obtain ⟨_, _, ⟨cleaning, _⟩ | ⟨ended, _⟩ | ⟨asleep, _⟩⟩ := leave_stands conn client exit
  · exact unentered cleaning rfl
  · exact unentered ended rfl
  · exact unentered asleep rfl

theorem after_cleanup_healthy (conn : State) (exit : Exit) :
    (conn.afterCleanup exit).entered ≠ none → (conn.afterCleanup exit).connected = true := by
  obtain ⟨_, _, ⟨ended, _⟩ | ⟨asleep, _⟩⟩ := after_cleanup_stands conn exit
  · exact unentered ended rfl
  · exact unentered asleep rfl

theorem subscribe_loop_connected (conn : State) (client : ClientId) (todo : List String) :
    (conn.subscribeLoop client todo).connected = conn.connected := by
  cases todo <;> rfl

theorem CalmStep.healthy {desired : List String} {conn next : State}
    (taken : CalmStep desired conn next) (healthy : conn.entered ≠ none → conn.connected = true) :
    next.entered ≠ none → next.connected = true := by
  have inside : ∀ {pc : RunPc}, conn.runTask = some pc → pc.entered ≠ none →
      conn.connected = true := by
    intro pc standsAt entered
    exact healthy ((entered_at standsAt).trans_ne entered)
  cases taken with
  | iterated factoryReturned standsAt atHead =>
      obtain ⟨_, _, ⟨ended, _⟩ | ⟨later, stands, either, _⟩⟩ := iterate_stands conn factoryReturned
      · exact unentered ended rfl
      · rcases either with rfl | rfl
        · exact unentered stands rfl
        · exact unentered stands rfl
  | entered standsAt => exact fun _ => subscribe_loop_connected _ _ _
  | subscribed standsAt =>
      exact fun _ => (subscribe_loop_connected _ _ _).trans (inside standsAt (by simp [RunPc.entered]))
  | failed standsAt inBody =>
      intro _
      rcases inBody with ⟨_, rfl⟩ | rfl
      · exact inside standsAt (by simp [RunPc.entered])
      · exact inside standsAt (by simp [RunPc.entered])
  | refused standsAt => exact leave_healthy conn _ _
  | exited raised standsAt => exact leave_healthy conn _ _
  | cleanedUp standsAt => exact after_cleanup_healthy conn _

theorem CancelStep.healthy {conn next : State} (taken : CancelStep conn next)
    (healthy : conn.entered ≠ none → conn.connected = true) :
    next.entered ≠ none → next.connected = true := by
  cases taken with
  | ended standsAt atHead => exact unentered rfl rfl
  | left exit standsAt outside => exact leave_healthy _ _ _
  | closing exit standsAt inBody =>
      intro _
      have entered : conn.entered ≠ none := by
        rcases inBody with ⟨_, rfl⟩ | rfl
        · exact (entered_at standsAt).trans_ne (by simp [RunPc.entered])
        · exact (entered_at standsAt).trans_ne (by simp [RunPc.entered])
      exact healthy entered
  | cleanedUp standsAt => exact after_cleanup_healthy _ _

def SameTask (conn next : State) : Prop :=
  next.runTask = conn.runTask ∧ next.cancelRequested = conn.cancelRequested ∧
    next.stopped = conn.stopped ∧ next.lifecycle = conn.lifecycle ∧
    next.started = conn.started ∧ next.connected = conn.connected

inductive SessionStep (conn next : State) : Prop where
  | same (task : SameTask conn next) (sessions : next.sessions = conn.sessions)
  | changed (task : SameTask conn next) (id : SessionId) (old new : Session)
      (stored : conn.sessions[id]? = some old) (sessions : next.sessions = conn.sessions.set id new)
      (client : new.client = old.client) (requested : new.cancelRequested = old.cancelRequested)
      (attended : old.attended → new.attended)

theorem SessionStep.task {conn next : State} (taken : SessionStep conn next) :
    SameTask conn next := by
  cases taken with
  | same task _ => exact task
  | changed task _ _ _ _ _ _ _ _ => exact task

theorem SessionStep.manned {conn next : State} (taken : SessionStep conn next)
    (manned : conn.Manned) : next.Manned := by
  cases taken with
  | same task sessions =>
      constructor
      · rw [task.1, sessions]
        exact manned.waiting
      · rw [task.1, sessions]
        exact manned.cleanup
  | changed task id old new stored sessions client requested attended =>
      constructor
      · intro holder waits
        rw [task.1] at waits
        obtain ⟨at_, session, found, own, fine⟩ := manned.waiting holder waits
        rw [sessions]
        by_cases same : id = at_
        · subst same
          rw [stored, Option.some.injEq] at found
          subst found
          have inside := (List.getElem?_eq_some_iff.mp stored).1
          exact ⟨id, new, List.getElem?_set_self inside, client.trans own, attended fine⟩
        · exact ⟨at_, session, (List.getElem?_set_ne same).trans found, own, fine⟩
      · intro holder exit cleaning session member own
        rw [task.1] at cleaning
        rw [sessions] at member
        rcases List.mem_or_eq_of_mem_set member with before | rfl
        · exact manned.cleanup holder exit cleaning session before own
        · rw [requested]
          exact manned.cleanup holder exit cleaning old (List.mem_of_getElem? stored)
            (client.symm.trans own)

theorem SameTask.poised {conn next : State} (task : SameTask conn next) (poised : conn.Poised)
    (manned : next.Manned) : next.Poised := by
  obtain ⟨runTask, requested, stopped, lifecycle, started, connected⟩ := task
  constructor
  · rw [lifecycle, stopped, runTask, requested]
    exact poised.stopping
  · unfold Running
    rw [lifecycle, started, stopped, requested, runTask]
    exact poised.running
  · exact manned
  · unfold entered
    rw [runTask, connected]
    exact poised.healthy

theorem SessionStep.poised {conn next : State} (taken : SessionStep conn next)
    (poised : conn.Poised) : next.Poised :=
  taken.task.poised poised (taken.manned poised.manned)

theorem set_session_step {conn base : State} {id : SessionId} {old new : Session}
    (task : SameTask conn base) (sessions : base.sessions = conn.sessions)
    (stored : conn.sessions[id]? = some old) (client : new.client = old.client)
    (requested : new.cancelRequested = old.cancelRequested)
    (attended : old.attended → new.attended) : SessionStep conn (base.setSession id new) :=
  .changed task id old new stored (by simp [setSession, sessions]) client requested attended

theorem same_task (conn : State) : SameTask conn conn := ⟨rfl, rfl, rfl, rfl, rfl, rfl⟩

theorem attended_of_dispatch {client : ClientId} {drain : DrainTask} {ended : DispatchTask}
    (attended : (⟨client, drain, .iterating, false⟩ : Session).attended) :
    (⟨client, drain, ended, false⟩ : Session).attended := by
  refine ⟨rfl, ?_⟩
  rcases attended.2 with failed | works
  · left
    cases drain <;> simp_all [Session.failed]
  · exact .inr works

theorem worker_step {desired : List String} {conn next : State} {event : Event}
    (ofWorker : event.ofWorker = true) (taken : conn.step desired event = some next) :
    SessionStep conn next := by
  cases event <;> simp only [Event.ofWorker, Bool.false_eq_true] at ofWorker <;>
    simp only [step] at taken
  case drainTook id =>
    obtain ⟨client, dispatch, item, rest, stored, _, rfl⟩ := drain_took_cases taken
    exact set_session_step ⟨rfl, rfl, rfl, rfl, rfl, rfl⟩ rfl stored rfl rfl
      fun _ => ⟨rfl, .inr rfl⟩
  case published id returned =>
    obtain ⟨client, item, dispatch, stored, rfl⟩ := publish_ended_cases taken
    cases returned
    · exact set_session_step (same_task conn) rfl stored rfl rfl fun _ => ⟨rfl, .inl rfl⟩
    · exact set_session_step ⟨rfl, rfl, rfl, rfl, rfl, rfl⟩ rfl stored rfl rfl
        fun _ => ⟨rfl, .inr rfl⟩
  case messagesEnded id raised =>
    obtain ⟨client, drain, stored, rfl⟩ := messages_ended_cases taken
    exact set_session_step (same_task conn) rfl stored rfl rfl attended_of_dispatch
  case drainCancelled id =>
    unfold drainCancelled at taken
    split at taken
    · rename_i session stored
      split at taken <;> cases taken
      rename_i both
      refine set_session_step (same_task conn) rfl stored rfl rfl ?_
      intro attended
      exact absurd both.1 (by simp [attended.1])
    · cases taken
  case dispatchCancelled id =>
    unfold dispatchCancelled at taken
    split at taken
    · rename_i session stored
      split at taken <;> cases taken
      rename_i both
      refine set_session_step (same_task conn) rfl stored rfl rfl ?_
      intro attended
      exact absurd both.1 (by simp [attended.1])
    · cases taken

theorem LifecycleStep.poised {conn next : State} {event : Event}
    (taken : LifecycleStep conn event next) (poised : conn.Poised) : next.Poised := by
  cases taken with
  | idle => exact poised
  | start between notStarted =>
      constructor
      · intro stopping
        cases stopping
      · intro _
        exact ⟨rfl, rfl, _, rfl, rfl⟩
      · exact manned_elsewhere rfl rfl
      · exact unentered rfl rfl
  | startResumed waits =>
      have duty := poised.running (.inl waits)
      constructor
      · intro stopping
        cases stopping
      · intro _
        exact duty
      · exact ⟨poised.manned.waiting, poised.manned.cleanup⟩
      · exact poised.healthy
  | stopAlone gone =>
      have absent : ∀ {pc : RunPc}, conn.runTask ≠ some pc := by
        intro pc stands
        cases gone.symm.trans stands
      constructor
      · intro stopping
        obtain ⟨_, pc, stands, _⟩ := poised.stopping stopping
        exact absurd stands absent
      · rintro (starting | ⟨_, notStarted⟩)
        · obtain ⟨_, _, pc, stands, _⟩ := poised.running (.inl starting)
          exact absurd stands absent
        · cases notStarted
      · exact ⟨poised.manned.waiting, poised.manned.cleanup⟩
      · intro entered
        have outside : conn.entered = none := by rw [State.entered, gone]; rfl
        exact absurd outside entered
  | @stop pc stands =>
      constructor
      · intro _
        refine ⟨rfl, pc, stands, ?_⟩
        cases pc with
        | ended => exact .inr rfl
        | _ => exact .inl ⟨rfl, rfl⟩
      · rintro (starting | ⟨idle, _⟩)
        · cases starting
        · cases idle
      · exact ⟨poised.manned.waiting, poised.manned.cleanup⟩
      · exact poised.healthy
  | stopResumed ended =>
      constructor
      · intro stopping
        cases stopping
      · rintro (starting | ⟨_, notStarted⟩)
        · cases starting
        · cases notStarted
      · constructor
        · intro client waits
          cases waits
        · intro client exit cleaning
          cases cleaning
      · intro entered
        exact absurd rfl entered

theorem poised_fresh : State.fresh.Poised where
  stopping := by simp [State.fresh]
  running := by simp [State.fresh, Running]
  manned := by constructor <;> simp [State.fresh]
  healthy := fun entered => absurd rfl entered

theorem poised_run_step {desired : List String} {conn next : State} {event : Event}
    (poised : conn.Poised) (ofRun : event.ofRun = true) (ofTask : event.ofLifecycle = false)
    (taken : conn.step desired event = some next) : next.Poised := by
  obtain ⟨_, lifecycle, started, _⟩ := (run_step ofRun ofTask taken).calls
  have runningBefore : next.Running → conn.Running := by
    unfold Running
    rw [lifecycle, started]
    exact id
  rcases run_task_step ofRun ofTask taken with ⟨calm, moved⟩ | ⟨requested, moved⟩
  · constructor
    · intro stopping
      obtain ⟨halted, pc, stands, either⟩ := poised.stopping (lifecycle ▸ stopping)
      have leaving : pc.leaving = true := either.resolve_left (by simp [calm])
      obtain ⟨stopped, later, standsNext, leavingNext, _⟩ := moved.leaving halted stands leaving
      exact ⟨stopped, later, standsNext, .inr leavingNext⟩
    · intro running
      obtain ⟨unstopped, _, pc, stands, duty⟩ := poised.running (runningBefore running)
      obtain ⟨stopped, kept, later, standsNext, dutyNext⟩ := moved.on_duty unstopped stands duty
      exact ⟨stopped, kept.trans calm, later, standsNext, dutyNext⟩
    · exact moved.manned
    · exact moved.healthy poised.healthy
  · constructor
    · intro stopping
      obtain ⟨halted, pc, stands, _⟩ := poised.stopping (lifecycle ▸ stopping)
      obtain ⟨stopped, later, standsNext, leavingNext, _⟩ := moved.leaving halted stands
      exact ⟨stopped, later, standsNext, .inr leavingNext⟩
    · intro running
      have calm := (poised.running (runningBefore running)).2.1
      exact absurd requested (by simp [calm])
    · exact moved.manned
    · exact moved.healthy poised.healthy

theorem poised_step {desired : List String} {conn next : State} {event : Event}
    (poised : conn.Poised) (taken : conn.step desired event = some next) : next.Poised := by
  by_cases ofLifecycle : event.ofLifecycle = true
  · exact (lifecycle_step ofLifecycle taken).poised poised
  by_cases ofRun : event.ofRun = true
  · exact poised_run_step poised ofRun (by simpa using ofLifecycle) taken
  by_cases ofWorker : event.ofWorker = true
  · exact (worker_step ofWorker taken).poised poised
  cases event <;> simp [Event.ofRun, Event.ofWorker] at ofRun ofWorker
  case enqueued item =>
    rcases enqueued_cases taken with rfl | rfl
    · exact poised
    · have aside : SessionStep conn { conn with scheduled := conn.scheduled ++ [item] } :=
        .same ⟨rfl, rfl, rfl, rfl, rfl, rfl⟩ rfl
      exact aside.poised poised
  case putRan =>
    obtain ⟨item, rest, _, rfl⟩ := put_ran_cases taken
    have aside : SessionStep conn { conn with
        scheduled := rest
        outgoing := conn.outgoing ++ [item]
        accepted := conn.accepted ++ [item] } := .same ⟨rfl, rfl, rfl, rfl, rfl, rfl⟩ rfl
    exact aside.poised poised

/-- The tasks that the `gather` waits for have been cancelled, so they can end. -/
theorem cleanup_goes_on {desired : List String} {conn : State} {client : ClientId} {exit : Exit}
    (manned : conn.Manned) (stands : conn.runTask = some (.cleanup client exit)) :
    ∃ event next, event.tidies = true ∧ conn.step desired event = some next := by
  by_cases waits : conn.sessions.any fun session => session.client = client ∧ session.alive = true
  · obtain ⟨session, member, both⟩ := List.any_eq_true.mp waits
    obtain ⟨own, alive⟩ : session.client = client ∧ session.alive = true := by simpa using both
    obtain ⟨id, stored⟩ := List.getElem?_of_mem member
    have cancelled := manned.cleanup client exit stands session member own
    unfold Session.alive at alive
    rcases (Bool.or_eq_true _ _).mp alive with drains | dispatches
    · refine ⟨.drainCancelled id, conn.setSession id { session with drain := .cancelled }, rfl, ?_⟩
      simp only [step, drainCancelled, stored, cancelled, drains, and_self, if_true]
    · refine ⟨.dispatchCancelled id, conn.setSession id { session with dispatch := .cancelled },
        rfl, ?_⟩
      simp only [step, dispatchCancelled, stored, cancelled, dispatches, and_self, if_true]
  · refine ⟨.cleanedUp, ?_⟩
    simp only [step, cleanedUp, stands, if_neg waits]
    split
    · exact ⟨_, rfl, rfl⟩
    · exact ⟨_, rfl, rfl⟩

def aliveTasks (conn : State) : Nat :=
  conn.sessions.countP (fun session => session.drain.alive) +
    conn.sessions.countP (fun session => session.dispatch.alive)

theorem count_set {sessions : List Session} {id : SessionId} {old : Session}
    (passes : Session → Bool) (stored : sessions[id]? = some old) (new : Session) :
    (sessions.set id new).countP passes + (passes old).toNat =
      sessions.countP passes + (passes new).toNat := by
  induction sessions generalizing id with
  | nil => simp at stored
  | cons first rest induction =>
      cases id with
      | zero =>
          simp only [List.getElem?_cons_zero, Option.some.injEq] at stored
          subst stored
          simp only [List.set_cons_zero, List.countP_cons]
          cases passes first <;> cases passes new <;> simp
      | succ id =>
          have later := induction (by simpa using stored)
          simp only [List.set_cons_succ, List.countP_cons]
          omega

theorem count_set_le {sessions : List Session} {id : SessionId} {old new : Session}
    (passes : Session → Bool) (stored : sessions[id]? = some old)
    (fewer : passes new = true → passes old = true) :
    (sessions.set id new).countP passes ≤ sessions.countP passes := by
  have counted := count_set passes stored new
  cases after : passes new with
  | true =>
      rw [after, fewer after] at counted
      omega
  | false =>
      rw [after] at counted
      simp only [Bool.toNat_false] at counted
      omega

theorem count_set_lt {sessions : List Session} {id : SessionId} {old new : Session}
    (passes : Session → Bool) (stored : sessions[id]? = some old) (before : passes old = true)
    (after : passes new = false) :
    (sessions.set id new).countP passes < sessions.countP passes := by
  have counted := count_set passes stored new
  rw [before, after, Bool.toNat_true, Bool.toNat_false] at counted
  omega

theorem alive_tasks_le_two {conn : State} (sound : conn.WellFormed) : conn.aliveTasks ≤ 2 := by
  have drains : conn.sessions.countP (fun session => session.drain.alive) ≤ 1 := by
    apply count_le_one_of_last
    intro id session stored alive
    exact sound.last id session stored (by simp [Session.alive, alive])
  have dispatches : conn.sessions.countP (fun session => session.dispatch.alive) ≤ 1 := by
    apply count_le_one_of_last
    intro id session stored alive
    exact sound.last id session stored (by simp [Session.alive, alive])
  unfold aliveTasks
  omega

theorem alive_tasks_of_sessions {conn next : State} (sessions : next.sessions = conn.sessions) :
    next.aliveTasks = conn.aliveTasks := by
  rw [aliveTasks, aliveTasks, sessions]

theorem alive_tasks_cancelled {conn next : State} {client : ClientId}
    (sessions : next.sessions = conn.sessions.map (Session.cancelFor client)) :
    next.aliveTasks = conn.aliveTasks := by
  have drain : ∀ session : Session, (session.cancelFor client).drain = session.drain := by
    intro session
    unfold Session.cancelFor
    split <;> rfl
  have dispatch : ∀ session : Session, (session.cancelFor client).dispatch = session.dispatch := by
    intro session
    unfold Session.cancelFor
    split <;> rfl
  rw [aliveTasks, aliveTasks, sessions, List.countP_map, List.countP_map]
  simp [Function.comp_def, drain, dispatch]

theorem leave_alive_tasks (conn : State) (client : ClientId) (exit : Exit) :
    (conn.leave client exit).aliveTasks = conn.aliveTasks := by
  unfold leave
  dsimp only
  split
  · exact alive_tasks_cancelled rfl
  · exact alive_tasks_of_sessions
      (after_cleanup_fields { conn with connected := false } exit).1

theorem worker_alive_tasks {conn next : State} {id : SessionId} {session new : Session}
    (move : WorkerMove conn next id session new) : next.aliveTasks ≤ conn.aliveTasks := by
  have drains := count_set_le (fun session => session.drain.alive) move.stored move.drain
  have dispatches := count_set_le (fun session => session.dispatch.alive) move.stored move.dispatch
  unfold aliveTasks
  rw [move.sessions]
  omega

theorem cancelled_alive_tasks {desired : List String} {conn next : State} {event : Event}
    (cancels : (∃ id, event = .drainCancelled id) ∨ ∃ id, event = .dispatchCancelled id)
    (taken : conn.step desired event = some next) : next.aliveTasks < conn.aliveTasks := by
  rcases cancels with ⟨id, rfl⟩ | ⟨id, rfl⟩
  · obtain ⟨session, stored, alive, rfl⟩ := drain_cancelled_cases taken
    have drains := @count_set_lt _ _ _ { session with drain := .cancelled }
      (fun session => session.drain.alive) stored alive rfl
    have dispatches := @count_set_le _ _ _ { session with drain := .cancelled }
      (fun session => session.dispatch.alive) stored fun kept => kept
    unfold aliveTasks setSession
    dsimp only
    omega
  · obtain ⟨session, stored, alive, rfl⟩ := dispatch_cancelled_cases taken
    have drains := @count_set_le _ _ _ { session with dispatch := .cancelled }
      (fun session => session.drain.alive) stored fun kept => kept
    have dispatches := @count_set_lt _ _ _ { session with dispatch := .cancelled }
      (fun session => session.dispatch.alive) stored alive rfl
    unfold aliveTasks setSession
    dsimp only
    omega

end State

end RemoteIface.Commlib.Connection

namespace RemoteIface.Commlib.NodeContext

open RemoteIface.Library.Runs
open RemoteIface.Commlib.Payload
open RemoteIface.Commlib.Connection

variable {Obj Resp : Type}

namespace Context

theorem session_step {serialize : Resp → Except PyException Json} {ctx next : Context Obj Resp}
    {event : Event Obj Resp} (apart : ¬ OfConnection event)
    (taken : ctx.step serialize event = some next) : State.SessionStep ctx.conn next.conn := by
  cases conn_move taken with
  | scheduled _ items conn =>
      rw [conn]
      exact .same ⟨rfl, rfl, rfl, rfl, rfl, rfl⟩ rfl
  | raised stored conn =>
      rw [conn]
      exact State.set_session_step (State.same_task ctx.conn) rfl stored rfl rfl
        State.attended_of_dispatch
  | stepped moved => exact absurd trivial apart

theorem poised_step {serialize : Resp → Except PyException Json} {ctx next : Context Obj Resp}
    {event : Event Obj Resp} (poised : ctx.conn.Poised)
    (taken : ctx.step serialize event = some next) : next.conn.Poised := by
  cases event with
  | wire event =>
      obtain ⟨conn, moved, rfl⟩ := Option.map_eq_some_iff.mp taken
      exact State.poised_step poised moved
  | _ =>
      refine (session_step ?_ taken).poised poised
      exact not_false

/-- The invariant of the runs. -/
def Steady (ctx : Context Obj Resp) : Prop := ctx.conn.WellFormed ∧ ctx.conn.Poised

theorem steady_step {serialize : Resp → Except PyException Json} {ctx next : Context Obj Resp}
    {event : Event Obj Resp} (steady : ctx.Steady) (taken : ctx.step serialize event = some next) :
    next.Steady :=
  ⟨well_formed_step steady.1 taken, poised_step steady.2 taken⟩

theorem steady_run {serialize : Resp → Except PyException Json} {final : Context Obj Resp}
    {events : List (Event Obj Resp)}
    (reached : run (Context.step serialize) Context.fresh events = some final) : final.Steady :=
  run_invariant (Context.step serialize) (fun _ _ _ steady taken => steady_step steady taken)
    ⟨State.well_formed_fresh, State.poised_fresh⟩ reached

end Context

end RemoteIface.Commlib.NodeContext
