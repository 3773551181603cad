import Mathlib.Data.List.Basic

/-!
A thread pool in the manner of `ThreadPoolExecutor`: a bounded number of
workers and a queue before them. Closing it cancels what is queued and leaves
what is running to itself; a pool that is opened again has new workers, so the
jobs left running from before do not count against its bound.
-/

namespace RemoteIface.Library.WorkerPool

set_option autoImplicit false

/-- A running job is `owned` by the workers the pool has now, or by those of a
time before it was closed. -/
inductive Job (Task Result : Type*) where
  | refused
  | queued (task : Task)
  | running (task : Task) (owned : Bool)
  | ended (task : Task) (result : Result)
  | cancelled (task : Task)

@[ext]
structure Pool (Task Result : Type*) where
  live : Bool
  jobs : List (Job Task Result)

/-- A submission without a task is of one that could not be made. -/
inductive Event (Task Result : Type*) where
  | opened
  | closed
  | submitted (task : Option Task)
  | begun (place : Nat)
  | ended (place : Nat) (result : Result)

variable {Task Result : Type*}

namespace Job

def waiting : Job Task Result → Bool
  | queued _ => true
  | _ => false

def busy : Job Task Result → Bool
  | running _ owned => owned
  | _ => false

def close : Job Task Result → Job Task Result
  | queued task => cancelled task
  | running task _ => running task false
  | job => job

def submit (live : Bool) : Option Task → Job Task Result
  | some task => if live then queued task else refused
  | none => refused

@[simp] theorem busy_close (job : Job Task Result) : job.close.busy = false := by
  cases job <;> rfl

@[simp] theorem waiting_close (job : Job Task Result) : job.close.waiting = false := by
  cases job <;> rfl

@[simp] theorem busy_submit (live : Bool) (task : Option Task) :
    (submit live task : Job Task Result).busy = false := by
  cases task <;> cases live <;> rfl

theorem waiting_refused (task : Option Task) :
    (submit false task : Job Task Result).waiting = false := by
  cases task <;> rfl

end Job

namespace Pool

def shut : Pool Task Result := ⟨false, []⟩

/-- The number of workers at work. -/
def busy (pool : Pool Task Result) : Nat := pool.jobs.countP Job.busy

def step (workers : Nat) (pool : Pool Task Result) : Event Task Result → Option (Pool Task Result)
  | .opened => if pool.live then none else some { pool with live := true }
  | .closed => if pool.live then some ⟨false, pool.jobs.map Job.close⟩ else none
  | .submitted task => some { pool with jobs := pool.jobs ++ [Job.submit pool.live task] }
  | .begun place =>
      match pool.jobs[place]? with
      | some (.queued task) =>
          if pool.busy < workers then
            some { pool with jobs := pool.jobs.set place (.running task true) }
          else none
      | _ => none
  | .ended place result =>
      match pool.jobs[place]? with
      | some (.running task _) =>
          some { pool with jobs := pool.jobs.set place (.ended task result) }
      | _ => none

theorem step_begun {workers place : Nat} {pool : Pool Task Result} {task : Task}
    (queued : pool.jobs[place]? = some (.queued task)) :
    pool.step workers (.begun place) =
      if pool.busy < workers then
        some { pool with jobs := pool.jobs.set place (.running task true) }
      else none := by
  simp only [step, queued]

theorem step_begun_some {workers place : Nat} {pool next : Pool Task Result}
    (taken : pool.step workers (.begun place) = some next) :
    ∃ task, pool.jobs[place]? = some (.queued task) ∧ pool.busy < workers ∧
      next = { pool with jobs := pool.jobs.set place (.running task true) } := by
  unfold step at taken
  dsimp only at taken
  split at taken
  · rename_i task queued
    split at taken <;> cases taken
    rename_i free
    exact ⟨task, queued, free, rfl⟩
  · cases taken

theorem step_ended {workers place : Nat} {pool : Pool Task Result} {task : Task} {owned : Bool}
    (running : pool.jobs[place]? = some (.running task owned)) (result : Result) :
    pool.step workers (.ended place result) =
      some { pool with jobs := pool.jobs.set place (.ended task result) } := by
  simp only [step, running]

theorem step_ended_some {workers place : Nat} {pool next : Pool Task Result} {result : Result}
    (taken : pool.step workers (.ended place result) = some next) :
    ∃ task owned, pool.jobs[place]? = some (.running task owned) ∧
      next = { pool with jobs := pool.jobs.set place (.ended task result) } := by
  unfold step at taken
  dsimp only at taken
  split at taken <;> cases taken
  rename_i task owned running
  exact ⟨task, owned, running, rfl⟩

/-- No more jobs are running than there are workers, and a closed pool has
neither queued jobs nor jobs of its own. -/
structure Sound (workers : Nat) (pool : Pool Task Result) : Prop where
  bounded : pool.busy ≤ workers
  closed : pool.live = false → ∀ job ∈ pool.jobs, job.waiting = false ∧ job.busy = false

theorem sound_shut (workers : Nat) : (shut : Pool Task Result).Sound workers := by
  constructor
  · exact Nat.zero_le workers
  · intro _ job member
    cases member

theorem sound_step {workers : Nat} {pool next : Pool Task Result} {event : Event Task Result}
    (sound : pool.Sound workers) (taken : pool.step workers event = some next) :
    next.Sound workers := by
  cases event with
  | opened =>
      unfold step at taken
      dsimp only at taken
      split at taken <;> cases taken
      exact ⟨sound.bounded, fun closed => by cases closed⟩
  | closed =>
      unfold step at taken
      dsimp only at taken
      split at taken <;> cases taken
      have idle : ∀ job ∈ pool.jobs.map Job.close, job.waiting = false ∧ job.busy = false := by
        intro job member
        obtain ⟨before, _, rfl⟩ := List.mem_map.mp member
        exact ⟨Job.waiting_close before, Job.busy_close before⟩
      constructor
      · have none_busy : (pool.jobs.map Job.close).countP Job.busy = 0 := by
          apply List.countP_eq_zero.mpr
          intro job member
          rw [(idle job member).2]
          exact Bool.false_ne_true
        change (pool.jobs.map Job.close).countP Job.busy ≤ workers
        rw [none_busy]
        exact Nat.zero_le workers
      · intro _
        exact idle
  | submitted task =>
      cases taken
      constructor
      · have same : (pool.jobs ++ [Job.submit pool.live task]).countP Job.busy =
            pool.jobs.countP Job.busy := by
          rw [List.countP_append, List.countP_singleton, Job.busy_submit]
          simp
        change (pool.jobs ++ [Job.submit pool.live task]).countP Job.busy ≤ workers
        rw [same]
        exact sound.bounded
      · intro closed job member
        rcases List.mem_append.mp member with old | new
        · exact sound.closed closed job old
        · rw [List.mem_singleton.mp new]
          have shut : pool.live = false := closed
          rw [shut]
          exact ⟨Job.waiting_refused task, Job.busy_submit false task⟩
  | begun place =>
      obtain ⟨task, queued, free, rfl⟩ := step_begun_some taken
      obtain ⟨inside, here⟩ := List.getElem?_eq_some_iff.mp queued
      constructor
      · change (pool.jobs.set place (.running task true)).countP Job.busy ≤ workers
        rw [List.countP_set inside, here]
        simp only [Job.busy, if_true, Bool.false_eq_true, if_false]
        unfold busy at free
        omega
      · intro shut
        have idle := sound.closed shut _ (List.mem_of_getElem? queued)
        exact absurd idle.1 (by simp [Job.waiting])
  | ended place result =>
      obtain ⟨task, owned, running, rfl⟩ := step_ended_some taken
      obtain ⟨inside, _⟩ := List.getElem?_eq_some_iff.mp running
      have bounded := sound.bounded
      constructor
      · change (pool.jobs.set place (.ended task result)).countP Job.busy ≤ workers
        rw [List.countP_set inside]
        simp only [Job.busy, Bool.false_eq_true, if_false]
        unfold busy at bounded
        omega
      · intro closed job member
        rcases List.mem_or_eq_of_mem_set member with old | new
        · exact sound.closed closed job old
        · rw [new]
          exact ⟨rfl, rfl⟩

end Pool

end RemoteIface.Library.WorkerPool
