import RemoteIface.Library.EventLoop

/-!
A property that every task of a loop has at the await it stands at. An
operation keeps it when the await it moves a task to has it, whatever happens
to the statuses.
-/

namespace RemoteIface.Library.EventLoop.Loop

set_option autoImplicit false

variable {Pc : Type*} {stands : Pc → Prop} {loop : Loop Pc}

def Everywhere (stands : Pc → Prop) (loop : Loop Pc) : Prop :=
  ∀ id task, loop.task id = some task → stands task.pc

theorem everywhere_empty : (empty : Loop Pc).Everywhere stands := by
  intro id task known
  simp [empty, Loop.task] at known

theorem everywhere_create (all : loop.Everywhere stands) {pc : Pc} (new : stands pc) :
    (loop.create pc).Everywhere stands := by
  intro id task known
  rw [task_create] at known
  split at known
  · cases known
    exact new
  · exact all id task known

theorem everywhere_change (id : TaskId) (f : TaskState Pc → TaskState Pc)
    (all : loop.Everywhere stands) (sends : ∀ task, stands task.pc → stands (f task).pc) :
    (loop.change id f).Everywhere stands := by
  intro other task known
  rw [task_change] at known
  split at known
  · obtain ⟨before, there, rfl⟩ := Option.map_eq_some_iff.mp known
    exact sends before (all other before there)
  · exact all other task known

theorem everywhere_wake (all : loop.Everywhere stands) (id : TaskId) (signal : Signal) :
    (loop.wake id signal).Everywhere stands :=
  everywhere_change id (fun task => { task with status := .scheduled signal }) all
    fun _ here => here

theorem everywhere_standAt (all : loop.Everywhere stands) (id : TaskId) {pc : Pc}
    (new : stands pc) : (loop.standAt id pc).Everywhere stands :=
  everywhere_change id _ all fun _ _ => new

theorem everywhere_wakeAll (all : loop.Everywhere stands) (signal : Signal)
    (waiters : List TaskId) : (loop.wakeAll signal waiters).Everywhere stands := by
  induction waiters generalizing loop with
  | nil => exact all
  | cons first rest induction => exact induction (everywhere_wake all first signal)

theorem everywhere_cancel_within (fuel : Nat) (all : loop.Everywhere stands) (id : TaskId) :
    (cancelWithin fuel loop id).Everywhere stands := by
  induction fuel generalizing id with
  | zero => exact all
  | succ fuel induction =>
      unfold cancelWithin
      split
      · exact everywhere_change id _ all fun _ here => here
      · exact everywhere_change id _ all fun _ here => here
      · exact everywhere_wake all id _
      · exact induction _
      · exact all
      · exact all

theorem everywhere_cancel (all : loop.Everywhere stands) (id : TaskId) :
    (loop.cancel id).Everywhere stands :=
  everywhere_cancel_within _ all id

theorem everywhere_fire {next : Loop Pc} {id : TaskId} (all : loop.Everywhere stands)
    (fired : loop.fire id = some next) : next.Everywhere stands := by
  unfold fire at fired
  split at fired <;> cases fired
  exact everywhere_wake all id _

theorem everywhere_suspend (all : loop.Everywhere stands) (id : TaskId) {pc : Pc}
    (new : stands pc) : (loop.suspend id pc).Everywhere stands := by
  have there := everywhere_standAt all id new
  unfold suspend
  split
  · exact everywhere_wake there id _
  · exact everywhere_change id _ there fun _ here => here

theorem everywhere_await (all : loop.Everywhere stands) (id : TaskId) {pc : Pc}
    (new : stands pc) (other : TaskId) : (loop.await id pc other).Everywhere stands := by
  have there := everywhere_standAt all id new
  unfold await
  split
  · exact everywhere_wake there id _
  · have asleep := everywhere_change id (fun task => { task with status := .awaiting other })
      there fun _ here => here
    have waiting := everywhere_change other
      (fun task => { task with waiters := task.waiters ++ [id] }) asleep fun _ here => here
    dsimp only
    split
    · exact everywhere_cancel waiting other
    · exact waiting

theorem everywhere_finish (all : loop.Everywhere stands) (id : TaskId) (result : Signal) :
    (loop.finish id result).Everywhere stands := by
  unfold finish
  split
  · exact all
  · have ended := everywhere_change id
      (fun task => { task with status := .done result, waiters := [] }) all fun _ here => here
    exact everywhere_wakeAll ended _ _

theorem everywhere_take {next : Loop Pc} {place : Nat} {id : TaskId} {pc : Pc} {signal : Signal}
    (all : loop.Everywhere stands) (taken : loop.takeReady place = some (next, id, pc, signal)) :
    stands pc ∧ next.Everywhere stands := by
  obtain ⟨_, _, known, rfl⟩ := take_ready_some taken
  have shorter : Everywhere stands { loop with ready := loop.ready.eraseIdx place } := all
  exact ⟨all _ _ known, everywhere_change _ _ shorter fun _ here => here⟩

end RemoteIface.Library.EventLoop.Loop
