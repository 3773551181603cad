import RemoteIface.Library.Runs
import RemoteIface.Library.TimedCall

/-!
What the history of a timed call says about its answer. The story of a call is
what has happened to it, with the times; in every run the thread has just the
answer that the story gives: how the coroutine ended before the thread woke, or
a timeout when it woke too late and the coroutine had not ended.
-/

namespace RemoteIface.Library.TimedCall

set_option autoImplicit false

open RemoteIface.Library.Runs

abbrev Story (Value : Type) := List (Time × Op Value)

variable {Value : Type}

def Call.stepAt (timeout slack : Time) (call : Call Value) (moment : Time × Op Value) :
    Option (Call Value) :=
  call.step timeout slack moment.1 moment.2

def Begun (story : Story Value) : Prop := ∃ time, (time, .begun) ∈ story

def Unended (story : Story Value) : Prop := ∀ time ending, (time, .ended ending) ∉ story

def Fired (timeout : Time) (story : Story Value) : Prop :=
  ∃ begun fired, (begun, .begun) ∈ story ∧ (fired, .fired) ∈ story ∧ begun + timeout ≤ fired

/-- What the future holds when the coroutine leaves after this story. One that
was given no time had been discarded. -/
def Verdict (timeout : Time) (story : Story Value) (ending : Ending Value)
    (settled : Except Thrown Value) : Prop :=
  if timeout ≤ 0 then settled = .error .timedOut
  else ∃ expired, (expired = true ↔ Fired timeout story) ∧ settled = settle expired ending

def Settled (timeout : Time) (story : Story Value) (settled : Except Thrown Value) : Prop :=
  ∃ before time ending after, story = before ++ (time, .ended ending) :: after ∧
    Verdict timeout before ending settled

inductive Wakes (timeout slack : Time) (story : Story Value) (time : Time) :
    Except Thrown Value → Prop where
  | relayed (settled : Except Thrown Value) (done : Settled timeout story settled) :
      Wakes timeout slack story time (relay settled)
  | gaveUp (waited : Time) (waits : (waited, .waits) ∈ story) (unended : Unended story)
      (due : waited + timeout + slack ≤ time) :
      Wakes timeout slack story time (.error .timedOut)

def Learns (timeout slack : Time) (story : Story Value) (result : Except Thrown Value) : Prop :=
  ∃ before time after, story = before ++ (time, .woke) :: after ∧
    Wakes timeout slack before time result

section Snoc

variable {timeout slack : Time} {story : Story Value} {moment : Time × Op Value}
  {settled result : Except Thrown Value}

theorem settled_snoc :
    Settled timeout (story ++ [moment]) settled ↔ Settled timeout story settled ∨
      ∃ time ending, moment = (time, .ended ending) ∧ Verdict timeout story ending settled := by
  constructor
  · rintro ⟨before, time, ending, after, split, verdict⟩
    rcases snoc_split.mp split with ⟨_, same, rfl⟩ | ⟨middle, _, earlier⟩
    · exact .inr ⟨time, ending, same, verdict⟩
    · exact .inl ⟨before, time, ending, middle, earlier, verdict⟩
  · rintro (⟨before, time, ending, after, rfl, verdict⟩ | ⟨time, ending, rfl, verdict⟩)
    · exact ⟨before, time, ending, after ++ [moment], by simp, verdict⟩
    · exact ⟨story, time, ending, [], rfl, verdict⟩

theorem learns_snoc :
    Learns timeout slack (story ++ [moment]) result ↔ Learns timeout slack story result ∨
      ∃ time, moment = (time, .woke) ∧ Wakes timeout slack story time result := by
  constructor
  · rintro ⟨before, time, after, split, wakes⟩
    rcases snoc_split.mp split with ⟨_, same, rfl⟩ | ⟨middle, _, earlier⟩
    · exact .inr ⟨time, same, wakes⟩
    · exact .inl ⟨before, time, middle, earlier, wakes⟩
  · rintro (⟨before, time, after, rfl, wakes⟩ | ⟨time, rfl, wakes⟩)
    · exact ⟨before, time, after ++ [moment], by simp, wakes⟩
    · exact ⟨story, time, [], rfl, wakes⟩

theorem settled_of_ended {time : Time} {ending : Ending Value}
    (ended : (time, .ended ending) ∈ story) : ∃ settled, Settled timeout story settled := by
  obtain ⟨before, after, split⟩ := List.append_of_mem ended
  have judged : ∃ settled, Verdict timeout before ending settled := by
    unfold Verdict
    by_cases short : timeout ≤ 0
    · exact ⟨_, by rw [if_pos short]⟩
    · by_cases fired : Fired timeout before
      · exact ⟨_, by rw [if_neg short]; exact ⟨true, by simp [fired], rfl⟩⟩
      · exact ⟨_, by rw [if_neg short]; exact ⟨false, by simp [fired], rfl⟩⟩
  obtain ⟨settled, verdict⟩ := judged
  exact ⟨settled, before, time, ending, after, split, verdict⟩

theorem not_unended (done : Settled timeout story settled) : ¬ Unended story := by
  obtain ⟨before, time, ending, after, rfl, _⟩ := done
  exact fun unended => unended time ending (by simp)

theorem Settled.returned {value : Value} (done : Settled timeout story (.ok value)) :
    0 < timeout ∧ ∃ time, (time, .ended (.returned value)) ∈ story := by
  obtain ⟨before, time, ending, after, rfl, verdict⟩ := done
  unfold Verdict at verdict
  split at verdict
  · cases verdict
  · rename_i long
    obtain ⟨expired, _, settles⟩ := verdict
    refine ⟨not_le.mp long, time, ?_⟩
    cases ending with
    | returned returned =>
        cases settles
        simp
    | raised thrown => cases settles
    | cancelled => cases settles

theorem Learns.value_settled {value : Value} (learns : Learns timeout slack story (.ok value)) :
    Settled timeout story (.ok value) := by
  obtain ⟨before, time, after, rfl, wakes⟩ := learns
  generalize relayed : (Except.ok value : Except Thrown Value) = result at wakes
  cases wakes with
  | relayed settled done =>
      cases settled with
      | error thrown => cases relayed
      | ok given =>
          cases relayed
          obtain ⟨first, when_ended, ending, rest, rfl, verdict⟩ := done
          exact ⟨first, when_ended, ending, rest ++ (time, .woke) :: after, by simp, verdict⟩
  | gaveUp waited waits unended due => cases relayed

end Snoc

structure Told (timeout slack : Time) (story : Story Value) (call : Call Value) : Prop where
  begun : call.unbegun = false ↔ Begun story
  unfired : call.unbegun = true → ∀ time, (time, .fired) ∉ story
  entered : ∀ deadline expired, call.coroutine = .entered deadline expired → 0 < timeout ∧
    (∃ begun, (begun, .begun) ∈ story ∧ deadline = begun + timeout) ∧
    (expired.isSome = true ↔ Fired timeout story)
  discarded : ∀ since, call.coroutine = .discarded since → timeout ≤ 0
  resolved : ∀ settled, call.coroutine = .resolved settled ↔ Settled timeout story settled
  waiting : ∀ deadline, call.caller = .waiting deadline →
    ∃ waited, (waited, .waits) ∈ story ∧ deadline = waited + timeout + slack
  answered : ∀ result, call.caller = .answered result ↔ Learns timeout slack story result

section Step

variable {timeout slack now : Time} {story : Story Value} {call next : Call Value} {op : Op Value}

theorem told_submit (timeout slack now : Time) : Told timeout slack [] (Call.submit now : Call Value) := by
  constructor
  · simp [Call.unbegun, Call.submit, Begun]
  · simp
  · intro deadline expired inside
    cases inside
  · intro since outside
    cases outside
  · simp [Call.submit, Settled]
  · intro deadline waiting
    cases waiting
  · simp [Call.submit, Learns]

theorem Told.unended (told : Told timeout slack story call)
    (open_still : ∀ settled, call.coroutine ≠ .resolved settled) : Unended story := by
  intro time ending ended
  obtain ⟨settled, done⟩ := settled_of_ended ended
  exact open_still settled ((told.resolved settled).mpr done)

theorem begun_snoc : Begun (story ++ [(now, op)]) ↔ Begun story ∨ Call.Op.isBegun op = true := by
  cases op <;> simp [Begun, Call.Op.isBegun]

theorem begun_told (told : Told timeout slack story call)
    (taken : call.step timeout slack now op = some next) :
    next.unbegun = false ↔ Begun (story ++ [(now, op)]) := by
  rw [begun_snoc, ← told.begun]
  have moved := Call.unbegun_step taken
  split at moved
  · rename_i begins
    simp [moved.2, begins]
  · rename_i other
    simp [moved, other]

theorem fired_snoc (unbegun : op ≠ .begun) (unfired : op ≠ .fired) :
    Fired timeout (story ++ [(now, op)]) ↔ Fired timeout story := by
  simp [Fired, unbegun.symm, unfired.symm]

/-- A step keeps the part of the story that is about the loop, if it leaves the
coroutine where it is. -/
theorem entered_told (told : Told timeout slack story call)
    (taken : call.step timeout slack now op = some next) (deadline : Time) (expired : Option Time)
    (inside : next.coroutine = .entered deadline expired) :
    0 < timeout ∧ (∃ begun, (begun, .begun) ∈ story ++ [(now, op)] ∧ deadline = begun + timeout) ∧
      (expired.isSome = true ↔ Fired timeout (story ++ [(now, op)])) := by
  have kept : call.coroutine = .entered deadline expired → op ≠ .begun → op ≠ .fired →
      0 < timeout ∧
        (∃ begun, (begun, .begun) ∈ story ++ [(now, op)] ∧ deadline = begun + timeout) ∧
        (expired.isSome = true ↔ Fired timeout (story ++ [(now, op)])) := by
    intro same unbegun unfired
    obtain ⟨long, ⟨begun, member, due⟩, fires⟩ := told.entered deadline expired same
    refine ⟨long, ⟨begun, List.mem_append_left _ member, due⟩, ?_⟩
    rw [fired_snoc unbegun unfired]
    exact fires
  cases Call.step_move taken with
  | discarded scheduled short => cases inside
  | entered scheduled long =>
      cases inside
      refine ⟨long, ⟨now, by simp, rfl⟩, ?_⟩
      have quiet := told.unfired (by simp [Call.unbegun, scheduled])
      simp [Fired, quiet]
  | fired before atStart due =>
      cases inside
      obtain ⟨long, ⟨begun, member, rfl⟩, _⟩ := told.entered deadline none atStart
      refine ⟨long, ⟨begun, List.mem_append_left _ member, rfl⟩, ?_⟩
      exact iff_of_true rfl ⟨begun, now, List.mem_append_left _ member, by simp, due⟩
  | ended ending before expiredBefore atStart => cases inside
  | dropped ending since outside => cases inside
  | waits submitting => exact kept inside (by simp) (by simp)
  | answered before result waiting resolved => exact kept inside (by simp) (by simp)
  | gaveUp before waiting open_still due => exact kept inside (by simp) (by simp)

theorem resolved_told (told : Told timeout slack story call)
    (taken : call.step timeout slack now op = some next) (settled : Except Thrown Value) :
    next.coroutine = .resolved settled ↔ Settled timeout (story ++ [(now, op)]) settled := by
  have kept : next.coroutine = call.coroutine → (∀ ending, op ≠ .ended ending) →
      (next.coroutine = .resolved settled ↔ Settled timeout (story ++ [(now, op)]) settled) := by
    intro same unended
    rw [same, told.resolved, settled_snoc]
    simp [unended]
  have opened : (∀ other, call.coroutine ≠ .resolved other) →
      (∀ other, next.coroutine ≠ .resolved other) → (∀ ending, op ≠ .ended ending) →
      (next.coroutine = .resolved settled ↔ Settled timeout (story ++ [(now, op)]) settled) := by
    intro before after unended
    rw [settled_snoc, ← told.resolved]
    simp [before, after, unended]
  cases Call.step_move taken with
  | discarded scheduled short => exact opened (by simp [scheduled]) (by simp) (by simp)
  | entered scheduled long => exact opened (by simp [scheduled]) (by simp) (by simp)
  | fired deadline inside due => exact opened (by simp [inside]) (by simp) (by simp)
  | ended ending deadline expired inside =>
      obtain ⟨long, _, fires⟩ := told.entered deadline expired inside
      rw [settled_snoc, ← told.resolved, inside]
      simp only [Coroutine.resolved.injEq, reduceCtorEq, false_or, Prod.mk.injEq, Op.ended.injEq,
        Verdict, if_neg (not_le.mpr long)]
      constructor
      · rintro rfl
        exact ⟨now, ending, ⟨rfl, rfl⟩, expired.isSome, fires, rfl⟩
      · rintro ⟨_, _, ⟨rfl, rfl⟩, flag, flagged, rfl⟩
        rw [Bool.eq_iff_iff.mpr (fires.trans flagged.symm)]
  | dropped ending since outside =>
      have short := told.discarded since outside
      rw [settled_snoc, ← told.resolved, outside]
      simp [Verdict, short, eq_comm]
  | waits submitting => exact kept rfl (by simp)
  | answered deadline result waiting resolved => exact kept rfl (by simp)
  | gaveUp deadline waiting open_still due => exact kept rfl (by simp)

theorem answered_told (told : Told timeout slack story call)
    (taken : call.step timeout slack now op = some next) (result : Except Thrown Value) :
    next.caller = .answered result ↔ Learns timeout slack (story ++ [(now, op)]) result := by
  have kept : next.caller = call.caller → op ≠ .woke →
      (next.caller = .answered result ↔ Learns timeout slack (story ++ [(now, op)]) result) := by
    intro same awake
    rw [same, told.answered, learns_snoc]
    simp [awake]
  have woken : (∀ other, call.caller ≠ .answered other) →
      (next.caller = .answered result ↔ Wakes timeout slack story now result) → op = .woke →
      (next.caller = .answered result ↔ Learns timeout slack (story ++ [(now, op)]) result) := by
    intro silent wakes woke
    rw [learns_snoc, ← told.answered, wakes]
    simp [silent, woke]
  cases Call.step_move taken with
  | discarded scheduled short => exact kept rfl (by simp)
  | entered scheduled long => exact kept rfl (by simp)
  | fired deadline inside due => exact kept rfl (by simp)
  | ended ending deadline expired inside => exact kept rfl (by simp)
  | dropped ending since outside => exact kept rfl (by simp)
  | waits submitting =>
      rw [learns_snoc, ← told.answered, submitting]
      simp
  | answered deadline settled waiting resolved =>
      have done := (told.resolved settled).mp resolved
      refine woken (by simp [waiting]) ?_ rfl
      simp only [Caller.answered.injEq]
      constructor
      · rintro rfl
        exact .relayed settled done
      · rintro (⟨other, done_too⟩ | ⟨_, _, unended, _⟩)
        · have same := (told.resolved other).mpr done_too
          rw [resolved, Coroutine.resolved.injEq] at same
          rw [same]
        · exact absurd unended (not_unended done)
  | gaveUp deadline waiting open_still due =>
      obtain ⟨waited, waits, rfl⟩ := told.waiting deadline waiting
      refine woken (by simp [waiting]) ?_ rfl
      simp only [Caller.answered.injEq]
      constructor
      · rintro rfl
        exact .gaveUp waited waits (told.unended open_still) due
      · rintro (⟨other, done⟩ | _)
        · exact absurd ((told.resolved other).mpr done) (open_still other)
        · rfl

theorem told_step (told : Told timeout slack story call)
    (taken : call.step timeout slack now op = some next) :
    Told timeout slack (story ++ [(now, op)]) next where
  begun := begun_told told taken
  unfired := by
    intro unbegun time member
    have before : call.unbegun = true := by
      have moved := Call.unbegun_step taken
      split at moved
      · exact moved.1
      · rw [← moved]
        exact unbegun
    rcases List.mem_append.mp member with old | new
    · exact told.unfired before time old
    · cases List.mem_singleton.mp new
      cases Call.step_move taken with
      | fired deadline inside due => simp [Call.unbegun, inside] at before
  entered := entered_told told taken
  discarded := by
    intro since outside
    cases Call.step_move taken with
    | discarded scheduled short => exact short
    | entered scheduled long => cases outside
    | fired deadline inside due => cases outside
    | ended ending deadline expired inside => cases outside
    | dropped ending earlier before => cases outside
    | waits submitting => exact told.discarded since outside
    | answered deadline result waiting resolved => exact told.discarded since outside
    | gaveUp deadline waiting open_still due => exact told.discarded since outside
  resolved := resolved_told told taken
  waiting := by
    intro deadline waiting
    have kept : next.caller = call.caller →
        ∃ waited, (waited, .waits) ∈ story ++ [(now, op)] ∧
          deadline = waited + timeout + slack := by
      intro same
      obtain ⟨waited, member, due⟩ := told.waiting deadline (same ▸ waiting)
      exact ⟨waited, List.mem_append_left _ member, due⟩
    cases Call.step_move taken with
    | waits submitting =>
        cases waiting
        exact ⟨now, by simp, rfl⟩
    | answered before result stood resolved => cases waiting
    | gaveUp before stood open_still due => cases waiting
    | _ => exact kept rfl
  answered := answered_told told taken

end Step

theorem told_run {timeout slack submitted : Time} {story : Story Value} {call : Call Value}
    (reached : run (Call.stepAt timeout slack) (Call.submit submitted) story = some call) :
    Told timeout slack story call :=
  run_history (Call.stepAt timeout slack) (told_submit timeout slack submitted)
    (fun _ _ _ _ _ told taken => told_step told taken) reached

end RemoteIface.Library.TimedCall
