import Mathlib.Data.List.Induction
import RemoteIface.Commlib.Subscriptions

/-!
The subscriber table of a `NodeContext` after any calls: every filter lists its
started subscribers, once each, by the call that last started them, and a call
on one subscriber touches the list of its own filter only.
-/

namespace RemoteIface.Commlib.SubscriberTable

set_option autoImplicit false

open RemoteIface.Library.InsertionOrder
open RemoteIface.Commlib.Endpoints
open RemoteIface.Commlib.Subscriptions

variable {Obj : Type}

/-- The registry of a new context after the calls. -/
def registryAfter (calls : List (RegistryCall Obj)) : Registry Obj :=
  Registry.empty.performAll calls

/-- The filters of the subscribers that the calls have created, by number. -/
def filtersMade (calls : List (RegistryCall Obj)) : List String :=
  calls.flatMap madeFilter

/-- The call runs `start()` on the subscriber; `create_subscriber` does so on the
one it makes. -/
def Starts (made : List String) (id : SubscriberId) : RegistryCall Obj → Prop
  | .createSubscriber _ _ _ => id = made.length
  | .startSubscriber other => id = other ∧ id < made.length
  | _ => False

def Stops (id : SubscriberId) : RegistryCall Obj → Prop
  | .stopSubscriber other => id = other
  | _ => False

def StartAt (calls : List (RegistryCall Obj)) (id : SubscriberId) (place : Nat) : Prop :=
  ∃ call, calls[place]? = some call ∧ Starts (filtersMade (calls.take place)) id call

def StopAt (calls : List (RegistryCall Obj)) (id : SubscriberId) (place : Nat) : Prop :=
  ∃ call, calls[place]? = some call ∧ Stops id call

/-- The subscriber is started, and last became so by the call at the place: a
`start()` with no `stop()` after it, before which every earlier `start()` was
undone. A repeated `start()` is none of these. -/
structure LastStart (calls : List (RegistryCall Obj)) (id : SubscriberId) (place : Nat) : Prop where
  call : StartAt calls id place
  kept : ∀ later, place < later → ¬ StopAt calls id later
  undone : ∀ earlier, earlier < place → StartAt calls id earlier →
    ∃ between, earlier < between ∧ between < place ∧ StopAt calls id between

def StartedBefore (calls : List (RegistryCall Obj)) (one two : SubscriberId) : Prop :=
  ∃ first second, LastStart calls one first ∧ LastStart calls two second ∧ first < second

/-- The list holds the started subscribers of the filter by their last starts. -/
structure ListsStarted (calls : List (RegistryCall Obj)) (filter : String)
    (callbacks : List SubscriberId) : Prop where
  started : ∀ id, id ∈ callbacks ↔
    (filtersMade calls)[id]? = some filter ∧ ∃ place, LastStart calls id place
  once : callbacks.Nodup
  ordered : callbacks.Pairwise (StartedBefore calls)

/-- The filter of the subscriber that the call creates, starts or stops. -/
def filterOf (made : List String) : RegistryCall Obj → Option String
  | .createSubscriber topic _ _ => some topic
  | .startSubscriber id => made[id]?
  | .stopSubscriber id => made[id]?
  | _ => none

theorem start_elsewhere {registry : Registry Obj} {id : SubscriberId} {filter : String}
    (elsewhere : (registry.subscribers[id]?).map Subscriber.topic ≠ some filter) :
    (registry.startSubscriber id).callbacksOn filter = registry.callbacksOn filter := by
  rcases Registry.start_subscriber_cases registry id with same | ⟨subscriber, stored, same⟩
  · rw [same]
  · rw [stored, Option.map_some, ne_eq, Option.some.injEq] at elsewhere
    rw [same]
    simp only [Registry.callbacksOn, OrderedDict.get_set_other _ _ (Ne.symm elsewhere)]

theorem stop_elsewhere {registry : Registry Obj} {id : SubscriberId} {filter : String}
    (elsewhere : (registry.subscribers[id]?).map Subscriber.topic ≠ some filter) :
    (registry.stopSubscriber id).callbacksOn filter = registry.callbacksOn filter := by
  unfold Registry.stopSubscriber
  cases stored : registry.subscribers[id]? with
  | none => rfl
  | some subscriber =>
      rw [stored, Option.map_some, ne_eq, Option.some.injEq] at elsewhere
      cases running : subscriber.started with
      | false => simp [running]
      | true =>
          cases listed : registry.subCallbacks.get? subscriber.topic with
          | none => simp [running, listed, Registry.callbacksOn]
          | some callbacks =>
              have other := OrderedDict.get_set_other registry.subCallbacks (callbacks.erase id)
                (Ne.symm elsewhere)
              simp [running, listed, Registry.callbacksOn, other]

theorem perform_elsewhere {registry : Registry Obj} {call : RegistryCall Obj} {filter : String}
    (elsewhere : filterOf (registry.subscribers.map Subscriber.topic) call ≠ some filter) :
    (registry.perform call).callbacksOn filter = registry.callbacksOn filter := by
  cases call with
  | createSubscriber topic onMessage msgType =>
      refine (start_elsewhere ?_).trans rfl
      simpa [filterOf] using elsewhere
  | startSubscriber id =>
      refine start_elsewhere ?_
      simpa [filterOf] using elsewhere
  | stopSubscriber id =>
      refine stop_elsewhere ?_
      simpa [filterOf] using elsewhere
  | setCallback id fn => rfl
  | createPublisher topic => rfl
  | startPublisher id => rfl
  | stopPublisher id => rfl
  | createRpc rpcName msgType onRequest => simp [Registry.perform, Registry.callbacksOn]
  | startRpc id => simp [Registry.perform, Registry.callbacksOn]
  | stopRpc id => simp [Registry.perform, Registry.callbacksOn]

section Places

variable {calls : List (RegistryCall Obj)} {call : RegistryCall Obj} {id : SubscriberId}
  {place : Nat}

theorem start_at_lt (start : StartAt calls id place) : place < calls.length := by
  obtain ⟨call, stored, _⟩ := start
  exact (List.getElem?_eq_some_iff.mp stored).1

theorem stop_at_lt (stop : StopAt calls id place) : place < calls.length := by
  obtain ⟨call, stored, _⟩ := stop
  exact (List.getElem?_eq_some_iff.mp stored).1

theorem start_not_stop (start : StartAt calls id place) : ¬ StopAt calls id place := by
  rintro ⟨stop, stored, stops⟩
  obtain ⟨call, found, starts⟩ := start
  rw [stored, Option.some.injEq] at found
  subst found
  cases stop <;> simp only [Starts, Stops] at starts stops

theorem start_at_snoc_old (inside : place < calls.length) :
    StartAt (calls ++ [call]) id place ↔ StartAt calls id place := by
  unfold StartAt
  rw [List.getElem?_append_left inside, List.take_append_of_le_length (Nat.le_of_lt inside)]

theorem start_at_snoc_new :
    StartAt (calls ++ [call]) id calls.length ↔ Starts (filtersMade calls) id call := by
  simp [StartAt]

theorem stop_at_snoc_old (inside : place < calls.length) :
    StopAt (calls ++ [call]) id place ↔ StopAt calls id place := by
  unfold StopAt
  rw [List.getElem?_append_left inside]

theorem stop_at_snoc_new : StopAt (calls ++ [call]) id calls.length ↔ Stops id call := by
  simp [StopAt]

/-- A start that no stop follows leaves the subscriber started, since the first
such start or the one before it that none undid. -/
theorem last_start_exists (start : StartAt calls id place)
    (kept : ∀ later, place < later → ¬ StopAt calls id later) :
    ∃ last, LastStart calls id last := by
  induction place using Nat.strongRecOn with
  | ind place induction =>
      by_cases undone : ∀ earlier, earlier < place → StartAt calls id earlier →
          ∃ between, earlier < between ∧ between < place ∧ StopAt calls id between
      · exact ⟨place, start, kept, undone⟩
      · push Not at undone
        obtain ⟨earlier, before, startEarlier, standing⟩ := undone
        refine induction earlier before startEarlier fun later after stop => ?_
        rcases Nat.lt_trichotomy later place with inside | same | outside
        · exact standing later after inside stop
        · exact start_not_stop start (same ▸ stop)
        · exact kept later outside stop

theorem LastStart.snoc (last : LastStart calls id place) (unstopped : ¬ Stops id call) :
    LastStart (calls ++ [call]) id place := by
  have inside := start_at_lt last.call
  constructor
  · exact (start_at_snoc_old inside).mpr last.call
  · intro later after stop
    have bound := stop_at_lt stop
    rw [List.length_append, List.length_singleton] at bound
    rcases Nat.lt_or_eq_of_le (Nat.le_of_lt_succ bound) with old | new
    · exact last.kept later after ((stop_at_snoc_old old).mp stop)
    · exact unstopped (stop_at_snoc_new.mp (new ▸ stop))
  · intro earlier before start
    obtain ⟨between, after, within, stop⟩ :=
      last.undone earlier before ((start_at_snoc_old (Nat.lt_trans before inside)).mp start)
    exact ⟨between, after, within, (stop_at_snoc_old (Nat.lt_trans within inside)).mpr stop⟩

theorem last_start_now (stopped : ¬ ∃ last, LastStart calls id last)
    (starts : Starts (filtersMade calls) id call) :
    LastStart (calls ++ [call]) id calls.length := by
  constructor
  · exact start_at_snoc_new.mpr starts
  · intro later after stop
    have bound := stop_at_lt stop
    rw [List.length_append, List.length_singleton] at bound
    omega
  · intro earlier before start
    by_contra standing
    push Not at standing
    refine stopped (last_start_exists ((start_at_snoc_old before).mp start) ?_)
    intro later after stop
    have bound := stop_at_lt stop
    exact standing later after bound ((stop_at_snoc_old bound).mpr stop)

/-- After one more call a subscriber is started if the call starts it, or if it
was started before and the call does not stop it. -/
theorem last_start_snoc_iff :
    (∃ last, LastStart (calls ++ [call]) id last) ↔
      Starts (filtersMade calls) id call ∨ (∃ last, LastStart calls id last) ∧ ¬ Stops id call := by
  constructor
  · rintro ⟨place, last⟩
    have bound := start_at_lt last.call
    rw [List.length_append, List.length_singleton] at bound
    rcases Nat.lt_or_eq_of_le (Nat.le_of_lt_succ bound) with old | new
    · refine .inr ⟨?_, fun stops => last.kept _ old (stop_at_snoc_new.mpr stops)⟩
      refine last_start_exists ((start_at_snoc_old old).mp last.call) fun later after stop => ?_
      exact last.kept later after ((stop_at_snoc_old (stop_at_lt stop)).mpr stop)
    · exact .inl (start_at_snoc_new.mp (new ▸ last.call))
  · rintro (starts | ⟨⟨place, last⟩, unstopped⟩)
    · by_cases standing : ∃ last, LastStart calls id last
      · obtain ⟨place, last⟩ := standing
        refine ⟨place, last.snoc fun stops => ?_⟩
        exact start_not_stop (start_at_snoc_new.mpr starts) (stop_at_snoc_new.mpr stops)
      · exact ⟨calls.length, last_start_now standing starts⟩
    · exact ⟨place, last.snoc unstopped⟩

end Places

structure Recorded (calls : List (RegistryCall Obj)) (log : StartLog) : Prop where
  filters : log.filters = filtersMade calls
  bounded : ∀ id ∈ log.live, id < log.filters.length
  distinct : log.live.Nodup
  started : ∀ id, id ∈ log.live ↔ ∃ place, LastStart calls id place
  ordered : log.live.Pairwise (StartedBefore calls)

namespace Recorded

variable {calls : List (RegistryCall Obj)} {log : StartLog}

theorem empty : Recorded ([] : List (RegistryCall Obj)) StartLog.empty where
  filters := rfl
  bounded := by simp [StartLog.empty]
  distinct := List.nodup_nil
  started := by
    intro id
    constructor
    · intro member
      cases member
    · rintro ⟨place, last⟩
      exact absurd (start_at_lt last.call) (Nat.not_lt_zero place)
  ordered := List.Pairwise.nil

theorem ordered_snoc {live : List SubscriberId} {call : RegistryCall Obj}
    (ordered : live.Pairwise (StartedBefore calls)) (unstopped : ∀ id ∈ live, ¬ Stops id call) :
    live.Pairwise (StartedBefore (calls ++ [call])) := by
  refine ordered.imp_of_mem fun one two older => ?_
  obtain ⟨first, second, lastFirst, lastSecond, order⟩ := older
  exact ⟨first, second, lastFirst.snoc (unstopped _ one), lastSecond.snoc (unstopped _ two), order⟩

/-- The call starts nothing that was stopped and stops nothing that was started. -/
theorem kept (recorded : Recorded calls log) {call : RegistryCall Obj} {filters : List String}
    (made : filters = log.filters ++ madeFilter call)
    (starts : ∀ id, Starts (filtersMade calls) id call → id ∈ log.live)
    (unstopped : ∀ id ∈ log.live, ¬ Stops id call) :
    Recorded (calls ++ [call]) { filters := filters, live := log.live } where
  filters := by simp [made, recorded.filters, filtersMade]
  bounded := by
    intro id member
    have inside := recorded.bounded id member
    dsimp only
    rw [made, List.length_append]
    exact Nat.lt_add_right _ inside
  distinct := recorded.distinct
  started := by
    intro id
    rw [last_start_snoc_iff, ← recorded.started id]
    constructor
    · exact fun member => .inr ⟨member, unstopped id member⟩
    · rintro (now | ⟨member, _⟩)
      · exact starts id now
      · exact member
  ordered := ordered_snoc recorded.ordered unstopped

theorem appended (recorded : Recorded calls log) {call : RegistryCall Obj} {filters : List String}
    {id : SubscriberId} (made : filters = log.filters ++ madeFilter call)
    (inside : id < filters.length) (stopped : id ∉ log.live)
    (starts : ∀ other, Starts (filtersMade calls) other call ↔ other = id)
    (unstopped : ∀ other, ¬ Stops other call) :
    Recorded (calls ++ [call]) { filters := filters, live := log.live ++ [id] } where
  filters := by simp [made, recorded.filters, filtersMade]
  bounded := by
    intro other member
    rcases List.mem_append.mp member with old | new
    · have within := recorded.bounded other old
      dsimp only
      rw [made, List.length_append]
      exact Nat.lt_add_right _ within
    · rw [List.mem_singleton.mp new]
      exact inside
  distinct := by
    refine recorded.distinct.append (List.nodup_singleton id) ?_
    intro other old new
    exact stopped (List.mem_singleton.mp new ▸ old)
  started := by
    intro other
    rw [last_start_snoc_iff, ← recorded.started other, starts other, List.mem_append,
      List.mem_singleton]
    constructor
    · rintro (old | new)
      · exact .inr ⟨old, unstopped other⟩
      · exact .inl new
    · rintro (new | ⟨old, _⟩)
      · exact .inr new
      · exact .inl old
  ordered := by
    have older := ordered_snoc recorded.ordered fun other _ => unstopped other
    refine List.pairwise_append.mpr ⟨older, List.pairwise_singleton _ _, ?_⟩
    intro other member last same
    rw [List.mem_singleton.mp same]
    obtain ⟨place, otherStart⟩ := (recorded.started other).mp member
    have now := last_start_now (fun started => stopped ((recorded.started id).mpr started))
      ((starts id).mpr rfl)
    exact ⟨place, calls.length, otherStart.snoc (unstopped other), now,
      start_at_lt otherStart.call⟩

theorem erased (recorded : Recorded calls log) {call : RegistryCall Obj} {id : SubscriberId}
    (made : madeFilter call = []) (starts : ∀ other, ¬ Starts (filtersMade calls) other call)
    (stops : ∀ other, Stops other call ↔ other = id) :
    Recorded (calls ++ [call]) { log with live := log.live.erase id } where
  filters := by simp [recorded.filters, filtersMade, made]
  bounded := fun other member => recorded.bounded other (List.mem_of_mem_erase member)
  distinct := recorded.distinct.erase id
  started := by
    intro other
    rw [last_start_snoc_iff, ← recorded.started other, recorded.distinct.mem_erase_iff, stops other]
    constructor
    · exact fun ⟨different, member⟩ => .inr ⟨member, different⟩
    · rintro (now | ⟨member, different⟩)
      · exact absurd now (starts other)
      · exact ⟨different, member⟩
  ordered := by
    refine ordered_snoc (recorded.ordered.sublist List.erase_sublist) fun other member => ?_
    rw [stops other]
    exact (recorded.distinct.mem_erase_iff.mp member).1

theorem perform (recorded : Recorded calls log) (call : RegistryCall Obj) :
    Recorded (calls ++ [call]) (log.perform call) := by
  have unstarted : (∀ id, ¬ Starts (filtersMade calls) id call) → (∀ id, ¬ Stops id call) →
      madeFilter call = [] → Recorded (calls ++ [call]) log := by
    intro starts stops made
    exact recorded.kept (by rw [made, List.append_nil]) (fun id now => absurd now (starts id))
      fun id _ => stops id
  cases call with
  | createSubscriber topic onMessage msgType =>
      have stopped : log.filters.length ∉ log.live :=
        fun member => Nat.lt_irrefl _ (recorded.bounded _ member)
      have fresh : Recorded (calls ++ [.createSubscriber topic onMessage msgType])
          ⟨log.filters ++ [topic], log.live ++ [log.filters.length]⟩ :=
        recorded.appended rfl (by simp) stopped (by simp [Starts, recorded.filters])
          (by simp [Stops])
      simpa [StartLog.perform, StartLog.create, StartLog.start, madeFilter, stopped] using fresh
  | startSubscriber id =>
      unfold StartLog.perform StartLog.start
      dsimp only
      split
      · rename_i stopped
        refine recorded.appended (by simp [madeFilter]) stopped.1 stopped.2 ?_ (by simp [Stops])
        intro other
        constructor
        · exact fun now => now.1
        · rintro rfl
          exact ⟨rfl, recorded.filters ▸ stopped.1⟩
      · rename_i running
        refine recorded.kept (by simp [madeFilter]) ?_ (by simp [Stops])
        rintro other ⟨rfl, inside⟩
        by_contra stopped
        exact running ⟨recorded.filters.symm ▸ inside, stopped⟩
  | stopSubscriber id => exact recorded.erased rfl (by simp [Starts]) fun other => .rfl
  | _ => exact unstarted (by simp [Starts]) (by simp [Stops]) rfl

end Recorded

theorem recorded_all (calls : List (RegistryCall Obj)) :
    Recorded calls (StartLog.empty.performAll calls) := by
  induction calls using List.reverseRecOn with
  | nil => exact Recorded.empty
  | append_singleton calls call induction =>
      have step : StartLog.empty.performAll (calls ++ [call]) =
          (StartLog.empty.performAll calls).perform call := by simp [StartLog.performAll]
      rw [step]
      exact induction.perform call

/-- Every filter lists exactly the subscribers on it whose `start()` no `stop()`
has undone, in the order of their last starts, and a call changes the list of
no filter but its own. -/
theorem table_lists_started (calls : List (RegistryCall Obj)) :
    (∀ filter, ListsStarted calls filter ((registryAfter calls).callbacksOn filter)) ∧
      ∀ call filter, filterOf (filtersMade calls) call ≠ some filter →
        ((registryAfter calls).perform call).callbacksOn filter =
          (registryAfter calls).callbacksOn filter := by
  have tracks : Tracks (StartLog.empty.performAll calls) (registryAfter calls) :=
    perform_all_tracks calls
  have recorded := recorded_all calls
  refine ⟨fun filter => ?_, fun call filter elsewhere => perform_elsewhere ?_⟩
  · rw [tracks.lists]
    constructor
    · intro id
      rw [StartLog.startedOn, List.mem_filter, decide_eq_true_eq, recorded.started, recorded.filters,
        and_comm]
    · exact tracks.distinct.filter _
    · exact recorded.ordered.filter _
  · rw [tracks.filters, recorded.filters]
    exact elsewhere

/-- Two subscribers on one filter and one on another; the first is started
again, while it runs and after a stop. -/
def restartedCalls : List (RegistryCall Unit) :=
  [.createSubscriber "external/+" 0 none, .createSubscriber "external/+" 1 none,
    .createSubscriber "bot/hb" 2 none, .startSubscriber 0, .stopSubscriber 0, .startSubscriber 0,
    .setCallback 1 7, .startSubscriber 1]

theorem restarted_subscriber_last :
    (registryAfter restartedCalls).callbacksOn "external/+" = [1, 0] ∧
      ListsStarted restartedCalls "external/+" [1, 0] ∧
      ((registryAfter restartedCalls).perform (.stopSubscriber 2)).callbacksOn "external/+" =
        [1, 0] := by
  have listed := table_lists_started restartedCalls
  have elsewhere : filterOf (filtersMade restartedCalls)
      (.stopSubscriber 2 : RegistryCall Unit) ≠ some "external/+" := by decide
  exact ⟨rfl, listed.1 "external/+", listed.2 (.stopSubscriber 2) "external/+" elsewhere⟩

end RemoteIface.Commlib.SubscriberTable
