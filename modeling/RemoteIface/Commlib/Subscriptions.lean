import RemoteIface.Commlib.Endpoints

/-!
What the subscriber table is for: the started subscribers in the order in which
they were last started. `StartLog` keeps just that order from the history of
the calls, and `Tracks` says that a registry with the same history lists on
every filter exactly the started subscribers of that filter.
-/

namespace RemoteIface.Commlib.Subscriptions

set_option autoImplicit false

open RemoteIface.Library.InsertionOrder
open RemoteIface.Commlib.Payload
open RemoteIface.Commlib.Endpoints

/-- The filter of every subscriber created so far, and the started subscribers
by last start. -/
structure StartLog where
  filters : List String
  live : List SubscriberId

namespace StartLog

def empty : StartLog := ⟨[], []⟩

def start (log : StartLog) (id : SubscriberId) : StartLog :=
  if id < log.filters.length ∧ id ∉ log.live then { log with live := log.live ++ [id] } else log

def stop (log : StartLog) (id : SubscriberId) : StartLog :=
  { log with live := log.live.erase id }

def create (log : StartLog) (filter : String) : StartLog :=
  { log with filters := log.filters ++ [filter] }

variable {Obj : Type}

def perform (log : StartLog) : RegistryCall Obj → StartLog
  | .createSubscriber topic _ _ => (log.create topic).start log.filters.length
  | .startSubscriber id => log.start id
  | .stopSubscriber id => log.stop id
  | _ => log

def performAll (log : StartLog) (calls : List (RegistryCall Obj)) : StartLog :=
  calls.foldl perform log

def startedOn (log : StartLog) (filter : String) : List SubscriberId :=
  log.live.filter fun id => log.filters[id]? = some filter

end StartLog

structure Tracks {Obj : Type} (log : StartLog) (registry : Registry Obj) : Prop where
  filters : registry.subscribers.map Subscriber.topic = log.filters
  started : ∀ id subscriber, registry.subscribers[id]? = some subscriber →
    (subscriber.started = true ↔ id ∈ log.live)
  bounded : ∀ id ∈ log.live, id < log.filters.length
  distinct : log.live.Nodup
  lists : ∀ filter, registry.callbacksOn filter = log.startedOn filter

variable {Obj : Type}

theorem map_set_same {Item Image : Type*} (f : Item → Image) {items : List Item} {index : Nat}
    {old new : Item} (stored : items[index]? = some old) (same : f new = f old) :
    (items.set index new).map f = items.map f := by
  rw [List.map_set, same]
  obtain ⟨bound, value⟩ := List.getElem?_eq_some_iff.mp stored
  apply List.ext_getElem?
  intro position
  by_cases here : index = position
  · subst here
    have inside : index < (items.map f).length := by simpa using bound
    rw [List.getElem?_set_self inside, List.getElem?_map, stored]
    rfl
  · rw [List.getElem?_set_ne here]

theorem map_modify_same {Item Image : Type*} (f : Item → Image) {items : List Item}
    {index : Nat} {change : Item → Item} (same : ∀ item, f (change item) = f item) :
    (items.modify index change).map f = items.map f := by
  apply List.ext_getElem?
  intro position
  rw [List.getElem?_map, List.getElem?_map, List.getElem?_modify]
  cases items[position]? with
  | none => rfl
  | some item =>
      by_cases here : index = position
      · simp [here, same]
      · simp [here]

theorem tracks_empty : Tracks (StartLog.empty) (Registry.empty : Registry Obj) where
  filters := rfl
  started := by simp [Registry.empty]
  bounded := by simp [StartLog.empty]
  distinct := List.nodup_nil
  lists := by simp [Registry.callbacksOn, Registry.empty, StartLog.startedOn, StartLog.empty]

namespace Tracks

variable {log : StartLog} {registry : Registry Obj}

theorem filter_of {id : SubscriberId} {subscriber : Subscriber Obj}
    (tracks : Tracks log registry) (stored : registry.subscribers[id]? = some subscriber) :
    log.filters[id]? = some subscriber.topic := by
  rw [← tracks.filters, List.getElem?_map, stored]
  rfl

theorem length_eq (tracks : Tracks log registry) :
    registry.subscribers.length = log.filters.length := by
  rw [← tracks.filters, List.length_map]

/-- Two registries with the same tables, filters and started flags are tracked
by the same log. -/
theorem congr {other : Registry Obj} (tracks : Tracks log registry)
    (filters : other.subscribers.map Subscriber.topic =
      registry.subscribers.map Subscriber.topic)
    (flags : other.subscribers.map Subscriber.started =
      registry.subscribers.map Subscriber.started)
    (table : other.subCallbacks = registry.subCallbacks) : Tracks log other where
  filters := filters.trans tracks.filters
  started := by
    intro id subscriber stored
    have flag : (registry.subscribers.map Subscriber.started)[id]? =
        some subscriber.started := by
      rw [← flags, List.getElem?_map, stored]
      rfl
    rw [List.getElem?_map, Option.map_eq_some_iff] at flag
    obtain ⟨twin, twinStored, same⟩ := flag
    rw [← same]
    exact tracks.started id twin twinStored
  bounded := tracks.bounded
  distinct := tracks.distinct
  lists := by
    intro filter
    rw [← tracks.lists filter]
    simp only [Registry.callbacksOn, table]

theorem inside_of {id : SubscriberId} {subscriber : Subscriber Obj}
    (tracks : Tracks log registry) (stored : registry.subscribers[id]? = some subscriber) :
    id < log.filters.length := by
  rw [← tracks.length_eq]
  exact (List.getElem?_eq_some_iff.mp stored).1

theorem outside_of {id : SubscriberId} (tracks : Tracks log registry)
    (missing : registry.subscribers[id]? = none) : ¬ id < log.filters.length := by
  rw [← tracks.length_eq]
  exact Nat.not_lt.mpr (List.getElem?_eq_none_iff.mp missing)

private theorem topics_set {id : SubscriberId} {subscriber : Subscriber Obj}
    (tracks : Tracks log registry) (flag : Bool)
    (stored : registry.subscribers[id]? = some subscriber) :
    (registry.subscribers.set id { subscriber with started := flag }).map Subscriber.topic =
      log.filters := by
  rw [← tracks.filters]
  exact map_set_same Subscriber.topic stored rfl

private theorem flags_set {id : SubscriberId} {subscriber : Subscriber Obj} {flag : Bool}
    {live : List SubscriberId} (tracks : Tracks log registry)
    (stored : registry.subscribers[id]? = some subscriber)
    (own : flag = true ↔ id ∈ live) (others : ∀ other, other ≠ id → (other ∈ live ↔ other ∈ log.live)) :
    ∀ other current,
      (registry.subscribers.set id { subscriber with started := flag })[other]? = some current →
        (current.started = true ↔ other ∈ live) := by
  intro other current found
  by_cases same : other = id
  · subst same
    rw [List.getElem?_set_self (List.getElem?_eq_some_iff.mp stored).1] at found
    cases found
    exact own
  · rw [List.getElem?_set_ne fun equal => same equal.symm] at found
    rw [others other same]
    exact tracks.started other current found

theorem start (tracks : Tracks log registry) (id : SubscriberId) :
    Tracks (log.start id) (registry.startSubscriber id) := by
  cases stored : registry.subscribers[id]? with
  | none =>
      have outside := tracks.outside_of stored
      rw [Registry.start_subscriber_missing stored, StartLog.start,
        if_neg fun both => outside both.1]
      exact tracks
  | some subscriber =>
      have flag := tracks.started id subscriber stored
      cases running : subscriber.started with
      | true =>
          rw [Registry.start_subscriber_started stored running, StartLog.start,
            if_neg fun both => both.2 (flag.mp running)]
          exact tracks
      | false =>
          have fresh : id ∉ log.live := fun member => by simp [flag.mpr member] at running
          have inside := tracks.inside_of stored
          rw [Registry.start_subscriber_stopped stored running, StartLog.start,
            if_pos ⟨inside, fresh⟩]
          exact {
            filters := tracks.topics_set _ stored
            started := by
              apply flags_set tracks stored
              · simp
              · intro other different
                simp [different]
            bounded := by
              intro other member
              rcases List.mem_append.mp member with old | new
              · exact tracks.bounded other old
              · rw [List.mem_singleton.mp new]
                exact inside
            distinct := by
              refine List.nodup_append.mpr ⟨tracks.distinct, List.nodup_singleton _, ?_⟩
              intro old member new same equal
              rw [List.mem_singleton] at same
              exact fresh (same ▸ equal ▸ member)
            lists := by
              intro filter
              have filterOf := tracks.filter_of stored
              have before := tracks.lists filter
              rw [StartLog.startedOn] at before
              rw [StartLog.startedOn, List.filter_append, ← before, Registry.callbacksOn]
              rw [OrderedDict.get_set]
              by_cases same : filter = subscriber.topic
              · simp [same, filterOf]
              · have other : ¬ subscriber.topic = filter := fun equal => same equal.symm
                simp [same, filterOf, other, Registry.callbacksOn] }

theorem listed {id : SubscriberId} {subscriber : Subscriber Obj} (tracks : Tracks log registry)
    (stored : registry.subscribers[id]? = some subscriber)
    (running : subscriber.started = true) :
    ∃ callbacks, registry.subCallbacks.get? subscriber.topic = some callbacks ∧
      callbacks = log.startedOn subscriber.topic ∧ id ∈ callbacks := by
  have member := (tracks.started id subscriber stored).mp running
  have onFilter : id ∈ registry.callbacksOn subscriber.topic := by
    rw [tracks.lists, StartLog.startedOn, List.mem_filter]
    exact ⟨member, by simpa using tracks.filter_of stored⟩
  have list := tracks.lists subscriber.topic
  cases entry : registry.subCallbacks.get? subscriber.topic with
  | none => simp [Registry.callbacksOn, entry] at onFilter
  | some callbacks =>
      simp only [Registry.callbacksOn, entry, Option.getD_some] at onFilter list
      exact ⟨callbacks, rfl, list, onFilter⟩

theorem stop (tracks : Tracks log registry) (id : SubscriberId) :
    Tracks (log.stop id) (registry.stopSubscriber id) := by
  unfold StartLog.stop
  cases stored : registry.subscribers[id]? with
  | none =>
      have absent : id ∉ log.live := fun member =>
        tracks.outside_of stored (tracks.bounded id member)
      rw [Registry.stop_subscriber_missing stored, List.erase_of_not_mem absent]
      exact tracks
  | some subscriber =>
      have flag := tracks.started id subscriber stored
      cases running : subscriber.started with
      | false =>
          have absent : id ∉ log.live := fun member => by simp [flag.mpr member] at running
          rw [Registry.stop_subscriber_stopped stored running, List.erase_of_not_mem absent]
          exact tracks
      | true =>
          obtain ⟨callbacks, entry, list, _⟩ := tracks.listed stored running
          rw [Registry.stop_subscriber_started stored running entry]
          exact {
            filters := tracks.topics_set _ stored
            started := by
              apply flags_set tracks stored
              · simp [tracks.distinct.mem_erase_iff]
              · intro other different
                simp [tracks.distinct.mem_erase_iff, different]
            bounded := fun other kept => tracks.bounded other (List.mem_of_mem_erase kept)
            distinct := tracks.distinct.erase id
            lists := by
              intro filter
              have filterOf := tracks.filter_of stored
              rw [Registry.callbacksOn, OrderedDict.get_set, StartLog.startedOn,
                tracks.distinct.erase_eq_filter id, List.filter_filter]
              by_cases same : filter = subscriber.topic
              · have distinctList : (log.startedOn filter).Nodup := tracks.distinct.filter _
                rw [if_pos same, Option.getD_some, list, ← same,
                  distinctList.erase_eq_filter id, StartLog.startedOn, List.filter_filter]
                apply List.filter_congr
                intro other _
                exact Bool.and_comm _ _
              · have before := tracks.lists filter
                rw [Registry.callbacksOn, StartLog.startedOn] at before
                rw [if_neg same, before]
                apply List.filter_congr
                intro other _
                by_cases here : other = id
                · have elsewhere : ¬ subscriber.topic = filter := fun equal => same equal.symm
                  simp [here, filterOf, elsewhere]
                · simp [here] }

theorem create (tracks : Tracks log registry) (topic : String) (onMessage : CallbackId)
    (msgType : Option (MsgType Obj)) :
    Tracks ((log.create topic).start log.filters.length)
      (registry.createSubscriber topic onMessage msgType) := by
  have bound : Tracks (log.create topic) { registry with
      subscribers := registry.subscribers ++ [⟨topic, none, msgType, onMessage, false⟩] } := {
    filters := by simp [StartLog.create, tracks.filters]
    started := by
      intro id subscriber stored
      rw [List.getElem?_append] at stored
      split at stored
      · exact tracks.started id subscriber stored
      · rename_i outside
        rw [List.getElem?_singleton] at stored
        split at stored
        · cases stored
          rw [tracks.length_eq] at outside
          have absent : id ∉ log.live := fun member => outside (tracks.bounded id member)
          simp [StartLog.create, absent]
        · simp at stored
    bounded := by
      intro id member
      have inside := tracks.bounded id member
      simp only [StartLog.create, List.length_append, List.length_cons, List.length_nil]
      exact Nat.lt_succ_of_lt inside
    distinct := tracks.distinct
    lists := by
      intro filter
      refine (tracks.lists filter).trans ?_
      unfold StartLog.startedOn StartLog.create
      apply List.filter_congr
      intro id member
      rw [List.getElem?_append_left (tracks.bounded id member)] }
  rw [← tracks.length_eq]
  exact bound.start registry.subscribers.length

theorem perform (tracks : Tracks log registry) (call : RegistryCall Obj) :
    Tracks (log.perform call) (registry.perform call) := by
  cases call with
  | createSubscriber topic onMessage msgType => exact tracks.create topic onMessage msgType
  | startSubscriber id => exact tracks.start id
  | stopSubscriber id => exact tracks.stop id
  | setCallback id fn =>
      refine tracks.congr ?_ ?_ rfl
      · exact map_modify_same Subscriber.topic fun _ => rfl
      · exact map_modify_same Subscriber.started fun _ => rfl
  | createPublisher topic => exact tracks.congr rfl rfl rfl
  | startPublisher id => exact tracks.congr rfl rfl rfl
  | stopPublisher id => exact tracks.congr rfl rfl rfl
  | createRpc rpcName msgType onRequest =>
      exact tracks.congr (by simp [Registry.perform]) (by simp [Registry.perform])
        (by simp [Registry.perform])
  | startRpc id =>
      exact tracks.congr (by simp [Registry.perform]) (by simp [Registry.perform])
        (by simp [Registry.perform])
  | stopRpc id =>
      exact tracks.congr (by simp [Registry.perform]) (by simp [Registry.perform])
        (by simp [Registry.perform])

end Tracks

theorem perform_all_tracks (calls : List (RegistryCall Obj)) :
    Tracks (StartLog.empty.performAll calls) ((Registry.empty : Registry Obj).performAll calls) := by
  have general : ∀ (log : StartLog) (registry : Registry Obj), Tracks log registry →
      Tracks (log.performAll calls) (registry.performAll calls) := by
    induction calls with
    | nil => exact fun _ _ tracks => tracks
    | cons call rest induction =>
        exact fun log registry tracks => induction _ _ (tracks.perform call)
  exact general _ _ tracks_empty

def madeFilter : RegistryCall Obj → List String
  | .createSubscriber topic _ _ => [topic]
  | _ => []

theorem start_subscriber_map {Image : Type*} (f : Subscriber Obj → Image)
    (unflagged : ∀ subscriber started, f { subscriber with started := started } = f subscriber)
    (registry : Registry Obj) (id : SubscriberId) :
    (registry.startSubscriber id).subscribers.map f = registry.subscribers.map f := by
  rcases Registry.start_subscriber_cases registry id with same | ⟨subscriber, stored, same⟩
  · rw [same]
  · rw [same]
    exact map_set_same f stored (unflagged subscriber true)

theorem stop_subscriber_map {Image : Type*} (f : Subscriber Obj → Image)
    (unflagged : ∀ subscriber started, f { subscriber with started := started } = f subscriber)
    (registry : Registry Obj) (id : SubscriberId) :
    (registry.stopSubscriber id).subscribers.map f = registry.subscribers.map f := by
  rcases Registry.stop_subscriber_cases registry id with same | ⟨subscriber, _, stored, _, same⟩
  · rw [same]
  · rw [same]
    exact map_set_same f stored (unflagged subscriber false)

theorem perform_topics (registry : Registry Obj) (call : RegistryCall Obj) :
    (registry.perform call).subscribers.map Subscriber.topic =
      registry.subscribers.map Subscriber.topic ++ madeFilter call := by
  cases call with
  | createSubscriber topic onMessage msgType =>
      have started := start_subscriber_map Subscriber.topic (fun _ _ => rfl) { registry with
        subscribers := registry.subscribers ++ [⟨topic, none, msgType, onMessage, false⟩] }
        registry.subscribers.length
      exact started.trans List.map_append
  | startSubscriber id =>
      have same := start_subscriber_map Subscriber.topic (fun _ _ => rfl) registry id
      simp [Registry.perform, madeFilter, same]
  | stopSubscriber id =>
      have same := stop_subscriber_map Subscriber.topic (fun _ _ => rfl) registry id
      simp [Registry.perform, madeFilter, same]
  | setCallback id fn =>
      have same : (registry.setCallback id fn).subscribers.map Subscriber.topic =
          registry.subscribers.map Subscriber.topic :=
        map_modify_same Subscriber.topic fun _ => rfl
      simp [Registry.perform, madeFilter, same]
  | createPublisher topic => exact (List.append_nil _).symm
  | startPublisher id => exact (List.append_nil _).symm
  | stopPublisher id => exact (List.append_nil _).symm
  | createRpc rpcName msgType onRequest => simp [Registry.perform, madeFilter]
  | startRpc id => simp [Registry.perform, madeFilter]
  | stopRpc id => simp [Registry.perform, madeFilter]

def FiltersOwned (registry : Registry Obj) : Prop :=
  ∀ filter ∈ registry.subCallbacks.keys, filter ∈ registry.subscribers.map Subscriber.topic

namespace FiltersOwned

variable {registry : Registry Obj}

theorem empty : FiltersOwned (Registry.empty : Registry Obj) := by
  intro filter key
  cases key

theorem congr {other : Registry Obj} (owned : FiltersOwned registry)
    (topics : other.subscribers.map Subscriber.topic =
      registry.subscribers.map Subscriber.topic)
    (table : other.subCallbacks = registry.subCallbacks) : FiltersOwned other := by
  unfold FiltersOwned
  rw [topics, table]
  exact owned

theorem start (owned : FiltersOwned registry) (id : SubscriberId) :
    FiltersOwned (registry.startSubscriber id) := by
  intro filter key
  rw [start_subscriber_map Subscriber.topic fun _ _ => rfl]
  rcases Registry.mem_keys_start_subscriber key with old | new
  · exact owned filter old
  · obtain ⟨subscriber, stored, same⟩ := Option.map_eq_some_iff.mp new
    rw [← same]
    exact List.mem_map_of_mem (List.mem_of_getElem? stored)

theorem stop (owned : FiltersOwned registry) (id : SubscriberId) :
    FiltersOwned (registry.stopSubscriber id) := by
  intro filter key
  rw [Registry.stop_subscriber_keys] at key
  rw [stop_subscriber_map Subscriber.topic fun _ _ => rfl]
  exact owned filter key

theorem create (owned : FiltersOwned registry) (topic : String) (onMessage : CallbackId)
    (msgType : Option (MsgType Obj)) :
    FiltersOwned (registry.createSubscriber topic onMessage msgType) := by
  apply start
  intro filter key
  rw [List.map_append]
  exact List.mem_append_left _ (owned filter key)

theorem perform (owned : FiltersOwned registry) (call : RegistryCall Obj) :
    FiltersOwned (registry.perform call) := by
  cases call with
  | createSubscriber topic onMessage msgType => exact owned.create topic onMessage msgType
  | startSubscriber id => exact owned.start id
  | stopSubscriber id => exact owned.stop id
  | setCallback id fn => exact owned.congr (map_modify_same Subscriber.topic fun _ => rfl) rfl
  | createPublisher topic => exact owned
  | startPublisher id => exact owned
  | stopPublisher id => exact owned
  | createRpc rpcName msgType onRequest =>
      exact owned.congr (by simp [Registry.perform]) (by simp [Registry.perform])
  | startRpc id => exact owned.congr (by simp [Registry.perform]) (by simp [Registry.perform])
  | stopRpc id => exact owned.congr (by simp [Registry.perform]) (by simp [Registry.perform])

end FiltersOwned

theorem filters_owned_perform_all (calls : List (RegistryCall Obj)) :
    FiltersOwned ((Registry.empty : Registry Obj).performAll calls) := by
  apply Registry.perform_all_keeps FiltersOwned
  · intro registry call _ owned
    exact owned.perform call
  · exact .empty

end RemoteIface.Commlib.Subscriptions
