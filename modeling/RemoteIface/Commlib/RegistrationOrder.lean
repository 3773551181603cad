import Mathlib.Data.List.Induction
import RemoteIface.Commlib.FilterCover

/-!
Whether the order in which a host creates its subscribers matters. `max` takes
the first filter of the table among those of maximal specificity, so the order
decides exactly when two different filters of the set tie for a topic.
-/

namespace RemoteIface.Commlib.RegistrationOrder

set_option autoImplicit false

open RemoteIface.Library.InsertionOrder
open RemoteIface.Commlib.Payload
open RemoteIface.Commlib.Topic
open RemoteIface.Commlib.Endpoints
open RemoteIface.Commlib.Dispatch
open RemoteIface.Commlib.Subscriptions
open RemoteIface.Commlib.Delivery
open RemoteIface.Commlib.FilterCover

/-- The arguments of one `create_subscriber` call. -/
structure Subscription (Obj : Type) where
  filter : String
  onMessage : CallbackId
  msgType : Option (MsgType Obj)

def Subscription.create {Obj : Type} (subscription : Subscription Obj) : RegistryCall Obj :=
  .createSubscriber subscription.filter subscription.onMessage subscription.msgType

variable {Id Obj Resp : Type} (subscriptions : Id → Subscription Obj)

/-- A fresh context on which the subscribers are created in the given order. -/
def registered (order : List Id) : Router Obj Resp :=
  afterCalls (order.map fun id => (subscriptions id).create)

/-- The subscribers that a message is delivered to, by name and not by the
place they were created at. -/
def receivers (Resp : Type) (callbacks : Callbacks Obj) (order : List Id) (message : Message) :
    List Id :=
  match dispatchIncoming callbacks (registered subscriptions order : Router Obj Resp) message with
  | .error _ => []
  | .ok next => next.edgeCalls.filterMap fun call => order[call.subscriber]?

/-- In any two orders of creation the message reaches the same subscribers. -/
def OrderFree (Resp : Type) (callbacks : List Id → Callbacks Obj) (members : List Id)
    (message : Message) : Prop :=
  ∀ first second : List Id, first.Perm members → second.Perm members → ∀ id,
    id ∈ receivers subscriptions Resp (callbacks first) first message ↔
      id ∈ receivers subscriptions Resp (callbacks second) second message

/-- The subscriber's filter matches the topic, and no filter of the set that
matches it is more specific. -/
def Top (members : List Id) (topic : String) (id : Id) : Prop :=
  topicMatches (subscriptions id).filter topic = true ∧
    ∀ other ∈ members, topicMatches (subscriptions other).filter topic = true →
      patternSpecificity (subscriptions other).filter ≤
        patternSpecificity (subscriptions id).filter

def Tied (members : List Id) (topic : String) : Prop :=
  ∃ first ∈ members, ∃ second ∈ members, Top subscriptions members topic first ∧
    Top subscriptions members topic second ∧
    (subscriptions first).filter ≠ (subscriptions second).filter

theorem registered_registry (order : List Id) :
    (registered subscriptions order : Router Obj Resp).registry =
      Registry.empty.performAll (order.map fun id => (subscriptions id).create) :=
  after_calls_registry _

theorem registered_log (order : List Id) :
    StartLog.empty.performAll (order.map fun id => (subscriptions id).create) =
      ⟨order.map fun id => (subscriptions id).filter, List.range order.length⟩ := by
  induction order using List.reverseRecOn with
  | nil => rfl
  | append_singleton order id induction =>
      have last : StartLog.empty.performAll
          ((order ++ [id]).map fun id => (subscriptions id).create) =
          (StartLog.empty.performAll (order.map fun id => (subscriptions id).create)).perform
            (subscriptions id).create := by
        rw [List.map_append]
        exact List.foldl_append
      rw [last, induction]
      simp [Subscription.create, StartLog.perform, StartLog.create, StartLog.start,
        List.range_succ]

theorem registered_tracks (order : List Id) :
    Tracks ⟨order.map fun id => (subscriptions id).filter, List.range order.length⟩
      (registered subscriptions order : Router Obj Resp).registry := by
  rw [registered_registry, ← registered_log]
  exact perform_all_tracks _

theorem mem_started_on (order : List Id) (filter : String) (place : Nat) :
    place ∈ StartLog.startedOn
        ⟨order.map fun id => (subscriptions id).filter, List.range order.length⟩ filter ↔
      ∃ id, order[place]? = some id ∧ (subscriptions id).filter = filter := by
  unfold StartLog.startedOn
  rw [List.mem_filter, List.mem_range, decide_eq_true_iff, List.getElem?_map,
    Option.map_eq_some_iff]
  constructor
  · intro both
    exact both.2
  · intro found
    obtain ⟨id, stored, same⟩ := found
    exact ⟨(List.getElem?_eq_some_iff.mp stored).1, id, stored, same⟩

theorem registered_live {order : List Id} {id : Id} (member : id ∈ order) {topic : String}
    (matched : topicMatches (subscriptions id).filter topic = true) :
    LiveMatch ⟨order.map fun id => (subscriptions id).filter, List.range order.length⟩ topic
      (subscriptions id).filter := by
  obtain ⟨place, stored⟩ := List.mem_iff_getElem?.mp member
  have started := (mem_started_on subscriptions order (subscriptions id).filter place).mpr
    ⟨id, stored, rfl⟩
  exact ⟨List.ne_nil_of_mem started, matched⟩

theorem registered_command_table (order : List Id) :
    (registered subscriptions order : Router Obj Resp).registry.commandTable = .empty := by
  rw [registered_registry]
  apply Registry.perform_all_keeps fun registry => registry.commandTable = .empty
  · intro registry call member kept
    obtain ⟨id, _, made⟩ := List.mem_map.mp member
    rw [← made]
    simp only [Subscription.create, Registry.perform, Registry.createSubscriber,
      Registry.startSubscriber]
    split
    · exact kept
    · split <;> exact kept
  · rfl

theorem create_keeps_keys (registry : Registry Obj) (subscription : Subscription Obj) :
    registry.subCallbacks.keys <+: (registry.perform subscription.create).subCallbacks.keys := by
  simp only [Subscription.create, Registry.perform, Registry.createSubscriber,
    Registry.startSubscriber]
  split
  · exact List.prefix_rfl
  · rename_i subscriber stored
    split
    · exact List.prefix_rfl
    · by_cases present : subscriber.topic ∈ registry.subCallbacks.keys
      · have same := OrderedDict.keys_set_present
          (registry.callbacksOn subscriber.topic ++ [registry.subscribers.length]) present
        exact same.symm ▸ List.prefix_rfl
      · rw [OrderedDict.keys_set_absent _ present]
        exact List.prefix_append _ _

theorem registered_first_key (Resp : Type) (id : Id) (rest : List Id) :
    [(subscriptions id).filter] <+:
      (registered subscriptions (id :: rest) : Router Obj Resp).registry.subCallbacks.keys := by
  rw [registered_registry, List.map_cons]
  have first : [(subscriptions id).filter] <+:
      ((Registry.empty : Registry Obj).perform (subscriptions id).create).subCallbacks.keys := by
    simp [Subscription.create, Registry.perform, Registry.createSubscriber,
      Registry.startSubscriber, Registry.empty, OrderedDict.keys_set_absent]
  have each : ∀ registry : Registry Obj,
      ∀ call ∈ rest.map fun other => (subscriptions other).create,
        [(subscriptions id).filter] <+: registry.subCallbacks.keys →
          [(subscriptions id).filter] <+: (registry.perform call).subCallbacks.keys := by
    intro registry call member kept
    obtain ⟨other, _, made⟩ := List.mem_map.mp member
    rw [← made]
    exact kept.trans (create_keeps_keys registry (subscriptions other))
  exact Registry.perform_all_keeps
    (fun registry => [(subscriptions id).filter] <+: registry.subCallbacks.keys) each first

theorem mem_receivers_iff (callbacks : Callbacks Obj) (order : List Id) (message : Message)
    {data : Json} (loaded : message.payload = .value data) (id : Id) :
    id ∈ receivers subscriptions Resp callbacks order message ↔
      id ∈ order ∧ ∃ listed,
        bestEntry (registered subscriptions order : Router Obj Resp).registry message.topic =
          some ((subscriptions id).filter, listed) := by
  have tracks : Tracks _ (registered subscriptions order : Router Obj Resp).registry :=
    registered_tracks subscriptions order
  have noCommand : message.topic ∉
      (registered subscriptions order : Router Obj Resp).registry.commandTable.keys := by
    rw [registered_command_table]
    exact List.not_mem_nil
  have calls := route_message_calls callbacks (registered subscriptions order : Router Obj Resp)
    message.topic data tracks noCommand
  have none : (registered subscriptions order : Router Obj Resp).edgeCalls = [] :=
    after_calls_edge_calls _
  rw [none, List.map_nil, List.nil_append] at calls
  have places : receivers subscriptions Resp callbacks order message =
      (calledSubscribers (registered subscriptions order : Router Obj Resp).registry
        message.topic).filterMap fun place => order[place]? := by
    unfold receivers dispatchIncoming
    rw [loaded, ← calls, List.filterMap_map]
    rfl
  rw [places, calledSubscribers]
  cases best : bestEntry (registered subscriptions order : Router Obj Resp).registry
      message.topic with
  | none => simp
  | some entry =>
      obtain ⟨filter, listed⟩ := entry
      have onFilter := (best_entry_splits best).1
      rw [tracks.lists] at onFilter
      rw [← onFilter]
      simp only [List.mem_filterMap, mem_started_on, Option.some.injEq, Prod.mk.injEq,
        exists_eq_right']
      constructor
      · intro found
        obtain ⟨place, ⟨other, here, filtered⟩, stored⟩ := found
        rw [here, Option.some.injEq] at stored
        rw [← stored]
        exact ⟨List.mem_of_getElem? here, filtered.symm⟩
      · intro found
        obtain ⟨place, stored⟩ := List.mem_iff_getElem?.mp found.1
        exact ⟨place, ⟨id, stored, found.2.symm⟩, stored⟩

theorem winner_top {order : List Id} {topic filter : String} {listed : List SubscriberId}
    (best : bestEntry (registered subscriptions order : Router Obj Resp).registry topic =
      some (filter, listed)) :
    ∃ id ∈ order, (subscriptions id).filter = filter ∧ Top subscriptions order topic id := by
  have tracks : Tracks _ (registered subscriptions order : Router Obj Resp).registry :=
    registered_tracks subscriptions order
  obtain ⟨_, matched, before, after, split, below, notAbove⟩ := best_entry_splits best
  have key : filter ∈
      (registered subscriptions order : Router Obj Resp).registry.subCallbacks.keys := by
    simp [split]
  have registry : (registered subscriptions order : Router Obj Resp).registry = _ :=
    registered_registry subscriptions order
  rw [registry] at key
  have owned := filters_owned_perform_all _ filter key
  rw [← registry, tracks.filters] at owned
  obtain ⟨id, member, same⟩ := List.mem_map.mp owned
  refine ⟨id, member, same, by rw [same]; exact matched, ?_⟩
  intro other otherMember otherMatched
  rw [same]
  apply winner_maximal tracks best
  exact registered_live subscriptions otherMember otherMatched

/-- A most specific filter of the set wins when its subscriber was made first. -/
theorem first_wins (Resp : Type) {id : Id} {rest : List Id} {topic : String}
    (top : Top subscriptions (id :: rest) topic id) :
    ∃ listed, bestEntry (registered subscriptions (id :: rest) : Router Obj Resp).registry topic =
      some ((subscriptions id).filter, listed) := by
  obtain ⟨later, keys⟩ := registered_first_key subscriptions Resp id rest
  cases best : bestEntry (registered subscriptions (id :: rest) : Router Obj Resp).registry
      topic with
  | none =>
      have unmatched := best_entry_none best (subscriptions id).filter (by simp [← keys])
      rw [top.1] at unmatched
      cases unmatched
  | some entry =>
      obtain ⟨filter, listed⟩ := entry
      obtain ⟨winner, member, same, winnerTop⟩ := winner_top subscriptions best
      obtain ⟨_, _, before, after, split, below, _⟩ := best_entry_splits best
      rw [← keys, List.singleton_append] at split
      cases before with
      | nil =>
          rw [List.nil_append] at split
          rw [(List.cons.inj split).1]
          exact ⟨listed, rfl⟩
      | cons head tail =>
          exfalso
          rw [List.cons_append] at split
          have beaten := below head List.mem_cons_self
          rw [← (List.cons.inj split).1] at beaten
          have upper := top.2 winner member winnerTop.1
          rw [same] at upper
          exact absurd (beaten top.1) (not_lt.mpr upper)

theorem top_of_perm {first second : List Id} (same : first.Perm second) {topic : String} {id : Id}
    (top : Top subscriptions first topic id) : Top subscriptions second topic id := by
  constructor
  · exact top.1
  · intro other member
    exact top.2 other (same.mem_iff.mpr member)

theorem receivers_of_untied {members first second : List Id} {message : Message} {data : Json}
    (loaded : message.payload = .value data) (untied : ¬ Tied subscriptions members message.topic)
    (firstPerm : first.Perm members) (secondPerm : second.Perm members)
    (callbacks others : Callbacks Obj) {id : Id}
    (received : id ∈ receivers subscriptions Resp callbacks first message) :
    id ∈ receivers subscriptions Resp others second message := by
  rw [mem_receivers_iff subscriptions _ _ _ loaded] at received ⊢
  obtain ⟨member, listed, best⟩ := received
  obtain ⟨winner, winnerMember, same, top⟩ := winner_top subscriptions best
  have topMembers := top_of_perm subscriptions firstPerm top
  constructor
  · exact secondPerm.mem_iff.mpr (firstPerm.mem_iff.mp member)
  · cases otherBest : bestEntry (registered subscriptions second : Router Obj Resp).registry
        message.topic with
    | none =>
        have tracks : Tracks _ (registered subscriptions second : Router Obj Resp).registry :=
          registered_tracks subscriptions second
        have there := secondPerm.mem_iff.mpr (firstPerm.mem_iff.mp winnerMember)
        have live := registered_live subscriptions there top.1
        have unmatched := best_entry_none otherBest _ (live_match_mem_keys tracks live)
        rw [top.1] at unmatched
        cases unmatched
    | some entry =>
        obtain ⟨filter, others⟩ := entry
        obtain ⟨rival, rivalMember, rivalSame, rivalTop⟩ := winner_top subscriptions otherBest
        have rivalTopMembers := top_of_perm subscriptions secondPerm rivalTop
        have equal : (subscriptions winner).filter = (subscriptions rival).filter := by
          by_contra apart
          apply untied
          exact ⟨winner, firstPerm.mem_iff.mp winnerMember, rival,
            secondPerm.mem_iff.mp rivalMember, topMembers, rivalTopMembers, apart⟩
        rw [← same, equal, rivalSame]
        exact ⟨others, rfl⟩

theorem tied_not_order_free {callbacks : List Id → Callbacks Obj} {members : List Id}
    {message : Message} {data : Json} (loaded : message.payload = .value data)
    (tied : Tied subscriptions members message.topic) :
    ¬ OrderFree subscriptions Resp callbacks members message := by
  intro free
  obtain ⟨first, firstMember, second, secondMember, firstTop, secondTop, apart⟩ := tied
  obtain ⟨before, after, split⟩ := List.append_of_mem firstMember
  obtain ⟨otherBefore, otherAfter, otherSplit⟩ := List.append_of_mem secondMember
  have firstPerm : (first :: (before ++ after)).Perm members := by
    rw [split]
    exact List.perm_middle.symm
  have secondPerm : (second :: (otherBefore ++ otherAfter)).Perm members := by
    rw [otherSplit]
    exact List.perm_middle.symm
  obtain ⟨listed, best⟩ := first_wins subscriptions Resp
    (top_of_perm subscriptions firstPerm.symm firstTop)
  obtain ⟨others, otherBest⟩ := first_wins subscriptions Resp
    (top_of_perm subscriptions secondPerm.symm secondTop)
  have received : first ∈ receivers subscriptions Resp
      (callbacks (first :: (before ++ after))) (first :: (before ++ after)) message :=
    (mem_receivers_iff subscriptions _ _ _ loaded first).mpr ⟨List.mem_cons_self, listed, best⟩
  have moved := (free _ _ firstPerm secondPerm first).mp received
  obtain ⟨_, again, chosen⟩ := (mem_receivers_iff subscriptions _ _ _ loaded first).mp moved
  rw [otherBest, Option.some.injEq, Prod.mk.injEq] at chosen
  exact apart chosen.1.symm

/-- Delivery depends on the order of creation exactly when two filters of the
set tie for the topic of a well-formed message. -/
theorem order_free_iff_untied (callbacks : List Id → Callbacks Obj) (members : List Id)
    (message : Message) :
    OrderFree subscriptions Resp callbacks members message ↔
      ∀ data, message.payload = .value data → ¬ Tied subscriptions members message.topic := by
  constructor
  · intro free data loaded tied
    exact tied_not_order_free subscriptions loaded tied free
  · intro untied first second firstPerm secondPerm id
    cases payload : message.payload with
    | value data =>
        constructor
        · exact receivers_of_untied subscriptions payload (untied data payload) firstPerm
            secondPerm _ _
        · exact receivers_of_untied subscriptions payload (untied data payload) secondPerm
            firstPerm _ _
    | malformed =>
        have nobody : ∀ order, receivers subscriptions Resp (callbacks order) order
            message = [] := by
          intro order
          unfold receivers dispatchIncoming
          rw [payload]
          dsimp only
          rw [registered, after_calls_edge_calls, List.filterMap_nil]
        rw [nobody, nobody]
    | raised error =>
        have nobody : ∀ order, receivers subscriptions Resp (callbacks order) order
            message = [] := by
          intro order
          unfold receivers dispatchIncoming
          rw [payload]
        rw [nobody, nobody]

/-- Two filters with one literal segment each. -/
def crossing : Bool → Subscription Unit
  | false => ⟨"a/+", 0, none⟩
  | true => ⟨"+/b", 1, none⟩

/-- Both filters match the topic with the same specificity, and the one that
was created first gets the message alone. -/
theorem crossing_filters_depend_on_order :
    (∀ id, ValidFilter (crossing id).filter) ∧
      "a/b" ∉ (registered crossing [false, true] : Router Unit Unit).registry.commandTable.keys ∧
      ¬ OrderFree crossing Unit (fun _ _ _ => .ok ()) [false, true] ⟨"a/b", .value .null⟩ := by
  refine ⟨by decide, by decide, ?_⟩
  intro free
  have moved := (free [false, true] [true, false] (by decide) (by decide) false).mp (by decide)
  exact absurd moved (by decide)

end RemoteIface.Commlib.RegistrationOrder
