import RemoteIface.Commlib.Dispatch
import RemoteIface.Commlib.Subscriptions

/-!
Which subscribers a message reaches. The winning filter is chosen among all
keys of the subscriber table, and a filter stays a key after its last
subscriber has stopped: such a stale filter can win and swallow the message.
The main theorem says that this is the only way delivery goes wrong.
-/

namespace RemoteIface.Commlib.Delivery

set_option autoImplicit false

open RemoteIface.Library.InsertionOrder
open RemoteIface.Library.FirstMax
open RemoteIface.Commlib.Payload
open RemoteIface.Commlib.Topic
open RemoteIface.Commlib.Endpoints
open RemoteIface.Commlib.Dispatch
open RemoteIface.Commlib.Subscriptions

/-- Some started subscriber's filter is `filter`, and it matches the topic. -/
def LiveMatch (log : StartLog) (topic filter : String) : Prop :=
  log.startedOn filter ≠ [] ∧ topicMatches filter topic = true

/-- The called subscribers are the started ones on one live filter of maximal
specificity, each once and by last start; without a live match nobody is called. -/
def DeliversToStarted (log : StartLog) (topic : String) (called : List SubscriberId) : Prop :=
  ((∃ filter, LiveMatch log topic filter) →
    ∃ filter, LiveMatch log topic filter ∧
      (∀ other, LiveMatch log topic other →
        patternSpecificity other ≤ patternSpecificity filter) ∧
      called = log.startedOn filter ∧ called.Nodup) ∧
  ((¬ ∃ filter, LiveMatch log topic filter) → called = [])

/-- A filter without started subscribers is still in the table, matches the
topic and beats every live match: by specificity, or by age among equals. -/
def ShadowedByStale (table : List String) (log : StartLog) (topic : String) : Prop :=
  ∃ before stale after, table = before ++ stale :: after ∧
    topicMatches stale topic = true ∧ log.startedOn stale = [] ∧
    (∀ filter ∈ before, LiveMatch log topic filter →
      patternSpecificity filter < patternSpecificity stale) ∧
    ∀ filter ∈ after, LiveMatch log topic filter →
      patternSpecificity filter ≤ patternSpecificity stale

variable {Obj Resp : Type}

theorem edge_callback_subscriber (callbacks : Callbacks Obj) {registry : Registry Obj}
    {id : SubscriberId} (raw : Json) (topic : String)
    (known : id < registry.subscribers.length) :
    (edgeCallback callbacks registry id raw topic).2.map EdgeCall.subscriber = [id] := by
  unfold edgeCallback
  rw [List.getElem?_eq_getElem known]
  dsimp only
  split <;> rfl

theorem call_edges_keep (keeps : Registry Obj → Prop) {callbacks : Callbacks Obj} {raw : Json}
    {topic : String}
    (each : ∀ registry id, keeps registry →
      keeps (edgeCallback callbacks registry id raw topic).1)
    (ids : List SubscriberId) {registry : Registry Obj} (holds : keeps registry) :
    keeps (callEdges callbacks raw topic ids registry).1 := by
  induction ids generalizing registry with
  | nil => exact holds
  | cons id rest induction => exact induction (each registry id holds)

theorem dispatch_keeps (keeps : Registry Obj → Prop) {callbacks : Callbacks Obj}
    {router next : Router Obj Resp} {message : Message}
    (each : ∀ registry id raw topic, keeps registry →
      keeps (edgeCallback callbacks registry id raw topic).1)
    (dispatched : dispatchIncoming callbacks router message = .ok next)
    (holds : keeps router.registry) : keeps next.registry := by
  rcases dispatch_incoming_cases dispatched with ⟨_, rfl⟩ | ⟨data, _, rfl⟩
  · exact holds
  · unfold routeMessage
    split
    · exact holds
    · split
      · exact holds
      · exact call_edges_keep keeps (fun registry id => each registry id data message.topic) _ holds

/-- What a subscriber makes of a message: its `on_message` and its message type. -/
def handling (registry : Registry Obj) (id : SubscriberId) :
    Option (CallbackId × Option (MsgType Obj)) :=
  (registry.subscribers[id]?).map fun subscriber => (subscriber.onMessage, subscriber.msgType)

theorem edge_callback_handling (callbacks : Callbacks Obj) (registry : Registry Obj)
    (id other : SubscriberId) (raw : Json) (topic : String) :
    handling (edgeCallback callbacks registry id raw topic).1 other = handling registry other := by
  unfold edgeCallback
  split
  · rfl
  · rename_i subscriber stored
    split
    · rfl
    · unfold handling
      by_cases same : id = other
      · subst same
        rw [List.getElem?_set_self (List.getElem?_eq_some_iff.mp stored).1, stored]
        rfl
      · rw [List.getElem?_set_ne same]

theorem edge_callback_calls (callbacks : Callbacks Obj) {registry other : Registry Obj}
    {id : SubscriberId} (raw : Json) (topic : String)
    (same : handling registry id = handling other id) :
    (edgeCallback callbacks registry id raw topic).2 =
      (edgeCallback callbacks other id raw topic).2 := by
  unfold handling at same
  unfold edgeCallback
  cases stored : registry.subscribers[id]? with
  | none =>
      rw [stored, Option.map_none, eq_comm, Option.map_eq_none_iff] at same
      rw [same]
  | some subscriber =>
      rw [stored, Option.map_some, eq_comm, Option.map_eq_some_iff] at same
      obtain ⟨twin, there, pair⟩ := same
      obtain ⟨onMessage, msgType⟩ := Prod.mk.inj pair
      rw [there]
      dsimp only
      rw [onMessage, msgType]
      split <;> rfl

/-- The calls of the loop are those that each callback would make at its start. -/
theorem call_edges_calls (callbacks : Callbacks Obj) (raw : Json) (topic : String)
    (ids : List SubscriberId) (registry : Registry Obj) :
    (callEdges callbacks raw topic ids registry).2 =
      ids.flatMap fun id => (edgeCallback callbacks registry id raw topic).2 := by
  induction ids generalizing registry with
  | nil => rfl
  | cons id rest induction =>
      simp only [callEdges, List.flatMap_cons]
      rw [induction]
      congr 1
      apply List.flatMap_congr
      intro other _
      apply edge_callback_calls
      exact edge_callback_handling callbacks registry id other raw topic

/-- Every callback of the list is called once, in list order, whatever the
callbacks before it raised. -/
theorem call_edges_subscribers (callbacks : Callbacks Obj) (raw : Json) (topic : String)
    (ids : List SubscriberId) (registry : Registry Obj)
    (known : ∀ id ∈ ids, id < registry.subscribers.length) :
    (callEdges callbacks raw topic ids registry).2.map EdgeCall.subscriber = ids := by
  have each : ∀ id ∈ ids,
      (edgeCallback callbacks registry id raw topic).2.map EdgeCall.subscriber = [id] :=
    fun id member => edge_callback_subscriber callbacks raw topic (known id member)
  rw [call_edges_calls, List.map_flatMap, List.flatMap_congr each, List.flatMap_singleton']

/-- A topic that `last_topic` shows already is still there after the loop. -/
theorem call_edges_last_topic (callbacks : Callbacks Obj) (raw : Json) (topic : String)
    (ids : List SubscriberId) {registry : Registry Obj} {id : SubscriberId}
    (shown : (registry.subscribers[id]?).bind Subscriber.lastTopic = some topic) :
    ((callEdges callbacks raw topic ids registry).1.subscribers[id]?).bind Subscriber.lastTopic =
      some topic := by
  refine call_edges_keep
    (fun registry => (registry.subscribers[id]?).bind Subscriber.lastTopic = some topic) ?_ ids shown
  intro registry other shown
  unfold edgeCallback
  split
  · exact shown
  · rename_i subscriber stored
    split
    · exact shown
    · by_cases same : other = id
      · subst same
        rw [List.getElem?_set_self (List.getElem?_eq_some_iff.mp stored).1]
        rfl
      · rw [List.getElem?_set_ne same]
        exact shown

theorem best_entry_none {registry : Registry Obj} {topic : String}
    (none : bestEntry registry topic = none) :
    ∀ filter ∈ registry.subCallbacks.keys, topicMatches filter topic = false := by
  have nothing := (first_max_none_iff _).mp none
  intro filter member
  obtain ⟨entry, stored, rfl⟩ := List.mem_map.mp member
  by_contra matched
  have kept : entry ∈ matchingEntries registry topic :=
    List.mem_filter.mpr ⟨stored, by simpa using matched⟩
  rw [nothing] at kept
  simp at kept

/-- The filter `max` picks, placed in the key order of the table. -/
theorem best_entry_splits {registry : Registry Obj} {topic filter : String}
    {listed : List SubscriberId} (best : bestEntry registry topic = some (filter, listed)) :
    registry.callbacksOn filter = listed ∧ topicMatches filter topic = true ∧
      ∃ before after, registry.subCallbacks.keys = before ++ filter :: after ∧
        (∀ other ∈ before, topicMatches other topic = true →
          patternSpecificity other < patternSpecificity filter) ∧
        ∀ other ∈ after, topicMatches other topic = true →
          patternSpecificity other ≤ patternSpecificity filter := by
  obtain ⟨before, after, split, matched, below, notAbove⟩ :=
    first_max_filter_splits (fun entry : String × List SubscriberId =>
      patternSpecificity entry.1) best
  have keys : registry.subCallbacks.keys =
      before.map Prod.fst ++ filter :: after.map Prod.fst := by
    simp [OrderedDict.keys, split]
  refine ⟨?_, matched, before.map Prod.fst, after.map Prod.fst, keys, ?_, ?_⟩
  · have stored : (filter, listed) ∈ registry.subCallbacks.entries := by simp [split]
    rw [Registry.callbacksOn, OrderedDict.get_of_mem stored]
    rfl
  · intro other member matching
    obtain ⟨entry, stored, rfl⟩ := List.mem_map.mp member
    exact below entry stored matching
  · intro other member matching
    obtain ⟨entry, stored, rfl⟩ := List.mem_map.mp member
    exact notAbove entry stored matching

theorem live_match_mem_keys {log : StartLog} {registry : Registry Obj} {topic filter : String}
    (tracks : Tracks log registry) (live : LiveMatch log topic filter) :
    filter ∈ registry.subCallbacks.keys := by
  rw [← OrderedDict.get_isSome_iff]
  have nonempty := live.1
  rw [← tracks.lists filter, Registry.callbacksOn] at nonempty
  cases entry : registry.subCallbacks.get? filter with
  | none => simp [entry] at nonempty
  | some _ => rfl

theorem shadowed_winner_stale {log : StartLog} {registry : Registry Obj} {topic filter : String}
    {listed : List SubscriberId} (tracks : Tracks log registry)
    (shadowed : ShadowedByStale registry.subCallbacks.keys log topic)
    (best : bestEntry registry topic = some (filter, listed)) :
    ¬ LiveMatch log topic filter := by
  intro live
  obtain ⟨_, _, before, after, split, below, notAbove⟩ := best_entry_splits best
  obtain ⟨older, stale, younger, staleSplit, staleMatches, stopped, olderBelow, youngerBelow⟩ :=
    shadowed
  have different : stale ≠ filter := by
    rintro rfl
    exact live.1 stopped
  have staleMember : stale ∈ registry.subCallbacks.keys := by simp [staleSplit]
  have filterMember := live_match_mem_keys tracks live
  have upper : patternSpecificity filter ≤ patternSpecificity stale := by
    rw [staleSplit, List.mem_append, List.mem_cons] at filterMember
    rcases filterMember with first | same | last
    · exact (olderBelow filter first live).le
    · exact absurd same.symm different
    · exact youngerBelow filter last live
  rw [split, List.mem_append, List.mem_cons] at staleMember
  rcases staleMember with first | same | last
  · exact absurd (below stale first staleMatches) (not_lt.mpr upper)
  · exact different same
  · have early := before_of_after registry.subCallbacks.keys_nodup split staleSplit last
    exact absurd (olderBelow filter early live) (not_lt.mpr (notAbove stale last staleMatches))

theorem stale_winner_shadows {log : StartLog} {registry : Registry Obj} {topic filter : String}
    {listed : List SubscriberId} (best : bestEntry registry topic = some (filter, listed))
    (stopped : log.startedOn filter = []) :
    ShadowedByStale registry.subCallbacks.keys log topic := by
  obtain ⟨_, matched, before, after, split, below, notAbove⟩ := best_entry_splits best
  exact ⟨before, filter, after, split, matched, stopped,
    fun other member live => below other member live.2,
    fun other member live => notAbove other member live.2⟩

theorem winner_maximal {log : StartLog} {registry : Registry Obj} {topic filter : String}
    {listed : List SubscriberId} (tracks : Tracks log registry)
    (best : bestEntry registry topic = some (filter, listed)) :
    ∀ other, LiveMatch log topic other →
      patternSpecificity other ≤ patternSpecificity filter := by
  intro other live
  obtain ⟨_, _, before, after, split, below, notAbove⟩ := best_entry_splits best
  have member := live_match_mem_keys tracks live
  rw [split, List.mem_append, List.mem_cons] at member
  rcases member with first | rfl | last
  · exact (below other first live.2).le
  · exact le_rfl
  · exact notAbove other last live.2

/-- The subscribers the pub/sub branch calls for a topic. -/
def calledSubscribers (registry : Registry Obj) (topic : String) : List SubscriberId :=
  match bestEntry registry topic with
  | none => []
  | some (_, listed) => listed

theorem route_message_calls {log : StartLog} (callbacks : Callbacks Obj) (router : Router Obj Resp)
    (topic : String) (payload : Json) (tracks : Tracks log router.registry)
    (noCommand : topic ∉ router.registry.commandTable.keys) :
    (routeMessage callbacks router topic payload).edgeCalls.map EdgeCall.subscriber =
      router.edgeCalls.map EdgeCall.subscriber ++ calledSubscribers router.registry topic := by
  have missing := OrderedDict.get_none_of_absent noCommand
  unfold routeMessage calledSubscribers
  simp only [missing]
  cases best : bestEntry router.registry topic with
  | none => simp
  | some entry =>
      obtain ⟨filter, listed⟩ := entry
      have onFilter := (best_entry_splits best).1
      rw [tracks.lists] at onFilter
      have known : ∀ id ∈ listed, id < router.registry.subscribers.length := by
        intro id member
        rw [← onFilter, StartLog.startedOn, List.mem_filter] at member
        rw [tracks.length_eq]
        exact tracks.bounded id member.1
      simp only [List.map_append]
      rw [call_edges_subscribers callbacks payload topic listed router.registry known]

theorem delivers_iff_not_shadowed {log : StartLog} {registry : Registry Obj} (topic : String)
    (tracks : Tracks log registry) :
    DeliversToStarted log topic (calledSubscribers registry topic) ↔
      ((∃ filter, LiveMatch log topic filter) →
        ¬ ShadowedByStale registry.subCallbacks.keys log topic) := by
  unfold calledSubscribers
  cases best : bestEntry registry topic with
  | none =>
      have noLive : ¬ ∃ filter, LiveMatch log topic filter := by
        rintro ⟨filter, live⟩
        have unmatched := best_entry_none best filter (live_match_mem_keys tracks live)
        rw [live.2] at unmatched
        contradiction
      simp [DeliversToStarted, noLive]
  | some entry =>
      obtain ⟨filter, listed⟩ := entry
      have split := best_entry_splits best
      have onFilter : listed = log.startedOn filter := by rw [← tracks.lists, split.1]
      constructor
      · rintro ⟨delivers, _⟩ live shadowed
        obtain ⟨chosen, chosenLive, _, called, _⟩ := delivers live
        have listedNonempty : listed ≠ [] := by
          change listed = log.startedOn chosen at called
          rw [called]
          exact chosenLive.1
        have winnerLive : LiveMatch log topic filter := ⟨onFilter ▸ listedNonempty, split.2.1⟩
        exact shadowed_winner_stale tracks shadowed best winnerLive
      · intro unshadowed
        refine ⟨fun live => ?_, fun none => ?_⟩
        · have winnerLive : LiveMatch log topic filter :=
            ⟨fun stopped => unshadowed live (stale_winner_shadows best stopped), split.2.1⟩
          refine ⟨filter, winnerLive, winner_maximal tracks best, onFilter, ?_⟩
          rw [onFilter]
          exact tracks.distinct.filter _
        · by_contra nonempty
          dsimp only at nonempty
          rw [onFilter] at nonempty
          exact none ⟨filter, nonempty, split.2.1⟩

/-- A fresh `NodeContext` after a list of calls on its endpoints. -/
def afterCalls (calls : List (RegistryCall Obj)) : Router Obj Resp :=
  calls.foldl Router.perform Router.empty

theorem after_calls_registry (calls : List (RegistryCall Obj)) :
    (afterCalls calls : Router Obj Resp).registry = Registry.empty.performAll calls := by
  have general : ∀ router : Router Obj Resp,
      (calls.foldl Router.perform router).registry = router.registry.performAll calls := by
    induction calls with
    | nil => exact fun _ => rfl
    | cons call rest induction => exact fun router => induction (router.perform call)
  exact general Router.empty

theorem after_calls_edge_calls (calls : List (RegistryCall Obj)) :
    (afterCalls calls : Router Obj Resp).edgeCalls = [] := by
  have general : ∀ router : Router Obj Resp,
      (calls.foldl Router.perform router).edgeCalls = router.edgeCalls := by
    induction calls with
    | nil => exact fun _ => rfl
    | cons call rest induction => exact fun router => induction (router.perform call)
  exact general Router.empty

/-- After any history of calls, a message outside the command table reaches
exactly the started subscribers of one most specific live filter, unless a
stale filter shadows a live match. -/
theorem delivery_exact_iff_no_stale_winner (calls : List (RegistryCall Obj))
    (callbacks : Callbacks Obj) (topic : String) (payload : Json)
    (noCommand : topic ∉ (afterCalls calls : Router Obj Resp).registry.commandTable.keys) :
    ∃ next : Router Obj Resp,
      dispatchIncoming callbacks (afterCalls calls) ⟨topic, .value payload⟩ = .ok next ∧
      (DeliversToStarted (StartLog.empty.performAll calls) topic
          (next.edgeCalls.map EdgeCall.subscriber) ↔
        ((∃ filter, LiveMatch (StartLog.empty.performAll calls) topic filter) →
          ¬ ShadowedByStale (afterCalls calls : Router Obj Resp).registry.subCallbacks.keys
            (StartLog.empty.performAll calls) topic)) := by
  refine ⟨_, rfl, ?_⟩
  have tracks : Tracks (StartLog.empty.performAll calls)
      (afterCalls calls : Router Obj Resp).registry := by
    rw [after_calls_registry]
    exact perform_all_tracks calls
  rw [route_message_calls callbacks _ topic payload tracks noCommand, after_calls_edge_calls]
  exact delivers_iff_not_shadowed topic tracks

def wildcardCalls : List (RegistryCall Unit) := [.createSubscriber "external/+" 0 none]

/-- A wildcard subscriber alone, and a message under its filter. -/
theorem delivery_exact_of_wildcard_only :
    ∃ next : Router Unit Unit,
      dispatchIncoming (fun _ _ => .error typeError) (afterCalls wildcardCalls)
        ⟨"external/foo", .value .null⟩ = .ok next ∧
      DeliversToStarted (StartLog.empty.performAll wildcardCalls) "external/foo"
        (next.edgeCalls.map EdgeCall.subscriber) := by
  obtain ⟨next, dispatched, exact⟩ := @delivery_exact_iff_no_stale_winner Unit Unit
    wildcardCalls (fun _ _ => .error typeError) "external/foo" .null (by decide)
  refine ⟨next, dispatched, exact.mpr ?_⟩
  rintro - ⟨before, stale, after, table, _, stopped, _⟩
  have keys : (afterCalls wildcardCalls : Router Unit Unit).registry.subCallbacks.keys =
      ["external/+"] := by decide
  rw [keys] at table
  have only : stale ∈ ["external/+"] := by simp [table]
  rw [List.mem_singleton.mp only] at stopped
  exact absurd stopped (by decide)

/-- Two subscribers, the one on the exact topic stopped again. -/
def staleExactCalls : List (RegistryCall Unit) :=
  [.createSubscriber "external/foo" 0 none, .stopSubscriber 0,
    .createSubscriber "external/+" 1 none]

/-- The stopped exact subscriber keeps its filter in the table, so the started
wildcard subscriber never sees the message. -/
theorem stale_exact_filter_swallows :
    ∃ next : Router Unit Unit,
      dispatchIncoming (fun _ _ => .ok ()) (afterCalls staleExactCalls)
        ⟨"external/foo", .value .null⟩ = .ok next ∧
      ¬ DeliversToStarted (StartLog.empty.performAll staleExactCalls) "external/foo"
        (next.edgeCalls.map EdgeCall.subscriber) := by
  refine ⟨_, rfl, ?_⟩
  rintro ⟨delivers, _⟩
  have live : LiveMatch (StartLog.empty.performAll staleExactCalls) "external/foo"
      "external/+" := ⟨by decide, by decide⟩
  obtain ⟨filter, chosen, _, called, _⟩ := delivers ⟨_, live⟩
  have nobody : (routeMessage (fun _ _ => .ok ())
      (afterCalls staleExactCalls : Router Unit Unit)
      "external/foo" .null).edgeCalls.map EdgeCall.subscriber = [] := by decide
  rw [nobody] at called
  exact chosen.1 called.symm

end RemoteIface.Commlib.Delivery
