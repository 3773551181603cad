import RemoteIface.External.Bindings

/-!
The listeners of `EEventListenerFactory` on the event bus of the current
`NodeContext`. The bus holds exactly the listeners that were created on this
context and not removed since, and the registry of the dispatch closures knows
the last listener of every event and callback.
-/

namespace RemoteIface.External.Hearing

set_option autoImplicit false

open RemoteIface.Library.InsertionOrder
open RemoteIface.Commlib RemoteIface.Gateway
open RemoteIface.Commlib.Payload
open RemoteIface.Commlib.Endpoints
open RemoteIface.Gateway.Lifecycle
open RemoteIface.Gateway.Contexts
open RemoteIface.HbCompat.EventBusAdapter
open RemoteIface.External.Objects
open RemoteIface.External.Bindings

variable {events : EventBus Handler} {Obj Resp : Type}

/-- The listener was created for the event type on the current context and has
not been removed. -/
def Wanted (host : Host events Obj Resp) (eventType : String) (id : ListenerId) : Prop :=
  ∃ listener, host.listeners[id]? = some listener ∧ listener.node = host.gateway.node ∧
    eventKey listener.event = eventType ∧ listener.removed = false

/-- The last listener that was created for the event and the callback. -/
def Latest (listeners : List EventListener) (event : String) (callback : CallbackId)
    (id : ListenerId) : Prop :=
  (∃ listener, listeners[id]? = some listener ∧ listener.event = event ∧
    listener.callback = callback ∧ listener.removed = false) ∧
  ∀ later other, id < later → listeners[later]? = some other →
    ¬ (other.event = event ∧ other.callback = callback)

def Serves (host : Host events Obj Resp) (bus : Adapter events) : Prop :=
  bus.Sound ∧ ∀ id eventType,
    (Wanted host eventType id → bus.Holds (eventType, .dispatch id)) ∧
    (¬ Wanted host eventType id → bus.Lacks (eventType, .dispatch id))

structure Heard (host : Host events Obj Resp) : Prop where
  created : ∀ listener ∈ host.listeners, listener.node ≤ host.gateway.node
  serves : ∀ node, host.nodes[host.gateway.node]? = some node → Serves host node.bus
  registry : ∀ event callback id, host.dispatchRegistry.get? (event, callback) = some id ↔
    Latest host.listeners event callback id

theorem Latest.unique {listeners : List EventListener} {event : String} {callback : CallbackId}
    {one two : ListenerId} (first : Latest listeners event callback one)
    (second : Latest listeners event callback two) : one = two := by
  obtain ⟨⟨listener, stored, sameEvent, sameCallback, _⟩, last⟩ := first
  obtain ⟨⟨other, otherStored, otherEvent, otherCallback, _⟩, otherLast⟩ := second
  rcases Nat.lt_trichotomy one two with earlier | same | later
  · exact absurd ⟨otherEvent, otherCallback⟩ (last two other earlier otherStored)
  · exact same
  · exact absurd ⟨sameEvent, sameCallback⟩ (otherLast one listener later stored)

theorem Heard.wanted_of_registration {host : Host events Obj Resp} (heard : Heard host)
    {node : Node events Obj Resp} (stored : host.nodes[host.gateway.node]? = some node)
    {sub : events.Subscription} {eventType : String} {id : ListenerId}
    (made : events.registration node.bus.bus sub = some (eventType, .dispatch id)) :
    Wanted host eventType id := by
  by_contra unwanted
  exact ((heard.serves node stored).2 id eventType).2 unwanted sub made

theorem Heard.subscription_unique {host : Host events Obj Resp} (heard : Heard host)
    {node : Node events Obj Resp} (stored : host.nodes[host.gateway.node]? = some node)
    {one two : events.Subscription} {first second : String} {id : ListenerId}
    (oneMade : events.registration node.bus.bus one = some (first, .dispatch id))
    (twoMade : events.registration node.bus.bus two = some (second, .dispatch id)) :
    one = two := by
  have firstWanted := heard.wanted_of_registration stored oneMade
  have same : first = second := by
    obtain ⟨listener, there, _, firstKey, _⟩ := firstWanted
    obtain ⟨other, otherThere, _, secondKey, _⟩ := heard.wanted_of_registration stored twoMade
    rw [there, Option.some.injEq] at otherThere
    rw [← firstKey, otherThere, secondKey]
  rw [← same] at twoMade
  obtain ⟨_, _, only⟩ := ((heard.serves node stored).2 id first).1 firstWanted
  rw [(only one).mp oneMade, (only two).mp twoMade]

/-- A fresh bus serves a host none of whose listeners is on the current context. -/
theorem serves_new (lawful : events.Lawful) {host : Host events Obj Resp}
    (elsewhere : ∀ listener ∈ host.listeners, listener.node ≠ host.gateway.node) :
    Serves host (.new : Adapter events) := by
  refine ⟨Adapter.sound_new, fun id eventType => ⟨?_, fun _ => Adapter.lacks_new lawful _⟩⟩
  rintro ⟨listener, stored, here, _⟩
  exact absurd here (elsewhere listener (List.mem_of_getElem? stored))

theorem heard_fresh (lawful : events.Lawful) (botNamespace : String) (threshold components : Nat) :
    Heard (Host.fresh botNamespace threshold components : Host events Obj Resp) where
  created := by simp [Host.fresh]
  serves := by
    intro node stored
    rw [List.mem_singleton.mp (List.mem_of_getElem? stored)]
    exact serves_new lawful (by simp [Host.fresh])
  registry := by
    intro event callback id
    simp [Host.fresh, Latest]

theorem Heard.of_same {host next : Host events Obj Resp} (heard : Heard host)
    (gateway : next.gateway = host.gateway) (listeners : next.listeners = host.listeners)
    (registry : next.dispatchRegistry = host.dispatchRegistry)
    (bus : ∀ node, next.nodes[host.gateway.node]? = some node →
      ∃ before, host.nodes[host.gateway.node]? = some before ∧ before.bus = node.bus) :
    Heard next where
  created := by
    rw [listeners, gateway]
    exact heard.created
  serves := by
    intro node stored
    rw [gateway] at stored
    obtain ⟨before, there, same⟩ := bus node stored
    have served := heard.serves before there
    rw [same] at served
    unfold Serves Wanted at served ⊢
    rw [listeners, gateway]
    exact served
  registry := by
    rw [listeners, registry]
    exact heard.registry

theorem heard_onContext {host : Host events Obj Resp} (heard : Heard host) (id : ContextId)
    (f : NodeContext.Context Obj Resp → NodeContext.Context Obj Resp) :
    Heard (host.onContext id f) := by
  refine heard.of_same rfl rfl rfl fun node stored => ?_
  rw [Host.onContext, node_onNode] at stored
  split at stored
  · obtain ⟨before, there, rfl⟩ := Option.map_eq_some_iff.mp stored
    exact ⟨before, there, rfl⟩
  · exact ⟨node, stored, rfl⟩

theorem heard_lifecycle (lawful : events.Lawful) {host next : Host events Obj Resp}
    {event : Lifecycle.Event} (bound : Bound host) (heard : Heard host)
    (taken : host.lifecycle event = some next) : Heard next := by
  have node := lifecycle_node taken
  have grows := lifecycle_contexts taken
  have listeners : next.listeners = host.listeners ∧
      next.dispatchRegistry = host.dispatchRegistry := by
    obtain ⟨gateway, _, rfl⟩ := Option.map_eq_some_iff.mp taken
    exact ⟨rfl, rfl⟩
  have older : host.gateway.node < host.nodes.length := by
    rw [bound.length, bound.launched.last]
    exact Nat.lt_succ_self _
  cases grows with
  | kept current _ =>
      exact {
        created := by
          rw [listeners.1, current]
          exact heard.created
        serves := by
          intro after stored
          rw [node, current, if_pos older] at stored
          obtain ⟨before, there, rfl⟩ := Option.map_eq_some_iff.mp stored
          have served := heard.serves before there
          unfold Serves Wanted at served ⊢
          rw [listeners.1, current]
          split <;> exact served
        registry := by
          rw [listeners.1, listeners.2]
          exact heard.registry }
  | rebuilt current _ =>
      have newer : host.gateway.node < next.gateway.node := by
        rw [current, ← bound.length]
        exact older
      exact {
        created := by
          rw [listeners.1]
          exact fun listener member =>
            Nat.le_of_lt (Nat.lt_of_le_of_lt (heard.created listener member) newer)
        serves := by
          intro after stored
          have fresh : ¬ next.gateway.node < host.nodes.length := by
            rw [current, bound.length]
            exact Nat.lt_irrefl _
          rw [node, if_neg fresh] at stored
          have blank : after.bus = .new := by
            obtain ⟨before, there, rfl⟩ := Option.map_eq_some_iff.mp stored
            split at there <;> cases there
            split <;> rfl
          rw [blank]
          refine serves_new lawful ?_
          rw [listeners.1]
          intro listener member same
          have earlier := heard.created listener member
          rw [same] at earlier
          exact absurd newer (Nat.not_lt_of_le earlier)
        registry := by
          rw [listeners.1, listeners.2]
          exact heard.registry }

theorem heard_other_bus {host : Host events Obj Resp} (heard : Heard host) (id : ContextId)
    (f : Adapter events → Adapter events)
    (serves : ∀ bus, Serves host bus → Serves host (f bus)) :
    Heard (host.onNode id fun node => { node with bus := f node.bus }) where
  created := heard.created
  serves := by
    intro node stored
    have stored : (host.onNode id fun node => { node with bus := f node.bus }).nodes[
        host.gateway.node]? = some node := stored
    rw [node_onNode] at stored
    split at stored
    · obtain ⟨before, there, rfl⟩ := Option.map_eq_some_iff.mp stored
      exact serves before.bus (heard.serves before there)
    · exact heard.serves node stored
  registry := heard.registry

theorem wanted_create {host : Host events Obj Resp} (event : String) (callback : CallbackId)
    (eventType : String) (id : ListenerId) :
    Wanted (host.createListener event callback) eventType id ↔
      Wanted host eventType id ∨ id = host.listeners.length ∧ eventKey event = eventType := by
  unfold Wanted Host.createListener
  constructor
  · rintro ⟨listener, stored, here, key, kept⟩
    rcases get_concat_cases stored with old | ⟨rfl, rfl⟩
    · exact .inl ⟨listener, old, here, key, kept⟩
    · exact .inr ⟨rfl, key⟩
  · rintro (⟨listener, stored, here, key, kept⟩ | ⟨rfl, key⟩)
    · have inside := (List.getElem?_eq_some_iff.mp stored).1
      exact ⟨listener, (List.getElem?_append_left inside).trans stored, here, key, kept⟩
    · exact ⟨_, List.getElem?_concat_length, rfl, key, rfl⟩

theorem not_wanted_new {host : Host events Obj Resp} (eventType : String) :
    ¬ Wanted host eventType host.listeners.length := by
  rintro ⟨listener, stored, _⟩
  rw [List.getElem?_eq_none (Nat.le_refl _)] at stored
  cases stored

theorem latest_create {listeners : List EventListener} (made : EventListener)
    (kept : made.removed = false) (event : String) (callback : CallbackId) (id : ListenerId) :
    Latest (listeners ++ [made]) event callback id ↔
      if (event, callback) = (made.event, made.callback) then id = listeners.length
      else Latest listeners event callback id := by
  split
  · rename_i same
    obtain ⟨rfl, rfl⟩ := Prod.mk.inj same
    have newest : Latest (listeners ++ [made]) made.event made.callback listeners.length := by
      refine ⟨⟨made, List.getElem?_concat_length, rfl, rfl, kept⟩, fun later other after stored => ?_⟩
      rcases get_concat_cases stored with old | ⟨rfl, _⟩
      · exact absurd (List.getElem?_eq_some_iff.mp old).1 (Nat.not_lt_of_lt after)
      · exact absurd after (Nat.lt_irrefl _)
    constructor
    · exact fun latest => latest.unique newest
    · rintro rfl
      exact newest
  · rename_i different
    constructor
    · rintro ⟨⟨listener, stored, sameEvent, sameCallback, unremoved⟩, last⟩
      rcases get_concat_cases stored with old | ⟨_, rfl⟩
      · refine ⟨⟨listener, old, sameEvent, sameCallback, unremoved⟩, fun later other after found => ?_⟩
        have inside := (List.getElem?_eq_some_iff.mp found).1
        exact last later other after ((List.getElem?_append_left inside).trans found)
      · exact absurd (by rw [sameEvent, sameCallback]) different
    · rintro ⟨⟨listener, stored, sameEvent, sameCallback, unremoved⟩, last⟩
      have inside := (List.getElem?_eq_some_iff.mp stored).1
      refine ⟨⟨listener, (List.getElem?_append_left inside).trans stored, sameEvent, sameCallback,
        unremoved⟩, fun later other after found => ?_⟩
      rcases get_concat_cases found with old | ⟨_, rfl⟩
      · exact last later other after old
      · rintro ⟨rfl, rfl⟩
        exact different rfl

theorem get_removed {listeners : List EventListener} {id place : ListenerId}
    {listener : EventListener} :
    (listeners.modify id fun held => { held with removed := true })[place]? = some listener ↔
      ∃ before, listeners[place]? = some before ∧
        listener = if id = place then { before with removed := true } else before := by
  rw [List.getElem?_modify, Option.map_eq_map, Option.map_eq_some_iff]
  constructor <;> rintro ⟨before, stored, same⟩ <;> exact ⟨before, stored, same.symm⟩

/-- The latest listeners after the latest of one event and callback has been
removed. -/
theorem latest_remove {listeners : List EventListener} {event : String} {callback : CallbackId}
    {id : ListenerId} (latest : Latest listeners event callback id) (other : String)
    (held : CallbackId) (place : ListenerId) :
    Latest (listeners.modify id fun listener => { listener with removed := true }) other held place ↔
      (other, held) ≠ (event, callback) ∧ Latest listeners other held place := by
  have keys : ∀ (later : ListenerId) (found : EventListener),
      (listeners.modify id fun listener => { listener with removed := true })[later]? =
        some found → ∃ before, listeners[later]? = some before ∧
          before.event = found.event ∧ before.callback = found.callback := by
    intro later found stored
    obtain ⟨before, there, rfl⟩ := get_removed.mp stored
    refine ⟨before, there, ?_⟩
    split <;> exact ⟨rfl, rfl⟩
  constructor
  · rintro ⟨⟨listener, stored, sameEvent, sameCallback, kept⟩, last⟩
    obtain ⟨before, there, rfl⟩ := get_removed.mp stored
    split at kept
    · cases kept
    · rename_i different
      rw [if_neg different] at sameEvent sameCallback
      have before_latest : Latest listeners other held place := by
        refine ⟨⟨before, there, sameEvent, sameCallback, kept⟩, fun later found after atLater => ?_⟩
        have there := last later _ after (get_removed.mpr ⟨found, atLater, rfl⟩)
        intro same
        refine there ?_
        split <;> exact same
      refine ⟨fun same => ?_, before_latest⟩
      obtain ⟨rfl, rfl⟩ := Prod.mk.inj same
      exact different (latest.unique before_latest)
  · rintro ⟨different, ⟨listener, stored, sameEvent, sameCallback, kept⟩, last⟩
    have apart : id ≠ place := by
      rintro rfl
      obtain ⟨⟨same, sameStored, isEvent, isCallback, _⟩, _⟩ := latest
      rw [stored, Option.some.injEq] at sameStored
      subst sameStored
      exact different (by rw [← sameEvent, ← sameCallback, isEvent, isCallback])
    refine ⟨⟨listener, get_removed.mpr ⟨listener, stored, by rw [if_neg apart]⟩, sameEvent,
      sameCallback, kept⟩, fun later found after atLater => ?_⟩
    obtain ⟨before, there, isEvent, isCallback⟩ := keys later found atLater
    rw [← isEvent, ← isCallback]
    exact last later before after there

/-- A removal does nothing, or it ends the latest listener of the event and the
callback. -/
theorem remove_cases {host : Host events Obj Resp} (heard : Heard host) (event : String)
    (callback : CallbackId) :
    ((∀ id, ¬ Latest host.listeners event callback id) ∧
        host.removeListener event callback = host) ∨
      ∃ id, Latest host.listeners event callback id ∧
        host.removeListener event callback =
          { host.onNode host.gateway.node fun node =>
              { node with bus := node.bus.unsubscribe (eventKey event) (.dispatch id) } with
            listeners := host.listeners.modify id fun held => { held with removed := true }
            dispatchRegistry := host.dispatchRegistry.pop (event, callback) } := by
  rcases host.remove_listener_cases event callback with ⟨missing, same⟩ | ⟨id, stored, same⟩
  · left
    constructor
    · intro id latest
      rw [(heard.registry event callback id).mpr latest] at missing
      cases missing
    · exact same
  · exact .inr ⟨id, (heard.registry event callback id).mp stored, same⟩

theorem wanted_remove {host : Host events Obj Resp} {event : String} {callback : CallbackId}
    {removed : ListenerId}
    (same : host.removeListener event callback =
      { host.onNode host.gateway.node fun node =>
          { node with bus := node.bus.unsubscribe (eventKey event) (.dispatch removed) } with
        listeners := host.listeners.modify removed fun held => { held with removed := true }
        dispatchRegistry := host.dispatchRegistry.pop (event, callback) })
    (eventType : String) (id : ListenerId) :
    Wanted (host.removeListener event callback) eventType id ↔
      id ≠ removed ∧ Wanted host eventType id := by
  rw [same]
  unfold Wanted
  constructor
  · rintro ⟨listener, stored, here, key, kept⟩
    obtain ⟨before, there, rfl⟩ := get_removed.mp stored
    split at kept
    · cases kept
    · rename_i different
      rw [if_neg different] at here key
      exact ⟨fun equal => different equal.symm, before, there, here, key, kept⟩
  · rintro ⟨different, listener, stored, here, key, kept⟩
    refine ⟨listener, get_removed.mpr ⟨listener, stored, ?_⟩, here, key, kept⟩
    rw [if_neg fun equal => different equal.symm]

section

variable (lawful : events.Lawful)

include lawful

theorem serves_subscribe_other {host : Host events Obj Resp} {bus : Adapter events}
    (served : Serves host bus) (eventType : String) (handler : Nat) :
    Serves host (bus.subscribe eventType (.other handler)) :=
  ⟨Adapter.sound_subscribe lawful served.1 _ _, fun id key =>
    ⟨fun wanted => Adapter.holds_subscribe_other lawful ((served.2 id key).1 wanted) (by simp),
      fun unwanted => Adapter.lacks_subscribe_other lawful ((served.2 id key).2 unwanted)
        (by simp)⟩⟩

theorem serves_unsubscribe_other {host : Host events Obj Resp} {bus : Adapter events}
    (served : Serves host bus) (eventType : String) (handler : Nat) :
    Serves host (bus.unsubscribe eventType (.other handler)) :=
  ⟨Adapter.sound_unsubscribe lawful served.1 _ _, fun id key =>
    ⟨fun wanted => Adapter.holds_unsubscribe_other lawful served.1 ((served.2 id key).1 wanted)
        (by simp),
      fun unwanted => Adapter.lacks_unsubscribe_any lawful ((served.2 id key).2 unwanted) _ _⟩⟩

theorem heard_create {host : Host events Obj Resp} (heard : Heard host) (event : String)
    (callback : CallbackId) : Heard (host.createListener event callback) where
  created := by
    intro listener member
    rcases List.mem_append.mp member with old | new
    · exact heard.created listener old
    · rw [List.mem_singleton.mp new]
      exact Nat.le_refl _
  serves := by
    intro node stored
    have changed : (host.onNode host.gateway.node fun node =>
        { node with
          bus := node.bus.subscribe (eventKey event) (.dispatch host.listeners.length) }).nodes[
            host.gateway.node]? = some node := stored
    rw [node_onNode, if_pos rfl] at changed
    obtain ⟨before, there, rfl⟩ := Option.map_eq_some_iff.mp changed
    obtain ⟨sound, served⟩ := heard.serves before there
    refine ⟨Adapter.sound_subscribe lawful sound _ _, fun id eventType => ?_⟩
    rw [wanted_create]
    by_cases same : (eventType, Handler.dispatch id) =
        (eventKey event, Handler.dispatch host.listeners.length)
    · simp only [Prod.mk.injEq, Handler.dispatch.injEq] at same
      obtain ⟨rfl, rfl⟩ := same
      have made := Adapter.holds_subscribe lawful
        ((served _ (eventKey event)).2 (not_wanted_new _))
      exact ⟨fun _ => made, fun unwanted => absurd (.inr ⟨rfl, rfl⟩) unwanted⟩
    · have other : ¬ (id = host.listeners.length ∧ eventKey event = eventType) := by
        rintro ⟨rfl, rfl⟩
        exact same rfl
      simp only [other, or_false]
      exact ⟨fun wanted => Adapter.holds_subscribe_other lawful ((served id eventType).1 wanted) same,
        fun unwanted =>
          Adapter.lacks_subscribe_other lawful ((served id eventType).2 unwanted) same⟩
  registry := by
    intro other held id
    simp only [Host.createListener, OrderedDict.get_set]
    rw [latest_create _ rfl]
    split
    · simp [eq_comm]
    · exact heard.registry other held id

theorem heard_remove {host : Host events Obj Resp} (heard : Heard host) (event : String)
    (callback : CallbackId) : Heard (host.removeListener event callback) := by
  rcases remove_cases heard event callback with ⟨_, same⟩ | ⟨removed, latest, same⟩
  · rw [same]
    exact heard
  have wanted := wanted_remove same
  rw [same] at wanted ⊢
  exact {
    created := by
      intro listener member
      obtain ⟨place, stored⟩ := List.mem_iff_getElem?.mp member
      obtain ⟨before, there, rfl⟩ := get_removed.mp stored
      have earlier := heard.created before (List.mem_of_getElem? there)
      split <;> exact earlier
    serves := by
      intro node stored
      have changed : (host.onNode host.gateway.node fun node =>
          { node with bus := node.bus.unsubscribe (eventKey event) (.dispatch removed) }).nodes[
            host.gateway.node]? = some node := stored
      rw [node_onNode, if_pos rfl] at changed
      obtain ⟨before, there, rfl⟩ := Option.map_eq_some_iff.mp changed
      obtain ⟨sound, served⟩ := heard.serves before there
      refine ⟨Adapter.sound_unsubscribe lawful sound _ _, fun id eventType => ?_⟩
      rw [wanted eventType id]
      by_cases isRemoved : id = removed
      · subst isRemoved
        refine ⟨fun both => absurd rfl both.1, fun _ => ?_⟩
        by_cases was : Wanted host eventType id
        · have key : eventType = eventKey event := by
            obtain ⟨⟨listener, atId, sameEvent, _⟩, _⟩ := latest
            obtain ⟨other, atIdToo, _, isKey, _⟩ := was
            rw [atId, Option.some.injEq] at atIdToo
            rw [← isKey, ← atIdToo, sameEvent]
          subst key
          exact Adapter.lacks_unsubscribe lawful ((served id _).1 was)
        · exact Adapter.lacks_unsubscribe_any lawful ((served id eventType).2 was) _ _
      · have different : (eventType, Handler.dispatch id) ≠
            (eventKey event, Handler.dispatch removed) := by simp [isRemoved]
        refine ⟨fun both => ?_, fun unwanted => ?_⟩
        · exact Adapter.holds_unsubscribe_other lawful sound ((served id eventType).1 both.2) different
        · have was : ¬ Wanted host eventType id := fun was => unwanted ⟨isRemoved, was⟩
          exact Adapter.lacks_unsubscribe_any lawful ((served id eventType).2 was) _ _
    registry := by
      intro other held id
      rw [latest_remove latest, OrderedDict.get_pop]
      split
      · rename_i same
        simp [same]
      · rename_i different
        rw [heard.registry]
        exact ⟨fun here => ⟨different, here⟩, fun both => both.2⟩ }

theorem heard_step {serialize : Resp → Except PyException Json} {host next : Host events Obj Resp}
    {event : Objects.Event Obj Resp} (bound : Bound host) (heard : Heard host)
    (taken : host.step serialize event = some next) : Heard next := by
  cases event with
  | lifecycle event => exact heard_lifecycle lawful bound heard taken
  | inside id event =>
      obtain ⟨_, _, ⟨call, _, _, rfl⟩ | ⟨_, ctx, _, rfl⟩⟩ := Host.inside_cases taken
      · exact heard_onContext heard id _
      · exact heard_onContext heard id fun _ => ctx
  | subscribeEvent id eventType handler =>
      cases taken
      exact heard_other_bus heard id (fun bus => bus.subscribe eventType (.other handler))
        fun bus served => serves_subscribe_other lawful served eventType handler
  | unsubscribeEvent id eventType handler =>
      cases taken
      exact heard_other_bus heard id (fun bus => bus.unsubscribe eventType (.other handler))
        fun bus served => serves_unsubscribe_other lawful served eventType handler
  | topicListener instanceId topic useBotPrefix onMessage =>
      cases taken
      have called := heard_onContext heard host.gateway.node fun ctx => { ctx with
        router := ctx.router.perform (.createSubscriber
          (topicFor host.botNamespace instanceId topic useBotPrefix) onMessage none) }
      exact ⟨called.created, called.serves, called.registry⟩
  | topicQueue instanceId topic useBotPrefix onMessage =>
      cases taken
      have called := heard_onContext heard host.gateway.node fun ctx => { ctx with
        router := ctx.router.perform (.createSubscriber
          (topicFor host.botNamespace instanceId topic useBotPrefix) onMessage none) }
      exact ⟨called.created, called.serves, called.registry⟩
  | eventQueue event onMessage =>
      cases taken
      have called := heard_onContext heard host.gateway.node fun ctx => { ctx with
        router := ctx.router.perform (.createSubscriber (eventTopic event) onMessage none) }
      exact ⟨called.created, called.serves, called.registry⟩
  | stop reader =>
      obtain ⟨topic, node, sub, stopped, _, rfl⟩ := stop_reader_cases taken
      have called := heard_onContext heard node fun ctx => { ctx with
        router := ctx.router.perform (.stopSubscriber sub) }
      exact ⟨called.created, called.serves, called.registry⟩
  | create event callback =>
      cases taken
      exact heard_create lawful heard event callback
  | remove event callback =>
      cases taken
      exact heard_remove lawful heard event callback
  | topicPublisher instanceId topic useBotPrefix =>
      cases taken
      have called := heard_onContext heard host.gateway.node fun ctx => { ctx with
        router := ctx.router.perform (.createPublisher
          (topicFor host.botNamespace instanceId topic useBotPrefix)) }
      exact ⟨called.created, called.serves, called.registry⟩
  | send publisher serialized =>
      obtain ⟨held, _, rfl⟩ := Option.map_eq_some_iff.mp taken
      exact heard_onContext heard held.node fun ctx => ctx.publish held.pub serialized
  | multiPublisher useBotPrefix =>
      cases taken
      exact ⟨heard.created, heard.serves, heard.registry⟩
  | sendTo publisher instanceId topic serialized =>
      obtain ⟨multi, resolved, stored, _, cached | ⟨_, rfl⟩⟩ := send_to_cases taken
      · obtain ⟨node, pub, _, rfl⟩ := cached
        exact heard_onContext heard node fun ctx => ctx.publish pub serialized
      · have called := heard_onContext heard host.gateway.node fun ctx => { ctx with
          router := ctx.router.perform (.createPublisher resolved) }
        have cached : Heard (cachePublisher host publisher multi resolved) :=
          ⟨called.created, called.serves, called.registry⟩
        exact heard_onContext cached host.gateway.node fun ctx =>
          ctx.publish (host.registry host.gateway.node).publishers.length serialized

end

end RemoteIface.External.Hearing
