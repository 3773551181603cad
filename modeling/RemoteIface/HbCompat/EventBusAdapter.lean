import RemoteIface.Library.InsertionOrder

/-!
`EventBusAdapter` over the `EventBus` of a package outside this repository. Of
that bus only its surface is known: what a subscription stands for, and which
handlers a publication calls. `Lawful` states what the adapter relies on.
-/

namespace RemoteIface.HbCompat.EventBusAdapter

set_option autoImplicit false

open RemoteIface.Library.InsertionOrder

/-- The surface of `event_bus.EventBus`. `receivers` are the handlers that a
`publish` of the event type calls; `registration` is what a subscription in
force stands for. -/
structure EventBus (Handler : Type) where
  Bus : Type
  Subscription : Type
  new : Bus
  subscribe : Bus → String → Handler → Bus × Subscription
  unsubscribe : Bus → Subscription → Bus
  receivers : Bus → String → List Handler
  registration : Bus → Subscription → Option (String × Handler)

/-- A publication reaches the handlers whose subscriptions are in force. A
subscription is in force from `subscribe` to `unsubscribe`, and while it is, it
is not handed out for another handler or event type. -/
structure EventBus.Lawful {Handler : Type} (events : EventBus Handler) : Prop where
  receives : ∀ bus eventType handler, handler ∈ events.receivers bus eventType ↔
    ∃ sub, events.registration bus sub = some (eventType, handler)
  blank : ∀ sub, events.registration events.new sub = none
  subscribed : ∀ bus eventType handler,
    events.registration (events.subscribe bus eventType handler).1
      (events.subscribe bus eventType handler).2 = some (eventType, handler)
  unshared : ∀ bus eventType handler key,
    events.registration bus (events.subscribe bus eventType handler).2 = some key →
      key = (eventType, handler)
  subscribeKeeps : ∀ bus eventType handler other,
    other ≠ (events.subscribe bus eventType handler).2 →
      events.registration (events.subscribe bus eventType handler).1 other =
        events.registration bus other
  unsubscribed : ∀ bus sub, events.registration (events.unsubscribe bus sub) sub = none
  unsubscribeKeeps : ∀ bus sub other, other ≠ sub →
    events.registration (events.unsubscribe bus sub) other = events.registration bus other

/-- A publication calls the handler of every subscription in force for the event
type, once for each. -/
structure EventBus.CallsOnce {Handler : Type} (events : EventBus Handler) : Prop where
  calls : ∀ bus eventType, ∃ subs : List events.Subscription, subs.Nodup ∧
    (∀ sub, sub ∈ subs ↔
      ∃ handler, events.registration bus sub = some (eventType, handler)) ∧
    events.receivers bus eventType =
      subs.filterMap fun sub => (events.registration bus sub).map Prod.snd

variable {Handler : Type}

/-- `_bus` and `_subs`. -/
structure Adapter (events : EventBus Handler) where
  bus : events.Bus
  subs : OrderedDict (String × Handler) events.Subscription

namespace Adapter

variable {events : EventBus Handler}

def new : Adapter events := ⟨events.new, .empty⟩

/-- The handlers that `publish` calls. -/
def receivers (adapter : Adapter events) (eventType : String) : List Handler :=
  events.receivers adapter.bus eventType

/-- Values read off the handlers that are called do not repeat when no two
subscriptions lead to the same value. -/
theorem receivers_filter_map_nodup {Value : Type} (once : events.CallsOnce)
    (adapter : Adapter events) (eventType : String) {read : Handler → Option Value}
    (apart : ∀ one two first second value,
      events.registration adapter.bus one = some first → read first.2 = some value →
      events.registration adapter.bus two = some second → read second.2 = some value →
      one = two) :
    ((adapter.receivers eventType).filterMap read).Nodup := by
  obtain ⟨subs, distinct, _, called⟩ := once.calls adapter.bus eventType
  have origin : ∀ sub value,
      ((events.registration adapter.bus sub).map Prod.snd).bind read = some value →
      ∃ made, events.registration adapter.bus sub = some made ∧ read made.2 = some value := by
    intro sub value leads
    obtain ⟨handler, isHandler, gives⟩ := Option.bind_eq_some_iff.mp leads
    obtain ⟨made, registered, same⟩ := Option.map_eq_some_iff.mp isHandler
    subst same
    exact ⟨made, registered, gives⟩
  rw [receivers, called, List.filterMap_filterMap]
  apply distinct.filterMap
  intro one two value fromOne fromTwo
  obtain ⟨first, oneMade, firstGives⟩ := origin one value fromOne
  obtain ⟨second, twoMade, secondGives⟩ := origin two value fromTwo
  exact apart one two first second value oneMade firstGives twoMade secondGives

variable [DecidableEq Handler]

def subscribe (adapter : Adapter events) (eventType : String) (handler : Handler) :
    Adapter events :=
  let made := events.subscribe adapter.bus eventType handler
  ⟨made.1, adapter.subs.set (eventType, handler) made.2⟩

def unsubscribe (adapter : Adapter events) (eventType : String) (handler : Handler) :
    Adapter events :=
  match adapter.subs.get? (eventType, handler) with
  | none => { adapter with subs := adapter.subs.pop (eventType, handler) }
  | some sub =>
      ⟨events.unsubscribe adapter.bus sub, adapter.subs.pop (eventType, handler)⟩

theorem get_unsubscribe (adapter : Adapter events) (eventType : String) (handler : Handler)
    (key : String × Handler) :
    (adapter.unsubscribe eventType handler).subs.get? key =
      if key = (eventType, handler) then none else adapter.subs.get? key := by
  have popped : (adapter.unsubscribe eventType handler).subs =
      adapter.subs.pop (eventType, handler) := by
    unfold unsubscribe
    split <;> rfl
  rw [popped, OrderedDict.get_pop]

/-- `_subs` knows only subscriptions in force, each under its own key. -/
def Sound (adapter : Adapter events) : Prop :=
  ∀ key sub, adapter.subs.get? key = some sub → events.registration adapter.bus sub = some key

/-- The one subscription of the handler to the event type is in `_subs`. -/
def Holds (adapter : Adapter events) (key : String × Handler) : Prop :=
  ∃ sub, adapter.subs.get? key = some sub ∧
    ∀ other, events.registration adapter.bus other = some key ↔ other = sub

def Lacks (adapter : Adapter events) (key : String × Handler) : Prop :=
  ∀ sub, events.registration adapter.bus sub ≠ some key

theorem sound_new : (new : Adapter events).Sound := by
  intro key sub stored
  simp [new] at stored

section

variable (lawful : events.Lawful) {adapter : Adapter events} {eventType : String}
  {handler : Handler}

include lawful

theorem receives_of_holds (holds : adapter.Holds (eventType, handler)) :
    handler ∈ adapter.receivers eventType := by
  obtain ⟨sub, _, only⟩ := holds
  exact (lawful.receives _ _ _).mpr ⟨sub, (only sub).mpr rfl⟩

omit [DecidableEq Handler] in
theorem not_receives_of_lacks (lacks : adapter.Lacks (eventType, handler)) :
    handler ∉ adapter.receivers eventType := by
  intro received
  obtain ⟨sub, registered⟩ := (lawful.receives _ _ _).mp received
  exact lacks sub registered

omit [DecidableEq Handler] in
theorem lacks_new (key : String × Handler) : (new : Adapter events).Lacks key := by
  intro sub
  simp [new, lawful.blank]

theorem registration_subscribe (adapter : Adapter events) (eventType : String) (handler : Handler)
    (sub : events.Subscription) (key : String × Handler) :
    events.registration (adapter.subscribe eventType handler).bus sub = some key ↔
      (sub = (events.subscribe adapter.bus eventType handler).2 ∧ key = (eventType, handler)) ∨
        (sub ≠ (events.subscribe adapter.bus eventType handler).2 ∧
          events.registration adapter.bus sub = some key) := by
  by_cases made : sub = (events.subscribe adapter.bus eventType handler).2
  · subst made
    have here := lawful.subscribed adapter.bus eventType handler
    simp [subscribe, here, eq_comm]
  · have kept := lawful.subscribeKeeps adapter.bus eventType handler sub made
    simp [subscribe, kept, made]

theorem registration_subscribe_other {key : String × Handler}
    (different : key ≠ (eventType, handler)) (sub : events.Subscription) :
    events.registration (adapter.subscribe eventType handler).bus sub = some key ↔
      events.registration adapter.bus sub = some key := by
  rw [registration_subscribe lawful]
  constructor
  · rintro (⟨_, same⟩ | ⟨_, before⟩)
    · exact absurd same different
    · exact before
  · intro before
    refine .inr ⟨?_, before⟩
    rintro rfl
    exact different (lawful.unshared _ _ _ _ before)

theorem sound_subscribe (sound : adapter.Sound) (eventType : String) (handler : Handler) :
    (adapter.subscribe eventType handler).Sound := by
  intro key sub stored
  simp only [subscribe, OrderedDict.get_set] at stored
  split at stored
  · rename_i same
    cases stored
    exact (registration_subscribe lawful _ _ _ _ _).mpr (.inl ⟨rfl, same⟩)
  · rename_i different
    exact (registration_subscribe_other lawful different sub).mpr (sound key sub stored)

theorem holds_subscribe (lacks : adapter.Lacks (eventType, handler)) :
    (adapter.subscribe eventType handler).Holds (eventType, handler) := by
  refine ⟨_, OrderedDict.get_set_self _ _ _, fun other => ?_⟩
  rw [registration_subscribe lawful]
  simp [lacks other]

theorem lacks_subscribe_other {key : String × Handler} (lacks : adapter.Lacks key)
    (different : key ≠ (eventType, handler)) :
    (adapter.subscribe eventType handler).Lacks key := by
  intro sub
  rw [ne_eq, registration_subscribe_other lawful different]
  exact lacks sub

theorem holds_subscribe_other {key : String × Handler} (holds : adapter.Holds key)
    (different : key ≠ (eventType, handler)) :
    (adapter.subscribe eventType handler).Holds key := by
  obtain ⟨sub, stored, only⟩ := holds
  refine ⟨sub, (OrderedDict.get_set_other _ _ different).trans stored, fun other => ?_⟩
  rw [registration_subscribe_other lawful different, only other]

theorem registration_unsubscribe {sub : events.Subscription}
    (stored : adapter.subs.get? (eventType, handler) = some sub) (other : events.Subscription)
    (key : String × Handler) :
    events.registration (adapter.unsubscribe eventType handler).bus other = some key ↔
      other ≠ sub ∧ events.registration adapter.bus other = some key := by
  simp only [unsubscribe, stored]
  by_cases same : other = sub
  · subst same
    simp [lawful.unsubscribed]
  · simp [lawful.unsubscribeKeeps _ _ _ same, same]

theorem registration_unsubscribe_other (sound : adapter.Sound) {key : String × Handler}
    (different : key ≠ (eventType, handler)) (sub : events.Subscription) :
    events.registration (adapter.unsubscribe eventType handler).bus sub = some key ↔
      events.registration adapter.bus sub = some key := by
  cases stored : adapter.subs.get? (eventType, handler) with
  | none => simp only [unsubscribe, stored]
  | some ended =>
      rw [registration_unsubscribe lawful stored]
      constructor
      · exact And.right
      · intro registered
        refine ⟨?_, registered⟩
        rintro rfl
        have own := sound _ _ stored
        rw [registered] at own
        exact different (Option.some.inj own)

theorem sound_unsubscribe (sound : adapter.Sound) (eventType : String) (handler : Handler) :
    (adapter.unsubscribe eventType handler).Sound := by
  intro key sub kept
  rw [get_unsubscribe] at kept
  split at kept
  · cases kept
  · rename_i different
    exact (registration_unsubscribe_other lawful sound different sub).mpr (sound key sub kept)

theorem lacks_unsubscribe (holds : adapter.Holds (eventType, handler)) :
    (adapter.unsubscribe eventType handler).Lacks (eventType, handler) := by
  obtain ⟨sub, stored, only⟩ := holds
  intro other
  rw [ne_eq, registration_unsubscribe lawful stored, only other]
  rintro ⟨different, same⟩
  exact different same

theorem lacks_unsubscribe_any {key : String × Handler} (lacks : adapter.Lacks key)
    (eventType : String) (handler : Handler) :
    (adapter.unsubscribe eventType handler).Lacks key := by
  intro other
  cases stored : adapter.subs.get? (eventType, handler) with
  | none =>
      simp only [unsubscribe, stored]
      exact lacks other
  | some ended =>
      rw [ne_eq, registration_unsubscribe lawful stored]
      exact fun both => lacks other both.2

theorem holds_unsubscribe_other (sound : adapter.Sound) {key : String × Handler}
    (holds : adapter.Holds key) (different : key ≠ (eventType, handler)) :
    (adapter.unsubscribe eventType handler).Holds key := by
  obtain ⟨sub, held, only⟩ := holds
  refine ⟨sub, ?_, fun other => ?_⟩
  · rw [get_unsubscribe, if_neg different, held]
  · rw [registration_unsubscribe_other lawful sound different, only other]

end

end Adapter

/-- Subscriptions are numbered, and those in force are listed in the order in
which they were made. -/
structure ListBus (Handler : Type) where
  made : Nat
  inForce : OrderedDict Nat (String × Handler)
  older : ∀ sub ∈ inForce.keys, sub < made

namespace ListBus

def subscribe (bus : ListBus Handler) (eventType : String) (handler : Handler) :
    ListBus Handler × Nat :=
  (⟨bus.made + 1, bus.inForce.set bus.made (eventType, handler), by
    intro sub member
    rcases OrderedDict.mem_keys_set.mp member with rfl | old
    · exact Nat.lt_succ_self _
    · exact Nat.lt_succ_of_lt (bus.older sub old)⟩, bus.made)

def unsubscribe (bus : ListBus Handler) (sub : Nat) : ListBus Handler :=
  ⟨bus.made, bus.inForce.pop sub,
    fun other member => bus.older other (OrderedDict.mem_keys_pop.mp member).1⟩

def receivers (bus : ListBus Handler) (eventType : String) : List Handler :=
  bus.inForce.entries.filterMap fun entry =>
    if entry.2.1 = eventType then some entry.2.2 else none

end ListBus

def listBus (Handler : Type) : EventBus Handler where
  Bus := ListBus Handler
  Subscription := Nat
  new := ⟨0, .empty, by simp⟩
  subscribe := ListBus.subscribe
  unsubscribe := ListBus.unsubscribe
  receivers := ListBus.receivers
  registration := fun bus sub => bus.inForce.get? sub

theorem list_bus_lawful (Handler : Type) : (listBus Handler).Lawful where
  receives := by
    intro bus eventType handler
    simp only [listBus, ListBus.receivers, List.mem_filterMap]
    constructor
    · rintro ⟨⟨sub, event, receiver⟩, member, chosen⟩
      split at chosen <;> cases chosen
      rename_i same
      subst same
      exact ⟨sub, OrderedDict.get_of_mem member⟩
    · rintro ⟨sub, stored⟩
      exact ⟨(sub, (eventType, handler)), OrderedDict.mem_of_get stored, by simp⟩
  blank := fun _ => rfl
  subscribed := fun bus eventType handler => OrderedDict.get_set_self bus.inForce _ _
  unshared := by
    intro bus eventType handler key stored
    have member := OrderedDict.get_isSome_iff.mp (Option.isSome_of_eq_some stored)
    exact absurd (bus.older _ member) (Nat.lt_irrefl _)
  subscribeKeeps := fun bus eventType handler other different =>
    OrderedDict.get_set_other bus.inForce _ different
  unsubscribed := by
    intro bus sub
    exact (OrderedDict.get_pop bus.inForce sub sub).trans (if_pos rfl)
  unsubscribeKeeps := by
    intro bus sub other different
    exact (OrderedDict.get_pop bus.inForce sub other).trans (if_neg different)

theorem ListBus.receivers_once (bus : ListBus Handler) (eventType : String) :
    ∃ subs : List Nat, subs.Nodup ∧
      (∀ sub, sub ∈ subs ↔ ∃ handler, bus.inForce.get? sub = some (eventType, handler)) ∧
      bus.receivers eventType =
        subs.filterMap fun sub => (bus.inForce.get? sub).map Prod.snd := by
  have known : ∀ entry ∈ bus.inForce.entries,
      bus.inForce.get? entry.1 = some entry.2 := fun _ member => OrderedDict.get_of_mem member
  refine ⟨(bus.inForce.entries.filter fun entry => entry.2.1 = eventType).map Prod.fst,
    ?_, ?_, ?_⟩
  · exact bus.inForce.uniqueKeys.sublist (List.filter_sublist.map Prod.fst)
  · intro sub
    rw [List.mem_map]
    constructor
    · rintro ⟨entry, member, rfl⟩
      rw [List.mem_filter, decide_eq_true_eq] at member
      refine ⟨entry.2.2, (known entry member.1).trans ?_⟩
      rw [← member.2]
    · rintro ⟨handler, stored⟩
      refine ⟨(sub, (eventType, handler)), ?_, rfl⟩
      exact List.mem_filter.mpr ⟨OrderedDict.mem_of_get stored, by simp⟩
  · unfold ListBus.receivers
    generalize bus.inForce.entries = entries at known
    induction entries with
    | nil => rfl
    | cons entry rest induction =>
        have later := induction fun other member => known other (List.mem_cons_of_mem _ member)
        have here := known entry List.mem_cons_self
        by_cases same : entry.2.1 = eventType
        · simp [same, here, later]
        · simp [same, later]

theorem list_bus_calls_once (Handler : Type) : (listBus Handler).CallsOnce where
  calls := ListBus.receivers_once

end RemoteIface.HbCompat.EventBusAdapter
