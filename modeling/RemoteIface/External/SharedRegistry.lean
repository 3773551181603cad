import RemoteIface.Library.Projection
import RemoteIface.Library.Slices
import RemoteIface.External.Survival

/-!
Several gateways in one process. `_dispatch_registry` of `external/events.py` is
a variable of its module: the listeners of every gateway are in the one table,
under keys that begin with `id(gateway)`. A gateway is numbered when it is made,
and it is kept, so its number is its `id`. All else that a gateway has is its
own, and the table must not let one gateway touch what another one does.
-/

namespace RemoteIface.External.SharedRegistry

set_option autoImplicit false

open RemoteIface.Library.Runs
open RemoteIface.Library.InsertionOrder
open RemoteIface.Library.Projection
open RemoteIface.Library.Slices
open RemoteIface.Commlib RemoteIface.Gateway
open RemoteIface.Commlib.Payload
open RemoteIface.Commlib.Endpoints
open RemoteIface.Gateway.Lifecycle hiding Event
open RemoteIface.HbCompat.EventBusAdapter
open RemoteIface.External.Objects hiding Event
open RemoteIface.External.Bindings
open RemoteIface.External.Hearing
open RemoteIface.External.Survival

abbrev GatewayId := Nat

/-- The registry that is a field of a host stays empty here. A dispatch closure
is known by its gateway, which the key names, and its number there. -/
structure Process (events : EventBus Handler) (Obj Resp : Type) where
  hosts : List (Host events Obj Resp)
  dispatchRegistry : OrderedDict (GatewayId × String × CallbackId) ListenerId

inductive Event (Obj Resp : Type) where
  | gateway (botNamespace : String) (threshold components : Nat)
  | own (gateway : GatewayId) (event : Objects.Event Obj Resp)

variable {events : EventBus Handler} {Obj Resp : Type}

namespace Process

def empty : Process events Obj Resp := ⟨[], .empty⟩

/-- `EEventListenerFactory.create` -/
def createListener (process : Process events Obj Resp) (gateway : GatewayId)
    (host : Host events Obj Resp) (event : String) (callback : CallbackId) :
    Process events Obj Resp :=
  let listener := host.listeners.length
  let subscribed := host.onNode host.gateway.node fun node =>
    { node with bus := node.bus.subscribe (eventKey event) (.dispatch listener) }
  { hosts := process.hosts.set gateway { subscribed with
      listeners := host.listeners ++ [⟨event, callback, host.gateway.node, false⟩] }
    dispatchRegistry := process.dispatchRegistry.set (gateway, event, callback) listener }

/-- `EEventListenerFactory.remove` -/
def removeListener (process : Process events Obj Resp) (gateway : GatewayId)
    (host : Host events Obj Resp) (event : String) (callback : CallbackId) :
    Process events Obj Resp :=
  match process.dispatchRegistry.get? (gateway, event, callback) with
  | none => process
  | some listener =>
      let unsubscribed := host.onNode host.gateway.node fun node =>
        { node with bus := node.bus.unsubscribe (eventKey event) (.dispatch listener) }
      { hosts := process.hosts.set gateway { unsubscribed with
          listeners := host.listeners.modify listener fun held => { held with removed := true } }
        dispatchRegistry := process.dispatchRegistry.pop (gateway, event, callback) }

def step (serialize : Resp → Except PyException Json) (process : Process events Obj Resp) :
    Event Obj Resp → Option (Process events Obj Resp)
  | .gateway botNamespace threshold components =>
      some { process with hosts := process.hosts ++ [.fresh botNamespace threshold components] }
  | .own gateway event =>
      match process.hosts[gateway]? with
      | none => none
      | some host =>
          match event with
          | .create event callback => some (process.createListener gateway host event callback)
          | .remove event callback => some (process.removeListener gateway host event callback)
          | event => (host.step serialize event).map fun next =>
              { process with hosts := process.hosts.set gateway next }

/-- A gateway as it would be with a registry of its own. -/
def view (process : Process events Obj Resp) (gateway : GatewayId) :
    Option (Host events Obj Resp) :=
  (process.hosts[gateway]?).map fun host =>
    { host with dispatchRegistry := slice process.dispatchRegistry gateway }

end Process

/-- What concerns one gateway: that it is made, and what happens on it. -/
inductive Sight (Obj Resp : Type) where
  | made (botNamespace : String) (threshold components : Nat)
  | moved (event : Objects.Event Obj Resp)

/-- The gateway of a process that has no other. -/
def lone (serialize : Resp → Except PyException Json) :
    Option (Host events Obj Resp) → Sight Obj Resp → Option (Option (Host events Obj Resp))
  | none, .made botNamespace threshold components =>
      some (some (.fresh botNamespace threshold components))
  | some host, .moved event => (host.step serialize event).map some
  | _, _ => none

def see (gateway : GatewayId) (process : Process events Obj Resp) :
    Event Obj Resp → Option (Sight Obj Resp)
  | .gateway botNamespace threshold components =>
      if process.hosts.length = gateway then some (.made botNamespace threshold components)
      else none
  | .own other event => if other = gateway then some (.moved event) else none

def Process.Known (process : Process events Obj Resp) : Prop :=
  ∀ gateway pair, (gateway, pair) ∈ process.dispatchRegistry.keys →
    gateway < process.hosts.length

def Unregistered : Objects.Event Obj Resp → Prop
  | .create _ _ => False
  | .remove _ _ => False
  | _ => True

theorem inside_registry (serialize : Resp → Except PyException Json) (host : Host events Obj Resp)
    (registry : OrderedDict (String × CallbackId) ListenerId) (id : ContextId)
    (event : NodeContext.Event Obj Resp) :
    Host.inside serialize { host with dispatchRegistry := registry } id event =
      (host.inside serialize id event).map fun next =>
        { next with dispatchRegistry := registry } := by
  unfold Host.inside
  dsimp only
  cases host.nodes[id]? with
  | none => rfl
  | some node =>
      cases event with
      | called call =>
          dsimp only
          rw [apply_ite (Option.map _)]
          rfl
      | _ =>
          dsimp only
          rw [Option.map_map]
          rfl

theorem send_to_registry (host : Host events Obj Resp)
    (registry : OrderedDict (String × CallbackId) ListenerId) (id : Nat)
    (instanceId topic : String) (serialized : Except PyException Json) :
    Host.sendTo { host with dispatchRegistry := registry } id instanceId topic serialized =
      (host.sendTo id instanceId topic serialized).map fun next =>
        { next with dispatchRegistry := registry } := by
  unfold Host.sendTo
  dsimp only
  cases host.multiPublishers[id]? with
  | none => rfl
  | some multi =>
      dsimp only
      cases multi.publishers.get? (topicFor host.botNamespace instanceId topic multi.useBotPrefix)
      <;> rfl

theorem step_registry {serialize : Resp → Except PyException Json} (host : Host events Obj Resp)
    (registry : OrderedDict (String × CallbackId) ListenerId) {event : Objects.Event Obj Resp}
    (spared : Unregistered event) :
    Host.step serialize { host with dispatchRegistry := registry } event =
      (host.step serialize event).map fun next => { next with dispatchRegistry := registry } := by
  cases event with
  | lifecycle event =>
      unfold Host.step Host.lifecycle
      rw [Option.map_map]
      rfl
  | inside id event => exact inside_registry serialize host registry id event
  | stop reader =>
      unfold Host.step Host.stopReader
      dsimp only
      cases host.readers[reader]? with
      | none => rfl
      | some held =>
          obtain ⟨kind, topic, node, sub, stopped⟩ := held
          cases kind <;> rfl
  | send publisher serialized =>
      unfold Host.step Host.send
      rw [Option.map_map]
      rfl
  | sendTo publisher instanceId topic serialized =>
      exact send_to_registry host registry publisher instanceId topic serialized
  | create event callback => exact absurd spared not_false
  | remove event callback => exact absurd spared not_false
  | _ => rfl

/-- What happens on a gateway moves that gateway as it would with a registry of
its own, and no other. -/
theorem own_step_cases {serialize : Resp → Except PyException Json}
    {process next : Process events Obj Resp} {gateway : GatewayId}
    {event : Objects.Event Obj Resp}
    (taken : process.step serialize (.own gateway event) = some next) :
    ∃ host moved, process.hosts[gateway]? = some host ∧
      next.hosts = process.hosts.set gateway moved ∧
      Host.step serialize { host with dispatchRegistry := slice process.dispatchRegistry gateway }
          event =
        some { moved with dispatchRegistry := slice next.dispatchRegistry gateway } ∧
      (∀ other, other ≠ gateway →
        slice next.dispatchRegistry other = slice process.dispatchRegistry other) ∧
      ∀ key ∈ next.dispatchRegistry.keys,
        key.1 = gateway ∨ key ∈ process.dispatchRegistry.keys := by
  unfold Process.step at taken
  dsimp only at taken
  cases stored : process.hosts[gateway]? with
  | none =>
      rw [stored] at taken
      cases taken
  | some host =>
      rw [stored] at taken
      refine ⟨host, ?_⟩
      by_cases spared : Unregistered event
      · have plain : (host.step serialize event).map (fun next =>
            { process with hosts := process.hosts.set gateway next }) = some next := by
          cases event <;> first | exact taken | exact absurd spared not_false
        obtain ⟨moved, stepped, rfl⟩ := Option.map_eq_some_iff.mp plain
        refine ⟨moved, rfl, rfl, ?_, fun _ _ => rfl, fun _ member => .inr member⟩
        rw [step_registry host _ spared, stepped, Option.map_some]
      · cases event with
        | create event callback =>
            cases taken
            refine ⟨_, rfl, rfl, ?_, ?_, ?_⟩
            · change some (Host.createListener _ event callback) = _
              unfold Host.createListener Process.createListener
              dsimp only
              rw [slice_set]
              rfl
            · intro other foreign
              exact slice_set_other _ foreign.symm _ _
            · intro key member
              rcases OrderedDict.mem_keys_set.mp member with rfl | old
              · exact .inl rfl
              · exact .inr old
        | remove event callback =>
            cases taken
            unfold Process.removeListener
            cases known : process.dispatchRegistry.get? (gateway, event, callback) with
            | none =>
                refine ⟨host, rfl, ?_, ?_, fun _ _ => rfl, fun _ member => .inr member⟩
                · obtain ⟨inside, same⟩ := List.getElem?_eq_some_iff.mp stored
                  rw [← same, List.set_getElem_self inside]
                · change some (Host.removeListener _ event callback) = _
                  unfold Host.removeListener
                  rw [get_slice, known]
            | some listener =>
                refine ⟨_, rfl, rfl, ?_, ?_, ?_⟩
                · change some (Host.removeListener _ event callback) = _
                  unfold Host.removeListener
                  rw [get_slice, known]
                  dsimp only
                  rw [slice_pop]
                  rfl
                · intro other foreign
                  exact slice_pop_other _ foreign.symm _
                · intro key member
                  exact .inr (OrderedDict.mem_keys_pop.mp member).1
        | _ => exact absurd trivial spared

theorem known_step {serialize : Resp → Except PyException Json}
    {process next : Process events Obj Resp} {event : Event Obj Resp} (known : process.Known)
    (taken : process.step serialize event = some next) : next.Known := by
  cases event with
  | gateway botNamespace threshold components =>
      cases taken
      intro gateway pair member
      have inside := known gateway pair member
      rw [List.length_append]
      exact Nat.lt_add_right 1 inside
  | own gateway event =>
      obtain ⟨host, moved, stored, hosts, _, _, keys⟩ := own_step_cases taken
      intro owner pair member
      rw [hosts, List.length_set]
      rcases keys _ member with rfl | old
      · exact (List.getElem?_eq_some_iff.mp stored).1
      · exact known owner pair old

theorem view_step {serialize : Resp → Except PyException Json}
    {process next : Process events Obj Resp} {event : Event Obj Resp} (gateway : GatewayId)
    (known : process.Known) (taken : process.step serialize event = some next) :
    partMove (lone serialize) (process.view gateway) (see gateway process event) =
      some (next.view gateway) := by
  cases event with
  | gateway botNamespace threshold components =>
      cases taken
      unfold see Process.view
      dsimp only
      by_cases new : process.hosts.length = gateway
      · subst new
        have unknown : slice process.dispatchRegistry process.hosts.length = .empty := by
          apply slice_unknown
          intro pair member
          exact absurd (known _ pair member) (Nat.lt_irrefl _)
        rw [if_pos rfl, unknown, List.getElem?_concat_length, List.getElem?_eq_none (Nat.le_refl _)]
        rfl
      · rw [if_neg new, List.getElem?_append]
        by_cases inside : gateway < process.hosts.length
        · rw [if_pos inside]
          rfl
        · have outside : process.hosts.length < gateway :=
            Nat.lt_of_le_of_ne (Nat.not_lt.mp inside) new
          rw [if_neg inside, List.getElem?_eq_none (Nat.not_lt.mp inside),
            List.getElem?_eq_none (Nat.sub_pos_of_lt outside)]
          rfl
  | own other event =>
      obtain ⟨host, moved, stored, hosts, stepped, foreign, _⟩ := own_step_cases taken
      unfold see Process.view
      dsimp only
      by_cases own : other = gateway
      · subst own
        have inside := (List.getElem?_eq_some_iff.mp stored).1
        rw [if_pos rfl, hosts, stored, List.getElem?_set_self inside]
        simp only [partMove, Option.map_some, lone, stepped]
      · rw [if_neg own, hosts, List.getElem?_set_ne own, foreign gateway (Ne.symm own)]
        rfl

theorem known_empty : (Process.empty : Process events Obj Resp).Known := by
  intro gateway pair member
  cases member

theorem process_projects {serialize : Resp → Except PyException Json}
    {happened : List (Event Obj Resp)} {process : Process events Obj Resp}
    (reached : run (Process.step serialize) .empty happened = some process)
    (gateway : GatewayId) :
    run (lone serialize) none
        (sights (Process.step serialize) (see gateway) (.empty : Process events Obj Resp)
          happened) =
      some (process.view gateway) :=
  run_projects (Process.step serialize) (lone serialize) (fun state => state.view gateway)
    (see gateway) (fun _ _ _ => known_step) (fun _ _ _ => view_step gateway) known_empty reached

def Settled (lonely : Option (Host events Obj Resp)) : Prop :=
  ∀ host, lonely = some host → Tied host

theorem settled_step (lawful : events.Lawful) {serialize : Resp → Except PyException Json}
    {lonely next : Option (Host events Obj Resp)} {sight : Sight Obj Resp}
    (settled : Settled lonely) (taken : lone serialize lonely sight = some next) :
    Settled next := by
  cases lonely with
  | none =>
      cases sight with
      | made botNamespace threshold components =>
          cases taken
          rintro host ⟨⟩
          exact ⟨bound_fresh _ _ _, heard_fresh lawful _ _ _⟩
      | moved event => cases taken
  | some host =>
      obtain ⟨bound, heard⟩ := settled host rfl
      cases sight with
      | made botNamespace threshold components => cases taken
      | moved event =>
          obtain ⟨after, stepped, rfl⟩ := Option.map_eq_some_iff.mp taken
          rintro found ⟨⟩
          exact ⟨bound_step bound stepped, heard_step lawful bound heard stepped⟩

/-- Whatever happens on the other gateways, each gateway is as if it had made all
its calls alone. The shared table knows for it the last listener of each pair
that is not removed, and its bus calls the listeners that are wanted there. -/
theorem gateways_share_registry (lawful : events.Lawful)
    (serialize : Resp → Except PyException Json) (happened : List (Event Obj Resp))
    (process : Process events Obj Resp)
    (reached : run (Process.step serialize) .empty happened = some process)
    (gateway : GatewayId) :
    run (lone serialize) none
        (sights (Process.step serialize) (see gateway) (.empty : Process events Obj Resp)
          happened) =
      some (process.view gateway) ∧
    ∀ host, process.hosts[gateway]? = some host →
      (∀ event callback id,
        process.dispatchRegistry.get? (gateway, event, callback) = some id ↔
          Latest host.listeners event callback id) ∧
      ∀ eventType id, .dispatch id ∈ host.receivers host.gateway.node eventType ↔
        Wanted host eventType id := by
  have projected := process_projects reached gateway
  refine ⟨projected, ?_⟩
  intro host stored
  have settled : Settled (process.view gateway) := by
    have none_yet : Settled (none : Option (Host events Obj Resp)) := by
      intro host absent
      cases absent
    exact run_invariant (lone serialize) (fun _ _ _ => settled_step lawful) none_yet projected
  have seen : process.view gateway =
      some { host with dispatchRegistry := slice process.dispatchRegistry gateway } := by
    rw [Process.view, stored, Option.map_some]
  obtain ⟨bound, heard⟩ := settled _ seen
  constructor
  · intro event callback id
    rw [← get_slice]
    exact heard.registry event callback id
  · intro eventType id
    have calls := receives_iff lawful bound heard eventType id
    exact calls

/-- Two gateways with the same callback on the same event, removed on the first. -/
def removedOnFirst : List (Event Unit Unit) :=
  [.gateway "hb" 3 1, .gateway "hb" 3 1, .own 0 (.create "fill" 2), .own 1 (.create "fill" 2),
    .own 0 (.remove "fill" 2)]

theorem second_gateway_still_hears :
    ∃ process : Process (listBus Handler) Unit Unit,
      run (Process.step noResponse) .empty removedOnFirst = some process ∧
        process.dispatchRegistry.get? (0, "fill", 2) = none ∧
        ∃ host, process.hosts[1]? = some host ∧
          .dispatch 0 ∈ host.receivers host.gateway.node (eventKey "fill") := by
  refine ⟨_, rfl, rfl, _, rfl, ?_⟩
  have shared := gateways_share_registry (list_bus_lawful Handler) noResponse removedOnFirst _ rfl 1
  exact ((shared.2 _ rfl).2 (eventKey "fill") 0).mpr ⟨⟨"fill", 2, 0, false⟩, rfl, rfl, rfl, rfl⟩

end RemoteIface.External.SharedRegistry
