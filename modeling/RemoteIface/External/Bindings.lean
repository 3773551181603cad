import RemoteIface.External.Objects

/-!
What binds an external object to a `NodeContext`: the endpoint it keeps is
still there, under its topic and started, whatever happens in between. The
events that are not the object's own leave its endpoint alone.
-/

namespace RemoteIface.External.Bindings

set_option autoImplicit false

open RemoteIface.Library.InsertionOrder
open RemoteIface.Commlib RemoteIface.Gateway
open RemoteIface.Commlib.Payload
open RemoteIface.Commlib.Endpoints
open RemoteIface.Commlib.Handles
open RemoteIface.Commlib.Subscriptions
open RemoteIface.Commlib.NodeContext
open RemoteIface.Gateway.Lifecycle
open RemoteIface.Gateway.Contexts
open RemoteIface.HbCompat.EventBusAdapter
open RemoteIface.External.Objects

variable {events : EventBus Handler} {Obj Resp : Type}

structure NodeSound (launched : Prop) (node : Node events Obj Resp) : Prop where
  prepared : node.ctx.Prepared
  tracked : ∃ log, Tracks log node.ctx.router.registry
  loopSet : launched → node.ctx.conn.loopSet = true

def NodesSound (host : Host events Obj Resp) : Prop :=
  ∀ id node, host.nodes[id]? = some node → NodeSound (id ∈ host.gateway.launched) node

/-- The endpoints of the external objects. -/
structure Bound (host : Host events Obj Resp) : Prop where
  launched : Launched host.gateway
  length : host.nodes.length = host.gateway.contexts.length
  nodes : NodesSound host
  readers : ∀ reader ∈ host.readers,
    subscriberState (host.registry reader.node) reader.sub =
      some (reader.topic, !reader.stopped)
  apart : ∀ (first second : ReaderId) one two, host.readers[first]? = some one →
    host.readers[second]? = some two → one.node = two.node → one.sub = two.sub → first = second
  publishers : ∀ publisher ∈ host.publishers,
    publisherState (host.registry publisher.node) publisher.pub = some (publisher.topic, true)
  multiPublishers : ∀ multi ∈ host.multiPublishers, ∀ topic node pub,
    multi.publishers.get? topic = some (node, pub) →
      publisherState (host.registry node) pub = some (topic, true)

theorem node_sound_fresh : NodeSound False (Node.fresh : Node events Obj Resp) where
  prepared := Context.prepared_fresh
  tracked := ⟨_, tracks_empty⟩
  loopSet := False.elim

theorem bound_fresh (botNamespace : String) (threshold components : Nat) :
    Bound (Host.fresh botNamespace threshold components : Host events Obj Resp) where
  launched := launched_fresh threshold components
  length := rfl
  nodes := by
    intro id node stored
    have fresh := List.mem_of_getElem? stored
    rw [List.mem_singleton.mp fresh]
    exact ⟨node_sound_fresh.prepared, node_sound_fresh.tracked,
      fun launched => by simp [Host.fresh, World.fresh] at launched⟩
  readers := by simp [Host.fresh]
  apart := by simp [Host.fresh]
  publishers := by simp [Host.fresh]
  multiPublishers := by simp [Host.fresh]

section

variable {host : Host events Obj Resp} {id other : ContextId}

theorem node_onNode (host : Host events Obj Resp) (id other : ContextId)
    (f : Node events Obj Resp → Node events Obj Resp) :
    (host.onNode id f).nodes[other]? =
      if id = other then (host.nodes[other]?).map f else host.nodes[other]? := by
  simp only [Host.onNode, List.getElem?_modify]
  split <;> simp

theorem registry_onNode_other (f : Node events Obj Resp → Node events Obj Resp)
    (different : id ≠ other) : (host.onNode id f).registry other = host.registry other := by
  rw [Host.registry, node_onNode, if_neg different, Host.registry]

theorem registry_onNode_self (f : Node events Obj Resp → Node events Obj Resp)
    {node : Node events Obj Resp} (stored : host.nodes[id]? = some node) :
    (host.onNode id f).registry id = (f node).ctx.router.registry := by
  simp [Host.registry, node_onNode, stored]

theorem registry_of_node {node : Node events Obj Resp} (stored : host.nodes[id]? = some node) :
    host.registry id = node.ctx.router.registry := by
  simp [Host.registry, stored]

theorem registry_onNode_missing (f : Node events Obj Resp → Node events Obj Resp)
    (missing : host.nodes[id]? = none) : (host.onNode id f).registry other = host.registry other := by
  by_cases same : id = other
  · subst same
    simp [Host.registry, node_onNode, missing]
  · exact registry_onNode_other f same

end

/-- The gateway and the number of contexts stay, and so do all endpoints but
those named. -/
structure Moves (host next : Host events Obj Resp) (sub : Option (ContextId × SubscriberId))
    (pub : Option (ContextId × PublisherId)) : Prop where
  gateway : next.gateway = host.gateway
  length : next.nodes.length = host.nodes.length
  nodes : NodesSound next
  subscribers : ∀ id other flags, sub ≠ some (id, other) →
    subscriberState (host.registry id) other = some flags →
      subscriberState (next.registry id) other = some flags
  publishers : ∀ id other flags, pub ≠ some (id, other) →
    publisherState (host.registry id) other = some flags →
      publisherState (next.registry id) other = some flags

theorem moves_onNode {host : Host events Obj Resp} {id : ContextId}
    (f : Node events Obj Resp → Node events Obj Resp) (sub : Option SubscriberId)
    (pub : Option PublisherId) (nodes : NodesSound host)
    (sound : ∀ node, host.nodes[id]? = some node →
      NodeSound (id ∈ host.gateway.launched) node → NodeSound (id ∈ host.gateway.launched) (f node))
    (subscribers : ∀ node other flags, host.nodes[id]? = some node → sub ≠ some other →
      subscriberState node.ctx.router.registry other = some flags →
        subscriberState (f node).ctx.router.registry other = some flags)
    (publishers : ∀ node other flags, host.nodes[id]? = some node → pub ≠ some other →
      publisherState node.ctx.router.registry other = some flags →
        publisherState (f node).ctx.router.registry other = some flags) :
    Moves host (host.onNode id f) (sub.map fun sub => (id, sub)) (pub.map fun pub => (id, pub)) where
  gateway := rfl
  length := by simp [Host.onNode]
  nodes := by
    intro other node stored
    rw [node_onNode] at stored
    split at stored
    · rename_i same
      subst same
      obtain ⟨before, there, rfl⟩ := Option.map_eq_some_iff.mp stored
      exact sound before there (nodes id before there)
    · exact nodes other node stored
  subscribers := by
    intro here other flags spared held
    by_cases same : id = here
    · subst same
      cases stored : host.nodes[id]? with
      | none =>
          rw [registry_onNode_missing f stored]
          exact held
      | some node =>
          rw [registry_of_node stored] at held
          rw [registry_onNode_self f stored]
          exact subscribers node other flags stored (fun equal => spared (by simp [equal])) held
    · rw [registry_onNode_other f same]
      exact held
  publishers := by
    intro here other flags spared held
    by_cases same : id = here
    · subst same
      cases stored : host.nodes[id]? with
      | none =>
          rw [registry_onNode_missing f stored]
          exact held
      | some node =>
          rw [registry_of_node stored] at held
          rw [registry_onNode_self f stored]
          exact publishers node other flags stored (fun equal => spared (by simp [equal])) held
    · rw [registry_onNode_other f same]
      exact held

theorem moves_step {serialize : Resp → Except PyException Json} {host : Host events Obj Resp}
    {id : ContextId} {event : NodeContext.Event Obj Resp}
    (f : Context Obj Resp → Context Obj Resp) (sub : Option SubscriberId)
    (pub : Option PublisherId) (nodes : NodesSound host)
    (stepped : ∀ node, host.nodes[id]? = some node →
      node.ctx.step serialize event = some (f node.ctx))
    (onSub : ∀ call, event = .called call → onSubscriber call = sub)
    (onPub : ∀ call, event = .called call → onPublisher call = pub) :
    Moves host (host.onContext id f) (sub.map fun sub => (id, sub))
      (pub.map fun pub => (id, pub)) := by
  refine moves_onNode _ sub pub nodes ?_ ?_ ?_
  · intro node stored sound
    have taken := stepped node stored
    exact ⟨Context.prepared_step sound.prepared taken, step_tracked taken sound.tracked,
      fun launched => step_loop_set sound.prepared taken (sound.loopSet launched)⟩
  · intro node other flags stored spared held
    refine step_subscriber_state (stepped node stored) held fun call isCall same => ?_
    exact spared ((onSub call isCall).symm.trans same)
  · intro node other flags stored spared held
    refine step_publisher_state (stepped node stored) held fun call isCall same => ?_
    exact spared ((onPub call isCall).symm.trans same)

theorem moves_call {host : Host events Obj Resp} (nodes : NodesSound host) (id : ContextId)
    (call : RegistryCall Obj) :
    Moves host (host.call id call) ((onSubscriber call).map fun sub => (id, sub))
      ((onPublisher call).map fun pub => (id, pub)) := by
  have stepped : ∀ node : Node events Obj Resp, host.nodes[id]? = some node →
      node.ctx.step (fun _ : Resp => .ok .null) (.called call) =
        some { node.ctx with router := node.ctx.router.perform call } := fun _ _ => rfl
  refine moves_step _ _ _ nodes stepped ?_ ?_
  · rintro other ⟨⟩
    rfl
  · rintro other ⟨⟩
    rfl

theorem moves_publish {host : Host events Obj Resp} (nodes : NodesSound host) (id : ContextId)
    (pub : PublisherId) (serialized : Except PyException Json) :
    Moves host (host.publish id pub serialized) none none := by
  have stepped : ∀ node : Node events Obj Resp, host.nodes[id]? = some node →
      node.ctx.step (fun _ : Resp => .ok .null) (.publish pub serialized) =
        some (node.ctx.publish pub serialized) := fun _ _ => rfl
  exact moves_step (fun ctx => ctx.publish pub serialized) none none nodes stepped (by simp)
    (by simp)

theorem moves_bus {host : Host events Obj Resp} (nodes : NodesSound host) (id : ContextId)
    (f : Adapter events → Adapter events) :
    Moves host (host.onNode id fun node => { node with bus := f node.bus }) none none :=
  moves_onNode (fun node => { node with bus := f node.bus }) none none nodes
    (fun _ _ sound => ⟨sound.prepared, sound.tracked, sound.loopSet⟩)
    (fun _ _ _ _ _ held => held) (fun _ _ _ _ _ held => held)

theorem Moves.relabel {host middle next : Host events Obj Resp}
    {sub : Option (ContextId × SubscriberId)} {pub : Option (ContextId × PublisherId)}
    (moves : Moves host middle sub pub) (gateway : next.gateway = middle.gateway)
    (nodes : next.nodes = middle.nodes) : Moves host next sub pub where
  gateway := gateway.trans moves.gateway
  length := by rw [nodes, moves.length]
  nodes := by
    unfold NodesSound
    rw [nodes, gateway]
    exact moves.nodes
  subscribers := by
    intro id other flags spared held
    have kept := moves.subscribers id other flags spared held
    rw [Host.registry] at kept ⊢
    rw [nodes]
    exact kept
  publishers := by
    intro id other flags spared held
    have kept := moves.publishers id other flags spared held
    rw [Host.registry] at kept ⊢
    rw [nodes]
    exact kept

/-- The objects stay bound when the endpoint that is called is none of theirs. -/
theorem Bound.of_moves {host next : Host events Obj Resp}
    {sub : Option (ContextId × SubscriberId)} {pub : Option (ContextId × PublisherId)}
    (bound : Bound host) (moves : Moves host next sub pub)
    (readers : next.readers = host.readers) (publishers : next.publishers = host.publishers)
    (multis : next.multiPublishers = host.multiPublishers)
    (sparedReaders : ∀ reader ∈ host.readers, sub ≠ some (reader.node, reader.sub))
    (sparedPublishers : ∀ publisher ∈ host.publishers, pub ≠ some (publisher.node, publisher.pub))
    (sparedMultis : ∀ multi ∈ host.multiPublishers, ∀ topic node held,
      multi.publishers.get? topic = some (node, held) → pub ≠ some (node, held)) :
    Bound next where
  launched := by
    rw [moves.gateway]
    exact bound.launched
  length := by rw [moves.length, moves.gateway, bound.length]
  nodes := moves.nodes
  readers := by
    rw [readers]
    intro reader member
    exact moves.subscribers _ _ _ (sparedReaders reader member) (bound.readers reader member)
  apart := by
    rw [readers]
    exact bound.apart
  publishers := by
    rw [publishers]
    intro publisher member
    exact moves.publishers _ _ _ (sparedPublishers publisher member)
      (bound.publishers publisher member)
  multiPublishers := by
    rw [multis]
    intro multi member topic node held cached
    exact moves.publishers _ _ _ (sparedMultis multi member topic node held cached)
      (bound.multiPublishers multi member topic node held cached)

theorem Bound.of_free_moves {host next : Host events Obj Resp} (bound : Bound host)
    (moves : Moves host next none none) (readers : next.readers = host.readers)
    (publishers : next.publishers = host.publishers)
    (multis : next.multiPublishers = host.multiPublishers) : Bound next :=
  bound.of_moves moves readers publishers multis (by simp) (by simp) (by simp)

theorem Bound.current {host : Host events Obj Resp} (bound : Bound host) :
    ∃ node, host.nodes[host.gateway.node]? = some node := by
  have inside : host.gateway.node < host.nodes.length := by
    rw [bound.length, bound.launched.last]
    exact Nat.lt_succ_self _
  exact ⟨_, List.getElem?_eq_getElem inside⟩

theorem registry_call_current {host : Host events Obj Resp} (bound : Bound host)
    (call : RegistryCall Obj) :
    (host.call host.gateway.node call).registry host.gateway.node =
      (host.registry host.gateway.node).perform call := by
  obtain ⟨node, stored⟩ := bound.current
  rw [registry_of_node stored]
  exact registry_onNode_self _ stored

theorem lifecycle_node {host next : Host events Obj Resp} {event : Lifecycle.Event}
    (taken : host.lifecycle event = some next) (id : ContextId) :
    next.nodes[id]? =
      (if id < host.nodes.length then host.nodes[id]?
        else if id < next.gateway.contexts.length then some Node.fresh else none).map
          fun node => if id ∈ next.gateway.launched then node.launch else node := by
  obtain ⟨gateway, stepped, rfl⟩ := Option.map_eq_some_iff.mp taken
  rw [List.getElem?_mapIdx]
  by_cases old : id < host.nodes.length
  · rw [if_pos old, List.getElem?_append_left old]
  · rw [if_neg old, List.getElem?_append_right (Nat.le_of_not_lt old), List.getElem?_replicate]
    dsimp only
    simp only [Nat.sub_lt_sub_iff_right (Nat.le_of_not_lt old)]

theorem launch_sound {node : Node events Obj Resp} {launched : Prop}
    (sound : NodeSound launched node) : NodeSound True node.launch where
  prepared := ⟨fun _ => rfl, fun _ => rfl⟩
  tracked := sound.tracked
  loopSet := fun _ => rfl

theorem lifecycle_contexts {host next : Host events Obj Resp} {event : Lifecycle.Event}
    (taken : host.lifecycle event = some next) : Grows host.gateway next.gateway := by
  obtain ⟨gateway, stepped, rfl⟩ := Option.map_eq_some_iff.mp taken
  exact grows_step stepped

theorem lifecycle_registry {host next : Host events Obj Resp} {event : Lifecycle.Event}
    (taken : host.lifecycle event = some next) (id : ContextId) :
    next.registry id = host.registry id := by
  rw [Host.registry, lifecycle_node taken]
  by_cases old : id < host.nodes.length
  · rw [if_pos old, Host.registry, List.getElem?_eq_getElem old]
    simp only [Option.map_some, Option.getD_some]
    split <;> rfl
  · have missing : host.nodes[id]? = none := List.getElem?_eq_none (Nat.le_of_not_lt old)
    rw [if_neg old, Host.registry, missing]
    by_cases new : id < next.gateway.contexts.length
    · rw [if_pos new, Option.map_some, Option.map_some, Option.getD_some]
      split <;> rfl
    · rw [if_neg new]
      rfl

theorem bound_lifecycle {host next : Host events Obj Resp} {event : Lifecycle.Event}
    (bound : Bound host) (taken : host.lifecycle event = some next) : Bound next := by
  have registry := lifecycle_registry taken
  have node := lifecycle_node taken
  have grows := lifecycle_contexts taken
  obtain ⟨gateway, stepped, rfl⟩ := Option.map_eq_some_iff.mp taken
  exact {
    launched := launched_step bound.launched stepped
    length := by
      have longer : host.nodes.length ≤ gateway.contexts.length := by
        rw [bound.length]
        cases grows with
        | kept _ length => exact Nat.le_of_eq length.symm
        | rebuilt _ length => exact Nat.le_of_lt (by rw [length]; exact Nat.lt_succ_self _)
      simp only [List.length_mapIdx, List.length_append, List.length_replicate]
      omega
    nodes := by
      intro id after stored
      rw [node id] at stored
      obtain ⟨before, there, rfl⟩ := Option.map_eq_some_iff.mp stored
      have sound : ∃ launched, NodeSound launched before := by
        split at there
        · exact ⟨_, bound.nodes id before there⟩
        · split at there <;> cases there
          exact ⟨_, node_sound_fresh⟩
      obtain ⟨_, sound⟩ := sound
      by_cases launched : id ∈ gateway.launched
      · rw [if_pos launched]
        have launchedSound := launch_sound sound
        exact ⟨launchedSound.prepared, launchedSound.tracked,
          fun _ => launchedSound.loopSet trivial⟩
      · rw [if_neg launched]
        exact ⟨sound.prepared, sound.tracked, fun isLaunched => absurd isLaunched launched⟩
    readers := by
      intro reader member
      rw [registry]
      exact bound.readers reader member
    apart := bound.apart
    publishers := by
      intro publisher member
      rw [registry]
      exact bound.publishers publisher member
    multiPublishers := by
      intro multi member topic id pub cached
      rw [registry]
      exact bound.multiPublishers multi member topic id pub cached }

theorem reader_inside {host : Host events Obj Resp} (bound : Bound host) {reader : Reader}
    (member : reader ∈ host.readers) :
    reader.sub < (host.registry reader.node).subscribers.length := by
  obtain ⟨_, stored, _⟩ := Option.map_eq_some_iff.mp (bound.readers reader member)
  exact (List.getElem?_eq_some_iff.mp stored).1

theorem get_concat_cases {Item : Type} {items : List Item} {last item : Item} {place : Nat}
    (stored : (items ++ [last])[place]? = some item) :
    items[place]? = some item ∨ place = items.length ∧ item = last := by
  rcases Nat.lt_trichotomy place items.length with inside | rfl | outside
  · rw [List.getElem?_append_left inside] at stored
    exact .inl stored
  · rw [List.getElem?_concat_length, Option.some.injEq] at stored
    exact .inr ⟨rfl, stored.symm⟩
  · rw [List.getElem?_eq_none (by simpa using Nat.succ_le_of_lt outside)] at stored
    cases stored

theorem bound_create_reader {host : Host events Obj Resp} (bound : Bound host) (kind : ReaderKind)
    (topic : String) (onMessage : CallbackId) : Bound (host.createReader kind topic onMessage) := by
  have made := moves_call bound.nodes host.gateway.node
    (.createSubscriber topic onMessage none)
  have moves : Moves host (host.createReader kind topic onMessage) none none :=
    made.relabel rfl rfl
  have registry : (host.createReader kind topic onMessage).registry host.gateway.node =
      (host.registry host.gateway.node).createSubscriber topic onMessage none :=
    registry_call_current bound _
  exact {
    launched := bound.launched
    length := moves.length.trans bound.length
    nodes := moves.nodes
    readers := by
      intro reader member
      rcases List.mem_append.mp member with old | new
      · exact moves.subscribers _ _ _ (by simp) (bound.readers reader old)
      · rw [List.mem_singleton.mp new, registry]
        exact create_subscriber_new _ topic onMessage none
    apart := by
      have distinct : ∀ reader ∈ host.readers, reader.node = host.gateway.node →
          reader.sub ≠ (host.registry host.gateway.node).subscribers.length := by
        intro reader member here
        have inside := reader_inside bound member
        rw [here] at inside
        exact Nat.ne_of_lt inside
      intro first second one two stored other sameNode sameSub
      rcases get_concat_cases stored with oldOne | ⟨placeOne, rfl⟩ <;>
        rcases get_concat_cases other with oldTwo | ⟨placeTwo, rfl⟩
      · exact bound.apart first second one two oldOne oldTwo sameNode sameSub
      · exact absurd sameSub (distinct one (List.mem_of_getElem? oldOne) sameNode)
      · exact absurd sameSub.symm (distinct two (List.mem_of_getElem? oldTwo) sameNode.symm)
      · exact placeOne.trans placeTwo.symm
    publishers := fun publisher member =>
      moves.publishers _ _ _ (by simp) (bound.publishers publisher member)
    multiPublishers := fun multi member topic node pub cached =>
      moves.publishers _ _ _ (by simp) (bound.multiPublishers multi member topic node pub cached) }

theorem stop_reader_cases {host next : Host events Obj Resp} {id : ReaderId}
    (taken : host.stopReader id = some next) :
    ∃ topic node sub stopped, host.readers[id]? = some ⟨.listener, topic, node, sub, stopped⟩ ∧
      next = { host.call node (.stopSubscriber sub) with
        readers := host.readers.set id ⟨.listener, topic, node, sub, true⟩ } := by
  unfold Host.stopReader at taken
  split at taken <;> cases taken
  exact ⟨_, _, _, _, ‹_›, rfl⟩

theorem bound_stop_reader {host next : Host events Obj Resp} {id : ReaderId} (bound : Bound host)
    (taken : host.stopReader id = some next) : Bound next := by
  obtain ⟨topic, node, sub, stopped, stored, rfl⟩ := stop_reader_cases taken
  have made := moves_call bound.nodes node (.stopSubscriber sub)
  have moves : Moves host { host.call node (.stopSubscriber sub) with
      readers := host.readers.set id ⟨.listener, topic, node, sub, true⟩ } (some (node, sub)) none :=
    made.relabel rfl rfl
  obtain ⟨inside, _⟩ := List.getElem?_eq_some_iff.mp stored
  have held := bound.readers _ (List.mem_of_getElem? stored)
  exact {
    launched := bound.launched
    length := moves.length.trans bound.length
    nodes := moves.nodes
    readers := by
      intro reader member
      obtain ⟨place, found⟩ := List.mem_iff_getElem?.mp member
      by_cases same : id = place
      · subst same
        rw [List.getElem?_set_self inside] at found
        cases found
        cases there : host.nodes[node]? with
        | none => simp [Host.registry, there, subscriberState, Registry.empty] at held
        | some context =>
            rw [registry_of_node there] at held
            have registry := registry_onNode_self (fun held => { held with
              ctx := { held.ctx with
                router := held.ctx.router.perform (.stopSubscriber sub) } }) there
            have stoppedNow := stop_subscriber_self held
            exact (congrArg (subscriberState · sub) registry).trans stoppedNow
      · rw [List.getElem?_set_ne same] at found
        refine moves.subscribers _ _ _ ?_ (bound.readers reader (List.mem_of_getElem? found))
        intro equal
        simp only [Option.some.injEq, Prod.mk.injEq] at equal
        exact same (bound.apart id place _ _ stored found equal.1 equal.2)
    apart := by
      intro first second one two atFirst atSecond sameNode sameSub
      have keys : ∀ (place : ReaderId) reader,
          (host.readers.set id ⟨.listener, topic, node, sub, true⟩)[place]? = some reader →
            ∃ before, host.readers[place]? = some before ∧ before.node = reader.node ∧
              before.sub = reader.sub := by
        intro place reader found
        by_cases same : id = place
        · subst same
          rw [List.getElem?_set_self inside] at found
          cases found
          exact ⟨_, stored, rfl, rfl⟩
        · rw [List.getElem?_set_ne same] at found
          exact ⟨reader, found, rfl, rfl⟩
      obtain ⟨oneBefore, oneStored, oneNode, oneSub⟩ := keys first one atFirst
      obtain ⟨twoBefore, twoStored, twoNode, twoSub⟩ := keys second two atSecond
      exact bound.apart first second _ _ oneStored twoStored
        (oneNode.trans (sameNode.trans twoNode.symm)) (oneSub.trans (sameSub.trans twoSub.symm))
    publishers := fun publisher member =>
      moves.publishers _ _ _ (by simp) (bound.publishers publisher member)
    multiPublishers := fun multi member topic node pub cached =>
      moves.publishers _ _ _ (by simp) (bound.multiPublishers multi member topic node pub cached) }

theorem made_publisher {host : Host events Obj Resp} (bound : Bound host) (topic : String) :
    publisherState ((host.call host.gateway.node (.createPublisher topic)).registry
      host.gateway.node) (host.registry host.gateway.node).publishers.length =
        some (topic, true) := by
  rw [registry_call_current bound]
  exact create_publisher_new _ topic

theorem bound_create_topic_publisher {host : Host events Obj Resp} (bound : Bound host)
    (topic : String) : Bound (host.createTopicPublisher topic) := by
  have moves : Moves host (host.createTopicPublisher topic) none none :=
    (moves_call bound.nodes host.gateway.node (.createPublisher topic)).relabel rfl rfl
  exact {
    launched := bound.launched
    length := moves.length.trans bound.length
    nodes := moves.nodes
    readers := fun reader member =>
      moves.subscribers _ _ _ (by simp) (bound.readers reader member)
    apart := bound.apart
    publishers := by
      intro publisher member
      rcases List.mem_append.mp member with old | new
      · exact moves.publishers _ _ _ (by simp) (bound.publishers publisher old)
      · rw [List.mem_singleton.mp new]
        exact made_publisher bound topic
    multiPublishers := fun multi member topic node pub cached =>
      moves.publishers _ _ _ (by simp) (bound.multiPublishers multi member topic node pub cached) }

/-- The host after `EMTopicPublisher.send` has made the publisher of a topic. -/
def cachePublisher (host : Host events Obj Resp) (id : Nat) (multi : MultiPublisher)
    (resolved : String) : Host events Obj Resp :=
  { host.call host.gateway.node (.createPublisher resolved) with
    multiPublishers := host.multiPublishers.set id { multi with
      publishers := multi.publishers.set resolved
        (host.gateway.node, (host.registry host.gateway.node).publishers.length) } }

theorem bound_cache_publisher {host : Host events Obj Resp} {id : Nat} {multi : MultiPublisher}
    (bound : Bound host) (stored : host.multiPublishers[id]? = some multi) (resolved : String) :
    Bound (cachePublisher host id multi resolved) := by
  have moves : Moves host (cachePublisher host id multi resolved) none none :=
    (moves_call bound.nodes host.gateway.node (.createPublisher resolved)).relabel rfl rfl
  have kept : ∀ other ∈ host.multiPublishers, ∀ topic node pub,
      other.publishers.get? topic = some (node, pub) →
        publisherState ((cachePublisher host id multi resolved).registry node) pub =
          some (topic, true) := fun other member topic node pub cached =>
    moves.publishers _ _ _ (by simp) (bound.multiPublishers other member topic node pub cached)
  exact {
    launched := bound.launched
    length := moves.length.trans bound.length
    nodes := moves.nodes
    readers := fun reader member =>
      moves.subscribers _ _ _ (by simp) (bound.readers reader member)
    apart := bound.apart
    publishers := fun publisher member =>
      moves.publishers _ _ _ (by simp) (bound.publishers publisher member)
    multiPublishers := by
      intro other member topic node pub cached
      rcases List.mem_or_eq_of_mem_set member with old | rfl
      · exact kept other old topic node pub cached
      · rw [OrderedDict.get_set] at cached
        split at cached
        · rename_i same
          cases cached
          rw [same]
          exact made_publisher bound resolved
        · exact kept multi (List.mem_of_getElem? stored) topic node pub cached }

theorem bound_publish {host : Host events Obj Resp} (bound : Bound host) (node : ContextId)
    (pub : PublisherId) (serialized : Except PyException Json) :
    Bound (host.publish node pub serialized) :=
  bound.of_free_moves (moves_publish bound.nodes node pub serialized) rfl rfl rfl

theorem send_to_cases {host next : Host events Obj Resp} {id : Nat} {instanceId topic : String}
    {serialized : Except PyException Json}
    (taken : host.sendTo id instanceId topic serialized = some next) :
    ∃ multi resolved, host.multiPublishers[id]? = some multi ∧
      resolved = topicFor host.botNamespace instanceId topic multi.useBotPrefix ∧
      ((∃ node pub, multi.publishers.get? resolved = some (node, pub) ∧
          next = host.publish node pub serialized) ∨
        multi.publishers.get? resolved = none ∧
          next = (cachePublisher host id multi resolved).publish host.gateway.node
            (host.registry host.gateway.node).publishers.length serialized) := by
  unfold Host.sendTo at taken
  split at taken
  · cases taken
  · rename_i multi stored
    dsimp only at taken
    split at taken <;> cases taken
    · rename_i node pub cached
      exact ⟨multi, _, stored, rfl, .inl ⟨node, pub, cached, rfl⟩⟩
    · rename_i missing
      exact ⟨multi, _, stored, rfl, .inr ⟨missing, rfl⟩⟩

theorem bound_send_to {host next : Host events Obj Resp} {id : Nat} {instanceId topic : String}
    {serialized : Except PyException Json} (bound : Bound host)
    (taken : host.sendTo id instanceId topic serialized = some next) : Bound next := by
  obtain ⟨multi, resolved, stored, _, cached | ⟨_, rfl⟩⟩ := send_to_cases taken
  · obtain ⟨node, pub, _, rfl⟩ := cached
    exact bound_publish bound node pub serialized
  · exact bound_publish (bound_cache_publisher bound stored resolved) _ _ serialized

/-- What `owns` denies is not an endpoint of an external object. -/
theorem spared_of_not_owned {host : Host events Obj Resp} {id : ContextId}
    {call : RegistryCall Obj} (free : host.owns id call = false) :
    (∀ reader ∈ host.readers,
      (onSubscriber call).map (fun sub => (id, sub)) ≠ some (reader.node, reader.sub)) ∧
    (∀ publisher ∈ host.publishers,
      (onPublisher call).map (fun pub => (id, pub)) ≠ some (publisher.node, publisher.pub)) ∧
    ∀ multi ∈ host.multiPublishers, ∀ topic node held,
      multi.publishers.get? topic = some (node, held) →
        (onPublisher call).map (fun pub => (id, pub)) ≠ some (node, held) := by
  simp only [Host.owns, Bool.or_eq_false_iff, List.any_eq_false, decide_eq_true_eq] at free
  obtain ⟨⟨readers, publishers⟩, multis⟩ := free
  refine ⟨?_, ?_, ?_⟩
  · intro reader member equal
    obtain ⟨sub, isSub, same⟩ := Option.map_eq_some_iff.mp equal
    cases same
    exact readers reader member ⟨rfl, isSub⟩
  · intro publisher member equal
    obtain ⟨pub, isPub, same⟩ := Option.map_eq_some_iff.mp equal
    cases same
    exact publishers publisher member ⟨rfl, isPub⟩
  · intro multi member topic node held cached equal
    obtain ⟨pub, isPub, same⟩ := Option.map_eq_some_iff.mp equal
    cases same
    refine multis multi member (List.any_eq_true.mpr ?_)
    exact ⟨(topic, id, held), OrderedDict.mem_of_get cached, by simpa using isPub⟩

theorem bound_inside {serialize : Resp → Except PyException Json}
    {host next : Host events Obj Resp} {id : ContextId} {event : NodeContext.Event Obj Resp}
    (bound : Bound host) (taken : host.inside serialize id event = some next) : Bound next := by
  obtain ⟨node, stored, ⟨call, _, free, rfl⟩ | ⟨noCall, ctx, stepped, rfl⟩⟩ :=
    Host.inside_cases taken
  · obtain ⟨readers, publishers, multis⟩ := spared_of_not_owned free
    exact bound.of_moves (moves_call bound.nodes id call) rfl rfl rfl readers publishers multis
  · have steppedHere : ∀ other, host.nodes[id]? = some other →
        other.ctx.step serialize event = some ((fun _ => ctx) other.ctx) := by
      intro other here
      rw [stored, Option.some.injEq] at here
      rw [← here, stepped]
    have moves := moves_step (fun _ => ctx) none none bound.nodes steppedHere
      (fun call isCall => absurd isCall (noCall call))
      (fun call isCall => absurd isCall (noCall call))
    exact bound.of_free_moves moves rfl rfl rfl

theorem bound_step {serialize : Resp → Except PyException Json} {host next : Host events Obj Resp}
    {event : Objects.Event Obj Resp} (bound : Bound host) (taken : host.step serialize event = some next) :
    Bound next := by
  cases event with
  | lifecycle event => exact bound_lifecycle bound taken
  | inside id event => exact bound_inside bound taken
  | subscribeEvent id eventType handler =>
      cases taken
      have moves := moves_bus bound.nodes id fun bus => bus.subscribe eventType (.other handler)
      exact bound.of_free_moves moves rfl rfl rfl
  | unsubscribeEvent id eventType handler =>
      cases taken
      have moves := moves_bus bound.nodes id fun bus => bus.unsubscribe eventType (.other handler)
      exact bound.of_free_moves moves rfl rfl rfl
  | topicListener instanceId topic useBotPrefix onMessage =>
      cases taken
      exact bound_create_reader bound _ _ onMessage
  | topicQueue instanceId topic useBotPrefix onMessage =>
      cases taken
      exact bound_create_reader bound _ _ onMessage
  | eventQueue event onMessage =>
      cases taken
      exact bound_create_reader bound _ _ onMessage
  | stop reader => exact bound_stop_reader bound taken
  | create event callback =>
      cases taken
      have moves := moves_bus bound.nodes host.gateway.node fun bus =>
        bus.subscribe (eventKey event) (.dispatch host.listeners.length)
      exact bound.of_free_moves (moves.relabel rfl rfl) rfl rfl rfl
  | remove event callback =>
      cases taken
      rcases host.remove_listener_cases event callback with ⟨_, same⟩ | ⟨listener, _, same⟩
      · rw [same]
        exact bound
      · rw [same]
        have moves := moves_bus bound.nodes host.gateway.node fun bus =>
          bus.unsubscribe (eventKey event) (.dispatch listener)
        exact bound.of_free_moves (moves.relabel rfl rfl) rfl rfl rfl
  | topicPublisher instanceId topic useBotPrefix =>
      cases taken
      exact bound_create_topic_publisher bound _
  | send publisher serialized =>
      obtain ⟨held, _, rfl⟩ := Option.map_eq_some_iff.mp taken
      exact bound_publish bound _ _ serialized
  | multiPublisher useBotPrefix =>
      cases taken
      exact {
        launched := bound.launched
        length := bound.length
        nodes := bound.nodes
        readers := bound.readers
        apart := bound.apart
        publishers := bound.publishers
        multiPublishers := by
          intro multi member topic node pub cached
          rcases List.mem_append.mp member with old | new
          · exact bound.multiPublishers multi old topic node pub cached
          · rw [List.mem_singleton.mp new] at cached
            simp at cached }
  | sendTo publisher instanceId topic serialized => exact bound_send_to bound taken

end RemoteIface.External.Bindings
