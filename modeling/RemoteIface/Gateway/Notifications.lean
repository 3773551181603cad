import RemoteIface.Gateway.Outbox

/-!
The notifications of a gateway. `MQTTNotifier` numbers them with `_seq`, which
outlives its publisher, so the numbers go on over stops, restarts and the
contexts these make. `add_msg_to_queue` takes no lock: it counts, reads the count
back and publishes in three steps, between which the rest of the gateway moves.
-/

namespace RemoteIface.Gateway.Notifications

set_option autoImplicit false

open RemoteIface.Library.Runs
open RemoteIface.Commlib RemoteIface.Gateway
open RemoteIface.Commlib.Payload
open RemoteIface.Commlib.Endpoints
open RemoteIface.Commlib.Rpc
open RemoteIface.Commlib.Dispatch (Router)
open RemoteIface.Commlib.Handles
open RemoteIface.Commlib.NodeContext
open RemoteIface.Commlib.OutgoingQueue
open RemoteIface.Commlib.OutgoingLog
open RemoteIface.Protocols.Messages
open RemoteIface.Gateway.Wiring
open RemoteIface.Gateway.TopicTables
open RemoteIface.Gateway.Traffic (Exchange)
open RemoteIface.Gateway.Outbox

/-- `NotifyMessage(seq=…, timestamp=…, msg=…)` -/
def notification (seq : Nat) (now : Int) (msg : String) : String → Option Json
  | "seq" => some (.int seq)
  | "timestamp" => some (.int now)
  | "msg" => some (.str msg)
  | _ => none

/-- Where a call of `add_msg_to_queue` is: `_seq` has been raised, or the message
has been made with the `_seq` that was read then. -/
inductive NotifyCall where
  | counted (msg : String)
  | built (value : String → Option Json)

/-- `seq` is the notifier's `_seq`, `calls` are those of `add_msg_to_queue` that
are under way. What it has put on its way to a queue is recorded in `sent`, with
the context of the queue. -/
structure NotifyingGateway where
  system : System
  seq : Nat
  calls : List NotifyCall
  sent : List (ContextNumber × Outgoing)

inductive Event where
  | traffic (event : Traffic.Event)
  | addMsgToQueue (msg : String)
  | built (call : Nat) (now : Int)
  | published (call : Nat)

namespace NotifyingGateway

def fresh : NotifyingGateway := ⟨.fresh, 0, [], []⟩

/-- `add_msg_to_queue` up to `self._seq += 1`, when there is a publisher. -/
def addMsgToQueue (gateway : NotifyingGateway) (msg : String) : NotifyingGateway :=
  match gateway.system.endpoints.publisher .notifier with
  | none => gateway
  | some _ => { gateway with
      seq := gateway.seq + 1
      calls := gateway.calls ++ [.counted msg] }

/-- `payload = NotifyMessage(seq=self._seq, …)` -/
def build (gateway : NotifyingGateway) (call : Nat) (now : Int) : Option NotifyingGateway :=
  match gateway.calls[call]? with
  | some (.counted msg) =>
      some { gateway with
        calls := gateway.calls.set call (.built (notification gateway.seq now msg)) }
  | _ => none

/-- `self._publisher.publish(payload)`. Without a publisher by now the attribute
error is logged, and the call is over. -/
def publish (gateway : NotifyingGateway) (call : Nat) : Option NotifyingGateway :=
  match gateway.calls[call]? with
  | some (.built value) =>
      let ended := { gateway with calls := gateway.calls.eraseIdx call }
      match gateway.system.endpoints.publisher .notifier with
      | none => some ended
      | some (id, pub) =>
          let payload := notifyMessage.serialize value
          let queued :=
            ((gateway.system.contexts[id]?).bind fun ctx =>
              (publication ctx pub payload).join).toList
          some { ended with
            system := gateway.system.onContext id fun ctx => ctx.publish pub payload
            sent := gateway.sent ++ queued.map fun item => (id, item) }
  | _ => none

def step (config : GatewayConfig) (gateway : NotifyingGateway) : Event → Option NotifyingGateway
  | .traffic event =>
      ((⟨gateway.system, []⟩ : Exchange).step config event).map fun next =>
        { gateway with system := next.system }
  | .addMsgToQueue msg => some (gateway.addMsgToQueue msg)
  | .built call now => gateway.build call now
  | .published call => gateway.publish call

end NotifyingGateway

/-- The `seq` of a message on the notifier's topic. -/
def number (config : GatewayConfig) (item : Outgoing) : Option Int :=
  match item.topic, item.payload.getOr "seq" .null with
  | .str topic, .int seq => if topic = publisherTopic config .notifier then some seq else none
  | _, _ => none

theorem notification_serialized (seq : Nat) (now : Int) (msg : String) :
    notifyMessage.serialize (notification seq now msg) =
      .ok (.obj [("seq", .int seq), ("timestamp", .int now), ("msg", .str msg)]) := rfl

/-- The notifications among what a context has queued. -/
def notices (config : GatewayConfig) (ctx : Context Instance Response) : List Outgoing :=
  (queueLog ctx).filter fun item => (number config item).isSome

/-- The calls of `add_msg_to_queue` overlap neither one another nor a stop of the
notifier, the host sends no notifications of its own and leaves the publishers of
the components alone, and components are started on a context that has been
started. -/
def Undisturbed (config : GatewayConfig) (gateway : NotifyingGateway) : Event → Prop
  | .addMsgToQueue _ => gateway.calls = []
  | .traffic (.stopped component) => component = .publishing .notifier → gateway.calls = []
  | .traffic (.broadcast role _) => role ≠ .notifier
  | .traffic (.started id _) =>
      ∃ ctx, gateway.system.contexts[id]? = some ctx ∧ ctx.conn.loopSet = true
  | .traffic (.inside id event) =>
      (∀ call, event = .called call → ∀ role pub,
        gateway.system.endpoints.publisher role = some (id, pub) → onPublisher call ≠ some pub) ∧
      ∀ ctx, gateway.system.contexts[id]? = some ctx →
        (∀ request outcome now, event ≠ .workEnded request outcome now) →
        ∀ item, sent Response.serialize ctx event = some item → number config item = none
  | _ => True

theorem number_reply (config : GatewayConfig) (topic : Json) (now : Int) (body : Json) (qos : Nat) :
    number config ⟨topic, wrapResponse now body, qos⟩ = none := by
  cases topic <;> rfl

theorem number_other_role (config : GatewayConfig) {role : Role} (other : role ≠ .notifier)
    {value : String → Option Json} {payload : Json}
    (serialized : role.component.message.serialize value = .ok payload) (topic : Json) (qos : Nat) :
    number config ⟨topic, payload, qos⟩ = none := by
  obtain ⟨entries, rfl, keys⟩ := serialize_keys serialized
  have absent : Library.InsertionOrder.lookupEntry "seq" entries = none := by
    cases found : Library.InsertionOrder.lookupEntry "seq" entries with
    | none => rfl
    | some value =>
        have named : "seq" ∈ role.component.message.fields := by
          rw [← keys]
          exact List.mem_map_of_mem (Library.InsertionOrder.OrderedDict.mem_of_lookup found)
        cases role with
        | notifier => exact absurd rfl other
        | _ => exact absurd named (by decide)
  unfold number Json.getOr
  simp only [absent, Option.getD_none]

inductive UnderWay (system : System) (seq : Nat) : List NotifyCall → Prop where
  | idle : UnderWay system seq []
  | counted (msg : String) (held : (system.endpoints.publisher .notifier).isSome = true)
      (some_seq : 0 < seq) : UnderWay system seq [.counted msg]
  | built (msg : String) (now : Int)
      (held : (system.endpoints.publisher .notifier).isSome = true) (some_seq : 0 < seq) :
      UnderWay system seq [.built (notification seq now msg)]

theorem UnderWay.kept {system next : System} {seq : Nat} {calls : List NotifyCall}
    (underWay : UnderWay system seq calls)
    (held : (system.endpoints.publisher .notifier).isSome = true →
      (next.endpoints.publisher .notifier).isSome = true) : UnderWay next seq calls := by
  cases underWay with
  | idle => exact .idle
  | counted msg had some_seq => exact .counted msg (held had) some_seq
  | built msg now had some_seq => exact .built msg now (held had) some_seq

theorem start_keeps_notifier (config : GatewayConfig) (id : ContextNumber) (system : System)
    (component : Component) (held : (system.endpoints.publisher .notifier).isSome = true) :
    ((system.startComponent config id component).endpoints.publisher .notifier).isSome = true := by
  by_cases own : component = .publishing .notifier
  · subst own
    cases enabled : Role.notifier.component.enabled config with
    | true =>
        rw [start_own_publisher config id system enabled]
        rfl
    | false =>
        simp only [System.startComponent, System.startPublishing, enabled, Bool.false_eq_true,
          if_false]
        exact held
  · rw [start_other_publisher config id system own]
    exact held

structure Numbered (config : GatewayConfig) (gateway : NotifyingGateway) : Prop where
  logged : Logged config (fun item => (number config item).isSome) gateway.system gateway.sent
  underWay : UnderWay gateway.system gateway.seq gateway.calls
  numbers : gateway.sent.map (fun entry => number config entry.2) =
    (List.range' 1 (gateway.seq - gateway.calls.length)).map fun (seq : Nat) => some (seq : Int)

theorem numbered_fresh (config : GatewayConfig) : Numbered config .fresh where
  logged := logged_fresh config _
  underWay := .idle
  numbers := rfl

section Steps

variable {config : GatewayConfig} {gateway next : NotifyingGateway}

theorem number_notification (config : GatewayConfig) (seq : Nat) (now : Int) (msg : String) :
    number config ⟨.str (publisherTopic config .notifier),
      .obj [("seq", .int seq), ("timestamp", .int now), ("msg", .str msg)], 0⟩ =
        some (seq : Int) := by
  unfold number
  simp [Json.getOr, Library.InsertionOrder.lookupEntry]

theorem Numbered.add_msg (numbered : Numbered config gateway) (alone : gateway.calls = [])
    (msg : String) : Numbered config (gateway.addMsgToQueue msg) := by
  have numbers := numbered.numbers
  unfold NotifyingGateway.addMsgToQueue
  split
  · exact numbered
  · rename_i publisher held
    rw [alone, List.length_nil, Nat.sub_zero] at numbers
    refine ⟨numbered.logged, ?_, ?_⟩
    · dsimp only
      rw [alone]
      exact .counted msg (by rw [held]; rfl) (Nat.succ_pos _)
    · simpa [alone] using numbers

theorem Numbered.build (numbered : Numbered config gateway) {call : Nat} {now : Int}
    (taken : gateway.build call now = some next) : Numbered config next := by
  obtain ⟨logged, underWay, numbers⟩ := numbered
  unfold NotifyingGateway.build at taken
  split at taken <;> cases taken
  rename_i msg stored
  obtain ⟨inside, here⟩ := List.getElem?_eq_some_iff.mp stored
  refine ⟨logged, ?_, by simpa using numbers⟩
  dsimp only
  generalize gateway.calls = calls at underWay stored inside here
  cases underWay with
  | idle => cases stored
  | counted msg held some_seq =>
      have first : call = 0 := by simpa using inside
      subst first
      cases here
      exact .built msg now held some_seq
  | built msg now held some_seq =>
      have first : call = 0 := by simpa using inside
      subst first
      cases here

theorem Numbered.publish (numbered : Numbered config gateway) {call : Nat}
    (taken : gateway.publish call = some next) : Numbered config next := by
  obtain ⟨logged, underWay, numbers⟩ := numbered
  unfold NotifyingGateway.publish at taken
  split at taken
  · rename_i value stored
    obtain ⟨inside, here⟩ := List.getElem?_eq_some_iff.mp stored
    dsimp only at taken
    generalize calling : gateway.calls = calls at underWay stored inside here taken
    cases underWay with
    | idle => cases stored
    | counted msg held some_seq =>
        have first : call = 0 := by simpa using inside
        subst first
        cases here
    | built msg now held some_seq =>
        have first : call = 0 := by simpa using inside
        subst first
        cases here
        obtain ⟨⟨id, pub⟩, publishing⟩ := Option.isSome_iff_exists.mp held
        obtain ⟨ctx, there, live⟩ := logged.serving.live .notifier id pub publishing
        rw [publishing] at taken
        dsimp only at taken
        rw [notification_serialized, there, Option.bind_some, publication_live live] at taken
        cases taken
        have named := number_notification config gateway.seq now msg
        have published := logged.publish publishing (.obj [("seq", .int gateway.seq),
          ("timestamp", .int now), ("msg", .str msg)])
        rw [named, Option.isSome_some, if_pos rfl] at published
        refine ⟨published, .idle, ?_⟩
        rw [calling] at numbers
        obtain ⟨earlier, counts⟩ := Nat.exists_eq_add_of_lt some_seq
        simp only [Option.join_some, Option.toList_some, List.map_cons, List.map_nil,
          List.map_append, numbers, named, List.eraseIdx_cons_zero, List.length_nil,
          List.length_singleton, Nat.sub_zero]
        rw [counts, Nat.zero_add, Nat.add_sub_cancel, List.range'_1_concat, List.map_append,
          Nat.add_comm 1]
        rfl
  · cases taken

theorem Numbered.broadcast (numbered : Numbered config gateway) {role : Role}
    (other : role ≠ .notifier) (value : String → Option Json) :
    Numbered config { gateway with
      system := ((⟨gateway.system, []⟩ : Exchange).broadcast role
        (role.component.message.serialize value)).system } := by
  unfold Exchange.broadcast
  dsimp only
  split
  · exact numbered
  · rename_i id pub held
    obtain ⟨ctx, stored, _⟩ := numbered.logged.serving.live role id pub held
    rw [stored]
    refine ⟨numbered.logged.publish_other ?_ held, numbered.underWay.kept fun had => had,
      numbered.numbers⟩
    intro payload serialized
    rw [number_other_role config other serialized]
    rfl

theorem numbered_step {event : Event} (numbered : Numbered config gateway)
    (undisturbed : Undisturbed config gateway event)
    (taken : gateway.step config event = some next) : Numbered config next := by
  cases event with
  | addMsgToQueue msg =>
      cases taken
      exact numbered.add_msg undisturbed msg
  | built call now => exact numbered.build taken
  | published call => exact numbered.publish taken
  | traffic event =>
      obtain ⟨exchange, moved, rfl⟩ := Option.map_eq_some_iff.mp taken
      cases event with
      | rebuilt =>
          cases moved
          exact ⟨numbered.logged.rebuilt, numbered.underWay.kept fun had => had, numbered.numbers⟩
      | started id component =>
          obtain ⟨ctx, stored, set⟩ := undisturbed
          simp only [Exchange.step] at moved
          split at moved
          · cases moved
            exact ⟨numbered.logged.start component stored set,
              numbered.underWay.kept (start_keeps_notifier config id _ component),
              numbered.numbers⟩
          · cases moved
      | stopped component =>
          cases moved
          refine ⟨numbered.logged.stop component, ?_, numbered.numbers⟩
          by_cases own : component = .publishing .notifier
          · dsimp only
            rw [undisturbed own]
            exact .idle
          · refine numbered.underWay.kept fun had => ?_
            rw [stop_other_publisher _ own]
            exact had
      | broadcast role value =>
          cases moved
          exact numbered.broadcast undisturbed value
      | inside id event =>
          simp only [Exchange.step, Exchange.inside] at moved
          split at moved
          · cases moved
          · rename_i ctx stored
            obtain ⟨after, went, rfl⟩ := Option.map_eq_some_iff.mp moved
            refine ⟨numbered.logged.of_inside stored undisturbed.1 ?_ went,
              numbered.underWay.kept fun had => had, numbered.numbers⟩
            apply silent_of_replies
            · intro topic now body qos
              rw [number_reply]
              rfl
            · intro unended item seen
              have unnumbered := undisturbed.2 ctx stored unended item seen
              simp only [unnumbered, Option.isSome_none]

end Steps

theorem numbered_run {config : GatewayConfig} {events : List Event} {final : NotifyingGateway}
    (undisturbed : Guarded (NotifyingGateway.step config) (Undisturbed config) .fresh events)
    (reached : run (NotifyingGateway.step config) .fresh events = some final) :
    Numbered config final :=
  run_preserves (NotifyingGateway.step config)
    (fun _ _ _ numbered undisturbed taken => numbered_step numbered undisturbed taken)
    (numbered_fresh config) undisturbed reached

/-- What a subscriber can be given of the notifications of one context. -/
def delivered (config : GatewayConfig) (ctx : Context Instance Response) : List Int :=
  (held ctx.conn).filterMap (number config)

theorem numbers_increase (first count : Nat) :
    (((List.range' first count).map fun (seq : Nat) => (seq : Int))).Pairwise (· < ·) := by
  rw [List.pairwise_map]
  have sorted : (List.range' first count).Pairwise (· < ·) := List.pairwise_lt_range'
  apply sorted.imp
  intro one two less
  exact Int.ofNat_lt.mpr less

/-- In every run, over any number of stops and restarts, the notifications that
have been queued are numbered 1, 2, … without a gap up to `_seq`, or up to the
call that is under way; each context has those that were published on it, and
whatever its connection loses, the numbers that are left on it increase. -/
theorem notifications_numbered (config : GatewayConfig) (events : List Event)
    (final : NotifyingGateway)
    (undisturbed : Guarded (NotifyingGateway.step config) (Undisturbed config) .fresh events)
    (reached : run (NotifyingGateway.step config) .fresh events = some final) :
    final.calls.length ≤ 1 ∧
      final.sent.filterMap (fun entry => number config entry.2) =
        (List.range' 1 (final.seq - final.calls.length)).map (fun (seq : Nat) => (seq : Int)) ∧
      ∀ (id : ContextNumber) ctx, final.system.contexts[id]? = some ctx →
        notices config ctx = (final.sent.filter fun entry => entry.1 = id).map Prod.snd ∧
        (delivered config ctx).Pairwise (· < ·) := by
  have numbered := numbered_run undisturbed reached
  have all : final.sent.filterMap (fun entry => number config entry.2) =
      (List.range' 1 (final.seq - final.calls.length)).map fun (seq : Nat) => (seq : Int) := by
    have same := congrArg (List.filterMap id) numbered.numbers
    simpa [List.filterMap_map, Function.comp_def] using same
  have alone : final.calls.length ≤ 1 := by
    have underWay := numbered.underWay
    generalize final.calls = calls at underWay
    cases underWay with
    | idle => exact Nat.zero_le 1
    | counted msg held some_seq => exact Nat.le_refl 1
    | built msg now held some_seq => exact Nat.le_refl 1
  refine ⟨alone, all, ?_⟩
  intro id ctx stored
  have queued : notices config ctx = (final.sent.filter fun entry => entry.1 = id).map Prod.snd :=
    numbered.logged.queued id ctx stored
  refine ⟨queued, ?_⟩
  have drained := (numbered.logged.serving.sound id ctx stored).drained
  have onQueue : (delivered config ctx).Sublist ((queueLog ctx).filterMap (number config)) :=
    (drained.trans (List.sublist_append_left _ _)).filterMap _
  have ofNotices : (queueLog ctx).filterMap (number config) =
      (notices config ctx).filterMap (number config) := by
    unfold notices
    rw [List.filterMap_filter]
    apply List.filterMap_congr
    intro item _
    cases number config item <;> rfl
  have ofSent : ((notices config ctx).filterMap (number config)).Sublist
      (final.sent.filterMap fun entry => number config entry.2) := by
    rw [queued, List.filterMap_map]
    exact (List.filter_sublist).filterMap _
  have increasing := numbers_increase 1 (final.seq - final.calls.length)
  rw [← all] at increasing
  exact increasing.sublist ((ofNotices ▸ onQueue).trans ofSent)

/-- A notification on each side of a restart, and one before any start. While the
last call is under way the context goes on. -/
def restartedRun : List Event :=
  [.addMsgToQueue "early", .traffic (.inside 0 (.wire .start)),
    .traffic (.started 0 (.publishing .notifier)), .addMsgToQueue "one", .built 0 2, .published 0,
    .traffic (.stopped (.publishing .notifier)), .traffic .rebuilt,
    .traffic (.inside 1 (.wire .start)), .traffic (.started 1 (.publishing .notifier)),
    .addMsgToQueue "two", .built 0 3, .published 0, .addMsgToQueue "three", .built 0 4,
    .traffic (.inside 1 (.wire .startResumed)), .published 0]

theorem restarted_run_undisturbed :
    Guarded (NotifyingGateway.step {}) (Undisturbed {}) .fresh restartedRun := by
  have onWire : ∀ (gateway : NotifyingGateway) (id : ContextNumber) (event : Connection.Event),
      (∀ item, event ≠ .enqueued item) →
      Undisturbed {} gateway (.traffic (.inside id (.wire event))) := by
    intro gateway id event quiet
    constructor
    · intro call called
      cases called
    · intro ctx _ _ item seen
      cases event with
      | enqueued item => exact absurd rfl (quiet item)
      | _ => cases seen
  refine fun _ taken => ⟨rfl, ?_⟩
  cases taken
  refine fun _ taken => ⟨onWire _ 0 .start (by simp), ?_⟩
  cases taken
  refine fun _ taken => ⟨⟨_, rfl, rfl⟩, ?_⟩
  cases taken
  refine fun _ taken => ⟨rfl, ?_⟩
  cases taken
  refine fun _ taken => ⟨trivial, ?_⟩
  cases taken
  refine fun _ taken => ⟨trivial, ?_⟩
  cases taken
  refine fun _ taken => ⟨fun _ => rfl, ?_⟩
  cases taken
  refine fun _ taken => ⟨trivial, ?_⟩
  cases taken
  refine fun _ taken => ⟨onWire _ 1 .start (by simp), ?_⟩
  cases taken
  refine fun _ taken => ⟨⟨_, rfl, rfl⟩, ?_⟩
  cases taken
  refine fun _ taken => ⟨rfl, ?_⟩
  cases taken
  refine fun _ taken => ⟨trivial, ?_⟩
  cases taken
  refine fun _ taken => ⟨trivial, ?_⟩
  cases taken
  refine fun _ taken => ⟨rfl, ?_⟩
  cases taken
  refine fun _ taken => ⟨trivial, ?_⟩
  cases taken
  refine fun _ taken => ⟨onWire _ 1 .startResumed (by simp), ?_⟩
  cases taken
  refine fun _ taken => ⟨trivial, ?_⟩
  cases taken
  trivial

theorem restarted_run_numbered :
    ∃ final, run (NotifyingGateway.step {}) .fresh restartedRun = some final ∧ final.seq = 3 ∧
      final.sent.filterMap (fun entry => number {} entry.2) = [1, 2, 3] ∧
      ∃ ctx, final.system.contexts[1]? = some ctx ∧ (notices {} ctx).length = 2 ∧
        (delivered {} ctx).Pairwise (· < ·) := by
  refine ⟨_, rfl, rfl, rfl, ?_⟩
  refine ⟨_, rfl, rfl, ?_⟩
  exact ((notifications_numbered {} restartedRun _ restarted_run_undisturbed rfl).2.2 1 _ rfl).2

end RemoteIface.Gateway.Notifications
