import RemoteIface.Commlib.OutgoingLog
import RemoteIface.Commlib.Replies
import RemoteIface.Gateway.Traffic

/-!
What the components of a gateway put on the queues of its contexts. A publisher
that a component holds is live: it is started, on the topic of the component,
and its context knows the loop, so that no publication of it fails. So the
messages of a kind that is the components' own are on the queues as they were
published, each on the context of its publisher.
-/

namespace RemoteIface.Gateway.Outbox

set_option autoImplicit false

open RemoteIface.Library.Runs
open RemoteIface.Commlib RemoteIface.Gateway
open RemoteIface.Commlib.Payload
open RemoteIface.Commlib.Endpoints
open RemoteIface.Commlib.Rpc
open RemoteIface.Commlib.Dispatch (Router)
open RemoteIface.Commlib.Handles
open RemoteIface.Commlib.NodeContext
open RemoteIface.Commlib.OutgoingQueue
open RemoteIface.Commlib.OutgoingLog
open RemoteIface.Protocols.Messages
open RemoteIface.Gateway.Wiring
open RemoteIface.Gateway.TopicTables

/-- The second system comes from the first by calls on the registries and by
what the components note of their endpoints. -/
inductive CallsOnly (allowed : ContextNumber → RegistryCall Instance → Prop) (system : System) :
    System → Prop where
  | start : CallsOnly allowed system system
  | call (next : System) (id : ContextNumber) (call : RegistryCall Instance)
      (calls : CallsOnly allowed system next) (here : allowed id call) :
      CallsOnly allowed system (next.call id call)
  | hold (next : System) (endpoints : Endpoints) (calls : CallsOnly allowed system next) :
      CallsOnly allowed system (next.hold endpoints)

section Calls

variable {allowed : ContextNumber → RegistryCall Instance → Prop} {system next : System}

theorem CallsOnly.contexts (property : ContextNumber → Context Instance Response → Prop)
    (kept : ∀ id ctx call, allowed id call → property id ctx →
      property id { ctx with router := ctx.router.perform call })
    (calls : CallsOnly allowed system next) {id : ContextNumber}
    {ctx : Context Instance Response} (stored : system.contexts[id]? = some ctx)
    (holds : property id ctx) :
    ∃ after, next.contexts[id]? = some after ∧ after.conn = ctx.conn ∧ property id after := by
  induction calls with
  | start => exact ⟨ctx, stored, rfl, holds⟩
  | hold next endpoints calls induction => exact induction
  | call next other call calls here induction =>
      obtain ⟨after, there, conn, holdsThere⟩ := induction
      unfold System.call System.onContext
      dsimp only
      rw [List.getElem?_modify, there]
      by_cases same : other = id
      · subst same
        exact ⟨{ after with router := after.router.perform call }, by simp, conn,
          kept other after call here holdsThere⟩
      · exact ⟨after, by simp [same], conn, holdsThere⟩

theorem CallsOnly.length (calls : CallsOnly allowed system next) :
    next.contexts.length = system.contexts.length := by
  induction calls with
  | start => rfl
  | hold next endpoints calls induction => exact induction
  | call next other call calls here induction =>
      rw [← induction]
      simp [System.call, System.onContext]

end Calls

theorem CallsOnly.trans {allowed : ContextNumber → RegistryCall Instance → Prop}
    {first second third : System} (early : CallsOnly allowed first second)
    (late : CallsOnly allowed second third) : CallsOnly allowed first third := by
  induction late with
  | start => exact early
  | call next id call calls here induction => exact induction.call next id call here
  | hold next endpoints calls induction => exact induction.hold next endpoints

theorem start_component_calls (config : GatewayConfig) (id : ContextNumber) (system : System)
    (component : Component) :
    CallsOnly (fun _ call => onPublisher call = none) system
      (system.startComponent config id component) := by
  cases component with
  | commands =>
      have general : ∀ commands : List Command, ∀ system : System,
          CallsOnly (fun _ call => onPublisher call = none) system
            (commands.foldl (System.createCommand config id) system) := by
        intro commands
        induction commands with
        | nil => exact fun system => .start
        | cons command rest induction =>
            intro system
            have made : CallsOnly (fun _ call => onPublisher call = none) system
                (System.createCommand config id system command) :=
              (CallsOnly.start.call system id (.createRpc (commandTopic config command)
                command.request.msgType (commandHandler command)) rfl).hold _ _
            exact made.trans (induction _)
      exact general allCommands system
  | publishing role =>
      unfold System.startComponent System.startPublishing
      dsimp only
      split
      · exact (CallsOnly.start.call system id _ rfl).hold _ _
      · exact .start
  | externalEvents =>
      unfold System.startComponent System.startExternalEvents
      dsimp only
      split
      · exact (CallsOnly.start.call system id _ rfl).hold _ _
      · exact .start

def Stops (system : System) (component : Component) (id : ContextNumber) :
    RegistryCall Instance → Prop
  | .stopPublisher pub =>
      ∃ role, component = .publishing role ∧ system.endpoints.publisher role = some (id, pub)
  | call => onPublisher call = none

theorem stop_component_calls (system : System) (component : Component) :
    CallsOnly (Stops system component) system (system.stopComponent component) := by
  cases component with
  | commands =>
      have general : ∀ services : List (ContextNumber × ServiceId), ∀ next : System,
          CallsOnly (Stops system .commands) next (services.foldl
            (fun (system : System) service => system.call service.1 (.stopRpc service.2)) next) := by
        intro services
        induction services with
        | nil => exact fun next => .start
        | cons service rest induction =>
            intro next
            exact (CallsOnly.start.call next service.1 (.stopRpc service.2) rfl).trans
              (induction _)
      exact (general system.endpoints.services system).hold _ _
  | publishing role =>
      unfold System.stopComponent System.stopPublishing
      dsimp only
      split
      · exact .start
      · rename_i id pub held
        exact (CallsOnly.start.call system id (.stopPublisher pub) ⟨role, rfl, held⟩).hold _ _
  | externalEvents =>
      unfold System.stopComponent System.stopExternalEvents
      dsimp only
      split
      · exact .start
      · rename_i id sub held
        exact (CallsOnly.start.call system id (.stopSubscriber sub) rfl).hold _ _

theorem start_other_publisher (config : GatewayConfig) (id : ContextNumber) (system : System)
    {component : Component} {role : Role} (other : component ≠ .publishing role) :
    (system.startComponent config id component).endpoints.publisher role =
      system.endpoints.publisher role := by
  cases component with
  | commands =>
      have general : ∀ commands : List Command, ∀ system : System,
          (commands.foldl (System.createCommand config id) system).endpoints.publisher role =
            system.endpoints.publisher role := by
        intro commands
        induction commands with
        | nil => exact fun system => rfl
        | cons command rest induction => exact fun system => induction _
      exact general allCommands system
  | publishing started =>
      have different : role ≠ started := fun same => other (congrArg _ same.symm)
      simp only [System.startComponent, System.startPublishing]
      split
      · simp [System.hold, System.call, System.onContext, different]
      · rfl
  | externalEvents =>
      simp only [System.startComponent, System.startExternalEvents]
      split <;> rfl

theorem start_own_publisher (config : GatewayConfig) (id : ContextNumber) (system : System)
    {role : Role} (enabled : role.component.enabled config = true) :
    (system.startComponent config id (.publishing role)).endpoints.publisher role =
      some (id, (system.registry id).publishers.length) := by
  simp only [System.startComponent, System.startPublishing, if_pos enabled]
  simp [System.hold]

theorem start_component_publisher (config : GatewayConfig) (id : ContextNumber) (system : System)
    (component : Component) {role : Role} {publisher : ContextNumber × PublisherId}
    (held : (system.startComponent config id component).endpoints.publisher role = some publisher) :
    system.endpoints.publisher role = some publisher ∨
      component = .publishing role ∧ publisher = (id, (system.registry id).publishers.length) ∧
        system.startComponent config id component =
          (system.call id (.createPublisher (publisherTopic config role))).hold
            (system.startComponent config id component).endpoints := by
  by_cases own : component = .publishing role
  · subst own
    cases enabled : role.component.enabled config with
    | true =>
        rw [start_own_publisher config id system enabled, Option.some.injEq] at held
        refine .inr ⟨rfl, held.symm, ?_⟩
        simp only [System.startComponent, System.startPublishing, if_pos enabled]
        rfl
    | false =>
        simp only [System.startComponent, System.startPublishing, enabled, Bool.false_eq_true,
          if_false] at held
        exact .inl held
  · rw [start_other_publisher config id system own] at held
    exact .inl held

theorem stop_other_publisher (system : System) {component : Component} {role : Role}
    (other : component ≠ .publishing role) :
    (system.stopComponent component).endpoints.publisher role =
      system.endpoints.publisher role := by
  cases component with
  | commands =>
      have general : ∀ services : List (ContextNumber × ServiceId), ∀ next : System,
          (services.foldl (fun (system : System) service =>
            system.call service.1 (.stopRpc service.2)) next).endpoints.publisher role =
              next.endpoints.publisher role := by
        intro services
        induction services with
        | nil => exact fun next => rfl
        | cons service rest induction => exact fun next => induction _
      exact general system.endpoints.services system
  | publishing stopped =>
      have different : role ≠ stopped := fun same => other (congrArg _ same.symm)
      simp only [System.stopComponent, System.stopPublishing]
      split
      · rfl
      · simp [System.hold, System.call, System.onContext, different]
  | externalEvents =>
      simp only [System.stopComponent, System.stopExternalEvents]
      split <;> rfl

theorem stop_own_publisher (system : System) (role : Role) :
    (system.stopComponent (.publishing role)).endpoints.publisher role = none := by
  simp only [System.stopComponent, System.stopPublishing]
  split
  · assumption
  · simp [System.hold]

theorem stop_component_publisher (system : System) (component : Component) {role : Role}
    {publisher : ContextNumber × PublisherId}
    (held : (system.stopComponent component).endpoints.publisher role = some publisher) :
    system.endpoints.publisher role = some publisher ∧ component ≠ .publishing role := by
  by_cases own : component = .publishing role
  · rw [own, stop_own_publisher] at held
    cases held
  · rw [stop_other_publisher system own] at held
    exact ⟨held, own⟩

/-- The publisher is started, on the topic of its component, and its context
knows the loop. -/
structure Live (config : GatewayConfig) (role : Role) (pub : PublisherId)
    (ctx : Context Instance Response) : Prop where
  state : publisherState ctx.router.registry pub = some (publisherTopic config role, true)
  loopSet : ctx.conn.loopSet = true

structure Sound (ctx : Context Instance Response) : Prop where
  wellFormed : ctx.conn.WellFormed
  prepared : ctx.Prepared
  drained : Drained ctx.conn

theorem sound_fresh : Sound (Context.fresh : Context Instance Response) where
  wellFormed := Connection.State.well_formed_fresh
  prepared := Context.prepared_fresh
  drained := List.Sublist.refl []

theorem sound_step {ctx next : Context Instance Response}
    {event : NodeContext.Event Instance Response} (sound : Sound ctx)
    (taken : ctx.step Response.serialize event = some next) : Sound next where
  wellFormed := Context.well_formed_step sound.wellFormed taken
  prepared := Context.prepared_step sound.prepared taken
  drained := drained_context_step sound.wellFormed sound.drained taken

theorem live_step {config : GatewayConfig} {role : Role} {pub : PublisherId}
    {ctx next : Context Instance Response} {event : NodeContext.Event Instance Response}
    (live : Live config role pub ctx) (sound : Sound ctx)
    (spared : ∀ call, event = .called call → onPublisher call ≠ some pub)
    (taken : ctx.step Response.serialize event = some next) : Live config role pub next where
  state := step_publisher_state taken live.state spared
  loopSet := step_loop_set sound.prepared taken live.loopSet

structure Serving (config : GatewayConfig) (system : System) : Prop where
  sound : ∀ (id : ContextNumber) ctx, system.contexts[id]? = some ctx → Sound ctx
  live : ∀ role (id : ContextNumber) pub, system.endpoints.publisher role = some (id, pub) →
    ∃ ctx, system.contexts[id]? = some ctx ∧ Live config role pub ctx

theorem publisher_topic_injective (config : GatewayConfig) {one two : Role}
    (same : publisherTopic config one = publisherTopic config two) : one = two := by
  unfold publisherTopic at same
  rw [String.append_right_inj] at same
  cases one <;> cases two <;> first | rfl | exact absurd same (by decide)

theorem Serving.publisher_injective {config : GatewayConfig} {system : System}
    (serving : Serving config system) {one two : Role} {publisher : ContextNumber × PublisherId}
    (heldOne : system.endpoints.publisher one = some publisher)
    (heldTwo : system.endpoints.publisher two = some publisher) : one = two := by
  obtain ⟨first, storedOne, liveOne⟩ := serving.live one _ _ heldOne
  obtain ⟨second, storedTwo, liveTwo⟩ := serving.live two _ _ heldTwo
  rw [storedOne, Option.some.injEq] at storedTwo
  have topics := liveOne.state
  rw [storedTwo, liveTwo.state, Option.some.injEq, Prod.mk.injEq] at topics
  exact (publisher_topic_injective config topics.1).symm

section Serves

variable {config : GatewayConfig} {system next : System}

theorem called_taken (ctx : Context Instance Response) (call : RegistryCall Instance) :
    ctx.step Response.serialize (.called call) =
      some { ctx with router := ctx.router.perform call } := rfl

theorem sound_of_calls {allowed : ContextNumber → RegistryCall Instance → Prop}
    (serving : Serving config system) (calls : CallsOnly allowed system next)
    {id : ContextNumber} {ctx : Context Instance Response}
    (stored : next.contexts[id]? = some ctx) : Sound ctx := by
  have inside := (List.getElem?_eq_some_iff.mp stored).1
  rw [calls.length] at inside
  have before := List.getElem?_eq_getElem inside
  obtain ⟨after, there, _, sound⟩ := calls.contexts (fun _ ctx => Sound ctx)
    (fun _ ctx call _ sound => sound_step sound (called_taken ctx call)) before
    (serving.sound id _ before)
  rw [stored, Option.some.injEq] at there
  exact there ▸ sound

theorem live_of_calls {allowed : ContextNumber → RegistryCall Instance → Prop} {role : Role}
    {id : ContextNumber} {pub : PublisherId} (serving : Serving config system)
    (calls : CallsOnly allowed system next)
    (spared : ∀ call, allowed id call → onPublisher call ≠ some pub)
    (held : system.endpoints.publisher role = some (id, pub)) :
    ∃ ctx, next.contexts[id]? = some ctx ∧ Live config role pub ctx := by
  obtain ⟨ctx, stored, live⟩ := serving.live role id pub held
  have step : ∀ other (ctx : Context Instance Response) call, allowed other call →
      Sound ctx ∧ (other = id → Live config role pub ctx) →
      Sound { ctx with router := ctx.router.perform call } ∧
        (other = id → Live config role pub { ctx with router := ctx.router.perform call }) := by
    intro other ctx call here holds
    refine ⟨sound_step holds.1 (called_taken ctx call), ?_⟩
    intro same
    subst same
    apply live_step (holds.2 rfl) holds.1 ?_ (called_taken ctx call)
    intro given equal
    cases equal
    exact spared call here
  obtain ⟨after, there, _, _, kept⟩ := calls.contexts
    (fun other ctx => Sound ctx ∧ (other = id → Live config role pub ctx)) step stored
    ⟨serving.sound id ctx stored, fun _ => live⟩
  exact ⟨after, there, kept rfl⟩

theorem serving_start {id : ContextNumber} (serving : Serving config system)
    (component : Component) {ctx : Context Instance Response}
    (stored : system.contexts[id]? = some ctx) (set : ctx.conn.loopSet = true) :
    Serving config (system.startComponent config id component) where
  sound := fun other after there =>
    sound_of_calls serving (start_component_calls config id system component) there
  live := by
    intro role other pub held
    rcases start_component_publisher config id system component held with before | new
    · exact live_of_calls serving (start_component_calls config id system component)
        (fun call untouched => by simp [untouched]) before
    · obtain ⟨_, place, made⟩ := new
      cases place
      have position : (system.registry id).publishers.length =
          ctx.router.registry.publishers.length := by
        simp [System.registry, stored]
      rw [made, position]
      refine ⟨{ ctx with router := ctx.router.perform (.createPublisher (publisherTopic config role)) },
        ?_, ?_, set⟩
      · simp [System.hold, System.call, System.onContext, stored]
      · exact create_publisher_new ctx.router.registry (publisherTopic config role)

theorem serving_stop (serving : Serving config system) (component : Component) :
    Serving config (system.stopComponent component) where
  sound := fun other after there =>
    sound_of_calls serving (stop_component_calls system component) there
  live := by
    intro role id pub held
    obtain ⟨before, different⟩ := stop_component_publisher system component held
    refine live_of_calls serving (stop_component_calls system component) ?_ before
    intro call stops same
    cases call with
    | stopPublisher given =>
        obtain ⟨other, rfl, owned⟩ := stops
        cases same
        exact different (congrArg _ (serving.publisher_injective owned before))
    | _ => exact absurd (stops.symm.trans same) nofun

theorem serving_rebuilt (serving : Serving config system) :
    Serving config { system with contexts := system.contexts ++ [.fresh] } where
  sound := by
    intro id ctx stored
    rcases List.mem_append.mp (List.mem_of_getElem? stored) with old | new
    · obtain ⟨place, there⟩ := List.mem_iff_getElem?.mp old
      exact serving.sound place ctx there
    · rw [List.mem_singleton.mp new]
      exact sound_fresh
  live := by
    intro role id pub held
    obtain ⟨ctx, stored, live⟩ := serving.live role id pub held
    refine ⟨ctx, ?_, live⟩
    rw [List.getElem?_append_left (List.getElem?_eq_some_iff.mp stored).1]
    exact stored

theorem serving_inside {id : ContextNumber} {ctx : Context Instance Response}
    {change : Context Instance Response → Context Instance Response}
    {event : NodeContext.Event Instance Response} (serving : Serving config system)
    (stored : system.contexts[id]? = some ctx)
    (spared : ∀ call, event = .called call → ∀ role pub,
      system.endpoints.publisher role = some (id, pub) → onPublisher call ≠ some pub)
    (taken : ctx.step Response.serialize event = some (change ctx)) :
    Serving config (system.onContext id change) where
  sound := by
    intro other found there
    rw [System.onContext, List.getElem?_modify] at there
    obtain ⟨before, known, rfl⟩ := Option.map_eq_some_iff.mp there
    split
    · rename_i same
      rw [← same, stored, Option.some.injEq] at known
      rw [← known]
      exact sound_step (serving.sound id ctx stored) taken
    · exact serving.sound other before known
  live := by
    intro role other pub held
    obtain ⟨before, known, live⟩ := serving.live role other pub held
    rw [System.onContext, List.getElem?_modify, known]
    by_cases same : id = other
    · subst same
      rw [stored, Option.some.injEq] at known
      subst known
      exact ⟨change ctx, by simp, live_step live (serving.sound id ctx stored)
        (fun call called => spared call called role pub held) taken⟩
    · exact ⟨before, by simp [same], live⟩

end Serves

theorem publication_live {config : GatewayConfig} {role : Role} {pub : PublisherId}
    {ctx : Context Instance Response} (live : Live config role pub ctx) (payload : Json) :
    publication ctx pub (.ok payload) =
      some (some ⟨.str (publisherTopic config role), payload, 0⟩) := by
  obtain ⟨publisher, stored, same⟩ := Option.map_eq_some_iff.mp live.state
  obtain ⟨topic, started⟩ := Prod.mk.inj same
  unfold publication
  simp [stored, started, topic, live.loopSet, Except.toOption]

theorem publication_refused {ctx : Context Instance Response} {pub : PublisherId}
    (error : PyException) : (publication ctx pub (.error error)).join = none := by
  unfold publication
  cases ctx.router.registry.publishers[pub]? with
  | none => rfl
  | some publisher => simp [Except.toOption]

def Silent (kind : Outgoing → Bool) (ctx : Context Instance Response)
    (event : NodeContext.Event Instance Response) : Prop :=
  ∀ item, sent Response.serialize ctx event = some item → kind item = false

/-- A kind that no reply is of is silent when all but the ends of requests are. -/
theorem silent_of_replies {kind : Outgoing → Bool} {ctx : Context Instance Response}
    {event : NodeContext.Event Instance Response}
    (apart : ∀ topic now body qos, kind ⟨topic, wrapResponse now body, qos⟩ = false)
    (others : (∀ request outcome now, event ≠ .workEnded request outcome now) →
      Silent kind ctx event) : Silent kind ctx event := by
  by_cases reply : ∃ request outcome now, event = .workEnded request outcome now
  · obtain ⟨request, outcome, now, rfl⟩ := reply
    intro item seen
    unfold sent at seen
    dsimp only at seen
    split at seen
    · obtain ⟨ended, _, replied⟩ := Option.bind_eq_some_iff.mp seen
      obtain ⟨_, _, _, _, _, _, rfl⟩ := Replies.done_some_iff.mp replied
      exact apart _ _ _ _
    · cases seen
  · exact others fun request outcome now same => reply ⟨request, outcome, now, same⟩

theorem silent_step {kind : Outgoing → Bool} {ctx next : Context Instance Response}
    {event : NodeContext.Event Instance Response} (sound : Sound ctx)
    (silent : Silent kind ctx event) (taken : ctx.step Response.serialize event = some next) :
    (queueLog next).filter kind = (queueLog ctx).filter kind := by
  rw [log_step Response.serialize sound.wellFormed taken, List.filter_append]
  cases seen : sent Response.serialize ctx event with
  | none => exact List.append_nil _
  | some item => simp [silent item seen]

structure Logged (config : GatewayConfig) (kind : Outgoing → Bool) (system : System)
    (log : List (ContextNumber × Outgoing)) : Prop where
  serving : Serving config system
  known : ∀ entry ∈ log, entry.1 < system.contexts.length
  queued : ∀ (id : ContextNumber) ctx, system.contexts[id]? = some ctx →
    (queueLog ctx).filter kind = (log.filter fun entry => entry.1 = id).map Prod.snd

theorem logged_fresh (config : GatewayConfig) (kind : Outgoing → Bool) :
    Logged config kind .fresh [] where
  serving := {
    sound := by
      intro id ctx stored
      rw [List.mem_singleton.mp (List.mem_of_getElem? stored)]
      exact sound_fresh
    live := by
      intro role id pub held
      cases held }
  known := by
    intro entry member
    cases member
  queued := by
    intro id ctx stored
    rw [List.mem_singleton.mp (List.mem_of_getElem? stored)]
    rfl

section Logs

variable {config : GatewayConfig} {kind : Outgoing → Bool} {system : System}
  {log : List (ContextNumber × Outgoing)}

theorem Logged.of_quiet (logged : Logged config kind system log) {next : System}
    (serving : Serving config next)
    (longer : system.contexts.length ≤ next.contexts.length)
    (same : ∀ (id : ContextNumber) after, next.contexts[id]? = some after →
      (∃ ctx, system.contexts[id]? = some ctx ∧
          (queueLog after).filter kind = (queueLog ctx).filter kind) ∨
        system.contexts.length ≤ id ∧ after = .fresh) :
    Logged config kind next log where
  serving := serving
  known := fun entry member => (logged.known entry member).trans_le longer
  queued := by
    intro id after stored
    rcases same id after stored with ⟨ctx, there, kept⟩ | ⟨beyond, new⟩
    · rw [kept]
      exact logged.queued id ctx there
    · have none_sent : (log.filter fun entry => entry.1 = id) = [] := by
        rw [List.filter_eq_nil_iff]
        intro entry member here
        have place := logged.known entry member
        rw [of_decide_eq_true here] at place
        exact absurd beyond (Nat.not_le.mpr place)
      rw [none_sent, new]
      rfl

theorem Logged.of_inside (logged : Logged config kind system log) {id : ContextNumber}
    {ctx : Context Instance Response}
    {change : Context Instance Response → Context Instance Response}
    {event : NodeContext.Event Instance Response} (stored : system.contexts[id]? = some ctx)
    (spared : ∀ call, event = .called call → ∀ role pub,
      system.endpoints.publisher role = some (id, pub) → onPublisher call ≠ some pub)
    (silent : Silent kind ctx event)
    (taken : ctx.step Response.serialize event = some (change ctx)) :
    Logged config kind (system.onContext id change) log := by
  apply logged.of_quiet (serving_inside logged.serving stored spared taken)
  · simp [System.onContext]
  · intro other after there
    rw [System.onContext, List.getElem?_modify] at there
    obtain ⟨before, known, rfl⟩ := Option.map_eq_some_iff.mp there
    refine .inl ⟨before, known, ?_⟩
    split
    · rename_i same
      rw [← same, stored, Option.some.injEq] at known
      rw [← known]
      exact silent_step (logged.serving.sound id ctx stored) silent taken
    · rfl

theorem Logged.of_calls (logged : Logged config kind system log) {next : System}
    {allowed : ContextNumber → RegistryCall Instance → Prop}
    (calls : CallsOnly allowed system next) (serving : Serving config next) :
    Logged config kind next log := by
  apply logged.of_quiet serving (Nat.le_of_eq calls.length.symm)
  intro id after there
  have inside := (List.getElem?_eq_some_iff.mp there).1
  rw [calls.length] at inside
  have before := List.getElem?_eq_getElem inside
  obtain ⟨found, same, conn, _⟩ := calls.contexts (fun _ _ => True) (fun _ _ _ _ _ => trivial)
    before trivial
  rw [there, Option.some.injEq] at same
  refine .inl ⟨_, before, ?_⟩
  unfold queueLog
  rw [same, conn]

theorem Logged.start (logged : Logged config kind system log) {id : ContextNumber}
    (component : Component) {ctx : Context Instance Response}
    (stored : system.contexts[id]? = some ctx) (set : ctx.conn.loopSet = true) :
    Logged config kind (system.startComponent config id component) log :=
  logged.of_calls (start_component_calls config id system component)
    (serving_start logged.serving component stored set)

theorem Logged.stop (logged : Logged config kind system log) (component : Component) :
    Logged config kind (system.stopComponent component) log :=
  logged.of_calls (stop_component_calls system component)
    (serving_stop logged.serving component)

theorem Logged.rebuilt (logged : Logged config kind system log) :
    Logged config kind { system with contexts := system.contexts ++ [.fresh] } log := by
  apply logged.of_quiet (serving_rebuilt logged.serving)
  · simp
  · intro id after there
    dsimp only at there
    by_cases inside : id < system.contexts.length
    · rw [List.getElem?_append_left inside] at there
      exact .inl ⟨after, there, rfl⟩
    · refine .inr ⟨Nat.not_lt.mp inside, ?_⟩
      rw [List.getElem?_append_right (Nat.not_lt.mp inside)] at there
      exact List.mem_singleton.mp (List.mem_of_getElem? there)

theorem Logged.publish (logged : Logged config kind system log) {role : Role}
    {id : ContextNumber} {pub : PublisherId}
    (held : system.endpoints.publisher role = some (id, pub)) (payload : Json) :
    Logged config kind (system.onContext id fun ctx => ctx.publish pub (.ok payload))
      (log ++ if kind ⟨.str (publisherTopic config role), payload, 0⟩ then
        [(id, ⟨.str (publisherTopic config role), payload, 0⟩)] else []) := by
  obtain ⟨ctx, stored, live⟩ := logged.serving.live role id pub held
  have taken : ctx.step Response.serialize (.publish pub (.ok payload)) =
      some (ctx.publish pub (.ok payload)) := rfl
  have seen : sent Response.serialize ctx (.publish pub (.ok payload)) =
      some ⟨.str (publisherTopic config role), payload, 0⟩ := by
    simp [sent, publication_live live]
  have length : (system.onContext id fun ctx =>
      ctx.publish pub (.ok payload)).contexts.length = system.contexts.length := by
    simp [System.onContext]
  generalize (⟨.str (publisherTopic config role), payload, 0⟩ : Outgoing) = item at seen ⊢
  constructor
  · exact serving_inside logged.serving stored (fun call called => by cases called) taken
  · intro entry member
    rw [length]
    rcases List.mem_append.mp member with old | new
    · exact logged.known entry old
    · split at new
      · rw [List.mem_singleton.mp new]
        exact (List.getElem?_eq_some_iff.mp stored).1
      · cases new
  · intro other after there
    rw [System.onContext, List.getElem?_modify] at there
    obtain ⟨before, known, rfl⟩ := Option.map_eq_some_iff.mp there
    rw [List.filter_append, List.map_append, ← logged.queued other before known]
    split
    · rename_i same
      rw [← same, stored, Option.some.injEq] at known
      rw [← known, log_step Response.serialize (logged.serving.sound id ctx stored).wellFormed
        taken, seen, List.filter_append, same]
      cases own : kind item <;> simp [own]
    · rename_i different
      cases kind item <;> simp [different]

theorem Logged.publish_other (logged : Logged config kind system log) {role : Role}
    {serialized : Except PyException Json}
    (other : ∀ payload, serialized = .ok payload →
      kind ⟨.str (publisherTopic config role), payload, 0⟩ = false)
    {id : ContextNumber} {pub : PublisherId}
    (held : system.endpoints.publisher role = some (id, pub)) :
    Logged config kind (system.onContext id fun ctx => ctx.publish pub serialized) log := by
  obtain ⟨ctx, stored, live⟩ := logged.serving.live role id pub held
  have taken : ctx.step Response.serialize (.publish pub serialized) =
      some (ctx.publish pub serialized) := rfl
  apply logged.of_inside stored (fun call called => by cases called) ?_ taken
  intro item seen
  cases serialized with
  | error error =>
      simp only [sent, publication_refused] at seen
      cases seen
  | ok payload =>
      simp only [sent, publication_live live, Option.join_some, Option.some.injEq] at seen
      rw [← seen]
      exact other payload rfl

end Logs

end RemoteIface.Gateway.Outbox
