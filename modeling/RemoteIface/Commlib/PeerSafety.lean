import RemoteIface.Commlib.Replies
import RemoteIface.Commlib.Topic

/-!
What a remote peer can do to the two worker tasks. No payload makes the
dispatch task fail, but the reply address of a request goes into the queue
unchecked, and the drain task ends on the first topic `client.publish` refuses.
-/

namespace RemoteIface.Commlib.PeerSafety

set_option autoImplicit false

open RemoteIface.Library.Runs
open RemoteIface.Library.InsertionOrder
open RemoteIface.Commlib.Payload
open RemoteIface.Commlib.Topic
open RemoteIface.Commlib.Endpoints
open RemoteIface.Commlib.Rpc
open RemoteIface.Commlib.Dispatch
open RemoteIface.Commlib.Connection
open RemoteIface.Commlib.NodeContext
open RemoteIface.Commlib.Replies

variable {Obj Resp : Type}

/-- The topics `client.publish` takes on a live connection. -/
def publishAccepts : Json → Bool
  | .str topic => topic ≠ "" && !hasWildcard topic
  | _ => false

/-- No worker task has ended because of what a message contained, and every
item that a message caused to be enqueued has a topic that can be published. -/
structure Survives (ctx : Context Obj Resp) : Prop where
  dispatch : ∀ session ∈ ctx.conn.sessions, ∀ error, session.dispatch ≠ .raised error
  drain : ∀ session ∈ ctx.conn.sessions, ∀ item, session.drain = .raised item →
    item ∈ ctx.replies.map Prod.snd → publishAccepts item.topic = true
  replies : ∀ entry ∈ ctx.replies, publishAccepts entry.2.topic = true

/-- `json.loads` raises nothing but what the loop catches, and a request that
is about to be answered gave an address that can be published on. -/
def Harmless (serialize : Resp → Except PyException Json) (ctx : Context Obj Resp) :
    NodeContext.Event Obj Resp → Prop
  | .received _ message _ => ∀ error, message.payload ≠ .raised error
  | .workEnded id outcome _ =>
      ∀ request, ctx.router.requests[id]? = some request → request.replyTo.truthy = true →
        ∀ response body, outcome = .returned response → serialize response = .ok body →
          publishAccepts request.replyTo = true
  | _ => True

theorem survives_iff (ctx : Context Obj Resp) :
    Survives ctx ↔
      (∀ session ∈ ctx.conn.sessions, ∀ error, session.dispatch ≠ .raised error) ∧
        ∀ entry ∈ ctx.replies, publishAccepts entry.2.topic = true := by
  refine ⟨fun survives => ⟨survives.dispatch, survives.replies⟩, fun both => ?_⟩
  refine ⟨both.1, ?_, both.2⟩
  intro _ _ item _ caused
  obtain ⟨entry, member, rfl⟩ := List.mem_map.mp caused
  exact both.2 entry member

theorem survives_of_same {ctx next : Context Obj Resp} (survives : Survives ctx)
    (sessions : ∀ session ∈ next.conn.sessions, ∀ error, session.dispatch = .raised error →
      ∃ old ∈ ctx.conn.sessions, old.dispatch = .raised error)
    (replies : next.replies = ctx.replies) : Survives next := by
  rw [survives_iff]
  constructor
  · intro session member error raised
    obtain ⟨old, oldMember, oldRaised⟩ := sessions session member error raised
    exact survives.dispatch old oldMember error oldRaised
  · rw [replies]
    exact survives.replies

theorem connection_step_raised {desired : List String} {conn next : Connection.State}
    {event : Connection.Event} (dormant : conn.Dormant)
    (taken : conn.step desired event = some next) :
    ∀ session ∈ next.sessions, ∀ error, session.dispatch = .raised error →
      ∃ old ∈ conn.sessions, old.dispatch = .raised error := by
  have replaced : ∀ {id : SessionId} {old new : Session}, conn.sessions[id]? = some old →
      (∀ error, new.dispatch = .raised error → old.dispatch = .raised error) →
      ∀ session ∈ conn.sessions.set id new, ∀ error, session.dispatch = .raised error →
        ∃ old ∈ conn.sessions, old.dispatch = .raised error := by
    intro id old new stored kept session member error raised
    rcases List.mem_or_eq_of_mem_set member with same | rfl
    · exact ⟨session, same, raised⟩
    · exact ⟨old, List.mem_of_getElem? stored, kept error raised⟩
  by_cases ofRun : event.ofRun = true
  · cases (State.run_move dormant ofRun taken).1 with
    | kept sessions _ _ _ =>
        rw [sessions]
        exact fun session member error raised => ⟨session, member, raised⟩
    | subscribing sessions _ _ =>
        rw [sessions]
        exact fun session member error raised => ⟨session, member, raised⟩
    | left client sessions _ _ _ =>
        rw [sessions]
        intro session member error raised
        obtain ⟨old, oldMember, rfl⟩ := List.mem_map.mp member
        refine ⟨old, oldMember, ?_⟩
        rw [← raised]
        unfold Session.cancelFor
        split <;> rfl
    | opened client sessions _ _ _ =>
        rw [sessions]
        intro session member error raised
        rcases List.mem_append.mp member with old | new
        · exact ⟨session, old, raised⟩
        · rw [List.mem_singleton.mp new] at raised
          cases raised
  cases event <;> simp only [Event.ofRun, not_true_eq_false] at ofRun
  case drainTook id =>
    obtain ⟨client, dispatch, item, rest, stored, _, rfl⟩ := State.drain_took_cases taken
    exact replaced stored fun _ raised => raised
  case published id returned =>
    obtain ⟨client, item, dispatch, stored, rfl⟩ := State.publish_ended_cases taken
    cases returned
    · exact replaced stored fun _ raised => raised
    · exact replaced stored fun _ raised => raised
  case messagesEnded id raised =>
    obtain ⟨client, drain, stored, rfl⟩ := State.messages_ended_cases taken
    refine replaced stored fun _ failed => ?_
    cases raised <;> cases failed
  case drainCancelled id =>
    obtain ⟨session, stored, _, rfl⟩ := State.drain_cancelled_cases taken
    exact replaced stored fun _ raised => raised
  case dispatchCancelled id =>
    obtain ⟨session, stored, _, rfl⟩ := State.dispatch_cancelled_cases taken
    refine replaced stored fun _ failed => ?_
    cases failed
  case enqueued item =>
    rcases State.enqueued_cases taken with rfl | rfl
    · exact fun session member error raised => ⟨session, member, raised⟩
    · exact fun session member error raised => ⟨session, member, raised⟩
  case putRan =>
    obtain ⟨item, rest, _, rfl⟩ := State.put_ran_cases taken
    exact fun session member error raised => ⟨session, member, raised⟩

/-- The end of a request keeps the tasks alive exactly when its address, if a
reply goes there, can be published on. -/
theorem survives_work_ended_iff {serialize : Resp → Except PyException Json}
    {ctx next : Context Obj Resp} {id : RequestId} {outcome : Outcome Resp} {now : Int}
    (prepared : ctx.Prepared) (survives : Survives ctx)
    (taken : ctx.step serialize (.workEnded id outcome now) = some next) :
    Survives next ↔ Harmless serialize ctx (.workEnded id outcome now) := by
  obtain ⟨request, executor, decoded, finished, stored, running, rfl, _, sent⟩ :=
    Context.work_ended_cases taken
  rcases sent with ⟨conn, replies, nothing⟩ | ⟨reply, replied, _, conn, replies⟩
  · have silent := nothing.resolve_right (by
      simp [prepared.2 (List.ne_nil_of_mem (List.mem_of_getElem? stored))])
    refine iff_of_true (survives_of_same survives (by
      rw [conn]
      exact fun session member error raised => ⟨session, member, raised⟩) replies) ?_
    intro other otherStored wanted response body returned serialized
    rw [stored, Option.some.injEq] at otherStored
    subst otherStored returned
    have replied : onRpcFutureDone serialize now
        { request with work := .returned decoded response } =
          some ⟨request.replyTo, wrapResponse now body, 1⟩ :=
      done_some_iff.mpr ⟨wanted, decoded, response, body, rfl, serialized, rfl⟩
    exact nomatch silent.symm.trans replied
  · obtain ⟨wanted, _, response, body, returned, serialized, rfl⟩ := done_some_iff.mp replied
    have outcomeReturned : outcome = .returned response := by
      cases outcome with
      | returned actual =>
          cases returned
          rfl
      | raised error => cases returned
    rw [survives_iff, conn, replies]
    constructor
    · rintro ⟨_, accepted⟩ other otherStored _ _ _ _ _
      rw [stored, Option.some.injEq] at otherStored
      rw [← otherStored]
      exact accepted _ (List.mem_append_right _ (List.mem_singleton_self _))
    · intro harmless
      refine ⟨survives.dispatch, fun entry member => ?_⟩
      rcases List.mem_append.mp member with old | new
      · exact survives.replies entry old
      · rw [List.mem_singleton.mp new]
        exact harmless request stored wanted response body outcomeReturned serialized

theorem survives_step_iff {serialize : Resp → Except PyException Json}
    {ctx next : Context Obj Resp} {event : NodeContext.Event Obj Resp}
    (sound : ctx.Sound) (survives : Survives ctx)
    (taken : ctx.step serialize event = some next) :
    Survives next ↔ Harmless serialize ctx event := by
  have same : ∀ session ∈ ctx.conn.sessions, ∀ error, session.dispatch = .raised error →
      ∃ old ∈ ctx.conn.sessions, old.dispatch = .raised error :=
    fun session member error raised => ⟨session, member, raised⟩
  cases event with
  | workEnded id outcome now => exact survives_work_ended_iff sound.2 survives taken
  | received session message callbacks =>
      obtain ⟨client, drain, stored, passed | failed⟩ := Context.received_cases taken
      · obtain ⟨router, dispatched, rfl⟩ := passed
        refine iff_of_true (survives_of_same survives same rfl) ?_
        intro error raised
        simp [dispatchIncoming, raised] at dispatched
      · obtain ⟨error, raised, rfl⟩ := failed
        refine iff_of_false ?_ (fun harmless => harmless error raised)
        intro alive
        have inside := (List.getElem?_eq_some_iff.mp stored).1
        exact alive.dispatch ⟨client, drain, .raised error, false⟩
          (List.mem_iff_getElem?.mpr ⟨session, List.getElem?_set_self inside⟩) error rfl
  | called call =>
      cases taken
      exact iff_of_true (survives_of_same survives same rfl) trivial
  | publish id serialized =>
      cases taken
      refine iff_of_true ?_ trivial
      rcases Context.publish_cases ctx id serialized with unchanged | counted | ⟨item, _, queued⟩
      · rw [unchanged]
        exact survives
      · rw [counted]
        exact survives_of_same survives same rfl
      · rw [queued]
        exact survives_of_same survives same rfl
  | workStarted id =>
      obtain ⟨conn, replies, _⟩ := Context.work_started_conn taken
      exact iff_of_true (survives_of_same survives (conn ▸ same) replies) trivial
  | wire event =>
      obtain ⟨conn, moved, rfl⟩ := Option.map_eq_some_iff.mp taken
      exact iff_of_true
        (survives_of_same survives (connection_step_raised sound.1.dormant moved) rfl) trivial

/-- In every run no worker task ends because of a message exactly when every
answered request gave a publishable address. -/
theorem tasks_survive_iff_addresses_publishable (serialize : Resp → Except PyException Json)
    (events : List (NodeContext.Event Obj Resp)) :
    Always (Context.step serialize) Survives Context.fresh events ↔
      Guarded (Context.step serialize) (Harmless serialize) Context.fresh events := by
  refine always_iff_guarded (Context.step serialize)
    (fun _ _ _ sound taken => Context.sound_step sound taken)
    (fun _ _ _ sound survives taken => survives_step_iff sound survives taken)
    Context.sound_fresh ?_
  exact ⟨by simp [Context.fresh, State.fresh], by simp [Context.fresh, State.fresh],
    by simp [Context.fresh]⟩

def numberedRequest : Json := .obj [("header", .obj [("reply_to", .int 5)])]

/-- The request is served, and its reply reaches the drain task. -/
def poisonedRun : List (NodeContext.Event Unit Unit) :=
  serviceRun ++ [.received 0 ⟨"bot/status", .value numberedRequest⟩ (fun _ _ => .ok ()),
    .workStarted 0, .workEnded 0 (.returned ()) 7, .wire .putRan, .wire (.drainTook 0),
    .wire (.published 0 false)]

/-- One message ends the drain task. -/
theorem numbered_address_ends_drain :
    ∃ final session item, run (Context.step nullResponse) Context.fresh poisonedRun = some final ∧
      final.conn.sessions = [session] ∧ session.drain = .raised item ∧
      item ∈ final.replies.map Prod.snd ∧ publishAccepts item.topic = false ∧
      ¬ Survives final := by
  refine ⟨_, _, _, rfl, rfl, rfl, .head _, rfl, ?_⟩
  intro survives
  exact absurd (survives.replies _ (.head _)) (by decide)

end RemoteIface.Commlib.PeerSafety
