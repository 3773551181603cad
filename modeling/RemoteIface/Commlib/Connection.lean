import RemoteIface.Commlib.Rpc
import RemoteIface.Library.Runs

/-!
The connection side of a `NodeContext`: `start`, `stop` and the `_run` task,
cut at their awaits. One event is what happens between two awaits of one task;
what the client, the broker and the clock do is in the event. The two worker
tasks of one connection are kept together as a session, and finished sessions
stay in the list, so that a run shows all workers ever created.
-/

namespace RemoteIface.Commlib.Connection

set_option autoImplicit false

open RemoteIface.Commlib.Rpc

abbrev ClientId := Nat
abbrev SessionId := Nat

/-- How the body of the `async with` was left. -/
inductive Exit where
  | failed
  | cancelled
deriving DecidableEq, Repr

/-- The await at which `_run` stands. -/
inductive RunPc where
  | created
  | connecting (client : ClientId)
  | subscribing (client : ClientId) (todo : List String)
  | waiting (client : ClientId)
  | closing (client : ClientId) (exit : Exit)
  | cleanup (client : ClientId) (exit : Exit)
  | sleeping
  | ended
deriving DecidableEq, Repr

/-- `_drain_outgoing`. While it publishes, the item is in no queue. -/
inductive DrainTask where
  | waiting
  | publishing (item : Outgoing)
  | raised (item : Outgoing)
  | cancelled

/-- `_dispatch_incoming`. Its end is told apart by its origin: the iteration
over `client.messages`, or the handling of a message. -/
inductive DispatchTask where
  | iterating
  | returned
  | lost
  | raised (error : Payload.PyException)
  | cancelled

structure Session where
  client : ClientId
  drain : DrainTask
  dispatch : DispatchTask
  cancelRequested : Bool

/-- The call of `start` or `stop` that is suspended at its await. -/
inductive LifecycleCall where
  | none
  | starting
  | stopping
deriving DecidableEq, Repr

/-- `accepted` and `published` record the history of the queue: what was put
on `_outgoing`, and what `client.publish` returned for. -/
structure State where
  started : Bool
  stopped : Bool
  loopSet : Bool
  connected : Bool
  lifecycle : LifecycleCall
  runTask : Option RunPc
  cancelRequested : Bool
  clients : Nat
  subscribed : List String
  sessions : List Session
  scheduled : List Outgoing
  outgoing : List Outgoing
  accepted : List Outgoing
  published : List Outgoing

def State.fresh : State where
  started := false
  stopped := false
  loopSet := false
  connected := false
  lifecycle := .none
  runTask := none
  cancelRequested := false
  clients := 0
  subscribed := []
  sessions := []
  scheduled := []
  outgoing := []
  accepted := []
  published := []

/-- Each outcome is what the environment chose: whether the call the task was
waiting for returned or raised. What the client takes is left open: `publish` and
`subscribe` may return or raise on any topic. -/
inductive Event where
  | start
  | startResumed
  | stop
  | stopResumed
  | iterated (factoryReturned : Bool)
  | entered (returned : Bool)
  | subscribed (returned : Bool)
  | waitReturned
  | exited (raised : Bool)
  | cleanedUp
  | runCancelled
  | cancelReplaced
  | drainTook (session : SessionId)
  | published (session : SessionId) (returned : Bool)
  | messagesEnded (session : SessionId) (raised : Bool)
  | drainCancelled (session : SessionId)
  | dispatchCancelled (session : SessionId)
  | enqueued (item : Outgoing)
  | putRan

/-- The steps of `_run` and of the lifecycle calls, which touch no queue. -/
def Event.ofRun : Event → Bool
  | .drainTook _ | .published _ _ | .messagesEnded _ _ | .drainCancelled _
  | .dispatchCancelled _ | .enqueued _ | .putRan => false
  | _ => true

/-- The client a connection's tasks belong to once they may exist. -/
def RunPc.client : RunPc → Option ClientId
  | waiting client => some client
  | closing client _ => some client
  | cleanup client _ => some client
  | _ => none

def RunPc.todo : RunPc → Option (List String)
  | subscribing _ todo => some todo
  | _ => none

/-- The steps of a call of `start` or `stop`. -/
def Event.ofLifecycle : Event → Bool
  | .start | .startResumed | .stop | .stopResumed => true
  | _ => false

def Event.ofWorker : Event → Bool
  | .drainTook _ | .published _ _ | .messagesEnded _ _ | .drainCancelled _
  | .dispatchCancelled _ => true
  | _ => false

def RunPc.alive : RunPc → Bool
  | ended => false
  | _ => true

def DrainTask.alive : DrainTask → Bool
  | waiting => true
  | publishing _ => true
  | _ => false

def DispatchTask.alive : DispatchTask → Bool
  | iterating => true
  | _ => false

def DrainTask.inFlight : DrainTask → List Outgoing
  | publishing item => [item]
  | _ => []

namespace Session

def create (client : ClientId) : Session := ⟨client, .waiting, .iterating, false⟩

def alive (session : Session) : Bool := session.drain.alive || session.dispatch.alive

/-- Some task ended with an exception, which `asyncio.wait` returns for. -/
def failed (session : Session) : Bool :=
  match session.drain, session.dispatch with
  | .raised _, _ => true
  | _, .lost => true
  | _, .raised _ => true
  | _, _ => false

/-- `t.cancel()` for the tasks of the client that is left. -/
def cancelFor (client : ClientId) (session : Session) : Session :=
  if session.client = client then { session with cancelRequested := true } else session

end Session

namespace State

/-- `NodeContext.start` up to its `await asyncio.sleep(0)`. -/
def start (conn : State) : Option State :=
  match conn.lifecycle with
  | .none =>
      if conn.started then some conn
      else some { conn with
        loopSet := true
        stopped := false
        runTask := some .created
        cancelRequested := false
        lifecycle := .starting }
  | _ => none

def startResumed (conn : State) : Option State :=
  match conn.lifecycle with
  | .starting => some { conn with started := true, lifecycle := .none }
  | _ => none

/-- `NodeContext.stop` up to its `await self._run_task`. -/
def stop (conn : State) : Option State :=
  match conn.lifecycle with
  | .none =>
      if conn.started then
        match conn.runTask with
        | none => some { conn with stopped := true, connected := false, started := false }
        | some pc =>
            some { conn with stopped := true, cancelRequested := pc.alive, lifecycle := .stopping }
      else some conn
  | _ => none

def stopResumed (conn : State) : Option State :=
  match conn.lifecycle, conn.runTask with
  | .stopping, some .ended =>
      some { conn with
        runTask := none
        connected := false
        started := false
        lifecycle := .none }
  | _, _ => none

/-- What `_run` does next when no `CancelledError` is on its way to it. -/
def runnable (conn : State) : Option RunPc :=
  if conn.cancelRequested then none else conn.runTask

def goTo (conn : State) (pc : RunPc) : State := { conn with runTask := some pc }

/-- After the `finally`: the exception goes on, or the loop ends or sleeps. -/
def afterCleanup (conn : State) : Exit → State
  | .cancelled => conn.goTo .ended
  | .failed => if conn.stopped then conn.goTo .ended else conn.goTo .sleeping

/-- The `finally` of the loop body. -/
def leave (conn : State) (client : ClientId) (exit : Exit) : State :=
  let left := { conn with connected := false }
  if conn.sessions.any fun session => session.client = client then
    { left with
      sessions := conn.sessions.map (Session.cancelFor client)
      runTask := some (.cleanup client exit) }
  else left.afterCleanup exit

/-- The head of the loop, and the transport factory when it goes on. -/
def iterate (conn : State) (factoryReturned : Bool) : State :=
  if conn.stopped then conn.goTo .ended
  else if factoryReturned then
    { conn with runTask := some (.connecting conn.clients), clients := conn.clients + 1 }
  else { conn with connected := false }.afterCleanup .failed

/-- The subscribe loop goes on with the rest of its list, and creates the two
worker tasks after the last topic. -/
def subscribeLoop (conn : State) (client : ClientId) : List String → State
  | [] => { conn with
      sessions := conn.sessions ++ [Session.create client]
      runTask := some (.waiting client) }
  | topic :: rest => conn.goTo (.subscribing client (topic :: rest))

def enter (conn : State) (client : ClientId) (desired : List String) : State :=
  { conn with connected := true, subscribed := [] }.subscribeLoop client desired

def subscribe (conn : State) (client : ClientId) (topic : String) (rest : List String) : State :=
  { conn with subscribed := conn.subscribed ++ [topic] }.subscribeLoop client rest

/-- `CancelledError` arrives at the await of `_run`. The `gather` of the
cleanup lets it through only after its tasks, see `cleanedUp`. -/
def runCancelled (conn : State) : Option State :=
  if conn.cancelRequested then
    let caught := { conn with cancelRequested := false }
    match conn.runTask with
    | some .created => some (caught.goTo .ended)
    | some (.connecting client) => some (caught.leave client .cancelled)
    | some (.subscribing client _) => some (caught.goTo (.closing client .cancelled))
    | some (.waiting client) => some (caught.goTo (.closing client .cancelled))
    | some (.closing client _) => some (caught.leave client .cancelled)
    | some .sleeping => some (caught.goTo .ended)
    | _ => none
  else none

/-- The client's own code turns the `CancelledError` that arrives in it into
another exception: in `connect`, in `subscribe` or in `disconnect`. -/
def cancelReplaced (conn : State) : Option State :=
  if conn.cancelRequested then
    let caught := { conn with cancelRequested := false }
    match conn.runTask with
    | some (.connecting client) => some (caught.leave client .failed)
    | some (.subscribing client _) => some (caught.goTo (.closing client .failed))
    | some (.closing client _) => some (caught.leave client .failed)
    | _ => none
  else none

def cleanedUp (conn : State) : Option State :=
  match conn.runTask with
  | some (.cleanup client exit) =>
      if conn.sessions.any fun session => session.client = client ∧ session.alive = true then none
      else if conn.cancelRequested then
        some ({ conn with cancelRequested := false }.afterCleanup .cancelled)
      else some (conn.afterCleanup exit)
  | _ => none

def setSession (conn : State) (id : SessionId) (session : Session) : State :=
  { conn with sessions := conn.sessions.set id session }

/-- The session whose worker takes a step, when it was not cancelled. -/
def worker (conn : State) (id : SessionId) : Option Session :=
  (conn.sessions[id]?).filter fun session => !session.cancelRequested

def drainTook (conn : State) (id : SessionId) : Option State :=
  match conn.worker id, conn.outgoing with
  | some ⟨client, .waiting, dispatch, requested⟩, item :: rest =>
      some ({ conn with outgoing := rest }.setSession id
        ⟨client, .publishing item, dispatch, requested⟩)
  | _, _ => none

def publishEnded (conn : State) (id : SessionId) (returned : Bool) : Option State :=
  match conn.worker id with
  | some ⟨client, .publishing item, dispatch, requested⟩ =>
      if returned then
        some ({ conn with published := conn.published ++ [item] }.setSession id
          ⟨client, .waiting, dispatch, requested⟩)
      else some (conn.setSession id ⟨client, .raised item, dispatch, requested⟩)
  | _ => none

def messagesEnded (conn : State) (id : SessionId) (raised : Bool) : Option State :=
  match conn.worker id with
  | some ⟨client, drain, .iterating, requested⟩ =>
      some (conn.setSession id ⟨client, drain, if raised then .lost else .returned, requested⟩)
  | _ => none

def drainCancelled (conn : State) (id : SessionId) : Option State :=
  match conn.sessions[id]? with
  | some session =>
      if session.cancelRequested ∧ session.drain.alive = true then
        some (conn.setSession id { session with drain := .cancelled })
      else none
  | none => none

def dispatchCancelled (conn : State) (id : SessionId) : Option State :=
  match conn.sessions[id]? with
  | some session =>
      if session.cancelRequested ∧ session.dispatch.alive = true then
        some (conn.setSession id { session with dispatch := .cancelled })
      else none
  | none => none

/-- `_enqueue_outgoing`: `call_soon_threadsafe` of the `put_nowait`. The
`assert` on the loop raises before the first start. -/
def enqueueOutgoing (conn : State) (item : Outgoing) : Except Payload.PyException State :=
  if conn.loopSet then .ok { conn with scheduled := conn.scheduled ++ [item] }
  else .error Payload.assertionError

def putRan (conn : State) : Option State :=
  match conn.scheduled with
  | [] => none
  | item :: rest =>
      some { conn with
        scheduled := rest
        outgoing := conn.outgoing ++ [item]
        accepted := conn.accepted ++ [item] }

/-- One step. `desired` is what `_desired_subscriptions` returns now. -/
def step (desired : List String) (conn : State) : Event → Option State
  | .start => conn.start
  | .startResumed => conn.startResumed
  | .stop => conn.stop
  | .stopResumed => conn.stopResumed
  | .iterated factoryReturned =>
      match conn.runnable with
      | some .created => some (conn.iterate factoryReturned)
      | some .sleeping => some (conn.iterate factoryReturned)
      | _ => none
  | .entered returned =>
      match conn.runnable with
      | some (.connecting client) =>
          if returned then some (conn.enter client desired) else some (conn.leave client .failed)
      | _ => none
  | .subscribed returned =>
      match conn.runnable with
      | some (.subscribing client (topic :: rest)) =>
          if returned then some (conn.subscribe client topic rest)
          else some (conn.goTo (.closing client .failed))
      | _ => none
  | .waitReturned =>
      match conn.runnable with
      | some (.waiting client) =>
          if conn.sessions.any fun session => session.client = client ∧ session.failed = true then
            some (conn.goTo (.closing client .failed))
          else none
      | _ => none
  | .exited raised =>
      match conn.runnable with
      | some (.closing client exit) =>
          some (conn.leave client (if raised then .failed else exit))
      | _ => none
  | .cleanedUp => conn.cleanedUp
  | .runCancelled => conn.runCancelled
  | .cancelReplaced => conn.cancelReplaced
  | .drainTook id => conn.drainTook id
  | .published id returned => conn.publishEnded id returned
  | .messagesEnded id raised => conn.messagesEnded id raised
  | .drainCancelled id => conn.drainCancelled id
  | .dispatchCancelled id => conn.dispatchCancelled id
  | .enqueued item =>
      match conn.enqueueOutgoing item with
      | .ok next => some next
      | .error _ => some conn
  | .putRan => conn.putRan

end State

end RemoteIface.Commlib.Connection
