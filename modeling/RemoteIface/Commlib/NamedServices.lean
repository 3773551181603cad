import RemoteIface.Library.Runs
import RemoteIface.Commlib.CommandTable
import RemoteIface.Commlib.Rpc

/-!
The command table against the started services when several services may have
one name. A start overwrites the entry of the name and a stop takes it out, so
the table follows the services as long as no stopped service leaves a started
one of the same name behind.
-/

namespace RemoteIface.Commlib.NamedServices

set_option autoImplicit false

open RemoteIface.Library.Runs
open RemoteIface.Library.InsertionOrder
open RemoteIface.Commlib.Payload
open RemoteIface.Commlib.Endpoints
open RemoteIface.Commlib.Rpc
open RemoteIface.Commlib.CommandTable

variable {Obj : Type} {registry : Registry Obj}

def StartedAs (registry : Registry Obj) (id : ServiceId) (name : String) : Prop :=
  ∃ service, registry.services[id]? = some service ∧ service.rpcName = name ∧
    service.started = true

/-- The names of the table are those of the started services, and each entry is
the message type of a started service of the name that has its executor. -/
structure TableTracks (registry : Registry Obj) : Prop where
  keys : ∀ name, name ∈ registry.commandTable.keys ↔ ∃ id, StartedAs registry id name
  entries : ∀ name msgType id, registry.commandTable.get? name = some (msgType, id) →
    ∃ service executor, registry.services[id]? = some service ∧ service.rpcName = name ∧
      service.started = true ∧ service.msgType = msgType ∧ service.executor = some executor

/-- A request on the name of a started service gets to an executor, unless its
own data cannot be decoded. -/
def RequestsHandled (Resp : Type) (registry : Registry Obj) : Prop :=
  ∀ id name, StartedAs registry id name →
    ∃ msgType holder, registry.commandTable.get? name = some (msgType, holder) ∧
      ∀ payload request, msgType.hydrate (dataOf payload) = .ok request →
        ∃ executor, (dispatchRpc registry name payload msgType holder : Request Obj Resp).work =
          .queued executor request

theorem TableTracks.handled (Resp : Type) (tracks : TableTracks registry) :
    RequestsHandled Resp registry := by
  intro id name started
  have key := (tracks.keys name).mpr ⟨id, started⟩
  obtain ⟨entry, found⟩ := Option.isSome_iff_exists.mp (OrderedDict.get_isSome_iff.mpr key)
  obtain ⟨service, executor, stored, _, _, _, running⟩ := tracks.entries name entry.1 entry.2 found
  apply Exists.intro entry.1
  apply Exists.intro entry.2
  constructor
  · exact found
  · intro payload request decoded
    apply Exists.intro executor
    simp [dispatchRpc, serviceDispatch, decoded, stored, running]

theorem started_as_set {other : Registry Obj} {id : ServiceId} {service changed : RpcService Obj}
    (stored : registry.services[id]? = some service)
    (services : other.services = registry.services.set id changed) (place : ServiceId)
    (name : String) :
    StartedAs other place name ↔
      (place = id ∧ changed.rpcName = name ∧ changed.started = true) ∨
        (place ≠ id ∧ StartedAs registry place name) := by
  unfold StartedAs
  rw [services]
  by_cases here : place = id
  · have inside := (List.getElem?_eq_some_iff.mp stored).1
    simp [here, inside]
  · rw [List.getElem?_set_ne (Ne.symm here)]
    simp [here]

theorem TableTracks.empty : TableTracks (Registry.empty : Registry Obj) where
  keys := by
    intro name
    simp [Registry.empty, StartedAs]
  entries := by
    intro name msgType id found
    simp [Registry.empty] at found

theorem TableTracks.congr {other : Registry Obj} (tracks : TableTracks registry)
    (services : other.services = registry.services)
    (table : other.commandTable = registry.commandTable) : TableTracks other := by
  constructor
  · unfold StartedAs
    rw [services, table]
    exact tracks.keys
  · rw [services, table]
    exact tracks.entries

theorem TableTracks.bound {other : Registry Obj} {service : RpcService Obj}
    (tracks : TableTracks registry) (stopped : service.started = false)
    (services : other.services = registry.services ++ [service])
    (table : other.commandTable = registry.commandTable) : TableTracks other := by
  have same : ∀ id name, StartedAs other id name ↔ StartedAs registry id name := by
    intro id name
    unfold StartedAs
    rw [services, List.getElem?_append]
    split
    · rfl
    · rename_i outside
      have missing : registry.services[id]? = none := List.getElem?_eq_none (by omega)
      rw [missing]
      constructor
      · intro found
        obtain ⟨twin, stored, _, started⟩ := found
        rw [List.mem_singleton.mp (List.mem_of_getElem? stored), stopped] at started
        cases started
      · intro found
        obtain ⟨twin, stored, _⟩ := found
        cases stored
  constructor
  · intro name
    rw [table, tracks.keys name]
    simp only [same]
  · intro name msgType id found
    rw [table] at found
    obtain ⟨twin, executor, stored, rest⟩ := tracks.entries name msgType id found
    have inside := (List.getElem?_eq_some_iff.mp stored).1
    rw [services, List.getElem?_append_left inside]
    exact ⟨twin, executor, stored, rest⟩

theorem not_started_as {id : ServiceId} {service : RpcService Obj}
    (stored : registry.services[id]? = some service) (stopped : service.started = false)
    (name : String) : ¬ StartedAs registry id name := by
  intro found
  obtain ⟨twin, here, _, started⟩ := found
  rw [stored, Option.some.injEq] at here
  rw [← here, stopped] at started
  cases started

theorem started_as_name {id : ServiceId} {service : RpcService Obj} {name : String}
    (stored : registry.services[id]? = some service) (started : StartedAs registry id name) :
    service.rpcName = name := by
  obtain ⟨twin, here, named, _⟩ := started
  rw [stored, Option.some.injEq] at here
  rw [here]
  exact named

theorem TableTracks.start (tracks : TableTracks registry) {id : ServiceId}
    {service : RpcService Obj} (stored : registry.services[id]? = some service)
    (stopped : service.started = false) : TableTracks (registry.startRpc id) := by
  have change := Registry.start_rpc_stopped stored stopped
  have services := congrArg Registry.services change
  have table := congrArg Registry.commandTable change
  have moved := started_as_set stored services
  have asleep := not_started_as stored stopped
  have inside := (List.getElem?_eq_some_iff.mp stored).1
  dsimp only at services table
  constructor
  · intro name
    rw [table, OrderedDict.mem_keys_set, tracks.keys name]
    constructor
    · intro key
      rcases key with own | ⟨other, started⟩
      · exact ⟨id, (moved id name).mpr (.inl ⟨rfl, own.symm, rfl⟩)⟩
      · apply Exists.intro other
        apply (moved other name).mpr
        right
        constructor
        · intro same
          rw [same] at started
          exact asleep name started
        · exact started
    · intro found
      obtain ⟨other, started⟩ := found
      rcases (moved other name).mp started with own | old
      · exact .inl own.2.1.symm
      · exact .inr ⟨other, old.2⟩
  · intro name msgType holder found
    rw [table] at found
    rw [services]
    by_cases own : name = service.rpcName
    · rw [own, OrderedDict.get_set_self, Option.some.injEq, Prod.mk.injEq] at found
      rw [← found.1, ← found.2, own, List.getElem?_set_self inside]
      exact ⟨_, _, rfl, rfl, rfl, rfl, rfl⟩
    · rw [OrderedDict.get_set, if_neg own] at found
      obtain ⟨twin, executor, here, named, started, rest⟩ :=
        tracks.entries name msgType holder found
      have apart : id ≠ holder := by
        intro same
        apply asleep name
        rw [same]
        exact ⟨twin, here, named, started⟩
      rw [List.getElem?_set_ne apart]
      exact ⟨twin, executor, here, named, started, rest⟩

theorem TableTracks.create_rpc (tracks : TableTracks registry) (rpcName : String)
    (msgType : MsgType Obj) (onRequest : CallbackId) :
    TableTracks (registry.createRpc rpcName msgType onRequest) := by
  have bound : TableTracks { registry with
      services := registry.services ++ [⟨rpcName, msgType, onRequest, 5, none, false⟩] } :=
    tracks.bound rfl rfl rfl
  apply bound.start
  · exact List.getElem?_concat_length
  · rfl

/-- No started service of the name of a stopped one is left. -/
def SparesRivals (registry : Registry Obj) (call : RegistryCall Obj) : Prop :=
  ∀ id, call = .stopRpc id → ∀ name, StartedAs registry id name →
    ∀ other, StartedAs registry other name → other = id

/-- The name is out of the table, and that leaves nothing behind exactly when
the stopped service was alone with it. -/
theorem TableTracks.stop_iff (tracks : TableTracks registry) {id : ServiceId}
    {service : RpcService Obj} (stored : registry.services[id]? = some service)
    (running : service.started = true) :
    TableTracks (registry.stopRpc id) ↔
      ∀ other, StartedAs registry other service.rpcName → other = id := by
  have change := Registry.stop_rpc_started stored running
  have services := congrArg Registry.services change
  have table := congrArg Registry.commandTable change
  have moved := started_as_set stored services
  dsimp only at services table
  constructor
  · intro after rival started
    by_contra apart
    have left := (moved rival service.rpcName).mpr (.inr ⟨apart, started⟩)
    have key := (after.keys service.rpcName).mpr ⟨rival, left⟩
    rw [table, OrderedDict.mem_keys_pop] at key
    exact key.2 rfl
  · intro alone
    constructor
    · intro name
      rw [table, OrderedDict.mem_keys_pop, tracks.keys name]
      constructor
      · intro key
        obtain ⟨⟨other, started⟩, different⟩ := key
        apply Exists.intro other
        apply (moved other name).mpr
        right
        constructor
        · intro same
          rw [same] at started
          exact different (started_as_name stored started).symm
        · exact started
      · intro found
        obtain ⟨other, started⟩ := found
        rcases (moved other name).mp started with ended | ⟨apart, old⟩
        · cases ended.2.2
        · constructor
          · exact ⟨other, old⟩
          · intro same
            rw [same] at old
            exact apart (alone other old)
    · intro name msgType holder found
      rw [table, OrderedDict.get_pop] at found
      split at found
      · cases found
      · rename_i different
        obtain ⟨twin, executor, here, named, rest⟩ := tracks.entries name msgType holder found
        have apart : id ≠ holder := by
          intro same
          rw [← same, stored, Option.some.injEq] at here
          rw [← here] at named
          exact different named.symm
        rw [services, List.getElem?_set_ne apart]
        exact ⟨twin, executor, here, named, rest⟩

theorem TableTracks.start_rpc (tracks : TableTracks registry) (id : ServiceId) :
    TableTracks (registry.startRpc id) := by
  cases stored : registry.services[id]? with
  | none =>
      rw [Registry.start_rpc_missing stored]
      exact tracks
  | some service =>
      cases running : service.started with
      | true =>
          rw [Registry.start_rpc_started stored running]
          exact tracks
      | false => exact tracks.start stored running

/-- `stop_iff` for a service that may be stopped already, or not there. -/
theorem TableTracks.stop_rpc_iff (tracks : TableTracks registry) (id : ServiceId) :
    TableTracks (registry.stopRpc id) ↔
      ∀ name, StartedAs registry id name → ∀ other, StartedAs registry other name → other = id := by
  cases stored : registry.services[id]? with
  | none =>
      rw [Registry.stop_rpc_missing stored]
      apply iff_of_true tracks
      intro name started
      obtain ⟨twin, here, _⟩ := started
      rw [stored] at here
      cases here
  | some service =>
      cases running : service.started with
      | true =>
          rw [tracks.stop_iff stored running]
          constructor
          · intro alone name started
            rw [← started_as_name stored started]
            exact alone
          · intro spares
            exact spares service.rpcName ⟨service, stored, rfl, running⟩
      | false =>
          rw [Registry.stop_rpc_stopped stored running]
          apply iff_of_true tracks
          intro name started
          exact absurd started (not_started_as stored running name)

theorem perform_tracks_iff (tracks : TableTracks registry) (call : RegistryCall Obj) :
    TableTracks (registry.perform call) ↔ SparesRivals registry call := by
  by_cases about : AboutServices call
  · cases call with
    | createRpc rpcName msgType onRequest =>
        apply iff_of_true (tracks.create_rpc rpcName msgType onRequest)
        intro id same
        cases same
    | startRpc id =>
        apply iff_of_true (tracks.start_rpc id)
        intro other same
        cases same
    | stopRpc id =>
        rw [Registry.perform, tracks.stop_rpc_iff id]
        constructor
        · intro spares other same
          cases same
          exact spares
        · intro spares
          exact spares id rfl
    | _ => exact about.elim
  · obtain ⟨services, table⟩ := perform_services registry about
    apply iff_of_true (tracks.congr services table)
    intro id same
    rw [same] at about
    exact absurd trivial about

def callStep (registry : Registry Obj) (call : RegistryCall Obj) : Option (Registry Obj) :=
  some (registry.perform call)

/-- From a fresh context the table tracks the started services in every state
of a run exactly when no call stops a started service while another one of its
name is started. -/
theorem table_tracks_iff_rivals_spared (Resp : Type) (calls : List (RegistryCall Obj)) :
    Always callStep (fun registry => TableTracks registry ∧ RequestsHandled Resp registry)
        Registry.empty calls ↔
      Guarded callStep SparesRivals Registry.empty calls := by
  have kept : ∀ (registry : Registry Obj) call next, True → callStep registry call = some next →
      True := fun _ _ _ _ _ => trivial
  refine always_iff_guarded callStep kept ?_ trivial ?_
  · intro registry call next _ holds taken
    cases taken
    rw [← perform_tracks_iff holds.1 call]
    constructor
    · exact And.left
    · intro tracks
      exact ⟨tracks, tracks.handled Resp⟩
  · exact ⟨.empty, TableTracks.empty.handled Resp⟩

/-- Two services of one name, and the older one is stopped. -/
def rivalCalls : List (RegistryCall Unit) :=
  [.createRpc "bot/status" (.plain fun _ => .ok ()) 0,
    .createRpc "bot/status" (.plain fun _ => .ok ()) 1, .stopRpc 0]

/-- The younger service is still started, and its name is out of the table. -/
theorem stopped_rival_disables_other :
    ∃ final, run callStep Registry.empty rivalCalls = some final ∧
      StartedAs final 1 "bot/status" ∧ "bot/status" ∉ final.commandTable.keys ∧
      ¬ Always callStep (fun registry => TableTracks registry ∧ RequestsHandled Unit registry)
        Registry.empty rivalCalls := by
  have started : StartedAs (Registry.empty.performAll rivalCalls) 1 "bot/status" :=
    ⟨_, rfl, rfl, rfl⟩
  have missing : "bot/status" ∉ (Registry.empty.performAll rivalCalls).commandTable.keys := by
    decide
  refine ⟨_, rfl, started, missing, ?_⟩
  intro always
  have last := always rivalCalls List.prefix_rfl _ rfl
  exact missing ((last.1.keys "bot/status").mpr ⟨1, started⟩)

end RemoteIface.Commlib.NamedServices
