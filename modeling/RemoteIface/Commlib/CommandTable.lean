import RemoteIface.Commlib.Handles

/-!
The command table and the services that are behind its names. Starting a
service enters its name and stopping it takes the name out, whoever entered it;
a holder that stops all services of a table therefore leaves it empty.
-/

namespace RemoteIface.Commlib.CommandTable

set_option autoImplicit false

open RemoteIface.Library.InsertionOrder
open RemoteIface.Commlib.Payload
open RemoteIface.Commlib.Endpoints
open RemoteIface.Commlib.Subscriptions
open RemoteIface.Commlib.Handles

variable {Obj : Type} {registry : Registry Obj}

def serviceState (registry : Registry Obj) (id : ServiceId) : Option (String × Bool) :=
  (registry.services[id]?).map fun service => (service.rpcName, service.started)

/-- Every name of the table is that of a started service among those held. -/
def Covered (registry : Registry Obj) (held : List ServiceId) : Prop :=
  ∀ name ∈ registry.commandTable.keys,
    ∃ id ∈ held, serviceState registry id = some (name, true)

def AboutServices : RegistryCall Obj → Prop
  | .createRpc _ _ _ => True
  | .startRpc _ => True
  | .stopRpc _ => True
  | _ => False

theorem perform_services (registry : Registry Obj) {call : RegistryCall Obj}
    (spared : ¬ AboutServices call) :
    (registry.perform call).services = registry.services ∧
      (registry.perform call).commandTable = registry.commandTable := by
  cases call with
  | createPublisher topic => exact ⟨rfl, rfl⟩
  | startPublisher id => exact ⟨rfl, rfl⟩
  | stopPublisher id => exact ⟨rfl, rfl⟩
  | createSubscriber topic onMessage msgType => simp [Registry.perform, Registry.createSubscriber]
  | startSubscriber id => simp [Registry.perform]
  | stopSubscriber id => simp [Registry.perform]
  | setCallback id fn => exact ⟨rfl, rfl⟩
  | createRpc rpcName msgType onRequest => exact absurd trivial spared
  | startRpc id => exact absurd trivial spared
  | stopRpc id => exact absurd trivial spared

theorem Covered.congr {other : Registry Obj} {held : List ServiceId}
    (covered : Covered registry held) (services : other.services = registry.services)
    (table : other.commandTable = registry.commandTable) : Covered other held := by
  unfold Covered serviceState
  rw [services, table]
  exact covered

theorem create_rpc_table (registry : Registry Obj) (rpcName : String) (msgType : MsgType Obj)
    (onRequest : CallbackId) :
    (registry.createRpc rpcName msgType onRequest).services =
        registry.services ++ [⟨rpcName, msgType, onRequest, 5, some registry.executors, true⟩] ∧
      (registry.createRpc rpcName msgType onRequest).commandTable =
        registry.commandTable.set rpcName (msgType, registry.services.length) := by
  simp [Registry.createRpc, Registry.startRpc]

theorem Covered.create_rpc {held : List ServiceId} (covered : Covered registry held)
    (rpcName : String) (msgType : MsgType Obj) (onRequest : CallbackId) :
    Covered (registry.createRpc rpcName msgType onRequest)
      (held ++ [registry.services.length]) := by
  obtain ⟨services, table⟩ := create_rpc_table registry rpcName msgType onRequest
  intro name key
  rw [table, OrderedDict.mem_keys_set] at key
  by_cases new : name = rpcName
  · refine ⟨registry.services.length, List.mem_append_right _ (List.mem_singleton_self _), ?_⟩
    rw [serviceState, services, new]
    simp
  · have old : name ∈ registry.commandTable.keys := by
      rcases key with same | old
      · exact absurd same new
      · exact old
    obtain ⟨id, member, state⟩ := covered name old
    refine ⟨id, List.mem_append_left _ member, ?_⟩
    obtain ⟨service, stored, _⟩ := Option.map_eq_some_iff.mp state
    have inside := (List.getElem?_eq_some_iff.mp stored).1
    rw [serviceState, services, List.getElem?_append_left inside]
    exact state

theorem Covered.drop {id : ServiceId} {held : List ServiceId}
    (covered : Covered registry (id :: held))
    (idle : ∀ name, serviceState registry id ≠ some (name, true)) : Covered registry held := by
  intro name key
  obtain ⟨other, member, state⟩ := covered name key
  rcases List.mem_cons.mp member with same | later
  · rw [same] at state
    exact absurd state (idle name)
  · exact ⟨other, later, state⟩

theorem Covered.stop_rpc {id : ServiceId} {held : List ServiceId}
    (covered : Covered registry (id :: held)) : Covered (registry.stopRpc id) held := by
  cases stored : registry.services[id]? with
  | none =>
      rw [Registry.stop_rpc_missing stored]
      apply covered.drop
      simp [serviceState, stored]
  | some service =>
      cases running : service.started with
      | false =>
          rw [Registry.stop_rpc_stopped stored running]
          apply covered.drop
          simp [serviceState, stored, running]
      | true =>
          rw [Registry.stop_rpc_started stored running]
          intro name key
          rw [OrderedDict.mem_keys_pop] at key
          obtain ⟨other, member, state⟩ := covered name key.1
          have different : other ≠ id := by
            intro same
            rw [same, serviceState, stored, Option.map_some] at state
            have named := (Prod.mk.inj (Option.some.inj state)).1
            exact key.2 named.symm
          have later : other ∈ held := (List.mem_cons.mp member).resolve_left different
          refine ⟨other, later, ?_⟩
          simp only [serviceState]
          rw [List.getElem?_set_ne different.symm]
          exact state

theorem Covered.table_empty (covered : Covered registry []) : registry.commandTable = .empty := by
  have bare : registry.commandTable.keys = [] := by
    apply List.eq_nil_iff_forall_not_mem.mpr
    intro name key
    obtain ⟨id, member, _⟩ := covered name key
    cases member
  have no_entries : registry.commandTable.entries = [] := List.map_eq_nil_iff.mp bare
  cases table : registry.commandTable with
  | mk entries unique =>
      rw [table] at no_entries
      cases no_entries
      rfl

def NamesOwned (registry : Registry Obj) : Prop :=
  ∀ name ∈ registry.commandTable.keys, name ∈ registry.services.map RpcService.rpcName

namespace NamesOwned

theorem empty : NamesOwned (Registry.empty : Registry Obj) := by
  intro name key
  cases key

theorem congr {other : Registry Obj} (owned : NamesOwned registry)
    (names : other.services.map RpcService.rpcName =
      registry.services.map RpcService.rpcName)
    (table : other.commandTable = registry.commandTable) : NamesOwned other := by
  unfold NamesOwned
  rw [names, table]
  exact owned

end NamesOwned

def madeName : RegistryCall Obj → List String
  | .createRpc rpcName _ _ => [rpcName]
  | _ => []

theorem perform_names (registry : Registry Obj) (call : RegistryCall Obj) :
    (registry.perform call).services.map RpcService.rpcName =
      registry.services.map RpcService.rpcName ++ madeName call := by
  by_cases about : AboutServices call
  · cases call with
    | createRpc rpcName msgType onRequest =>
        rw [Registry.perform, (create_rpc_table registry rpcName msgType onRequest).1,
          List.map_append]
        rfl
    | startRpc id =>
        simp only [Registry.perform, madeName, List.append_nil]
        rcases Registry.start_rpc_cases registry id with same | ⟨service, stored, same⟩
        · rw [same]
        · rw [same]
          exact map_set_same RpcService.rpcName stored rfl
    | stopRpc id =>
        simp only [Registry.perform, madeName, List.append_nil]
        rcases Registry.stop_rpc_cases registry id with same | ⟨service, stored, same⟩
        · rw [same]
        · rw [same]
          exact map_set_same RpcService.rpcName stored rfl
    | _ => exact about.elim
  · have nothing : madeName call = [] := by
      cases call with
      | createRpc rpcName msgType onRequest => exact absurd trivial about
      | _ => rfl
    rw [(perform_services registry about).1, nothing, List.append_nil]

theorem NamesOwned.perform (owned : NamesOwned registry) (call : RegistryCall Obj) :
    NamesOwned (registry.perform call) := by
  by_cases about : AboutServices call
  · intro name key
    rw [perform_names]
    cases call with
    | createRpc rpcName msgType onRequest =>
        rw [Registry.perform, (create_rpc_table registry rpcName msgType onRequest).2,
          OrderedDict.mem_keys_set] at key
        rcases key with same | old
        · exact List.mem_append_right _ (List.mem_singleton.mpr same)
        · exact List.mem_append_left _ (owned name old)
    | startRpc id =>
        simp only [Registry.perform, Registry.startRpc] at key
        apply List.mem_append_left
        split at key
        · exact owned name key
        · rename_i service stored
          split at key
          · exact owned name key
          · rcases OrderedDict.mem_keys_set.mp key with same | old
            · rw [same]
              exact List.mem_map_of_mem (List.mem_of_getElem? stored)
            · exact owned name old
    | stopRpc id =>
        simp only [Registry.perform, Registry.stopRpc] at key
        apply List.mem_append_left
        split at key
        · exact owned name key
        · split at key
          · exact owned name (OrderedDict.mem_keys_pop.mp key).1
          · exact owned name key
    | _ => exact about.elim
  · obtain ⟨services, table⟩ := perform_services registry about
    exact owned.congr (congrArg _ services) table

end RemoteIface.Commlib.CommandTable
