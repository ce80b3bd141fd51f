import TunnelProvisioning.Adapter.Provisioner
import TunnelProvisioning.Proofs.Adapter.RegistryTree

/-! # Rearranged descriptions

The order in which adapters are described matters, and so does the order in which names are given to
one connection. How adapters and the connections of different instance ids are interleaved does not:
each kind of description is kept under paths of its own, so the tree holds the same key at every
path, and whoever looks at it finds the same.
-/

namespace TunnelProvisioning

namespace RegistryEntry

/-- Whether an entry describes an adapter, locked or not. -/
def isAdapter (entry : RegistryEntry) : Bool :=
  entry.adapterName?.isSome

def connectionName? (instanceId : String) : RegistryEntry → Option String
  | connection other name => if other = instanceId then some name else none
  | _ => none

/-- Whether two lists of entries differ at most in how they interleave adapters and the connections
of different instance ids. An entry is an adapter or has one instance id, so the lists hold the same
entries. -/
structure Rearranged (first second : List RegistryEntry) : Prop where
  adapters : first.filter isAdapter = second.filter isAdapter
  connections : ∀ instanceId, first.filterMap (connectionName? instanceId) =
    second.filterMap (connectionName? instanceId)

/-- What is listed depends on the adapters alone. -/
theorem names_filter_isAdapter (entries : List RegistryEntry) :
    names (entries.filter isAdapter) = names entries := by
  rw [names, names, List.filterMap_filter]
  refine List.filterMap_congr fun entry _ => ?_
  rw [isAdapter]
  cases entry.adapterName? <;> rfl

/-- The latest description of an adapter depends on the adapters alone. -/
theorem latest?_filter_isAdapter (entries : List RegistryEntry) (name : String) :
    latest? (entries.filter isAdapter) name = latest? entries name := by
  rw [latest?, latest?, ← List.filter_reverse, List.find?_filter]
  refine List.find?_congr fun entry _ => ?_
  rw [isAdapter]
  cases entry.adapterName? <;> simp

end RegistryEntry

namespace Registry

/-- Different instance ids have different connection keys. -/
theorem connectionKey_inj {instanceId other : String} :
    connectionKey instanceId = connectionKey other ↔ instanceId = other := by
  constructor
  · intro same
    have nested : subkey networkConnections instanceId = subkey networkConnections other := by
      rw [connectionKey, connectionKey] at same
      exact (String.append_left_inj _).mp ((String.append_left_inj _).mp same)
    exact subkey_inj.mp nested
  · intro same
    rw [same]

end Registry

namespace RegistryTree

open Registry RegistryEntry

variable {bare : Bool} {first second : List RegistryEntry}

/-- What a tree holds for a connection with a name. -/
def namedKey (name : String) : RegistryKey :=
  { values := [(connectionNameValue, name)] }

/-- The key of a connection holds the name that was last given to it. -/
theorem get?_connection_build (bare : Bool) (entries : List RegistryEntry) (instanceId : String) :
    (build bare entries).get? (connectionKey instanceId) =
      (entries.filterMap (connectionName? instanceId)).getLast?.map namedKey := by
  induction entries using List.reverseRecOn with
  | nil =>
    cases bare
    · exact get?_insert_of_ne (connectionKey_ne_adapterClass instanceId)
    · rfl
  | append_singleton entries entry ih =>
    have unlisted (name : String) (key : RegistryKey) :
        ((build bare entries).addAdapterKey name key).get? (connectionKey instanceId) =
          (build bare entries).get? (connectionKey instanceId) := by
      rw [addAdapterKey, get?_insert_of_ne (connectionKey_ne_adapter instanceId name),
        get?_insert_of_ne (connectionKey_ne_adapterClass instanceId)]
    rw [build_append, List.filterMap_append]
    cases entry with
    | adapter name componentId? instanceId? =>
      rw [add, addAdapter, unlisted, ih]
      simp only [List.filterMap_cons, List.filterMap_nil, connectionName?, List.append_nil]
    | locked name =>
      rw [add, addLockedAdapter, unlisted, ih]
      simp only [List.filterMap_cons, List.filterMap_nil, connectionName?, List.append_nil]
    | connection other name =>
      rw [add, addConnection]
      by_cases same : other = instanceId
      · rw [same, get?_insert_self]
        simp only [List.filterMap_cons, List.filterMap_nil, connectionName?, if_true,
          List.getLast?_concat, Option.map_some, namedKey]
      · have apart : connectionKey instanceId ≠ connectionKey other := fun equal =>
          same (connectionKey_inj.mp equal).symm
        rw [get?_insert_of_ne apart, ih]
        simp only [List.filterMap_cons, List.filterMap_nil, connectionName?, if_neg same,
          List.append_nil]

/-- A tree holds nothing but the class key, adapters and connections. -/
theorem get?_build_of_other {path : String} (noClass : path ≠ adapterClass)
    (noAdapter : ∀ name, path ≠ subkey adapterClass name)
    (noConnection : ∀ instanceId, path ≠ connectionKey instanceId)
    (bare : Bool) (entries : List RegistryEntry) : (build bare entries).get? path = none := by
  induction entries using List.reverseRecOn with
  | nil =>
    cases bare
    · exact get?_insert_of_ne noClass
    · rfl
  | append_singleton entries entry ih =>
    rw [build_append]
    obtain ⟨name, _, added⟩ | ⟨_, instanceId, key, added⟩ := add_cases (build bare entries) entry
    · rw [added, addAdapterKey, get?_insert_of_ne (noAdapter name), get?_insert_of_ne noClass, ih]
    · rw [added, get?_insert_of_ne (noConnection instanceId), ih]

/-- Rearranged entries build trees with the same keys. -/
theorem get?_of_rearranged (rearranged : Rearranged first second) (bare : Bool) (path : String) :
    (build bare first).get? path = (build bare second).get? path := by
  by_cases isClass : path = adapterClass
  · have listed : names first = names second := by
      rw [← names_filter_isAdapter, rearranged.adapters, names_filter_isAdapter]
    rw [isClass, get?_class_build, get?_class_build, listed]
  · by_cases isAdapter : ∃ name, path = subkey adapterClass name
    · obtain ⟨name, rfl⟩ := isAdapter
      rw [get?_adapter_build, get?_adapter_build, ← latest?_filter_isAdapter,
        rearranged.adapters, latest?_filter_isAdapter]
    · by_cases isConnection : ∃ instanceId, path = connectionKey instanceId
      · obtain ⟨instanceId, rfl⟩ := isConnection
        rw [get?_connection_build, get?_connection_build, rearranged.connections]
      · have nothing := get?_build_of_other isClass (not_exists.mp isAdapter)
          (not_exists.mp isConnection) bare
        rw [nothing, nothing]

/-- Trees with the same keys answer alike. -/
theorem registry_of_rearranged (rearranged : Rearranged first second) (bare : Bool) :
    (build bare first).registry = (build bare second).registry := by
  have same : (build bare first).get? = (build bare second).get? :=
    funext (get?_of_rearranged rearranged bare)
  simp only [registry, same]

/-- Entries that are only interleaved in another way build trees that hold the same keys, so a
search, a look-up of a connection's name and a provisioning run each end alike in both: with the
same outcome, the same keys opened in the same order and the same log, whatever is searched for and
whatever devices there are. The reason is that no key of a connection is the key of an adapter, and
different instance ids have different connection keys, whatever characters they are made of. -/
theorem runs_of_rearranged (rearranged : Rearranged first second) (bare : Bool) :
    let registry := (build bare first).registry
    let other := (build bare second).registry
    (∀ path, (build bare first).get? path = (build bare second).get? path) ∧
    (∀ componentId ledger,
      (registry.findAdapter componentId).run ledger =
        (other.findAdapter componentId).run ledger) ∧
    (∀ instanceId ledger,
      (registry.connectionName instanceId).run ledger =
        (other.connectionName instanceId).run ledger) ∧
    (∀ (δ : Type) (bus : DeviceBus δ) (config : TunnelConfig) (descriptor? : Option Int32)
        (state : KeyLedger × δ),
      ((AdapterProvisioner.mk registry bus config).provisioner.provision descriptor?).run state =
        ((AdapterProvisioner.mk other bus config).provisioner.provision descriptor?).run state) ∧
    (∀ instanceId name, connectionKey instanceId ≠ subkey adapterClass name) ∧
    (∀ instanceId otherId,
      connectionKey instanceId = connectionKey otherId ↔ instanceId = otherId) := by
  intro registry other
  have same : registry = other := registry_of_rearranged rearranged bare
  refine ⟨get?_of_rearranged rearranged bare, ?_, ?_, ?_, connectionKey_ne_adapter,
    fun _ _ => connectionKey_inj⟩
  · intro componentId ledger
    rw [same]
  · intro instanceId ledger
    rw [same]
  · intro δ bus config descriptor? state
    rw [same]

/-- An adapter that is described twice and a connection that is named twice, with a backslash in the
name of an adapter and in an instance id. -/
theorem runs_of_rearranged_twice :
    let first : List RegistryEntry :=
      [.adapter "a\\b" (some "tap0901") none, .connection "x\\y" "old", .locked "c",
        .connection "z" "other", .adapter "a\\b" (some "tap0901") (some "x\\y"),
        .connection "x\\y" "new"]
    let second : List RegistryEntry :=
      [.connection "z" "other", .connection "x\\y" "old", .connection "x\\y" "new",
        .adapter "a\\b" (some "tap0901") none, .locked "c",
        .adapter "a\\b" (some "tap0901") (some "x\\y")]
    Rearranged first second ∧
      ∀ (config : TunnelConfig) (state : KeyLedger × SimulatedDevices),
        ((AdapterProvisioner.mk (build false first).registry SimulatedDevices.bus
            config).provisioner.provision none).run state =
          ((AdapterProvisioner.mk (build false second).registry SimulatedDevices.bus
            config).provisioner.provision none).run state := by
  intro first second
  have rearranged : Rearranged first second := by
    refine ⟨by decide, fun instanceId => ?_⟩
    by_cases own : "x\\y" = instanceId
    · have other : "z" ≠ instanceId := own ▸ by decide
      simp [first, second, List.filterMap_cons, connectionName?, own, other]
    · by_cases other : "z" = instanceId
      · simp [first, second, List.filterMap_cons, connectionName?, own, other]
      · simp [first, second, List.filterMap_cons, connectionName?, own, other]
  have runs := (runs_of_rearranged rearranged false).2.2.2.1
  exact ⟨rearranged, fun config state => runs SimulatedDevices SimulatedDevices.bus config none state⟩

end RegistryTree

end TunnelProvisioning
