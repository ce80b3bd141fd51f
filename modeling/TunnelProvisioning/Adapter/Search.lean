import TunnelProvisioning.Adapter.Registry
import TunnelProvisioning.Provisioner

/-! # Finding an adapter

The adapter to use is the first one in the registry whose driver has the component id that is looked
for. Adapters whose key cannot be opened, or which do not tell their component id, are passed over.
The adapter that is found must tell its instance id, under which its connection is named.
-/

namespace TunnelProvisioning.Registry

/-- What the key of one adapter says to a search. -/
inductive Inspection where
  | unnamed
  | other
  | incomplete (fault : IoError)
  | found (instanceId : String)
  deriving DecidableEq, Repr

/-- Compares the adapter at a path with the component id that is looked for. -/
def inspect (registry : Registry) (componentId path : String) : Inspection :=
  match registry.readText path componentIdValue with
  | .error _ => .unnamed
  | .ok text =>
    if text ≠ componentId then .other
    else
      match registry.readText path instanceIdValue with
      | .ok instanceId => .found instanceId
      | .error fault => .incomplete fault

/-- Looks at one adapter, given by its name: the instance id of the adapter that was looked for, or
nothing if the search goes on. -/
def examine (registry : Registry) (componentId name : String) :
    Action KeyLedger ProvisionError (Option String) := do
  let path := subkey adapterClass name
  match ← registry.withKey path (pure (registry.inspect componentId path)) with
  | .error fault =>
    Action.log .debug .registry s!"Skipping adapter {name}: {fault.message}"
    return none
  | .ok .unnamed =>
    Action.log .debug .registry s!"Skipping adapter {name}: no {componentIdValue}"
    return none
  | .ok .other => return none
  | .ok (.incomplete fault) =>
    Action.log .warn .registry
      s!"Adapter {name} matched but has no {instanceIdValue}: {fault.message}"
    Action.fail (.adapterNotFound componentId)
  | .ok (.found instanceId) =>
    Action.log .info .registry s!"Found {componentId} adapter {instanceId} at {name}"
    return some instanceId

/-- Gives up a search after so many adapters. -/
def giveUp (componentId : String) (count : Nat) : Action KeyLedger ProvisionError String := do
  Action.log .debug .registry s!"Scanned {count} adapters, none with component id {componentId}"
  Action.fail (.adapterNotFound componentId)

/-- Looks through adapters, given by their names, for the first one with a component id. The count
is that of all adapters and is told if there is none. -/
def scan (registry : Registry) (componentId : String) (count : Nat) :
    List String → Action KeyLedger ProvisionError String
  | [] => giveUp componentId count
  | name :: rest => do
    let found? ← registry.examine componentId name
    found?.elim (registry.scan componentId count rest) pure

/-- Searches while the key of the adapter class is open. -/
def withAdapterClass (registry : Registry) (componentId : String)
    (search : Action KeyLedger ProvisionError String) : Action KeyLedger ProvisionError String := do
  match ← registry.withKey adapterClass search with
  | .ok instanceId => return instanceId
  | .error fault =>
    Action.log .warn .registry s!"Failed to open adapter class key: {fault.message}"
    Action.fail (.adapterNotFound componentId)

/-- The instance id of the first adapter with a component id. -/
def findAdapter (registry : Registry) (componentId : String) :
    Action KeyLedger ProvisionError String :=
  let names := registry.subkeys adapterClass
  registry.withAdapterClass componentId (registry.scan componentId names.length names)

def connectionName (registry : Registry) (instanceId : String) :
    Action KeyLedger ProvisionError String := do
  let path := connectionKey instanceId
  let found ← registry.withKey path (pure (registry.readText path connectionNameValue))
  match found.bind id with
  | .ok name =>
    Action.log .debug .registry s!"Adapter {instanceId} is connection '{name}'"
    return name
  | .error fault =>
    Action.log .warn .registry s!"Failed to read connection name at {path}: {fault.message}"
    Action.fail (.nameLookupFailed instanceId)

/-- The first adapter with a component id, with the name of its connection. -/
def resolveAdapter (registry : Registry) (componentId : String) :
    Action KeyLedger ProvisionError AdapterDescriptor := do
  let instanceId ← registry.findAdapter componentId
  let connectionName ← registry.connectionName instanceId
  return ⟨instanceId, connectionName⟩

end TunnelProvisioning.Registry
