import TunnelProvisioning.Adapter.Provisioner
import TunnelProvisioning.Adapter.RegistryTree
import TunnelProvisioning.Adapter.SimulatedDevices
import TunnelProvisioning.WireOutcome

/-! # Sessions

What a caller does to a registry tree and to simulated devices, one operation after the other. A
device belongs to the caller that opened it until the caller closes it, releases it, or hands it
over with an outcome. A device that does not belong to the caller is out of its reach: an operation
on such a device does nothing.
-/

namespace TunnelProvisioning

inductive AdapterOperation where
  /-- Searches for an adapter. -/
  | find (componentId : String)
  /-- Looks up the name of a connection. -/
  | lookUp (instanceId : String)
  /-- Searches for an adapter and looks up its connection. -/
  | resolve (config : TunnelConfig)
  /-- Brings up an adapter that is known. -/
  | configure (instanceId : String) (addressing : Addressing) (strict : Bool)
  /-- Searches for an adapter and brings it up. -/
  | provision (config : TunnelConfig) (descriptor? : Option Int32)
  /-- Opens a device even if devices are to be refused. -/
  | openDevice (path : String)
  /-- Closes a device. -/
  | close (handle : Int)
  /-- Releases a device. -/
  | release (handle : Int)
  /-- Hands over an outcome, with the device in it. -/
  | handOver (outcome : Except ProvisionError Provisioned)

/-- A registry tree and simulated devices in the hands of a caller. -/
structure AdapterSession where
  tree : RegistryTree
  ledger : KeyLedger := {}
  devices : SimulatedDevices := {}
  /-- The handles of the devices that belong to the caller. -/
  owned : List Int := []

namespace AdapterSession

open SimulatedDevices (bus)

def handle? : Except ProvisionError Provisioned → Option Int
  | .ok (.opened _ handle) => some handle
  | _ => none

/-- The adapters of a session, with the settings for one of them. -/
def adapters (session : AdapterSession) (config : TunnelConfig) :
    AdapterProvisioner SimulatedDevices :=
  ⟨session.tree.registry, bus, config⟩

/-- Lets an operation take a device away from the caller, if it belongs to it. -/
def give (session : AdapterSession) (handle : Int)
    (operation : SimulatedDevices → SimulatedDevices) : AdapterSession :=
  if handle ∈ session.owned then
    { session with devices := operation session.devices, owned := session.owned.erase handle }
  else session

def perform (session : AdapterSession) : AdapterOperation → AdapterSession
  | .find componentId =>
    let report := (session.tree.registry.findAdapter componentId).run session.ledger
    { session with ledger := report.state }
  | .lookUp instanceId =>
    let report := (session.tree.registry.connectionName instanceId).run session.ledger
    { session with ledger := report.state }
  | .resolve config =>
    let report := (session.adapters config).resolve.run (session.ledger, session.devices)
    { session with ledger := report.state.1, devices := report.state.2 }
  | .configure instanceId addressing strict =>
    let report := (Device.configure bus instanceId addressing strict).run session.devices
    { session with
      devices := report.state
      owned := session.owned ++ report.outcome.toOption.toList }
  | .provision config descriptor? =>
    let report := ((session.adapters config).provisioner.provision descriptor?).run
      (session.ledger, session.devices)
    { session with
      ledger := report.state.1
      devices := report.state.2
      owned := session.owned ++ (handle? report.outcome).toList }
  | .openDevice path =>
    let (handle, devices) := session.devices.register path .adapter
    { session with devices, owned := session.owned ++ [handle] }
  | .close handle => session.give handle (bus.close handle)
  | .release handle => session.give handle (bus.release handle)
  | .handOver outcome =>
    let operation devices := (WireOutcome.handOver bus outcome devices).2
    match handle? outcome with
    | some handle => session.give handle operation
    | none => { session with devices := operation session.devices }

def run (session : AdapterSession) (operations : List AdapterOperation) : AdapterSession :=
  operations.foldl perform session

end AdapterSession

end TunnelProvisioning
