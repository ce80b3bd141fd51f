import TunnelProvisioning.Adapter.Provisioner
import TunnelProvisioning.Proofs.Adapter.Device
import TunnelProvisioning.Proofs.Adapter.Search

/-! # Provisioning an adapter, step by step

Provisioning searches the registry, looks up a name and brings up a device, and the first step that
fails ends it. The instance id that the search found goes unchanged into the look-up, the path of
the device, the errors and the result. Until the device is opened nothing happens to the devices.
-/

namespace TunnelProvisioning.AdapterProvisioner

open Registry

variable (registry : Registry) (config : TunnelConfig) (descriptor? : Option Int32)
  (ledger : KeyLedger) (devices : SimulatedDevices)

/-- An adapter that cannot be resolved ends the run; one that can is brought up. -/
theorem run_provision :
    let adapters : AdapterProvisioner SimulatedDevices := ⟨registry, SimulatedDevices.bus, config⟩
    let report := (adapters.provisioner.provision descriptor?).run (ledger, devices)
    (report.outcome, report.state.2) =
        (match registry.adapterAnswer config.componentId with
        | .error fault => (.error fault, devices)
        | .ok adapter =>
          let up := devices.broughtUp adapter.instanceId config.addressing config.strictControl
          (up.1.map (.opened adapter), up.2)) ∧
      report.state.1 = ledger.visit (registry.adapterPaths config.componentId) := by
  intro adapters report
  obtain ⟨resolved, visited⟩ := registry.run_resolveAdapter config.componentId ledger
  simp only [report, adapters, provisioner, provision, resolve, Action.outcome_bind,
    Action.state_bind, Action.run_onFirst, Action.run_onSecond, Action.run_log, resolved, visited]
  cases registry.adapterAnswer config.componentId with
  | error fault => exact ⟨rfl, rfl⟩
  | ok adapter =>
    have brought := Device.run_configure config.strictControl devices adapter.instanceId
      config.addressing
    simp only [← brought, Except.bind, Action.run_pure]
    rcases (Device.configure _ _ _ _).run devices with ⟨fault | handle, after, events⟩
    · exact ⟨rfl, rfl⟩
    · exact ⟨rfl, rfl⟩

/-- Provisioning is a search, a look-up and a bring-up, and each of them either goes on with what it
found or decides the whole outcome. -/
theorem provision_eq :
    let adapters : AdapterProvisioner SimulatedDevices := ⟨registry, SimulatedDevices.bus, config⟩
    let report := (adapters.provisioner.provision descriptor?).run (ledger, devices)
    (report.outcome, report.state.2) =
      match ((registry.findAdapter config.componentId).run ledger).outcome with
      | .error _ => (.error (.adapterNotFound config.componentId), devices)
      | .ok instanceId =>
        match registry.openKey (connectionKey instanceId),
          registry.readText (connectionKey instanceId) "Name" with
        | .ok (), .ok connectionName =>
          let up := devices.broughtUp instanceId config.addressing config.strictControl
          (up.1.map (.opened ⟨instanceId, connectionName⟩), up.2)
        | _, _ => (.error (.nameLookupFailed instanceId), devices) := by
  intro adapters report
  obtain ⟨ran, _⟩ := run_provision registry config descriptor? ledger devices
  rw [(registry.run_findAdapter config.componentId ledger).1]
  refine Eq.trans ran ?_
  simp only [adapterAnswer]
  cases searched : registry.searchAnswer config.componentId with
  | error fault =>
    rw [registry.searchAnswer_error config.componentId searched]
    rfl
  | ok instanceId =>
    simp only [Except.bind, nameAnswer, connectionNameValue]
    cases registry.openKey (connectionKey instanceId) with
    | error fault => rfl
    | ok => cases registry.readText (connectionKey instanceId) "Name" <;> rfl

end TunnelProvisioning.AdapterProvisioner
