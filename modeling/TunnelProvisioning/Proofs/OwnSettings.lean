import Mathlib.Data.List.Basic
import TunnelProvisioning.Adapter.Provisioner
import TunnelProvisioning.Adapter.RegistryTree
import TunnelProvisioning.Adapter.SimulatedDevices
import TunnelProvisioning.Interface.Journal
import TunnelProvisioning.Interface.Simulated
import TunnelProvisioning.Proofs.Provisioner

/-! # Settings of other platforms

A configuration holds settings for every platform, and each platform reads only its own. So two
configurations that agree on the settings of a platform cannot be told apart there, by nothing that
can be observed, even if one of them would be refused for its other settings. Each function is
looked at once: it reads the configuration through certain settings, and where these agree it is the
same action.
-/

namespace TunnelProvisioning

/-- Configurations with the same settings for virtual adapters. -/
structure TunnelConfig.SameAdapter (first second : TunnelConfig) : Prop where
  componentId : first.componentId = second.componentId
  strictControl : first.strictControl = second.strictControl
  addressing : first.addressing = second.addressing

/-- Configurations with the same settings for interfaces that are attached to a descriptor. -/
structure TunnelConfig.SameInterface (first second : TunnelConfig) : Prop where
  interfaceName : first.interfaceName = second.interfaceName
  persist : first.persist = second.persist

variable {δ κ : Type} {first second : TunnelConfig}

/-! ## What a virtual adapter depends on -/

namespace AdapterProvisioner

variable (registry : Registry) (bus : DeviceBus δ)

theorem resolve_congr (same : first.SameAdapter second) :
    resolve ⟨registry, bus, first⟩ = resolve ⟨registry, bus, second⟩ := by
  simp only [resolve, same.componentId]

theorem provision_congr (same : first.SameAdapter second) :
    provision ⟨registry, bus, first⟩ = provision ⟨registry, bus, second⟩ := by
  simp only [provision, resolve_congr registry bus same, same.addressing, same.strictControl]

end AdapterProvisioner

/-! ## What a bound interface depends on -/

namespace Binder

variable (control : InterfaceControl κ)

theorem validateInterfaceName_congr (same : first.SameInterface second) :
    first.validateInterfaceName = second.validateInterfaceName := by
  simp only [TunnelConfig.validateInterfaceName, same.interfaceName]

theorem request_congr (same : first.SameInterface second) : request first = request second := by
  simp only [request, same.interfaceName]

theorem keepAlive_congr (same : first.SameInterface second) :
    keepAlive ⟨control, first⟩ = keepAlive ⟨control, second⟩ := by
  funext descriptor name
  simp only [keepAlive, same.persist]

theorem bind_congr (same : first.SameInterface second) :
    Binder.bind ⟨control, first⟩ = Binder.bind ⟨control, second⟩ := by
  funext descriptor
  simp only [Binder.bind, validateInterfaceName_congr same, request_congr same,
    keepAlive_congr control same]

theorem provision_congr (same : first.SameInterface second) :
    provision ⟨control, first⟩ = provision ⟨control, second⟩ := by
  funext descriptor?
  cases descriptor? with
  | none => rfl
  | some descriptor => simp only [provision, bind_congr control same]

theorem provisioner_congr (same : first.SameInterface second) :
    provisioner ⟨control, first⟩ = provisioner ⟨control, second⟩ := by
  simp only [provisioner, provision_congr control same]

theorem openAndBind_congr (same : first.SameInterface second) :
    openAndBind ⟨control, first⟩ = openAndBind ⟨control, second⟩ := by
  funext files path
  simp only [openAndBind, openOwned, bind_congr control same]

end Binder

/-- Each platform reads only its own settings. On a machine with virtual adapters, configurations
that agree on these lead to the same outcome, state and log whatever the descriptors are, but for
the opening event, which shows the descriptor. On a kernel that attaches interfaces to descriptors,
configurations that agree on the interface lead to the same outcome, state and log and to the same
calls, whether a descriptor is passed in or opened. -/
theorem observations_of_sameSettings (first second : TunnelConfig) :
    (first.SameAdapter second →
      ∀ (registry : Registry) (bus : DeviceBus δ) (descriptor? descriptor'? : Option Int32)
        (state : KeyLedger × δ),
        let one := AdapterProvisioner.provisioner ⟨registry, bus, first⟩
        let other := AdapterProvisioner.provisioner ⟨registry, bus, second⟩
        let logged := (provisionWith one descriptor?).run state
        let logged' := (provisionWith other descriptor'?).run state
        (one.provision descriptor?).run state = (other.provision descriptor'?).run state ∧
        logged.outcome = logged'.outcome ∧ logged.state = logged'.state ∧
        ∃ rest, logged.events = provisioningOpening .windows descriptor? :: rest ∧
          logged'.events = provisioningOpening .windows descriptor'? :: rest) ∧
    (first.SameInterface second →
      ∀ (control : InterfaceControl κ) (files : FileSystem) (path : Path)
        (descriptor? : Option Int32) (host : Host κ),
        (Binder.provision ⟨control, first⟩ descriptor?).run host =
          (Binder.provision ⟨control, second⟩ descriptor?).run host ∧
        control.callsOf (Binder.provision ⟨·, first⟩ descriptor?) host =
          control.callsOf (Binder.provision ⟨·, second⟩ descriptor?) host ∧
        (provisionWith (Binder.provisioner ⟨control, first⟩) descriptor?).run host =
          (provisionWith (Binder.provisioner ⟨control, second⟩) descriptor?).run host ∧
        (Binder.openAndBind ⟨control, first⟩ files path).run host =
          (Binder.openAndBind ⟨control, second⟩ files path).run host ∧
        control.callsOf (Binder.openAndBind ⟨·, first⟩ files path) host =
          control.callsOf (Binder.openAndBind ⟨·, second⟩ files path) host) := by
  constructor
  · intro same registry bus descriptor? descriptor'? state one other logged logged'
    have provisioned : (one.provision descriptor?).run state =
        (other.provision descriptor'?).run state :=
      congrArg (Action.run · state) (AdapterProvisioner.provision_congr registry bus same)
    simp only [logged, logged', run_provisionWith, provisioned, true_and]
    exact ⟨_, rfl, rfl⟩
  · intro same control files path descriptor? host
    simp only [InterfaceControl.callsOf, Binder.provision_congr _ same,
      Binder.provisioner_congr _ same, Binder.openAndBind_congr _ same, and_self]

/-- Settings of the other platform do not matter even where they would be refused. -/
theorem observations_of_sameSettings_refused :
    let config : TunnelConfig := {}
    let unnamed : TunnelConfig := { interfaceName := "", persist := true }
    let unaddressed : TunnelConfig :=
      { componentId := "", strictControl := true, addressing := { netmask := ⟨255, 0, 255, 0⟩ } }
    let tree := (RegistryTree.standard.addAdapter "0000" (some "tap0901") (some "ID")).addConnection
      "ID" "Ethernet 5"
    let adapters (config : TunnelConfig) : AdapterProvisioner SimulatedDevices :=
      ⟨tree.registry, SimulatedDevices.bus, config⟩
    let devices := SimulatedDevices.refusingControl 31
    let host : Host SimulatedKernel := ⟨.standard, {}⟩
    unnamed.validate = .error (.invalidSetting "interface_name" "interface name cannot be empty") ∧
      unaddressed.validate =
        .error (.invalidSetting "component_id" "component id cannot be empty") ∧
      config.SameAdapter unnamed ∧ config.SameInterface unaddressed ∧
      ((adapters config).provisioner.provision none).run ({}, devices) =
        ((adapters unnamed).provisioner.provision (some 3)).run ({}, devices) ∧
      (Binder.provision ⟨SimulatedKernel.control, config⟩ (some 7)).run host =
        (Binder.provision ⟨SimulatedKernel.control, unaddressed⟩ (some 7)).run host := by
  intro config unnamed unaddressed tree adapters devices host
  have sameAdapter : config.SameAdapter unnamed := ⟨rfl, rfl, rfl⟩
  have sameInterface : config.SameInterface unaddressed := ⟨rfl, rfl⟩
  have adapter := (observations_of_sameSettings (κ := Unit) config unnamed).1 sameAdapter
    tree.registry SimulatedDevices.bus none (some 3) ({}, devices)
  have interface := (observations_of_sameSettings (δ := Unit) config unaddressed).2 sameInterface
    SimulatedKernel.control ⟨fun _ => false, fun _ => .error .missing, fun _ => .error .missing⟩
    (.ofText "/dev/net/tun") (some 7) host
  exact ⟨by decide, by decide, sameAdapter, sameInterface, adapter.1, interface.1⟩

end TunnelProvisioning
