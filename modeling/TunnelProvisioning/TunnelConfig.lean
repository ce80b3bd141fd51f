import TunnelProvisioning.Addressing.Basic
import TunnelProvisioning.ProvisionError
import TunnelProvisioning.Text.Utf8

/-! # Tunnel configuration

What a tunnel is provisioned from. The interface name and its persistence concern kernels that
attach an interface to a descriptor; the component id, the control mode and the addressing concern
virtual adapters with a driver of their own.
-/

namespace TunnelProvisioning

structure TunnelConfig where
  /-- The name that is asked for; the kernel may extend it. -/
  interfaceName : String := "tun"
  /-- Whether the interface outlives its last descriptor. -/
  persist : Bool := false
  /-- The component id of the adapter's driver. -/
  componentId : String := "tap0901"
  /-- Whether a refused driver request is fatal. -/
  strictControl : Bool := false
  addressing : Addressing := .standard
  deriving DecidableEq, Repr

namespace TunnelConfig

/-- The configuration used where nothing is set. -/
def standard : TunnelConfig := {}

/-- The most octets an interface name may have. -/
def nameLimit : Nat := 15

/-- Accepts an interface name that is not empty and fits into a request. -/
def validateInterfaceName (config : TunnelConfig) : Except ProvisionError Unit :=
  if config.interfaceName = "" then
    .error (.invalidSetting "interface_name" "interface name cannot be empty")
  else if nameLimit < Utf8.size config.interfaceName then
    .error (.invalidSetting "interface_name" "interface name cannot exceed 15 characters")
  else .ok ()

theorem validateInterfaceName_of_empty {config : TunnelConfig} (empty : config.interfaceName = "") :
    config.validateInterfaceName =
      .error (.invalidSetting "interface_name" "interface name cannot be empty") := by
  rw [validateInterfaceName, if_pos empty]

theorem validateInterfaceName_of_long {config : TunnelConfig} (nonempty : config.interfaceName ≠ "")
    (long : 15 < Utf8.size config.interfaceName) :
    config.validateInterfaceName =
      .error (.invalidSetting "interface_name" "interface name cannot exceed 15 characters") := by
  rw [validateInterfaceName, if_neg nonempty, nameLimit, if_pos long]

theorem validateInterfaceName_eq_ok_iff {config : TunnelConfig} :
    config.validateInterfaceName = .ok () ↔
      config.interfaceName ≠ "" ∧ Utf8.size config.interfaceName ≤ 15 := by
  by_cases empty : config.interfaceName = ""
  · simp [validateInterfaceName_of_empty empty, empty]
  by_cases long : 15 < Utf8.size config.interfaceName
  · simp [validateInterfaceName_of_long empty long, long]
  · rw [validateInterfaceName, if_neg empty, nameLimit, if_neg long]
    exact iff_of_true rfl ⟨empty, Nat.not_lt.mp long⟩

/-- Accepts a configuration that can be used on every platform. -/
def validate (config : TunnelConfig) : Except ProvisionError Unit := do
  config.validateInterfaceName
  if config.componentId = "" then
    throw (.invalidSetting "component_id" "component id cannot be empty")
  config.addressing.validate.mapError .invalidInput

end TunnelConfig

end TunnelProvisioning
