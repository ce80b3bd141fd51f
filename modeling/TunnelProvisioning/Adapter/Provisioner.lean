import TunnelProvisioning.Adapter.Device
import TunnelProvisioning.Adapter.Search
import TunnelProvisioning.TunnelConfig

/-! # Provisioning an adapter

On a machine with virtual adapters a tunnel is provisioned by finding the adapter with the
configured component id and bringing it up. No descriptor is needed for that.
-/

namespace TunnelProvisioning

/-- Brings up adapters that a registry lists, through the devices of a machine. -/
structure AdapterProvisioner (δ : Type) where
  registry : Registry
  bus : DeviceBus δ
  config : TunnelConfig

namespace AdapterProvisioner

variable {δ : Type}

/-- Finds the adapter with the configured component id. -/
def resolve (adapters : AdapterProvisioner δ) :
    Action (KeyLedger × δ) ProvisionError AdapterDescriptor :=
  (adapters.registry.resolveAdapter adapters.config.componentId).onFirst

def provision (adapters : AdapterProvisioner δ) :
    Action (KeyLedger × δ) ProvisionError Provisioned := do
  let adapter ← adapters.resolve
  Action.log .info .adapter
    s!"Bringing up TAP adapter '{adapter.connectionName}' ({adapter.instanceId})"
  let handle ← (Device.configure adapters.bus adapter.instanceId adapters.config.addressing
    adapters.config.strictControl).onSecond
  return .opened adapter handle

/-- Bringing up an adapter as the way to provision a tunnel; a descriptor is ignored. -/
def provisioner (adapters : AdapterProvisioner δ) : Provisioner (KeyLedger × δ) where
  platform := .windows
  provision _ := adapters.provision

end AdapterProvisioner

end TunnelProvisioning
