import TunnelProvisioning.Action
import TunnelProvisioning.ProvisionError

/-! # Provisioners

The one capability that every platform offers in its own way: to provision a tunnel, given a
descriptor or none. Provisioning through `provisionWith` logs what was asked for and how it ended.
-/

namespace TunnelProvisioning

inductive Platform where
  | linux
  | windows
  | unsupported (name : String)
  deriving DecidableEq, Repr

namespace Platform

def text : Platform → String
  | linux => "linux"
  | windows => "windows"
  | unsupported name => s!"{name} (unsupported)"

instance : ToString Platform := ⟨text⟩

end Platform

/-- An interface and the descriptor it is attached to. -/
structure BoundInterface where
  descriptor : Int32
  name : String
  deriving DecidableEq, Repr

structure AdapterDescriptor where
  instanceId : String
  connectionName : String
  deriving DecidableEq, Repr

/-- A tunnel that is up. -/
inductive Provisioned where
  | bound (interface : BoundInterface)
  | opened (adapter : AdapterDescriptor) (handle : Int)
  deriving DecidableEq, Repr

/-- The message that tells that a tunnel is up. -/
def Provisioned.announcement : Provisioned → String
  | bound interface => s!"Tunnel ready: interface {interface.name} on fd {interface.descriptor}"
  | opened adapter handle =>
    s!"Tunnel ready: adapter '{adapter.connectionName}' handle {handle}"

/-- A platform's way to provision a tunnel, over the state of that platform. -/
structure Provisioner (σ : Type) where
  platform : Platform
  provision : Option Int32 → Action σ ProvisionError Provisioned

/-- How a log message shows a descriptor that may be missing. -/
def descriptorText : Option Int32 → String
  | some descriptor => s!"Some({descriptor})"
  | none => "None"

/-- Provisions a tunnel and logs how that ended. -/
def provisionWith {σ : Type} (provisioner : Provisioner σ) (descriptor? : Option Int32) :
    Action σ ProvisionError Provisioned := do
  Action.log .debug .provisioning
    s!"Provisioning tunnel via {provisioner.platform} (fd: {descriptorText descriptor?})"
  match ← (provisioner.provision descriptor?).attempt with
  | .ok provisioned =>
    Action.log .info .provisioning provisioned.announcement
    return provisioned
  | .error fault =>
    Action.log .warn .provisioning s!"Tunnel provisioning failed: {fault.message}"
    Action.fail fault

/-- Refuses to provision anything on a platform without tunnels. -/
def Provisioner.unsupported {σ : Type} (name : String) : Provisioner σ where
  platform := .unsupported name
  provision _ := do
    Action.log .warn .unsupported s!"Tunnel provisioning requested on unsupported platform {name}"
    Action.fail (.unsupported name)

end TunnelProvisioning
