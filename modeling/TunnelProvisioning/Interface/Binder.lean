import TunnelProvisioning.FileSystem.Basic
import TunnelProvisioning.Interface.Control
import TunnelProvisioning.Provisioner
import TunnelProvisioning.TunnelConfig

/-! # Binding interfaces

On a kernel with tunnel devices a tunnel is provisioned by attaching an interface to the descriptor
of such a device. The descriptor is either passed in, and stays the caller's, or opened here, and
then it is closed again if no interface could be attached to it.
-/

namespace TunnelProvisioning

/-- Attaches interfaces as a configuration says, through the control of a kernel. -/
structure Binder (κ : Type) where
  control : InterfaceControl κ
  config : TunnelConfig

variable {κ : Type}

namespace Binder

def requestFlags : Int16 :=
  InterfaceRequest.tunFlag ||| InterfaceRequest.noPacketInfoFlag

def request (config : TunnelConfig) : InterfaceRequest :=
  (InterfaceRequest.ofName config.interfaceName).withFlags requestFlags

/-- Asks for persistence if it is configured; a refusal is only logged. -/
def keepAlive (binder : Binder κ) (descriptor : Int32) (name : String) :
    Action (Host κ) ProvisionError Unit := do
  if binder.config.persist then
    match ← Action.operate (binder.control.persistOn descriptor true) with
    | .ok () => return ()
    | .error fault =>
      Action.log .warn .binder s!"Failed to set TUN persistence on {name}: {fault.message}"

/-- Attaches an interface to a descriptor. -/
def bind (binder : Binder κ) (descriptor : Int32) :
    Action (Host κ) ProvisionError BoundInterface := do
  Action.ofExcept binder.config.validateInterfaceName
  let request := request binder.config
  Action.log .debug .binder s!"Issuing TUNSETIFF on fd {descriptor} for {request.description}"
  let (answer, left) ← Action.operate (binder.control.attachOn descriptor request)
  match answer with
  | .error fault =>
    Action.log .warn .binder s!"TUNSETIFF failed on fd {descriptor}: {fault.message}"
    Action.fail (.attachRejected fault.reportedCode)
  | .ok () =>
    binder.keepAlive descriptor left.name
    Action.log .info .binder s!"Bound fd {descriptor} to TUN interface {left.name}"
    return ⟨descriptor, left.name⟩

def provision (binder : Binder κ) : Option Int32 → Action (Host κ) ProvisionError Provisioned
  | none => Action.fail .noDescriptor
  | some descriptor => return .bound (← binder.bind descriptor)

/-- Binding as the way to provision a tunnel. -/
def provisioner (binder : Binder κ) : Provisioner (Host κ) where
  platform := .linux
  provision := binder.provision

def openNode (files : FileSystem) (path : Path) (host : Host κ) :
    Except IoError Int32 × Host κ :=
  match files.openNode path with
  | .error fault => (.error fault, host)
  | .ok () =>
    match host.descriptors.fresh? with
    | none => (.error (.numbered 24), host)
    | some descriptor =>
      (.ok descriptor, { host with descriptors := host.descriptors.insert descriptor })

def closeNode (descriptor : Int32) (host : Host κ) : Host κ :=
  { host with descriptors := host.descriptors.close descriptor }

end Binder

structure DescriptorHandle where
  descriptor : Int32
  deriving DecidableEq, Repr

namespace DescriptorHandle

def raw (handle : DescriptorHandle) : Int :=
  handle.descriptor.toInt

/-- Closes the descriptor of a handle. -/
def drop (handle : DescriptorHandle) (host : Host κ) : Host κ :=
  Binder.closeNode handle.descriptor host

/-- Gives up a handle for its raw value. The descriptor stays open. -/
def intoRaw (handle : DescriptorHandle) (host : Host κ) : Int × Host κ :=
  (handle.raw, host)

end DescriptorHandle

namespace Binder

/-- Opens a device node, attaches an interface to it, and answers both the handle of the descriptor
and the interface. The handle is dropped if no interface could be attached. -/
def openOwned (binder : Binder κ) (files : FileSystem) (path : Path) :
    Action (Host κ) ProvisionError (DescriptorHandle × BoundInterface) := do
  match ← Action.operate (openNode files path) with
  | .error fault => Action.fail (.nodeUnavailable path.text fault)
  | .ok descriptor =>
    let handle : DescriptorHandle := ⟨descriptor⟩
    let interface ← (binder.bind handle.descriptor).onFailure handle.drop
    return (handle, interface)

/-- The same for a caller that has no use for the handle and leaves its descriptor open. -/
def openAndBind (binder : Binder κ) (files : FileSystem) (path : Path) :
    Action (Host κ) ProvisionError BoundInterface :=
  Prod.snd <$> binder.openOwned files path

end Binder

/-- Checks a configuration and provisions a tunnel on a descriptor. -/
def setupTunnel (control : InterfaceControl κ) (descriptor? : Option Int32)
    (config : TunnelConfig) : Action (Host κ) ProvisionError Provisioned := do
  Action.ofExcept config.validate
  provisionWith (Binder.provisioner ⟨control, config⟩) descriptor?

end TunnelProvisioning
