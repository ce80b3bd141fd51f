import TunnelProvisioning.Interface.Descriptors
import TunnelProvisioning.Interface.Request
import TunnelProvisioning.IoError

/-! # Interface control

The two calls by which a kernel attaches an interface to a descriptor and keeps it alive afterwards.
What a kernel answers may depend on the open descriptors and on everything that it was asked before.
-/

namespace TunnelProvisioning

/-- A kernel's answers, over a state of its own. -/
structure InterfaceControl (κ : Type) where
  /-- Attaches an interface. The request comes back as the kernel left it, refused or not; in an
  accepted one stands the name that was chosen. -/
  attach : Descriptors → Int32 → InterfaceRequest → κ →
    (Except IoError Unit × InterfaceRequest) × κ
  /-- Sets whether the interface outlives the descriptor. -/
  persist : Descriptors → Int32 → Bool → κ → Except IoError Unit × κ

/-- The open descriptors together with what the kernel knows about interfaces. -/
structure Host (κ : Type) where
  descriptors : Descriptors := .standard
  interfaces : κ

namespace InterfaceControl

variable {κ : Type}

def attachOn (control : InterfaceControl κ) (descriptor : Int32) (request : InterfaceRequest)
    (host : Host κ) : (Except IoError Unit × InterfaceRequest) × Host κ :=
  let (answer, interfaces) := control.attach host.descriptors descriptor request host.interfaces
  (answer, { host with interfaces })

def persistOn (control : InterfaceControl κ) (descriptor : Int32) (keep : Bool) (host : Host κ) :
    Except IoError Unit × Host κ :=
  let (answer, interfaces) := control.persist host.descriptors descriptor keep host.interfaces
  (answer, { host with interfaces })

/-- The answer for a descriptor that is no tunnel device, or that is not even open. -/
def foreign (descriptors : Descriptors) (descriptor : Int32) : IoError :=
  .numbered (if descriptors.contains descriptor then 25 else 9)

def withoutDevices : InterfaceControl Unit where
  attach descriptors descriptor request state :=
    ((.error (foreign descriptors descriptor), request), state)
  persist descriptors descriptor _ state := (.error (foreign descriptors descriptor), state)

end InterfaceControl

end TunnelProvisioning
