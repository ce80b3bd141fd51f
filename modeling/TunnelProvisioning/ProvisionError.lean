import TunnelProvisioning.InvalidInput
import TunnelProvisioning.IoError

/-! # Provisioning errors

Every step of bringing up a tunnel fails for a reason of its own, which calls for a remedy of its
own: to install a driver, to run with more privileges, to pass a descriptor or to mend the
configuration.
-/

namespace TunnelProvisioning

inductive ProvisionError where
  /-- A descriptor is needed and none was passed. -/
  | noDescriptor
  /-- The kernel refused to attach an interface to the descriptor. -/
  | attachRejected (code : Int)
  /-- The node of the tunnel device could not be opened. -/
  | nodeUnavailable (path : String) (error : IoError)
  /-- No installed adapter has the component id. -/
  | adapterNotFound (componentId : String)
  /-- The name of the adapter's connection could not be read. -/
  | nameLookupFailed (instanceId : String)
  /-- The adapter's device could not be opened. -/
  | deviceUnavailable (path : String) (code : Int)
  /-- The driver refused a request, and was not allowed to. -/
  | requestRejected (request : UInt32) (code : Int)
  /-- The platform has no tunnels. -/
  | unsupported (platform : String)
  /-- A setting cannot be used. -/
  | invalidSetting (field reason : String)
  /-- An addressing cannot be used. -/
  | invalidInput (fault : InvalidInput)
  deriving DecidableEq, Repr

namespace ProvisionError

def message : ProvisionError → String
  | noDescriptor => "No fd provided."
  | attachRejected code => s!"Failure during ioctl. (os error {code})"
  | nodeUnavailable path error => s!"Failed to open tunnel device node {path}: {error.message}"
  | adapterNotFound componentId =>
    s!"Error retrieving device guid. Is the tap driver installed? (component id '{componentId}')"
  | nameLookupFailed instanceId =>
    s!"Error retrieving network name for tap device. (adapter {instanceId})"
  | deviceUnavailable path code =>
    s!"Error opening tap file. Are you running as root? ({path}, os error {code})"
  | requestRejected request code => s!"Tap control request {request} failed (os error {code})"
  | unsupported platform => s!"Tunnel provisioning is not supported on {platform}"
  | invalidSetting field reason => s!"Invalid configuration: {field} - {reason}"
  | invalidInput fault => fault.message

/-- Whether trying again may help: whatever failed, something outside has to change first. -/
def isRetryable (_ : ProvisionError) : Bool :=
  false

/-- Whether the remedy is to run with more privileges. -/
def requiresPrivileges : ProvisionError → Bool
  | deviceUnavailable _ _ => true
  | attachRejected code => code = 1 || code = 13
  | nodeUnavailable _ error => error.isPermissionDenied
  | _ => false

/-- Whether the adapter is missing or incompletely installed. -/
def isAdapterError : ProvisionError → Bool
  | adapterNotFound _ => true
  | nameLookupFailed _ => true
  | _ => false

def isConfigError : ProvisionError → Bool
  | invalidSetting _ _ => true
  | invalidInput _ => true
  | _ => false

end ProvisionError

end TunnelProvisioning
