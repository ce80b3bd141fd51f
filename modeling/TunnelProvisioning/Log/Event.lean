/-! # Log events

What the parts of the library report while they work. An event has a severity, the part it comes
from and a message. Parts are named by paths, so that a filter can select a part with all that
belongs to it.
-/

namespace TunnelProvisioning

inductive Level where
  | error
  | warn
  | info
  | debug
  | trace
  deriving DecidableEq, Repr

namespace Level

/-- The name under which a level is written out. -/
def name : Level → String
  | error => "ERROR"
  | warn => "WARN"
  | info => "INFO"
  | debug => "DEBUG"
  | trace => "TRACE"

/-- How much a level lets through: the most severe events have the least verbosity. -/
def verbosity : Level → Nat
  | error => 1
  | warn => 2
  | info => 3
  | debug => 4
  | trace => 5

end Level

/-- The part that an event comes from. -/
inductive Origin where
  | provisioning
  | binder
  | unsupported
  | adapter
  | registry
  | device
  | settings
  | command
  deriving DecidableEq, Repr

def Origin.path : Origin → String
  | provisioning => "tunsmith_transport::provision"
  | binder => "tunsmith_transport::tun::linux"
  | unsupported => "tunsmith_transport::tun::unsupported"
  | adapter => "tunsmith_transport::tap"
  | registry => "tunsmith_transport::tap::registry"
  | device => "tunsmith_transport::tap::device"
  | settings => "tunsmith_cli::config"
  | command => "tunsmith"

structure Event where
  level : Level
  origin : Origin
  message : String
  deriving DecidableEq, Repr

end TunnelProvisioning
