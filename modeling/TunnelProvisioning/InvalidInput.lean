/-! # Invalid input

A value that was given for a field and cannot be used, with the reason.
-/

namespace TunnelProvisioning

structure InvalidInput where
  field : String
  reason : String
  deriving DecidableEq, Repr

def InvalidInput.message (fault : InvalidInput) : String :=
  s!"Invalid input for '{fault.field}': {fault.reason}"

end TunnelProvisioning
