/-! # Faults of JSON texts

Reading stops at the first fault. A text that breaks off inside a value is told apart from one that
is wrong where it stands, and both from a well-formed value of the wrong shape. Where in the text a
fault is, and what exactly is malformed, is not kept.
-/

namespace TunnelProvisioning.Json

/-- Why a text could not be read. -/
inductive Fault where
  | ended
  | malformed
  | mismatch (reason : String)
  deriving DecidableEq, Repr

end TunnelProvisioning.Json
