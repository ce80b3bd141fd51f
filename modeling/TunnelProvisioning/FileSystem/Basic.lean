import TunnelProvisioning.FileSystem.Path
import TunnelProvisioning.IoError

/-! # File systems

A file system as far as provisioning looks at it: whether something is there, what a file holds, and
whether a device node can be opened. Nothing is ever written, so a file system is a function from
paths to answers.
-/

namespace TunnelProvisioning

/-- The answers of a file system. -/
structure FileSystem where
  /-- Whether something is found at a path. -/
  isPresent : Path → Bool
  /-- The content of a file. -/
  read : Path → Except IoError (List UInt8)
  /-- Whether a path can be opened for reading and writing. -/
  openNode : Path → Except IoError Unit

/-- The content of a file that holds a text. -/
def FileSystem.readText (files : FileSystem) (path : Path) : Except IoError String := do
  let octets ← files.read path
  match Utf8.decode? octets with
  | some text => return String.ofList text
  | none => throw (.described .invalidData "stream did not contain valid UTF-8")

end TunnelProvisioning
