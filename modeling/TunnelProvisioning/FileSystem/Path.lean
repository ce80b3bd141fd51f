import TunnelProvisioning.Text.Utf8

/-! # Paths

A path is a run of octets, which need not be text. A path that is shown has every part that is no
text replaced.
-/

namespace TunnelProvisioning

/-- The path of a file. -/
structure Path where
  octets : List UInt8
  deriving DecidableEq, Repr

namespace Path

def ofText (text : String) : Path :=
  ⟨Utf8.encode text.toList⟩

/-- How a path is shown. -/
def text (path : Path) : String :=
  String.ofList (Utf8.decodeLossy path.octets)

/-- The text of a path that is one. -/
def text? (path : Path) : Option String :=
  (Utf8.decode? path.octets).map String.ofList

def isEmpty (path : Path) : Bool :=
  path.octets.isEmpty

end Path

end TunnelProvisioning
