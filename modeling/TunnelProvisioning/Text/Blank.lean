import TunnelProvisioning.Text.Ranges

/-! # White space

The characters that separate words in any script, line ends included.
-/

namespace TunnelProvisioning.Blank

/-- The white space of all scripts. -/
def whiteSpace : CodeRanges := ⟨[
    (0x09, 0x0D), (0x20, 0x20), (0x85, 0x85), (0xA0, 0xA0), (0x1680, 0x1680), (0x2000, 0x200A),
    (0x2028, 0x2029), (0x202F, 0x202F), (0x205F, 0x205F), (0x3000, 0x3000)]⟩

/-- A text without the white space around it. -/
def trim (cs : List Char) : List Char :=
  ((cs.dropWhile whiteSpace.contains).reverse.dropWhile whiteSpace.contains).reverse

end TunnelProvisioning.Blank
