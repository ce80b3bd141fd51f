import TunnelProvisioning.Binary64.Shortest
import TunnelProvisioning.Text.Digits

/-! # Floating-point text

The two notations in which error texts show a floating-point number. Both write the shortest decimal
that reads back. The plain one never uses an exponent; the scientific one keeps to positions from
`1e-5` up to `1e16` and uses a signed exponent beyond.
-/

namespace TunnelProvisioning.Binary64

/-- The digits of a shortest decimal without trailing zeros, and the place of the first one. -/
private def significant (tie : Tie) (significand : Nat) (exponent : Int) : List Char × Int :=
  let (point, place) := shortest tie significand exponent
  let digits := Digits.decimal point
  ((digits.reverse.dropWhile (· = '0')).reverse, place + digits.length - 1)

/-- Digits in positional notation, the first of them at `10 ^ first`, with at least one decimal. -/
private def positional (digits : List Char) (first : Int) : List Char :=
  if first < 0 then
    ['0', '.'] ++ List.replicate ((-first).toNat - 1) '0' ++ digits
  else
    let whole := first.toNat + 1
    let before := digits.take whole ++ List.replicate (whole - digits.length) '0'
    let after := digits.drop whole
    before ++ '.' :: (if after = [] then ['0'] else after)

private def sign (negative : Bool) : List Char :=
  if negative then ['-'] else []

/-- Positional notation for every finite number. -/
def plain : Binary64 → String
  | .nan => "NaN"
  | .infinity negative => String.ofList (sign negative) ++ "inf"
  | .finite negative significand exponent =>
    if significand = 0 then String.ofList (sign negative) ++ "0.0"
    else
      let (digits, first) := significant .up significand exponent
      String.ofList (sign negative ++ positional digits first)

/-- Positional notation for numbers of moderate size and an exponent for the others. -/
def scientific : Binary64 → String
  | .nan => "NaN"
  | .infinity negative => String.ofList (sign negative) ++ "inf"
  | .finite negative significand exponent =>
    if significand = 0 then String.ofList (sign negative) ++ "0.0"
    else
      let (digits, first) := significant .even significand exponent
      let body :=
        if -5 ≤ first ∧ first ≤ 15 then positional digits first
        else
          let fraction := if digits.length ≤ 1 then [] else '.' :: digits.drop 1
          digits.take 1 ++ fraction ++ ['e', if first < 0 then '-' else '+'] ++
            Digits.decimal first.natAbs
      String.ofList (sign negative ++ body)

end TunnelProvisioning.Binary64
