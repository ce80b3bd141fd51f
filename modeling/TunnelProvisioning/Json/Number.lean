import TunnelProvisioning.Json.Fault
import TunnelProvisioning.Json.Value

/-! # JSON numbers

A numeral is first read as digits and then valued. Only an integer that fits into 64 bits is exact:
any other numeral keeps the leading digits that fit and counts the rest as a power of ten, by which
the nearest floating-point number is then multiplied or divided.
-/

namespace TunnelProvisioning.Json

/-- The digits of a number as written. -/
structure Numeral where
  negative : Bool
  whole : List Char
  fraction : List Char
  exponent : Option (Bool × List Char)
  deriving DecidableEq, Repr

def digits (cs : List Char) : Except Fault (List Char × List Char) :=
  match cs.takeWhile Char.isDigit, cs.dropWhile Char.isDigit with
  | [], [] => .error .ended
  | [], _ :: _ => .error .malformed
  | found, rest => .ok (found, rest)

/-- The digits before the point: a single zero, or digits that do not start with one. -/
def wholeDigits : List Char → Except Fault (List Char × List Char)
  | '0' :: c :: rest => if c.isDigit then .error .malformed else .ok (['0'], c :: rest)
  | ['0'] => .ok (['0'], [])
  | cs => digits cs

/-- The digits after the point, none if there is no point. -/
def fractionDigits : List Char → Except Fault (List Char × List Char)
  | '.' :: rest => digits rest
  | cs => .ok ([], cs)

/-- The sign and the digits of the exponent, if there is one. -/
def exponentDigits : List Char → Except Fault ((Option (Bool × List Char)) × List Char)
  | c :: rest =>
    if c = 'e' ∨ c = 'E' then do
      let (negative, rest) := match rest with
        | '+' :: rest => (false, rest)
        | '-' :: rest => (true, rest)
        | rest => (false, rest)
      let (found, rest) ← digits rest
      return (some (negative, found), rest)
    else .ok (none, c :: rest)
  | [] => .ok (none, [])

/-- Reads the numeral that follows the sign. -/
def numeral (negative : Bool) (cs : List Char) : Except Fault (Numeral × List Char) := do
  let (whole, rest) ← wholeDigits cs
  let (fraction, rest) ← fractionDigits rest
  let (exponent, rest) ← exponentDigits rest
  return (⟨negative, whole, fraction, exponent⟩, rest)

/-- The greatest number of 64 bits. -/
def greatestWord : Nat := 0xFFFFFFFFFFFFFFFF

/-- Appends digits to a number for as long as it fits into 64 bits; the digits left over follow. -/
def fill (value : Nat) : List Char → Nat × List Char
  | [] => (value, [])
  | digit :: rest =>
    let next := 10 * value + (digit.toNat - '0'.toNat)
    if next ≤ greatestWord then fill next rest else (value, digit :: rest)

/-- Divides by a power of ten in steps that stay within the range of divisors. -/
def divideByTens (number : Binary64) (tens : Nat) : Binary64 :=
  if tens ≤ 308 then number.div (.ofDecimal false 1 tens)
  else if number.isZero then number
  else divideByTens (number.div (.ofDecimal false 1 308)) (tens - 308)
termination_by tens

/-- A number times a power of ten; `none` if it is beyond the range. -/
def timesTen? (significand : Nat) (exponent : Int) : Option Binary64 :=
  let number := Binary64.round false significand 1
  if exponent < 0 then some (divideByTens number exponent.natAbs)
  else if 308 < exponent then if number.isZero then some number else none
  else
    match number.mul (.ofDecimal false 1 exponent) with
    | .infinity _ => none
    | product => some product

/-- The value of a numeral; one beyond the range of numbers is malformed. -/
def Numeral.value (numeral : Numeral) : Except Fault Value :=
  let signed (number : Binary64) : Value :=
    .real (if numeral.negative then number.negate else number)
  let (leading, spilled) := fill 0 numeral.whole
  if spilled = [] ∧ numeral.fraction = [] ∧ numeral.exponent = none then
    if ¬ numeral.negative then .ok (.integer leading)
    else if leading = 0 ∨ 0x8000000000000000 < leading then .ok (signed (.round false leading 1))
    else .ok (.integer (-leading))
  else
    let (significand, dropped) := fill leading numeral.fraction
    let place : Int := spilled.length - (numeral.fraction.length - dropped.length : Nat)
    let finish (exponent : Int) : Except Fault Value :=
      match timesTen? significand exponent with
      | some number => .ok (signed number)
      | none => .error .malformed
    match numeral.exponent with
    | none => finish place
    | some (negative, digits) =>
      let power := Nat.ofDigitChars 10 digits 0
      if 0x80000000 ≤ power then
        if significand ≠ 0 ∧ ¬ negative then .error .malformed else .ok (signed (.zero false))
      else finish (if negative then place - power else place + power)

end TunnelProvisioning.Json
