/-! # Binary floating point

Numbers of 53 significant bits as exact dyadic rationals. Every operation computes its exact result
as a quotient of natural numbers and rounds it once, to the nearest representable number, a tie
going to the even significand.
-/

namespace TunnelProvisioning

/-- A floating-point number; a finite one is `significand * 2 ^ exponent` with its sign. -/
inductive Binary64 where
  | nan
  | infinity (negative : Bool)
  | finite (negative : Bool) (significand : Nat) (exponent : Int)
  deriving DecidableEq, Repr

namespace Binary64

/-- The exponent of the least positive number. -/
def leastExponent : Int := -1074

/-- The exponent of the greatest finite numbers. -/
def greatestExponent : Int := 971

/-- The least significand of 53 bits. -/
def leastSignificand : Nat := 0x10000000000000

/-- One more than the greatest significand. -/
def significandLimit : Nat := 0x20000000000000

def zero (negative : Bool) : Binary64 :=
  .finite negative 0 leastExponent

def isZero : Binary64 → Bool
  | .finite _ significand _ => significand = 0
  | _ => false

def negate : Binary64 → Binary64
  | .nan => .nan
  | .infinity negative => .infinity !negative
  | .finite negative significand exponent => .finite (!negative) significand exponent

/-- The quotient `numerator / (denominator * 2 ^ exponent)` as a numerator and a denominator. -/
private def scaled (numerator denominator : Nat) (exponent : Int) : Nat × Nat :=
  if 0 ≤ exponent then (numerator, denominator * Nat.pow 2 exponent.toNat)
  else (numerator * Nat.pow 2 (-exponent).toNat, denominator)

/-- The nearest whole number to a quotient, a tie going to the even one. -/
def nearest (numerator denominator : Nat) : Nat :=
  let quotient := numerator / denominator
  let twice := 2 * (numerator % denominator)
  if denominator < twice ∨ (twice = denominator ∧ quotient % 2 = 1) then quotient + 1 else quotient

/-- The representable number nearest to a quotient. -/
def round (negative : Bool) (numerator denominator : Nat) : Binary64 :=
  if numerator = 0 then zero negative
  else
    let guess : Int := (numerator.log2 : Int) - denominator.log2 - 53
    let (n, d) := scaled numerator denominator guess
    let exponent := max leastExponent (if n / d < significandLimit then guess else guess + 1)
    let (n, d) := scaled numerator denominator exponent
    let significand := nearest n d
    let (significand, exponent) :=
      if significand = significandLimit then (leastSignificand, exponent + 1)
      else (significand, exponent)
    if greatestExponent < exponent then .infinity negative
    else .finite negative significand exponent

/-- The magnitude of a finite number as a numerator and a denominator. -/
def ratio (significand : Nat) (exponent : Int) : Nat × Nat :=
  if 0 ≤ exponent then (significand * Nat.pow 2 exponent.toNat, 1)
  else (significand, Nat.pow 2 (-exponent).toNat)

/-- The product of two finite numbers; no other operands arise. -/
def mul : Binary64 → Binary64 → Binary64
  | .finite s m e, .finite t n f =>
    let (a, b) := ratio m e
    let (c, d) := ratio n f
    round (s != t) (a * c) (b * d)
  | _, _ => .nan

/-- The quotient of two finite numbers, the second not zero; no other operands arise. -/
def div : Binary64 → Binary64 → Binary64
  | .finite s m e, .finite t n f =>
    let (a, b) := ratio m e
    let (c, d) := ratio n f
    round (s != t) (a * d) (b * c)
  | _, _ => .nan

/-- The representable number nearest to `digits * 10 ^ exponent`. Numbers beyond the range are told
by their count of digits, before any power of ten is computed. -/
def ofDecimal (negative : Bool) (digits : Nat) (exponent : Int) : Binary64 :=
  let places := (Nat.toDigits 10 digits).length + exponent
  if digits = 0 ∨ places < -330 then zero negative
  else if 310 < places then .infinity negative
  else if 0 ≤ exponent then round negative (digits * Nat.pow 10 exponent.toNat) 1
  else round negative digits (Nat.pow 10 (-exponent).toNat)

end Binary64

end TunnelProvisioning
