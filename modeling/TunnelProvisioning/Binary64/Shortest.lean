import TunnelProvisioning.Binary64.Basic

/-! # Shortest decimal

The fewest decimal digits that read back as the same floating-point number. On each decimal grid,
from one digit upwards, the two points next to the number are tried; the first grid with a point
that rounds to the number wins, and of two such points the nearer.
-/

namespace TunnelProvisioning.Binary64

/-- Which of two equally near decimals is taken. -/
inductive Tie where
  | up
  | even
  deriving DecidableEq, Repr

/-- The reals that round to a number, and the number itself, over a common denominator. -/
private structure Neighbourhood where
  least : Nat
  value : Nat
  greatest : Nat
  denominator : Nat
  closed : Bool

/-- The reals that round to `significand * 2 ^ exponent`, in quarters of its last place. Below a
power of two the representable numbers lie twice as dense. -/
private def neighbourhood (significand : Nat) (exponent : Int) : Neighbourhood :=
  let below := if significand = leastSignificand ∧ leastExponent < exponent then 1 else 2
  let (scale, denominator) := ratio 1 (exponent - 2)
  ⟨(4 * significand - below) * scale, 4 * significand * scale, (4 * significand + 2) * scale,
    denominator, significand % 2 = 0⟩

/-- Whether `point * 10 ^ place` lies in the neighbourhood. -/
private def Neighbourhood.contains (near : Neighbourhood) (place : Int) (point : Nat) : Bool :=
  let position := point * Nat.pow 10 place.toNat * near.denominator
  let least := near.least * Nat.pow 10 (-place).toNat
  let greatest := near.greatest * Nat.pow 10 (-place).toNat
  if near.closed then least ≤ position && position ≤ greatest
  else least < position && position < greatest

/-- The point of the grid of `10 ^ place` that is taken for the number, if one rounds to it. -/
private def Neighbourhood.point? (near : Neighbourhood) (tie : Tie) (place : Int) : Option Nat :=
  let value := near.value * Nat.pow 10 (-place).toNat
  let unit := near.denominator * Nat.pow 10 place.toNat
  let below := value / unit
  let twice := 2 * (value % unit)
  let upper : Bool := unit < twice ∨ (twice = unit ∧ (tie = .up ∨ below % 2 = 1))
  match near.contains place below, near.contains place (below + 1) with
  | true, true => some (if upper then below + 1 else below)
  | true, false => some below
  | false, true => some (below + 1)
  | false, false => none

/-- The shortest decimal of a positive number, as digits and the power of ten they count. -/
def shortest (tie : Tie) (significand : Nat) (exponent : Int) : Nat × Int :=
  let near := neighbourhood significand exponent
  let whole := near.value * Nat.pow 10 340 / near.denominator
  let places : Int := (Nat.toDigits 10 whole).length - 340
  let found := (List.range 17).findSome? fun count : Nat =>
    let place : Int := places - (count + 1)
    (near.point? tie place).map fun point => (point, place)
  found.getD (0, 0)

end TunnelProvisioning.Binary64
