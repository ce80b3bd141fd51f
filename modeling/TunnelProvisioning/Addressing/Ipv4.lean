import TunnelProvisioning.Text.Digits

/-! # IPv4 addresses

An address is four octets. It is read as a 32-bit number or as 32 bits, most significant first, and
written as a dotted quad, which reads back to the same address.
-/

namespace TunnelProvisioning

structure Ipv4 where
  first : UInt8
  second : UInt8
  third : UInt8
  fourth : UInt8
  deriving DecidableEq, Repr

namespace Ipv4

/-- The octets in the order of the dotted quad. -/
def octets (address : Ipv4) : List UInt8 :=
  [address.first, address.second, address.third, address.fourth]

/-- The address as a number whose most significant octet is the first one. -/
def toNat (address : Ipv4) : Nat :=
  ((address.first.toNat * 256 + address.second.toNat) * 256 + address.third.toNat) * 256 +
    address.fourth.toNat

def land (left right : Ipv4) : Ipv4 :=
  ⟨left.first &&& right.first, left.second &&& right.second, left.third &&& right.third,
    left.fourth &&& right.fourth⟩

/-- The bits of an octet, most significant first. -/
def octetBits (octet : UInt8) : List Bool :=
  [7, 6, 5, 4, 3, 2, 1, 0].map octet.toNat.testBit

def bits (address : Ipv4) : List Bool :=
  address.octets.flatMap octetBits

def chars (address : Ipv4) : List Char :=
  Digits.decimal address.first.toNat ++ '.' :: (Digits.decimal address.second.toNat ++
    '.' :: (Digits.decimal address.third.toNat ++ '.' :: Digits.decimal address.fourth.toNat))

def text (address : Ipv4) : String :=
  String.ofList address.chars

instance : ToString Ipv4 := ⟨text⟩

/-- Reads an octet: decimal digits without a leading zero, up to 255. -/
def octet? (cs : List Char) : Option (UInt8 × List Char) := do
  let digits := cs.takeWhile Char.isDigit
  let value ← Digits.ofDecimal? digits
  if value ≤ 255 ∧ (digits.length = 1 ∨ digits.head? ≠ some '0') then
    return (UInt8.ofNat value, cs.dropWhile Char.isDigit)
  else none

/-- Reads a point and the octet after it. -/
def dottedOctet? : List Char → Option (UInt8 × List Char)
  | '.' :: rest => octet? rest
  | _ => none

/-- Reads a dotted quad; nothing may surround it. -/
def ofText? (text : String) : Option Ipv4 := do
  let (first, rest) ← octet? text.toList
  let (second, rest) ← dottedOctet? rest
  let (third, rest) ← dottedOctet? rest
  let (fourth, rest) ← dottedOctet? rest
  if rest = [] then return ⟨first, second, third, fourth⟩ else none

end Ipv4

end TunnelProvisioning
