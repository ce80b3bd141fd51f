/-! # Digits

Whole numbers as text. Decimal digits are the standard library's; this module adds the sign, the
checks a reader needs before it trusts a text to be a number, and hexadecimal in both directions.
-/

namespace TunnelProvisioning.Digits

/-- The value of a hexadecimal digit in either case. -/
def hexValue? (c : Char) : Option Nat :=
  if c.isDigit then some (c.toNat - '0'.toNat)
  else if 'a'.toNat ≤ c.toNat ∧ c.toNat ≤ 'f'.toNat then some (c.toNat - 'a'.toNat + 10)
  else if 'A'.toNat ≤ c.toNat ∧ c.toNat ≤ 'F'.toNat then some (c.toNat - 'A'.toNat + 10)
  else none

def ofHex? : List Char → Option Nat
  | [] => none
  | digits => digits.foldlM (fun value digit => (hexValue? digit).map (16 * value + ·)) 0

def ofDecimal? (digits : List Char) : Option Nat :=
  if digits ≠ [] ∧ digits.all Char.isDigit then some (Nat.ofDigitChars 10 digits 0) else none

/-- The integer that decimal digits spell after an optional sign. -/
def ofSigned? : List Char → Option Int
  | '-' :: digits => (ofDecimal? digits).map fun magnitude => -(magnitude : Int)
  | '+' :: digits => (ofDecimal? digits).map Int.ofNat
  | digits => (ofDecimal? digits).map Int.ofNat

def decimal (n : Nat) : List Char :=
  Nat.toDigits 10 n

def signed (n : Int) : List Char :=
  if n < 0 then '-' :: decimal n.natAbs else decimal n.natAbs

def hex (n : Nat) : List Char :=
  Nat.toDigits 16 n

/-- A number in lower-case hexadecimal, filled up on the left with zeros to a width. -/
def hexPadded (width n : Nat) : List Char :=
  List.replicate (width - (hex n).length) '0' ++ hex n

/-- A run of octets, two hexadecimal digits each. -/
def ofOctets (octets : List UInt8) : List Char :=
  octets.flatMap fun octet => hexPadded 2 octet.toNat

/-- The octets that pairs of hexadecimal digits spell. -/
def octets? : List Char → Option (List UInt8)
  | [] => some []
  | [_] => none
  | high :: low :: rest => do
    let value ← ofHex? [high, low]
    let octets ← octets? rest
    return UInt8.ofNat value :: octets

@[simp]
theorem decimal_ne_nil (n : Nat) : decimal n ≠ [] := by
  simp [decimal, Nat.toDigits_ne_nil]

theorem isDigit_of_mem_decimal {n : Nat} {c : Char} (member : c ∈ decimal n) : c.isDigit = true :=
  Nat.isDigit_of_mem_toDigits (by decide) (by decide) member

/-- Decimal digits read back. -/
@[simp]
theorem ofDecimal?_decimal (n : Nat) : ofDecimal? (decimal n) = some n := by
  have digits : (decimal n).all Char.isDigit = true := by
    simpa only [List.all_eq_true] using fun _ => isDigit_of_mem_decimal
  have reads : Nat.ofDigitChars 10 (decimal n) 0 = n :=
    Nat.ofDigitChars_toDigits (by decide) (by decide)
  simp [ofDecimal?, digits, reads]

end TunnelProvisioning.Digits
