import TunnelProvisioning.Toml.Moment
import TunnelProvisioning.Toml.Node

/-! # TOML numbers, truth values and moments

A value that is no string and has no parts is a word: a run of characters that ends before the next
blank or bracket. Only a date may go on after a blank, with the time of day.
-/

namespace TunnelProvisioning.Toml

def isWord (c : Char) : Bool :=
  c.isAlphanum || c = '+' || c = '-' || c = '.' || c = '_' || c = ':'

/-- Digits, between which single underscores may stand. -/
def digits? (isDigit : Char → Bool) : List Char → Option (List Char)
  | [] => none
  | [c] => if isDigit c then some [c] else none
  | c :: '_' :: rest => if isDigit c then (digits? isDigit rest).map (c :: ·) else none
  | c :: rest => if isDigit c then (digits? isDigit rest).map (c :: ·) else none

/-- Decimal digits without a leading zero. -/
def wholeDigits? : List Char → Option (List Char)
  | ['0'] => some ['0']
  | '0' :: _ => none
  | cs => digits? Char.isDigit cs

/-- A sign, plus if there is none, and what follows it. -/
def splitSign : List Char → Bool × List Char
  | '+' :: rest => (false, rest)
  | '-' :: rest => (true, rest)
  | cs => (false, cs)

def ofDigits (base : Nat) (digits : List Char) : Nat :=
  digits.foldl (fun value digit => base * value + (Digits.hexValue? digit).getD 0) 0

/-- An integer of 64 bits. -/
def bounded? (number : Int) : Option Scalar :=
  if -0x8000000000000000 ≤ number ∧ number < 0x8000000000000000 then some (.integer number)
  else none

def isDigitIn (base : Nat) (c : Char) : Bool :=
  (Digits.hexValue? c).any (· < base)

/-- An integer whose digits are those of a base. -/
def based? (base : Nat) (cs : List Char) : Option Scalar := do
  let digits ← digits? (isDigitIn base) cs
  bounded? (ofDigits base digits)

/-- Reads an integer. Other bases than ten are marked, and then there is no sign. -/
def integer? : List Char → Option Scalar
  | '0' :: 'x' :: rest => based? 16 rest
  | '0' :: 'o' :: rest => based? 8 rest
  | '0' :: 'b' :: rest => based? 2 rest
  | cs => do
    let (negative, rest) := splitSign cs
    let digits ← wholeDigits? rest
    let magnitude : Int := ofDigits 10 digits
    bounded? (if negative then -magnitude else magnitude)

/-- Reads the exponent after its mark. -/
def exponent? (cs : List Char) : Option Int := do
  let (negative, rest) := splitSign cs
  let digits ← digits? Char.isDigit rest
  let magnitude : Int := ofDigits 10 digits
  return if negative then -magnitude else magnitude

def isExponentMark (c : Char) : Bool :=
  c = 'e' || c = 'E'

/-- Reads a fraction and an exponent, of which there must be one. -/
def fractionAndExponent? : List Char → Option (List Char × Int)
  | '.' :: rest => do
    let fraction ← digits? Char.isDigit (rest.takeWhile (!isExponentMark ·))
    match rest.dropWhile (!isExponentMark ·) with
    | [] => return (fraction, 0)
    | _ :: rest => return (fraction, ← exponent? rest)
  | c :: rest => if isExponentMark c then do return ([], ← exponent? rest) else none
  | [] => none

/-- Reads a floating-point number. One beyond the positive range is none. -/
def real? (cs : List Char) : Option Scalar :=
  let (negative, rest) := splitSign cs
  if rest = "inf".toList then some (.real (.infinity negative))
  else if rest = "nan".toList then some (.real .nan)
  else do
    let whole ← wholeDigits? (rest.takeWhile (fun c => c ≠ '.' && !isExponentMark c))
    let (fraction, exponent) ←
      fractionAndExponent? (rest.dropWhile (fun c => c ≠ '.' && !isExponentMark c))
    let number := Binary64.ofDecimal negative (ofDigits 10 (whole ++ fraction))
      (exponent - fraction.length)
    if number = .infinity false then none else some (.real number)

def word? (cs : List Char) : Option Scalar :=
  if cs = "true".toList then some (.boolean true)
  else if cs = "false".toList then some (.boolean false)
  else if Moment.isMoment cs then some .moment
  else real? cs <|> integer? cs

def scalarWord? (cs : List Char) : Option (Scalar × List Char) := do
  let word := cs.takeWhile isWord
  let rest := cs.dropWhile isWord
  match rest with
  | ' ' :: c :: after =>
    if c.isDigit && Moment.isDate word then
      let value ← word? (word ++ ' ' :: c :: after.takeWhile isWord)
      return (value, after.dropWhile isWord)
    else return (← word? word, rest)
  | _ => return (← word? word, rest)

end TunnelProvisioning.Toml
