import TunnelProvisioning.Text.Digits

/-! # TOML dates and times

A moment is a date, a time of day, or both with or without an offset. Nothing here looks at which
moment it is, so reading only tells whether the characters spell one that exists.
-/

namespace TunnelProvisioning.Toml.Moment

/-- The number that two digits spell. -/
def pair? (high low : Char) : Option Nat :=
  Digits.ofDecimal? [high, low]

def isLeap (year : Nat) : Bool :=
  year % 4 = 0 && (year % 100 ≠ 0 || year % 400 = 0)

def daysIn (year month : Nat) : Nat :=
  if month = 2 then (if isLeap year then 29 else 28)
  else if month = 4 ∨ month = 6 ∨ month = 9 ∨ month = 11 then 30
  else 31

def date? : List Char → Option (List Char)
  | y₁ :: y₂ :: y₃ :: y₄ :: '-' :: m₁ :: m₂ :: '-' :: d₁ :: d₂ :: rest => do
    let year ← Digits.ofDecimal? [y₁, y₂, y₃, y₄]
    let month ← pair? m₁ m₂
    let day ← pair? d₁ d₂
    if 1 ≤ month ∧ month ≤ 12 ∧ 1 ≤ day ∧ day ≤ daysIn year month then some rest else none
  | _ => none

/-- Drops a fraction of a second, which has at least one digit. -/
def fraction? : List Char → Option (List Char)
  | '.' :: c :: rest => if c.isDigit then some (rest.dropWhile Char.isDigit) else none
  | ['.'] => none
  | cs => some cs

/-- Reads a time of day; a minute may have a leap second. -/
def time? : List Char → Option (List Char)
  | h₁ :: h₂ :: ':' :: m₁ :: m₂ :: ':' :: s₁ :: s₂ :: rest => do
    let hour ← pair? h₁ h₂
    let minute ← pair? m₁ m₂
    let second ← pair? s₁ s₂
    if hour ≤ 23 ∧ minute ≤ 59 ∧ second ≤ 60 then fraction? rest else none
  | _ => none

/-- Whether characters spell an offset, or are none. -/
def isOffset : List Char → Bool
  | [] => true
  | ['Z'] => true
  | ['z'] => true
  | [sign, h₁, h₂, ':', m₁, m₂] =>
    (sign = '+' || sign = '-') && ((pair? h₁ h₂).any (· ≤ 23)) && ((pair? m₁ m₂).any (· ≤ 59))
  | _ => false

def isDate (cs : List Char) : Bool :=
  date? cs = some []

def isMoment (cs : List Char) : Bool :=
  match date? cs with
  | some [] => true
  | some (c :: rest) =>
    (c = 'T' || c = 't' || c = ' ') && ((time? rest).any isOffset)
  | none => time? cs = some []

end TunnelProvisioning.Toml.Moment
