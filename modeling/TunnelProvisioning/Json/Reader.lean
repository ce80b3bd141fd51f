import TunnelProvisioning.Json.Number
import TunnelProvisioning.Text.Utf8

/-! # JSON reader

Reads one value from the front of a text. Arrays and objects may be nested `deepest` levels, no
more. A value that nobody looks at can also be skipped: then nesting is free, numbers need not fit
and escapes need not name characters.
-/

namespace TunnelProvisioning.Json

/-- How deep arrays and objects may be nested. -/
def deepest : Nat := 127

def isBlank (c : Char) : Bool :=
  c = ' ' || c = '\n' || c = '\t' || c = '\r'

def skipBlanks (cs : List Char) : List Char :=
  cs.dropWhile isBlank

/-- Reads the given characters. -/
def expect : List Char → List Char → Except Fault (List Char)
  | [], cs => .ok cs
  | _ :: _, [] => .error .ended
  | expected :: more, c :: cs => if c = expected then expect more cs else .error .malformed

def shortEscape? (c : Char) : Option Char :=
  if c = '"' ∨ c = '\\' ∨ c = '/' then some c
  else if c = 'b' then some '\x08'
  else if c = 'f' then some '\x0c'
  else if c = 'n' then some '\n'
  else if c = 'r' then some '\r'
  else if c = 't' then some '\t'
  else none

/-- The fault of an escape that four hexadecimal digits should complete: whether the text ends
before four octets are there. -/
def shortOfDigits (cs : List Char) : Fault :=
  if (Utf8.encode cs).length < 4 then .ended else .malformed

/-- Puts a character before the text read after it. -/
def prepend (c : Char) (tail : Except Fault (List Char × List Char)) :
    Except Fault (List Char × List Char) :=
  tail.map fun (text, rest) => (c :: text, rest)

/-- The rest of a text after its opening quote. -/
def textBody : List Char → Except Fault (List Char × List Char)
  | [] => .error .ended
  | '"' :: rest => .ok ([], rest)
  | '\\' :: 'u' :: a :: b :: c :: d :: rest =>
    match Digits.ofHex? [a, b, c, d] with
    | none => .error .malformed
    | some unit =>
      if unit < 0xD800 ∨ 0xDFFF < unit then prepend (Char.ofNat unit) (textBody rest)
      else if 0xDC00 ≤ unit then .error .malformed
      else
        match rest with
        | '\\' :: 'u' :: e :: f :: g :: h :: after =>
          match Digits.ofHex? [e, f, g, h] with
          | none => .error .malformed
          | some low =>
            if 0xDC00 ≤ low ∧ low ≤ 0xDFFF then
              prepend (Char.ofNat (0x10000 + 0x400 * (unit - 0xD800) + (low - 0xDC00)))
                (textBody after)
            else .error .malformed
        | '\\' :: 'u' :: after => .error (shortOfDigits after)
        | ['\\'] => .error .ended
        | [] => .error .ended
        | _ => .error .malformed
  | '\\' :: 'u' :: rest => .error (shortOfDigits rest)
  | ['\\'] => .error .ended
  | '\\' :: c :: rest =>
    match shortEscape? c with
    | some char => prepend char (textBody rest)
    | none => .error .malformed
  | c :: rest => if c.toNat < 0x20 then .error .malformed else prepend c (textBody rest)

/-- Skips the rest of a text after its opening quote. -/
def skipTextBody : List Char → Except Fault (List Char)
  | [] => .error .ended
  | '"' :: rest => .ok rest
  | '\\' :: 'u' :: a :: b :: c :: d :: rest =>
    if (Digits.ofHex? [a, b, c, d]).isSome then skipTextBody rest else .error .malformed
  | '\\' :: 'u' :: rest => .error (shortOfDigits rest)
  | ['\\'] => .error .ended
  | '\\' :: c :: rest => if (shortEscape? c).isSome then skipTextBody rest else .error .malformed
  | c :: rest => if c.toNat < 0x20 then .error .malformed else skipTextBody rest

/-- Where the next item of a sequence starts, `none` after the last. The character that closes the
sequence may follow the first opening, but not a comma. -/
def nextItem (closing : Char) (first : Bool) (cs : List Char) : Except Fault (Bool × List Char) :=
  match skipBlanks cs with
  | [] => .error .ended
  | c :: rest =>
    if c = closing then .ok (false, rest)
    else if first then .ok (true, c :: rest)
    else if c = ',' then
      match skipBlanks rest with
      | [] => .error .ended
      | c :: rest => if c = closing then .error .malformed else .ok (true, c :: rest)
    else .error .malformed

/-- The items of a sequence up to the character that closes it. The fuel bounds their number. -/
def sequence {α : Type} (closing : Char) (item : List Char → Except Fault (α × List Char)) :
    Nat → Bool → List Char → Except Fault (List α × List Char)
  | 0, _, _ => .error .malformed
  | fuel + 1, first, cs => do
    let (more, rest) ← nextItem closing first cs
    if more then
      let (found, rest) ← item rest
      let (others, rest) ← sequence closing item fuel false rest
      return (found :: others, rest)
    else return ([], rest)

def colon (cs : List Char) : Except Fault (List Char) :=
  match skipBlanks cs with
  | [] => .error .ended
  | c :: rest => if c = ':' then .ok rest else .error .malformed

def key : List Char → Except Fault (String × List Char)
  | '"' :: rest => do
    let (text, rest) ← textBody rest
    return (String.ofList text, rest)
  | _ => .error .malformed

def member {α : Type} (value : List Char → Except Fault (α × List Char)) (cs : List Char) :
    Except Fault ((String × α) × List Char) := do
  let (name, rest) ← key cs
  let rest ← colon rest
  let (found, rest) ← value rest
  return ((name, found), rest)

/-- One value, with as many levels of arrays and objects in it as the first argument says. -/
def value : Nat → List Char → Except Fault (Value × List Char)
  | depth, cs =>
    match skipBlanks cs with
    | [] => .error .ended
    | 'n' :: rest => do return (.null, ← expect "ull".toList rest)
    | 't' :: rest => do return (.boolean true, ← expect "rue".toList rest)
    | 'f' :: rest => do return (.boolean false, ← expect "alse".toList rest)
    | '"' :: rest => do
      let (text, rest) ← textBody rest
      return (.text (String.ofList text), rest)
    | '[' :: rest =>
      match depth with
      | 0 => .error .malformed
      | inner + 1 => do
        let (items, rest) ← sequence ']' (value inner) (rest.length + 1) true rest
        return (.array items, rest)
    | '\x7b' :: rest =>
      match depth with
      | 0 => .error .malformed
      | inner + 1 => do
        let (members, rest) ← sequence '\x7d' (member (value inner)) (rest.length + 1) true rest
        return (.object members, rest)
    | '-' :: rest => do
      let (number, rest) ← numeral true rest
      return (← number.value, rest)
    | c :: rest =>
      if c.isDigit then do
        let (number, rest) ← numeral false (c :: rest)
        return (← number.value, rest)
      else .error .malformed

/-- A number that nobody looks at; one that breaks off is as wrong as any other. -/
def skipNumeral (cs : List Char) : Except Fault (List Char) :=
  match numeral false cs with
  | .ok (_, rest) => .ok rest
  | .error _ => .error .malformed

/-- A key whose object nobody looks at, and its value. -/
def skipMember (skip : List Char → Except Fault (Unit × List Char)) :
    List Char → Except Fault (Unit × List Char)
  | '"' :: rest => do
    let rest ← skipTextBody rest
    let rest ← colon rest
    skip rest
  | _ => .error .malformed

/-- Skips one value. The first argument bounds the levels in it, which the text does anyway. -/
def skipValue : Nat → List Char → Except Fault (Unit × List Char)
  | fuel, cs =>
    match skipBlanks cs with
    | [] => .error .ended
    | 'n' :: rest => do return ((), ← expect "ull".toList rest)
    | 't' :: rest => do return ((), ← expect "rue".toList rest)
    | 'f' :: rest => do return ((), ← expect "alse".toList rest)
    | '"' :: rest => do return ((), ← skipTextBody rest)
    | '[' :: rest =>
      match fuel with
      | 0 => .error .malformed
      | fuel + 1 => do
        let (_, rest) ← sequence ']' (skipValue fuel) (rest.length + 1) true rest
        return ((), rest)
    | '\x7b' :: rest =>
      match fuel with
      | 0 => .error .malformed
      | fuel + 1 => do
        let (_, rest) ← sequence '\x7d' (skipMember (skipValue fuel)) (rest.length + 1) true rest
        return ((), rest)
    | '-' :: rest => do return ((), ← skipNumeral rest)
    | c :: rest =>
      if c.isDigit then do return ((), ← skipNumeral (c :: rest)) else .error .malformed

def skip (cs : List Char) : Except Fault (List Char) := do
  let (_, rest) ← skipValue (cs.length + 1) cs
  return rest

/-- Accepts nothing but blanks after a value. -/
def finish (cs : List Char) : Except Fault Unit :=
  if skipBlanks cs = [] then .ok () else .error .malformed

def parse (text : String) : Except Fault Value := do
  let (found, rest) ← value deepest text.toList
  finish rest
  return found

end TunnelProvisioning.Json
