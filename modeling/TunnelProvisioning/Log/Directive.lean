import TunnelProvisioning.Log.Event
import TunnelProvisioning.Log.Pattern
import TunnelProvisioning.Text.Utf8

/-! # Filter directives

A directive says how verbose a part of a program may be. It consists of an optional target, an
optional span with fields in brackets, and a level after an equals sign; a level may also stand
alone. A target without a level lets everything through.

The parts of a directive are cut out by octets. A reader counts the octets without the white space
before the directive, but cuts the text with it, so white space at the front displaces every part,
and a part may come to end inside a character.
-/

namespace TunnelProvisioning

/-- The most verbose level that is let through, `none` if nothing is. -/
abbrev Ceiling := Option Level

inductive DirectiveFault where
  | malformed
  /-- A part starts or ends inside a character, which nobody can read on from. -/
  | splitCharacter
  deriving DecidableEq, Repr

/-- A field that a directive asks for, and whether it asks for a value too. -/
structure FieldMatch where
  name : List Char
  hasValue : Bool
  deriving DecidableEq, Repr

structure Directive where
  target : Option (List Char) := none
  span : Option (List Char) := none
  fields : List FieldMatch := []
  ceiling : Ceiling := some .trace
  deriving DecidableEq, Repr

namespace Directive

/-- A text with its ASCII letters in lower case. -/
def lower (cs : List Char) : List Char :=
  cs.map Char.toLower

def ceilingOfNumber? : Nat → Option Ceiling
  | 0 => some none
  | 1 => some (some .error)
  | 2 => some (some .warn)
  | 3 => some (some .info)
  | 4 => some (some .debug)
  | 5 => some (some .trace)
  | _ => none

/-- The ceiling that a word stands for, in any case. -/
def ceilingOfWord? (cs : List Char) : Option Ceiling :=
  if cs = [] then some (some .error)
  else if lower cs = "error".toList then some (some .error)
  else if lower cs = "warn".toList then some (some .warn)
  else if lower cs = "info".toList then some (some .info)
  else if lower cs = "debug".toList then some (some .debug)
  else if lower cs = "trace".toList then some (some .trace)
  else if lower cs = "off".toList then some none
  else none

/-- A number, before which a plus sign may stand. -/
def number? : List Char → Option Nat
  | '+' :: digits => Digits.ofDecimal? digits
  | digits => Digits.ofDecimal? digits

def ceiling? (cs : List Char) : Option Ceiling :=
  ((number? cs).bind ceilingOfNumber?) <|> ceilingOfWord? cs

/-- The ceiling after an equals sign; nothing there stands for everything. -/
def assignedCeiling? (cs : List Char) : Option Ceiling :=
  if cs = [] then some (some .trace) else ceiling? cs

/-- Whether characters spell a floating-point number. -/
def isReal (cs : List Char) : Bool :=
  let magnitude := lower (if cs.head? = some '+' ∨ cs.head? = some '-' then cs.drop 1 else cs)
  let exponent := (magnitude.dropWhile (· ≠ 'e')).drop 1
  let mantissa := magnitude.takeWhile (· ≠ 'e')
  let whole := mantissa.takeWhile (· ≠ '.')
  let fraction := (mantissa.dropWhile (· ≠ '.')).drop 1
  magnitude = "inf".toList || magnitude = "infinity".toList || magnitude = "nan".toList ||
    ((whole ++ fraction).all Char.isDigit && whole ++ fraction ≠ [] &&
      (!magnitude.contains 'e' || (Digits.ofSigned? exponent).isSome))

/-- Whether a field may be asked to have a value: a number, or a pattern for it. -/
def isFieldValue (cs : List Char) : Bool :=
  isReal cs || Pattern.isWellFormed cs

/-- A field, with or without a value after an equals sign. A further equals sign ends the value. -/
def field (cs : List Char) : Except DirectiveFault FieldMatch :=
  let value := ((cs.dropWhile (· ≠ '=')).drop 1).takeWhile (· ≠ '=')
  if cs ≠ [] ∧ isFieldValue value then .ok ⟨cs.takeWhile (· ≠ '='), cs.contains '='⟩
  else .error .malformed

/-- What a reader of a directive has before it, with the octet at which that started. -/
inductive Stage where
  | start
  | levelOrTarget (first : Nat)
  | span (first : Nat)
  | field (first : Nat)
  | fields
  | target
  | level (first : Nat)
  deriving DecidableEq, Repr

/-- The part of a text from one octet up to another. -/
def part (cs : List Char) (first next : Nat) : Except DirectiveFault (List Char) :=
  match Utf8.slice? first next cs with
  | some found => .ok found
  | none => .error .splitCharacter

/-- The part of a text from an octet on. -/
def tail (cs : List Char) (first : Nat) : Except DirectiveFault (List Char) :=
  match Utf8.drop? first cs with
  | some found => .ok found
  | none => .error .splitCharacter

/-- Whether a character may start a level or a target. -/
def startsWord (c : Char) : Bool :=
  c = '-' || c = ':' || c = '_' || Alphanumeric.isAlphanumeric c

/-- Reads one character at an octet. -/
def advance (cs : List Char) (directive : Directive) (place : Nat) (c : Char) :
    Stage → Except DirectiveFault (Stage × Directive)
  | .start =>
    if c = '[' then .ok (.span (place + 1), directive)
    else if startsWord c then .ok (.levelOrTarget place, directive)
    else .error .malformed
  | .levelOrTarget first =>
    if c = '=' then do
      return (.level (place + 1), { directive with target := ← part cs first place })
    else if c = '[' then do
      return (.span (place + 1), { directive with target := ← part cs first place })
    else .ok (.levelOrTarget first, directive)
  | .span first =>
    if c = ']' then do return (.target, { directive with span := ← part cs first place })
    else if c = '\x7b' then do
      let name ← part cs first place
      return (.field (place + 1), { directive with span := if name = [] then none else name })
    else .ok (.span first, directive)
  | .field first =>
    if c = '\x7d' then do
      let field ← field (← part cs first place)
      return (.fields, { directive with fields := directive.fields ++ [field] })
    else .ok (.field first, directive)
  | .fields => if c = ']' then .ok (.target, directive) else .error .malformed
  | .target => if c = '=' then .ok (.level (place + 1), directive) else .error .malformed
  | .level first => .ok (.level first, directive)

def advanceAll (cs : List Char) : Nat → Stage → Directive → List Char →
    Except DirectiveFault (Stage × Directive)
  | _, stage, directive, [] => .ok (stage, directive)
  | place, stage, directive, c :: rest => do
    let (stage, directive) ← advance cs directive place c stage
    advanceAll cs (place + c.utf8Size) stage directive rest

/-- Completes a directive whose characters have all been read. -/
def complete (cs : List Char) (directive : Directive) : Stage → Except DirectiveFault Directive
  | .levelOrTarget first => do
    let word ← tail cs first
    match ceiling? word with
    | some ceiling => return { directive with ceiling, target := none }
    | none => return { directive with ceiling := some .trace, target := some word }
  | .level first => do
    match assignedCeiling? (← tail cs first) with
    | some ceiling => return { directive with ceiling }
    | none => .error .malformed
  | .target => .ok directive
  | _ => .error .malformed

def read (cs : List Char) : Except DirectiveFault Directive := do
  let (stage, directive) ← advanceAll cs 0 .start {} (Blank.trim cs)
  complete cs directive stage

end Directive

end TunnelProvisioning
