import TunnelProvisioning.Addressing.Basic
import TunnelProvisioning.Json.Reader
import TunnelProvisioning.Text.Quoted

/-! # Addressing in JSON

The three fields of an addressing are read as they come: the first fault in the text wins, whether
the text is malformed there or a value is of the wrong kind. Fields may be missing or null, unknown
ones are skipped, and an array gives the fields in order.
-/

namespace TunnelProvisioning.Addressing

open Json

def toJson (addressing : Addressing) : Value :=
  .object [("local_address", .text addressing.localAddress.text),
    ("network", .text addressing.network.text), ("netmask", .text addressing.netmask.text)]

/-- The fault of a value of the wrong kind. -/
def mismatch (found expected : String) : Fault :=
  .mismatch s!"invalid type: {found}, expected {expected}"

/-- What a value of a wrong kind is called, read as far as that takes. -/
def describe (cs : List Char) : Except Fault String := do
  match cs with
  | 'n' :: rest =>
    let _ ← expect "ull".toList rest
    return "null"
  | 't' :: rest =>
    let _ ← expect "rue".toList rest
    return "boolean `true`"
  | 'f' :: rest =>
    let _ ← expect "alse".toList rest
    return "boolean `false`"
  | '"' :: rest =>
    let (text, _) ← textBody rest
    return s!"string {Quoted.encode (String.ofList text)}"
  | '[' :: _ => return "sequence"
  | '\x7b' :: _ => return "map"
  | _ =>
    match ← value 0 cs with
    | (.integer number, _) => return s!"integer `{number}`"
    | (.real number, _) => return s!"floating point `{number.scientific}`"
    | _ => .error .malformed

/-- The fault of a value that stands where another kind was expected. -/
def refuse {α : Type} (expected : String) (cs : List Char) : Except Fault α := do
  throw (mismatch (← describe cs) expected)

def readField (cs : List Char) : Except Fault (Option Ipv4 × List Char) :=
  match skipBlanks cs with
  | [] => .error .ended
  | 'n' :: rest => do return (none, ← expect "ull".toList rest)
  | '"' :: rest => do
    let (text, rest) ← textBody rest
    match Ipv4.ofText? (String.ofList text) with
    | some address => return (some address, rest)
    | none => .error (.mismatch "invalid IPv4 address syntax")
  | cs => refuse "IPv4 address" cs

/-- The fields of an object read so far; a field that was null is present. -/
structure Fields where
  localAddress : Option (Option Ipv4) := none
  network : Option (Option Ipv4) := none
  netmask : Option (Option Ipv4) := none

def Fields.addressing (fields : Fields) : Addressing :=
  ofFields fields.localAddress.join fields.network.join fields.netmask.join

/-- Reads the value of a field that must not have been given before. -/
def readOnce (name : String) (earlier : Option (Option Ipv4)) (cs : List Char) :
    Except Fault (Option Ipv4 × List Char) :=
  if earlier.isSome then .error (.mismatch s!"duplicate field `{name}`")
  else do readField (← colon cs)

/-- Reads the value after a key, or skips it. -/
def readMember (fields : Fields) (name : String) (cs : List Char) :
    Except Fault (Fields × List Char) := do
  if name = "local_address" then
    let (found, rest) ← readOnce name fields.localAddress cs
    return ({ fields with localAddress := some found }, rest)
  else if name = "network" then
    let (found, rest) ← readOnce name fields.network cs
    return ({ fields with network := some found }, rest)
  else if name = "netmask" then
    let (found, rest) ← readOnce name fields.netmask cs
    return ({ fields with netmask := some found }, rest)
  else return (fields, ← skip (← colon cs))

/-- Reads the members of an object up to its closing brace. The fuel bounds their number. -/
def readMembers : Nat → Bool → Fields → List Char → Except Fault (Fields × List Char)
  | 0, _, _, _ => .error .malformed
  | fuel + 1, first, fields, cs => do
    let (more, rest) ← nextItem '\x7d' first cs
    if more then
      let (name, rest) ← key rest
      let (fields, rest) ← readMember fields name rest
      readMembers fuel false fields rest
    else return (fields, rest)

/-- Nothing may follow the last field of an array. -/
def closeArray (cs : List Char) : Except Fault (List Char) :=
  match skipBlanks cs with
  | [] => .error .ended
  | c :: rest => if c = ']' then .ok rest else .error .malformed

/-- Reads the fields of an array, at most as many as there are; those left out are `none`. -/
def readItems : Nat → Bool → List Char → Except Fault (List (Option Ipv4) × List Char)
  | 0, _, cs => do return ([], ← closeArray cs)
  | count + 1, first, cs => do
    let (more, rest) ← nextItem ']' first cs
    if more then
      let (found, rest) ← readField rest
      let (others, rest) ← readItems count false rest
      return (found :: others, rest)
    else return ([], rest)

def read (cs : List Char) : Except Fault (Addressing × List Char) :=
  match skipBlanks cs with
  | [] => .error .ended
  | '[' :: rest => do
    let (items, rest) ← readItems 3 true rest
    return (ofFields (items[0]?.join) (items[1]?.join) (items[2]?.join), rest)
  | '\x7b' :: rest => do
    let (fields, rest) ← readMembers (rest.length + 1) true {} rest
    return (fields.addressing, rest)
  | cs => refuse "struct AddressingFields" cs

def ofJson (text : String) : Except Fault Addressing := do
  let (addressing, rest) ← read text.toList
  finish rest
  return addressing

end TunnelProvisioning.Addressing
