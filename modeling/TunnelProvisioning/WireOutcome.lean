import TunnelProvisioning.Adapter.Device
import TunnelProvisioning.Json.Reader
import TunnelProvisioning.Provisioner

/-! # Outcomes on the wire

An outcome as it is handed over to another program: a handle, an interface with its descriptor, or
the text of an error. The three are told apart by their keys alone, so a reader takes the first form
whose keys are there, each once and with a value of its kind, and does not care about other keys.
-/

namespace TunnelProvisioning

/-- An outcome in the form in which it is handed over. -/
inductive WireOutcome where
  | handle (raw : Int)
  | interface (name : String) (descriptor : Int32)
  | error (text : String)
  deriving DecidableEq, Repr

namespace WireOutcome

def isSuccess : WireOutcome → Bool
  | error _ => false
  | _ => true

def ofOutcome : Except ProvisionError Provisioned → WireOutcome
  | .ok (.bound bound) => .interface bound.name bound.descriptor
  | .ok (.opened _ raw) => .handle raw
  | .error fault => .error fault.message

/-- Hands an outcome over. An open device is passed on with it. -/
def handOver {δ : Type} (bus : DeviceBus δ) (outcome : Except ProvisionError Provisioned)
    (devices : δ) : WireOutcome × δ :=
  match outcome with
  | .ok (.opened _ raw) => (ofOutcome outcome, bus.release raw devices)
  | _ => (ofOutcome outcome, devices)

/-- An outcome as an object with the keys of its form. -/
def toJson : WireOutcome → Json.Value
  | handle raw => .object [("handle", .integer raw)]
  | interface name descriptor =>
    .object [("interface", .text name), ("fd", .integer descriptor.toInt)]
  | error text => .object [("error", .text text)]

def text (outcome : WireOutcome) : String :=
  outcome.toJson.render

/-- The text that an object gives for a key, if it gives one only once. -/
def textAt? (value : Json.Value) (key : String) : Option String :=
  match value.lookup key with
  | [.text content] => some content
  | _ => none

/-- The integer between two bounds that an object gives for a key, if it gives one only once. -/
def integerAt? (value : Json.Value) (key : String) (least greatest : Int) : Option Int :=
  match value.lookup key with
  | [.integer number] => if least ≤ number ∧ number ≤ greatest then some number else none
  | _ => none

def handle? (value : Json.Value) : Option WireOutcome :=
  (integerAt? value "handle" (-0x8000000000000000) 0x7FFFFFFFFFFFFFFF).map .handle

def interface? (value : Json.Value) : Option WireOutcome := do
  let name ← textAt? value "interface"
  let descriptor ← integerAt? value "fd" (-0x80000000) 0x7FFFFFFF
  return .interface name (Int32.ofInt descriptor)

def error? (value : Json.Value) : Option WireOutcome :=
  (textAt? value "error").map .error

/-- Reads the first form that fits. -/
def ofJson? (value : Json.Value) : Option WireOutcome :=
  handle? value <|> interface? value <|> error? value

/-- The outcome that a text holds. What follows the value is looked at last. -/
def ofText (text : String) : Except Json.Fault WireOutcome := do
  let (value, rest) ← Json.value Json.deepest text.toList
  match ofJson? value with
  | some outcome =>
    Json.finish rest
    return outcome
  | none =>
    throw (.mismatch "data did not match any variant of untagged enum WireOutcome")

end WireOutcome

end TunnelProvisioning
