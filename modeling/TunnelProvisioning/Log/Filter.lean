import TunnelProvisioning.Log.Directive

/-! # Log filters

A filter is a list of directives. Of those that concern an event the most specific one decides
whether it is let through: the one with the longest target, then the one with the most fields, then
the one given last. An event that no directive concerns is held back.
-/

namespace TunnelProvisioning

structure LogFilter where
  directives : List Directive
  deriving DecidableEq, Repr

namespace Directive

/-- Whether a directive concerns events outside of spans: it names no span and asks for no values.
-/
def isStatic (directive : Directive) : Bool :=
  directive.span.isNone && !directive.fields.any (·.hasValue)

/-- Whether a directive concerns an event. An event has one field, its message. -/
def concerns (directive : Directive) (event : Event) : Bool :=
  directive.isStatic && (directive.target.all (·.isPrefixOf event.origin.path.toList)) &&
    directive.fields.all (·.name = "message".toList)

/-- How specific a directive is, by the length of its target and by its fields. -/
def specificity (directive : Directive) : Nat × Nat :=
  (match directive.target with
    | none => 0
    | some target => target.length + 1,
    directive.fields.length)

/-- Whether a directive yields to one that is given later. -/
def yieldsTo (earlier later : Directive) : Bool :=
  earlier.specificity.1 < later.specificity.1 ||
    (earlier.specificity.1 = later.specificity.1 &&
      earlier.specificity.2 ≤ later.specificity.2)

end Directive

namespace LogFilter

/-- Whether a level is at most as verbose as a ceiling. -/
def admits (ceiling : Ceiling) (level : Level) : Bool :=
  match ceiling with
  | none => false
  | some greatest => level.verbosity ≤ greatest.verbosity

def upTo (ceiling : Ceiling) : LogFilter :=
  ⟨[{ ceiling }]⟩

/-- The directive that decides about an event. -/
def decisive? (filter : LogFilter) (event : Event) : Option Directive :=
  (filter.directives.filter (·.concerns event)).foldl
    (fun chosen directive =>
      match chosen with
      | none => some directive
      | some earlier => if earlier.yieldsTo directive then some directive else some earlier)
    none

def passes (filter : LogFilter) (event : Event) : Bool :=
  match filter.decisive? event with
  | none => false
  | some directive => admits directive.ceiling event.level

/-- Reads a filter: directives with commas between them, the first fault of which wins. Without any
directive nothing is let through. -/
def read (text : String) : Except DirectiveFault LogFilter := do
  let directives ← ((text.toList.splitOn ',').filter (· ≠ [])).mapM Directive.read
  return if directives = [] then upTo none else ⟨directives⟩

/-- The filter for a configured level. Errors are let through where a level names nothing. -/
def ofLevel (level : String) : LogFilter :=
  match Directive.read level.toList with
  | .ok directive => ⟨[directive]⟩
  | .error _ => upTo (some .error)

/-- The filter of a program: the one that its environment sets, and the one for a configured level
if there is none or if it is malformed. There is no filter, and no going on, if the environment sets
one that splits a character. -/
def ofEnvironment? (setting : Option String) (level : String) : Option LogFilter :=
  match setting.map read with
  | none => some (ofLevel level)
  | some (.ok filter) => some filter
  | some (.error .malformed) => some (ofLevel level)
  | some (.error .splitCharacter) => none

end LogFilter

end TunnelProvisioning
