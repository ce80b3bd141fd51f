import TunnelProvisioning.FileSystem.Path
import TunnelProvisioning.Text.Digits

/-! # Command-line arguments

The first argument names a command, and the others are the options of that command, in any order but
each only once. An option that takes a value takes it from the same argument or from the next one,
which then must not look like an option. Reading stops at a request for help, or at the first
argument that does not belong there.
-/

namespace TunnelProvisioning.CommandLine

/-- The commands that take options. -/
inductive Command where
  | setup
  | validate
  | defaults
  deriving DecidableEq, Repr

inductive ValueOption where
  | config
  | descriptor
  deriving DecidableEq, Repr

/-- Why the options of a command are not read to the end. -/
inductive Stop where
  | help
  | rejected
  deriving DecidableEq, Repr

structure Options where
  config? : Option Path := none
  descriptor? : Option Int32 := none
  json : Bool := false
  deriving DecidableEq, Repr

/-- The file that settings are loaded from if no other is given. -/
def standardConfig : Path :=
  .ofText "/etc/tunsmith/tunsmith.toml"

def Options.config (options : Options) : Path :=
  options.config?.getD standardConfig

inductive Invocation where
  | setup (options : Options)
  | validate (config : Path)
  | defaults
  | version
  | help
  | rejected
  deriving DecidableEq, Repr

def Command.takes : Command → ValueOption → Bool
  | .setup, _ => true
  | .validate, .config => true
  | _, _ => false

def valueOption? (name : List Char) : Option ValueOption :=
  if name = "config".toList then some .config
  else if name = "fd".toList then some .descriptor
  else none

def spelledDescriptor? (cs : List Char) : Option Int32 := do
  let number ← Digits.ofSigned? cs
  if -0x80000000 ≤ number ∧ number < 0x80000000 then return Int32.ofInt number else none

def Options.give (options : Options) (option : ValueOption) (value : List Char) :
    Except Stop Options :=
  match option with
  | .config =>
    if options.config?.isSome ∨ value = [] then .error .rejected
    else .ok { options with config? := some (.ofText (String.ofList value)) }
  | .descriptor =>
    match options.descriptor?, spelledDescriptor? value with
    | none, some descriptor => .ok { options with descriptor? := some descriptor }
    | _, _ => .error .rejected

/-- How far the arguments of a command have been read. -/
structure Progress where
  options : Options := {}
  /-- The option whose value is the next argument. -/
  awaiting : Option ValueOption := none
  /-- Whether the mark that ends the options was read. -/
  ended : Bool := false
  deriving DecidableEq, Repr

/-- Whether an argument looks like an option, and so is nobody's value. -/
def looksLikeOption : List Char → Bool
  | '-' :: _ :: _ => true
  | _ => false

/-- Reads an option that may have its value in the same argument. -/
def Progress.option (progress : Progress) (command : Command) (option : ValueOption)
    (value? : Option (List Char)) : Except Stop Progress :=
  if command.takes option then
    match value? with
    | some value => do
      let options ← progress.options.give option value
      return { progress with options }
    | none => .ok { progress with awaiting := some option }
  else .error .rejected

def Progress.long (progress : Progress) (command : Command) (name : List Char)
    (value? : Option (List Char)) : Except Stop Progress :=
  match valueOption? name with
  | some option => progress.option command option value?
  | none =>
    if value?.isSome then .error .rejected
    else if name = "help".toList then .error .help
    else if name = "json".toList ∧ command = .setup ∧ ¬ progress.options.json then
      .ok { progress with options := { progress.options with json := true } }
    else .error .rejected

/-- The value behind the letter of an option: none, or what follows an optional equals sign. -/
def attached? : List Char → Option (List Char)
  | [] => none
  | '=' :: value => some value
  | value => some value

def Progress.read (command : Command) (progress : Progress) (argument : List Char) :
    Except Stop Progress :=
  match progress.awaiting with
  | some option =>
    if looksLikeOption argument then .error .rejected
    else do
      let options ← progress.options.give option argument
      return { progress with options, awaiting := none }
  | none =>
    if progress.ended then .error .rejected
    else
      match argument with
      | ['-', '-'] => .ok { progress with ended := true }
      | '-' :: '-' :: rest =>
        let name := rest.takeWhile (· ≠ '=')
        let value? := if rest.contains '=' then some (rest.drop (name.length + 1)) else none
        progress.long command name value?
      | '-' :: 'c' :: rest => progress.option command .config (attached? rest)
      | '-' :: 'h' :: _ => .error .help
      | _ => .error .rejected

def readOptions (command : Command) (arguments : List (List Char)) : Except Stop Options := do
  let progress ← arguments.foldlM (Progress.read command) {}
  if progress.awaiting.isSome then throw .rejected
  return progress.options

def command? (name : List Char) : Option Command :=
  if name = "setup".toList then some .setup
  else if name = "validate".toList then some .validate
  else if name = "defaults".toList then some .defaults
  else none

def Invocation.ofOptions (command : Command) : Except Stop Options → Invocation
  | .error .help => .help
  | .error .rejected => .rejected
  | .ok options =>
    match command with
    | .setup => .setup options
    | .validate => .validate options.config
    | .defaults => .defaults

/-- Whether help may be asked for about a topic. -/
def isTopic (name : List Char) : Bool :=
  name = "help".toList || (command? name).isSome

def Invocation.ofArguments (arguments : List String) : Invocation :=
  match arguments.map String.toList with
  | [] => .rejected
  | first :: rest =>
    match command? first with
    | some command => .ofOptions command (readOptions command rest)
    | none =>
      if first = "--help".toList then .help
      else if first = "--version".toList then .version
      else
        match first with
        | '-' :: 'h' :: _ => .help
        | '-' :: 'V' :: _ => .version
        | _ =>
          if first = "help".toList then
            match rest with
            | [] => .help
            | [topic] => if isTopic topic then .help else .rejected
            | _ => .rejected
          else .rejected

end TunnelProvisioning.CommandLine
