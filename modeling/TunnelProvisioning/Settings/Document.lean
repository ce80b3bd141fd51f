import TunnelProvisioning.Binary64.Text
import TunnelProvisioning.Settings.Basic
import TunnelProvisioning.Text.Quoted
import TunnelProvisioning.Toml.Reader
import TunnelProvisioning.Toml.Writer

/-! # Settings as documents

Settings are read from a document by going through its tables in order: each known key changes one
setting, and unknown keys change nothing. The first value that is of the wrong kind is reported. A
section may also be given as an array of its settings in order.
-/

namespace TunnelProvisioning

open Toml

/-- A value of the wrong kind: its place in the document and what is wrong. -/
structure Misfit where
  place : Nat
  detail : String
  deriving DecidableEq, Repr

/-- What a value is called where another kind was expected. -/
def Toml.Node.kindText : Node → String
  | .scalar _ (.text content) => "string " ++ Quoted.encode content
  | .scalar _ (.integer number) => s!"integer `{number}`"
  | .scalar _ (.real number) => s!"floating point `{number.plain}`"
  | .scalar _ (.boolean truth) => s!"boolean `{truth}`"
  | .scalar _ .moment => "map"
  | .array _ _ => "sequence"
  | .table _ _ _ => "map"
  | .tables _ => "sequence"

/-- The place of a value; an array of tables starts with its first table. -/
def Toml.Node.place? : Node → Option Nat
  | .scalar place _ => some place
  | .array place _ => some place
  | .table _ place _ => place
  | .tables (.table _ place _ :: _) => place
  | .tables _ => none

/-- One setting of a section: its key and how a value at a place changes the section. -/
structure Setting (α : Type) where
  name : String
  assign : Nat → Node → α → Except Misfit α

namespace Setting

variable {α : Type}

/-- The report of a value of the wrong kind. -/
def refuse (place : Nat) (node : Node) (expected : String) : Misfit :=
  ⟨place, s!"invalid type: {node.kindText}, expected {expected}"⟩

def ofText (name expected : String) (assign : String → α → α) : Setting α where
  name
  assign place node current :=
    match node with
    | .scalar _ (.text content) => .ok (assign content current)
    | node => .error (refuse place node expected)

def ofBoolean (name : String) (assign : Bool → α → α) : Setting α where
  name
  assign place node current :=
    match node with
    | .scalar _ (.boolean truth) => .ok (assign truth current)
    | node => .error (refuse place node "a boolean")

def ofAddress (name : String) (assign : Ipv4 → α → α) : Setting α where
  name
  assign place node current :=
    match node with
    | .scalar _ (.text content) =>
      match Ipv4.ofText? content with
      | some address => .ok (assign address current)
      | none => .error ⟨place, "invalid IPv4 address syntax"⟩
    | node => .error (refuse place node "IPv4 address")

/-- Gives a setting of a list its value; a key that is none of them changes nothing. -/
def assignKey (settings : List (Setting α)) (current : α) (member : Key × Node) :
    Except Misfit α :=
  match settings.find? (·.name = member.1.name) with
  | some setting => setting.assign (member.2.place?.getD member.1.place) member.2 current
  | none => .ok current

/-- Gives the settings of a list the values of another list, in order. -/
def assignItems (settings : List (Setting α)) (place : Nat) (current : α) (items : List Node) :
    Except Misfit α :=
  (settings.zip items).foldlM
    (fun current (setting, node) => setting.assign (node.place?.getD place) node current) current

/-- A section that consists of settings. A moment counts as a table without known keys. -/
def ofSection {β : Type} (name expected : String) (settings : List (Setting β)) (start : β)
    (assign : β → α → α) : Setting α where
  name
  assign place node current :=
    match node with
    | .table _ _ members => do
      return assign (← members.foldlM (assignKey settings) start) current
    | .array _ items => do return assign (← assignItems settings place start items) current
    | .tables elements => do return assign (← assignItems settings place start elements) current
    | .scalar _ .moment => .ok (assign start current)
    | node => .error (refuse place node expected)

end Setting

def TunnelSection.settings : List (Setting TunnelSection) :=
  [.ofText "interface_name" "a string" fun text tunnel => { tunnel with interfaceName := text },
    .ofText "device_path" "path string" fun text tunnel =>
      { tunnel with devicePath := .ofText text },
    .ofBoolean "persist" fun truth tunnel => { tunnel with persist := truth }]

def TapSection.settings : List (Setting TapSection) :=
  [.ofText "component_id" "a string" fun text tap => { tap with componentId := text },
    .ofBoolean "strict_control" fun truth tap => { tap with strictControl := truth }]

def LoggingSection.settings : List (Setting LoggingSection) :=
  [.ofText "level" "a string" fun text logging => { logging with level := text }]

/-- The addresses that an addressing section gives. -/
structure GivenAddresses where
  localAddress : Option Ipv4 := none
  network : Option Ipv4 := none
  netmask : Option Ipv4 := none
  deriving DecidableEq, Repr

def GivenAddresses.addressing (given : GivenAddresses) : Addressing :=
  .ofFields given.localAddress given.network given.netmask

def GivenAddresses.settings : List (Setting GivenAddresses) :=
  [.ofAddress "local_address" fun address given => { given with localAddress := some address },
    .ofAddress "network" fun address given => { given with network := some address },
    .ofAddress "netmask" fun address given => { given with netmask := some address }]

namespace Settings

def sections : List (Setting Settings) :=
  [.ofSection "tunnel" "struct TunnelSection" TunnelSection.settings {}
      fun tunnel settings => { settings with tunnel },
    .ofSection "tap" "struct TapSection" TapSection.settings {}
      fun tap settings => { settings with tap },
    .ofSection "addressing" "struct AddressingFields" GivenAddresses.settings {}
      fun given settings => { settings with addressing := given.addressing },
    .ofSection "logging" "struct LoggingSection" LoggingSection.settings {}
      fun logging settings => { settings with logging }]

/-- The settings that the tables of a document give. -/
def ofMembers (members : Members) : Except Misfit Settings :=
  members.foldlM (Setting.assignKey sections) standard

/-- The settings that a text holds, whether or not they can be used. -/
def read (text : String) : Except LoadFault Settings :=
  match parse? text with
  | none => .error .malformed
  | some members =>
    match ofMembers members with
    | .ok settings => .ok settings
    | .error misfit =>
      let (line, column) := position text misfit.place
      .error (.misfit line column misfit.detail)

/-- The settings that a text from some source holds. -/
def ofDocument (source text : String) : Except SettingsError Settings := do
  let settings ← (read text).mapError (.load source)
  settings.validate
  return settings

def parse (text : String) : Except SettingsError Settings :=
  ofDocument "<string>" text

def assignment (name : String) (value : List Char) : List Char :=
  name.toList ++ " = ".toList ++ value ++ ['\n']

def textAssignment (name text : String) : List Char :=
  assignment name (writeString text)

def heading (name : String) : List Char :=
  '[' :: (name.toList ++ [']', '\n'])

/-- The document of settings whose device path is the given text. -/
def document (settings : Settings) (devicePath : String) : List Char :=
  heading "tunnel" ++
    textAssignment "interface_name" settings.tunnel.interfaceName ++
    textAssignment "device_path" devicePath ++
    assignment "persist" (writeBoolean settings.tunnel.persist) ++
  ['\n'] ++ heading "tap" ++
    textAssignment "component_id" settings.tap.componentId ++
    assignment "strict_control" (writeBoolean settings.tap.strictControl) ++
  ['\n'] ++ heading "addressing" ++
    textAssignment "local_address" settings.addressing.localAddress.text ++
    textAssignment "network" settings.addressing.network.text ++
    textAssignment "netmask" settings.addressing.netmask.text ++
  ['\n'] ++ heading "logging" ++
    textAssignment "level" settings.logging.level

/-- Writes settings as a document. Only a device path that is no text cannot be written. -/
def toDocument (settings : Settings) : Except SettingsError String :=
  match settings.tunnel.devicePath.text? with
  | some devicePath => .ok (String.ofList (settings.document devicePath))
  | none => .error (.internal "path contains invalid UTF-8 characters")

end Settings

end TunnelProvisioning
