import TunnelProvisioning.InvalidInput
import TunnelProvisioning.IoError

/-! # Settings errors

Settings fail to load, or they load and cannot be used. A document that does not fit the settings is
reported with the position of the value at fault, and on a further line with what is wrong with it.
The reports are abridged: the line of the document with a mark under the fault is left out, and of a
text that is no document it is only said that it is none, not where or why.
-/

namespace TunnelProvisioning

inductive LoadFault where
  /-- The file could not be read. -/
  | unreadable (error : IoError)
  /-- The text is no document. -/
  | malformed
  /-- A value of the document is not of the kind it should be. -/
  | misfit (line column : Nat) (detail : String)
  deriving DecidableEq, Repr

namespace LoadFault

/-- The first line of the text shown for a fault. -/
def headline : LoadFault → String
  | unreadable error => error.message
  | malformed => "TOML parse error"
  | misfit line column _ => s!"TOML parse error at line {line}, column {column}"

/-- The second line, if there is one. -/
def detail? : LoadFault → Option String
  | misfit _ _ detail => some detail
  | _ => none

/-- The text shown for a fault, without the line of the document that shows where it is. Of a text
that is no document only the first words are there. -/
def message (fault : LoadFault) : String :=
  match fault.detail? with
  | some detail => fault.headline ++ "\n" ++ detail
  | none => fault.headline

end LoadFault

inductive SettingsError where
  | load (path : String) (fault : LoadFault)
  /-- A setting cannot be used. -/
  | invalid (field reason : String)
  /-- Settings could not be written. -/
  | internal (reason : String)
  /-- The addressing cannot be used. -/
  | invalidInput (fault : InvalidInput)
  deriving DecidableEq, Repr

namespace SettingsError

/-- The text shown for an error, where `told` says how much of a fault to show. -/
def describe (told : LoadFault → String) : SettingsError → String
  | load path fault => s!"Failed to load configuration from '{path}': {told fault}"
  | invalid field reason => s!"Invalid configuration: {field} - {reason}"
  | internal reason => s!"Internal error: {reason}"
  | invalidInput fault => fault.message

def message (error : SettingsError) : String :=
  error.describe LoadFault.message

/-- The text shown for an error, without the detail of a misfit. -/
def headline (error : SettingsError) : String :=
  error.describe LoadFault.headline

def detail? : SettingsError → Option String
  | load _ fault => fault.detail?
  | _ => none

def isConfigError : SettingsError → Bool
  | internal _ => false
  | _ => true

end SettingsError

end TunnelProvisioning
