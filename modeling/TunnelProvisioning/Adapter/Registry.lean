import TunnelProvisioning.Action
import TunnelProvisioning.IoError

/-! # The registry of adapters

Installed adapters are listed in a registry: a tree of keys that hold texts under value names. A
registry is looked at, never changed, so it is a function from paths to answers. What changes is the
ledger of the keys that were opened, each of which has to be closed again.
-/

namespace TunnelProvisioning

/-- The answers of a registry. A system hands out its keys as handles and tells the names below a key
by index, one at a time. Here a key is named by its whole path, which a handle stands for as long as
nothing changes, and the names below it come as a list. -/
structure Registry where
  /-- Whether a key can be opened. -/
  openKey : String → Except IoError Unit
  /-- The names of the keys right below a key, in listing order. -/
  subkeys : String → List String
  /-- The text under a value name of a key. -/
  readText : String → String → Except IoError String

/-- How many keys were opened and how many were closed, with the paths of those opened, in order. -/
structure KeyLedger where
  opened : Nat := 0
  closed : Nat := 0
  paths : List String := []
  deriving DecidableEq, Repr

namespace KeyLedger

def held (ledger : KeyLedger) : Nat :=
  ledger.opened - ledger.closed

def record (ledger : KeyLedger) (path : String) : KeyLedger :=
  { ledger with opened := ledger.opened + 1, paths := ledger.paths ++ [path] }

def close (ledger : KeyLedger) : KeyLedger :=
  { ledger with closed := ledger.closed + 1 }

end KeyLedger

namespace Registry

variable {ε α : Type}

/-- The key below which network adapters are listed. -/
def adapterClass : String :=
  "SYSTEM\\CurrentControlSet\\Control\\Class\\\x7b4D36E972-E325-11CE-BFC1-08002BE10318\x7d"

/-- The key below which network connections are listed. -/
def networkConnections : String :=
  "SYSTEM\\CurrentControlSet\\Control\\Network\\\x7b4D36E972-E325-11CE-BFC1-08002BE10318\x7d"

def componentIdValue : String := "ComponentId"

def instanceIdValue : String := "NetCfgInstanceId"

def connectionNameValue : String := "Name"

def subkey (path name : String) : String :=
  path ++ "\\" ++ name

/-- The path of the key that describes the connection of an adapter. -/
def connectionKey (instanceId : String) : String :=
  subkey (subkey networkConnections instanceId) "Connection"

/-- Opens a key, if the registry lets it. -/
def openOn (registry : Registry) (path : String) (ledger : KeyLedger) :
    Except IoError Unit × KeyLedger :=
  match registry.openKey path with
  | .ok () => (.ok (), ledger.record path)
  | .error fault => (.error fault, ledger)

/-- Runs an action while a key is open, or answers why it cannot be opened. -/
def withKey (registry : Registry) (path : String) (use : Action KeyLedger ε α) :
    Action KeyLedger ε (Except IoError α) := do
  match ← Action.operate (registry.openOn path) with
  | .ok () => return .ok (← use.ensuring KeyLedger.close)
  | .error fault => return .error fault

end Registry

end TunnelProvisioning
