import TunnelProvisioning.Action
import TunnelProvisioning.FileSystem.Basic
import TunnelProvisioning.Settings.Document

/-! # Loading settings

Settings are loaded from a file. Where no file is found the defaults may take its place, but a file
that is found and cannot be used is always an error.
-/

namespace TunnelProvisioning.Settings

variable {σ : Type}

def ofFile (files : FileSystem) (path : Path) : Except SettingsError Settings := do
  let text ← (files.readText path).mapError fun fault => .load path.text (.unreadable fault)
  ofDocument path.text text

def load (files : FileSystem) (path : Path) : Action σ SettingsError Settings := do
  Action.log .info .settings s!"Loading configuration from: {path.text}"
  let settings ← Action.ofExcept (ofFile files path)
  Action.log .info .settings "Configuration loaded successfully"
  return settings

/-- Loads settings from a file if there is one, and takes the defaults otherwise. -/
def loadOrStandard (files : FileSystem) (path : Path) : Action σ SettingsError Settings := do
  if files.isPresent path then load files path
  else
    Action.log .info .settings s!"Config file {path.text} not found, using defaults"
    return standard

end TunnelProvisioning.Settings
