import TunnelProvisioning.FileSystem.Path
import TunnelProvisioning.Settings.Error
import TunnelProvisioning.TunnelConfig

/-! # Settings

What an operator configures: the settings of a tunnel, the device node to open for it, and how much
is logged. Every setting has a default, so settings may be given in part or not at all.
-/

namespace TunnelProvisioning

/-- Settings for kernels that attach an interface to a descriptor. -/
structure TunnelSection where
  interfaceName : String := "tun"
  /-- The device node that is opened if no descriptor is passed. -/
  devicePath : Path := .ofText "/dev/net/tun"
  persist : Bool := false
  deriving DecidableEq, Repr

/-- Settings for virtual adapters. -/
structure TapSection where
  componentId : String := "tap0901"
  strictControl : Bool := false
  deriving DecidableEq, Repr

structure LoggingSection where
  level : String := "info"
  deriving DecidableEq, Repr

structure Settings where
  tunnel : TunnelSection := {}
  tap : TapSection := {}
  addressing : Addressing := .standard
  logging : LoggingSection := {}
  deriving DecidableEq, Repr

/-- Accepts an interface name that fits into a request, and a path that is not empty. -/
def TunnelSection.validate (tunnel : TunnelSection) : Except SettingsError Unit :=
  if tunnel.interfaceName = "" then .error (.invalid "tunnel.interface_name" "cannot be empty")
  else if 15 < Utf8.size tunnel.interfaceName then
    .error (.invalid "tunnel.interface_name" "cannot exceed 15 bytes")
  else if tunnel.devicePath.isEmpty then
    .error (.invalid "tunnel.device_path" "cannot be empty")
  else .ok ()

def TapSection.validate (tap : TapSection) : Except SettingsError Unit :=
  if tap.componentId = "" then .error (.invalid "tap.component_id" "cannot be empty") else .ok ()

def LoggingSection.levels : List String :=
  ["trace", "debug", "info", "warn", "error"]

def LoggingSection.validate (logging : LoggingSection) : Except SettingsError Unit :=
  if levels.contains logging.level then .ok ()
  else
    .error (.invalid "logging.level" ("must be one of " ++ String.intercalate ", " levels))

namespace Settings

/-- The settings used where nothing is configured. -/
def standard : Settings := {}

/-- Accepts settings that can be used; the sections are looked at in order. -/
def validate (settings : Settings) : Except SettingsError Unit := do
  settings.tunnel.validate
  settings.tap.validate
  settings.addressing.validate.mapError .invalidInput
  settings.logging.validate

/-- The configuration of the tunnel that settings describe. -/
def tunnelConfig (settings : Settings) : TunnelConfig where
  interfaceName := settings.tunnel.interfaceName
  persist := settings.tunnel.persist
  componentId := settings.tap.componentId
  strictControl := settings.tap.strictControl
  addressing := settings.addressing

end Settings

end TunnelProvisioning
