import TunnelProvisioning.Command.Arguments
import TunnelProvisioning.Interface.Binder
import TunnelProvisioning.Log.Filter
import TunnelProvisioning.Settings.Load
import TunnelProvisioning.WireOutcome

/-! # The command line tool

A run of the tool prints to its output, logs events, and ends with an exit status. Logging starts
only when the settings are loaded, since they say how much is logged; before that only the error
that ends a run is told.
-/

namespace TunnelProvisioning.CommandLine

variable {κ : Type}

/-- What a run leaves behind. -/
structure Run where
  status : Nat
  output : String
  events : List Event

/-- Lines of text, each with its line end. -/
def lines (texts : List String) : String :=
  String.join (texts.map (· ++ "\n"))

/-- The run that ends when logging starts and there is no filter for it. -/
def crash : Run :=
  ⟨101, "", []⟩

/-- The run that an error ends. The environment may set the filter of the log. -/
def failure (logSetting : Option String) (message : String) : Run :=
  match LogFilter.ofEnvironment? logSetting "info" with
  | none => crash
  | some filter => ⟨1, "", [Event.mk .error .command message].filter filter.passes⟩

/-- Provisions a tunnel as settings say: on a descriptor, or on the device node if there is none. -/
def provision (control : InterfaceControl κ) (files : FileSystem) (settings : Settings) :
    Option Int32 → Action (Host κ) ProvisionError Provisioned
  | some descriptor => setupTunnel control (some descriptor) settings.tunnelConfig
  | none => do
    Action.ofExcept settings.tunnelConfig.validate
    let binder : Binder κ := ⟨control, settings.tunnelConfig⟩
    return .bound (← binder.openAndBind files settings.tunnel.devicePath)

def needsPrivileges : Except ProvisionError Provisioned → Bool
  | .ok _ => false
  | .error fault => fault.requiresPrivileges

def privilegeHint : String :=
  lines ["", "Provisioning needs elevated privileges:",
    "  • Linux: run as root or grant CAP_NET_ADMIN",
    "  • Windows: run from an Administrator prompt"]

/-- How an outcome is told to a person. -/
def outcomeText (outcome : Except ProvisionError Provisioned) : String :=
  match WireOutcome.ofOutcome outcome with
  | .interface name descriptor =>
    lines [s!"✅ Interface {name} bound to fd {descriptor}"]
  | .handle raw => lines [s!"✅ TAP adapter is up (handle {raw})"]
  | .error text =>
    lines [s!"❌ {text}"] ++ (if needsPrivileges outcome then privilegeHint else "")

/-- How an outcome is told to a program. -/
def outcomeLine (outcome : Except ProvisionError Provisioned) : String :=
  lines [(WireOutcome.ofOutcome outcome).text]

def outcomeStatus : Except ProvisionError Provisioned → Nat
  | .ok _ => 0
  | .error _ => 1

/-- Provisions a tunnel with loaded settings and logs how that goes. -/
def setupAction (control : InterfaceControl κ) (files : FileSystem) (options : Options)
    (settings : Settings) : Action (Host κ) Empty (Except ProvisionError Provisioned) := do
  Action.log .info .command "Provisioning tunnel..."
  let outcome ← (provision control files settings options.descriptor?).attempt
  if options.descriptor?.isNone && outcome.toBool && !settings.tunnel.persist then
    Action.log .warn .command
      "Interface is removed when tunsmith exits; set tunnel.persist to keep it"
  return outcome

def setupFiltered (control : InterfaceControl κ) (files : FileSystem) (filter : LogFilter)
    (host : Host κ) (options : Options) (settings : Settings) : Run :=
  let report := (setupAction control files options settings).run host
  let events := report.events.filter filter.passes
  match report.outcome with
  | .ok outcome =>
    let output := if options.json then outcomeLine outcome else outcomeText outcome
    ⟨outcomeStatus outcome, output, events⟩

def setupWith (control : InterfaceControl κ) (files : FileSystem) (logSetting : Option String)
    (host : Host κ) (options : Options) (settings : Settings) : Run :=
  match LogFilter.ofEnvironment? logSetting settings.logging.level with
  | none => crash
  | some filter => setupFiltered control files filter host options settings

/-- The outcome of loading the settings for `setup`. -/
def loadedSettings (files : FileSystem) (config : Path) : Except SettingsError Settings :=
  ((Settings.loadOrStandard files config).run ()).outcome

def setup (control : InterfaceControl κ) (files : FileSystem) (logSetting : Option String)
    (host : Host κ) (options : Options) : Run :=
  match loadedSettings files options.config with
  | .error fault => failure logSetting fault.message
  | .ok settings => setupWith control files logSetting host options settings

/-- How valid settings are told to a person. -/
def settingsText (settings : Settings) : String :=
  lines ["✅ Configuration is valid", "", "Tunnel (Linux):",
    s!"   Interface:  {settings.tunnel.interfaceName}",
    s!"   Device:     {settings.tunnel.devicePath.text}",
    s!"   Persist:    {settings.tunnel.persist}", "", "TAP (Windows):",
    s!"   Component:  {settings.tap.componentId}",
    s!"   Strict:     {settings.tap.strictControl}", "", "Addressing:",
    s!"   Local:      {settings.addressing.localAddress}",
    s!"   Network:    {settings.addressing.network}/{settings.addressing.prefixLength}", ""]

def validate (files : FileSystem) (logSetting : Option String) (config : Path) : Run :=
  if files.isPresent config then
    match ((Settings.load files config).run ()).outcome with
    | .error fault => failure logSetting fault.message
    | .ok settings => ⟨0, settingsText settings, []⟩
  else
    ⟨0, lines [s!"⚠️  Config file not found: {config.text}", "   Default values will be used."], []⟩

def defaults (logSetting : Option String) : Run :=
  match Settings.standard.toDocument with
  | .error fault => failure logSetting fault.message
  | .ok document => ⟨0, document, []⟩

/-- A summary that stands in the place of the tool's help. The help itself, which is laid out at
greater length and for each command, is not kept here; nothing depends on the wording. -/
def usage : String :=
  lines ["Usage: tunsmith <COMMAND>", "", "Commands:",
    "  setup     Provision a tunnel [-c, --config <CONFIG>] [--fd <FD>] [--json]",
    "  validate  Check the settings [-c, --config <CONFIG>]",
    "  defaults  Print the default settings",
    "  help      Print this text"]

def versionLine : String :=
  lines ["tunsmith 0.1.0"]

def run (control : InterfaceControl κ) (files : FileSystem) (logSetting : Option String)
    (host : Host κ) (arguments : List String) : Run :=
  match Invocation.ofArguments arguments with
  | .setup options => setup control files logSetting host options
  | .validate config => validate files logSetting config
  | .defaults => defaults logSetting
  | .version => ⟨0, versionLine, []⟩
  | .help => ⟨0, usage, []⟩
  | .rejected => ⟨2, "", []⟩

end TunnelProvisioning.CommandLine
