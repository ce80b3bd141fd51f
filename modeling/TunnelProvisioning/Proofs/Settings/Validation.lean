import TunnelProvisioning.Settings.Load

/-! # Settings and the configurations they describe

Settings and the configuration of the tunnel that they describe are checked apart from one another,
in different orders and with errors of their own. Settings pass exactly if the configuration does
and what only the settings hold can be used as well, and what is wrong with the configuration is
found in the settings under the name that it has there.
-/

namespace TunnelProvisioning

/-- The names that the same fault has in a configuration and in settings. -/
inductive SameFault : ProvisionError → SettingsError → Prop where
  | interfaceName (reason reason' : String) :
      SameFault (.invalidSetting "interface_name" reason) (.invalid "tunnel.interface_name" reason')
  | componentId (reason reason' : String) :
      SameFault (.invalidSetting "component_id" reason) (.invalid "tap.component_id" reason')
  | addressing (fault : InvalidInput) : SameFault (.invalidInput fault) (.invalidInput fault)

theorem mapError_eq_ok_iff {ε ε' α : Type} {rename : ε → ε'} {result : Except ε α} {value : α} :
    result.mapError rename = .ok value ↔ result = .ok value := by
  cases result with
  | ok found =>
    constructor
    · intro given
      rw [Except.ok.inj given]
    · intro given
      rw [given]
      rfl
  | error fault =>
    constructor
    · intro given
      change Except.error (rename fault) = .ok value at given
      cases given
    · intro given
      cases given

/-- A configuration is checked for its name, its component id and its addressing, in this order. -/
theorem TunnelConfig.validate_eq (config : TunnelConfig) :
    config.validate =
      match config.validateInterfaceName with
      | .error fault => .error fault
      | .ok () =>
        if config.componentId = "" then
          .error (.invalidSetting "component_id" "component id cannot be empty")
        else config.addressing.validate.mapError .invalidInput := by
  rw [TunnelConfig.validate]
  cases config.validateInterfaceName with
  | error fault => rfl
  | ok =>
    by_cases empty : config.componentId = ""
    · simp only [empty, reduceIte]
      rfl
    · simp only [empty, reduceIte]
      rfl

theorem TunnelConfig.validate_eq_ok_iff {config : TunnelConfig} :
    config.validate = .ok () ↔
      config.validateInterfaceName = .ok () ∧ config.componentId ≠ "" ∧
        config.addressing.validate = .ok () := by
  rw [validate_eq]
  cases config.validateInterfaceName with
  | error fault => simp
  | ok =>
    by_cases empty : config.componentId = ""
    · simp [empty]
    · simp [empty, mapError_eq_ok_iff]

theorem TunnelSection.validate_of_empty {tunnel : TunnelSection}
    (empty : tunnel.interfaceName = "") :
    tunnel.validate = .error (.invalid "tunnel.interface_name" "cannot be empty") := by
  rw [validate, if_pos empty]

theorem TunnelSection.validate_of_long {tunnel : TunnelSection}
    (nonempty : tunnel.interfaceName ≠ "") (long : 15 < Utf8.size tunnel.interfaceName) :
    tunnel.validate = .error (.invalid "tunnel.interface_name" "cannot exceed 15 bytes") := by
  rw [validate, if_neg nonempty, if_pos long]

theorem TunnelSection.validate_eq_ok_iff {tunnel : TunnelSection} :
    tunnel.validate = .ok () ↔
      tunnel.interfaceName ≠ "" ∧ Utf8.size tunnel.interfaceName ≤ 15 ∧
        tunnel.devicePath.isEmpty = false := by
  by_cases empty : tunnel.interfaceName = ""
  · simp [validate_of_empty empty, empty]
  by_cases long : 15 < Utf8.size tunnel.interfaceName
  · have beyond := Nat.not_le.mpr long
    simp [validate_of_long empty long, beyond]
  have short := Nat.not_lt.mp long
  rw [validate, if_neg empty, if_neg long]
  cases tunnel.devicePath.isEmpty <;> simp [empty, short]

theorem TapSection.validate_eq_ok_iff {tap : TapSection} :
    tap.validate = .ok () ↔ tap.componentId ≠ "" := by
  by_cases empty : tap.componentId = "" <;> simp [validate, empty]

theorem LoggingSection.validate_eq_ok_iff {logging : LoggingSection} :
    logging.validate = .ok () ↔ logging.level ∈ ["trace", "debug", "info", "warn", "error"] := by
  rw [validate, levels]
  by_cases known : logging.level ∈ ["trace", "debug", "info", "warn", "error"]
  · simp [known]
  · simp [known]

namespace Settings

/-- The sections of settings are checked one after the other. -/
theorem validate_eq (settings : Settings) :
    settings.validate =
      match settings.tunnel.validate with
      | .error error => .error error
      | .ok () =>
        match settings.tap.validate with
        | .error error => .error error
        | .ok () =>
          match settings.addressing.validate with
          | .error fault => .error (.invalidInput fault)
          | .ok () => settings.logging.validate := by
  rw [Settings.validate]
  cases settings.tunnel.validate with
  | error error => rfl
  | ok =>
    cases settings.tap.validate with
    | error error => rfl
    | ok => cases settings.addressing.validate <;> rfl

/-- What is wrong with settings is a field of theirs or the addressing. -/
theorem validate_eq_error_cases {settings : Settings} {error : SettingsError}
    (refused : settings.validate = .error error) :
    (∃ field reason, error = .invalid field reason) ∨ ∃ fault, error = .invalidInput fault := by
  have tunnel : ∀ error, settings.tunnel.validate = .error error →
      ∃ field reason, error = .invalid field reason := by
    intro error refused
    rw [TunnelSection.validate] at refused
    split at refused
    · exact ⟨_, _, (Except.error.inj refused).symm⟩
    split at refused
    · exact ⟨_, _, (Except.error.inj refused).symm⟩
    split at refused
    · exact ⟨_, _, (Except.error.inj refused).symm⟩
    · cases refused
  have tap : ∀ error, settings.tap.validate = .error error →
      ∃ field reason, error = .invalid field reason := by
    intro error refused
    rw [TapSection.validate] at refused
    split at refused
    · exact ⟨_, _, (Except.error.inj refused).symm⟩
    · cases refused
  have logging : ∀ error, settings.logging.validate = .error error →
      ∃ field reason, error = .invalid field reason := by
    intro error refused
    rw [LoggingSection.validate] at refused
    split at refused
    · cases refused
    · exact ⟨_, _, (Except.error.inj refused).symm⟩
  rw [validate_eq] at refused
  split at refused
  · next own => exact .inl (tunnel _ (own.trans refused))
  split at refused
  · next own => exact .inl (tap _ (own.trans refused))
  split at refused
  · next fault own => exact .inr ⟨fault, (Except.error.inj refused).symm⟩
  · exact .inl (logging _ refused)

/-- Settings can be used if each section can. -/
theorem validate_eq_ok_iff_sections {settings : Settings} :
    settings.validate = .ok () ↔
      settings.tunnel.validate = .ok () ∧ settings.tap.validate = .ok () ∧
        settings.addressing.validate = .ok () ∧ settings.logging.validate = .ok () := by
  rw [validate_eq]
  cases settings.tunnel.validate with
  | error error => simp
  | ok =>
    cases settings.tap.validate with
    | error error => simp
    | ok => cases settings.addressing.validate <;> simp

/-- Settings can be used exactly if the configuration that they describe can be, a device path is
given, and the level is one of the five. -/
theorem validate_eq_ok_iff {settings : Settings} :
    settings.validate = .ok () ↔
      settings.tunnelConfig.validate = .ok () ∧ settings.tunnel.devicePath.isEmpty = false ∧
        settings.logging.level ∈ ["trace", "debug", "info", "warn", "error"] := by
  rw [validate_eq_ok_iff_sections, TunnelSection.validate_eq_ok_iff,
    TapSection.validate_eq_ok_iff, LoggingSection.validate_eq_ok_iff,
    TunnelConfig.validate_eq_ok_iff, TunnelConfig.validateInterfaceName_eq_ok_iff]
  constructor
  · rintro ⟨⟨nonempty, short, path⟩, id, addressing, level⟩
    exact ⟨⟨⟨nonempty, short⟩, id, addressing⟩, path, level⟩
  · rintro ⟨⟨⟨nonempty, short⟩, id, addressing⟩, path, level⟩
    exact ⟨⟨nonempty, short, path⟩, id, addressing, level⟩

/-- What is wrong with the configuration is what is wrong with the settings, if they have a device
path. The cases are the checks of the configuration, in their order. -/
theorem exists_sameFault {settings : Settings} {fault : ProvisionError}
    (path : settings.tunnel.devicePath.isEmpty = false)
    (refused : settings.tunnelConfig.validate = .error fault) :
    ∃ error, settings.validate = .error error ∧ SameFault fault error := by
  rw [TunnelConfig.validate_eq] at refused
  rw [validate_eq]
  by_cases empty : settings.tunnelConfig.interfaceName = ""
  · rw [TunnelConfig.validateInterfaceName_of_empty empty] at refused
    obtain rfl := Except.error.inj refused
    rw [TunnelSection.validate_of_empty empty]
    exact ⟨_, rfl, .interfaceName _ _⟩
  by_cases long : 15 < Utf8.size settings.tunnelConfig.interfaceName
  · rw [TunnelConfig.validateInterfaceName_of_long empty long] at refused
    obtain rfl := Except.error.inj refused
    rw [TunnelSection.validate_of_long empty long]
    exact ⟨_, rfl, .interfaceName _ _⟩
  have short := Nat.not_lt.mp long
  have named : settings.tunnelConfig.validateInterfaceName = .ok () :=
    TunnelConfig.validateInterfaceName_eq_ok_iff.mpr ⟨empty, short⟩
  have tunnel : settings.tunnel.validate = .ok () :=
    TunnelSection.validate_eq_ok_iff.mpr ⟨empty, short, path⟩
  rw [named] at refused
  rw [tunnel]
  by_cases missing : settings.tap.componentId = ""
  · have unnamed : settings.tunnelConfig.componentId = "" := missing
    dsimp only at refused ⊢
    rw [if_pos unnamed] at refused
    obtain rfl := Except.error.inj refused
    rw [TapSection.validate, if_pos missing]
    exact ⟨_, rfl, .componentId _ _⟩
  · have identified : settings.tunnelConfig.componentId ≠ "" := missing
    dsimp only at refused ⊢
    rw [if_neg identified] at refused
    rw [TapSection.validate_eq_ok_iff.mpr missing]
    change settings.addressing.validate.mapError .invalidInput = .error fault at refused
    cases addressing : settings.addressing.validate with
    | ok =>
      rw [mapError_eq_ok_iff.mpr addressing] at refused
      cases refused
    | error input =>
      rw [addressing] at refused
      obtain rfl := Except.error.inj refused
      exact ⟨_, rfl, .addressing input⟩

/-! ## Settings that are handed out -/

section

variable {σ : Type} {files : FileSystem} {path : Path} {settings : Settings} {state : σ}

/-- A text that is no document for settings is blamed on its source. -/
theorem ofDocument_of_error {source text : String} {fault : LoadFault}
    (given : read text = .error fault) : ofDocument source text = .error (.load source fault) := by
  rw [ofDocument, given]
  rfl

/-- Settings that are read are checked. -/
theorem ofDocument_of_ok {source text : String}
    (given : read text = .ok settings) :
    ofDocument source text = settings.validate.map fun _ => settings := by
  rw [ofDocument, given]
  change (settings.validate.bind fun _ => .ok settings) = settings.validate.map fun _ => settings
  cases settings.validate <;> rfl

/-- Settings come out of a document only if they can be used. -/
theorem validate_of_ofDocument {source text : String}
    (given : ofDocument source text = .ok settings) : settings.validate = .ok () := by
  cases document : read text with
  | error fault =>
    rw [ofDocument_of_error document] at given
    cases given
  | ok found =>
    rw [ofDocument_of_ok document] at given
    cases usable : found.validate with
    | error error =>
      rw [usable] at given
      cases given
    | ok =>
      rw [usable] at given
      obtain rfl := Except.ok.inj given
      exact usable

theorem validate_of_ofFile (given : ofFile files path = .ok settings) :
    settings.validate = .ok () := by
  rw [ofFile] at given
  cases content : files.readText path with
  | error fault =>
    rw [content] at given
    cases given
  | ok text =>
    rw [content] at given
    exact validate_of_ofDocument given

/-- To load settings is to take them from a file, apart from what is logged. -/
theorem outcome_load : ((load files path).run state).outcome = ofFile files path := by
  rw [load, Action.outcome_bind, Action.run_log]
  change ((Action.ofExcept (ofFile files path) >>= _).run state).outcome = _
  rw [Action.outcome_bind, Action.run_ofExcept]
  cases ofFile files path <;> rfl

theorem validate_standard : standard.validate = .ok () := by
  rfl

theorem outcome_loadOrStandard :
    ((loadOrStandard files path).run state).outcome =
      if files.isPresent path then ofFile files path else .ok standard := by
  rw [loadOrStandard]
  split
  · exact outcome_load
  · rfl

theorem validate_of_loadOrStandard
    (given : ((loadOrStandard files path).run state).outcome = .ok settings) :
    settings.validate = .ok () := by
  rw [outcome_loadOrStandard] at given
  split at given
  · exact validate_of_ofFile given
  · obtain rfl := Except.ok.inj given
    exact validate_standard

end

/-- Settings and the configuration that they describe are checked alike: settings can be used
exactly if the configuration can, a device path is given and the level is known; what is wrong with
the configuration is reported for the settings too, if they have a device path; and the
configuration of settings that were read or loaded is always accepted. -/
theorem validate_agrees {σ : Type} (settings : Settings) (state : σ) :
    (settings.validate = .ok () ↔
      settings.tunnelConfig.validate = .ok () ∧ settings.tunnel.devicePath.isEmpty = false ∧
        settings.logging.level ∈ ["trace", "debug", "info", "warn", "error"]) ∧
    (∀ fault, settings.tunnel.devicePath.isEmpty = false →
      settings.tunnelConfig.validate = .error fault →
        ∃ error, settings.validate = .error error ∧ SameFault fault error) ∧
    (∀ text, parse text = .ok settings → settings.tunnelConfig.validate = .ok ()) ∧
    (∀ files path, ((load files path).run state).outcome = .ok settings →
      settings.tunnelConfig.validate = .ok ()) ∧
    (∀ files path, ((loadOrStandard files path).run state).outcome = .ok settings →
      settings.tunnelConfig.validate = .ok ()) := by
  have described (usable : settings.validate = .ok ()) :
      settings.tunnelConfig.validate = .ok () := (validate_eq_ok_iff.mp usable).1
  refine ⟨validate_eq_ok_iff, fun fault => exists_sameFault, ?_, ?_, ?_⟩
  · intro text given
    exact described (validate_of_ofDocument given)
  · intro files path given
    rw [outcome_load] at given
    exact described (validate_of_ofFile given)
  · intro files path given
    exact described (validate_of_loadOrStandard given)

/-- Of two faults both checks find the same one, although a third is only in the settings. -/
theorem validate_agrees_faulty :
    let settings : Settings :=
      { tunnel := { interfaceName := "sixteen-octets-!" }, tap := { componentId := "" },
        logging := { level := "loud" } }
    ∃ error, settings.validate = .error error ∧
      SameFault (.invalidSetting "interface_name" "interface name cannot exceed 15 characters")
        error := by
  intro settings
  have nonempty : settings.tunnelConfig.interfaceName ≠ "" := by decide
  have long : 15 < Utf8.size settings.tunnelConfig.interfaceName := by decide
  have path : settings.tunnel.devicePath.isEmpty = false := by decide
  apply (validate_agrees settings ()).2.1 _ path
  rw [TunnelConfig.validate_eq, TunnelConfig.validateInterfaceName_of_long nonempty long]

end Settings

end TunnelProvisioning
