import TunnelProvisioning.Command.Run
import TunnelProvisioning.Proofs.Interface.Setup

/-! # Two commands and one configuration

`validate` and `setup` look for the configuration each in its own way, and then agree on it: one
accepts it exactly if the other gets past loading it, and if it cannot be loaded both end alike. The
configuration that was accepted is checked again for the tunnel, and this check never fails.

A run that fails sets up the log in order to tell why. Where the environment sets a filter that
splits a character, this does not succeed, and both commands end without telling anything.
-/

namespace TunnelProvisioning

variable {κ : Type}

/-- Opening a device node and binding it under an accepted name blames no configuration. -/
theorem Binder.blamesConfig_openAndBind {config : TunnelConfig}
    (accepted : config.validateInterfaceName = .ok ()) (control : InterfaceControl κ)
    (files : FileSystem) (path : Path) (host : Host κ) :
    blamesConfig (((openAndBind ⟨control, config⟩ files path).run host).outcome.map .bound) =
      false := by
  rw [run_openAndBind, run_openOwned]
  rcases openNode files path host with ⟨fault | descriptor, after⟩
  · rfl
  · dsimp only
    rcases outcome_bind_cases accepted control descriptor after with ⟨name, bound⟩ | ⟨code, rejected⟩
    · rw [bound]
      rfl
    · rw [rejected]
      rfl

namespace CommandLine

/-- Without a descriptor, accepted settings are provisioned on their device node. -/
theorem outcome_provision_none {settings : Settings}
    (accepted : settings.tunnelConfig.validate = .ok ()) (control : InterfaceControl κ)
    (files : FileSystem) (host : Host κ) :
    let binder : Binder κ := ⟨control, settings.tunnelConfig⟩
    ((provision control files settings none).run host).outcome =
      ((binder.openAndBind files settings.tunnel.devicePath).run host).outcome.map .bound := by
  intro binder
  rw [provision, accepted, Action.run_bind_of_ok (Action.run_ofExcept _ host)]
  exact congrArg Report.outcome (Action.run_map _ _ host)

/-- Provisioning from settings that can be used does not blame them. -/
theorem blamesConfig_provision {settings : Settings} (usable : settings.validate = .ok ())
    (control : InterfaceControl κ) (files : FileSystem) (descriptor? : Option Int32)
    (host : Host κ) :
    blamesConfig ((provision control files settings descriptor?).run host).outcome = false := by
  have accepted := (Settings.validate_eq_ok_iff.mp usable).1
  cases descriptor? with
  | some descriptor => exact (settled_setupTunnel accepted control _ host).blamesConfig_eq_false
  | none =>
    have named := (TunnelConfig.validate_eq_ok_iff.mp accepted).1
    rw [outcome_provision_none accepted]
    exact Binder.blamesConfig_openAndBind named control files _ host

/-- The outcome that `setup` tells is that of provisioning, whatever is logged around it. -/
theorem outcome_setupAction (control : InterfaceControl κ) (files : FileSystem) (options : Options)
    (settings : Settings) (host : Host κ) :
    ((setupAction control files options settings).run host).outcome =
      .ok ((provision control files settings options.descriptor?).run host).outcome := by
  rw [setupAction, Action.run_bind_of_ok (Action.run_log _ _ _ host),
    Action.run_bind_of_ok (Action.run_attempt _ host)]
  dsimp only
  split
  · rfl
  · rfl

theorem status_failure_ne_zero (logSetting : Option String) (message : String) :
    (failure logSetting message).status ≠ 0 := by
  rw [failure]
  split
  · exact Nat.succ_ne_zero 100
  · exact Nat.succ_ne_zero 0

/-- If `setup` cannot load the configuration, `validate` fails for the same reason. -/
theorem validate_of_error {files : FileSystem} {config : Path} {fault : SettingsError}
    (failed : loadedSettings files config = .error fault) (logSetting : Option String) :
    validate files logSetting config = failure logSetting fault.message := by
  rw [loadedSettings, Settings.outcome_loadOrStandard] at failed
  split at failed
  · next present => rw [validate, if_pos present, Settings.outcome_load, failed]
  · cases failed

/-- If `setup` gets past loading the configuration, `validate` succeeds. -/
theorem status_validate_of_ok {files : FileSystem} {config : Path} {settings : Settings}
    (loaded : loadedSettings files config = .ok settings) (logSetting : Option String) :
    (validate files logSetting config).status = 0 := by
  rw [loadedSettings, Settings.outcome_loadOrStandard] at loaded
  rw [validate]
  split at loaded
  · next present => rw [if_pos present, Settings.outcome_load, loaded]
  · next absent => rw [if_neg absent]

/-- `validate` succeeds exactly if `setup` gets past loading the configuration, and what `setup` then
does never blames the configuration. If it cannot be loaded, both commands end in the same way: with
status 1, no output and the error, as far as the filter lets it through, or as a run without a filter
ends. -/
theorem validate_setup (control : InterfaceControl κ) (files : FileSystem)
    (logSetting : Option String) (host : Host κ) (options : Options) :
    let checked := validate files logSetting options.config
    let done := setup control files logSetting host options
    (checked.status = 0 ↔ ∃ settings, loadedSettings files options.config = .ok settings) ∧
    match loadedSettings files options.config with
    | .error fault =>
      checked = done ∧
      match LogFilter.ofEnvironment? logSetting "info" with
      | some filter =>
        done = ⟨1, "", [⟨.error, .command, fault.message⟩].filter filter.passes⟩
      | none => done = ⟨101, "", []⟩
    | .ok settings =>
      done = setupWith control files logSetting host options settings ∧
      ∃ outcome, ((setupAction control files options settings).run host).outcome = .ok outcome ∧
        blamesConfig outcome = false := by
  intro checked done
  cases found : loadedSettings files options.config with
  | error fault =>
    have refused : checked = failure logSetting fault.message := validate_of_error found logSetting
    have failed : done = failure logSetting fault.message := by
      simp only [done, setup, found]
    refine ⟨?_, refused.trans failed.symm, ?_⟩
    · rw [refused]
      exact iff_of_false (status_failure_ne_zero _ _) nofun
    · rw [failed, failure]
      cases LogFilter.ofEnvironment? logSetting "info" with
      | none => rfl
      | some filter => rfl
  | ok settings =>
    have passed : checked.status = 0 := status_validate_of_ok found logSetting
    have usable : settings.validate = .ok () := Settings.validate_of_loadOrStandard found
    refine ⟨iff_of_true passed ⟨settings, rfl⟩, ?_, _, outcome_setupAction _ _ _ _ _,
      blamesConfig_provision usable control files _ host⟩
    simp only [done, setup, found]

/-- A filter that splits a character ends both commands with another status and without a word,
where the configuration is a directory. -/
theorem validate_setup_splitting :
    let files : FileSystem :=
      ⟨fun _ => true, fun _ => .error (.numbered 21), fun _ => .error (.numbered 21)⟩
    let options : Options := { config? := some (.ofText "d") }
    let host : Host Unit := { interfaces := () }
    let checked := validate files (some " é=info") options.config
    let done := setup .withoutDevices files (some " é=info") host options
    loadedSettings files options.config = .error (.load "d" (.unreadable (.numbered 21))) ∧
      checked.status = 101 ∧ checked.events = [] ∧ done.status = 101 ∧ done.events = [] := by
  decide

end CommandLine

end TunnelProvisioning
