import TunnelProvisioning.Interface.Journal
import TunnelProvisioning.Proofs.Interface.Binding
import TunnelProvisioning.Proofs.Provisioner
import TunnelProvisioning.Proofs.Settings.Validation

/-! # Setting up a tunnel

A configuration is checked as a whole before anything else, so what is wrong with it is always
reported first, and nothing has happened yet. The binder checks the name once more and a descriptor
may be missing, but after the first check the second one cannot fail, and a missing descriptor is
not the fault of the configuration.
-/

namespace TunnelProvisioning

variable {κ : Type}

/-- Whether an outcome says that the configuration is at fault. -/
def blamesConfig : Except ProvisionError Provisioned → Bool
  | .ok _ => false
  | .error fault => fault.isConfigError

theorem SameFault.isConfigError {fault : ProvisionError} {error : SettingsError}
    (same : SameFault fault error) : fault.isConfigError = true := by
  cases same <;> rfl

/-- What the check of a configuration finds is always the fault of the configuration. -/
theorem TunnelConfig.isConfigError_of_validate {config : TunnelConfig} {fault : ProvisionError}
    (refused : config.validate = .error fault) : fault.isConfigError = true := by
  -- Settings that describe the configuration have the same fault, and those faults are classified.
  let settings : Settings :=
    { tunnel := { interfaceName := config.interfaceName, persist := config.persist }
      tap := ⟨config.componentId, config.strictControl⟩
      addressing := config.addressing }
  have path : settings.tunnel.devicePath.isEmpty = false := rfl
  have described : settings.tunnelConfig.validate = .error fault := refused
  obtain ⟨error, _, same⟩ := Settings.exists_sameFault path described
  exact same.isConfigError

namespace Binder

/-- The outcomes of provisioning on a descriptor or on none, once the name is accepted. -/
inductive Settled : Option Int32 → Except ProvisionError Provisioned → Prop where
  | noDescriptor : Settled none (.error .noDescriptor)
  | rejected (descriptor : Int32) (code : Int) :
      Settled (some descriptor) (.error (.attachRejected code))
  | bound (descriptor : Int32) (name : String) :
      Settled (some descriptor) (.ok (.bound ⟨descriptor, name⟩))

theorem Settled.blamesConfig_eq_false {descriptor? : Option Int32}
    {outcome : Except ProvisionError Provisioned} (settled : Settled descriptor? outcome) :
    blamesConfig outcome = false := by
  cases settled <;> rfl

variable {config : TunnelConfig}

/-- Binding under an accepted name succeeds on the descriptor, or the kernel refuses. -/
theorem outcome_bind_cases (accepted : config.validateInterfaceName = .ok ())
    (control : InterfaceControl κ) (descriptor : Int32) (host : Host κ) :
    let outcome := ((Binder.bind ⟨control, config⟩ descriptor).run host).outcome
    (∃ name, outcome = .ok ⟨descriptor, name⟩) ∨ ∃ code, outcome = .error (.attachRejected code) := by
  simp only [run_bind, accepted]
  rcases control.attachOn descriptor (asked config) host with ⟨⟨fault | _, left⟩, after⟩
  · exact .inr ⟨_, rfl⟩
  · exact .inl ⟨left.name, rfl⟩

theorem settled_provision (accepted : config.validateInterfaceName = .ok ())
    (control : InterfaceControl κ) (descriptor? : Option Int32) (host : Host κ) :
    Settled descriptor? ((Binder.provision ⟨control, config⟩ descriptor?).run host).outcome := by
  cases descriptor? with
  | none => exact .noDescriptor
  | some descriptor =>
    have provisions : ((Binder.provision ⟨control, config⟩ (some descriptor)).run host).outcome =
        (((Binder.bind ⟨control, config⟩ descriptor).run host).outcome).map .bound :=
      congrArg Report.outcome (Action.run_map _ _ host)
    rw [provisions]
    rcases outcome_bind_cases accepted control descriptor host with ⟨name, bound⟩ | ⟨code, rejected⟩
    · rw [bound]
      exact .bound descriptor name
    · rw [rejected]
      exact .rejected descriptor code

end Binder

/-- A configuration that is refused ends the set-up before it starts. -/
theorem run_setupTunnel (control : InterfaceControl κ) (descriptor? : Option Int32)
    (config : TunnelConfig) (host : Host κ) :
    (setupTunnel control descriptor? config).run host =
      match config.validate with
      | .error fault => ⟨.error fault, host, []⟩
      | .ok () => (provisionWith (Binder.provisioner ⟨control, config⟩) descriptor?).run host := by
  rw [setupTunnel]
  cases checked : config.validate with
  | error fault => rw [Action.run_bind_of_error (Action.run_ofExcept _ host)]
  | ok =>
    rw [Action.run_bind_of_ok (Action.run_ofExcept _ host)]
    rfl

/-- The outcome of setting up an accepted configuration. -/
theorem settled_setupTunnel {config : TunnelConfig} (accepted : config.validate = .ok ())
    (control : InterfaceControl κ) (descriptor? : Option Int32) (host : Host κ) :
    Binder.Settled descriptor? ((setupTunnel control descriptor? config).run host).outcome := by
  have named := (TunnelConfig.validate_eq_ok_iff.mp accepted).1
  rw [run_setupTunnel, accepted]
  dsimp only
  rw [outcome_provisionWith]
  exact Binder.settled_provision named control descriptor? host

/-- Setting up a tunnel blames a configuration exactly if its check finds a fault: that fault is the
outcome, before the kernel is asked anything and before anything is logged. An accepted
configuration is provisioned as by the platform alone, which ends with a bound interface unless there
is no descriptor or the kernel refuses. -/
theorem setupTunnel_checks_first (control : InterfaceControl κ) (descriptor? : Option Int32)
    (config : TunnelConfig) (host : Host κ) :
    let report := (setupTunnel control descriptor? config).run host
    let calls := control.callsOf (setupTunnel · descriptor? config) host
    (blamesConfig report.outcome = true ↔ config.validate ≠ .ok ()) ∧
    match config.validate with
    | .error fault => report = ⟨.error fault, host, []⟩ ∧ calls = []
    | .ok () =>
      report = (provisionWith (Binder.provisioner ⟨control, config⟩) descriptor?).run host ∧
      calls = control.callsOf
        (fun control => provisionWith (Binder.provisioner ⟨control, config⟩) descriptor?) host ∧
      Binder.Settled descriptor? report.outcome := by
  intro report calls
  cases checked : config.validate with
  | error fault =>
    have ran : report = ⟨.error fault, host, []⟩ := by
      simp only [report, run_setupTunnel, checked]
    have asked : calls = [] := by
      simp only [calls, InterfaceControl.callsOf, run_setupTunnel, checked]
      rfl
    have blamed : blamesConfig report.outcome = true := by
      rw [ran]
      exact TunnelConfig.isConfigError_of_validate checked
    refine ⟨iff_of_true blamed ?_, ran, asked⟩
    intro accepted
    cases accepted
  | ok =>
    have ran : report =
        (provisionWith (Binder.provisioner ⟨control, config⟩) descriptor?).run host := by
      simp only [report, run_setupTunnel, checked]
    have asked : calls = control.callsOf
        (fun control => provisionWith (Binder.provisioner ⟨control, config⟩) descriptor?) host := by
      simp only [calls, InterfaceControl.callsOf, run_setupTunnel, checked]
    have settled := settled_setupTunnel checked control descriptor? host
    have blameless : blamesConfig report.outcome = false := settled.blamesConfig_eq_false
    refine ⟨?_, ran, asked, settled⟩
    simp only [blameless, ne_eq, not_true_eq_false, Bool.false_eq_true]

end TunnelProvisioning
