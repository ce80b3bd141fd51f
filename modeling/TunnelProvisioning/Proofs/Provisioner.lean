import TunnelProvisioning.Provisioner

/-! # What provisioning logs around a platform

Whatever a platform does to provision a tunnel, `provisionWith` adds two events and nothing else:
one before, which tells what is asked for, and one after, which tells the outcome.
-/

namespace TunnelProvisioning

variable {σ : Type}

def provisioningOpening (platform : Platform) (descriptor? : Option Int32) : Event :=
  ⟨.debug, .provisioning,
    s!"Provisioning tunnel via {platform} (fd: {descriptorText descriptor?})"⟩

def provisioningClosing : Except ProvisionError Provisioned → Event
  | .ok provisioned => ⟨.info, .provisioning, provisioned.announcement⟩
  | .error fault => ⟨.warn, .provisioning, s!"Tunnel provisioning failed: {fault.message}"⟩

/-- Provisioning does what the platform does, and logs how it starts and how it ends. -/
theorem run_provisionWith (provisioner : Provisioner σ) (descriptor? : Option Int32) (state : σ) :
    (provisionWith provisioner descriptor?).run state =
      let report := (provisioner.provision descriptor?).run state
      ⟨report.outcome, report.state,
        provisioningOpening provisioner.platform descriptor? ::
          (report.events ++ [provisioningClosing report.outcome])⟩ := by
  rw [provisionWith, Action.run_bind_of_ok (Action.run_log _ _ _ state),
    Action.run_bind_of_ok (Action.run_attempt _ state)]
  dsimp only
  cases (provisioner.provision descriptor?).run state with
  | mk outcome after events =>
    cases outcome with
    | error fault => rfl
    | ok provisioned => rfl

/-- The outcome is that of the platform. -/
theorem outcome_provisionWith (provisioner : Provisioner σ) (descriptor? : Option Int32)
    (state : σ) :
    ((provisionWith provisioner descriptor?).run state).outcome =
      ((provisioner.provision descriptor?).run state).outcome := by
  rw [run_provisionWith]

end TunnelProvisioning
