import TunnelProvisioning.Adapter.Provisioner
import TunnelProvisioning.Adapter.RegistryTree
import TunnelProvisioning.Adapter.SimulatedDevices
import TunnelProvisioning.Interface.Binder
import TunnelProvisioning.Proofs.Provisioner
import TunnelProvisioning.WireOutcome

/-! # Who logs what

Every part of the library logs under its own name, so the events that tell how provisioning went can
be told apart from those that a platform logs on its way: warnings of a platform do not mean that
it failed. An outcome is reported three times, as the value that is returned, as the last event and
as the form in which it is handed over, and the three agree whatever the platform did.
-/

namespace TunnelProvisioning

namespace Action

variable {σ τ ε α β : Type}

/-- An action that logs under the names of certain parts only, wherever it starts. -/
def LogsFrom (parts : List Origin) (action : Action σ ε α) : Prop :=
  ∀ state, ∀ event ∈ (action.run state).events, event.origin ∈ parts

namespace LogsFrom

variable {parts : List Origin}

/-- An action that does not log at all. -/
theorem of_silent {action : Action σ ε α} (silent : ∀ state, (action.run state).events = []) :
    action.LogsFrom parts := by
  intro state event member
  rw [silent] at member
  exact absurd member List.not_mem_nil

theorem log {origin : Origin} (known : origin ∈ parts) (level : Level) (message : String) :
    (Action.log level origin message : Action σ ε Unit).LogsFrom parts := by
  intro state event member
  rw [run_log] at member
  rw [List.mem_singleton.mp member]
  exact known

theorem bind {first : Action σ ε α} {next : α → Action σ ε β} (early : first.LogsFrom parts)
    (late : ∀ value, (next value).LogsFrom parts) : (first >>= next).LogsFrom parts := by
  intro state event member
  rw [events_bind, List.mem_append] at member
  rcases member with member | member
  · exact early state event member
  · cases ended : (first.run state).outcome with
    | error fault =>
      simp only [ended] at member
      exact absurd member List.not_mem_nil
    | ok value =>
      simp only [ended] at member
      exact late value _ event member

theorem pure (value : α) : (Pure.pure value : Action σ ε α).LogsFrom parts :=
  of_silent fun _ => rfl

theorem fail (fault : ε) : (Action.fail fault : Action σ ε α).LogsFrom parts :=
  of_silent fun _ => rfl

theorem ofExcept (result : Except ε α) : (Action.ofExcept result : Action σ ε α).LogsFrom parts :=
  of_silent fun _ => rfl

theorem operate (operation : σ → α × σ) :
    (Action.operate operation : Action σ ε α).LogsFrom parts :=
  of_silent fun _ => rfl

theorem ensuring {action : Action σ ε α} (known : action.LogsFrom parts) (change : σ → σ) :
    (action.ensuring change).LogsFrom parts :=
  known

theorem onFailure {action : Action σ ε α} (known : action.LogsFrom parts) (change : σ → σ) :
    (action.onFailure change).LogsFrom parts := by
  intro state
  rw [run_onFailure]
  exact known state

theorem onFirst {action : Action σ ε α} (known : action.LogsFrom parts) :
    (action.onFirst (τ := τ)).LogsFrom parts :=
  fun state => known state.1

theorem onSecond {action : Action τ ε α} (known : action.LogsFrom parts) :
    (action.onSecond (σ := σ)).LogsFrom parts :=
  fun state => known state.2

/-- Events of other parts are not among those that are logged. -/
theorem filter_eq_nil {action : Action σ ε α} (known : action.LogsFrom parts) {origin : Origin}
    (other : origin ∉ parts) (state : σ) :
    (action.run state).events.filter (·.origin = origin) = [] := by
  rw [List.filter_eq_nil_iff]
  intro event member same
  rw [← of_decide_eq_true same] at other
  exact other (known state event member)

end LogsFrom

end Action

open TunnelProvisioning.Action (LogsFrom)

variable {parts : List Origin}

/-! ## The parts of the adapters -/

namespace Registry

variable {ε α : Type} (registry : Registry)

theorem logsFrom_withKey {use : Action KeyLedger ε α} (known : use.LogsFrom parts) (path : String) :
    (registry.withKey path use).LogsFrom parts := by
  apply LogsFrom.bind (.operate _)
  intro answer
  cases answer with
  | error fault => exact .pure _
  | ok => exact .bind (known.ensuring _) fun _ => .pure _

variable (own : .registry ∈ parts)
include own

theorem logsFrom_examine (componentId name : String) :
    (registry.examine componentId name).LogsFrom parts := by
  apply LogsFrom.bind (registry.logsFrom_withKey (.pure _) _)
  intro answer
  rcases answer with fault | (_ | _ | fault | instanceId)
  · exact .bind (.log own _ _) fun _ => .pure _
  · exact .bind (.log own _ _) fun _ => .pure _
  · exact .pure _
  · exact .bind (.log own _ _) fun _ => .fail _
  · exact .bind (.log own _ _) fun _ => .pure _

/-- The loop of a search: whatever an adapter says, the search logs about it and goes on with the
adapters after it or ends. -/
theorem logsFrom_scan (componentId : String) (count : Nat) (names : List String) :
    (registry.scan componentId count names).LogsFrom parts := by
  induction names with
  | nil => exact .bind (.log own _ _) fun _ => .fail _
  | cons name rest ih =>
    apply LogsFrom.bind (registry.logsFrom_examine own componentId name)
    intro answer
    cases answer with
    | none => exact ih
    | some instanceId => exact .pure _

theorem logsFrom_findAdapter (componentId : String) :
    (registry.findAdapter componentId).LogsFrom parts := by
  apply LogsFrom.bind (registry.logsFrom_withKey (registry.logsFrom_scan own _ _ _) _)
  intro answer
  cases answer with
  | error fault => exact .bind (.log own _ _) fun _ => .fail _
  | ok instanceId => exact .pure _

theorem logsFrom_connectionName (instanceId : String) :
    (registry.connectionName instanceId).LogsFrom parts := by
  apply LogsFrom.bind (registry.logsFrom_withKey (.pure _) _)
  intro found
  cases found.bind id with
  | error fault => exact .bind (.log own _ _) fun _ => .fail _
  | ok name => exact .bind (.log own _ _) fun _ => .pure _

theorem logsFrom_resolveAdapter (componentId : String) :
    (registry.resolveAdapter componentId).LogsFrom parts := by
  apply LogsFrom.bind (registry.logsFrom_findAdapter own componentId)
  intro instanceId
  exact .bind (registry.logsFrom_connectionName own instanceId) fun _ => .pure _

end Registry

namespace Device

variable {δ : Type} (bus : DeviceBus δ) (strict : Bool) (own : .device ∈ parts)
include own

theorem logsFrom_send (handle : Int) (request : UInt32) (input : List UInt8) :
    (send bus strict handle request input).LogsFrom parts := by
  apply LogsFrom.bind (.operate _)
  intro answer
  cases answer with
  | ok => exact .pure _
  | error fault =>
    cases strict with
    | true => exact .fail _
    | false => exact .log own _ _

theorem logsFrom_bringUp (addressing : Addressing) (handle : Int) :
    (bringUp bus strict addressing handle).LogsFrom parts :=
  .bind (logsFrom_send bus strict own _ _ _) fun _ => logsFrom_send bus strict own _ _ _

theorem logsFrom_configure (instanceId : String) (addressing : Addressing) :
    (configure bus instanceId addressing strict).LogsFrom parts := by
  apply LogsFrom.bind (.log own _ _)
  intro _
  apply LogsFrom.bind (.operate _)
  intro answer
  cases answer with
  | error fault => exact .bind (.log own _ _) fun _ => .fail _
  | ok handle =>
    apply LogsFrom.bind ((logsFrom_bringUp bus strict own addressing handle).onFailure _)
    intro _
    exact .bind (.log own _ _) fun _ => .pure _

end Device

/-! ## The part of the bound interfaces -/

namespace Binder

variable {κ : Type} (binder : Binder κ) (own : .binder ∈ parts)
include own

theorem logsFrom_keepAlive (descriptor : Int32) (name : String) :
    (binder.keepAlive descriptor name).LogsFrom parts := by
  rw [keepAlive]
  split
  · apply LogsFrom.bind (.operate _)
    intro answer
    cases answer with
    | ok => exact .pure _
    | error fault => exact .log own _ _
  · exact .pure _

theorem logsFrom_bind (descriptor : Int32) : (binder.bind descriptor).LogsFrom parts := by
  apply LogsFrom.bind (.ofExcept _)
  intro _
  apply LogsFrom.bind (.log own _ _)
  intro _
  apply LogsFrom.bind (.operate _)
  rintro ⟨answer, left⟩
  cases answer with
  | error fault => exact .bind (.log own _ _) fun _ => .fail _
  | ok =>
    apply LogsFrom.bind (binder.logsFrom_keepAlive own descriptor left.name)
    intro _
    exact .bind (.log own _ _) fun _ => .pure _

end Binder

/-! ## Platforms -/

/-- The parts that log while a platform provisions a tunnel. -/
def Platform.origins : Platform → List Origin
  | .linux => [.binder]
  | .windows => [.registry, .adapter, .device]
  | .unsupported _ => [.unsupported]

theorem Platform.provisioning_notMem_origins (platform : Platform) :
    .provisioning ∉ platform.origins := by
  cases platform <;> simp [origins]

/-- The provisioners that there are: binding through any control, bringing up adapters of any
registry through any devices, and refusing under any name. -/
inductive Provisioner.IsOffered : {σ : Type} → Provisioner σ → Prop where
  | binder {κ : Type} (binder : Binder κ) : IsOffered binder.provisioner
  | adapters {δ : Type} (adapters : AdapterProvisioner δ) : IsOffered adapters.provisioner
  | unsupported {σ : Type} (name : String) :
      IsOffered (Provisioner.unsupported name : Provisioner σ)

theorem AdapterProvisioner.logsFrom_provision {δ : Type} (adapters : AdapterProvisioner δ) :
    adapters.provision.LogsFrom Platform.windows.origins := by
  apply LogsFrom.bind (adapters.registry.logsFrom_resolveAdapter (by decide) _).onFirst
  intro adapter
  apply LogsFrom.bind (.log (by decide) _ _)
  intro _
  apply LogsFrom.bind (Device.logsFrom_configure adapters.bus _ (by decide) _ _).onSecond
  intro handle
  exact .pure _

/-- No platform logs under the name of another part, whatever descriptor it gets. -/
theorem Provisioner.IsOffered.logsFrom {σ : Type} {provisioner : Provisioner σ}
    (offered : provisioner.IsOffered) (descriptor? : Option Int32) :
    (provisioner.provision descriptor?).LogsFrom provisioner.platform.origins := by
  cases offered with
  | binder binder =>
    cases descriptor? with
    | none => exact .fail _
    | some descriptor =>
      apply LogsFrom.bind (binder.logsFrom_bind List.mem_cons_self descriptor)
      intro interface
      exact .pure _
  | adapters adapters => exact adapters.logsFrom_provision
  | unsupported name => exact .bind (.log List.mem_cons_self _ _) fun _ => .fail _

/-! ## Three reports of one outcome -/

/-- An outcome with the last event of its provisioning and the form in which it is handed over. -/
inductive Reported : Except ProvisionError Provisioned → Event → WireOutcome → Prop where
  | bound (name : String) (descriptor : Int32) :
      Reported (.ok (.bound ⟨descriptor, name⟩))
        ⟨.info, .provisioning,
          "Tunnel ready: interface " ++ name ++ " on fd " ++ toString descriptor⟩
        (.interface name descriptor)
  | opened (instanceId connectionName : String) (raw : Int) :
      Reported (.ok (.opened ⟨instanceId, connectionName⟩ raw))
        ⟨.info, .provisioning,
          "Tunnel ready: adapter '" ++ connectionName ++ "' handle " ++ toString raw⟩
        (.handle raw)
  | failed (fault : ProvisionError) :
      Reported (.error fault)
        ⟨.warn, .provisioning, "Tunnel provisioning failed: " ++ fault.message⟩
        (.error fault.message)

theorem reported (outcome : Except ProvisionError Provisioned) :
    Reported outcome (provisioningClosing outcome) (WireOutcome.ofOutcome outcome) := by
  rcases outcome with fault | ⟨descriptor, name⟩ | ⟨⟨instanceId, connectionName⟩, raw⟩
  · exact .failed fault
  · exact .bound name descriptor
  · exact .opened instanceId connectionName raw

namespace Reported

variable {outcome : Except ProvisionError Provisioned} {closing : Event} {wire : WireOutcome}

/-- The last event is of provisioning, and it announces a tunnel exactly if there is one. -/
theorem announces_iff (told : Reported outcome closing wire) :
    closing.origin = .provisioning ∧
      ((closing.level = .info ∧ ∃ rest, closing.message = "Tunnel ready" ++ rest) ↔
        outcome.isOk = true) := by
  cases told with
  | bound name descriptor =>
    refine ⟨rfl, iff_of_true ⟨rfl, ?_⟩ rfl⟩
    exact ⟨": interface " ++ name ++ " on fd " ++ toString descriptor, by
      simp only [← String.append_assoc]; rfl⟩
  | opened instanceId connectionName raw =>
    refine ⟨rfl, iff_of_true ⟨rfl, ?_⟩ rfl⟩
    exact ⟨": adapter '" ++ connectionName ++ "' handle " ++ toString raw, by
      simp only [← String.append_assoc]; rfl⟩
  | failed fault =>
    refine ⟨rfl, iff_of_false ?_ Bool.false_ne_true⟩
    rintro ⟨level, -⟩
    cases level

theorem isSuccess_iff (told : Reported outcome closing wire) :
    wire.isSuccess = true ↔ outcome.isOk = true := by
  cases told <;> exact Iff.rfl

end Reported

theorem WireOutcome.fst_handOver {δ : Type} (bus : DeviceBus δ)
    (outcome : Except ProvisionError Provisioned) (devices : δ) :
    (handOver bus outcome devices).1 = ofOutcome outcome := by
  rcases outcome with _ | _ | _ <;> rfl

/-- Provisioning through any platform, from any state and with any descriptor or none, logs what is
asked for before all else and how it ended after all else, and nothing more under its own name,
whatever the platform logs in between. What it says last, what it returns and what is handed over
are the same outcome, that of the platform. -/
theorem provisionWith_reports {σ : Type} {provisioner : Provisioner σ}
    (offered : provisioner.IsOffered) (descriptor? : Option Int32) (state : σ) :
    let told := (provisioner.provision descriptor?).run state
    let report := (provisionWith provisioner descriptor?).run state
    let wire := WireOutcome.ofOutcome report.outcome
    let opening : Event := ⟨.debug, .provisioning,
      "Provisioning tunnel via " ++ provisioner.platform.text ++
        " (fd: " ++ descriptorText descriptor? ++ ")"⟩
    (report.outcome = told.outcome ∧ report.state = told.state) ∧
    (∃ closing,
      report.events = opening :: (told.events ++ [closing]) ∧
      report.events.filter (·.origin = .provisioning) = [opening, closing] ∧
      Reported report.outcome closing wire ∧
      ((closing.level = .info ∧ ∃ rest, closing.message = "Tunnel ready" ++ rest) ↔
        report.outcome.isOk = true)) ∧
    (wire.isSuccess = true ↔ report.outcome.isOk = true) ∧
    ∀ (δ : Type) (bus : DeviceBus δ) (devices : δ),
      (WireOutcome.handOver bus report.outcome devices).1 = wire := by
  intro told report wire opening
  have ran : report = ⟨told.outcome, told.state,
      opening :: (told.events ++ [provisioningClosing told.outcome])⟩ :=
    run_provisionWith provisioner descriptor? state
  have silent : told.events.filter (·.origin = .provisioning) = [] :=
    (offered.logsFrom descriptor?).filter_eq_nil
      provisioner.platform.provisioning_notMem_origins state
  have outcome : report.outcome = told.outcome := by rw [ran]
  have telling : Reported report.outcome (provisioningClosing told.outcome) wire := by
    rw [← outcome]
    exact reported report.outcome
  obtain ⟨origin, announces⟩ := telling.announces_iff
  refine ⟨⟨outcome, by rw [ran]⟩,
    ⟨provisioningClosing told.outcome, by rw [ran], ?_, telling, announces⟩,
    telling.isSuccess_iff, fun δ bus devices => WireOutcome.fst_handOver bus _ devices⟩
  rw [ran]
  simp only [List.filter_cons, List.filter_append, silent, origin, opening, decide_true, if_true,
    List.filter_nil, List.nil_append]

/-- An adapter that refuses every request of a lenient bring-up: there are warnings, and the last
event announces a tunnel. -/
theorem provisionWith_reports_lenient :
    let registry := RegistryTree.registry (.build false
      [.adapter "0000" (some "tap0901") (some "id"), .connection "id" "net"])
    let adapters : AdapterProvisioner SimulatedDevices := ⟨registry, SimulatedDevices.bus, {}⟩
    let report := (provisionWith adapters.provisioner none).run
      (({} : KeyLedger), SimulatedDevices.refusingControl 87)
    adapters.provisioner.IsOffered ∧
      report.outcome = .ok (.opened ⟨"id", "net"⟩ 0x104) ∧
      (report.events.filter (·.level = .warn)).length = 2 ∧
      report.events.getLast? = some ⟨.info, .provisioning,
        "Tunnel ready: adapter '" ++ "net" ++ "' handle " ++ toString (0x104 : Int)⟩ := by
  intro registry adapters report
  have up : report.outcome = .ok (.opened ⟨"id", "net"⟩ 0x104) := rfl
  have warnings : (report.events.filter (·.level = .warn)).length = 2 := by decide
  obtain ⟨-, ⟨closing, events, -, told, -⟩, -⟩ :=
    provisionWith_reports (.adapters adapters) none
      (({} : KeyLedger), SimulatedDevices.refusingControl 87)
  change report.events = _ at events
  change Reported report.outcome closing _ at told
  rw [up] at told
  cases told
  refine ⟨.adapters adapters, up, warnings, ?_⟩
  rw [events, ← List.cons_append, List.getLast?_concat]

end TunnelProvisioning
