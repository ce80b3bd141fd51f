import TunnelProvisioning.Interface.Simulated
import TunnelProvisioning.Proofs.Interface.Journal
import TunnelProvisioning.Settings.Basic

/-! # The name a kernel is asked for

An accepted name fits into a request, yet the kernel reads a name only up to a zero character. So it
is asked for exactly the configured name if and only if no zero character stands in that name, and a
name with one is cut short although it was accepted.
-/

namespace TunnelProvisioning

variable {κ : Type} {config : TunnelConfig}

/-- The request for an accepted name holds what comes before its first zero character. -/
theorem Binder.name_asked (accepted : config.validateInterfaceName = .ok ()) :
    (Binder.asked config).name = beforeZero config.interfaceName := by
  have short := (TunnelConfig.validateInterfaceName_eq_ok_iff.mp accepted).2
  rw [Binder.asked, InterfaceRequest.name_withFlags]
  exact InterfaceRequest.name_ofName ((size_beforeZero_le _).trans short)

/-- Binding an accepted name starts with the request for it. -/
theorem BinderUse.exists_calls_bind (accepted : config.validateInterfaceName = .ok ())
    (control : InterfaceControl κ) (host : Host κ) (descriptor : Int32) :
    ∃ answer left rest, (BinderUse.bind config descriptor).calls control host =
      .attach descriptor (Binder.asked config) answer left :: rest := by
  obtain ⟨nonempty, short⟩ := TunnelConfig.validateInterfaceName_eq_ok_iff.mp accepted
  have exchange := BinderUse.exchange_bind control host config descriptor
  dsimp only at exchange
  generalize (BinderUse.bind config descriptor).calls control host = calls at exchange ⊢
  generalize ((Binder.bind ⟨control, config⟩ descriptor).run host).outcome = outcome at exchange
  generalize ((Binder.bind ⟨control, config⟩ descriptor).run host).events = events at exchange
  cases exchange with
  | emptyName empty => exact absurd empty nonempty
  | longName long => exact absurd short (Nat.not_le.mpr long)
  | refused _ _ fault left => exact ⟨_, left, [], rfl⟩
  | @attached _ _ left _ rest keeping => exact ⟨_, left, rest, rfl⟩

namespace SimulatedKernel

theorem calls_attachOn (descriptor : Int32) (request : InterfaceRequest)
    (host : Host SimulatedKernel) :
    (control.attachOn descriptor request host).2.interfaces.calls =
      host.interfaces.calls ++ [⟨descriptor, request.flags, request.name⟩] := by
  simp only [InterfaceControl.attachOn, control, attach]
  cases host.interfaces.refusal <;> rfl

theorem calls_keepAlive (descriptor : Int32) (name : String) (host : Host SimulatedKernel) :
    ((Binder.keepAlive ⟨control, config⟩ descriptor name).run host).state.interfaces.calls =
      host.interfaces.calls := by
  rw [Binder.run_keepAlive]
  split
  · rfl
  · rfl

/-- A simulated kernel notes the name that it is asked for. -/
theorem calls_bind (accepted : config.validateInterfaceName = .ok ()) (descriptor : Int32)
    (host : Host SimulatedKernel) :
    ((Binder.bind ⟨control, config⟩ descriptor).run host).state.interfaces.calls =
      host.interfaces.calls ++ [⟨descriptor, 0x1001, beforeZero config.interfaceName⟩] := by
  have noted := calls_attachOn descriptor (Binder.asked config) host
  rw [Binder.name_asked accepted] at noted
  simp only [Binder.run_bind, accepted]
  generalize control.attachOn descriptor (Binder.asked config) host = answered at noted ⊢
  rcases answered with ⟨⟨fault | _, left⟩, after⟩
  · exact noted
  · exact (calls_keepAlive descriptor left.name after).trans noted

end SimulatedKernel

/-- Whatever kernel an accepted name is bound over, it is asked for the part of the name before the
first zero character, and so for the name itself exactly if it has none. That part is also the name
that a simulated kernel notes. -/
theorem requestedName_eq_iff (accepted : config.validateInterfaceName = .ok ())
    (control : InterfaceControl κ) (host : Host κ) (simulated : Host SimulatedKernel)
    (descriptor : Int32) :
    let report := (Binder.bind ⟨SimulatedKernel.control, config⟩ descriptor).run simulated
    (∃ request answer left rest,
      (BinderUse.bind config descriptor).calls control host =
        .attach descriptor request answer left :: rest ∧
      request.name = beforeZero config.interfaceName) ∧
    report.state.interfaces.calls =
      simulated.interfaces.calls ++ [⟨descriptor, 0x1001, beforeZero config.interfaceName⟩] ∧
    (beforeZero config.interfaceName = config.interfaceName ↔
      '\x00' ∉ config.interfaceName.toList) := by
  intro report
  obtain ⟨answer, left, rest, asked⟩ :=
    BinderUse.exists_calls_bind accepted control host descriptor
  have name := Binder.name_asked accepted
  have noted := SimulatedKernel.calls_bind accepted descriptor simulated
  exact ⟨⟨Binder.asked config, answer, left, rest, asked, name⟩, noted, beforeZero_eq_self_iff⟩

/-- A name of fifteen octets, most of them in longer characters, is asked for as it is. -/
theorem requestedName_whole :
    let config : TunnelConfig := { interfaceName := "aé€🚀ü012" }
    let report :=
      (Binder.bind ⟨SimulatedKernel.control, config⟩ 42).run ⟨.standard, .refusing 1⟩
    config.validateInterfaceName = .ok () ∧
      (∃ request answer left rest,
        (BinderUse.bind config 42).calls SimulatedKernel.control ⟨.standard, .refusing 1⟩ =
          .attach 42 request answer left :: rest ∧ request.name = config.interfaceName) ∧
      report.state.interfaces.calls = [⟨42, 0x1001, config.interfaceName⟩] := by
  intro config report
  have accepted : config.validateInterfaceName = .ok () := by decide
  obtain ⟨asked, noted, whole⟩ := requestedName_eq_iff accepted SimulatedKernel.control
    ⟨.standard, .refusing 1⟩ ⟨.standard, .refusing 1⟩ 42
  rw [whole.mpr (by decide)] at asked noted
  exact ⟨accepted, asked, noted⟩

/-- A name with a zero character in it passes every check and is cut short all the same. -/
theorem requestedName_cut :
    let settings : Settings := { tunnel := { interfaceName := "a\x00b" } }
    let config := settings.tunnelConfig
    let report := (Binder.bind ⟨SimulatedKernel.control, config⟩ 7).run ⟨.standard, .refusing 1⟩
    settings.validate = .ok () ∧ config.validate = .ok () ∧
      config.validateInterfaceName = .ok () ∧
      report.state.interfaces.calls = [⟨7, 0x1001, "a"⟩] ∧ config.interfaceName ≠ "a" := by
  decide

end TunnelProvisioning
