import TunnelProvisioning.Interface.Journal
import TunnelProvisioning.Proofs.Interface.Request

/-! # The protocol of binders

Which outcomes, events and calls belong together when a descriptor is bound. The calls are read off
a journal, so each run is compared with the same run over a kernel that keeps one: they answer and
log the same, and the journal has grown by the calls that belong to the outcome.
-/

namespace TunnelProvisioning

variable {κ : Type}

namespace Binder

/-- The request for the configured name, for a tunnel without packet information. -/
def asked (config : TunnelConfig) : InterfaceRequest :=
  (InterfaceRequest.ofName config.interfaceName).withFlags 0x1001

/-- The event before a request. -/
def issued (config : TunnelConfig) (descriptor : Int32) : Event :=
  ⟨.debug, .binder, s!"Issuing TUNSETIFF on fd {descriptor} for {(asked config).description}"⟩

def refusal (descriptor : Int32) (fault : IoError) : Event :=
  ⟨.warn, .binder, s!"TUNSETIFF failed on fd {descriptor}: {fault.message}"⟩

def attachment (descriptor : Int32) (name : String) : Event :=
  ⟨.info, .binder, s!"Bound fd {descriptor} to TUN interface {name}"⟩

/-- The event if an interface cannot be kept alive. -/
def transience (name : String) (fault : IoError) : Event :=
  ⟨.warn, .binder, s!"Failed to set TUN persistence on {name}: {fault.message}"⟩

/-- How an attached interface is kept alive: the events and the calls of it. -/
inductive Keeping (config : TunnelConfig) (descriptor : Int32) (name : String) :
    List Event → List KernelCall → Prop where
  | idle (off : config.persist = false) : Keeping config descriptor name [] []
  | granted (on : config.persist = true) :
      Keeping config descriptor name [] [.persist descriptor true (.ok ())]
  | refused (on : config.persist = true) (fault : IoError) :
      Keeping config descriptor name [transience name fault]
        [.persist descriptor true (.error fault)]

/-- How a descriptor is bound: the outcome, the events and the calls of it. -/
inductive Exchange (config : TunnelConfig) (descriptor : Int32) :
    Except ProvisionError BoundInterface → List Event → List KernelCall → Prop where
  | emptyName (empty : config.interfaceName = "") :
      Exchange config descriptor
        (.error (.invalidSetting "interface_name" "interface name cannot be empty")) [] []
  | longName (long : 15 < Utf8.size config.interfaceName) :
      Exchange config descriptor
        (.error (.invalidSetting "interface_name" "interface name cannot exceed 15 characters"))
        [] []
  | refused (nonempty : config.interfaceName ≠ "") (short : Utf8.size config.interfaceName ≤ 15)
      (fault : IoError) (left : InterfaceRequest) :
      Exchange config descriptor (.error (.attachRejected (fault.code?.getD (-1))))
        [issued config descriptor, refusal descriptor fault]
        [.attach descriptor (asked config) (.error fault) left]
  | attached (nonempty : config.interfaceName ≠ "") (short : Utf8.size config.interfaceName ≤ 15)
      (left : InterfaceRequest) {events : List Event} {calls : List KernelCall}
      (keeping : Keeping config descriptor left.name events calls) :
      Exchange config descriptor (.ok ⟨descriptor, left.name⟩)
        (issued config descriptor :: (events ++ [attachment descriptor left.name]))
        (.attach descriptor (asked config) (.ok ()) left :: calls)

/-! ## Runs -/

theorem request_eq_asked (config : TunnelConfig) : request config = asked config := rfl

/-- Keeping an interface alive does not fail. -/
theorem run_keepAlive (binder : Binder κ) (descriptor : Int32) (name : String) (host : Host κ) :
    (binder.keepAlive descriptor name).run host =
      if binder.config.persist then
        match binder.control.persistOn descriptor true host with
        | (.ok (), after) => ⟨.ok (), after, []⟩
        | (.error fault, after) => ⟨.ok (), after, [transience name fault]⟩
      else ⟨.ok (), host, []⟩ := by
  rw [keepAlive]
  split
  · rw [Action.run_bind, Action.run_operate]
    rcases binder.control.persistOn descriptor true host with ⟨_ | _, after⟩ <;> rfl
  · rfl

theorem outcome_keepAlive (binder : Binder κ) (descriptor : Int32) (name : String)
    (host : Host κ) : ((binder.keepAlive descriptor name).run host).outcome = .ok () := by
  rw [run_keepAlive]
  split
  · split <;> rfl
  · rfl

theorem run_bind (binder : Binder κ) (descriptor : Int32) (host : Host κ) :
    (binder.bind descriptor).run host =
      match binder.config.validateInterfaceName with
      | .error fault => ⟨.error fault, host, []⟩
      | .ok () =>
        match binder.control.attachOn descriptor (asked binder.config) host with
        | ((.error fault, _), after) =>
          ⟨.error (.attachRejected (fault.code?.getD (-1))), after,
            [issued binder.config descriptor, refusal descriptor fault]⟩
        | ((.ok (), left), after) =>
          let keeping := (binder.keepAlive descriptor left.name).run after
          ⟨.ok ⟨descriptor, left.name⟩, keeping.state,
            issued binder.config descriptor ::
              (keeping.events ++ [attachment descriptor left.name])⟩ := by
  rw [Binder.bind]
  cases checked : binder.config.validateInterfaceName with
  | error fault => rw [Action.run_bind_of_error (Action.run_ofExcept _ host)]
  | ok =>
    rw [Action.run_bind_of_ok (Action.run_ofExcept _ host)]
    dsimp only
    rw [Action.run_bind_of_ok (Action.run_log _ _ _ host), request_eq_asked,
      Action.run_bind_of_ok (Action.run_operate _ host)]
    rcases binder.control.attachOn descriptor (asked binder.config) host with
      ⟨⟨fault | _, left⟩, after⟩
    · rfl
    · have kept := binder.outcome_keepAlive descriptor left.name after
      have ran : (binder.keepAlive descriptor left.name).run after = ⟨.ok (),
          ((binder.keepAlive descriptor left.name).run after).state,
          ((binder.keepAlive descriptor left.name).run after).events⟩ := by
        rw [← kept]
      dsimp only
      rw [Action.run_bind_of_ok ran, Action.run_bind_of_ok (Action.run_log _ _ _ _),
        Action.run_pure]
      rfl

/-- A device node that cannot be opened ends the run; otherwise its descriptor is bound, and closed
again if that fails. -/
theorem run_openOwned (binder : Binder κ) (files : FileSystem) (path : Path) (host : Host κ) :
    (binder.openOwned files path).run host =
      match openNode files path host with
      | (.error fault, after) => ⟨.error (.nodeUnavailable path.text fault), after, []⟩
      | (.ok descriptor, after) =>
        let binding := (binder.bind descriptor).run after
        ⟨binding.outcome.map (⟨descriptor⟩, ·),
          if binding.outcome.isOk then binding.state else closeNode descriptor binding.state,
          binding.events⟩ := by
  rw [openOwned, Action.run_bind_of_ok (Action.run_operate _ host)]
  rcases openNode files path host with ⟨fault | descriptor, after⟩
  · rfl
  · change (Prod.mk (DescriptorHandle.mk descriptor) <$>
      (binder.bind descriptor).onFailure (closeNode descriptor)).run after = _
    rw [Action.run_map, Action.run_onFailure]

/-- The caller may do without the handle. -/
theorem run_openAndBind (binder : Binder κ) (files : FileSystem) (path : Path) (host : Host κ) :
    let report := (binder.openOwned files path).run host
    (binder.openAndBind files path).run host =
      ⟨report.outcome.map Prod.snd, report.state, report.events⟩ :=
  Action.run_map _ _ host

/-! ## Journals of runs -/

variable (control : InterfaceControl κ) (config : TunnelConfig) (descriptor : Int32)
  (host : Host κ)

/-- Over a kernel with a journal the same is done, and the calls of it are added to the journal. -/
theorem exists_keeping (name : String) :
    let plain := (keepAlive ⟨control, config⟩ descriptor name).run host
    ∃ calls, Keeping config descriptor name plain.events calls ∧ ∀ journal,
      (keepAlive ⟨control.journaled, config⟩ descriptor name).run (host.journaling journal) =
        ⟨.ok (), plain.state.journaling (journal ++ calls), plain.events⟩ := by
  intro plain
  simp only [plain, run_keepAlive, InterfaceControl.persistOn_journaled]
  cases persist : config.persist with
  | false =>
    refine ⟨[], .idle persist, ?_⟩
    intro journal
    simp only [Bool.false_eq_true, reduceIte, List.append_nil]
  | true =>
    simp only [reduceIte]
    rcases control.persistOn descriptor true host with ⟨fault | _, after⟩
    · exact ⟨[.persist descriptor true (.error fault)], .refused persist fault, fun _ => rfl⟩
    · exact ⟨[.persist descriptor true (.ok ())], .granted persist, fun _ => rfl⟩

/-- Over a kernel with a journal a descriptor is bound in the same way, and the calls of it are
added to the journal. -/
theorem exists_exchange :
    let plain := (Binder.bind ⟨control, config⟩ descriptor).run host
    ∃ calls, Exchange config descriptor plain.outcome plain.events calls ∧ ∀ journal,
      (Binder.bind ⟨control.journaled, config⟩ descriptor).run (host.journaling journal) =
        ⟨plain.outcome, plain.state.journaling (journal ++ calls), plain.events⟩ := by
  intro plain
  simp only [plain, run_bind, InterfaceControl.attachOn_journaled]
  by_cases empty : config.interfaceName = ""
  · simp only [TunnelConfig.validateInterfaceName_of_empty empty]
    refine ⟨[], .emptyName empty, ?_⟩
    intro journal
    rw [List.append_nil]
  by_cases long : 15 < Utf8.size config.interfaceName
  · simp only [TunnelConfig.validateInterfaceName_of_long empty long]
    refine ⟨[], .longName long, ?_⟩
    intro journal
    rw [List.append_nil]
  have short := Nat.not_lt.mp long
  have accepted := TunnelConfig.validateInterfaceName_eq_ok_iff.mpr ⟨empty, short⟩
  simp only [accepted]
  rcases control.attachOn descriptor (asked config) host with ⟨⟨fault | _, left⟩, after⟩
  · exact ⟨[.attach descriptor (asked config) (.error fault) left],
      .refused empty short fault left, fun _ => rfl⟩
  · let request := KernelCall.attach descriptor (asked config) (.ok ()) left
    obtain ⟨calls, keeping, ran⟩ := exists_keeping control config descriptor after left.name
    refine ⟨request :: calls, .attached empty short left keeping, ?_⟩
    intro journal
    have next := ran (journal ++ [request])
    rw [List.append_assoc] at next
    dsimp only
    rw [next]
    rfl

end Binder

end TunnelProvisioning
