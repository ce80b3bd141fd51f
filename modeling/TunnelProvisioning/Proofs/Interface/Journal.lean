import TunnelProvisioning.Proofs.Interface.Binding

/-! # What a kernel is asked

However binders are used over one kernel, and whatever it answers, each use keeps to the protocol of
`Binder.Exchange`, and the journal of the kernel is what the uses ask one after the other. So no
interface is ever kept alive that was not attached by the call before.
-/

namespace TunnelProvisioning

variable {κ : Type}

namespace KernelCall

/-- Each call to keep an interface or to let it go comes directly after an accepted request for the
same descriptor. -/
def Licensed (calls : List KernelCall) : Prop :=
  ∀ before descriptor keep answer after,
    calls = before ++ .persist descriptor keep answer :: after →
      ∃ earlier request left, before = earlier ++ [.attach descriptor request (.ok ()) left]

theorem licensed_nil : Licensed [] := by
  intro before descriptor keep answer after split
  exact absurd split.symm (List.append_ne_nil_of_right_ne_nil _ (List.cons_ne_nil _ _))

theorem licensed_attach (descriptor : Int32) (request : InterfaceRequest)
    (answer : Except IoError Unit) (left : InterfaceRequest) :
    Licensed [.attach descriptor request answer left] := by
  intro before _ _ _ _ split
  cases before with
  | nil => simp at split
  | cons first more => simp at split

theorem licensed_attach_persist (descriptor : Int32) (request left : InterfaceRequest) (keep : Bool)
    (answer : Except IoError Unit) :
    Licensed [.attach descriptor request (.ok ()) left, .persist descriptor keep answer] := by
  intro before other _ _ _ split
  rcases before with _ | ⟨first, _ | ⟨second, more⟩⟩
  · simp at split
  · simp only [List.cons_append, List.nil_append, List.cons.injEq, persist.injEq] at split
    obtain ⟨rfl, ⟨rfl, _⟩, _⟩ := split
    exact ⟨[], request, left, rfl⟩
  · simp at split

/-- A call in the second of two lists has the call before it in that list too. -/
theorem Licensed.append {first second : List KernelCall} (left : Licensed first)
    (right : Licensed second) : Licensed (first ++ second) := by
  intro before descriptor keep answer after split
  rcases List.append_eq_append_iff.mp split with ⟨between, rfl, inSecond⟩ | ⟨between, inFirst, rest⟩
  · obtain ⟨earlier, request, answered, rfl⟩ := right _ _ _ _ _ inSecond
    exact ⟨first ++ earlier, request, answered, (List.append_assoc _ _ _).symm⟩
  · cases between with
    | nil =>
      rw [List.nil_append] at rest
      obtain ⟨earlier, _, _, nothing⟩ := right [] _ _ _ _ rest.symm
      exact absurd nothing.symm (List.append_ne_nil_of_right_ne_nil _ (List.cons_ne_nil _ _))
    | cons call between =>
      obtain ⟨rfl, _⟩ := List.cons.inj rest
      exact left _ _ _ _ _ inFirst

end KernelCall

/-- A descriptor is bound with licensed calls. -/
theorem Binder.Exchange.licensed {config : TunnelConfig} {descriptor : Int32}
    {outcome : Except ProvisionError BoundInterface} {events : List Event}
    {calls : List KernelCall} (exchange : Exchange config descriptor outcome events calls) :
    KernelCall.Licensed calls := by
  cases exchange with
  | emptyName empty => exact KernelCall.licensed_nil
  | longName long => exact KernelCall.licensed_nil
  | refused nonempty short fault left => exact KernelCall.licensed_attach _ _ _ _
  | attached nonempty short left keeping =>
    cases keeping with
    | idle off => exact KernelCall.licensed_attach _ _ _ _
    | granted on => exact KernelCall.licensed_attach_persist _ _ _ _ _
    | refused on fault => exact KernelCall.licensed_attach_persist _ _ _ _ _

/-- A use of a binder that keeps to the protocol. -/
inductive UseRecord.Orderly : UseRecord → Prop where
  | bind {config : TunnelConfig} {descriptor : Int32}
      {outcome : Except ProvisionError BoundInterface} {events : List Event}
      {calls : List KernelCall}
      (exchange : Binder.Exchange config descriptor outcome events calls) :
      Orderly ⟨.bind config descriptor, outcome.map .bound, events, calls⟩
  | provision {config : TunnelConfig} {descriptor : Int32}
      {outcome : Except ProvisionError BoundInterface} {events : List Event}
      {calls : List KernelCall}
      (exchange : Binder.Exchange config descriptor outcome events calls) :
      Orderly ⟨.provision config (some descriptor), outcome.map .bound, events, calls⟩
  | noDescriptor (config : TunnelConfig) :
      Orderly ⟨.provision config none, .error .noDescriptor, [], []⟩

theorem UseRecord.Orderly.licensed {record : UseRecord} (orderly : record.Orderly) :
    KernelCall.Licensed record.calls := by
  cases orderly with
  | bind exchange => exact exchange.licensed
  | provision exchange => exact exchange.licensed
  | noDescriptor config => exact KernelCall.licensed_nil

/-- The calls of orderly uses one after the other are licensed. -/
theorem UseRecord.licensed_flatMap {recorded : List UseRecord}
    (orderly : ∀ record ∈ recorded, record.Orderly) :
    KernelCall.Licensed (recorded.flatMap (·.calls)) := by
  induction recorded with
  | nil => exact KernelCall.licensed_nil
  | cons record rest ih =>
    have first := (orderly record List.mem_cons_self).licensed
    have others := ih fun other member => orderly other (List.mem_cons_of_mem _ member)
    exact first.append others

namespace BinderUse

variable (control : InterfaceControl κ) (use : BinderUse) (host : Host κ)

theorem run_action_bind (config : TunnelConfig) (descriptor : Int32) :
    let report := (Binder.bind ⟨control, config⟩ descriptor).run host
    ((bind config descriptor).action control).run host =
      ⟨report.outcome.map .bound, report.state, report.events⟩ :=
  Action.run_map _ _ host

/-- With a descriptor, to provision a tunnel is to bind it. -/
theorem run_action_provision_some (config : TunnelConfig) (descriptor : Int32) :
    let report := (Binder.bind ⟨control, config⟩ descriptor).run host
    ((provision config (some descriptor)).action control).run host =
      ⟨report.outcome.map .bound, report.state, report.events⟩ :=
  Action.run_map _ _ host

/-- What one use of a binder keeps to, and what it adds to the journal of a kernel. -/
theorem exists_orderly :
    let plain := (use.action control).run host
    ∃ calls, UseRecord.Orderly ⟨use, plain.outcome, plain.events, calls⟩ ∧ ∀ journal,
      (use.action control.journaled).run (host.journaling journal) =
        ⟨plain.outcome, plain.state.journaling (journal ++ calls), plain.events⟩ := by
  intro plain
  cases use with
  | bind config descriptor =>
    obtain ⟨calls, exchange, ran⟩ := Binder.exists_exchange control config descriptor host
    simp only [plain, run_action_bind]
    refine ⟨calls, .bind exchange, ?_⟩
    intro journal
    rw [ran journal]
  | provision config descriptor? =>
    cases descriptor? with
    | none =>
      refine ⟨[], .noDescriptor config, ?_⟩
      intro journal
      rw [List.append_nil]
      rfl
    | some descriptor =>
      obtain ⟨calls, exchange, ran⟩ := Binder.exists_exchange control config descriptor host
      simp only [plain, run_action_provision_some]
      refine ⟨calls, .provision exchange, ?_⟩
      intro journal
      rw [ran journal]

/-- Binding a descriptor is an exchange with the kernel. -/
theorem exchange_bind (config : TunnelConfig) (descriptor : Int32) :
    let report := (Binder.bind ⟨control, config⟩ descriptor).run host
    Binder.Exchange config descriptor report.outcome report.events
      ((bind config descriptor).calls control host) := by
  obtain ⟨calls, exchange, ran⟩ := Binder.exists_exchange control config descriptor host
  rw [BinderUse.calls, InterfaceControl.callsOf, run_action_bind, ran []]
  exact exchange

theorem orderly_perform : (use.perform control host).1.Orderly := by
  obtain ⟨calls, orderly, ran⟩ := exists_orderly control use host
  have asked : use.calls control host = calls := by
    rw [BinderUse.calls, InterfaceControl.callsOf, ran []]
    rfl
  rw [perform, asked]
  exact orderly

theorem run_journaling (journal : List KernelCall) :
    ((use.action control.journaled).run (host.journaling journal)).state =
      ((use.action control).run host).state.journaling (journal ++ use.calls control host) := by
  obtain ⟨calls, _, ran⟩ := exists_orderly control use host
  rw [BinderUse.calls, InterfaceControl.callsOf, ran [], ran journal]
  rfl

theorem hostAfter_journaling (uses : List BinderUse) (journal : List KernelCall) :
    hostAfter control.journaled uses (host.journaling journal) =
      (hostAfter control uses host).journaling
        (journal ++ (records control uses host).flatMap (·.calls)) := by
  induction uses generalizing host journal with
  | nil => rw [records, List.flatMap_nil, List.append_nil]; rfl
  | cons use rest ih =>
    have next := ih ((use.action control).run host).state (journal ++ use.calls control host)
    rw [← run_journaling, List.append_assoc] at next
    exact next

theorem map_use_records (uses : List BinderUse) :
    (records control uses host).map (·.use) = uses := by
  induction uses generalizing host with
  | nil => rfl
  | cons use rest ih => exact congrArg (use :: ·) (ih _)

theorem orderly_of_mem_records (uses : List BinderUse) :
    ∀ record ∈ records control uses host, record.Orderly := by
  induction uses generalizing host with
  | nil =>
    intro record member
    cases member
  | cons use rest ih =>
    intro record member
    rcases List.mem_cons.mp member with rfl | later
    · exact orderly_perform control use host
    · exact ih _ record later

/-- However binders are used over one kernel, and whatever it answers each time: each use is
recorded and orderly, the journal of the kernel holds the calls of the uses in order, and each of
these calls is licensed. -/
theorem orderly_records (uses : List BinderUse) :
    let recorded := records control uses host
    let journal := (hostAfter control.journaled uses (host.journaling [])).interfaces.2
    recorded.map (·.use) = uses ∧ (∀ record ∈ recorded, record.Orderly) ∧
      journal = recorded.flatMap (·.calls) ∧ KernelCall.Licensed journal := by
  intro recorded journal
  have orderly := orderly_of_mem_records control host uses
  have asked : journal = recorded.flatMap (·.calls) := by
    simp only [journal, hostAfter_journaling, List.nil_append]
    rfl
  refine ⟨map_use_records control host uses, orderly, asked, ?_⟩
  rw [asked]
  exact UseRecord.licensed_flatMap orderly

end BinderUse

end TunnelProvisioning
