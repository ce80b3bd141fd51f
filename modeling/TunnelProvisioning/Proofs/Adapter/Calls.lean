import TunnelProvisioning.Adapter.Calls
import TunnelProvisioning.Proofs.Adapter.Session

/-! # Calls that repeat one another

Nothing is kept from one call of a provisioner to the next. What a call shows follows from the
registry, the configuration and what the devices refuse; of all that went before, only the number of
devices that were opened comes into it, as the handle of the next device. So however many calls are
made and whatever becomes of their devices, the calls differ in nothing but handles, and these
always differ.
-/

namespace TunnelProvisioning

namespace SimulatedDevices

/-- Devices that refuse the same and to which nothing was done yet. -/
def unused (devices : SimulatedDevices) : SimulatedDevices where
  openRefusal := devices.openRefusal
  controlRefusal := devices.controlRefusal
  refusedCode := devices.refusedCode

/-- The requests for an adapter that is brought up, and what becomes of them. -/
def exchange (addressing : Addressing) (strict : Bool) (devices : SimulatedDevices) :
    Except ProvisionError Unit × List (UInt32 × List UInt8) :=
  let plug := (0x00220018, [1, 0, 0, 0])
  let address := (0x00220028,
    addressing.localAddress.octets ++ addressing.network.octets ++ addressing.netmask.octets)
  match strict, devices.refusal? 0x00220018, devices.refusal? 0x00220028 with
  | true, some code, _ => (.error (.requestRejected 6 code), [plug])
  | true, none, some code => (.error (.requestRejected 10 code), [plug, address])
  | _, _, _ => (.ok (), [plug, address])

/-- All that bringing up an adapter does. The handle of the device is the only part of it that
depends on what was done before. -/
theorem broughtUp_eq (instanceId : String) (addressing : Addressing) (strict : Bool)
    (devices : SimulatedDevices) :
    devices.broughtUp instanceId addressing strict =
      match devices.unused.openRefusal with
      | some code => (.error (.deviceUnavailable (Device.path instanceId) code), devices)
      | none =>
        let (handle, opened) := devices.register (Device.path instanceId) .adapter
        let (answer, sent) := devices.unused.exchange addressing strict
        (answer.map fun _ => handle,
          { opened with
            requests := opened.requests ++ sent.map fun (code, input) => ⟨handle, code, input⟩
            closed := opened.closed ++ if answer.isOk then [] else [handle] }) := by
  have same (code : UInt32) : devices.unused.refusal? code = devices.refusal? code := rfl
  change _ = match devices.openRefusal with | some _ => _ | none => _
  simp only [broughtUp, exchange, same, register, requested, OpenOptions.adapter, Device.path]
  cases devices.openRefusal with
  | some code => rfl
  | none =>
    cases strict with
    | false => simp [Except.map, Except.isOk, Except.toBool]
    | true =>
      cases devices.refusal? 0x00220018 with
      | some code => simp [Except.map, Except.isOk, Except.toBool]
      | none =>
        cases devices.refusal? 0x00220028 <;> simp [Except.map, Except.isOk, Except.toBool]

theorem handlesAfter_eq_drop (count : Nat) (devices : SimulatedDevices) :
    devices.handlesAfter count = devices.issued.drop count := by
  simp only [handlesAfter, issued, List.range_eq_range', ← List.map_drop, List.drop_range',
    Nat.zero_add, Nat.mul_one]

end SimulatedDevices

/-- A call that works on a device of its own: it sends requests to no other device and answers with
no other handle. -/
structure CallRecord.OnOwnDevice (record : CallRecord) : Prop where
  length_handles : record.handles.length = record.opens.length
  requests : ∀ request ∈ record.requests, record.handles = [request.handle]
  outcome : ∀ handle, AdapterSession.handle? record.outcome = some handle →
    record.handles = [handle]

namespace AdapterProvisioner

open SimulatedDevices (unused exchange handleOf)

variable (registry : Registry) (config : TunnelConfig)

/-- What a call shows over unused devices, if the handle of the next device is given. -/
def callRecord (devices : SimulatedDevices) (handle : Int) : CallRecord :=
  let paths := registry.adapterPaths config.componentId
  match registry.adapterAnswer config.componentId with
  | .error fault => ⟨.error fault, paths, [], [], []⟩
  | .ok adapter =>
    let path := Device.path adapter.instanceId
    match devices.openRefusal with
    | some code => ⟨.error (.deviceUnavailable path code), paths, [], [], []⟩
    | none =>
      let (answer, sent) := devices.exchange config.addressing config.strictControl
      ⟨answer.map fun _ => .opened adapter handle, paths, [(path, .adapter)], [handle],
        sent.map fun (code, input) => ⟨handle, code, input⟩⟩

/-- A call shows an error and no device, or one device and what became of it. -/
theorem callRecord_cases (devices : SimulatedDevices) :
    let paths := registry.adapterPaths config.componentId
    (∃ fault, ∀ handle,
        callRecord registry config devices handle = ⟨.error fault, paths, [], [], []⟩) ∨
      ∃ (adapter : AdapterDescriptor) (answer : Except ProvisionError Unit)
          (sent : List (UInt32 × List UInt8)), ∀ handle,
        callRecord registry config devices handle =
          ⟨answer.map fun _ => .opened adapter handle, paths,
            [(Device.path adapter.instanceId, .adapter)], [handle],
            sent.map fun (code, input) => ⟨handle, code, input⟩⟩ := by
  simp only [callRecord]
  cases registry.adapterAnswer config.componentId with
  | error fault => exact .inl ⟨fault, fun _ => rfl⟩
  | ok adapter =>
    cases devices.openRefusal with
    | some code => exact .inl ⟨_, fun _ => rfl⟩
    | none => exact .inr ⟨adapter, _, _, fun _ => rfl⟩

/-- Handles are in a record in the places of handles only. -/
theorem content_callRecord (devices : SimulatedDevices) (handle handle' : Int) :
    (callRecord registry config devices handle).content =
      (callRecord registry config devices handle').content := by
  obtain ⟨fault, refused⟩ | ⟨adapter, answer, sent, brought⟩ :=
    callRecord_cases registry config devices
  · rw [refused, refused]
  · rw [brought, brought]
    cases answer <;> simp [CallRecord.content, Except.map, Provisioned.tunnel]

theorem onOwnDevice_callRecord (devices : SimulatedDevices) (handle : Int) :
    (callRecord registry config devices handle).OnOwnDevice := by
  obtain ⟨fault, refused⟩ | ⟨adapter, answer, sent, brought⟩ :=
    callRecord_cases registry config devices
  · rw [refused]
    exact ⟨rfl, nofun, nofun⟩
  · rw [brought]
    refine ⟨rfl, ?_, ?_⟩
    · intro request member
      obtain ⟨_, _, rfl⟩ := List.mem_map.mp member
      rfl
    · intro other answered
      cases answer with
      | error fault => cases answered
      | ok =>
        obtain rfl := Option.some.inj answered
        rfl

/-- What was opened and sent between two states is what the records of calls show. -/
structure Recorded (before : KeyLedger × SimulatedDevices) (records : List CallRecord)
    (after : KeyLedger × SimulatedDevices) : Prop where
  paths : after.1.paths = before.1.paths ++ records.flatMap (·.paths)
  opens : after.2.opens = before.2.opens ++ records.flatMap (·.opens)
  issued : after.2.issued = before.2.issued ++ records.flatMap (·.handles)
  requests : after.2.requests = before.2.requests ++ records.flatMap (·.requests)

namespace Recorded

variable {first second third : KeyLedger × SimulatedDevices} {earlier later : List CallRecord}

theorem refl (state : KeyLedger × SimulatedDevices) : Recorded state [] state where
  paths := (List.append_nil _).symm
  opens := (List.append_nil _).symm
  issued := (List.append_nil _).symm
  requests := (List.append_nil _).symm

/-- A call that opens no device leaves its keys only. -/
theorem visit (fault : ProvisionError) (paths : List String) (ledger : KeyLedger)
    (devices : SimulatedDevices) :
    Recorded (ledger, devices) [⟨.error fault, paths, [], [], []⟩]
      (ledger.visit paths, devices) where
  paths := congrArg (ledger.paths ++ ·) (List.append_nil paths).symm
  opens := (List.append_nil _).symm
  issued := (List.append_nil _).symm
  requests := (List.append_nil _).symm

theorem append (left : Recorded first earlier second) (right : Recorded second later third) :
    Recorded first (earlier ++ later) third where
  paths := by rw [right.paths, left.paths, List.flatMap_append, List.append_assoc]
  opens := by rw [right.opens, left.opens, List.flatMap_append, List.append_assoc]
  issued := by rw [right.issued, left.issued, List.flatMap_append, List.append_assoc]
  requests := by rw [right.requests, left.requests, List.flatMap_append, List.append_assoc]

end Recorded

/-- A provisioner does what the record of a call over unused devices says. -/
theorem recorded_provision (descriptor? : Option Int32) (ledger : KeyLedger)
    (devices : SimulatedDevices) :
    let record := callRecord registry config devices.unused (handleOf (devices.opened + 1))
    let report := ((simulated registry config).provisioner.provision descriptor?).run
      (ledger, devices)
    report.outcome = record.outcome ∧ report.state.2.unused = devices.unused ∧
      Recorded (ledger, devices) [record] report.state := by
  intro record report
  obtain ⟨ran, visited⟩ := run_provision registry config descriptor? ledger devices
  change (report.outcome, report.state.2) = _ at ran
  change report.state.1 = _ at visited
  obtain ⟨outcome, ⟨keys, after⟩, events⟩ := report
  subst visited
  revert ran
  simp only [record, callRecord]
  cases registry.adapterAnswer config.componentId with
  | error fault =>
    rintro ⟨⟩
    exact ⟨rfl, rfl, .visit fault _ ledger devices⟩
  | ok adapter =>
    simp only [SimulatedDevices.broughtUp_eq]
    cases devices.unused.openRefusal with
    | some code =>
      rintro ⟨⟩
      exact ⟨rfl, rfl, .visit _ _ ledger devices⟩
    | none =>
      obtain ⟨answer, sent⟩ := devices.unused.exchange config.addressing config.strictControl
      rintro ⟨⟩
      have issued := SimulatedDevices.issued_register (Device.path adapter.instanceId) .adapter
        devices
      refine ⟨?_, rfl, ?_⟩
      · cases answer <;> rfl
      · exact {
          paths := congrArg (ledger.paths ++ ·) (List.append_nil _).symm
          opens := rfl
          issued := issued
          requests := congrArg (devices.requests ++ ·) (List.append_nil _).symm }

/-- Of all that was done before, only the handle of the next device shows in a call. -/
theorem call_spec (descriptor? : Option Int32) (state : KeyLedger × SimulatedDevices) :
    let called := call registry config descriptor? state
    called.1 = callRecord registry config state.2.unused (handleOf (state.2.opened + 1)) ∧
      called.2.2.unused = state.2.unused ∧ Recorded state [called.1] called.2 := by
  intro called
  obtain ⟨ledger, devices⟩ := state
  obtain ⟨answered, kept, shown⟩ :=
    recorded_provision registry config descriptor? ledger devices
  have record_eq : called.1 =
      callRecord registry config devices.unused (handleOf (devices.opened + 1)) := by
    -- The record of a call is what its state has beyond the state before.
    have ⟨paths, opens, issued, requests⟩ := shown
    simp only [List.flatMap_singleton] at paths opens issued requests
    simp only [called, call, answered, paths, opens, requests, SimulatedDevices.handlesAfter_eq_drop,
      issued, ← devices.length_issued, List.drop_left]
  exact ⟨record_eq, kept, record_eq ▸ shown⟩

/-- What steps leave behind, and what their calls show. -/
theorem records_spec (steps : List CallerStep) (state : KeyLedger × SimulatedDevices) :
    let recorded := records registry config steps state
    (∀ record ∈ recorded, ∃ handle,
        record = callRecord registry config state.2.unused handle) ∧
      recorded.length = steps.countP (·.isCall) ∧
      Recorded state recorded (stateAfter registry config steps state) := by
  induction steps generalizing state with
  | nil => exact ⟨nofun, rfl, .refl state⟩
  | cons step rest ih =>
    obtain ⟨alike, count, shown⟩ := ih (perform registry config state step)
    cases step with
    | call descriptor? =>
      obtain ⟨record_eq, kept, first⟩ := call_spec registry config descriptor? state
      refine ⟨?_, ?_, first.append shown⟩
      · intro record member
        obtain rfl | later := List.mem_cons.mp member
        · exact ⟨_, record_eq⟩
        · exact kept ▸ alike record later
      · rw [List.countP_cons_of_pos rfl, ← count]
        rfl
    -- Devices that are closed or released keep their place among those that were opened.
    | close handle =>
      exact ⟨alike, count, ⟨shown.paths, shown.opens, shown.issued, shown.requests⟩⟩
    | release handle =>
      exact ⟨alike, count, ⟨shown.paths, shown.opens, shown.issued, shown.requests⟩⟩

/-- However many calls are made, and whichever devices are closed or released in between, each call
opens the same keys and devices, sends the same and answers the same as any first call would; what
it does it does to a device of its own, and no two of these have the same handle. -/
theorem records_repeat (steps : List CallerStep) (state : KeyLedger × SimulatedDevices)
    (descriptor? : Option Int32) :
    let recorded := records registry config steps state
    recorded.map (·.content) = List.replicate (steps.countP (·.isCall))
        (call registry config descriptor? state).1.content ∧
      Recorded state recorded (stateAfter registry config steps state) ∧
      (∀ record ∈ recorded, record.OnOwnDevice) ∧
      (state.2.issued ++ recorded.flatMap (·.handles)).Nodup := by
  intro recorded
  obtain ⟨alike, count, shown⟩ := records_spec registry config steps state
  obtain ⟨first, -, -⟩ := call_spec registry config descriptor? state
  refine ⟨?_, shown, ?_, ?_⟩
  · refine List.eq_replicate_iff.mpr ⟨(List.length_map _).trans count, ?_⟩
    intro content member
    obtain ⟨record, later, rfl⟩ := List.mem_map.mp member
    obtain ⟨handle, rfl⟩ := alike record later
    rw [first]
    exact content_callRecord registry config _ _ _
  · intro record member
    obtain ⟨handle, rfl⟩ := alike record member
    exact onOwnDevice_callRecord registry config _ handle
  · rw [← shown.issued]
    exact SimulatedDevices.nodup_issued _

end AdapterProvisioner

end TunnelProvisioning
