import Mathlib.Data.List.Forall2
import TunnelProvisioning.Proofs.Adapter.Device

/-! # Strict and lenient bring-up

The two modes differ only in what becomes of a refused request. So a bring-up that strict mode lets
through is the same run in both modes, log included, and so is one that cannot open its device.
Where strict mode gives up, the lenient run has come to the same request and goes on: it sends what
is left, warns of every refusal in turn and keeps the device.
-/

namespace TunnelProvisioning.Device

open SimulatedDevices (bus)

variable (strict : Bool) (handle : Int) (request : UInt32) (input : List UInt8)
  (instanceId : String) (addressing : Addressing) (devices : SimulatedDevices)

/-! ## The log of a bring-up -/

/-- What is logged about a refused request that is not fatal. -/
def refusalWarning (code : Int) : Event :=
  ⟨.warn, .device,
    s!"TAP control request {request} failed, continuing: {(IoError.numbered code).message}"⟩

def sendEvents : List Event :=
  match strict, devices.refusal? (controlCode request buffered) with
  | false, some code => [refusalWarning request code]
  | _, _ => []

theorem events_send :
    ((send bus strict handle request input).run devices).events =
      sendEvents strict request devices := by
  cases refusal : devices.refusal? (controlCode request buffered) with
  | none =>
    simp [send, sendEvents, Action.run_bind, bus, refusal,
      SimulatedDevices.control_of_accepted refusal]
  | some code =>
    cases strict <;>
      simp [send, sendEvents, refusalWarning, Action.run_bind, bus, refusal,
        SimulatedDevices.control_of_refused refusal]

def bringUpEvents : List Event :=
  sendEvents strict setMediaStatus devices ++
    if (sendAnswer strict setMediaStatus devices).isOk then
      sendEvents strict configureTunnel devices
    else []

theorem events_bringUp :
    ((bringUp bus strict addressing handle).run devices).events =
      bringUpEvents strict devices := by
  obtain ⟨first, afterFirst⟩ := run_send strict handle setMediaStatus connected devices
  rw [bringUp, Action.events_bind, first, afterFirst, events_send, bringUpEvents]
  cases sendAnswer strict setMediaStatus devices with
  | error fault => rfl
  | ok =>
    rw [events_send]
    rfl

def openingEvent : Event :=
  ⟨.debug, .device, s!"Opening TAP device {path instanceId}"⟩

def upEvent : Event :=
  ⟨.info, .device, s!"TAP device {path instanceId} is up with {addressing}"⟩

/-- Where no device can be opened, both modes end in the same run. -/
theorem run_configure_of_unavailable {code : Int} (unavailable : devices.openRefusal = some code) :
    (configure bus instanceId addressing strict).run devices =
      ⟨.error (.deviceUnavailable (path instanceId) code), devices,
        [openingEvent instanceId, ⟨.warn, .device,
          s!"Failed to open {path instanceId}: {(IoError.numbered code).message}"⟩]⟩ := by
  simp [configure, openingEvent, Action.run_bind, bus, SimulatedDevices.openDevice, unavailable,
    IoError.reportedCode, IoError.code?]

theorem events_configure (available : devices.openRefusal = none) :
    ((configure bus instanceId addressing strict).run devices).events =
      openingEvent instanceId :: (bringUpEvents strict devices ++
        if (devices.broughtUp instanceId addressing strict).1.isOk then
          [upEvent instanceId addressing]
        else []) := by
  let handle := SimulatedDevices.handleOf (devices.opened + 1)
  let opened := (devices.register (path instanceId) .adapter).2
  have opens : bus.openDevice (path instanceId) .adapter devices = (.ok handle, opened) := by
    simp only [bus, SimulatedDevices.openDevice, available, SimulatedDevices.register, handle,
      opened]
  have logged : bringUpEvents strict opened = bringUpEvents strict devices := rfl
  have outcome := congrArg (·.1.isOk) (run_configure strict devices instanceId addressing)
  rw [← logged, ← events_bringUp strict handle addressing opened, ← outcome]
  simp only [configure, Action.outcome_bind, Action.events_bind, Action.run_log,
    Action.run_operate, Action.run_onFailure, Action.run_pure, opens, Except.bind]
  rcases (bringUp bus strict addressing handle).run opened with ⟨fault | up, after, events⟩
  · rfl
  · rfl

/-- Once a device can be opened, a bring-up comes to what `SimulatedDevices.broughtUp` describes,
and logs its start, its requests and its success. -/
theorem run_configure_of_available (available : devices.openRefusal = none) :
    let up := devices.broughtUp instanceId addressing strict
    (configure bus instanceId addressing strict).run devices =
      ⟨up.1, up.2, openingEvent instanceId :: (bringUpEvents strict devices ++
        if up.1.isOk then [upEvent instanceId addressing] else [])⟩ := by
  intro up
  obtain ⟨outcome, state⟩ :=
    Prod.mk.inj (run_configure strict devices instanceId addressing)
  rw [← events_configure strict instanceId addressing devices available]
  rw [show up.1 = _ from outcome.symm, show up.2 = _ from state.symm]

/-! ## Refusals and warnings -/

def isRefused (request : ControlRequest) : Bool :=
  (devices.refusal? request.code).isSome

/-- Whether an event warns that a request was refused, and under which error. -/
def WarnsOf (request : ControlRequest) (event : Event) : Prop :=
  ∃ number code, request.code = controlCode number buffered ∧
    devices.refusal? request.code = some code ∧ event = refusalWarning number code

/-- In lenient mode a request is warned of exactly if it is refused. -/
theorem warnsOf_sendEvents :
    List.Forall₂ (WarnsOf devices)
      ([⟨handle, controlCode request buffered, input⟩].filter (isRefused devices))
      (sendEvents false request devices) := by
  cases refusal : devices.refusal? (controlCode request buffered) with
  | none =>
    simp only [isRefused, sendEvents, refusal, List.filter_cons, List.filter_nil,
      Option.isSome_none, Bool.false_eq_true, if_false]
    exact .nil
  | some code =>
    simp only [isRefused, sendEvents, refusal, List.filter_cons, List.filter_nil,
      Option.isSome_some, if_true]
    exact .cons ⟨request, code, rfl, refusal, rfl⟩ .nil

/-- The requests that bring up an adapter, in their order. -/
def adapterRequests : List ControlRequest :=
  [⟨handle, controlCode setMediaStatus buffered, connected⟩,
    ⟨handle, controlCode configureTunnel buffered, addressing.driverOctets⟩]

/-- A lenient bring-up warns of its refused requests one by one. -/
theorem warnsOf_bringUpEvents :
    List.Forall₂ (WarnsOf devices)
      ((adapterRequests handle addressing).filter (isRefused devices))
      (bringUpEvents false devices) := by
  have answered : sendAnswer false setMediaStatus devices = .ok () := rfl
  have requests : adapterRequests handle addressing =
      [⟨handle, controlCode setMediaStatus buffered, connected⟩] ++
        [⟨handle, controlCode configureTunnel buffered, addressing.driverOctets⟩] := rfl
  rw [requests, List.filter_append, bringUpEvents, answered]
  exact List.rel_append (warnsOf_sendEvents ..) (warnsOf_sendEvents ..)

/-! ## The two modes -/

theorem adapterRequests_eq :
    adapterRequests handle addressing =
      [⟨handle, 0x00220018, [1, 0, 0, 0]⟩, ⟨handle, 0x00220028, addressing.localAddress.octets ++
        addressing.network.octets ++ addressing.netmask.octets⟩] := by
  rw [adapterRequests, Addressing.driverOctets_eq]
  rfl

theorem bringUpEvents_eq :
    bringUpEvents strict devices =
      match strict, devices.refusal? 0x00220018, devices.refusal? 0x00220028 with
      | true, _, _ => []
      | false, first, second =>
        (first.map (refusalWarning 6)).toList ++ (second.map (refusalWarning 10)).toList := by
  have plug : controlCode setMediaStatus buffered = 0x00220018 := by decide
  have address : controlCode configureTunnel buffered = 0x00220028 := by decide
  simp only [bringUpEvents, sendEvents, sendAnswer, plug, address]
  cases strict with
  | true =>
    cases devices.refusal? 0x00220018 <;> cases devices.refusal? 0x00220028 <;> rfl
  | false =>
    cases devices.refusal? 0x00220018 <;> cases devices.refusal? 0x00220028 <;> rfl

/-- Devices of which one more is open, with requests sent to it. -/
def kept (sent : List ControlRequest) : SimulatedDevices :=
  { devices with
    opened := devices.opened + 1
    opens := devices.opens ++ [(path instanceId, .adapter)]
    requests := devices.requests ++ sent }

/-- In lenient mode an adapter is up if its device can be opened. -/
theorem run_lenient (available : devices.openRefusal = none) :
    let handle := SimulatedDevices.handleOf (devices.opened + 1)
    (configure bus instanceId addressing false).run devices =
      ⟨.ok handle, kept instanceId devices (adapterRequests handle addressing),
        openingEvent instanceId ::
          (bringUpEvents false devices ++ [upEvent instanceId addressing])⟩ := by
  intro handle
  have up : devices.broughtUp instanceId addressing false =
      (.ok handle, kept instanceId devices (adapterRequests handle addressing)) := by
    simp only [SimulatedDevices.broughtUp, available, kept, adapterRequests_eq,
      SimulatedDevices.requested, List.append_assoc, List.singleton_append]
    rfl
  rw [run_configure_of_available _ _ _ _ available, up]
  rfl

/-- If both requests are accepted, strict mode does what lenient mode does. -/
theorem run_strict_of_accepted (available : devices.openRefusal = none)
    (first : devices.refusal? 0x00220018 = none) (second : devices.refusal? 0x00220028 = none) :
    (configure bus instanceId addressing true).run devices =
      (configure bus instanceId addressing false).run devices := by
  have up : devices.broughtUp instanceId addressing true =
      devices.broughtUp instanceId addressing false := by
    simp only [SimulatedDevices.broughtUp, available, first, second]
  have events : bringUpEvents true devices = bringUpEvents false devices := by
    simp only [bringUpEvents_eq, first, second]
    rfl
  rw [run_configure_of_available _ _ _ _ available, run_configure_of_available _ _ _ _ available,
    up, events]

/-- If a request is refused, strict mode stops there, and lenient mode warns of it first. -/
theorem run_strict_of_refused (available : devices.openRefusal = none)
    (refused : devices.refusal? 0x00220018 ≠ none ∨ devices.refusal? 0x00220028 ≠ none) :
    let strict := (configure bus instanceId addressing true).run devices
    ∃ number code sent last more,
      adapterRequests (SimulatedDevices.handleOf (devices.opened + 1)) addressing =
        sent ++ last :: more ∧
      last.code = controlCode number buffered ∧
      strict.outcome = .error (.requestRejected number code) ∧
      strict.state.requests = devices.requests ++ (sent ++ [last]) ∧
      (bringUpEvents false devices).head? = some (refusalWarning number code) := by
  intro strict
  have run := run_configure_of_available true instanceId addressing devices available
  simp only [strict, run, adapterRequests_eq, bringUpEvents_eq]
  cases first : devices.refusal? 0x00220018 with
  | some code =>
    refine ⟨6, code, [], _, _, rfl, rfl, ?_, ?_, rfl⟩
    · simp only [SimulatedDevices.broughtUp, available, first]
    · simp only [SimulatedDevices.broughtUp, available, first, SimulatedDevices.requested]
      rfl
  | none =>
    have later := refused.resolve_left (not_not.mpr first)
    obtain ⟨code, second⟩ := Option.ne_none_iff_exists'.mp later
    refine ⟨10, code, [_], _, [], rfl, rfl, ?_, ?_, ?_⟩
    · simp only [SimulatedDevices.broughtUp, available, first, second]
    · simp only [SimulatedDevices.broughtUp, available, first, second, SimulatedDevices.requested,
        List.append_assoc]
    · simp only [second]
      rfl

/-- A bring-up that strict mode lets through got both requests accepted, and it is the same run in
lenient mode: handle, devices and log. So is a bring-up without a device. A request that ends a
strict bring-up is the last one sent; the lenient bring-up sent the same requests before it sent
what is left, keeps the device, and warns of each refused request in turn, of that one first. No
refusal ends a lenient bring-up. -/
theorem modes_agree_until_refusal (instanceId : String) (addressing : Addressing)
    (devices : SimulatedDevices) :
    let strict := (configure bus instanceId addressing true).run devices
    let lenient := (configure bus instanceId addressing false).run devices
    (∀ handle, strict.outcome = .ok handle → lenient = strict ∧
      ∃ sent, strict.state.requests = devices.requests ++ sent ∧ sent.length = 2 ∧
        ∀ request ∈ sent, devices.refusal? request.code = none) ∧
    (∀ path code, strict.outcome = .error (.deviceUnavailable path code) → lenient = strict) ∧
    (∀ number code, strict.outcome = .error (.requestRejected number code) →
      ∃ handle sent last more warnings,
        strict.state.requests = devices.requests ++ (sent ++ [last]) ∧
        last.code = controlCode number buffered ∧
        lenient.outcome = .ok handle ∧
        lenient.state = kept instanceId devices (sent ++ last :: more) ∧
        lenient.events =
          openingEvent instanceId :: (warnings ++ [upEvent instanceId addressing]) ∧
        List.Forall₂ (WarnsOf devices)
          ((sent ++ last :: more).filter (isRefused devices)) warnings ∧
        warnings.head? = some (refusalWarning number code)) ∧
    ∀ number code, lenient.outcome ≠ .error (.requestRejected number code) := by
  intro strict lenient
  cases available : devices.openRefusal with
  | some fault =>
    have ends (mode : Bool) :=
      run_configure_of_unavailable mode instanceId addressing devices available
    have same : lenient = strict := (ends false).trans (ends true).symm
    have outcome : strict.outcome = .error (.deviceUnavailable (path instanceId) fault) :=
      congrArg Report.outcome (ends true)
    rw [same, outcome]
    exact ⟨nofun, fun _ _ _ => rfl, nofun, nofun⟩
  | none =>
    have up := run_lenient instanceId addressing devices available
    have unrefused : ∀ number code, lenient.outcome ≠ .error (.requestRejected number code) := by
      simp only [lenient, up]
      nofun
    by_cases accepted :
        devices.refusal? 0x00220018 = none ∧ devices.refusal? 0x00220028 = none
    · obtain ⟨first, second⟩ := accepted
      have same : lenient = strict :=
        (run_strict_of_accepted instanceId addressing devices available first second).symm
      let sent := adapterRequests (SimulatedDevices.handleOf (devices.opened + 1)) addressing
      have requests : strict.state.requests = devices.requests ++ sent := by
        rw [← same]
        exact congrArg (·.state.requests) up
      have unrejected : ∀ request ∈ sent, devices.refusal? request.code = none := by
        simp only [sent, adapterRequests_eq, List.forall_mem_cons, List.not_mem_nil, false_imp_iff,
          implies_true, and_true]
        exact ⟨first, second⟩
      rw [same] at unrefused
      exact ⟨fun _ _ => ⟨same, sent, requests, rfl, unrejected⟩, fun _ _ _ => same,
        fun number code rejected => absurd rejected (unrefused number code),
        by rwa [same]⟩
    · obtain ⟨number, code, sent, last, more, requests, asks, outcome, stopped, first⟩ :=
        run_strict_of_refused instanceId addressing devices available (not_and_or.mp accepted)
      have warned := warnsOf_bringUpEvents
        (SimulatedDevices.handleOf (devices.opened + 1)) addressing devices
      rw [requests] at warned
      simp only [requests] at up
      change strict.outcome = _ at outcome
      refine ⟨?_, ?_, ?_, unrefused⟩
      · rw [outcome]
        nofun
      · rw [outcome]
        nofun
      · intro number' code' rejected
        cases outcome.symm.trans rejected
        exact ⟨_, sent, last, more, bringUpEvents false devices, stopped, asks,
          congrArg (·.outcome) up, congrArg (·.state) up, congrArg (·.events) up, warned, first⟩

/-- Devices that refuse the addressing: a strict bring-up ends at its second request, and a lenient
one warns of it and keeps the device. -/
theorem modes_agree_until_refusal_addressing :
    let devices := SimulatedDevices.refusingCode 0x00220028 87
    let strict := (configure bus "id" .standard true).run devices
    let lenient := (configure bus "id" .standard false).run devices
    strict.outcome = .error (.requestRejected 10 87) ∧ lenient.outcome = .ok 0x104 ∧
      ∃ sent last more warnings, strict.state.requests = sent ++ [last] ∧
        lenient.state.requests = sent ++ last :: more ∧ lenient.state.closed = [] ∧
        lenient.events =
          openingEvent "id" :: (warnings ++ [upEvent "id" .standard]) ∧
        warnings.head? = some (refusalWarning 10 87) := by
  intro devices strict lenient
  have rejected : strict.outcome = .error (.requestRejected 10 87) := by decide
  have up : lenient.outcome = .ok 0x104 := by decide
  obtain ⟨handle, sent, last, more, warnings, stopped, _, _, state, events, _, first⟩ :=
    (modes_agree_until_refusal "id" .standard devices).2.2.1 10 87 rejected
  change lenient.state = _ at state
  exact ⟨rejected, up, sent, last, more, warnings, stopped, by rw [state]; rfl, by rw [state]; rfl,
    events, first⟩

end TunnelProvisioning.Device
