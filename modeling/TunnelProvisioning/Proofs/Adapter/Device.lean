import TunnelProvisioning.Adapter.SimulatedDevices
import TunnelProvisioning.Proofs.Addressing.Driver

/-! # Bringing up simulated devices

What it does to simulated devices to bring up an adapter, in closed form: whether a device is
opened, which requests reach it in which order, and whether it is closed again. In strict mode the
first refused request is the last one; otherwise both are sent whatever becomes of them.
-/

namespace TunnelProvisioning

namespace SimulatedDevices

/-- Devices to which one more request was sent. -/
def requested (handle : Int) (code : UInt32) (input : List UInt8) (devices : SimulatedDevices) :
    SimulatedDevices :=
  { devices with requests := devices.requests ++ [⟨handle, code, input⟩] }

/-- What bringing up an adapter answers, and the devices that it leaves behind. -/
def broughtUp (instanceId : String) (addressing : Addressing) (strict : Bool)
    (devices : SimulatedDevices) : Except ProvisionError Int × SimulatedDevices :=
  let path := "\\\\.\\Global\\" ++ instanceId ++ ".tap"
  match devices.openRefusal with
  | some code => (.error (.deviceUnavailable path code), devices)
  | none =>
    let handle := handleOf (devices.opened + 1)
    let opened : SimulatedDevices := { devices with
      opened := devices.opened + 1
      opens := devices.opens ++ [(path, ⟨true, true, true, true, true, true⟩)] }
    let plugged := opened.requested handle 0x00220018 [1, 0, 0, 0]
    let addressed := plugged.requested handle 0x00220028
      (addressing.localAddress.octets ++ addressing.network.octets ++ addressing.netmask.octets)
    match strict, devices.refusal? 0x00220018, devices.refusal? 0x00220028 with
    | true, some code, _ =>
      (.error (.requestRejected 6 code), { plugged with closed := plugged.closed ++ [handle] })
    | true, none, some code =>
      (.error (.requestRejected 10 code), { addressed with closed := addressed.closed ++ [handle] })
    | _, _, _ => (.ok handle, addressed)

theorem control_of_accepted {devices : SimulatedDevices} {code : UInt32}
    (accepted : devices.refusal? code = none) (handle : Int) (input : List UInt8)
    (capacity : Nat) :
    devices.control handle code input capacity =
      (.ok (input.take capacity), devices.requested handle code input) := by
  simp only [control, accepted, requested]

theorem control_of_refused {devices : SimulatedDevices} {code : UInt32} {fault : Int}
    (refused : devices.refusal? code = some fault) (handle : Int) (input : List UInt8)
    (capacity : Nat) :
    devices.control handle code input capacity =
      (.error (.numbered fault), devices.requested handle code input) := by
  simp only [control, refused, requested]

end SimulatedDevices

namespace Device

open SimulatedDevices (bus)

variable (strict : Bool) (handle : Int) (request : UInt32) (input : List UInt8)
  (devices : SimulatedDevices)

def sendAnswer : Except ProvisionError Unit :=
  match strict, devices.refusal? (controlCode request buffered) with
  | true, some code => .error (.requestRejected request code)
  | _, _ => .ok ()

theorem run_send :
    ((send bus strict handle request input).run devices).outcome =
        sendAnswer strict request devices ∧
      ((send bus strict handle request input).run devices).state =
        devices.requested handle (controlCode request buffered) input := by
  cases refusal : devices.refusal? (controlCode request buffered) with
  | none =>
    simp [send, sendAnswer, Action.run_bind, bus, refusal,
      SimulatedDevices.control_of_accepted refusal]
  | some code =>
    cases strict <;>
      simp [send, sendAnswer, Action.run_bind, bus, refusal, IoError.reportedCode, IoError.code?,
        SimulatedDevices.control_of_refused refusal]

/-- Both requests are sent unless the first one is refused in strict mode. -/
theorem run_bringUp (addressing : Addressing) :
    let plugged := devices.requested handle (controlCode setMediaStatus buffered) connected
    let addressed := plugged.requested handle (controlCode configureTunnel buffered)
      addressing.driverOctets
    let report := (bringUp bus strict addressing handle).run devices
    report.outcome = (sendAnswer strict setMediaStatus devices).bind
        (fun _ => sendAnswer strict configureTunnel devices) ∧
      report.state = if (sendAnswer strict setMediaStatus devices).isOk then addressed
        else plugged := by
  intro plugged addressed report
  obtain ⟨first, afterFirst⟩ := run_send strict handle setMediaStatus connected devices
  obtain ⟨second, afterSecond⟩ :=
    run_send strict handle configureTunnel addressing.driverOctets plugged
  simp only [report, bringUp, Action.outcome_bind, Action.state_bind, first, afterFirst]
  cases sendAnswer strict setMediaStatus devices with
  | error fault => exact ⟨rfl, rfl⟩
  | ok => exact ⟨second, afterSecond⟩

/-- Once its device is open, an adapter is up if both requests went through, and its device is
closed otherwise. -/
private theorem run_configure_opened {instanceId : String} {opened : SimulatedDevices}
    {devices : SimulatedDevices} {handle : Int} (addressing : Addressing)
    (opens : devices.openDevice (path instanceId) .adapter = (.ok handle, opened)) :
    let report := (configure bus instanceId addressing strict).run devices
    let requests := (bringUp bus strict addressing handle).run opened
    report.outcome = requests.outcome.map (fun _ => handle) ∧
      report.state = if requests.outcome.isOk then requests.state
        else requests.state.close handle := by
  intro report requests
  change bus.openDevice (path instanceId) .adapter devices = (.ok handle, opened) at opens
  simp only [report, configure, Action.outcome_bind, Action.state_bind, Action.run_log,
    Action.run_operate, Action.run_pure, Action.run_onFailure, opens, Except.bind, requests]
  rcases (bringUp bus strict addressing handle).run opened with ⟨fault | up, after, events⟩
  · exact ⟨rfl, rfl⟩
  · exact ⟨rfl, rfl⟩

/-- An adapter is brought up as `SimulatedDevices.broughtUp` describes. -/
theorem run_configure (instanceId : String) (addressing : Addressing) :
    let report := (configure bus instanceId addressing strict).run devices
    (report.outcome, report.state) = devices.broughtUp instanceId addressing strict := by
  intro report
  cases refusal : devices.openRefusal with
  | some code =>
    simp [report, configure, SimulatedDevices.broughtUp, Action.run_bind, bus,
      SimulatedDevices.openDevice, refusal, path, IoError.reportedCode, IoError.code?]
  | none =>
    let handle := SimulatedDevices.handleOf (devices.opened + 1)
    let opened := (devices.register (path instanceId) .adapter).2
    have opens : devices.openDevice (path instanceId) .adapter = (.ok handle, opened) := by
      simp only [SimulatedDevices.openDevice, refusal, SimulatedDevices.register, handle, opened]
    obtain ⟨answered, left⟩ := run_configure_opened strict addressing opens
    obtain ⟨ran, after⟩ := run_bringUp strict handle opened addressing
    have plug : controlCode setMediaStatus buffered = 0x00220018 := by decide
    have address : controlCode configureTunnel buffered = 0x00220028 := by decide
    have plugged : connected = [1, 0, 0, 0] := by decide
    have same (code : UInt32) : opened.refusal? code = devices.refusal? code := rfl
    rw [show report.outcome = _ from answered, show report.state = _ from left, ran, after,
      Addressing.driverOctets_eq]
    simp only [sendAnswer, plug, address, plugged, same]
    simp only [SimulatedDevices.broughtUp, refusal, opened, SimulatedDevices.register]
    cases strict with
    | false => rfl
    | true =>
      cases devices.refusal? 0x00220018 with
      | some code => rfl
      | none => cases devices.refusal? 0x00220028 <;> rfl

end Device

end TunnelProvisioning
