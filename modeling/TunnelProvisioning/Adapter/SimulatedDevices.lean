import TunnelProvisioning.Adapter.Device

/-! # Simulated devices

Devices that keep a record of what was done to them. Every device that is opened gets a handle of
its own. A control request is answered with its own input, unless requests are to be refused.
-/

namespace TunnelProvisioning

structure ControlRequest where
  handle : Int
  code : UInt32
  input : List UInt8
  deriving DecidableEq, Repr

/-- What was done to simulated devices, and what they refuse. -/
structure SimulatedDevices where
  opens : List (String × OpenOptions) := []
  requests : List ControlRequest := []
  /-- How many devices were opened. -/
  opened : Nat := 0
  /-- The handles that were closed. -/
  closed : List Int := []
  /-- The handles that were passed on. -/
  released : List Int := []
  /-- The error number under which no device can be opened. -/
  openRefusal : Option Int := none
  /-- The error number under which requests are refused. -/
  controlRefusal : Option Int := none
  /-- The only control code that is refused. -/
  refusedCode : Option UInt32 := none
  deriving DecidableEq, Repr

namespace SimulatedDevices

def refusingOpen (code : Int) : SimulatedDevices :=
  { openRefusal := some code }

def refusingControl (code : Int) : SimulatedDevices :=
  { controlRefusal := some code }

def refusingCode (refused : UInt32) (code : Int) : SimulatedDevices :=
  { controlRefusal := some code, refusedCode := some refused }

def held (devices : SimulatedDevices) : Nat :=
  devices.opened - devices.closed.length - devices.released.length

/-- The handle of the device that is opened as the given one, counted from one. -/
def handleOf (count : Nat) : Int :=
  0x100 + 4 * count

/-- Opens a device even if devices are to be refused. -/
def register (path : String) (options : OpenOptions) (devices : SimulatedDevices) :
    Int × SimulatedDevices :=
  (handleOf (devices.opened + 1),
    { devices with
      opened := devices.opened + 1
      opens := devices.opens ++ [(path, options)] })

def openDevice (path : String) (options : OpenOptions) (devices : SimulatedDevices) :
    Except IoError Int × SimulatedDevices :=
  match devices.openRefusal with
  | some code => (.error (.numbered code), devices)
  | none =>
    let (handle, devices) := devices.register path options
    (.ok handle, devices)

/-- The error under which a control code is refused. -/
def refusal? (devices : SimulatedDevices) (code : UInt32) : Option Int :=
  match devices.refusedCode with
  | none => devices.controlRefusal
  | some refused => if refused = code then devices.controlRefusal else none

/-- Records a request and answers it with as much of its input as fits. -/
def control (handle : Int) (code : UInt32) (input : List UInt8) (capacity : Nat)
    (devices : SimulatedDevices) : Except IoError (List UInt8) × SimulatedDevices :=
  let recorded := { devices with requests := devices.requests ++ [⟨handle, code, input⟩] }
  match devices.refusal? code with
  | some fault => (.error (.numbered fault), recorded)
  | none => (.ok (input.take capacity), recorded)

def close (handle : Int) (devices : SimulatedDevices) : SimulatedDevices :=
  { devices with closed := devices.closed ++ [handle] }

def release (handle : Int) (devices : SimulatedDevices) : SimulatedDevices :=
  { devices with released := devices.released ++ [handle] }

/-- Simulated devices as the devices of a machine. -/
def bus : DeviceBus SimulatedDevices where
  openDevice := openDevice
  control := control
  close := close
  release := release

end SimulatedDevices

end TunnelProvisioning
