import TunnelProvisioning.Action
import TunnelProvisioning.Addressing.Basic
import TunnelProvisioning.ProvisionError

/-! # Adapter devices

An adapter is brought up through its device: it is opened without buffering and shared, told that
its cable is plugged in, and given its addressing. Whether a refused request is fatal is up to the
caller; if it is, the device is closed again.
-/

namespace TunnelProvisioning

structure OpenOptions where
  read : Bool := false
  write : Bool := false
  shareRead : Bool := false
  shareWrite : Bool := false
  noBuffering : Bool := false
  writeThrough : Bool := false
  deriving DecidableEq, Repr

def OpenOptions.adapter : OpenOptions :=
  ⟨true, true, true, true, true, true⟩

/-- The devices of a machine, over a state of their own. Open devices are named by handles. -/
structure DeviceBus (δ : Type) where
  /-- Opens the device at a path. -/
  openDevice : String → OpenOptions → δ → Except IoError Int × δ
  /-- Sends a control code with input octets; the answer has at most so many octets. -/
  control : Int → UInt32 → List UInt8 → Nat → δ → Except IoError (List UInt8) × δ
  /-- Closes an open device. -/
  close : Int → δ → δ
  /-- Passes an open device on to another owner. -/
  release : Int → δ → δ

namespace Device

def deviceType : UInt32 := 0x22

def anyAccess : UInt32 := 0

/-- The method by which requests pass their octets: in a buffer. -/
def buffered : UInt32 := 0

def controlCode (request method : UInt32) : UInt32 :=
  deviceType <<< 16 ||| anyAccess <<< 14 ||| request <<< 2 ||| method

/-- The request that sets whether the cable is plugged in. -/
def setMediaStatus : UInt32 := 6

/-- The request that sets the addressing. -/
def configureTunnel : UInt32 := 10

/-- The octets that say that the cable is plugged in. -/
def connected : List UInt8 :=
  Addressing.wordOctets 1

def path (instanceId : String) : String :=
  "\\\\.\\Global\\" ++ instanceId ++ ".tap"

variable {δ : Type}

/-- Sends a request; a refusal is fatal in strict mode, and otherwise only logged. -/
def send (bus : DeviceBus δ) (strict : Bool) (handle : Int) (request : UInt32)
    (input : List UInt8) : Action δ ProvisionError Unit := do
  let code := controlCode request buffered
  match ← Action.operate (bus.control handle code input input.length) with
  | .ok _ => return ()
  | .error fault =>
    if strict then Action.fail (.requestRejected request fault.reportedCode)
    else
      Action.log .warn .device
        s!"TAP control request {request} failed, continuing: {fault.message}"

/-- Plugs in the cable and sets the addressing. -/
def bringUp (bus : DeviceBus δ) (strict : Bool) (addressing : Addressing) (handle : Int) :
    Action δ ProvisionError Unit := do
  send bus strict handle setMediaStatus connected
  send bus strict handle configureTunnel addressing.driverOctets

/-- Opens the device of an adapter and brings the adapter up. -/
def configure (bus : DeviceBus δ) (instanceId : String) (addressing : Addressing)
    (strict : Bool) : Action δ ProvisionError Int := do
  let path := path instanceId
  Action.log .debug .device s!"Opening TAP device {path}"
  match ← Action.operate (bus.openDevice path .adapter) with
  | .error fault =>
    Action.log .warn .device s!"Failed to open {path}: {fault.message}"
    Action.fail (.deviceUnavailable path fault.reportedCode)
  | .ok handle =>
    (bringUp bus strict addressing handle).onFailure (bus.close handle)
    Action.log .info .device s!"TAP device {path} is up with {addressing}"
    return handle

end Device

end TunnelProvisioning
