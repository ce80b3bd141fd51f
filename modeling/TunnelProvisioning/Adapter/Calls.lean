import TunnelProvisioning.Adapter.Provisioner
import TunnelProvisioning.Adapter.SimulatedDevices

/-! # Repeated calls

What a caller does with one provisioner over a registry and simulated devices: it calls the
provisioner any number of times, and in between it closes devices or releases them. Each call is
recorded with its outcome and with what it adds to the records of keys and of devices.
-/

namespace TunnelProvisioning

inductive CallerStep where
  /-- Calls the provisioner. -/
  | call (descriptor? : Option Int32)
  /-- Closes a device. -/
  | close (handle : Int)
  /-- Releases a device. -/
  | release (handle : Int)
  deriving DecidableEq, Repr

def CallerStep.isCall : CallerStep → Bool
  | call _ => true
  | _ => false

/-- The handles of the devices that were opened after so many others, in order. -/
def SimulatedDevices.handlesAfter (count : Nat) (devices : SimulatedDevices) : List Int :=
  (List.range' count (devices.opened - count)).map fun earlier => handleOf (earlier + 1)

structure CallRecord where
  outcome : Except ProvisionError Provisioned
  /-- The keys that were opened. -/
  paths : List String
  /-- The devices that were opened. -/
  opens : List (String × OpenOptions)
  /-- The handles that these devices got. -/
  handles : List Int
  /-- The requests that were sent. -/
  requests : List ControlRequest

/-- A tunnel, whatever the handle of its device. -/
def Provisioned.tunnel : Provisioned → BoundInterface ⊕ AdapterDescriptor
  | bound interface => .inl interface
  | opened adapter _ => .inr adapter

/-- What one call shows apart from handles. -/
structure CallContent where
  outcome : Except ProvisionError (BoundInterface ⊕ AdapterDescriptor)
  paths : List String
  opens : List (String × OpenOptions)
  /-- The control codes that were sent, with their input. -/
  sent : List (UInt32 × List UInt8)

/-- Leaves out the handles. -/
def CallRecord.content (record : CallRecord) : CallContent where
  outcome := record.outcome.map Provisioned.tunnel
  paths := record.paths
  opens := record.opens
  sent := record.requests.map fun request => (request.code, request.input)

namespace AdapterProvisioner

def simulated (registry : Registry) (config : TunnelConfig) :
    AdapterProvisioner SimulatedDevices :=
  ⟨registry, SimulatedDevices.bus, config⟩

variable (registry : Registry) (config : TunnelConfig)

/-- Calls the provisioner: the record of the call, and the state after it. -/
def call (descriptor? : Option Int32) (state : KeyLedger × SimulatedDevices) :
    CallRecord × (KeyLedger × SimulatedDevices) :=
  let report := ((simulated registry config).provisioner.provision descriptor?).run state
  (⟨report.outcome,
    report.state.1.paths.drop state.1.paths.length,
    report.state.2.opens.drop state.2.opens.length,
    report.state.2.handlesAfter state.2.opened,
    report.state.2.requests.drop state.2.requests.length⟩, report.state)

def perform (state : KeyLedger × SimulatedDevices) :
    CallerStep → KeyLedger × SimulatedDevices
  | .call descriptor? => (call registry config descriptor? state).2
  | .close handle => (state.1, state.2.close handle)
  | .release handle => (state.1, state.2.release handle)

def stateAfter (steps : List CallerStep) (state : KeyLedger × SimulatedDevices) :
    KeyLedger × SimulatedDevices :=
  steps.foldl (perform registry config) state

/-- The records of the calls among steps that follow one another. -/
def records : List CallerStep → KeyLedger × SimulatedDevices → List CallRecord
  | [], _ => []
  | .call descriptor? :: rest, state =>
    let (record, state) := call registry config descriptor? state
    record :: records rest state
  | step :: rest, state => records rest (perform registry config state step)

end AdapterProvisioner

end TunnelProvisioning
