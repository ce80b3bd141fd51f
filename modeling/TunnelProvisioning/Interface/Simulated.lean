import TunnelProvisioning.Interface.Control

/-! # A simulated kernel

A kernel that accepts every request, or refuses every one with the same error number, and keeps
count of what it was asked. The name it chooses is the requested one with a zero behind it.
-/

namespace TunnelProvisioning

structure AttachCall where
  descriptor : Int32
  flags : Int16
  requestedName : String
  deriving DecidableEq, Repr

/-- What a simulated kernel was asked, and how it answers. -/
structure SimulatedKernel where
  calls : List AttachCall := []
  persistCalls : Nat := 0
  refusal : Option Int := none
  deriving DecidableEq, Repr

namespace SimulatedKernel

def refusing (code : Int) : SimulatedKernel :=
  { refusal := some code }

def attach (descriptor : Int32) (request : InterfaceRequest) (kernel : SimulatedKernel) :
    (Except IoError Unit × InterfaceRequest) × SimulatedKernel :=
  let call : AttachCall := ⟨descriptor, request.flags, request.name⟩
  let kernel := { kernel with calls := kernel.calls ++ [call] }
  match kernel.refusal with
  | some code => ((.error (.numbered code), request), kernel)
  | none => ((.ok (), request.setName (request.name ++ "0")), kernel)

/-- Counts a request for persistence and grants it. -/
def persist (kernel : SimulatedKernel) : Except IoError Unit × SimulatedKernel :=
  (.ok (), { kernel with persistCalls := kernel.persistCalls + 1 })

def control : InterfaceControl SimulatedKernel where
  attach _ descriptor request kernel := kernel.attach descriptor request
  persist _ _ _ kernel := kernel.persist

end SimulatedKernel

end TunnelProvisioning
