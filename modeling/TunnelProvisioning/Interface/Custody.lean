import TunnelProvisioning.Interface.Binder

/-! # Custody of descriptors

A descriptor that is opened for an interface comes with a handle, and whoever holds the handle has
to close it, or gives it up and passes on its number. A descriptor that is passed in to be bound has
another owner all the time. So what a caller owns can be told from the steps it took.
-/

namespace TunnelProvisioning

variable {κ : Type}

inductive CustodyStep where
  /-- Attaches an interface to a descriptor, whoever owns it. -/
  | bind (config : TunnelConfig) (descriptor : Int32)
  /-- Opens a device node, attaches an interface to it, and holds its handle. -/
  | openNode (config : TunnelConfig) (files : FileSystem) (path : Path)
  /-- Drops a handle. -/
  | drop (handle : DescriptorHandle)
  /-- Gives up a handle for its raw value. -/
  | giveUp (handle : DescriptorHandle)

/-- A host in the hands of a caller. A handle that the caller does not hold is out of its reach. -/
structure Custody (κ : Type) where
  host : Host κ
  /-- The handles that the caller holds. -/
  held : List DescriptorHandle := []
  /-- The raw values that the caller got for handles. -/
  givenUp : List Int := []

namespace Custody

/-- The raw values of the descriptors that were opened by the caller and are not closed. -/
def owned (custody : Custody κ) : List Int :=
  custody.held.map DescriptorHandle.raw ++ custody.givenUp

def perform (control : InterfaceControl κ) (custody : Custody κ) : CustodyStep → Custody κ
  | .bind config descriptor =>
    let report := (Binder.bind ⟨control, config⟩ descriptor).run custody.host
    { custody with host := report.state }
  | .openNode config files path =>
    let report := (Binder.openOwned ⟨control, config⟩ files path).run custody.host
    { custody with
      host := report.state
      held := custody.held ++ (report.outcome.map Prod.fst).toOption.toList }
  | .drop handle =>
    if handle ∈ custody.held then
      { custody with host := handle.drop custody.host, held := custody.held.erase handle }
    else custody
  | .giveUp handle =>
    if handle ∈ custody.held then
      let (raw, host) := handle.intoRaw custody.host
      { host, held := custody.held.erase handle, givenUp := custody.givenUp ++ [raw] }
    else custody

def run (control : InterfaceControl κ) (custody : Custody κ) (steps : List CustodyStep) :
    Custody κ :=
  steps.foldl (perform control) custody

end Custody

end TunnelProvisioning
