import TunnelProvisioning.Interface.Binder

/-! # Journals

What a kernel is asked while a caller uses one binder after the other. The calls to a kernel are no
part of what a binder answers, so they are read off a kernel that keeps a journal and otherwise
answers as the kernel in question does.
-/

namespace TunnelProvisioning

variable {κ : Type}

/-- One call to a kernel, and what came of it. -/
inductive KernelCall where
  /-- To attach an interface; `left` is the request as the kernel left it. -/
  | attach (descriptor : Int32) (request : InterfaceRequest) (answer : Except IoError Unit)
      (left : InterfaceRequest)
  /-- To keep an interface or to let it go. -/
  | persist (descriptor : Int32) (keep : Bool) (answer : Except IoError Unit)

/-- The same kernel with a journal of the calls that are made to it. -/
def InterfaceControl.journaled (control : InterfaceControl κ) :
    InterfaceControl (κ × List KernelCall) where
  attach descriptors descriptor request := fun (kernel, journal) =>
    let ((answer, left), kernel) := control.attach descriptors descriptor request kernel
    ((answer, left), kernel, journal ++ [.attach descriptor request answer left])
  persist descriptors descriptor keep := fun (kernel, journal) =>
    let (answer, kernel) := control.persist descriptors descriptor keep kernel
    (answer, kernel, journal ++ [.persist descriptor keep answer])

def Host.journaling (host : Host κ) (journal : List KernelCall) : Host (κ × List KernelCall) :=
  ⟨host.descriptors, host.interfaces, journal⟩

theorem InterfaceControl.attachOn_journaled (control : InterfaceControl κ) (descriptor : Int32)
    (request : InterfaceRequest) (host : Host κ) (journal : List KernelCall) :
    control.journaled.attachOn descriptor request (host.journaling journal) =
      let ((answer, left), after) := control.attachOn descriptor request host
      ((answer, left), after.journaling (journal ++ [.attach descriptor request answer left])) :=
  rfl

theorem InterfaceControl.persistOn_journaled (control : InterfaceControl κ) (descriptor : Int32)
    (keep : Bool) (host : Host κ) (journal : List KernelCall) :
    control.journaled.persistOn descriptor keep (host.journaling journal) =
      let (answer, after) := control.persistOn descriptor keep host
      (answer, after.journaling (journal ++ [.persist descriptor keep answer])) :=
  rfl

/-- The calls that an action makes to the kernel of a host, for an action that is given over any
kernel. -/
def InterfaceControl.callsOf {ε α : Type} (control : InterfaceControl κ)
    (action : InterfaceControl (κ × List KernelCall) →
      Action (Host (κ × List KernelCall)) ε α)
    (host : Host κ) : List KernelCall :=
  ((action control.journaled).run (host.journaling [])).state.interfaces.2

/-- One use of a binder, which may have settings of its own. -/
inductive BinderUse where
  | bind (config : TunnelConfig) (descriptor : Int32)
  | provision (config : TunnelConfig) (descriptor? : Option Int32)

/-- What one use of a binder shows: the outcome and the log, and what the kernel was asked. -/
structure UseRecord where
  use : BinderUse
  outcome : Except ProvisionError Provisioned
  events : List Event
  calls : List KernelCall

namespace BinderUse

def action (control : InterfaceControl κ) :
    BinderUse → Action (Host κ) ProvisionError Provisioned
  | bind config descriptor => .bound <$> Binder.bind ⟨control, config⟩ descriptor
  | provision config descriptor? => Binder.provision ⟨control, config⟩ descriptor?

def calls (use : BinderUse) (control : InterfaceControl κ) (host : Host κ) : List KernelCall :=
  control.callsOf (use.action ·) host

/-- The record of a use, and the host after it. -/
def perform (use : BinderUse) (control : InterfaceControl κ) (host : Host κ) :
    UseRecord × Host κ :=
  let report := (use.action control).run host
  (⟨use, report.outcome, report.events, use.calls control host⟩, report.state)

def records (control : InterfaceControl κ) : List BinderUse → Host κ → List UseRecord
  | [], _ => []
  | use :: rest, host =>
    let (record, host) := use.perform control host
    record :: records control rest host

def hostAfter (control : InterfaceControl κ) (uses : List BinderUse) (host : Host κ) : Host κ :=
  uses.foldl (fun host use => ((use.action control).run host).state) host

end BinderUse

end TunnelProvisioning
