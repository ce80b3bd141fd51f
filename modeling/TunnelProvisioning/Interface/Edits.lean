import TunnelProvisioning.Interface.Request

/-! # Edited requests

A request belongs to its owner until it is passed to the kernel, and may be written to any number of
times. What is written is a name or flags, and each takes the place of what was there before.
-/

namespace TunnelProvisioning.InterfaceRequest

/-- What is written into a request. -/
inductive Edit where
  | name (name : String)
  | flags (flags : Int16)
  deriving DecidableEq, Repr

namespace Edit

def name? : Edit → Option String
  | name text => some text
  | flags _ => none

def flags? : Edit → Option Int16
  | name _ => none
  | flags value => some value

end Edit

def edit (request : InterfaceRequest) : Edit → InterfaceRequest
  | .name text => request.setName text
  | .flags value => request.withFlags value

def edited (request : InterfaceRequest) (edits : List Edit) : InterfaceRequest :=
  edits.foldl edit request

/-- The name written last, or the one there was before. -/
def lastName (first : String) (edits : List Edit) : String :=
  (edits.filterMap Edit.name?).getLast?.getD first

/-- The flags written last, or those there were before. -/
def lastFlags (first : Int16) (edits : List Edit) : Int16 :=
  (edits.filterMap Edit.flags?).getLast?.getD first

end TunnelProvisioning.InterfaceRequest
