/-! # Descriptors

The descriptors that are open in a process. A new one is the least number that is not in use.
-/

namespace TunnelProvisioning

structure Descriptors where
  opened : List Int32
  deriving DecidableEq, Repr

namespace Descriptors

/-- The descriptors that a process starts with: input, output and errors. -/
def standard : Descriptors := ⟨[0, 1, 2]⟩

def contains (table : Descriptors) (descriptor : Int32) : Bool :=
  table.opened.contains descriptor

/-- The least number that is not in use, if a descriptor can have it. -/
def fresh? (table : Descriptors) : Option Int32 :=
  match (List.range (table.opened.length + 1)).find? (fun n => !table.contains (Int32.ofNat n)) with
  | some n => if n < 0x80000000 then some (Int32.ofNat n) else none
  | none => none

def insert (table : Descriptors) (descriptor : Int32) : Descriptors :=
  ⟨descriptor :: table.opened⟩

def close (table : Descriptors) (descriptor : Int32) : Descriptors :=
  ⟨table.opened.filter (· ≠ descriptor)⟩

end Descriptors

end TunnelProvisioning
