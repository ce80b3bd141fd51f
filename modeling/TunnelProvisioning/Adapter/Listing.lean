import TunnelProvisioning.Adapter.Search

/-! # Listing keys by index

A system does not tell all names below a key at once. It is asked for the name at one index after
the other, counted from zero in 32 bits, until there is none. A search that asks in this way learns
how many adapters there are only if it comes to the end of them.
-/

namespace TunnelProvisioning

/-- The names right below a key as a system tells them. The first index without a name ends them. -/
structure Listing where
  name? : UInt32 → Option String
  ends : ∃ index, name? index = none

namespace Listing

/-- A place in a listing, at which or behind which it ends. -/
structure Cursor (listing : Listing) where
  index : UInt32
  ends : ∃ last, index ≤ last ∧ listing.name? last = none

def first (listing : Listing) : Cursor listing where
  index := 0
  ends := listing.ends.imp fun _ ended => ⟨UInt32.zero_le, ended⟩

namespace Cursor

variable {listing : Listing} {name : String} (cursor : Cursor listing)

/-- A listing ends behind a place with a name. -/
theorem exists_end_behind (listed : listing.name? cursor.index = some name) :
    ∃ last, cursor.index < last ∧ listing.name? last = none := by
  obtain ⟨last, before, ended⟩ := cursor.ends
  refine ⟨last, UInt32.lt_of_le_of_ne before ?_, ended⟩
  intro same
  rw [same, ended] at listed
  contradiction

/-- So a place with a name is not the last one that can be counted. -/
theorem toNat_index_succ (listed : listing.name? cursor.index = some name) :
    (cursor.index + 1).toNat = cursor.index.toNat + 1 := by
  obtain ⟨last, before, _⟩ := cursor.exists_end_behind listed
  have less := UInt32.lt_iff_toNat_lt.mp before
  have bound := last.toNat_lt
  rw [UInt32.toNat_add, UInt32.toNat_one]
  omega

/-- The place after one with a name. -/
def next (listed : listing.name? cursor.index = some name) : Cursor listing where
  index := cursor.index + 1
  ends := by
    obtain ⟨last, before, ended⟩ := cursor.exists_end_behind listed
    refine ⟨last, ?_, ended⟩
    rw [UInt32.le_iff_toNat_le, cursor.toNat_index_succ listed]
    exact UInt32.lt_iff_toNat_lt.mp before

/-- How many places can still be counted. -/
def remaining : Nat :=
  UInt32.size - cursor.index.toNat

theorem remaining_next_lt (listed : listing.name? cursor.index = some name) :
    (cursor.next listed).remaining < cursor.remaining := by
  have bound := cursor.index.toNat_lt_size
  have counted := cursor.toNat_index_succ listed
  simp only [remaining, next, counted]
  omega

/-- The names from a place on. -/
def names (cursor : Cursor listing) : List String :=
  match listed : listing.name? cursor.index with
  | none => []
  | some name => name :: (cursor.next listed).names
termination_by cursor.remaining
decreasing_by exact cursor.remaining_next_lt listed

end Cursor

end Listing

namespace Registry

variable {listing : Listing}

/-- Looks through the adapters from a place on for the first one with a component id. -/
def scanFrom (registry : Registry) (componentId : String) (cursor : listing.Cursor) :
    Action KeyLedger ProvisionError String :=
  match listed : listing.name? cursor.index with
  | none => giveUp componentId cursor.index.toNat
  | some name => do
    let found? ← registry.examine componentId name
    found?.elim (registry.scanFrom componentId (cursor.next listed)) pure
termination_by cursor.remaining
decreasing_by exact cursor.remaining_next_lt listed

/-- The instance id of the first adapter with a component id, where the adapters are listed one at a
time. -/
def findListed (registry : Registry) (listing : Listing) (componentId : String) :
    Action KeyLedger ProvisionError String :=
  registry.withAdapterClass componentId (registry.scanFrom componentId listing.first)

end Registry

end TunnelProvisioning
