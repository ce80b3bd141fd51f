import TunnelProvisioning.Adapter.Listing

/-! # Searches by index

A search that is told one name at a time does what a search over the list of all names does: it has
the same outcome, opens the same keys and logs the same, the count of adapters included. Every list
that can be counted in 32 bits can be told in this way.
-/

namespace TunnelProvisioning

namespace Listing

variable {listing : Listing}

def names (listing : Listing) : List String :=
  listing.first.names

namespace Cursor

variable {cursor : Cursor listing}

theorem names_of_ended (ended : listing.name? cursor.index = none) : cursor.names = [] := by
  rw [names]
  split
  · rfl
  · next listed =>
    rw [ended] at listed
    contradiction

theorem names_of_listed {name : String} (listed : listing.name? cursor.index = some name) :
    cursor.names = name :: (cursor.next listed).names := by
  rw [names]
  split
  · next ended =>
    rw [ended] at listed
    contradiction
  · next other listed' =>
    obtain rfl := Option.some.inj (listed'.symm.trans listed)
    rfl

end Cursor

/-- A list of names, told one at a time. -/
def ofNames (names : List String) (short : names.length < UInt32.size) : Listing where
  name? index := names[index.toNat]?
  ends := ⟨UInt32.ofNat names.length, by
    rw [UInt32.toNat_ofNat_of_lt' short, List.getElem?_eq_none (Nat.le_refl _)]⟩

/-- The names from a place on are those of the list from there on. The induction follows the
recursion by which the names are told. -/
theorem names_cursor_ofNames {names : List String} (short : names.length < UInt32.size)
    (cursor : (ofNames names short).Cursor) :
    cursor.names = names.drop cursor.index.toNat := by
  fun_induction Cursor.names cursor with
  | case1 cursor ended =>
    have behind : names[cursor.index.toNat]? = none := ended
    rw [List.drop_eq_nil_of_le (List.getElem?_eq_none_iff.mp behind)]
  | case2 cursor name listed ih =>
    have there : names[cursor.index.toNat]? = some name := listed
    obtain ⟨inside, same⟩ := List.getElem?_eq_some_iff.mp there
    have counted := cursor.toNat_index_succ listed
    rw [List.drop_eq_getElem_cons inside, same, ih, Cursor.next, counted]

theorem names_ofNames {names : List String} (short : names.length < UInt32.size) :
    (ofNames names short).names = names :=
  names_cursor_ofNames short _

end Listing

namespace Registry

variable (registry : Registry) (componentId : String) {listing : Listing}

/-- From each place on, the names are searched as their list is, and the count that is told at the
end is that of the names before the place and behind it. -/
theorem scanFrom_eq_scan (cursor : listing.Cursor) :
    registry.scanFrom componentId cursor =
      registry.scan componentId (cursor.index.toNat + cursor.names.length) cursor.names := by
  fun_induction scanFrom registry componentId cursor with
  | case1 cursor ended =>
    rw [Listing.Cursor.names_of_ended ended, scan, List.length_nil, Nat.add_zero]
  | case2 cursor name listed ih =>
    have counted : (cursor.next listed).index.toNat = cursor.index.toNat + 1 :=
      cursor.toNat_index_succ listed
    rw [Listing.Cursor.names_of_listed listed, scan, List.length_cons, ih, counted,
      Nat.add_assoc, Nat.add_comm 1]

/-- Being told the names below the adapter class one at a time finds the same adapter in the same
way as having the list of them. -/
theorem findListed_eq_findAdapter (told : listing.names = registry.subkeys adapterClass) :
    registry.findListed listing componentId = registry.findAdapter componentId := by
  have counted : listing.first.index.toNat = 0 := rfl
  rw [findListed, findAdapter, scanFrom_eq_scan, ← told, counted, Nat.zero_add]
  rfl

/-- So the list of names stands for whatever is told of them, as long as they can be counted. -/
theorem findListed_ofNames (short : (registry.subkeys adapterClass).length < UInt32.size) :
    registry.findListed (Listing.ofNames _ short) componentId =
      registry.findAdapter componentId :=
  registry.findListed_eq_findAdapter componentId (Listing.names_ofNames short)

end Registry

end TunnelProvisioning
