import Mathlib.Data.List.Basic
import TunnelProvisioning.Interface.Edits

/-! # What edits leave in a request

However often a request is written to, it is as if it had just been built for the last name with the
last flags. So each octet of the record is known from these two: nothing is left of longer names, a
zero always ends the name, and neither kind of edit reaches into the field of the other.
-/

namespace TunnelProvisioning.InterfaceRequest

/-! ## Runs of edits -/

theorem getLast?_getD_cons {α : Type} (value first : α) (values : List α) :
    (value :: values).getLast?.getD first = values.getLast?.getD value := by
  rw [List.getLast?_cons, Option.getD_some]

/-- One edit leaves a request that is as if it had been built for what it holds now. -/
theorem edit_eq (name : String) (flags : Int16) (change : Edit) :
    ((ofName name).withFlags flags).edit change =
      (ofName (change.name?.getD name)).withFlags (change.flags?.getD flags) := by
  cases change with
  | name text => rfl
  | flags value => rfl

/-- Edits leave the request that is built for what they wrote last. The induction is on them, over
the name and the flags that they find. -/
theorem edited_eq (name : String) (flags : Int16) (edits : List Edit) :
    ((ofName name).withFlags flags).edited edits =
      (ofName (lastName name edits)).withFlags (lastFlags flags edits) := by
  induction edits generalizing name flags with
  | nil => rfl
  | cons change edits ih =>
    rw [edited, List.foldl_cons, edit_eq, ← edited, ih]
    cases change with
    | name text =>
      simp only [lastName, lastFlags, Edit.name?, Edit.flags?, List.filterMap_cons,
        Option.getD_some, Option.getD_none, getLast?_getD_cons]
    | flags value =>
      simp only [lastName, lastFlags, Edit.name?, Edit.flags?, List.filterMap_cons,
        Option.getD_some, Option.getD_none, getLast?_getD_cons]

/-! ## Octets -/

section

variable (name : String) (flags : Int16) (request : InterfaceRequest)

/-- The name field holds the octets of the name as far as they fit, and zeros behind them. -/
theorem getElem?_padName {place : Nat} (inside : place < 15) :
    (padName name)[place]? = some ((Utf8.encode name.toList)[place]?.getD 0) := by
  rw [padName]
  by_cases written : place < (Utf8.encode name.toList).length
  · have kept : place < ((Utf8.encode name.toList).take 15).length := by
      rw [List.length_take]
      omega
    rw [List.getElem?_append_left kept, List.getElem?_take_of_lt inside,
      List.getElem?_eq_getElem written, Option.getD_some]
  · have short : ((Utf8.encode name.toList).take 15).length ≤ place := by
      rw [List.length_take]
      omega
    rw [List.getElem?_append_right short, List.getElem?_replicate_of_lt (by omega),
      List.getElem?_eq_none (Nat.not_lt.mp written), Option.getD_none]

/-- The last octet of the name field is a zero. -/
theorem getElem?_padName_last : (padName name)[15]? = some 0 := by
  have short : ((Utf8.encode name.toList).take 15).length ≤ 15 := List.length_take_le _ _
  rw [padName, List.getElem?_append_right short, List.getElem?_replicate_of_lt (by omega)]

/-- The two octets of flags are their value modulo two to the sixteen, least significant first. -/
theorem flagOctets_value :
    ∃ low high, flagOctets flags = [low, high] ∧
      (low.toNat + 256 * high.toNat : Int) = flags.toInt % 65536 := by
  refine ⟨_, _, rfl, ?_⟩
  have bound := flags.toUInt16.toNat_lt
  have word : flags.toInt % 65536 = flags.toUInt16.toNat := by
    have same : flags.toInt = (flags.toUInt16.toNat : Int).bmod (2 ^ 16) := by
      rw [← Int16.toInt_toBitVec, BitVec.toInt_eq_toNat_bmod]
      rfl
    rw [same]
    exact Int.bmod_emod.trans (Int.emod_eq_of_lt (by omega) (by omega))
  have low : flags.toUInt16.toUInt8.toNat = flags.toUInt16.toNat % 256 := UInt16.toNat_toUInt8 _
  have high : (flags.toUInt16 >>> 8).toUInt8.toNat = flags.toUInt16.toNat / 256 % 256 := by
    rw [UInt16.toNat_toUInt8, UInt16.toNat_shiftRight, Nat.shiftRight_eq_div_pow]
    rfl
  omega

theorem length_octets : request.octets.length = 40 := by
  simp only [octets, flagOctets, List.length_append, request.length_nameField, List.length_cons,
    List.length_nil, request.length_padding]

theorem take_octets : request.octets.take 16 = request.nameField := by
  rw [octets, List.append_assoc, ← request.length_nameField, List.take_left]

theorem drop_octets :
    request.octets.drop 16 = flagOctets request.flags ++ request.padding := by
  rw [octets, List.append_assoc, ← request.length_nameField, List.drop_left]

theorem getElem?_octets_name {place : Nat} (inside : place < 16) :
    request.octets[place]? = request.nameField[place]? := by
  rw [← take_octets, List.getElem?_take_of_lt inside]

theorem getElem?_octets_behind (place : Nat) :
    request.octets[16 + place]? = (flagOctets request.flags ++ request.padding)[place]? := by
  rw [← drop_octets, List.getElem?_drop]

/-- The reader of a name finds the zero that ends it. -/
theorem exists_end_padName :
    ∃ place : Fin 16, (padName name).findIdx? (· = 0) = some place.val ∧
      (padName name).takeWhile (· ≠ 0) = (padName name).take place := by
  have zero : (0 : UInt8) ∈ padName name := List.mem_of_getElem? (getElem?_padName_last name)
  have found : (padName name).findIdx (· = 0) < (padName name).length :=
    List.findIdx_lt_length_of_exists ⟨0, zero, rfl⟩
  have place : (padName name).findIdx (· = 0) < 16 := (length_padName name) ▸ found
  refine ⟨⟨_, place⟩, List.findIdx?_eq_some_of_exists ⟨0, zero, rfl⟩, ?_⟩
  rw [List.takeWhile_eq_take_findIdx_not]
  simp only [ne_eq, decide_not, Bool.not_not]

end

/-- After any edits, each octet of the record is known from the name and the flags written last: the
first fifteen octets of the name with zeros behind them, a zero, the flags in two's complement with
the least significant octet first, and zeros. To write a name keeps everything behind the name, to
write flags keeps the name, and the reader of the name always comes to a zero. -/
theorem octets_edited (first : String) (edits : List Edit) :
    let request := (ofName first).edited edits
    let name := Utf8.encode (lastName first edits).toList
    request.octets.length = 40 ∧
    (∀ place : Fin 15, request.octets[place.val]? = some (name[place.val]?.getD 0)) ∧
    request.octets[15]? = some 0 ∧
    (∃ low high, request.octets[16]? = some low ∧ request.octets[17]? = some high ∧
      (low.toNat + 256 * high.toNat : Int) = (lastFlags 0 edits).toInt % 65536) ∧
    (∀ place : Fin 22, request.octets[18 + place.val]? = some 0) ∧
    (∀ other, (request.setName other).octets.drop 16 = request.octets.drop 16) ∧
    (∀ flags, (request.withFlags flags).octets.take 16 = request.octets.take 16) ∧
    ∃ place : Fin 16, request.nameField.findIdx? (· = 0) = some place.val ∧
      request.name = String.ofList (Utf8.decodeLossy (request.nameField.take place)) := by
  intro request name
  have built : request = (ofName (lastName first edits)).withFlags (lastFlags 0 edits) :=
    edited_eq first 0 edits
  have field : request.nameField = padName (lastName first edits) := congrArg nameField built
  have flags : request.flags = lastFlags 0 edits := congrArg InterfaceRequest.flags built
  have padding : request.padding = List.replicate 22 0 := congrArg InterfaceRequest.padding built
  obtain ⟨low, high, spelled, value⟩ := flagOctets_value (lastFlags 0 edits)
  have behind (place : Nat) := getElem?_octets_behind request place
  rw [flags, padding, spelled] at behind
  refine ⟨length_octets request, fun place => ?_, ?_, ⟨low, high, behind 0, behind 1, value⟩,
    fun place => ?_, fun other => ?_, fun flags => ?_, ?_⟩
  · rw [getElem?_octets_name request (by omega), field, getElem?_padName _ place.isLt]
  · rw [getElem?_octets_name request (by decide), field, getElem?_padName_last]
  · have zeros : ([low, high] ++ List.replicate 22 0)[2 + place.val]? = some 0 := by
      rw [List.getElem?_append_right (Nat.le_add_right 2 place),
        List.getElem?_replicate_of_lt (by simp only [List.length_cons, List.length_nil]; omega)]
    rw [← zeros, ← behind, ← Nat.add_assoc]
  · rw [drop_octets, drop_octets, padding]
    rfl
  · rw [take_octets, take_octets]
    rfl
  · obtain ⟨place, found, taken⟩ := exists_end_padName (lastName first edits)
    refine ⟨place, ?_, ?_⟩
    · rw [field, found]
    · rw [InterfaceRequest.name, field, taken]

example : ((ofName "longer").edited [.flags (-2), .name "ab"]).octets =
    [0x61, 0x62] ++ List.replicate 14 0 ++ [0xFE, 0xFF] ++ List.replicate 22 0 := by
  decide

end TunnelProvisioning.InterfaceRequest
