import Mathlib.Data.List.TakeWhile
import TunnelProvisioning.Interface.Request
import TunnelProvisioning.Proofs.Text.Utf8

/-! # The name in a request

What is read from a request for a name: the name up to its first zero character, where the reader
takes the name to end, as far as it fits. A text that fits is read back in full exactly if no zero
character stands in it.
-/

namespace TunnelProvisioning

/-- A text up to its first zero character. -/
def beforeZero (text : String) : String :=
  String.ofList (text.toList.takeWhile (· ≠ '\x00'))

theorem toList_beforeZero (text : String) :
    (beforeZero text).toList = text.toList.takeWhile (· ≠ '\x00') :=
  String.toList_ofList

theorem zero_notMem_beforeZero (text : String) : '\x00' ∉ (beforeZero text).toList := by
  rw [toList_beforeZero]
  intro member
  exact absurd (List.mem_takeWhile_imp member) (by decide)

/-- A text is all that comes before its first zero character exactly if it has none. -/
theorem beforeZero_eq_self_iff {text : String} :
    beforeZero text = text ↔ '\x00' ∉ text.toList := by
  constructor
  · intro same
    rw [← same]
    exact zero_notMem_beforeZero text
  · intro free
    have all : text.toList.takeWhile (· ≠ '\x00') = text.toList := by
      rw [List.takeWhile_eq_self_iff]
      intro c member
      simp only [ne_eq, decide_not, Bool.not_eq_true', decide_eq_false_iff_not]
      rintro rfl
      exact free member
    rw [beforeZero, all, String.ofList_toList]

/-- What stands behind the first zero character starts with it. -/
theorem exists_tail_beforeZero (text : String) :
    ∃ tail, text.toList = (beforeZero text).toList ++ tail ∧
      (tail = [] ∨ ∃ rest, tail = '\x00' :: rest) := by
  refine ⟨text.toList.dropWhile (· ≠ '\x00'), ?_, ?_⟩
  · rw [toList_beforeZero, List.takeWhile_append_dropWhile]
  · cases behind : text.toList.dropWhile (· ≠ '\x00') with
    | nil => exact Or.inl rfl
    | cons c rest =>
      have first := List.head?_dropWhile_not (· ≠ '\x00') text.toList
      rw [behind] at first
      simp only [List.head?_cons, ne_eq, decide_not, Bool.not_eq_false', decide_eq_true_eq] at first
      exact Or.inr ⟨rest, by rw [first]⟩

/-- A text has at least as many octets as the part before its first zero character. -/
theorem size_beforeZero_le (text : String) : Utf8.size (beforeZero text) ≤ Utf8.size text := by
  obtain ⟨tail, split, _⟩ := exists_tail_beforeZero text
  rw [Utf8.size, Utf8.size, split, Utf8.encode_append, List.length_append]
  exact Nat.le_add_right _ _

namespace InterfaceRequest

/-- Whatever of the rest of a name fits into its field, a zero is the first octet behind the name:
the zero character, or else what the field is filled up with. -/
private theorem exists_zero_cons {tail : List Char}
    (ends : tail = [] ∨ ∃ rest, tail = '\x00' :: rest) (room filling : Nat) :
    ∃ rest : List UInt8,
      (Utf8.encode tail).take room ++ List.replicate (filling + 1) 0 = 0 :: rest := by
  have filled : List.replicate (filling + 1) (0 : UInt8) = 0 :: List.replicate filling 0 :=
    List.replicate_succ
  rcases ends with rfl | ⟨rest, rfl⟩
  · refine ⟨List.replicate filling 0, ?_⟩
    rw [Utf8.encode, List.flatMap_nil, List.take_nil, List.nil_append, filled]
  · have zero : Utf8.encode ('\x00' :: rest) = 0 :: Utf8.encode rest := rfl
    cases room with
    | zero => exact ⟨List.replicate filling 0, by rw [List.take_zero, List.nil_append, filled]⟩
    | succ room =>
      rw [zero, List.take_succ_cons, List.cons_append]
      exact ⟨_, rfl⟩

/-- A name field holds the octets before the first zero character as far as they fit, and then a
zero. -/
theorem exists_padName (name : String) :
    ∃ rest, padName name = (Utf8.encode (beforeZero name).toList).take 15 ++ 0 :: rest := by
  obtain ⟨tail, split, ends⟩ := exists_tail_beforeZero name
  let room := 15 - (Utf8.encode (beforeZero name).toList).length
  have kept : (Utf8.encode name.toList).take 15 =
      (Utf8.encode (beforeZero name).toList).take 15 ++ (Utf8.encode tail).take room := by
    rw [split, Utf8.encode_append, List.take_append]
  have short : ((Utf8.encode name.toList).take 15).length ≤ 15 := List.length_take_le _ _
  obtain ⟨filling, count⟩ : ∃ filling,
      16 - ((Utf8.encode name.toList).take 15).length = filling + 1 :=
    ⟨15 - ((Utf8.encode name.toList).take 15).length, by omega⟩
  obtain ⟨rest, behind⟩ := exists_zero_cons ends room filling
  refine ⟨rest, ?_⟩
  rw [padName, count, kept, List.append_assoc, behind]

/-- The name that is read from a request is what can be read of the octets that fit. -/
theorem name_ofName_eq (name : String) :
    (ofName name).name =
      String.ofList (Utf8.decodeLossy ((Utf8.encode (beforeZero name).toList).take 15)) := by
  obtain ⟨rest, field⟩ := exists_padName name
  have free : ∀ octet ∈ (Utf8.encode (beforeZero name).toList).take 15,
      decide (octet ≠ 0) = true := by
    intro octet member
    rw [decide_eq_true_eq]
    rintro rfl
    exact Utf8.zero_notMem_encode (zero_notMem_beforeZero name) (List.mem_of_mem_take member)
  have read : (padName name).takeWhile (· ≠ 0) =
      (Utf8.encode (beforeZero name).toList).take 15 := by
    rw [field, List.takeWhile_append_of_pos free, List.takeWhile_cons_of_neg (by decide),
      List.append_nil]
  rw [← read]
  rfl

/-- The name that is read from a request is the one that was asked for, up to its first zero. -/
theorem name_ofName {name : String} (fits : Utf8.size (beforeZero name) ≤ 15) :
    (ofName name).name = beforeZero name := by
  rw [name_ofName_eq, List.take_of_length_le fits, Utf8.decodeLossy_encode, String.ofList_toList]

@[simp]
theorem name_withFlags (request : InterfaceRequest) (flags : Int16) :
    (request.withFlags flags).name = request.name := rfl

end InterfaceRequest

end TunnelProvisioning
