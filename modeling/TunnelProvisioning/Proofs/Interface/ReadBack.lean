import TunnelProvisioning.Proofs.Interface.Request
import TunnelProvisioning.Proofs.Text.Truncation

/-! # Names that do not fit

A name that is too long for its field is cut at an octet, which may lie within a character. What is
read is then the longest start of the name that fits, with a replacement character for the part of a
character behind it. That character need not fit either and is cut in its turn, yet reads the same.
-/

namespace TunnelProvisioning.InterfaceRequest

variable {name : String}

/-- The part of a name that is read from a request has no zero character. -/
theorem zero_notMem_of_starts {kept : List Char} (starts : kept <+: (beforeZero name).toList) :
    '\x00' ∉ kept := fun member =>
  zero_notMem_beforeZero name (starts.subset member)

theorem beforeZero_ofList {cs : List Char} (free : '\x00' ∉ cs) :
    beforeZero (String.ofList cs) = String.ofList cs := by
  rw [beforeZero_eq_self_iff, String.toList_ofList]
  exact free

/-- A name that does not fit fills its field with the characters that do and part of the next. -/
theorem exists_cut (long : 15 < Utf8.size (beforeZero name)) :
    ∃ kept part, Utf8.LongestFit 15 kept (beforeZero name).toList ∧
      (part = [] ∨ Utf8.IsPart part) ∧ (Utf8.encode kept).length + part.length = 15 ∧
      (ofName name).name = String.ofList (Utf8.decodeLossy (Utf8.encode kept ++ part)) := by
  obtain ⟨kept, part, longest, parts, taken⟩ :=
    Utf8.exists_take_encode 15 (beforeZero name).toList
  have full := congrArg List.length taken
  rw [List.length_take, List.length_append] at full
  rw [Utf8.size] at long
  refine ⟨kept, part, longest, parts, by omega, ?_⟩
  rw [name_ofName_eq, taken]

/-- A name of characters that fill the field, or of fewer with a replacement character behind them
that may be cut, is read back as it is. -/
theorem name_ofName_replaced {kept : List Char} (free : '\x00' ∉ kept) {count : Nat}
    (some : 0 < count) (most : count ≤ 3) (full : (Utf8.encode kept).length + count = 15) :
    (ofName (String.ofList (kept ++ [Utf8.replacement]))).name =
      String.ofList (kept ++ [Utf8.replacement]) := by
  have other : '\x00' ∉ kept ++ [Utf8.replacement] := by
    rw [List.mem_append, List.mem_singleton]
    rintro (member | same)
    · exact free member
    · exact absurd same (by decide)
  have room : 15 - (Utf8.encode kept).length = count := by omega
  have taken : (Utf8.encode (kept ++ [Utf8.replacement])).take 15 =
      Utf8.encode kept ++ (String.utf8EncodeChar Utf8.replacement).take count := by
    rw [Utf8.encode_append, List.take_append, List.take_of_length_le (by omega), room]
    rfl
  rw [name_ofName_eq, beforeZero_ofList other, String.toList_ofList, taken,
    Utf8.decodeLossy_take_replacement kept some most]

/-- What is read from a request for a name: the part of the name before its first zero character if
that fits, and otherwise the longest start of it that does, with one replacement character behind it
if it leaves octets of its field to the next character. A name that was read is read again as it is
once it is written, although the octets of the request may be others than before. -/
theorem name_readBack (name : String) :
    let text := beforeZero name
    let request := ofName name
    (Utf8.size text ≤ 15 → request.name = text) ∧
    (15 < Utf8.size text → ∃ kept, Utf8.LongestFit 15 kept text.toList ∧
      request.name = String.ofList
        (kept ++ if (Utf8.encode kept).length < 15 then [Utf8.replacement] else [])) ∧
    (request.setName request.name).name = request.name ∧
    ∃ other, ((ofName other).setName (ofName other).name).nameField ≠ (ofName other).nameField := by
  intro text request
  have changes : ∃ other,
      ((ofName other).setName (ofName other).name).nameField ≠ (ofName other).nameField :=
    ⟨"aaaaaaaaaaaaaaü", by decide⟩
  rw [← and_assoc, ← and_assoc]
  refine ⟨?_, changes⟩
  have again : (request.setName request.name).name = (ofName request.name).name := rfl
  rw [again]
  by_cases fits : Utf8.size text ≤ 15
  · have read : request.name = text := name_ofName fits
    have whole : beforeZero text = text := beforeZero_eq_self_iff.mpr (zero_notMem_beforeZero name)
    rw [read]
    refine ⟨⟨fun _ => rfl, fun long => absurd fits (Nat.not_le.mpr long)⟩, ?_⟩
    rw [name_ofName (by rwa [whole]), whole]
  · obtain ⟨kept, part, longest, parts, full, read⟩ := exists_cut (Nat.not_le.mp fits)
    have free : '\x00' ∉ kept := zero_notMem_of_starts longest.starts
    change request.name = _ at read
    rcases parts with rfl | isPart
    · rw [List.append_nil, Utf8.decodeLossy_encode] at read
      rw [List.length_nil] at full
      have whole : beforeZero (String.ofList kept) = String.ofList kept := beforeZero_ofList free
      have small : Utf8.size (beforeZero (String.ofList kept)) ≤ 15 := by
        rw [whole, Utf8.size, String.toList_ofList]
        omega
      refine ⟨⟨fun short => absurd short fits, fun _ => ⟨kept, longest, ?_⟩⟩, ?_⟩
      · rw [read, if_neg (by omega), List.append_nil]
      · rw [read, name_ofName small, whole]
    · rw [Utf8.decodeLossy_part kept isPart] at read
      have some := isPart.length_pos
      refine ⟨⟨fun short => absurd short fits, fun _ => ⟨kept, longest, ?_⟩⟩, ?_⟩
      · rw [read, if_pos (by omega)]
      · rw [read, name_ofName_replaced free some isPart.length_le full]

/-- A character of three octets of which one fits. -/
theorem name_readBack_split :
    let name := "abcdefghijklmn€"
    15 < Utf8.size (beforeZero name) ∧
    (∃ kept, Utf8.LongestFit 15 kept (beforeZero name).toList ∧
      (ofName name).name = String.ofList
        (kept ++ if (Utf8.encode kept).length < 15 then [Utf8.replacement] else [])) ∧
    (ofName name).name = "abcdefghijklmn\uFFFD" := by
  intro name
  have long : 15 < Utf8.size (beforeZero name) := by decide
  have read : (ofName name).name = "abcdefghijklmn\uFFFD" := by decide +kernel
  exact ⟨long, (name_readBack name).2.1 long, read⟩

end TunnelProvisioning.InterfaceRequest
