import TunnelProvisioning.Proofs.Text.Utf8

/-! # Texts cut at an octet

The first so many octets of a text are those of its longest start that fits, and some octets of the
next character, though not all of them. A reader that replaces what is no text makes one character
of these, whichever character was cut and however much of it is left.
-/

namespace TunnelProvisioning.Utf8

/-- The longest start of a text that fits into so many octets. -/
structure LongestFit (room : Nat) (kept whole : List Char) : Prop where
  starts : kept <+: whole
  fits : (encode kept).length ≤ room
  longest : ∀ other, other <+: whole → (encode other).length ≤ room → other <+: kept

namespace LongestFit

variable {room : Nat} {kept whole : List Char} {c : Char}

theorem nil (room : Nat) : LongestFit room [] [] where
  starts := List.prefix_rfl
  fits := Nat.zero_le room
  longest _ starts _ := starts

theorem length_encode_cons (c : Char) (cs : List Char) :
    (encode (c :: cs)).length = c.utf8Size + (encode cs).length := by
  rw [encode_cons, List.length_append, String.length_utf8EncodeChar]

/-- A character that fits is kept, with what fits behind it. -/
theorem cons (fits : c.utf8Size ≤ room) (others : LongestFit (room - c.utf8Size) kept whole) :
    LongestFit room (c :: kept) (c :: whole) where
  starts := List.prefix_cons_inj c |>.mpr others.starts
  fits := by
    have rest := others.fits
    rw [length_encode_cons]
    omega
  longest other starts small := by
    cases other with
    | nil => exact List.nil_prefix
    | cons first other =>
      obtain ⟨rfl, behind⟩ := List.cons_prefix_cons.mp starts
      rw [length_encode_cons] at small
      exact (List.prefix_cons_inj first).mpr (others.longest other behind (by omega))

/-- Nothing is kept from the first character that does not fit. -/
theorem nil_of_large (large : room < c.utf8Size) : LongestFit room [] (c :: whole) where
  starts := List.nil_prefix
  fits := Nat.zero_le room
  longest other starts small := by
    cases other with
    | nil => exact List.nil_prefix
    | cons first other =>
      obtain ⟨rfl, _⟩ := List.cons_prefix_cons.mp starts
      rw [length_encode_cons] at small
      omega

end LongestFit

/-- Some octets of a character, from the first one on, but not all of them. -/
def IsPart (part : List UInt8) : Prop :=
  ∃ c missing, String.utf8EncodeChar c = part ++ missing ∧ part ≠ [] ∧ missing ≠ []

theorem IsPart.length_pos {part : List UInt8} (isPart : IsPart part) : 0 < part.length := by
  obtain ⟨c, missing, _, some, _⟩ := isPart
  exact List.length_pos_iff.mpr some

/-- No character has more than four octets. -/
theorem IsPart.length_le {part : List UInt8} (isPart : IsPart part) : part.length ≤ 3 := by
  obtain ⟨c, missing, whole, _, cut⟩ := isPart
  have size := congrArg List.length whole
  have four := c.utf8Size_le_four
  have left := List.length_pos_iff.mpr cut
  rw [String.length_utf8EncodeChar, List.length_append] at size
  omega

/-- The first octets of a character are none of it or part of it, if some are missing. -/
theorem take_utf8EncodeChar {c : Char} {room : Nat} (large : room < c.utf8Size) :
    (String.utf8EncodeChar c).take room = [] ∨ IsPart ((String.utf8EncodeChar c).take room) := by
  have size : (String.utf8EncodeChar c).length = c.utf8Size := String.length_utf8EncodeChar c
  rcases Nat.eq_zero_or_pos room with rfl | some
  · exact .inl List.take_zero
  · refine .inr ⟨c, (String.utf8EncodeChar c).drop room, (List.take_append_drop ..).symm, ?_, ?_⟩
    · apply List.ne_nil_of_length_pos
      rw [List.length_take]
      omega
    · apply List.ne_nil_of_length_pos
      rw [List.length_drop]
      omega

/-- The first octets of a text are those of the characters that fit, and part of the next one. The
induction is on the text. -/
theorem exists_take_encode (room : Nat) (whole : List Char) :
    ∃ kept part, LongestFit room kept whole ∧ (part = [] ∨ IsPart part) ∧
      (encode whole).take room = encode kept ++ part := by
  induction whole generalizing room with
  | nil => exact ⟨[], [], .nil room, .inl rfl, List.take_nil⟩
  | cons c whole ih =>
    have size : (String.utf8EncodeChar c).length = c.utf8Size := String.length_utf8EncodeChar c
    by_cases fits : c.utf8Size ≤ room
    · obtain ⟨kept, part, longest, parts, taken⟩ := ih (room - c.utf8Size)
      refine ⟨c :: kept, part, longest.cons fits, parts, ?_⟩
      rw [encode_cons, encode_cons, List.append_assoc, ← taken, List.take_append, size,
        List.take_of_length_le (size ▸ fits)]
    · have large := Nat.not_le.mp fits
      refine ⟨[], _, .nil_of_large large, take_utf8EncodeChar large, ?_⟩
      rw [encode_cons, List.take_append_of_le_length (by omega)]
      rfl

/-! ## Reading what was cut -/

theorem decode_encode_append (cs : List Char) (octets : List UInt8) :
    decode none (encode cs ++ octets) = cs.map some ++ decode none octets := by
  induction cs with
  | nil => rfl
  | cons c cs ih =>
    rw [encode_cons, List.append_assoc, decode_utf8EncodeChar, ih, List.map_cons, List.cons_append]

theorem decode_ne_nil {octets : List UInt8} (some : octets ≠ []) : decode none octets ≠ [] := by
  cases octets with
  | nil => exact absurd rfl some
  | cons octet rest =>
    rw [decode]
    split
    · exact List.cons_ne_nil _ _
    · exact decode_some_ne_nil _ rest

/-- If octets go on with the character in the middle of being read and end before it does, they make
one ill-formed part. The induction is on them. -/
theorem decode_pending_of_cut {pending : Pending} {part missing : List UInt8} {c : Char}
    (decoded : decode (some pending) (part ++ missing) = [some c]) (cut : missing ≠ []) :
    decode (some pending) part = [none] := by
  induction part generalizing pending with
  | nil => rfl
  | cons octet part ih =>
    rw [List.cons_append] at decoded
    obtain ⟨next, rest, same, above, below⟩ := exists_octet_of_decode decoded
    obtain ⟨rfl, rfl⟩ := List.cons.inj same
    obtain ⟨more, bits, least, greatest⟩ := pending
    cases more with
    | zero =>
      -- the character would end here, and what is missing would make another one
      rw [decode_last above below] at decoded
      have rest : part ++ missing ≠ [] := List.append_ne_nil_of_right_ne_nil _ cut
      exact absurd (List.cons.inj decoded).2 (decode_ne_nil rest)
    | succ more =>
      rw [decode_inner above below] at decoded ⊢
      exact ih decoded

/-- Part of a character is read as one ill-formed part. -/
theorem IsPart.decode_eq {part : List UInt8} (isPart : IsPart part) :
    decode none part = [none] := by
  obtain ⟨c, missing, whole, some, cut⟩ := isPart
  have decoded : decode none (part ++ missing) = [.some c] := by
    rw [← whole, ← List.append_nil (String.utf8EncodeChar c), decode_utf8EncodeChar]
    rfl
  cases part with
  | nil => exact absurd rfl some
  | cons octet part =>
    have rest : part ++ missing ≠ [] := List.append_ne_nil_of_right_ne_nil _ cut
    cases starts : start octet.toNat with
    | ok char =>
      rw [List.cons_append, decode_of_start starts] at decoded
      exact absurd (List.cons.inj decoded).2 (decode_ne_nil rest)
    | error pending =>
      rw [List.cons_append, decode_of_pending starts] at decoded
      rw [decode_of_pending starts]
      exact decode_pending_of_cut decoded cut

theorem decodeLossy_part (kept : List Char) {part : List UInt8} (isPart : IsPart part) :
    decodeLossy (encode kept ++ part) = kept ++ [replacement] := by
  rw [decodeLossy, decode_encode_append, isPart.decode_eq, List.map_append, List.map_map]
  exact congrArg (· ++ [replacement]) (List.map_id kept)

/-- Even what is left of a replacement character is read as one. -/
theorem decodeLossy_take_replacement (kept : List Char) {count : Nat} (some : 0 < count)
    (most : count ≤ 3) :
    decodeLossy (encode kept ++ (String.utf8EncodeChar replacement).take count) =
      kept ++ [replacement] := by
  rcases Nat.eq_or_lt_of_le most with rfl | large
  · have all : (String.utf8EncodeChar replacement).take 3 = encode [replacement] := by decide
    rw [all, ← encode_append, decodeLossy_encode]
  · rcases take_utf8EncodeChar (c := replacement) large with nothing | isPart
    · have length := congrArg List.length nothing
      have three : (String.utf8EncodeChar replacement).length = 3 := by decide
      rw [List.length_take, three, List.length_nil] at length
      omega
    · exact decodeLossy_part kept isPart

end TunnelProvisioning.Utf8
