import Mathlib.Data.List.Basic
import TunnelProvisioning.Text.Utf8

/-! # UTF-8 and back

A run of octets decodes to a text exactly if it is what that text encodes to. Both directions go
through the first character: its octets are decoded as that character, and no other octets are.
-/

namespace TunnelProvisioning.Utf8

theorem encode_cons (c : Char) (cs : List Char) :
    encode (c :: cs) = String.utf8EncodeChar c ++ encode cs := by
  simp only [encode, List.flatMap_cons]

theorem toNat_ofNat_of_isValidChar {value : Nat} (valid : value.isValidChar) :
    (Char.ofNat value).toNat = value := by
  rw [Char.ofNat, dif_pos valid]
  rfl

theorem isValidChar_toNat (c : Char) :
    c.toNat < 0xD800 ∨ 0xDFFF < c.toNat ∧ c.toNat < 0x110000 :=
  c.valid

private theorem ofNat_eq_of_toNat {value : Nat} (octet : UInt8) (same : value = octet.toNat) :
    UInt8.ofNat value = octet := by
  rw [same, UInt8.ofNat_toNat]

private theorem toNat_ofNat_of_lt (value : Nat) (bound : value < 256) :
    (UInt8.ofNat value).toNat = value := by
  rw [UInt8.toNat_ofNat', Nat.mod_eq_of_lt bound]

/-! ## First octets -/

theorem start_of_lt {octet : Nat} (bound : octet < 0x80) :
    start octet = .ok (some (Char.ofNat octet)) := by
  rw [start, if_pos bound]

/-- An octet that starts a character of two. -/
theorem start_two {octet : Nat} (least : 0xC2 ≤ octet) (greatest : octet < 0xE0) :
    start octet = .error ⟨0, octet - 0xC0, 0x80, 0xBF⟩ := by
  rw [start, if_neg (by omega), if_neg (by omega), if_pos greatest]

/-- An octet that starts a character of three. The next one must not make it a character of two or
half of a pair. -/
theorem start_three {octet : Nat} (least : 0xE0 ≤ octet) (greatest : octet < 0xF0) :
    start octet = .error ⟨1, octet - 0xE0, if octet = 0xE0 then 0xA0 else 0x80,
      if octet = 0xED then 0x9F else 0xBF⟩ := by
  rw [start, if_neg (by omega), if_neg (by omega), if_neg (by omega)]
  by_cases first : octet = 0xE0
  · simp only [first, reduceIte, Nat.reduceEqDiff, Nat.sub_self]
  · by_cases surrogate : octet = 0xED
    · simp only [surrogate, reduceIte, Nat.reduceEqDiff, Nat.reduceSub]
    · simp only [first, surrogate, greatest, reduceIte]

/-- An octet that starts a character of four. The next one must not make it a character of three or
one beyond the last. -/
theorem start_four {octet : Nat} (least : 0xF0 ≤ octet) (greatest : octet < 0xF5) :
    start octet = .error ⟨2, octet - 0xF0, if octet = 0xF0 then 0x90 else 0x80,
      if octet = 0xF4 then 0x8F else 0xBF⟩ := by
  rw [start, if_neg (by omega), if_neg (by omega), if_neg (by omega), if_neg (by omega),
    if_neg (by omega), if_neg (by omega)]
  by_cases first : octet = 0xF0
  · simp only [first, reduceIte, Nat.reduceEqDiff, Nat.sub_self]
  · by_cases last : octet = 0xF4
    · simp only [last, reduceIte, Nat.reduceEqDiff, Nat.reduceSub, Nat.reduceLT]
    · have middle : octet < 0xF4 := by omega
      simp only [first, last, middle, reduceIte]

/-- An octet that starts no character. -/
theorem start_none {octet : Nat} (outside : 0x80 ≤ octet ∧ octet < 0xC2 ∨ 0xF5 ≤ octet) :
    start octet = .ok none := by
  simp only [start]
  split_ifs <;> first | rfl | omega

/-! ## Characters in the middle of being read -/

variable {octet : UInt8} {pending : Pending} {char : Option Char} {rest octets : List UInt8}

theorem decode_of_start (starts : start octet.toNat = .ok char) :
    decode none (octet :: rest) = char :: decode none rest := by
  rw [decode, starts]

theorem decode_of_pending (starts : start octet.toNat = .error pending) :
    decode none (octet :: rest) = decode (some pending) rest := by
  rw [decode, starts]

/-- The last octet of a character. -/
theorem decode_last {bits least greatest : Nat} (above : least ≤ octet.toNat)
    (below : octet.toNat ≤ greatest) :
    decode (some ⟨0, bits, least, greatest⟩) (octet :: rest) =
      some (Char.ofNat (64 * bits + (octet.toNat - 0x80))) :: decode none rest := by
  rw [decode, if_pos ⟨above, below⟩]

/-- An octet after which a character goes on. -/
theorem decode_inner {more bits least greatest : Nat} (above : least ≤ octet.toNat)
    (below : octet.toNat ≤ greatest) :
    decode (some ⟨more + 1, bits, least, greatest⟩) (octet :: rest) =
      decode (some ⟨more, 64 * bits + (octet.toNat - 0x80), 0x80, 0xBF⟩) rest := by
  rw [decode, if_pos ⟨above, below⟩]

/-- If a character in the middle of being read is not cut off, its next octet is in range. -/
theorem exists_octet_of_decode {c : Char} {tail : List (Option Char)}
    (decoded : decode (some pending) octets = some c :: tail) :
    ∃ octet rest, octets = octet :: rest ∧ pending.least ≤ octet.toNat ∧
      octet.toNat ≤ pending.greatest := by
  cases octets with
  | nil => simp [decode] at decoded
  | cons octet rest =>
    refine ⟨octet, rest, rfl, ?_⟩
    by_contra outside
    rw [decode, if_neg outside] at decoded
    split at decoded
    · simp at decoded
    · simp at decoded

/-! ## Whole characters -/

section

variable {c : Char}

theorem utf8EncodeChar_one (small : c.toNat ≤ 0x7F) :
    String.utf8EncodeChar c = [UInt8.ofNat c.toNat] :=
  if_pos small

theorem utf8EncodeChar_two (large : ¬c.toNat ≤ 0x7F) (small : c.toNat ≤ 0x7FF) :
    String.utf8EncodeChar c =
      [UInt8.ofNat (c.toNat / 64 % 0x20 + 0xC0), UInt8.ofNat (c.toNat % 0x40 + 0x80)] :=
  (if_neg large).trans (if_pos small)

theorem utf8EncodeChar_three (large : ¬c.toNat ≤ 0x7FF) (small : c.toNat ≤ 0xFFFF) :
    String.utf8EncodeChar c =
      [UInt8.ofNat (c.toNat / 4096 % 0x10 + 0xE0), UInt8.ofNat (c.toNat / 64 % 0x40 + 0x80),
        UInt8.ofNat (c.toNat % 0x40 + 0x80)] :=
  have larger : ¬c.toNat ≤ 0x7F := by omega
  (if_neg larger).trans ((if_neg large).trans (if_pos small))

theorem utf8EncodeChar_four (large : ¬c.toNat ≤ 0xFFFF) :
    String.utf8EncodeChar c =
      [UInt8.ofNat (c.toNat / 262144 % 0x08 + 0xF0), UInt8.ofNat (c.toNat / 4096 % 0x40 + 0x80),
        UInt8.ofNat (c.toNat / 64 % 0x40 + 0x80), UInt8.ofNat (c.toNat % 0x40 + 0x80)] :=
  have larger : ¬c.toNat ≤ 0x7FF := by omega
  have largest : ¬c.toNat ≤ 0x7F := by omega
  (if_neg largest).trans ((if_neg larger).trans (if_neg large))

end

/-- What a character encodes to is decoded as that character. -/
theorem decode_utf8EncodeChar (c : Char) (rest : List UInt8) :
    decode none (String.utf8EncodeChar c ++ rest) = some c :: decode none rest := by
  have valid := isValidChar_toNat c
  have finish {value : Nat} (same : value = c.toNat) : Char.ofNat value = c := by
    rw [same, c.ofNat_toNat]
  by_cases one : c.toNat ≤ 0x7F
  · have first := toNat_ofNat_of_lt c.toNat (by omega)
    rw [utf8EncodeChar_one one, List.singleton_append, decode_of_start (start_of_lt (by omega)),
      finish first]
  by_cases two : c.toNat ≤ 0x7FF
  · have first := toNat_ofNat_of_lt (c.toNat / 64 % 0x20 + 0xC0) (by omega)
    have second := toNat_ofNat_of_lt (c.toNat % 0x40 + 0x80) (by omega)
    rw [utf8EncodeChar_two one two]
    simp only [List.cons_append, List.nil_append]
    rw [decode_of_pending (start_two (by omega) (by omega)),
      decode_last (by omega) (by omega), finish (by omega)]
  by_cases three : c.toNat ≤ 0xFFFF
  · have first := toNat_ofNat_of_lt (c.toNat / 4096 % 0x10 + 0xE0) (by omega)
    have second := toNat_ofNat_of_lt (c.toNat / 64 % 0x40 + 0x80) (by omega)
    have third := toNat_ofNat_of_lt (c.toNat % 0x40 + 0x80) (by omega)
    rw [utf8EncodeChar_three two three]
    simp only [List.cons_append, List.nil_append]
    rw [decode_of_pending (start_three (by omega) (by omega)),
      decode_inner (by split <;> omega) (by split <;> omega),
      decode_last (by omega) (by omega), finish (by omega)]
  · have first := toNat_ofNat_of_lt (c.toNat / 262144 % 0x08 + 0xF0) (by omega)
    have second := toNat_ofNat_of_lt (c.toNat / 4096 % 0x40 + 0x80) (by omega)
    have third := toNat_ofNat_of_lt (c.toNat / 64 % 0x40 + 0x80) (by omega)
    have fourth := toNat_ofNat_of_lt (c.toNat % 0x40 + 0x80) (by omega)
    rw [utf8EncodeChar_four three]
    simp only [List.cons_append, List.nil_append]
    rw [decode_of_pending (start_four (by omega) (by omega)),
      decode_inner (by split <;> omega) (by split <;> omega),
      decode_inner (by omega) (by omega), decode_last (by omega) (by omega), finish (by omega)]

/-- Octets are decoded as a character only if they are what it encodes to. The cases are those of
the first octet. -/
theorem eq_utf8EncodeChar_append {c : Char} {tail : List (Option Char)}
    (decoded : decode none octets = some c :: tail) :
    ∃ rest, octets = String.utf8EncodeChar c ++ rest ∧ decode none rest = tail := by
  cases octets with
  | nil => simp [decode] at decoded
  | cons first octets =>
    have bound := first.toNat_lt
    by_cases one : first.toNat < 0x80
    · rw [decode_of_start (start_of_lt one)] at decoded
      obtain ⟨head, rfl⟩ := List.cons.inj decoded
      have value : c.toNat = first.toNat := by
        rw [← Option.some.inj head, toNat_ofNat_of_isValidChar (Or.inl (by omega))]
      refine ⟨octets, ?_, rfl⟩
      rw [utf8EncodeChar_one (by omega), ofNat_eq_of_toNat first value, List.singleton_append]
    by_cases none : first.toNat < 0xC2 ∨ 0xF5 ≤ first.toNat
    · rw [decode_of_start (start_none (by omega))] at decoded
      simp at decoded
    by_cases two : first.toNat < 0xE0
    · rw [decode_of_pending (start_two (by omega) two)] at decoded
      obtain ⟨second, rest, rfl, above, below⟩ := exists_octet_of_decode decoded
      rw [decode_last above below] at decoded
      obtain ⟨head, rfl⟩ := List.cons.inj decoded
      dsimp only at above below
      have value : c.toNat = 64 * (first.toNat - 0xC0) + (second.toNat - 0x80) := by
        rw [← Option.some.inj head, toNat_ofNat_of_isValidChar (Or.inl (by omega))]
      refine ⟨rest, ?_, rfl⟩
      rw [utf8EncodeChar_two (by omega) (by omega), ofNat_eq_of_toNat first (by omega),
        ofNat_eq_of_toNat second (by omega)]
      rfl
    by_cases three : first.toNat < 0xF0
    · rw [decode_of_pending (start_three (by omega) three)] at decoded
      obtain ⟨second, octets, rfl, above, below⟩ := exists_octet_of_decode decoded
      rw [decode_inner above below] at decoded
      obtain ⟨third, rest, rfl, above', below'⟩ := exists_octet_of_decode decoded
      rw [decode_last above' below'] at decoded
      obtain ⟨head, rfl⟩ := List.cons.inj decoded
      dsimp only at above below above' below'
      have value : c.toNat =
          64 * (64 * (first.toNat - 0xE0) + (second.toNat - 0x80)) + (third.toNat - 0x80) := by
        rw [← Option.some.inj head, toNat_ofNat_of_isValidChar]
        simp only [Nat.isValidChar]
        split at below <;> omega
      have large : ¬c.toNat ≤ 0x7FF := by split at above <;> omega
      have second_least : 0x80 ≤ second.toNat := by split at above <;> omega
      have second_greatest : second.toNat ≤ 0xBF := by split at below <;> omega
      refine ⟨rest, ?_, rfl⟩
      rw [utf8EncodeChar_three large (by omega), ofNat_eq_of_toNat first (by omega),
        ofNat_eq_of_toNat second (by omega), ofNat_eq_of_toNat third (by omega)]
      rfl
    · rw [decode_of_pending (start_four (by omega) (by omega))] at decoded
      obtain ⟨second, octets, rfl, above, below⟩ := exists_octet_of_decode decoded
      rw [decode_inner above below] at decoded
      obtain ⟨third, octets, rfl, above', below'⟩ := exists_octet_of_decode decoded
      rw [decode_inner above' below'] at decoded
      obtain ⟨fourth, rest, rfl, above'', below''⟩ := exists_octet_of_decode decoded
      rw [decode_last above'' below''] at decoded
      obtain ⟨head, rfl⟩ := List.cons.inj decoded
      dsimp only at above below above' below' above'' below''
      have second_least : 0x80 ≤ second.toNat := by split at above <;> omega
      have second_greatest : second.toNat ≤ 0xBF := by split at below <;> omega
      have value : c.toNat = 64 * (64 * (64 * (first.toNat - 0xF0) + (second.toNat - 0x80)) +
          (third.toNat - 0x80)) + (fourth.toNat - 0x80) := by
        rw [← Option.some.inj head, toNat_ofNat_of_isValidChar]
        simp only [Nat.isValidChar]
        split at above <;> split at below <;> omega
      have large : ¬c.toNat ≤ 0xFFFF := by split at above <;> omega
      refine ⟨rest, ?_, rfl⟩
      rw [utf8EncodeChar_four large, ofNat_eq_of_toNat first (by omega),
        ofNat_eq_of_toNat second (by omega), ofNat_eq_of_toNat third (by omega),
        ofNat_eq_of_toNat fourth (by omega)]
      rfl

/-! ## Texts -/

theorem decode_encode (cs : List Char) : decode none (encode cs) = cs.map some := by
  induction cs with
  | nil => rfl
  | cons c cs ih => rw [encode_cons, decode_utf8EncodeChar, ih, List.map_cons]

theorem decode_some_ne_nil (pending : Pending) (octets : List UInt8) :
    decode (some pending) octets ≠ [] := by
  induction octets generalizing pending with
  | nil => simp [decode]
  | cons octet rest ih =>
    rw [decode]
    split
    · split
      · simp
      · exact ih _
    · split <;> simp

theorem encode_of_decode {cs : List Char} (decoded : decode none octets = cs.map some) :
    encode cs = octets := by
  induction cs generalizing octets with
  | nil =>
    cases octets with
    | nil => rfl
    | cons octet rest =>
      rw [decode] at decoded
      split at decoded
      · simp at decoded
      · exact absurd decoded (decode_some_ne_nil _ rest)
  | cons c cs ih =>
    obtain ⟨rest, rfl, others⟩ := eq_utf8EncodeChar_append decoded
    rw [encode_cons, ih others]

theorem mapM_id_eq_some_iff {α : Type} {values : List (Option α)} {list : List α} :
    values.mapM id = some list ↔ values = list.map some := by
  induction values generalizing list with
  | nil => cases list <;> simp
  | cons value values ih =>
    cases value with
    | none => cases list <;> simp
    | some value => cases list <;> simp [Option.bind_eq_some_iff, ih, and_comm]

theorem decodeLossy_encode (cs : List Char) : decodeLossy (encode cs) = cs := by
  rw [decodeLossy, decode_encode, List.map_map]
  exact List.map_id cs

theorem encode_append (first second : List Char) :
    encode (first ++ second) = encode first ++ encode second :=
  List.flatMap_append

/-- Only the zero character has a zero among its octets. -/
theorem zero_notMem_utf8EncodeChar {c : Char} (other : c ≠ '\x00') :
    0 ∉ String.utf8EncodeChar c := by
  have positive : 0 < c.toNat := by
    apply Nat.pos_of_ne_zero
    intro zero
    exact other (by rw [← c.ofNat_toNat, zero])
  have nonzero {value : Nat} (above : 0 < value) (below : value < 256) :
      0 ≠ UInt8.ofNat value := by
    intro zero
    have same := congrArg UInt8.toNat zero
    rw [toNat_ofNat_of_lt value below] at same
    exact absurd same.symm (Nat.ne_of_gt above)
  have valid := isValidChar_toNat c
  by_cases one : c.toNat ≤ 0x7F
  · rw [utf8EncodeChar_one one, List.mem_singleton]
    exact nonzero positive (by omega)
  by_cases two : c.toNat ≤ 0x7FF
  · rw [utf8EncodeChar_two one two]
    simp only [List.mem_cons, List.not_mem_nil, or_false, not_or]
    exact ⟨nonzero (by omega) (by omega), nonzero (by omega) (by omega)⟩
  by_cases three : c.toNat ≤ 0xFFFF
  · rw [utf8EncodeChar_three two three]
    simp only [List.mem_cons, List.not_mem_nil, or_false, not_or]
    exact ⟨nonzero (by omega) (by omega), nonzero (by omega) (by omega),
      nonzero (by omega) (by omega)⟩
  · rw [utf8EncodeChar_four three]
    simp only [List.mem_cons, List.not_mem_nil, or_false, not_or]
    exact ⟨nonzero (by omega) (by omega), nonzero (by omega) (by omega),
      nonzero (by omega) (by omega), nonzero (by omega) (by omega)⟩

theorem zero_notMem_encode {cs : List Char} (free : '\x00' ∉ cs) : 0 ∉ encode cs := by
  intro member
  obtain ⟨c, inside, zero⟩ := List.mem_flatMap.mp member
  apply zero_notMem_utf8EncodeChar _ zero
  rintro rfl
  exact free inside

/-- Octets decode to a text exactly if they are what it encodes to. -/
theorem decode?_eq_some_iff {cs : List Char} : decode? octets = some cs ↔ encode cs = octets := by
  rw [decode?, mapM_id_eq_some_iff]
  constructor
  · exact encode_of_decode
  · rintro rfl
    exact decode_encode cs

end TunnelProvisioning.Utf8
