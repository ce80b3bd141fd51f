import Mathlib.Data.List.Basic
import TunnelProvisioning.Json.Reader

/-! # JSON texts read back

A text between double quotes is written character by character: each stands as itself, as a short
escape or by its number. Whichever it is, it is read as that character, whatever follows, and no
control character stands as itself.
-/

namespace TunnelProvisioning.Json

/-- Whether a character is no control character, and so may stand in a text as itself. -/
def isPrintable (c : Char) : Bool :=
  0x20 ≤ c.toNat

/-- How a character is written between quotes. -/
inductive Spelling : Char → List Char → Prop where
  | ordinary {c : Char} (printable : isPrintable c = true) (quote : c ≠ '"')
      (backslash : c ≠ '\\') : Spelling c [c]
  | short {c letter : Char} (printable : isPrintable letter = true)
      (stands : shortEscape? letter = some c) : Spelling c ['\\', letter]
  | numbered {c : Char} {digits : List Char} (four : digits.length = 4)
      (printable : digits.all isPrintable = true)
      (spells : Digits.ofHex? digits = some c.toNat) (small : c.toNat < 0xD800) :
      Spelling c ('\\' :: 'u' :: digits)

/-! ## What is written -/

private theorem numbered_control : ∀ code : Fin 32,
    (Digits.hexPadded 4 code).length = 4 ∧
      (Digits.hexPadded 4 code).all isPrintable = true ∧
      Digits.ofHex? (Digits.hexPadded 4 code) = some code.val := by
  decide +kernel

theorem spelling_escape (c : Char) : Spelling c (escape c) := by
  rw [escape]
  split_ifs with quote backslash backspace formFeed lineFeed carriage tab control
  · subst quote
    exact .short (by decide) (by decide)
  · subst backslash
    exact .short (by decide) (by decide)
  · subst backspace
    exact .short (by decide) (by decide)
  · subst formFeed
    exact .short (by decide) (by decide)
  · subst lineFeed
    exact .short (by decide) (by decide)
  · subst carriage
    exact .short (by decide) (by decide)
  · subst tab
    exact .short (by decide) (by decide)
  · obtain ⟨four, printable, spells⟩ := numbered_control ⟨c.toNat, control⟩
    exact .numbered four printable spells (by omega)
  · have printable : isPrintable c = true := decide_eq_true (Nat.not_lt.mp control)
    exact .ordinary printable quote backslash

theorem Spelling.isPrintable {c : Char} {written : List Char} (spelling : Spelling c written) :
    written.all isPrintable = true := by
  have backslash : Json.isPrintable '\\' = true := by decide
  have u : Json.isPrintable 'u' = true := by decide
  cases spelling with
  | ordinary printable _ _ => simp only [List.all_cons, List.all_nil, printable, Bool.and_self]
  | short printable stands =>
    simp only [List.all_cons, List.all_nil, backslash, printable, Bool.and_self]
  | numbered four printable spells small =>
    simp only [List.all_cons, backslash, u, printable, Bool.and_self]

/-- No control character stands as itself in a written text. -/
theorem isPrintable_quote (content : List Char) : (quote content).all isPrintable = true := by
  have inner : (content.flatMap escape).all isPrintable = true := by
    rw [List.all_flatMap, List.all_eq_true]
    intro c _
    exact (spelling_escape c).isPrintable
  have mark : isPrintable '"' = true := by decide
  simp only [quote, List.all_cons, List.all_append, List.all_nil, inner, mark, Bool.and_self]

/-! ## What is read -/

/-- A character that is written is read, whatever follows. -/
theorem textBody_spelling {c : Char} {written : List Char} (spelling : Spelling c written)
    (rest : List Char) : textBody (written ++ rest) = prepend c (textBody rest) := by
  cases spelling with
  | ordinary printable quote backslash =>
    have free : ¬c.toNat < 0x20 := Nat.not_lt.mpr (of_decide_eq_true printable)
    rw [List.singleton_append, textBody, if_neg free]
    all_goals
      intros
      contradiction
  | @short letter printable stands =>
    have numbered : letter ≠ 'u' := by
      rintro rfl
      have unknown : shortEscape? 'u' = none := by decide
      rw [unknown] at stands
      cases stands
    simp only [List.cons_append, List.nil_append]
    rw [textBody, stands]
    all_goals simp [numbered]
  | @numbered digits four printable spells small =>
    match digits, four with
    | [first, second, third, fourth], _ =>
      simp only [List.cons_append, List.nil_append]
      rw [textBody, spells]
      dsimp only
      rw [if_pos (Or.inl small), c.ofNat_toNat]

end TunnelProvisioning.Json
