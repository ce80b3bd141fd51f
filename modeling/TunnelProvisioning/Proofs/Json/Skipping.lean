import TunnelProvisioning.Proofs.Json.Reading

/-! # JSON values skipped

A value that nobody looks at is skipped, and whatever the grammar says is a value can be: its
numbers may be beyond the range of numbers and its escapes may name half a character. How deep it
may be nested is bounded only by its own length.
-/

namespace TunnelProvisioning.Json

variable {cs rest : List Char}

/-! ## Texts -/

theorem skipTextBody_unit {digits : List Char} {unit : Nat} (isUnit : IsUnit digits unit)
    (cs : List Char) : skipTextBody ('\\' :: 'u' :: (digits ++ cs)) = skipTextBody cs := by
  obtain ⟨a, b, c, d, rfl, spells⟩ := isUnit.exists_digits
  simp only [List.cons_append, List.nil_append]
  rw [skipTextBody, spells]
  rfl

theorem skipTextBody_spelling {c : Char} {written : List Char} (spelling : Spelling c written)
    (cs : List Char) : skipTextBody (written ++ cs) = skipTextBody cs := by
  cases spelling with
  | ordinary printable quote backslash =>
    have free : ¬c.toNat < 0x20 := Nat.not_lt.mpr (of_decide_eq_true printable)
    rw [List.singleton_append, skipTextBody, if_neg free]
    all_goals
      intros
      contradiction
  | @short letter printable stands =>
    have numbered : letter ≠ 'u' := by
      rintro rfl
      have unknown : shortEscape? 'u' = none := by decide
      rw [unknown] at stands
      cases stands
    simp only [List.cons_append, List.nil_append]
    rw [skipTextBody, stands]
    · rfl
    all_goals simp [numbered]
  | numbered four printable spells small => exact skipTextBody_unit ⟨four, spells⟩ cs

/-- A text is skipped up to the quote that closes it. The induction is on its characters. -/
theorem TextOf.skipTextBody_eq {content : Option (List Char)} (spells : TextOf content cs rest) :
    skipTextBody cs = .ok rest := by
  induction spells with
  | closed => rfl
  | character spelling others ih => rw [skipTextBody_spelling spelling, ih]
  | numbered isUnit above others ih => rw [skipTextBody_unit isUnit, ih]
  | halves firstHalf _ _ secondHalf _ _ others ih =>
    rw [skipTextBody_unit firstHalf, skipTextBody_unit secondHalf, ih]
  | half isUnit _ _ _ others ih => rw [skipTextBody_unit isUnit, ih]

/-! ## Numbers -/

theorem MagnitudeOf.skipNumeral_eq {literal : Numeral} (spells : MagnitudeOf literal cs rest)
    (ends : rest.head?.all endsNumber = true) : skipNumeral cs = .ok rest := by
  have unsigned : MagnitudeOf { literal with negative := false } cs rest := by
    cases spells with
    | parts whole fraction exponent => exact .parts whole fraction exponent
  rw [skipNumeral, unsigned.numeral_eq ends]

/-! ## Values -/

theorem skipValue_digit (fuel : Nat) {c : Char} (digit : c.isDigit = true) (cs : List Char) :
    skipValue fuel (c :: cs) = (do return ((), ← skipNumeral (c :: cs))) := by
  have visible := (startsValue_iff.mp (startsValue_of_isDigit digit)).1
  rw [skipValue.eq_def]
  dsimp only
  rw [skipBlanks_cons visible]
  split
  case h_1 starts => cases starts
  case h_9 starts =>
    obtain ⟨rfl, rfl⟩ := List.cons.inj starts
    exact if_pos digit
  -- a digit is none of the characters by which the other forms start
  all_goals
    next starts =>
      obtain ⟨rfl, _⟩ := List.cons.inj starts
      exact absurd digit (by decide)

theorem NumberOf.skipValue_eq {literal : Numeral} (spells : NumberOf literal cs rest)
    (ends : rest.head?.all endsNumber = true) (fuel : Nat) :
    skipValue fuel cs = .ok ((), rest) := by
  cases spells with
  | plain sign magnitude =>
    obtain ⟨c, more, rfl, digit⟩ := magnitude.exists_cons
    rw [skipValue_digit fuel digit, magnitude.skipNumeral_eq ends]
    rfl
  | @minus cs _ sign magnitude =>
    have signed : skipValue fuel ('-' :: cs) = (do return ((), ← skipNumeral cs)) := by
      cases fuel <;> rfl
    rw [signed, magnitude.skipNumeral_eq ends]
    rfl

theorem skipValue_bracket (fuel : Nat) (cs : List Char) : skipValue (fuel + 1) ('[' :: cs) = (do
    let (_, rest) ← sequence ']' (skipValue fuel) (cs.length + 1) true cs
    return ((), rest)) := rfl

theorem skipValue_brace (fuel : Nat) (cs : List Char) : skipValue (fuel + 1) ('\x7b' :: cs) = (do
    let (_, rest) ← sequence '\x7d' (skipMember (skipValue fuel)) (cs.length + 1) true cs
    return ((), rest)) := rfl

theorem Blanks.skipValue_eq (blanks : Blanks cs rest) (fuel : Nat) :
    skipValue fuel cs = skipValue fuel rest := by
  rw [skipValue.eq_def, skipValue.eq_def fuel rest]
  dsimp only
  rw [blanks.skipBlanks_eq]

/-- What is skipped has no value that anyone looks at. -/
def skipped {α : Type} (_ : α) : Option Unit :=
  some ()

theorem mapM_skipped {α : Type} (items : List α) :
    items.mapM skipped = some (items.map fun _ => ()) := by
  induction items with
  | nil => rfl
  | cons item items ih =>
    rw [List.mapM_cons, ih]
    rfl

/-- A member is skipped if values are. -/
theorem skips_member {depth fuel : Nat}
    (each : Reads ']' (skipValue fuel) (Spells depth) skipped) :
    Reads '\x7d' (skipMember (skipValue fuel)) (MemberOf (Spells depth)) skipped where
  starts := (reads_member (reads_value depth)).starts
  shorter := (reads_member (reads_value depth)).shorter
  reads spells ends := by
    cases spells with
    | @parts content tree cs after next start rest name before behind spells =>
      have found := (behind.skipValue_eq fuel).trans (each.reads spells ends)
      simp only [skipMember, name.skipTextBody_eq, before.colon_eq, bind, Except.bind]
      exact found

/-- All values are skipped if those with parts are. -/
theorem skips_of_parts {depth fuel : Nat}
    (arrays : ∀ {items : List Tree} {cs rest : List Char}, Spells depth (.array items) cs rest →
      skipValue fuel cs = .ok ((), rest))
    (objects : ∀ {members : List (Option String × Tree)} {cs rest : List Char},
      Spells depth (.object members) cs rest → skipValue fuel cs = .ok ((), rest)) :
    Reads ']' (skipValue fuel) (Spells depth) skipped := by
  refine ⟨(reads_value depth).starts, (reads_value depth).shorter, ?_⟩
  intro tree cs rest spells ends
  change skipValue fuel cs = .ok ((), rest)
  cases tree with
  | null =>
    rw [spells_null_iff.mp spells]
    cases fuel <;> rfl
  | boolean truth =>
    cases truth with
    | true =>
      rw [spells_true_iff.mp spells]
      cases fuel <;> rfl
    | false =>
      rw [spells_false_iff.mp spells]
      cases fuel <;> rfl
  | number literal =>
    rw [spells_number_iff] at spells
    exact spells.skipValue_eq ends fuel
  | text content =>
    obtain ⟨found, body, _, rfl, text⟩ := spells_text_iff.mp spells
    have quoted : skipValue fuel ('"' :: body) = (do return ((), ← skipTextBody body)) := by
      cases fuel <;> rfl
    rw [quoted, text.skipTextBody_eq]
    rfl
  | array items => exact arrays spells
  | object members => exact objects spells

/-- What spells a tree is skipped if its levels may be. The induction is on them. -/
theorem skips_value (depth : Nat) {fuel : Nat} (enough : depth ≤ fuel) :
    Reads ']' (skipValue fuel) (Spells depth) skipped := by
  induction depth generalizing fuel with
  | zero => exact skips_of_parts (fun spells => spells.elim) fun spells => spells.elim
  | succ depth ih =>
    obtain ⟨fuel, rfl⟩ := Nat.exists_eq_add_one.mpr (Nat.zero_lt_of_lt enough)
    have each := ih (Nat.le_of_succ_le_succ enough)
    refine skips_of_parts (fun spells => ?_) fun spells => ?_
    · obtain ⟨inner, rfl, items⟩ := spells
      rw [skipValue_bracket, items.sequence_eq closes_bracket each, mapM_skipped]
      rfl
    · obtain ⟨inner, rfl, members⟩ := spells
      rw [skipValue_brace, members.sequence_eq closes_brace (skips_member each), mapM_skipped]
      rfl

/-! ## Levels -/

section

variable {α : Type} {closing : Char} {bound : Nat} {form other : α → List Char → List Char → Prop}

/-- Whether what has one form has another one as well, up to a length of the text. It takes some of
the text. -/
def Carries (bound : Nat) (form other : α → List Char → List Char → Prop) : Prop :=
  ∀ ⦃found : α⦄ ⦃cs rest : List Char⦄, form found cs rest → cs.length ≤ bound →
    other found cs rest ∧ rest.length < cs.length

/-- A sequence keeps its form if its items, which are no longer than it is, do. -/
theorem Elements.imp (carries : Carries bound form other) {found : List α}
    (elements : Elements closing form found cs rest) (short : cs.length ≤ bound) :
    Elements closing other found cs rest := by
  induction elements with
  | last spells blanks => exact .last (carries spells short).1 blanks
  | more spells before behind elements ih =>
    obtain ⟨spells, own⟩ := carries spells short
    have comma := before.length_le
    have gap := behind.length_le
    rw [List.length_cons] at comma
    exact .more spells before behind (ih (by omega))

theorem SequenceOf.imp (carries : Carries bound form other) {found : List α}
    (sequence : SequenceOf closing form found cs rest) (short : cs.length ≤ bound) :
    SequenceOf closing other found cs rest := by
  cases sequence with
  | empty blanks => exact .empty blanks
  | filled blanks elements =>
    have gap := blanks.length_le
    exact .filled blanks (elements.imp carries (by omega))

/-- A member keeps its form if its value, which is no longer than it is, does. -/
theorem Carries.memberOf (carries : Carries bound form other) :
    Carries bound (MemberOf form) (MemberOf other) := by
  intro found cs rest member short
  cases member with
  | parts name before behind spells =>
    have text := name.shorter
    have colon := before.length_le
    have gap := behind.length_le
    simp only [List.length_cons] at colon short ⊢
    obtain ⟨spells, own⟩ := carries spells (by omega)
    exact ⟨.parts name before behind spells, by omega⟩

end

/-- No value has more levels than characters. The induction is on the levels that it may have. -/
theorem Spells.of_length_le {depth enough : Nat} {tree : Tree} (spells : Spells depth tree cs rest)
    (short : cs.length ≤ enough) : Spells enough tree cs rest := by
  induction depth generalizing enough tree cs rest with
  | zero =>
    cases tree with
    | array items => exact spells.elim
    | object members => exact spells.elim
    | boolean truth => cases truth <;> simpa only [spells_true_iff, spells_false_iff] using spells
    | null | number literal | text content =>
      simpa only [spells_null_iff, spells_number_iff, spells_text_iff] using spells
  | succ depth ih =>
    have carries (enough : Nat) : Carries enough (Spells depth) (Spells enough) :=
      fun _ _ _ spells short => ⟨ih spells short, (reads_value depth).shorter spells⟩
    cases tree with
    | array items =>
      obtain ⟨inner, rfl, items⟩ := spells
      obtain ⟨enough, rfl⟩ := Nat.exists_eq_add_one.mpr (Nat.zero_lt_of_lt short)
      exact ⟨inner, rfl, items.imp (carries enough) (Nat.le_of_succ_le_succ short)⟩
    | object members =>
      obtain ⟨inner, rfl, members⟩ := spells
      obtain ⟨enough, rfl⟩ := Nat.exists_eq_add_one.mpr (Nat.zero_lt_of_lt short)
      exact ⟨inner, rfl, members.imp (carries enough).memberOf (Nat.le_of_succ_le_succ short)⟩
    | boolean truth => cases truth <;> simpa only [spells_true_iff, spells_false_iff] using spells
    | null | number literal | text content =>
      simpa only [spells_null_iff, spells_number_iff, spells_text_iff] using spells

/-- A value at the front of a text is skipped, however deep it is nested. -/
theorem skip_eq {depth : Nat} {tree : Tree} {start : List Char} (blanks : Blanks cs start)
    (spells : Spells depth tree start rest) (ends : rest.head?.all endsNumber = true) :
    skip cs = .ok rest := by
  have short : start.length ≤ cs.length + 1 := blanks.length_le.trans (Nat.le_succ _)
  have skips := (skips_value _ le_rfl).reads (spells.of_length_le short) ends
  rw [skip, blanks.skipValue_eq, skips]
  rfl

end TunnelProvisioning.Json
