import TunnelProvisioning.Proofs.Json.Sequence

/-! # JSON texts read

The reader reads what the grammar says. A text that spells a tree is read as the value of the tree,
up to the rest that the grammar leaves, and if the tree has no value the text is malformed.
-/

namespace TunnelProvisioning.Json

variable {cs rest : List Char}

/-! ## Texts -/

theorem prepend_reading (c : Char) (content : Option (List Char)) :
    prepend c (reading content rest) = reading (content.map (c :: ·)) rest := by
  cases content <;> rfl

theorem IsUnit.exists_digits {digits : List Char} {unit : Nat} (isUnit : IsUnit digits unit) :
    ∃ a b c d, digits = [a, b, c, d] ∧ Digits.ofHex? [a, b, c, d] = some unit := by
  obtain ⟨four, spells⟩ := isUnit
  obtain ⟨a, b, c, d, rfl⟩ := List.length_eq_four.mp four
  exact ⟨a, b, c, d, rfl, spells⟩

namespace TextOf

variable {content : Option (List Char)}

/-- A text does not break off within an escape. -/
theorem exists_digits (spells : TextOf content cs rest) :
    cs ≠ [] ∧ cs ≠ ['\\'] ∧ ∀ after, cs = '\\' :: 'u' :: after →
      ∃ digits more, after = digits ++ more ∧ digits.length = 4 := by
  cases spells with
  | closed => exact ⟨nofun, nofun, nofun⟩
  | character spelling others =>
    cases spelling with
    | ordinary _ _ backslash =>
      refine ⟨nofun, fun same => ?_, fun after same => ?_⟩
      · exact backslash (List.cons.inj same).1
      · exact absurd (List.cons.inj same).1 backslash
    | short printable stands =>
      refine ⟨nofun, nofun, fun after same => ?_⟩
      obtain ⟨rfl, _⟩ := List.cons.inj (List.cons.inj same).2
      have unknown : shortEscape? 'u' = none := by decide
      rw [unknown] at stands
      cases stands
    | numbered four _ _ _ =>
      exact ⟨nofun, nofun, fun after same =>
        ⟨_, _, (List.cons.inj (List.cons.inj same).2).2.symm, four⟩⟩
  | numbered isUnit _ _ =>
    exact ⟨nofun, nofun, fun after same =>
      ⟨_, _, (List.cons.inj (List.cons.inj same).2).2.symm, isUnit.four⟩⟩
  | halves firstHalf _ _ _ _ _ _ =>
    exact ⟨nofun, nofun, fun after same =>
      ⟨_, _, (List.cons.inj (List.cons.inj same).2).2.symm, firstHalf.four⟩⟩
  | half isUnit _ _ _ _ =>
    exact ⟨nofun, nofun, fun after same =>
      ⟨_, _, (List.cons.inj (List.cons.inj same).2).2.symm, isUnit.four⟩⟩

/-- A text is read up to the quote that closes it. The induction is on its characters. -/
theorem textBody_eq (spells : TextOf content cs rest) : textBody cs = reading content rest := by
  induction spells with
  | closed => rfl
  | character spelling others ih => rw [textBody_spelling spelling, ih, prepend_reading]
  | numbered isUnit above others ih =>
    obtain ⟨a, b, c, d, rfl, spells⟩ := isUnit.exists_digits
    simp only [List.cons_append, List.nil_append]
    rw [textBody, spells]
    dsimp only
    rw [if_pos (Or.inr above), ih, prepend_reading]
  | halves firstHalf from_high to_high secondHalf from_low to_low others ih =>
    obtain ⟨a, b, c, d, rfl, spells⟩ := firstHalf.exists_digits
    obtain ⟨e, f, g, h, rfl, spellsLow⟩ := secondHalf.exists_digits
    simp only [List.cons_append, List.nil_append]
    rw [textBody, spells]
    dsimp only
    rw [if_neg (by omega), if_neg (by omega)]
    simp only [spellsLow, if_pos (And.intro from_low to_low)]
    rw [ih, prepend_reading]
  | @half digits cs rest unit content isUnit from_half to_half alone others ih =>
    obtain ⟨a, b, c, d, rfl, spells⟩ := isUnit.exists_digits
    obtain ⟨nonempty, complete, four⟩ := others.exists_digits
    simp only [List.cons_append, List.nil_append]
    rw [textBody, spells]
    dsimp only
    rw [if_neg (by omega)]
    split
    · rfl
    · next first =>
      split
      · next e f g h after =>
        split
        · rfl
        · next low spellsLow =>
          rw [if_neg]
          · rfl
          · rintro ⟨from_low, to_low⟩
            have second : IsUnit [e, f, g, h] low := ⟨rfl, spellsLow⟩
            exact alone (by omega) ⟨[e, f, g, h], after, low, rfl, second, from_low, to_low⟩
      · next after short =>
        obtain ⟨digits, more, rfl, length⟩ := four after rfl
        obtain ⟨e, f, g, h, rfl⟩ := List.length_eq_four.mp length
        exact absurd rfl (short e f g h more)
      · exact absurd rfl complete
      · exact absurd rfl nonempty
      · rfl

end TextOf

theorem TextOf.shorter {content : Option (List Char)} (spells : TextOf content cs rest) :
    rest.length < cs.length := by
  induction spells with
  | closed => exact Nat.lt_succ_self _
  | character _ _ ih | numbered _ _ _ ih | halves _ _ _ _ _ _ _ ih | half _ _ _ _ _ ih =>
    simp only [List.length_cons, List.length_append]
    omega

/-! ## Values by the first character -/

/-- A value starts with no blank and with no character that closes a sequence. -/
def startsValue (c : Char) : Bool :=
  !isBlank c && c ≠ ']' && c ≠ '\x7d'

theorem startsValue_iff {c : Char} :
    startsValue c = true ↔ isBlank c = false ∧ c ≠ ']' ∧ c ≠ '\x7d' := by
  simp only [startsValue, Bool.and_eq_true, Bool.not_eq_true', decide_eq_true_eq, and_assoc]

theorem startsValue_of_isDigit {c : Char} (digit : c.isDigit = true) : startsValue c = true := by
  have space : c ≠ ' ' := ne_of_isDigit digit (by decide)
  have lineFeed : c ≠ '\n' := ne_of_isDigit digit (by decide)
  have tab : c ≠ '\t' := ne_of_isDigit digit (by decide)
  have carriage : c ≠ '\r' := ne_of_isDigit digit (by decide)
  have bracket : c ≠ ']' := ne_of_isDigit digit (by decide)
  have brace : c ≠ '\x7d' := ne_of_isDigit digit (by decide)
  simp [startsValue, isBlank, space, lineFeed, tab, carriage, bracket, brace]

theorem value_minus (depth : Nat) (cs : List Char) : value depth ('-' :: cs) = (do
    let (number, rest) ← numeral true cs
    return (← number.value, rest)) := by
  cases depth <;> rfl

theorem value_digit (depth : Nat) {c : Char} (digit : c.isDigit = true) (cs : List Char) :
    value depth (c :: cs) = (do
      let (number, rest) ← numeral false (c :: cs)
      return (← number.value, rest)) := by
  have visible := (startsValue_iff.mp (startsValue_of_isDigit digit)).1
  rw [value.eq_def]
  dsimp only
  rw [skipBlanks_cons visible]
  split
  case h_1 starts => cases starts
  case h_9 starts =>
    obtain ⟨rfl, rfl⟩ := List.cons.inj starts
    exact if_pos digit
  -- a digit is none of the characters by which the other forms start
  all_goals
    next starts =>
      obtain ⟨rfl, _⟩ := List.cons.inj starts
      exact absurd digit (by decide)

theorem value_quote (depth : Nat) (cs : List Char) : value depth ('"' :: cs) = (do
    let (text, rest) ← textBody cs
    return (.text (String.ofList text), rest)) := by
  cases depth <;> rfl

theorem value_bracket (depth : Nat) (cs : List Char) : value (depth + 1) ('[' :: cs) = (do
    let (items, rest) ← sequence ']' (value depth) (cs.length + 1) true cs
    return (.array items, rest)) := rfl

theorem value_brace (depth : Nat) (cs : List Char) : value (depth + 1) ('\x7b' :: cs) = (do
    let (members, rest) ← sequence '\x7d' (member (value depth)) (cs.length + 1) true cs
    return (.object members, rest)) := rfl

theorem NumberOf.value_eq {literal : Numeral} (spells : NumberOf literal cs rest)
    (ends : rest.head?.all endsNumber = true) (depth : Nat) :
    value depth cs = reading literal.value.toOption rest := by
  have valued : (do return (← literal.value, rest)) = reading literal.value.toOption rest := by
    rcases literal.value_cases with failed | ⟨_, real⟩ | ⟨_, integer, _⟩
    · rw [failed]
      rfl
    · rw [real]
      rfl
    · rw [integer]
      rfl
  cases spells with
  | plain sign magnitude =>
    obtain ⟨c, more, rfl, digit⟩ := magnitude.exists_cons
    have read := magnitude.numeral_eq ends
    rw [sign] at read
    rw [value_digit depth digit, read]
    exact valued
  | minus sign magnitude =>
    have read := magnitude.numeral_eq ends
    rw [sign] at read
    rw [value_minus, read]
    exact valued

/-! ## Members -/

theorem Blanks.colon_eq (blanks : Blanks cs (':' :: rest)) : colon cs = .ok rest := by
  rw [colon, blanks.skipBlanks_eq]
  rfl

def memberValue? (member : Option String × Tree) : Option (String × Value) := do
  let name ← member.1
  let found ← member.2.value?
  return (name, found)

theorem itemValues?_eq (items : List Tree) : itemValues? items = items.mapM Tree.value? := by
  induction items with
  | nil => rfl
  | cons item items ih =>
    rw [itemValues?, List.mapM_cons, ih]

theorem memberValues?_eq (members : List (Option String × Tree)) :
    memberValues? members = members.mapM memberValue? := by
  induction members with
  | nil => rfl
  | cons member members ih =>
    obtain ⟨key, tree⟩ := member
    rw [memberValues?, List.mapM_cons, ih, memberValue?]
    cases key with
    | none => rfl
    | some name => cases tree.value? <;> rfl

theorem key_eq {content : Option (List Char)} (spells : TextOf content cs rest) :
    key ('"' :: cs) = reading (content.map String.ofList) rest := by
  rw [key, spells.textBody_eq]
  exact reading_map content String.ofList

theorem Blanks.value_eq (blanks : Blanks cs rest) (depth : Nat) :
    value depth cs = value depth rest := by
  rw [value.eq_def, value.eq_def depth rest]
  dsimp only
  rw [blanks.skipBlanks_eq]

/-- A member is read if values are. -/
theorem reads_member {depth : Nat} (each : Reads ']' (value depth) (Spells depth) Tree.value?) :
    Reads '\x7d' (member (value depth)) (MemberOf (Spells depth)) memberValue? where
  starts spells := by
    cases spells with
    | parts => exact ⟨'"', _, rfl, by decide, by decide⟩
  shorter spells := by
    cases spells with
    | parts name before behind spells =>
      have own := each.shorter spells
      have text := name.shorter
      have colon := before.length_le
      have gap := behind.length_le
      simp only [List.length_cons] at colon ⊢
      omega
  reads spells ends := by
    cases spells with
    | @parts content tree cs after next start rest name before behind spells =>
      have found := (behind.value_eq depth).trans (each.reads spells ends)
      rw [member, key_eq name, memberValue?]
      cases content with
      | none => rfl
      | some chars =>
        simp only [reading, Option.map_some, before.colon_eq, found, bind, Except.bind]
        cases tree.value? <;> rfl

/-! ## Values -/

theorem closes_bracket : Closes ']' :=
  ⟨by decide, by decide, by decide⟩

theorem closes_brace : Closes '\x7d' :=
  ⟨by decide, by decide, by decide⟩

theorem Spells.exists_cons {depth : Nat} {tree : Tree} (spells : Spells depth tree cs rest) :
    ∃ first more, cs = first :: more ∧ startsValue first = true := by
  cases tree with
  | null =>
    rw [spells_null_iff] at spells
    exact ⟨_, _, spells, by decide⟩
  | boolean truth =>
    cases truth with
    | true =>
      rw [spells_true_iff] at spells
      exact ⟨_, _, spells, by decide⟩
    | false =>
      rw [spells_false_iff] at spells
      exact ⟨_, _, spells, by decide⟩
  | number literal =>
    rw [spells_number_iff] at spells
    cases spells with
    | plain _ magnitude =>
      obtain ⟨c, more, starts, digit⟩ := magnitude.exists_cons
      exact ⟨c, more, starts, startsValue_of_isDigit digit⟩
    | minus => exact ⟨_, _, rfl, by decide⟩
  | text content =>
    rw [spells_text_iff] at spells
    obtain ⟨found, body, _, starts, _⟩ := spells
    exact ⟨_, _, starts, by decide⟩
  | array items =>
    cases depth with
    | zero => cases spells
    | succ depth =>
      obtain ⟨inner, starts, _⟩ := spells
      exact ⟨_, _, starts, by decide⟩
  | object members =>
    cases depth with
    | zero => cases spells
    | succ depth =>
      obtain ⟨inner, starts, _⟩ := spells
      exact ⟨_, _, starts, by decide⟩

/-- All values are read if those with parts are. -/
theorem reads_of_parts {depth : Nat}
    (arrays : ∀ {items : List Tree} {cs rest : List Char}, Spells depth (.array items) cs rest →
      rest.length < cs.length ∧ value depth cs = reading (Tree.array items).value? rest)
    (objects : ∀ {members : List (Option String × Tree)} {cs rest : List Char},
      Spells depth (.object members) cs rest →
        rest.length < cs.length ∧ value depth cs = reading (Tree.object members).value? rest) :
    Reads ']' (value depth) (Spells depth) Tree.value? := by
  have both {tree : Tree} {cs rest : List Char} (spells : Spells depth tree cs rest) :
      rest.length < cs.length ∧ (rest.head?.all endsNumber = true →
        value depth cs = reading tree.value? rest) := by
    cases tree with
    | null =>
      rw [spells_null_iff] at spells
      subst spells
      refine ⟨by simp only [List.length_cons]; omega, fun _ => ?_⟩
      cases depth <;> rfl
    | boolean truth =>
      cases truth with
      | true =>
        rw [spells_true_iff] at spells
        subst spells
        refine ⟨by simp only [List.length_cons]; omega, fun _ => ?_⟩
        cases depth <;> rfl
      | false =>
        rw [spells_false_iff] at spells
        subst spells
        refine ⟨by simp only [List.length_cons]; omega, fun _ => ?_⟩
        cases depth <;> rfl
    | number literal =>
      rw [spells_number_iff] at spells
      exact ⟨spells.shorter, fun ends => spells.value_eq ends depth⟩
    | text content =>
      rw [spells_text_iff] at spells
      obtain ⟨found, body, rfl, rfl, body⟩ := spells
      refine ⟨body.shorter.trans (Nat.lt_succ_self _), fun _ => ?_⟩
      rw [value_quote, body.textBody_eq, Tree.value?_text, Option.map_map]
      exact reading_map found fun chars => Value.text (String.ofList chars)
    | array items =>
      obtain ⟨shorter, read⟩ := arrays spells
      exact ⟨shorter, fun _ => read⟩
    | object members =>
      obtain ⟨shorter, read⟩ := objects spells
      exact ⟨shorter, fun _ => read⟩
  refine ⟨fun spells => ?_, fun spells => (both spells).1, fun spells => (both spells).2⟩
  obtain ⟨first, more, starts, value⟩ := spells.exists_cons
  obtain ⟨visible, other, _⟩ := startsValue_iff.mp value
  exact ⟨first, more, starts, visible, other⟩

/-- What spells a tree is read as its value. The induction is on the levels that may be nested. -/
theorem reads_value (depth : Nat) : Reads ']' (value depth) (Spells depth) Tree.value? := by
  induction depth with
  | zero => exact reads_of_parts (fun spells => spells.elim) fun spells => spells.elim
  | succ depth each =>
    refine reads_of_parts (fun spells => ?_) fun spells => ?_
    · obtain ⟨inner, rfl, items⟩ := spells
      refine ⟨(items.shorter each).trans (Nat.lt_succ_self _), ?_⟩
      rw [value_bracket, items.sequence_eq closes_bracket each, Tree.value?_array, itemValues?_eq]
      exact reading_map _ Value.array
    · obtain ⟨inner, rfl, members⟩ := spells
      have each := reads_member each
      refine ⟨(members.shorter each).trans (Nat.lt_succ_self _), ?_⟩
      rw [value_brace, members.sequence_eq closes_brace each, Tree.value?_object, memberValues?_eq]
      exact reading_map _ Value.object

/-- A text is read as the value of its tree, and only blanks are left. -/
theorem IsText.value_eq {depth : Nat} {tree : Tree} {text : String}
    (isText : IsText depth tree text) :
    ∃ rest, skipBlanks rest = [] ∧ value depth text.toList = reading tree.value? rest := by
  obtain ⟨start, rest, before, spells, behind⟩ := isText
  refine ⟨rest, behind.skipBlanks_eq, ?_⟩
  rw [before.value_eq, (reads_value depth).reads spells (behind.head?_ends rfl)]

end TunnelProvisioning.Json
