import TunnelProvisioning.Proofs.Json.Reading

/-! # JSON values read back

A value is written without blanks or control characters. What is written is a text of the grammar,
so it is read back whole, as long as nothing follows that could be part of a number.
-/

namespace TunnelProvisioning.Json

open Digits

/-! ## Members -/

def memberText (entry : String × Value) : List Char :=
  quote entry.1.toList ++ ':' :: entry.2.chars

theorem itemChars_eq (items : List Value) : itemChars items = separated Value.chars items := by
  induction items with
  | nil => simp only [itemChars, separated]
  | cons item items ih =>
    cases items with
    | nil => simp [itemChars, separated, following]
    | cons next items =>
      rw [itemChars, ih]
      rfl

theorem memberChars_eq (members : List (String × Value)) :
    memberChars members = separated memberText members := by
  induction members with
  | nil => simp only [memberChars, separated]
  | cons entry members ih =>
    cases members with
    | nil => simp [memberChars, separated, following, memberText]
    | cons next members =>
      rw [memberChars, ih]
      simp only [separated, memberText, following, List.flatMap_cons, List.append_assoc,
        List.cons_append]

/-! ## Values -/

/-- Whether a value is read back: its numbers are integers of 64 bits, with or without sign, and it
has at most so many levels of arrays and objects in it. -/
inductive Value.Readable : Nat → Value → Prop where
  | null {depth : Nat} : Readable depth .null
  | boolean {depth : Nat} (truth : Bool) : Readable depth (.boolean truth)
  | integer {depth : Nat} {number : Int} (least : -0x8000000000000000 ≤ number)
      (greatest : number ≤ 0xFFFFFFFFFFFFFFFF) : Readable depth (.integer number)
  | text {depth : Nat} (content : String) : Readable depth (.text content)
  | array {depth : Nat} {items : List Value} (inner : ∀ item ∈ items, Readable depth item) :
      Readable (depth + 1) (.array items)
  | object {depth : Nat} {members : List (String × Value)}
      (inner : ∀ entry ∈ members, Readable depth entry.2) : Readable (depth + 1) (.object members)

/-! ### In one line -/

theorem isPrintable_following {α : Type} {write : α → List Char} {values : List α}
    (printable : ∀ value ∈ values, (write value).all isPrintable = true) :
    (following write values).all isPrintable = true := by
  have comma : isPrintable ',' = true := by decide
  rw [following, List.all_flatMap, List.all_eq_true]
  intro value member
  simp only [List.all_cons, comma, printable value member, Bool.and_self]

theorem isPrintable_separated {α : Type} {write : α → List Char} {values : List α}
    (printable : ∀ value ∈ values, (write value).all isPrintable = true) :
    (separated write values).all isPrintable = true := by
  cases values with
  | nil => rfl
  | cons value values =>
    have first := printable value (List.mem_cons_self ..)
    have others := isPrintable_following fun value member =>
      printable value (List.mem_cons_of_mem _ member)
    simp only [separated, List.all_append, first, others, Bool.and_self]

theorem isPrintable_of_isDigit {c : Char} (digit : c.isDigit = true) : isPrintable c = true := by
  have least : '0'.toNat ≤ c.toNat := (Char.isDigit_iff_toNat.mp digit).1
  exact decide_eq_true (Nat.le_trans (by decide) least)

theorem isPrintable_signed (number : Int) : (signed number).all isPrintable = true := by
  have digits : (decimal number.natAbs).all isPrintable = true := by
    rw [List.all_eq_true]
    intro c member
    exact isPrintable_of_isDigit (isDigit_of_mem_decimal member)
  have minus : isPrintable '-' = true := by decide
  rw [signed]
  split
  · simp only [List.all_cons, minus, digits, Bool.and_self]
  · exact digits

/-- A value is one line of text without control characters. -/
theorem Value.Readable.isPrintable {depth : Nat} {found : Value}
    (readable : found.Readable depth) : found.chars.all Json.isPrintable = true := by
  induction readable with
  | null =>
    rw [Value.chars]
    decide
  | boolean truth =>
    cases truth with
    | true =>
      rw [Value.chars]
      decide
    | false =>
      rw [Value.chars]
      decide
  | @integer _ number least greatest =>
    rw [Value.chars]
    exact isPrintable_signed number
  | text content =>
    rw [Value.chars]
    exact isPrintable_quote content.toList
  | @array depth items inner ih =>
    have printable := isPrintable_separated ih
    have opening : Json.isPrintable '[' = true := by decide
    have closing : Json.isPrintable ']' = true := by decide
    rw [Value.chars, itemChars_eq]
    simp only [List.all_cons, List.all_append, List.all_nil, printable, opening, closing,
      Bool.and_self]
  | @object depth members inner ih =>
    have entries : ∀ entry ∈ members, (memberText entry).all Json.isPrintable = true := by
      intro entry member
      have colon : Json.isPrintable ':' = true := by decide
      simp only [memberText, List.all_append, List.all_cons, isPrintable_quote, colon,
        ih entry member, Bool.and_self]
    have printable := isPrintable_separated entries
    have opening : Json.isPrintable '\x7b' = true := by decide
    have closing : Json.isPrintable '\x7d' = true := by decide
    rw [Value.chars, memberChars_eq]
    simp only [List.all_cons, List.all_append, List.all_nil, printable, opening, closing,
      Bool.and_self]

/-! ### Read back -/

/-- A written value is spelled as the grammar says. The induction is on the value. -/
theorem Value.Readable.hasForm {depth : Nat} {found : Value} (readable : found.Readable depth) :
    HasForm (Spells depth) Tree.value? found.chars found := by
  induction readable with
  | null =>
    refine ⟨.null, rfl, fun rest => ?_⟩
    rw [Value.chars]
    exact spells_null_iff.mpr rfl
  | boolean truth =>
    refine ⟨.boolean truth, rfl, fun rest => ?_⟩
    cases truth with
    | true =>
      rw [Value.chars]
      exact spells_true_iff.mpr rfl
    | false =>
      rw [Value.chars]
      exact spells_false_iff.mpr rfl
  | @integer depth number least greatest =>
    refine ⟨.number (.ofInt number), ?_, fun rest => ?_⟩
    · have integer := Numeral.isInteger_ofInt number
      rw [Tree.value?_number, (Numeral.value_eq_integer_iff least greatest).mpr integer]
      rfl
    · rw [Value.chars, spells_number_iff]
      exact numberOf_signed number rest
  | text content =>
    refine ⟨.text (some content), rfl, fun rest => ?_⟩
    rw [Value.chars]
    exact spells_quote _ content rest
  | @array depth items inner ih =>
    obtain ⟨found, valued, spells⟩ := exists_sequenceOf ih
    refine ⟨.array found, ?_, fun rest => ?_⟩
    · rw [Tree.value?_array, itemValues?_eq, valued]
      rfl
    · rw [Value.chars, List.cons_append, List.append_assoc, itemChars_eq]
      exact ⟨_, rfl, spells rest⟩
  | @object depth members inner ih =>
    have each : ∀ entry ∈ members,
        HasForm (MemberOf (Spells depth)) memberValue? (memberText entry) entry := by
      intro entry member
      obtain ⟨tree, valued, spells⟩ := ih entry member
      refine ⟨(some entry.1, tree), ?_, fun rest => ?_⟩
      · rw [memberValue?, valued]
        rfl
      · rw [memberText, List.append_assoc]
        exact memberOf_quote entry.1 (spells rest)
    obtain ⟨found, valued, spells⟩ := exists_sequenceOf each
    refine ⟨.object found, ?_, fun rest => ?_⟩
    · rw [Tree.value?_object, memberValues?_eq, valued]
      rfl
    · rw [Value.chars, List.cons_append, List.append_assoc, memberChars_eq]
      exact ⟨_, rfl, spells rest⟩

/-- What is written is a text of the grammar. -/
theorem Value.Readable.exists_isText {depth : Nat} {found : Value}
    (readable : found.Readable depth) :
    ∃ tree, tree.value? = some found ∧ IsText depth tree found.render := by
  obtain ⟨tree, valued, spells⟩ := readable.hasForm
  have whole := spells []
  rw [List.append_nil] at whole
  refine ⟨tree, valued, found.chars, [], ?_, whole, .none []⟩
  rw [Value.render, String.toList_ofList]
  exact .none _

/-- A written value is read back whole, whatever follows that cannot be part of a number. -/
theorem value_chars {depth : Nat} {found : Value} {rest : List Char}
    (readable : found.Readable depth) (ends : rest.head?.all endsNumber = true) :
    value depth (found.chars ++ rest) = .ok (found, rest) := by
  obtain ⟨tree, valued, spells⟩ := readable.hasForm
  rw [(reads_value depth).reads (spells rest) ends, valued]
  rfl

theorem value_render {found : Value} (readable : found.Readable deepest) :
    value deepest found.render.toList = .ok (found, []) := by
  have reads : value deepest (found.chars ++ []) = .ok (found, []) := value_chars readable rfl
  rw [List.append_nil] at reads
  rwa [Value.render, String.toList_ofList]

/-- A text that holds one written value is read as this value. -/
theorem parse_render {found : Value} (readable : found.Readable deepest) :
    parse found.render = .ok found := by
  rw [parse, value_render readable]
  rfl

end TunnelProvisioning.Json
