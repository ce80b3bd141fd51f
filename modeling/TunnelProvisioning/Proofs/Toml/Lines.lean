import Mathlib.Data.List.Forall2
import Mathlib.Data.List.TakeWhile
import TunnelProvisioning.Proofs.Toml.Strings
import TunnelProvisioning.Toml.Reader

/-! # TOML lines read back

A document that opens tables with bare names and assigns texts and truth values to bare keys is read
line by line. Each line that is not blank is read as the statement that it spells, whatever follows
it, so a document of such lines is read as their statements in order.
-/

namespace TunnelProvisioning.Toml

/-- A value that is written on one line of its own. -/
inductive Literal where
  | text (content : String)
  | boolean (truth : Bool)
  deriving DecidableEq, Repr

/-- A value as it is written. -/
def Literal.chars : Literal → List Char
  | text content => writeString content
  | boolean truth => writeBoolean truth

/-- A value as it is read. -/
def Literal.scalar : Literal → Scalar
  | text content => .text content
  | boolean truth => .boolean truth

inductive Line where
  | blank
  | heading (name : String)
  | entry (name : String) (value : Literal)
  deriving DecidableEq, Repr

/-- Whether a name can stand as a key without quotes. -/
def isBareName (name : String) : Bool :=
  name ≠ "" && name.toList.all isBareKey

namespace Line

def chars : Line → List Char
  | blank => ['\n']
  | heading name => '[' :: (name.toList ++ [']', '\n'])
  | entry name value => name.toList ++ " = ".toList ++ value.chars ++ ['\n']

def isBare : Line → Bool
  | blank => true
  | heading name => isBareName name
  | entry name _ => isBareName name

/-- Which statement a line spells; where it stands in the document is left open. -/
inductive Spells : Line → Statement → Prop where
  | heading (name : String) (start place : Nat) :
      Spells (.heading name) (.openTable ⟨[], ⟨name, start⟩⟩ place)
  | entry (name : String) (value : Literal) (start place : Nat) :
      Spells (.entry name value) (.assign ⟨[], ⟨name, start⟩⟩ (.scalar place value.scalar))

theorem spells_heading {name : String} {statement : Statement} :
    Spells (.heading name) statement ↔
      ∃ start place, statement = .openTable ⟨[], ⟨name, start⟩⟩ place := by
  constructor
  · intro spells
    cases spells with
    | heading _ start place => exact ⟨start, place, rfl⟩
  · rintro ⟨start, place, rfl⟩
    exact .heading name start place

theorem spells_entry {name : String} {value : Literal} {statement : Statement} :
    Spells (.entry name value) statement ↔
      ∃ start place, statement = .assign ⟨[], ⟨name, start⟩⟩ (.scalar place value.scalar) := by
  constructor
  · intro spells
    cases spells with
    | entry _ _ start place => exact ⟨start, place, rfl⟩
  · rintro ⟨start, place, rfl⟩
    exact .entry name value start place

end Line

/-! ## Keys -/

theorem ne_of_isBareKey {c other : Char} (bare : isBareKey c = true)
    (differs : isBareKey other = false) : c ≠ other := by
  rintro rfl
  rw [bare] at differs
  contradiction

theorem isBlank_of_isBareKey {c : Char} (bare : isBareKey c = true) : isBlank c = false := by
  have space := ne_of_isBareKey bare (show isBareKey ' ' = false by decide)
  have tab := ne_of_isBareKey bare (show isBareKey '\t' = false by decide)
  simp [isBlank, space, tab]

theorem skipBlanks_cons {c : Char} (inner : isBlank c = false) (rest : List Char) :
    skipBlanks (c :: rest) = c :: rest := by
  rw [skipBlanks, List.dropWhile_cons_of_neg (by simp [inner])]

theorem line?_of_isBareKey {c : Char} (bare : isBareKey c = true) (rest : List Char) :
    line? (c :: rest) = none := by
  rw [line?]
  · intro _ same
    exact ne_of_isBareKey bare (by decide) (List.cons.inj same).1
  · intro _ same
    exact ne_of_isBareKey bare (by decide) (List.cons.inj same).1

/-- A bare key ends where no more of its characters follow. -/
theorem simpleKey?_append {name rest : List Char} (nonempty : name ≠ [])
    (bare : name.all isBareKey = true) (ends : rest.head?.all (!isBareKey ·) = true) :
    simpleKey? (name ++ rest) = some (⟨String.ofList name, (name ++ rest).length⟩, rest) := by
  obtain ⟨c, cs, rfl⟩ := List.exists_cons_of_ne_nil nonempty
  have all := List.all_eq_true.mp bare
  have taken : (c :: cs ++ rest).takeWhile isBareKey = c :: cs := by
    rw [List.takeWhile_append_of_pos all]
    cases rest <;> simp_all
  have dropped : (c :: cs ++ rest).dropWhile isBareKey = rest := by
    rw [List.dropWhile_append_of_pos all]
    cases rest <;> simp_all
  have quoted : line? (c :: cs ++ rest) = none :=
    line?_of_isBareKey (all c List.mem_cons_self) (cs ++ rest)
  rw [simpleKey?, quoted]
  simp only [taken, dropped]

/-- What is asked of a bare name, for its characters. -/
theorem isBareName_iff {name : String} :
    isBareName name = true ↔ name.toList ≠ [] ∧ name.toList.all isBareKey = true := by
  simp [isBareName]

/-- A bare name starts with none of the characters that mean something at the start of a line. -/
theorem exists_cons_of_isBareName {name : String} (bare : isBareName name = true) :
    ∃ c cs, name.toList = c :: cs ∧ isBareKey c = true := by
  obtain ⟨nonempty, bare⟩ := isBareName_iff.mp bare
  obtain ⟨c, cs, starts⟩ := List.exists_cons_of_ne_nil nonempty
  rw [starts] at bare
  exact ⟨c, cs, starts, List.all_eq_true.mp bare c List.mem_cons_self⟩

/-- A bare name that no point follows is a key of its own. -/
theorem dottedKey?_append {name : String} (bare : isBareName name = true) {rest after : List Char}
    (ends : rest.head?.all (!isBareKey ·) = true) (stops : skipBlanks rest = after)
    (single : after.head? ≠ some '.') :
    ∃ start, dottedKey? (name.toList ++ rest) = some (⟨[], ⟨name, start⟩⟩, after) := by
  obtain ⟨c, cs, starts, first⟩ := exists_cons_of_isBareName bare
  obtain ⟨nonempty, bare⟩ := isBareName_iff.mp bare
  have begins : skipBlanks (name.toList ++ rest) = name.toList ++ rest := by
    rw [starts]
    exact skipBlanks_cons (isBlank_of_isBareKey first) (cs ++ rest)
  have keys : keys? longestPath (name.toList ++ rest) =
      some ([⟨name, (name.toList ++ rest).length⟩], after) := by
    rw [longestPath, keys?, begins, simpleKey?_append nonempty bare ends, String.ofList_toList]
    simp only [Option.bind_eq_bind, Option.bind_some, stops]
    split
    · simp at single
    · rfl
  exact ⟨(name.toList ++ rest).length, by simp [dottedKey?, keys]⟩

/-! ## Values -/

theorem exists_writeString (text : String) :
    ∃ delimiter tail, writeString text = delimiter :: tail ∧
      (delimiter = '"' ∨ delimiter = '\'') := by
  simp only [writeString]
  cases Style.of text.toList with
  | basic => exact ⟨'"', _, rfl, Or.inl rfl⟩
  | literal => exact ⟨'\'', _, rfl, Or.inr rfl⟩
  | basicLines => exact ⟨'"', _, rfl, Or.inl rfl⟩
  | literalLines => exact ⟨'\'', _, rfl, Or.inr rfl⟩

theorem value?_text (content : String) (rest : List Char) :
    value? deepest (writeString content ++ '\n' :: rest) =
      some (.scalar (writeString content ++ '\n' :: rest).length (.text content),
        '\n' :: rest) := by
  have reads := string?_writeString content rest
  obtain ⟨delimiter, tail, starts, quote⟩ := exists_writeString content
  rw [starts, List.cons_append] at reads ⊢
  rcases quote with rfl | rfl
  · rw [deepest, value?]
    · simp [reads]
    all_goals simp
  · rw [deepest, value?]
    · simp [reads]
    all_goals simp

theorem value?_boolean (truth : Bool) (rest : List Char) :
    value? deepest (writeBoolean truth ++ '\n' :: rest) =
      some (.scalar (writeBoolean truth ++ '\n' :: rest).length (.boolean truth),
        '\n' :: rest) := by
  have reads : scalarWord? (writeBoolean truth ++ '\n' :: rest) =
      some (.boolean truth, '\n' :: rest) := by
    have letters : (writeBoolean truth).all isWord = true := by cases truth <;> decide
    have word := List.all_eq_true.mp letters
    have ends : ¬isWord '\n' = true := by decide
    have spells : word? (writeBoolean truth) = some (.boolean truth) := by cases truth <;> rfl
    simp [scalarWord?, List.takeWhile_append_of_pos word, List.dropWhile_append_of_pos word,
      List.takeWhile_cons_of_neg ends, List.dropWhile_cons_of_neg ends, spells]
  have other : string? (writeBoolean truth ++ '\n' :: rest) = none := by cases truth <;> rfl
  rw [deepest, value?]
  · simp [reads, other]
  all_goals
    intro _ same
    cases truth <;> simp [writeBoolean] at same

theorem skipBlanks_literal (value : Literal) (rest : List Char) :
    skipBlanks (value.chars ++ rest) = value.chars ++ rest := by
  cases value with
  | text content =>
    obtain ⟨delimiter, tail, starts, quote⟩ := exists_writeString content
    rw [Literal.chars, starts, List.cons_append]
    rcases quote with rfl | rfl
    · exact skipBlanks_cons (by decide) _
    · exact skipBlanks_cons (by decide) _
  | boolean truth =>
    cases truth with
    | true => exact skipBlanks_cons (by decide) _
    | false => exact skipBlanks_cons (by decide) _

/-- A value is read up to the end of its line. -/
theorem value?_literal (value : Literal) (rest : List Char) :
    ∃ place, value? deepest (value.chars ++ '\n' :: rest) =
      some (.scalar place value.scalar, '\n' :: rest) := by
  cases value with
  | text content => exact ⟨_, value?_text content rest⟩
  | boolean truth => exact ⟨_, value?_boolean truth rest⟩

/-! ## Statements -/

theorem statement?_heading {name : String} (bare : isBareName name = true) (rest : List Char) :
    ∃ statement, (Line.heading name).Spells statement ∧
      statement? ((Line.heading name).chars ++ rest) = some (statement, '\n' :: rest) := by
  have stops : skipBlanks (']' :: '\n' :: rest) = ']' :: '\n' :: rest := skipBlanks_cons rfl _
  obtain ⟨start, key⟩ := dottedKey?_append bare rfl stops (by simp)
  have read : header? [']'] (name.toList ++ ']' :: '\n' :: rest) =
      some (⟨[], ⟨name, start⟩⟩, '\n' :: rest) := by
    simp only [header?, key, Option.bind_eq_bind, Option.bind_some]
    rfl
  refine ⟨_, .heading name start ((Line.heading name).chars ++ rest).length, ?_⟩
  rw [Line.chars, List.cons_append, List.append_assoc, List.cons_append, List.cons_append,
    List.nil_append, statement?]
  · simp only [read, Option.bind_eq_bind, Option.bind_some]
    rfl
  · intro after same
    obtain ⟨c, cs, starts, first⟩ := exists_cons_of_isBareName bare
    rw [starts] at same
    exact ne_of_isBareKey first (by decide) (List.cons.inj same).1

theorem statement?_entry {name : String} (bare : isBareName name = true) (value : Literal)
    (rest : List Char) :
    ∃ statement, (Line.entry name value).Spells statement ∧
      statement? ((Line.entry name value).chars ++ rest) = some (statement, '\n' :: rest) := by
  obtain ⟨place, read⟩ := value?_literal value rest
  have stops : skipBlanks (" = ".toList ++ (value.chars ++ '\n' :: rest)) =
      '=' :: ' ' :: (value.chars ++ '\n' :: rest) := rfl
  obtain ⟨start, key⟩ := dottedKey?_append bare rfl stops (by simp)
  have blank : skipBlanks (' ' :: (value.chars ++ '\n' :: rest)) = value.chars ++ '\n' :: rest :=
    skipBlanks_literal value _
  have ends : skipBlanks ('\n' :: rest) = '\n' :: rest := skipBlanks_cons rfl _
  have assigns : assignment? (value? deepest)
      (name.toList ++ (" = ".toList ++ (value.chars ++ '\n' :: rest))) =
      some ((⟨[], ⟨name, start⟩⟩, .scalar place value.scalar), '\n' :: rest) := by
    simp only [assignment?, key, blank, read, ends, Option.bind_eq_bind, Option.bind_some]
    rfl
  refine ⟨_, .entry name value start place, ?_⟩
  simp only [Line.chars, List.append_assoc, List.singleton_append]
  obtain ⟨c, cs, starts, first⟩ := exists_cons_of_isBareName bare
  have bracket := ne_of_isBareKey first (show isBareKey '[' = false by decide)
  rw [starts, List.cons_append] at assigns ⊢
  rw [statement?]
  · simp only [assigns, Option.bind_eq_bind, Option.bind_some]
    rfl
  · intro after same
    exact bracket (List.cons.inj same).1
  · intro after same
    exact bracket (List.cons.inj same).1

/-! ## Documents -/

/-- Whether a character can start a line that is not blank. -/
def startsStatement (c : Char) : Bool :=
  isBareKey c || c = '['

theorem skipLines_cons {c : Char} (starts : startsStatement c = true) (cs : List Char) :
    skipLines (c :: cs).length (c :: cs) = c :: cs ∧ skipComment (c :: cs) = c :: cs := by
  have ne {other : Char} (differs : startsStatement other = false) : c ≠ other := by
    rintro rfl
    rw [starts] at differs
    contradiction
  have blank : skipBlanks (c :: cs) = c :: cs := by
    have space := ne (show startsStatement ' ' = false by decide)
    have tab := ne (show startsStatement '\t' = false by decide)
    exact skipBlanks_cons (by simp [isBlank, space, tab]) cs
  have comment : skipComment (c :: cs) = c :: cs := by
    rw [skipComment]
    intro _ same
    exact ne (by decide) (List.cons.inj same).1
  have inner : lineEnd? (c :: cs) = none := by
    rw [lineEnd?]
    · intro _ same
      exact ne (by decide) (List.cons.inj same).1
    · intro _ same
      exact ne (by decide) (List.cons.inj same).1
  refine ⟨?_, comment⟩
  rw [List.length_cons, skipLines]
  simp only [blank, comment, inner]

/-- A statement is read, and then the lines after it. -/
theorem statements?_of_statement? {c : Char} {cs rest : List Char} {statement : Statement}
    (starts : startsStatement c = true)
    (reads : statement? (c :: cs) = some (statement, '\n' :: rest)) (fuel : Nat) :
    statements? (fuel + 1) (c :: cs) = (statements? fuel rest).map (statement :: ·) := by
  obtain ⟨lines, comment⟩ := skipLines_cons starts cs
  have ends : finishLine? ('\n' :: rest) = some rest := rfl
  rw [statements?, lines]
  simp only [comment, reads, ends, Option.bind_eq_bind, Option.bind_some, reduceCtorEq, reduceIte]
  cases statements? fuel rest <;> rfl

theorem statements?_blank (fuel : Nat) (cs : List Char) :
    statements? fuel ('\n' :: cs) = statements? fuel cs := by
  cases fuel with
  | zero => rfl
  | succ fuel => rw [statements?, statements?]; rfl

theorem exists_cons_chars {line : Line} (bare : line.isBare = true) (inner : line ≠ .blank) :
    ∃ c cs, line.chars = c :: cs ∧ startsStatement c = true := by
  cases line with
  | blank => contradiction
  | heading name => exact ⟨'[', _, rfl, rfl⟩
  | entry name value =>
    obtain ⟨c, cs, starts, first⟩ := exists_cons_of_isBareName bare
    refine ⟨c, cs ++ " = ".toList ++ value.chars ++ ['\n'], ?_, by simp [startsStatement, first]⟩
    simp only [Line.chars, starts, List.cons_append]

theorem statement?_line {line : Line} (bare : line.isBare = true) (inner : line ≠ .blank)
    (rest : List Char) :
    ∃ statement, line.Spells statement ∧
      statement? (line.chars ++ rest) = some (statement, '\n' :: rest) := by
  cases line with
  | blank => contradiction
  | heading name => exact statement?_heading bare rest
  | entry name value => exact statement?_entry bare value rest

/-- Lines are read as the statements of those of them that are not blank. -/
theorem statements?_lines {lines : List Line} (bare : lines.all Line.isBare = true) {fuel : Nat}
    (enough : lines.length < fuel) :
    ∃ statements, statements? fuel (lines.flatMap Line.chars) = some statements ∧
      List.Forall₂ Line.Spells (lines.filter (· ≠ .blank)) statements := by
  induction lines generalizing fuel with
  | nil =>
    obtain ⟨fuel, rfl⟩ := Nat.exists_eq_succ_of_ne_zero (Nat.ne_of_gt enough)
    exact ⟨[], rfl, .nil⟩
  | cons line lines ih =>
    rw [List.all_cons, Bool.and_eq_true] at bare
    rw [List.length_cons] at enough
    rw [List.flatMap_cons]
    by_cases blank : line = .blank
    · subst blank
      have less : lines.length < fuel := by omega
      obtain ⟨statements, read, spelled⟩ := ih bare.2 less
      refine ⟨statements, ?_, by simpa using spelled⟩
      exact (statements?_blank fuel _).trans read
    · obtain ⟨fuel, rfl⟩ := Nat.exists_eq_succ_of_ne_zero (Nat.ne_of_gt (Nat.zero_lt_of_lt enough))
      have less : lines.length < fuel := by omega
      obtain ⟨statements, read, spelled⟩ := ih bare.2 less
      obtain ⟨statement, spells, reads⟩ :=
        statement?_line bare.1 blank (lines.flatMap Line.chars)
      obtain ⟨c, cs, same, starts⟩ := exists_cons_chars bare.1 blank
      rw [same, List.cons_append] at reads ⊢
      refine ⟨statement :: statements, ?_, ?_⟩
      · rw [statements?_of_statement? starts reads, read, Option.map_some]
      · rw [List.filter_cons_of_pos (by simpa using blank)]
        exact .cons spells spelled

end TunnelProvisioning.Toml
