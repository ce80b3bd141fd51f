import Mathlib.Data.List.Basic
import TunnelProvisioning.Toml.Text
import TunnelProvisioning.Toml.Writer

/-! # TOML strings read back

In whichever of the four ways a string is written, it is read back. What is written between double
quotes is a sequence of pieces, each of which stands for one character, and reading takes up one
piece after the other. Quotes that stand as themselves in a string of several lines are at most two
in a row, and so are apostrophes, so the first three in a row, less one or two that come before
them, close the string.
-/

namespace TunnelProvisioning.Toml

/-- Whether a character is taken as it is between double quotes, wherever it stands. -/
def isOrdinary (c : Char) : Bool :=
  isPlain c && c ≠ '"' && c ≠ '\\'

theorem isOrdinary_iff {c : Char} :
    isOrdinary c = true ↔ isPlain c = true ∧ c ≠ '"' ∧ c ≠ '\\' := by
  simp only [isOrdinary, Bool.and_eq_true, decide_eq_true_eq, and_assoc]

/-- How a character is written between double quotes, unless it is a quote that stands as itself. -/
inductive Piece (lines : Bool) : Char → List Char → Prop where
  | ordinary {c : Char} (plain : isOrdinary c = true) : Piece lines c [c]
  | lineFeed (several : lines = true) : Piece lines '\n' ['\n']
  | short {c letter : Char} (plain : isPlain letter = true) (stands : shortEscape? letter = some c)
      (unnumbered : letter ≠ 'u' ∧ letter ≠ 'U') : Piece lines c ['\\', letter]
  | numbered {c : Char} {digits : List Char} (four : digits.length = 4)
      (plain : digits.all isOrdinary = true) (spells : scalar? digits = some c) :
      Piece lines c ('\\' :: 'u' :: digits)

theorem Piece.head?_ne_quote {lines : Bool} {c : Char} {written : List Char}
    (piece : Piece lines c written) (rest : List Char) : (written ++ rest).head? ≠ some '"' := by
  cases piece with
  | ordinary plain => simpa using (isOrdinary_iff.mp plain).2.1
  | _ => simp

theorem isPlain_ne_lineEnd {c : Char} (plain : isPlain c = true) : c ≠ '\n' ∧ c ≠ '\r' := by
  constructor
  · rintro rfl
    exact absurd plain (by decide)
  · rintro rfl
    exact absurd plain (by decide)

theorem Piece.head?_ne_lineEnd {lines : Bool} {c : Char} {written : List Char}
    (piece : Piece lines c written) (inner : c ≠ '\n') (rest : List Char) :
    (written ++ rest).head? ≠ some '\n' ∧ (written ++ rest).head? ≠ some '\r' := by
  cases piece with
  | ordinary plain => simpa using isPlain_ne_lineEnd (isOrdinary_iff.mp plain).1
  | lineFeed _ => contradiction
  | _ => simp

/-! ## What the writer writes -/

private theorem numbered_control : ∀ code : Fin 128, isControl (Char.ofNat code) = true →
    let digits := (Digits.hexPadded 4 code).map Char.toUpper
    digits.length = 4 ∧ digits.all isOrdinary = true ∧
      scalar? digits = some (Char.ofNat code) := by
  decide +kernel

theorem isPlain_of_not_isControl {c : Char} (free : isControl c = false) (inner : c ≠ '\n') :
    isPlain c = true := by
  have delete : c ≠ '\x7f' → c.toNat ≠ 0x7F := fun differs same =>
    differs (by rw [← c.ofNat_toNat, same])
  simp only [isControl, Bool.or_eq_false_iff, Bool.and_eq_false_iff,
    decide_eq_false_iff_not] at free
  simp only [isPlain, Bool.or_eq_true, Bool.and_eq_true, decide_eq_true_eq]
  by_cases tab : c = '\t'
  · exact Or.inl (Or.inl tab)
  · have differs := delete free.2
    have above : ¬c.toNat ≤ 0x1F := by simpa [tab, inner] using free.1
    omega

theorem isPlain_or_of_any {cs : List Char} (free : cs.any isControl = false) :
    ∀ c ∈ cs, isPlain c = true ∨ c = '\n' := by
  intro c member
  by_cases lineFeed : c = '\n'
  · exact Or.inr lineFeed
  · have control := Bool.eq_false_iff.mpr (List.any_eq_false.mp free c member)
    exact Or.inl (isPlain_of_not_isControl control lineFeed)

theorem lt_of_isControl {c : Char} (control : isControl c = true) : c.toNat < 128 := by
  simp only [isControl, Bool.or_eq_true, Bool.and_eq_true, decide_eq_true_eq] at control
  rcases control with small | rfl
  · omega
  · decide

/-- A character that is no quote is written as a piece. -/
theorem piece_escapeChar (lines : Bool) {c : Char} (other : c ≠ '"') :
    Piece lines c (escapeChar lines c) := by
  rw [escapeChar]
  split
  · next lineFeed =>
    subst lineFeed
    cases lines with
    | true => exact .lineFeed rfl
    | false => exact .short (by decide) (by decide) (by decide)
  · next inner =>
    split
    · next letter short =>
      rw [escapeLetter?] at short
      split_ifs at short with h h h h h
      all_goals
        obtain rfl := Option.some.inj short
        subst h
        exact .short (by decide) (by decide) (by decide)
    · next long =>
      split
      · next control =>
        have small : c.toNat < 128 := lt_of_isControl control
        have checks := numbered_control ⟨c.toNat, small⟩
        simp only [c.ofNat_toNat] at checks
        obtain ⟨four, plain, spells⟩ := checks control
        exact .numbered four plain spells
      · next free =>
        have backslash : c ≠ '\\' := by
          rintro rfl
          exact absurd long (by decide)
        have plain := isPlain_of_not_isControl (Bool.eq_false_iff.mpr free) inner
        exact .ordinary (isOrdinary_iff.mpr ⟨plain, other, backslash⟩)

/-- A character that does not stand as a quote is written as a piece, whatever comes before. -/
theorem exists_piece (lines : Bool) (quotes : Nat) {c : Char}
    (escaped : ¬(c = '"' ∧ lines = true ∧ quotes < 2)) (cs : List Char) :
    ∃ written, Piece lines c written ∧
      escapeText lines quotes (c :: cs) = written ++ escapeText lines 0 cs := by
  by_cases quote : c = '"'
  · subst quote
    refine ⟨['\\', '"'], .short (by decide) (by decide) (by decide), ?_⟩
    rw [escapeText, if_pos rfl, if_neg fun stands => escaped ⟨rfl, stands⟩]
    rfl
  · exact ⟨escapeChar lines c, piece_escapeChar lines quote, by rw [escapeText, if_neg quote]⟩

theorem escapeText_cons_quote {quotes : Nat} (few : quotes < 2) (cs : List Char) :
    escapeText true quotes ('"' :: cs) = '"' :: escapeText true (quotes + 1) cs := by
  rw [escapeText, if_pos rfl, if_pos ⟨rfl, few⟩]

/-! ## Taking characters up to the closing delimiter -/

theorem prepend_prepend (first second : List Char) (rest : Option (List Char × List Char)) :
    prepend first (prepend second rest) = prepend (first ++ second) rest := by
  cases rest <;> simp [prepend]

@[simp]
theorem prepend_nil (rest : Option (List Char × List Char)) : prepend [] rest = rest := by
  cases rest <;> rfl

@[simp]
theorem prepend_some (first taken rest : List Char) :
    prepend first (some (taken, rest)) = some (first ++ taken, rest) := rfl

/-- A reader that takes a delimiter as it stands if at most one more follows it takes two of them in
a row as they stand. -/
theorem prepend_replicate {take : List Char → Option (List Char × List Char)} {delimiter : Char}
    (takes : ∀ rest, ¬[delimiter, delimiter] <+: rest →
      take (delimiter :: rest) = prepend [delimiter] (take rest))
    {count : Nat} (few : count ≤ 2) {rest : List Char} (other : rest.head? ≠ some delimiter) :
    take (List.replicate count delimiter ++ rest) =
      prepend (List.replicate count delimiter) (take rest) := by
  have none : ¬[delimiter, delimiter] <+: rest := by
    rintro ⟨_, rfl⟩
    simp at other
  have one : ¬[delimiter, delimiter] <+: delimiter :: rest := by
    rintro ⟨_, same⟩
    rw [List.cons_append, List.cons_inj_right] at same
    simp [← same] at other
  rcases count with _ | _ | _ | count
  · simp
  · exact takes rest none
  · simp only [List.replicate, List.cons_append, List.nil_append]
    rw [takes _ one, takes rest none, prepend_prepend]
    rfl
  · omega

theorem takeBasic_ordinary {cs : List Char} (plain : cs.all isOrdinary = true)
    (rest : List Char) : takeBasic (cs ++ rest) = prepend cs (takeBasic rest) := by
  induction cs with
  | nil => exact (prepend_nil _).symm
  | cons c cs ih =>
    rw [List.all_cons, Bool.and_eq_true] at plain
    obtain ⟨first, others⟩ := plain
    obtain ⟨plain, quote, backslash⟩ := isOrdinary_iff.mp first
    rw [List.cons_append, takeBasic, if_pos plain, ih others, prepend_prepend]
    · rfl
    · exact quote
    · intro _ _ same
      exact absurd same backslash

theorem takeBasic_piece {c : Char} {written : List Char} (piece : Piece false c written)
    (rest : List Char) : takeBasic (written ++ rest) = prepend written (takeBasic rest) := by
  cases piece with
  | ordinary plain => exact takeBasic_ordinary (by simpa using plain) rest
  | lineFeed several => contradiction
  | short plain _ _ =>
    simp only [List.cons_append, List.nil_append]
    rw [takeBasic, if_pos plain]
  | numbered _ plain _ =>
    simp only [List.cons_append]
    rw [takeBasic, if_pos (by decide), takeBasic_ordinary plain, prepend_prepend]
    rfl

theorem takeBasic_escapeText (quotes : Nat) (cs rest : List Char) :
    takeBasic (escapeText false quotes cs ++ '"' :: rest) =
      some (escapeText false quotes cs, rest) := by
  induction cs generalizing quotes with
  | nil => simp [escapeText, takeBasic]
  | cons c cs ih =>
    have escaped : ¬(c = '"' ∧ false = true ∧ quotes < 2) := by simp
    obtain ⟨written, piece, same⟩ := exists_piece false quotes escaped cs
    rw [same, List.append_assoc, takeBasic_piece piece, ih, prepend_some]

theorem takeBasicLines_ordinary {cs : List Char} (plain : cs.all isOrdinary = true)
    (rest : List Char) : takeBasicLines (cs ++ rest) = prepend cs (takeBasicLines rest) := by
  induction cs with
  | nil => exact (prepend_nil _).symm
  | cons c cs ih =>
    rw [List.all_cons, Bool.and_eq_true] at plain
    obtain ⟨first, others⟩ := plain
    obtain ⟨plain, quote, backslash⟩ := isOrdinary_iff.mp first
    have carriage : c ≠ '\r' := by
      rintro rfl
      exact absurd plain (by decide)
    rw [List.cons_append, takeBasicLines, if_pos (Or.inl plain), ih others, prepend_prepend]
    · rfl
    all_goals
      intros
      contradiction

theorem takeBasicLines_piece {c : Char} {written : List Char} (piece : Piece true c written)
    (rest : List Char) :
    takeBasicLines (written ++ rest) = prepend written (takeBasicLines rest) := by
  cases piece with
  | ordinary plain => exact takeBasicLines_ordinary (by simpa using plain) rest
  | lineFeed _ => simp [takeBasicLines]
  | short plain _ _ =>
    simp only [List.cons_append, List.nil_append]
    rw [takeBasicLines, if_pos (Or.inl plain)]
    rintro _ rfl
    exact absurd plain (by decide)
  | numbered _ plain _ =>
    simp only [List.cons_append]
    rw [takeBasicLines, if_pos (by decide), takeBasicLines_ordinary plain, prepend_prepend]
    · rfl
    · simp

/-- A quote that at most one more quote follows does not close the string. -/
theorem takeBasicLines_quote {rest : List Char} (few : ¬['"', '"'] <+: rest) :
    takeBasicLines ('"' :: rest) = prepend ['"'] (takeBasicLines rest) := by
  rw [takeBasicLines, if_pos (by decide)]
  case x_1 | x_2 | x_3 =>
    rintro after _ rfl
    simp at few
  all_goals simp

theorem takeBasicLines_quotes {count : Nat} (few : count ≤ 2) {rest : List Char}
    (other : rest.head? ≠ some '"') :
    takeBasicLines (List.replicate count '"' ++ rest) =
      prepend (List.replicate count '"') (takeBasicLines rest) :=
  prepend_replicate (fun _ => takeBasicLines_quote) few other

/-- The three quotes that close a string, with those before them that belong to it. -/
theorem takeBasicLines_fence {count : Nat} (few : count ≤ 2) {rest : List Char}
    (ends : rest.head? ≠ some '"') :
    takeBasicLines (List.replicate count '"' ++ ['"', '"', '"'] ++ rest) =
      some (List.replicate count '"', rest) := by
  rcases count with _ | _ | _ | count
  · simp only [List.replicate, List.cons_append, List.nil_append]
    rw [takeBasicLines]
    all_goals
      rintro after rfl
      simp at ends
  · simp only [List.replicate, List.cons_append, List.nil_append]
    rw [takeBasicLines]
    rintro after rfl
    simp at ends
  · simp only [List.replicate, List.cons_append, List.nil_append]
    rw [takeBasicLines]
  · omega

/-- Up to two quotes that stand as themselves come before the text, and are put back into it. The
induction is on the text; each quote that stands as itself joins those before it, and every piece
ends their row. -/
theorem takeBasicLines_escapeText {quotes : Nat} (few : quotes ≤ 2) (cs : List Char)
    {rest : List Char} (ends : rest.head? ≠ some '"') :
    takeBasicLines (List.replicate quotes '"' ++ escapeText true quotes cs ++ ['"', '"', '"'] ++
        rest) =
      some (List.replicate quotes '"' ++ escapeText true quotes cs, rest) := by
  induction cs generalizing quotes with
  | nil => simpa [escapeText] using takeBasicLines_fence few ends
  | cons c cs ih =>
    by_cases stands : c = '"' ∧ true = true ∧ quotes < 2
    · obtain ⟨rfl, _, room⟩ := stands
      have joined := ih room
      rw [List.replicate_succ'] at joined
      rw [escapeText_cons_quote room]
      simpa using joined
    · obtain ⟨written, piece, same⟩ := exists_piece true quotes stands cs
      have after := ih (Nat.zero_le 2)
      simp only [List.replicate_zero, List.nil_append, List.append_assoc] at after
      rw [same]
      simp only [List.append_assoc]
      rw [takeBasicLines_quotes few (piece.head?_ne_quote _), takeBasicLines_piece piece, after]
      simp only [prepend_some]

/-! ## Resolving escapes -/

theorem unescape_cons {c : Char} (other : c ≠ '\\') (rest : List Char) :
    unescape .closed (c :: rest) = (unescape .closed rest).map (c :: ·) := by
  rw [unescape]
  · cases unescape .closed rest <;> rfl
  all_goals simp [other]

theorem unescape_piece {lines : Bool} {c : Char} {written : List Char}
    (piece : Piece lines c written) (rest : List Char) :
    unescape .closed (written ++ rest) = (unescape .closed rest).map (c :: ·) := by
  cases piece with
  | ordinary plain => exact unescape_cons (isOrdinary_iff.mp plain).2.2 rest
  | lineFeed _ => exact unescape_cons (by decide) rest
  | short _ stands unnumbered =>
    simp only [List.cons_append, List.nil_append]
    rw [unescape, stands]
    · cases unescape .closed rest <;> rfl
    all_goals simp [unnumbered]
  | @numbered _ digits four _ spells =>
    match digits, four with
    | [first, second, third, fourth], _ =>
      simp only [List.cons_append, List.nil_append]
      rw [unescape, spells]
      · cases unescape .closed rest <;> rfl
      · simp

/-- The escapes of a text resolve to the text. -/
theorem unescape_escapeText (lines : Bool) (quotes : Nat) (cs : List Char) :
    unescape .closed (escapeText lines quotes cs) = some cs := by
  induction cs generalizing quotes with
  | nil => rfl
  | cons c cs ih =>
    by_cases stands : c = '"' ∧ lines = true ∧ quotes < 2
    · obtain ⟨rfl, rfl, room⟩ := stands
      rw [escapeText_cons_quote room, unescape_cons (by decide), ih, Option.map_some]
    · obtain ⟨written, piece, same⟩ := exists_piece lines quotes stands cs
      rw [same, unescape_piece piece, ih, Option.map_some]

/-! ## Strings without escapes -/

theorem le_longestRun (sought : Char) (run : Nat) (cs : List Char) :
    run ≤ longestRun sought run cs := by
  induction cs generalizing run with
  | nil => exact Nat.le_refl run
  | cons c cs ih =>
    rw [longestRun]
    split
    · exact Nat.le_of_succ_le (ih (run + 1))
    · exact Nat.le_max_left _ _

theorem ne_of_longestRun_cons {sought c : Char} {cs : List Char}
    (none : longestRun sought 0 (c :: cs) = 0) : c ≠ sought := by
  rintro rfl
  have run := le_longestRun c (0 + 1) cs
  rw [longestRun, if_pos rfl] at none
  omega

/-- A string on one line without apostrophes is taken as it stands. -/
theorem takeLiteral_append {cs : List Char} (plain : cs.all isPlain = true)
    (none : longestRun '\'' 0 cs = 0) (rest : List Char) :
    takeLiteral (cs ++ '\'' :: rest) = some (cs, rest) := by
  induction cs with
  | nil => simp [takeLiteral]
  | cons c cs ih =>
    rw [List.all_cons, Bool.and_eq_true] at plain
    have apostrophe := ne_of_longestRun_cons none
    rw [longestRun, if_neg apostrophe, Nat.zero_max] at none
    rw [List.cons_append, takeLiteral, if_pos plain.1, ih plain.2 none, prepend_some]
    · rfl
    · exact apostrophe

theorem takeLiteralLines_cons {c : Char} (plain : isPlain c = true ∨ c = '\n')
    (other : c ≠ '\'') (rest : List Char) :
    takeLiteralLines (c :: rest) = prepend [c] (takeLiteralLines rest) := by
  have carriage : c ≠ '\r' := by
    rintro rfl
    exact absurd plain (by decide)
  rw [takeLiteralLines, if_pos plain]
  all_goals
    intros
    contradiction

/-- An apostrophe that at most one more apostrophe follows does not close the string. -/
theorem takeLiteralLines_apostrophe {rest : List Char} (few : ¬['\'', '\''] <+: rest) :
    takeLiteralLines ('\'' :: rest) = prepend ['\''] (takeLiteralLines rest) := by
  rw [takeLiteralLines, if_pos (by decide)]
  case x_1 | x_2 | x_3 =>
    rintro after _ rfl
    simp at few
  all_goals simp

theorem takeLiteralLines_apostrophes {count : Nat} (few : count ≤ 2) {rest : List Char}
    (other : rest.head? ≠ some '\'') :
    takeLiteralLines (List.replicate count '\'' ++ rest) =
      prepend (List.replicate count '\'') (takeLiteralLines rest) :=
  prepend_replicate (fun _ => takeLiteralLines_apostrophe) few other

/-- The three apostrophes that close a string, with those before them that belong to it. -/
theorem takeLiteralLines_fence {count : Nat} (few : count ≤ 2) {rest : List Char}
    (ends : rest.head? ≠ some '\'') :
    takeLiteralLines (List.replicate count '\'' ++ ['\'', '\'', '\''] ++ rest) =
      some (List.replicate count '\'', rest) := by
  rcases count with _ | _ | _ | count
  · simp only [List.replicate, List.cons_append, List.nil_append]
    rw [takeLiteralLines]
    all_goals
      rintro after rfl
      simp at ends
  · simp only [List.replicate, List.cons_append, List.nil_append]
    rw [takeLiteralLines]
    rintro after rfl
    simp at ends
  · simp only [List.replicate, List.cons_append, List.nil_append]
    rw [takeLiteralLines]
  · omega

/-- Up to two apostrophes come before the text, and are put back into it, as with quotes. -/
theorem takeLiteralLines_append {run : Nat} {cs : List Char}
    (plain : ∀ c ∈ cs, isPlain c = true ∨ c = '\n') (few : longestRun '\'' run cs ≤ 2)
    {rest : List Char} (ends : rest.head? ≠ some '\'') :
    takeLiteralLines (List.replicate run '\'' ++ cs ++ ['\'', '\'', '\''] ++ rest) =
      some (List.replicate run '\'' ++ cs, rest) := by
  induction cs generalizing run with
  | nil =>
    rw [longestRun] at few
    simpa using takeLiteralLines_fence few ends
  | cons c cs ih =>
    rw [List.forall_mem_cons] at plain
    rw [longestRun] at few
    by_cases apostrophe : c = '\''
    · subst apostrophe
      rw [if_pos rfl] at few
      have joined := ih plain.2 few
      rw [List.replicate_succ'] at joined
      simpa using joined
    · rw [if_neg apostrophe, Nat.max_le] at few
      have after := ih plain.2 few.2
      simp only [List.replicate_zero, List.nil_append, List.append_assoc] at after
      rw [List.append_assoc, List.append_assoc, List.cons_append,
        takeLiteralLines_apostrophes few.1 (by simpa using apostrophe),
        takeLiteralLines_cons plain.1 apostrophe, after, prepend_some, prepend_some]
      rfl

/-! ## Whole strings -/

theorem style_of_eq_literal {cs : List Char} (style : Style.of cs = .literal) :
    cs.any isControl = false ∧ longestRun '\'' 0 cs = 0 ∧ cs.contains '\n' = false := by
  simp only [Style.of] at style
  split_ifs at style
  simp_all

theorem style_of_eq_literalLines {cs : List Char} (style : Style.of cs = .literalLines) :
    cs.any isControl = false ∧ longestRun '\'' 0 cs ≤ 2 := by
  simp only [Style.of] at style
  split_ifs at style
  simp_all

theorem dropLineEnd_of_head? {cs : List Char} (lineFeed : cs.head? ≠ some '\n')
    (carriage : cs.head? ≠ some '\r') : dropLineEnd cs = cs := by
  rw [dropLineEnd]
  · rintro _ rfl
    exact lineFeed rfl
  · rintro _ rfl
    exact carriage rfl

/-- The line end that the writer puts before a text of several lines, and only that one, is left
out. -/
theorem dropLineEnd_append {lines : Bool} {cs : List Char}
    (starts : lines = false → cs.head? ≠ some '\n' ∧ cs.head? ≠ some '\r') :
    dropLineEnd ((if lines then ['\n'] else []) ++ cs) = cs := by
  cases lines with
  | true => rfl
  | false => exact dropLineEnd_of_head? (starts rfl).1 (starts rfl).2

theorem enclose_append (delimiter : Char) (lines : Bool) (cs rest : List Char) :
    enclose delimiter lines cs ++ rest =
      delimiter :: delimiter :: delimiter :: ((if lines then ['\n'] else []) ++
        (cs ++ [delimiter, delimiter, delimiter] ++ rest)) := by
  simp [enclose]

theorem string?_of_quote {rest : List Char} (single : ¬['"', '"'] <+: rest) :
    string? ('"' :: rest) = line? ('"' :: rest) := by
  rw [string?]
  · rintro after same
    obtain rfl := (List.cons.inj same).2
    simp at single
  · simp

theorem string?_of_apostrophe {rest : List Char} (single : ¬['\'', '\''] <+: rest) :
    string? ('\'' :: rest) = line? ('\'' :: rest) := by
  rw [string?]
  · simp
  · rintro after same
    obtain rfl := (List.cons.inj same).2
    simp at single

theorem string?_basic (cs rest : List Char) :
    string? ('"' :: (escapeText false 0 cs ++ '"' :: '\n' :: rest)) = some (cs, '\n' :: rest) := by
  have single : ¬['"', '"'] <+: escapeText false 0 cs ++ '"' :: '\n' :: rest := by
    cases cs with
    | nil => simp [escapeText]
    | cons c cs =>
      have escaped : ¬(c = '"' ∧ false = true ∧ 0 < 2) := by simp
      obtain ⟨written, piece, same⟩ := exists_piece false 0 escaped cs
      rintro ⟨after, quotes⟩
      have head := piece.head?_ne_quote (escapeText false 0 cs ++ '"' :: '\n' :: rest)
      rw [← List.append_assoc, ← same, ← quotes] at head
      simp at head
  rw [string?_of_quote single, line?, takeBasic_escapeText]
  simp [unescape_escapeText]

theorem string?_literal {cs : List Char} (style : Style.of cs = .literal) (rest : List Char) :
    string? ('\'' :: (cs ++ '\'' :: '\n' :: rest)) = some (cs, '\n' :: rest) := by
  obtain ⟨free, none, inner⟩ := style_of_eq_literal style
  have plain : cs.all isPlain = true := by
    rw [List.all_eq_true]
    intro c member
    rcases isPlain_or_of_any free c member with plain | rfl
    · exact plain
    · simp [member] at inner
  have single : ¬['\'', '\''] <+: cs ++ '\'' :: '\n' :: rest := by
    cases cs with
    | nil => simp
    | cons c cs => simp [(ne_of_longestRun_cons none).symm]
  rw [string?_of_apostrophe single, line?, takeLiteral_append plain none]

theorem string?_basicLines (cs rest : List Char) :
    string? (enclose '"' (cs.contains '\n') (escapeText true 0 cs) ++ '\n' :: rest) =
      some (cs, '\n' :: rest) := by
  have starts (single : cs.contains '\n' = false) :
      (escapeText true 0 cs ++ ['"', '"', '"'] ++ '\n' :: rest).head? ≠ some '\n' ∧
        (escapeText true 0 cs ++ ['"', '"', '"'] ++ '\n' :: rest).head? ≠ some '\r' := by
    cases cs with
    | nil => simp [escapeText]
    | cons c cs =>
      have inner : c ≠ '\n' := by
        rintro rfl
        simp at single
      by_cases stands : c = '"' ∧ true = true ∧ 0 < 2
      · obtain ⟨rfl, _, room⟩ := stands
        simp [escapeText_cons_quote room]
      · obtain ⟨written, piece, same⟩ := exists_piece true 0 stands cs
        rw [same, List.append_assoc, List.append_assoc]
        exact piece.head?_ne_lineEnd inner _
  have ends : ('\n' :: rest).head? ≠ some '"' := by simp
  have taken := takeBasicLines_escapeText (Nat.zero_le 2) cs ends
  rw [List.replicate_zero, List.nil_append] at taken
  rw [enclose_append, string?, dropLineEnd_append starts, taken]
  simp [unescape_escapeText]

theorem string?_literalLines {cs : List Char} (style : Style.of cs = .literalLines)
    (rest : List Char) :
    string? (enclose '\'' (cs.contains '\n') cs ++ '\n' :: rest) = some (cs, '\n' :: rest) := by
  obtain ⟨free, few⟩ := style_of_eq_literalLines style
  have plain := isPlain_or_of_any free
  have starts (single : cs.contains '\n' = false) :
      (cs ++ ['\'', '\'', '\''] ++ '\n' :: rest).head? ≠ some '\n' ∧
        (cs ++ ['\'', '\'', '\''] ++ '\n' :: rest).head? ≠ some '\r' := by
    cases cs with
    | nil => simp
    | cons c cs =>
      rcases plain c List.mem_cons_self with first | rfl
      · simpa using isPlain_ne_lineEnd first
      · simp at single
  have ends : ('\n' :: rest).head? ≠ some '\'' := by simp
  have taken := takeLiteralLines_append plain few ends
  rw [List.replicate_zero, List.nil_append] at taken
  rw [enclose_append, string?, dropLineEnd_append starts, taken]

/-- A string that is written is read back, whatever its characters are. -/
theorem string?_writeString (text : String) (rest : List Char) :
    string? (writeString text ++ '\n' :: rest) = some (text.toList, '\n' :: rest) := by
  simp only [writeString]
  cases style : Style.of text.toList with
  | basic => simpa using string?_basic text.toList rest
  | literal => simpa using string?_literal style rest
  | basicLines => exact string?_basicLines text.toList rest
  | literalLines => exact string?_literalLines style rest

end TunnelProvisioning.Toml
