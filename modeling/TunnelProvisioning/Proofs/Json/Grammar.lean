import TunnelProvisioning.Proofs.Json.Text

/-! # JSON texts

What a JSON text is, apart from who reads it. The grammar relates a text, and what is left of it, to
a tree: blanks may stand around all parts, a character may be escaped in any way, and a number may
have a sign, a fraction and an exponent.

A tree keeps a number as it is written, and a text only if its escapes name characters: an escape
may name one half of a character without the other. So a tree need not have a value.
-/

namespace TunnelProvisioning.Json

/-- Blanks up to the rest of a text. -/
inductive Blanks : List Char → List Char → Prop where
  | none (rest : List Char) : Blanks rest rest
  | more {c : Char} {cs rest : List Char} (blank : isBlank c = true) (others : Blanks cs rest) :
      Blanks (c :: cs) rest

/-! ## Numbers -/

/-- A nonempty run of digits. -/
structure IsRun (digits : List Char) : Prop where
  nonempty : digits ≠ []
  digits : digits.all Char.isDigit = true

/-- The digits before the point: a single zero, or digits that do not start with one. -/
structure IsWhole (digits : List Char) : Prop where
  run : IsRun digits
  zero : digits.head? = some '0' → digits = ['0']

/-- The digits after the point, none if there is no point. -/
inductive FractionOf : List Char → List Char → List Char → Prop where
  | absent (rest : List Char) : FractionOf [] rest rest
  | present {digits : List Char} (run : IsRun digits) (rest : List Char) :
      FractionOf digits ('.' :: (digits ++ rest)) rest

/-- The sign of an exponent, and whether it is negative. -/
inductive SignOf : Bool → List Char → List Char → Prop where
  | absent (rest : List Char) : SignOf false rest rest
  | plus (rest : List Char) : SignOf false ('+' :: rest) rest
  | minus (rest : List Char) : SignOf true ('-' :: rest) rest

/-- An exponent with its sign and its digits, if there is one. -/
inductive ExponentOf : Option (Bool × List Char) → List Char → List Char → Prop where
  | absent (rest : List Char) : ExponentOf none rest rest
  | present {letter : Char} {negative : Bool} {cs digits rest : List Char}
      (letter_eq : letter = 'e' ∨ letter = 'E') (sign : SignOf negative cs (digits ++ rest))
      (run : IsRun digits) : ExponentOf (some (negative, digits)) (letter :: cs) rest

/-- A number after its sign. -/
inductive MagnitudeOf (literal : Numeral) : List Char → List Char → Prop where
  | parts {left after rest : List Char} (whole : IsWhole literal.whole)
      (fraction : FractionOf literal.fraction left after)
      (exponent : ExponentOf literal.exponent after rest) :
      MagnitudeOf literal (literal.whole ++ left) rest

/-- A number as it is written. -/
inductive NumberOf (literal : Numeral) : List Char → List Char → Prop where
  | plain {cs rest : List Char} (sign : literal.negative = false)
      (magnitude : MagnitudeOf literal cs rest) : NumberOf literal cs rest
  | minus {cs rest : List Char} (sign : literal.negative = true)
      (magnitude : MagnitudeOf literal cs rest) : NumberOf literal ('-' :: cs) rest

/-- The integer that a number is, if it is written as one. Zero with a sign is none. -/
structure Numeral.IsInteger (literal : Numeral) (number : Int) : Prop where
  fraction : literal.fraction = []
  exponent : literal.exponent = none
  signed : number =
    if literal.negative then -(Nat.ofDigitChars 10 literal.whole 0 : Int)
    else Nat.ofDigitChars 10 literal.whole 0
  unsigned_zero : number = 0 → literal.negative = false

/-! ## Texts -/

/-- The number that four hexadecimal digits are. -/
structure IsUnit (digits : List Char) (unit : Nat) : Prop where
  four : digits.length = 4
  spells : Digits.ofHex? digits = some unit

/-- Whether a text goes on with the escape of the second half of a character. -/
def StartsSecondHalf (cs : List Char) : Prop :=
  ∃ digits after low, cs = '\\' :: 'u' :: (digits ++ after) ∧ IsUnit digits low ∧
    0xDC00 ≤ low ∧ low ≤ 0xDFFF

/-- The rest of a text after its opening quote, and its characters unless an escape names one half
of a character without the other. -/
inductive TextOf : Option (List Char) → List Char → List Char → Prop where
  | closed (rest : List Char) : TextOf (some []) ('"' :: rest) rest
  | character {c : Char} {written cs rest : List Char} {content : Option (List Char)}
      (spelling : Spelling c written) (others : TextOf content cs rest) :
      TextOf (content.map (c :: ·)) (written ++ cs) rest
  | numbered {digits cs rest : List Char} {unit : Nat} {content : Option (List Char)}
      (isUnit : IsUnit digits unit) (above : 0xDFFF < unit) (others : TextOf content cs rest) :
      TextOf (content.map (Char.ofNat unit :: ·)) ('\\' :: 'u' :: (digits ++ cs)) rest
  | halves {first second cs rest : List Char} {high low : Nat} {content : Option (List Char)}
      (firstHalf : IsUnit first high) (from_high : 0xD800 ≤ high) (to_high : high < 0xDC00)
      (secondHalf : IsUnit second low) (from_low : 0xDC00 ≤ low) (to_low : low ≤ 0xDFFF)
      (others : TextOf content cs rest) :
      TextOf (content.map
          (Char.ofNat (0x10000 + 0x400 * (high - 0xD800) + (low - 0xDC00)) :: ·))
        ('\\' :: 'u' :: (first ++ '\\' :: 'u' :: (second ++ cs))) rest
  | half {digits cs rest : List Char} {unit : Nat} {content : Option (List Char)}
      (isUnit : IsUnit digits unit) (from_half : 0xD800 ≤ unit) (to_half : unit ≤ 0xDFFF)
      (alone : unit < 0xDC00 → ¬StartsSecondHalf cs) (others : TextOf content cs rest) :
      TextOf none ('\\' :: 'u' :: (digits ++ cs)) rest

/-! ## Values -/

/-- A value as it is written. -/
inductive Tree where
  | null
  | boolean (truth : Bool)
  | number (literal : Numeral)
  | text (content : Option String)
  | array (items : List Tree)
  | object (members : List (Option String × Tree))

section

variable {α : Type}

/-- The items of a sequence from the first one on, with commas between them, and the character that
closes it. -/
inductive Elements (closing : Char) (item : α → List Char → List Char → Prop) :
    List α → List Char → List Char → Prop where
  | last {found : α} {cs after rest : List Char} (spells : item found cs after)
      (blanks : Blanks after (closing :: rest)) : Elements closing item [found] cs rest
  | more {found : α} {others : List α} {cs after next start rest : List Char}
      (spells : item found cs after) (before : Blanks after (',' :: next))
      (behind : Blanks next start) (elements : Elements closing item others start rest) :
      Elements closing item (found :: others) cs rest

/-- A sequence after the character that opens it. -/
inductive SequenceOf (closing : Char) (item : α → List Char → List Char → Prop) :
    List α → List Char → List Char → Prop where
  | empty {cs rest : List Char} (blanks : Blanks cs (closing :: rest)) :
      SequenceOf closing item [] cs rest
  | filled {found : List α} {cs start rest : List Char} (blanks : Blanks cs start)
      (elements : Elements closing item found start rest) : SequenceOf closing item found cs rest

/-- A key, a colon and a value. -/
inductive MemberOf (value : α → List Char → List Char → Prop) :
    Option String × α → List Char → List Char → Prop where
  | parts {content : Option (List Char)} {found : α} {cs after next start rest : List Char}
      (name : TextOf content cs after) (before : Blanks after (':' :: next))
      (behind : Blanks next start) (spells : value found start rest) :
      MemberOf value (content.map String.ofList, found) ('"' :: cs) rest

end

/-- Whether a text starts with a value, in which at most so many levels of arrays and objects are
nested, and how it goes on. -/
def Spells : Nat → Tree → List Char → List Char → Prop
  | _, .null, cs, rest => cs = 'n' :: 'u' :: 'l' :: 'l' :: rest
  | _, .boolean true, cs, rest => cs = 't' :: 'r' :: 'u' :: 'e' :: rest
  | _, .boolean false, cs, rest => cs = 'f' :: 'a' :: 'l' :: 's' :: 'e' :: rest
  | _, .number literal, cs, rest => NumberOf literal cs rest
  | _, .text content, cs, rest =>
    ∃ found body, content = found.map String.ofList ∧ cs = '"' :: body ∧ TextOf found body rest
  | 0, .array _, _, _ => False
  | depth + 1, .array items, cs, rest =>
    ∃ inner, cs = '[' :: inner ∧ SequenceOf ']' (Spells depth) items inner rest
  | 0, .object _, _, _ => False
  | depth + 1, .object members, cs, rest =>
    ∃ inner, cs = '\x7b' :: inner ∧ SequenceOf '\x7d' (MemberOf (Spells depth)) members inner rest

section

variable {depth : Nat} {cs rest : List Char}

theorem spells_null_iff :
    Spells depth .null cs rest ↔ cs = 'n' :: 'u' :: 'l' :: 'l' :: rest := by
  cases depth <;> rfl

theorem spells_true_iff :
    Spells depth (.boolean true) cs rest ↔ cs = 't' :: 'r' :: 'u' :: 'e' :: rest := by
  cases depth <;> rfl

theorem spells_false_iff :
    Spells depth (.boolean false) cs rest ↔ cs = 'f' :: 'a' :: 'l' :: 's' :: 'e' :: rest := by
  cases depth <;> rfl

theorem spells_number_iff {literal : Numeral} :
    Spells depth (.number literal) cs rest ↔ NumberOf literal cs rest := by
  cases depth <;> rfl

theorem spells_text_iff {content : Option String} :
    Spells depth (.text content) cs rest ↔
      ∃ found body, content = found.map String.ofList ∧ cs = '"' :: body ∧
        TextOf found body rest := by
  cases depth <;> rfl

end

/-- Whether a text is one value with blanks around it, and at most so many levels are nested. -/
def IsText (depth : Nat) (tree : Tree) (text : String) : Prop :=
  ∃ start rest, Blanks text.toList start ∧ Spells depth tree start rest ∧ Blanks rest []

mutual

/-- The value of a tree. There is none if a number is beyond the range of numbers or an escape does
not name a character. -/
def Tree.value? : Tree → Option Value
  | .null => some .null
  | .boolean truth => some (.boolean truth)
  | .number literal => literal.value.toOption
  | .text content => content.map .text
  | .array items => (itemValues? items).map .array
  | .object members => (memberValues? members).map .object

def itemValues? : List Tree → Option (List Value)
  | [] => some []
  | item :: items => do
    let found ← item.value?
    return found :: (← itemValues? items)

def memberValues? : List (Option String × Tree) → Option (List (String × Value))
  | [] => some []
  | (key, tree) :: members => do
    let name ← key
    let found ← tree.value?
    return (name, found) :: (← memberValues? members)

end

namespace Tree

@[simp]
theorem value?_number (literal : Numeral) :
    (number literal).value? = literal.value.toOption := rfl

@[simp]
theorem value?_text (content : Option String) :
    (text content).value? = content.map .text := rfl

@[simp]
theorem value?_array (items : List Tree) :
    (array items).value? = (itemValues? items).map .array := rfl

@[simp]
theorem value?_object (members : List (Option String × Tree)) :
    (object members).value? = (memberValues? members).map .object := rfl

end Tree

/-! ## What is written without blanks -/

theorem textOf_quote (content rest : List Char) :
    TextOf (some content) (content.flatMap escape ++ '"' :: rest) rest := by
  induction content with
  | nil => exact .closed rest
  | cons c content ih =>
    rw [List.flatMap_cons, List.append_assoc]
    exact .character (spelling_escape c) ih

theorem spells_quote (depth : Nat) (content : String) (rest : List Char) :
    Spells depth (.text (some content)) (quote content.toList ++ rest) rest := by
  rw [spells_text_iff, quote, List.cons_append, List.append_assoc]
  refine ⟨some content.toList, _, ?_, rfl, textOf_quote _ _⟩
  rw [Option.map_some, String.ofList_toList]

theorem memberOf_quote {α : Type} {value : α → List Char → List Char → Prop} (key : String)
    {found : α} {cs rest : List Char} (spells : value found cs rest) :
    MemberOf value (some key, found) (quote key.toList ++ ':' :: cs) rest := by
  rw [quote, List.cons_append, List.append_assoc]
  have name : some key = (some key.toList).map String.ofList := by
    rw [Option.map_some, String.ofList_toList]
  rw [name]
  exact .parts (textOf_quote _ _) (.none _) (.none _) spells

/-- An object with two keys. -/
theorem isText_pair (firstKey secondKey : String) {text : String} {first second : Tree}
    {firstText secondText : List Char}
    (spellsFirst : ∀ rest, Spells 126 first (firstText ++ rest) rest)
    (spellsSecond : ∀ rest, Spells 126 second (secondText ++ rest) rest)
    (written : text.toList = '\x7b' :: (quote firstKey.toList ++ ':' :: (firstText ++ ',' ::
      (quote secondKey.toList ++ ':' :: (secondText ++ ['\x7d']))))) :
    IsText 127 (.object [(some firstKey, first), (some secondKey, second)]) text := by
  refine ⟨_, [], .none _, ?_, .none []⟩
  rw [written]
  refine ⟨_, rfl, .filled (.none _) ?_⟩
  exact .more (memberOf_quote firstKey (spellsFirst _)) (.none _) (.none _)
    (.last (memberOf_quote secondKey (spellsSecond _)) (.none _))

end TunnelProvisioning.Json
