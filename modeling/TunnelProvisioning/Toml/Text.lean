import TunnelProvisioning.Text.Digits

/-! # TOML strings

A string is written in one of four ways: on one line or on several, with escapes or without. Reading
goes in two steps: the characters up to the closing delimiter are taken as they stand, with every
line end as a line feed, and then the escapes in them are resolved.
-/

namespace TunnelProvisioning.Toml

/-- Whether a character is a blank within a line. -/
def isBlank (c : Char) : Bool :=
  c = ' ' || c = '\t'

/-- Whether a character may stand in a comment or, as itself, in a string. -/
def isPlain (c : Char) : Bool :=
  c = '\t' || (0x20 ≤ c.toNat && c.toNat ≤ 0x7E) || 0x80 ≤ c.toNat

/-- Puts characters before those taken after them. -/
def prepend (taken : List Char) (rest : Option (List Char × List Char)) :
    Option (List Char × List Char) :=
  rest.map fun (more, rest) => (taken ++ more, rest)

/-- The characters up to the quote that closes a string on one line. -/
def takeBasic : List Char → Option (List Char × List Char)
  | [] => none
  | '"' :: rest => some ([], rest)
  | '\\' :: c :: rest => if isPlain c then prepend ['\\', c] (takeBasic rest) else none
  | c :: rest => if isPlain c then prepend [c] (takeBasic rest) else none

/-- The characters up to the three quotes that close a string on several lines. One or two more
quotes right before these belong to the string. -/
def takeBasicLines : List Char → Option (List Char × List Char)
  | [] => none
  | '"' :: '"' :: '"' :: '"' :: '"' :: rest => some (['"', '"'], rest)
  | '"' :: '"' :: '"' :: '"' :: rest => some (['"'], rest)
  | '"' :: '"' :: '"' :: rest => some ([], rest)
  | '\\' :: '\r' :: '\n' :: rest => prepend ['\\', '\n'] (takeBasicLines rest)
  | '\\' :: c :: rest =>
    if isPlain c ∨ c = '\n' then prepend ['\\', c] (takeBasicLines rest) else none
  | '\r' :: '\n' :: rest => prepend ['\n'] (takeBasicLines rest)
  | c :: rest => if isPlain c ∨ c = '\n' then prepend [c] (takeBasicLines rest) else none

/-- The characters up to the apostrophe that closes a string on one line. -/
def takeLiteral : List Char → Option (List Char × List Char)
  | [] => none
  | '\'' :: rest => some ([], rest)
  | c :: rest => if isPlain c then prepend [c] (takeLiteral rest) else none

/-- The characters up to the three apostrophes that close a string on several lines. One or two more
right before these belong to the string. -/
def takeLiteralLines : List Char → Option (List Char × List Char)
  | [] => none
  | '\'' :: '\'' :: '\'' :: '\'' :: '\'' :: rest => some (['\'', '\''], rest)
  | '\'' :: '\'' :: '\'' :: '\'' :: rest => some (['\''], rest)
  | '\'' :: '\'' :: '\'' :: rest => some ([], rest)
  | '\r' :: '\n' :: rest => prepend ['\n'] (takeLiteralLines rest)
  | c :: rest => if isPlain c ∨ c = '\n' then prepend [c] (takeLiteralLines rest) else none

def shortEscape? (c : Char) : Option Char :=
  if c = '"' ∨ c = '\\' then some c
  else if c = 'b' then some '\x08'
  else if c = 'f' then some '\x0c'
  else if c = 'n' then some '\n'
  else if c = 'r' then some '\r'
  else if c = 't' then some '\t'
  else none

/-- The character whose code point hexadecimal digits spell. -/
def scalar? (digits : List Char) : Option Char := do
  let value ← Digits.ofHex? digits
  if value.isValidChar then return Char.ofNat value else none

/-- Where a reader of escapes stands: in the text, or in a gap that a backslash at the end of a line
opened, before or after that end. -/
inductive Gap where
  | closed
  | before
  | after
  deriving DecidableEq, Repr

/-- Resolves the escapes in a string. A backslash at the end of a line leaves out that end and all
blanks and line ends after it. -/
def unescape : Gap → List Char → Option (List Char)
  | .before, [] => none
  | _, [] => some []
  | .before, c :: rest =>
    if c = '\n' then unescape .after rest
    else if isBlank c then unescape .before rest
    else none
  | .after, ' ' :: rest => unescape .after rest
  | .after, '\t' :: rest => unescape .after rest
  | .after, '\n' :: rest => unescape .after rest
  | _, '\\' :: 'u' :: a :: b :: c :: d :: rest => do
    let char ← scalar? [a, b, c, d]
    return char :: (← unescape .closed rest)
  | _, '\\' :: 'U' :: a :: b :: c :: d :: e :: f :: g :: h :: rest => do
    let char ← scalar? [a, b, c, d, e, f, g, h]
    return char :: (← unescape .closed rest)
  | _, '\\' :: c :: rest =>
    match shortEscape? c with
    | some char => do return char :: (← unescape .closed rest)
    | none =>
      if c = '\n' then unescape .after rest
      else if isBlank c then unescape .before rest
      else none
  | _, ['\\'] => none
  | _, c :: rest => do return c :: (← unescape .closed rest)

/-- Leaves out a line end right after the opening delimiter. -/
def dropLineEnd : List Char → List Char
  | '\n' :: rest => rest
  | '\r' :: '\n' :: rest => rest
  | cs => cs

def line? : List Char → Option (List Char × List Char)
  | '"' :: rest => do
    let (raw, rest) ← takeBasic rest
    return (← unescape .closed raw, rest)
  | '\'' :: rest => takeLiteral rest
  | _ => none

/-- Reads a string in any of the four ways. -/
def string? : List Char → Option (List Char × List Char)
  | '"' :: '"' :: '"' :: rest => do
    let (raw, rest) ← takeBasicLines (dropLineEnd rest)
    return (← unescape .closed raw, rest)
  | '\'' :: '\'' :: '\'' :: rest => takeLiteralLines (dropLineEnd rest)
  | cs => line? cs

end TunnelProvisioning.Toml
