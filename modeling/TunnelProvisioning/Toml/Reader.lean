import TunnelProvisioning.Toml.Scalar
import TunnelProvisioning.Toml.Text

/-! # TOML reader

A document is read line by line into statements, each of which opens a table or assigns a value to a
key, and the statements then build the tree of tables. A text that is no document has no tree; why
is not told.
-/

namespace TunnelProvisioning.Toml

/-- How many keys a dotted key may have. -/
def longestPath : Nat := 79

/-- How deep arrays and inline tables may be nested. -/
def deepest : Nat := 79

def skipBlanks (cs : List Char) : List Char :=
  cs.dropWhile isBlank

def skipComment : List Char → List Char
  | '#' :: rest => rest.dropWhile isPlain
  | cs => cs

def lineEnd? : List Char → Option (List Char)
  | '\n' :: rest => some rest
  | '\r' :: '\n' :: rest => some rest
  | _ => none

/-- Reads what may follow a statement: blanks, a comment, and the end of the line or of the text. -/
def finishLine? (cs : List Char) : Option (List Char) :=
  match skipComment (skipBlanks cs) with
  | [] => some []
  | rest => lineEnd? rest

/-- Drops blanks, line ends and comments, each of which ends with its line. The fuel bounds their
number. -/
def skipLines : Nat → List Char → List Char
  | 0, cs => cs
  | fuel + 1, cs =>
    let rest := skipBlanks cs
    match lineEnd? (skipComment rest) with
    | some rest => skipLines fuel rest
    | none => rest

/-- Whether a character may stand in a key without quotes. -/
def isBareKey (c : Char) : Bool :=
  c.isAlphanum || c = '-' || c = '_'

/-- Reads one key, quoted or bare. -/
def simpleKey? (cs : List Char) : Option (Key × List Char) :=
  match line? cs with
  | some (name, rest) => some (⟨String.ofList name, cs.length⟩, rest)
  | none =>
    match cs.takeWhile isBareKey with
    | [] => none
    | name => some (⟨String.ofList name, cs.length⟩, cs.dropWhile isBareKey)

/-- Reads keys with points between them, and the blanks around each. The fuel bounds their number.
-/
def keys? : Nat → List Char → Option (List Key × List Char)
  | 0, _ => none
  | fuel + 1, cs => do
    let (key, rest) ← simpleKey? (skipBlanks cs)
    match skipBlanks rest with
    | '.' :: rest =>
      let (more, rest) ← keys? fuel rest
      return (key :: more, rest)
    | rest => return ([key], rest)

/-- A dotted key: the keys on the way and the last one. -/
structure DottedKey where
  path : List Key
  last : Key

def dottedKey? (cs : List Char) : Option (DottedKey × List Char) := do
  let (keys, rest) ← keys? longestPath cs
  let last ← keys.getLast?
  return (⟨keys.dropLast, last⟩, rest)

/-- Reads a dotted key, the equals sign, and the value with the blanks around it. -/
def assignment? (value? : List Char → Option (Node × List Char)) (cs : List Char) :
    Option ((DottedKey × Node) × List Char) := do
  let (key, rest) ← dottedKey? cs
  match rest with
  | '=' :: rest =>
    let (node, rest) ← value? (skipBlanks rest)
    return ((key, node), skipBlanks rest)
  | _ => none

/-- Reads the items of an array up to the closing bracket. The fuel bounds their number. -/
def items? (value? : List Char → Option (Node × List Char)) :
    Nat → List Char → Option (List Node × List Char)
  | 0, _ => none
  | fuel + 1, cs => do
    match skipLines cs.length cs with
    | ']' :: rest => return ([], rest)
    | start =>
      let (node, rest) ← value? start
      match skipLines rest.length rest with
      | ']' :: rest => return ([node], rest)
      | ',' :: rest =>
        let (more, rest) ← items? value? fuel rest
        return (node :: more, rest)
      | _ => none

/-- Reads the assignments of an inline table up to the closing brace. The fuel bounds their number.
-/
def assignments? (value? : List Char → Option (Node × List Char)) :
    Nat → List Char → Option (List (DottedKey × Node) × List Char)
  | 0, _ => none
  | fuel + 1, cs => do
    let (first, rest) ← assignment? value? cs
    match rest with
    | '\x7d' :: rest => return ([first], rest)
    | ',' :: rest =>
      let (more, rest) ← assignments? value? fuel rest
      return (first :: more, rest)
    | _ => none

def inlineMembers? (assignments : List (DottedKey × Node)) : Option Members :=
  assignments.foldlM
    (fun members (key, node) => members.assign key.path key.last node .braces) []

/-- Reads a value, in which as many levels may be nested as the first argument says. -/
def value? : Nat → List Char → Option (Node × List Char)
  | depth, cs => do
    let place := cs.length
    match cs with
    | '[' :: rest =>
      match depth with
      | 0 => none
      | depth + 1 =>
        let (items, rest) ← items? (value? depth) (rest.length + 1) rest
        return (.array place items, rest)
    | '\x7b' :: rest =>
      match depth with
      | 0 => none
      | depth + 1 =>
        match skipBlanks rest with
        | '\x7d' :: rest => return (.table .braces (some place) [], rest)
        | _ =>
          let (assignments, rest) ← assignments? (value? depth) (rest.length + 1) rest
          let members ← inlineMembers? assignments
          return (.table .braces (some place) members, rest)
    | _ =>
      match string? cs with
      | some (text, rest) => return (.scalar place (.text (String.ofList text)), rest)
      | none =>
        let (value, rest) ← scalarWord? cs
        return (.scalar place value, rest)

inductive Statement where
  | openTable (key : DottedKey) (place : Nat)
  | openElement (key : DottedKey) (place : Nat)
  | assign (key : DottedKey) (node : Node)

/-- Reads the dotted key of a header and what closes it. -/
def header? (closing : List Char) (cs : List Char) : Option (DottedKey × List Char) := do
  let (key, rest) ← dottedKey? cs
  if closing.isPrefixOf rest then return (key, rest.drop closing.length) else none

def statement? (cs : List Char) : Option (Statement × List Char) := do
  match cs with
  | '[' :: '[' :: rest =>
    let (key, rest) ← header? [']', ']'] rest
    return (.openElement key cs.length, rest)
  | '[' :: rest =>
    let (key, rest) ← header? [']'] rest
    return (.openTable key cs.length, rest)
  | _ =>
    let ((key, node), rest) ← assignment? (value? deepest) cs
    return (.assign key node, rest)

/-- Reads the statements of a document. The fuel bounds their number. -/
def statements? : Nat → List Char → Option (List Statement)
  | 0, _ => none
  | fuel + 1, cs =>
    match skipLines cs.length cs with
    | [] => some []
    | start =>
      if skipComment start = [] then some []
      else do
        let (statement, rest) ← statement? start
        let more ← statements? fuel (← finishLine? rest)
        return statement :: more

/-- A document while it is built: its tables, and the header that assignments belong to. -/
structure Draft where
  members : Members := []
  header : List Key := []

def Draft.execute (draft : Draft) : Statement → Option Draft
  | .openTable key place => do
    let members ← draft.members.openTable key.path key.last place
    return ⟨members, key.path ++ [key.last]⟩
  | .openElement key place => do
    let members ← draft.members.openElement key.path key.last place
    return ⟨members, key.path ++ [key.last]⟩
  | .assign key node => do
    let members ← Members.alterAt false
      (fun kind inner => Members.assign key.path key.last node kind inner)
      draft.header .header draft.members
    return { draft with members }

/-- The tables of a document that is given by its statements. -/
def ofStatements? (statements : List Statement) : Option Members :=
  (statements.foldlM Draft.execute {}).map (·.members)

/-- A mark that may stand before a document. -/
def byteOrderMark : Char := '\uFEFF'

def parse? (text : String) : Option Members := do
  let cs := match text.toList with
    | c :: rest => if c = byteOrderMark then rest else c :: rest
    | [] => []
  ofStatements? (← statements? (cs.length + 1) cs)

/-- The line and the column of a place in a text, both from one on. -/
def position (text : String) (place : Nat) : Nat × Nat :=
  let before := text.toList.take (text.toList.length - place)
  let line := before.reverse.takeWhile (· ≠ '\n')
  (before.count '\n' + 1, line.length + 1)

end TunnelProvisioning.Toml
