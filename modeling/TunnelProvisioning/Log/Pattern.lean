import TunnelProvisioning.Text.Alphanumeric
import TunnelProvisioning.Text.Blank
import TunnelProvisioning.Text.Digits

/-! # Patterns

A filter may ask that a field matches a pattern, which is a regular expression. No field is ever
looked at here, so reading a pattern only tells whether it is well formed. A pattern is matched
octet by octet without tables of characters: in Unicode mode, which is the usual one, there are no
classes of letters or digits, no word boundaries and no ignoring of case; out of it, nothing may
match octets that are no text. No closing brace can stand in a pattern, so what needs one is never
well formed.

The parts of a pattern nest, and only so deep. Parts that follow one another form a part of their
own if there are several of them, and so do alternatives; a repetition, a group, a class and an
operator of a class enclose what belongs to them.
-/

namespace TunnelProvisioning.Pattern

/-- The flags on which it depends whether a pattern is well formed. -/
structure Flags where
  /-- Whether case is ignored. -/
  caseless : Bool := false
  /-- Whether characters are matched, and not octets. -/
  unicode : Bool := true
  /-- Whether white space and comments may stand between the parts. -/
  verbose : Bool := false
  deriving DecidableEq, Repr

/-- Drops white space and comments, given whether a comment is under way. -/
def skipComments : Bool → List Char → List Char
  | _, [] => []
  | true, c :: rest => skipComments (c ≠ '\n') rest
  | false, c :: rest =>
    if Blank.whiteSpace.contains c then skipComments false rest
    else if c = '#' then skipComments true rest
    else c :: rest

/-- Drops what may stand between two parts. -/
def Flags.skip (flags : Flags) (cs : List Char) : List Char :=
  if flags.verbose then skipComments false cs else cs

/-- Changes a flag; the flags without a field of their own change nothing here. -/
def Flags.set (flags : Flags) (truth : Bool) (letter : Char) : Flags :=
  if letter = 'i' then { flags with caseless := truth }
  else if letter = 'u' then { flags with unicode := truth }
  else if letter = 'x' then { flags with verbose := truth }
  else flags

/-- Changes the flags that are listed; those after a minus sign are cleared. -/
def Flags.apply (flags : Flags) (listed : List Char) : Flags :=
  let cleared := (listed.dropWhile (· ≠ '-')).drop 1
  cleared.foldl (·.set false ·) ((listed.takeWhile (· ≠ '-')).foldl (·.set true ·) flags)

/-- Whether characters list flags: each once, and at least one after a minus sign. -/
def areFlags (listed : List Char) : Bool :=
  listed.all ("imsURux-".toList.contains ·) && decide listed.Nodup && listed.getLast? ≠ some '-'

/-- What a part of a pattern matches. An octet that is given by its number stands for a character
only below `0x80`. -/
inductive Atom where
  | literal (c : Char) (isOctet : Bool)
  | charClass
  | assertion
  deriving DecidableEq, Repr

/-- Whether a part may stand where the flags are set. -/
def Atom.isAllowed (flags : Flags) : Atom → Bool
  | .literal c isOctet =>
    if flags.unicode then !flags.caseless else !isOctet || decide (c.toNat < 0x80)
  | _ => true

/-- Whether a part may stand in a class where the flags are set. -/
def Atom.isMember (flags : Flags) : Atom → Bool
  | .literal c _ => if flags.unicode then !flags.caseless else decide (c.toNat < 0x80)
  | .charClass => true
  | .assertion => false

/-- The greatest depth to which parts may nest. -/
def deepest : Nat := 250

/-- How deep parts that follow one another nest, given how deep each of them does. -/
def depthOf : List Nat → Nat
  | [] => 0
  | [depth] => depth
  | depths => depths.foldl max 0 + 1

def hexDigits? (flags : Flags) : Nat → List Char → Option (List Char × List Char)
  | 0, cs => some ([], cs)
  | count + 1, cs =>
    match flags.skip cs with
    | [] => none
    | c :: rest =>
      if (Digits.hexValue? c).isSome then
        (hexDigits? flags count rest).map fun (more, rest) => (c :: more, rest)
      else none

/-- Reads the digits that number a character. -/
def numbered? (flags : Flags) (count : Nat) (isOctet : Bool) (cs : List Char) :
    Option (Atom × List Char) := do
  let (digits, rest) ← hexDigits? flags count cs
  let code ← Digits.ofHex? digits
  if code.isValidChar then return (.literal (Char.ofNat code) isOctet, rest) else none

/-- The character that a letter behind a backslash stands for. -/
def controlLetter? (c : Char) : Option Char :=
  if c = 'a' then some '\x07'
  else if c = 'f' then some '\x0c'
  else if c = 't' then some '\t'
  else if c = 'n' then some '\n'
  else if c = 'r' then some '\r'
  else if c = 'v' then some '\x0b'
  else none

/-- Reads what follows a backslash. -/
def escape? (flags : Flags) : List Char → Option (Atom × List Char)
  | [] => none
  | c :: rest =>
    if c = 'x' then numbered? flags 2 true rest
    else if c = 'u' then numbered? flags 4 false rest
    else if c = 'U' then numbered? flags 8 false rest
    else if c = 'd' ∨ c = 's' ∨ c = 'w' then
      if flags.unicode then none else some (.charClass, rest)
    else if c = 'A' ∨ c = 'z' then some (.assertion, rest)
    else if c = 'b' ∨ c = 'B' ∨ c = '<' ∨ c = '>' then
      if flags.unicode then none else some (.assertion, rest)
    else
      match controlLetter? c with
      | some control => some (.literal control false, rest)
      | none =>
        if c.toNat < 0x80 ∧ ¬ c.isAlphanum then some (.literal c false, rest) else none

def classNames : List String :=
  ["alnum", "alpha", "ascii", "blank", "cntrl", "digit", "graph", "lower", "print", "punct",
    "space", "upper", "word", "xdigit"]

/-- Reads a named class after its bracket, and whether it is negated. -/
def namedClass? : List Char → Option (Bool × List Char)
  | ':' :: cs =>
    let negated := cs.head? = some '^'
    let cs := if negated then cs.drop 1 else cs
    let name := String.ofList (cs.takeWhile (· ≠ ':'))
    match cs.dropWhile (· ≠ ':') with
    | ':' :: ']' :: rest => if classNames.contains name then some (negated, rest) else none
    | _ => none
  | _ => none

/-- Whether a named class may stand where the flags are set. -/
def isNamedMember (flags : Flags) (negated : Bool) : Bool :=
  if flags.unicode then !flags.caseless else !negated

/-- What has been read of a class. -/
structure ClassLevel where
  /-- How deep the parts after the last operator nest. -/
  parts : List Nat := []
  /-- How deep that nests which stands before the last operator. -/
  left : Option Nat := none
  deriving DecidableEq, Repr

namespace ClassLevel

def depth (level : ClassLevel) : Nat :=
  match level.left with
  | none => depthOf level.parts
  | some left => max left (depthOf level.parts) + 1

def add (level : ClassLevel) (depth : Nat) : ClassLevel :=
  { level with parts := depth :: level.parts }

def operate (level : ClassLevel) : ClassLevel :=
  { left := some level.depth }

end ClassLevel

/-- Counts the minus signs at the front, between which white space and comments may stand, given
whether a comment is under way. -/
def dashes (flags : Flags) : Bool → List Char → Nat × List Char
  | _, [] => (0, [])
  | true, c :: rest => dashes flags (c ≠ '\n') rest
  | false, c :: rest =>
    if c = '-' then
      let (count, rest) := dashes flags false rest
      (count + 1, rest)
    else if flags.verbose && Blank.whiteSpace.contains c then dashes flags false rest
    else if flags.verbose && c = '#' then dashes flags true rest
    else (0, c :: rest)

/-- Reads the start of a class after its bracket: the sign of negation, and a closing bracket or
minus signs that stand for themselves. -/
def classStart? (flags : Flags) (cs : List Char) : Option (ClassLevel × List Char) :=
  let cs := flags.skip cs
  let negated := cs.head? = some '^'
  let cs := if negated then flags.skip (cs.drop 1) else cs
  let (count, rest) :=
    match cs with
    | ']' :: rest => (1, flags.skip rest)
    | cs => dashes flags false cs
  if negated ∧ ¬ flags.unicode then none
  else if count ≠ 0 ∧ ¬ (Atom.literal '-' false).isMember flags then none
  else some ({ parts := List.replicate count 0 }, rest)

def member? (flags : Flags) : List Char → Option (Atom × List Char)
  | [] => none
  | '\\' :: rest => escape? flags rest
  | c :: rest => some (.literal c false, rest)

/-- Reads a part of a class that stands on its own. -/
def lone? (flags : Flags) (atom : Atom) (rest : List Char) : Option (List Char) :=
  if atom.isMember flags then some rest else none

/-- The character that is taken to follow a minus sign in a class. It is looked for behind white
space and one number sign, even though a number sign starts a comment. -/
def glance? (flags : Flags) (cs : List Char) : Option Char :=
  if flags.verbose then
    match cs.dropWhile Blank.whiteSpace.contains with
    | '#' :: rest => (rest.dropWhile Blank.whiteSpace.contains).head?
    | rest => rest.head?
  else cs.head?

/-- Reads a part of a class or a range of characters. A minus sign stands for itself if a closing
bracket or a further minus sign is taken to follow it. -/
def range? (flags : Flags) (cs : List Char) : Option (List Char) := do
  let (first, rest) ← member? flags cs
  match flags.skip rest with
  | '-' :: after =>
    if glance? flags after = some ']' ∨ glance? flags after = some '-' then
      lone? flags first ('-' :: after)
    else
      let (last, rest) ← member? flags (flags.skip after)
      match first, last with
      | .literal low _, .literal high _ =>
        if first.isMember flags ∧ last.isMember flags ∧ low ≤ high then some rest else none
      | _, _ => none
  | rest => lone? flags first rest

/-- Reads the rest of a class, given what has been read of it and of the classes it stands in,
innermost first, and tells how deep it nests. The fuel bounds the number of its parts. -/
def classRest? (flags : Flags) :
    Nat → ClassLevel → List ClassLevel → List Char → Option (Nat × List Char)
  | 0, _, _, _ => none
  | fuel + 1, level, outer, cs =>
    match flags.skip cs with
    | [] => none
    | '[' :: rest =>
      match namedClass? rest with
      | some (negated, rest) =>
        if isNamedMember flags negated then classRest? flags fuel (level.add 0) outer rest
        else none
      | none => do
        let (inner, rest) ← classStart? flags rest
        classRest? flags fuel inner (level :: outer) rest
    | ']' :: rest =>
      match outer with
      | [] => some (level.depth + 1, rest)
      | enclosing :: outer => classRest? flags fuel (enclosing.add (level.depth + 1)) outer rest
    | '&' :: '&' :: rest => classRest? flags fuel level.operate outer rest
    | '-' :: '-' :: rest => classRest? flags fuel level.operate outer rest
    | '~' :: '~' :: rest => classRest? flags fuel level.operate outer rest
    | cs => do
      let rest ← range? flags cs
      classRest? flags fuel (level.add 0) outer rest

/-- Reads a class after its bracket, and tells how deep it nests. -/
def class? (flags : Flags) (cs : List Char) : Option (Nat × List Char) := do
  let (level, rest) ← classStart? flags cs
  classRest? flags (rest.length + 1) level [] rest

/-- What has been read of a group, or of a pattern outside of its groups. -/
structure Level where
  flags : Flags := {}
  /-- How deep the parts of the last alternative nest, the last one first. -/
  parts : List Nat := []
  /-- How deep the other alternatives nest. -/
  alternatives : List Nat := []
  /-- Whether there is a part that a repetition sign could follow. -/
  repeatable : Bool := false
  deriving DecidableEq, Repr

namespace Level

def depth (level : Level) : Nat :=
  depthOf (depthOf level.parts :: level.alternatives)

def add (level : Level) (depth : Nat) : Level :=
  { level with parts := depth :: level.parts, repeatable := true }

/-- Adds a change of the flags, which is a part that cannot be repeated. -/
def setFlags (level : Level) (flags : Flags) : Level :=
  { level with flags, parts := 0 :: level.parts, repeatable := false }

def alternate (level : Level) : Level :=
  { level with
    parts := [], alternatives := depthOf level.parts :: level.alternatives, repeatable := false }

def repeat? (level : Level) : Option Level :=
  match level.repeatable, level.parts with
  | true, depth :: parts => some { level with parts := (depth + 1) :: parts }
  | _, _ => none

end Level

/-- How far a pattern has been read. -/
structure Progress where
  /-- The innermost group that is open. -/
  level : Level := {}
  /-- What encloses it, innermost first. -/
  outer : List Level := []
  /-- The names of groups. -/
  names : List (List Char) := []
  deriving DecidableEq, Repr

def Progress.flags (progress : Progress) : Flags :=
  progress.level.flags

def Progress.enter (progress : Progress) (flags : Flags) : Progress :=
  { progress with level := { flags }, outer := progress.level :: progress.outer }

def Progress.leave? (progress : Progress) : Option Progress :=
  match progress.outer with
  | [] => none
  | enclosing :: outer =>
    some { progress with level := enclosing.add (progress.level.depth + 1), outer }

def isGroupName : List Char → Bool
  | [] => false
  | c :: rest =>
    (c = '_' || Alphanumeric.isAlphabetic c) &&
      rest.all fun c =>
        c = '_' || c = '.' || c = '[' || c = ']' || Alphanumeric.isAlphanumeric c

/-- Reads the name of a group after its bracket. -/
def Progress.named? (progress : Progress) (cs : List Char) : Option (Progress × List Char) :=
  let name := cs.takeWhile (· ≠ '>')
  match cs.dropWhile (· ≠ '>') with
  | [] => none
  | _ :: rest =>
    if isGroupName name ∧ name ∉ progress.names then
      some ({ progress.enter progress.flags with names := name :: progress.names }, rest)
    else none

/-- Reads flags, which are those of a group or of what follows. -/
def Progress.flagged? (progress : Progress) (cs : List Char) : Option (Progress × List Char) :=
  let isEnd (c : Char) : Bool := c = ':' || c = ')'
  let listed := cs.takeWhile (!isEnd ·)
  let flags := progress.flags.apply listed
  if areFlags listed then
    match cs.dropWhile (!isEnd ·) with
    | [] => none
    | c :: rest =>
      if c = ':' then some (progress.enter flags, rest)
      else if listed = [] then none
      else some ({ progress with level := progress.level.setFlags flags }, rest)
  else none

/-- Reads what follows an opening parenthesis. -/
def Progress.group? (progress : Progress) (cs : List Char) : Option (Progress × List Char) :=
  match progress.flags.skip cs with
  | '?' :: 'P' :: '<' :: rest => progress.named? rest
  | '?' :: '<' :: rest => progress.named? rest
  | '?' :: rest => progress.flagged? rest
  | rest => some (progress.enter progress.flags, rest)

/-- Reads a part that no other part belongs to. -/
def Progress.part? (progress : Progress) (atom : Atom) (rest : List Char) :
    Option (Progress × List Char) :=
  if atom.isAllowed progress.flags then
    some ({ progress with level := progress.level.add 0 }, rest)
  else none

/-- Reads the next part of a pattern, which starts with a character. -/
def Progress.read? (progress : Progress) (c : Char) (rest : List Char) :
    Option (Progress × List Char) :=
  if c = '(' then progress.group? rest
  else if c = ')' then progress.leave?.map fun progress => (progress, rest)
  else if c = '|' then some ({ progress with level := progress.level.alternate }, rest)
  else if c = '*' ∨ c = '+' ∨ c = '?' then do
    let level ← progress.level.repeat?
    return ({ progress with level }, if rest.head? = some '?' then rest.drop 1 else rest)
  else if c = '\x7b' then none
  else if c = '[' then do
    let (depth, rest) ← class? progress.flags rest
    return ({ progress with level := progress.level.add depth }, rest)
  else if c = '.' then if progress.flags.unicode then progress.part? .charClass rest else none
  else if c = '^' ∨ c = '$' then progress.part? .assertion rest
  else if c = '\\' then do
    let (atom, rest) ← escape? progress.flags rest
    progress.part? atom rest
  else progress.part? (.literal c false) rest

def Progress.isComplete (progress : Progress) : Bool :=
  progress.outer.isEmpty && decide (progress.level.depth ≤ deepest)

/-- Reads a pattern to its end. The fuel bounds the number of its parts. -/
def Progress.finishes : Nat → Progress → List Char → Bool
  | 0, _, _ => false
  | fuel + 1, progress, cs =>
    match progress.flags.skip cs with
    | [] => progress.isComplete
    | c :: rest =>
      match progress.read? c rest with
      | some (progress, rest) => progress.finishes fuel rest
      | none => false

def isWellFormed (cs : List Char) : Bool :=
  Progress.finishes (cs.length + 1) {} cs

end TunnelProvisioning.Pattern
