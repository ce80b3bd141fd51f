import TunnelProvisioning.Binary64.Text

/-! # JSON values

Values as a reader meets them: the members of an object keep their order and their repetitions, and
a number is an integer only if it was written as one and fits into 64 bits. Writing produces one
line without blanks, in which every control character is escaped.
-/

namespace TunnelProvisioning.Json

inductive Value where
  | null
  | boolean (truth : Bool)
  | integer (number : Int)
  | real (number : Binary64)
  | text (content : String)
  | array (items : List Value)
  | object (members : List (String × Value))
  deriving Repr

/-- How a character is written between the quotes. -/
def escape (c : Char) : List Char :=
  if c = '"' then ['\\', '"']
  else if c = '\\' then ['\\', '\\']
  else if c = '\x08' then ['\\', 'b']
  else if c = '\x0c' then ['\\', 'f']
  else if c = '\n' then ['\\', 'n']
  else if c = '\r' then ['\\', 'r']
  else if c = '\t' then ['\\', 't']
  else if c.toNat < 0x20 then '\\' :: 'u' :: Digits.hexPadded 4 c.toNat
  else [c]

def quote (content : List Char) : List Char :=
  '"' :: (content.flatMap escape ++ ['"'])

mutual

def Value.chars : Value → List Char
  | .null => "null".toList
  | .boolean true => "true".toList
  | .boolean false => "false".toList
  | .integer number => Digits.signed number
  | .real number => number.scientific.toList
  | .text content => quote content.toList
  | .array items => '[' :: (itemChars items ++ [']'])
  | .object members => '\x7b' :: (memberChars members ++ ['\x7d'])

/-- The items of an array, separated by commas. -/
def itemChars : List Value → List Char
  | [] => []
  | [item] => item.chars
  | item :: next :: rest => item.chars ++ ',' :: itemChars (next :: rest)

/-- The members of an object, separated by commas. -/
def memberChars : List (String × Value) → List Char
  | [] => []
  | [(key, value)] => quote key.toList ++ ':' :: value.chars
  | (key, value) :: next :: rest =>
    quote key.toList ++ ':' :: (value.chars ++ ',' :: memberChars (next :: rest))

end

/-- A value as one line of text. -/
def Value.render (value : Value) : String :=
  String.ofList value.chars

/-- The values that an object gives for a key, in order. -/
def Value.lookup (key : String) : Value → List Value
  | .object members => (members.filter (·.1 = key)).map (·.2)
  | _ => []

end TunnelProvisioning.Json
