/-! # UTF-8

The octets of a text and the text of a run of octets. Decoding reads one octet at a time and knows
at every point which octets may come next, so each ill-formed part is the longest start of a
well-formed character, or a single octet that starts none. `decodeLossy` writes one replacement
character for each such part; `decode?` refuses the whole run.
-/

namespace TunnelProvisioning.Utf8

def encode (text : List Char) : List UInt8 :=
  text.flatMap String.utf8EncodeChar

/-- The character that stands for octets that are no text. -/
def replacement : Char := '\uFFFD'

/-- A character whose first octets have been read. -/
structure Pending where
  /-- How many octets it still takes, less one. -/
  more : Nat
  /-- The bits read so far. -/
  bits : Nat
  /-- The least octet that may come next. -/
  least : Nat
  /-- The greatest octet that may come next. -/
  greatest : Nat
  deriving DecidableEq, Repr

/-- What an octet at the start of a character begins: a whole character, a longer one, or nothing.
-/
def start (octet : Nat) : Except Pending (Option Char) :=
  if octet < 0x80 then .ok (some (Char.ofNat octet))
  else if octet < 0xC2 then .ok none
  else if octet < 0xE0 then .error ⟨0, octet - 0xC0, 0x80, 0xBF⟩
  else if octet = 0xE0 then .error ⟨1, 0, 0xA0, 0xBF⟩
  else if octet = 0xED then .error ⟨1, 13, 0x80, 0x9F⟩
  else if octet < 0xF0 then .error ⟨1, octet - 0xE0, 0x80, 0xBF⟩
  else if octet = 0xF0 then .error ⟨2, 0, 0x90, 0xBF⟩
  else if octet < 0xF4 then .error ⟨2, octet - 0xF0, 0x80, 0xBF⟩
  else if octet = 0xF4 then .error ⟨2, 4, 0x80, 0x8F⟩
  else .ok none

/-- Decodes a run of octets, with `none` in the place of each ill-formed part. -/
def decode : Option Pending → List UInt8 → List (Option Char)
  | none, [] => []
  | some _, [] => [none]
  | none, octet :: rest =>
    match start octet.toNat with
    | .ok char => char :: decode none rest
    | .error pending => decode (some pending) rest
  | some pending, octet :: rest =>
    if pending.least ≤ octet.toNat ∧ octet.toNat ≤ pending.greatest then
      let bits := 64 * pending.bits + (octet.toNat - 0x80)
      match pending.more with
      | 0 => some (Char.ofNat bits) :: decode none rest
      | more + 1 => decode (some ⟨more, bits, 0x80, 0xBF⟩) rest
    else
      match start octet.toNat with
      | .ok char => none :: char :: decode none rest
      | .error next => none :: decode (some next) rest

/-- The text of a run of octets, one replacement character for each ill-formed part. -/
def decodeLossy (octets : List UInt8) : List Char :=
  (decode none octets).map (·.getD replacement)

/-- The text of a run of octets that is well formed throughout. -/
def decode? (octets : List UInt8) : Option (List Char) :=
  (decode none octets).mapM id

/-- A text without its first octets, unless these end inside a character. -/
def drop? : Nat → List Char → Option (List Char)
  | 0, cs => some cs
  | _ + 1, [] => none
  | count + 1, c :: cs =>
    if c.utf8Size ≤ count + 1 then drop? (count + 1 - c.utf8Size) cs else none

/-- The first octets of a text, unless these end inside a character. -/
def take? : Nat → List Char → Option (List Char)
  | 0, _ => some []
  | _ + 1, [] => none
  | count + 1, c :: cs =>
    if c.utf8Size ≤ count + 1 then (take? (count + 1 - c.utf8Size) cs).map (c :: ·) else none

/-- The part of a text from one octet up to another, unless one of them is inside a character. -/
def slice? (first next : Nat) (cs : List Char) : Option (List Char) :=
  (drop? first cs).bind (take? (next - first))

def size (text : String) : Nat :=
  (encode text.toList).length

end TunnelProvisioning.Utf8
