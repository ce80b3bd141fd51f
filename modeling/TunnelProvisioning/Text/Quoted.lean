import TunnelProvisioning.Text.Digits
import TunnelProvisioning.Text.Escaped

/-! # Quoted text

The form in which log messages and error texts show a text that may hold anything: between double
quotes, with a short escape where there is one and the number of the code point where the character
would leave no mark.
-/

namespace TunnelProvisioning.Quoted

/-- A character that is spelled by its number. -/
def numbered (c : Char) : List Char :=
  '\\' :: 'u' :: '\x7b' :: (Digits.hex c.toNat ++ ['\x7d'])

def encodeChar (c : Char) : List Char :=
  if c = '\x00' then ['\\', '0']
  else if c = '\t' then ['\\', 't']
  else if c = '\r' then ['\\', 'r']
  else if c = '\n' then ['\\', 'n']
  else if c = '\\' then ['\\', '\\']
  else if c = '"' then ['\\', '"']
  else if c.toNat < 0x20 then numbered c
  else if c.toNat < 0x7F then [c]
  else if Escaped.unseen.contains c then numbered c
  else [c]

def encode (text : String) : String :=
  String.ofList ('"' :: (text.toList.flatMap encodeChar ++ ['"']))

end TunnelProvisioning.Quoted
