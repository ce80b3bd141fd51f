import TunnelProvisioning.Log.Event
import TunnelProvisioning.Text.Digits

/-! # Log messages on a terminal

A message may hold text from anywhere. Written to a terminal, the control characters with which a
terminal could be steered are spelled by their numbers; all others, line ends among them, stay.
-/

namespace TunnelProvisioning.Terminal

/-- Whether a control character below `0x80` could steer a terminal. -/
def steers (c : Char) : Bool :=
  c = '\x07' || c = '\x08' || c = '\x0c' || c = '\x1b' || c = '\x7f'

def encodeChar (c : Char) : List Char :=
  if steers c then '\\' :: 'x' :: Digits.hexPadded 2 c.toNat
  else if 0x80 ≤ c.toNat ∧ c.toNat ≤ 0x9F then
    '\\' :: 'u' :: '\x7b' :: (Digits.hex c.toNat ++ ['\x7d'])
  else [c]

def encode (text : String) : String :=
  String.ofList (text.toList.flatMap encodeChar)

end TunnelProvisioning.Terminal

namespace TunnelProvisioning

/-- The message of an event as it is written to a terminal. -/
def Event.printed (event : Event) : String :=
  Terminal.encode event.message

end TunnelProvisioning
