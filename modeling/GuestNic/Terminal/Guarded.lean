import GuestNic.Text.Hex

/-!
# Guarded text

Text in which the characters that could steer a terminal are written by number: bell, backspace, form
feed, escape and delete, and the control characters from 80 to 9f.
-/

namespace GuestNic.Terminal

/-- Whether a character could steer a terminal, of those below 80. -/
def isSteering (c : Char) : Bool :=
  c = '\x07' || c = '\x08' || c = '\x0c' || c = '\x1b' || c = '\x7f'

def guardedChar (c : Char) : String :=
  if isSteering c then "\\x" ++ Text.Hex.padded 2 c.toNat
  else if 0x80 ≤ c.toNat && c.toNat ≤ 0x9f then "\\u\x7b" ++ Text.Hex.render c.toNat ++ "\x7d"
  else c.toString

def guarded (s : String) : String := String.join (s.toList.map guardedChar)

end GuestNic.Terminal
