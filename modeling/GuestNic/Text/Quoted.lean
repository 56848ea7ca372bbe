import GuestNic.Text.Hex
import GuestNic.Text.Hidden

/-!
# Quoted text

Text between double quotes as it is shown in messages: quotes and backslashes are escaped, common
control characters have short escapes, and characters that could not be seen are written by number.
-/

namespace GuestNic.Text.Quoted

/-- The written form of one character. -/
def encodeChar (c : Char) : String :=
  if c = '\x00' then "\\0"
  else if c = '\t' then "\\t"
  else if c = '\r' then "\\r"
  else if c = '\n' then "\\n"
  else if c = '"' then "\\\""
  else if c = '\\' then "\\\\"
  else if Text.isHidden c then "\\u\x7b" ++ Hex.render c.toNat ++ "\x7d"
  else c.toString

def encode (s : String) : String := "\"" ++ String.join (s.toList.map encodeChar) ++ "\""

end GuestNic.Text.Quoted
