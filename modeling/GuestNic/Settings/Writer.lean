import GuestNic.Json.Text
import GuestNic.Settings.Key

/-!
# Writing settings

The compact JSON form of settings: one object with every preference, in the order of the keys.
-/

namespace GuestNic.Settings

open GuestNic.Json

def writeFlag (b : Bool) : List Char := if b then "true".toList else "false".toList

/-- Put commas between parts. -/
def commaSeparated (parts : List (List Char)) : List Char := [','].intercalate parts

/-- The JSON form of one preference. -/
def writeValue (s : Settings) : Key → List Char
  | .ether =>
    match s.link with
    | none => "null".toList
    | some name => writeText name.toList
  | .redir => '[' :: commaSeparated (s.rules.map fun r => writeText r.toList) ++ [']']
  | .udptunnel => writeFlag s.tunnel
  | .udpport => Nat.toDigits 10 s.tunnelPort.toNat
  | .nonet => writeFlag s.disabled

/-- A key and its value. -/
def writeMember (s : Settings) (key : Key) : List Char :=
  writeText key.name.toList ++ ':' :: writeValue s key

/-- An object of the given preferences. -/
def writeMembers (s : Settings) (keys : List Key) : List Char :=
  '\x7b' :: commaSeparated (keys.map (writeMember s)) ++ ['\x7d']

def render (s : Settings) : String := String.ofList (writeMembers s Key.all)

end GuestNic.Settings
