import GuestNic.Bytes
import GuestNic.Text.Blank
import GuestNic.Text.Digit

/-!
# IPv4 addresses

Four bytes, written in decimal with dots between them. Reading takes exactly that form: four
parts of one to three digits each, none above 255 and none with a leading zero.
-/

namespace GuestNic

/-- An IPv4 address. -/
structure Ipv4 where
  a : UInt8
  b : UInt8
  c : UInt8
  d : UInt8
deriving DecidableEq, Repr

namespace Ipv4

def unspecified : Ipv4 := ⟨0, 0, 0, 0⟩

def broadcast : Ipv4 := ⟨255, 255, 255, 255⟩

def loopback : Ipv4 := ⟨127, 0, 0, 1⟩

def render (x : Ipv4) : String :=
  ".".intercalate ([x.a, x.b, x.c, x.d].map fun octet => toString octet.toNat)

instance : ToString Ipv4 := ⟨render⟩

/-- One part of an address. -/
def octet? (cs : List Char) : Option UInt8 :=
  if cs.length ≤ 3 ∧ (cs.head? = some '0' → cs.length = 1) then
    ((Text.numeral? 10 cs).filter (· < 256)).map Nat.toUInt8
  else none

/-- Read the address whose parts are separated by dots. -/
def ofChars? (cs : List Char) : Option Ipv4 := do
  let (a, rest) ← Text.cut? '.' cs
  let (b, rest) ← Text.cut? '.' rest
  let (c, d) ← Text.cut? '.' rest
  return ⟨← octet? a, ← octet? b, ← octet? c, ← octet? d⟩

end Ipv4
end GuestNic
