import GuestNic.Bytes
import GuestNic.Text.Hex

/-!
# Hardware addresses

The 48-bit addresses of an Ethernet, written as six bytes with colons between them.
-/

namespace GuestNic

/-- A 48-bit Ethernet hardware address. -/
structure HardwareAddress where
  a : UInt8
  b : UInt8
  c : UInt8
  d : UInt8
  e : UInt8
  f : UInt8
deriving DecidableEq, Repr

namespace HardwareAddress

/-- The six bytes in the order in which they are sent. -/
def octets (m : HardwareAddress) : Bytes := [m.a, m.b, m.c, m.d, m.e, m.f]

/-- Read an address from exactly six bytes. -/
def ofOctets? : Bytes → Option HardwareAddress
  | [a, b, c, d, e, f] => some ⟨a, b, c, d, e, f⟩
  | _ => none

def zero : HardwareAddress := ⟨0, 0, 0, 0, 0, 0⟩

def broadcast : HardwareAddress := ⟨0xff, 0xff, 0xff, 0xff, 0xff, 0xff⟩

/-- Group addresses have the lowest bit of the first byte set. -/
def isMulticast (m : HardwareAddress) : Bool := m.a &&& 1 != 0

/-- Six pairs of hexadecimal digits with colons between them. -/
def render (m : HardwareAddress) : String := ":".intercalate (m.octets.map Text.Hex.byte)

instance : ToString HardwareAddress := ⟨render⟩

@[simp] theorem octets_length (m : HardwareAddress) : m.octets.length = 6 := rfl

@[simp] theorem ofOctets?_octets (m : HardwareAddress) : ofOctets? m.octets = some m := rfl

end HardwareAddress
end GuestNic
