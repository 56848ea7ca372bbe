import GuestNic.Net.Ipv6

/-!
# Peers

The other end of a tunnel: an address and a port. An IPv6 address stands in square brackets, with the
number of its scope behind a percent sign unless that is zero.
-/

namespace GuestNic

/-- Where a datagram came from. -/
inductive Peer where
  | v4 (address : Ipv4) (port : UInt16)
  | v6 (address : Ipv6) (scope : UInt32) (port : UInt16)
deriving DecidableEq, Repr

namespace Peer

/-- The address without the port. -/
def renderAddress : Peer → String
  | .v4 address _ => address.render
  | .v6 address _ _ => address.render

def render : Peer → String
  | .v4 address port => s!"{address.render}:{port.toNat}"
  | .v6 address scope port =>
    let zone := if scope = 0 then "" else "%" ++ toString scope.toNat
    s!"[{address.render}{zone}]:{port.toNat}"

/-- A decimal port from 0 to 65535. -/
def port? (cs : List Char) : Option UInt16 :=
  ((Text.numeral? 10 cs).filter (· < 65536)).map Nat.toUInt16

/-- The decimal number of a scope. -/
def scope? (cs : List Char) : Option UInt32 :=
  ((Text.numeral? 10 cs).filter (· < UInt32.size)).map Nat.toUInt32

/-- An address, and the number of its scope if one stands behind it. -/
def scoped? (cs : List Char) : Option (Ipv6 × UInt32) :=
  match Text.cut? '%' cs with
  | none => (Ipv6.ofChars? cs).map fun address => (address, 0)
  | some (address, scope) => do return (← Ipv6.ofChars? address, ← scope? scope)

/-- Read an address and a port. -/
def ofChars? : List Char → Option Peer
  | '[' :: cs => do
    let (address, rest) ← Text.cut? ']' cs
    let (gap, port) ← Text.cut? ':' rest
    let (address, scope) ← scoped? address
    if gap.isEmpty then return .v6 address scope (← port? port) else none
  | cs => do
    let (address, port) ← Text.cut? ':' cs
    return .v4 (← Ipv4.ofChars? address) (← port? port)

end Peer
end GuestNic
