import GuestNic.Net.Ipv4
import GuestNic.Text.Hex

/-!
# IPv6 addresses

Eight 16-bit groups in hexadecimal with colons between them. Two colons in a row stand for one or
more groups of zeros, and the last two groups may be written as an IPv4 address. Written out, the
first of the longest runs of at least two zero groups is left out.
-/

namespace GuestNic

/-- An IPv6 address, as its eight groups. -/
structure Ipv6 where
  groups : List UInt16
  groups_length : groups.length = 8
deriving DecidableEq, Repr

namespace Ipv6

/-! ## Writing -/

def renderGroups (groups : List UInt16) : String :=
  ":".intercalate (groups.map fun g => Text.Hex.render g.toNat)

/-- How many zero groups stand at the front. -/
def leadingZeros (groups : List UInt16) : Nat := (groups.takeWhile (· == 0)).length

/-- Start and length of the first longest run of zero groups. -/
def longestZeros (groups : List UInt16) : Nat × Nat :=
  (List.range groups.length).foldl
    (fun best i =>
      let n := leadingZeros (groups.drop i)
      if best.2 < n then (i, n) else best)
    (0, 0)

def render (x : Ipv6) : String :=
  match x.groups with
  | [0, 0, 0, 0, 0, 0xffff, hi, lo] =>
    let octets := Bytes.ofWord16 hi ++ Bytes.ofWord16 lo
    "::ffff:" ++ ".".intercalate (octets.map fun octet => toString octet.toNat)
  | groups =>
    let (start, length) := longestZeros groups
    if length ≤ 1 then renderGroups groups
    else renderGroups (groups.take start) ++ "::" ++ renderGroups (groups.drop (start + length))

/-! ## Reading -/

/-- One group: one to four digits. -/
def group? (cs : List Char) : Option UInt16 :=
  if cs.length ≤ 4 then (Text.numeral? 16 cs).map Nat.toUInt16 else none

/-- The pieces between colons. -/
def pieces : List Char → List (List Char)
  | [] => [[]]
  | c :: cs =>
    if c = ':' then [] :: pieces cs
    else
      match pieces cs with
      | [] => [[c]]
      | p :: ps => (c :: p) :: ps

/-- Read pieces as groups; only the last may be an IPv4 address, where that is allowed. -/
def groups? (allowIpv4 : Bool) : List (List Char) → Option (List UInt16)
  | [] => some []
  | [p] =>
    match group? p with
    | some g => some [g]
    | none =>
      if allowIpv4 then
        (Ipv4.ofChars? p).map fun x => [Bytes.word16 x.a x.b, Bytes.word16 x.c x.d]
      else none
  | p :: ps => do return (← group? p) :: (← groups? allowIpv4 ps)

/-- The text before the first pair of colons and the text after it. -/
def cutGap? : List Char → Option (List Char × List Char)
  | ':' :: ':' :: cs => some ([], cs)
  | c :: cs => (cutGap? cs).map fun p => (c :: p.1, p.2)
  | [] => none

/-- Groups between colons, of which there may be none. -/
def run? (allowIpv4 : Bool) (cs : List Char) : Option (List UInt16) :=
  if cs.isEmpty then some [] else groups? allowIpv4 (pieces cs)

/-- Read an address. -/
def ofChars? (cs : List Char) : Option Ipv6 := do
  let groups ←
    match cutGap? cs with
    | none => groups? true (pieces cs)
    | some (before, after) => do
      let head ← run? false before
      let tail ← run? true after
      if head.length + tail.length < 8 then
        some (head ++ List.replicate (8 - head.length - tail.length) 0 ++ tail)
      else none
  if h : groups.length = 8 then some ⟨groups, h⟩ else none

end Ipv6
end GuestNic
