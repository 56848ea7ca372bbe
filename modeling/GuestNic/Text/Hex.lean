/-!
# Hexadecimal text

Lower-case hexadecimal, plain or filled up with zeros to a fixed number of digits.
-/

namespace GuestNic.Text.Hex

/-- The lower-case digits of `n`, no leading zero, and `0` for zero. -/
def render (n : Nat) : String := String.ofList (Nat.toDigits 16 n)

/-- As `render`, with leading zeros up to `width` digits. -/
def padded (width n : Nat) : String :=
  let digits := Nat.toDigits 16 n
  String.ofList (List.replicate (width - digits.length) '0' ++ digits)

/-- The two digits of a byte. -/
def byte (b : UInt8) : String := padded 2 b.toNat

/-- A 16-bit word as `0x` and four digits. -/
def word16 (w : UInt16) : String := "0x" ++ padded 4 w.toNat

end GuestNic.Text.Hex
