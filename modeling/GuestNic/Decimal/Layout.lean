import GuestNic.Decimal.Shortest

/-!
# Laying out decimals

Digits with a decimal point while the point falls near them, and scientific notation beyond, where the
exponent has a sign.
-/

namespace GuestNic.Decimal

/-- Where positional notation ends, by the number of digits in front of the point. -/
structure Layout where
  /-- The point may not stand more places than this behind the first digit. -/
  most : Int
  /-- The point must stand more places than this behind the first digit, less ones in front. -/
  least : Int

/-- Numbers below `10^16` and above `10^-5` are written out. -/
def plain : Layout := ⟨16, -5⟩

/-- Write a decimal without trailing zeros. -/
def Layout.render (l : Layout) (s : Scientific) : String :=
  let digits := Nat.toDigits 10 s.digits
  let point := s.exponent + digits.length
  if l.least < point ∧ point ≤ l.most then
    if 0 ≤ s.exponent then
      String.ofList (digits ++ List.replicate s.exponent.toNat '0') ++ ".0"
    else if 0 < point then
      String.ofList (digits.take point.toNat) ++ "." ++ String.ofList (digits.drop point.toNat)
    else "0." ++ String.ofList (List.replicate (-point).toNat '0' ++ digits)
  else
    let rest := if digits.length = 1 then "" else "." ++ String.ofList (digits.drop 1)
    let sign := if 0 < point then "+" else ""
    String.ofList (digits.take 1) ++ rest ++ "e" ++ sign ++ toString (point - 1)

/-- The text of a finite floating-point number. -/
def Layout.renderFloat (l : Layout) (x : Float) : String :=
  let sign := if UInt64.size / 2 ≤ x.toBits.toNat then "-" else ""
  match Binary.ofBits? x.toBits with
  | none => sign ++ "0.0"
  | some b => sign ++ l.render b.shortest.trimmed

end GuestNic.Decimal
