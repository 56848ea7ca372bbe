/-!
# Shortest decimals

The decimal with the fewest digits that reads back as a given binary floating-point number, and of
those the nearest to it. A number is `m · 2^q`; a decimal reads back as it when it lies in the
interval of the reals that round to it, whose ends belong to it iff `m` is even.
-/

namespace GuestNic.Decimal

/-- A finite positive floating-point number in binary64: the number `m · 2^q`. -/
structure Binary where
  m : Nat
  q : Int
  /-- The number below is nearer than the one above. -/
  lowerIsCloser : Bool

/-- A decimal: the number `digits · 10^exponent`. -/
structure Scientific where
  digits : Nat
  exponent : Int
deriving DecidableEq, Repr

/-- The weight of the leading bit of a normal number, which is not stored. -/
def Binary.hiddenBit : Nat := 1 <<< 52

/-- Read the bits of a number, sign and all; zero, infinities and NaNs have no such form. -/
def Binary.ofBits? (bits : UInt64) : Option Binary :=
  let fraction : Nat := bits.toNat % hiddenBit
  let exponent : Nat := bits.toNat / hiddenBit % 2048
  if exponent = 2047 then none
  else if exponent = 0 then
    if fraction = 0 then none else some ⟨fraction, -1074, false⟩
  else some ⟨hiddenBit + fraction, (exponent : Int) - 1075, fraction == 0 && 1 < exponent⟩

/-- Numerator and denominator of `n · 2^q · 10^k`. -/
def scaled (n : Nat) (q k : Int) : Nat × Nat :=
  (n * Nat.pow 2 q.toNat * Nat.pow 10 k.toNat, Nat.pow 2 (-q).toNat * Nat.pow 10 (-k).toNat)

/-- Whether `d · 10^k` reads back as `b`. Everything is measured in quarters of the unit `2^q`. -/
def Binary.accepts (b : Binary) (d : Nat) (k : Int) : Bool :=
  let (num, den) := scaled d (-(b.q - 2)) k
  let low := (4 * b.m - if b.lowerIsCloser then 1 else 2) * den
  let high := (4 * b.m + 2) * den
  if b.m % 2 = 0 then low ≤ num && num ≤ high else low < num && num < high

/-- The decimal exponent of the leading digit: the largest `e` with `10^e ≤ b`. -/
def Binary.leading (b : Binary) : Int :=
  let reaches := fun e =>
    let (num, den) := scaled b.m b.q (-e)
    den ≤ num
  let guess := ((Nat.log2 b.m : Int) + b.q) * 1233 / 4096
  if reaches (guess + 1) then guess + 1 else if reaches guess then guess else guess - 1

/-- The nearer of the two neighbours of `b` on the grid of step `10^k` that read back as it; of two
equally near ones the even one. -/
def Binary.onGrid? (b : Binary) (k : Int) : Option Scientific :=
  let (num, den) := scaled b.m b.q (-k)
  let below := num / den
  let rest := num % den
  match b.accepts below k, b.accepts (below + 1) k with
  | true, false => some ⟨below, k⟩
  | false, true => some ⟨below + 1, k⟩
  | true, true =>
    if 2 * rest < den ∨ (2 * rest = den ∧ below % 2 = 0) then some ⟨below, k⟩
    else some ⟨below + 1, k⟩
  | false, false => none

/-- The shortest decimal. Seventeen digits always suffice. -/
def Binary.shortest (b : Binary) : Scientific :=
  let e := b.leading
  ((List.range 17).findSome? fun (n : Nat) => b.onGrid? (e - (n : Int))).getD ⟨b.m, b.q⟩

/-- Leave out trailing zeros. -/
def Scientific.trimmed (s : Scientific) : Scientific :=
  let zeros := ((Nat.toDigits 10 s.digits).reverse.takeWhile (· == '0')).length
  if s.digits = 0 then s else ⟨s.digits / Nat.pow 10 zeros, s.exponent + zeros⟩

end GuestNic.Decimal
