import GuestNic.Text.Digit

/-!
# Numerals

The texts that are read as a number, with or without a fraction, an exponent and a sign. Infinity and
the value that is no number have names, in letters of either case.
-/

namespace GuestNic.CommandLine

/-- A text without its sign. -/
def unsigned : List Char → List Char
  | '+' :: cs => cs
  | '-' :: cs => cs
  | cs => cs

/-- Whether `cs` is an exponent, or nothing. -/
def isExponent : List Char → Bool
  | [] => true
  | 'e' :: cs => !(unsigned cs).isEmpty && (unsigned cs).all Text.isDecimal
  | 'E' :: cs => !(unsigned cs).isEmpty && (unsigned cs).all Text.isDecimal
  | _ => false

/-- Whether `cs` has digits on either side of a point, or without a point, then an exponent. -/
def isPositional (cs : List Char) : Bool :=
  let whole := cs.takeWhile Text.isDecimal
  match cs.drop whole.length with
  | '.' :: rest =>
    let fraction := rest.takeWhile Text.isDecimal
    !(whole.isEmpty && fraction.isEmpty) && isExponent (rest.drop fraction.length)
  | rest => !whole.isEmpty && isExponent rest

/-- Whether a text is a numeral. -/
def isNumeral (cs : List Char) : Bool :=
  isPositional (unsigned cs) ||
    ["inf", "infinity", "nan"].contains (String.ofList ((unsigned cs).map Char.toLower))

end GuestNic.CommandLine
