import GuestNic.Text.Digit

/-!
# Integers on the command line

Reading integers of a limited size, from left to right up to the first fault.
-/

namespace GuestNic.CommandLine

inductive IntegerFault where
  | empty
  | invalidDigit
  | tooLarge
  | tooSmall
deriving DecidableEq, Repr

def IntegerFault.message : IntegerFault → String
  | .empty => "cannot parse integer from empty string"
  | .invalidDigit => "invalid digit found in string"
  | .tooLarge => "number too large to fit in target type"
  | .tooSmall => "number too small to fit in target type"

/-- Read digits behind `acc`; `limit` is the largest magnitude, and `overflow` the fault beyond
it. -/
def readDigits (radix limit : Nat) (overflow : IntegerFault) (acc : Nat) :
    List Char → Except IntegerFault Nat
  | [] => .ok acc
  | c :: cs =>
    match Text.digit? radix c with
    | none => .error .invalidDigit
    | some d =>
      if limit < acc * radix + d then .error overflow
      else readDigits radix limit overflow (acc * radix + d) cs

/-- Read at least one digit. -/
def readMagnitude (radix limit : Nat) (overflow : IntegerFault) (cs : List Char) :
    Except IntegerFault Nat :=
  if cs.isEmpty then .error .invalidDigit else readDigits radix limit overflow 0 cs

/-- Read a number of at most `limit`, which may have a plus in front. -/
def readUnsigned (radix limit : Nat) : List Char → Except IntegerFault Nat
  | [] => .error .empty
  | '+' :: cs => readMagnitude radix limit .tooLarge cs
  | cs => readMagnitude radix limit .tooLarge cs

/-- Read a decimal number of 64 bits with an optional sign. -/
def readSigned : List Char → Except IntegerFault Int
  | [] => .error .empty
  | '-' :: cs => (readMagnitude 10 (UInt64.size / 2) .tooSmall cs).map fun n => -(n : Int)
  | '+' :: cs => (readMagnitude 10 (UInt64.size / 2 - 1) .tooLarge cs).map fun n => (n : Int)
  | cs => (readMagnitude 10 (UInt64.size / 2 - 1) .tooLarge cs).map fun n => (n : Int)

end GuestNic.CommandLine
