import GuestNic.Text.Blank
import GuestNic.Text.Digit

/-!
# Port numbers

Ports of forwarding rules are written as integer constants: white space may come first, then at
most one sign, then `0x` and hexadecimal digits, or `0` and octal digits, or decimal digits. They
are computed in 64 bits; a constant that does not fit is none.
-/

namespace GuestNic.Forwarding

/-- Split off a sign; `true` stands for minus. -/
def splitSign : List Char → Bool × List Char
  | '-' :: cs => (true, cs)
  | '+' :: cs => (false, cs)
  | cs => (false, cs)

/-- The base that a numeral announces, and its digits. -/
def splitRadix : List Char → Nat × List Char
  | '0' :: 'x' :: cs => (16, cs)
  | '0' :: 'X' :: cs => (16, cs)
  | '0' :: c :: cs => (8, c :: cs)
  | cs => (10, cs)

/-- A product in 64 bits, unless it overflows. -/
def times? (x y : Int64) : Option Int64 :=
  if x.toBitVec.smulOverflow y.toBitVec then none else some (x * y)

/-- A sum in 64 bits, unless it overflows. -/
def plus? (x y : Int64) : Option Int64 :=
  if x.toBitVec.saddOverflow y.toBitVec then none else some (x + y)

/-- Put one more digit behind a number. -/
def pushDigit? (radix : Nat) (n : Int64) (d : Nat) : Option Int64 :=
  (times? n (.ofNat radix)).bind fun m => plus? m (.ofNat d)

/-- Read a numeral: at least one character, and digits only. -/
def magnitude? (radix : Nat) (cs : List Char) : Option Int64 :=
  if cs.isEmpty then none
  else (cs.mapM (Text.digit? radix)).bind fun ds => ds.foldlM (pushDigit? radix) 0

/-- Read an integer constant that is the whole text. -/
def long? (cs : List Char) : Option Int64 :=
  let (negative, unsigned) := splitSign (Text.trimStart cs)
  let (radix, digits) := splitRadix unsigned
  (magnitude? radix digits).map fun n => if negative then -n else n

/-- Read a port, which is between 1 and 65535. -/
def port? (cs : List Char) : Option UInt16 :=
  ((long? cs).filter fun n => 1 ≤ n ∧ n ≤ 65535).map fun n => n.toUInt64.toUInt16

end GuestNic.Forwarding
