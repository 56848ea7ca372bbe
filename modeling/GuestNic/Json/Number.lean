import GuestNic.Json.Fault
import GuestNic.Text.Digit

/-!
# JSON numbers

A number without fraction and exponent is an integer as long as it fits into 64 bits; every other
number is a floating-point number, computed from its leading digits in 64 bits and a power of ten.
-/

namespace GuestNic.Json

inductive Number where
  | natural (value : Nat)
  /-- An integer below zero. -/
  | negative (value : Int)
  | float (value : Float)

def Number.found : Number → Found
  | .natural value => .integer value
  | .negative value => .integer value
  | .float value => .float value

/-! ## Values -/

/-- The largest number of 64 bits. -/
def maxWord : Nat := UInt64.size - 1

/-- Leading digits of a number, and the power of ten that is missing. -/
structure Parts where
  digits : Nat
  exponent : Int

/-- A power of ten that a floating-point number can hold. -/
def powerOfTen (n : Nat) : Float := Float.ofScientific 1 false n

/-- The largest such power. -/
def maxPower : Nat := 308

/-- Divide by a power of ten, by several powers where one would be too large. -/
def divideByPower (x : Float) (n : Nat) : Float :=
  if n ≤ maxPower then x / powerOfTen n
  else if x == 0.0 then x
  else divideByPower (x / powerOfTen maxPower) (n - maxPower)
termination_by n
decreasing_by simp [maxPower] at *; omega

/-- The floating-point number of given parts. -/
def Parts.value (p : Parts) : Except Fault Float :=
  let x := p.digits.toUInt64.toFloat
  if p.exponent < 0 then .ok (divideByPower x (-p.exponent).toNat)
  else if p.exponent ≤ maxPower then
    let y := x * powerOfTen p.exponent.toNat
    if y.isInf then .error .numberOutOfRange else .ok y
  else if p.digits = 0 then .ok 0.0
  else .error .numberOutOfRange

def signed (negative : Bool) (x : Float) : Float := if negative then -x else x

/-! ## Reading -/

/-- Split off the digits at the front. -/
def splitDigits : List Char → List Nat × List Char
  | [] => ([], [])
  | c :: cs =>
    match Text.digit? 10 c with
    | none => ([], c :: cs)
    | some d => let (ds, rest) := splitDigits cs; (d :: ds, rest)

/-- Continue `n` by digits for as long as 64 bits hold it; the answer is the number and the digits
that are left. -/
def absorb (n : Nat) : List Nat → Nat × List Nat
  | [] => (n, [])
  | d :: ds => if maxWord < n * 10 + d then (n, d :: ds) else absorb (n * 10 + d) ds

/-- The largest exponent that is taken at its word. -/
def maxExponent : Nat := UInt32.size / 2 - 1

/-- Read an exponent behind its letter. -/
def readExponent (p : Parts) (cs : List Char) : Except Fault (Float × List Char) :=
  let (negative, cs) : Bool × List Char :=
    match cs with
    | '+' :: cs => (false, cs)
    | '-' :: cs => (true, cs)
    | cs => (false, cs)
  match splitDigits cs with
  | ([], []) => .error .endInValue
  | ([], _ :: _) => .error .invalidNumber
  | (ds, rest) =>
    let e := Text.ofDigits 10 0 ds
    if maxExponent < e then
      if p.digits ≠ 0 && !negative then .error .numberOutOfRange else .ok (0.0, rest)
    else
      let exponent := if negative then p.exponent - e else p.exponent + e
      ({ p with exponent } : Parts).value.map fun x => (x, rest)

/-- Read an exponent if there is one. -/
def readScale (p : Parts) (cs : List Char) : Except Fault (Float × List Char) :=
  match cs with
  | 'e' :: rest => readExponent p rest
  | 'E' :: rest => readExponent p rest
  | _ => p.value.map fun x => (x, cs)

/-- Read a fraction behind its point, and an exponent. -/
def readFraction (p : Parts) (cs : List Char) : Except Fault (Float × List Char) :=
  match splitDigits cs with
  | ([], []) => .error .endInValue
  | ([], _ :: _) => .error .invalidNumber
  | (ds, rest) =>
    let (digits, left) := absorb p.digits ds
    readScale ⟨digits, p.exponent - (ds.length - left.length : Nat)⟩ rest

/-- What the digits in front of a point or exponent amount to, and what follows them. -/
def readTail (negative : Bool) (ds : List Nat) (cs : List Char) :
    Except Fault (Number × List Char) :=
  let (digits, left) := absorb 0 ds
  let p : Parts := ⟨digits, left.length⟩
  let toNumber := fun r : Float × List Char => (Number.float (signed negative r.1), r.2)
  match cs with
  | '.' :: rest => (readFraction p rest).map toNumber
  | 'e' :: rest => (readExponent p rest).map toNumber
  | 'E' :: rest => (readExponent p rest).map toNumber
  | _ =>
    if !left.isEmpty then (p.value.map fun x => (x, cs)).map toNumber
    else if !negative then .ok (.natural digits, cs)
    else if digits = 0 || UInt64.size / 2 < digits then
      .ok (.float (-digits.toUInt64.toFloat), cs)
    else .ok (.negative (-digits), cs)

/-- Read a number behind its sign. A zero at the front stands alone. -/
def readNumber (negative : Bool) (cs : List Char) : Except Fault (Number × List Char) :=
  match splitDigits cs with
  | ([], []) => .error .endInValue
  | ([], _ :: _) => .error .invalidNumber
  | (0 :: _ :: _, _) => .error .invalidNumber
  | (ds, rest) => readTail negative ds rest

end GuestNic.Json
