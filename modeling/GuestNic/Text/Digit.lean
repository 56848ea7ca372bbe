/-!
# Digits and numerals

Reading numerals to a base of at most sixteen from ASCII digits. Letters of either case are digits
from ten on; no other character is one.
-/

namespace GuestNic.Text

/-- The value of `c` as a hexadecimal digit. -/
def hexValue? (c : Char) : Option Nat :=
  if 48 ≤ c.toNat ∧ c.toNat ≤ 57 then some (c.toNat - 48)
  else if 65 ≤ c.toNat ∧ c.toNat ≤ 70 then some (c.toNat - 55)
  else if 97 ≤ c.toNat ∧ c.toNat ≤ 102 then some (c.toNat - 87)
  else none

/-- The value of `c` as a digit to the base `radix`, which is at most sixteen. -/
def digit? (radix : Nat) (c : Char) : Option Nat := (hexValue? c).filter (· < radix)

/-- Whether `c` is a decimal digit. -/
def isDecimal (c : Char) : Bool := (digit? 10 c).isSome

/-- The number whose digits are `digits`, the highest first, continued from `acc`. -/
def ofDigits (radix acc : Nat) (digits : List Nat) : Nat :=
  digits.foldl (fun n d => n * radix + d) acc

/-- Read a numeral: at least one character, and digits only. -/
def numeral? (radix : Nat) (cs : List Char) : Option Nat :=
  if cs.isEmpty then none else (cs.mapM (digit? radix)).map (ofDigits radix 0)

theorem hexValue?_lt {c : Char} {v : Nat} (h : hexValue? c = some v) : v < 16 := by
  unfold hexValue? at h
  split at h
  · injection h; omega
  · split at h
    · injection h; omega
    · split at h
      · injection h; omega
      · cases h

theorem digit?_lt {radix : Nat} {c : Char} {v : Nat} (h : digit? radix c = some v) :
    v < radix := by
  simpa using (Option.filter_eq_some_iff.1 h).2

theorem ofDigits_append (radix acc : Nat) (ds es : List Nat) :
    ofDigits radix acc (ds ++ es) = ofDigits radix (ofDigits radix acc ds) es :=
  List.foldl_append

theorem numeral?_nil (radix : Nat) : numeral? radix [] = none := rfl

end GuestNic.Text
