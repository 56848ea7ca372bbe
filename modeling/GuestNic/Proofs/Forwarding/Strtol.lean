import GuestNic.Proofs.Forwarding.Port
import Mathlib.Data.Nat.Digits.Defs

/-!
# Ports as `strtol` reads them

`strtol` with base 0 finds the longest number at the beginning of a text and stops there; a number
that its 64 bits do not hold becomes the nearest limit. A port is read the other way round: the text
is split first, and all that is left must be digits. On ASCII texts both come to the same.
-/

namespace GuestNic.Forwarding

open Text

/-! ## The scan -/

namespace Strtol

/-- The white space of the C locale. -/
def isSpace (c : Char) : Bool := [' ', '\t', '\n', '\x0b', '\x0c', '\r'].contains c

def hexDigits : List Char :=
  ['0', '1', '2', '3', '4', '5', '6', '7', '8', '9', 'a', 'b', 'c', 'd', 'e', 'f']

/-- The place among the digits, which is behind them all for other characters. -/
def digitValue (c : Char) : Nat := hexDigits.idxOf c.toLower

def isDigit (base : Nat) (c : Char) : Bool := digitValue c < base

/-- The number of a run of digits, the highest first. -/
def number (base : Nat) (digits : List Char) : Nat :=
  Nat.ofDigits base (digits.map digitValue).reverse

/-- The sign at the front, as a factor, and what is behind it. -/
def sign : List Char → Int × List Char
  | '-' :: cs => (-1, cs)
  | '+' :: cs => (1, cs)
  | cs => (1, cs)

/-- The base that is announced, and what is scanned to it. Without a hexadecimal digit behind them,
`0x` are the digit zero and a letter. -/
def base : List Char → Nat × List Char
  | '0' :: x :: c :: cs =>
    if (x = 'x' ∨ x = 'X') ∧ isDigit 16 c then (16, c :: cs) else (8, '0' :: x :: c :: cs)
  | '0' :: cs => (8, '0' :: cs)
  | cs => (10, cs)

end Strtol

/-- What a scan has found, and where it has stopped. -/
structure Scan where
  value : Int64
  rest : List Char

open Strtol in
/-- Scan a text for a number. Where there is none, nothing is consumed. -/
def strtol (cs : List Char) : Scan :=
  let (factor, body) := sign (cs.dropWhile isSpace)
  let (radix, body) := base body
  let digits := body.takeWhile (isDigit radix)
  if digits.isEmpty then { value := 0, rest := cs }
  else
    { value := .ofIntClamp (factor * number radix digits)
      rest := body.dropWhile (isDigit radix) }

namespace Strtol

variable {radix n d : Nat} {c : Char} {cs : List Char}

/-! ## Characters -/

theorem isSpace_eq (h : c.toNat < 128) : isSpace c = isBlank c := by
  have hall : ∀ k < 128, isSpace (Char.ofNat k) = isBlank (Char.ofNat k) := by decide +kernel
  have hc := hall c.toNat h
  rwa [Char.ofNat_toNat] at hc

theorem dropWhile_isSpace (h : ∀ c ∈ cs, c.toNat < 128) : cs.dropWhile isSpace = trimStart cs := by
  induction cs with
  | nil => rfl
  | cons c cs ih =>
    obtain ⟨hc, hcs⟩ := List.forall_mem_cons.1 h
    have ih : cs.dropWhile isSpace = cs.dropWhile isBlank := ih hcs
    rw [trimStart, List.dropWhile_cons, List.dropWhile_cons, isSpace_eq hc, ih]

theorem digitValue_eq (c : Char) : digitValue c = (hexValue? c).getD 16 := by
  by_cases hc : c.toNat < 128
  · have hall : ∀ k < 128, digitValue (Char.ofNat k) = (hexValue? (Char.ofNat k)).getD 16 := by
      decide +kernel
    have hvalue := hall c.toNat hc
    rwa [Char.ofNat_toNat] at hvalue
  · -- There are no digits behind the ASCII characters.
    have hlower : c.toLower = c := by
      refine dif_neg fun hupper => hc ?_
      have hle : c.toNat ≤ 90 := hupper.2
      omega
    have hmem : c ∉ hexDigits := by
      intro hmem
      have hall : hexDigits.all (fun c => c.toNat < 128) = true := by decide
      exact hc (of_decide_eq_true (List.all_eq_true.1 hall c hmem))
    have hnone : hexValue? c = none := by
      unfold hexValue?
      rw [if_neg (by omega), if_neg (by omega), if_neg (by omega)]
    rw [digitValue, hlower, List.idxOf_eq_length hmem, hnone]
    rfl

theorem isDigit_iff (hr : radix ≤ 16) : IsDigit radix c d ↔ digitValue c = d ∧ d < radix := by
  rw [← digit?_eq_some_iff hr, digit?, Option.filter_eq_some_iff, digitValue_eq]
  cases hexValue? c with
  | none => simp; omega
  | some v => simp

/-! ## Numerals -/

theorem number_concat (radix : Nat) (cs : List Char) (c : Char) :
    number radix (cs ++ [c]) = radix * number radix cs + digitValue c := by
  rw [number, List.map_append, List.reverse_append]
  exact (Nat.ofDigits_cons ..).trans (Nat.add_comm ..)

/-- A numeral is a run of digits, and its number is that of the run. -/
theorem isNumeral_iff (hr : radix ≤ 16) :
    IsNumeral radix cs n ↔ cs ≠ [] ∧ (∀ c ∈ cs, isDigit radix c = true) ∧ number radix cs = n := by
  constructor
  · intro h
    induction h with
    | @digit c d hd =>
      obtain ⟨rfl, hlt⟩ := (isDigit_iff hr).1 hd
      simp [isDigit, number, hlt]
    | @snoc cs n c d hcs hd ih =>
      obtain ⟨rfl, hlt⟩ := (isDigit_iff hr).1 hd
      obtain ⟨-, hall, rfl⟩ := ih
      refine ⟨List.concat_ne_nil _ _, ?_, number_concat radix cs c⟩
      intro x hx
      rcases List.mem_append.1 hx with hx | hx
      · exact hall x hx
      · rw [List.mem_singleton.1 hx]
        exact decide_eq_true hlt
  · rintro ⟨hne, hall, rfl⟩
    induction cs using List.reverseRecOn with
    | nil => exact absurd rfl hne
    | append_singleton cs c ih =>
      have hc : digitValue c < radix := of_decide_eq_true (hall c (by simp))
      have hdigit : IsDigit radix c (digitValue c) := (isDigit_iff hr).2 ⟨rfl, hc⟩
      rw [number_concat]
      by_cases hcs : cs = []
      · subst hcs
        have hzero : radix * number radix [] + digitValue c = digitValue c := by simp [number]
        rw [hzero]
        exact .digit hdigit
      · exact .snoc (ih hcs fun x hx => hall x (List.mem_append_left _ hx)) hdigit

/-- A text is a numeral if its longest run of digits is all of it. -/
theorem numeral?_iff_run (hr : radix ≤ 16) :
    numeral? radix cs = some n ↔ cs.takeWhile (isDigit radix) ≠ [] ∧
      cs.dropWhile (isDigit radix) = [] ∧ number radix (cs.takeWhile (isDigit radix)) = n := by
  rw [numeral?_eq_some_iff hr, isNumeral_iff hr, List.dropWhile_eq_nil_iff]
  constructor
  · rintro ⟨hne, hall, hnumber⟩
    rw [List.takeWhile_eq_self_iff.2 hall]
    exact ⟨hne, hall, hnumber⟩
  · rintro ⟨hne, hall, hnumber⟩
    rw [List.takeWhile_eq_self_iff.2 hall] at hne hnumber
    exact ⟨hne, hall, hnumber⟩

/-- A numeral is read no differently for the sake of a zero in front. -/
theorem numeral?_zero_cons (hr : 0 < radix) (hcs : cs ≠ []) :
    numeral? radix ('0' :: cs) = numeral? radix cs := by
  have hzero : digit? radix '0' = some 0 := Option.filter_some_pos (decide_eq_true hr)
  have hempty : cs.isEmpty = false := by simpa using hcs
  rw [numeral?, numeral?, hempty, List.mapM_cons, hzero]
  cases cs.mapM (digit? radix) with
  | none => rfl
  | some ds =>
    show some (ofDigits radix (0 * radix + 0) ds) = some (ofDigits radix 0 ds)
    rw [Nat.zero_mul]

theorem numeral?_of_mem (hr : radix ≤ 16) (hc : c ∈ cs) (h : isDigit radix c = false) :
    numeral? radix cs = none := by
  rw [Option.eq_none_iff_forall_ne_some]
  intro n hn
  obtain ⟨-, hall, -⟩ := (isNumeral_iff hr).1 ((numeral?_eq_some_iff hr).1 hn)
  rw [hall c hc] at h
  cases h

/-! ## Signs and bases -/

theorem sign_eq (cs : List Char) :
    (sign cs).2 = (splitSign cs).2 ∧ ∀ n : Nat, (sign cs).1 * n = signed (splitSign cs).1 n := by
  unfold sign
  split
  · exact ⟨rfl, fun n => Int.neg_one_mul n⟩
  · exact ⟨rfl, fun n => Int.one_mul n⟩
  · rename_i hminus hplus
    rw [splitSign.eq_3 cs hminus hplus]
    exact ⟨rfl, fun n => Int.one_mul n⟩

theorem base_bounds (cs : List Char) : 0 < (base cs).1 ∧ (base cs).1 ≤ 16 := by
  unfold base
  split
  · split <;> simp
  · simp
  · simp

theorem base_zero_cons {x : Char} (hx : ¬ (x = 'x' ∨ x = 'X')) (cs : List Char) :
    base ('0' :: x :: cs) = (8, '0' :: x :: cs) := by
  cases cs with
  | nil => rfl
  | cons c cs => exact if_neg fun h => hx h.1

/-- Without a hexadecimal digit behind it, `0x` is no numeral of either base. -/
theorem numeral?_base_prefix {x : Char} (hx : x = 'x' ∨ x = 'X') (cs : List Char) :
    numeral? 16 cs = numeral? (base ('0' :: x :: cs)).1 (base ('0' :: x :: cs)).2 := by
  have hoctal : isDigit 8 x = false := by
    rcases hx with rfl | rfl <;> decide
  cases cs with
  | nil =>
    have hmem : x ∈ ['0', x] := by simp
    exact (numeral?_of_mem (by decide) hmem hoctal).symm
  | cons c cs =>
    cases hc : isDigit 16 c with
    | true =>
      have hbase : base ('0' :: x :: c :: cs) = (16, c :: cs) := if_pos ⟨hx, hc⟩
      rw [hbase]
    | false =>
      have hbase : base ('0' :: x :: c :: cs) = (8, '0' :: x :: c :: cs) := if_neg (by simp [hc])
      rw [hbase, numeral?_of_mem (by decide) List.mem_cons_self hc]
      exact (numeral?_of_mem (by decide) (by simp) hoctal).symm

/-- What is announced is read to the same number, with the announcement or without it. -/
theorem numeral?_base (cs : List Char) :
    numeral? (splitRadix cs).1 (splitRadix cs).2 = numeral? (base cs).1 (base cs).2 := by
  by_cases hhead : cs.head? = some '0'
  · obtain ⟨rest, rfl⟩ := List.head?_eq_some_iff.1 hhead
    cases rest with
    | nil => rfl
    | cons x cs =>
      by_cases hx : x = 'x' ∨ x = 'X'
      · have hsplit : splitRadix ('0' :: x :: cs) = (16, cs) := by
          rcases hx with rfl | rfl <;> rfl
        rw [hsplit]
        exact numeral?_base_prefix hx cs
      · obtain ⟨hx₁, hx₂⟩ := not_or.1 hx
        rw [splitRadix.eq_3 x cs hx₁ hx₂, base_zero_cons hx]
        exact (numeral?_zero_cons (by decide : 0 < 8) (List.cons_ne_nil x cs)).symm
  · rw [splitRadix_decimal hhead, base.eq_3 cs ?_ ?_]
    · rintro x c rest rfl
      exact hhead rfl
    · rintro rest rfl
      exact hhead rfl

/-! ## Limits -/

/-- A number between the limits is what becomes of no other number. -/
theorem toInt_ofIntClamp_eq_iff {v w : Int} (hmin : -2 ^ 63 < w) (hmax : w < 2 ^ 63 - 1) :
    (Int64.ofIntClamp v).toInt = w ↔ v = w := by
  have hle : Int64.minValue.toInt = -2 ^ 63 := rfl
  have hge : Int64.maxValue.toInt = 2 ^ 63 - 1 := rfl
  unfold Int64.ofIntClamp
  split
  · split
    · rw [Int64.toInt_ofIntLE]
    · omega
  · omega

end Strtol

/-! ## Agreement -/

open Strtol in
/-- A text is read as some integer between the limits, other than zero, just if a scan finds it and
consumes the text. -/
theorem integer?_eq_some_iff_strtol {cs : List Char} (h : ∀ c ∈ cs, c.toNat < 128) {v : Int}
    (hzero : v ≠ 0) (hmin : -2 ^ 63 < v) (hmax : v < 2 ^ 63 - 1) :
    integer? cs = some v ↔ (strtol cs).rest = [] ∧ (strtol cs).value.toInt = v := by
  obtain ⟨hbody, hfactor⟩ := sign_eq (trimStart cs)
  simp only [integer?, numeral?_base, strtol, dropWhile_isSpace h, hbody, Option.map_eq_some_iff,
    ← hfactor]
  generalize (sign (trimStart cs)).1 = factor
  obtain ⟨-, hr⟩ := base_bounds (splitSign (trimStart cs)).2
  generalize base (splitSign (trimStart cs)).2 = announced at hr ⊢
  obtain ⟨radix, body⟩ := announced
  constructor
  · rintro ⟨n, hn, hvalue⟩
    obtain ⟨hne, hrest, hnumber⟩ := (numeral?_iff_run hr).1 hn
    rw [if_neg (by simpa using hne)]
    refine ⟨hrest, (toInt_ofIntClamp_eq_iff hmin hmax).2 ?_⟩
    rw [hnumber, hvalue]
  · rintro ⟨hrest, hvalue⟩
    by_cases hne : (body.takeWhile (isDigit radix)).isEmpty = true
    · rw [if_pos hne] at hvalue
      exact absurd hvalue.symm hzero
    · rw [if_neg hne] at hrest hvalue
      have hvalue := (toInt_ofIntClamp_eq_iff hmin hmax).1 hvalue
      exact ⟨_, (numeral?_iff_run hr).2 ⟨by simpa using hne, hrest, rfl⟩, hvalue⟩

theorem port?_eq_some_iff_strtol {cs : List Char} (h : ∀ c ∈ cs, c.toNat < 128) {port : UInt16} :
    port? cs = some port ↔
      (strtol cs).rest = [] ∧ (strtol cs).value.toInt = port.toNat ∧ 1 ≤ port.toNat := by
  have hlt : port.toNat < 65536 := port.toNat_lt
  have hzero : port = 0 ↔ port.toNat = 0 := UInt16.toNat_inj.symm
  rw [port?_eq_some_iff_integer?, ne_eq, hzero, ← and_assoc]
  constructor
  · rintro ⟨hinteger, hne⟩
    exact ⟨(integer?_eq_some_iff_strtol h (by omega) (by omega) (by omega)).1 hinteger, by omega⟩
  · rintro ⟨hscan, hpos⟩
    exact ⟨(integer?_eq_some_iff_strtol h (by omega) (by omega) (by omega)).2 hscan, by omega⟩

theorem port?_eq_none_iff_strtol {cs : List Char} (h : ∀ c ∈ cs, c.toNat < 128) :
    port? cs = none ↔
      ¬ ((strtol cs).rest = [] ∧ 1 ≤ (strtol cs).value ∧ (strtol cs).value ≤ 65535) := by
  rw [Option.eq_none_iff_forall_ne_some, isPortNumber_iff, ← not_exists, not_iff_not]
  constructor
  · rintro ⟨port, hport⟩
    obtain ⟨hrest, hvalue, hpos⟩ := (port?_eq_some_iff_strtol h).1 hport
    have hlt : port.toNat < 65536 := port.toNat_lt
    exact ⟨hrest, by omega, by omega⟩
  · rintro ⟨hrest, hrange⟩
    have hport := toNat_port hrange
    exact ⟨_, (port?_eq_some_iff_strtol h).2 ⟨hrest, hport.symm, by omega⟩⟩

/-- A magnitude is the number of its numeral, and can be taken below zero. -/
theorem magnitude?_exact {radix : Nat} (hradix : radix ∈ [8, 10, 16]) {digits : List Char}
    {n : Int64} :
    (magnitude? radix digits = some n ↔ ∃ k : Nat, IsNumeral radix digits k ∧ n.toInt = k) ∧
      (magnitude? radix digits = some n → n.toBitVec.negOverflow = false) := by
  have hbounds : ∀ radix ∈ [8, 10, 16], 0 < radix ∧ radix ≤ 16 := by decide
  obtain ⟨hpos, hr⟩ := hbounds radix hradix
  simp only [magnitude?_eq_some_iff hpos hr, numeral?_eq_some_iff hr, true_and]
  rintro ⟨k, -, hn⟩
  exact not_negOverflow (by omega)

/-- On ASCII texts a port is read just if `strtol` consumes the text and finds the port, which is
between 1 and 65535. Nothing overflows on the way: what is computed of a numeral is its number,
which is given up only if 64 bits do not hold it; it has an opposite in 64 bits; and so the integer
of a text is what it would be without bounds. -/
theorem port_read_as_strtol (cs : List Char) (h : ∀ c ∈ cs, 0 < c.toNat ∧ c.toNat < 128) :
    (∀ port : UInt16, port? cs = some port ↔
      (strtol cs).rest = [] ∧ (strtol cs).value.toInt = port.toNat ∧ 1 ≤ port.toNat) ∧
      (port? cs = none ↔
        ¬ ((strtol cs).rest = [] ∧ 1 ≤ (strtol cs).value ∧ (strtol cs).value ≤ 65535)) ∧
      (∀ radix ∈ [8, 10, 16], ∀ digits n,
        (magnitude? radix digits = some n ↔ ∃ k : Nat, IsNumeral radix digits k ∧ n.toInt = k) ∧
          (magnitude? radix digits = some n → n.toBitVec.negOverflow = false)) ∧
      ∀ value, long? cs = some value ↔
        integer? cs = some value.toInt ∧ value ≠ Int64.minValue := by
  have hascii : ∀ c ∈ cs, c.toNat < 128 := fun c hc => (h c hc).2
  exact ⟨fun port => port?_eq_some_iff_strtol hascii, port?_eq_none_iff_strtol hascii,
    fun radix hradix digits n => magnitude?_exact hradix, fun value => long?_eq_some_iff⟩

/-- A sign, and zeros in front of more digits than a number of 64 bits can have. -/
theorem port_read_as_strtol_padded :
    let text := '\t' :: '+' :: '0' :: 'X' :: (List.replicate 20 '0' ++ ['1', 'f', '9', '0'])
    (∀ c ∈ text, 0 < c.toNat ∧ c.toNat < 128) ∧ (strtol text).rest = [] ∧
      port? text = some 8080 := by
  intro text
  have hall : text.all (fun c => 0 < c.toNat ∧ c.toNat < 128) = true := by decide +kernel
  have htext : ∀ c ∈ text, 0 < c.toNat ∧ c.toNat < 128 := fun c hc =>
    of_decide_eq_true (List.all_eq_true.1 hall c hc)
  have hrest : (strtol text).rest = [] := by decide +kernel
  have hvalue : (strtol text).value.toInt = 8080 := by decide +kernel
  exact ⟨htext, hrest, ((port_read_as_strtol text htext).1 8080).2 ⟨hrest, hvalue, by decide⟩⟩

-- A scan finds the zero of a prefix that no digit follows; there is no port in such a text.
example : (strtol [' ', '0', 'x', 'g']).rest = ['x', 'g'] ∧ port? [' ', '0', 'x', 'g'] = none := by
  decide +kernel

end GuestNic.Forwarding
