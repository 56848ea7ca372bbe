import Mathlib.Data.List.TakeWhile
import GuestNic.Proofs.Forwarding.Long

/-!
# Ports in text

A port is an integer constant as in C, with white space allowed in front of it, whose value is a
port number. Reading it decides just that.
-/

namespace GuestNic.Forwarding

open Text

variable {cs : List Char} {n : Nat}

/-! ## The grammar -/

/-- An integer constant without its sign. -/
inductive IsConstant : List Char → Nat → Prop where
  | hexadecimal {x : Char} {digits : List Char} {n : Nat} (hx : x = 'x' ∨ x = 'X')
      (h : IsNumeral 16 digits n) : IsConstant ('0' :: x :: digits) n
  | octal {digits : List Char} {n : Nat} (h : IsNumeral 8 digits n) : IsConstant ('0' :: digits) n
  | decimal {digits : List Char} {n : Nat} (h : IsNumeral 10 digits n)
      (hzero : digits.head? ≠ some '0') : IsConstant digits n

/-- At most one sign, and whether it is minus. -/
inductive IsSign : List Char → Bool → Prop where
  | none : IsSign [] false
  | plus : IsSign ['+'] false
  | minus : IsSign ['-'] true

def signed (negative : Bool) (n : Nat) : Int := if negative then -n else n

/-- The text of a port: white space, a sign and an integer constant, the first two of which may be
missing. -/
def IsPort (cs : List Char) (port : UInt16) : Prop :=
  ∃ blanks sign negative constant n, cs = blanks ++ (sign ++ constant) ∧
    (∀ c ∈ blanks, isBlank c = true) ∧ IsSign sign negative ∧ IsConstant constant n ∧
    signed negative n = port.toNat ∧ port ≠ 0

/-! ## Constants -/

/-- A constant begins with a decimal digit. -/
theorem IsConstant.exists_digit (h : IsConstant cs n) :
    ∃ c rest d, cs = c :: rest ∧ IsDigit 10 c d := by
  cases h with
  | hexadecimal => exact ⟨_, _, 0, rfl, by decide, .inl rfl⟩
  | octal => exact ⟨_, _, 0, rfl, by decide, .inl rfl⟩
  | decimal h =>
    obtain ⟨c, rest, rfl⟩ := List.exists_cons_of_ne_nil h.ne_nil
    obtain ⟨d, hd⟩ := h.isDigit_of_mem List.mem_cons_self
    exact ⟨c, rest, d, rfl, hd⟩

/-- Apart from a lone zero, a numeral to the base that it announces is a constant. -/
theorem isConstant_of_numeral? (h : numeral? (splitRadix cs).1 (splitRadix cs).2 = some n)
    (hn : n ≠ 0) : IsConstant cs n := by
  unfold splitRadix at h
  split at h
  · exact .hexadecimal (.inl rfl) ((numeral?_eq_some_iff (by decide)).1 h)
  · exact .hexadecimal (.inr rfl) ((numeral?_eq_some_iff (by decide)).1 h)
  · exact .octal ((numeral?_eq_some_iff (by decide)).1 h)
  · rename_i hoctal
    refine .decimal ((numeral?_eq_some_iff (by decide)).1 h) ?_
    intro hhead
    -- With a digit behind it the zero would have announced the base eight.
    obtain ⟨_ | ⟨c, rest⟩, rfl⟩ := List.head?_eq_some_iff.1 hhead
    · exact hn (Option.some.inj h).symm
    · exact hoctal c rest rfl

/-- Digits without a zero in front of them announce no other base. -/
theorem splitRadix_decimal (h : cs.head? ≠ some '0') : splitRadix cs = (10, cs) := by
  refine splitRadix.eq_4 cs ?_ ?_ ?_
  · rintro rest rfl
    exact h rfl
  · rintro rest rfl
    exact h rfl
  · rintro c rest rfl
    exact h rfl

theorem IsConstant.numeral?_splitRadix (h : IsConstant cs n) :
    numeral? (splitRadix cs).1 (splitRadix cs).2 = some n := by
  cases h with
  | @hexadecimal x digits _ hx h =>
    have hsplit : splitRadix ('0' :: x :: digits) = (16, digits) := by
      rcases hx with rfl | rfl <;> rfl
    rw [hsplit]
    exact (numeral?_eq_some_iff (Nat.le_refl 16)).2 h
  | octal h =>
    obtain ⟨c, rest, rfl⟩ := List.exists_cons_of_ne_nil h.ne_nil
    -- No letter that announces the base sixteen is an octal digit.
    obtain ⟨d, hd⟩ := h.isDigit_of_mem List.mem_cons_self
    have hc : c ≠ 'x' ∧ c ≠ 'X' :=
      hd.of_forall (p := fun c => c ≠ 'x' ∧ c ≠ 'X') (by decide) (by decide)
    rw [splitRadix.eq_3 c rest hc.1 hc.2]
    show numeral? 8 (c :: rest) = some n
    exact (numeral?_eq_some_iff (by decide)).2 h
  | decimal h hzero =>
    rw [splitRadix_decimal hzero]
    show numeral? 10 cs = some n
    exact (numeral?_eq_some_iff (by decide)).2 h

/-! ## White space and signs -/

theorem exists_sign (cs : List Char) :
    ∃ sign, IsSign sign (splitSign cs).1 ∧ cs = sign ++ (splitSign cs).2 := by
  unfold splitSign
  split
  · exact ⟨_, .minus, rfl⟩
  · exact ⟨_, .plus, rfl⟩
  · exact ⟨_, .none, rfl⟩

theorem splitSign_append {sign : List Char} {negative : Bool} (hs : IsSign sign negative)
    (h : IsConstant cs n) : splitSign (sign ++ cs) = (negative, cs) := by
  cases hs with
  | plus | minus => rfl
  | none =>
    obtain ⟨c, rest, d, rfl, hd⟩ := h.exists_digit
    have hc : c ≠ '-' ∧ c ≠ '+' :=
      hd.of_forall (p := fun c => c ≠ '-' ∧ c ≠ '+') (by decide) (by decide)
    exact splitSign.eq_3 _ (fun _ h => hc.1 (List.cons.inj h).1) fun _ h => hc.2 (List.cons.inj h).1

theorem trimStart_append {blanks : List Char} (hblanks : ∀ c ∈ blanks, isBlank c = true)
    (hcs : ∀ c ∈ cs.head?, isBlank c = false) : trimStart (blanks ++ cs) = cs := by
  rw [trimStart, List.dropWhile_append_of_pos hblanks]
  cases cs with
  | nil => rfl
  | cons c rest => exact List.dropWhile_cons_of_neg (by simp [hcs c rfl])

/-- A sign and a constant have no white space in front. -/
theorem isBlank_head {sign : List Char} {negative : Bool} (hs : IsSign sign negative)
    (h : IsConstant cs n) : ∀ c ∈ (sign ++ cs).head?, isBlank c = false := by
  obtain ⟨c, rest, d, rfl, hd⟩ := h.exists_digit
  intro b hb
  cases hs with
  | plus | minus =>
    cases hb
    rfl
  | none =>
    cases hb
    exact hd.of_forall (p := (isBlank · = false)) (by decide) (by decide +kernel)

/-! ## Integers -/

/-- The integer that a text is read as where there are no bounds: after the white space a sign, and
a numeral to the base that it announces. -/
def integer? (cs : List Char) : Option Int :=
  (numeral? (splitRadix (splitSign (trimStart cs)).2).1
    (splitRadix (splitSign (trimStart cs)).2).2).map (signed (splitSign (trimStart cs)).1)

/-- Apart from zeros, only white space, a sign and a constant are read as an integer. -/
theorem exists_of_integer? {value : Int} (h : integer? cs = some value) (hvalue : value ≠ 0) :
    ∃ blanks sign negative constant n, cs = blanks ++ (sign ++ constant) ∧
      (∀ c ∈ blanks, isBlank c = true) ∧ IsSign sign negative ∧ IsConstant constant n ∧
      signed negative n = value := by
  obtain ⟨n, hn, rfl⟩ := Option.map_eq_some_iff.1 h
  obtain ⟨sign, hsign, hcs⟩ := exists_sign (trimStart cs)
  have hne : n ≠ 0 := by
    rintro rfl
    refine hvalue ?_
    unfold signed
    split <;> rfl
  refine ⟨cs.takeWhile isBlank, sign, _, _, n, ?_, fun c hc => List.mem_takeWhile_imp hc, hsign,
    isConstant_of_numeral? hn hne, rfl⟩
  rw [← hcs]
  exact List.takeWhile_append_dropWhile.symm

theorem integer?_append {blanks sign : List Char} {negative : Bool}
    (hblanks : ∀ c ∈ blanks, isBlank c = true) (hs : IsSign sign negative) (h : IsConstant cs n) :
    integer? (blanks ++ (sign ++ cs)) = some (signed negative n) := by
  simp only [integer?, trimStart_append hblanks (isBlank_head hs h), splitSign_append hs h,
    h.numeral?_splitRadix, Option.map_some]

/-- A plain numeral is read as its number: only zero begins with the digit that announces another
base, and nothing follows it. -/
theorem integer?_of_isPlain (h : IsPlain cs n) : integer? cs = some (n : Int) := by
  by_cases hhead : cs.head? = some '0'
  · obtain ⟨rest, rfl⟩ := List.head?_eq_some_iff.1 hhead
    obtain rfl := h.zero rest rfl
    have hdigit : IsNumeral 10 ['0'] 0 := .digit ⟨by decide, .inl rfl⟩
    rw [h.numeral.unique hdigit (by decide)]
    rfl
  · exact integer?_append (List.forall_mem_nil _) .none (.decimal h.numeral hhead)

/-! ## 64 bits -/

theorem splitRadix_bounds (cs : List Char) : 0 < (splitRadix cs).1 ∧ (splitRadix cs).1 ≤ 16 := by
  unfold splitRadix
  split <;> simp

/-- A number that is not negative has an opposite in 64 bits. -/
theorem not_negOverflow {m : Int64} (h : 0 ≤ m.toInt) : m.toBitVec.negOverflow = false := by
  rw [BitVec.negOverflow, Int64.toInt_toBitVec, beq_eq_false_iff_ne]
  omega

theorem toInt_signed {m : Int64} {k : Nat} (h : m.toInt = k) (negative : Bool) :
    (if negative then -m else m).toInt = signed negative k := by
  cases negative with
  | false => exact h
  | true =>
    have hexact := BitVec.toInt_neg_of_not_negOverflow (x := m.toBitVec) (by
      simp [not_negOverflow (m := m) (by omega)])
    rw [← Int64.toBitVec_neg, Int64.toInt_toBitVec, Int64.toInt_toBitVec, h] at hexact
    exact hexact

/-- In 64 bits a text is read as just the same integer, unless its magnitude is too large. -/
theorem long?_eq_some_iff {value : Int64} :
    long? cs = some value ↔ integer? cs = some value.toInt ∧ value ≠ Int64.minValue := by
  obtain ⟨hpos, hr⟩ := splitRadix_bounds (splitSign (trimStart cs)).2
  have hmin : Int64.minValue.toInt = -2 ^ 63 := rfl
  simp only [long?, integer?, Option.map_eq_some_iff, magnitude?_eq_some_iff hpos hr,
    ne_eq, ← Int64.toInt_inj, hmin]
  constructor
  · rintro ⟨m, ⟨k, hk, hm⟩, hvalue⟩
    have hsigned := (toInt_signed hm _).symm.trans hvalue
    have hlt := m.toInt_lt
    refine ⟨⟨k, hk, hsigned⟩, ?_⟩
    unfold signed at hsigned
    split at hsigned <;> omega
  · rintro ⟨⟨k, hk, hsigned⟩, hne⟩
    have hlt : k < 2 ^ 63 := by
      have hle := value.le_toInt
      have hlt := value.toInt_lt
      unfold signed at hsigned
      split at hsigned <;> omega
    have hm := Int64.toInt_ofNat_of_lt hlt
    exact ⟨_, ⟨k, hk, hm⟩, (toInt_signed hm _).trans hsigned⟩

/-! ## Ports -/

theorem isPortNumber_iff {value : Int64} :
    1 ≤ value ∧ value ≤ 65535 ↔ 1 ≤ value.toInt ∧ value.toInt ≤ 65535 := by
  rw [Int64.le_iff_toInt_le, Int64.le_iff_toInt_le]
  rfl

/-- The sixteen bits of a port hold all of it. -/
theorem toNat_port {value : Int64} (h : 1 ≤ value.toInt ∧ value.toInt ≤ 65535) :
    (value.toUInt64.toUInt16.toNat : Int) = value.toInt := by
  have hpos : 0 ≤ value := Int64.le_iff_toInt_le.2 (by
    show 0 ≤ value.toInt
    omega)
  have hnat : value.toNatClampNeg = value.toInt.toNat := rfl
  rw [UInt64.toNat_toUInt16, Int64.toNat_toUInt64_of_le hpos, hnat]
  omega

theorem port?_eq_some_iff_long? {port : UInt16} :
    port? cs = some port ↔ ∃ value, long? cs = some value ∧
      (1 ≤ value.toInt ∧ value.toInt ≤ 65535) ∧ value.toInt = port.toNat := by
  simp only [port?, Option.map_eq_some_iff, Option.filter_eq_some_iff, decide_eq_true_eq,
    isPortNumber_iff]
  constructor
  · rintro ⟨value, ⟨hvalue, hrange⟩, rfl⟩
    exact ⟨value, hvalue, hrange, (toNat_port hrange).symm⟩
  · rintro ⟨value, hvalue, hrange, hport⟩
    have hnat := (toNat_port hrange).trans hport
    exact ⟨value, ⟨hvalue, hrange⟩, UInt16.toNat_inj.1 (Int.ofNat_inj.1 hnat)⟩

/-- A port is read from an integer that is its number, which is not zero. -/
theorem port?_eq_some_iff_integer? {port : UInt16} :
    port? cs = some port ↔ integer? cs = some (port.toNat : Int) ∧ port ≠ 0 := by
  have hzero : port = 0 ↔ port.toNat = 0 := UInt16.toNat_inj.symm
  rw [port?_eq_some_iff_long?, ne_eq, hzero]
  constructor
  · rintro ⟨value, hvalue, hrange, hport⟩
    exact ⟨hport ▸ (long?_eq_some_iff.1 hvalue).1, by omega⟩
  · rintro ⟨hinteger, hne⟩
    have hlt : port.toNat < 65536 := port.toNat_lt
    have hvalue : (Int64.ofNat port.toNat).toInt = port.toNat :=
      Int64.toInt_ofNat_of_lt (by omega)
    refine ⟨_, long?_eq_some_iff.2 ⟨hvalue ▸ hinteger, ?_⟩, by omega, hvalue⟩
    -- The smallest number is below zero.
    intro hmin
    have hneg : Int64.minValue.toInt < 0 := by decide
    rw [hmin] at hvalue
    omega

/-- Ports are read from just what the grammar says. -/
theorem port?_eq_some_iff {port : UInt16} : port? cs = some port ↔ IsPort cs port := by
  rw [port?_eq_some_iff_integer?]
  constructor
  · rintro ⟨hinteger, hne⟩
    have hpos : (port.toNat : Int) ≠ 0 := fun h => hne (UInt16.toNat_inj.1 (Int.natCast_eq_zero.1 h))
    obtain ⟨blanks, sign, negative, constant, n, hcs, hblanks, hs, hc, hvalue⟩ :=
      exists_of_integer? hinteger hpos
    exact ⟨blanks, sign, negative, constant, n, hcs, hblanks, hs, hc, hvalue, hne⟩
  · rintro ⟨blanks, sign, negative, constant, n, rfl, hblanks, hs, hc, hvalue, hne⟩
    exact ⟨hvalue ▸ integer?_append hblanks hs hc, hne⟩

/-- A plain numeral is a port if its number is one. -/
theorem isPort_iff_of_isPlain (h : IsPlain cs n) {port : UInt16} :
    IsPort cs port ↔ n = port.toNat ∧ port ≠ 0 := by
  rw [← port?_eq_some_iff, port?_eq_some_iff_integer?, integer?_of_isPlain h, Option.some.injEq,
    Int.ofNat_inj]

end GuestNic.Forwarding
