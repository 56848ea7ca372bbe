import Mathlib.Data.List.Induction
import GuestNic.Text.Blank
import GuestNic.Text.Digit

/-!
# Numerals

What a text must look like to be read as a number to some base, and the one text among those of a
number that has no zero in front.
-/

namespace GuestNic.Text

variable {radix n d : Nat} {c : Char} {cs : List Char}

/-! ## Digits -/

/-- The character stands for the digit `d` to the base `radix`. Letters may be of either case. -/
def IsDigit (radix : Nat) (c : Char) (d : Nat) : Prop :=
  d < radix ∧ (c = Nat.digitChar d ∨ c = (Nat.digitChar d).toUpper)

/-- What holds of all digits to the base sixteen holds of every digit. -/
theorem IsDigit.of_forall {p : Char → Prop} (h : IsDigit radix c d) (hr : radix ≤ 16)
    (hp : ∀ d < 16, p (Nat.digitChar d) ∧ p (Nat.digitChar d).toUpper) : p c := by
  obtain ⟨hd, rfl | rfl⟩ := h
  · exact (hp d (Nat.lt_of_lt_of_le hd hr)).1
  · exact (hp d (Nat.lt_of_lt_of_le hd hr)).2

theorem isDigit_digitChar (h : d < radix) : IsDigit radix (Nat.digitChar d) d := ⟨h, .inl rfl⟩

/-- Up to nine there is one way to write a digit. -/
theorem IsDigit.eq_digitChar (h : IsDigit 10 c d) : c = Nat.digitChar d := by
  have hupper : ∀ d < 10, (Nat.digitChar d).toUpper = Nat.digitChar d := by decide
  obtain ⟨hd, rfl | rfl⟩ := h
  · rfl
  · exact hupper d hd

theorem digit?_eq_some_iff (hr : radix ≤ 16) : digit? radix c = some d ↔ IsDigit radix c d := by
  constructor
  · intro h
    obtain ⟨hvalue, -⟩ := Option.filter_eq_some_iff.1 h
    -- No character behind the letter f has a value, and those before it can be looked through.
    have hcode : c.toNat < 103 := by
      unfold hexValue? at hvalue
      split at hvalue
      · omega
      · split at hvalue
        · omega
        · split at hvalue
          · omega
          · cases hvalue
    have hall : ∀ k < 103, ∀ d ∈ hexValue? (Char.ofNat k),
        Char.ofNat k = Nat.digitChar d ∨ Char.ofNat k = (Nat.digitChar d).toUpper := by decide
    refine ⟨digit?_lt h, ?_⟩
    have hc := hall c.toNat hcode d (by rwa [Char.ofNat_toNat])
    rwa [Char.ofNat_toNat] at hc
  · rintro ⟨hd, hc⟩
    have hall : ∀ d < 16, hexValue? (Nat.digitChar d) = some d ∧
        hexValue? (Nat.digitChar d).toUpper = some d := by decide
    have hvalue : hexValue? c = some d := by
      rcases hc with rfl | rfl
      · exact (hall d (Nat.lt_of_lt_of_le hd hr)).1
      · exact (hall d (Nat.lt_of_lt_of_le hd hr)).2
    rw [digit?, hvalue]
    exact Option.filter_some_pos (decide_eq_true hd)

/-! ## Numerals -/

/-- The text is a numeral of `n` to the base `radix`: one digit, or a numeral with a last digit
behind it. -/
inductive IsNumeral (radix : Nat) : List Char → Nat → Prop where
  | digit {c : Char} {d : Nat} (h : IsDigit radix c d) : IsNumeral radix [c] d
  | snoc {cs : List Char} {n : Nat} {c : Char} {d : Nat} (hcs : IsNumeral radix cs n)
      (h : IsDigit radix c d) : IsNumeral radix (cs ++ [c]) (radix * n + d)

theorem IsNumeral.ne_nil (h : IsNumeral radix cs n) : cs ≠ [] := by
  cases h with
  | digit => exact List.cons_ne_nil _ _
  | snoc => exact List.concat_ne_nil _ _

theorem IsNumeral.isDigit_of_mem (h : IsNumeral radix cs n) (hc : c ∈ cs) :
    ∃ d, IsDigit radix c d := by
  induction h with
  | @digit c d hd =>
    rw [List.mem_singleton.1 hc]
    exact ⟨d, hd⟩
  | @snoc cs n c d _ hd ih =>
    rcases List.mem_append.1 hc with hc | hc
    · exact ih hc
    · rw [List.mem_singleton.1 hc]
      exact ⟨d, hd⟩

/-- A character that is no digit to the base sixteen is in no numeral. -/
theorem IsNumeral.not_mem (h : IsNumeral radix cs n) (hr : radix ≤ 16)
    (hc : ∀ d < 16, Nat.digitChar d ≠ c ∧ (Nat.digitChar d).toUpper ≠ c) : c ∉ cs := by
  intro hmem
  obtain ⟨d, hd⟩ := h.isDigit_of_mem hmem
  exact hd.of_forall (p := (· ≠ c)) hr hc rfl

/-! ## Reading -/

theorem numeral?_singleton (radix : Nat) (c : Char) : numeral? radix [c] = digit? radix c := by
  rw [numeral?, List.mapM_cons]
  cases digit? radix c with
  | none => rfl
  | some d =>
    show some (0 * radix + d) = some d
    rw [Nat.zero_mul, Nat.zero_add]

/-- A last digit is read after the numeral in front of it. -/
theorem numeral?_concat (hcs : cs ≠ []) (radix : Nat) (c : Char) :
    numeral? radix (cs ++ [c]) =
      (numeral? radix cs).bind fun n => (digit? radix c).map fun d => radix * n + d := by
  have hempty : cs.isEmpty = false := by simpa using hcs
  have hempty' : (cs ++ [c]).isEmpty = false := by simp
  rw [numeral?, numeral?, hempty, hempty', List.mapM_append, List.mapM_cons]
  cases cs.mapM (digit? radix) with
  | none => rfl
  | some ds =>
    cases digit? radix c with
    | none => rfl
    | some d =>
      show some (ofDigits radix 0 (ds ++ [d])) = some (radix * ofDigits radix 0 ds + d)
      rw [ofDigits_append, Nat.mul_comm]
      rfl

theorem numeral?_eq_some_iff (hr : radix ≤ 16) :
    numeral? radix cs = some n ↔ IsNumeral radix cs n := by
  constructor
  · -- By induction from the end, where a numeral grows.
    intro h
    induction cs using List.reverseRecOn generalizing n with
    | nil => cases h
    | append_singleton cs c ih =>
      by_cases hcs : cs = []
      · subst hcs
        rw [List.nil_append, numeral?_singleton, digit?_eq_some_iff hr] at h
        exact .digit h
      · rw [numeral?_concat hcs] at h
        obtain ⟨m, hm, h⟩ := Option.bind_eq_some_iff.1 h
        obtain ⟨d, hd, rfl⟩ := Option.map_eq_some_iff.1 h
        exact .snoc (ih hm) ((digit?_eq_some_iff hr).1 hd)
  · intro h
    induction h with
    | digit hd => rw [numeral?_singleton, (digit?_eq_some_iff hr).2 hd]
    | snoc hcs hd ih =>
      rw [numeral?_concat hcs.ne_nil, ih, (digit?_eq_some_iff hr).2 hd]
      rfl

/-- The values of digits are below the base. -/
theorem lt_of_mapM_digit? {ds : List Nat} (h : cs.mapM (digit? radix) = some ds) :
    ∀ d ∈ ds, d < radix := by
  induction cs generalizing ds with
  | nil =>
    cases h
    exact List.forall_mem_nil _
  | cons c cs ih =>
    rw [List.mapM_cons, Option.bind_eq_bind, Option.bind_eq_some_iff] at h
    obtain ⟨d, hd, h⟩ := h
    obtain ⟨ds, hds, h⟩ := Option.bind_eq_some_iff.1 h
    cases h
    exact List.forall_mem_cons.2 ⟨digit?_lt hd, ih hds⟩

/-- More digits do not make a number smaller. -/
theorem le_ofDigits (hr : 0 < radix) (n : Nat) (ds : List Nat) : n ≤ ofDigits radix n ds := by
  induction ds generalizing n with
  | nil => exact Nat.le_refl n
  | cons d ds ih =>
    have hle := Nat.le_mul_of_pos_right n hr
    exact Nat.le_trans (Nat.le_add_right_of_le hle) (ih (n * radix + d))

/-- A numeral is that of one number. -/
theorem IsNumeral.unique {m : Nat} (h : IsNumeral radix cs n) (h' : IsNumeral radix cs m)
    (hr : radix ≤ 16) : n = m :=
  Option.some.inj (((numeral?_eq_some_iff hr).2 h).symm.trans ((numeral?_eq_some_iff hr).2 h'))

/-! ## Plain numerals -/

/-- The text is `n` in decimal, with no zero in front of other digits. -/
structure IsPlain (cs : List Char) (n : Nat) : Prop where
  numeral : IsNumeral 10 cs n
  zero : ∀ ds, cs = '0' :: ds → ds = []

theorem isPlain_toDigits (n : Nat) : IsPlain (Nat.toDigits 10 n) n := by
  induction n using Nat.strongRecOn with
  | ind n ih =>
    by_cases hn : n < 10
    · rw [Nat.toDigits_of_lt_base hn]
      exact ⟨.digit (isDigit_digitChar hn), fun ds h => (List.cons.inj h).2.symm⟩
    · have hfront := ih (n / 10) (by omega)
      have hlast : IsDigit 10 (Nat.digitChar (n % 10)) (n % 10) :=
        isDigit_digitChar (Nat.mod_lt n (by decide))
      rw [Nat.toDigits_of_base_le (by decide) (by omega)]
      refine ⟨?_, ?_⟩
      · have hnumeral := hfront.numeral.snoc hlast
        rwa [Nat.div_add_mod] at hnumeral
      · -- A zero in front of the last digit would be all there is of the quotient.
        intro ds h
        exfalso
        obtain ⟨c, cs, hcs⟩ := List.exists_cons_of_ne_nil hfront.numeral.ne_nil
        rw [hcs, List.cons_append] at h
        obtain ⟨rfl, -⟩ := List.cons.inj h
        have hzero : IsNumeral 10 ['0'] (n / 10) := by
          have hquotient := hfront.numeral
          rwa [hcs, hfront.zero cs hcs] at hquotient
        have hdigit : IsNumeral 10 ['0'] 0 := .digit ⟨by decide, .inl rfl⟩
        have hvalue := hzero.unique hdigit (by decide)
        omega

theorem numeral?_toDigits (n : Nat) : numeral? 10 (Nat.toDigits 10 n) = some n :=
  (numeral?_eq_some_iff (by decide)).2 (isPlain_toDigits n).numeral

/-- There is one plain numeral of every number. -/
theorem isPlain_iff : IsPlain cs n ↔ cs = Nat.toDigits 10 n := by
  refine ⟨?_, fun h => h ▸ isPlain_toDigits n⟩
  rintro ⟨hnumeral, hzero⟩
  induction hnumeral with
  | digit hd => rw [Nat.toDigits_of_lt_base hd.1, hd.eq_digitChar]
  | @snoc cs n c d hcs hd ih =>
    -- A zero at the beginning would be in front of the last digit.
    have hnone : ∀ ds, cs ≠ '0' :: ds := by
      rintro ds rfl
      exact List.concat_ne_nil _ _ (hzero (ds ++ [c]) rfl)
    have hfront := ih fun ds h => absurd h (hnone ds)
    have hpos : n ≠ 0 := by
      rintro rfl
      exact hnone [] hfront
    have hlt := hd.1
    have hquotient : (10 * n + d) / 10 = n := by omega
    have hrest : (10 * n + d) % 10 = d := by omega
    rw [Nat.toDigits_of_base_le (by decide) (by omega), hquotient, hrest, hfront, hd.eq_digitChar]

/-! ## Separators -/

theorem IsPlain.not_mem_colon (h : IsPlain cs n) : ':' ∉ cs :=
  h.numeral.not_mem (by decide) (by decide)

theorem IsPlain.not_mem_dot (h : IsPlain cs n) : '.' ∉ cs :=
  h.numeral.not_mem (by decide) (by decide)

end GuestNic.Text
