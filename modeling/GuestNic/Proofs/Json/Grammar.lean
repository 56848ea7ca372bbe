import GuestNic.Json.Number
import GuestNic.Proofs.Json.Literal

/-!
# What is a JSON text

The grammar of JSON values, in any spelling and with white space wherever it may stand. The reader
of the settings stops at the first thing that it does not expect, so it never walks through a whole
value of a kind that it has no use for; what tells the kinds apart is how a value begins.
-/

namespace GuestNic.Json

/-! ## White space -/

/-- White space only. -/
def IsGap (cs : List Char) : Prop := ∀ c ∈ cs, isSpace c = true

theorem isGap_nil : IsGap [] := nofun

theorem IsGap.append {g g' : List Char} (h : IsGap g) (h' : IsGap g') : IsGap (g ++ g') :=
  fun c hc => (List.mem_append.1 hc).elim (h c) (h' c)

theorem skipSpace_gap {gap : List Char} (h : IsGap gap) (cs : List Char) :
    skipSpace (gap ++ cs) = skipSpace cs :=
  List.dropWhile_append_of_pos h

theorem skipSpace_cons {c : Char} (h : isSpace c = false) (cs : List Char) :
    skipSpace (c :: cs) = c :: cs :=
  List.dropWhile_cons_of_neg (by simp [h])

theorem skipSpace_nil_of_gap {gap : List Char} (h : IsGap gap) : skipSpace gap = [] := by
  rw [← List.append_nil gap, skipSpace_gap h]
  rfl

/-! ## Numbers -/

/-- At least one digit, and nothing else. -/
structure IsDigits (cs : List Char) : Prop where
  ne_nil : cs ≠ []
  digits : ∀ c ∈ cs, Text.isDecimal c = true

/-- Digits with no zero in front of others. -/
structure IsWhole (cs : List Char) : Prop extends IsDigits cs where
  zero : ∀ ds, cs = '0' :: ds → ds = []

/-- The fraction of a number, which may be missing. -/
inductive IsFraction : List Char → Prop where
  | none : IsFraction []
  | digits {ds : List Char} (h : IsDigits ds) : IsFraction ('.' :: ds)

/-- The exponent of a number, which may be missing. -/
inductive IsScale : List Char → Prop where
  | none : IsScale []
  | digits {letter : Char} {sign ds : List Char} (hl : letter = 'e' ∨ letter = 'E')
      (hs : sign = [] ∨ sign = ['+'] ∨ sign = ['-']) (h : IsDigits ds) :
      IsScale (letter :: (sign ++ ds))

inductive IsNumber : List Char → Prop where
  | natural {whole fraction scale : List Char} (hw : IsWhole whole) (hf : IsFraction fraction)
      (hs : IsScale scale) : IsNumber (whole ++ (fraction ++ scale))
  | negative {whole fraction scale : List Char} (hw : IsWhole whole) (hf : IsFraction fraction)
      (hs : IsScale scale) : IsNumber ('-' :: (whole ++ (fraction ++ scale)))

/-! ## Values -/

/-- A value with the white space around it. -/
structure Padded where
  before : List Char
  value : List Char
  after : List Char

/-- A member of an object. -/
structure Member where
  before : List Char
  /-- What stands between the quotes of the key. -/
  key : List Char
  /-- White space in front of the colon. -/
  between : List Char
  value : Padded

namespace Padded

def text (p : Padded) : List Char := p.before ++ (p.value ++ p.after)

structure HasGaps (p : Padded) : Prop where
  before : IsGap p.before
  after : IsGap p.after

/-- A value with no white space around it. -/
def tight (value : List Char) : Padded := ⟨[], value, []⟩

@[simp]
theorem text_tight (value : List Char) : (tight value).text = value := List.append_nil value

theorem hasGaps_tight (value : List Char) : (tight value).HasGaps := ⟨isGap_nil, isGap_nil⟩

end Padded

namespace Member

def text (m : Member) : List Char :=
  m.before ++ '"' :: (m.key ++ '"' :: (m.between ++ ':' :: m.value.text))

structure HasGaps (m : Member) : Prop where
  before : IsGap m.before
  between : IsGap m.between
  value : m.value.HasGaps

end Member

/-- A JSON value, in any spelling. -/
inductive IsValue : List Char → Prop where
  | null : IsValue ['n', 'u', 'l', 'l']
  | trueWord : IsValue ['t', 'r', 'u', 'e']
  | falseWord : IsValue ['f', 'a', 'l', 's', 'e']
  | number {cs : List Char} (h : IsNumber cs) : IsValue cs
  | text {body : List Char} (h : IsBody body) : IsValue ('"' :: (body ++ ['"']))
  | list {items : List Padded} {gap : List Char} (hgap : IsGap gap)
      (hgaps : ∀ i ∈ items, i.HasGaps) (hvalues : ∀ i ∈ items, IsValue i.value) :
      IsValue ('[' :: ([','].intercalate (items.map Padded.text) ++ (gap ++ [']'])))
  | object {members : List Member} {gap : List Char} (hgap : IsGap gap)
      (hgaps : ∀ m ∈ members, m.HasGaps) (hkeys : ∀ m ∈ members, IsBody m.key)
      (hvalues : ∀ m ∈ members, IsValue m.value.value) :
      IsValue ('\x7b' :: ([','].intercalate (members.map Member.text) ++ (gap ++ ['\x7d'])))

theorem intercalate_comma (part : List Char) (parts : List (List Char)) :
    [','].intercalate (part :: parts) = part ++ parts.flatMap (',' :: ·) := by
  induction parts generalizing part with
  | nil => simp [List.intercalate]
  | cons next parts ih =>
    have hnext := ih next
    simp only [List.intercalate, List.intersperse_cons_cons, List.flatten_cons, List.flatMap_cons,
      List.cons_append, List.nil_append] at hnext ⊢
    rw [hnext]

/-! ## How a value begins -/

theorem ne_of_isDecimal {c d : Char} (h : Text.isDecimal c = true) (hd : Text.isDecimal d = false) :
    c ≠ d := by
  rintro rfl
  rw [hd] at h
  cases h

theorem not_isSpace_of_isDecimal {c : Char} (h : Text.isDecimal c = true) : isSpace c = false := by
  simp only [isSpace, Bool.or_eq_false_iff, decide_eq_false_iff_not]
  exact ⟨⟨⟨ne_of_isDecimal h rfl, ne_of_isDecimal h rfl⟩, ne_of_isDecimal h rfl⟩,
    ne_of_isDecimal h rfl⟩

theorem IsNumber.head {cs : List Char} (h : IsNumber cs) :
    ∃ c tail, cs = c :: tail ∧ (c = '-' ∨ Text.isDecimal c = true) := by
  cases h with
  | @natural whole fraction scale hw hf hs =>
    obtain ⟨c, ds, rfl⟩ := List.exists_cons_of_ne_nil hw.ne_nil
    exact ⟨c, _, rfl, .inr (hw.digits c List.mem_cons_self)⟩
  | negative => exact ⟨'-', _, rfl, .inl rfl⟩

theorem IsNumber.starts {c : Char} {tail : List Char} (h : IsNumber (c :: tail)) :
    c = '-' ∨ Text.isDecimal c = true := by
  obtain ⟨_, _, heq, hc⟩ := h.head
  cases heq
  exact hc

/-- The first character of a value is neither white space nor the bracket that closes a list. -/
theorem IsValue.head {cs : List Char} (h : IsValue cs) :
    ∃ c tail, cs = c :: tail ∧ isSpace c = false ∧ c ≠ ']' := by
  cases h with
  | null | trueWord | falseWord | text | list | object => exact ⟨_, _, rfl, rfl, by decide⟩
  | number h =>
    obtain ⟨c, tail, rfl, rfl | hc⟩ := h.head
    · exact ⟨_, _, rfl, rfl, by decide⟩
    · exact ⟨_, _, rfl, not_isSpace_of_isDecimal hc, ne_of_isDecimal hc rfl⟩

namespace IsValue

variable {tail : List Char}

theorem of_n (h : IsValue ('n' :: tail)) : tail = ['u', 'l', 'l'] := by
  cases h with
  | null => rfl
  | number h => rcases h.starts with hc | hc <;> cases hc

theorem of_t (h : IsValue ('t' :: tail)) : tail = ['r', 'u', 'e'] := by
  cases h with
  | trueWord => rfl
  | number h => rcases h.starts with hc | hc <;> cases hc

theorem of_f (h : IsValue ('f' :: tail)) : tail = ['a', 'l', 's', 'e'] := by
  cases h with
  | falseWord => rfl
  | number h => rcases h.starts with hc | hc <;> cases hc

theorem of_quote (h : IsValue ('"' :: tail)) : ∃ body, IsBody body ∧ tail = body ++ ['"'] := by
  cases h with
  | text h => exact ⟨_, h, rfl⟩
  | number h => rcases h.starts with hc | hc <;> cases hc

theorem of_bracket (h : IsValue ('[' :: tail)) :
    ∃ (items : List Padded) (gap : List Char), IsGap gap ∧ (∀ i ∈ items, i.HasGaps) ∧
      (∀ i ∈ items, IsValue i.value) ∧
      tail = [','].intercalate (items.map Padded.text) ++ (gap ++ [']']) := by
  cases h with
  | list hgap hgaps hvalues => exact ⟨_, _, hgap, hgaps, hvalues, rfl⟩
  | number h => rcases h.starts with hc | hc <;> cases hc

theorem of_number {c : Char} (h : IsValue (c :: tail)) (hc : c = '-' ∨ Text.isDecimal c = true) :
    IsNumber (c :: tail) := by
  cases h with
  | number h => exact h
  | null | trueWord | falseWord | text | list | object => rcases hc with hc | hc <;> cases hc

end IsValue

end GuestNic.Json
