import GuestNic.Proofs.Json.Grammar
import GuestNic.Proofs.Text.Numeral

/-!
# Natural numbers

Of all numbers only those without sign, fraction and exponent are read as natural numbers, as long
as 64 bits hold them, and such a number is read to its last digit.
-/

namespace GuestNic.Json

/-! ## Digits -/

theorem digits_ne_nil {cs : List Char} {ds : List Nat} (hne : cs ≠ [])
    (h : cs.mapM (Text.digit? 10) = some ds) : ds ≠ [] := by
  have hlength := length_of_mapM h
  rintro rfl
  exact hne (List.length_eq_zero_iff.1 hlength.symm)

theorem IsDigits.exists_digits {cs : List Char} (h : IsDigits cs) :
    ∃ ds, cs.mapM (Text.digit? 10) = some ds := by
  obtain ⟨-, h⟩ := h
  induction cs with
  | nil => exact ⟨[], rfl⟩
  | cons c cs ih =>
    obtain ⟨d, hd⟩ := Option.isSome_iff_exists.1 (h c List.mem_cons_self)
    obtain ⟨ds, hds⟩ := ih fun c hc => h c (List.mem_cons_of_mem _ hc)
    refine ⟨d :: ds, ?_⟩
    rw [List.mapM_cons, hd, hds]
    rfl

/-- Digits are split off up to the first character that is none. -/
theorem splitDigits_append {cs tail : List Char} {ds : List Nat}
    (h : cs.mapM (Text.digit? 10) = some ds)
    (ht : ∀ c ∈ tail.head?, Text.isDecimal c = false) : splitDigits (cs ++ tail) = (ds, tail) := by
  induction cs generalizing ds with
  | nil =>
    cases h
    cases tail with
    | nil => rfl
    | cons c tail =>
      have hc : Text.digit? 10 c = none := Option.not_isSome_iff_eq_none.1 (by
        rw [← Text.isDecimal, ht c rfl]
        exact nofun)
      rw [List.nil_append, splitDigits, hc]
      rfl
  | cons c cs ih =>
    rw [List.mapM_cons] at h
    obtain ⟨d, hd, hrest⟩ := Option.bind_eq_some_iff.1 h
    obtain ⟨ds, hds, heq⟩ := Option.bind_eq_some_iff.1 hrest
    cases heq
    rw [List.cons_append, splitDigits, hd, ih hds]

/-- Only the digit zero has the value zero. -/
theorem eq_zero_of_digit? {c : Char} (h : Text.digit? 10 c = some 0) : c = '0' :=
  ((Text.digit?_eq_some_iff (by decide)).1 h).eq_digitChar

/-! ## Numbers that fit -/

/-- A number that fits is absorbed whole. -/
theorem absorb_of_le {n : Nat} {ds : List Nat} (h : Text.ofDigits 10 n ds ≤ maxWord) :
    absorb n ds = (Text.ofDigits 10 n ds, []) := by
  induction ds generalizing n with
  | nil => rfl
  | cons d ds ih =>
    have hcons : Text.ofDigits 10 n (d :: ds) = Text.ofDigits 10 (n * 10 + d) ds := rfl
    have hfits := Text.le_ofDigits (by decide : 0 < 10) (n * 10 + d) ds
    rw [absorb, if_neg (by omega), hcons]
    exact ih (hcons ▸ h)

/-- What is absorbed whole is the number. -/
theorem eq_of_absorb {n m : Nat} {ds : List Nat} (h : absorb n ds = (m, [])) :
    m = Text.ofDigits 10 n ds := by
  induction ds generalizing n with
  | nil =>
    cases h
    rfl
  | cons d ds ih =>
    rw [absorb] at h
    split at h
    · cases h
    · exact ih h

/-! ## Reading -/

/-- A number does not go on with what follows it. -/
def IsDelimited (more : List Char) : Prop :=
  ∀ c ∈ more.head?, Text.isDecimal c = false ∧ c ≠ '.' ∧ c ≠ 'e' ∧ c ≠ 'E'

/-- A numeral is its digits. -/
theorem numeral?_eq_some_iff {cs : List Char} {ds : List Nat} (hne : cs ≠ [])
    (h : cs.mapM (Text.digit? 10) = some ds) (n : Nat) :
    Text.numeral? 10 cs = some n ↔ Text.ofDigits 10 0 ds = n := by
  have hempty : cs.isEmpty = false := by simpa using hne
  rw [Text.numeral?, hempty, h]
  exact Option.some_inj

/-- Of a number with a fraction or an exponent, or with a sign, no natural number is made. -/
theorem readTail_natural {negative : Bool} {ds : List Nat} {cs rest : List Char} {n : Nat}
    (h : readTail negative ds cs = .ok (.natural n, rest)) :
    negative = false ∧ rest = cs ∧ n = Text.ofDigits 10 0 ds ∧
      (∀ c ∈ cs.head?, c ≠ '.' ∧ c ≠ 'e' ∧ c ≠ 'E') := by
  unfold readTail at h
  rcases habsorb : absorb 0 ds with ⟨digits, left⟩
  simp only [habsorb] at h
  split at h
  · obtain ⟨p, -, heq⟩ := exists_of_map_ok h
    cases heq
  · obtain ⟨p, -, heq⟩ := exists_of_map_ok h
    cases heq
  · obtain ⟨p, -, heq⟩ := exists_of_map_ok h
    cases heq
  · rename_i hpoint he hE
    split at h
    · obtain ⟨p, -, heq⟩ := exists_of_map_ok h
      cases heq
    · rename_i hleft
      split at h
      · rename_i hnegative
        cases h
        have hleft : left = [] := by simpa using hleft
        rw [hleft] at habsorb
        refine ⟨by simpa using hnegative, rfl, eq_of_absorb habsorb, ?_⟩
        intro c hc
        obtain ⟨tail, rfl⟩ := List.head?_eq_some_iff.1 hc
        refine ⟨?_, ?_, ?_⟩
        · rintro rfl
          exact hpoint _ rfl
        · rintro rfl
          exact he _ rfl
        · rintro rfl
          exact hE _ rfl
      · split at h <;> cases h

theorem readTail_of_le {ds : List Nat} {more : List Char}
    (hle : Text.ofDigits 10 0 ds ≤ maxWord)
    (hmore : ∀ c ∈ more.head?, c ≠ '.' ∧ c ≠ 'e' ∧ c ≠ 'E') :
    readTail false ds more = .ok (.natural (Text.ofDigits 10 0 ds), more) := by
  simp only [readTail, absorb_of_le hle]
  split
  · exact absurd rfl (hmore '.' rfl).1
  · exact absurd rfl (hmore 'e' rfl).2.1
  · exact absurd rfl (hmore 'E' rfl).2.2
  · rfl

/-- The digits of a whole number are no zero with more behind it. -/
theorem not_leading_zero {whole : List Char} (hw : IsWhole whole) {d : Nat} {ds : List Nat} :
    whole.mapM (Text.digit? 10) ≠ some (0 :: d :: ds) := by
  intro h
  obtain ⟨c, cs, rfl⟩ := List.exists_cons_of_ne_nil hw.ne_nil
  have hlength := length_of_mapM h
  rw [List.mapM_cons] at h
  obtain ⟨front, hfront, hrest⟩ := Option.bind_eq_some_iff.1 h
  obtain ⟨_, -, heq⟩ := Option.bind_eq_some_iff.1 hrest
  cases heq
  rw [eq_zero_of_digit? hfront] at hw
  rw [hw.zero cs rfl] at hlength
  cases hlength

theorem readNumber_whole {whole tail : List Char} {ds : List Nat} (hw : IsWhole whole)
    (h : whole.mapM (Text.digit? 10) = some ds)
    (ht : ∀ c ∈ tail.head?, Text.isDecimal c = false) (negative : Bool) :
    readNumber negative (whole ++ tail) = readTail negative ds tail := by
  have hne := digits_ne_nil hw.ne_nil h
  simp only [readNumber, splitDigits_append h ht]
  split
  · rename_i heq
    exact absurd (Prod.mk.inj heq).1 hne
  · rename_i heq
    exact absurd (Prod.mk.inj heq).1 hne
  · rename_i d ds' _ heq
    obtain ⟨rfl, -⟩ := Prod.mk.inj heq
    exact absurd h (not_leading_zero hw)
  · rename_i heq
    cases heq
    rfl

/-- A natural number of 64 bits is read as such. -/
theorem readNumber_of_numeral? {whole more : List Char} {n : Nat} (hw : IsWhole whole)
    (hn : Text.numeral? 10 whole = some n) (hle : n ≤ maxWord) (hmore : IsDelimited more) :
    readNumber false (whole ++ more) = .ok (.natural n, more) := by
  obtain ⟨ds, hds⟩ := hw.toIsDigits.exists_digits
  have hvalue := (numeral?_eq_some_iff hw.ne_nil hds n).1 hn
  rw [readNumber_whole hw hds (fun c hc => (hmore c hc).1) false]
  rw [← hvalue] at hle ⊢
  exact readTail_of_le hle fun c hc => (hmore c hc).2

/-- What follows the whole part of a number is no digit. -/
theorem not_isDecimal_of_parts {fraction scale more : List Char} (hf : IsFraction fraction)
    (hs : IsScale scale) (hmore : IsDelimited more) :
    ∀ c ∈ (fraction ++ (scale ++ more)).head?, Text.isDecimal c = false := by
  cases hf with
  | digits =>
    rintro _ ⟨⟩
    rfl
  | none =>
    cases hs with
    | none => exact fun c hc => (hmore c hc).1
    | digits hl =>
      rintro _ ⟨⟩
      rcases hl with rfl | rfl <;> rfl

/-- A number that is read as a natural one is its digits, and nothing behind them is taken. -/
theorem numeral?_of_readNumber {negative : Bool} {whole fraction scale more rest : List Char}
    {n : Nat} (hw : IsWhole whole) (hf : IsFraction fraction) (hs : IsScale scale)
    (hmore : IsDelimited more)
    (h : readNumber negative (whole ++ (fraction ++ (scale ++ more))) = .ok (.natural n, rest)) :
    negative = false ∧ rest = more ∧ fraction = [] ∧ scale = [] ∧
      Text.numeral? 10 whole = some n := by
  obtain ⟨ds, hds⟩ := hw.toIsDigits.exists_digits
  rw [readNumber_whole hw hds (not_isDecimal_of_parts hf hs hmore) negative] at h
  obtain ⟨hnegative, hrest, hvalue, hends⟩ := readTail_natural h
  have hnumeral := (numeral?_eq_some_iff hw.ne_nil hds n).2 hvalue.symm
  -- Behind the digits of a natural number stands no letter or point that would go on with it.
  cases hf with
  | digits => exact absurd rfl (hends '.' rfl).1
  | none =>
    cases hs with
    | none => exact ⟨hnegative, hrest, rfl, rfl, hnumeral⟩
    | digits hl =>
      obtain ⟨-, he, hE⟩ := hends _ rfl
      exact absurd hl (not_or.2 ⟨he, hE⟩)

/-! ## Written numbers -/

/-- Numbers are written without a zero in front. -/
theorem isWhole_toDigits (n : Nat) : IsWhole (Nat.toDigits 10 n) := by
  have hplain := Text.isPlain_toDigits n
  refine ⟨⟨hplain.numeral.ne_nil, ?_⟩, hplain.zero⟩
  intro c hc
  obtain ⟨d, hd⟩ := hplain.numeral.isDigit_of_mem hc
  rw [Text.isDecimal, (Text.digit?_eq_some_iff (by decide)).2 hd]
  rfl

end GuestNic.Json
