import GuestNic.Forwarding.Port
import GuestNic.Proofs.Text.Numeral
import Mathlib.Algebra.Group.Int.Defs

/-!
# Numerals in 64 bits

Numerals are computed digit by digit, and given up where 64 bits do not suffice. What is computed is
the number of the numeral, and none is given up whose number fits: the numbers on the way are no
larger than the last one.
-/

namespace GuestNic.Forwarding

open Text

variable {radix k : Nat} {n m x y : Int64} {cs : List Char}

/-! ## Single steps -/

/-- A result that is exact without an overflow, and out of range with one, is given just if it is
exact. -/
theorem unless_overflow_iff {overflows : Bool} {v : Int}
    (hout : overflows = true → 2 ^ 63 ≤ v ∨ v < -2 ^ 63)
    (hin : overflows = false → n.toInt = v) :
    (if overflows then none else some n) = some m ↔ m.toInt = v := by
  cases overflows with
  | true =>
    refine iff_of_false (by simp) ?_
    have hle := m.le_toInt
    have hlt := m.toInt_lt
    rcases hout rfl with h | h <;> omega
  | false =>
    rw [if_neg Bool.false_ne_true, Option.some.injEq, ← Int64.toInt_inj, hin rfl, eq_comm]

theorem times?_eq_some_iff : times? x y = some m ↔ m.toInt = x.toInt * y.toInt := by
  refine unless_overflow_iff ?_ ?_
  · intro h
    simpa [BitVec.smulOverflow] using h
  · intro h
    rw [← Int64.toInt_toBitVec, Int64.toBitVec_mul,
      BitVec.toInt_mul_of_not_smulOverflow (by simp [h])]
    rfl

theorem plus?_eq_some_iff : plus? x y = some m ↔ m.toInt = x.toInt + y.toInt := by
  refine unless_overflow_iff ?_ ?_
  · intro h
    simpa [BitVec.saddOverflow] using h
  · intro h
    rw [← Int64.toInt_toBitVec, Int64.toBitVec_add,
      BitVec.toInt_add_of_not_saddOverflow (by simp [h])]
    rfl

/-- One more digit gives the number with that digit, as long as it fits. -/
theorem pushDigit?_eq_some_iff {d : Nat} (hn : n.toInt = k) (hr : radix ≤ 16) (hd : d < 16) :
    pushDigit? radix n d = some m ↔ m.toInt = (k * radix + d : Nat) := by
  have hradix : (Int64.ofNat radix).toInt = radix := Int64.toInt_ofNat_of_lt (by omega)
  have hdigit : (Int64.ofNat d).toInt = d := Int64.toInt_ofNat_of_lt (by omega)
  simp only [pushDigit?, Option.bind_eq_some_iff, times?_eq_some_iff, plus?_eq_some_iff, hn, hradix,
    hdigit, Int.natCast_add, Int.natCast_mul]
  constructor
  · rintro ⟨p, hp, hm⟩
    rw [hm, hp]
  · intro hm
    -- The product is no larger than the number with the digit.
    have hlt := m.toInt_lt
    have hle : (0 : Int) ≤ k * radix :=
      Int.mul_nonneg (Int.natCast_nonneg k) (Int.natCast_nonneg radix)
    have hp : (Int64.ofInt ((k : Int) * radix)).toInt = (k : Int) * radix :=
      Int64.toInt_ofInt_of_le (by omega) (by omega)
    exact ⟨_, hp, hm.trans (by rw [hp])⟩

/-! ## Whole numerals -/

theorem foldlM_pushDigit?_eq_some_iff {ds : List Nat} (hn : n.toInt = k) (hpos : 0 < radix)
    (hr : radix ≤ 16) (hds : ∀ d ∈ ds, d < 16) :
    ds.foldlM (pushDigit? radix) n = some m ↔ m.toInt = ofDigits radix k ds := by
  induction ds generalizing n k with
  | nil =>
    rw [List.foldlM_nil, ofDigits, List.foldl_nil, ← hn, Int64.toInt_inj, eq_comm]
    exact Option.some_inj
  | cons d ds ih =>
    obtain ⟨hd, hds⟩ := List.forall_mem_cons.1 hds
    have hcons : ofDigits radix k (d :: ds) = ofDigits radix (k * radix + d) ds := rfl
    rw [List.foldlM_cons, Option.bind_eq_bind, Option.bind_eq_some_iff, hcons]
    constructor
    · rintro ⟨p, hp, hm⟩
      exact (ih ((pushDigit?_eq_some_iff hn hr hd).1 hp) hds).1 hm
    · intro hm
      -- What comes next only makes the number larger.
      have hlt := m.toInt_lt
      have hle := le_ofDigits hpos (k * radix + d) ds
      have hp : (Int64.ofNat (k * radix + d)).toInt = (k * radix + d : Nat) :=
        Int64.toInt_ofNat_of_lt (by omega)
      exact ⟨_, (pushDigit?_eq_some_iff hn hr hd).2 hp, (ih hp hds).2 hm⟩

/-- A numeral is read just as it would be without bounds, if its number fits. -/
theorem magnitude?_eq_some_iff (hpos : 0 < radix) (hr : radix ≤ 16) :
    magnitude? radix cs = some n ↔ ∃ k, numeral? radix cs = some k ∧ n.toInt = k := by
  unfold magnitude? numeral?
  split
  · simp
  · simp only [Option.bind_eq_some_iff, Option.map_eq_some_iff]
    have hfold : ∀ ds, cs.mapM (digit? radix) = some ds →
        (ds.foldlM (pushDigit? radix) 0 = some n ↔ n.toInt = ofDigits radix 0 ds) := by
      intro ds hds
      have hlt : ∀ d ∈ ds, d < 16 := fun d hd => Nat.lt_of_lt_of_le (lt_of_mapM_digit? hds d hd) hr
      exact foldlM_pushDigit?_eq_some_iff rfl hpos hr hlt
    constructor
    · rintro ⟨ds, hds, hn⟩
      exact ⟨_, ⟨ds, hds, rfl⟩, (hfold ds hds).1 hn⟩
    · rintro ⟨_, ⟨ds, hds, rfl⟩, hn⟩
      exact ⟨ds, hds, (hfold ds hds).2 hn⟩

end GuestNic.Forwarding
