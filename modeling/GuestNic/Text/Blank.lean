/-!
# White space

The characters with the property White_Space, and trimming by them. Other characters that show
nothing, such as the zero-width space, are not white space.
-/

namespace GuestNic.Text

/-- Whether `c` is white space. -/
def isBlank (c : Char) : Bool :=
  let n := c.toNat
  (0x9 ≤ n && n ≤ 0xd) || n == 0x20 || n == 0x85 || n == 0xa0 || n == 0x1680 ||
    (0x2000 ≤ n && n ≤ 0x200a) || n == 0x2028 || n == 0x2029 || n == 0x202f || n == 0x205f ||
    n == 0x3000

/-- Leave out leading white space. -/
def trimStart (cs : List Char) : List Char := cs.dropWhile isBlank

/-- Leave out leading and trailing white space. -/
def trim (cs : List Char) : List Char := ((trimStart cs).reverse.dropWhile isBlank).reverse

/-- The text before the first `sep` and the text after it, if there is one. -/
def cut? (sep : Char) : List Char → Option (List Char × List Char)
  | [] => none
  | c :: cs =>
    if c = sep then some ([], cs) else (cut? sep cs).map fun p => (c :: p.1, p.2)

theorem cut?_eq_some_iff {sep : Char} {cs before after : List Char} :
    cut? sep cs = some (before, after) ↔ cs = before ++ sep :: after ∧ sep ∉ before := by
  induction cs generalizing before with
  | nil => simp [cut?]
  | cons c cs ih =>
    by_cases hc : c = sep
    · subst hc
      cases before with
      | nil => simp [cut?]
      | cons b bs => simp [cut?]; intro h _ h'; exact (h' h).elim
    · cases before with
      | nil => simp [cut?, hc]
      | cons b bs =>
        simp only [cut?, hc, if_false, Option.map_eq_some_iff, Prod.mk.injEq, List.cons.injEq,
          List.cons_append, List.mem_cons, not_or]
        constructor
        · rintro ⟨⟨x, y⟩, h, ⟨rfl, rfl⟩, rfl⟩
          exact ⟨⟨rfl, (ih.1 h).1⟩, fun e => hc e.symm, (ih.1 h).2⟩
        · rintro ⟨⟨rfl, h⟩, _, h'⟩
          exact ⟨(bs, after), ih.2 ⟨h, h'⟩, ⟨rfl, rfl⟩, rfl⟩

theorem cut?_eq_none_iff {sep : Char} {cs : List Char} : cut? sep cs = none ↔ sep ∉ cs := by
  induction cs with
  | nil => simp [cut?]
  | cons c cs ih =>
    by_cases hc : c = sep
    · simp [cut?, hc]
    · simp [cut?, hc, ih, Ne.symm hc]

end GuestNic.Text
