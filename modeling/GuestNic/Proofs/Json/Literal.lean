import GuestNic.Json.Text

/-!
# String literals

What stands between the quotes of a JSON string, and which text it spells. A literal is read to its
closing quote, or not at all: what the reader answers is the text that is spelled, and a literal
that spells none is refused. Every text is spelled by its written form.
-/

namespace GuestNic.Json

/-! ## Reading exactly -/

/-- Of `v` and what follows it a reader takes exactly `v`, and answers with what `v` means or not at
all. -/
def Exactly {α : Type} (read : List Char → Except Fault (α × List Char)) (v more : List Char)
    (Means : α → Prop) : Prop :=
  ∀ x rest, read (v ++ more) = .ok (x, rest) ↔ rest = more ∧ Means x

namespace Exactly

variable {α β : Type} {read : List Char → Except Fault (α × List Char)} {v more : List Char}
  {Means : α → Prop}

/-- A reader whose answers are turned into others takes the same. -/
theorem map (h : Exactly read v more Means) (f : α → β) {Means' : β → Prop}
    (hmeans : ∀ y, Means' y ↔ ∃ x, Means x ∧ y = f x) :
    Exactly (fun cs => (read cs).map fun p => (f p.1, p.2)) v more Means' := by
  intro y rest
  rw [hmeans]
  constructor
  · intro hmap
    obtain ⟨⟨x, left⟩, hread, heq⟩ := exists_of_map_ok hmap
    cases heq
    obtain ⟨hrest, hx⟩ := (h x _).1 hread
    exact ⟨hrest, x, hx, rfl⟩
  · rintro ⟨rfl, x, hx, rfl⟩
    simp only [(h x _).2 ⟨rfl, hx⟩]
    rfl

/-- Where nothing is meant nothing is read. -/
theorem of_error (h : ∃ e, read (v ++ more) = .error e) (hno : ∀ x, ¬ Means x) :
    Exactly read v more Means := by
  intro x rest
  obtain ⟨e, he⟩ := h
  rw [he]
  exact iff_of_false nofun fun hmeans => hno x hmeans.2

end Exactly

theorem exists_of_bind_ok {ε α β : Type} {x : Except ε α} {f : α → Except ε β} {b : β}
    (h : x.bind f = .ok b) : ∃ a, x = .ok a ∧ f a = .ok b := by
  cases x with
  | error e => cases h
  | ok a => exact ⟨a, rfl, h⟩

/-! ## Literals -/

/-- The character that a character behind a backslash stands for. -/
def shortEscape? : Char → Option Char
  | '"' => some '"'
  | '\\' => some '\\'
  | '/' => some '/'
  | 'b' => some '\x08'
  | 'f' => some '\x0c'
  | 'n' => some '\n'
  | 'r' => some '\r'
  | 't' => some '\t'
  | _ => none

/-- The character stands for itself between quotes. -/
structure IsPlain (c : Char) : Prop where
  noQuote : c ≠ '"'
  noBackslash : c ≠ '\\'
  noControl : 0x20 ≤ c.toNat

/-- Four hexadecimal digits and the code unit that they name. -/
structure IsUnit (quad : List Char) (n : Nat) : Prop where
  length : quad.length = 4
  value : Text.numeral? 16 quad = some n

/-- What may stand between the quotes of a string. -/
inductive IsBody : List Char → Prop where
  | nil : IsBody []
  | plain {c : Char} {body : List Char} (hc : IsPlain c) (h : IsBody body) : IsBody (c :: body)
  | short {e c : Char} {body : List Char} (he : shortEscape? e = some c) (h : IsBody body) :
      IsBody ('\\' :: e :: body)
  | unit {quad : List Char} {n : Nat} {body : List Char} (hq : IsUnit quad n) (h : IsBody body) :
      IsBody ('\\' :: 'u' :: (quad ++ body))

/-- The character of a pair of surrogates. -/
def joined (leading trailing : Nat) : Char :=
  Char.ofNat ((leading - 0xd800) * 0x400 + (trailing - 0xdc00) + 0x10000)

/-- What stands between the quotes spells the text. Surrogates spell a character in pairs only. -/
inductive Spells : List Char → List Char → Prop where
  | nil : Spells [] []
  | plain {c : Char} {body text : List Char} (hc : IsPlain c) (h : Spells body text) :
      Spells (c :: body) (c :: text)
  | short {e c : Char} {body text : List Char} (he : shortEscape? e = some c)
      (h : Spells body text) : Spells ('\\' :: e :: body) (c :: text)
  | unit {quad : List Char} {n : Nat} {body text : List Char} (hq : IsUnit quad n)
      (hl : isLeading n = false) (ht : isTrailing n = false) (h : Spells body text) :
      Spells ('\\' :: 'u' :: (quad ++ body)) (Char.ofNat n :: text)
  | pair {quad quad' : List Char} {n n' : Nat} {body text : List Char} (hq : IsUnit quad n)
      (hl : isLeading n = true) (hq' : IsUnit quad' n') (ht : isTrailing n' = true)
      (h : Spells body text) :
      Spells ('\\' :: 'u' :: (quad ++ '\\' :: 'u' :: (quad' ++ body))) (joined n n' :: text)

/-! ## Escapes -/

theorem readEscape_of_short {e c : Char} (h : shortEscape? e = some c) (cs : List Char) :
    readEscape (e :: cs) = .ok (c, cs) := by
  unfold shortEscape? at h
  split at h
  case h_9 => cases h
  all_goals
    cases h
    rfl

theorem length_le_utf8Size (cs : List Char) : cs.length ≤ utf8Size cs := by
  have hfold : ∀ n, n + cs.length ≤ cs.foldl (fun n c => n + c.utf8Size) n := by
    induction cs with
    | nil => exact fun n => Nat.le_refl n
    | cons c cs ih =>
      intro n
      have hpos := c.utf8Size_pos
      have hrest := ih (n + c.utf8Size)
      rw [List.foldl_cons, List.length_cons]
      omega
  have hzero := hfold 0
  rwa [Nat.zero_add] at hzero

theorem length_of_mapM {α β : Type} {f : α → Option β} {as : List α} {bs : List β}
    (h : as.mapM f = some bs) : bs.length = as.length := by
  induction as generalizing bs with
  | nil =>
    cases h
    rfl
  | cons a as ih =>
    rw [List.mapM_cons] at h
    obtain ⟨b, -, hrest⟩ := Option.bind_eq_some_iff.1 h
    obtain ⟨bs, hbs, heq⟩ := Option.bind_eq_some_iff.1 hrest
    cases heq
    rw [List.length_cons, List.length_cons, ih hbs]

theorem readHex4_of_isUnit {quad : List Char} {n : Nat} (h : IsUnit quad n) (more : List Char) :
    readHex4 (quad ++ more) = .ok (n, more) := by
  obtain ⟨hlength, hvalue⟩ := h
  have hsize : ¬ utf8Size (quad ++ more) < 4 := by
    have hle := length_le_utf8Size (quad ++ more)
    rw [List.length_append] at hle
    omega
  have hne : quad.isEmpty = false := by
    cases quad with
    | nil => cases hlength
    | cons => rfl
  rw [Text.numeral?, hne] at hvalue
  obtain ⟨ds, hds, rfl⟩ := Option.map_eq_some_iff.1 hvalue
  have hdigits := length_of_mapM hds
  match ds, hdigits.trans hlength with
  | [a, b, c, d], _ =>
    simp only [readHex4, if_neg hsize, List.take_left' hlength, List.drop_left' hlength, hds]

/-- A numeric escape is read as its character, unless the code unit is half of a pair. -/
theorem readEscape_unit {quad : List Char} {n : Nat} (h : IsUnit quad n) (more : List Char) :
    readEscape ('u' :: (quad ++ more)) =
      if isTrailing n then .error .loneSurrogate
      else if isLeading n then readTrailing n more
      else .ok (Char.ofNat n, more) := by
  have hread : readEscape ('u' :: (quad ++ more)) = readUnicode (quad ++ more) := rfl
  rw [hread, readUnicode, readHex4_of_isUnit h]

theorem readTrailing_unit {quad : List Char} {n n' : Nat} (h : IsUnit quad n')
    (more : List Char) :
    readTrailing n ('\\' :: 'u' :: (quad ++ more)) =
      if isTrailing n' then .ok (joined n n', more) else .error .loneSurrogate := by
  rw [readTrailing, readHex4_of_isUnit h]
  rfl

/-! ## Reading a literal -/

theorem readText_quote (more : List Char) : readText ('"' :: more) = .ok ([], more) := by
  rw [readText]
  rfl

theorem readText_plain {c : Char} (h : IsPlain c) (more : List Char) :
    readText (c :: more) = (readText more).map fun p => (c :: p.1, p.2) := by
  rw [readText, if_neg h.noQuote, if_neg h.noBackslash, if_neg (Nat.not_lt_of_le h.noControl)]

/-- What follows a backslash is an escape and then the rest of the literal. -/
theorem readText_escape (more : List Char) :
    readText ('\\' :: more) =
      (readEscape more).bind fun p => (readText p.2).map fun q => (p.1 :: q.1, q.2) := by
  rw [readText, if_neg (by decide), if_pos rfl]
  split
  · rename_i e he
    rw [he]
    rfl
  · rename_i d rest hd
    dsimp only
    rw [hd]
    rfl

theorem readText_of_spells {body text : List Char} (h : Spells body text) (more : List Char) :
    readText (body ++ '"' :: more) = .ok (text, more) := by
  induction h with
  | nil => exact readText_quote more
  | plain hc h ih =>
    rw [List.cons_append, readText_plain hc, ih]
    rfl
  | @short e c body text he h ih =>
    rw [List.cons_append, List.cons_append, readText_escape, readEscape_of_short he, Except.bind,
      ih]
    rfl
  | @unit quad n body text hq hl ht h ih =>
    have hread := readEscape_unit hq (body ++ '"' :: more)
    rw [ht, hl] at hread
    rw [List.cons_append, List.cons_append, List.append_assoc, readText_escape, hread]
    simp only [Bool.false_eq_true, if_false, Except.bind, ih]
    rfl
  | @pair quad quad' n n' body text hq hl hq' ht h ih =>
    -- The first unit opens a pair, so it is not one that is refused for closing it.
    have hlone : isTrailing n = false := by
      simp only [isLeading, isTrailing, Bool.and_eq_true, decide_eq_true_eq, Bool.and_eq_false_imp,
        decide_eq_false_iff_not] at hl ⊢
      omega
    have hread := readEscape_unit hq ('\\' :: 'u' :: (quad' ++ (body ++ '"' :: more)))
    rw [hlone, hl, readTrailing_unit hq', ht] at hread
    simp only [List.cons_append, List.append_assoc, readText_escape, hread]
    simp only [Bool.false_eq_true, if_false, if_true, Except.bind, ih]
    rfl

/-- Only a second escape can close a pair of surrogates. -/
theorem exists_unit_of_readTrailing {body more rest : List Char} {n : Nat} {c : Char}
    (h : IsBody body) (hread : readTrailing n (body ++ '"' :: more) = .ok (c, rest)) :
    ∃ quad n' tail, body = '\\' :: 'u' :: (quad ++ tail) ∧ IsUnit quad n' ∧ IsBody tail := by
  cases h with
  | nil => cases hread
  | @plain d body hc h =>
    unfold readTrailing at hread
    split at hread
    · rename_i heq
      exact absurd (List.cons.inj heq).1 hc.noBackslash
    all_goals cases hread
  | @short e d body he h =>
    unfold readTrailing at hread
    split at hread
    · rename_i heq
      cases heq
      cases he
    all_goals cases hread
  | unit hq h => exact ⟨_, _, _, rfl, hq, h⟩

/-- A numeric escape that is read stands for its own character, or together with the escape behind it
for that of a pair. -/
theorem readEscape_unit_cases {quad body more left : List Char} {n : Nat} {c : Char}
    (hq : IsUnit quad n) (h : IsBody body)
    (hread : readEscape ('u' :: (quad ++ (body ++ '"' :: more))) = .ok (c, left)) :
    (isLeading n = false ∧ isTrailing n = false ∧ c = Char.ofNat n ∧
      left = body ++ '"' :: more) ∨
    ∃ quad' n' tail, body = '\\' :: 'u' :: (quad' ++ tail) ∧ IsBody tail ∧ isLeading n = true ∧
      IsUnit quad' n' ∧ isTrailing n' = true ∧ c = joined n n' ∧ left = tail ++ '"' :: more := by
  rw [readEscape_unit hq] at hread
  cases ht : isTrailing n with
  | true =>
    rw [ht] at hread
    cases hread
  | false =>
    rw [ht] at hread
    cases hl : isLeading n with
    | false =>
      rw [hl] at hread
      cases hread
      exact .inl ⟨rfl, rfl, rfl, rfl⟩
    | true =>
      rw [hl] at hread
      obtain ⟨quad', n', tail, rfl, hq', htail⟩ := exists_unit_of_readTrailing h hread
      have hpair : readTrailing n ('\\' :: 'u' :: (quad' ++ (tail ++ '"' :: more))) =
          .ok (c, left) := by
        rwa [List.cons_append, List.cons_append, List.append_assoc] at hread
      rw [readTrailing_unit hq'] at hpair
      split at hpair
      · rename_i ht'
        obtain ⟨hc, hleft⟩ := Prod.mk.inj (Except.ok.inj hpair)
        exact .inr ⟨quad', n', tail, rfl, htail, rfl, hq', ht', hc.symm, hleft.symm⟩
      · cases hpair

/-- What is read of a literal ends with it, and is what it spells. -/
theorem spells_of_readText {body more text rest : List Char} (h : IsBody body)
    (hread : readText (body ++ '"' :: more) = .ok (text, rest)) :
    rest = more ∧ Spells body text := by
  -- A pair of surrogates takes two parts of the body at once, so the induction is on its length.
  induction hn : body.length using Nat.strongRecOn generalizing body text with
  | ind n ih =>
    cases h with
    | nil =>
      rw [List.nil_append, readText_quote] at hread
      cases hread
      exact ⟨rfl, .nil⟩
    | @plain c body hc h =>
      rw [List.cons_append, readText_plain hc] at hread
      obtain ⟨⟨tail, left⟩, htail, heq⟩ := exists_of_map_ok hread
      cases heq
      obtain ⟨rfl, hspells⟩ := ih body.length (by simp at hn; omega) h htail rfl
      exact ⟨rfl, .plain hc hspells⟩
    | @short e c body he h =>
      rw [List.cons_append, List.cons_append, readText_escape, readEscape_of_short he] at hread
      obtain ⟨⟨tail, left⟩, htail, heq⟩ := exists_of_map_ok hread
      cases heq
      obtain ⟨rfl, hspells⟩ := ih body.length (by simp at hn; omega) h htail rfl
      exact ⟨rfl, .short he hspells⟩
    | @unit quad u body hq h =>
      rw [List.cons_append, List.cons_append, List.append_assoc, readText_escape] at hread
      obtain ⟨⟨c, left⟩, hescape, hread⟩ := exists_of_bind_ok hread
      obtain ⟨⟨tail, left'⟩, htail, heq⟩ := exists_of_map_ok hread
      cases heq
      rcases readEscape_unit_cases hq h hescape with
        ⟨hl, ht, hc, rfl⟩ | ⟨quad', u', body, rfl, h', hl, hq', ht, hc, rfl⟩
      · obtain ⟨rfl, hspells⟩ := ih body.length (by simp at hn; omega) h htail rfl
        rw [hc]
        exact ⟨rfl, .unit hq hl ht hspells⟩
      · obtain ⟨hrest, hspells⟩ := ih body.length (by simp at hn; omega) h' htail rfl
        have hpair : Spells _ (joined u u' :: tail) := .pair hq hl hq' ht hspells
        rw [← hc] at hpair
        exact ⟨hrest, hpair⟩

/-- A literal is read to its closing quote as the text that it spells. -/
theorem readText_exactly {body : List Char} (h : IsBody body) (more : List Char) :
    Exactly readText (body ++ ['"']) more (Spells body) := by
  intro text rest
  rw [List.append_assoc, List.singleton_append]
  constructor
  · exact spells_of_readText h
  · rintro ⟨rfl, hspells⟩
    exact readText_of_spells hspells _

theorem Spells.isBody {body text : List Char} (h : Spells body text) : IsBody body := by
  induction h with
  | nil => exact .nil
  | plain hc _ ih => exact .plain hc ih
  | short he _ ih => exact .short he ih
  | unit hq _ _ _ ih => exact .unit hq ih
  | pair hq _ hq' _ _ ih => exact .unit hq (.unit hq' ih)

/-- What stands between the quotes spells at most one text. -/
theorem Spells.unique {body text text' : List Char} (h : Spells body text)
    (h' : Spells body text') : text = text' := by
  have hread := readText_of_spells h []
  rw [readText_of_spells h' []] at hread
  cases hread
  rfl

/-! ## Written literals -/

theorem isUnit_control : ∀ n < 0x20,
    IsUnit ['0', '0', Nat.digitChar (n / 16), Nat.digitChar (n % 16)] n := by
  have hvalue : ∀ n < 0x20,
      Text.numeral? 16 ['0', '0', Nat.digitChar (n / 16), Nat.digitChar (n % 16)] = some n := by
    decide
  exact fun n hn => ⟨rfl, hvalue n hn⟩

/-- A character is written as a short escape, as a numeric one, or as itself. -/
theorem writeChar_cases (c : Char) :
    (∃ e, shortEscape? e = some c ∧ writeChar c = ['\\', e]) ∨
      (c.toNat < 0x20 ∧ writeChar c = numericEscape c.toNat) ∨ (IsPlain c ∧ writeChar c = [c]) := by
  by_cases hshort : c ∈ ['"', '\\', '\x08', '\x0c', '\n', '\r', '\t']
  · simp only [List.mem_cons, List.not_mem_nil, or_false] at hshort
    rcases hshort with rfl | rfl | rfl | rfl | rfl | rfl | rfl
    all_goals exact .inl ⟨_, rfl, rfl⟩
  · simp only [List.mem_cons, List.not_mem_nil, or_false, not_or] at hshort
    obtain ⟨hquote, hbackslash, hb, hf, hn, hr, ht⟩ := hshort
    have hwrite : writeChar c = if c.toNat < 0x20 then numericEscape c.toNat else [c] := by
      simp only [writeChar, if_neg hquote, if_neg hbackslash, if_neg hb, if_neg hf, if_neg hn,
        if_neg hr, if_neg ht]
    by_cases hcontrol : c.toNat < 0x20
    · exact .inr (.inl ⟨hcontrol, hwrite.trans (if_pos hcontrol)⟩)
    · exact .inr (.inr ⟨⟨hquote, hbackslash, Nat.le_of_not_lt hcontrol⟩,
        hwrite.trans (if_neg hcontrol)⟩)

/-- The written form of a character spells it. -/
theorem spells_writeChar (c : Char) {body text : List Char} (h : Spells body text) :
    Spells (writeChar c ++ body) (c :: text) := by
  rcases writeChar_cases c with ⟨e, he, hwrite⟩ | ⟨hcontrol, hwrite⟩ | ⟨hplain, hwrite⟩
  · rw [hwrite]
    exact .short he h
  · have hleading : isLeading c.toNat = false := by
      simp only [isLeading, Bool.and_eq_false_imp, decide_eq_true_eq]
      omega
    have htrailing : isTrailing c.toNat = false := by
      simp only [isTrailing, Bool.and_eq_false_imp, decide_eq_true_eq]
      omega
    have hspells := Spells.unit (isUnit_control c.toNat hcontrol) hleading htrailing h
    rw [Char.ofNat_toNat] at hspells
    rw [hwrite]
    exact hspells
  · rw [hwrite]
    exact .plain hplain h

/-- The written form of a text spells it. -/
theorem spells_write (text : List Char) : Spells (text.flatMap writeChar) text := by
  induction text with
  | nil => exact .nil
  | cons c text ih => exact spells_writeChar c ih

end GuestNic.Json
