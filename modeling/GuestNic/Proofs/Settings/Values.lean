import GuestNic.Proofs.Json.Number
import GuestNic.Settings.Reader
import Mathlib.Data.List.Forall2

/-!
# Values of preferences

What a JSON value means as a preference of each kind. Whatever JSON value stands in the place of a
preference, its reader takes exactly that value and answers with what it means, or refuses it.
-/

namespace GuestNic.Json.Exactly

variable {α β : Type} {read : List Char → Except Fault (α × List Char)} {v more : List Char}
  {Means : α → Prop}

/-- What is done next with what a reader leaves is done with what follows the value. -/
theorem bind_iff (h : Exactly read v more Means) (next : α × List Char → Except Fault β) (b : β) :
    (read (v ++ more)).bind next = .ok b ↔ ∃ x, Means x ∧ next (x, more) = .ok b := by
  constructor
  · intro hbind
    obtain ⟨⟨x, rest⟩, hread, hnext⟩ := exists_of_bind_ok hbind
    obtain ⟨rfl, hmeans⟩ := (h x rest).1 hread
    exact ⟨x, hmeans, hnext⟩
  · rintro ⟨x, hmeans, hnext⟩
    rw [(h x more).2 ⟨rfl, hmeans⟩]
    exact hnext

end GuestNic.Json.Exactly

namespace GuestNic.Settings

open GuestNic.Json

/-! ## What values mean -/

/-- The string literal means the text that it spells. -/
inductive MeansText : List Char → String → Prop where
  | text {body text : List Char} (h : Spells body text) :
      MeansText ('"' :: (body ++ ['"'])) (String.ofList text)

inductive MeansOptional : List Char → Option String → Prop where
  | null : MeansOptional ['n', 'u', 'l', 'l'] none
  | text {v : List Char} {s : String} (h : MeansText v s) : MeansOptional v (some s)

inductive MeansFlag : List Char → Bool → Prop where
  | on : MeansFlag ['t', 'r', 'u', 'e'] true
  | off : MeansFlag ['f', 'a', 'l', 's', 'e'] false

/-- A whole number from 0 to 65535 means the port. -/
structure MeansPort (v : List Char) (port : UInt16) : Prop where
  whole : IsWhole v
  value : Text.numeral? 10 v = some port.toNat

inductive MeansList : List Char → List String → Prop where
  | list {items : List Padded} {gap : List Char} {texts : List String} (hgap : IsGap gap)
      (hgaps : ∀ i ∈ items, i.HasGaps)
      (h : List.Forall₂ (fun i s => MeansText i.value s) items texts) :
      MeansList ('[' :: ([','].intercalate (items.map Padded.text) ++ (gap ++ [']']))) texts

variable {v more : List Char}

/-! ## What means something is a value -/

theorem MeansText.isValue {s : String} (h : MeansText v s) : IsValue v := by
  cases h with
  | text h => exact .text h.isBody

theorem MeansOptional.isValue {link : Option String} (h : MeansOptional v link) : IsValue v := by
  cases h with
  | null => exact .null
  | text h => exact h.isValue

theorem MeansFlag.isValue {b : Bool} (h : MeansFlag v b) : IsValue v := by
  cases h with
  | on => exact .trueWord
  | off => exact .falseWord

theorem MeansPort.isValue {port : UInt16} (h : MeansPort v port) : IsValue v := by
  have hnumber := IsNumber.natural h.whole .none .none
  rw [List.append_nil, List.append_nil] at hnumber
  exact .number hnumber

theorem isValue_of_meansText {items : List Padded} {texts : List String}
    (h : List.Forall₂ (fun i s => MeansText i.value s) items texts) :
    ∀ i ∈ items, IsValue i.value := by
  induction h with
  | nil => exact nofun
  | cons hs _ ih => exact List.forall_mem_cons.2 ⟨hs.isValue, ih⟩

theorem MeansList.isValue {texts : List String} (h : MeansList v texts) : IsValue v := by
  cases h with
  | list hgap hgaps h => exact .list hgap hgaps (isValue_of_meansText h)

/-! ## Strings -/

theorem readString_of_ne {c : Char} (hspace : isSpace c = false) (hc : c ≠ '"')
    (cs : List Char) : readString (c :: cs) = .error (mismatch expectedText (c :: cs)) := by
  simp only [readString, skipSpace_cons hspace]
  split
  · rename_i heq
    cases heq
  · rename_i heq
    exact absurd (List.cons.inj heq).1 hc
  · rfl

theorem meansText_iff {body : List Char} {s : String} :
    MeansText ('"' :: (body ++ ['"'])) s ↔ ∃ text, Spells body text ∧ s = String.ofList text := by
  constructor
  · generalize hv : '"' :: (body ++ ['"']) = v
    rintro ⟨h⟩
    obtain rfl := List.append_cancel_right (List.cons.inj hv).2
    exact ⟨_, h, rfl⟩
  · rintro ⟨text, h, rfl⟩
    exact .text h

theorem readString_exactly (h : IsValue v) (more : List Char) :
    Exactly readString v more (MeansText v) := by
  obtain ⟨c, tail, rfl, hspace, -⟩ := h.head
  by_cases hc : c = '"'
  · subst hc
    obtain ⟨body, hbody, rfl⟩ := h.of_quote
    exact (readText_exactly hbody more).map String.ofList fun _ => meansText_iff
  · refine .of_error ⟨_, readString_of_ne hspace hc _⟩ fun s hs => ?_
    cases hs
    exact hc rfl

theorem readOptional_of_ne {c : Char} (hspace : isSpace c = false) (hc : c ≠ 'n')
    (cs : List Char) :
    readOptional (c :: cs) = (readString (c :: cs)).map fun p => (some p.1, p.2) := by
  simp only [readOptional, skipSpace_cons hspace]
  split
  · rename_i heq
    exact absurd (List.cons.inj heq).1 hc
  · rfl

theorem readOptional_exactly (h : IsValue v) (more : List Char) :
    Exactly readOptional v more (MeansOptional v) := by
  obtain ⟨c, tail, rfl, hspace, -⟩ := h.head
  by_cases hc : c = 'n'
  · subst hc
    obtain rfl := h.of_n
    intro x rest
    have hread : readOptional (['n', 'u', 'l', 'l'] ++ more) = .ok (none, more) := rfl
    rw [hread]
    constructor
    · intro heq
      cases heq
      exact ⟨rfl, .null⟩
    · rintro ⟨rfl, hmeans⟩
      cases hmeans with
      | null => rfl
      | text h => cases h
  · intro x rest
    rw [List.cons_append, readOptional_of_ne hspace hc]
    refine (readString_exactly h more).map some (fun x => ⟨?_, ?_⟩) x rest
    · intro hmeans
      cases hmeans with
      | null => exact absurd rfl hc
      | text hs => exact ⟨_, hs, rfl⟩
    · rintro ⟨s, hs, rfl⟩
      exact .text hs

/-! ## Flags -/

theorem readFlag_of_ne {c : Char} (hspace : isSpace c = false) (ht : c ≠ 't') (hf : c ≠ 'f')
    (cs : List Char) : readFlag (c :: cs) = .error (mismatch expectedFlag (c :: cs)) := by
  simp only [readFlag, skipSpace_cons hspace]
  split
  · rename_i heq
    cases heq
  · rename_i heq
    exact absurd (List.cons.inj heq).1 ht
  · rename_i heq
    exact absurd (List.cons.inj heq).1 hf
  · rfl

theorem readFlag_exactly (h : IsValue v) (more : List Char) :
    Exactly readFlag v more (MeansFlag v) := by
  obtain ⟨c, tail, rfl, hspace, -⟩ := h.head
  by_cases ht : c = 't'
  · subst ht
    obtain rfl := h.of_t
    intro x rest
    have hread : readFlag (['t', 'r', 'u', 'e'] ++ more) = .ok (true, more) := rfl
    rw [hread]
    constructor
    · intro heq
      cases heq
      exact ⟨rfl, .on⟩
    · rintro ⟨rfl, hmeans⟩
      cases hmeans
      rfl
  · by_cases hf : c = 'f'
    · subst hf
      obtain rfl := h.of_f
      intro x rest
      have hread : readFlag (['f', 'a', 'l', 's', 'e'] ++ more) = .ok (false, more) := rfl
      rw [hread]
      constructor
      · intro heq
        cases heq
        exact ⟨rfl, .off⟩
      · rintro ⟨rfl, hmeans⟩
        cases hmeans
        rfl
    · refine .of_error ⟨_, readFlag_of_ne hspace ht hf _⟩ fun b hb => ?_
      cases hb with
      | on => exact ht rfl
      | off => exact hf rfl

/-! ## Ports -/

theorem readPort_of_ne {c : Char} (hspace : isSpace c = false) (hm : c ≠ '-')
    (hd : Text.isDecimal c = false) (cs : List Char) :
    readPort (c :: cs) = .error (mismatch expectedPort (c :: cs)) := by
  unfold readPort
  rw [skipSpace_cons hspace]
  split
  · rename_i heq
    cases heq
  · rename_i heq
    exact absurd (List.cons.inj heq).1 hm
  · rename_i heq
    obtain ⟨rfl, rfl⟩ := List.cons.inj heq
    rw [hd]
    rfl

theorem readPort_of_isDecimal {c : Char} (hd : Text.isDecimal c = true) (cs : List Char) :
    readPort (c :: cs) =
      (readNumber false (c :: cs)).bind fun p => (portOf p.1).map fun port => (port, p.2) := by
  unfold readPort
  rw [skipSpace_cons (not_isSpace_of_isDecimal hd)]
  split
  · rename_i heq
    cases heq
  · rename_i heq
    exact absurd (List.cons.inj heq).1 (ne_of_isDecimal hd rfl)
  · rename_i heq
    obtain ⟨rfl, rfl⟩ := List.cons.inj heq
    rw [hd]
    rfl

/-- Ports are natural numbers of 16 bits. -/
theorem portOf_eq_ok_iff {x : Number} {port : UInt16} :
    portOf x = .ok port ↔ x = .natural port.toNat := by
  constructor
  · intro h
    cases x with
    | natural n =>
      rw [portOf] at h
      split at h
      · rename_i hn
        cases h
        rw [Nat.toUInt16_eq, UInt16.toNat_ofNat_of_lt' hn]
      · cases h
    | negative | float => cases h
  · rintro rfl
    rw [portOf, if_pos port.toNat_lt, Nat.toUInt16_eq, UInt16.ofNat_toNat]

theorem readPort_of_meansPort {port : UInt16} (h : MeansPort v port) (hmore : IsDelimited more) :
    readPort (v ++ more) = .ok (port, more) := by
  have hle : port.toNat ≤ maxWord := by
    have hlt := port.toNat_lt
    have hword : maxWord = 2 ^ 64 - 1 := rfl
    omega
  have hread := readNumber_of_numeral? h.whole h.value hle hmore
  obtain ⟨c, tail, rfl⟩ := List.exists_cons_of_ne_nil h.whole.ne_nil
  have hd := h.whole.digits c List.mem_cons_self
  rw [List.cons_append] at hread ⊢
  rw [readPort_of_isDecimal hd, hread]
  simp only [Except.bind, portOf_eq_ok_iff.2 rfl]
  rfl

/-- A number is a port only without sign, fraction and exponent. -/
theorem meansPort_of_readPort (h : IsNumber v) (hmore : IsDelimited more) {port : UInt16}
    {rest : List Char} (hread : readPort (v ++ more) = .ok (port, rest)) :
    rest = more ∧ MeansPort v port := by
  cases h with
  | @natural whole fraction scale hw hf hs =>
    obtain ⟨c, tail, hwhole⟩ := List.exists_cons_of_ne_nil hw.ne_nil
    have hd := hw.digits c (by rw [hwhole]; exact List.mem_cons_self)
    have hbind : (readNumber false (whole ++ (fraction ++ (scale ++ more)))).bind
        (fun p => (portOf p.1).map fun port => (port, p.2)) = .ok (port, rest) := by
      rw [List.append_assoc, List.append_assoc] at hread
      rw [hwhole] at hread ⊢
      rwa [List.cons_append, readPort_of_isDecimal hd] at hread
    obtain ⟨⟨x, left⟩, hnumber, hport⟩ := exists_of_bind_ok hbind
    obtain ⟨port', hportOf, heq⟩ := exists_of_map_ok hport
    cases heq
    obtain rfl := portOf_eq_ok_iff.1 hportOf
    obtain ⟨-, hrest, rfl, rfl, hvalue⟩ := numeral?_of_readNumber hw hf hs hmore hnumber
    rw [List.append_nil, List.append_nil]
    exact ⟨hrest, hw, hvalue⟩
  | @negative whole fraction scale hw hf hs =>
    have hbind : (readNumber true (whole ++ (fraction ++ (scale ++ more)))).bind
        (fun p => (portOf p.1).map fun port => (port, p.2)) = .ok (port, rest) := by
      rwa [List.cons_append, List.append_assoc, List.append_assoc] at hread
    obtain ⟨⟨x, left⟩, hnumber, hport⟩ := exists_of_bind_ok hbind
    obtain ⟨port', hportOf, heq⟩ := exists_of_map_ok hport
    obtain rfl := portOf_eq_ok_iff.1 hportOf
    obtain ⟨hnegative, -⟩ := numeral?_of_readNumber hw hf hs hmore hnumber
    cases hnegative

theorem readPort_exactly (h : IsValue v) (hmore : IsDelimited more) :
    Exactly readPort v more (MeansPort v) := by
  intro port rest
  constructor
  · intro hread
    obtain ⟨c, tail, rfl, hspace, -⟩ := h.head
    by_cases hc : c = '-' ∨ Text.isDecimal c = true
    · exact meansPort_of_readPort (h.of_number hc) hmore hread
    · -- What begins with neither a sign nor a digit is no number, and is refused unread.
      rw [not_or, Bool.not_eq_true] at hc
      rw [List.cons_append, readPort_of_ne hspace hc.1 hc.2] at hread
      cases hread
  · rintro ⟨rfl, hmeans⟩
    exact readPort_of_meansPort hmeans hmore

/-! ## Lists -/

theorem readList_of_ne {c : Char} (hspace : isSpace c = false) (hc : c ≠ '[')
    (cs : List Char) : readList (c :: cs) = .error (mismatch expectedSequence (c :: cs)) := by
  simp only [readList, skipSpace_cons hspace]
  split
  · rename_i heq
    cases heq
  · rename_i heq
    exact absurd (List.cons.inj heq).1 hc
  · rfl

/-- Read the strings of a list and its closing bracket. -/
def readItems (isFirst : Bool) (cs : List Char) : Except Fault (List String × List Char) :=
  (readStrings isFirst cs).bind fun p => (closeList p.2).map fun rest => (p.1, rest)

theorem readStrings_of_none {isFirst : Bool} {cs : List Char}
    (h : nextElement isFirst cs = .ok none) : readStrings isFirst cs = .ok ([], cs) := by
  rw [readStrings]
  split
  · rename_i heq
    rw [h] at heq
    cases heq
  · rfl
  · rename_i heq
    rw [h] at heq
    cases heq

theorem readStrings_of_some {isFirst : Bool} {cs next : List Char}
    (h : nextElement isFirst cs = .ok (some next)) :
    readStrings isFirst cs =
      (readString next).bind fun p =>
        (readStrings false p.2).map fun q => (p.1 :: q.1, q.2) := by
  rw [readStrings]
  split
  · rename_i heq
    rw [h] at heq
    cases heq
  · rename_i heq
    rw [h] at heq
    cases heq
  · rename_i heq
    rw [h] at heq
    cases heq
    split
    · rename_i e he
      rw [he]
      rfl
    · rename_i s rest hs
      dsimp only
      rw [hs]
      rfl

theorem readItems_of_some {isFirst : Bool} {cs next : List Char}
    (h : nextElement isFirst cs = .ok (some next)) :
    readItems isFirst cs =
      (readString next).bind fun p =>
        (readItems false p.2).map fun q => (p.1 :: q.1, q.2) := by
  rw [readItems, readStrings_of_some h]
  rcases readString next with e | ⟨s, rest⟩
  · rfl
  · simp only [Except.bind, readItems]
    rcases readStrings false rest with e | ⟨ss, rest⟩
    · rfl
    · simp only [Except.map]
      cases closeList rest <;> rfl

theorem nextElement_close {gap : List Char} (hgap : IsGap gap) (isFirst : Bool)
    (more : List Char) : nextElement isFirst (gap ++ ']' :: more) = .ok none := by
  simp only [nextElement, skipSpace_gap hgap]
  rfl

theorem closeList_gap {gap : List Char} (hgap : IsGap gap) (more : List Char) :
    closeList (gap ++ ']' :: more) = .ok more := by
  simp only [closeList, skipSpace_gap hgap]
  rfl

/-- The first element of a list is where its value begins. -/
theorem nextElement_first {gap : List Char} (hgap : IsGap gap) (h : IsValue v)
    (more : List Char) : nextElement true (gap ++ (v ++ more)) = .ok (some (v ++ more)) := by
  obtain ⟨c, tail, rfl, hspace, hclose⟩ := h.head
  unfold nextElement
  rw [skipSpace_gap hgap, List.cons_append, skipSpace_cons hspace]
  split
  · rename_i heq
    cases heq
  · rename_i heq
    exact absurd (List.cons.inj heq).1 hclose
  · rename_i heq
    cases heq
    rfl

/-- Every other element stands behind a comma. -/
theorem nextElement_comma {gap gap' : List Char} (hgap : IsGap gap) (hgap' : IsGap gap')
    (h : IsValue v) (more : List Char) :
    nextElement false (gap ++ ',' :: (gap' ++ (v ++ more))) = .ok (some (v ++ more)) := by
  obtain ⟨c, tail, rfl, hspace, hclose⟩ := h.head
  unfold nextElement
  rw [skipSpace_gap hgap, skipSpace_cons rfl]
  split
  · rename_i heq
    cases heq
  · rename_i heq
    cases heq
  · rename_i heq
    obtain ⟨rfl, rfl⟩ := List.cons.inj heq
    rw [if_neg Bool.false_ne_true, if_pos rfl, skipSpace_gap hgap', List.cons_append,
      skipSpace_cons hspace]
    split
    · rename_i heq
      cases heq
    · rename_i heq
      exact absurd (List.cons.inj heq).1 hclose
    · rfl

/-- An element is read as what it means, and the rest of the list after it. -/
theorem readItems_cons {isFirst : Bool} {cs tail : List Char} {i : Padded} {items : List Padded}
    (hnext : nextElement isFirst cs = .ok (some (i.value ++ tail))) (hi : IsValue i.value)
    (htail : ∀ texts rest, readItems false tail = .ok (texts, rest) ↔
      rest = more ∧ List.Forall₂ (fun i s => MeansText i.value s) items texts)
    (texts : List String) (rest : List Char) :
    readItems isFirst cs = .ok (texts, rest) ↔
      rest = more ∧ List.Forall₂ (fun i s => MeansText i.value s) (i :: items) texts := by
  rw [readItems_of_some hnext, (readString_exactly hi tail).bind_iff]
  constructor
  · rintro ⟨s, hs, hrest⟩
    obtain ⟨⟨texts, left⟩, hread, heq⟩ := exists_of_map_ok hrest
    cases heq
    obtain ⟨rfl, htexts⟩ := (htail texts left).1 hread
    exact ⟨rfl, .cons hs htexts⟩
  · rintro ⟨rfl, htexts⟩
    cases htexts with
    | @cons _ s _ texts hs htexts =>
      refine ⟨s, hs, ?_⟩
      rw [(htail texts _).2 ⟨rfl, htexts⟩]
      rfl

/-- The closing bracket ends a list. -/
theorem readItems_nil {gap : List Char} (hgap : IsGap gap) (isFirst : Bool) (texts : List String)
    (rest : List Char) :
    readItems isFirst (gap ++ ']' :: more) = .ok (texts, rest) ↔
      rest = more ∧ List.Forall₂ (fun (i : Padded) s => MeansText i.value s) [] texts := by
  have hclose : readItems isFirst (gap ++ ']' :: more) = .ok ([], more) := by
    rw [readItems, readStrings_of_none (nextElement_close hgap isFirst more)]
    simp only [Except.bind, closeList_gap hgap]
    rfl
  rw [hclose, List.forall₂_nil_left_iff]
  constructor
  · intro heq
    cases heq
    exact ⟨rfl, rfl⟩
  · rintro ⟨rfl, rfl⟩
    rfl

/-- What is left of a list behind one of its elements. -/
def listTail (items : List Padded) (gap more : List Char) : List Char :=
  items.flatMap (fun i => ',' :: i.text) ++ (gap ++ ']' :: more)

theorem readItems_listTail {items : List Padded} {gap before : List Char} (hgap : IsGap gap)
    (hbefore : IsGap before) (hgaps : ∀ i ∈ items, i.HasGaps)
    (hvalues : ∀ i ∈ items, IsValue i.value) (texts : List String) (rest : List Char) :
    readItems false (before ++ listTail items gap more) = .ok (texts, rest) ↔
      rest = more ∧ List.Forall₂ (fun i s => MeansText i.value s) items texts := by
  induction items generalizing before texts rest with
  | nil =>
    rw [listTail, List.flatMap_nil, List.nil_append, ← List.append_assoc]
    exact readItems_nil (hbefore.append hgap) false texts rest
  | cons i items ih =>
    obtain ⟨hi, hgaps⟩ := List.forall_mem_cons.1 hgaps
    obtain ⟨hvalue, hvalues⟩ := List.forall_mem_cons.1 hvalues
    have htext : before ++ listTail (i :: items) gap more =
        before ++ ',' :: (i.before ++ (i.value ++ (i.after ++ listTail items gap more))) := by
      simp only [listTail, List.flatMap_cons, Padded.text, List.cons_append, List.append_assoc]
    rw [htext]
    exact readItems_cons (nextElement_comma hbefore hi.before hvalue _) hvalue
      (ih hi.after hgaps hvalues) texts rest

theorem readItems_iff {items : List Padded} {gap : List Char} (hgap : IsGap gap)
    (hgaps : ∀ i ∈ items, i.HasGaps) (hvalues : ∀ i ∈ items, IsValue i.value)
    (texts : List String) (rest : List Char) :
    readItems true ([','].intercalate (items.map Padded.text) ++ (gap ++ ']' :: more)) =
        .ok (texts, rest) ↔
      rest = more ∧ List.Forall₂ (fun i s => MeansText i.value s) items texts := by
  cases items with
  | nil => exact readItems_nil hgap true texts rest
  | cons i items =>
    obtain ⟨hi, hgaps⟩ := List.forall_mem_cons.1 hgaps
    obtain ⟨hvalue, hvalues⟩ := List.forall_mem_cons.1 hvalues
    have htext : [','].intercalate ((i :: items).map Padded.text) ++ (gap ++ ']' :: more) =
        i.before ++ (i.value ++ (i.after ++ listTail items gap more)) := by
      simp only [List.map_cons, intercalate_comma, listTail, Padded.text, List.flatMap_map,
        List.append_assoc]
    rw [htext]
    exact readItems_cons (nextElement_first hi.before hvalue _) hvalue
      (readItems_listTail hgap hi.after hgaps hvalues) texts rest

theorem readList_bracket (cs : List Char) : readList ('[' :: cs) = readItems true cs := rfl

theorem readList_exactly (h : IsValue v) (more : List Char) :
    Exactly readList v more (MeansList v) := by
  obtain ⟨c, tail, rfl, hspace, -⟩ := h.head
  by_cases hc : c = '['
  · subst hc
    intro texts rest
    constructor
    · intro hread
      obtain ⟨items, gap, hgap, hgaps, hvalues, rfl⟩ := h.of_bracket
      rw [List.cons_append, readList_bracket, List.append_assoc, List.append_assoc] at hread
      obtain ⟨hrest, htexts⟩ := (readItems_iff hgap hgaps hvalues texts rest).1 hread
      exact ⟨hrest, .list hgap hgaps htexts⟩
    · rintro ⟨rfl, hmeans⟩
      -- The items that have the meaning are read; whether the grammar sees the same is no matter.
      generalize hv : '[' :: tail = v at hmeans
      cases hmeans with
      | @list items gap texts hgap hgaps htexts =>
        have hvalues := isValue_of_meansText htexts
        rw [List.cons_append, readList_bracket, List.append_assoc, List.append_assoc]
        exact (readItems_iff hgap hgaps hvalues texts _).2 ⟨rfl, htexts⟩
  · refine .of_error ⟨_, readList_of_ne hspace hc _⟩ fun texts hmeans => ?_
    cases hmeans
    exact hc rfl

/-! ## Preferences -/

/-- The value means a preference of the key, which is put into the settings. -/
inductive Sets (s : Settings) : Key → List Char → Settings → Prop where
  | ether {v : List Char} {link : Option String} (h : MeansOptional v link) :
      Sets s .ether v { s with link }
  | redir {v : List Char} {rules : List String} (h : MeansList v rules) :
      Sets s .redir v { s with rules }
  | udptunnel {v : List Char} {tunnel : Bool} (h : MeansFlag v tunnel) :
      Sets s .udptunnel v { s with tunnel }
  | udpport {v : List Char} {tunnelPort : UInt16} (h : MeansPort v tunnelPort) :
      Sets s .udpport v { s with tunnelPort }
  | nonet {v : List Char} {disabled : Bool} (h : MeansFlag v disabled) :
      Sets s .nonet v { s with disabled }

theorem readValue_exactly (h : IsValue v) (hmore : IsDelimited more) (s : Settings) (key : Key) :
    Exactly (readValue s key) v more (Sets s key v) := by
  cases key with
  | ether =>
    refine (readOptional_exactly h more).map (fun link => { s with link }) fun s' => ⟨?_, ?_⟩
    · rintro ⟨⟩
      exact ⟨_, ‹_›, rfl⟩
    · rintro ⟨_, hmeans, rfl⟩
      exact .ether hmeans
  | redir =>
    refine (readList_exactly h more).map (fun rules => { s with rules }) fun s' => ⟨?_, ?_⟩
    · rintro ⟨⟩
      exact ⟨_, ‹_›, rfl⟩
    · rintro ⟨_, hmeans, rfl⟩
      exact .redir hmeans
  | udptunnel =>
    refine (readFlag_exactly h more).map (fun tunnel => { s with tunnel }) fun s' => ⟨?_, ?_⟩
    · rintro ⟨⟩
      exact ⟨_, ‹_›, rfl⟩
    · rintro ⟨_, hmeans, rfl⟩
      exact .udptunnel hmeans
  | udpport =>
    refine (readPort_exactly h hmore).map (fun tunnelPort => { s with tunnelPort }) fun s' =>
      ⟨?_, ?_⟩
    · rintro ⟨⟩
      exact ⟨_, ‹_›, rfl⟩
    · rintro ⟨_, hmeans, rfl⟩
      exact .udpport hmeans
  | nonet =>
    refine (readFlag_exactly h more).map (fun disabled => { s with disabled }) fun s' => ⟨?_, ?_⟩
    · rintro ⟨⟩
      exact ⟨_, ‹_›, rfl⟩
    · rintro ⟨_, hmeans, rfl⟩
      exact .nonet hmeans

/-- All readers skip the white space in front of a value. -/
theorem readValue_gap {gap : List Char} (hgap : IsGap gap) (s : Settings) (key : Key)
    (cs : List Char) : readValue s key (gap ++ cs) = readValue s key cs := by
  cases key <;>
    simp only [readValue, readOptional, readString, readList, readFlag, readPort,
      skipSpace_gap hgap]

end GuestNic.Settings
