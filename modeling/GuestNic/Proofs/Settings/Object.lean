import GuestNic.Proofs.Settings.Values

/-!
# Objects of preferences

An object is read as settings exactly if its keys are preference keys, each at most once, and its
values mean preferences of their keys. The keys may be spelled with escapes, the members may come in
any order, and white space may stand between the parts.
-/

namespace GuestNic.Settings

open GuestNic.Json

/-! ## Objects -/

/-- An object with the white space around it. -/
structure ObjectText where
  before : List Char
  members : List Member
  /-- White space in front of the closing brace. -/
  gap : List Char
  after : List Char

namespace ObjectText

def text (o : ObjectText) : List Char :=
  o.before ++ '\x7b' :: ([','].intercalate (o.members.map Member.text) ++
    (o.gap ++ '\x7d' :: o.after))

/-- The text is a JSON object, whatever its keys and values. -/
structure IsObject (o : ObjectText) : Prop where
  before : IsGap o.before
  gaps : ∀ m ∈ o.members, m.HasGaps
  keys : ∀ m ∈ o.members, IsBody m.key
  values : ∀ m ∈ o.members, IsValue m.value.value
  gap : IsGap o.gap
  after : IsGap o.after

end ObjectText

/-- The members have keys that are left, each at most once, and put preferences into the settings,
one after the other. -/
inductive Fills : List Key → Settings → List Member → Settings → Prop where
  | nil {unread : List Key} {s : Settings} : Fills unread s [] s
  | cons {unread : List Key} {s s' s'' : Settings} {m : Member} {ms : List Member} {key : Key}
      (hkey : key ∈ unread) (hname : Spells m.key key.name.toList)
      (hvalue : Sets s key m.value.value s') (h : Fills (unread.erase key) s' ms s'') :
      Fills unread s (m :: ms) s''

/-! ## Keys -/

theorem ofName?_eq_some_iff {name : String} {key : Key} :
    Key.ofName? name = some key ↔ name = key.name := by
  constructor
  · intro h
    have hfound : (key.name == name) = true :=
      List.find?_some (p := fun k : Key => k.name == name) h
    exact (eq_of_beq hfound).symm
  · rintro rfl
    exact key.ofName?_name

/-- A key that is left is read as itself; every other one is refused. -/
theorem readKey_exactly {key : List Char} (h : IsBody key) (unread : List Key)
    (more : List Char) :
    Exactly (readKey unread) (key ++ ['"']) more fun k => Spells key k.1.name.toList := by
  intro k rest
  rw [readKey, (readText_exactly h more).bind_iff]
  constructor
  · rintro ⟨text, htext, hknown⟩
    dsimp only at hknown
    split at hknown
    · cases hknown
    · rename_i found hfound
      split at hknown
      · rename_i hleft
        cases hknown
        rw [← String.toList_ofList (l := text), ofName?_eq_some_iff.1 hfound] at htext
        exact ⟨rfl, htext⟩
      · cases hknown
  · rintro ⟨rfl, hspells⟩
    obtain ⟨key, hleft⟩ := k
    refine ⟨_, hspells, ?_⟩
    simp only [String.ofList_toList, Key.ofName?_name, dif_pos hleft]

theorem readColon_gap {gap : List Char} (hgap : IsGap gap) (more : List Char) :
    readColon (gap ++ ':' :: more) = .ok more := by
  simp only [readColon, skipSpace_gap hgap]
  rfl

/-! ## Going from member to member -/

section

variable {gap gap' : List Char} (hgap : IsGap gap) (hgap' : IsGap gap') (more : List Char)

include hgap

theorem nextMember_close (isFirst : Bool) :
    nextMember isFirst (gap ++ '\x7d' :: more) = .ok (.inl more) := by
  simp only [nextMember, skipSpace_gap hgap]
  rfl

theorem nextMember_first : nextMember true (gap ++ '"' :: more) = .ok (.inr more) := by
  simp only [nextMember, skipSpace_gap hgap]
  rfl

include hgap' in
theorem nextMember_comma :
    nextMember false (gap ++ ',' :: (gap' ++ '"' :: more)) = .ok (.inr more) := by
  unfold nextMember
  rw [skipSpace_gap hgap, skipSpace_cons rfl]
  split
  · rename_i heq
    cases heq
  · rename_i heq
    cases heq
  · rename_i heq
    obtain ⟨rfl, rfl⟩ := List.cons.inj heq
    rw [if_neg Bool.false_ne_true, if_pos rfl, skipSpace_gap hgap', skipSpace_cons rfl]
    rfl

end

theorem isDelimited_gap {gap tail : List Char} (hgap : IsGap gap) (h : IsDelimited tail) :
    IsDelimited (gap ++ tail) := by
  cases gap with
  | nil => exact h
  | cons c gap =>
    rintro _ ⟨⟩
    have hc := hgap c List.mem_cons_self
    simp only [isSpace, Bool.or_eq_true, decide_eq_true_eq] at hc
    rcases hc with ((rfl | rfl) | rfl) | rfl <;> exact ⟨rfl, by decide, by decide, by decide⟩

/-- What is left of an object behind one of its members. -/
def objectTail (members : List Member) (gap more : List Char) : List Char :=
  members.flatMap (fun m => ',' :: m.text) ++ (gap ++ '\x7d' :: more)

theorem isDelimited_objectTail {members : List Member} {gap : List Char} (hgap : IsGap gap)
    (more : List Char) : IsDelimited (objectTail members gap more) := by
  cases members with
  | nil =>
    have hclose : IsDelimited ('\x7d' :: more) := by
      rintro _ ⟨⟩
      exact ⟨rfl, by decide, by decide, by decide⟩
    have htail : objectTail [] gap more = gap ++ '\x7d' :: more := rfl
    rw [htail]
    exact isDelimited_gap hgap hclose
  | cons =>
    rintro _ ⟨⟩
    exact ⟨rfl, by decide, by decide, by decide⟩

/-! ## Members -/

variable {s s' : Settings} {unread : List Key} {isFirst : Bool} {cs rest : List Char}

theorem readMembers_of_inl (h : nextMember isFirst cs = .ok (.inl rest)) :
    readMembers s unread isFirst cs = .ok (s, rest) := by
  rw [readMembers, h]

theorem readMembers_of_inr {next : List Char} (h : nextMember isFirst cs = .ok (.inr next)) :
    readMembers s unread isFirst cs =
      (readKey unread next).bind fun k =>
        ((readColon k.2).bind (readValue s k.1)).bind fun p =>
          readMembers p.1 (unread.erase k.1) false p.2 := by
  rw [readMembers, h]
  dsimp only
  rcases readKey unread next with e | ⟨⟨key, hkey⟩, cs⟩
  · rfl
  · rcases hvalue : (readColon cs).bind (readValue s key) with e | ⟨s, rest⟩
    all_goals
      simp only [Except.bind] at hvalue ⊢
      simp only [hvalue]

/-- A member is read as what it puts into the settings, and the others after it. -/
theorem readMembers_cons {m : Member} {ms : List Member} {tail more : List Char}
    (hgaps : m.HasGaps) (hkey : IsBody m.key) (hvalue : IsValue m.value.value)
    (hdelimited : IsDelimited tail)
    (hnext : nextMember isFirst cs = .ok (.inr
      (m.key ++ '"' :: (m.between ++ ':' :: (m.value.before ++ (m.value.value ++ tail))))))
    (htail : ∀ s unread s' rest, readMembers s unread false tail = .ok (s', rest) ↔
      rest = more ∧ Fills unread s ms s') :
    readMembers s unread isFirst cs = .ok (s', rest) ↔
      rest = more ∧ Fills unread s (m :: ms) s' := by
  have hquote : m.key ++ '"' :: (m.between ++ ':' :: (m.value.before ++ (m.value.value ++ tail))) =
      m.key ++ ['"'] ++ (m.between ++ ':' :: (m.value.before ++ (m.value.value ++ tail))) := by
    rw [List.append_assoc, List.singleton_append]
  rw [readMembers_of_inr hnext, hquote, (readKey_exactly hkey unread _).bind_iff]
  simp only [readColon_gap hgaps.between]
  have hread : ∀ key, (readValue s key (m.value.before ++ (m.value.value ++ tail))) =
      readValue s key (m.value.value ++ tail) := by
    intro key
    rw [readValue_gap hgaps.value.before]
  constructor
  · rintro ⟨⟨key, hleft⟩, hname, hrest⟩
    obtain ⟨⟨s₁, left⟩, hread₁, hmembers⟩ := exists_of_bind_ok hrest
    rw [Except.bind, hread] at hread₁
    obtain ⟨rfl, hset⟩ := (readValue_exactly hvalue hdelimited s key s₁ left).1 hread₁
    obtain ⟨hrest, hfills⟩ := (htail _ _ _ _).1 hmembers
    exact ⟨hrest, .cons hleft hname hset hfills⟩
  · rintro ⟨rfl, hfills⟩
    cases hfills with
    | @cons _ _ s₁ _ _ _ key hleft hname hset hfills =>
      refine ⟨⟨key, hleft⟩, hname, ?_⟩
      have hvalue := (readValue_exactly hvalue hdelimited s key s₁ tail).2 ⟨rfl, hset⟩
      simp only [Except.bind, hread, hvalue]
      exact (htail _ _ _ _).2 ⟨rfl, hfills⟩

/-- The closing brace ends an object. -/
theorem readMembers_nil {gap more : List Char} (hgap : IsGap gap) :
    readMembers s unread isFirst (gap ++ '\x7d' :: more) = .ok (s', rest) ↔
      rest = more ∧ Fills unread s [] s' := by
  rw [readMembers_of_inl (nextMember_close hgap more isFirst)]
  constructor
  · intro heq
    cases heq
    exact ⟨rfl, .nil⟩
  · rintro ⟨rfl, hfills⟩
    cases hfills
    rfl

theorem readMembers_objectTail {ms : List Member} {gap before more : List Char}
    (hgap : IsGap gap) (hbefore : IsGap before) (hgaps : ∀ m ∈ ms, m.HasGaps)
    (hkeys : ∀ m ∈ ms, IsBody m.key) (hvalues : ∀ m ∈ ms, IsValue m.value.value) :
    readMembers s unread false (before ++ objectTail ms gap more) = .ok (s', rest) ↔
      rest = more ∧ Fills unread s ms s' := by
  induction ms generalizing before s unread s' rest with
  | nil =>
    have htail : before ++ objectTail [] gap more = before ++ gap ++ '\x7d' :: more := by
      rw [objectTail, List.flatMap_nil, List.nil_append, List.append_assoc]
    rw [htail]
    exact readMembers_nil (hbefore.append hgap)
  | cons m ms ih =>
    obtain ⟨hm, hgaps⟩ := List.forall_mem_cons.1 hgaps
    obtain ⟨hkey, hkeys⟩ := List.forall_mem_cons.1 hkeys
    obtain ⟨hvalue, hvalues⟩ := List.forall_mem_cons.1 hvalues
    have htext : before ++ objectTail (m :: ms) gap more =
        before ++ ',' :: (m.before ++ '"' :: (m.key ++ '"' :: (m.between ++ ':' ::
          (m.value.before ++ (m.value.value ++ (m.value.after ++ objectTail ms gap more)))))) := by
      simp only [objectTail, List.flatMap_cons, Member.text, Padded.text, List.cons_append,
        List.append_assoc]
    rw [htext]
    exact readMembers_cons hm hkey hvalue
      (isDelimited_gap hm.value.after (isDelimited_objectTail hgap more))
      (nextMember_comma hbefore hm.before _)
      fun _ _ _ _ => ih hm.value.after hgaps hkeys hvalues

theorem readMembers_iff {ms : List Member} {gap more : List Char} (hgap : IsGap gap)
    (hgaps : ∀ m ∈ ms, m.HasGaps) (hkeys : ∀ m ∈ ms, IsBody m.key)
    (hvalues : ∀ m ∈ ms, IsValue m.value.value) :
    readMembers s unread true ([','].intercalate (ms.map Member.text) ++ (gap ++ '\x7d' :: more)) =
        .ok (s', rest) ↔
      rest = more ∧ Fills unread s ms s' := by
  cases ms with
  | nil => exact readMembers_nil hgap
  | cons m ms =>
    obtain ⟨hm, hgaps⟩ := List.forall_mem_cons.1 hgaps
    obtain ⟨hkey, hkeys⟩ := List.forall_mem_cons.1 hkeys
    obtain ⟨hvalue, hvalues⟩ := List.forall_mem_cons.1 hvalues
    have htext : [','].intercalate ((m :: ms).map Member.text) ++ (gap ++ '\x7d' :: more) =
        m.before ++ '"' :: (m.key ++ '"' :: (m.between ++ ':' ::
          (m.value.before ++ (m.value.value ++ (m.value.after ++ objectTail ms gap more))))) := by
      simp only [List.map_cons, intercalate_comma, objectTail, Member.text, Padded.text,
        List.flatMap_map, List.append_assoc, List.cons_append]
    rw [htext]
    exact readMembers_cons hm hkey hvalue
      (isDelimited_gap hm.value.after (isDelimited_objectTail hgap more))
      (nextMember_first hm.before _)
      fun _ _ _ _ => readMembers_objectTail hgap hm.value.after hgaps hkeys hvalues

/-- An object is read as settings exactly if its members fill them. -/
theorem ofChars_text_iff {o : ObjectText} (h : o.IsObject) (s : Settings) :
    ofChars o.text = .ok s ↔ Fills Key.all default o.members s := by
  have hbrace : skipSpace o.text = '\x7b' :: ([','].intercalate (o.members.map Member.text) ++
      (o.gap ++ '\x7d' :: o.after)) := by
    rw [ObjectText.text, skipSpace_gap h.before, skipSpace_cons rfl]
  have hread : ∀ s' rest, readMembers default Key.all true
      ([','].intercalate (o.members.map Member.text) ++ (o.gap ++ '\x7d' :: o.after)) =
        .ok (s', rest) ↔ rest = o.after ∧ Fills Key.all default o.members s' :=
    fun _ _ => readMembers_iff h.gap h.gaps h.keys h.values
  simp only [ofChars, hbrace]
  constructor
  · intro hbind
    obtain ⟨⟨s', rest⟩, hmembers, hend⟩ := exists_of_bind_ok hbind
    obtain ⟨rfl, hfills⟩ := (hread s' rest).1 hmembers
    rw [skipSpace_nil_of_gap h.after] at hend
    cases hend
    exact hfills
  · intro hfills
    rw [(hread s o.after).2 ⟨rfl, hfills⟩]
    simp only [Except.bind, skipSpace_nil_of_gap h.after]
    rfl

/-! ## Keys of objects that are read -/

theorem Key.name_injective {key key' : Key} (h : key.name = key'.name) : key = key' := by
  have hname := key.ofName?_name
  rw [h, key'.ofName?_name] at hname
  exact (Option.some.inj hname).symm

theorem key_eq_of_spells {body : List Char} {key key' : Key} (h : Spells body key.name.toList)
    (h' : Spells body key'.name.toList) : key = key' :=
  Key.name_injective (String.toList_inj.1 (h.unique h'))

/-- Of the keys of an object that is read each was left. -/
theorem Fills.exists_key {ms : List Member} (h : Fills unread s ms s') {m : Member}
    (hm : m ∈ ms) : ∃ key ∈ unread, Spells m.key key.name.toList := by
  induction h with
  | nil => cases hm
  | cons hkey hname _ _ ih =>
    rcases List.mem_cons.1 hm with rfl | hm
    · exact ⟨_, hkey, hname⟩
    · obtain ⟨key, hleft, hspells⟩ := ih hm
      exact ⟨key, List.mem_of_mem_erase hleft, hspells⟩

/-- No two keys of an object that is read are the same, however they are spelled. -/
theorem Fills.keys_differ {ms : List Member} (h : Fills unread s ms s') (hnodup : unread.Nodup)
    {m m' : Member} (hm : [m, m'].Sublist ms) {key : Key} (hkey : Spells m.key key.name.toList) :
    ¬ Spells m'.key key.name.toList := by
  intro hkey'
  induction h with
  | nil => cases hm
  | @cons unread _ _ _ first ms _ _ hname _ hrest ih =>
    cases hm with
    | cons _ hm => exact ih (hnodup.erase _) hm
    | cons_cons _ hm =>
      -- The first member took the key away, so none of the others finds it left.
      obtain rfl := key_eq_of_spells hname hkey
      obtain ⟨other, hleft, hother⟩ := hrest.exists_key (List.singleton_sublist.1 hm)
      obtain rfl := key_eq_of_spells hother hkey'
      exact hnodup.not_mem_erase hleft

end GuestNic.Settings
