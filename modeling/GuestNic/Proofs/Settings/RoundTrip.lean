import GuestNic.Proofs.Settings.Object
import GuestNic.Settings.Load
import GuestNic.Settings.Writer

/-!
# Settings survive their file

Settings are loaded from the object that was written for them. The object may as well hold only some
of the preferences, in any order and in any spelling: the others have their defaults. An object with
a key of no preference, or with one key twice, is refused.
-/

namespace GuestNic.Settings

open GuestNic.Json

/-! ## What stands for a preference -/

/-- The value stands for what the settings have under the key. -/
def Holds (s : Settings) : Key → List Char → Prop
  | .ether, v => MeansOptional v s.link
  | .redir, v => MeansList v s.rules
  | .udptunnel, v => MeansFlag v s.tunnel
  | .udpport, v => MeansPort v s.tunnelPort
  | .nonet, v => MeansFlag v s.disabled

/-- The settings `base` with the preferences of the given keys replaced by those of `s`. -/
def overlay (base s : Settings) (keys : List Key) : Settings where
  link := if .ether ∈ keys then s.link else base.link
  rules := if .redir ∈ keys then s.rules else base.rules
  tunnel := if .udptunnel ∈ keys then s.tunnel else base.tunnel
  tunnelPort := if .udpport ∈ keys then s.tunnelPort else base.tunnelPort
  disabled := if .nonet ∈ keys then s.disabled else base.disabled

variable {base s : Settings}

theorem overlay_all : base.overlay s Key.all = s := rfl

/-- Preferences may be replaced one after the other. -/
theorem overlay_cons (key : Key) (keys : List Key) :
    (base.overlay s [key]).overlay s keys = base.overlay s (key :: keys) := by
  have hfield : ∀ {α : Type} (k : Key) (a b : α),
      (if k ∈ keys then a else if k ∈ [key] then a else b) = if k ∈ key :: keys then a else b := by
    intro α k a b
    by_cases hk : k ∈ keys
    · rw [if_pos hk, if_pos (List.mem_cons_of_mem _ hk)]
    · simp only [List.mem_cons, List.not_mem_nil, hk, or_false, if_false]
  simp only [overlay, hfield]

/-- What stands for a preference puts it into the settings. -/
theorem Holds.sets {key : Key} {v : List Char} (h : s.Holds key v) (base : Settings) :
    Sets base key v (base.overlay s [key]) := by
  cases key with
  | ether => exact .ether h
  | redir => exact .redir h
  | udptunnel => exact .udptunnel h
  | udpport => exact .udpport h
  | nonet => exact .nonet h

/-- Members that hold preferences of different keys put them all into the settings. -/
theorem fills_overlay {ms : List Member} {keys unread : List Key} (hnodup : keys.Nodup)
    (hunread : ∀ key ∈ keys, key ∈ unread)
    (h : List.Forall₂ (fun m key => Spells m.key key.name.toList ∧ s.Holds key m.value.value)
      ms keys) :
    Fills unread base ms (base.overlay s keys) := by
  induction h generalizing base unread with
  | nil => exact .nil
  | @cons m key ms keys hm _ ih =>
    obtain ⟨hnew, hnodup⟩ := List.nodup_cons.1 hnodup
    obtain ⟨hleft, hunread⟩ := List.forall_mem_cons.1 hunread
    -- The keys differ, so those of the other members are left when this one is taken.
    have hrest : ∀ k ∈ keys, k ∈ unread.erase key := by
      intro k hk
      have hne : k ≠ key := by
        rintro rfl
        exact hnew hk
      exact (List.mem_erase_of_ne hne).2 (hunread k hk)
    have hfills : Fills (unread.erase key) (base.overlay s [key]) ms
        ((base.overlay s [key]).overlay s keys) := ih hnodup hrest
    rw [overlay_cons] at hfills
    exact .cons hleft hm.1 (hm.2.sets base) hfills

/-! ## Written values -/

theorem meansText_writeText (s : String) : MeansText (writeText s.toList) s := by
  have h := MeansText.text (spells_write s.toList)
  rwa [String.ofList_toList] at h

theorem meansList_write (rules : List String) :
    MeansList ('[' :: commaSeparated (rules.map fun r => writeText r.toList) ++ [']']) rules := by
  have hitems : List.Forall₂ (fun (i : Padded) s => MeansText i.value s)
      (rules.map fun r => .tight (writeText r.toList)) rules := by
    rw [List.forall₂_map_left_iff, List.forall₂_same]
    exact fun r _ => meansText_writeText r
  have hgaps : ∀ i ∈ rules.map fun r => Padded.tight (writeText r.toList), i.HasGaps := by
    rw [List.forall_mem_map]
    exact fun r _ => Padded.hasGaps_tight _
  have h := MeansList.list isGap_nil hgaps hitems
  simp only [List.map_map, Function.comp_def, Padded.text_tight, List.nil_append] at h
  exact h

theorem meansFlag_writeFlag (b : Bool) : MeansFlag (writeFlag b) b := by
  cases b with
  | false => exact .off
  | true => exact .on

theorem meansPort_toDigits (port : UInt16) : MeansPort (Nat.toDigits 10 port.toNat) port :=
  ⟨isWhole_toDigits _, Text.numeral?_toDigits _⟩

theorem holds_writeValue (s : Settings) (key : Key) : s.Holds key (s.writeValue key) := by
  cases key with
  | ether =>
    unfold Holds writeValue
    cases s.link with
    | none => exact .null
    | some name => exact .text (meansText_writeText name)
  | redir => exact meansList_write s.rules
  | udptunnel => exact meansFlag_writeFlag s.tunnel
  | udpport => exact meansPort_toDigits s.tunnelPort
  | nonet => exact meansFlag_writeFlag s.disabled

/-- What stands for a preference is a JSON value. -/
theorem Holds.isValue {key : Key} {v : List Char} (h : s.Holds key v) : IsValue v := by
  cases key with
  | ether => exact MeansOptional.isValue h
  | redir => exact MeansList.isValue h
  | udptunnel => exact MeansFlag.isValue h
  | udpport => exact MeansPort.isValue h
  | nonet => exact MeansFlag.isValue h

/-! ## Written objects -/

/-- The member that is written for a key. -/
def writtenMember (s : Settings) (key : Key) : Member where
  before := []
  key := key.name.toList.flatMap writeChar
  between := []
  value := .tight (s.writeValue key)

/-- The object that is written for the keys. -/
def writtenObject (s : Settings) (keys : List Key) : ObjectText where
  before := []
  members := keys.map s.writtenMember
  gap := []
  after := []

theorem text_writtenMember (s : Settings) (key : Key) :
    (s.writtenMember key).text = s.writeMember key := by
  simp [Member.text, writtenMember, writeMember, writeText, Padded.text_tight]

theorem text_writtenObject (s : Settings) (keys : List Key) :
    (s.writtenObject keys).text = s.writeMembers keys := by
  simp only [ObjectText.text, writtenObject, writeMembers, commaSeparated, List.map_map,
    Function.comp_def, text_writtenMember, List.nil_append, List.cons_append]

theorem isObject_writtenObject (s : Settings) (keys : List Key) :
    (s.writtenObject keys).IsObject where
  before := isGap_nil
  gaps := List.forall_mem_map.2 fun _ _ => ⟨isGap_nil, isGap_nil, Padded.hasGaps_tight _⟩
  keys := List.forall_mem_map.2 fun key _ => (spells_write key.name.toList).isBody
  values := List.forall_mem_map.2 fun key _ => (s.holds_writeValue key).isValue
  gap := isGap_nil
  after := isGap_nil

/-! ## Files -/

/-- The file that holds the text. -/
def fileOf (text : List Char) : FileContent := .ok (String.ofList text).toUTF8.data.toList

/-- A text is decoded from its file. -/
theorem decodeText_fileOf (text : List Char) :
    decodeText (fileOf text) = .ok (String.ofList text) := by
  have hdecode : String.fromUTF8? (String.ofList text).toUTF8 = some (String.ofList text) :=
    dif_pos (String.ofList text).isValidUTF8
  simp only [decodeText, fileOf, Array.toArray_toList, hdecode]

theorem load_fileOf (path : String) (text : List Char) :
    load path (fileOf text) = (ofChars text).mapError (LoadFault.parse path) := by
  simp only [load, decodeText_fileOf, String.toList_ofList]

/-- An object that holds preferences of different keys is loaded as the defaults with these
replaced. -/
theorem load_of_holds {o : ObjectText} (ho : o.IsObject) {keys : List Key} (hnodup : keys.Nodup)
    (h : List.Forall₂ (fun m key => Spells m.key key.name.toList ∧ s.Holds key m.value.value)
      o.members keys) (path : String) :
    load path (fileOf o.text) = .ok (default.overlay s keys) := by
  have hunread : ∀ key ∈ keys, key ∈ Key.all := by
    intro key _
    cases key <;> decide
  rw [load_fileOf, (ofChars_text_iff ho _).2 (fills_overlay hnodup hunread h)]
  rfl

theorem load_writeMembers (s : Settings) {keys : List Key} (hnodup : keys.Nodup)
    (path : String) :
    load path (fileOf (s.writeMembers keys)) = .ok (default.overlay s keys) := by
  rw [← text_writtenObject]
  refine load_of_holds (s.isObject_writtenObject keys) hnodup ?_ path
  rw [writtenObject, List.forall₂_map_left_iff, List.forall₂_same]
  exact fun key _ => ⟨spells_write _, s.holds_writeValue key⟩

/-- An object that does not fill the settings is refused. -/
theorem load_error_of_not_fills {o : ObjectText} (ho : o.IsObject)
    (h : ∀ s, ¬ Fills Key.all default o.members s) (path : String) :
    ∃ fault, load path (fileOf o.text) = .error (.parse path fault) := by
  rw [load_fileOf]
  cases hread : ofChars o.text with
  | error fault => exact ⟨fault, rfl⟩
  | ok s => exact absurd ((ofChars_text_iff ho s).1 hread) (h s)

/-- Settings are loaded from what was written for them. Whatever preferences an object holds, in
whatever order and spelling, it is loaded as the defaults with these replaced, and an object with a
key of no preference or with two keys of the same one is refused. -/
theorem load_object (path : String) :
    (∀ s : Settings, load path (fileOf s.render.toList) = .ok s) ∧
    (∀ (s : Settings) (keys : List Key), keys.Nodup →
      load path (fileOf (s.writeMembers keys)) = .ok (default.overlay s keys)) ∧
    (∀ (s : Settings) (keys : List Key) (o : ObjectText), keys.Nodup → o.IsObject →
      List.Forall₂ (fun m key => Spells m.key key.name.toList ∧ s.Holds key m.value.value)
        o.members keys →
      load path (fileOf o.text) = .ok (default.overlay s keys)) ∧
    (∀ o : ObjectText, o.IsObject →
      (∃ m ∈ o.members, ∀ key : Key, ¬ Spells m.key key.name.toList) ∨
        (∃ (m m' : Member) (key : Key), [m, m'].Sublist o.members ∧
          Spells m.key key.name.toList ∧ Spells m'.key key.name.toList) →
      ∃ fault, load path (fileOf o.text) = .error (.parse path fault)) := by
  refine ⟨?_, ?_, ?_, ?_⟩
  · intro s
    rw [render, String.toList_ofList, s.load_writeMembers (by decide) path, overlay_all]
  · exact fun s _ hnodup => s.load_writeMembers hnodup path
  · exact fun _ _ _ hnodup ho h => load_of_holds ho hnodup h path
  · intro o ho hbad
    refine load_error_of_not_fills ho (fun s hfills => ?_) path
    rcases hbad with ⟨m, hm, hunknown⟩ | ⟨m, m', key, hsublist, hkey, hkey'⟩
    · obtain ⟨key, -, hspells⟩ := hfills.exists_key hm
      exact hunknown key hspells
    · exact hfills.keys_differ (by decide) hsublist hkey hkey'

end GuestNic.Settings
