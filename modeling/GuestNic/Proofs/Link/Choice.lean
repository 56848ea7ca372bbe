import GuestNic.Card.Open
import GuestNic.Proofs.Text.Numeral

/-!
# The device that a name chooses

A name that starts with `tap` or `ethertap` chooses the device of that name, whatever follows. Where
a number follows, as it should, the device lies right below the folder of the devices; with slashes
in the name it may lie anywhere. All other names choose one device of a fixed name, or none.
-/

namespace GuestNic

/-! ## Pieces of a path -/

namespace Host

theorem pathPieces_ne_nil (cs : List Char) : pathPieces cs ≠ [] := by
  unfold pathPieces
  split
  · simp
  · split
    · simp
    · split <;> simp

theorem pathPieces_cons {c : Char} (hc : c ≠ '/') (cs : List Char) :
    pathPieces (c :: cs) = (pathPieces cs).modifyHead (c :: ·) := by
  rw [pathPieces, if_neg hc]
  cases h : pathPieces cs with
  | nil => exact absurd h (pathPieces_ne_nil cs)
  | cons piece rest => rfl

/-- A path is one piece just if there is no slash in it. -/
theorem pathPieces_eq_self_iff {cs : List Char} : pathPieces cs = [cs] ↔ '/' ∉ cs := by
  induction cs with
  | nil => simp [pathPieces]
  | cons c cs ih =>
    by_cases hc : c = '/'
    · subst hc
      simp [pathPieces]
    · rw [pathPieces_cons hc, List.mem_cons, not_or, ← ih]
      cases hpieces : pathPieces cs with
      | nil => exact absurd hpieces (pathPieces_ne_nil cs)
      | cons piece rest => simp [List.modifyHead, Ne.symm hc]

end Host

namespace LinkChoice

/-! ## Names -/

/-- The name starts like that of a tap device. -/
def HasTapPrefix (cs : List Char) : Prop := "tap".toList <+: cs ∨ "ethertap".toList <+: cs

/-- The name of a tap device: what it starts with, and a number. -/
def IsNumberedTap (cs : List Char) : Prop :=
  ∃ digits number, Text.IsNumeral 10 digits number ∧
    (cs = "tap".toList ++ digits ∨ cs = "ethertap".toList ++ digits)

variable {cs : List Char}

theorem IsNumberedTap.hasTapPrefix (h : IsNumberedTap cs) : HasTapPrefix cs := by
  obtain ⟨digits, number, -, rfl | rfl⟩ := h
  · exact .inl (List.prefix_append _ _)
  · exact .inr (List.prefix_append _ _)

theorem IsNumberedTap.not_mem_slash (h : IsNumberedTap cs) : '/' ∉ cs := by
  obtain ⟨digits, number, hdigits, hcs⟩ := h
  have hslash : '/' ∉ digits := hdigits.not_mem (by decide) (by decide)
  rcases hcs with rfl | rfl
  · simp [hslash]
  · simp [hslash]

/-- No name of a tap device is one of the two words that choose something else. -/
theorem HasTapPrefix.ne_word (h : HasTapPrefix cs) :
    cs ≠ "slirp".toList ∧ cs ≠ "udp".toList := by
  constructor <;> rintro rfl <;> revert h <;> unfold HasTapPrefix <;> decide

/-- The four cases of reading a name. -/
theorem parse_cases (name : String) :
    let cs := Text.trim name.toList
    (cs = "slirp".toList ∧ parse name = .nat) ∨
    (cs = "udp".toList ∧ parse name = .tunnel defaultPort) ∨
    (HasTapPrefix cs ∧ parse name = .ethertap (String.ofList cs)) ∨
    (cs ≠ "slirp".toList ∧ cs ≠ "udp".toList ∧ ¬ HasTapPrefix cs ∧ parse name = .sheepNet) := by
  intro cs
  have htap : ("tap".toList.isPrefixOf cs || "ethertap".toList.isPrefixOf cs) = true ↔
      HasTapPrefix cs := by
    rw [Bool.or_eq_true, List.isPrefixOf_iff_prefix, List.isPrefixOf_iff_prefix]
    rfl
  by_cases hslirp : cs = "slirp".toList
  · exact .inl ⟨hslirp, if_pos hslirp⟩
  · by_cases hudp : cs = "udp".toList
    · exact .inr (.inl ⟨hudp, (if_neg hslirp).trans (if_pos hudp)⟩)
    · by_cases hbegin : HasTapPrefix cs
      · exact .inr (.inr (.inl ⟨hbegin,
          (if_neg hslirp).trans ((if_neg hudp).trans (if_pos (htap.2 hbegin)))⟩))
      · exact .inr (.inr (.inr ⟨hslirp, hudp, hbegin,
          (if_neg hslirp).trans ((if_neg hudp).trans (if_neg (mt htap.1 hbegin)))⟩))

theorem parse_eq_ethertap_iff {name device : String} :
    parse name = .ethertap device ↔
      HasTapPrefix (Text.trim name.toList) ∧ device = String.ofList (Text.trim name.toList) := by
  rcases parse_cases name with ⟨hcs, hparse⟩ | ⟨hcs, hparse⟩ | ⟨htap, hparse⟩ | ⟨-, -, htap, hparse⟩
  · simp only [hparse, reduceCtorEq, false_iff, not_and]
    exact fun htap => absurd hcs htap.ne_word.1
  · simp only [hparse, reduceCtorEq, false_iff, not_and]
    exact fun htap => absurd hcs htap.ne_word.2
  · simp [hparse, htap, eq_comm]
  · simp [hparse, htap]

theorem parse_eq_sheepNet_iff {name : String} :
    parse name = .sheepNet ↔ Text.trim name.toList ≠ "slirp".toList ∧
      Text.trim name.toList ≠ "udp".toList ∧ ¬ HasTapPrefix (Text.trim name.toList) := by
  rcases parse_cases name with ⟨hcs, hparse⟩ | ⟨hcs, hparse⟩ | ⟨htap, hparse⟩ | ⟨h, h', htap, hparse⟩
  · simp [hparse, hcs]
  · simp [hparse, hcs]
  · simp [hparse, htap]
  · exact iff_of_true hparse ⟨h, h', htap⟩

/-- The rule for numbered taps: they are chosen by their names, and the default device by every
other name that is none of the two words. -/
def ChoosesByNumber (name : String) : Prop :=
  ((∃ device, parse name = .ethertap device) ↔ IsNumberedTap (Text.trim name.toList)) ∧
  (parse name = .sheepNet ↔ Text.trim name.toList ≠ "slirp".toList ∧
    Text.trim name.toList ≠ "udp".toList ∧ ¬ IsNumberedTap (Text.trim name.toList))

/-- The rule is kept for all names but those that start like a tap device and go on with something
that is no number. -/
theorem choosesByNumber_iff {name : String} :
    ChoosesByNumber name ↔
      (HasTapPrefix (Text.trim name.toList) → IsNumberedTap (Text.trim name.toList)) := by
  constructor
  · intro hrule htap
    exact hrule.1.1 ⟨_, parse_eq_ethertap_iff.2 ⟨htap, rfl⟩⟩
  · intro himp
    have hiff : HasTapPrefix (Text.trim name.toList) ↔ IsNumberedTap (Text.trim name.toList) :=
      ⟨himp, IsNumberedTap.hasTapPrefix⟩
    refine ⟨?_, by rw [parse_eq_sheepNet_iff, hiff]⟩
    simp only [parse_eq_ethertap_iff, ← hiff, exists_and_left, exists_eq, and_true]

/-! ## Device files -/

/-- What stands behind the folder of the devices is the name of the default device or of a tap. -/
theorem devicePath?_parse {name path : String} (h : (parse name).devicePath? = some path) :
    ∃ device, path = devices ++ String.ofList device ∧
      (device = "sheep_net".toList ∨ HasTapPrefix device ∧ device = Text.trim name.toList) := by
  rcases parse_cases name with ⟨-, hparse⟩ | ⟨-, hparse⟩ | ⟨htap, hparse⟩ | ⟨-, -, -, hparse⟩
  · rw [hparse] at h
    cases h
  · rw [hparse] at h
    cases h
  · rw [hparse] at h
    exact ⟨_, (Option.some.inj h).symm, .inr ⟨htap, rfl⟩⟩
  · rw [hparse] at h
    exact ⟨"sheep_net".toList, (Option.some.inj h).symm, .inl rfl⟩

/-- A choice with a device file is opened by opening that file. -/
theorem openAt_of_devicePath {choice : LinkChoice} {path : String}
    (h : choice.devicePath? = some path) (host : HostAccess) :
    ∃ driver, Link.openAt host choice = (host.rawPort driver path).map Link.ofPort := by
  cases choice with
  | sheepNet =>
    obtain rfl := Option.some.inj h
    exact ⟨.sheepNet, rfl⟩
  | ethertap name =>
    obtain rfl := Option.some.inj h
    exact ⟨.ethertap, rfl⟩
  | tunnel port => cases h
  | nat => cases h

/-- No other device file matters to it. -/
theorem openAt_congr {choice : LinkChoice} {host : HostAccess}
    {openDevice : String → Except Host.Fault Host.Descriptor}
    (h : ∀ path ∈ choice.devicePath?, openDevice path = host.openDevice path) :
    Link.openAt { host with openDevice } choice = Link.openAt host choice := by
  cases choice with
  | sheepNet => simp only [Link.openAt, HostAccess.port, HostAccess.rawPort, devicePath?,
      Option.getD_some, h _ rfl]
  | ethertap name => simp only [Link.openAt, HostAccess.port, HostAccess.rawPort, devicePath?,
      Option.getD_some, h _ rfl]
  | tunnel port => rfl
  | nat => rfl

end LinkChoice

namespace Settings

/-- The device file that the settings choose, if it is one. -/
def devicePath? (s : Settings) : Option String := s.choice?.bind LinkChoice.devicePath?

theorem devicePath?_eq_some {s : Settings} {path : String} (h : s.devicePath? = some path) :
    ∃ name ∈ s.link, (LinkChoice.parse name).devicePath? = some path := by
  obtain ⟨choice, hchoice, hpath⟩ := Option.bind_eq_some_iff.1 h
  unfold choice? at hchoice
  split at hchoice
  · cases hchoice
  · split at hchoice
    · obtain rfl := Option.some.inj hchoice
      cases hpath
    · obtain ⟨name, hname, hmatch⟩ := Option.map_eq_some_iff.1 hchoice
      refine ⟨name, hname, ?_⟩
      split at hmatch
      · subst hmatch
        cases hpath
      · rw [hmatch, hpath]

end Settings

namespace Card

variable {σ : Type} (net : NetStack σ) {s : Settings} {e : Embedding σ}

/-- A card asks the host for its link and for nothing else. -/
theorem openWith_of_openAt {host : HostAccess}
    (h : ∀ choice ∈ s.choice?, Link.openAt host choice = Link.openAt e.host choice) :
    openWith net s { e with host } = openWith net s e := by
  cases hchoice : s.choice? with
  | none => simp only [openWith, hchoice]
  | some choice =>
    have hlink := h choice hchoice
    have hopen : openChoice net choice s { e with host } = openChoice net choice s e := by
      cases choice with
      | sheepNet => simp only [openChoice, hlink]
      | ethertap name => simp only [openChoice, hlink]
      | tunnel port => simp only [openChoice, hlink]
      | nat =>
        cases hstack : e.stack with
        | none => simp only [openChoice, hstack]
        | some stack => simp only [openChoice, hstack, hlink]
    simp only [openWith, hchoice, hopen]

/-- Of all device files, opening a card asks for none but the one of its settings. -/
theorem openWith_congr {openDevice : String → Except Host.Fault Host.Descriptor}
    (h : ∀ path ∈ s.devicePath?, openDevice path = e.host.openDevice path) :
    openWith net s { e with host := { e.host with openDevice } } = openWith net s e := by
  apply openWith_of_openAt
  intro choice hchoice
  apply LinkChoice.openAt_congr
  intro path hpath
  apply h
  rw [Settings.devicePath?, hchoice]
  exact hpath

/-- A name that starts with `tap` or `ethertap` chooses the device of that name, and any other that
is not `slirp` or `udp` the default device; so the rule for numbered taps is kept by all names but
those that start so and do not go on with a number. Opening a card asks the host for one device file
at most, and its path is the folder of the devices with the default device or such a name behind it.
That is one piece just if there is no slash in the name, as in that of a numbered tap. -/
theorem device_path_by_name_start :
    (∀ name device, LinkChoice.parse name = .ethertap device ↔
      LinkChoice.HasTapPrefix (Text.trim name.toList) ∧
        device = String.ofList (Text.trim name.toList)) ∧
    (∀ name, LinkChoice.parse name = .sheepNet ↔ Text.trim name.toList ≠ "slirp".toList ∧
      Text.trim name.toList ≠ "udp".toList ∧ ¬ LinkChoice.HasTapPrefix (Text.trim name.toList)) ∧
    (∀ name, LinkChoice.ChoosesByNumber name ↔
      (LinkChoice.HasTapPrefix (Text.trim name.toList) →
        LinkChoice.IsNumberedTap (Text.trim name.toList))) ∧
    (∀ (s : Settings) (path : String), s.devicePath? = some path →
      (∀ host, ∃ choice driver, s.choice? = some choice ∧
        Link.openAt host choice = (host.rawPort driver path).map Link.ofPort) ∧
      ∃ device, path = LinkChoice.devices ++ String.ofList device ∧
        (device = "sheep_net".toList ∨
          LinkChoice.HasTapPrefix device ∧ ∃ name ∈ s.link, device = Text.trim name.toList) ∧
        (Host.pathPieces device = [device] ↔ '/' ∉ device) ∧
        (device = "sheep_net".toList ∨ LinkChoice.IsNumberedTap device →
          Host.pathPieces device = [device])) ∧
    ∀ (s : Settings) (e : Embedding σ) (openDevice : String → Except Host.Fault Host.Descriptor),
      (∀ path ∈ s.devicePath?, openDevice path = e.host.openDevice path) →
      openWith net s { e with host := { e.host with openDevice } } = openWith net s e := by
  refine ⟨fun _ _ => LinkChoice.parse_eq_ethertap_iff, fun _ => LinkChoice.parse_eq_sheepNet_iff,
    fun _ => LinkChoice.choosesByNumber_iff, fun s path hpath => ⟨?_, ?_⟩,
    fun s e openDevice h => openWith_congr net h⟩
  · intro host
    obtain ⟨choice, hchoice, hfile⟩ := Option.bind_eq_some_iff.1 hpath
    obtain ⟨driver, hopen⟩ := LinkChoice.openAt_of_devicePath hfile host
    exact ⟨choice, driver, hchoice, hopen⟩
  · obtain ⟨name, hname, hfile⟩ := Settings.devicePath?_eq_some hpath
    obtain ⟨device, hdevice, hshape⟩ := LinkChoice.devicePath?_parse hfile
    refine ⟨device, hdevice, ?_, Host.pathPieces_eq_self_iff, ?_⟩
    · exact hshape.imp_right fun ⟨htap, htrim⟩ => ⟨htap, name, hname, htrim⟩
    · intro hgood
      apply Host.pathPieces_eq_self_iff.2
      rcases hgood with rfl | hnumbered
      · decide
      · exact hnumbered.not_mem_slash

/-- A name that starts like a tap device and climbs out of its folder. -/
theorem tap_name_climbs :
    LinkChoice.parse "tap/../null" = .ethertap "tap/../null" ∧
    ¬ LinkChoice.IsNumberedTap (Text.trim "tap/../null".toList) ∧
    ¬ LinkChoice.ChoosesByNumber "tap/../null" ∧
    ({ Settings.default with link := some "tap/../null" } : Settings).devicePath? =
      some "/dev/tap/../null" ∧
    Host.pathPieces "tap/../null".toList = ["tap".toList, "..".toList, "null".toList] := by
  have hslash : '/' ∈ Text.trim "tap/../null".toList := by decide
  have hnumbered : ¬ LinkChoice.IsNumberedTap (Text.trim "tap/../null".toList) :=
    fun h => h.not_mem_slash hslash
  have htap : LinkChoice.HasTapPrefix (Text.trim "tap/../null".toList) := .inl (by decide)
  have hrule : ¬ LinkChoice.ChoosesByNumber "tap/../null" := fun h =>
    hnumbered (LinkChoice.choosesByNumber_iff.1 h htap)
  exact ⟨by decide, hnumbered, hrule, by decide, by decide⟩

end Card
end GuestNic
