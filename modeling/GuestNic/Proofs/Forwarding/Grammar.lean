import GuestNic.Forwarding.Rule
import GuestNic.Proofs.Forwarding.Port
import GuestNic.Proofs.Net.Ipv4

/-!
# The grammar of forwarding rules

A rule is four parts with colons between them. Of everything that can be wrong with a text, reading
reports what comes first in a fixed order, which is not the order of the parts: that a separator is
missing is found out only where the text behind it would be needed.
-/

namespace GuestNic.Forwarding

open Text

variable {cs before after : List Char} {stage : Nat} {flaw : Flaw} {r : Rule}

/-! ## Parts -/

/-- The first colon of the text stands between `before` and `after`. -/
def Splits (cs before after : List Char) : Prop := cs = before ++ ':' :: after ∧ ':' ∉ before

/-- What stands before the first colon, or everything where there is no colon. -/
def Leads (cs first : List Char) : Prop :=
  cs = first ∧ ':' ∉ first ∨ ∃ after, Splits cs first after

theorem splits_iff : Splits cs before after ↔ cut? ':' cs = some (before, after) :=
  cut?_eq_some_iff.symm

theorem splits_append (h : ':' ∉ before) (after : List Char) :
    Splits (before ++ ':' :: after) before after := ⟨rfl, h⟩

theorem Splits.unique {before' after' : List Char} (h : Splits cs before after)
    (h' : Splits cs before' after') : before = before' ∧ after = after' :=
  Prod.mk.inj (Option.some.inj ((splits_iff.1 h).symm.trans (splits_iff.1 h')))

theorem Splits.count (h : Splits cs before after) : cs.count ':' = after.count ':' + 1 := by
  rw [h.1, List.count_append, List.count_eq_zero.2 h.2, List.count_cons_self, Nat.zero_add]

/-- The first part is what is looked at for the protocol. -/
theorem leads_iff {first : List Char} :
    Leads cs first ↔ ((cut? ':' cs).map Prod.fst).getD cs = first := by
  cases hcut : cut? ':' cs with
  | none =>
    have hnone := cut?_eq_none_iff.1 hcut
    constructor
    · rintro (⟨h, -⟩ | ⟨after, hsplits⟩)
      · exact h
      · rw [splits_iff.1 hsplits] at hcut
        cases hcut
    · rintro rfl
      exact .inl ⟨rfl, hnone⟩
  | some p =>
    have hsplits : Splits cs p.1 p.2 := splits_iff.2 hcut
    constructor
    · rintro (⟨rfl, hnone⟩ | ⟨after, h⟩)
      · exact absurd hcut (by rw [cut?_eq_none_iff.2 hnone]; nofun)
      · exact (hsplits.unique h).1
    · rintro rfl
      exact .inr ⟨p.2, hsplits⟩

/-! ## Rules -/

inductive SpellsProtocol : List Char → Protocol → Prop where
  | default : SpellsProtocol [] .tcp
  | tcp : SpellsProtocol ['t', 'c', 'p'] .tcp
  | udp : SpellsProtocol ['u', 'd', 'p'] .udp

inductive SpellsAddress : List Char → Ipv4 → Prop where
  | default : SpellsAddress [] ⟨10, 0, 2, 15⟩
  | address {cs : List Char} {x : Ipv4} (h : Ipv4.IsAddress cs x) : SpellsAddress cs x

/-- The text is a spelling of the rule. -/
def Spells (cs : List Char) (r : Rule) : Prop :=
  ∃ protocol host address guest,
    cs = protocol ++ ':' :: (host ++ ':' :: (address ++ ':' :: guest)) ∧
    ':' ∉ protocol ∧ ':' ∉ host ∧ ':' ∉ address ∧ SpellsProtocol protocol r.protocol ∧
    IsPort host r.hostPort ∧ SpellsAddress address r.guestAddress ∧ IsPort guest r.guestPort

theorem protocol?_eq_some_iff {x : Protocol} : protocol? cs = some x ↔ SpellsProtocol cs x := by
  constructor
  · intro h
    unfold protocol? at h
    split at h
    · rename_i htcp
      cases h
      rcases htcp with rfl | rfl
      · exact .default
      · exact .tcp
    · split at h
      · rename_i hudp
        cases h
        cases hudp
        exact .udp
      · cases h
  · rintro (_ | _ | _) <;> rfl

theorem guestAddress?_eq_some_iff {x : Ipv4} :
    guestAddress? cs = some x ↔ SpellsAddress cs x := by
  unfold guestAddress?
  cases cs with
  | nil =>
    constructor
    · intro h
      cases h
      exact .default
    · rintro (_ | ⟨_, _, _, _, hcs, -⟩)
      · rfl
      · cases List.nil_eq_append_iff.1 hcs |>.2
  | cons c rest =>
    constructor
    · intro h
      exact .address (Ipv4.ofChars?_eq_some_iff.1 h)
    · rintro (_ | h)
      exact Ipv4.ofChars?_eq_some_iff.2 h

/-! ## Flaws -/

/-- The flaws of a text, each with its place in the order in which they are looked for. -/
inductive Applies (cs : List Char) : Nat → Flaw → Prop where
  | unknownProtocol {first : List Char} (hfirst : Leads cs first)
      (h : ∀ x, ¬ SpellsProtocol first x) : Applies cs 0 (.unknownProtocol (String.ofList first))
  | missingHostPort (h : cs.count ':' < 1) : Applies cs 1 (.missing .hostPort)
  | missingGuestAddress (h : cs.count ':' < 2) : Applies cs 2 (.missing .guestAddress)
  | invalidHostPort {protocol rest host rest' : List Char} (hcs : Splits cs protocol rest)
      (hrest : Splits rest host rest') (h : ∀ x, ¬ IsPort host x) :
      Applies cs 3 (.invalidPort .hostPort (String.ofList host))
  | missingGuestPort (h : cs.count ':' < 3) : Applies cs 4 (.missing .guestPort)
  | invalidAddress {protocol rest host rest' address guest : List Char}
      (hcs : Splits cs protocol rest) (hrest : Splits rest host rest')
      (hrest' : Splits rest' address guest) (h : ∀ x, ¬ SpellsAddress address x) :
      Applies cs 5 (.invalidAddress (String.ofList address))
  | invalidGuestPort {protocol rest host rest' address guest : List Char}
      (hcs : Splits cs protocol rest) (hrest : Splits rest host rest')
      (hrest' : Splits rest' address guest) (h : ∀ x, ¬ IsPort guest x) :
      Applies cs 6 (.invalidPort .guestPort (String.ofList guest))

/-- No flaw of the text has a place before `stage`. -/
def NoneBefore (cs : List Char) (stage : Nat) : Prop :=
  ∀ earlier < stage, ∀ flaw, ¬ Applies cs earlier flaw

/-- The flaw is the first of those that the text has. -/
def IsFirst (cs : List Char) (flaw : Flaw) : Prop :=
  ∃ stage, Applies cs stage flaw ∧ NoneBefore cs stage

theorem Leads.unique {first first' : List Char} (h : Leads cs first) (h' : Leads cs first') :
    first = first' :=
  (leads_iff.1 h).symm.trans (leads_iff.1 h')

/-- There is one flaw at most in every place. -/
theorem Applies.unique {flaw' : Flaw} (h : Applies cs stage flaw) (h' : Applies cs stage flaw') :
    flaw = flaw' := by
  cases h with
  | missingHostPort | missingGuestAddress | missingGuestPort =>
    cases h'
    rfl
  | unknownProtocol hfirst =>
    cases h' with
    | unknownProtocol hfirst' => rw [hfirst.unique hfirst']
  | invalidHostPort hcs hrest =>
    cases h' with
    | invalidHostPort hcs' hrest' =>
      obtain ⟨rfl, rfl⟩ := hcs.unique hcs'
      rw [(hrest.unique hrest').1]
  | invalidAddress hcs hrest hrest' =>
    cases h' with
    | invalidAddress hcs' hrest₂ hrest₂' =>
      obtain ⟨rfl, rfl⟩ := hcs.unique hcs'
      obtain ⟨rfl, rfl⟩ := hrest.unique hrest₂
      rw [(hrest'.unique hrest₂').1]
  | invalidGuestPort hcs hrest hrest' =>
    cases h' with
    | invalidGuestPort hcs' hrest₂ hrest₂' =>
      obtain ⟨rfl, rfl⟩ := hcs.unique hcs'
      obtain ⟨rfl, rfl⟩ := hrest.unique hrest₂
      rw [(hrest'.unique hrest₂').2]

theorem IsFirst.unique {flaw' : Flaw} (h : IsFirst cs flaw) (h' : IsFirst cs flaw') :
    flaw = flaw' := by
  obtain ⟨stage, happlies, hnone⟩ := h
  obtain ⟨stage', happlies', hnone'⟩ := h'
  -- The one with the later place would have the other one before it.
  rcases Nat.lt_trichotomy stage stage' with hlt | rfl | hlt
  · exact absurd happlies (hnone' stage hlt flaw)
  · exact happlies.unique happlies'
  · exact absurd happlies' (hnone stage' hlt flaw')

/-! ## Texts without a flaw up to some place -/

namespace NoneBefore

variable {protocol host address guest rest rest' : List Char}

theorem succ (h : NoneBefore cs stage) (hstage : ∀ flaw, ¬ Applies cs stage flaw) :
    NoneBefore cs (stage + 1) := by
  intro earlier hlt
  rcases Nat.lt_succ_iff_lt_or_eq.1 hlt with hlt | rfl
  · exact h earlier hlt
  · exact hstage

theorem zero (cs : List Char) : NoneBefore cs 0 := fun _ hlt => absurd hlt (Nat.not_lt_zero _)

theorem of_protocol {x : Protocol} (hfirst : Leads cs protocol) (hx : SpellsProtocol protocol x) :
    NoneBefore cs 1 := by
  refine (zero cs).succ ?_
  intro flaw happlies
  cases happlies with
  | unknownProtocol hfirst₂ hnone =>
    rw [hfirst₂.unique hfirst] at hnone
    exact hnone x hx

theorem of_firstColon (h : NoneBefore cs 1) (hcs : Splits cs protocol rest) : NoneBefore cs 2 := by
  refine h.succ ?_
  intro flaw happlies
  cases happlies with
  | missingHostPort hcount =>
    have := hcs.count
    omega

theorem of_secondColon (h : NoneBefore cs 2) (hcs : Splits cs protocol rest)
    (hrest : Splits rest host rest') : NoneBefore cs 3 := by
  refine h.succ ?_
  intro flaw happlies
  cases happlies with
  | missingGuestAddress hcount =>
    have := hcs.count
    have := hrest.count
    omega

theorem of_hostPort (h : NoneBefore cs 3) (hcs : Splits cs protocol rest)
    (hrest : Splits rest host rest') {x : UInt16} (hx : IsPort host x) : NoneBefore cs 4 := by
  refine h.succ ?_
  intro flaw happlies
  cases happlies with
  | invalidHostPort hcs₂ hrest₂ hnone =>
    obtain ⟨rfl, rfl⟩ := hcs.unique hcs₂
    obtain ⟨rfl, rfl⟩ := hrest.unique hrest₂
    exact hnone x hx

theorem of_thirdColon (h : NoneBefore cs 4) (hcs : Splits cs protocol rest)
    (hrest : Splits rest host rest') (hrest' : Splits rest' address guest) : NoneBefore cs 5 := by
  refine h.succ ?_
  intro flaw happlies
  cases happlies with
  | missingGuestPort hcount =>
    have := hcs.count
    have := hrest.count
    have := hrest'.count
    omega

theorem of_address (h : NoneBefore cs 5) (hcs : Splits cs protocol rest)
    (hrest : Splits rest host rest') (hrest' : Splits rest' address guest) {x : Ipv4}
    (hx : SpellsAddress address x) : NoneBefore cs 6 := by
  refine h.succ ?_
  intro flaw happlies
  cases happlies with
  | invalidAddress hcs₂ hrest₂ hrest₂' hnone =>
    obtain ⟨rfl, rfl⟩ := hcs.unique hcs₂
    obtain ⟨rfl, rfl⟩ := hrest.unique hrest₂
    obtain ⟨rfl, rfl⟩ := hrest'.unique hrest₂'
    exact hnone x hx

theorem of_guestPort (h : NoneBefore cs 6) (hcs : Splits cs protocol rest)
    (hrest : Splits rest host rest') (hrest' : Splits rest' address guest) {x : UInt16}
    (hx : IsPort guest x) : NoneBefore cs 7 := by
  refine h.succ ?_
  intro flaw happlies
  cases happlies with
  | invalidGuestPort hcs₂ hrest₂ hrest₂' hnone =>
    obtain ⟨rfl, rfl⟩ := hcs.unique hcs₂
    obtain ⟨rfl, rfl⟩ := hrest.unique hrest₂
    obtain ⟨rfl, rfl⟩ := hrest'.unique hrest₂'
    exact hnone x hx

/-- There are no more than seven places. -/
theorem not_applies (h : NoneBefore cs 7) : ¬ Applies cs stage flaw := by
  intro happlies
  refine h stage ?_ flaw happlies
  cases happlies <;> decide

end NoneBefore

/-- A rule has no flaw. -/
theorem Spells.noneBefore (h : Spells cs r) : NoneBefore cs 7 := by
  obtain ⟨protocol, host, address, guest, rfl, hp, hh, ha, hprotocol, hhost, haddress, hguest⟩ := h
  have hcs := splits_append hp (host ++ ':' :: (address ++ ':' :: guest))
  have hrest := splits_append hh (address ++ ':' :: guest)
  have hrest' := splits_append ha guest
  have h₁ := NoneBefore.of_protocol (.inr ⟨_, hcs⟩) hprotocol
  have h₄ := ((h₁.of_firstColon hcs).of_secondColon hcs hrest).of_hostPort hcs hrest hhost
  have h₆ := (h₄.of_thirdColon hcs hrest hrest').of_address hcs hrest hrest' haddress
  exact h₆.of_guestPort hcs hrest hrest' hguest

/-- A text spells one rule at most. -/
theorem Spells.unique {r' : Rule} (h : Spells cs r) (h' : Spells cs r') : r = r' := by
  obtain ⟨protocol, host, address, guest, rfl, hp, hh, ha, hprotocol, hhost, haddress, hguest⟩ := h
  obtain ⟨p, h, a, g, hcs, hp', hh', ha', hprotocol', hhost', haddress', hguest'⟩ := h'
  -- The text comes apart in one way only, and every part has one value.
  obtain ⟨rfl, hrest⟩ := Splits.unique ⟨rfl, hp⟩ ⟨hcs, hp'⟩
  obtain ⟨rfl, hrest'⟩ := Splits.unique ⟨rfl, hh⟩ ⟨hrest, hh'⟩
  obtain ⟨rfl, rfl⟩ := Splits.unique ⟨rfl, ha⟩ ⟨hrest', ha'⟩
  have heq : ∀ {α : Type} {x y : α} {value : Option α}, value = some x → value = some y → x = y :=
    fun hx hy => Option.some.inj (hx.symm.trans hy)
  rw [Rule.mk.injEq]
  exact ⟨heq (protocol?_eq_some_iff.2 hprotocol) (protocol?_eq_some_iff.2 hprotocol'),
    heq (port?_eq_some_iff.2 hhost) (port?_eq_some_iff.2 hhost'),
    heq (guestAddress?_eq_some_iff.2 haddress) (guestAddress?_eq_some_iff.2 haddress'),
    heq (port?_eq_some_iff.2 hguest) (port?_eq_some_iff.2 hguest')⟩

/-! ## Reading -/

/-- What is to be made of a text: a rule that it spells, or its first flaw. -/
def Reads (cs : List Char) : Except Flaw Rule → Prop
  | .ok r => Spells cs r
  | .error flaw => IsFirst cs flaw

/-- One step of reading: without a value the flaw is reported, with one reading goes on. -/
theorem reads_required {α : Type} {value : Option α} {rest : α → Except Flaw Rule}
    (hnone : value = none → IsFirst cs flaw) (hsome : ∀ a, value = some a → Reads cs (rest a)) :
    Reads cs (required value flaw >>= rest) := by
  cases value with
  | none => exact hnone rfl
  | some a => exact hsome a rfl

theorem forall_not_of_eq_none {α : Type} {value : Option α} {p : α → Prop}
    (hp : ∀ x, value = some x ↔ p x) (h : value = none) (x : α) : ¬ p x := by
  rw [← hp, h]
  exact nofun

theorem count_of_cut?_eq_none (h : cut? ':' cs = none) : cs.count ':' = 0 :=
  List.count_eq_zero.2 (cut?_eq_none_iff.1 h)

theorem reads_ofChars (cs : List Char) : Reads cs (Rule.ofChars cs) := by
  -- The protocol is looked at before it is known whether there is a colon at all.
  have hfirst := leads_iff.2 (rfl : ((cut? ':' cs).map Prod.fst).getD cs = _)
  refine reads_required ?_ ?_
  · intro hnone
    have hnone := forall_not_of_eq_none (fun _ => protocol?_eq_some_iff) hnone
    exact ⟨0, .unknownProtocol hfirst hnone, .zero cs⟩
  intro protocol hprotocol
  have hprotocol := protocol?_eq_some_iff.1 hprotocol
  have h₁ := NoneBefore.of_protocol hfirst hprotocol
  refine reads_required ?_ ?_
  · intro hnone
    have := count_of_cut?_eq_none hnone
    exact ⟨1, .missingHostPort (by omega), h₁⟩
  rintro ⟨first, rest⟩ hcut
  have hcs := splits_iff.2 hcut
  have h₂ := h₁.of_firstColon hcs
  refine reads_required ?_ ?_
  · intro hnone
    have := count_of_cut?_eq_none hnone
    have := hcs.count
    exact ⟨2, .missingGuestAddress (by omega), h₂⟩
  rintro ⟨host, rest'⟩ hcut'
  have hrest := splits_iff.2 hcut'
  -- Two colons are there, and the host port is read without regard to a third one.
  have h₃ := h₂.of_secondColon hcs hrest
  refine reads_required ?_ ?_
  · intro hnone
    have hnone := forall_not_of_eq_none (fun _ => port?_eq_some_iff) hnone
    exact ⟨3, .invalidHostPort hcs hrest hnone, h₃⟩
  intro hostPort hhost
  have hhost := port?_eq_some_iff.1 hhost
  have h₄ := h₃.of_hostPort hcs hrest hhost
  refine reads_required ?_ ?_
  · intro hnone
    have := count_of_cut?_eq_none hnone
    have := hcs.count
    have := hrest.count
    exact ⟨4, .missingGuestPort (by omega), h₄⟩
  rintro ⟨address, guest⟩ hcut''
  have hrest' := splits_iff.2 hcut''
  -- Whatever stands behind the third colon is the guest port, further colons included.
  have h₅ := h₄.of_thirdColon hcs hrest hrest'
  refine reads_required ?_ ?_
  · intro hnone
    have hnone := forall_not_of_eq_none (fun _ => guestAddress?_eq_some_iff) hnone
    exact ⟨5, .invalidAddress hcs hrest hrest' hnone, h₅⟩
  intro guestAddress haddress
  have haddress := guestAddress?_eq_some_iff.1 haddress
  have h₆ := h₅.of_address hcs hrest hrest' haddress
  refine reads_required ?_ ?_
  · intro hnone
    have hnone := forall_not_of_eq_none (fun _ => port?_eq_some_iff) hnone
    exact ⟨6, .invalidGuestPort hcs hrest hrest' hnone, h₆⟩
  intro guestPort hguest
  have hguest := port?_eq_some_iff.1 hguest
  refine ⟨first, host, address, guest, ?_, hcs.2, hrest.2, hrest'.2, ?_, hhost, haddress, hguest⟩
  · rw [← hrest'.1, ← hrest.1, ← hcs.1]
  · rwa [hfirst.unique (.inr ⟨rest, hcs⟩)] at hprotocol

theorem ofChars_ok_iff : Rule.ofChars cs = .ok r ↔ Spells cs r := by
  have hreads := reads_ofChars cs
  cases hread : Rule.ofChars cs with
  | ok r' =>
    rw [hread] at hreads
    constructor
    · intro h
      cases h
      exact hreads
    · intro h
      rw [h.unique hreads]
  | error flaw =>
    rw [hread] at hreads
    obtain ⟨stage, happlies, -⟩ := hreads
    constructor
    · nofun
    · intro h
      exact absurd happlies h.noneBefore.not_applies

theorem ofChars_error_iff : Rule.ofChars cs = .error flaw ↔ IsFirst cs flaw := by
  have hreads := reads_ofChars cs
  cases hread : Rule.ofChars cs with
  | ok r =>
    rw [hread] at hreads
    constructor
    · nofun
    · rintro ⟨stage, happlies, -⟩
      exact absurd happlies hreads.noneBefore.not_applies
  | error flaw' =>
    rw [hread] at hreads
    constructor
    · intro h
      cases h
      exact hreads
    · intro h
      rw [h.unique hreads]

theorem parse_ok_iff {text : String} : Rule.parse text = .ok r ↔ Spells text.toList r := by
  rw [← ofChars_ok_iff, Rule.parse]
  cases Rule.ofChars text.toList with
  | ok | error => simp [Except.mapError]

theorem parse_error_iff {text : String} {e : Malformed} :
    Rule.parse text = .error e ↔ e.rule = text ∧ IsFirst text.toList e.flaw := by
  rw [← ofChars_error_iff, Rule.parse]
  obtain ⟨rule, flaw⟩ := e
  cases Rule.ofChars text.toList with
  | ok => simp [Except.mapError]
  | error => simp [Except.mapError, eq_comm]

/-- Reading takes the texts that the grammar says, each for the rule that it spells. Every other
text it refuses with the first of its flaws in a fixed order: an unknown protocol, the missing host
port, the missing guest address, an invalid host port, the missing guest port, an invalid address
and an invalid guest port. -/
theorem parse_spells (text : String) :
    (∀ r, Rule.parse text = .ok r ↔ Spells text.toList r) ∧
      ∀ e, Rule.parse text = .error e ↔ e.rule = text ∧ IsFirst text.toList e.flaw :=
  ⟨fun _ => parse_ok_iff, fun _ => parse_error_iff⟩

/-- A base of its own for each port, white space, a sign and both defaults. -/
example : Rule.parse ":\t+0x1F90::010" = .ok ⟨.tcp, 8080, ⟨10, 0, 2, 15⟩, 8⟩ := by decide +kernel

end GuestNic.Forwarding
