import GuestNic.Proofs.Forwarding.Grammar

/-!
# Rules in writing

Among the spellings of a rule there is one without white space, signs, other bases and defaults.
That is the one in which the rule is written, and it is read as the same rule again.
-/

namespace GuestNic.Forwarding

open Text

variable {cs : List Char} {r : Rule}

/-! ## The canonical spelling -/

/-- The protocol is named, the address is there, and the ports are plain numerals. -/
def IsCanonical (cs : List Char) : Prop :=
  ∃ protocol host address guest hostPort x guestPort,
    cs = protocol ++ ':' :: (host ++ ':' :: (address ++ ':' :: guest)) ∧
    (protocol = ['t', 'c', 'p'] ∨ protocol = ['u', 'd', 'p']) ∧ IsPlain host hostPort ∧
    Ipv4.IsAddress address x ∧ IsPlain guest guestPort

theorem render_toList (r : Rule) :
    r.render.toList = r.protocol.render.toList ++ ':' :: (Nat.toDigits 10 r.hostPort.toNat ++
      ':' :: (r.guestAddress.render.toList ++ ':' :: Nat.toDigits 10 r.guestPort.toNat)) := by
  have hcolon : (toString ":").toList = [':'] := rfl
  simp only [Rule.render, String.toList_append, Nat.toString_eq_ofList_toDigits,
    String.toList_ofList, List.append_assoc, hcolon, List.singleton_append]
  rfl

theorem isCanonical_render (r : Rule) : IsCanonical r.render.toList := by
  refine ⟨_, _, _, _, _, r.guestAddress, _, render_toList r, ?_, isPlain_toDigits _,
    Ipv4.isAddress_iff.2 rfl, isPlain_toDigits _⟩
  cases r.protocol with
  | tcp => exact .inl rfl
  | udp => exact .inr rfl

theorem spellsProtocol_render (x : Protocol) : SpellsProtocol x.render.toList x := by
  cases x with
  | tcp => exact .tcp
  | udp => exact .udp

theorem not_mem_colon_render (x : Protocol) : ':' ∉ x.render.toList := by
  cases x <;> decide

/-- How a rule is written is a spelling of it, if its ports are ports. -/
theorem spells_render (hhost : r.hostPort ≠ 0) (hguest : r.guestPort ≠ 0) :
    Spells r.render.toList r := by
  have haddress : Ipv4.IsAddress r.guestAddress.render.toList r.guestAddress :=
    Ipv4.isAddress_iff.2 rfl
  refine ⟨_, _, _, _, render_toList r, not_mem_colon_render r.protocol,
    (isPlain_toDigits _).not_mem_colon, haddress.not_mem_colon, spellsProtocol_render r.protocol,
    ?_, .address haddress, ?_⟩
  · exact (isPort_iff_of_isPlain (isPlain_toDigits _)).2 ⟨rfl, hhost⟩
  · exact (isPort_iff_of_isPlain (isPlain_toDigits _)).2 ⟨rfl, hguest⟩

theorem IsPort.ne_zero {port : UInt16} (h : IsPort cs port) : port ≠ 0 := by
  obtain ⟨_, _, _, _, _, -, -, -, -, -, hne⟩ := h
  exact hne

/-- Both ports of a rule that has a spelling are ports. -/
theorem Spells.ports_ne_zero (h : Spells cs r) : r.hostPort ≠ 0 ∧ r.guestPort ≠ 0 := by
  obtain ⟨_, _, _, _, -, -, -, -, -, hhost, -, hguest⟩ := h
  exact ⟨hhost.ne_zero, hguest.ne_zero⟩

theorem SpellsProtocol.eq_render {x : Protocol} (h : SpellsProtocol cs x) (hne : cs ≠ []) :
    cs = x.render.toList := by
  cases h with
  | default => exact absurd rfl hne
  | tcp | udp => rfl

theorem SpellsAddress.eq_render {x : Ipv4} (h : SpellsAddress cs x) (hne : cs ≠ []) :
    cs = x.render.toList := by
  cases h with
  | default => exact absurd rfl hne
  | address h => exact Ipv4.isAddress_iff.1 h

theorem IsPort.eq_toDigits {port : UInt16} {n : Nat} (h : IsPort cs port) (hplain : IsPlain cs n) :
    cs = Nat.toDigits 10 port.toNat := by
  rw [← ((isPort_iff_of_isPlain hplain).1 h).1]
  exact isPlain_iff.1 hplain

/-- Of the spellings of a rule the canonical one is how it is written. -/
theorem Spells.eq_render (h : Spells cs r) (hcanonical : IsCanonical cs) :
    cs = r.render.toList := by
  obtain ⟨protocol, host, address, guest, hcs, hp, hh, ha, hprotocol, hhost, haddress, hguest⟩ := h
  obtain ⟨p, h, a, g, n, x, m, rfl, hp', hh', ha', hg'⟩ := hcanonical
  -- No canonical part has a colon inside, so these are the parts that were read.
  have hcolon : ':' ∉ p := by rcases hp' with rfl | rfl <;> decide
  obtain ⟨rfl, hrest⟩ := Splits.unique ⟨rfl, hcolon⟩ ⟨hcs, hp⟩
  obtain ⟨rfl, hrest'⟩ := Splits.unique ⟨rfl, hh'.not_mem_colon⟩ ⟨hrest, hh⟩
  obtain ⟨rfl, rfl⟩ := Splits.unique ⟨rfl, ha'.not_mem_colon⟩ ⟨hrest', ha⟩
  have hnamed : p ≠ [] := by rcases hp' with rfl | rfl <;> exact List.cons_ne_nil _ _
  have hplace : a ≠ [] := by
    obtain ⟨_, _, _, _, rfl, -⟩ := ha'
    exact List.append_ne_nil_of_right_ne_nil _ (List.cons_ne_nil _ _)
  rw [render_toList, ← hprotocol.eq_render hnamed, ← haddress.eq_render hplace,
    ← hhost.eq_toDigits hh', ← hguest.eq_toDigits hg']

/-! ## Reading what was written -/

/-- Writing and reading are inverse to each other. A rule is read again from how it is written just
if both its ports are ports, and the address may be any. Whatever text a rule was read from, its
ports are ports and it is written in the canonical form; a canonical text is written again as it
is. So two texts are read as the same rule just if their rules are written alike. -/
theorem parse_render :
    (∀ r : Rule, Rule.parse r.render = .ok r ↔ r.hostPort ≠ 0 ∧ r.guestPort ≠ 0) ∧
      (∀ text r, Rule.parse text = .ok r →
        (r.hostPort ≠ 0 ∧ r.guestPort ≠ 0) ∧ Rule.parse r.render = .ok r ∧
          IsCanonical r.render.toList ∧ (IsCanonical text.toList ↔ text = r.render)) ∧
      ∀ text text' r r', Rule.parse text = .ok r → Rule.parse text' = .ok r' →
        (r = r' ↔ r.render = r'.render) := by
  have hagain : ∀ r : Rule, Rule.parse r.render = .ok r ↔ r.hostPort ≠ 0 ∧ r.guestPort ≠ 0 := by
    intro r
    rw [parse_ok_iff]
    exact ⟨Spells.ports_ne_zero, fun h => spells_render h.1 h.2⟩
  refine ⟨hagain, ?_, ?_⟩
  · intro text r h
    have hspells := parse_ok_iff.1 h
    refine ⟨hspells.ports_ne_zero, (hagain r).2 hspells.ports_ne_zero, isCanonical_render r, ?_⟩
    constructor
    · intro hcanonical
      exact String.toList_inj.1 (hspells.eq_render hcanonical)
    · rintro rfl
      exact isCanonical_render r
  · intro text text' r r' h h'
    constructor
    · rintro rfl
      rfl
    · intro hrender
      have hr := (hagain r).2 (parse_ok_iff.1 h).ports_ne_zero
      have hr' := (hagain r').2 (parse_ok_iff.1 h').ports_ne_zero
      rw [hrender, hr'] at hr
      exact (Except.ok.inj hr).symm

end GuestNic.Forwarding
