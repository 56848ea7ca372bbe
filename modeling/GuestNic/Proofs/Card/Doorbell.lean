import GuestNic.Card.Doorbell
import Mathlib.Data.List.Basic

/-!
# Calls at a doorbell

What each call at a doorbell does and answers, and what the doorbell holds after any calls:
`Doorbell.HoldsLast` ties its three fields to what was rung for and taken so far.
-/

namespace GuestNic

/-! ## Calls -/

/-- Something done at a doorbell. -/
inductive BellCall where
  | ring (d : Delivery)
  | take
  | acknowledge
  | close
  /-- Someone comes to wait. -/
  | wait

inductive BellAnswer where
  | done
  | rung (r : Except DoorbellClosed Unit)
  | taken (d : Option Delivery)
  | acknowledged (wasPending : Bool)

/-- The delivery that was rung for. -/
def BellCall.rung? : BellCall → BellAnswer → Option Delivery
  | .ring d, .rung (.ok _) => some d
  | _, _ => none

def BellAnswer.taken? : BellAnswer → Option Delivery
  | .taken d => d
  | _ => none

namespace Doorbell

/-- What a call does to the doorbell itself. -/
def call (b : Doorbell) : BellCall → Doorbell × BellAnswer
  | .ring d =>
    match b.ring d with
    | .ok b => (b, .rung (.ok ()))
    | .error e => (b, .rung (.error e))
  | .take =>
    let (b, d) := b.take
    (b, .taken d)
  | .acknowledge =>
    let (b, wasPending) := b.acknowledge
    (b, .acknowledged wasPending)
  | .close => (b.close, .done)
  | .wait => (b, .done)

variable {b : Doorbell}

theorem call_ring_of_isClosed (h : b.isClosed = true) (d : Delivery) :
    b.call (.ring d) = (b, .rung (.error ⟨⟩)) := by
  simp only [call, ring_of_isClosed h]

theorem call_ring_of_not_isClosed (h : b.isClosed = false) (d : Delivery) :
    b.call (.ring d) = ({ b with isPending := true, delivery := some d }, .rung (.ok ())) := by
  simp only [call, ring_of_not_isClosed h]

theorem call_take_of_isPending (h : b.isPending = true) :
    b.call .take = ({ b with delivery := none }, .taken b.delivery) := by
  simp only [call, take, h, ↓reduceIte]

theorem call_take_of_not_isPending (h : b.isPending = false) : b.call .take = (b, .taken none) := by
  simp only [call, take, h, Bool.false_eq_true, ↓reduceIte]

theorem call_acknowledge_of_isPending (h : b.isPending = true) :
    b.call .acknowledge =
      ({ b with isPending := false, delivery := none }, .acknowledged true) := by
  simp only [call, acknowledge, h, ↓reduceIte]

theorem call_acknowledge_of_not_isPending (h : b.isPending = false) :
    b.call .acknowledge = (b, .acknowledged false) := by
  simp only [call, acknowledge, h, Bool.false_eq_true, ↓reduceIte]

theorem call_close_of_isClosed (h : b.isClosed = true) : b.call .close = (b, .done) := by
  obtain ⟨isPending, delivery, isClosed⟩ := b
  cases h
  rfl

/-- What could be taken can still be taken when the doorbell is closed. -/
theorem take_close (b : Doorbell) : b.close.take.2 = b.take.2 := by
  cases hp : b.isPending <;> simp [take, close, hp]

/-- Nothing but to close closes, and nothing opens again. -/
theorem call_isClosed_iff {k : BellCall} :
    (b.call k).1.isClosed = true ↔ b.isClosed = true ∨ k = .close := by
  cases k with
  | close => simp [call, close]
  | ring d =>
    cases hc : b.isClosed with
    | true => simp [call_ring_of_isClosed hc, hc]
    | false => simp [call_ring_of_not_isClosed hc, hc]
  | take =>
    cases hp : b.isPending with
    | true => simp [call_take_of_isPending hp]
    | false => simp [call_take_of_not_isPending hp]
  | acknowledge => simp [call, acknowledge_isClosed]
  | wait => simp [call]

/-- Only to take can give a delivery, the one that is held and outstanding. -/
theorem call_eq_taken_iff {k : BellCall} {d : Delivery} :
    (b.call k).2 = .taken (some d) ↔
      k = .take ∧ b.isPending = true ∧ b.delivery = some d := by
  cases k with
  | take =>
    cases hp : b.isPending with
    | true => simp [call_take_of_isPending hp]
    | false => simp [call_take_of_not_isPending hp]
  | ring d' =>
    cases hc : b.isClosed with
    | true => simp [call_ring_of_isClosed hc]
    | false => simp [call_ring_of_not_isClosed hc]
  | acknowledge | close | wait => simp [call]

/-- To acknowledge gives `false` when nothing is outstanding. -/
theorem of_call_eq_acknowledged_false {k : BellCall} (h : (b.call k).2 = .acknowledged false) :
    k = .acknowledge ∧ b.isPending = false := by
  cases k with
  | acknowledge =>
    cases hp : b.isPending with
    | true =>
      rw [call_acknowledge_of_isPending hp] at h
      cases h
    | false => exact ⟨rfl, rfl⟩
  | ring d =>
    cases hc : b.isClosed with
    | true =>
      rw [call_ring_of_isClosed hc] at h
      cases h
    | false =>
      rw [call_ring_of_not_isClosed hc] at h
      cases h
  | take | close | wait => cases h

/-- To ring makes something outstanding, unless the doorbell is closed; to acknowledge ends that,
and nothing else does either. -/
theorem call_isPending_iff {k : BellCall} :
    (b.call k).1.isPending = true ↔
      (∃ d, k = .ring d) ∧ b.isClosed = false ∨ k ≠ .acknowledge ∧ b.isPending = true := by
  cases k with
  | ring d =>
    cases hc : b.isClosed with
    | true => simp [call_ring_of_isClosed hc]
    | false => simp [call_ring_of_not_isClosed hc]
  | take =>
    cases hp : b.isPending with
    | true => simp [call_take_of_isPending hp, hp]
    | false => simp [call_take_of_not_isPending hp, hp]
  | acknowledge =>
    cases hp : b.isPending with
    | true => simp [call_acknowledge_of_isPending hp]
    | false => simp [call_acknowledge_of_not_isPending hp, hp]
  | close | wait => simp [call, close]

/-- A ring that is heard leaves its delivery to be taken. -/
theorem of_call_eq_rung_ok {k : BellCall} (h : (b.call k).2 = .rung (.ok ())) :
    ∃ d, k = .ring d ∧ b.isClosed = false ∧
      (b.call k).1 = { b with isPending := true, delivery := some d } := by
  cases k with
  | ring d =>
    cases hc : b.isClosed with
    | true =>
      rw [call_ring_of_isClosed hc] at h
      cases h
    | false => exact ⟨d, rfl, rfl, by rw [call_ring_of_not_isClosed hc, hc]⟩
  | take | acknowledge | close | wait => cases h

/-- To acknowledge gives `true` when something is outstanding, and leaves nothing. -/
theorem of_call_eq_acknowledged_true {k : BellCall} (h : (b.call k).2 = .acknowledged true) :
    k = .acknowledge ∧ b.isPending = true ∧
      (b.call k).1 = { b with isPending := false, delivery := none } := by
  cases k with
  | acknowledge =>
    cases hp : b.isPending with
    | true => exact ⟨rfl, rfl, congrArg Prod.fst (call_acknowledge_of_isPending hp)⟩
    | false =>
      rw [call_acknowledge_of_not_isPending hp] at h
      cases h
  | ring d =>
    cases hc : b.isClosed with
    | true =>
      rw [call_ring_of_isClosed hc] at h
      cases h
    | false =>
      rw [call_ring_of_not_isClosed hc] at h
      cases h
  | take | close | wait => cases h

/-- A wait ends well when nothing is outstanding, and otherwise when the doorbell is closed. -/
theorem awaited_eq_some_iff {found : Except DoorbellClosed Unit} :
    b.awaited = some found ↔
      found = .ok () ∧ b.isPending = false ∨
        found = .error ⟨⟩ ∧ b.isPending = true ∧ b.isClosed = true := by
  cases hp : b.isPending <;> cases hc : b.isClosed <;> simp [awaited, hp, hc, eq_comm]

/-! ## The delivery -/

/-- The doorbell holds the last delivery that was rung for, as long as it is outstanding and nobody
has taken it. What was taken is noted with the number of rings before. -/
structure HoldsLast (b : Doorbell) (rings : List Delivery) (takes : List (Nat × Delivery)) :
    Prop where
  rung : b.isPending = true → rings ≠ []
  delivery : b.delivery =
    if b.isPending = true ∧ rings.length ∉ takes.map Prod.fst then rings.getLast? else none
  /-- No ring is taken twice. -/
  ordered : (takes.map Prod.fst).Pairwise (· < ·)
  heard : ∀ n d, (n, d) ∈ takes → n ≤ rings.length ∧ (rings.take n).getLast? = some d

variable {rings : List Delivery} {takes : List (Nat × Delivery)}

namespace HoldsLast

theorem le_length (h : b.HoldsLast rings takes) {n : Nat} (hn : n ∈ takes.map Prod.fst) :
    n ≤ rings.length := by
  obtain ⟨⟨m, d⟩, hmem, rfl⟩ := List.mem_map.1 hn
  exact (h.heard m d hmem).1

/-- What is held is outstanding, was rung for last and has not been taken since. -/
theorem delivery_eq_some_iff (h : b.HoldsLast rings takes) {d : Delivery} :
    b.delivery = some d ↔
      b.isPending = true ∧ rings.length ∉ takes.map Prod.fst ∧ rings.getLast? = some d := by
  rw [h.delivery]
  split
  · rename_i huntaken
    exact ⟨fun hd => ⟨huntaken.1, huntaken.2, hd⟩, fun hd => hd.2.2⟩
  · rename_i htaken
    refine ⟨fun hd => (by cases hd), fun hd => absurd ⟨hd.1, hd.2.1⟩ htaken⟩

theorem ring (h : b.HoldsLast rings takes) (d : Delivery) :
    ({ b with isPending := true, delivery := some d } : Doorbell).HoldsLast (rings ++ [d])
      takes where
  rung _ := List.append_ne_nil_of_right_ne_nil _ (List.cons_ne_nil d [])
  delivery := by
    -- Whatever has been taken was rung for earlier.
    have huntaken : (rings ++ [d]).length ∉ takes.map Prod.fst := by
      intro hmem
      have hle := h.le_length hmem
      rw [List.length_append, List.length_singleton] at hle
      omega
    rw [if_pos ⟨rfl, huntaken⟩, List.getLast?_concat]
  ordered := h.ordered
  heard n d' hmem := by
    obtain ⟨hle, hlast⟩ := h.heard n d' hmem
    refine ⟨?_, ?_⟩
    · rw [List.length_append]
      omega
    · rwa [List.take_append_of_le_length hle]

theorem take (h : b.HoldsLast rings takes) :
    ({ b with delivery := none } : Doorbell).HoldsLast rings
      (takes ++ b.delivery.toList.map fun d => (rings.length, d)) := by
  cases hd : b.delivery with
  | none =>
    rw [Option.toList_none, List.map_nil, List.append_nil]
    exact ⟨h.rung, hd ▸ h.delivery, h.ordered, h.heard⟩
  | some d =>
    obtain ⟨-, huntaken, hlast⟩ := h.delivery_eq_some_iff.1 hd
    -- The last ring is noted now, so its delivery cannot be given again.
    have hnumbers : (takes ++ (some d).toList.map fun d => (rings.length, d)).map Prod.fst =
        takes.map Prod.fst ++ [rings.length] := List.map_append
    refine ⟨h.rung, ?_, ?_, ?_⟩
    · rw [hnumbers]
      exact (if_neg fun huntaken => huntaken.2 (List.mem_append_right _ List.mem_cons_self)).symm
    · rw [hnumbers, List.pairwise_append]
      refine ⟨h.ordered, List.pairwise_singleton _ _, ?_⟩
      rintro n hn m hm
      rw [List.mem_singleton.1 hm]
      exact Nat.lt_of_le_of_ne (h.le_length hn) fun heq => huntaken (heq ▸ hn)
    · intro n d' hmem
      rcases List.mem_append.1 hmem with hold | hnew
      · exact h.heard n d' hold
      · obtain ⟨rfl, rfl⟩ := Prod.mk.inj (List.mem_singleton.1 hnew)
        exact ⟨Nat.le_refl _, by rw [List.take_length, hlast]⟩

theorem acknowledge (h : b.HoldsLast rings takes) :
    ({ b with isPending := false, delivery := none } : Doorbell).HoldsLast rings takes where
  rung hpending := by cases hpending
  delivery := (if_neg fun hpending => by cases hpending.1).symm
  ordered := h.ordered
  heard := h.heard

theorem close (h : b.HoldsLast rings takes) : b.close.HoldsLast rings takes :=
  ⟨h.rung, h.delivery, h.ordered, h.heard⟩

/-- Nothing was rung for and nothing taken. -/
theorem same (h : b.HoldsLast rings takes) : b.HoldsLast (rings ++ []) (takes ++ []) := by
  rwa [List.append_nil, List.append_nil]

/-- After a call the doorbell still holds what it should. -/
theorem call (h : b.HoldsLast rings takes) (k : BellCall) :
    (b.call k).1.HoldsLast (rings ++ (k.rung? (b.call k).2).toList)
      (takes ++ (b.call k).2.taken?.toList.map fun d => (rings.length, d)) := by
  cases k with
  | ring d =>
    cases hc : b.isClosed with
    | true =>
      rw [call_ring_of_isClosed hc]
      exact h.same
    | false =>
      have hrung := h.ring d
      rw [← List.append_nil takes] at hrung
      rw [call_ring_of_not_isClosed hc]
      exact hrung
  | take =>
    cases hp : b.isPending with
    | false =>
      rw [call_take_of_not_isPending hp]
      exact h.same
    | true =>
      rw [call_take_of_isPending hp]
      show HoldsLast _ (rings ++ []) _
      rw [List.append_nil]
      exact h.take
  | acknowledge =>
    cases hp : b.isPending with
    | false =>
      rw [call_acknowledge_of_not_isPending hp]
      exact h.same
    | true =>
      rw [call_acknowledge_of_isPending hp]
      exact h.acknowledge.same
  | close => exact h.close.same
  | wait => exact h.same

end HoldsLast

end Doorbell

end GuestNic
