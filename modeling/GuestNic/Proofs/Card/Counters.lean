import GuestNic.Card.Stats
import GuestNic.Proofs.Nat.Fate
import Mathlib.Data.Nat.Basic
import Mathlib.Order.Basic

/-!
# Counters

Every counter of a card and of its link belongs to one of two books: sending moves those of the one,
receiving those of the other. One snapshot is below another if none of its counters is above its
counterpart.
-/

namespace GuestNic

namespace CardCounters

/-- The book of what is sent. -/
def sending (c : CardCounters) : CardCounters where
  txPackets := c.txPackets
  txRefused := c.txRefused
  txTooLong := c.txTooLong

/-- The book of what is received. -/
def receiving (c : CardCounters) : CardCounters where
  rxPackets := c.rxPackets
  rxDropped := c.rxDropped
  interruptsRaised := c.interruptsRaised
  interruptsServiced := c.interruptsServiced
  interruptsSpurious := c.interruptsSpurious
  rxFailed := c.rxFailed

instance : Preorder CardCounters :=
  Preorder.lift fun c => (c.txPackets, c.txRefused, c.txTooLong, c.rxPackets, c.rxDropped,
    c.interruptsRaised, c.interruptsServiced, c.interruptsSpurious)

theorem le_iff {a b : CardCounters} :
    a ≤ b ↔ a.txPackets ≤ b.txPackets ∧ a.txRefused ≤ b.txRefused ∧ a.txTooLong ≤ b.txTooLong ∧
      a.rxPackets ≤ b.rxPackets ∧ a.rxDropped ≤ b.rxDropped ∧
      a.interruptsRaised ≤ b.interruptsRaised ∧ a.interruptsServiced ≤ b.interruptsServiced ∧
      a.interruptsSpurious ≤ b.interruptsSpurious := Iff.rfl

end CardCounters

namespace Traffic

/-- The book of what is sent. -/
def sending (t : Traffic) : Traffic where
  txFrames := t.txFrames
  txBytes := t.txBytes
  txErrors := t.txErrors

/-- The book of what is received. -/
def receiving (t : Traffic) : Traffic where
  rxFrames := t.rxFrames
  rxBytes := t.rxBytes
  rxRunts := t.rxRunts
  rxErrors := t.rxErrors

instance : Preorder Traffic :=
  Preorder.lift fun t =>
    (t.rxFrames, t.rxBytes, t.rxRunts, t.rxErrors, t.txFrames, t.txBytes, t.txErrors)

theorem le_iff {a b : Traffic} :
    a ≤ b ↔ a.rxFrames ≤ b.rxFrames ∧ a.rxBytes ≤ b.rxBytes ∧ a.rxRunts ≤ b.rxRunts ∧
      a.rxErrors ≤ b.rxErrors ∧ a.txFrames ≤ b.txFrames ∧ a.txBytes ≤ b.txBytes ∧
      a.txErrors ≤ b.txErrors := Iff.rfl

end Traffic

namespace RelayCounters

instance : Preorder RelayCounters :=
  Preorder.lift fun r => (r.framesIn, r.framesOut, r.framesDropped, r.corruptRecords)

theorem le_iff {a b : RelayCounters} :
    a ≤ b ↔ a.framesIn ≤ b.framesIn ∧ a.framesOut ≤ b.framesOut ∧
      a.framesDropped ≤ b.framesDropped ∧ a.corruptRecords ≤ b.corruptRecords := Iff.rfl

theorem rel_refl (relay : Option RelayCounters) : Option.Rel (· ≤ ·) relay relay := by
  cases relay with
  | none => exact .none
  | some r => exact .some le_rfl

theorem isSome_of_rel {relay relay' : Option RelayCounters}
    (h : Option.Rel (· ≤ ·) relay relay') : relay'.isSome = relay.isSome := by
  cases h <;> rfl

end RelayCounters

namespace CardStats

/-- A relay does not come or go. -/
instance : Preorder CardStats where
  le s s' := s.card ≤ s'.card ∧ s.link ≤ s'.link ∧ Option.Rel (· ≤ ·) s.relay s'.relay
  le_refl s := ⟨le_rfl, le_rfl, RelayCounters.rel_refl s.relay⟩
  le_trans s s' s'' := by
    rintro ⟨hcard, hlink, hrelay⟩ ⟨hcard', hlink', hrelay'⟩
    refine ⟨le_trans hcard hcard', le_trans hlink hlink', ?_⟩
    generalize s.relay = relay, s'.relay = relay', s''.relay = relay'' at hrelay hrelay' ⊢
    cases hrelay with
    | none => exact hrelay'
    | some hle =>
      cases hrelay' with
      | some hle' => exact .some (le_trans hle hle')

theorem le_iff {s s' : CardStats} :
    s ≤ s' ↔ s.card ≤ s'.card ∧ s.link ≤ s'.link ∧ Option.Rel (· ≤ ·) s.relay s'.relay := Iff.rfl

end CardStats

namespace Relay

variable {σ : Type} (net : NetStack σ)

theorem counters_le_emitAll (counters : RelayCounters) (pipe : StackPipe) (frames : List Bytes) :
    counters ≤ (emitAll counters pipe frames).1 := by
  rw [(emitAll_emits counters pipe frames).counters]
  exact RelayCounters.le_iff.2 ⟨le_rfl, Nat.le_add_right _ _, Nat.le_add_right _ _, le_rfl⟩

theorem counters_le_accept (r : Relay σ) (pipe : StackPipe) (datagram : Bytes) :
    r.counters ≤ (accept net r pipe datagram).1.counters := by
  unfold accept
  split
  · refine le_trans ?_ (counters_le_emitAll _ pipe _)
    exact RelayCounters.le_iff.2 ⟨Nat.le_succ _, le_rfl, le_rfl, le_rfl⟩
  · exact RelayCounters.le_iff.2 ⟨le_rfl, le_rfl, le_rfl, Nat.le_succ _⟩

theorem counters_le_takeInput (r : Relay σ) (pipe : StackPipe) :
    r.counters ≤ (takeInput net r pipe).1.counters := by
  unfold takeInput
  split
  · exact le_rfl
  · split
    · exact counters_le_accept net r _ _
    · split <;> exact le_rfl

theorem counters_le_serve (r : Relay σ) (pipe : StackPipe) :
    r.counters ≤ (serve net r pipe).1.counters :=
  counters_le_emitAll r.counters pipe _

end Relay
end GuestNic
