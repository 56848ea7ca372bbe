import GuestNic.Proofs.Card.Quiescence
import GuestNic.Proofs.Card.SendingHalf

/-!
# Sending and receiving on queues of their own

The steps of sending and of receiving of a card between two queues, in any order, each of them alone
or with everything settled behind it. Both sides of such a history can be told one by one
(`passAll_apart`), since a step of the one comes to the same before and after a step of the other
(`pass_comm`).
-/

namespace GuestNic

/-- How long a card is left to itself after a step. -/
inductive Pace where
  /-- Not at all. The rounds of reception are steps of their own. -/
  | single
  /-- Until everything has settled. -/
  | settled

namespace Card

variable {σ : Type}

/-! ## Paces -/

variable (net : NetStack σ)

/-- A step, and what the card does by itself behind it. -/
def pass (pace : Pace) (c : Card σ) (s : Passage) : Card σ × Sight :=
  let (c, answer, events) := c.passOnce s
  match pace with
  | .single => (c, answer, events)
  | .settled =>
    let (c, more) := c.settle net
    (c, answer, events ++ more)

/-- Steps one after the other, with what is seen on either side. -/
def passAll (pace : Pace) : Card σ → List Passage → Card σ × List (Sight ⊕ Sight)
  | c, [] => (c, [])
  | c, s :: ss =>
    let (c, sight) := c.pass net pace s
    let (c, sights) := passAll pace c ss
    (c, s.map (fun _ => sight) (fun _ => sight) :: sights)

variable {c : Card σ}

/-! ## Settling -/

variable (half : SendingHalf) {pace : Pace}

theorem settle_of_raw (h : c.link.port.kind = .raw) :
    c.settle net = receiveTimes (c.link.port.backlog + 1) c := by
  have hrelay : c.runRelay net = c := by
    unfold runRelay
    split
    · rename_i hp _
      rw [hp] at h
      cases h
    · rfl
  simp only [settle, hrelay]

theorem settle_withSending (h : c.link.port.kind = .raw) :
    (c.withSending half).settle net =
      ((c.settle net).1.withSending half, (c.settle net).2) := by
  have hkind : (c.withSending half).link.port.kind = .raw :=
    (c.link.port.kind_withOutgoing half.outgoing).trans h
  have hbacklog : (c.withSending half).link.port.backlog = c.link.port.backlog :=
    c.link.port.backlog_withOutgoing half.outgoing
  rw [settle_of_raw net h, settle_of_raw net hkind, hbacklog]
  exact receiveTimes_refit (resending_pollsAlike half) rfl (fun _ => rfl) _ c

/-- A card between two queues that is left to itself for as long as the pace says. -/
structure Rests (pace : Pace) (c : Card σ) : Prop extends c.IsTwoWay where
  isIdle : match pace with
    | .single => True
    | .settled => c.receive = (c, [])

theorem IsTwoWay.passOnce (h : c.IsTwoWay) (s : Passage) : (c.passOnce s).1.IsTwoWay := by
  cases s with
  | inl s =>
    rw [passOnce_sending h]
    exact h.withSending (SendingHalf.pass_isLive h.isLive s)
  | inr r =>
    refine ⟨?_, passOnce_isRaw h r⟩
    cases r with
    | attach type routine =>
      exact h.of_prolongs (perform_prolongs h.isQueue (.attach type routine))
    | detach type => exact h.of_prolongs (perform_prolongs h.isQueue (.detach type))
    | reset => exact h.of_prolongs (perform_prolongs h.isQueue .reset)
    | arrive peer frame => exact h.of_prolongs (perform_prolongs h.isQueue (.arrive peer frame))
    | service => exact (service_balanced h.toIsServing).isServing
    | receive => exact (receive_balanced h.toIsServing).isServing

theorem IsTwoWay.receiveTimes (h : c.IsTwoWay) (n : Nat) : (Card.receiveTimes n c).1.IsTwoWay := by
  induction n generalizing c with
  | zero => exact h
  | succ n ih => exact ih (h.passOnce (.inr .receive))

theorem Rests.pass (h : c.Rests pace) (s : Passage) : (c.pass net pace s).1.Rests pace := by
  have honce := h.toIsTwoWay.passOnce s
  cases pace with
  | single => exact ⟨honce, trivial⟩
  | settled =>
    have hsettled : ((c.passOnce s).1.settle net).1.IsTwoWay := by
      rw [settle_of_raw net honce.isRaw]
      exact honce.receiveTimes _
    refine ⟨hsettled, ?_⟩
    -- Settling ends with a ring outstanding or with nothing left to read.
    have hquiet := after_settling net honce.toIsServing
    have hafter : (c.passOnce s).1.after net ((c.passOnce s).1.settling net) =
        ((c.passOnce s).1.settle net).1 := by rw [settle_eq]
    rw [hafter] at hquiet
    rcases hquiet with hpending | hqueue
    · exact receive_of_resting (hsettled.isResting_eq.trans hpending)
    · exact receive_of_queue_nil hsettled.isQueue hqueue

theorem pass_sending (h : c.Rests pace) (s : SendingStep) :
    c.pass net pace (.inl s) =
      (c.withSending (c.sendingHalf.pass s).1, (c.sendingHalf.pass s).2) := by
  have honce := passOnce_sending h.toIsTwoWay s
  cases pace with
  | single => simp only [Card.pass, honce]
  | settled =>
    -- What is sent gives reception nothing to do.
    have hidle : (c.withSending (c.sendingHalf.pass s).1).receive =
        (c.withSending (c.sendingHalf.pass s).1, []) := by
      rw [receive_withSending, h.isIdle]
    have hsettle : (c.withSending (c.sendingHalf.pass s).1).settle net =
        (c.withSending (c.sendingHalf.pass s).1, []) := by
      rw [settle_withSending net _ h.isRaw, settle_of_raw net h.isRaw, receiveTimes_of_eq h.isIdle]
    simp only [Card.pass, honce, hsettle, List.append_nil]

theorem pass_receiving (h : c.Rests pace) (r : ReceivingStep) :
    (c.withSending half).pass net pace (.inr r) =
      ((c.pass net pace (.inr r)).1.withSending half, (c.pass net pace (.inr r)).2) := by
  have honce := passOnce_receiving half h.toIsTwoWay r
  cases pace with
  | single => simp only [Card.pass, honce]
  | settled =>
    have hraw := passOnce_isRaw h.toIsTwoWay r
    simp only [Card.pass, honce, settle_withSending net half hraw]

/-! ## Both sides of a history -/

/-- What receiving does leaves the half that sends as it is. -/
theorem sendingHalf_receiving (h : c.Rests pace) (r : ReceivingStep) :
    (c.pass net pace (.inr r)).1.sendingHalf = c.sendingHalf := by
  have hpass := pass_receiving net c.sendingHalf h r
  rw [withSending_self] at hpass
  have hkept : (c.pass net pace (.inr r)).1 =
      (c.pass net pace (.inr r)).1.withSending c.sendingHalf := congrArg Prod.fst hpass
  rw [hkept]
  exact (h.pass net (.inr r)).toIsTwoWay.sendingHalf_withSending c.sendingHalf

/-- A step of sending and a step of receiving come to the same in either order. -/
theorem pass_comm (h : c.Rests pace) (s : SendingStep) (r : ReceivingStep) :
    let afterSending := c.pass net pace (.inl s)
    let afterReceiving := c.pass net pace (.inr r)
    (afterSending.1.pass net pace (.inr r)).1 = (afterReceiving.1.pass net pace (.inl s)).1 ∧
      (afterSending.1.pass net pace (.inr r)).2 = afterReceiving.2 ∧
      (afterReceiving.1.pass net pace (.inl s)).2 = afterSending.2 := by
  dsimp only
  rw [pass_sending net (h.pass net (.inr r)), sendingHalf_receiving net h, pass_sending net h,
    pass_receiving net _ h]
  exact ⟨rfl, rfl, rfl⟩

/-- A history without sending does not look at the half that sends. -/
theorem passAll_receiving (h : c.Rests pace) (rs : List ReceivingStep) :
    (c.withSending half).passAll net pace (rs.map .inr) =
      ((c.passAll net pace (rs.map .inr)).1.withSending half,
        (c.passAll net pace (rs.map .inr)).2) := by
  induction rs generalizing c with
  | nil => rfl
  | cons r rs ih =>
    have hpass := pass_receiving net half h r
    simp only [List.map_cons, passAll, hpass, ih (h.pass net (.inr r))]

/-- The steps of sending are made by the half that sends, as if there were no others, and what is
seen of the steps of receiving is the same without them. -/
theorem passAll_apart (h : c.Rests pace) (steps : List Passage) :
    let sending := c.sendingHalf.passAll (steps.filterMap Sum.getLeft?)
    let receiving := c.passAll net pace ((steps.filterMap Sum.getRight?).map .inr)
    (c.passAll net pace steps).1 = receiving.1.withSending sending.1 ∧
      (c.passAll net pace steps).2.filterMap Sum.getLeft? = sending.2 ∧
      (c.passAll net pace steps).2.filterMap Sum.getRight? =
        receiving.2.filterMap Sum.getRight? := by
  induction steps generalizing c with
  | nil => exact ⟨c.withSending_self.symm, rfl, rfl⟩
  | cons s steps ih =>
    cases s with
    | inl s =>
      have hpass := pass_sending net h s
      have hnext := h.pass net (.inl s)
      have hhalf := h.toIsTwoWay.sendingHalf_withSending (c.sendingHalf.pass s).1
      rw [hpass] at hnext
      -- The other steps of sending go on with the half that this one has left.
      obtain ⟨hcard, hsent, hreceived⟩ := ih hnext
      rw [passAll_receiving net _ h] at hcard hreceived
      rw [hhalf, withSending_withSending] at hcard
      rw [hhalf] at hsent
      simp only [List.filterMap_cons, Sum.getLeft?, Sum.getRight?, passAll, hpass, Sum.map_inl,
        SendingHalf.passAll, hcard, hsent, hreceived, and_self]
    | inr r =>
      -- Receiving has left the half that sends as it was.
      obtain ⟨hcard, hsent, hreceived⟩ := ih (h.pass net (.inr r))
      rw [sendingHalf_receiving net h] at hcard hsent
      simp only [List.filterMap_cons, Sum.getLeft?, Sum.getRight?, passAll, Sum.map_inr,
        List.map_cons, hcard, hsent, hreceived, and_self]

theorem rests_onQueues (pace : Pace) (driver : RawDriver) (incoming outgoing : Nat)
    (layout : ReceiveLayout) : (onQueues driver incoming outgoing layout : Card σ).Rests pace := by
  have hserving : (onQueues driver incoming outgoing layout : Card σ).IsServing :=
    isServing_onQueues driver incoming outgoing layout
  refine ⟨⟨hserving, rfl⟩, ?_⟩
  cases pace with
  | single => trivial
  | settled => exact receive_of_queue_nil hserving.isQueue rfl

theorem Rests.passAll (h : c.Rests pace) (steps : List Passage) :
    (c.passAll net pace steps).1.Rests pace := by
  induction steps generalizing c with
  | nil => exact h
  | cons s steps ih => exact ih (h.pass net s)

/-- Sending and receiving on queues of their own do not disturb each other. Whatever has happened to
the card, a step of sending and a step of receiving lead to the same card in either order, and the
same is seen of them. Of a whole history, what is seen of the steps of receiving is what is seen of
them without the others; what is seen of the steps of sending is what comes of them at the queue to
the host alone, and this queue and the counters of what is sent are in the end as they leave them. -/
theorem sending_apart_from_receiving (pace : Pace) (driver : RawDriver) (incoming outgoing : Nat)
    (layout : ReceiveLayout) (steps : List Passage) :
    let fresh : Card σ := onQueues driver incoming outgoing layout
    let c := (fresh.passAll net pace steps).1
    let seen := (fresh.passAll net pace steps).2
    let sending := fresh.sendingHalf.passAll (steps.filterMap Sum.getLeft?)
    let receiving := fresh.passAll net pace ((steps.filterMap Sum.getRight?).map .inr)
    (∀ (s : SendingStep) (r : ReceivingStep),
      let afterSending := c.pass net pace (.inl s)
      let afterReceiving := c.pass net pace (.inr r)
      (afterSending.1.pass net pace (.inr r)).1 = (afterReceiving.1.pass net pace (.inl s)).1 ∧
        (afterSending.1.pass net pace (.inr r)).2 = afterReceiving.2 ∧
        (afterReceiving.1.pass net pace (.inl s)).2 = afterSending.2) ∧
      c = receiving.1.withSending sending.1 ∧
      seen.filterMap Sum.getRight? = receiving.2.filterMap Sum.getRight? ∧
      seen.filterMap Sum.getLeft? = sending.2 := by
  intro fresh c seen sending receiving
  have hfresh : fresh.Rests pace := rests_onQueues pace driver incoming outgoing layout
  obtain ⟨hcard, hsent, hreceived⟩ := passAll_apart net hfresh steps
  exact ⟨pass_comm net (hfresh.passAll net steps), hcard, hreceived, hsent⟩

end Card
end GuestNic
