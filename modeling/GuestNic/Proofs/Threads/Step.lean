import GuestNic.Proofs.Threads.Basic

/-!
# What a step can do

Most steps leave the doorbell alone. `Threads.Effect` lists the steps of every thread by what they
do to the doorbell and to the points at which the threads stand; of the rest of the card it says
only whether it stays open. Invariants are proved by going through this list.
-/

namespace GuestNic

namespace Threads

variable {σ : Type}

/-- Neither the doorbell nor the openness of the card differs. -/
structure Alike (c c' : Card σ) : Prop where
  doorbell : c'.doorbell = c.doorbell
  isOpen : c'.isOpen = c.isOpen

theorem Alike.refl (c : Card σ) : Alike c c := ⟨rfl, rfl⟩

theorem Alike.of_spares {c c' : Card σ} (h : c.Spares c') : Alike c c' := ⟨h.doorbell, h.isOpen⟩

/-! ## The reception thread -/

/-- How the reception thread goes from point to point, but for a ring that is heard. -/
inductive Advance (m : Threads σ) : ReceiverPoint → List Mark → Prop where
  | cancelled (h : m.receiver = .check) (hc : m.cancelled = true) : Advance m .ended []
  | goOn (h : m.receiver = .check) (hc : m.cancelled = false) : Advance m .wait []
  | lost (h : m.receiver = .wait) (text : String) : Advance m .ended [.alerted text]
  | nothing (h : m.receiver = .wait) : Advance m .check []
  | ready (h : m.receiver = .wait) : Advance m .read []
  | read (h : m.receiver = .read) (origin : Origin) : Advance m (.sort origin) [.read]
  | unread (h : m.receiver = .read) : Advance m .check [.read]
  | sorted {origin : Origin} (h : m.receiver = .sort origin) (delivery : Delivery) :
      Advance m (.ring delivery) []
  | dropped {origin : Origin} (h : m.receiver = .sort origin) : Advance m .check []
  | refused {delivery : Delivery} (h : m.receiver = .ring delivery)
      (hc : m.card.doorbell.isClosed = true) : Advance m .check []
  | announced (h : m.receiver = .announce) : Advance m .await [.interrupted]
  | released (h : m.receiver = .await)
      (ha : m.card.doorbell.isPending = false ∨ m.card.doorbell.isClosed = true) :
      Advance m .check []

/-- How the relay's thread goes from point to point. -/
inductive RelayAdvance (m : Threads σ) : RelayPoint → Prop where
  | cancelled (h : m.relay = .check) (hc : m.relayCancelled = true) : RelayAdvance m .ended
  | goOn (h : m.relay = .check) (hc : m.relayCancelled = false) : RelayAdvance m .input
  | input (h : m.relay = .input) : RelayAdvance m .serve
  | serve (h : m.relay = .serve) : RelayAdvance m .check

/-! ## All threads -/

/-- The steps that the threads take, and what they do. -/
inductive Effect (m : Threads σ) : Actor → Threads σ → List Mark → Prop where
  | receiver {card : Card σ} {point : ReceiverPoint} {marks : List Mark}
      (ha : Alike m.card card) (hp : Advance m point marks) :
      Effect m .receiver { m with card, receiver := point } marks
  | rang {delivery : Delivery} (h : m.receiver = .ring delivery)
      (hc : m.card.doorbell.isClosed = false) :
      Effect m .receiver { m with
        card := { m.card with doorbell := { m.card.doorbell with
          isPending := true
          delivery := some delivery } }
        receiver := .announce } [.rang delivery]
  | relay {card : Card σ} {point : RelayPoint} (ha : Alike m.card card)
      (hp : RelayAdvance m point) : Effect m .relay { m with card, relay := point } []
  | missed {card : Card σ} {i : Nat} (ha : Alike m.card card) (h : m.guests i = .idle)
      (hd : m.card.doorbell.take.2 = none) : Effect m (.guest i) { m with card } [.missed i]
  | took {i : Nat} {delivery : Delivery} (h : m.guests i = .idle)
      (hp : m.card.doorbell.isPending = true)
      (hd : m.card.doorbell.delivery = some delivery) :
      Effect m (.guest i) { m with
        card := { m.card with doorbell := { m.card.doorbell with delivery := none } }
        guests := Function.update m.guests i (.upcall delivery) } [.took i delivery]
  | handed {card : Card σ} {i : Nat} {delivery : Delivery} (ha : Alike m.card card)
      (h : m.guests i = .upcall delivery) :
      Effect m (.guest i) { m with
        card
        guests := Function.update m.guests i (.acknowledge delivery) } [.handed i delivery]
  | acknowledged {i : Nat} {delivery : Delivery} (h : m.guests i = .acknowledge delivery) :
      Effect m (.guest i) { m with
        card := { m.card with doorbell := m.card.doorbell.acknowledge.1 }
        guests := Function.update m.guests i .idle }
        [.acknowledged i delivery m.card.doorbell.acknowledge.2]
  | flag (h : m.closer = .running) :
      Effect m .closer { m with cancelled := true, closer := .flagged } []
  | silence (h : m.closer = .flagged) :
      Effect m .closer { m with
        card := { m.card with doorbell := m.card.doorbell.close }
        closer := .silenced } [.silenced]
  | stop (h : m.closer = .silenced) :
      Effect m .closer { m with relayCancelled := true, closer := .stopping } []
  | join (h : m.closer = .stopping) (hr : m.relay = .ended) :
      Effect m .closer { m with closer := .joining } []
  | finish (h : m.closer = .joining) (hr : m.receiver = .ended) :
      Effect m .closer { m with card := release m.card, closer := .finished } []
  | outside {card : Card σ} {call : Call} (ha : Alike m.card card) :
      Effect m (.outside call) { m with card } []

/-! ## Nothing else happens -/

theorem prepare_alike (c : Card σ) (origin : Origin) : Alike c (c.prepare origin).1 :=
  .of_spares (c.prepare_spares origin).1

section

variable {m m' : Threads σ} {marks : List Mark}

theorem wait_effect (hp : m.receiver = .wait) (h : m.receiverStep = some (m', marks)) :
    Effect m .receiver m' marks := by
  rcases hw : m.card.link.wait with ⟨link, fault | isReady⟩
  · simp only [receiverStep, hp, hw] at h
    cases h
    exact .receiver ⟨rfl, rfl⟩ (.lost hp _)
  · simp only [receiverStep, hp, hw] at h
    cases h
    cases isReady with
    | true => exact .receiver ⟨rfl, rfl⟩ (.ready hp)
    | false => exact .receiver ⟨rfl, rfl⟩ (.nothing hp)

theorem read_effect (hp : m.receiver = .read) (h : m.receiverStep = some (m', marks)) :
    Effect m .receiver m' marks := by
  simp only [receiverStep, hp] at h
  split at h
  · cases h
    exact .receiver ⟨rfl, rfl⟩ (.read hp _)
  · cases h
    exact .receiver ⟨rfl, rfl⟩ (.unread hp)

theorem sort_effect {origin : Origin} (hp : m.receiver = .sort origin)
    (h : m.receiverStep = some (m', marks)) : Effect m .receiver m' marks := by
  have halike := prepare_alike m.card origin
  rcases hprepare : m.card.prepare origin with ⟨card, none | delivery⟩
  · simp only [receiverStep, hp, hprepare] at h halike
    cases h
    exact .receiver halike (.dropped hp)
  · simp only [receiverStep, hp, hprepare] at h halike
    cases h
    exact .receiver halike (.sorted hp _)

/-- A ring that is heard is the one step of the reception thread that changes the doorbell. -/
theorem ring_effect {delivery : Delivery} (hp : m.receiver = .ring delivery)
    (h : m.receiverStep = some (m', marks)) : Effect m .receiver m' marks := by
  cases hc : m.card.doorbell.isClosed with
  | true =>
    simp only [receiverStep, hp, Doorbell.ring_of_isClosed hc] at h
    cases h
    exact .receiver (.refl _) (.refused hp hc)
  | false =>
    simp only [receiverStep, hp, Doorbell.ring_of_not_isClosed hc] at h
    cases h
    exact .rang hp hc

theorem await_effect (hp : m.receiver = .await) (h : m.receiverStep = some (m', marks)) :
    Effect m .receiver m' marks := by
  simp only [receiverStep, hp] at h
  obtain ⟨found, hfound, heq⟩ := Option.map_eq_some_iff.1 h
  cases heq
  refine .receiver (.refl _) (.released hp ?_)
  -- The wait is over when it finds something: no ring outstanding, or a closed doorbell.
  have hsome : m.card.doorbell.awaited ≠ none := by simp [hfound]
  rw [ne_eq, Doorbell.awaited_eq_none_iff, not_and_or] at hsome
  simpa using hsome

theorem receiverStep_effect (h : m.receiverStep = some (m', marks)) :
    Effect m .receiver m' marks := by
  cases hp : m.receiver with
  | check =>
    simp only [receiverStep, hp] at h
    cases h
    by_cases hc : m.cancelled = true
    · rw [if_pos hc]
      exact .receiver (.refl _) (.cancelled hp hc)
    · rw [if_neg hc]
      exact .receiver (.refl _) (.goOn hp (by simpa using hc))
  | wait => exact wait_effect hp h
  | read => exact read_effect hp h
  | sort origin => exact sort_effect hp h
  | ring delivery => exact ring_effect hp h
  | announce =>
    simp only [receiverStep, hp] at h
    cases h
    exact .receiver ⟨rfl, rfl⟩ (.announced hp)
  | await => exact await_effect hp h
  | ended =>
    simp only [receiverStep, hp] at h
    cases h

end

theorem relayStep_effect (net : NetStack σ) {m m' : Threads σ} {marks : List Mark}
    (h : m.relayStep net = some (m', marks)) : Effect m .relay m' marks := by
  cases hp : m.relay with
  | check =>
    simp only [relayStep, hp] at h
    split at h
    · rename_i hc
      cases h
      exact .relay (.of_spares (Card.onRelay_spares _)) (.cancelled hp hc)
    · rename_i hc
      cases h
      exact .relay (.refl _) (.goOn hp (by simpa using hc))
  | input =>
    simp only [relayStep, hp] at h
    cases h
    exact .relay (.of_spares (Card.onRelay_spares _)) (.input hp)
  | serve =>
    simp only [relayStep, hp] at h
    cases h
    exact .relay (.of_spares (Card.onRelay_spares _)) (.serve hp)
  | ended =>
    simp only [relayStep, hp] at h
    cases h

theorem guestStep_effect (i : Nat) (m : Threads σ) :
    Effect m (.guest i) (m.guestStep i).1 (m.guestStep i).2 := by
  cases hp : m.guests i with
  | idle =>
    rcases htake : m.card.doorbell.take with ⟨bell, none | delivery⟩
    · simp only [guestStep, hp, htake]
      exact .missed ⟨rfl, rfl⟩ hp (by rw [htake])
    · simp only [guestStep, hp, htake]
      have hsome : m.card.doorbell.take.2 = some delivery := by rw [htake]
      obtain ⟨hpending, hdelivery⟩ := Doorbell.take_some_iff.1 hsome
      have hbell : bell = { m.card.doorbell with delivery := none } := by
        rw [Doorbell.take, if_pos hpending] at htake
        exact (Prod.mk.inj htake).1.symm
      rw [hbell]
      exact .took hp hpending hdelivery
  | upcall delivery =>
    simp only [guestStep, hp]
    exact .handed ⟨rfl, rfl⟩ hp
  | acknowledge delivery =>
    simp only [guestStep, hp]
    exact .acknowledged hp

theorem closerStep_effect {m m' : Threads σ} {marks : List Mark}
    (h : m.closerStep = some (m', marks)) : Effect m .closer m' marks := by
  cases hp : m.closer with
  | running =>
    simp only [closerStep, hp] at h
    cases h
    exact .flag hp
  | flagged =>
    simp only [closerStep, hp] at h
    cases h
    exact .silence hp
  | silenced =>
    simp only [closerStep, hp] at h
    cases h
    exact .stop hp
  | stopping =>
    simp only [closerStep, hp] at h
    -- The step is there only when the thread that is waited for has ended.
    split at h
    · rename_i hr
      cases h
      exact .join hp hr
    · cases h
  | joining =>
    simp only [closerStep, hp] at h
    split at h
    · rename_i hr
      cases h
      exact .finish hp hr
    · cases h
  | finished =>
    simp only [closerStep, hp] at h
    cases h

/-- A step that is taken is one of those listed. -/
theorem step?_effect (net : NetStack σ) {m m' : Threads σ} {a : Actor} {marks : List Mark}
    (h : m.step? net a = some (m', marks)) : Effect m a m' marks := by
  cases a with
  | receiver => exact receiverStep_effect h
  | relay => exact relayStep_effect net h
  | guest i =>
    have heffect := guestStep_effect i m
    rw [Option.some.inj h] at heffect
    exact heffect
  | closer => exact closerStep_effect h
  | outside call =>
    cases h
    exact .outside (.of_spares (Card.perform_spares call))

/-- A step is one of those listed, or nothing happens. -/
theorem step_cases (net : NetStack σ) (m : Threads σ) (a : Actor) :
    (m.step? net a = none ∧ m.step net a = (m, [])) ∨
      Effect m a (m.step net a).1 (m.step net a).2 := by
  unfold step
  cases h : m.step? net a with
  | none => exact .inl ⟨rfl, rfl⟩
  | some result => exact .inr (step?_effect net h)

end Threads
end GuestNic
