import GuestNic.Proofs.Card.Reception
import GuestNic.Proofs.Threads.Step

/-!
# Threads that are not disturbed

When one thread runs while the others stand still, its steps add up to what the card does in one
go: a turn of the reception thread is a round of reception, a turn of a guest thread is a service of
the interrupt, a turn of the relay's thread is a round of the relay, and shutdown of threads at rest
is the shutdown of the card.
-/

namespace GuestNic

namespace Threads

variable {σ : Type}

/-- Steps of one actor lead from `m` to another state, and the machine around the card notices
`events`. -/
inductive Alone (net : NetStack σ) (a : Actor) : Threads σ → List CardEvent → Threads σ → Prop where
  | stop (m : Threads σ) : Alone net a m [] m
  | step {m m' m'' : Threads σ} {marks : List Mark} {events : List CardEvent}
      (h : m.step? net a = some (m', marks)) (rest : Alone net a m' events m'') :
      Alone net a m (marks.flatMap (Mark.events m.card.layout) ++ events) m''

variable (net : NetStack σ) {m : Threads σ}

/-! ## Reception -/

/-- From a ring to the wait for its acknowledgment, the reception thread publishes the delivery. -/
theorem publish_alone {delivery : Delivery} (hm : m.receiver = .ring delivery) :
    ∃ q, (q = .check ∨ q = .await) ∧
      Alone net .receiver m (m.card.publish delivery).2
        { m with card := (m.card.publish delivery).1, receiver := q } := by
  cases hc : m.card.doorbell.isClosed with
  | true =>
    have hring : m.step? net .receiver = some ({ m with receiver := .check }, []) := by
      simp only [step?, receiverStep, hm, Doorbell.ring_of_isClosed hc]
    rw [Card.publish, Doorbell.ring_of_isClosed hc]
    exact ⟨.check, .inl rfl, .step hring (.stop _)⟩
  | false =>
    have hring : m.step? net .receiver = some ({ m with
        card := { m.card with doorbell := { m.card.doorbell with
          isPending := true
          delivery := some delivery } }
        receiver := .announce }, [.rang delivery]) := by
      simp only [step?, receiverStep, hm, Doorbell.ring_of_not_isClosed hc]
    have hannounce : ∀ card : Card σ,
        ({ m with card, receiver := .announce } : Threads σ).step? net .receiver = some ({ m with
          card := { card with counters.interruptsRaised := card.counters.interruptsRaised + 1 }
          receiver := .await }, [.interrupted]) := fun _ => rfl
    rw [Card.publish, Doorbell.ring_of_not_isClosed hc]
    exact ⟨.await, .inr rfl, .step hring (.step (hannounce _) (.stop _))⟩

/-- From sorting on, the reception thread delivers the frame in the buffer. -/
theorem deliver_alone {origin : Origin} (hm : m.receiver = .sort origin) :
    ∃ q, (q = .check ∨ q = .await) ∧
      Alone net .receiver m (m.card.deliver origin).2
        { m with card := (m.card.deliver origin).1, receiver := q } := by
  cases hp : m.card.prepare origin with
  | mk card prepared =>
    rw [Card.deliver, hp]
    cases prepared with
    | none =>
      have hsort : m.step? net .receiver = some ({ m with card, receiver := .check }, []) := by
        simp only [step?, receiverStep, hm, hp]
      exact ⟨.check, .inl rfl, .step hsort (.stop _)⟩
    | some delivery =>
      have hsort : m.step? net .receiver =
          some ({ m with card, receiver := .ring delivery }, []) := by
        simp only [step?, receiverStep, hm, hp]
      obtain ⟨q, hq, hrest⟩ :=
        publish_alone net (m := { m with card, receiver := .ring delivery }) rfl
      exact ⟨q, hq, .step hsort hrest⟩

theorem step_check (hm : m.receiver = .check) (hc : m.cancelled = false) :
    m.step? net .receiver = some ({ m with receiver := .wait }, []) := by
  simp only [step?, receiverStep, hm, hc, Bool.false_eq_true, ↓reduceIte]

theorem step_wait_error (hm : m.receiver = .wait) {link : Link} {fault : Host.Fault}
    (hw : m.card.link.wait = (link, .error fault)) :
    m.step? net .receiver = some ({ m with
      card := { m.card with link, isReceiving := false, counters.rxFailed := true }
      receiver := .ended }, [.alerted (Card.receptionLost fault)]) := by
  simp only [step?, receiverStep, hm, hw]

theorem step_wait_ok (hm : m.receiver = .wait) {link : Link} {isReady : Bool}
    (hw : m.card.link.wait = (link, .ok isReady)) :
    m.step? net .receiver = some ({ m with
      card := { m.card with link }
      receiver := if isReady then .read else .check }, []) := by
  simp only [step?, receiverStep, hm, hw]

/-- Undisturbed, the reception thread reads a frame and delivers it, or reads none. -/
theorem read_alone (hm : m.receiver = .read) :
    ∃ q, (q = .check ∨ q = .await) ∧
      Alone net .receiver m m.card.readFrame.2
        { m with card := m.card.readFrame.1, receiver := q } := by
  rcases hread : m.card.link.read m.card.buffer with ⟨link, buffer, fault | origin?⟩
  · have hunread : m.step? net .receiver = some ({ m with
        card := { m.card with link, buffer }
        receiver := .check }, [.read]) := by
      simp only [step?, receiverStep, hm, hread]
    simp only [Card.readFrame, hread]
    exact ⟨.check, .inl rfl, .step hunread (.stop _)⟩
  · cases origin? with
    | none =>
      have hunread : m.step? net .receiver = some ({ m with
          card := { m.card with link, buffer }
          receiver := .check }, [.read]) := by
        simp only [step?, receiverStep, hm, hread]
      simp only [Card.readFrame, hread]
      exact ⟨.check, .inl rfl, .step hunread (.stop _)⟩
    | some origin =>
      have hsorting : m.step? net .receiver = some ({ m with
          card := { m.card with link, buffer }
          receiver := .sort origin }, [.read]) := by
        simp only [step?, receiverStep, hm, hread]
      obtain ⟨q, hq, hrest⟩ := deliver_alone net (m := { m with
        card := { m.card with link, buffer }
        receiver := .sort origin }) rfl
      simp only [Card.readFrame, hread]
      exact ⟨q, hq, .step hsorting hrest⟩

/-- Undisturbed, a turn of the reception thread is a round of reception. -/
theorem receive_alone (hm : m.receiver = .check) (hc : m.cancelled = false)
    (hr : m.card.isResting = false) :
    ∃ q, (q = .check ∨ q = .await ∨ q = .ended) ∧
      Alone net .receiver m m.card.receive.2
        { m with card := m.card.receive.1, receiver := q } := by
  have hcheck := step_check net hm hc
  -- Where the wait leads decides how far the turn goes.
  rcases hw : m.card.link.wait with ⟨link, fault | isReady⟩
  · have hwait := step_wait_error net (m := { m with receiver := .wait }) rfl hw
    rw [Card.receive_of_unreadable hr hw]
    exact ⟨.ended, .inr (.inr rfl), .step hcheck (.step hwait (.stop _))⟩
  · have hwait := step_wait_ok net (m := { m with receiver := .wait }) rfl hw
    cases isReady with
    | false =>
      rw [Card.receive_of_idle hr hw]
      exact ⟨.check, .inl rfl, .step hcheck (.step hwait (.stop _))⟩
    | true =>
      obtain ⟨q, hq, hrest⟩ := read_alone net (m := { m with
        card := { m.card with link }
        receiver := .read }) rfl
      rw [Card.receive_of_readable hr hw]
      refine ⟨q, ?_, .step hcheck (.step hwait hrest)⟩
      rcases hq with hq | hq
      · exact .inl hq
      · exact .inr (.inl hq)

/-! ## Service -/

/-- Undisturbed, a turn of a guest thread is a service of the interrupt. -/
theorem service_alone {i : Nat} (hm : m.guests i = .idle) :
    Alone net (.guest i) m m.card.service.2.1 { m with card := m.card.service.1 } := by
  rcases htake : m.card.doorbell.take with ⟨bell, taken⟩
  rw [Card.service, htake]
  cases taken with
  | none =>
    have hmissed : m.step? net (.guest i) = some ({ m with card := { m.card with
        counters.interruptsSpurious := m.card.counters.interruptsSpurious + 1 } },
        [.missed i]) := by
      simp only [step?, guestStep, hm, htake]
    exact .step hmissed (.stop _)
  | some delivery =>
    -- The three steps of a service, each on the state that the one before it left.
    have htook : m.step? net (.guest i) = some ({ m with
        card := { m.card with doorbell := bell }
        guests := Function.update m.guests i (.upcall delivery) }, [.took i delivery]) := by
      simp only [step?, guestStep, hm, htake]
    have hupcall : ({ m with
        card := { m.card with doorbell := bell }
        guests := Function.update m.guests i (.upcall delivery) } : Threads σ).step? net
          (.guest i) = some ({ m with
            card := { m.card with
              doorbell := bell
              counters := { m.card.counters with
                interruptsServiced := m.card.counters.interruptsServiced + 1
                rxPackets := m.card.counters.rxPackets + 1 } }
            guests := Function.update m.guests i (.acknowledge delivery) },
            [.handed i delivery]) := by
      simp only [step?, guestStep, Function.update_self, Function.update_idem]
    have hack : ({ m with
        card := { m.card with
          doorbell := bell
          counters := { m.card.counters with
            interruptsServiced := m.card.counters.interruptsServiced + 1
            rxPackets := m.card.counters.rxPackets + 1 } }
        guests := Function.update m.guests i (.acknowledge delivery) } : Threads σ).step? net
          (.guest i) = some ({ m with
            card := { m.card with
              doorbell := bell.acknowledge.1
              counters := { m.card.counters with
                interruptsServiced := m.card.counters.interruptsServiced + 1
                rxPackets := m.card.counters.rxPackets + 1 } } },
            [.acknowledged i delivery bell.acknowledge.2]) := by
      simp only [step?, guestStep, Function.update_self, Function.update_idem]
      rw [← hm, Function.update_eq_self]
    have hall := Alone.step htook (.step hupcall (.step hack (.stop _)))
    simpa [Mark.events] using hall

/-! ## The relay -/

/-- Two operations on the relay after each other are one. -/
theorem onRelay_onRelay (c : Card σ) (f g : Relay σ → StackPipe → Relay σ × StackPipe) :
    (c.onRelay f).onRelay g = c.onRelay fun relay pipe => g (f relay pipe).1 (f relay pipe).2 := by
  obtain ⟨_, _, _, ⟨port, _⟩, relay, _, _, _, _, _⟩ := c
  cases port <;> cases relay <;> rfl

/-- Undisturbed, a turn of the relay's thread is a round of the relay. -/
theorem relay_alone (hm : m.relay = .check) (hc : m.relayCancelled = false)
    (ho : m.card.isOpen = true) :
    Alone net .relay m [] { m with card := m.card.relayRound net } := by
  have hcheck : m.step? net .relay = some ({ m with relay := .input }, []) := by
    simp only [step?, relayStep, hm, hc, Bool.false_eq_true, ↓reduceIte]
  have hinput : ({ m with relay := .input } : Threads σ).step? net .relay =
      some ({ m with card := m.card.onRelay (Relay.takeInput net), relay := .serve }, []) := rfl
  have hserve : ({ m with
      card := m.card.onRelay (Relay.takeInput net)
      relay := .serve } : Threads σ).step? net .relay =
        some ({ m with card := m.card.relayRound net }, []) := by
    simp only [step?, relayStep, onRelay_onRelay, Card.relayRound, ho, ↓reduceIte, hm]
    rfl
  exact .step hcheck (.step hinput (.step hserve (.stop _)))

/-! ## Shutdown -/

theorem release_releaseStack (c : Card σ) :
    release (releaseStack { c with doorbell := c.doorbell.close }) =
      release { c with doorbell := c.doorbell.close } := by
  obtain ⟨_, _, _, ⟨port, _⟩, relay, _, _, _, _, _⟩ := c
  cases port <;> cases relay <;> rfl

/-- When the threads of reception and of the relay stand at the top of their loops, shutdown is the
shutdown of the card. -/
theorem shutdown_alone (hm : m.closer = .running) (hr : m.receiver = .check)
    (hs : m.relay = .check ∨ m.relay = .ended) (ho : m.card.isOpen = true) :
    let schedule : List Actor :=
      [.closer, .closer, .closer, .relay, .closer, .receiver, .closer]
    (m.after net schedule).card = m.card.shutdown ∧
      (m.after net schedule).closer = .finished := by
  have hshutdown : m.card.shutdown = release { m.card with doorbell := m.card.doorbell.close } := by
    rw [Card.shutdown, if_pos ho]
    rfl
  obtain ⟨card, cancelled, relayCancelled, receiver, relay, guests, closer⟩ := m
  cases hm
  cases hr
  rcases hs with rfl | rfl
  · exact ⟨(release_releaseStack card).trans hshutdown.symm, rfl⟩
  · exact ⟨hshutdown.symm, rfl⟩

end Threads
end GuestNic
