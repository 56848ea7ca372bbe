import GuestNic.Proofs.Card.Outcome
import GuestNic.Proofs.Threads.HandOver

/-!
# Threads that are not shut down

As long as nobody shuts the card down, a card in NAT mode stays at work whatever its threads, its
guest and its driver do: both threads go on, the relay's input stays open, and a reception thread
that is on its way to the next ring has the last one behind it.
-/

namespace GuestNic

/-! ## Cards -/

namespace Card

variable {σ : Type} {c : Card σ} {r : Relay σ} {p : StackPipe}

/-- Sending changes at most what waits for the stack. -/
theorem IsWired.send (h : c.IsWired r p) (frame : Bytes) :
    ∃ p', (c.send frame).1.IsWired r p' := by
  have hwritten : ∀ frame, ∃ p', r.IsAtWork p' ∧ (c.link.write frame).1.port = .pipe p' := by
    intro frame
    refine ⟨(p.send frame).1, ⟨h.inputOpen, h.inputFault, h.toGuest⟩, ?_⟩
    simp only [Link.write, h.port, Port.write]
  unfold Card.send
  split
  · exact ⟨p, h.of_eq rfl rfl⟩
  · obtain ⟨p', hwork, hport⟩ := hwritten frame
    split
    -- The link counts what was written or refused; the port is the one that the write left.
    all_goals
      rename_i heq
      rw [heq] at hport
      exact ⟨p', ⟨hwork, hport, h.attached⟩⟩

/-- No call of the driver touches the relay. -/
theorem IsWired.perform (h : c.IsWired r p) (call : Call) :
    ∃ p', (c.perform call).1.IsWired r p' := by
  cases call with
  | attach type routine =>
    have hrelay := perform_relay (c := c) (.attach type routine)
    exact ⟨p, h.of_eq (congrArg Link.port (attach_spares type routine).2) hrelay⟩
  | detach type =>
    have hrelay := perform_relay (c := c) (.detach type)
    exact ⟨p, h.of_eq (congrArg Link.port (detach_spares type).2) hrelay⟩
  | reset => exact ⟨p, h.of_eq rfl rfl⟩
  | transmit memory packet =>
    simp only [Card.perform, transmit]
    split
    · split
      · exact ⟨p, h.of_eq rfl rfl⟩
      · exact h.send _
    · exact ⟨p, h⟩
  | transmitFrame frame =>
    simp only [Card.perform, transmitFrame]
    split
    · exact h.send frame
    · exact ⟨p, h⟩
  | arrive peer frame =>
    simp only [Card.perform, Card.arrive, h.attached]
    exact ⟨p, h⟩

end Card

/-! ## A frame in hand -/

namespace ReceiverPoint

variable {σ : Type}

/-- What the reception thread is in the middle of doing with a frame, done. -/
def finish (c : Card σ) : ReceiverPoint → Card σ
  | .sort origin => (c.deliver origin).1
  | .ring delivery => (c.publish delivery).1
  | .announce => { c with counters.interruptsRaised := c.counters.interruptsRaised + 1 }
  | _ => c

/-- How many steps that takes at most. -/
def rank : ReceiverPoint → Nat
  | .sort _ => 3
  | .ring _ => 2
  | .announce => 1
  | _ => 0

theorem finish_of_rank {point : ReceiverPoint} (h : point.rank = 0) (c : Card σ) :
    point.finish c = c := by
  cases point with
  | sort | ring | announce => cases h
  | check | wait | read | await | ended => rfl

end ReceiverPoint

def Actor.isCloser : Actor → Bool
  | .closer => true
  | _ => false

namespace Threads

variable {σ : Type} (net : NetStack σ) {m m' : Threads σ}

/-! ## The invariant -/

/-- A card in NAT mode that nobody has begun to shut down, with its threads. -/
structure IsRunning (m : Threads σ) : Prop where
  wired : ∃ r p, m.card.IsWired r p
  isOpen : m.card.isOpen = true
  isReceiving : m.card.isReceiving = true
  isClosed : m.card.doorbell.isClosed = false
  cancelled : m.cancelled = false
  relayCancelled : m.relayCancelled = false
  receiver : m.receiver ≠ .ended
  relay : m.relay ≠ .ended
  /-- On its way to the next ring the reception thread has the last one behind it. -/
  gate : m.receiver.isBeforeRing = true → m.card.doorbell.isPending = false
  /-- It reads only what is there. -/
  reading : m.receiver = .read → m.card.queue ≠ []

theorem isRunning_start {r : Relay σ} {p : StackPipe} (h : r.IsAtWork p)
    (layout : ReceiveLayout) : IsRunning (start (.ofLink (.ofPort (.pipe p)) (some r) layout)) where
  wired := ⟨r, p, h, rfl, rfl⟩
  isOpen := rfl
  isReceiving := rfl
  isClosed := rfl
  cancelled := rfl
  relayCancelled := rfl
  receiver := by simp [start]
  relay := by simp [start, Card.ofLink]
  gate := fun _ => rfl
  reading := fun hm => by cases hm

namespace IsRunning

/-- Reception may read whenever no ring is outstanding. -/
theorem isResting_eq (h : IsRunning m) : m.card.isResting = m.card.doorbell.isPending := by
  simp [Card.isResting, h.isOpen, h.isReceiving]

/-! ## The reception thread -/

/-- A step of the reception thread that leaves the doorbell alone. -/
theorem advance (h : IsRunning m) {card : Card σ} {point : ReceiverPoint}
    (hwired : ∃ r p, card.IsWired r p) (hspares : m.card.Spares card) (hp : point ≠ .ended)
    (hgate : point.isBeforeRing = true → m.card.doorbell.isPending = false)
    (hreading : point = .read → card.queue ≠ []) :
    IsRunning { m with card, receiver := point } where
  wired := hwired
  isOpen := hspares.isOpen.trans h.isOpen
  isReceiving := hspares.isReceiving.trans h.isReceiving
  isClosed := by rw [hspares.doorbell]; exact h.isClosed
  cancelled := h.cancelled
  relayCancelled := h.relayCancelled
  receiver := hp
  relay := h.relay
  gate := by rw [hspares.doorbell]; exact hgate
  reading := hreading

end IsRunning

/-- What a step of the reception thread does to the card, to the frame that it has in hand, and to
the steps that are left until that frame is dealt with. -/
inductive Reception (m : Threads σ) : Threads σ → Prop where
  /-- It goes on with what it is doing. -/
  | goOn {card : Card σ} {point : ReceiverPoint} (hm : m.receiver ≠ .read)
      (hlink : card.link = m.card.link) (hrelay : card.relay = m.card.relay)
      (hfinish : point.finish card = m.receiver.finish m.card)
      (hrank : point.rank < m.receiver.rank ∨
        card = m.card ∧ point.rank = 0 ∧ m.receiver.rank = 0) :
      Reception m { m with card, receiver := point }
  /-- It takes the oldest frame in hand. -/
  | read {r : Relay σ} {p : StackPipe} {d : Bytes} {ds : List Bytes} (hm : m.receiver = .read)
      (hwired : m.card.IsWired r p) (hq : p.toGuest.queue = d :: ds)
      {traffic : Traffic} {buffer : FrameBuffer} {point : ReceiverPoint}
      (hfinish : point.finish { m.card with
        link := { port := .pipe p.withoutFrame, traffic }
        buffer } = m.card.readFrame.1)
      (hrank : point.rank ≤ 3) :
      Reception m { m with
        card := { m.card with link := { port := .pipe p.withoutFrame, traffic }, buffer }
        receiver := point }

theorem reception_wait (h : IsRunning m) (hm : m.receiver = .wait) :
    (m.step net .receiver).1.IsRunning ∧ Reception m (m.step net .receiver).1 := by
  obtain ⟨r, p, hwired⟩ := h.wired
  have hpending := h.gate (by rw [hm]; rfl)
  have hstep : (m.step net .receiver).1 = { m with
      receiver := if !m.card.link.port.queue.isEmpty then .read else .check } := by
    simp only [step, step?, receiverStep, hm, Link.wait_eq hwired.isQueue, Option.getD_some]
  rw [hstep]
  cases hq : m.card.link.port.queue with
  | nil =>
    refine ⟨h.advance h.wired .refl (by simp) (fun _ => hpending) (by simp), ?_⟩
    exact .goOn (by simp [hm]) rfl rfl (by rw [hm]; rfl) (.inr ⟨rfl, rfl, by rw [hm]; rfl⟩)
  | cons d ds =>
    refine ⟨h.advance h.wired .refl (by simp) (fun _ => hpending) ?_, ?_⟩
    · intro _ hnil
      have hnil : m.card.link.port.queue = [] := hnil
      rw [hq] at hnil
      cases hnil
    · exact .goOn (by simp [hm]) rfl rfl (by rw [hm]; rfl) (.inr ⟨rfl, rfl, by rw [hm]; rfl⟩)

theorem reception_read (h : IsRunning m) (hm : m.receiver = .read) :
    (m.step net .receiver).1.IsRunning ∧ Reception m (m.step net .receiver).1 := by
  obtain ⟨r, p, hwired⟩ := h.wired
  have hpending := h.gate (by rw [hm]; rfl)
  obtain ⟨d, ds, hq⟩ := List.exists_cons_of_ne_nil (hwired.queue_eq ▸ h.reading hm)
  have hread := Card.read_eq_readOff hwired.port hq m.card.buffer
  rcases hoff : Card.readOff m.card.link.traffic m.card.buffer d with ⟨traffic, buffer, answer⟩
  rw [hoff] at hread
  -- Where the thread goes depends on whether it was a runt; the frame is off the queue either way.
  obtain ⟨point, hstep, hpoint, hrank, hfinish⟩ : ∃ point : ReceiverPoint,
      (m.step net .receiver).1 = { m with
        card := { m.card with link := { port := .pipe p.withoutFrame, traffic }, buffer }
        receiver := point } ∧
      (point ≠ .ended ∧ point ≠ .read) ∧ point.rank ≤ 3 ∧
      point.finish { m.card with
        link := { port := .pipe p.withoutFrame, traffic }
        buffer } = m.card.readFrame.1 := by
    rcases answer with fault | _ | origin
    · refine ⟨.check, ?_, by simp, Nat.zero_le 3, ?_⟩
      · simp only [step, step?, receiverStep, hm, hread, Option.getD_some]
      · simp only [Card.readFrame, hread, ReceiverPoint.finish]
    · refine ⟨.check, ?_, by simp, Nat.zero_le 3, ?_⟩
      · simp only [step, step?, receiverStep, hm, hread, Option.getD_some]
      · simp only [Card.readFrame, hread, ReceiverPoint.finish]
    · refine ⟨.sort origin, ?_, by simp, Nat.le_refl 3, ?_⟩
      · simp only [step, step?, receiverStep, hm, hread, Option.getD_some]
      · simp only [Card.readFrame, hread, ReceiverPoint.finish]
  have hnext : ({ m.card with
      link := { port := .pipe p.withoutFrame, traffic }
      buffer } : Card σ).IsWired r p.withoutFrame :=
    ⟨⟨hwired.inputOpen, hwired.inputFault, hwired.toGuest.withQueue _⟩, rfl, hwired.attached⟩
  rw [hstep]
  refine ⟨?_, .read hm hwired hq hfinish hrank⟩
  refine h.advance ⟨r, _, hnext⟩ ⟨rfl, rfl, rfl, rfl⟩ hpoint.1 (fun _ => hpending) ?_
  intro heq
  exact absurd heq hpoint.2

theorem reception_sort (h : IsRunning m) {origin : Origin} (hm : m.receiver = .sort origin) :
    (m.step net .receiver).1.IsRunning ∧ Reception m (m.step net .receiver).1 := by
  obtain ⟨r, p, hwired⟩ := h.wired
  have hpending := h.gate (by rw [hm]; rfl)
  obtain ⟨hspares, hlink, hrelay⟩ := Card.prepare_spares m.card origin
  rcases hprepare : m.card.prepare origin with ⟨card, none | delivery⟩
  all_goals
    rw [hprepare] at hspares hlink hrelay
    have hnext : ∃ r p, card.IsWired r p := ⟨r, p, hwired.of_eq (congrArg Link.port hlink) hrelay⟩
  · have hstep : (m.step net .receiver).1 = { m with card, receiver := .check } := by
      simp only [step, step?, receiverStep, hm, hprepare, Option.getD_some]
    have hfinish : card = m.receiver.finish m.card := by
      rw [hm, ReceiverPoint.finish, Card.deliver, hprepare]
    rw [hstep]
    refine ⟨h.advance hnext hspares (by simp) (fun _ => hpending) (by simp), ?_⟩
    exact .goOn (by simp [hm]) hlink hrelay hfinish (.inl (by rw [hm]; exact Nat.zero_lt_succ 2))
  · have hstep : (m.step net .receiver).1 = { m with card, receiver := .ring delivery } := by
      simp only [step, step?, receiverStep, hm, hprepare, Option.getD_some]
    have hfinish : (card.publish delivery).1 = m.receiver.finish m.card := by
      rw [hm, ReceiverPoint.finish, Card.deliver, hprepare]
    rw [hstep]
    refine ⟨h.advance hnext hspares (by simp) (fun _ => hpending) (by simp), ?_⟩
    exact .goOn (by simp [hm]) hlink hrelay hfinish (.inl (by rw [hm]; exact Nat.lt_succ_self 2))

theorem reception_ring (h : IsRunning m) {delivery : Delivery} (hm : m.receiver = .ring delivery) :
    (m.step net .receiver).1.IsRunning ∧ Reception m (m.step net .receiver).1 := by
  obtain ⟨r, p, hwired⟩ := h.wired
  have hring := Doorbell.ring_of_not_isClosed h.isClosed delivery
  have hstep : (m.step net .receiver).1 = { m with
      card := { m.card with doorbell := { m.card.doorbell with
        isPending := true
        delivery := some delivery } }
      receiver := .announce } := by
    simp only [step, step?, receiverStep, hm, hring, Option.getD_some]
  rw [hstep]
  constructor
  · exact ⟨⟨r, p, hwired.of_eq rfl rfl⟩, h.isOpen, h.isReceiving, h.isClosed, h.cancelled,
      h.relayCancelled, by simp, h.relay, fun hbefore => (by cases hbefore), by simp⟩
  · refine .goOn (by simp [hm]) rfl rfl ?_ (.inl (by rw [hm]; exact Nat.lt_succ_self 1))
    simp only [ReceiverPoint.finish, hm, Card.publish, hring]

/-- A step of the reception thread. -/
theorem reception_step (h : IsRunning m) :
    (m.step net .receiver).1.IsRunning ∧ Reception m (m.step net .receiver).1 := by
  cases hm : m.receiver with
  | check =>
    have hpending := h.gate (by rw [hm]; rfl)
    have hstep : (m.step net .receiver).1 = { m with receiver := .wait } := by
      simp only [step, step?, receiverStep, hm, h.cancelled, Bool.false_eq_true, ↓reduceIte,
        Option.getD_some]
    rw [hstep]
    refine ⟨h.advance h.wired .refl (by simp) (fun _ => hpending) (by simp), ?_⟩
    exact .goOn (by simp [hm]) rfl rfl (by rw [hm]; rfl) (.inr ⟨rfl, rfl, by rw [hm]; rfl⟩)
  | wait => exact reception_wait net h hm
  | read => exact reception_read net h hm
  | sort origin => exact reception_sort net h hm
  | ring delivery => exact reception_ring net h hm
  | announce =>
    have hstep : (m.step net .receiver).1 = { m with
        card := { m.card with
          counters.interruptsRaised := m.card.counters.interruptsRaised + 1 }
        receiver := .await } := by
      simp only [step, step?, receiverStep, hm, Option.getD_some]
    obtain ⟨r, p, hwired⟩ := h.wired
    rw [hstep]
    refine ⟨h.advance ⟨r, p, hwired.of_eq rfl rfl⟩ ⟨rfl, rfl, rfl, rfl⟩ (by simp)
      (fun hbefore => by cases hbefore) (by simp), ?_⟩
    exact .goOn (by simp [hm]) rfl rfl (by rw [hm]; rfl)
      (.inl (by rw [hm]; exact Nat.zero_lt_succ 0))
  | await =>
    -- While the ring is outstanding the thread does not move.
    cases hpending : m.card.doorbell.isPending with
    | true =>
      have hawaited : m.card.doorbell.awaited = none :=
        Doorbell.awaited_eq_none_iff.2 ⟨hpending, h.isClosed⟩
      have hstep : (m.step net .receiver).1 = m := by
        simp only [step, step?, receiverStep, hm, hawaited, Option.map_none, Option.getD_none]
      rw [hstep]
      have hrank : m.receiver.rank = 0 := by rw [hm]; rfl
      exact ⟨h, .goOn (by simp [hm]) rfl rfl rfl (.inr ⟨rfl, hrank, hrank⟩)⟩
    | false =>
      have hstep : (m.step net .receiver).1 = { m with receiver := .check } := by
        simp only [step, step?, receiverStep, hm, Doorbell.awaited, hpending, Bool.not_false,
          ↓reduceIte, Option.map_some, Option.getD_some]
      rw [hstep]
      refine ⟨h.advance h.wired .refl (by simp) (fun _ => hpending) (by simp), ?_⟩
      exact .goOn (by simp [hm]) rfl rfl (by rw [hm]; rfl) (.inr ⟨rfl, rfl, by rw [hm]; rfl⟩)
  | ended => exact absurd hm h.receiver

/-! ## The relay's thread -/

/-- What the relay does leaves everything but its own wiring alone, and nothing leaves the queue
towards the guest. -/
theorem IsRunning.onRelay (h : IsRunning m) {act : Relay σ → StackPipe → Relay σ × StackPipe}
    (hwork : ∀ r p, r.IsAtWork p → (act r p).1.IsAtWork (act r p).2)
    (hgrows : ∀ (r : Relay σ) (p : StackPipe), p.toGuest.IsLive → p.Grows (act r p).2)
    {point : RelayPoint} (hp : point ≠ .ended) :
    IsRunning { m with card := m.card.onRelay act, relay := point } := by
  obtain ⟨r, p, hwired⟩ := h.wired
  obtain ⟨more, hprolongs⟩ := Card.onRelay_prolongs hwired.isQueue hgrows
  refine ⟨?_, hprolongs.isOpen.trans h.isOpen, hprolongs.isReceiving.trans h.isReceiving, ?_,
    h.cancelled, h.relayCancelled, h.receiver, hp, ?_, ?_⟩
  · rw [hwired.onRelay]
    exact ⟨_, _, .rewire m.card (hwork r p hwired.toIsAtWork)⟩
  · rw [hprolongs.doorbell]
    exact h.isClosed
  · rw [hprolongs.doorbell]
    exact h.gate
  · intro hm hnil
    rw [hprolongs.queue] at hnil
    exact h.reading hm (List.append_eq_nil_iff.1 hnil).1

/-- A step of the relay's thread. -/
theorem relay_step (h : IsRunning m) :
    (m.step net .relay).1.IsRunning ∧
      ((m.relay = .check ∧ (m.step net .relay).1 = { m with relay := .input }) ∨
        (m.relay = .input ∧ (m.step net .relay).1 = { m with
          card := m.card.onRelay (Relay.takeInput net)
          relay := .serve }) ∨
        (m.relay = .serve ∧ (m.step net .relay).1 = { m with
          card := m.card.onRelay (Relay.serve net)
          relay := .check })) := by
  cases hm : m.relay with
  | check =>
    have hstep : (m.step net .relay).1 = { m with relay := .input } := by
      simp only [step, step?, relayStep, hm, h.relayCancelled, Bool.false_eq_true, ↓reduceIte,
        Option.getD_some]
    rw [hstep]
    exact ⟨{ h with relay := by simp }, .inl ⟨rfl, rfl⟩⟩
  | input =>
    have hstep : (m.step net .relay).1 = { m with
        card := m.card.onRelay (Relay.takeInput net)
        relay := .serve } := by
      simp only [step, step?, relayStep, hm, Option.getD_some]
    rw [hstep]
    refine ⟨h.onRelay ?_ ?_ (by simp), .inr (.inl ⟨rfl, rfl⟩)⟩
    · intro r p hwork
      exact hwork.takeInput net
    · intro r p hlive
      exact Relay.takeInput_grows net hlive r
  | serve =>
    have hstep : (m.step net .relay).1 = { m with
        card := m.card.onRelay (Relay.serve net)
        relay := .check } := by
      simp only [step, step?, relayStep, hm, Option.getD_some]
    rw [hstep]
    refine ⟨h.onRelay ?_ ?_ (by simp), .inr (.inr ⟨rfl, rfl⟩)⟩
    · intro r p hwork
      exact hwork.serve net
    · intro r p hlive
      exact Relay.serve_grows net hlive r
  | ended => exact absurd hm h.relay

/-! ## Guests and calls -/

/-- Whoever neither rings nor closes the doorbell disturbs nobody. -/
theorem IsRunning.withBell (h : IsRunning m) {bell : Doorbell} (counters : CardCounters)
    (guests : Nat → GuestPoint) (hc : bell.isClosed = m.card.doorbell.isClosed)
    (hp : bell.isPending = m.card.doorbell.isPending ∨ bell.isPending = false) :
    IsRunning { m with card := { m.card with doorbell := bell, counters }, guests } := by
  obtain ⟨r, p, hwired⟩ := h.wired
  refine ⟨⟨r, p, hwired.of_eq rfl rfl⟩, h.isOpen, h.isReceiving, hc.trans h.isClosed, h.cancelled,
    h.relayCancelled, h.receiver, h.relay, ?_, h.reading⟩
  intro hbefore
  rcases hp with hp | hp
  · exact hp.trans (h.gate hbefore)
  · exact hp

theorem IsRunning.guest (h : IsRunning m) (i : Nat) : (m.step net (.guest i)).1.IsRunning := by
  have hstep : m.step net (.guest i) = m.guestStep i := rfl
  rw [hstep]
  cases hm : m.guests i with
  | idle =>
    have hkeep : m.card.doorbell.take.1.isClosed = m.card.doorbell.isClosed ∧
        m.card.doorbell.take.1.isPending = m.card.doorbell.isPending := by
      unfold Doorbell.take
      split <;> exact ⟨rfl, rfl⟩
    rcases htake : m.card.doorbell.take with ⟨bell, none | delivery⟩
    · simp only [guestStep, hm, htake]
      exact h.withBell _ m.guests rfl (.inl rfl)
    · rw [htake] at hkeep
      simp only [guestStep, hm, htake]
      exact h.withBell m.card.counters _ hkeep.1 (.inl hkeep.2)
  | upcall delivery =>
    simp only [guestStep, hm]
    exact h.withBell _ _ rfl (.inl rfl)
  | acknowledge delivery =>
    simp only [guestStep, hm]
    refine h.withBell m.card.counters _ (Doorbell.acknowledge_isClosed _) (.inr ?_)
    unfold Doorbell.acknowledge
    split
    · rfl
    · rename_i hpending
      simpa using hpending

/-- A call of the driver does not touch what the threads need. -/
theorem IsRunning.perform (h : IsRunning m) (call : Call) :
    (m.step net (.outside call)).1.IsRunning := by
  obtain ⟨r, p, hwired⟩ := h.wired
  obtain ⟨p', hnext⟩ := hwired.perform call
  have hprolongs := Card.perform_prolongs hwired.isQueue call
  refine ⟨⟨r, p', hnext⟩, hprolongs.isOpen.trans h.isOpen,
    hprolongs.isReceiving.trans h.isReceiving, ?_, h.cancelled, h.relayCancelled, h.receiver,
    h.relay, ?_, ?_⟩
  · show (m.card.perform call).1.doorbell.isClosed = false
    rw [hprolongs.doorbell]
    exact h.isClosed
  · show _ → (m.card.perform call).1.doorbell.isPending = false
    rw [hprolongs.doorbell]
    exact h.gate
  · intro hm hnil
    have hnil : (m.card.perform call).1.queue = [] := hnil
    rw [hprolongs.queue] at hnil
    exact h.reading hm (List.append_eq_nil_iff.1 hnil).1

/-! ## Every schedule without shutdown -/

theorem IsRunning.step (h : IsRunning m) {a : Actor} (ha : a.isCloser = false) :
    (m.step net a).1.IsRunning := by
  cases a with
  | receiver => exact (reception_step net h).1
  | relay => exact (relay_step net h).1
  | guest i => exact h.guest net i
  | closer => cases ha
  | outside call => exact h.perform net call

/-- Only the thread that shuts the card down begins to do so. -/
theorem closer_of_running {a : Actor} (hc : (m.step net a).1.closer = .running) :
    m.closer = .running ∧ a.isCloser = false := by
  cases a with
  | closer =>
    cases hm : m.closer with
    | running | flagged | silenced =>
      simp only [step, step?, closerStep, hm, Option.getD_some] at hc
      cases hc
    | stopping | joining =>
      simp only [step, step?, closerStep, hm] at hc
      split at hc
      · cases hc
      · exact absurd (hm.symm.trans hc) (by simp)
    | finished =>
      simp only [step, step?, closerStep, hm, Option.getD_none] at hc
      cases hc
  | receiver | relay | guest | outside =>
    rcases step_cases net m _ with ⟨-, hstep⟩ | heffect
    · rw [hstep] at hc
      exact ⟨hc, rfl⟩
    · generalize (m.step net _).1 = m' at heffect hc
      generalize (m.step net _).2 = marks at heffect
      cases heffect <;> exact ⟨hc, rfl⟩

/-- As long as shutdown has not begun, the card has been at work all the time. -/
theorem IsRunning.after (h : IsRunning m) {past : List Actor}
    (hc : (m.after net past).closer = .running) : (m.after net past).IsRunning := by
  induction past using List.reverseRecOn with
  | nil => exact h
  | append_singleton as a ih =>
    rw [after_snoc] at hc ⊢
    obtain ⟨hbefore, ha⟩ := closer_of_running net hc
    exact (ih hbefore).step net ha

end Threads
end GuestNic
