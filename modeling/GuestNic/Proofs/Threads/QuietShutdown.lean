import GuestNic.Proofs.Threads.AnyHost
import GuestNic.Proofs.Threads.Confluence

/-!
# Shutdown of a card that has come to rest

When the card's own threads no longer move a counter by themselves, shutdown does not make them move
one either. Beside the card that is shut down another one is left alone: as long as the threads of
the first still work, those of the second take the same steps (`Shadows`), and a thread that has
been told to stop takes only steps that count nothing.
-/

namespace GuestNic

variable {σ : Type}

/-! ## Pipes whose stack is gone -/

/-- Nobody who receives notices that the sender has gone. -/
theorem Host.Channel.receive_closeSender (c : Host.Channel) (limit : Nat) :
    c.closeSender.receive limit = ((c.receive limit).1.closeSender, (c.receive limit).2) := by
  have hqueue : c.closeSender.queue = c.queue := rfl
  simp only [receive, hqueue]
  cases c.queue <;> rfl

/-- The one port polls and reads like the other: at most the stack has let go of its pipe. -/
inductive Port.ReadsAlike : Port → Port → Prop where
  | same (port : Port) : ReadsAlike port port
  | released (pipe : StackPipe) : ReadsAlike (.pipe pipe.closeStack) (.pipe pipe)

namespace Port.ReadsAlike

variable {p q : Port}

theorem poll (h : p.ReadsAlike q) : p.poll.2 = q.poll.2 ∧ p.poll.1.ReadsAlike q.poll.1 := by
  cases h with
  | same => exact ⟨rfl, .same _⟩
  | released pipe => exact ⟨rfl, .released pipe⟩

theorem read (h : p.ReadsAlike q) (limit : Nat) :
    (p.read limit).2 = (q.read limit).2 ∧ (p.read limit).1.ReadsAlike (q.read limit).1 := by
  cases h with
  | same => exact ⟨rfl, .same _⟩
  | released pipe =>
    have hreceive : pipe.closeStack.receive limit =
        ((pipe.receive limit).1.closeStack, (pipe.receive limit).2) := by
      simp only [StackPipe.receive, StackPipe.closeStack, Host.Channel.receive_closeSender]
    simp only [Port.read, hreceive]
    exact ⟨trivial, .released _⟩

end Port.ReadsAlike

namespace Card

/-- What sorting a frame counts and prepares depends on the frame, the handlers and the counters. -/
theorem prepare_congr {c c' : Card σ} (hbuffer : c.buffer = c'.buffer)
    (hhandlers : c.handlers = c'.handlers) (hcounters : c.counters = c'.counters)
    (origin : Origin) :
    ∃ counters delivery, c.prepare origin = ({ c with buffer := .empty, counters }, delivery) ∧
      c'.prepare origin = ({ c' with buffer := .empty, counters }, delivery) := by
  have hhandler : ∀ t, ({ c with buffer := .empty } : Card σ).handlerFor? t =
      ({ c' with buffer := .empty } : Card σ).handlerFor? t := by
    intro t
    simp only [handlerFor?, hhandlers]
  have hkeep : ∀ c : Card σ, ({ c with buffer := .empty } : Card σ) =
      { c with buffer := .empty, counters := c.counters } := fun _ => rfl
  simp only [prepare, hbuffer, hhandler]
  split
  · exact ⟨c'.counters, _, by rw [← hcounters], rfl⟩
  · split
    · exact ⟨c'.counters, _, by rw [← hcounters], rfl⟩
    · exact ⟨_, none, by rw [hcounters], rfl⟩
  · exact ⟨c'.counters, none, by rw [← hcounters], rfl⟩

/-- What the relay does depends on the relay and its port. -/
theorem onRelay_congr {c c' : Card σ} (hrelay : c.relay = c'.relay)
    (hport : c.link.port = c'.link.port) (act : Relay σ → StackPipe → Relay σ × StackPipe) :
    ∃ relay port,
      c.onRelay act = { c with link := { c.link with port }, relay } ∧
      c'.onRelay act = { c' with link := { c'.link with port }, relay } := by
  unfold onRelay
  rw [hrelay, hport]
  split
  · exact ⟨_, _, rfl, rfl⟩
  · exact ⟨c'.relay, c'.link.port, by rw [← hrelay, ← hport], rfl⟩

end Card

namespace Threads

variable (net : NetStack σ) {m n : Threads σ}

/-! ## Reception side by side -/

/-- Two reception threads that have come equally far and see the same. -/
structure Twins (m n : Threads σ) : Prop where
  receiver : m.receiver = n.receiver
  buffer : m.card.buffer = n.card.buffer
  handlers : m.card.handlers = n.card.handlers
  counters : m.card.counters = n.card.counters
  isPending : m.card.doorbell.isPending = n.card.doorbell.isPending
  traffic : m.card.link.traffic = n.card.link.traffic
  port : m.card.link.port.ReadsAlike n.card.link.port

/-- The reception thread has found that shutdown has begun; it counts nothing any more. -/
def HasLeft (m : Threads σ) : Prop :=
  m.cancelled = true ∧ (m.receiver = .check ∨ m.receiver = .ended)

/-- What a step of the reception thread does to two threads that have come equally far, of which the
second has not been told to stop: they stay together, or the first one leaves. -/
inductive SideBySide (m n m' n' : Threads σ) : Prop where
  | left (point : ReceiverPoint) (heq : m' = { m with receiver := point }) (h : m'.HasLeft)
  | together {card card' : Card σ} {point : ReceiverPoint}
      (hm : m' = { m with card, receiver := point })
      (hn : n' = { n with card := card', receiver := point }) (h : m'.Twins n')
      (hrelay : card.relay = m.card.relay) (hrelay' : card'.relay = n.card.relay)
      (hport : m.card.link.port = n.card.link.port → card.link.port = card'.link.port)

namespace Twins

/-- At a point with nothing to do to the card both go on alike. -/
theorem goOn (h : m.Twins n) {m' n' : Threads σ} (point : ReceiverPoint)
    (hm : m' = { m with receiver := point }) (hn : n' = { n with receiver := point }) :
    SideBySide m n m' n' := by
  subst hm hn
  exact .together rfl rfl ⟨rfl, h.buffer, h.handlers, h.counters, h.isPending, h.traffic, h.port⟩
    rfl rfl id

theorem stay (h : m.Twins n) : SideBySide m n m n :=
  h.goOn m.receiver rfl (by rw [h.receiver])

theorem step_wait (h : m.Twins n) (hm : m.receiver = .wait) :
    SideBySide m n (m.step net .receiver).1 (n.step net .receiver).1 := by
  have hn : n.receiver = .wait := h.receiver.symm.trans hm
  obtain ⟨hpoll, hport⟩ := h.port.poll
  simp only [step, step?, receiverStep_wait hm, receiverStep_wait hn, Option.getD_some, waitOn,
    ← hpoll]
  cases Port.polled m.card.link.port.poll.2 with
  | error fault =>
    exact .together rfl rfl ⟨rfl, h.buffer, h.handlers,
      congrArg (fun c : CardCounters => { c with rxFailed := true }) h.counters, h.isPending,
      h.traffic, hport⟩ rfl rfl fun heq => congrArg (fun p : Port => p.poll.1) heq
  | ok isReady =>
    exact .together rfl rfl ⟨rfl, h.buffer, h.handlers, h.counters, h.isPending, h.traffic, hport⟩
      rfl rfl fun heq => congrArg (fun p : Port => p.poll.1) heq

theorem step_read (h : m.Twins n) (hm : m.receiver = .read) :
    SideBySide m n (m.step net .receiver).1 (n.step net .receiver).1 := by
  have hn : n.receiver = .read := h.receiver.symm.trans hm
  obtain ⟨hfound, hport⟩ := h.port.read Frame.maxSize
  simp only [step, step?, receiverStep_read hm, receiverStep_read hn, Option.getD_some, readOn,
    Link.readFrom, ← hfound, ← h.traffic, ← h.buffer]
  exact .together rfl rfl ⟨rfl, rfl, h.handlers, h.counters, h.isPending, rfl, hport⟩ rfl rfl
    fun heq => congrArg (fun p : Port => (p.read Frame.maxSize).1) heq

theorem step_sort (h : m.Twins n) {origin : Origin} (hm : m.receiver = .sort origin) :
    SideBySide m n (m.step net .receiver).1 (n.step net .receiver).1 := by
  have hn : n.receiver = .sort origin := h.receiver.symm.trans hm
  obtain ⟨counters, delivery, hprepare, hprepare'⟩ :=
    Card.prepare_congr h.buffer h.handlers h.counters origin
  simp only [step, step?, receiverStep, hm, hn, hprepare, hprepare']
  cases delivery with
  | none | some delivery =>
    exact .together rfl rfl ⟨rfl, rfl, h.handlers, rfl, h.isPending, h.traffic, h.port⟩ rfl rfl id

/-- On a closed doorbell the first one leaves. -/
theorem step_ring (h : m.Twins n)
    (hcancelled : m.card.doorbell.isClosed = true → m.cancelled = true)
    (hopen : n.card.doorbell.isClosed = false) {delivery : Delivery}
    (hm : m.receiver = .ring delivery) :
    SideBySide m n (m.step net .receiver).1 (n.step net .receiver).1 := by
  have hn : n.receiver = .ring delivery := h.receiver.symm.trans hm
  cases hc : m.card.doorbell.isClosed with
  | true =>
    refine .left .check ?_ ?_
    · simp only [step, step?, receiverStep, hm, Doorbell.ring_of_isClosed hc, Option.getD_some]
    · simp only [step, step?, receiverStep, hm, Doorbell.ring_of_isClosed hc, Option.getD_some]
      exact ⟨hcancelled hc, .inl rfl⟩
  | false =>
    simp only [step, step?, receiverStep, hm, hn, Doorbell.ring_of_not_isClosed hc,
      Doorbell.ring_of_not_isClosed hopen, Option.getD_some]
    exact .together rfl rfl ⟨rfl, h.buffer, h.handlers, h.counters, rfl, h.traffic, h.port⟩ rfl rfl
      id

/-- So does it if it waits for an acknowledgment. -/
theorem step_await (h : m.Twins n)
    (hcancelled : m.card.doorbell.isClosed = true → m.cancelled = true)
    (hopen : n.card.doorbell.isClosed = false) (hm : m.receiver = .await) :
    SideBySide m n (m.step net .receiver).1 (n.step net .receiver).1 := by
  have hn : n.receiver = .await := h.receiver.symm.trans hm
  cases hp : m.card.doorbell.isPending with
  | false =>
    have hp' : n.card.doorbell.isPending = false := h.isPending.symm.trans hp
    refine h.goOn .check ?_ ?_
    · simp [step, step?, receiverStep, hm, Doorbell.awaited, hp]
    · simp [step, step?, receiverStep, hn, Doorbell.awaited, hp']
  | true =>
    have hp' : n.card.doorbell.isPending = true := h.isPending.symm.trans hp
    have hstay : (n.step net .receiver).1 = n := by
      simp [step, step?, receiverStep, hn, Doorbell.awaited, hp', hopen]
    cases hc : m.card.doorbell.isClosed with
    | true =>
      have hleave : (m.step net .receiver).1 = { m with receiver := .check } := by
        simp [step, step?, receiverStep, hm, Doorbell.awaited, hp, hc]
      exact .left .check hleave (by rw [hleave]; exact ⟨hcancelled hc, .inl rfl⟩)
    | false =>
      have hstay' : (m.step net .receiver).1 = m := by
        simp [step, step?, receiverStep, hm, Doorbell.awaited, hp, hc]
      rw [hstay, hstay']
      exact h.stay

/-- A step of the reception thread keeps the two together, or the first one leaves. -/
theorem step (h : m.Twins n) (hcancelled : m.card.doorbell.isClosed = true → m.cancelled = true)
    (hn : n.cancelled = false) (hopen : n.card.doorbell.isClosed = false) :
    SideBySide m n (m.step net .receiver).1 (n.step net .receiver).1 := by
  have hsame := h.receiver
  cases hm : m.receiver with
  | check =>
    rw [hm] at hsame
    cases hc : m.cancelled with
    | true =>
      have hleave : (m.step net .receiver).1 = { m with receiver := .ended } := by
        simp [Threads.step, step?, receiverStep, hm, hc]
      exact .left .ended hleave (by rw [hleave]; exact ⟨hc, .inr rfl⟩)
    | false =>
      refine h.goOn .wait ?_ ?_
      · simp [Threads.step, step?, receiverStep, hm, hc]
      · simp [Threads.step, step?, receiverStep, ← hsame, hn]
  | wait => exact h.step_wait net hm
  | read => exact h.step_read net hm
  | sort origin => exact h.step_sort net hm
  | ring delivery => exact h.step_ring net hcancelled hopen hm
  | announce =>
    rw [hm] at hsame
    simp only [Threads.step, step?, receiverStep, hm, ← hsame, Option.getD_some]
    exact .together rfl rfl ⟨rfl, h.buffer, h.handlers,
      congrArg (fun c : CardCounters => { c with interruptsRaised := c.interruptsRaised + 1 })
        h.counters, h.isPending, h.traffic, h.port⟩ rfl rfl id
  | await => exact h.step_await net hcancelled hopen hm
  | ended =>
    rw [hm] at hsame
    simp only [Threads.step, step?, receiverStep, hm, ← hsame, Option.getD_none]
    exact h.stay

end Twins

/-- When the relay's thread ends, at most the port changes, and not for who reads from it. -/
theorem releaseStack_eq (c : Card σ) :
    ∃ port, releaseStack c = { c with link := { c.link with port } } ∧
      port.ReadsAlike c.link.port := by
  unfold releaseStack Card.onRelay
  split
  · rename_i pipe relay hport hrelay
    refine ⟨.pipe pipe.closeStack, by rw [hrelay], ?_⟩
    rw [hport]
    exact .released pipe
  · exact ⟨c.link.port, rfl, .same _⟩

/-! ## Shutdown beside a card that is left alone -/

/-- The counters are the same, and each of the two threads has come equally far beside its twin, or
has left. The second card has not begun to shut down. -/
structure Shadows (m n : Threads σ) : Prop where
  running : n.closer = .running
  stats : m.card.stats = n.card.stats
  reception : m.HasLeft ∨ m.Twins n
  relay : m.relay = .ended ∨
    m.relay = n.relay ∧ m.card.relay = n.card.relay ∧ m.card.link.port = n.card.link.port

namespace Shadows

theorem refl (hm : m.closer = .running) : m.Shadows m :=
  ⟨hm, rfl, .inr ⟨rfl, rfl, rfl, rfl, rfl, rfl, .same _⟩, .inr ⟨rfl, rfl, rfl⟩⟩

/-- The shutdown itself moves no counter, and the second card is not concerned. -/
theorem closer (hm : Progress m) (h : m.Shadows n) : (m.step net .closer).1.Shadows n := by
  rcases step_cases net m .closer with ⟨-, hstep⟩ | heffect
  · rw [hstep]
    exact h
  have hnext := hm.effect heffect
  generalize (m.step net .closer).1 = m', (m.step net .closer).2 = marks at heffect hnext
  cases heffect with
  | flag =>
    refine ⟨h.running, h.stats, h.reception.imp ?_ ?_, h.relay⟩
    · exact fun hleft => ⟨rfl, hleft.2⟩
    · rintro ⟨h₁, h₂, h₃, h₄, h₅, h₆, h₇⟩
      exact ⟨h₁, h₂, h₃, h₄, h₅, h₆, h₇⟩
  | silence | stop | join =>
    refine ⟨h.running, h.stats, h.reception.imp id ?_, h.relay⟩
    rintro ⟨h₁, h₂, h₃, h₄, h₅, h₆, h₇⟩
    exact ⟨h₁, h₂, h₃, h₄, h₅, h₆, h₇⟩
  -- Both threads have left by the time the port is let go.
  | finish _ hended =>
    have hstage : 5 ≤ CloserPoint.finished.stage := Nat.le_refl 5
    refine ⟨h.running, h.stats, .inl ⟨hnext.cancelled.2 ?_, .inr hended⟩, .inl (hnext.relay ?_)⟩
    · exact Nat.le_trans (by decide) hstage
    · exact Nat.le_trans (by decide) hstage

end Shadows

/-- Nobody has asked the threads of a card to stop before shutdown begins. -/
theorem Progress.of_running (h : Progress m) (hm : m.closer = .running) :
    m.cancelled = false ∧ m.card.doorbell.isClosed = false ∧ m.relayCancelled = false := by
  have hcancelled := h.cancelled
  have hclosed := h.closed
  have hrelay := h.relayCancelled
  rw [hm] at hcancelled hclosed hrelay
  simpa [CloserPoint.stage] using And.intro hcancelled (And.intro hclosed hrelay)

theorem HasLeft.step (h : m.HasLeft) :
    (m.step net .receiver).1 = { m with receiver := .ended } := by
  obtain ⟨hcancelled, hm | hm⟩ := h
  · simp only [Threads.step, step?, receiverStep, hm, hcancelled, ↓reduceIte, Option.getD_some]
  · simp only [Threads.step, step?, receiverStep, hm, Option.getD_none]
    rw [← hm]

namespace Shadows

/-- A step of the reception thread is taken beside its twin, or by itself. -/
theorem receiver (hm : Progress m) (hn : Progress n) (h : m.Shadows n) :
    (m.step net .receiver).1.Shadows n ∨
      (m.step net .receiver).1.Shadows (n.step net .receiver).1 := by
  obtain ⟨hcancelled, hopen, -⟩ := hn.of_running h.running
  rcases h.reception with hleft | htwins
  · rw [hleft.step net]
    exact .inl ⟨h.running, h.stats, .inl ⟨hleft.1, .inr rfl⟩, h.relay⟩
  have hside := htwins.step net hm.cancelled_of_closed hcancelled hopen
  generalize (m.step net .receiver).1 = m', (n.step net .receiver).1 = n' at hside
  cases hside with
  | left point heq hleft =>
    subst heq
    exact .inl ⟨h.running, h.stats, .inl hleft, h.relay⟩
  | together heq heq' htwins hrelay hrelay' hport =>
    subst heq heq'
    refine .inr ⟨h.running, ?_, .inr htwins, h.relay.imp id ?_⟩
    · have hpump := congrArg CardStats.relay h.stats
      simp only [Card.stats, CardStats.mk.injEq] at hpump ⊢
      rw [hrelay, hrelay']
      exact ⟨htwins.counters, htwins.traffic, hpump⟩
    · rintro ⟨hpoint, hsame, hports⟩
      exact ⟨hpoint, by rw [hrelay, hrelay', hsame], hport hports⟩

/-- So is a step of the relay's thread. -/
theorem relayStep (hn : Progress n) (h : m.Shadows n) :
    (m.step net .relay).1.Shadows n ∨ (m.step net .relay).1.Shadows (n.step net .relay).1 := by
  obtain ⟨-, -, hcancelled⟩ := hn.of_running h.running
  rcases h.relay with hended | ⟨hpoint, hrelay, hport⟩
  · have hstay : (m.step net .relay).1 = m := by
      simp only [step, step?, Threads.relayStep, hended, Option.getD_none]
    rw [hstay]
    exact .inl h
  -- What either thread does to relay and port, it does to both cards.
  have hact : ∀ (act : Relay σ → StackPipe → Relay σ × StackPipe) (point : RelayPoint),
      Shadows { m with card := m.card.onRelay act, relay := point }
        { n with card := n.card.onRelay act, relay := point } := by
    intro act point
    obtain ⟨relay, port, hm', hn'⟩ := Card.onRelay_congr hrelay hport act
    have hstats := h.stats
    simp only [Card.stats, CardStats.mk.injEq] at hstats
    rw [hm', hn']
    refine ⟨h.running, ?_, h.reception.imp id ?_, .inr ⟨rfl, rfl, rfl⟩⟩
    · simp only [Card.stats, hstats.1, hstats.2.1]
    · rintro ⟨h₁, h₂, h₃, h₄, h₅, h₆, -⟩
      exact ⟨h₁, h₂, h₃, h₄, h₅, h₆, .same _⟩
  cases hm : m.relay with
  | check =>
    rw [hm] at hpoint
    cases hc : m.relayCancelled with
    | true =>
      obtain ⟨port, hrelease, halike⟩ := releaseStack_eq m.card
      simp only [step, step?, Threads.relayStep, hm, hc, hrelease, ↓reduceIte, Option.getD_some]
      refine .inl ⟨h.running, h.stats, h.reception.imp id ?_, .inl rfl⟩
      rintro ⟨h₁, h₂, h₃, h₄, h₅, h₆, -⟩
      exact ⟨h₁, h₂, h₃, h₄, h₅, h₆, hport ▸ halike⟩
    | false =>
      simp only [step, step?, Threads.relayStep, hm, ← hpoint, hc, hcancelled, Bool.false_eq_true,
        ↓reduceIte, Option.getD_some]
      refine .inr ⟨h.running, h.stats, h.reception.imp id ?_, .inr ⟨rfl, hrelay, hport⟩⟩
      rintro ⟨h₁, h₂, h₃, h₄, h₅, h₆, h₇⟩
      exact ⟨h₁, h₂, h₃, h₄, h₅, h₆, h₇⟩
  | input =>
    rw [hm] at hpoint
    simp only [step, step?, Threads.relayStep, hm, ← hpoint, Option.getD_some]
    exact .inr (hact (Relay.takeInput net) .serve)
  | serve =>
    rw [hm] at hpoint
    simp only [step, step?, Threads.relayStep, hm, ← hpoint, Option.getD_some]
    exact .inr (hact (Relay.serve net) .check)
  | ended =>
    simp only [step, step?, Threads.relayStep, hm, Option.getD_none]
    exact .inl h

/-- Every step of the card that is shut down is matched by at most one step of the other. -/
theorem step (hm : Progress m) (hn : Progress n) (h : m.Shadows n) {a : Actor}
    (ha : a.isInternal = true ∨ a.isCloser = true) :
    (m.step net a).1.Shadows n ∨
      a.isInternal = true ∧ (m.step net a).1.Shadows (n.step net a).1 := by
  cases a with
  | receiver => exact (h.receiver net hm hn).imp id fun hnext => ⟨rfl, hnext⟩
  | relay => exact (h.relayStep net hn).imp id fun hnext => ⟨rfl, hnext⟩
  | closer => exact .inl (h.closer net hm)
  | guest | outside => rcases ha with ha | ha <;> cases ha

theorem after (hm : Progress m) (hn : Progress n) (h : m.Shadows n) {as : List Actor}
    (has : ∀ a ∈ as, a.isInternal = true ∨ a.isCloser = true) :
    ∃ bs, (∀ b ∈ bs, b.isInternal = true) ∧ (m.after net as).Shadows (n.after net bs) := by
  induction as generalizing m n with
  | nil => exact ⟨[], by simp, h⟩
  | cons a as ih =>
    have hrest : ∀ b ∈ as, b.isInternal = true ∨ b.isCloser = true := fun b hb =>
      has b (List.mem_cons_of_mem a hb)
    rcases h.step net hm hn (has a List.mem_cons_self) with hnext | ⟨ha, hnext⟩
    · exact ih (hm.step net a) hn hnext hrest
    · obtain ⟨bs, hbs, hlast⟩ := ih (hm.step net a) (hn.step net a) hnext hrest
      exact ⟨a :: bs, List.forall_mem_cons.2 ⟨ha, hbs⟩, hlast⟩

end Shadows

/-- Shutdown moves no counter of a card whose threads move none by themselves. -/
theorem stats_shutdown_of_isSettled (h : Progress m) (hm : m.closer = .running)
    (hsettled : IsSettled net Card.stats m) {as : List Actor}
    (has : ∀ a ∈ as, a.isInternal = true ∨ a.isCloser = true) :
    (m.after net as).card.stats = m.card.stats := by
  obtain ⟨bs, hbs, hlast⟩ := (Shadows.refl hm).after net h h has
  exact hlast.stats.trans (hsettled bs hbs)

end Threads
end GuestNic
