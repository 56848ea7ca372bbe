import GuestNic.Proofs.Card.Growth
import GuestNic.Proofs.Card.Reception

/-!
# Every frame reaches the handler it is meant for

Through every history of an open card, what the guest's handlers were entered for, and what has been
rung for and not taken, are together what the frames that were read ask for, in the order in which
they were read. A move keeps the balance (`move_balanced`), and so does a history.
-/

namespace GuestNic.Card

variable {σ : Type} (net : NetStack σ)

/-! ## What is seen -/

/-- The datagrams read in one move, with the handlers of that moment. -/
def readNow (c : Card σ) (m : Move) : List Reading :=
  (departed c.queue (c.move net m).1.queue).map fun d => ⟨d, c.handlers⟩

/-- The handlers entered in one move. -/
def invokedNow (c : Card σ) (m : Move) : List Invocation := Invocation.ofEvents (c.move net m).2

/-- All that was read in a history, in order. -/
def readings (c : Card σ) (moves : List Move) : List Reading := log net (readNow net) c moves

/-- All handlers that were entered in a history, in order. -/
def invocations (c : Card σ) (moves : List Move) : List Invocation :=
  log net (invokedNow net) c moves

/-- How often the interrupt was raised. -/
def interrupts (c : Card σ) (moves : List Move) : Nat := (c.events net moves).count .interrupt

theorem readNow_datagrams (c : Card σ) (m : Move) :
    (readNow net c m).map Reading.datagram = departed c.queue (c.move net m).1.queue := by
  rw [readNow, List.map_map]
  exact List.map_id _

theorem readings_snoc (c : Card σ) (ms : List Move) (m : Move) :
    c.readings net (ms ++ [m]) = c.readings net ms ++ readNow net (c.after net ms) m :=
  log_snoc net _ c ms m

theorem invocations_snoc (c : Card σ) (ms : List Move) (m : Move) :
    c.invocations net (ms ++ [m]) = c.invocations net ms ++ invokedNow net (c.after net ms) m :=
  log_snoc net _ c ms m

theorem interrupts_snoc (c : Card σ) (ms : List Move) (m : Move) :
    c.interrupts net (ms ++ [m]) =
      c.interrupts net ms + ((c.after net ms).move net m).2.count .interrupt := by
  rw [interrupts, events, log_snoc, List.count_append]
  rfl

theorem arrivals_snoc (c : Card σ) (ms : List Move) (m : Move) :
    c.arrivals net (ms ++ [m]) = c.arrivals net ms ++ (c.after net ms).arrived m :=
  log_snoc net _ c ms m

/-! ## Serving cards -/

/-- An open card on a queue whose reception goes on, with a delivery for a handler exactly while a
ring is outstanding. -/
structure IsServing (c : Card σ) : Prop where
  isQueue : c.link.port.IsQueue
  isOpen : c.isOpen = true
  isReceiving : c.isReceiving = true
  isClosed : c.doorbell.isClosed = false
  isPending : c.doorbell.isPending = !c.outstanding.isEmpty
  delivery : ∀ d, c.doorbell.delivery = some d → d.invocation?.isSome

theorem isServing_ofLink {link : Link} (h : link.port.IsQueue) (relay : Option (Relay σ))
    (layout : ReceiveLayout) : (ofLink link relay layout).IsServing where
  isQueue := h
  isOpen := rfl
  isReceiving := rfl
  isClosed := rfl
  isPending := rfl
  delivery := fun d hd => by cases hd

variable {c : Card σ}

namespace IsServing

theorem of_prolongs {c' : Card σ} {more : List Bytes} (h : c.IsServing)
    (hp : c.Prolongs c' more) : c'.IsServing where
  isQueue := hp.isQueue
  isOpen := hp.isOpen.trans h.isOpen
  isReceiving := hp.isReceiving.trans h.isReceiving
  isClosed := by rw [hp.doorbell]; exact h.isClosed
  isPending := by rw [outstanding, hp.doorbell]; exact h.isPending
  delivery := by rw [hp.doorbell]; exact h.delivery

/-- Reception rests exactly while a ring is outstanding. -/
theorem isResting_eq (h : c.IsServing) : c.isResting = c.doorbell.isPending := by
  simp [isResting, h.isOpen, h.isReceiving]

theorem not_isPending_iff (h : c.IsServing) :
    c.doorbell.isPending = false ↔ c.outstanding = [] := by
  rw [h.isPending, Bool.not_eq_false', List.isEmpty_iff]

/-- Either no ring is outstanding and nothing has been rung for, or one delivery for a handler waits
to be taken. -/
theorem rung_or_quiet (h : c.IsServing) :
    (c.doorbell.isPending = false ∧ c.doorbell.delivery = none ∧ c.outstanding = []) ∨
      ∃ d i, c.doorbell.isPending = true ∧ c.doorbell.delivery = some d ∧ d.invocation? = some i ∧
        c.outstanding = [i] := by
  cases hd : c.doorbell.delivery with
  | none =>
    have hout : c.outstanding = [] := by simp [outstanding, hd]
    exact .inl ⟨h.not_isPending_iff.2 hout, rfl, hout⟩
  | some d =>
    obtain ⟨i, hi⟩ := Option.isSome_iff_exists.1 (h.delivery d hd)
    have hout : c.outstanding = [i] := by simp [outstanding, hd, hi]
    refine .inr ⟨d, i, ?_, rfl, hi, hout⟩
    rw [h.isPending, hout]
    rfl

end IsServing

/-! ## Servicing -/

/-- What a service does to a serving card: nothing when no ring is outstanding, and otherwise it
hands over the one delivery. -/
theorem service_cases (h : c.IsServing) :
    (c.outstanding = [] ∧
      c.service = ({ c with
        counters.interruptsSpurious := c.counters.interruptsSpurious + 1 }, [], false)) ∨
    ∃ d i, d.invocation? = some i ∧ c.outstanding = [i] ∧
      c.service = ({ c with
        counters := { c.counters with
          interruptsServiced := c.counters.interruptsServiced + 1
          rxPackets := c.counters.rxPackets + 1 }
        doorbell := .idle }, upcall c.layout d, true) := by
  rcases h.rung_or_quiet with ⟨hp, hd, hout⟩ | ⟨d, i, hp, hd, hi, hout⟩
  · refine .inl ⟨hout, ?_⟩
    simp only [service, Doorbell.take, hp, Bool.false_eq_true, ↓reduceIte]
  · refine .inr ⟨d, i, hi, hout, ?_⟩
    simp only [service, Doorbell.take, hp, ↓reduceIte, hd, Doorbell.acknowledge, h.isClosed,
      Doorbell.idle]

theorem service_queue (c : Card σ) : c.service.1.queue = c.queue := by
  unfold service
  split <;> rfl

theorem service_relay (c : Card σ) : c.service.1.relay = c.relay := by
  unfold service
  split <;> rfl

/-! ## One move -/

theorem departed_append (q more : List Bytes) : departed q (q ++ more) = [] := by
  simp [departed]

theorem ofEvents_eq_nil {events : List CardEvent}
    (h : ∀ e ∈ events, ∃ address length, e = .read address length) :
    Invocation.ofEvents events = [] ∧ events.count .interrupt = 0 := by
  induction events with
  | nil => exact ⟨rfl, rfl⟩
  | cons e es ih =>
    obtain ⟨address, length, rfl⟩ := h e List.mem_cons_self
    obtain ⟨hnone, hcount⟩ := ih fun e he => h e (List.mem_cons_of_mem _ he)
    refine ⟨hnone, ?_⟩
    rw [List.count_cons_of_ne (by simp), hcount]

/-- The balance of one move: what was outstanding and what is read now is what is invoked now and
what is outstanding then; the interrupt is raised once for each frame that asks for an
invocation. -/
structure Balanced (c c' : Card σ) (events : List CardEvent) (read : List Reading) : Prop where
  isServing : c'.IsServing
  outstanding : c.outstanding ++ read.filterMap Reading.invocation? =
    Invocation.ofEvents events ++ c'.outstanding
  interrupts : events.count .interrupt = (read.filterMap Reading.invocation?).length
  /-- What is outstanding was read last. -/
  latest : c'.outstanding ≠ [] → read = [] ∧ c'.outstanding = c.outstanding ∨
    ∃ r, read = [r] ∧ r.invocation?.toList = c'.outstanding

theorem Balanced.of_prolongs {c' : Card σ} {more : List Bytes} {events : List CardEvent}
    (h : c.IsServing) (hp : c.Prolongs c' more)
    (he : ∀ e ∈ events, ∃ address length, e = .read address length) :
    Balanced c c' events ((departed c.queue c'.queue).map (⟨·, c.handlers⟩)) := by
  obtain ⟨hnone, hcount⟩ := ofEvents_eq_nil he
  have hout : c'.outstanding = c.outstanding := by rw [Card.outstanding, hp.doorbell]; rfl
  rw [hp.queue, departed_append]
  refine ⟨h.of_prolongs hp, ?_, hcount, fun _ => .inl ⟨rfl, hout⟩⟩
  rw [hnone, hout]
  exact List.append_nil _

theorem service_balanced (h : c.IsServing) :
    Balanced c c.service.1 c.service.2.1
      ((departed c.queue c.service.1.queue).map (⟨·, c.handlers⟩)) := by
  rcases service_cases h with ⟨hout, heq⟩ | ⟨d, i, hi, hout, heq⟩
  · have hsame : c.Prolongs c.service.1 [] := by
      rw [heq]
      exact .of_link h.isQueue ⟨rfl, rfl, rfl, rfl⟩ rfl
    have hev : c.service.2.1 = [] := by rw [heq]
    rw [hev]
    exact .of_prolongs h hsame (by simp)
  · rw [heq]
    have hq : departed c.queue c.queue = [] := departed_self _
    refine ⟨⟨h.isQueue, h.isOpen, h.isReceiving, rfl, rfl, fun d hd => by cases hd⟩, ?_, ?_, ?_⟩
    · simp only [queue] at hq ⊢
      simp only [hq, Invocation.ofEvents_upcall, hi, hout]
      rfl
    · simp only [queue] at hq ⊢
      simp only [hq]
      cases d <;> rfl
    · intro hne
      exact absurd rfl hne

theorem IsServing.dequeued (h : c.IsServing) (traffic : Traffic) (buffer : FrameBuffer) :
    (c.dequeued traffic buffer).IsServing :=
  ⟨h.isQueue.dequeue, h.isOpen, h.isReceiving, h.isClosed, h.isPending, h.delivery⟩

theorem queue_dequeue (h : c.link.port.IsQueue) {d : Bytes} {ds : List Bytes}
    (hq : c.queue = d :: ds) : c.link.port.dequeue.queue = ds := by
  have hq : c.link.port.queue = d :: ds := hq
  rw [Port.queue_dequeue h, hq, List.tail_cons]

theorem departed_dequeue (h : c.link.port.IsQueue) {d : Bytes} {ds : List Bytes}
    (hq : c.queue = d :: ds) : departed c.link.port.queue c.link.port.dequeue.queue = [d] := by
  have hport : c.link.port.queue = d :: ds := hq
  rw [queue_dequeue h hq, hport, departed_cons]

/-- One reading, while nothing was outstanding, whose invocation is outstanding afterwards. -/
theorem Balanced.of_read {c' : Card σ} {events : List CardEvent} {r : Reading}
    (hs : c'.IsServing) (hquiet : c.outstanding = [])
    (hout : r.invocation?.toList = c'.outstanding) (he : Invocation.ofEvents events = [])
    (hcount : events.count .interrupt = c'.outstanding.length) : Balanced c c' events [r] := by
  have hasked : [r].filterMap Reading.invocation? = c'.outstanding := by
    rw [← hout, List.filterMap_cons]
    cases r.invocation? <;> rfl
  refine ⟨hs, ?_, ?_, fun _ => .inr ⟨r, rfl, hout⟩⟩
  · rw [hasked, hquiet, he]
  · rw [hasked, hcount]

theorem receive_balanced (h : c.IsServing) :
    Balanced c c.receive.1 c.receive.2
      ((departed c.queue c.receive.1.queue).map (⟨·, c.handlers⟩)) := by
  have hround := receive_round h.isQueue h.isClosed
  -- Reception that does not rest has no ring outstanding, so that nothing can be overwritten.
  have hquiet : c.isResting = false → c.outstanding = [] := by
    intro hr
    rw [h.isResting_eq] at hr
    exact h.not_isPending_iff.1 hr
  generalize c.receive.1 = c' at hround ⊢
  generalize c.receive.2 = events at hround ⊢
  cases hround with
  | rest hrest => exact .of_prolongs h (.refl h.isQueue) (by simp)
  | @runt d ds hr hq hlen buffer =>
    simp only [queue, Card.dequeued, departed_dequeue h.isQueue hq, List.map_singleton]
    refine .of_read (h.dequeued _ _) (hquiet hr) ?_ rfl ?_
    · have hnone : (Reading.mk d c.handlers).invocation? = none := if_pos hlen
      rw [hnone]
      exact (hquiet hr).symm
    · exact congrArg List.length (hquiet hr).symm
  | @dropped d ds hr hq hlen hi =>
    simp only [queue, Card.dequeued, departed_dequeue h.isQueue hq, List.map_singleton]
    have hd := h.dequeued c.link.traffic .empty
    refine .of_read ⟨hd.isQueue, hd.isOpen, hd.isReceiving, hd.isClosed, hd.isPending,
      hd.delivery⟩ (hquiet hr) ?_ rfl ?_
    · have hnone : (Reading.mk d c.handlers).invocation? = none := hi
      rw [hnone]
      exact (hquiet hr).symm
    · exact congrArg List.length (hquiet hr).symm
  | @raised d ds i frame hr hq hi hframe =>
    simp only [queue, Card.dequeued, departed_dequeue h.isQueue hq, List.map_singleton]
    have hd := h.dequeued c.link.traffic .empty
    have hinv : (Delivery.handler i.routine i.type (i.frame.take Frame.headerSize)
        frame).invocation? = some i := by
      rw [Delivery.invocation?, hframe]
    refine .of_read ⟨hd.isQueue, hd.isOpen, hd.isReceiving, hd.isClosed, ?_, ?_⟩ (hquiet hr) ?_
      rfl ?_
    · simp only [outstanding, Option.bind_some, hinv]
      rfl
    · rintro _ ⟨⟩
      rw [hinv]
      rfl
    · have hsome : (Reading.mk d c.handlers).invocation? = some i := hi
      simp only [hsome, outstanding, Option.bind_some, hinv]
    · simp only [outstanding, Option.bind_some, hinv]
      rfl

/-- A round of reception takes the oldest datagram, unless a ring is outstanding or there is
none. -/
theorem receive_queue (h : c.IsServing) :
    c.receive = (c, []) ∧ (c.doorbell.isPending = true ∨ c.queue = []) ∨
      ∃ d, c.queue = d :: c.receive.1.queue := by
  have hround := receive_round h.isQueue h.isClosed
  generalize c.receive = result at hround ⊢
  obtain ⟨c', events⟩ := result
  cases hround with
  | rest hrest => exact .inl ⟨rfl, h.isResting_eq ▸ hrest⟩
  | @runt d _ _ hq => exact .inr ⟨d, hq.trans (congrArg (d :: ·) (queue_dequeue h.isQueue hq).symm)⟩
  | @dropped d _ _ hq =>
    exact .inr ⟨d, hq.trans (congrArg (d :: ·) (queue_dequeue h.isQueue hq).symm)⟩
  | @raised d _ _ _ _ hq =>
    exact .inr ⟨d, hq.trans (congrArg (d :: ·) (queue_dequeue h.isQueue hq).symm)⟩

/-- What a round of reception takes stood at the front of the queue. -/
theorem receive_departed (h : c.IsServing) :
    departed c.queue c.receive.1.queue ++ c.receive.1.queue = c.queue := by
  rcases receive_queue h with ⟨hsame, _⟩ | ⟨d, hqueue⟩
  · rw [hsame, departed_self, List.nil_append]
  · rw [hqueue, departed_cons, List.singleton_append]

theorem receive_relay (h : c.IsServing) : c.receive.1.relay = c.relay := by
  have hround := receive_round h.isQueue h.isClosed
  generalize c.receive.1 = c' at hround ⊢
  generalize c.receive.2 = events at hround
  cases hround <;> rfl

/-- Every move of a serving card keeps the balance. -/
theorem move_balanced (h : c.IsServing) (m : Move) :
    Balanced c (c.move net m).1 (c.move net m).2 (readNow net c m) := by
  cases m with
  | call call => exact .of_prolongs h (perform_prolongs h.isQueue call) fun _ => perform_events
  | service => exact service_balanced h
  | relay =>
    obtain ⟨more, hmore⟩ := relayRound_prolongs net h.isQueue
    exact .of_prolongs h hmore (by simp [move])
  | receive => exact receive_balanced h

/-! ## A whole history -/

theorem after_isServing (h : c.IsServing) (moves : List Move) : (c.after net moves).IsServing := by
  induction moves using history_induction with
  | start => exact h
  | step ms m ih =>
    rw [after_snoc]
    exact (move_balanced net ih m).isServing

/-- The invocations of a history and the outstanding one are what the frames that were read ask
for. -/
theorem invocations_append_outstanding (h : c.IsServing) (hquiet : c.outstanding = [])
    (moves : List Move) :
    c.invocations net moves ++ (c.after net moves).outstanding =
      (c.readings net moves).filterMap Reading.invocation? := by
  induction moves using history_induction with
  | start => exact hquiet
  | step ms m ih =>
    have hbalance := (move_balanced net (after_isServing net h ms) m).outstanding
    -- The outstanding invocation of the past is the first to be invoked or to stay outstanding now.
    rw [invocations_snoc, readings_snoc, after_snoc, List.filterMap_append, ← ih,
      List.append_assoc, List.append_assoc, hbalance]
    rfl

/-- The interrupt was raised once for each invocation, the outstanding one included. -/
theorem interrupts_eq (h : c.IsServing) (hquiet : c.outstanding = []) (moves : List Move) :
    c.interrupts net moves =
      (c.invocations net moves).length + (c.after net moves).outstanding.length := by
  rw [← List.length_append, invocations_append_outstanding net h hquiet]
  induction moves using history_induction with
  | start => rfl
  | step ms m ih =>
    have hbalance := (move_balanced net (after_isServing net h ms) m).interrupts
    rw [interrupts_snoc, readings_snoc, List.filterMap_append, List.length_append, ih, hbalance]

/-- What is outstanding was read last: no frame is read while a ring is outstanding. -/
theorem outstanding_latest (h : c.IsServing) (hquiet : c.outstanding = []) (moves : List Move)
    (hout : (c.after net moves).outstanding ≠ []) :
    ∃ rs r, c.readings net moves = rs ++ [r] ∧
      r.invocation?.toList = (c.after net moves).outstanding := by
  induction moves using history_induction with
  | start => exact absurd hquiet hout
  | step ms m ih =>
    rw [after_snoc] at hout ⊢
    rw [readings_snoc]
    -- Either this move read the frame, or the ring was outstanding before and nothing was read.
    rcases (move_balanced net (after_isServing net h ms) m).latest hout with
      ⟨hread, hsame⟩ | ⟨r, hread, hr⟩
    · rw [hsame] at hout ⊢
      rw [hread, List.append_nil]
      exact ih hout
    · exact ⟨_, r, by rw [hread], hr⟩

end GuestNic.Card
