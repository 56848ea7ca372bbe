import GuestNic.Proofs.Card.Refit
import GuestNic.Proofs.Nat.Digest

/-!
# What a card in NAT mode comes to when it is left alone

Reception takes frames out at one end of the queue towards the guest while the relay puts frames in
at the other, and with room for all of them neither notices what the other does: the two commute
unless the queue is empty. `Card.outcome` lets the relay take in everything that waits and then
reception read; a round of either, in any order, leaves the outcome as it is.
-/

namespace GuestNic.Card

variable {σ : Type}

/-! ## Wiring -/

/-- A card in NAT mode whose relay is at work. -/
structure IsWired (c : Card σ) (r : Relay σ) (p : StackPipe) : Prop extends r.IsAtWork p where
  port : c.link.port = .pipe p
  attached : c.relay = some r

/-- The card with another relay at another pipe. -/
def rewire (c : Card σ) (r : Relay σ) (p : StackPipe) : Card σ :=
  { c with link := { c.link with port := .pipe p }, relay := some r }

variable {c : Card σ} {r r' : Relay σ} {p p' : StackPipe}

theorem IsWired.onRelay (h : c.IsWired r p) (act : Relay σ → StackPipe → Relay σ × StackPipe) :
    c.onRelay act = c.rewire (act r p).1 (act r p).2 := by
  simp only [Card.onRelay, h.port, h.attached]
  rfl

theorem IsWired.rewire_self (h : c.IsWired r p) : c.rewire r p = c := by
  obtain ⟨_, _, _, ⟨port, _⟩, relay, _, _, _, _, _⟩ := c
  cases h.port
  cases h.attached
  rfl

theorem IsWired.rewire (c : Card σ) (h : r.IsAtWork p) : (c.rewire r p).IsWired r p where
  toIsAtWork := h
  port := rfl
  attached := rfl

theorem IsWired.of_eq {c' : Card σ} (h : c.IsWired r p) (hport : c'.link.port = c.link.port)
    (hrelay : c'.relay = c.relay) : c'.IsWired r p where
  toIsAtWork := h.toIsAtWork
  port := hport.trans h.port
  attached := hrelay.trans h.attached

/-- Another relay at another pipe is a change that does not touch the handlers. -/
def rewiring (r : Relay σ) (p : StackPipe) : Refit σ σ where
  port _ := .pipe p
  relay _ := some r

theorem rewiring_countsAlike (r : Relay σ) (p : StackPipe) : (rewiring r p).CountsAlike := {}

theorem deliver_rewire (c : Card σ) (origin : Origin) (r : Relay σ) (p : StackPipe) :
    (c.rewire r p).deliver origin =
      ((c.deliver origin).1.rewire r p, (c.deliver origin).2) :=
  deliver_refit (rewiring_countsAlike r p) (.inl rfl)

/-! ## Reading -/

/-- What a read makes of the oldest frame, with the counters and the buffer afterwards. -/
def readOff (traffic : Traffic) (buffer : FrameBuffer) (d : Bytes) :
    Traffic × FrameBuffer × Except Host.Fault (Option Origin) :=
  let (buffer, filled) := buffer.fillWith Frame.maxSize fun _ =>
    (.ofBytes (.ok (d.take Frame.maxSize)) : Filling Host.Fault)
  Link.settleRead traffic buffer (filled.bind fun length => .ok (length, .device))

theorem read_eq_readOff {l : Link} (hp : l.port = .pipe p) {d : Bytes} {ds : List Bytes}
    (hq : p.toGuest.queue = d :: ds) (buffer : FrameBuffer) :
    l.read buffer =
      let (traffic, buffer, answer) := readOff l.traffic buffer d
      ({ port := .pipe p.withoutFrame, traffic }, buffer, answer) := by
  simp only [Link.read, hp, Port.read, StackPipe.receive, Host.Channel.receive_cons hq, Except.map,
    StackPipe.withoutFrame, hq, List.tail_cons]
  rfl

theorem readFrame_rewire (hc : c.link.port = .pipe p) {d : Bytes} {ds ds' : List Bytes}
    (hq : p.toGuest.queue = d :: ds) (hq' : p'.toGuest.queue = d :: ds') :
    (c.rewire r' p').readFrame =
      (c.readFrame.1.rewire r' p'.withoutFrame, c.readFrame.2) := by
  have hport : (c.rewire r' p').link.port = .pipe p' := rfl
  have htraffic : (c.rewire r' p').link.traffic = c.link.traffic := rfl
  have hbuffer : (c.rewire r' p').buffer = c.buffer := rfl
  rw [readFrame, readFrame, read_eq_readOff hport hq', read_eq_readOff hc hq, htraffic, hbuffer]
  rcases readOff c.link.traffic c.buffer d with ⟨traffic, buffer, e | _ | origin⟩
  · rfl
  · rfl
  · exact deliver_rewire { c with link := { port := .pipe p.withoutFrame, traffic }, buffer }
      origin r' p'.withoutFrame

/-- A frame that is read leaves the relay and what waits for it alone. -/
theorem IsWired.readFrame (h : c.IsWired r p) {d : Bytes} {ds : List Bytes}
    (hq : p.toGuest.queue = d :: ds) : c.readFrame.1.IsWired r p.withoutFrame := by
  have hframe : (c.rewire r p).readFrame =
      (c.readFrame.1.rewire r p.withoutFrame, c.readFrame.2) := readFrame_rewire h.port hq hq
  rw [h.rewire_self] at hframe
  rw [hframe]
  exact .rewire _ ⟨h.inputOpen, h.inputFault, h.toGuest.withQueue _⟩

theorem IsWired.isQueue (h : c.IsWired r p) : c.link.port.IsQueue := by
  rw [h.port]
  exact .pipe h.toGuest

theorem IsWired.queue_eq (h : c.IsWired r p) : c.queue = p.toGuest.queue := by
  rw [queue, h.port]
  rfl

theorem IsWired.backlog_eq (h : c.IsWired r p) : c.link.port.backlog = p.toGuest.queue.length := by
  rw [h.port]
  rfl

/-- A round of reception that finds a frame, and may read it, does. -/
theorem IsWired.receive_of_cons (h : c.IsWired r p) (hr : c.isResting = false) {d : Bytes}
    {ds : List Bytes} (hq : p.toGuest.queue = d :: ds) : c.receive = c.readFrame := by
  refine receive_of_readable hr ?_
  have hqueue : c.link.port.queue = d :: ds := h.queue_eq.trans hq
  rw [Link.wait_eq h.isQueue, hqueue]
  rfl

/-- A round of reception does nothing, or reads the oldest frame. -/
theorem IsWired.receive_cases (h : c.IsWired r p) :
    ((c.isResting = true ∨ p.toGuest.queue = []) ∧ c.receive = (c, [])) ∨
      ∃ d ds, p.toGuest.queue = d :: ds ∧ c.isResting = false ∧ c.receive = c.readFrame := by
  cases hr : c.isResting with
  | true => exact .inl ⟨.inl rfl, receive_of_resting hr⟩
  | false =>
    cases hq : p.toGuest.queue with
    | nil => exact .inl ⟨.inr rfl, receive_of_queue_nil h.isQueue (h.queue_eq.trans hq)⟩
    | cons d ds => exact .inr ⟨d, ds, rfl, rfl, h.receive_of_cons hr hq⟩

/-! ## The outcome -/

variable (net : NetStack σ)

/-- The card after the relay has taken everything that waits for it. -/
def digested (c : Card σ) : Card σ := c.onRelay (Relay.digestPipe net)

/-- The card after reception has had a turn for every frame that waits. -/
def drained (c : Card σ) : Card σ := (receiveTimes c.link.port.backlog c).1

/-- What the card comes to when it is left alone. -/
def outcome (c : Card σ) : Card σ := (c.digested net).drained

theorem IsWired.digested (h : c.IsWired r p) :
    (c.digested net).IsWired (Relay.digestPipe net r p).1 (Relay.digestPipe net r p).2 := by
  rw [Card.digested, h.onRelay]
  exact .rewire c (Relay.digestPipe_isAtWork net h.toIsAtWork)

/-- What waits for the guest is in front of what the relay makes of the records. -/
theorem digestPipe_queue {d : Bytes} {ds : List Bytes} (hq : p.toGuest.queue = d :: ds) :
    (Relay.digestPipe net r p).2.toGuest.queue =
      d :: (ds ++ (r.digest net p.toStack.queue).2) := by
  show p.toGuest.queue ++ _ = _
  rw [hq, List.cons_append]

/-- Whatever the relay makes of the records joins the end of the queue, so a read before it is a
read after it. -/
theorem digested_readFrame (h : c.IsWired r p) {d : Bytes} {ds : List Bytes}
    (hq : p.toGuest.queue = d :: ds) :
    (c.digested net).readFrame.1 = c.readFrame.1.digested net := by
  have hqueue := digestPipe_queue (r := r) net hq
  have hrest : Relay.digestPipe net r p.withoutFrame =
      ((Relay.digestPipe net r p).1, (Relay.digestPipe net r p).2.withoutFrame) := by
    simp only [Relay.digestPipe, StackPipe.withoutFrame, StackPipe.enqueue,
      StackPipe.withoutRecords, hq, List.cons_append, List.tail_cons]
  rw [digested, h.onRelay, readFrame_rewire h.port hq hqueue, digested, (h.readFrame hq).onRelay,
    hrest]

theorem drained_of_eq (h : c.receive = (c, [])) : c.drained = c := by
  rw [drained, receiveTimes_of_eq h]

/-- Draining begins with the oldest frame. -/
theorem drained_readFrame (h : c.IsWired r p) (hr : c.isResting = false) {d : Bytes}
    {ds : List Bytes} (hq : p.toGuest.queue = d :: ds) : c.readFrame.1.drained = c.drained := by
  have hlen : p.withoutFrame.toGuest.queue.length = ds.length := by
    show p.toGuest.queue.tail.length = ds.length
    rw [hq, List.tail_cons]
  rw [drained, (h.readFrame hq).backlog_eq, hlen, drained, h.backlog_eq, hq, List.length_cons,
    receiveTimes, h.receive_of_cons hr hq]

/-- More turns than frames change nothing. -/
theorem receiveTimes_of_le (h : c.IsWired r p) {n : Nat} (hn : p.toGuest.queue.length ≤ n) :
    (receiveTimes n c).1 = c.drained := by
  induction n generalizing c p with
  | zero =>
    have hlen : p.toGuest.queue.length = 0 := Nat.le_zero.1 hn
    rw [drained, h.backlog_eq, hlen]
  | succ n ih =>
    rcases h.receive_cases with ⟨-, hsame⟩ | ⟨d, ds, hq, hr, hread⟩
    · rw [receiveTimes_of_eq hsame, drained_of_eq hsame]
    · have hrest : p.withoutFrame.toGuest.queue.length ≤ n := by
        show p.toGuest.queue.tail.length ≤ n
        rw [hq] at hn ⊢
        exact Nat.le_of_succ_le_succ hn
      rw [receiveTimes, hread, ← drained_readFrame h hr hq]
      exact ih (h.readFrame hq) hrest

/-- Reading a frame leaves the outcome as it is. -/
theorem outcome_readFrame (h : c.IsWired r p) (hr : c.isResting = false) {d : Bytes}
    {ds : List Bytes} (hq : p.toGuest.queue = d :: ds) :
    c.readFrame.1.outcome net = c.outcome net := by
  have hdigested := h.digested net
  have hqueue := digestPipe_queue (r := r) net hq
  have hresting : (c.digested net).isResting = false := by
    rw [digested, h.onRelay]
    exact hr
  rw [outcome, ← digested_readFrame net h hq, drained_readFrame hdigested hresting hqueue, outcome]

/-- A turn of the relay leaves the outcome as it is. -/
theorem outcome_takeInput (h : c.IsWired r p) (hroom : r.HasRoom net p) :
    (c.onRelay (Relay.takeInput net)).outcome net = c.outcome net := by
  rcases Relay.takeInput_cases net h.toIsAtWork hroom with ⟨-, hsame⟩ |
    ⟨r', p', htake, hwork, -, hdigest, -, -⟩
  · rw [h.onRelay, hsame, h.rewire_self]
  · have hnext : (c.rewire r' p').IsWired r' p' := .rewire c hwork
    rw [h.onRelay, htake, outcome, digested, hnext.onRelay, hdigest, outcome, digested, h.onRelay]
    rfl

/-- Where nothing is left to do the outcome has been reached. -/
theorem outcome_eq_self (h : c.IsWired r p) (hstack : p.toStack.queue = [])
    (hguest : c.isResting = true ∨ p.toGuest.queue = []) : c.outcome net = c := by
  have hdigested : c.digested net = c := by
    have hsame : Relay.digestPipe net r p = (r, p) := Relay.digestPipe_of_nil net hstack
    rw [digested, h.onRelay, hsame, h.rewire_self]
  have hrest : c.receive = (c, []) := by
    rcases hguest with hr | hq
    · exact receive_of_resting hr
    · exact receive_of_queue_nil h.isQueue (h.queue_eq.trans hq)
  rw [outcome, hdigested, drained_of_eq hrest]

/-! ## Settling -/

/-- Settling a card whose stack is quiet takes it to its outcome. -/
theorem settle_eq_outcome (hquiet : net.IsQuiet) (h : c.IsWired r p) (hroom : r.HasRoom net p)
    (hopen : c.isOpen = true) : (c.settle net).1 = c.outcome net := by
  have hrelay : c.runRelay net = c.digested net := by
    have hrounds := Relay.rounds_of_quiet net hquiet h.toIsAtWork hroom
      (Nat.le_add_right p.toStack.queue.length 2)
    rw [digested, h.onRelay, ← hrounds]
    unfold runRelay
    split
    · rename_i p' r' _ hport hattached
      cases h.port.symm.trans hport
      cases h.attached.symm.trans hattached
      rfl
    · rename_i hno
      exact (hno p r hopen h.port h.attached).elim
  have hdigested := h.digested net
  rw [settle, hrelay, outcome]
  refine receiveTimes_of_le hdigested ?_
  rw [hdigested.backlog_eq]
  exact Nat.le_succ _

end GuestNic.Card
