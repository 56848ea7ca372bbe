import GuestNic.Proofs.Card.Reception
import GuestNic.Proofs.Link.Reading

/-!
# Rounds of reception on any port

Behind a port with a queue a round of reception is known exactly (`Card.Round`). Behind any other
one the host may answer as it likes; what remains is the list of the effects that a round can have
on the books, `Card.Receipt`.
-/

namespace GuestNic.Card

variable {σ : Type}

/-- A card after a read: the link goes on with `port`, and the frame in the buffer was counted. -/
def countFrame (c : Card σ) (port : Port) (len : Nat) : Card σ :=
  { c with
    link := { port, traffic := { c.link.traffic with
      rxFrames := c.link.traffic.rxFrames + 1
      rxBytes := c.link.traffic.rxBytes + len } }
    buffer := .empty }

/-- What a round of reception can do, and what it emits. -/
inductive Receipt (c : Card σ) : Card σ → List CardEvent → Prop where
  /-- Nothing may be read, or nothing is there. -/
  | idle (port : Port) : Receipt c { c with link := { c.link with port } } []
  /-- What was read is a runt, or reading failed. -/
  | nothing (hr : c.isResting = false) (port : Port) (buffer : FrameBuffer) (runts errors : Nat) :
      Receipt c { c with
        link := { port, traffic := { c.link.traffic with
          rxRunts := c.link.traffic.rxRunts + runts
          rxErrors := c.link.traffic.rxErrors + errors } }
        buffer } []
  /-- The host can no longer be polled. -/
  | lost (hr : c.isResting = false) (port : Port) (fault : Host.Fault) :
      Receipt c { c with
        link := { c.link with port }
        isReceiving := false
        counters.rxFailed := true } [.alert (receptionLost fault)]
  | dropped (hr : c.isResting = false) (port : Port) (len : Nat) :
      Receipt c { c.countFrame port len with
        counters.rxDropped := c.counters.rxDropped + 1 } []
  | raised (hr : c.isResting = false) (port : Port) (len : Nat) (d : Delivery) :
      Receipt c { c.countFrame port len with
        doorbell := { c.doorbell with isPending := true, delivery := some d }
        counters.interruptsRaised := c.counters.interruptsRaised + 1 } [.interrupt]

variable {c : Card σ}

/-- A frame that was read is dropped or rung for. -/
theorem prepare_cases (hlen : Frame.headerSize ≤ c.buffer.len) (origin : Origin) :
    c.prepare origin =
        ({ c with buffer := .empty, counters.rxDropped := c.counters.rxDropped + 1 }, none) ∨
      ∃ d, c.prepare origin = ({ c with buffer := .empty }, some d) := by
  have hlen : Frame.headerSize ≤ c.buffer.contents.length := by
    rwa [FrameBuffer.contents_length]
  cases origin with
  | peer peer => exact .inr ⟨.tunnel c.buffer peer, rfl⟩
  | device =>
    cases hi : c.handlers.invocation? c.buffer.contents with
    | none => exact .inl (prepare_device_none hlen hi)
    | some i => exact .inr ⟨_, (prepare_device_some hi).1⟩

/-- While the doorbell is open, reading a frame has one of the effects listed. -/
theorem readFrame_receipt (hr : c.isResting = false) (hc : c.doorbell.isClosed = false) :
    c.Receipt c.readFrame.1 c.readFrame.2 := by
  have hreads := c.link.read_reads c.buffer
  rcases hread : c.link.read c.buffer with ⟨⟨port, traffic⟩, buffer, answer⟩
  rw [hread] at hreads
  simp only [readFrame, hread] at hreads ⊢
  cases hreads with
  | runt hlen => exact .nothing hr port buffer 1 0
  | nothing hlen => exact .nothing hr port buffer 0 0
  | failed fault hlen => exact .nothing hr port buffer 0 1
  | frame origin hlen =>
    -- The handlers are looked up on the card as the read has left it.
    obtain hdrop | ⟨d, hring⟩ := prepare_cases (c := { c with
      link := { port, traffic := { c.link.traffic with
        rxFrames := c.link.traffic.rxFrames + 1
        rxBytes := c.link.traffic.rxBytes + buffer.len } }
      buffer }) hlen origin
    · simp only [deliver, hdrop]
      exact .dropped hr port buffer.len
    · simp only [deliver, hring, publish, Doorbell.ring_of_not_isClosed hc]
      exact .raised hr port buffer.len d

/-- The books do not say behind which port they were kept. -/
theorem Receipt.of_port (port : Port) {c' : Card σ} {events : List CardEvent}
    (h : Receipt { c with link := { c.link with port } } c' events) : c.Receipt c' events := by
  cases h with
  | idle port => exact .idle port
  | nothing hr port buffer runts errors => exact .nothing (c := c) hr port buffer runts errors
  | lost hr port fault => exact .lost (c := c) hr port fault
  | dropped hr port len => exact .dropped (c := c) hr port len
  | raised hr port len d => exact .raised (c := c) hr port len d

/-- A round of reception has one of the effects listed. -/
theorem receive_receipt (hc : c.doorbell.isClosed = !c.isOpen) :
    c.Receipt c.receive.1 c.receive.2 := by
  cases hr : c.isResting with
  | true =>
    rw [receive_of_resting hr]
    exact .idle c.link.port
  | false =>
    have hopen : c.isOpen = true := by
      by_contra hno
      simp [isResting, hno] at hr
    rw [hopen] at hc
    rcases hw : c.link.wait with ⟨link, answer⟩
    have hlink : link = { c.link with port := c.link.port.wait.1 } := by
      have hwait := c.link.wait_link
      rwa [hw] at hwait
    subst hlink
    cases answer with
    | error fault =>
      rw [receive_of_unreadable hr hw]
      exact .lost hr c.link.port.wait.1 fault
    | ok readable =>
      cases readable with
      | false =>
        rw [receive_of_idle hr hw]
        exact .idle c.link.port.wait.1
      | true =>
        rw [receive_of_readable hr hw]
        exact Receipt.of_port _ (readFrame_receipt hr hc)

end GuestNic.Card
