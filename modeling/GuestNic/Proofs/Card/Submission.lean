import GuestNic.Proofs.Card.Counters
import GuestNic.Proofs.Card.Growth
import GuestNic.Proofs.Link.Writing

/-!
# Sending, whatever the host answers

A driver has a packet sent that it describes in guest memory, or a frame that is there already.
Either way there is a frame of at most the longest size, which is written to the link, or there is
none and the host is not asked. `Card.submit` is this to a host that may answer anything; the card's
own two calls are the ones to the host behind its port (`Card.submit_packet`, `Card.submit_frame`).
-/

namespace GuestNic

/-- What a driver wants sent. -/
inductive Outgoing where
  /-- A packet that is to be put together from guest memory. -/
  | packet (memory : GuestMemory) (packet : OutgoingPacket)
  | frame (frame : Bytes)

namespace Outgoing

/-- The frame to be written, unless it would be too long. -/
def frame? : Outgoing → Except FrameOverflow Bytes
  | .packet memory p => (p.assemble memory).result.map FrameBuffer.contents
  | .frame bytes =>
    if Frame.maxSize < bytes.length then .error ⟨bytes.length, Frame.maxSize⟩ else .ok bytes

/-- The reads of guest memory on the way. -/
def events : Outgoing → List CardEvent
  | .packet memory p => (p.assemble memory).reads.map fun piece => .read piece.address piece.length
  | .frame _ => []

/-- The frame that has gone out when the driver gets this answer. -/
def taken (o : Outgoing) : Except TransmitFault Unit → List Bytes
  | .ok () => o.frame?.toOption.toList
  | .error _ => []

variable {o : Outgoing}

/-- What is written is never too long, wherever it comes from. -/
theorem length_le_of_frame? {frame : Bytes} (h : o.frame? = .ok frame) :
    frame.length ≤ Frame.maxSize := by
  cases o with
  | packet memory p =>
    simp only [frame?] at h
    cases hr : (p.assemble memory).result with
    | error e =>
      rw [hr] at h
      cases h
    | ok filled =>
      rw [hr] at h
      cases h
      rw [FrameBuffer.contents_length]
      exact filled.len_le
  | frame bytes =>
    simp only [frame?] at h
    split at h
    · cases h
    · rename_i hlen
      cases h
      exact Nat.le_of_not_lt hlen

/-- To put a packet together leaves guest memory as it is. -/
theorem foldl_events (o : Outgoing) (m : GuestMemory) : o.events.foldl CardEvent.applyTo m = m := by
  cases o with
  | packet memory p =>
    simp only [events]
    induction (p.assemble memory).reads with
    | nil => rfl
    | cons piece pieces ih => exact ih
  | frame bytes => rfl

end Outgoing

namespace Card

variable {σ : Type}

/-- Send to a host that answers as it likes. -/
def submit (answer : HostAnswer) (c : Card σ) (o : Outgoing) :
    Card σ × List CardEvent × Except TransmitFault Unit :=
  if c.isOpen then
    match o.frame? with
    | .error e => ((c.refuseTooLong e.len e.max).1, o.events, .error (.tooLong e.len e.max))
    | .ok frame =>
      match c.link.writeTo answer frame with
      | (link, .ok ()) =>
        ({ c with link, counters.txPackets := c.counters.txPackets + 1 }, o.events, .ok ())
      | (link, .error fault) =>
        ({ c with link, counters.txRefused := c.counters.txRefused + 1 }, o.events,
          .error (.host fault))
  else (c, [], .error .closed)

/-- On a closed card nothing happens. -/
theorem submit_of_closed {c : Card σ} (h : c.isOpen = false) (answer : HostAnswer) (o : Outgoing) :
    c.submit answer o = (c, [], .error .closed) := by
  rw [submit, if_neg (by simp [h])]

/-! ## The calls of the driver -/

theorem send_eq (c : Card σ) {frame : Bytes} (hlen : frame.length ≤ Frame.maxSize) :
    c.send frame =
      match c.link.writeTo Port.offer frame with
      | (link, .ok ()) => ({ c with link, counters.txPackets := c.counters.txPackets + 1 }, .ok ())
      | (link, .error fault) =>
        ({ c with link, counters.txRefused := c.counters.txRefused + 1 },
          .error (.host fault)) := by
  have hwrite := c.link.write_eq frame
  rcases hr : c.link.writeTo Port.offer frame with ⟨link, fault | _⟩
  all_goals
    rw [hr] at hwrite
    simp only [send, if_neg (Nat.not_lt.2 hlen), hwrite]

theorem submit_packet (c : Card σ) (memory : GuestMemory) (packet : OutgoingPacket) :
    c.submit Port.offer (.packet memory packet) = c.transmit memory packet := by
  cases ho : c.isOpen with
  | false => simp only [transmit, submit_of_closed ho, ho, Bool.false_eq_true, ↓reduceIte]
  | true =>
    rw [transmit, submit, if_pos ho, if_pos ho]
    simp only [Outgoing.frame?, Outgoing.events]
    cases (packet.assemble memory).result with
    | error e => rfl
    | ok filled =>
      have hlen : filled.contents.length ≤ Frame.maxSize := by
        rw [FrameBuffer.contents_length]
        exact filled.len_le
      simp only [Except.map, send_eq c hlen]
      rcases c.link.writeTo Port.offer filled.contents with ⟨link, fault | _⟩ <;> rfl

theorem submit_frame (c : Card σ) (frame : Bytes) :
    c.submit Port.offer (.frame frame) =
      ((c.transmitFrame frame).1, [], (c.transmitFrame frame).2) := by
  cases ho : c.isOpen with
  | false => simp only [transmitFrame, submit_of_closed ho, ho, Bool.false_eq_true, ↓reduceIte]
  | true =>
    rw [transmitFrame, submit, if_pos ho, if_pos ho]
    simp only [Outgoing.frame?]
    by_cases hlen : Frame.maxSize < frame.length
    · simp only [send, if_pos hlen, refuseTooLong, Outgoing.events]
    · simp only [if_neg hlen, send_eq c (Nat.le_of_not_lt hlen)]
      rcases c.link.writeTo Port.offer frame with ⟨link, fault | _⟩ <;> rfl

/-- What a call wants sent, and what the driver is told. -/
def sending? (c : Card σ) : Call → Option (Outgoing × Except TransmitFault Unit)
  | .transmit memory packet => some (.packet memory packet, (c.transmit memory packet).2.2)
  | .transmitFrame frame => some (.frame frame, (c.transmitFrame frame).2)
  | _ => none

/-- A call that wants something sent does no more than that. -/
theorem perform_of_sending? {c : Card σ} {call : Call} {o : Outgoing}
    {r : Except TransmitFault Unit} (h : c.sending? call = some (o, r)) :
    c.perform call = ((c.submit Port.offer o).1, (c.submit Port.offer o).2.1) ∧
      r = (c.submit Port.offer o).2.2 := by
  cases call with
  | transmit memory packet =>
    cases h
    rw [submit_packet]
    exact ⟨rfl, rfl⟩
  | transmitFrame frame =>
    cases h
    rw [submit_frame]
    exact ⟨rfl, rfl⟩
  | attach | detach | reset | arrive => cases h

/-- Any other call changes at most the handlers and the port. -/
theorem perform_of_sending?_none {c : Card σ} {call : Call} (h : c.sending? call = none) :
    ∃ handlers port, (c.perform call).1 = { c with handlers, link := { c.link with port } } := by
  cases call with
  | attach type routine =>
    simp only [perform, attach]
    split <;> exact ⟨_, c.link.port, rfl⟩
  | detach type =>
    simp only [perform, detach]
    split <;> exact ⟨_, c.link.port, rfl⟩
  | reset => exact ⟨.empty, c.link.port, rfl⟩
  | arrive peer frame =>
    simp only [perform, arrive]
    split <;> exact ⟨c.handlers, _, rfl⟩
  | transmit | transmitFrame => cases h

/-! ## What a call can do -/

/-- The card after a write of `len` bytes with which the port has become `port`. -/
def countSent (c : Card σ) (port : Port) (len : Nat) : Card σ :=
  { c with
    link := { port, traffic := { c.link.traffic with
      txFrames := c.link.traffic.txFrames + 1
      txBytes := c.link.traffic.txBytes + len } }
    counters.txPackets := c.counters.txPackets + 1 }

/-- The card after a write that has failed. -/
def countRefused (c : Card σ) (port : Port) : Card σ :=
  { c with
    link := { port, traffic := { c.link.traffic with txErrors := c.link.traffic.txErrors + 1 } }
    counters.txRefused := c.counters.txRefused + 1 }

/-- The card after a call for which there was nothing to be written. -/
def countTooLong (c : Card σ) : Card σ :=
  { c with counters.txTooLong := c.counters.txTooLong + 1 }

variable (answer : HostAnswer) (c : Card σ) (o : Outgoing)

section

variable {c} {o}

theorem submit_of_tooLong (ho : c.isOpen = true) {e : FrameOverflow} (hf : o.frame? = .error e) :
    c.submit answer o = (c.countTooLong, o.events, .error (.tooLong e.len e.max)) := by
  rw [submit, if_pos ho, hf]
  rfl

theorem submit_of_whole (ho : c.isOpen = true) {frame : Bytes} (hf : o.frame? = .ok frame)
    (ha : (answer frame c.link.port).2 = .ok (c.link.port.payload frame).length) :
    c.submit answer o =
      (c.countSent (answer frame c.link.port).1 frame.length, o.events, .ok ()) := by
  rw [submit, if_pos ho, hf]
  simp only [Link.writeTo, Port.whole_ok_iff.2 ha]
  rfl

theorem submit_of_fault (ho : c.isOpen = true) {frame : Bytes} (hf : o.frame? = .ok frame)
    {fault : Host.Fault} (ha : Port.whole c.link.port.writer (c.link.port.payload frame).length
      (answer frame c.link.port).2 = .error fault) :
    c.submit answer o =
      (c.countRefused (answer frame c.link.port).1, o.events, .error (.host fault)) := by
  rw [submit, if_pos ho, hf]
  simp only [Link.writeTo, ha]
  rfl

end

/-- Everything that sending can do, with the answer to the driver. -/
inductive Submits (answer : HostAnswer) (c : Card σ) (o : Outgoing) :
    Card σ → List CardEvent → Except TransmitFault Unit → Prop where
  | closed (ho : c.isOpen = false) : Submits answer c o c [] (.error .closed)
  /-- There is no frame to write, and the host is not asked. -/
  | tooLong {e : FrameOverflow} (ho : c.isOpen = true) (hf : o.frame? = .error e) :
      Submits answer c o c.countTooLong o.events (.error (.tooLong e.len e.max))
  /-- The host took everything that it was handed. -/
  | sent {frame : Bytes} (ho : c.isOpen = true) (hf : o.frame? = .ok frame) :
      Submits answer c o (c.countSent (answer frame c.link.port).1 frame.length) o.events (.ok ())
  /-- The host refused, or took only a part. -/
  | refused {frame : Bytes} {fault : Host.Fault} (ho : c.isOpen = true)
      (hf : o.frame? = .ok frame) :
      Submits answer c o (c.countRefused (answer frame c.link.port).1) o.events
        (.error (.host fault))

theorem submit_submits :
    Submits answer c o (c.submit answer o).1 (c.submit answer o).2.1 (c.submit answer o).2.2 := by
  cases ho : c.isOpen with
  | false =>
    rw [submit_of_closed ho]
    exact .closed ho
  | true =>
    cases hf : o.frame? with
    | error e =>
      rw [submit_of_tooLong answer ho hf]
      exact .tooLong ho hf
    | ok frame =>
      cases ha : Port.whole c.link.port.writer (c.link.port.payload frame).length
          (answer frame c.link.port).2 with
      | ok _ =>
        rw [submit_of_whole answer ho hf (Port.whole_ok_iff.1 ha)]
        exact .sent ho hf
      | error fault =>
        rw [submit_of_fault answer ho hf ha]
        exact .refused ho hf

/-- Nothing that has to do with receiving has changed. -/
structure SparesReceiving (c c' : Card σ) : Prop where
  isOpen : c'.isOpen = c.isOpen
  handlers : c'.handlers = c.handlers
  doorbell : c'.doorbell = c.doorbell
  relay : c'.relay = c.relay
  counters : c'.counters.receiving = c.counters.receiving
  traffic : c'.link.traffic.receiving = c.link.traffic.receiving

/-- To send has nothing to do with receiving, and leaves guest memory as it is. -/
theorem Submits.spares {answer : HostAnswer} {c c' : Card σ} {o : Outgoing}
    {events : List CardEvent} {r : Except TransmitFault Unit}
    (h : Submits answer c o c' events r) :
    c.SparesReceiving c' ∧ ∀ m : GuestMemory, events.foldl CardEvent.applyTo m = m := by
  cases h with
  | closed => exact ⟨⟨rfl, rfl, rfl, rfl, rfl, rfl⟩, fun _ => rfl⟩
  | tooLong | sent | refused => exact ⟨⟨rfl, rfl, rfl, rfl, rfl, rfl⟩, o.foldl_events⟩

/-- The host sees nothing but the frame, so nothing that it would do with another one matters. -/
theorem submit_congr {answer answer' : HostAnswer}
    (h : ∀ frame, o.frame? = .ok frame → answer frame c.link.port = answer' frame c.link.port) :
    c.submit answer o = c.submit answer' o := by
  cases hf : o.frame? with
  | error e => simp only [submit, hf]
  | ok frame => simp only [submit, hf, Link.writeTo, h frame hf]

end Card
end GuestNic
