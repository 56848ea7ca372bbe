import GuestNic.Proofs.Card.Delivery
import GuestNic.Proofs.Card.Refit

/-!
# The half of a card that sends

A card on a raw device between two queues sends over the one and receives over the other.
`SendingHalf` is all that sending touches, with the two things that can happen to it. A step of
sending looks at nothing else (`passOnce_sending`), and no step of receiving looks at it or touches
it (`passOnce_receiving`).
-/

namespace GuestNic

/-! ## Steps -/

/-- A step that has to do with sending. -/
inductive SendingStep where
  /-- The driver has something sent. -/
  | submit (o : Outgoing)
  /-- The host reads the oldest frame that was sent. -/
  | collect (limit : Nat)

/-- A step that has to do with receiving. -/
inductive ReceivingStep where
  | attach (type : UInt16) (routine : Routine)
  | detach (type : UInt16)
  | reset
  /-- The host sends a frame. -/
  | arrive (peer : Peer) (frame : Bytes)
  | service
  /-- One round of reception. -/
  | receive

/-- A step of either side. -/
abbrev Passage := SendingStep ⊕ ReceivingStep

/-- What is answered to a step. -/
inductive StepAnswer where
  | nothing
  | submitted (r : Except TransmitFault Unit)
  | collected (r : Except Host.Fault Bytes)
  | handler (r : Except HandlerFault Unit)
  | arrived (queued : Bool)
  | serviced (found : Bool)

/-- What is seen of a step: its answer, and what it does to the machine around the card. -/
abbrev Sight := StepAnswer × List CardEvent

/-! ## The half that sends -/

/-- The queue to the host, and the counters of what is sent. -/
structure SendingHalf where
  outgoing : Host.Channel
  txPackets : Nat
  txRefused : Nat
  txTooLong : Nat
  txFrames : Nat
  txBytes : Nat
  txErrors : Nat

namespace SendingHalf

/-- Send a frame, if there is room for it. -/
def submit (h : SendingHalf) (o : Outgoing) : SendingHalf × Except TransmitFault Unit :=
  match o.frame? with
  | .error e => ({ h with txTooLong := h.txTooLong + 1 }, .error (.tooLong e.len e.max))
  | .ok frame =>
    match h.outgoing.send frame with
    | (outgoing, .ok ()) =>
      ({ h with
        outgoing
        txPackets := h.txPackets + 1
        txFrames := h.txFrames + 1
        txBytes := h.txBytes + frame.length }, .ok ())
    | (outgoing, .error fault) =>
      ({ h with outgoing, txRefused := h.txRefused + 1, txErrors := h.txErrors + 1 },
        .error (.host fault))

def pass (h : SendingHalf) : SendingStep → SendingHalf × Sight
  | .submit o =>
    let (h, r) := h.submit o
    (h, .submitted r, o.events)
  | .collect limit =>
    let (outgoing, r) := h.outgoing.receive limit
    ({ h with outgoing }, .collected r, [])

/-- Steps one after the other, with what is seen of them. -/
def passAll : SendingHalf → List SendingStep → SendingHalf × List Sight
  | h, [] => (h, [])
  | h, s :: ss =>
    let (h, sight) := h.pass s
    let (h, sights) := passAll h ss
    (h, sight :: sights)

/-- Neither end of the queue goes away. -/
theorem pass_isLive {h : SendingHalf} (hlive : h.outgoing.IsLive) (s : SendingStep) :
    (h.pass s).1.outgoing.IsLive := by
  cases s with
  | submit o =>
    simp only [pass, submit]
    cases o.frame? with
    | error e => exact hlive
    | ok frame =>
      have hsent := hlive.send frame
      dsimp only
      generalize h.outgoing.send frame = outcome at hsent ⊢
      rcases outcome with ⟨sent, fault | _⟩ <;> exact hsent
  | collect limit =>
    simp only [pass, Host.Channel.receive]
    cases h.outgoing.queue with
    | nil => exact hlive
    | cons d ds => exact hlive.withQueue ds

end SendingHalf

namespace Port

/-- The queue of a raw device to the host. Any other port has no room there. -/
def outgoing : Port → Host.Channel
  | .raw _ (.socket _ outgoing) => outgoing
  | _ => .ofCapacity 0

/-- The port with another queue to the host. -/
def withOutgoing (outgoing : Host.Channel) : Port → Port
  | .raw driver (.socket incoming _) => .raw driver (.socket incoming outgoing)
  | port => port

theorem withOutgoing_self (p : Port) : p.withOutgoing p.outgoing = p := by
  cases p with
  | raw driver descriptor => cases descriptor <;> rfl
  | tunnel | pipe => rfl

theorem withOutgoing_withOutgoing (p : Port) (outgoing outgoing' : Host.Channel) :
    (p.withOutgoing outgoing).withOutgoing outgoing' = p.withOutgoing outgoing' := by
  cases p with
  | raw driver descriptor => cases descriptor <;> rfl
  | tunnel | pipe => rfl

theorem kind_withOutgoing (p : Port) (outgoing : Host.Channel) :
    (p.withOutgoing outgoing).kind = p.kind := by
  cases p with
  | raw driver descriptor => cases descriptor <;> rfl
  | tunnel | pipe => rfl

theorem backlog_withOutgoing (p : Port) (outgoing : Host.Channel) :
    (p.withOutgoing outgoing).backlog = p.backlog := by
  cases p with
  | raw driver descriptor => cases descriptor <;> rfl
  | tunnel | pipe => rfl

theorem wait_withOutgoing (p : Port) (outgoing : Host.Channel) :
    (p.withOutgoing outgoing).wait = (p.wait.1.withOutgoing outgoing, p.wait.2) := by
  cases p with
  | raw driver descriptor =>
    cases descriptor with
    | scripted script =>
      simp only [withOutgoing, wait, poll, Host.Descriptor.poll]
      cases script.polls <;> rfl
    | _ => rfl
  | tunnel | pipe => rfl

theorem read_withOutgoing (p : Port) (outgoing : Host.Channel) (limit : Nat) :
    (p.withOutgoing outgoing).read limit =
      ((p.read limit).1.withOutgoing outgoing, (p.read limit).2) := by
  cases p with
  | raw driver descriptor =>
    cases descriptor with
    | counter value =>
      simp only [withOutgoing, read, Host.Descriptor.read]
      split <;> rfl
    | scripted script =>
      simp only [withOutgoing, read, Host.Descriptor.read]
      cases script.reads <;> rfl
    | _ => rfl
  | tunnel | pipe => rfl

end Port

namespace Link

/-- The link with another half that sends. -/
def withSending (l : Link) (h : SendingHalf) : Link where
  port := l.port.withOutgoing h.outgoing
  traffic := { l.traffic with
    txFrames := h.txFrames
    txBytes := h.txBytes
    txErrors := h.txErrors }

end Link

namespace Card

variable {σ : Type}

def sendingHalf (c : Card σ) : SendingHalf where
  outgoing := c.link.port.outgoing
  txPackets := c.counters.txPackets
  txRefused := c.counters.txRefused
  txTooLong := c.counters.txTooLong
  txFrames := c.link.traffic.txFrames
  txBytes := c.link.traffic.txBytes
  txErrors := c.link.traffic.txErrors

/-- The card with another half that sends. -/
def withSending (c : Card σ) (h : SendingHalf) : Card σ :=
  { c with
    counters := { c.counters with
      txPackets := h.txPackets
      txRefused := h.txRefused
      txTooLong := h.txTooLong }
    link := c.link.withSending h }

/-! ## Steps of a card -/

/-- What a step does at once. -/
def passOnce (c : Card σ) : Passage → Card σ × Sight
  | .inl (.submit (.packet memory packet)) =>
    let (c, events, r) := c.transmit memory packet
    (c, .submitted r, events)
  | .inl (.submit (.frame frame)) =>
    let (c, r) := c.transmitFrame frame
    (c, .submitted r, [])
  | .inl (.collect limit) =>
    let (outgoing, r) := c.link.port.outgoing.receive limit
    ({ c with link := { c.link with port := c.link.port.withOutgoing outgoing } },
      .collected r, [])
  | .inr (.attach type routine) =>
    let (c, r) := c.attach type routine
    (c, .handler r, [])
  | .inr (.detach type) =>
    let (c, r) := c.detach type
    (c, .handler r, [])
  | .inr .reset => (c.reset, .nothing, [])
  | .inr (.arrive peer frame) =>
    let (c, queued) := c.arrive peer frame
    (c, .arrived queued, [])
  | .inr .service =>
    let (c, events, found) := c.service
    (c, .serviced found, events)
  | .inr .receive =>
    let (c, events) := c.receive
    (c, .nothing, events)

variable {c : Card σ}

/-! ## Cards between two queues -/

/-- A serving card on a raw device. -/
structure IsTwoWay (c : Card σ) : Prop extends c.IsServing where
  isRaw : c.link.port.kind = .raw

/-- There are two queues, and both have both of their ends. -/
theorem IsTwoWay.port_eq (h : c.IsTwoWay) :
    ∃ driver incoming outgoing, c.link.port = .raw driver (.socket incoming outgoing) ∧
      incoming.IsLive ∧ outgoing.IsLive := by
  have hraw := h.isRaw
  have hqueue := h.isQueue
  generalize c.link.port = port at hraw hqueue
  cases hqueue with
  | raw hi ho => exact ⟨_, _, _, rfl, hi, ho⟩
  | pipe => cases hraw

theorem port_withSending {driver : RawDriver} {incoming outgoing : Host.Channel}
    (hp : c.link.port = .raw driver (.socket incoming outgoing)) (half : SendingHalf) :
    (c.withSending half).link.port = .raw driver (.socket incoming half.outgoing) := by
  simp only [withSending, Link.withSending, hp, Port.withOutgoing]

theorem withSending_self (c : Card σ) : c.withSending c.sendingHalf = c := by
  have hport := c.link.port.withOutgoing_self
  simp only [withSending, Link.withSending, sendingHalf, hport]

theorem withSending_withSending (c : Card σ) (h h' : SendingHalf) :
    (c.withSending h).withSending h' = c.withSending h' := by
  simp only [withSending, Link.withSending, Port.withOutgoing_withOutgoing]

theorem IsTwoWay.sendingHalf_withSending (h : c.IsTwoWay) (half : SendingHalf) :
    (c.withSending half).sendingHalf = half := by
  obtain ⟨driver, incoming, outgoing, hp, -, -⟩ := h.port_eq
  simp only [withSending, Link.withSending, sendingHalf, hp, Port.withOutgoing, Port.outgoing]

theorem IsTwoWay.withSending (h : c.IsTwoWay) {half : SendingHalf} (hlive : half.outgoing.IsLive) :
    (c.withSending half).IsTwoWay := by
  obtain ⟨driver, incoming, outgoing, hp, hi, -⟩ := h.port_eq
  have hport := port_withSending hp half
  refine ⟨⟨?_, h.isOpen, h.isReceiving, h.isClosed, h.isPending, h.delivery⟩, ?_⟩
  · rw [hport]
    exact .raw hi hlive
  · rw [hport]
    rfl

theorem IsTwoWay.isLive (h : c.IsTwoWay) : c.sendingHalf.outgoing.IsLive := by
  obtain ⟨driver, incoming, outgoing, hp, -, ho⟩ := h.port_eq
  simpa only [sendingHalf, hp, Port.outgoing] using ho

/-! ## Sending -/

/-- A raw device takes a frame whole or not at all. -/
theorem whole_map_length (writer : Host.Writer) (length : Nat) (r : Except Host.Fault Unit) :
    Port.whole writer length (r.map fun _ => length) = r := by
  cases r with
  | error fault => rfl
  | ok _ => exact Port.whole_ok_iff.2 rfl

/-- Sending is done by the half that sends. -/
theorem submit_eq_withSending (h : c.IsTwoWay) (o : Outgoing) :
    c.submit Port.offer o =
      (c.withSending (c.sendingHalf.submit o).1, o.events, (c.sendingHalf.submit o).2) := by
  obtain ⟨driver, incoming, outgoing, hp, -, ho⟩ := h.port_eq
  rw [submit, if_pos h.isOpen]
  cases hf : o.frame? with
  | error e =>
    have hself : c = c.withSending c.sendingHalf := c.withSending_self.symm
    simp only [SendingHalf.submit, hf, refuseTooLong]
    exact congrArg (fun c' : Card σ => (c'.countTooLong, o.events, Except.error _)) hself
  | ok frame =>
    -- The queue has both of its ends, so it takes the whole frame or has no room for it.
    have hpayload : Port.payload frame (.raw driver (.socket incoming outgoing)) = frame := rfl
    have hoffer : Port.offer frame (.raw driver (.socket incoming outgoing)) =
        (.raw driver (.socket incoming (outgoing.send frame).1),
          (outgoing.send frame).2.map fun _ => frame.length) := by
      simp only [Port.offer, Host.Descriptor.write,
        Host.Descriptor.sendOver_of_isLive ho incoming frame]
    simp only [Link.writeTo, hp, hoffer, hpayload, whole_map_length, SendingHalf.submit, hf,
      withSending, Link.withSending, sendingHalf, Port.outgoing, Port.withOutgoing]
    rcases outgoing.send frame with ⟨sent, fault | _⟩ <;> rfl

/-- A step of sending is done by the half that sends, and leaves everything else as it is. -/
theorem passOnce_sending (h : c.IsTwoWay) (s : SendingStep) :
    c.passOnce (.inl s) = (c.withSending (c.sendingHalf.pass s).1, (c.sendingHalf.pass s).2) := by
  cases s with
  | submit o =>
    have hsubmit := submit_eq_withSending h o
    cases o with
    | packet memory packet =>
      rw [submit_packet] at hsubmit
      simp only [passOnce, hsubmit, SendingHalf.pass]
    | frame frame =>
      rw [submit_frame] at hsubmit
      simp only [Prod.ext_iff] at hsubmit
      obtain ⟨hcard, -, hr⟩ := hsubmit
      simp only [passOnce, SendingHalf.pass, hcard, hr]
      rfl
  | collect limit => rfl

/-! ## Receiving -/

variable (half : SendingHalf)

/-- Another half that sends is a change that reception does not look at. -/
def resending : Refit σ σ where
  counters k := { k with
    txPackets := half.txPackets
    txRefused := half.txRefused
    txTooLong := half.txTooLong }
  port := Port.withOutgoing half.outgoing
  traffic t := { t with
    txFrames := half.txFrames
    txBytes := half.txBytes
    txErrors := half.txErrors }
  relay := id

theorem withSending_eq_refit (c : Card σ) : c.withSending half = c.refit (resending half) := rfl

theorem resending_pollsAlike : (resending half : Refit σ σ).PollsAlike where
  wait p := p.wait_withOutgoing half.outgoing
  read p limit := p.read_withOutgoing half.outgoing limit

theorem receive_withSending (c : Card σ) :
    (c.withSending half).receive = (c.receive.1.withSending half, c.receive.2) :=
  receive_refit (resending_pollsAlike half) rfl fun _ _ _ _ => .inl rfl

theorem arrive_withSending (h : c.IsTwoWay) (peer : Peer) (frame : Bytes) :
    (c.withSending half).arrive peer frame =
      ((c.arrive peer frame).1.withSending half, (c.arrive peer frame).2) := by
  obtain ⟨driver, incoming, outgoing, hp, hi, -⟩ := h.port_eq
  have hrelay : (c.withSending half).relay = c.relay := rfl
  have hport := port_withSending hp half
  simp only [arrive, hrelay, hport, hp]
  cases c.relay with
  | some relay => rfl
  | none =>
    -- The host still has a far side, so the queue to it is left as it is.
    simp only [Port.arrive, Host.Descriptor.arrive, Host.Descriptor.sendOver_of_isLive hi]
    rfl

/-- A step of receiving does not look at the half that sends, and leaves it as it is. -/
theorem passOnce_receiving (h : c.IsTwoWay) (r : ReceivingStep) :
    (c.withSending half).passOnce (.inr r) =
      ((c.passOnce (.inr r)).1.withSending half, (c.passOnce (.inr r)).2) := by
  cases r with
  | attach type routine =>
    simp only [passOnce, withSending_eq_refit, attach_refit (f := resending half) fun _ => rfl]
  | detach type =>
    simp only [passOnce, withSending_eq_refit, detach_refit (f := resending half) fun _ => rfl]
  | reset => rfl
  | arrive peer frame => simp only [passOnce, arrive_withSending half h]
  | service =>
    have hservice := service_refit (resending_pollsAlike half).toCountsAlike c
    simp only [passOnce, withSending_eq_refit, hservice]
  | receive => simp only [passOnce, receive_withSending]

theorem passOnce_isRaw (h : c.IsTwoWay) (r : ReceivingStep) :
    (c.passOnce (.inr r)).1.link.port.kind = .raw := by
  have hraw := h.isRaw
  cases r with
  | attach type routine =>
    have hlink : (c.passOnce (.inr (.attach type routine))).1.link = c.link :=
      (attach_spares type routine).2
    rw [hlink]
    exact hraw
  | detach type =>
    have hlink : (c.passOnce (.inr (.detach type))).1.link = c.link := (detach_spares type).2
    rw [hlink]
    exact hraw
  | reset => exact hraw
  | arrive peer frame =>
    obtain ⟨driver, incoming, outgoing, hp, -, -⟩ := h.port_eq
    simp only [passOnce, arrive, hp]
    cases c.relay with
    | none => rfl
    | some relay => exact hraw
  | service =>
    simp only [passOnce, service]
    rcases c.doorbell.take with ⟨doorbell, delivery | _⟩ <;> exact hraw
  | receive =>
    obtain ⟨driver, incoming, outgoing, hp, -, -⟩ := h.port_eq
    have hdequeue : c.link.port.dequeue.kind = .raw := by
      rw [hp]
      rfl
    have hround := receive_round h.isQueue h.isClosed
    simp only [passOnce]
    generalize c.receive.1 = c', c.receive.2 = events at hround ⊢
    cases hround with
    | rest => exact hraw
    | runt | dropped | raised => exact hdequeue

end Card
end GuestNic
