import GuestNic.Proofs.Card.Delivery
import GuestNic.Proofs.Link.Freshness

/-!
# Cards on a tunnel

A tunnel hands over each datagram with the peer that sent it, and frames of a peer bypass the
handler table. What is handed to the guest's end of the tunnel, and what has been rung for and not
been taken, are together the datagrams that were read and are no runts: one after the other, each
cut to the longest frame and with its own sender.
-/

namespace GuestNic

/-! ## Links -/

namespace Link

variable {l : Link} {t : Tunnel}

theorem wait_tunnel (h : l.port = .tunnel t) : l.wait = (l, .ok (!t.inbox.isEmpty)) := by
  simp only [wait, Port.wait, Port.poll, Port.polled_input, h]
  rw [← h]

/-- Where nothing waits, a read leaves everything as it was and finds nothing. -/
theorem read_tunnel_nil (h : l.port = .tunnel t) (hq : t.inbox = []) (buffer : FrameBuffer) :
    ∃ filled : FrameBuffer, filled.contents = [] ∧ l.read buffer = (l, filled, .ok none) := by
  have hread : l.port.read Frame.maxSize = (l.port, .error (.os .wouldBlock)) := by
    simp only [h, Port.read, Tunnel.receive, hq]
    rfl
  obtain ⟨filled, hfilled, hfrom⟩ := l.readFrom_eq buffer l.port (.error (.os .wouldBlock))
  refine ⟨filled, hfilled, ?_⟩
  rw [read_eq_readFrom, hread, hfrom]
  rfl

/-- The link after the datagram in front was read. -/
def afterDatagram (l : Link) (t : Tunnel) (peer : Peer) (d : Bytes)
    (rest : List (Peer × Bytes)) : Link where
  port := .tunnel { t with inbox := rest }
  traffic := l.traffic.counting (.ok (d.take Frame.maxSize, .peer peer))

/-- The datagram in front is read with its sender. -/
theorem read_tunnel_cons (h : l.port = .tunnel t) {peer : Peer} {d : Bytes}
    {rest : List (Peer × Bytes)} (hq : t.inbox = (peer, d) :: rest) (buffer : FrameBuffer) :
    ∃ filled : FrameBuffer, filled.contents = (Showing.of (.ok (d, .peer peer))).frame ∧
      l.read buffer =
        (l.afterDatagram t peer d rest, filled, (Showing.of (.ok (d, .peer peer))).answer) := by
  have hread : l.port.read Frame.maxSize =
      (.tunnel { t with inbox := rest }, .ok (d.take Frame.maxSize, .peer peer)) := by
    simp only [h, Port.read, Tunnel.receive, hq]
    rfl
  obtain ⟨filled, hfilled, hfrom⟩ := l.readFrom_eq buffer (.tunnel { t with inbox := rest })
    (.ok (d.take Frame.maxSize, .peer peer))
  rw [Showing.of_take] at hfilled hfrom
  refine ⟨filled, hfilled, ?_⟩
  rw [read_eq_readFrom, hread, hfrom]
  rfl

end Link

/-! ## Frames of peers -/

/-- The frame that a datagram amounts to, with its sender; runts are none. -/
def Tunnel.frame? : Peer × Bytes → Option (Bytes × Peer)
  | (peer, d) => if d.length < Frame.headerSize then none else some (d.take Frame.maxSize, peer)

/-- The frame that a delivery hands to the guest's end of the tunnel, with its sender. -/
def Delivery.tunnelFrame? : Delivery → Option (Bytes × Peer)
  | .tunnel frame peer => some (frame.contents, peer)
  | .handler .. => none

/-- The frame that is handed to the guest's end of the tunnel. -/
def CardEvent.tunnelFrame? : CardEvent → Option (Bytes × Peer)
  | .tunnelFrame frame peer => some (frame, peer)
  | _ => none

/-- A handler of the guest is entered. -/
def CardEvent.isEntry : CardEvent → Bool
  | .enter .. => true
  | _ => false

namespace Card

variable {σ : Type}

/-- The datagrams that wait at the card's tunnel, oldest first. -/
def inbox (c : Card σ) : List (Peer × Bytes) :=
  match c.link.port with
  | .tunnel t => t.inbox
  | _ => []

/-- The frame that has been rung for and not been taken, with its sender. -/
def outstandingFrame (c : Card σ) : List (Bytes × Peer) :=
  (c.doorbell.delivery.bind Delivery.tunnelFrame?).toList

/-! ## One round of reception -/

/-- What a round of reception can do on a tunnel, and what it emits. -/
inductive TunnelRound (c : Card σ) (t : Tunnel) : Card σ → List CardEvent → Prop where
  /-- Nothing may be read, or nothing is there. -/
  | rest (h : c.isResting = true ∨ t.inbox = []) : TunnelRound c t c []
  | runt (hr : c.isResting = false) {peer : Peer} {d : Bytes} {rest : List (Peer × Bytes)}
      (hq : t.inbox = (peer, d) :: rest) (hlen : d.length < Frame.headerSize)
      (buffer : FrameBuffer) :
      TunnelRound c t { c with link := c.link.afterDatagram t peer d rest, buffer } []
  | raised (hr : c.isResting = false) {peer : Peer} {d : Bytes} {rest : List (Peer × Bytes)}
      (hq : t.inbox = (peer, d) :: rest) (hlen : ¬ d.length < Frame.headerSize)
      {frame : FrameBuffer} (hframe : frame.contents = d.take Frame.maxSize) :
      TunnelRound c t
        { c with
          link := c.link.afterDatagram t peer d rest
          buffer := .empty
          doorbell := { c.doorbell with isPending := true, delivery := some (.tunnel frame peer) }
          counters.interruptsRaised := c.counters.interruptsRaised + 1 } [.interrupt]

variable {c : Card σ} {t : Tunnel}

theorem receive_tunnelRound (h : c.link.port = .tunnel t) (hc : c.doorbell.isClosed = false) :
    c.TunnelRound t c.receive.1 c.receive.2 := by
  cases hr : c.isResting with
  | true =>
    rw [receive_of_resting hr]
    exact .rest (.inl hr)
  | false =>
    have hwait := Link.wait_tunnel h
    cases hq : t.inbox with
    | nil =>
      rw [hq] at hwait
      rw [receive_of_idle hr hwait]
      exact .rest (.inr hq)
    | cons front rest =>
      obtain ⟨peer, d⟩ := front
      rw [hq] at hwait
      obtain ⟨filled, hfilled, hread⟩ := Link.read_tunnel_cons h hq c.buffer
      rw [receive_of_readable hr hwait, readFrame, hread]
      by_cases hlen : d.length < Frame.headerSize
      · simp only [Showing.of, if_pos hlen]
        exact .runt hr hq hlen filled
      · rw [Showing.of, if_neg hlen] at hfilled
        simp only [Showing.of, if_neg hlen, deliver, prepare, publish,
          Doorbell.ring_of_not_isClosed hc]
        exact .raised hr hq hlen hfilled

/-! ## What a call leaves -/

/-- No call leaves the tunnel or takes anything from it. -/
theorem send_tunnel (h : c.link.port = .tunnel t) (frame : Bytes) :
    ∃ outbox, (c.send frame).1.link.port = .tunnel { t with outbox } ∧
      (c.send frame).1.counters.rxDropped = c.counters.rxDropped := by
  unfold send
  split
  · exact ⟨t.outbox, h, rfl⟩
  · obtain ⟨outbox, houtbox⟩ :
        ∃ outbox, (c.link.write frame).1.port = .tunnel { t with outbox } := by
      simp only [Link.write, h, Port.write, Tunnel.send]
      split
      · exact ⟨t.outbox, rfl⟩
      · split
        · exact ⟨t.outbox, rfl⟩
        · split
          · exact ⟨t.outbox, rfl⟩
          · exact ⟨_, rfl⟩
    refine ⟨outbox, ?_⟩
    split
    all_goals
      rename_i heq
      rw [heq] at houtbox
      exact ⟨houtbox, rfl⟩

/-- The datagram of a peer that the network carries to the card in one move. -/
def peerArrived (c : Card σ) : Move → List (Peer × Bytes)
  | .call (.arrive peer frame) => if (c.arrive peer frame).2 then [(peer, frame)] else []
  | _ => []

theorem perform_tunnel (h : c.link.port = .tunnel t) (call : Call) :
    ∃ t', (c.perform call).1.link.port = .tunnel t' ∧
      t'.inbox = t.inbox ++ c.peerArrived (.call call) ∧
      (c.perform call).1.counters.rxDropped = c.counters.rxDropped := by
  cases call with
  | attach type routine =>
    simp only [perform, attach, peerArrived, List.append_nil]
    split <;> exact ⟨t, h, rfl, rfl⟩
  | detach type =>
    simp only [perform, detach, peerArrived, List.append_nil]
    split <;> exact ⟨t, h, rfl, rfl⟩
  | reset => exact ⟨t, h, (List.append_nil _).symm, rfl⟩
  | transmit memory packet =>
    simp only [perform, transmit, peerArrived, List.append_nil]
    split
    · split
      · exact ⟨t, h, rfl, rfl⟩
      · obtain ⟨outbox, hport, hdropped⟩ := send_tunnel h _
        exact ⟨_, hport, rfl, hdropped⟩
    · exact ⟨t, h, rfl, rfl⟩
  | transmitFrame frame =>
    simp only [perform, transmitFrame, peerArrived, List.append_nil]
    split
    · obtain ⟨outbox, hport, hdropped⟩ := send_tunnel h frame
      exact ⟨_, hport, rfl, hdropped⟩
    · exact ⟨t, h, rfl, rfl⟩
  | arrive peer frame =>
    cases hr : c.relay with
    | some relay =>
      have harrive : c.arrive peer frame = (c, false) := by simp only [arrive, hr]
      simp only [perform, peerArrived, harrive]
      exact ⟨t, h, (List.append_nil _).symm, trivial⟩
    | none =>
      have harrive : c.arrive peer frame =
          ({ c with link := { c.link with port := .tunnel (t.arrive peer frame).1 } },
            (t.arrive peer frame).2) := by
        simp only [arrive, hr, h, Port.arrive]
      simp only [perform, peerArrived, harrive, Tunnel.arrive]
      split
      · exact ⟨_, rfl, rfl, trivial⟩
      · exact ⟨_, rfl, (List.append_nil _).symm, trivial⟩

/-! ## Serving cards -/

/-- An open card on a tunnel whose reception goes on, with a frame of a peer to be handed over
exactly while a ring is outstanding. -/
structure IsTunnelling (c : Card σ) : Prop where
  isTunnel : ∃ t, c.link.port = .tunnel t
  isOpen : c.isOpen = true
  isReceiving : c.isReceiving = true
  isClosed : c.doorbell.isClosed = false
  isPending : c.doorbell.isPending = !c.outstandingFrame.isEmpty
  delivery : ∀ d, c.doorbell.delivery = some d → d.tunnelFrame?.isSome
  rxDropped : c.counters.rxDropped = 0

theorem isTunnelling_ofLink (t : Tunnel) (relay : Option (Relay σ)) (layout : ReceiveLayout) :
    (ofLink (.ofPort (.tunnel t)) relay layout).IsTunnelling where
  isTunnel := ⟨t, rfl⟩
  isOpen := rfl
  isReceiving := rfl
  isClosed := rfl
  isPending := rfl
  delivery := fun d hd => by cases hd
  rxDropped := rfl

/-- A service finds nothing, or hands over the one frame that is outstanding. -/
theorem service_tunnel_cases (h : c.IsTunnelling) :
    (c.outstandingFrame = [] ∧
      c.service = ({ c with
        counters.interruptsSpurious := c.counters.interruptsSpurious + 1 }, [], false)) ∨
    ∃ frame peer, c.outstandingFrame = [(frame, peer)] ∧
      c.service = ({ c with
        counters := { c.counters with
          interruptsServiced := c.counters.interruptsServiced + 1
          rxPackets := c.counters.rxPackets + 1 }
        doorbell := .idle }, [.tunnelFrame frame peer], true) := by
  cases hd : c.doorbell.delivery with
  | none =>
    have hout : c.outstandingFrame = [] := by rw [outstandingFrame, hd]; rfl
    have hp : c.doorbell.isPending = false := by rw [h.isPending, hout]; rfl
    refine .inl ⟨hout, ?_⟩
    simp only [service, Doorbell.take, hp, Bool.false_eq_true, ↓reduceIte]
  | some d =>
    cases d with
    | handler routine type header frame => cases h.delivery _ hd
    | tunnel frame peer =>
      have hout : c.outstandingFrame = [(frame.contents, peer)] := by rw [outstandingFrame, hd]; rfl
      have hp : c.doorbell.isPending = true := by rw [h.isPending, hout]; rfl
      refine .inr ⟨frame.contents, peer, hout, ?_⟩
      simp only [service, Doorbell.take, hp, ↓reduceIte, hd, Doorbell.acknowledge, h.isClosed,
        Doorbell.idle, upcall]

/-! ## One move -/

variable (net : NetStack σ)

/-- The datagrams that are read in one move, with their senders. Only reception reads. -/
def peerRead (c : Card σ) : Move → List (Peer × Bytes)
  | .receive => c.inbox.take (c.inbox.length - c.receive.1.inbox.length)
  | _ => []

/-- The balance of one move: what was outstanding and what is read now is what is handed over now
and what is outstanding then, and no handler is entered. -/
structure TunnelBalanced (c c' : Card σ) (events : List CardEvent)
    (arrived read : List (Peer × Bytes)) : Prop where
  isTunnelling : c'.IsTunnelling
  inbox : c.inbox ++ arrived = read ++ c'.inbox
  frames : c.outstandingFrame ++ read.filterMap Tunnel.frame? =
    events.filterMap CardEvent.tunnelFrame? ++ c'.outstandingFrame
  interrupts : events.count .interrupt = (read.filterMap Tunnel.frame?).length
  noEntry : ∀ e ∈ events, e.isEntry = false

theorem TunnelBalanced.refl (h : c.IsTunnelling) : TunnelBalanced c c [] [] [] :=
  ⟨h, List.append_nil _, List.append_nil _, rfl, nofun⟩

/-- Balances add up. -/
theorem TunnelBalanced.trans {c' c'' : Card σ} {events more : List CardEvent}
    {arrived arrived' read read' : List (Peer × Bytes)}
    (h : TunnelBalanced c c' events arrived read)
    (h' : TunnelBalanced c' c'' more arrived' read') :
    TunnelBalanced c c'' (events ++ more) (arrived ++ arrived') (read ++ read') where
  isTunnelling := h'.isTunnelling
  inbox := by
    rw [← List.append_assoc, h.inbox, List.append_assoc, h'.inbox, List.append_assoc]
  frames := by
    rw [List.filterMap_append, List.filterMap_append, ← List.append_assoc, h.frames,
      List.append_assoc, h'.frames, List.append_assoc]
  interrupts := by
    rw [List.count_append, List.filterMap_append, List.length_append, h.interrupts, h'.interrupts]
  noEntry := by
    intro e he
    rcases List.mem_append.1 he with he | he
    · exact h.noEntry e he
    · exact h'.noEntry e he

theorem inbox_of_port (h : c.link.port = .tunnel t) : c.inbox = t.inbox := by
  rw [inbox, h]

theorem perform_tunnelBalanced (h : c.IsTunnelling) (call : Call) :
    TunnelBalanced c (c.perform call).1 (c.perform call).2 (c.peerArrived (.call call)) [] := by
  obtain ⟨t, ht⟩ := h.isTunnel
  obtain ⟨t', hport, hinbox, hdropped⟩ := perform_tunnel ht call
  have hspares := perform_spares (c := c) call
  have hout : (c.perform call).1.outstandingFrame = c.outstandingFrame := by
    rw [outstandingFrame, hspares.doorbell, outstandingFrame]
  have hreads : ∀ e ∈ (c.perform call).2, ∃ address length, e = .read address length :=
    fun _ => perform_events
  refine ⟨⟨⟨t', hport⟩, hspares.isOpen.trans h.isOpen, hspares.isReceiving.trans h.isReceiving,
    ?_, ?_, ?_, hdropped.trans h.rxDropped⟩, ?_, ?_, ?_, ?_⟩
  · rw [hspares.doorbell, h.isClosed]
  · rw [hspares.doorbell, hout, h.isPending]
  · rw [hspares.doorbell]
    exact h.delivery
  · rw [inbox_of_port ht, inbox_of_port hport, hinbox, List.nil_append]
  · have hnone : (c.perform call).2.filterMap CardEvent.tunnelFrame? = [] := by
      refine List.filterMap_eq_nil_iff.2 fun e he => ?_
      obtain ⟨address, length, rfl⟩ := hreads e he
      rfl
    rw [hnone, hout]
    exact List.append_nil _
  · exact (ofEvents_eq_nil hreads).2
  · intro e he
    obtain ⟨address, length, rfl⟩ := hreads e he
    rfl

theorem service_tunnelBalanced (h : c.IsTunnelling) :
    TunnelBalanced c c.service.1 c.service.2.1 [] [] := by
  rcases service_tunnel_cases h with ⟨hout, heq⟩ | ⟨frame, peer, hout, heq⟩
  · rw [heq]
    exact ⟨⟨h.isTunnel, h.isOpen, h.isReceiving, h.isClosed, h.isPending, h.delivery, h.rxDropped⟩,
      List.append_nil _, List.append_nil _, rfl, nofun⟩
  · rw [heq]
    refine ⟨⟨h.isTunnel, h.isOpen, h.isReceiving, rfl, rfl, nofun, h.rxDropped⟩,
      List.append_nil _, ?_, rfl, ?_⟩
    · rw [hout]
      rfl
    · intro e he
      rw [List.mem_singleton.1 he]
      rfl

/-- What a round of reception reads is the datagram in front, if it reads one. -/
theorem take_length_sub_cons {α : Type} (a : α) (as : List α) :
    (a :: as).take ((a :: as).length - as.length) = [a] := by
  simp

theorem receive_tunnelBalanced (h : c.IsTunnelling) :
    TunnelBalanced c c.receive.1 c.receive.2 [] (c.peerRead .receive) := by
  obtain ⟨t, ht⟩ := h.isTunnel
  have hround := receive_tunnelRound ht h.isClosed
  -- Reception that does not rest has no ring outstanding, so that nothing can be overwritten.
  have hquiet : c.isResting = false → c.outstandingFrame = [] := by
    intro hr
    have hp : c.doorbell.isPending = false := by
      simpa [isResting, h.isOpen, h.isReceiving] using hr
    rw [h.isPending, Bool.not_eq_false', List.isEmpty_iff] at hp
    exact hp
  simp only [peerRead]
  generalize c.receive.1 = c' at hround ⊢
  generalize c.receive.2 = events at hround ⊢
  cases hround with
  | rest hrest =>
    have hnone : c.inbox.take (c.inbox.length - c.inbox.length) = [] := by
      rw [Nat.sub_self, List.take_zero]
    rw [hnone]
    exact .refl h
  | @runt hr peer d rest hq hlen buffer =>
    have hinbox : c.inbox = (peer, d) :: rest := (inbox_of_port ht).trans hq
    -- A runt is read and comes to nothing, so what is outstanding stays as it is.
    have hframe : [(peer, d)].filterMap Tunnel.frame? = [] := by
      simp only [List.filterMap_cons, Tunnel.frame?, if_pos hlen, List.filterMap_nil]
    have hread : c.inbox.take (c.inbox.length - rest.length) = [(peer, d)] := by
      rw [hinbox, take_length_sub_cons]
    change TunnelBalanced c _ _ [] (c.inbox.take (c.inbox.length - rest.length))
    rw [hread]
    refine ⟨⟨⟨_, rfl⟩, h.isOpen, h.isReceiving, h.isClosed, h.isPending, h.delivery, h.rxDropped⟩,
      ?_, ?_, ?_, List.forall_mem_nil _⟩
    · rw [List.append_nil, hinbox]
      rfl
    · rw [hframe, List.append_nil]
      rfl
    · rw [hframe]
      rfl
  | @raised hr peer d rest hq hlen frame hframe =>
    have hinbox : c.inbox = (peer, d) :: rest := (inbox_of_port ht).trans hq
    -- Nothing was outstanding, and the frame that is rung for now is.
    have hasked : [(peer, d)].filterMap Tunnel.frame? = [(frame.contents, peer)] := by
      simp only [List.filterMap_cons, Tunnel.frame?, if_neg hlen, List.filterMap_nil, hframe]
    have hread : c.inbox.take (c.inbox.length - rest.length) = [(peer, d)] := by
      rw [hinbox, take_length_sub_cons]
    change TunnelBalanced c _ _ [] (c.inbox.take (c.inbox.length - rest.length))
    rw [hread]
    refine ⟨⟨⟨_, rfl⟩, h.isOpen, h.isReceiving, h.isClosed, rfl, ?_, h.rxDropped⟩, ?_, ?_, ?_, ?_⟩
    · rintro _ ⟨⟩
      rfl
    · rw [List.append_nil, hinbox]
      rfl
    · rw [hquiet hr, hasked]
      rfl
    · rw [hasked]
      rfl
    · intro e he
      rw [List.mem_singleton.1 he]
      rfl

theorem relayRound_of_tunnel (h : c.link.port = .tunnel t) : c.relayRound net = c := by
  unfold relayRound onRelay
  rw [h, ite_self]

/-- Every move of a card that serves a tunnel keeps the balance. -/
theorem move_tunnelBalanced (h : c.IsTunnelling) (m : Move) :
    TunnelBalanced c (c.move net m).1 (c.move net m).2 (c.peerArrived m) (c.peerRead m) := by
  cases m with
  | call call => exact perform_tunnelBalanced h call
  | service => exact service_tunnelBalanced h
  | relay =>
    obtain ⟨t, ht⟩ := h.isTunnel
    rw [move, relayRound_of_tunnel net ht]
    exact .refl h
  | receive => exact receive_tunnelBalanced h

/-! ## A whole history -/

/-- The datagrams that the network carried to the card, with their senders. -/
def peerArrivals (c : Card σ) (moves : List Move) : List (Peer × Bytes) :=
  log net peerArrived c moves

/-- The datagrams that were read in a history, with their senders. -/
def peerReads (c : Card σ) (moves : List Move) : List (Peer × Bytes) := log net peerRead c moves

/-- The frames that were handed to the guest's end of the tunnel, with their senders. -/
def tunnelFrames (c : Card σ) (moves : List Move) : List (Bytes × Peer) :=
  (c.events net moves).filterMap CardEvent.tunnelFrame?

/-- What holds of a history of a card on a tunnel. -/
theorem after_tunnelBalanced (h : c.IsTunnelling) (moves : List Move) :
    TunnelBalanced c (c.after net moves) (c.events net moves) (c.peerArrivals net moves)
      (c.peerReads net moves) := by
  induction moves using history_induction with
  | start => exact .refl h
  | step ms m ih =>
    have hmove := move_tunnelBalanced net ih.isTunnelling m
    have hevents := log_snoc net (fun c m => (c.move net m).2) c ms m
    rw [after_snoc, events, hevents, peerArrivals, log_snoc, peerReads, log_snoc]
    exact ih.trans hmove

end Card
end GuestNic
