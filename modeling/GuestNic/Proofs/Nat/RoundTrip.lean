import GuestNic.Card.Open
import GuestNic.Nat.Echo
import GuestNic.Proofs.Card.Delivery
import GuestNic.Proofs.Ethernet.Record

/-!
# Frames that come back from the echo stack

A card in NAT mode whose stack echoes. Every frame that was sent waits as a record for the relay,
has been echoed into the queue towards the guest, or was dropped because that queue was full; and
what is read from the queue is what was echoed into it, unchanged and in order.
-/

namespace GuestNic

/-- The frame of a packet, if it can be put together. -/
def OutgoingPacket.frame? (packet : OutgoingPacket) (m : GuestMemory) : Option Bytes :=
  match (packet.assemble m).result with
  | .ok frame => some frame.contents
  | .error _ => none

namespace Card

/-! ## What is seen -/

section

variable {σ : Type} (net : NetStack σ)

/-- The frame that is sent in one move and accepted. -/
def acceptedNow (c : Card σ) : Move → List Bytes
  | .call (.transmit m packet) =>
    if (c.transmit m packet).2.2.isOk then (packet.frame? m).toList else []
  | .call (.transmitFrame frame) => if (c.transmitFrame frame).2.isOk then [frame] else []
  | _ => []

/-- The frames that were sent and accepted in a history, in order. -/
def accepted (c : Card σ) (moves : List Move) : List Bytes := log net acceptedNow c moves

/-- A frame that the relay took out of its record, and whether it then found the queue towards the
guest full. -/
structure Relayed where
  frame : Bytes
  overflowed : Bool

/-- What the relay takes in one move. -/
def relayedNow (c : Card σ) (m : Move) : List Relayed :=
  match c.link.port, (c.move net m).1.link.port with
  | .pipe pipe, .pipe pipe' =>
    (departed pipe.toStack.queue pipe'.toStack.queue).map fun record =>
      ⟨record.drop Record.headerSize, pipe.toGuest.isFull⟩
  | _, _ => []

/-- What the relay took in a history, in order. -/
def relayed (c : Card σ) (moves : List Move) : List Relayed := log net (relayedNow net) c moves

end

/-- Those of the frames that were echoed. -/
def Relayed.echoed (taken : List Relayed) : List Bytes :=
  (taken.filter fun t => !t.overflowed).map Relayed.frame

/-- How many of the frames were dropped for want of room. -/
def Relayed.overflows (taken : List Relayed) : Nat := taken.countP Relayed.overflowed

theorem Relayed.echoed_singleton (t : Relayed) :
    echoed [t] = if t.overflowed then [] else [t.frame] := by
  cases ht : t.overflowed <;> simp [echoed, ht]

theorem Relayed.overflows_singleton (t : Relayed) :
    overflows [t] = if t.overflowed then 1 else 0 := by
  cases ht : t.overflowed <;> simp [overflows, ht]

/-! ## Cards on the echo stack -/

/-- The pipe of a fresh card, with room for that many datagrams either way. -/
def echoPipe (towardsStack towardsGuest : Nat) : StackPipe :=
  { toStack := .ofCapacity towardsStack, toGuest := .ofCapacity towardsGuest, inputFault := none }

/-- A fresh card in NAT mode whose relay runs an echo stack with the given rules. -/
def onEcho (towardsStack towardsGuest : Nat) (layout : ReceiveLayout)
    (rules : List Forwarding.Rule) : Card EchoStack :=
  ofLink (.ofPort (.pipe (echoPipe towardsStack towardsGuest)))
    (some {
      stack := (Relay.installAll EchoStack.net .empty rules).1
      inputOpen := true
      buffer := .empty
      counters := {} }) layout

theorem startNat_onEcho (towardsStack towardsGuest : Nat) (layout : ReceiveLayout)
    (rules : List Forwarding.Rule) :
    (startNat EchoStack.net (.ofPort (.pipe (echoPipe towardsStack towardsGuest))) layout .empty
      rules).result = .ok (onEcho towardsStack towardsGuest layout rules) := rfl

/-- A card with a relay at work and nothing but records of frames on the way to it. -/
structure IsRelaying {σ : Type} (c : Card σ) (pipe : StackPipe) (relay : Relay σ)
    (waiting : List Bytes) : Prop where
  port : c.link.port = .pipe pipe
  attached : c.relay = some relay
  toStack : pipe.toStack.IsLive
  inputFault : pipe.inputFault = none
  inputOpen : relay.inputOpen = true
  queue : pipe.toStack.queue = waiting.map Record.encode
  short : ∀ frame ∈ waiting, frame.length ≤ Frame.maxSize

theorem isRelaying_onEcho (towardsStack towardsGuest : Nat) (layout : ReceiveLayout)
    (rules : List Forwarding.Rule) :
    ∃ relay, (onEcho towardsStack towardsGuest layout rules).IsRelaying
      (echoPipe towardsStack towardsGuest) relay [] ∧ relay.counters = {} :=
  ⟨_, ⟨rfl, rfl, Host.Channel.isLive_ofCapacity _, rfl, rfl, rfl, by simp⟩, rfl⟩

variable {σ : Type} {c : Card σ} {pipe : StackPipe} {relay : Relay σ} {waiting : List Bytes}

/-! ## Sending -/

/-- A pipe with one record more on the way to the stack. -/
def withRecord (pipe : StackPipe) (frame : Bytes) : StackPipe :=
  { pipe with toStack := { pipe.toStack with
      queue := pipe.toStack.queue ++ [Record.encode frame] } }

theorem IsRelaying.of_eq {c' : Card σ} (h : c.IsRelaying pipe relay waiting)
    (hlink : c'.link.port = c.link.port) (hrelay : c'.relay = c.relay) :
    c'.IsRelaying pipe relay waiting :=
  { h with port := hlink.trans h.port, attached := hrelay.trans h.attached }

theorem IsRelaying.withRecord {c' : Card σ} (h : c.IsRelaying pipe relay waiting) {frame : Bytes}
    (hlen : frame.length ≤ Frame.maxSize)
    (hlink : c'.link.port = .pipe (Card.withRecord pipe frame)) (hrelay : c'.relay = c.relay) :
    c'.IsRelaying (Card.withRecord pipe frame) relay (waiting ++ [frame]) where
  port := hlink
  attached := hrelay.trans h.attached
  toStack := h.toStack.withQueue _
  inputFault := h.inputFault
  inputOpen := h.inputOpen
  queue := by
    rw [Card.withRecord, h.queue, List.map_append, List.map_singleton]
  short := by
    intro f hf
    rcases List.mem_append.1 hf with hf | hf
    · exact h.short f hf
    · rw [List.mem_singleton.1 hf]
      exact hlen

/-- Sending over a live pipe queues the record, or nothing when there is no room. -/
theorem port_write_pipe (h : pipe.toStack.IsLive) (frame : Bytes) :
    (Port.pipe pipe).write frame = (.pipe (withRecord pipe frame), .ok ()) ∨
      ∃ fault, (Port.pipe pipe).write frame = (.pipe pipe, .error fault) := by
  cases hf : pipe.toStack.isFull with
  | false =>
    refine .inl ?_
    simp only [Port.write, StackPipe.send, Host.Channel.send_of_not_isFull h hf, Except.map,
      Port.whole, Except.bind, ↓reduceIte, withRecord]
  | true =>
    refine .inr ⟨.os .wouldBlock, ?_⟩
    simp only [Port.write, StackPipe.send, Host.Channel.send_of_isFull h hf, Except.map,
      Port.whole, Except.bind]

/-- A frame is accepted, and then its record waits behind the others, or nothing changes on the way
to the stack. -/
theorem send_relaying (h : c.IsRelaying pipe relay waiting) (frame : Bytes) :
    ((c.send frame).2.isOk = true ∧ frame.length ≤ Frame.maxSize ∧
      (c.send frame).1.IsRelaying (withRecord pipe frame) relay (waiting ++ [frame])) ∨
    ((c.send frame).2.isOk = false ∧ (c.send frame).1.IsRelaying pipe relay waiting) := by
  unfold send
  by_cases hlen : Frame.maxSize < frame.length
  · rw [if_pos hlen]
    exact .inr ⟨rfl, h.of_eq rfl rfl⟩
  · rw [if_neg hlen]
    have hlen := Nat.le_of_not_lt hlen
    rcases port_write_pipe h.toStack frame with hwrite | ⟨fault, hwrite⟩
    · refine .inl ?_
      simp only [Link.write, h.port, hwrite]
      exact ⟨rfl, hlen, h.withRecord hlen rfl rfl⟩
    · refine .inr ?_
      simp only [Link.write, h.port, hwrite]
      exact ⟨rfl, h.of_eq h.port.symm rfl⟩

/-! ## Echoing -/

/-- The echo stack does nothing of its own accord. -/
theorem serve_echo (relay : Relay EchoStack) (pipe : StackPipe) :
    Relay.serve EchoStack.net relay pipe = (relay, pipe) := rfl

/-- The relay of an echo stack with no record to take is idle. -/
theorem round_echo_idle {relay : Relay EchoStack} (hopen : relay.inputOpen = true)
    (hfault : pipe.inputFault = none) (hqueue : pipe.toStack.queue = []) :
    Relay.round EchoStack.net relay pipe = (relay, pipe) := by
  rw [Relay.round, Relay.takeInput_of_nil EchoStack.net hopen hfault hqueue]
  exact serve_echo relay pipe

/-- The relay of an echo stack takes the oldest record and emits the very frame it holds. -/
theorem round_echo_record {relay : Relay EchoStack} (hopen : relay.inputOpen = true)
    (hfault : pipe.inputFault = none) {frame : Bytes} {records : List Bytes}
    (hlen : frame.length ≤ Frame.maxSize)
    (hqueue : pipe.toStack.queue = Record.encode frame :: records) :
    ∃ (relay' : Relay EchoStack) (counters : RelayCounters), relay'.inputOpen = true ∧
      counters.framesDropped = relay.counters.framesDropped ∧
      Relay.round EchoStack.net relay pipe =
        ({ relay' with counters := (Relay.emit counters pipe.withoutRecord frame).1 },
          (Relay.emit counters pipe.withoutRecord frame).2) := by
  obtain ⟨filled, hdecode, hfilled⟩ := Record.decode_encode hlen relay.buffer
  refine ⟨{ relay with
    stack := { relay.stack with frames := relay.stack.frames + 1 }
    buffer := filled }, { relay.counters with framesIn := relay.counters.framesIn + 1 }, hopen,
    rfl, ?_⟩
  -- Decoding gives the frame back, so that the stack is given, and emits, the frame itself.
  have hinput : ∀ s : EchoStack, EchoStack.net.input frame s =
      ({ s with frames := s.frames + 1 }, [frame]) := fun _ => rfl
  rw [Relay.round, Relay.takeInput_of_cons EchoStack.net hopen hfault hqueue,
    Record.take_encode hlen]
  simp only [Relay.accept, hdecode, hfilled, hinput, Relay.emitAll, serve_echo]

/-! ## One move -/

/-- The balance of one move: frames pass from those accepted over those waiting, taken and echoed
to those read, and the relay counts the ones it drops. -/
structure Echoes (pipe pipe' : StackPipe) (relay relay' : Relay σ) (waiting waiting' : List Bytes)
    (accepted : List Bytes) (taken : List Relayed) (read : List Bytes) : Prop where
  sent : waiting ++ accepted = taken.map Relayed.frame ++ waiting'
  short : ∀ frame ∈ accepted, frame.length ≤ Frame.maxSize
  echoed : pipe.toGuest.queue ++ Relayed.echoed taken = read ++ pipe'.toGuest.queue
  dropped : relay'.counters.framesDropped =
    relay.counters.framesDropped + Relayed.overflows taken

theorem relayedNow_of_pipe (net : NetStack σ) {m : Move} {pipe' : StackPipe}
    (h : c.link.port = .pipe pipe) (h' : (c.move net m).1.link.port = .pipe pipe') :
    relayedNow net c m = (departed pipe.toStack.queue pipe'.toStack.queue).map fun record =>
      ⟨record.drop Record.headerSize, pipe.toGuest.isFull⟩ := by
  simp only [relayedNow, h, h']

theorem queue_of_pipe (h : c.link.port = .pipe pipe) : c.queue = pipe.toGuest.queue := by
  rw [queue, h]
  rfl

/-- `c'` comes about by sending: the frames that were `accepted` wait behind the others for the
relay, and the queue towards the guest is as it was. -/
structure Accepts (c' : Card σ) (pipe : StackPipe) (relay : Relay σ)
    (waiting accepted : List Bytes) : Prop where
  short : ∀ frame ∈ accepted, frame.length ≤ Frame.maxSize
  relaying : ∃ pipe', pipe'.toGuest = pipe.toGuest ∧
    pipe.toStack.queue <+: pipe'.toStack.queue ∧
    c'.IsRelaying pipe' relay (waiting ++ accepted)

theorem IsRelaying.accepts_nil {c' : Card σ} (h : c.IsRelaying pipe relay waiting)
    (hport : c'.link.port = c.link.port) (hrelay : c'.relay = c.relay) :
    c'.Accepts pipe relay waiting [] where
  short := by simp
  relaying := by
    rw [List.append_nil]
    exact ⟨pipe, rfl, List.prefix_rfl, h.of_eq hport hrelay⟩

theorem send_accepts (h : c.IsRelaying pipe relay waiting) (frame : Bytes) :
    (c.send frame).1.Accepts pipe relay waiting
      (if (c.send frame).2.isOk then [frame] else []) := by
  rcases send_relaying h frame with ⟨hok, hlen, hnext⟩ | ⟨hok, hnext⟩
  · rw [hok, if_pos rfl]
    refine ⟨by simpa using hlen, withRecord pipe frame, rfl, ?_, hnext⟩
    exact List.prefix_append _ _
  · rw [hok]
    exact h.accepts_nil (hnext.port.trans h.port.symm) (hnext.attached.trans h.attached.symm)

/-- A call sends at most one frame and leaves the queue towards the guest alone. -/
theorem perform_accepts (hs : c.IsServing) (h : c.IsRelaying pipe relay waiting) (call : Call) :
    (c.perform call).1.Accepts pipe relay waiting (c.acceptedNow (.call call)) := by
  have hrelay := perform_relay (c := c) call
  cases call with
  | attach type routine =>
    exact h.accepts_nil (congrArg Link.port (attach_spares type routine).2) hrelay
  | detach type => exact h.accepts_nil (congrArg Link.port (detach_spares type).2) hrelay
  | reset => exact h.accepts_nil rfl rfl
  | transmit memory packet =>
    simp only [acceptedNow, perform, transmit, hs.isOpen, ↓reduceIte, OutgoingPacket.frame?]
    cases (packet.assemble memory).result with
    | error e => exact h.accepts_nil rfl rfl
    | ok frame => exact send_accepts h frame.contents
  | transmitFrame frame =>
    simp only [acceptedNow, perform, transmitFrame, hs.isOpen, ↓reduceIte]
    exact send_accepts h frame
  | arrive peer frame =>
    refine h.accepts_nil ?_ hrelay
    simp only [perform, arrive, h.attached]

theorem receive_relaying (hs : c.IsServing) (h : c.IsRelaying pipe relay waiting) :
    ∃ pipe', pipe'.toStack = pipe.toStack ∧ c.receive.1.IsRelaying pipe' relay waiting := by
  have hrelay := receive_relay hs
  have hround := receive_round hs.isQueue hs.isClosed
  have taken : c.receive.1.link.port = c.link.port.dequeue →
      ∃ pipe', pipe'.toStack = pipe.toStack ∧ c.receive.1.IsRelaying pipe' relay waiting := by
    intro hport
    rw [h.port] at hport
    refine ⟨{ pipe with toGuest := { pipe.toGuest with queue := pipe.toGuest.queue.tail } }, rfl,
      hport, hrelay.trans h.attached, h.toStack, h.inputFault, h.inputOpen, h.queue, h.short⟩
  generalize c.receive.1 = c' at hround hrelay taken ⊢
  generalize c.receive.2 = events at hround
  cases hround with
  | rest => exact ⟨pipe, rfl, h⟩
  | runt | dropped | raised => exact taken rfl

theorem service_port (c : Card σ) : c.service.1.link.port = c.link.port := by
  unfold service
  split <;> rfl

theorem IsRelaying.toGuest_isLive (hs : c.IsServing) (h : c.IsRelaying pipe relay waiting) :
    pipe.toGuest.IsLive := by
  have hqueue := hs.isQueue
  rw [h.port] at hqueue
  cases hqueue with
  | pipe hg => exact hg

theorem relayRound_of_isRelaying (net : NetStack σ) (hs : c.IsServing)
    (h : c.IsRelaying pipe relay waiting) :
    c.relayRound net = { c with
      link := { c.link with port := .pipe (Relay.round net relay pipe).2 }
      relay := some (Relay.round net relay pipe).1 } := by
  simp only [relayRound, hs.isOpen, ↓reduceIte, onRelay, h.port, h.attached]

/-- A round of the relay takes the oldest record, if there is one, and echoes or drops its frame. -/
theorem relayRound_echoes {c : Card EchoStack} {relay : Relay EchoStack} (hs : c.IsServing)
    (h : c.IsRelaying pipe relay waiting) :
    ∃ pipe' relay' waiting',
      (c.relayRound EchoStack.net).IsRelaying pipe' relay' waiting' ∧
        Echoes pipe pipe' relay relay' waiting waiting' []
          (relayedNow EchoStack.net c .relay) [] := by
  have hround := relayRound_of_isRelaying EchoStack.net hs h
  have htaken := relayedNow_of_pipe EchoStack.net (m := .relay) h.port
    (congrArg (fun c : Card EchoStack => c.link.port) hround)
  rw [htaken, hround]
  cases waiting with
  | nil =>
    rw [round_echo_idle h.inputOpen h.inputFault h.queue, departed_self]
    exact ⟨pipe, relay, [], ⟨rfl, rfl, h.toStack, h.inputFault, h.inputOpen, h.queue, h.short⟩,
      rfl, by simp, List.append_nil _, rfl⟩
  | cons frame frames =>
    have hlen : frame.length ≤ Frame.maxSize := h.short frame List.mem_cons_self
    have hqueue : pipe.toStack.queue = Record.encode frame :: frames.map Record.encode := h.queue
    have hlive : pipe.toGuest.IsLive := h.toGuest_isLive hs
    have hlive : pipe.withoutRecord.toGuest.IsLive := hlive
    obtain ⟨relay', counters, hopen, hcount, heq⟩ :=
      round_echo_record h.inputOpen h.inputFault hlen hqueue
    -- Of what the relay emits only the two queues and the count of drops matter from here on.
    have hemit := Relay.emit_emission hlive hlen counters
    rw [heq]
    generalize Relay.emit counters pipe.withoutRecord frame = emitted at hemit ⊢
    have hwaiting : emitted.2.toStack.queue = frames.map Record.encode := by
      rw [hemit.toStack, StackPipe.withoutRecord, hqueue, List.tail_cons]
    have hstack : emitted.2.toStack.IsLive := by
      rw [hemit.toStack]
      exact h.toStack.withQueue _
    refine ⟨emitted.2, _, frames, ⟨rfl, rfl, hstack, hemit.inputFault.trans h.inputFault, hopen,
      hwaiting, fun f hf => h.short f (List.mem_cons_of_mem _ hf)⟩, ?_⟩
    rw [hwaiting, hqueue, departed_cons, List.map_singleton, Record.drop_encode]
    refine ⟨List.append_nil _, by simp, ?_, ?_⟩
    · rw [Relayed.echoed_singleton]
      exact hemit.queue.symm
    · rw [Relayed.overflows_singleton, ← hcount]
      exact hemit.dropped

/-- Every move of a card on the echo stack keeps the balance of frames. -/
theorem move_echoes {c : Card EchoStack} {relay : Relay EchoStack} (hs : c.IsServing)
    (h : c.IsRelaying pipe relay waiting) (m : Move) :
    ∃ pipe' relay' waiting',
      (c.move EchoStack.net m).1.IsRelaying pipe' relay' waiting' ∧
        Echoes pipe pipe' relay relay' waiting waiting' (c.acceptedNow m)
          (relayedNow EchoStack.net c m) ((readNow EchoStack.net c m).map Reading.datagram) := by
  rw [readNow_datagrams]
  cases m with
  | call call =>
    obtain ⟨hshort, pipe', hguest, hstack, hnext⟩ := perform_accepts hs h call
    have hnext : (c.move EchoStack.net (.call call)).1.IsRelaying pipe' relay _ := hnext
    refine ⟨pipe', relay, _, hnext, ?_⟩
    have hqueue : (c.move EchoStack.net (.call call)).1.queue = pipe.toGuest.queue := by
      rw [queue_of_pipe hnext.port, hguest]
    obtain ⟨more, hmore⟩ := hstack
    rw [relayedNow_of_pipe EchoStack.net h.port hnext.port, ← hmore, departed_append, hqueue,
      queue_of_pipe h.port, departed_self]
    exact ⟨rfl, hshort, by rw [hguest]; exact List.append_nil _, rfl⟩
  | service =>
    have hnext : (c.move EchoStack.net .service).1.IsRelaying pipe relay waiting :=
      h.of_eq (service_port c) (service_relay c)
    refine ⟨pipe, relay, waiting, hnext, ?_⟩
    rw [relayedNow_of_pipe EchoStack.net h.port hnext.port, departed_self,
      queue_of_pipe hnext.port, queue_of_pipe h.port, departed_self]
    exact ⟨List.append_nil _, by simp [acceptedNow], List.append_nil _, rfl⟩
  | relay =>
    obtain ⟨pipe', relay', waiting', hnext, hbalance⟩ := relayRound_echoes hs h
    refine ⟨pipe', relay', waiting', hnext, ?_⟩
    -- The relay only adds to the queue, so that nothing has been read.
    obtain ⟨more, hmore⟩ := relayRound_prolongs EchoStack.net hs.isQueue
    have hqueue : (c.move EchoStack.net .relay).1.queue = c.queue ++ more := hmore.queue
    rw [hqueue, departed_append]
    exact hbalance
  | receive =>
    obtain ⟨pipe', hstack, hnext⟩ := receive_relaying hs h
    refine ⟨pipe', relay, waiting, hnext, ?_⟩
    have hnext' : (c.move EchoStack.net .receive).1.IsRelaying pipe' relay waiting := hnext
    rw [relayedNow_of_pipe EchoStack.net h.port hnext'.port, hstack, departed_self]
    refine ⟨List.append_nil _, by simp [acceptedNow], ?_, rfl⟩
    rw [← queue_of_pipe h.port, ← queue_of_pipe hnext'.port]
    exact (List.append_nil _).trans (receive_departed hs).symm

/-! ## A whole history -/

theorem Echoes.trans {pipe pipe' pipe'' : StackPipe} {relay relay' relay'' : Relay σ}
    {waiting waiting' waiting'' accepted accepted' : List Bytes} {taken taken' : List Relayed}
    {read read' : List Bytes}
    (h : Echoes pipe pipe' relay relay' waiting waiting' accepted taken read)
    (h' : Echoes pipe' pipe'' relay' relay'' waiting' waiting'' accepted' taken' read') :
    Echoes pipe pipe'' relay relay'' waiting waiting'' (accepted ++ accepted') (taken ++ taken')
      (read ++ read') where
  sent := by
    rw [← List.append_assoc, h.sent, List.append_assoc, h'.sent, List.map_append,
      List.append_assoc]
  short := by
    intro frame hf
    rcases List.mem_append.1 hf with hf | hf
    · exact h.short frame hf
    · exact h'.short frame hf
  echoed := by
    have hsplit : Relayed.echoed (taken ++ taken') =
        Relayed.echoed taken ++ Relayed.echoed taken' := by
      simp [Relayed.echoed]
    rw [hsplit, ← List.append_assoc, h.echoed, List.append_assoc, h'.echoed, List.append_assoc]
  dropped := by
    have hsplit : Relayed.overflows (taken ++ taken') =
        Relayed.overflows taken + Relayed.overflows taken' := List.countP_append
    rw [h'.dropped, h.dropped, hsplit, Nat.add_assoc]

/-- Every history keeps the balance of frames. -/
theorem after_echoes {c : Card EchoStack} {relay : Relay EchoStack} (hs : c.IsServing)
    (h : c.IsRelaying pipe relay waiting) (moves : List Move) :
    ∃ pipe' relay' waiting',
      (c.after EchoStack.net moves).IsRelaying pipe' relay' waiting' ∧
        Echoes pipe pipe' relay relay' waiting waiting' (c.accepted EchoStack.net moves)
          (c.relayed EchoStack.net moves)
          ((c.readings EchoStack.net moves).map Reading.datagram) := by
  induction moves using history_induction with
  | start =>
    exact ⟨pipe, relay, waiting, h, List.append_nil _, by simp [accepted], List.append_nil _, rfl⟩
  | step ms m ih =>
    obtain ⟨pipe', relay', waiting', hnext, hbalance⟩ := ih
    obtain ⟨pipe'', relay'', waiting'', hnext', hbalance'⟩ :=
      move_echoes (after_isServing EchoStack.net hs ms) hnext m
    refine ⟨pipe'', relay'', waiting'', by rw [after_snoc]; exact hnext', ?_⟩
    rw [readings_snoc, List.map_append, accepted, relayed, log_snoc, log_snoc]
    exact hbalance.trans hbalance'

theorem mem_of_mem_echoed {taken : List Relayed} {frame : Bytes}
    (h : frame ∈ Relayed.echoed taken) : frame ∈ taken.map Relayed.frame := by
  obtain ⟨t, ht, rfl⟩ := List.mem_map.1 h
  exact List.mem_map_of_mem (List.mem_filter.1 ht).1

theorem echoed_eq_of_overflows {taken : List Relayed} (h : Relayed.overflows taken = 0) :
    Relayed.echoed taken = taken.map Relayed.frame := by
  have hnone : ∀ t ∈ taken, t.overflowed = false := by
    intro t ht
    have := List.countP_eq_zero.1 h t ht
    simpa using this
  rw [Relayed.echoed, List.filter_eq_self.2 fun t ht => by simp [hnone t ht]]

/-- Frames of the guest come back from the echo stack in order and bit for bit. Whatever is done to
a fresh card in NAT mode, and however reception and the relay take turns: the frames that were
accepted are those the relay took and those still waiting for it; of those taken, the ones that did
not overflow are those that reception read and those still waiting to be read, and the others are
exactly those that the relay counts as dropped. So once nothing was dropped and nothing waits, what
was read is what was accepted, and the handlers were entered for just those frames that had one when
they were read. -/
theorem echo_round_trip (towardsStack towardsGuest : Nat) (layout : ReceiveLayout)
    (rules : List Forwarding.Rule) (moves : List Move) :
    let fresh := onEcho towardsStack towardsGuest layout rules
    let c := fresh.after EchoStack.net moves
    let accepted := fresh.accepted EchoStack.net moves
    let taken := fresh.relayed EchoStack.net moves
    let readings := fresh.readings EchoStack.net moves
    (startNat EchoStack.net (.ofPort (.pipe (echoPipe towardsStack towardsGuest))) layout .empty
        rules).result = .ok fresh ∧
      (∀ frame ∈ accepted, frame.length ≤ Frame.maxSize) ∧
      fresh.invocations EchoStack.net moves ++ c.outstanding =
        readings.filterMap Reading.invocation? ∧
      ∃ pipe relay waiting, c.link.port = .pipe pipe ∧ c.relay = some relay ∧
        pipe.toStack.queue = waiting.map Record.encode ∧
        accepted = taken.map Relayed.frame ++ waiting ∧
        Relayed.echoed taken = readings.map Reading.frame ++ pipe.toGuest.queue ∧
        relay.counters.framesDropped = Relayed.overflows taken ∧
        (relay.counters.framesDropped = 0 → pipe.toStack.queue = [] → pipe.toGuest.queue = [] →
          c.doorbell.isPending = false →
          readings.map Reading.frame = accepted ∧
            fresh.invocations EchoStack.net moves = readings.filterMap Reading.invocation?) := by
  intro fresh c accepted taken readings
  have hs : fresh.IsServing :=
    isServing_ofLink (.pipe (Host.Channel.isLive_ofCapacity _)) _ layout
  obtain ⟨relay₀, hstart, hcounters⟩ :=
    isRelaying_onEcho towardsStack towardsGuest layout rules
  obtain ⟨pipe, relay, waiting, hnext, hbalance⟩ := after_echoes hs hstart moves
  have hsent : accepted = taken.map Relayed.frame ++ waiting := hbalance.sent
  have hdatagrams : Relayed.echoed taken =
      readings.map Reading.datagram ++ pipe.toGuest.queue := hbalance.echoed
  -- Only accepted frames come back, and these are short, so that reading cuts nothing off.
  have hwhole : readings.map Reading.datagram = readings.map Reading.frame := by
    apply List.map_congr_left
    intro r hr
    have hmem : r.datagram ∈ accepted := by
      rw [hsent]
      refine List.mem_append_left _ (mem_of_mem_echoed ?_)
      rw [hdatagrams]
      exact List.mem_append_left _ (List.mem_map_of_mem hr)
    exact (List.take_of_length_le (hbalance.short _ hmem)).symm
  have hinvoked := invocations_append_outstanding EchoStack.net hs rfl moves
  have hdropped : relay.counters.framesDropped = Relayed.overflows taken := by
    rw [hbalance.dropped, hcounters]
    exact Nat.zero_add _
  refine ⟨startNat_onEcho _ _ _ _, hbalance.short, hinvoked, pipe, relay, waiting, hnext.port,
    hnext.attached, hnext.queue, hsent, hwhole ▸ hdatagrams, hdropped, ?_⟩
  intro hnone hstack hguest hquiet
  have hwaiting : waiting = [] := by
    rw [hnext.queue] at hstack
    exact List.map_eq_nil_iff.1 hstack
  constructor
  · rw [hsent, hwaiting, List.append_nil, ← echoed_eq_of_overflows (hdropped ▸ hnone), hdatagrams,
      hguest, List.append_nil, hwhole]
  · have hserving : c.IsServing := after_isServing EchoStack.net hs moves
    have hout : c.outstanding = [] := hserving.not_isPending_iff.1 hquiet
    rw [hout, List.append_nil] at hinvoked
    exact hinvoked

end Card
end GuestNic
