import GuestNic.Proofs.Card.Reception
import GuestNic.Proofs.Card.Submission

/-!
# Cards in which something else is counted or carried along

Most of what a card does looks at a part of the card and passes the rest on. `Card.Refit` changes
handlers, counters, port and relay of a card. What a step of the card needs of such a change is
named once (`SortsAlike`, `CountsAlike`, `PollsAlike`, `KeepsWiring`, `SendsAlike`, `Carries`), and
then the step does on the refitted card what it did on the card itself: one law for each function,
with `c.refit f` on its left-hand side.
-/

namespace GuestNic

/-- The call is meant for the handler table. -/
def Call.isTable : Call → Bool
  | .attach .. => true
  | .detach _ => true
  | .reset => true
  | _ => false

namespace Card

/-- A change to some parts of a card. -/
structure Refit (σ τ : Type) where
  handlers : HandlerTable → HandlerTable := id
  counters : CardCounters → CardCounters := id
  port : Port → Port := id
  traffic : Traffic → Traffic := id
  relay : Option (Relay σ) → Option (Relay τ)
  /-- Reception that has not ended goes on. -/
  receives : Bool := true

variable {σ τ : Type}

/-- The card after a change. -/
def refit (f : Refit σ τ) (c : Card σ) : Card τ where
  handlers := f.handlers c.handlers
  doorbell := c.doorbell
  counters := f.counters c.counters
  link := ⟨f.port c.link.port, f.traffic c.link.traffic⟩
  relay := f.relay c.relay
  buffer := c.buffer
  isReceiving := f.receives && c.isReceiving
  layout := c.layout
  address := c.address
  isOpen := c.isOpen

namespace Refit

/-- The link of a card after a change. -/
def onLink (f : Refit σ τ) (l : Link) : Link := ⟨f.port l.port, f.traffic l.traffic⟩

/-- The frame is sorted as before: the handlers are the same ones, or it came from a peer. -/
def SortsAlike (f : Refit σ τ) (c : Card σ) (origin : Origin) : Prop :=
  f.handlers c.handlers = c.handlers ∨ ∃ peer, origin = .peer peer

/-- Reception moves the counters as it did. -/
structure CountsAlike (f : Refit σ τ) : Prop where
  runt : ∀ t, f.traffic { t with rxRunts := t.rxRunts + 1 } =
    { f.traffic t with rxRunts := (f.traffic t).rxRunts + 1 } := by intro _; rfl
  frame : ∀ t length,
    f.traffic { t with rxFrames := t.rxFrames + 1, rxBytes := t.rxBytes + length } =
      { f.traffic t with
        rxFrames := (f.traffic t).rxFrames + 1
        rxBytes := (f.traffic t).rxBytes + length } := by intro _ _; rfl
  unread : ∀ t, f.traffic { t with rxErrors := t.rxErrors + 1 } =
    { f.traffic t with rxErrors := (f.traffic t).rxErrors + 1 } := by intro _; rfl
  dropped : ∀ k, f.counters { k with rxDropped := k.rxDropped + 1 } =
    { f.counters k with rxDropped := (f.counters k).rxDropped + 1 } := by intro _; rfl
  raised : ∀ k, f.counters { k with interruptsRaised := k.interruptsRaised + 1 } =
    { f.counters k with
      interruptsRaised := (f.counters k).interruptsRaised + 1 } := by intro _; rfl
  spurious : ∀ k, f.counters { k with interruptsSpurious := k.interruptsSpurious + 1 } =
    { f.counters k with
      interruptsSpurious := (f.counters k).interruptsSpurious + 1 } := by intro _; rfl
  serviced : ∀ k,
    f.counters { k with
      interruptsServiced := k.interruptsServiced + 1
      rxPackets := k.rxPackets + 1 } =
      { f.counters k with
        interruptsServiced := (f.counters k).interruptsServiced + 1
        rxPackets := (f.counters k).rxPackets + 1 } := by intro _; rfl
  failed : ∀ k, f.counters { k with rxFailed := true } =
    { f.counters k with rxFailed := true } := by intro _; rfl

/-- Moreover the port is polled and read as it was. -/
structure PollsAlike (f : Refit σ τ) : Prop extends f.CountsAlike where
  wait : ∀ p, (f.port p).wait = (f.port p.wait.1, p.wait.2)
  read : ∀ p limit, (f.port p).read limit = (f.port (p.read limit).1, (p.read limit).2)

/-- The port is the same one, and there is a relay if there was one. -/
structure KeepsWiring (f : Refit σ τ) : Prop where
  port : ∀ p, f.port p = p := by intro _; rfl
  relay : ∀ r, (f.relay r).isSome = r.isSome := by intro _; rfl

/-- Sending moves the counters as it did, too. -/
structure SendsAlike (f : Refit σ τ) : Prop extends f.KeepsWiring, f.CountsAlike where
  packet : ∀ k, f.counters { k with txPackets := k.txPackets + 1 } =
    { f.counters k with txPackets := (f.counters k).txPackets + 1 } := by intro _; rfl
  refused : ∀ k, f.counters { k with txRefused := k.txRefused + 1 } =
    { f.counters k with txRefused := (f.counters k).txRefused + 1 } := by intro _; rfl
  tooLong : ∀ k, f.counters { k with txTooLong := k.txTooLong + 1 } =
    { f.counters k with txTooLong := (f.counters k).txTooLong + 1 } := by intro _; rfl
  written : ∀ t length,
    f.traffic { t with txFrames := t.txFrames + 1, txBytes := t.txBytes + length } =
      { f.traffic t with
        txFrames := (f.traffic t).txFrames + 1
        txBytes := (f.traffic t).txBytes + length } := by intro _ _; rfl
  unwritten : ∀ t, f.traffic { t with txErrors := t.txErrors + 1 } =
    { f.traffic t with txErrors := (f.traffic t).txErrors + 1 } := by intro _; rfl

/-- What `act` does to a relay and its pipe, `act'` does to the relay after the change. -/
def Carries (f : Refit σ τ) (act : Relay σ → StackPipe → Relay σ × StackPipe)
    (act' : Relay τ → StackPipe → Relay τ × StackPipe) : Prop :=
  ∀ r r' p, f.relay (some r) = some r' →
    f.relay (some (act r p).1) = some (act' r' p).1 ∧ (act' r' p).2 = (act r p).2

variable {f : Refit σ τ}

theorem SendsAlike.pollsAlike (h : f.SendsAlike) : f.PollsAlike where
  toCountsAlike := h.toCountsAlike
  wait p := by rw [h.port, h.port]
  read p limit := by rw [h.port, h.port]

end Refit

variable {f : Refit σ τ} {c : Card σ}

/-! ## The link -/

theorem wait_onLink (hf : f.PollsAlike) (l : Link) :
    (f.onLink l).wait = (f.onLink l.wait.1, l.wait.2) := by
  simp only [Refit.onLink, Link.wait, hf.wait]

/-- Which counter a read moves depends on what was read, and it is one of those of receiving. -/
theorem settleRead_refit (hf : f.CountsAlike) (traffic : Traffic) (buffer : FrameBuffer)
    (r : Except Host.Fault (Nat × Origin)) :
    Link.settleRead (f.traffic traffic) buffer r =
      (f.traffic (Link.settleRead traffic buffer r).1, (Link.settleRead traffic buffer r).2) := by
  cases r with
  | error fault =>
    simp only [Link.settleRead]
    split
    · rfl
    · rw [hf.unread]
  | ok filled =>
    simp only [Link.settleRead]
    split
    · rw [hf.runt]
    · rw [hf.frame]

theorem read_onLink (hf : f.PollsAlike) (l : Link) (buffer : FrameBuffer) :
    (f.onLink l).read buffer = (f.onLink (l.read buffer).1, (l.read buffer).2) := by
  simp only [Refit.onLink, Link.read, hf.read, settleRead_refit hf.toCountsAlike]

theorem writeTo_onLink (hf : f.SendsAlike) (answer : HostAnswer) (l : Link) (frame : Bytes) :
    (f.onLink l).writeTo answer frame =
      (f.onLink (l.writeTo answer frame).1, (l.writeTo answer frame).2) := by
  simp only [Refit.onLink, Link.writeTo, hf.port]
  split
  · simp only [hf.written]
  · simp only [hf.unwritten]

/-! ## Reception -/

theorem prepare_refit (hf : f.CountsAlike) {origin : Origin} (h : f.SortsAlike c origin) :
    (c.refit f).prepare origin = ((c.prepare origin).1.refit f, (c.prepare origin).2) := by
  have hbuffer : (c.refit f).buffer = c.buffer := rfl
  simp only [prepare, hbuffer]
  rcases h with hhandlers | ⟨peer, rfl⟩
  · have hhandler : ∀ t, ({ c.refit f with buffer := .empty } : Card τ).handlerFor? t =
        ({ c with buffer := .empty } : Card σ).handlerFor? t := by
      intro t
      simp only [handlerFor?, refit, hhandlers]
    simp only [hhandler]
    split
    · rfl
    · split
      · rfl
      · simp only [refit, hf.dropped]
    · rfl
  · rfl

theorem publish_refit (hf : f.CountsAlike) (c : Card σ) (delivery : Delivery) :
    (c.refit f).publish delivery =
      ((c.publish delivery).1.refit f, (c.publish delivery).2) := by
  have hbell : (c.refit f).doorbell = c.doorbell := rfl
  simp only [publish, hbell]
  split
  · rfl
  · simp only [refit, hf.raised]

theorem deliver_refit (hf : f.CountsAlike) {origin : Origin} (h : f.SortsAlike c origin) :
    (c.refit f).deliver origin = ((c.deliver origin).1.refit f, (c.deliver origin).2) := by
  rw [deliver, deliver, prepare_refit hf h]
  rcases c.prepare origin with ⟨prepared, none | delivery⟩
  · rfl
  · exact publish_refit hf prepared delivery

theorem readFrame_refit (hf : f.PollsAlike)
    (h : ∀ origin, (c.link.read c.buffer).2.2 = .ok (some origin) → f.SortsAlike c origin) :
    (c.refit f).readFrame = (c.readFrame.1.refit f, c.readFrame.2) := by
  have hlink : (c.refit f).link = f.onLink c.link := rfl
  have hbuffer : (c.refit f).buffer = c.buffer := rfl
  simp only [readFrame, hlink, hbuffer, read_onLink hf]
  rcases hread : c.link.read c.buffer with ⟨link, buffer, fault | _ | origin⟩
  · rfl
  · rfl
  · have hsorts : f.SortsAlike { c with link, buffer } origin := h origin (by rw [hread])
    exact deliver_refit hf.toCountsAlike hsorts

theorem isResting_refit (hf : f.receives = true) (c : Card σ) :
    (c.refit f).isResting = c.isResting := by
  simp only [isResting, refit, hf, Bool.true_and]

/-- Only a frame that was read from the device is looked up in the handler table. -/
theorem receive_refit (hf : f.PollsAlike) (hreceives : f.receives = true)
    (h : ∀ link origin, c.link.wait = (link, .ok true) →
      (link.read c.buffer).2.2 = .ok (some origin) → f.SortsAlike c origin) :
    (c.refit f).receive = (c.receive.1.refit f, c.receive.2) := by
  have hresting := isResting_refit hreceives c
  have hwait : (c.refit f).link.wait = (f.onLink c.link.wait.1, c.link.wait.2) :=
    wait_onLink hf c.link
  cases hr : c.isResting with
  | true => rw [receive_of_resting hr, receive_of_resting (hresting.trans hr)]
  | false =>
    have hr' := hresting.trans hr
    rcases hw : c.link.wait with ⟨link, fault | _ | _⟩
    all_goals rw [hw] at hwait
    · rw [receive_of_unreadable hr hw, receive_of_unreadable hr' hwait]
      simp only [refit, Refit.onLink, hf.failed, Bool.and_false]
    · rw [receive_of_idle hr hw, receive_of_idle hr' hwait]
      rfl
    · rw [receive_of_readable hr hw, receive_of_readable hr' hwait]
      have hframe := readFrame_refit (c := { c with link }) hf fun origin => h link origin hw
      exact hframe

/-- The handlers of the card are those of before. -/
theorem receiveTimes_refit (hf : f.PollsAlike) (hreceives : f.receives = true)
    (hhandlers : ∀ table, f.handlers table = table) (n : Nat) (c : Card σ) :
    receiveTimes n (c.refit f) = ((receiveTimes n c).1.refit f, (receiveTimes n c).2) := by
  induction n generalizing c with
  | zero => rfl
  | succ n ih =>
    have hreceive := receive_refit (c := c) hf hreceives fun _ _ _ _ => .inl (hhandlers _)
    simp only [receiveTimes, hreceive, ih]

theorem service_refit (hf : f.CountsAlike) (c : Card σ) :
    (c.refit f).service = (c.service.1.refit f, c.service.2) := by
  have hbell : (c.refit f).doorbell = c.doorbell := rfl
  simp only [service, hbell]
  rcases c.doorbell.take with ⟨doorbell, none | delivery⟩
  · simp only [refit, hf.spurious]
  · simp only [refit, hf.serviced]

/-! ## The relay and the end -/

theorem relay_refit_of_none (hf : f.KeepsWiring) : f.relay none = none :=
  Option.isNone_iff_eq_none.1 (by rw [← Option.not_isSome, hf.relay]; rfl)

theorem relay_refit_of_some (hf : f.KeepsWiring) (r : Relay σ) : ∃ r', f.relay (some r) = some r' :=
  Option.isSome_iff_exists.1 (hf.relay (some r))

theorem onRelay_refit (hf : f.KeepsWiring) {act : Relay σ → StackPipe → Relay σ × StackPipe}
    {act' : Relay τ → StackPipe → Relay τ × StackPipe} (h : f.Carries act act') (c : Card σ) :
    (c.refit f).onRelay act' = (c.onRelay act).refit f := by
  obtain ⟨_, _, _, ⟨port, _⟩, relay, _, _, _, _, _⟩ := c
  cases relay with
  | none => cases port <;> simp only [onRelay, refit, hf.port, relay_refit_of_none hf]
  | some r =>
    obtain ⟨r', hr'⟩ := relay_refit_of_some hf r
    cases port with
    | pipe p =>
      obtain ⟨hrelay, hpipe⟩ := h r r' p hr'
      simp only [onRelay, refit, hf.port, hr', hrelay, hpipe]
    | raw | tunnel => simp only [onRelay, refit, hf.port]

theorem releasedPort_refit (hf : f.KeepsWiring) (c : Card σ) :
    (c.refit f).releasedPort = c.releasedPort := by
  obtain ⟨_, _, _, ⟨port, _⟩, relay, _, _, _, _, _⟩ := c
  cases relay with
  | none => simp only [releasedPort, refit, hf.port, relay_refit_of_none hf]
  | some r =>
    obtain ⟨r', hr'⟩ := relay_refit_of_some hf r
    simp only [releasedPort, refit, hf.port, hr']
    cases port.close <;> rfl

theorem shutdown_refit (hf : f.KeepsWiring) (c : Card σ) :
    (c.refit f).shutdown = c.shutdown.refit f := by
  have hopen : (c.refit f).isOpen = c.isOpen := rfl
  simp only [shutdown, hopen, releasedPort_refit hf]
  split
  · simp only [refit, hf.port, Bool.and_false]
  · rfl

/-! ## Calls -/

theorem attach_refit (hhandlers : ∀ table, f.handlers table = table) (c : Card σ) (type : UInt16)
    (routine : Routine) :
    (c.refit f).attach type routine =
      ((c.attach type routine).1.refit f, (c.attach type routine).2) := by
  have htable : (c.refit f).handlers = c.handlers := hhandlers _
  simp only [attach, htable]
  split
  · simp only [refit, hhandlers]
  · rfl

theorem detach_refit (hhandlers : ∀ table, f.handlers table = table) (c : Card σ) (type : UInt16) :
    (c.refit f).detach type = ((c.detach type).1.refit f, (c.detach type).2) := by
  have htable : (c.refit f).handlers = c.handlers := hhandlers _
  simp only [detach, htable]
  split
  · simp only [refit, hhandlers]
  · rfl

theorem reset_refit (hhandlers : ∀ table, f.handlers table = table) (c : Card σ) :
    (c.refit f).reset = c.reset.refit f := by
  simp only [reset, refit, hhandlers]

theorem submit_refit (hf : f.SendsAlike) (answer : HostAnswer) (c : Card σ) (o : Outgoing) :
    (c.refit f).submit answer o =
      ((c.submit answer o).1.refit f, (c.submit answer o).2) := by
  cases ho : c.isOpen with
  | false =>
    have ho' : (c.refit f).isOpen = false := ho
    rw [submit_of_closed ho, submit_of_closed ho']
  | true =>
    have ho' : (c.refit f).isOpen = true := ho
    have hlink : (c.refit f).link = f.onLink c.link := rfl
    simp only [submit, if_pos ho, if_pos ho', hlink, writeTo_onLink hf]
    cases o.frame? with
    | error e => simp only [refuseTooLong, refit, hf.tooLong]
    | ok frame =>
      dsimp only
      rcases c.link.writeTo answer frame with ⟨link, fault | _⟩
      · simp only [refit, Refit.onLink, hf.refused]
      · simp only [refit, Refit.onLink, hf.packet]

theorem transmit_refit (hf : f.SendsAlike) (c : Card σ) (memory : GuestMemory)
    (packet : OutgoingPacket) :
    (c.refit f).transmit memory packet =
      ((c.transmit memory packet).1.refit f, (c.transmit memory packet).2) := by
  rw [← submit_packet, ← submit_packet, submit_refit hf]

theorem transmitFrame_refit (hf : f.SendsAlike) (c : Card σ) (frame : Bytes) :
    (c.refit f).transmitFrame frame =
      ((c.transmitFrame frame).1.refit f, (c.transmitFrame frame).2) := by
  have hsubmit := submit_refit hf Port.offer c (.frame frame)
  simp only [submit_frame, Prod.mk.injEq] at hsubmit
  exact Prod.ext hsubmit.1 hsubmit.2.2

theorem arrive_refit (hf : f.KeepsWiring) (c : Card σ) (peer : Peer) (frame : Bytes) :
    (c.refit f).arrive peer frame =
      ((c.arrive peer frame).1.refit f, (c.arrive peer frame).2) := by
  obtain ⟨_, _, _, link, relay, _, _, _, _, _⟩ := c
  cases relay with
  | none => simp only [arrive, refit, hf.port, relay_refit_of_none hf]
  | some r =>
    obtain ⟨r', hr'⟩ := relay_refit_of_some hf r
    simp only [arrive, refit, hr']

/-- The driver is answered as before. -/
theorem sending?_refit (hf : f.SendsAlike) (c : Card σ) (call : Call) :
    (c.refit f).sending? call = c.sending? call := by
  cases call with
  | transmit memory packet => simp only [sending?, transmit_refit hf]
  | transmitFrame frame => simp only [sending?, transmitFrame_refit hf]
  | attach | detach | reset | arrive => rfl

/-- A call that is not meant for the handler table does not look at it either. -/
theorem perform_refit (hf : f.SendsAlike) {call : Call}
    (h : call.isTable = true → ∀ table, f.handlers table = table) (c : Card σ) :
    (c.refit f).perform call = ((c.perform call).1.refit f, (c.perform call).2) := by
  cases call with
  | attach type routine => simp only [perform, attach_refit (h rfl)]
  | detach type => simp only [perform, detach_refit (h rfl)]
  | reset => simp only [perform, reset_refit (h rfl)]
  | transmit memory packet => simp only [perform, transmit_refit hf]
  | transmitFrame frame => simp only [perform, transmitFrame_refit hf]
  | arrive peer frame => simp only [perform, arrive_refit hf.toKeepsWiring]

end Card
end GuestNic
