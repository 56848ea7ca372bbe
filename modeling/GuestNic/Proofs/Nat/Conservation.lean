import GuestNic.Proofs.Card.Outcome
import GuestNic.Proofs.Card.Submission
import GuestNic.Proofs.Link.Reading
import GuestNic.Proofs.Nat.RoundTrip
import GuestNic.Proofs.Nat.Station

/-!
# Nothing is lost between a card and its stack

A card in NAT mode and its relay count frames independently, at the two ends of two queues. The
relay at its pipe is a `Station`, and the card is what its far ends are: to send is to let a record
arrive, to read is to fetch. So the books of the station speak of the card too, and what the one has
counted and the other has not is what waits between them (`Card.Balances.reckon`).
-/

namespace GuestNic

open StackCall

variable {σ : Type}

/-- The link of a card in NAT mode, with room for that many datagrams either way. -/
def Link.natPipe (towardsStack towardsGuest : Nat) : Link :=
  .ofPort (.pipe {
    toStack := .ofCapacity towardsStack
    toGuest := .ofCapacity towardsGuest
    inputFault := none })

/-- Reading from a pipe is to fetch, and what is fetched is counted as a frame or as a runt. -/
theorem Link.read_pipe {l : Link} {p : StackPipe} (hp : l.port = .pipe p) (buffer : FrameBuffer) :
    (l.read buffer).1.port = .pipe (p.receive Frame.maxSize).1 ∧
      (l.read buffer).1.traffic.txFrames = l.traffic.txFrames ∧
      (l.read buffer).1.traffic.rxFrames + (l.read buffer).1.traffic.rxRunts =
        l.traffic.rxFrames + l.traffic.rxRunts + (p.toGuest.queue.take 1).length := by
  have htransient : (Host.Fault.os .wouldBlock).isTransient = true := rfl
  cases hq : p.toGuest.queue with
  | nil =>
    simp only [Link.read, hp, Port.read, StackPipe.receive, Host.Channel.receive_nil hq,
      Except.map, FrameBuffer.fillWith_ofBytes, Except.bind, Link.settleRead, htransient,
      ↓reduceIte]
    exact ⟨trivial, trivial, rfl⟩
  | cons d ds =>
    simp only [Link.read, hp, Port.read, StackPipe.receive, Host.Channel.receive_cons hq,
      Except.map, FrameBuffer.fillWith_ofBytes, Except.bind, Link.settleRead]
    split
    · exact ⟨trivial, rfl, rfl⟩
    · exact ⟨trivial, rfl, Nat.add_right_comm _ 1 _⟩

namespace Card

/-! ## The station of a card -/

/-- The accounts of a card whose relay and pipe make up the station: the records of the frames that
were accepted have arrived there, and what has left it was read as a frame or as a runt. -/
structure Conserves (c : Card (σ × List StackCall)) (s : Station (σ × List StackCall))
    (accepted taken left : List Bytes) (fates : List Fate) : Prop where
  port : c.link.port = .pipe s.pipe
  attached : c.relay = some s.relay
  intake : s.Intake (accepted.map Record.encode) taken
  output : s.Output left fates
  short : ∀ frame ∈ accepted, frame.length ≤ Frame.maxSize
  sent : c.link.traffic.txFrames = accepted.length
  read : c.link.traffic.rxFrames + c.link.traffic.rxRunts = left.length

/-- The accounts of a card on which the frames in `accepted` were sent, whatever else its station
has been through. -/
def Balances (c : Card (σ × List StackCall)) (accepted : List Bytes) : Prop :=
  ∃ s taken left fates, c.Conserves s accepted taken left fates

section

variable {c c' : Card (σ × List StackCall)} {s : Station (σ × List StackCall)}
  {accepted taken left : List Bytes} {fates : List Fate}

/-- A card that has just been started balances. -/
theorem balances_ofLink {relay : Relay (σ × List StackCall)} (hjournal : relay.stack.2 = [])
    (hcounters : relay.counters = {}) (towardsStack towardsGuest : Nat) (layout : ReceiveLayout) :
    Balances (.ofLink (.natPipe towardsStack towardsGuest) (some relay) layout) [] := by
  refine ⟨⟨relay, _⟩, [], [], [], rfl, rfl, ⟨rfl, ?_, ?_, ?_⟩, ⟨?_, by simp, ?_, ?_, rfl⟩, by simp,
    rfl, rfl⟩
  · rw [Station.calls, hjournal]
    rfl
  · rw [hcounters]
    rfl
  · rw [hcounters]
    rfl
  · rw [Station.calls, hjournal]
    rfl
  · rw [hcounters]
    rfl
  · rw [hcounters]
    rfl

/-! ## Steps -/

/-- What is a move of the station, and counted as such. -/
theorem Conserves.move (h : c.Conserves s accepted taken left fates) (net : NetStack σ)
    (m : RelayMove) (now : List Bytes)
    (hport : c'.link.port = .pipe (s.move net.journaled m).pipe)
    (hrelay : c'.relay = some (s.move net.journaled m).relay)
    (hnow : s.arrivedNow m = now.map Record.encode)
    (hshort : ∀ frame ∈ now, frame.length ≤ Frame.maxSize)
    (hsent : c'.link.traffic.txFrames = c.link.traffic.txFrames + now.length)
    (hread : c'.link.traffic.rxFrames + c'.link.traffic.rxRunts =
      c.link.traffic.rxFrames + c.link.traffic.rxRunts + (s.leftNow m).length) :
    c'.Balances (accepted ++ now) := by
  obtain ⟨taken', fates', hintake, houtput⟩ := Station.move_books net h.intake h.output m
  refine ⟨_, taken', left ++ s.leftNow m, fates', hport, hrelay, ?_, houtput, ?_, ?_, ?_⟩
  · rw [List.map_append, ← hnow]
    exact hintake
  · intro frame hframe
    rcases List.mem_append.1 hframe with hframe | hframe
    · exact h.short frame hframe
    · exact hshort frame hframe
  · rw [hsent, h.sent, List.length_append]
  · rw [hread, h.read, List.length_append]

/-- A move of the station with which no record arrives. -/
theorem Conserves.move_of_nil (h : c.Conserves s accepted taken left fates) (net : NetStack σ)
    (m : RelayMove) (hport : c'.link.port = .pipe (s.move net.journaled m).pipe)
    (hrelay : c'.relay = some (s.move net.journaled m).relay) (hnow : s.arrivedNow m = [])
    (hsent : c'.link.traffic.txFrames = c.link.traffic.txFrames)
    (hread : c'.link.traffic.rxFrames + c'.link.traffic.rxRunts =
      c.link.traffic.rxFrames + c.link.traffic.rxRunts + (s.leftNow m).length) :
    c'.Balances accepted := by
  have hmove := h.move net m [] hport hrelay hnow
    (fun _ hframe => absurd hframe List.not_mem_nil) hsent hread
  rwa [List.append_nil] at hmove

/-- What touches neither the link nor the relay. -/
theorem Balances.of_eq (h : c.Balances accepted) (hlink : c'.link = c.link)
    (hrelay : c'.relay = c.relay) : c'.Balances accepted := by
  obtain ⟨s, taken, left, fates, h⟩ := h
  refine ⟨s, taken, left, fates, ?_, hrelay.trans h.attached, h.intake, h.output, h.short, ?_, ?_⟩
  · rw [hlink]
    exact h.port
  · rw [hlink]
    exact h.sent
  · rw [hlink]
    exact h.read

theorem Balances.read (h : c.Balances accepted) (net : NetStack σ) (buffer : FrameBuffer)
    (hlink : c'.link = (c.link.read buffer).1) (hrelay : c'.relay = c.relay) :
    c'.Balances accepted := by
  obtain ⟨s, taken, left, fates, h⟩ := h
  obtain ⟨hport, hsent, hread⟩ := Link.read_pipe h.port buffer
  rw [← hlink] at hport hsent hread
  exact h.move_of_nil net .fetch hport (hrelay.trans h.attached) rfl hsent hread

/-- What the relay does is a move of the station. -/
theorem Conserves.onRelay (h : c.Conserves s accepted taken left fates) (net : NetStack σ)
    (m : RelayMove)
    {act : Relay (σ × List StackCall) → StackPipe → Relay (σ × List StackCall) × StackPipe}
    (hact : s.move net.journaled m = .ofPair (act s.relay s.pipe)) (hnow : s.arrivedNow m = [])
    (hleft : s.leftNow m = []) : (c.onRelay act).Balances accepted := by
  have heq : c.onRelay act = c.rewire (act s.relay s.pipe).1 (act s.relay s.pipe).2 := by
    simp only [Card.onRelay, h.port, h.attached]
    rfl
  rw [heq]
  refine h.move_of_nil net m ?_ ?_ hnow rfl ?_
  · rw [hact]
    rfl
  · rw [hact]
    rfl
  · rw [hleft]
    rfl

theorem Balances.takeInput (h : c.Balances accepted) (net : NetStack σ) :
    (c.onRelay (Relay.takeInput net.journaled)).Balances accepted := by
  obtain ⟨s, taken, left, fates, h⟩ := h
  exact h.onRelay net .takeInput rfl rfl rfl

theorem Balances.serve (h : c.Balances accepted) (net : NetStack σ) :
    (c.onRelay (Relay.serve net.journaled)).Balances accepted := by
  obtain ⟨s, taken, left, fates, h⟩ := h
  exact h.onRelay net .serve rfl rfl rfl

/-- A record that finds room arrives at the station. -/
theorem Conserves.countSent (h : c.Conserves s accepted taken left fates) (net : NetStack σ)
    {frame : Bytes} (hlen : frame.length ≤ Frame.maxSize)
    (hr : (s.pipe.toStack.send (Record.encode frame)).2 = .ok ()) :
    (c.countSent (Port.offer frame c.link.port).1 frame.length).Balances (accepted ++ [frame]) := by
  have hnow : s.arrivedNow (.arrive (Record.encode frame)) = [frame].map Record.encode := by
    simp [Station.arrivedNow, hr, Except.isOk, Except.toBool]
  have hshort : ∀ f ∈ [frame], f.length ≤ Frame.maxSize := by
    intro f hmem
    rwa [List.mem_singleton.1 hmem]
  rw [h.port]
  exact h.move net (.arrive (Record.encode frame)) [frame] rfl h.attached hnow hshort rfl rfl

/-- One that does not is nothing to the station. -/
theorem Conserves.countRefused (h : c.Conserves s accepted taken left fates) (net : NetStack σ)
    {frame : Bytes} {fault : Host.Fault}
    (hr : (s.pipe.toStack.send (Record.encode frame)).2 = .error fault) :
    (c.countRefused (Port.offer frame c.link.port).1).Balances accepted := by
  have hnow : s.arrivedNow (.arrive (Record.encode frame)) = [] := by
    simp [Station.arrivedNow, hr, Except.isOk, Except.toBool]
  rw [h.port]
  exact h.move_of_nil net (.arrive (Record.encode frame)) rfl h.attached hnow rfl rfl

/-- The frame of a call that succeeds arrives as a record, and otherwise nothing does. -/
theorem Balances.submit (h : c.Balances accepted) (net : NetStack σ) (o : Outgoing) :
    (c.submit Port.offer o).1.Balances
      (accepted ++ o.taken (c.submit Port.offer o).2.2) := by
  cases ho : c.isOpen with
  | false =>
    rw [submit_of_closed ho, Outgoing.taken, List.append_nil]
    exact h
  | true =>
    cases hf : o.frame? with
    | error e =>
      rw [submit_of_tooLong Port.offer ho hf, Outgoing.taken, List.append_nil]
      exact h.of_eq rfl rfl
    | ok frame =>
      obtain ⟨s, taken, left, fates, h⟩ := h
      have hoffer : (Port.offer frame c.link.port).2 =
          (s.pipe.toStack.send (Record.encode frame)).2.map fun _ =>
            (c.link.port.payload frame).length := by
        rw [h.port]
        rfl
      -- The channel takes a record whole or not at all, so no write is a partial one.
      cases hr : (s.pipe.toStack.send (Record.encode frame)).2 with
      | ok _ =>
        rw [hr] at hoffer
        have htaken : o.taken (.ok ()) = [frame] := by rw [Outgoing.taken, hf]; rfl
        rw [submit_of_whole Port.offer ho hf hoffer, htaken]
        exact h.countSent net (Outgoing.length_le_of_frame? hf) hr
      | error fault =>
        have hfault : Port.whole c.link.port.writer (c.link.port.payload frame).length
            (Port.offer frame c.link.port).2 = .error fault := by
          rw [hoffer, hr]
          rfl
        rw [submit_of_fault Port.offer ho hf hfault, Outgoing.taken, List.append_nil]
        exact h.countRefused net hr

/-- The frame that is sent and accepted in a call is the one with which it succeeds. -/
theorem acceptedNow_eq (c : Card σ) (call : Call) :
    c.acceptedNow (.call call) =
      match c.sending? call with
      | some (o, r) => o.taken r
      | none => [] := by
  cases call with
  | transmit memory packet =>
    cases hr : (c.transmit memory packet).2.2 with
    | error fault =>
      simp only [acceptedNow, sending?, hr]
      rfl
    | ok _ =>
      simp only [acceptedNow, sending?, hr, OutgoingPacket.frame?, Outgoing.taken, Outgoing.frame?]
      cases (packet.assemble memory).result <;> rfl
  | transmitFrame frame =>
    cases hr : (c.transmitFrame frame).2 with
    | error fault =>
      simp only [acceptedNow, sending?, hr]
      rfl
    | ok _ =>
      -- A call that succeeds was not made with a frame that is too long.
      have hlen : ¬ Frame.maxSize < frame.length := by
        intro hlen
        unfold transmitFrame at hr
        split at hr
        · rw [send, if_pos hlen] at hr
          cases hr
        · cases hr
      simp only [acceptedNow, sending?, hr, Outgoing.taken, Outgoing.frame?, if_neg hlen]
      rfl
  | attach | detach | reset | arrive => rfl

/-- Calls that want nothing sent leave the link of a card in NAT mode alone. -/
theorem perform_link {r : Relay σ} {c : Card σ} (hrelay : c.relay = some r) {call : Call}
    (h : c.sending? call = none) : (c.perform call).1.link = c.link := by
  cases call with
  | attach type routine => exact (attach_spares type routine).2
  | detach type => exact (detach_spares type).2
  | reset => rfl
  | arrive peer frame => simp only [perform, arrive, hrelay]
  | transmit | transmitFrame => cases h

/-- Every call of the driver balances. -/
theorem Balances.perform (h : c.Balances accepted) (net : NetStack σ) (call : Call) :
    (c.perform call).1.Balances (accepted ++ c.acceptedNow (.call call)) := by
  rw [acceptedNow_eq]
  cases hcall : c.sending? call with
  | none =>
    obtain ⟨s, taken, left, fates, hc⟩ := id h
    rw [List.append_nil]
    exact h.of_eq (perform_link hc.attached hcall) (perform_relay call)
  | some sending =>
    obtain ⟨o, r⟩ := sending
    obtain ⟨hperform, rfl⟩ := perform_of_sending? hcall
    rw [hperform]
    exact h.submit net o

/-! ## What the accounts say -/

/-- Of the frames that were accepted, the relay has taken some in, from the first on, and the others
wait for it. -/
theorem Conserves.waiting (h : c.Conserves s accepted taken left fates) :
    ∃ waiting, accepted = inputs s.calls ++ waiting ∧
      taken = (inputs s.calls).map Record.encode ∧
      s.pipe.toStack.queue = waiting.map Record.encode := by
  -- The queue cuts the accepted frames in two, for a record stands for one frame.
  obtain ⟨before, waiting, heq, htaken, hwaiting⟩ := List.map_eq_append_iff.1 h.intake.arrived
  have hbefore : inputs s.calls = before := by
    rw [h.intake.handed, ← htaken]
    refine Record.filterMap_map_encode fun frame hframe => h.short frame ?_
    rw [heq]
    exact List.mem_append_left _ hframe
  rw [hbefore]
  exact ⟨waiting, heq, htaken.symm, hwaiting.symm⟩

/-- What was accepted was handed to the stack or waits for it, and what was queued for the guest was
read or waits to be. -/
theorem Balances.reckon (h : c.Balances accepted) :
    ∃ relay pipe waiting, c.relay = some relay ∧ c.link.port = .pipe pipe ∧
      accepted = inputs relay.stack.2 ++ waiting ∧
      pipe.toStack.queue = waiting.map Record.encode ∧
      c.link.traffic.txFrames = relay.counters.framesIn + pipe.toStack.queue.length ∧
      relay.counters.corruptRecords = 0 ∧
      relay.counters.framesOut =
        c.link.traffic.rxFrames + c.link.traffic.rxRunts + pipe.toGuest.queue.length := by
  obtain ⟨s, taken, left, fates, h⟩ := h
  obtain ⟨waiting, heq, htaken, hqueue⟩ := h.waiting
  refine ⟨s.relay, s.pipe, waiting, h.attached, h.port, heq, hqueue, ?_, ?_, ?_⟩
  · rw [h.sent, h.intake.framesIn, ← h.intake.handed, hqueue, List.length_map, heq,
      List.length_append]
  · rw [h.intake.corruptRecords, List.countP_eq_zero, htaken]
    intro d hd
    obtain ⟨frame, hframe, rfl⟩ := List.mem_map.1 hd
    have hshort := h.short frame (heq ▸ List.mem_append_left _ hframe)
    rw [Record.frame?_eq_some_iff.2 ⟨hshort, rfl⟩]
    exact Bool.false_ne_true
  · rw [h.output.framesOut, h.output.delivered, List.length_append, h.read]

end

end Card
end GuestNic
