import GuestNic.Proofs.Card.Life
import Mathlib.Algebra.Ring.Nat

/-!
# The accounts of sending

However a driver sends and whatever the host makes of it, each call is entered once, under what
became of it, and the card and its link agree about it. A call that fails leaves nothing behind but
that entry.
-/

namespace GuestNic

namespace Card

variable {σ : Type} {c c' : Card σ}

/-! ## The books of sending -/

/-- The books agree with each other, with the number of calls and with the frames that were sent. -/
structure SendingBalanced (c : Card σ) (submissions : Nat) (sent : List Bytes) : Prop where
  submissions : submissions = c.counters.txPackets + c.counters.txRefused + c.counters.txTooLong
  packets : sent.length = c.counters.txPackets
  frames : c.link.traffic.txFrames = c.counters.txPackets
  errors : c.link.traffic.txErrors = c.counters.txRefused
  bytes : c.link.traffic.txBytes = (sent.map List.length).sum

variable {submissions : Nat} {sent : List Bytes}

theorem SendingBalanced.of_books (h : c.SendingBalanced submissions sent)
    (hcounters : c'.counters.sending = c.counters.sending)
    (htraffic : c'.link.traffic.sending = c.link.traffic.sending) :
    c'.SendingBalanced submissions sent := by
  simp only [CardCounters.sending, CardCounters.mk.injEq, Traffic.sending, Traffic.mk.injEq,
    true_and, and_true] at hcounters htraffic
  obtain ⟨hpackets, hrefused, htooLong⟩ := hcounters
  obtain ⟨hframes, hbytes, herrors⟩ := htraffic
  refine ⟨?_, ?_, ?_, ?_, ?_⟩
  · rw [hpackets, hrefused, htooLong, h.submissions]
  · rw [hpackets, h.packets]
  · rw [hframes, hpackets, h.frames]
  · rw [herrors, hrefused, h.errors]
  · rw [hbytes, h.bytes]

/-- A turn in which nothing is to be sent leaves these books alone. -/
theorem Takes.sending {t : Turn} {events : List CardEvent} (h : c.Takes t c' events)
    (ho : t.outgoing? = none) : c'.counters.sending = c.counters.sending ∧
      c'.link.traffic.sending = c.link.traffic.sending := by
  cases h with
  | submission hsome =>
    rw [ho] at hsome
    cases hsome
  | quiet _ hquiet =>
    rw [hquiet.counters, hquiet.traffic]
    exact ⟨rfl, rfl⟩
  | spurious | serviced => exact ⟨rfl, rfl⟩
  | reception hreceipt => cases hreceipt <;> exact ⟨rfl, rfl⟩
  | shutdown =>
    unfold Card.shutdown
    split <;> exact ⟨rfl, rfl⟩

/-- A call is entered once. -/
theorem SendingBalanced.submits (h : c.SendingBalanced submissions sent) {answer : HostAnswer}
    {o : Outgoing} {events : List CardEvent} {r : Except TransmitFault Unit}
    (hs : Submits answer c o c' events r) :
    c'.SendingBalanced (submissions + if c.isOpen then 1 else 0) (sent ++ o.taken r) := by
  have hcalls := h.submissions
  cases hs with
  | closed hopen =>
    simp only [Outgoing.taken, List.append_nil, hopen, Bool.false_eq_true, ↓reduceIte, Nat.add_zero]
    exact h
  | tooLong hopen hf =>
    simp only [Outgoing.taken, List.append_nil, if_pos hopen]
    refine ⟨?_, h.packets, h.frames, h.errors, h.bytes⟩
    dsimp only [countTooLong]
    omega
  | @sent frame hopen hf =>
    have htaken : o.taken (.ok ()) = [frame] := by rw [Outgoing.taken, hf]; rfl
    rw [if_pos hopen, htaken]
    refine ⟨?_, ?_, congrArg (· + 1) h.frames, h.errors, ?_⟩
    · dsimp only [countSent]
      omega
    · rw [List.length_append, h.packets, List.length_singleton]
      rfl
    · rw [List.map_append, List.sum_append, List.map_singleton, List.sum_singleton, ← h.bytes]
      rfl
  | refused hopen hf =>
    simp only [Outgoing.taken, List.append_nil, if_pos hopen]
    refine ⟨?_, h.packets, h.frames, congrArg (· + 1) h.errors, h.bytes⟩
    dsimp only [countRefused]
    omega

/-! ## A single call -/

/-- What a call to send does, to whatever host, and what it leaves alone. -/
structure SendsAtomically (answer : HostAnswer) (c : Card σ) (o : Outgoing) : Prop where
  spares : c.SparesReceiving (c.submit answer o).1
  memory : ∀ m : GuestMemory, (c.submit answer o).2.1.foldl CardEvent.applyTo m = m
  closed : c.isOpen = false → c.submit answer o = (c, [], .error .closed)
  /-- What is too long is counted once, and the host is not asked. -/
  tooLong : ∀ e, c.isOpen = true → o.frame? = .error e →
    c.submit answer o = (c.countTooLong, o.events, .error (.tooLong e.len e.max))
  /-- All that the host is ever asked is to take a frame that is not too long. -/
  asked : ∀ answer' : HostAnswer, (∀ frame, frame.length ≤ Frame.maxSize →
    answer' frame c.link.port = answer frame c.link.port) → c.submit answer' o = c.submit answer o
  /-- A call succeeds when the host takes all that it is handed. -/
  whole : ∀ frame, c.isOpen = true → o.frame? = .ok frame →
    (answer frame c.link.port).2 = .ok (c.link.port.payload frame).length →
    c.submit answer o =
      (c.countSent (answer frame c.link.port).1 frame.length, o.events, .ok ())
  /-- To take only a part is a fault. -/
  part : ∀ frame taken, c.isOpen = true → o.frame? = .ok frame →
    (answer frame c.link.port).2 = .ok taken → taken ≠ (c.link.port.payload frame).length →
    c.submit answer o = (c.countRefused (answer frame c.link.port).1, o.events,
      .error (.host (.partialWrite c.link.port.writer taken (c.link.port.payload frame).length)))
  refused : ∀ frame fault, c.isOpen = true → o.frame? = .ok frame →
    (answer frame c.link.port).2 = .error fault →
    c.submit answer o =
      (c.countRefused (answer frame c.link.port).1, o.events, .error (.host fault))

theorem submit_sendsAtomically (answer : HostAnswer) (c : Card σ) (o : Outgoing) :
    c.SendsAtomically answer o where
  spares := (submit_submits answer c o).spares.1
  memory := (submit_submits answer c o).spares.2
  closed ho := submit_of_closed ho answer o
  tooLong e ho hf := submit_of_tooLong answer ho hf
  asked answer' h :=
    submit_congr c o fun frame hf => h frame (Outgoing.length_le_of_frame? hf)
  whole frame ho hf ha := submit_of_whole answer ho hf ha
  part frame taken ho hf ha hne := by
    refine submit_of_fault answer ho hf ?_
    rw [ha]
    exact Port.whole_of_ne hne
  refused frame fault ho hf ha := by
    refine submit_of_fault answer ho hf ?_
    rw [ha]
    rfl

/-! ## Whole lives -/

theorem handed_length_le (c : Card σ) (t : Turn) {frame : Bytes} (h : frame ∈ c.handed t) :
    frame.length ≤ Frame.maxSize := by
  unfold handed at h
  split at h
  · obtain ⟨call, -, hframe⟩ := Option.bind_eq_some_iff.1 (Option.mem_toList.1 h)
    cases hf : call.2.frame? with
    | error e =>
      rw [hf] at hframe
      cases hframe
    | ok sent =>
      rw [hf] at hframe
      cases hframe
      exact Outgoing.length_le_of_frame? hf
  · cases h

end Card

namespace Life

variable {σ : Type} (net : NetStack σ)

/-- One turn keeps the books in order. -/
theorem turn_sendingBalanced {l : Life σ} {t : Turn}
    (ht : l.card.Takes t (l.turn net t).card (l.card.turn net t).2)
    (h : l.card.SendingBalanced l.submissions l.sent) :
    (l.turn net t).card.SendingBalanced (l.turn net t).submissions (l.turn net t).sent := by
  -- Only a turn in which something is to be sent has an entry in these books.
  cases ho : t.outgoing? with
  | none =>
    obtain ⟨hcounters, htraffic⟩ := ht.sending ho
    have hcalls : (l.turn net t).submissions = l.submissions := by simp [turn, ho]
    have hsent : (l.turn net t).sent = l.sent := by simp [turn, Card.sent, ho]
    rw [hcalls, hsent]
    exact h.of_books hcounters htraffic
  | some call =>
    obtain ⟨answer, o⟩ := call
    obtain ⟨hcard, -⟩ := ht.eq_submit ho
    have hcalls : (l.turn net t).submissions =
        l.submissions + if l.card.isOpen then 1 else 0 := by simp [turn, ho]
    have hsent : (l.turn net t).sent = l.sent ++ o.taken (l.card.submit answer o).2.2 := by
      simp [turn, Card.sent, ho]
    rw [hcalls, hsent, hcard]
    exact h.submits (Card.submit_submits answer l.card o)

theorem after_sendingBalanced (port : Port) (relay : Option (Relay σ)) (layout : ReceiveLayout)
    (turns : List Turn) :
    let l := (fresh port relay layout).after net turns
    l.card.SendingBalanced l.submissions l.sent :=
  (takes_induction (motive := fun l => l.card.SendingBalanced l.submissions l.sent) net
    (fun _ _ ht h => turn_sendingBalanced net ht h) turns (isSound_fresh port relay layout)
    ⟨rfl, rfl, rfl, rfl, rfl⟩).2

/-- No frame that is handed to a host is too long. -/
theorem after_handed (turns : List Turn) {l : Life σ}
    (h : ∀ frame ∈ l.handed, frame.length ≤ Frame.maxSize) :
    ∀ frame ∈ (l.after net turns).handed, frame.length ≤ Frame.maxSize := by
  induction turns generalizing l with
  | nil => exact h
  | cons t turns ih =>
    refine @ih (l.turn net t) ?_
    intro frame hframe
    rcases List.mem_append.1 hframe with hframe | hframe
    · exact h frame hframe
    · exact l.card.handed_length_le t hframe

end Life

namespace Card

variable {σ : Type}

/-- In every life every call is entered just once, in agreeing books, and no call does more than
that and what it is called for. -/
theorem transmissions_accounted (net : NetStack σ) (port : Port) (relay : Option (Relay σ))
    (layout : ReceiveLayout) (turns : List Turn) :
    let l := (Life.fresh port relay layout).after net turns
    l.card.SendingBalanced l.submissions l.sent ∧
      (∀ frame ∈ l.handed, frame.length ≤ Frame.maxSize) ∧
      (∀ answer o, l.card.SendsAtomically answer o) ∧
      (∀ memory packet, l.card.transmit memory packet =
        l.card.submit Port.offer (.packet memory packet)) ∧
      (∀ frame, ((l.card.transmitFrame frame).1, [], (l.card.transmitFrame frame).2) =
        l.card.submit Port.offer (.frame frame)) ∧
      ∀ later answer o, let c := ((l.turn net .shutdown).after net later).card
        c.submit answer o = (c, [], .error .closed) := by
  intro l
  have hsound : l.IsSound := (Life.isSound_fresh port relay layout).after net turns
  refine ⟨Life.after_sendingBalanced net port relay layout turns, ?_, ?_, ?_, ?_, ?_⟩
  · refine Life.after_handed net turns ?_
    intro frame hframe
    cases hframe
  · intro answer o
    exact submit_sendsAtomically answer l.card o
  · intro memory packet
    exact (submit_packet l.card memory packet).symm
  · intro frame
    exact (submit_frame l.card frame).symm
  · intro later answer o
    have hdown : (l.turn net .shutdown).IsSound := hsound.after net [.shutdown]
    have hclosed := hdown.after_isOpen net (shutdown_isOpen l.card) later
    exact submit_of_closed hclosed answer o

end Card
end GuestNic
