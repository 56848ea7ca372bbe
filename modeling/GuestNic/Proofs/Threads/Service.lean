import GuestNic.Proofs.Guest.Entry
import GuestNic.Proofs.Threads.Provenance

/-!
# A service of the interrupt from end to end

A delivery that waits at the doorbell carries the very frame that the reception thread read from the
link. The guest thread that takes it is alone with it until it has acknowledged: whatever the other
threads do meanwhile, they enter no handler and leave guest memory alone, and the ring stays
outstanding.
-/

namespace GuestNic

namespace Card

variable {σ : Type}

theorem send_buffer (c : Card σ) (frame : Bytes) : (c.send frame).1.buffer = c.buffer := by
  unfold send
  split
  · rfl
  · split <;> rfl

/-- No call touches the buffer into which reception reads. -/
theorem perform_buffer (c : Card σ) (call : Call) : (c.perform call).1.buffer = c.buffer := by
  cases call with
  | attach type routine =>
    simp only [perform, attach]
    split <;> rfl
  | detach type =>
    simp only [perform, detach]
    split <;> rfl
  | reset => rfl
  | transmit memory packet =>
    simp only [perform, transmit]
    split
    · split
      · rfl
      · exact send_buffer _ _
    · rfl
  | transmitFrame frame =>
    simp only [perform, transmitFrame]
    split
    · exact send_buffer _ _
    · rfl
  | arrive peer frame =>
    simp only [perform, arrive]
    split <;> rfl

theorem onRelay_buffer (act : Relay σ → StackPipe → Relay σ × StackPipe) (c : Card σ) :
    (c.onRelay act).buffer = c.buffer := by
  unfold onRelay
  split <;> rfl

end Card

namespace Threads

open Mark

variable {σ : Type} (net : NetStack σ) {m m' : Threads σ} {a : Actor} {marks t : List Mark}

/-! ## The frame that was read -/

/-- In the course of the schedule the reception thread read a frame, and that is what the link gave
it. -/
def Fetched (s : Threads σ) (past : List Actor) (origin : Origin) (frame : FrameBuffer) : Prop :=
  ∃ before between, past = before ++ .receiver :: between ∧
    (s.after net before).receiver = .read ∧
    ((s.after net before).card.link.read (s.after net before).card.buffer).2 =
      (frame, .ok (some origin))

theorem Fetched.append {s : Threads σ} {past : List Actor} {origin : Origin} {frame : FrameBuffer}
    (h : Fetched net s past origin frame) (future : List Actor) :
    Fetched net s (past ++ future) origin frame := by
  obtain ⟨before, between, rfl, hm, hread⟩ := h
  refine ⟨before, between ++ future, ?_, hm, hread⟩
  rw [List.append_assoc, List.cons_append]

/-- Only the reception thread moves itself and touches its buffer. -/
theorem step_of_ne_receiver (m : Threads σ) (ha : a ≠ .receiver) :
    (m.step net a).1.receiver = m.receiver ∧ (m.step net a).1.card.buffer = m.card.buffer := by
  cases a with
  | receiver => exact absurd rfl ha
  | relay =>
    simp only [step, step?, relayStep]
    cases m.relay with
    | check =>
      dsimp only
      split
      · exact ⟨rfl, Card.onRelay_buffer _ m.card⟩
      · exact ⟨rfl, rfl⟩
    | input | serve => exact ⟨rfl, Card.onRelay_buffer _ m.card⟩
    | ended => exact ⟨rfl, rfl⟩
  | guest i =>
    simp only [step, step?, guestStep]
    cases m.guests i with
    | idle => rcases m.card.doorbell.take with ⟨bell, none | delivery⟩ <;> exact ⟨rfl, rfl⟩
    | upcall | acknowledge => exact ⟨rfl, rfl⟩
  | closer =>
    simp only [step, step?, closerStep]
    cases m.closer with
    | running | flagged | silenced | finished => exact ⟨rfl, rfl⟩
    | stopping | joining =>
      dsimp only
      split <;> exact ⟨rfl, rfl⟩
  | outside call => exact ⟨rfl, Card.perform_buffer m.card call⟩

/-- The reception thread comes to sort a frame by reading it. -/
theorem read_of_sort {origin : Origin}
    (h : (m.step net .receiver).1.receiver = .sort origin) :
    m.receiver = .read ∧ (m.card.link.read m.card.buffer).2 =
      ((m.step net .receiver).1.card.buffer, .ok (some origin)) := by
  have hm : m.receiver = .read := by
    rcases step_cases net m .receiver with ⟨hstuck, hstep⟩ | heffect
    · -- At the sorting itself the thread is never stuck.
      have hsort : m.receiver = .sort origin := by rwa [hstep] at h
      rcases hprepare : m.card.prepare origin with ⟨card, none | delivery⟩ <;>
        simp [step?, receiverStep, hsort, hprepare] at hstuck
    · generalize (m.step net .receiver).1 = m' at h heffect
      generalize (m.step net .receiver).2 = marks at heffect
      cases heffect with
      | rang => cases h
      | receiver ha hp =>
        cases hp with
        | read hread => exact hread
        | cancelled | goOn | lost | nothing | ready | unread | sorted | dropped | refused
        | announced | released => cases h
  refine ⟨hm, ?_⟩
  simp only [step, step?, receiverStep, hm] at h ⊢
  rcases hread : m.card.link.read m.card.buffer with ⟨link, buffer, e | _ | found⟩ <;>
    simp only [hread, Option.getD_some] at h ⊢
  · cases h
  · cases h
  · cases h
    rfl

/-- The frame that the reception thread is about to sort is the one that it read. -/
theorem fetched_of_sort {s : Threads σ} (hs : s.receiver = .check) {past : List Actor}
    {origin : Origin} (h : (s.after net past).receiver = .sort origin) :
    Fetched net s past origin (s.after net past).card.buffer := by
  induction past using List.reverseRecOn with
  | nil =>
    have h : s.receiver = .sort origin := h
    rw [hs] at h
    cases h
  | append_singleton as a ih =>
    rw [after_snoc] at h ⊢
    by_cases ha : a = .receiver
    · subst ha
      obtain ⟨hm, hread⟩ := read_of_sort net h
      exact ⟨as, [], rfl, hm, hread⟩
    · obtain ⟨hreceiver, hbuffer⟩ := step_of_ne_receiver net (s.after net as) ha
      rw [hbuffer]
      exact (ih (hreceiver ▸ h)).append net [a]

/-- What waits at the doorbell for a handler is a frame that the reception thread read from the
link, with its own header and type field. -/
theorem fetched_of_waiting {s : Threads σ} (hs : s.receiver = .check) (hfree : ∀ d, ¬ s.Carries d)
    {past : List Actor} {routine : Routine} {type : UInt16} {header : Bytes} {frame : FrameBuffer}
    (h : (s.after net past).card.doorbell.delivery = some (.handler routine type header frame)) :
    Fetched net s past .device frame ∧ frame.header? = some header ∧
      frame.typeField? = some type := by
  obtain ⟨before, between, origin, rfl, hsort, hprepare⟩ := sorted_of_carries net hfree (.waiting h)
  obtain ⟨rfl, rfl, hheader, htype, -⟩ := Card.prepare_eq_handler hprepare
  exact ⟨(fetched_of_sort net hs hsort).append net _, hheader, htype⟩

/-! ## The layout -/

theorem step_layout (m : Threads σ) (a : Actor) :
    (m.step net a).1.card.layout = m.card.layout := by
  cases a with
  | receiver | relay | guest | closer => exact (step_fixtures net m (by simp)).2
  | outside call => exact (Card.perform_spares call).layout

theorem after_layout (m : Threads σ) (as : List Actor) :
    (m.after net as).card.layout = m.card.layout := by
  induction as generalizing m with
  | nil => rfl
  | cons a as ih => exact (ih _).trans (step_layout net m a)

/-! ## Steps that the guest does not notice -/

/-- Unless something is handed over, no handler is entered and guest memory stays as it is. -/
theorem events_of_hands_eq_nil (layout : ReceiveLayout) (h : hands t = []) {e : CardEvent}
    (he : e ∈ t.flatMap (Mark.events layout)) :
    e.IsNoWrite ∧ ∀ routine registers, e ≠ .enter routine registers := by
  obtain ⟨mark, hmark, he⟩ := List.mem_flatMap.1 he
  have hnone : mark.handed? = none := List.filterMap_eq_nil_iff.1 h mark hmark
  cases mark with
  | handed => cases hnone
  | interrupted | alerted =>
    rw [List.mem_singleton.1 he]
    exact ⟨nofun, nofun⟩
  | read | rang | took | missed | acknowledged | silenced => cases he

/-- What the guest notices of a row of steps in which one delivery is handed over is that alone. -/
theorem isOnly_of_hands {layout : ReceiveLayout} {before after : List Mark} {i : Nat} {d : Delivery}
    (hbefore : hands before = []) (hafter : hands after = []) {memory : GuestMemory}
    {routine : Routine} {frame : Bytes}
    (h : HandlerEntry.IsOnly layout memory routine frame (Card.upcall layout d)) :
    HandlerEntry.IsOnly layout memory routine frame
      ((before ++ .handed i d :: after).flatMap (Mark.events layout)) := by
  obtain ⟨e, he, hroutine, hfinds⟩ := h
  refine ⟨e, ?_, hroutine, hfinds⟩
  have hquiet := fun e he => events_of_hands_eq_nil (e := e) layout hbefore he
  have hquiet' := fun e he => events_of_hands_eq_nil (e := e) layout hafter he
  rw [List.flatMap_append, List.flatMap_cons, HandlerEntry.among_append,
    HandlerEntry.among_append, HandlerEntry.among_eq_nil fun e he => (hquiet e he).2,
    CardEvent.foldl_applyTo_of_isNoWrite fun e he => (hquiet e he).1,
    HandlerEntry.among_eq_nil fun e he => (hquiet' e he).2]
  exact (List.append_nil _).trans he

/-! ## The thread that has taken the delivery -/

/-- The steps of a thread are its own. -/
theorem step_guests_of_ne (m : Threads σ) {i : Nat} (ha : a ≠ .guest i) :
    (m.step net a).1.guests i = m.guests i := by
  rcases step_cases net m a with ⟨-, hstep⟩ | heffect
  · rw [hstep]
  · generalize (m.step net a).1 = m' at heffect
    generalize (m.step net a).2 = marks at heffect
    cases heffect with
    | took | handed | acknowledged =>
      refine Function.update_of_ne ?_ _ _
      rintro rfl
      exact ha rfl
    | receiver | rang | relay | missed | flag | silence | stop | join | finish | outside => rfl

/-- A thread in the middle of a service has the one outstanding ring to itself. -/
theorem HandOver.isPending_of_busy (h : HandOver m t) {i : Nat} (hi : m.guests i ≠ .idle) :
    m.card.doorbell.isPending = true ∧ ∀ j, j ≠ i → m.guests j = .idle := by
  cases h.phase with
  | quiet _ _ hg | rung _ _ hg => exact absurd (hg i) hi
  | @upcalling k _ hp _ _ ho | @acknowledging k _ hp _ _ ho =>
    have hik : i = k := by
      by_contra hne
      exact hi (ho i hne)
    exact ⟨hp, hik ▸ ho⟩

/-- Meanwhile the other threads hand nothing over. -/
theorem HandOver.hands_of_ne (h : HandOver m t) {i : Nat} (hi : m.guests i ≠ .idle)
    (ha : a ≠ .guest i) : hands (m.step net a).2 = [] := by
  rcases step_cases net m a with ⟨-, hstep⟩ | heffect
  · rw [hstep]
    rfl
  · rcases heffect.hands_cases with hnil | ⟨j, d, -, hj, hj'⟩
    · exact hnil
    · -- The thread that would do so is the one in the middle of its service, and that stands still.
      obtain rfl : j = i := by
        by_contra hne
        rw [(h.isPending_of_busy hi).2 j hne] at hj
        cases hj
      rw [step_guests_of_ne net m ha, hj] at hj'
      cases hj'

/-- However long the others go on, the thread stays where it is in its service, and they hand
nothing over. -/
theorem HandOver.after_of_ne (h : HandOver m t) {i : Nat} (hi : m.guests i ≠ .idle)
    {as : List Actor} (has : ∀ a ∈ as, a ≠ .guest i) :
    (m.after net as).guests i = m.guests i ∧ hands (m.trace net as) = [] := by
  induction as generalizing m t with
  | nil => exact ⟨rfl, rfl⟩
  | cons a as ih =>
    have ha := has a List.mem_cons_self
    have hsame := step_guests_of_ne net m ha
    have hstill : (m.step net a).1.guests i ≠ .idle := hsame ▸ hi
    obtain ⟨hguests, hnone⟩ :=
      ih (h.step net a) hstill fun b hb => has b (List.mem_cons_of_mem _ hb)
    refine ⟨hguests.trans hsame, ?_⟩
    rw [trace, hands_append, h.hands_of_ne net hi ha, hnone]
    rfl

theorem HandOver.after (h : HandOver m t) (as : List Actor) :
    HandOver (m.after net as) (t ++ m.trace net as) := by
  induction as generalizing m t with
  | nil =>
    rw [trace_nil, List.append_nil]
    exact h
  | cons a as ih =>
    have hrest := ih (h.step net a)
    rwa [List.append_assoc] at hrest

/-! ## The three steps of a service -/

theorem step_guest_waiting (h : HandOver m t) {d : Delivery}
    (hd : m.card.doorbell.delivery = some d) (i : Nat) :
    (m.step net (.guest i)).1.guests i = .upcall d ∧ (m.step net (.guest i)).2 = [.took i d] := by
  have hidle : m.guests i = .idle := by
    cases h.phase with
    | rung _ _ hg => exact hg i
    | quiet _ hd' | upcalling _ hd' | acknowledging _ hd' =>
      rw [hd] at hd'
      cases hd'
  have htake := Doorbell.take_some_iff.2 ⟨h.phase.isPending_of_delivery hd, hd⟩
  rcases heq : m.card.doorbell.take with ⟨bell, taken⟩
  rw [heq] at htake
  cases htake
  simp only [step, step?, guestStep, hidle, heq, Option.getD_some, Function.update_self, and_self]

theorem step_guest_upcall {i : Nat} {d : Delivery} (hi : m.guests i = .upcall d) :
    (m.step net (.guest i)).1.guests i = .acknowledge d ∧
      (m.step net (.guest i)).2 = [.handed i d] := by
  simp only [step, step?, guestStep, hi, Option.getD_some, Function.update_self, and_self]

theorem step_guest_acknowledge (h : HandOver m t) {i : Nat} {d : Delivery}
    (hi : m.guests i = .acknowledge d) :
    (m.step net (.guest i)).1.card.doorbell.isPending = false ∧
      hands (m.step net (.guest i)).2 = [] := by
  obtain ⟨hack, -, -⟩ := h.phase.acknowledged hi
  simp only [step, step?, guestStep, hi, Option.getD_some, hack]
  exact ⟨trivial, rfl⟩

/-- A service by thread `i`: it takes the delivery, hands it to the guest and acknowledges. Before
it hands it over the other threads do what is in `waiting`, and before it acknowledges, what is in
`running`. -/
def serviceBy (i : Nat) (waiting running : List Actor) : List Actor :=
  .guest i :: (waiting ++ .guest i :: (running ++ [.guest i]))

/-- Through a whole service the delivery is handed over once, and the ring is outstanding until the
thread acknowledges. -/
theorem HandOver.service (h : HandOver m t) {d : Delivery}
    (hd : m.card.doorbell.delivery = some d) {i : Nat} {waiting running : List Actor}
    (hwaiting : ∀ a ∈ waiting, a ≠ .guest i) (hrunning : ∀ a ∈ running, a ≠ .guest i) :
    (∃ before after, m.trace net (serviceBy i waiting running) = before ++ .handed i d :: after ∧
      hands before = [] ∧ hands after = []) ∧
      (m.after net (.guest i :: waiting)).card.doorbell.isPending = true ∧
      (m.after net (.guest i :: (waiting ++ .guest i :: running))).card.doorbell.isPending = true ∧
      (m.after net (serviceBy i waiting running)).card.doorbell.isPending = false := by
  -- The thread takes the delivery, and stands there while the others go on.
  obtain ⟨htook, hmarks⟩ := step_guest_waiting net h hd i
  have h₁ := h.step net (.guest i)
  obtain ⟨hstill₁, hquiet₁⟩ := h₁.after_of_ne net (by rw [htook]; nofun) hwaiting
  have h₂ := h₁.after net waiting
  have hupcall := hstill₁.trans htook
  let m₂ := (m.step net (.guest i)).1.after net waiting
  -- It hands the delivery over, and stands there again.
  obtain ⟨hhanded, hmarks'⟩ := step_guest_upcall net hupcall
  have h₃ := h₂.step net (.guest i)
  obtain ⟨hstill₂, hquiet₂⟩ := h₃.after_of_ne net (by rw [hhanded]; nofun) hrunning
  have h₄ := h₃.after net running
  let m₄ := (m₂.step net (.guest i)).1.after net running
  have hacknowledge := hstill₂.trans hhanded
  obtain ⟨hdone, hlast⟩ := step_guest_acknowledge net h₄ hacknowledge
  refine ⟨⟨.took i d :: (m.step net (.guest i)).1.trace net waiting,
    (m₂.step net (.guest i)).1.trace net running ++ (m₄.step net (.guest i)).2, ?_, hquiet₁, ?_⟩,
    ?_, ?_, ?_⟩
  · rw [serviceBy, trace, hmarks, trace_append, trace, hmarks', trace_append, trace, trace_nil,
      List.append_nil]
    rfl
  · rw [hands_append, hquiet₂]
    exact hlast
  · exact (h₂.isPending_of_busy (by rw [hupcall]; nofun)).1
  · rw [Threads.after, after_append, Threads.after]
    exact (h₄.isPending_of_busy (by rw [hacknowledge]; nofun)).1
  · rw [serviceBy, Threads.after, after_append, Threads.after, after_append]
    exact hdone

/-! ## What the handler finds -/

/-- A delivery that waits for a handler under any schedule is a frame of 14 to 1516 bytes that the
reception thread read from the link. If the places for frame and header lie apart, then the handler
that a service enters finds the whole frame and its header in guest memory, which is otherwise
untouched, with registers that lead it there. It is entered once, by whichever thread performs the
service and whatever the others do between its steps, and the ring stays outstanding from the
taking to the acknowledgment that ends the service. -/
theorem handler_finds_frame (link : Link) (relay : Option (Relay σ)) (layout : ReceiveLayout)
    (hl : layout.IsDisjoint) (past : List Actor) (i : Invocation)
    (h : ((start (.ofLink link relay layout)).after net past).card.outstanding = [i]) :
    let s := start (.ofLink link relay layout)
    let m := s.after net past
    (∃ frame : FrameBuffer, frame.contents = i.frame ∧ 14 ≤ i.frame.length ∧
        i.frame.length ≤ 1516 ∧ Fetched net s past .device frame) ∧
      (∀ memory, HandlerEntry.IsOnly layout memory i.routine i.frame m.card.service.2.1) ∧
      ∀ k waiting running, (∀ a ∈ waiting, a ≠ .guest k) → (∀ a ∈ running, a ≠ .guest k) →
        (∀ memory, HandlerEntry.IsOnly layout memory i.routine i.frame
          ((m.trace net (serviceBy k waiting running)).flatMap (Mark.events layout))) ∧
        m.card.doorbell.isPending = true ∧
        (m.after net (.guest k :: waiting)).card.doorbell.isPending = true ∧
        (m.after net (.guest k :: (waiting ++ .guest k :: running))).card.doorbell.isPending =
          true ∧
        (m.after net (serviceBy k waiting running)).card.doorbell.isPending = false := by
  intro s m
  have hm : HandOver m _ := handOver_after net link relay layout past
  obtain ⟨delivery, hd, hi⟩ : ∃ d, m.card.doorbell.delivery = some d ∧ d.invocation? = some i := by
    have hsome : m.card.doorbell.delivery.bind Delivery.invocation? = some i :=
      Option.toList_eq_singleton_iff.1 h
    exact Option.bind_eq_some_iff.1 hsome
  cases delivery with
  | tunnel frame peer => cases hi
  | handler routine type header frame =>
    cases hi
    obtain ⟨hfetched, hheader, htype⟩ :=
      fetched_of_waiting net rfl (not_carries_start link relay layout) hd
    have hentry : ∀ memory, HandlerEntry.IsOnly layout memory routine frame.contents
        (Card.upcall layout (.handler routine type header frame)) :=
      HandlerEntry.isOnly_upcall hl hheader htype
    have hpending := hm.phase.isPending_of_delivery hd
    refine ⟨⟨frame, rfl, (Frame.header?_eq_some_iff.1 hheader).1, ?_, hfetched⟩, ?_, ?_⟩
    · exact frame.contents_length.trans_le frame.len_le
    · have htake := Doorbell.take_some_iff.2 ⟨hpending, hd⟩
      have hlayout : m.card.layout = layout := after_layout net s past
      intro memory
      rcases heq : m.card.doorbell.take with ⟨bell, taken⟩
      rw [heq] at htake
      cases htake
      simp only [Card.service, heq, hlayout]
      exact hentry memory
    · intro k waiting running hwaiting hrunning
      obtain ⟨⟨before, after, htrace, hbefore, hafter⟩, hpendings⟩ :=
        hm.service net hd hwaiting hrunning
      refine ⟨?_, hpending, hpendings⟩
      intro memory
      rw [htrace]
      exact isOnly_of_hands hbefore hafter (hentry memory)

/-- A frame of fifteen bytes for a handler of its type, with a packet buffer that goes around the
end of the address space: another thread takes a ring in vain between the steps of the service. -/
theorem handler_finds_frame_around_the_end :
    let layout : ReceiveLayout := ⟨0xffffff00, 0x2000, 0x3000⟩
    let i : Invocation := ⟨⟨0x4000⟩, 0x800, List.replicate 12 1 ++ [8, 0, 42]⟩
    let m := (start (Card.onQueues .sheepNet 1 1 layout : Card EchoStack)).after EchoStack.net
      [.outside (.attach 0x800 ⟨0x4000⟩), .outside (.arrive (.v4 ⟨0, 0, 0, 0⟩ 0) i.frame),
        .receiver, .receiver, .receiver, .receiver, .receiver]
    layout.IsDisjoint ∧ m.card.outstanding = [i] ∧
      ∀ memory, HandlerEntry.IsOnly layout memory i.routine i.frame
        ((m.trace EchoStack.net (serviceBy 0 [.guest 1] [])).flatMap (Mark.events layout)) := by
  intro layout i m
  have hl : layout.IsDisjoint := by decide
  have h : m.card.outstanding = [i] := by decide +kernel
  have hservice := handler_finds_frame EchoStack.net _ none layout hl _ i h
  exact ⟨hl, h, (hservice.2.2 0 [.guest 1] [] (by simp) nofun).1⟩

end Threads
end GuestNic
