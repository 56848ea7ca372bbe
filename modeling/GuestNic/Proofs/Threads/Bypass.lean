import GuestNic.Card.Open
import GuestNic.Proofs.Card.Bypass
import GuestNic.Proofs.Threads.Refit
import GuestNic.Proofs.Threads.Step

/-!
# Threads of a card on a tunnel

Whatever the threads of a card on a tunnel have in hand came from a peer, so none of them ever looks
at the handler table. Under every schedule the calls for the table could as well be left out.
-/

namespace GuestNic

/-- Whether the reception thread has neither a frame nor a delivery in its hands. -/
def ReceiverPoint.isFree : ReceiverPoint → Bool
  | .sort _ | .ring _ => false
  | _ => true

namespace Threads

variable {σ : Type} (net : NetStack σ) {m : Threads σ}

/-! ## The invariant -/

/-- On a tunnel every frame that is under way came from a peer. -/
structure IsTunnelling (m : Threads σ) : Prop where
  isTunnel : ∃ t, m.card.link.port = .tunnel t
  sorting : ∀ origin, m.receiver = .sort origin → ∃ peer, origin = .peer peer
  ringing : ∀ d, m.receiver = .ring d → d.tunnelFrame?.isSome
  delivery : ∀ d, m.card.doorbell.delivery = some d → d.tunnelFrame?.isSome
  guests : ∀ i d, m.guests i = .upcall d → d.tunnelFrame?.isSome
  rxDropped : m.card.counters.rxDropped = 0

theorem isTunnelling_start (t : Tunnel) (layout : ReceiveLayout) :
    (start (.ofLink (.ofPort (.tunnel t)) none layout : Card σ)).IsTunnelling where
  isTunnel := ⟨t, rfl⟩
  sorting := fun _ h => by cases h
  ringing := fun _ h => by cases h
  delivery := fun _ h => by cases h
  guests := fun _ _ h => by cases h
  rxDropped := rfl

/-- The reception thread may go on to any point at which what it has in its hands came from a peer. -/
theorem IsTunnelling.advance (h : m.IsTunnelling) {card : Card σ} {point : ReceiverPoint}
    (hport : ∃ t, card.link.port = .tunnel t)
    (hbell : ∀ d, card.doorbell.delivery = some d → d.tunnelFrame?.isSome)
    (hdropped : card.counters.rxDropped = 0)
    (hsort : ∀ origin, point = .sort origin → ∃ peer, origin = .peer peer)
    (hring : ∀ d, point = .ring d → d.tunnelFrame?.isSome) :
    ({ m with card, receiver := point } : Threads σ).IsTunnelling :=
  ⟨hport, hsort, hring, hbell, h.guests, hdropped⟩

/-- So may it to any point at which it has nothing in its hands. -/
theorem IsTunnelling.advance_free (h : m.IsTunnelling) {card : Card σ} {point : ReceiverPoint}
    (hport : ∃ t, card.link.port = .tunnel t)
    (hbell : ∀ d, card.doorbell.delivery = some d → d.tunnelFrame?.isSome)
    (hdropped : card.counters.rxDropped = 0) (hfree : point.isFree = true) :
    ({ m with card, receiver := point } : Threads σ).IsTunnelling := by
  refine h.advance hport hbell hdropped ?_ ?_
  · rintro origin rfl
    cases hfree
  · rintro d rfl
    cases hfree

/-- The others leave the reception thread and the tunnel alone and put nothing new into anyone's
hands. -/
theorem IsTunnelling.of_eq {m' : Threads σ} (h : m.IsTunnelling)
    (hport : ∃ t, m'.card.link.port = .tunnel t) (hreceiver : m'.receiver = m.receiver)
    (hbell : ∀ d, m'.card.doorbell.delivery = some d → m.card.doorbell.delivery = some d)
    (hguests : ∀ i d, m'.guests i = .upcall d →
      m.guests i = .upcall d ∨ m.card.doorbell.delivery = some d)
    (hdropped : m'.card.counters.rxDropped = m.card.counters.rxDropped) : m'.IsTunnelling where
  isTunnel := hport
  sorting := by rw [hreceiver]; exact h.sorting
  ringing := by rw [hreceiver]; exact h.ringing
  delivery d hd := h.delivery d (hbell d hd)
  guests i d hd := (hguests i d hd).elim (h.guests i d) (h.delivery d)
  rxDropped := hdropped.trans h.rxDropped

/-! ## Steps -/

theorem receiverStep_isTunnelling (h : m.IsTunnelling) {m' : Threads σ} {marks : List Mark}
    (hstep : m.receiverStep = some (m', marks)) : m'.IsTunnelling := by
  obtain ⟨t, ht⟩ := h.isTunnel
  cases hp : m.receiver with
  | check =>
    simp only [receiverStep, hp] at hstep
    cases hstep
    refine h.advance_free h.isTunnel h.delivery h.rxDropped ?_
    cases m.cancelled <;> rfl
  | wait =>
    simp only [receiverStep, hp, Link.wait_tunnel ht] at hstep
    cases hstep
    refine h.advance_free h.isTunnel h.delivery h.rxDropped ?_
    cases t.inbox.isEmpty <;> rfl
  | read =>
    have horigin := Card.origin_of_tunnel ht m.card.buffer
    have hport : ∃ t, (m.card.link.read m.card.buffer).1.port = .tunnel t := by
      rw [Link.read_eq_readFrom, ht]
      exact ⟨_, rfl⟩
    rcases hread : m.card.link.read m.card.buffer with ⟨link, buffer, fault | _ | origin⟩
    all_goals
      simp only [receiverStep, hp, hread] at hstep
      rw [hread] at hport horigin
      cases hstep
    · exact h.advance_free hport h.delivery h.rxDropped rfl
    · exact h.advance_free hport h.delivery h.rxDropped rfl
    · refine h.advance hport h.delivery h.rxDropped ?_ ?_
      · rintro _ ⟨⟩
        exact horigin origin rfl
      · intro _ hring
        cases hring
  | sort origin =>
    obtain ⟨peer, rfl⟩ := h.sorting origin hp
    simp only [receiverStep, hp, Card.prepare] at hstep
    cases hstep
    refine h.advance h.isTunnel h.delivery h.rxDropped ?_ ?_
    · intro _ hsort
      cases hsort
    · rintro _ ⟨⟩
      rfl
  | ring delivery =>
    rcases hring : m.card.doorbell.ring delivery with closed | doorbell
    all_goals
      simp only [receiverStep, hp, hring] at hstep
      cases hstep
    · exact h.advance_free h.isTunnel h.delivery h.rxDropped rfl
    · refine h.advance_free h.isTunnel ?_ h.rxDropped rfl
      unfold Doorbell.ring at hring
      split at hring
      · cases hring
      · cases hring
        rintro _ ⟨⟩
        exact h.ringing delivery hp
  | announce =>
    simp only [receiverStep, hp] at hstep
    cases hstep
    exact h.advance_free h.isTunnel h.delivery h.rxDropped rfl
  | await =>
    simp only [receiverStep, hp] at hstep
    obtain ⟨_, -, heq⟩ := Option.map_eq_some_iff.1 hstep
    cases heq
    exact h.advance_free h.isTunnel h.delivery h.rxDropped rfl
  | ended =>
    simp only [receiverStep, hp] at hstep
    cases hstep

theorem onRelay_of_tunnel {c : Card σ} {t : Tunnel} (h : c.link.port = .tunnel t)
    (act : Relay σ → StackPipe → Relay σ × StackPipe) : c.onRelay act = c := by
  unfold Card.onRelay
  rw [h]

theorem relayStep_isTunnelling (h : m.IsTunnelling) {m' : Threads σ} {marks : List Mark}
    (hstep : m.relayStep net = some (m', marks)) : m'.IsTunnelling := by
  obtain ⟨t, ht⟩ := h.isTunnel
  have hsame : ∀ (relay : RelayPoint), ({ m with relay } : Threads σ).IsTunnelling :=
    fun _ => h.of_eq h.isTunnel rfl (fun _ => id) (fun _ _ => .inl) rfl
  simp only [relayStep, releaseStack, onRelay_of_tunnel ht] at hstep
  cases hp : m.relay with
  | check =>
    rw [hp] at hstep
    dsimp only at hstep
    split at hstep
    all_goals
      cases hstep
      exact hsame _
  | input | serve =>
    rw [hp] at hstep
    cases hstep
    exact hsame _
  | ended =>
    rw [hp] at hstep
    cases hstep

/-- Only a guest thread that has just taken a delivery has a new one to hand over. -/
theorem upcall_of_update {guests : Nat → GuestPoint} {i j : Nat} {point : GuestPoint}
    {d : Delivery} (h : Function.update guests i point j = .upcall d) :
    point = .upcall d ∨ guests j = .upcall d := by
  by_cases hj : j = i
  · rw [hj, Function.update_self] at h
    exact .inl h
  · rw [Function.update_of_ne hj] at h
    exact .inr h

theorem guestStep_isTunnelling (h : m.IsTunnelling) (i : Nat) :
    (m.guestStep i).1.IsTunnelling := by
  cases hp : m.guests i with
  | idle =>
    rcases htake : m.card.doorbell.take with ⟨doorbell, _ | delivery⟩
    all_goals simp only [guestStep, hp, htake]
    · exact h.of_eq h.isTunnel rfl (fun _ => id) (fun _ _ => .inl) rfl
    · have hsome : m.card.doorbell.take.2 = some delivery := by rw [htake]
      obtain ⟨hpending, hdelivery⟩ := Doorbell.take_some_iff.1 hsome
      have hbell : doorbell.delivery = none := by
        rw [Doorbell.take, if_pos hpending] at htake
        rw [← (Prod.mk.inj htake).1]
      refine h.of_eq h.isTunnel rfl ?_ ?_ rfl
      · intro d hd
        rw [hbell] at hd
        cases hd
      · intro j d hd
        rcases upcall_of_update hd with hpoint | hguest
        · cases hpoint
          exact .inr hdelivery
        · exact .inl hguest
  | upcall delivery =>
    simp only [guestStep, hp]
    refine h.of_eq h.isTunnel rfl (fun _ => id) (fun j d hd => ?_) rfl
    rcases upcall_of_update hd with hpoint | hguest
    · cases hpoint
    · exact .inl hguest
  | acknowledge delivery =>
    simp only [guestStep, hp]
    refine h.of_eq h.isTunnel rfl ?_ ?_ rfl
    · intro d hd
      simp only [Doorbell.acknowledge] at hd
      split at hd
      · cases hd
      · exact hd
    · intro j d hd
      rcases upcall_of_update hd with hpoint | hguest
      · cases hpoint
      · exact .inl hguest

theorem closerStep_isTunnelling (h : m.IsTunnelling) {m' : Threads σ} {marks : List Mark}
    (hstep : m.closerStep = some (m', marks)) : m'.IsTunnelling := by
  obtain ⟨t, ht⟩ := h.isTunnel
  cases hp : m.closer with
  | running | flagged | silenced =>
    simp only [closerStep, hp] at hstep
    cases hstep
    exact h.of_eq h.isTunnel rfl (fun _ => id) (fun _ _ => .inl) rfl
  | stopping =>
    simp only [closerStep, hp] at hstep
    split at hstep
    · cases hstep
      exact h.of_eq h.isTunnel rfl (fun _ => id) (fun _ _ => .inl) rfl
    · cases hstep
  | joining =>
    simp only [closerStep, hp] at hstep
    split at hstep
    · cases hstep
      refine h.of_eq ?_ rfl (fun _ => id) (fun _ _ => .inl) rfl
      simp only [release, Card.releasedPort, ht, Port.close]
      cases m.card.relay <;> exact ⟨_, rfl⟩
    · cases hstep
  | finished =>
    simp only [closerStep, hp] at hstep
    cases hstep

theorem step_isTunnelling (h : m.IsTunnelling) (a : Actor) : (m.step net a).1.IsTunnelling := by
  cases a with
  | receiver =>
    simp only [step, step?]
    cases hstep : m.receiverStep with
    | none => exact h
    | some result => exact receiverStep_isTunnelling h hstep
  | relay =>
    simp only [step, step?]
    cases hstep : m.relayStep net with
    | none => exact h
    | some result => exact relayStep_isTunnelling net h hstep
  | guest i => exact guestStep_isTunnelling h i
  | closer =>
    simp only [step, step?]
    cases hstep : m.closerStep with
    | none => exact h
    | some result => exact closerStep_isTunnelling h hstep
  | outside call =>
    obtain ⟨t, ht⟩ := h.isTunnel
    obtain ⟨t', ht', -, hdropped⟩ := Card.perform_tunnel ht call
    have hbell := (Card.perform_spares (c := m.card) call).doorbell
    refine h.of_eq ⟨t', ht'⟩ rfl (fun d hd => ?_) (fun _ _ => .inl) hdropped
    rwa [← hbell]

theorem after_isTunnelling (h : m.IsTunnelling) (as : List Actor) :
    (m.after net as).IsTunnelling := by
  induction as generalizing m with
  | nil => exact h
  | cons a as ih => exact ih (step_isTunnelling net h a)

/-! ## What is seen -/

/-- Whoever hands something over in a step had taken it before. -/
theorem upcall_of_handed {a : Actor} {i : Nat} {d : Delivery}
    (h : Mark.handed i d ∈ (m.step net a).2) : m.guests i = .upcall d := by
  rcases step_cases net m a with ⟨-, hsame⟩ | heffect
  · rw [hsame] at h
    cases h
  · generalize (m.step net a).1 = m' at heffect
    generalize (m.step net a).2 = marks at h heffect
    cases heffect with
    | receiver ha hp => cases hp <;> simp at h
    | handed ha hi =>
      cases List.mem_singleton.1 h
      exact hi
    | rang | relay | missed | took | acknowledged => simp at h
    | flag | silence | stop | join | finish | outside => simp at h

/-- No step enters a handler of the guest. -/
theorem isEntry_of_step (h : m.IsTunnelling) {a : Actor} {mark : Mark}
    (hmark : mark ∈ (m.step net a).2) {layout : ReceiveLayout} {e : CardEvent}
    (he : e ∈ mark.events layout) : e.isEntry = false := by
  cases mark with
  | handed i d =>
    have htunnel := h.guests i d (upcall_of_handed net hmark)
    cases d with
    | handler routine type header frame => cases htunnel
    | tunnel frame peer =>
      rw [List.mem_singleton.1 he]
      rfl
  | interrupted | alerted =>
    rw [List.mem_singleton.1 he]
    rfl
  | read | rang | took | missed | acknowledged | silenced => cases he

/-- No schedule enters a handler of the guest. -/
theorem isEntry_of_trace (h : m.IsTunnelling) (as : List Actor) {mark : Mark}
    (hmark : mark ∈ m.trace net as) {layout : ReceiveLayout} {e : CardEvent}
    (he : e ∈ mark.events layout) : e.isEntry = false := by
  induction as generalizing m with
  | nil => cases hmark
  | cons a as ih =>
    rcases List.mem_append.1 hmark with hnow | hlater
    · exact isEntry_of_step net h hnow he
    · exact ih (step_isTunnelling net h a) hlater

/-! ## Nothing depends on the table -/

variable (table : HandlerTable)

/-- The threads on a card with another handler table. -/
def withHandlers (m : Threads σ) : Threads σ := { m with card := m.card.withHandlers table }

theorem retabling_fits : Fits net net (Card.retabling table) :=
  .of_relay (Card.retabling_sendsAlike table) fun _ => rfl

theorem step_of_isTable {a : Actor} (ha : a.isTable = true) :
    ∃ table, m.step net a = (m.withHandlers table, []) := by
  cases a with
  | outside call =>
    obtain ⟨table, hperform⟩ := Card.perform_of_isTable (c := m.card) ha
    refine ⟨table, ?_⟩
    simp only [step, step?, hperform]
    rfl
  | receiver | relay | guest | closer => cases ha

/-- Whoever else takes a step takes the same one, and leaves the table as it is. -/
theorem step_withHandlers (h : m.IsTunnelling) {a : Actor} (ha : a.isTable = false) :
    (m.withHandlers table).step net a =
      ((m.step net a).1.withHandlers table, (m.step net a).2) :=
  step_refit (retabling_fits net table) (fun origin hp => .inr (h.sorting origin hp))
    fun htable => by cases ha.symm.trans htable

/-! ## Schedules -/

/-- The turns of a schedule that are not meant for the table. -/
def apartFromTable (as : List Actor) : List Actor := as.filter fun a => !a.isTable

/-- Beside threads on a tunnel, those with another table do without the calls for the table. -/
theorem course_follows :
    (course net).Follows (course net) Actor.isTable fun m m' =>
      m.IsTunnelling ∧ m' = m.withHandlers table where
  hidden {m m' a} hrel ha := by
    obtain ⟨h, rfl⟩ := hrel
    obtain ⟨table', hstep⟩ := step_of_isTable (m := m) net ha
    refine ⟨⟨step_isTunnelling net h a, ?_⟩, congrArg Prod.snd hstep⟩
    simp only [course, hstep]
    rfl
  shared {m m' a} hrel ha := by
    obtain ⟨h, rfl⟩ := hrel
    have hstep := step_withHandlers net table h ha
    exact ⟨⟨step_isTunnelling net h a, congrArg Prod.fst hstep⟩, (congrArg Prod.snd hstep).symm⟩

/-- What happens in a schedule happens in the rest of it as well. -/
theorem trace_apartFromTable (h : m.IsTunnelling) (as : List Actor) :
    (m.withHandlers table).trace net (apartFromTable as) = m.trace net as :=
  ((course_follows net table).run ⟨h, rfl⟩ as).2.symm

theorem trace_eq_of_apartFromTable (h : m.IsTunnelling) {as bs : List Actor}
    (heq : apartFromTable as = apartFromTable bs) : m.trace net as = m.trace net bs := by
  rw [← trace_apartFromTable net m.card.handlers h, heq, trace_apartFromTable net _ h]

end Threads

/-! ## The tunnel -/

namespace Card

variable {σ : Type} (net : NetStack σ)

/-- A fresh card on a tunnel. -/
def onTunnel (port : UInt16) (address : Ipv4) (isReachable : Bool) (layout : ReceiveLayout) :
    Card σ :=
  (start (.ofPort (.tunnel (.ofAddress port address isReachable))) layout).result

/-- What a history has read stands at the front of what has arrived. -/
theorem peerReads_prefix {c : Card σ} (h : c.IsTunnelling) (hempty : c.inbox = [])
    (moves : List Move) : c.peerReads net moves <+: c.peerArrivals net moves := by
  have hinbox := (after_tunnelBalanced net h moves).inbox
  rw [hempty, List.nil_append] at hinbox
  exact ⟨_, hinbox.symm⟩

/-- On a tunnel the handler table has no say in what the guest receives. In any history no handler
is entered and nothing is dropped, and what was handed over and what is outstanding are the
datagrams that were read and are no runts, cut to the longest frame and each with its own sender.
Two histories that differ in the calls for the table alone show the same, whichever turns reception
takes, also if everything settles after each move; so do two schedules of the threads. Histories in
which the same arrives differ at most in how far reception has come. -/
theorem tunnel_ignores_handlers (port : UInt16) (address : Ipv4) (isReachable : Bool)
    (layout : ReceiveLayout) :
    let fresh : Card σ := onTunnel port address isReachable layout
    (∀ moves,
      let c := fresh.after net moves
      (∀ e ∈ fresh.events net moves, e.isEntry = false) ∧
        c.counters.rxDropped = 0 ∧
        fresh.peerArrivals net moves = fresh.peerReads net moves ++ c.inbox ∧
        fresh.tunnelFrames net moves ++ c.outstandingFrame =
          (fresh.peerReads net moves).filterMap Tunnel.frame? ∧
        fresh.interrupts net moves =
          (fresh.tunnelFrames net moves).length + c.outstandingFrame.length) ∧
    (∀ ms ns, apartFromTable ms = apartFromTable ns →
      fresh.events net ms = fresh.events net ns ∧
        fresh.peerArrivals net ms = fresh.peerArrivals net ns ∧
        fresh.peerReads net ms = fresh.peerReads net ns ∧
        (∃ table, fresh.after net ns = (fresh.after net ms).withHandlers table) ∧
        fresh.events net (fresh.settled net ms) = fresh.events net (fresh.settled net ns) ∧
        fresh.peerReads net (fresh.settled net ms) = fresh.peerReads net (fresh.settled net ns)) ∧
    (∀ ms ns, fresh.peerArrivals net ms = fresh.peerArrivals net ns →
      fresh.peerReads net ms <+: fresh.peerReads net ns ∨
        fresh.peerReads net ns <+: fresh.peerReads net ms) ∧
    (∀ as, ((Threads.start fresh).after net as).card.counters.rxDropped = 0 ∧
      ∀ mark ∈ (Threads.start fresh).trace net as, ∀ e ∈ mark.events layout, e.isEntry = false) ∧
    ∀ as bs, Threads.apartFromTable as = Threads.apartFromTable bs →
      (Threads.start fresh).trace net as = (Threads.start fresh).trace net bs := by
  intro fresh
  have hfresh : fresh.IsTunnelling := isTunnelling_ofLink _ none layout
  have hthreads : (Threads.start fresh).IsTunnelling := Threads.isTunnelling_start _ layout
  have hidle : fresh.IsIdle := .inr rfl
  refine ⟨fun moves => ?_, fun ms ns heq => ?_, fun ms ns heq => ?_, fun as => ?_,
    fun as bs heq => ?_⟩
  · have hbalance := after_tunnelBalanced net hfresh moves
    have hframes : fresh.tunnelFrames net moves ++ (fresh.after net moves).outstandingFrame =
        (fresh.peerReads net moves).filterMap Tunnel.frame? := hbalance.frames.symm
    refine ⟨hbalance.noEntry, hbalance.isTunnelling.rxDropped, hbalance.inbox, hframes, ?_⟩
    rw [← List.length_append, hframes]
    exact hbalance.interrupts
  · exact ⟨log_eq_of_apartFromTable net hfresh (isBlind_events net) heq,
      log_eq_of_apartFromTable net hfresh isBlind_peerArrived heq,
      log_eq_of_apartFromTable net hfresh isBlind_peerRead heq,
      after_eq_of_apartFromTable net hfresh heq,
      log_settled_eq_of_apartFromTable net hfresh hidle (isBlind_events net) heq,
      log_settled_eq_of_apartFromTable net hfresh hidle isBlind_peerRead heq⟩
  · have hms := peerReads_prefix net hfresh rfl ms
    have hns := peerReads_prefix net hfresh rfl ns
    rw [heq] at hms
    exact List.prefix_or_prefix_of_prefix hms hns
  · exact ⟨(Threads.after_isTunnelling net hthreads as).rxDropped,
      fun mark hmark e he => Threads.isEntry_of_trace net hthreads as hmark he⟩
  · exact Threads.trace_eq_of_apartFromTable net hthreads heq

end Card
end GuestNic
