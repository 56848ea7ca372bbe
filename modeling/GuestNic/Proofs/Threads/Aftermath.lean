import GuestNic.Proofs.Threads.Shutdown

/-!
# During and after shutdown

A reception thread that waited for an acknowledgment when shutdown began reads nothing any more.
When shutdown has finished only guest threads still find something to do, and that once at most: the
delivery that was rung for and not taken.
-/

namespace GuestNic

open Mark

/-- A step of a guest thread. -/
def Mark.isGuests : Mark → Bool
  | .took .. | .missed _ | .handed .. | .acknowledged .. => true
  | _ => false

theorem Mark.rings_eq_nil {t : List Mark} (h : ∀ x ∈ t, x.isGuests = true) : rings t = [] := by
  apply List.filterMap_eq_nil_iff.2
  intro x hx
  have hguests := h x hx
  cases x with
  | rang => cases hguests
  | _ => rfl

namespace Threads

variable {σ : Type} (net : NetStack σ) {m m' : Threads σ} {t : List Mark}

/-! ## Without reading another frame -/

/-- The reception thread has been asked to stop, and will not read again. -/
structure IsLeaving (m : Threads σ) : Prop where
  cancelled : m.cancelled = true
  receiver : m.receiver = .await ∨ m.receiver = .check ∨ m.receiver = .ended

theorem IsLeaving.effect (h : IsLeaving m) {a : Actor} {marks : List Mark}
    (he : Effect m a m' marks) : IsLeaving m' ∧ .read ∉ marks := by
  obtain ⟨hc, hr⟩ := h
  cases he with
  | @receiver card point marks _ hp =>
    cases hp with
    | cancelled => exact ⟨⟨hc, .inr (.inr rfl)⟩, by simp⟩
    | released => exact ⟨⟨hc, .inr (.inl rfl)⟩, by simp⟩
    | goOn _ hc' => rw [hc] at hc'; cases hc'
    -- The other steps start from points that are not on the way out.
    | lost hm | nothing hm | ready hm | read hm | unread hm | sorted hm | dropped hm | refused hm
    | announced hm =>
      rw [hm] at hr
      simp at hr
  | rang hm =>
    rw [hm] at hr
    simp at hr
  | flag => exact ⟨⟨rfl, hr⟩, by simp⟩
  | relay | missed | took | handed | acknowledged | silence | stop | join | finish | outside =>
    exact ⟨⟨hc, hr⟩, by simp⟩

theorem IsLeaving.trace (h : IsLeaving m) (schedule : List Actor) :
    .read ∉ m.trace net schedule := by
  induction schedule generalizing m with
  | nil => exact List.not_mem_nil
  | cons a as ih =>
    rw [Threads.trace, List.mem_append, not_or]
    rcases step_cases net m a with ⟨-, hstep⟩ | heffect
    · rw [hstep]
      exact ⟨List.not_mem_nil, ih h⟩
    · obtain ⟨hnext, hread⟩ := h.effect heffect
      exact ⟨hread, ih hnext⟩

/-- A reception thread that waits for an acknowledgment when shutdown begins reads no more. -/
theorem not_read_of_await (hm : m.closer = .running) (hr : m.receiver = .await)
    (schedule : List Actor) : .read ∉ m.trace net (.closer :: schedule) := by
  have hstep : m.step net .closer = ({ m with cancelled := true, closer := .flagged }, []) := by
    simp only [step, step?, closerStep, hm, Option.getD_some]
  have hleaving : IsLeaving { m with cancelled := true, closer := .flagged } := ⟨rfl, .inl hr⟩
  rw [Threads.trace, hstep, List.nil_append]
  exact hleaving.trace net schedule

/-! ## When shutdown has finished -/

/-- Both threads have ended when shutdown has finished. -/
theorem ended_of_finished (h : Progress m) (hm : m.closer = .finished) :
    m.receiver = .ended ∧ m.relay = .ended := by
  have hstage : m.closer.stage = 5 := by rw [hm]; rfl
  constructor
  · exact h.receiver (by omega)
  · exact h.relay (by omega)

theorem isOpen_of_finished (h : Progress m) (hm : m.closer = .finished) :
    m.card.isOpen = false := by
  rw [← Bool.not_eq_true, h.isOpen, hm]
  decide

theorem finished_effect (h : Progress m) (hm : m.closer = .finished) {a : Actor}
    {marks : List Mark} (he : Effect m a m' marks) :
    m'.closer = .finished ∧ ∀ x ∈ marks, x.isGuests = true := by
  obtain ⟨hreceiver, hrelay⟩ := ended_of_finished h hm
  cases he with
  | receiver _ hp => exact absurd hreceiver hp.not_ended
  | rang hr =>
    rw [hr] at hreceiver
    cases hreceiver
  | relay _ hp => exact absurd hrelay hp.not_ended
  | missed | took | handed | acknowledged => exact ⟨hm, by simp [Mark.isGuests]⟩
  | outside => exact ⟨hm, by simp⟩
  | flag hc | silence hc | stop hc | join hc | finish hc => rw [hm] at hc; cases hc

/-- Shutdown stays finished, and only guest threads take steps that matter. -/
theorem finished_after (h : Progress m) (hm : m.closer = .finished) (schedule : List Actor) :
    (m.after net schedule).closer = .finished ∧
      ∀ x ∈ m.trace net schedule, x.isGuests = true := by
  induction schedule generalizing m with
  | nil => exact ⟨hm, fun _ hx => absurd hx List.not_mem_nil⟩
  | cons a as ih =>
    rw [after, Threads.trace]
    rcases step_cases net m a with ⟨-, hstep⟩ | heffect
    · rw [hstep]
      exact ih h hm
    · obtain ⟨hnext, hmarks⟩ := finished_effect h hm heffect
      obtain ⟨hafter, htrace⟩ := ih (h.step net a) hnext
      refine ⟨hafter, ?_⟩
      intro x hx
      rcases List.mem_append.1 hx with hx | hx
      · exact hmarks x hx
      · exact htrace x hx

/-! ## What guest threads still find -/

namespace Phase

variable {bell bell' : Doorbell} {guests guests' : Nat → GuestPoint} {s : List Mark}

/-- Everything that was acknowledged was taken before, in the same order. -/
theorem acks_prefix (h : Phase bell guests t) : acks t <+: takes t := by
  cases h with
  | quiet _ _ _ _ ht hh | rung _ _ _ _ ht hh =>
    simp only [ht, hh, List.prefix_rfl]
  | upcalling _ _ _ _ _ ht hh =>
    rw [ht, hh]
    exact List.prefix_append _ _
  | acknowledging _ _ _ _ _ ht hh =>
    rw [ht, hh]
    exact List.prefix_append _ _

/-- While no service runs, everything taken has been acknowledged. -/
theorem acks_eq_takes (h : Phase bell guests t) (hg : ∀ i, guests i = .idle) :
    acks t = takes t := by
  cases h with
  | quiet _ _ _ _ ht hh | rung _ _ _ _ ht hh => rw [ht, hh]
  | @upcalling i _ _ _ hi =>
    rw [hg i] at hi
    cases hi
  | @acknowledging i _ _ _ hi =>
    rw [hg i] at hi
    cases hi

/-- All that was rung for has been acknowledged, but for the one delivery in flight. -/
theorem rings_length_le (h : Phase bell guests t) : (rings t).length ≤ (acks t).length + 1 := by
  cases h with
  | quiet _ _ _ hr ht hh | rung _ _ _ hr ht hh => simp [hr, ht, hh]
  | upcalling _ _ _ _ hr ht hh => simp [hr, ht, hh]
  | acknowledging _ _ _ _ hr ht hh => simp [hr, ht, hh]

/-- With no new ring, what is taken is the delivery that waited. -/
theorem takes_of_rings_eq_nil (h : Phase bell guests t) (h' : Phase bell' guests' (t ++ s))
    (hs : rings s = []) :
    (takes s).map Prod.snd ++ bell'.delivery.toList = bell.delivery.toList := by
  have hbefore := h.rings_eq_takes
  have hafter := h'.rings_eq_takes
  rw [rings_append, takes_append, hs, List.append_nil, hbefore, List.map_append,
    List.append_assoc] at hafter
  exact (List.append_cancel_left hafter).symm

/-- With no new ring, at most one delivery is still acknowledged. -/
theorem acks_length_le (h : Phase bell guests t) (h' : Phase bell' guests' (t ++ s))
    (hs : rings s = []) : (acks s).length ≤ 1 := by
  have hrings := h.rings_length_le
  have htakes : (takes (t ++ s)).length ≤ (rings t).length := by
    have hall := congrArg List.length h'.rings_eq_takes
    rw [rings_append, hs, List.append_nil, List.length_append, List.length_map] at hall
    omega
  have hacks := h'.acks_prefix.length_le
  rw [acks_append, List.length_append] at hacks
  omega

/-- A service that begins while no other runs acknowledges only what it takes. -/
theorem acks_prefix_of_idle (h : Phase bell guests t) (h' : Phase bell' guests' (t ++ s))
    (hg : ∀ i, guests i = .idle) : acks s <+: takes s := by
  have hprefix := h'.acks_prefix
  rw [acks_append, takes_append, h.acks_eq_takes hg] at hprefix
  exact (List.prefix_append_right_inj _).1 hprefix

/-- What a taker finds is the delivery that waits. -/
theorem take_eq (h : Phase bell guests t) : bell.take.2 = bell.delivery := by
  cases hd : bell.delivery with
  | none =>
    unfold Doorbell.take
    split
    · exact hd
    · rfl
  | some d => exact Doorbell.take_some_iff.2 ⟨h.isPending_of_delivery hd, hd⟩

end Phase

/-- A service answers whether a delivery was waiting. -/
theorem service_answer (h : HandOver m t) :
    m.card.service.2.2 = m.card.doorbell.delivery.isSome := by
  rw [← h.phase.take_eq]
  unfold Card.service
  split
  · rename_i heq
    rw [heq]
    rfl
  · rename_i heq
    rw [heq]
    rfl

/-- A service that begins finds the delivery that waits, or finds that there is none. -/
theorem step_guest_idle (h : HandOver m t) {i : Nat} (hi : m.guests i = .idle) :
    (m.step net (.guest i)).2 = match m.card.doorbell.delivery with
      | some d => [.took i d]
      | none => [.missed i] := by
  have hstep : m.step net (.guest i) = m.guestStep i := rfl
  rw [hstep, guestStep, hi]
  rw [← h.phase.take_eq]
  dsimp only
  split
  · rename_i heq
    rw [heq]
  · rename_i heq
    rw [heq]

/-! ## The contract of shutdown -/

/-- The contract of shutdown, from every state that any schedule leads to, and under every schedule
from there on. Once the doorbell is closed the reception thread is not blocked and ends within five
of its own steps. Shutdown never deadlocks: until it has finished, one of the card's own threads can
take a step that brings its end nearer, and fifteen rounds in which each of them has a turn finish
it, guest threads or not. A reception thread that waited for an acknowledgment when shutdown began
reads no more. And when shutdown has finished, both threads have ended for good, and nothing is read
or rung for and no interrupt raised; the delivery that still waited, if any, is taken once, at most
one service still acknowledges, and a service answers whether a delivery waits; nothing is sent any
more, and another shutdown does nothing. -/
theorem shutdown_completes (link : Link) (relay : Option (Relay σ)) (layout : ReceiveLayout)
    (past : List Actor) :
    let m := (start (.ofLink link relay layout)).after net past
    (m.card.doorbell.isClosed = true →
      (m.receiver ≠ .ended → (m.step? net .receiver).isSome = true) ∧
        ∀ schedule, 5 ≤ schedule.countP Actor.isReceiver →
          (m.after net schedule).receiver = .ended) ∧
    (m.closer ≠ .finished →
      (m.driver = .closer ∨ m.driver = .relay ∨ m.driver = .receiver) ∧
        (m.step? net m.driver).isSome = true ∧ (m.step net m.driver).1.debt < m.debt) ∧
    (∀ rounds : List (List Actor), (∀ r ∈ rounds, IsRound r) → 15 ≤ rounds.length →
      (m.after net rounds.flatten).closer = .finished) ∧
    (m.closer = .running → m.receiver = .await →
      ∀ schedule, .read ∉ m.trace net (.closer :: schedule)) ∧
    (m.closer = .finished → ∀ schedule,
      let m' := m.after net schedule
      let t := m.trace net schedule
      (m'.closer = .finished ∧ m'.receiver = .ended ∧ m'.relay = .ended) ∧
        (∀ x ∈ t, x.isGuests = true) ∧
        (takes t).map Prod.snd ++ m'.card.doorbell.delivery.toList =
          m.card.doorbell.delivery.toList ∧
        (acks t).length ≤ 1 ∧ ((∀ i, m.guests i = .idle) → acks t <+: takes t) ∧
        m'.card.service.2.2 = m'.card.doorbell.delivery.isSome ∧
        (∀ i, m'.guests i = .idle →
          (m'.step net (.guest i)).2 = match m'.card.doorbell.delivery with
            | some d => [.took i d]
            | none => [.missed i]) ∧
        (∀ memory packet, m'.card.transmit memory packet = (m'.card, [], .error .closed)) ∧
        (∀ frame, m'.card.transmitFrame frame = (m'.card, .error .closed)) ∧
        m'.card.shutdown = m'.card ∧ m'.step net .closer = (m', [])) := by
  intro m
  have hp : Progress m := (progress_start link relay layout).after net past
  have hm : HandOver m _ := handOver_after net link relay layout past
  refine ⟨?_, ?_, ?_, ?_, ?_⟩
  · intro hc
    refine ⟨receiverStep_isSome hc, ?_⟩
    intro schedule hn
    have hle := receiver_after_le net hp hc schedule
    have hremaining := receiver_remaining_le m.receiver
    exact receiver_remaining_eq_zero.1 (by omega)
  · intro hf
    refine ⟨?_, driver_isSome net hp hf, driver_step net hp hf⟩
    rcases driver_cases m with ⟨hd, -⟩ | ⟨hd, -⟩ | ⟨hd, -⟩
    · exact .inl hd
    · exact .inr (.inl hd)
    · exact .inr (.inr hd)
  · intro rounds hr hn
    exact finished_of_rounds net hp hr (Nat.le_trans (debt_le m) hn)
  · intro hf hr
    exact not_read_of_await net hf hr
  · intro hf schedule m' t
    obtain ⟨hclosed, hguests⟩ := finished_after net hp hf schedule
    have hclosed : m'.closer = .finished := hclosed
    have hrings : rings t = [] := rings_eq_nil hguests
    -- The invariant of the whole schedule relates what was rung for before to what is taken after.
    have hm' : HandOver m' ((start (.ofLink link relay layout)).trace net past ++ t) := by
      have hall := handOver_after net link relay layout (past ++ schedule)
      rw [after_append, trace_append] at hall
      exact hall
    have hp' : Progress m' := hp.after net schedule
    have hopen : m'.card.isOpen = false := isOpen_of_finished hp' hclosed
    refine ⟨⟨hclosed, ended_of_finished hp' hclosed⟩, hguests, ?_, ?_, ?_, service_answer hm', ?_,
      ?_, ?_, ?_, ?_⟩
    · exact hm.phase.takes_of_rings_eq_nil hm'.phase hrings
    · exact hm.phase.acks_length_le hm'.phase hrings
    · intro hidle
      exact hm.phase.acks_prefix_of_idle hm'.phase hidle
    · intro i hi
      exact step_guest_idle net hm' hi
    · intro memory packet
      rw [Card.transmit, if_neg (by simp [hopen])]
    · intro frame
      rw [Card.transmitFrame, if_neg (by simp [hopen])]
    · rw [Card.shutdown, if_neg (by simp [hopen])]
    · simp only [step, step?, closerStep, hclosed, Option.getD_none]

end Threads
end GuestNic
