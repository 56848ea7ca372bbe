import GuestNic.Proofs.Threads.HandOver

/-!
# Shutdown ends under every schedule

Shutdown asks the reception thread to stop, closes the doorbell, asks the relay's thread to stop,
and waits for both. `Progress` says what each stage of it has achieved. From the moment the doorbell
is closed the reception thread is never blocked and comes nearer to its end with every step; `debt`
counts the steps that are still owed, and some thread can always pay one.
-/

namespace GuestNic

open Mark

/-- How many stages of shutdown have passed. -/
def CloserPoint.stage : CloserPoint → Nat
  | .running => 0
  | .flagged => 1
  | .silenced => 2
  | .stopping => 3
  | .joining => 4
  | .finished => 5

/-- How many steps at most the reception thread takes to its end once the doorbell is closed. -/
def ReceiverPoint.remaining : ReceiverPoint → Nat
  | .wait => 5
  | .read => 4
  | .sort _ => 3
  | .announce => 3
  | .ring _ => 2
  | .await => 2
  | .check => 1
  | .ended => 0

/-- How many steps the relay's thread takes to its end once it has been asked to stop. -/
def RelayPoint.remaining : RelayPoint → Nat
  | .input => 3
  | .serve => 2
  | .check => 1
  | .ended => 0

def Actor.isReceiver : Actor → Bool
  | .receiver => true
  | _ => false

namespace Threads

variable {σ : Type} (net : NetStack σ) {m m' : Threads σ}

/-! ## What the stages achieve -/

/-- What shutdown has achieved at its stage. -/
structure Progress (m : Threads σ) : Prop where
  cancelled : m.cancelled = true ↔ 1 ≤ m.closer.stage
  closed : m.card.doorbell.isClosed = true ↔ 2 ≤ m.closer.stage
  relayCancelled : m.relayCancelled = true ↔ 3 ≤ m.closer.stage
  relay : 4 ≤ m.closer.stage → m.relay = .ended
  receiver : 5 ≤ m.closer.stage → m.receiver = .ended
  isOpen : m.card.isOpen = true ↔ m.closer.stage < 5

theorem progress_start (link : Link) (relay : Option (Relay σ)) (layout : ReceiveLayout) :
    Progress (start (.ofLink link relay layout)) := by
  constructor <;> simp [start, Card.ofLink, Doorbell.idle, CloserPoint.stage]

namespace Progress

/-- A step of a thread that is not shutting down keeps what has been achieved, if it leaves alone
what has been achieved. -/
theorem of_eq (h : Progress m) (hcloser : m'.closer = m.closer)
    (hcancelled : m'.cancelled = m.cancelled)
    (hclosed : m'.card.doorbell.isClosed = m.card.doorbell.isClosed)
    (hrelayCancelled : m'.relayCancelled = m.relayCancelled)
    (hisOpen : m'.card.isOpen = m.card.isOpen) (hrelay : m.relay = .ended → m'.relay = .ended)
    (hreceiver : m.receiver = .ended → m'.receiver = .ended) : Progress m' where
  cancelled := by rw [hcancelled, hcloser]; exact h.cancelled
  closed := by rw [hclosed, hcloser]; exact h.closed
  relayCancelled := by rw [hrelayCancelled, hcloser]; exact h.relayCancelled
  relay := by rw [hcloser]; exact fun hs => hrelay (h.relay hs)
  receiver := by rw [hcloser]; exact fun hs => hreceiver (h.receiver hs)
  isOpen := by rw [hisOpen, hcloser]; exact h.isOpen

/-- A closed doorbell has been preceded by the request to stop. -/
theorem cancelled_of_closed (h : Progress m) (hc : m.card.doorbell.isClosed = true) :
    m.cancelled = true := by
  have hstage := h.closed.1 hc
  exact h.cancelled.2 (by omega)

end Progress

theorem Advance.not_ended {point : ReceiverPoint} {marks : List Mark} (h : Advance m point marks) :
    m.receiver ≠ .ended := by
  cases h with
  | cancelled hm | goOn hm | lost hm | nothing hm | ready hm | read hm | unread hm | sorted hm
  | dropped hm | refused hm | announced hm | released hm =>
    rw [hm]
    simp

theorem RelayAdvance.not_ended {point : RelayPoint} (h : RelayAdvance m point) :
    m.relay ≠ .ended := by
  cases h with
  | cancelled hm | goOn hm | input hm | serve hm =>
    rw [hm]
    simp

/-- Every step keeps what shutdown has achieved. -/
theorem Progress.effect (h : Progress m) {a : Actor} {marks : List Mark}
    (he : Effect m a m' marks) : Progress m' := by
  cases he with
  | receiver ha hp =>
    exact h.of_eq rfl rfl (by rw [ha.doorbell]) rfl ha.isOpen id fun hm => absurd hm hp.not_ended
  | rang hm => exact h.of_eq rfl rfl rfl rfl rfl id fun hm' => by rw [hm] at hm'; cases hm'
  | relay ha hp =>
    exact h.of_eq rfl rfl (by rw [ha.doorbell]) rfl ha.isOpen (fun hm => absurd hm hp.not_ended) id
  | missed ha | handed ha | outside ha =>
    exact h.of_eq rfl rfl (by rw [ha.doorbell]) rfl ha.isOpen id id
  | took => exact h.of_eq rfl rfl rfl rfl rfl id id
  | acknowledged => exact h.of_eq rfl rfl (Doorbell.acknowledge_isClosed _) rfl rfl id id
  -- A stage of shutdown itself: what its step does is what the next stage has achieved.
  | flag hm | silence hm | stop hm | join hm | finish hm =>
    obtain ⟨h₁, h₂, h₃, h₄, h₅, h₆⟩ := h
    rw [hm] at h₁ h₂ h₃ h₄ h₅ h₆
    constructor <;> simp_all [CloserPoint.stage, Doorbell.close, release]

theorem Progress.step (h : Progress m) (a : Actor) : Progress (m.step net a).1 := by
  rcases step_cases net m a with ⟨-, hstep⟩ | heffect
  · rw [hstep]
    exact h
  · exact h.effect heffect

theorem Progress.after (h : Progress m) (schedule : List Actor) :
    Progress (m.after net schedule) := by
  induction schedule generalizing m with
  | nil => exact h
  | cons a as ih => exact ih (h.step net a)

/-! ## The reception thread on its way out -/

/-- On a closed doorbell the reception thread is never blocked. -/
theorem receiverStep_isSome (hc : m.card.doorbell.isClosed = true) (hm : m.receiver ≠ .ended) :
    m.receiverStep.isSome = true := by
  have hawaited : m.card.doorbell.awaited.isSome = true := by
    rw [← Option.ne_none_iff_isSome, ne_eq, Doorbell.awaited_eq_none_iff, hc]
    simp
  unfold receiverStep
  split
  · rfl
  · split <;> rfl
  · split <;> rfl
  · split <;> rfl
  · split <;> rfl
  · rfl
  · simpa using hawaited
  · rename_i hended
    exact absurd hended hm

theorem Advance.remaining_lt {point : ReceiverPoint} {marks : List Mark}
    (h : Advance m point marks) (hc : m.cancelled = true) :
    point.remaining < m.receiver.remaining := by
  cases h with
  | goOn _ hc' => rw [hc] at hc'; cases hc'
  | cancelled hm | lost hm | nothing hm | ready hm | read hm | unread hm | sorted hm | dropped hm
  | refused hm | announced hm | released hm =>
    rw [hm]
    simp [ReceiverPoint.remaining]

theorem RelayAdvance.remaining_lt {point : RelayPoint} (h : RelayAdvance m point)
    (hc : m.relayCancelled = true) : point.remaining < m.relay.remaining := by
  cases h with
  | goOn _ hc' => rw [hc] at hc'; cases hc'
  | cancelled hm | input hm | serve hm =>
    rw [hm]
    simp [RelayPoint.remaining]

/-- On a closed doorbell every step of the reception thread brings it nearer to its end. -/
theorem receiver_remaining_lt (h : Progress m) (hc : m.card.doorbell.isClosed = true)
    {marks : List Mark} (he : Effect m .receiver m' marks) :
    m'.receiver.remaining < m.receiver.remaining := by
  cases he with
  | receiver _ hp => exact hp.remaining_lt (h.cancelled_of_closed hc)
  | rang _ hc' => rw [hc] at hc'; cases hc'

/-- No other thread moves the reception thread. -/
theorem receiver_eq_of_effect {a : Actor} {marks : List Mark} (he : Effect m a m' marks)
    (ha : a.isReceiver = false) : m'.receiver = m.receiver := by
  cases he with
  | receiver | rang => cases ha
  | _ => rfl

theorem isClosed_step (h : Progress m) (hc : m.card.doorbell.isClosed = true) (a : Actor) :
    (m.step net a).1.card.doorbell.isClosed = true := by
  have hstage := h.closed.1 hc
  refine (h.step net a).closed.2 ?_
  rcases step_cases net m a with ⟨-, hstep⟩ | heffect
  · rw [hstep]
    exact hstage
  · generalize (m.step net a).1 = m' at heffect ⊢
    generalize (m.step net a).2 = marks at heffect
    cases heffect with
    | flag hm | silence hm | stop hm | join hm | finish hm =>
      rw [hm] at hstage
      simp_all [CloserPoint.stage]
    | _ => exact hstage

/-- A step of any thread leaves no more of the reception thread than there was, and a step of its
own leaves less. -/
theorem receiver_step_le (h : Progress m) (hc : m.card.doorbell.isClosed = true) (a : Actor) :
    (m.step net a).1.receiver.remaining ≤
      m.receiver.remaining - if a.isReceiver then 1 else 0 := by
  rcases step_cases net m a with ⟨hnone, hstep⟩ | heffect
  · rw [hstep]
    cases a with
    | receiver =>
      -- The reception thread takes no step only when it has none left.
      have hended : m.receiver = .ended := by
        by_contra hm
        have hsome := receiverStep_isSome hc hm
        rw [step?] at hnone
        rw [hnone] at hsome
        cases hsome
      rw [hended]
      exact Nat.zero_le _
    | relay | guest | closer | outside => exact Nat.le_refl _
  · cases a with
    | receiver => exact Nat.le_sub_one_of_lt (receiver_remaining_lt h hc heffect)
    | relay | guest | closer | outside =>
      exact Nat.le_of_eq (congrArg _ (receiver_eq_of_effect heffect rfl))

/-- Once the doorbell is closed, the steps of the reception thread use up what remains of it. -/
theorem receiver_after_le (h : Progress m) (hc : m.card.doorbell.isClosed = true)
    (schedule : List Actor) :
    (m.after net schedule).receiver.remaining ≤
      m.receiver.remaining - schedule.countP Actor.isReceiver := by
  induction schedule generalizing m with
  | nil => exact Nat.le_refl _
  | cons a as ih =>
    have hstep := receiver_step_le net h hc a
    have hrest := ih (h.step net a) (isClosed_step net h hc a)
    rw [after, List.countP_cons]
    omega

/-! ## What shutdown still owes -/

def relayDebt (m : Threads σ) : Nat := if m.relayCancelled then m.relay.remaining else 4

def receiverDebt (m : Threads σ) : Nat :=
  if m.card.doorbell.isClosed then m.receiver.remaining else 6

/-- The steps that are owed until shutdown has finished. -/
def debt (m : Threads σ) : Nat := (5 - m.closer.stage) + m.relayDebt + m.receiverDebt

/-- The thread whose step pays off debt: the one that shuts down, unless it waits for another. -/
def driver (m : Threads σ) : Actor :=
  match m.closer with
  | .stopping => if m.relay = .ended then .closer else .relay
  | .joining => if m.receiver = .ended then .closer else .receiver
  | _ => .closer

theorem driver_cases (m : Threads σ) :
    (m.driver = .closer ∧ (m.closer = .stopping → m.relay = .ended) ∧
      (m.closer = .joining → m.receiver = .ended)) ∨
    (m.driver = .relay ∧ m.closer = .stopping ∧ m.relay ≠ .ended) ∨
    (m.driver = .receiver ∧ m.closer = .joining ∧ m.receiver ≠ .ended) := by
  unfold driver
  split
  · rename_i hm
    split
    · rename_i hr
      exact .inl ⟨rfl, fun _ => hr, fun hj => (by rw [hm] at hj; cases hj)⟩
    · rename_i hr
      exact .inr (.inl ⟨rfl, hm, hr⟩)
  · rename_i hm
    split
    · rename_i hr
      exact .inl ⟨rfl, fun hs => (by rw [hm] at hs; cases hs), fun _ => hr⟩
    · rename_i hr
      exact .inr (.inr ⟨rfl, hm, hr⟩)
  · rename_i hs hj
    exact .inl ⟨rfl, fun h => absurd h hs, fun h => absurd h hj⟩

theorem receiver_remaining_le (point : ReceiverPoint) : point.remaining ≤ 5 := by
  cases point <;> simp [ReceiverPoint.remaining]

theorem receiver_remaining_eq_zero {point : ReceiverPoint} :
    point.remaining = 0 ↔ point = .ended := by
  cases point <;> simp [ReceiverPoint.remaining]

theorem relay_remaining_le (point : RelayPoint) : point.remaining ≤ 3 := by
  cases point <;> simp [RelayPoint.remaining]

theorem debt_le (m : Threads σ) : m.debt ≤ 15 := by
  have hrelay : m.relayDebt ≤ 4 := by
    have := relay_remaining_le m.relay
    unfold relayDebt
    split <;> omega
  have hreceiver : m.receiverDebt ≤ 6 := by
    have := receiver_remaining_le m.receiver
    unfold receiverDebt
    split <;> omega
  unfold debt
  omega

theorem debt_pos (hm : m.closer ≠ .finished) : 0 < m.debt := by
  have hstage : m.closer.stage < 5 := by
    cases hc : m.closer <;> simp_all [CloserPoint.stage]
  unfold debt
  omega

theorem relay_remaining_le_debt (m : Threads σ) : m.relay.remaining ≤ m.relayDebt := by
  have := relay_remaining_le m.relay
  unfold relayDebt
  split <;> omega

theorem receiver_remaining_le_debt (m : Threads σ) : m.receiver.remaining ≤ m.receiverDebt := by
  have := receiver_remaining_le m.receiver
  unfold receiverDebt
  split <;> omega

/-- When shutdown has finished nothing is owed. -/
theorem debt_of_finished (h : Progress m) (hm : m.closer = .finished) : m.debt = 0 := by
  have hstage : m.closer.stage = 5 := by rw [hm]; rfl
  have hcancelled : m.relayCancelled = true := h.relayCancelled.2 (by omega)
  have hclosed : m.card.doorbell.isClosed = true := h.closed.2 (by omega)
  have hrelay : m.relay = .ended := h.relay (by omega)
  have hreceiver : m.receiver = .ended := h.receiver (by omega)
  rw [debt, relayDebt, receiverDebt, if_pos hcancelled, if_pos hclosed, hrelay, hreceiver, hstage]
  rfl

/-- A step of the thread that shuts down pays for itself. -/
theorem debt_closer_lt {marks : List Mark} (he : Effect m .closer m' marks) : m'.debt < m.debt := by
  have hrelay := relay_remaining_le_debt m
  have hreceiver := receiver_remaining_le_debt m
  cases he with
  | flag hm =>
    show 5 - 1 + m.relayDebt + m.receiverDebt < m.debt
    simp only [debt, hm, CloserPoint.stage]
    omega
  | silence hm =>
    show 5 - 2 + m.relayDebt + m.receiver.remaining < m.debt
    simp only [debt, hm, CloserPoint.stage]
    omega
  | stop hm =>
    show 5 - 3 + m.relay.remaining + m.receiverDebt < m.debt
    simp only [debt, hm, CloserPoint.stage]
    omega
  | join hm =>
    show 5 - 4 + m.relayDebt + m.receiverDebt < m.debt
    simp only [debt, hm, CloserPoint.stage]
    omega
  | finish hm =>
    show 5 - 5 + m.relayDebt + m.receiverDebt < m.debt
    simp only [debt, hm, CloserPoint.stage]
    omega

theorem receiverDebt_congr (hr : m'.receiver = m.receiver)
    (hc : m'.card.doorbell.isClosed = m.card.doorbell.isClosed) :
    m'.receiverDebt = m.receiverDebt := by
  rw [receiverDebt, receiverDebt, hr, hc]

theorem debt_congr (hcloser : m'.closer = m.closer) (hrelay : m'.relayDebt = m.relayDebt)
    (hreceiver : m'.receiverDebt = m.receiverDebt) : m'.debt = m.debt := by
  rw [debt, debt, hcloser, hrelay, hreceiver]

/-- A step of the relay's thread costs nothing, and pays for itself once it has been asked to
stop. -/
theorem debt_relay {marks : List Mark} (he : Effect m .relay m' marks) :
    m'.debt ≤ m.debt ∧ (m.relayCancelled = true → m'.debt < m.debt) := by
  cases he with
  | @relay card point ha hp =>
    have hreceiver : receiverDebt { m with card, relay := point } = m.receiverDebt :=
      receiverDebt_congr rfl (by rw [ha.doorbell])
    unfold debt
    rw [hreceiver]
    -- Before it is asked to stop, what the thread may still do is covered by a fixed sum.
    cases hc : m.relayCancelled with
    | false => simp [relayDebt, hc]
    | true =>
      have hlt := hp.remaining_lt hc
      simp only [relayDebt, hc, ↓reduceIte]
      constructor
      · omega
      · intro _
        omega

/-- A step of the reception thread costs nothing, and pays for itself once the doorbell is
closed. -/
theorem debt_receiver (h : Progress m) {marks : List Mark} (he : Effect m .receiver m' marks) :
    m'.debt ≤ m.debt ∧ (m.card.doorbell.isClosed = true → m'.debt < m.debt) := by
  have hrest : m'.closer = m.closer ∧ m'.relayDebt = m.relayDebt ∧
      m'.card.doorbell.isClosed = m.card.doorbell.isClosed := by
    cases he with
    | receiver ha => exact ⟨rfl, rfl, by rw [ha.doorbell]⟩
    | rang => exact ⟨rfl, rfl, rfl⟩
  obtain ⟨hcloser, hrelay, hclosed⟩ := hrest
  unfold debt receiverDebt
  rw [hcloser, hrelay, hclosed]
  cases hc : m.card.doorbell.isClosed with
  | false => simp
  | true =>
    have hlt := receiver_remaining_lt h hc he
    simp only [↓reduceIte]
    constructor
    · omega
    · intro _
      omega

theorem isClosed_guest {i : Nat} {marks : List Mark} (he : Effect m (.guest i) m' marks) :
    m'.card.doorbell.isClosed = m.card.doorbell.isClosed := by
  cases he with
  | missed ha | handed ha => rw [ha.doorbell]
  | took => rfl
  | acknowledged => exact Doorbell.acknowledge_isClosed _

/-- No step adds to the debt. -/
theorem debt_effect_le (h : Progress m) {a : Actor} {marks : List Mark}
    (he : Effect m a m' marks) : m'.debt ≤ m.debt := by
  cases a with
  | receiver => exact (debt_receiver h he).1
  | relay => exact (debt_relay he).1
  | closer => exact Nat.le_of_lt (debt_closer_lt he)
  | guest i =>
    have hclosed := isClosed_guest he
    cases he with
    | missed | took | handed | acknowledged =>
      exact Nat.le_of_eq (debt_congr rfl rfl (receiverDebt_congr rfl hclosed))
  | outside call =>
    cases he with
    | outside ha =>
      exact Nat.le_of_eq (debt_congr rfl rfl (receiverDebt_congr rfl (by rw [ha.doorbell])))

/-- As long as shutdown has not finished, the driver is not blocked. -/
theorem driver_isSome (h : Progress m) (hm : m.closer ≠ .finished) :
    (m.step? net m.driver).isSome = true := by
  rcases driver_cases m with ⟨hd, hstop, hjoin⟩ | ⟨hd, hc, hr⟩ | ⟨hd, hc, hr⟩
  · rw [hd, step?, closerStep]
    cases hc : m.closer with
    | running | flagged | silenced => rfl
    | stopping => rw [if_pos (hstop hc)]; rfl
    | joining => rw [if_pos (hjoin hc)]; rfl
    | finished => exact absurd hc hm
  · rw [hd, step?, relayStep]
    cases hp : m.relay with
    | check => dsimp only; split <;> rfl
    | input | serve => rfl
    | ended => exact absurd hp hr
  · -- The reception thread is waited for only after the doorbell has been closed.
    have hclosed : m.card.doorbell.isClosed = true := by
      rw [h.closed, hc]
      decide
    rw [hd]
    exact receiverStep_isSome hclosed hr

/-- As long as shutdown has not finished, a step of the driver pays off debt. -/
theorem driver_step (h : Progress m) (hm : m.closer ≠ .finished) :
    (m.step net m.driver).1.debt < m.debt := by
  rcases step_cases net m m.driver with ⟨hnone, -⟩ | heffect
  · have hsome := driver_isSome net h hm
    rw [hnone] at hsome
    cases hsome
  · rcases driver_cases m with ⟨hd, -⟩ | ⟨hd, hc, -⟩ | ⟨hd, hc, -⟩
    · rw [hd] at heffect ⊢
      exact debt_closer_lt heffect
    · rw [hd] at heffect ⊢
      apply (debt_relay heffect).2
      rw [h.relayCancelled, hc]
      decide
    · rw [hd] at heffect ⊢
      apply (debt_receiver h heffect).2
      rw [h.closed, hc]
      decide

theorem driver_congr (hcloser : m'.closer = m.closer)
    (hrelay : m.closer = .stopping → m'.relay = m.relay)
    (hreceiver : m.closer = .joining → m'.receiver = m.receiver) : m'.driver = m.driver := by
  unfold driver
  rw [hcloser]
  split
  · rename_i hm
    rw [hrelay hm]
  · rename_i hm
    rw [hreceiver hm]
  · rfl

/-- A step of another thread leaves the driver where it is. -/
theorem driver_of_ne {a : Actor} {marks : List Mark} (he : Effect m a m' marks)
    (ha : a ≠ m.driver) : m'.driver = m.driver ∧ m'.closer = m.closer := by
  have hcases := driver_cases m
  cases he with
  -- The driver is read off from the stage, and at two stages from whether a thread has ended; a
  -- thread whose step could end it there is the driver itself.
  | receiver _ hp =>
    refine ⟨driver_congr rfl (fun _ => rfl) ?_, rfl⟩
    intro hj
    rcases hcases with ⟨-, -, hjoin⟩ | ⟨-, hc, -⟩ | ⟨hd, -⟩
    · exact absurd (hjoin hj) hp.not_ended
    · rw [hj] at hc; cases hc
    · exact absurd hd.symm ha
  | rang hr =>
    refine ⟨driver_congr rfl (fun _ => rfl) ?_, rfl⟩
    intro hj
    rcases hcases with ⟨-, -, hjoin⟩ | ⟨-, hc, -⟩ | ⟨hd, -⟩
    · rw [hjoin hj] at hr; cases hr
    · rw [hj] at hc; cases hc
    · exact absurd hd.symm ha
  | relay _ hp =>
    refine ⟨driver_congr rfl ?_ fun _ => rfl, rfl⟩
    intro hs
    rcases hcases with ⟨-, hstop, -⟩ | ⟨hd, -⟩ | ⟨-, hc, -⟩
    · exact absurd (hstop hs) hp.not_ended
    · exact absurd hd.symm ha
    · rw [hs] at hc; cases hc
  | missed | took | handed | acknowledged | outside =>
    exact ⟨driver_congr rfl (fun _ => rfl) fun _ => rfl, rfl⟩
  | flag hm | silence hm | stop hm =>
    rcases hcases with ⟨hd, -⟩ | ⟨-, hc, -⟩ | ⟨-, hc, -⟩
    · exact absurd hd.symm ha
    · rw [hm] at hc; cases hc
    · rw [hm] at hc; cases hc
  | join hm hr =>
    rcases hcases with ⟨hd, -⟩ | ⟨-, -, hr'⟩ | ⟨-, hc, -⟩
    · exact absurd hd.symm ha
    · exact absurd hr hr'
    · rw [hm] at hc; cases hc
  | finish hm hr =>
    rcases hcases with ⟨hd, -⟩ | ⟨-, hc, -⟩ | ⟨-, -, hr'⟩
    · exact absurd hd.symm ha
    · rw [hm] at hc; cases hc
    · exact absurd hr hr'

/-! ## Rounds -/

/-- A stretch of a schedule in which each of the card's own threads has a turn. -/
structure IsRound (as : List Actor) : Prop where
  receiver : .receiver ∈ as
  relay : .relay ∈ as
  closer : .closer ∈ as

theorem driver_mem (m : Threads σ) {as : List Actor} (h : IsRound as) : m.driver ∈ as := by
  rcases driver_cases m with ⟨hd, -⟩ | ⟨hd, -⟩ | ⟨hd, -⟩
  · rw [hd]; exact h.closer
  · rw [hd]; exact h.relay
  · rw [hd]; exact h.receiver

theorem debt_step_le (h : Progress m) (a : Actor) : (m.step net a).1.debt ≤ m.debt := by
  rcases step_cases net m a with ⟨-, hstep⟩ | heffect
  · exact Nat.le_of_eq (congrArg debt (congrArg Prod.fst hstep))
  · exact debt_effect_le h heffect

theorem debt_after_le (h : Progress m) (as : List Actor) : (m.after net as).debt ≤ m.debt := by
  induction as generalizing m with
  | nil => exact Nat.le_refl _
  | cons a as ih => exact Nat.le_trans (ih (h.step net a)) (debt_step_le net h a)

/-- A schedule in which the driver has a turn pays off debt, unless shutdown has finished. -/
theorem debt_after_lt (h : Progress m) (hm : m.closer ≠ .finished) {as : List Actor}
    (ha : m.driver ∈ as) : (m.after net as).debt < m.debt := by
  induction as generalizing m with
  | nil => cases ha
  | cons a as ih =>
    rw [after]
    by_cases had : a = m.driver
    · have hlt := driver_step net h hm
      rw [had]
      exact Nat.lt_of_le_of_lt (debt_after_le net (h.step net _) as) hlt
    -- Until its turn comes the driver stays the same, and no step adds to the debt.
    · have hmem : m.driver ∈ as := (List.mem_cons.1 ha).resolve_left (Ne.symm had)
      rcases step_cases net m a with ⟨-, hstep⟩ | heffect
      · rw [hstep]
        exact ih h hm hmem
      · obtain ⟨hdriver, hcloser⟩ := driver_of_ne heffect had
        refine Nat.lt_of_lt_of_le (ih (h.step net a) ?_ ?_) (debt_step_le net h a)
        · rw [hcloser]
          exact hm
        · rw [hdriver]
          exact hmem

/-- As many rounds as there is debt finish shutdown. -/
theorem finished_of_rounds (h : Progress m) {rounds : List (List Actor)}
    (hr : ∀ r ∈ rounds, IsRound r) (hd : m.debt ≤ rounds.length) :
    (m.after net rounds.flatten).closer = .finished := by
  induction rounds generalizing m with
  | nil =>
    by_contra hm
    have hpos := debt_pos (m := m) hm
    rw [List.length_nil] at hd
    omega
  | cons r rounds ih =>
    rw [List.flatten_cons, after_append]
    -- The round pays at least one step, so that the rounds that are left cover the rest.
    refine ih (h.after net r) (fun s hs => hr s (List.mem_cons_of_mem _ hs)) ?_
    by_cases hm : m.closer = .finished
    · have hle := debt_after_le net h r
      rw [debt_of_finished h hm] at hle
      omega
    · have hlt := debt_after_lt net h hm (driver_mem m (hr r List.mem_cons_self))
      rw [List.length_cons] at hd
      omega

end Threads
end GuestNic
