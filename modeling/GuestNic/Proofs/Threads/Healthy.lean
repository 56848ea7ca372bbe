import GuestNic.Proofs.Threads.AnyHost
import GuestNic.Proofs.Threads.Refit

/-!
# Healthy reception

As long as no wait fails, the reception thread ends only when it has been asked to stop. When one
fails, the card is `lost`: two flags tell of it and the thread has ended. Nobody else looks at these
flags, so all others go on as on a healthy card (`Threads.WorksLike`).
-/

namespace GuestNic

variable {σ : Type}

/-! ## The lost card -/

namespace Card

/-- The card with a reception that has not been lost. -/
def mended (c : Card σ) : Card σ :=
  { c with isReceiving := c.isOpen, counters.rxFailed := false }

/-- To lose reception is a change that only reception looks at. -/
def losing : Refit σ σ where
  counters k := { k with rxFailed := true }
  relay := id
  receives := false

theorem losing_sendsAlike : (losing : Refit σ σ).SendsAlike := {}

end Card

/-! ## Healthy reception -/

namespace Threads

variable (net : NetStack σ) {m m' : Threads σ} {marks : List Mark}

/-- Reception has not been lost, and has not ended but on request. -/
structure Healthy (m : Threads σ) : Prop where
  failed : m.card.counters.rxFailed = false
  receiving : m.card.isReceiving = m.card.isOpen
  ended : m.receiver = .ended → m.cancelled = true

namespace Healthy

theorem start (link : Link) (relay : Option (Relay σ)) (layout : ReceiveLayout) :
    Healthy (start (.ofLink link relay layout)) := ⟨rfl, rfl, nofun⟩

theorem onPort (h : m.Healthy) (port : Port) : (m.onPort port).Healthy :=
  ⟨h.failed, h.receiving, h.ended⟩

theorem aside (h : m.Healthy) (haside : Aside m m' marks) : m'.Healthy where
  failed := haside.card.failed.trans h.failed
  receiving := by
    rcases haside.card.receiving with ⟨hreceiving, hopen⟩ | ⟨hreceiving, hopen⟩
    · rw [hreceiving, hopen, h.receiving]
    · rw [hreceiving, hopen]
  ended hended := haside.cancelled (h.ended (haside.receiver.symm.trans hended))

theorem goOn (h : m.Healthy) {card : Card σ} {point : ReceiverPoint}
    (hfailed : card.counters.rxFailed = m.card.counters.rxFailed)
    (hreceiving : card.isReceiving = m.card.isReceiving) (hopen : card.isOpen = m.card.isOpen)
    (hpoint : point ≠ .ended) : Healthy { m with card, receiver := point } :=
  ⟨hfailed.trans h.failed, by rw [hreceiving, hopen, h.receiving],
    fun hended => absurd hended hpoint⟩

theorem waitOn (h : m.Healthy) (port : Port) {poll : Except Host.Fault Host.PollEvents}
    {isReady : Bool} (hpoll : Port.polled poll = .ok isReady) :
    (m.waitOn port poll).1.Healthy ∧ (m.waitOn port poll).2 = [] := by
  have hstep : m.waitOn port poll =
      ({ m.onPort port with receiver := if isReady then .read else .check }, []) := by
    simp only [Threads.waitOn, hpoll]
  rw [hstep]
  exact ⟨h.goOn rfl rfl rfl (by cases isReady <;> simp), rfl⟩

/-- Whatever a read finds, reception goes on. -/
theorem readOn (h : m.Healthy) (port : Port) (found : ReadAnswer) :
    (m.readOn port found).1.Healthy ∧ (m.readOn port found).2 = [.read] := by
  obtain ⟨filled, -, hread⟩ := readOn_eq m port found
  have hpoint : ∀ answer, pointAfter answer ≠ .ended := by
    rintro (fault | _ | origin) hpoint <;> cases hpoint
  rw [hread]
  exact ⟨h.goOn rfl rfl rfl (hpoint _), rfl⟩

/-- So it does from every other point, until it has been asked to stop. -/
theorem ownStep (h : m.Healthy) (hwait : m.receiver ≠ .wait) (hread : m.receiver ≠ .read) :
    (m.step net .receiver).1.Healthy ∧
      ∀ x ∈ (m.step net .receiver).2, x.isSignal = true := by
  cases hm : m.receiver with
  | wait => exact absurd hm hwait
  | read => exact absurd hm hread
  | check =>
    simp only [step, step?, receiverStep, hm, Option.getD_some]
    refine ⟨⟨h.failed, h.receiving, ?_⟩, by simp⟩
    intro hended
    by_contra hcancelled
    rw [if_neg hcancelled] at hended
    cases hended
  | sort origin =>
    obtain ⟨dropped, hprepare⟩ := m.card.prepare_eq origin
    simp only [step, step?, receiverStep, hm]
    generalize m.card.prepare origin = prepared at hprepare
    obtain ⟨card, delivery⟩ := prepared
    cases hprepare
    cases delivery <;> exact ⟨h.goOn rfl rfl rfl (by simp), by simp⟩
  | ring delivery =>
    simp only [step, step?, receiverStep, hm]
    cases m.card.doorbell.ring delivery <;>
      exact ⟨h.goOn rfl rfl rfl (by simp), by simp [Mark.isSignal]⟩
  | announce =>
    simp only [step, step?, receiverStep, hm, Option.getD_some]
    exact ⟨h.goOn rfl rfl rfl (by simp), by simp [Mark.isSignal]⟩
  | await =>
    simp only [step, step?, receiverStep, hm]
    cases m.card.doorbell.awaited with
    | none => exact ⟨h, by simp⟩
    | some _ => exact ⟨h.goOn rfl rfl rfl (by simp), by simp⟩
  | ended =>
    simp only [step, step?, receiverStep, hm, Option.getD_none]
    exact ⟨h, by simp⟩

end Healthy

/-! ## The others on a lost card -/

/-- The threads of the card with a reception that has not been lost. -/
def mended (m : Threads σ) : Threads σ := { m with card := m.card.mended, receiver := .check }

theorem mended_healthy (m : Threads σ) : m.mended.Healthy := ⟨rfl, rfl, fun h => by cases h⟩

theorem lost_mended (hreceiver : m.receiver = .ended) (hfailed : m.card.counters.rxFailed = true)
    (hreceiving : m.card.isReceiving = false) : m.mended.lost = m := by
  obtain ⟨⟨_, _, ⟨_, _, _, _, _, _, _, _, _⟩, _, _, _, _, _, _, _⟩, _, _, _, _, _, _⟩ := m
  obtain rfl : _ = ReceiverPoint.ended := hreceiver
  obtain rfl : _ = true := hfailed
  obtain rfl : _ = false := hreceiving
  rfl

theorem mended_lost (h : m.Healthy) : m.lost.mended = { m with receiver := .check } := by
  obtain ⟨⟨_, _, ⟨_, _, _, _, _, _, _, _, failed⟩, _, _, _, receiving, _, _, isOpen⟩,
    _, _, _, _, _, _⟩ := m
  obtain rfl : failed = false := h.failed
  obtain rfl : receiving = isOpen := h.receiving
  rfl

theorem lost_eq_refit (m : Threads σ) : m.lost = m.refit Card.losing fun _ => .ended := rfl

theorem losing_fits : Fits net net Card.losing :=
  .of_relay Card.losing_sendsAlike fun _ => rfl

/-- A shutdown that waits for the reception thread and goes on has found that it has ended. -/
theorem receiver_ended_of_joining (hm : m.closer = .joining) {result : Threads σ × List Mark}
    (h : m.closerStep = some result) : m.receiver = .ended := by
  simp only [closerStep, hm] at h
  split at h
  · assumption
  · cases h

/-- Whoever can take a step can take it on the lost card as well; shutdown does not have to wait for
the reception thread there. -/
theorem step?_lost {a : Actor} (ha : a.isReceiver = false)
    (h : m.step? net a = some (m', marks)) : m.lost.step? net a = some (m'.lost, marks) := by
  have hstep : (m.refit Card.losing fun _ => .ended).step? net a =
      (m.step? net a).map fun r => (r.1.refit Card.losing fun _ => .ended, r.2) := by
    cases a with
    | receiver => cases ha
    | relay => exact relayStep_refit (losing_fits net) m
    | guest i => exact congrArg some (guestStep_refit Card.losing_sendsAlike.toCountsAlike _ i m)
    | closer =>
      refine closerStep_refit Card.losing_sendsAlike.toKeepsWiring fun hm => ?_
      exact iff_of_true rfl (receiver_ended_of_joining hm h)
    | outside call => exact step?_outside_refit Card.losing_sendsAlike (fun _ _ => rfl) m
  rw [lost_eq_refit, hstep, h]
  rfl

/-- The steps of a schedule, if all of them can be taken. -/
def run? : Threads σ → List Actor → Option (Threads σ × List Mark)
  | m, [] => some (m, [])
  | m, a :: as =>
    (m.step? net a).bind fun (m', marks) =>
      (run? m' as).map fun (m'', more) => (m'', marks ++ more)

theorem run?_lost {as : List Actor} (has : ∀ a ∈ as, a.isReceiver = false)
    (h : m.run? net as = some (m', marks)) : m.lost.run? net as = some (m'.lost, marks) := by
  induction as generalizing m m' marks with
  | nil =>
    cases h
    rfl
  | cons a as ih =>
    rw [run?, Option.bind_eq_some_iff] at h
    obtain ⟨⟨m₁, marks₁⟩, hstep, hrest⟩ := h
    rw [Option.map_eq_some_iff] at hrest
    obtain ⟨⟨m₂, marks₂⟩, hrun, heq⟩ := hrest
    cases heq
    have hfirst := step?_lost net (has a List.mem_cons_self) hstep
    have hthen := ih (fun b hb => has b (List.mem_cons_of_mem a hb)) hrun
    rw [run?, hfirst, Option.bind_some]
    show (m₁.lost.run? net as).map _ = _
    rw [hthen]
    rfl

/-- For everybody but the reception thread these threads are as good as the healthy ones. -/
structure WorksLike (m healthy : Threads σ) : Prop where
  isHealthy : healthy.Healthy
  same : m = healthy.lost
  transmit : ∀ memory packet,
    m.card.transmit memory packet = (healthy.card.transmit memory packet).map Card.lost id
  transmitFrame : ∀ frame,
    m.card.transmitFrame frame = (healthy.card.transmitFrame frame).map Card.lost id
  /-- Whatever the host makes of what is sent. -/
  submit : ∀ answer o, m.card.submit answer o = (healthy.card.submit answer o).map Card.lost id
  attach : ∀ type routine,
    m.card.attach type routine = (healthy.card.attach type routine).map Card.lost id
  detach : ∀ type, m.card.detach type = (healthy.card.detach type).map Card.lost id
  reset : m.card.reset = healthy.card.reset.lost
  shutdown : m.card.shutdown = healthy.card.shutdown.lost
  run : ∀ as m' marks, (∀ a ∈ as, a.isReceiver = false) →
    healthy.run? net as = some (m', marks) → m.run? net as = some (m'.lost, marks)
  finishes : ∀ rounds : List (List Actor), (∀ r ∈ rounds, IsRound r) → 15 ≤ rounds.length →
    (m.after net rounds.flatten).closer = .finished

theorem worksLike_lost (hm : m.Healthy) (h : Progress m.lost) : WorksLike net m.lost m where
  isHealthy := hm
  same := rfl
  transmit := Card.transmit_refit Card.losing_sendsAlike m.card
  transmitFrame := Card.transmitFrame_refit Card.losing_sendsAlike m.card
  submit answer := Card.submit_refit Card.losing_sendsAlike answer m.card
  attach := Card.attach_refit (f := Card.losing) (fun _ => rfl) m.card
  detach := Card.detach_refit (f := Card.losing) (fun _ => rfl) m.card
  reset := rfl
  shutdown := Card.shutdown_refit Card.losing_sendsAlike.toKeepsWiring m.card
  run _ _ _ has hrun := run?_lost net has hrun
  finishes _ hrounds hlength := finished_of_rounds net h hrounds ((debt_le _).trans hlength)

end Threads

end GuestNic
