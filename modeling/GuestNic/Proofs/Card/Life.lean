import GuestNic.Proofs.Card.Counters
import GuestNic.Proofs.Card.Receipt
import GuestNic.Proofs.Card.Submission

/-!
# Whole lives

The life of a card goes on from move to move until it is shut down, and after that. Meanwhile its
host does as it likes: it answers each write in its own way, and it does anything at all at its end
of the port. `Life` is a card with what an onlooker has written down about it, and `Card.Takes` says
once what a turn can do.
-/

namespace GuestNic

/-- What can happen to a card in its whole life. -/
inductive Turn where
  | move (m : Move)
  /-- The driver has something sent, and the host answers as it likes. -/
  | submit (answer : HostAnswer) (o : Outgoing)
  /-- The host does something at its end of the port. -/
  | host (act : Port → Port)
  | shutdown

namespace Turn

/-- What the driver wants sent in a turn, and what the host makes of it. -/
def outgoing? : Turn → Option (HostAnswer × Outgoing)
  | .submit answer o => some (answer, o)
  | .move (.call (.transmit memory packet)) => some (Port.offer, .packet memory packet)
  | .move (.call (.transmitFrame frame)) => some (Port.offer, .frame frame)
  | _ => none

end Turn

namespace Card

variable {σ : Type} (net : NetStack σ)

/-- One turn, and the events in it. -/
def turn (c : Card σ) : Turn → Card σ × List CardEvent
  | .move m => c.move net m
  | .submit answer o =>
    let (c, events, _) := c.submit answer o
    (c, events)
  | .host act => ({ c with link := { c.link with port := act c.link.port } }, [])
  | .shutdown => (c.shutdown, [])

/-- The frame that is handed to the host in a turn. -/
def handed (c : Card σ) (t : Turn) : List Bytes :=
  if c.isOpen then (t.outgoing?.bind fun call => call.2.frame?.toOption).toList else []

/-- The frame with which a call succeeds in a turn. -/
def sent (c : Card σ) (t : Turn) : List Bytes :=
  match t.outgoing? with
  | some (answer, o) => o.taken (c.submit answer o).2.2
  | none => []

end Card

/-- A card, with what an onlooker has written down about it so far. -/
structure Life (σ : Type) where
  card : Card σ
  events : List CardEvent := []
  /-- How often the driver wanted something sent while the card was open. -/
  submissions : Nat := 0
  handed : List Bytes := []
  sent : List Bytes := []

namespace Life

variable {σ : Type} (net : NetStack σ)

/-- The life of a fresh card, on any port and with any relay. -/
def fresh (port : Port) (relay : Option (Relay σ)) (layout : ReceiveLayout) : Life σ where
  card := .ofLink (.ofPort port) relay layout

def turn (l : Life σ) (t : Turn) : Life σ where
  card := (l.card.turn net t).1
  events := l.events ++ (l.card.turn net t).2
  submissions := l.submissions + if l.card.isOpen ∧ t.outgoing?.isSome then 1 else 0
  handed := l.handed ++ l.card.handed t
  sent := l.sent ++ l.card.sent t

/-- A life after some more turns. -/
def after (l : Life σ) (turns : List Turn) : Life σ := turns.foldl (turn net) l

/-- A history of moves is a life. -/
theorem after_moves (l : Life σ) (moves : List Move) :
    (l.after net (moves.map .move)).card = l.card.after net moves ∧
      (l.after net (moves.map .move)).events = l.events ++ l.card.events net moves := by
  induction moves generalizing l with
  | nil => exact ⟨rfl, (List.append_nil _).symm⟩
  | cons m moves ih =>
    obtain ⟨hcard, hevents⟩ := ih (l.turn net (.move m))
    refine ⟨hcard, hevents.trans ?_⟩
    simp only [turn, Card.turn, List.append_assoc]
    rfl

end Life

namespace Card

variable {σ : Type} (net : NetStack σ) {c : Card σ}

/-! ## What a turn can do -/

/-- Nothing has happened that a card or its link counts. -/
structure Quiet (c c' : Card σ) : Prop where
  doorbell : c'.doorbell = c.doorbell
  counters : c'.counters = c.counters
  traffic : c'.link.traffic = c.link.traffic
  isOpen : c'.isOpen = c.isOpen

/-- Everything that a turn can do, and what it emits. -/
inductive Takes (c : Card σ) : Turn → Card σ → List CardEvent → Prop where
  | submission {t : Turn} {answer : HostAnswer} {o : Outgoing}
      (h : t.outgoing? = some (answer, o)) :
      Takes c t (c.submit answer o).1 (c.submit answer o).2.1
  /-- The handlers, the port or the relay may change. -/
  | quiet {t : Turn} {c' : Card σ} (ho : t.outgoing? = none) (h : c.Quiet c') : Takes c t c' []
  /-- There is nothing to be serviced. -/
  | spurious (h : c.doorbell.take.2 = none) :
      Takes c (.move .service) { c with
        counters.interruptsSpurious := c.counters.interruptsSpurious + 1 } []
  | serviced {d : Delivery} (h : c.doorbell.take.2 = some d) :
      Takes c (.move .service) { c with
        counters := { c.counters with
          interruptsServiced := c.counters.interruptsServiced + 1
          rxPackets := c.counters.rxPackets + 1 }
        doorbell := c.doorbell.take.1.acknowledge.1 } (upcall c.layout d)
  | reception {c' : Card σ} {events : List CardEvent} (h : c.Receipt c' events) :
      Takes c (.move .receive) c' events
  | shutdown : Takes c .shutdown c.shutdown []

theorem service_takes : c.Takes (.move .service) c.service.1 c.service.2.1 := by
  rcases htake : c.doorbell.take with ⟨bell, delivery⟩
  cases delivery with
  | none =>
    simp only [service, htake]
    exact .spurious (by rw [htake])
  | some d =>
    have hserviced := Takes.serviced (c := c) (d := d) (by rw [htake])
    rw [htake] at hserviced
    simpa only [service, htake] using hserviced

theorem relayRound_quiet : c.Quiet (c.relayRound net) := by
  unfold relayRound onRelay
  split
  · split <;> exact ⟨rfl, rfl, rfl, rfl⟩
  · exact ⟨rfl, rfl, rfl, rfl⟩

/-- A turn of a card whose doorbell is open just as long as itself does one of the things listed. -/
theorem turn_takes (hc : c.doorbell.isClosed = !c.isOpen) (t : Turn) :
    c.Takes t (c.turn net t).1 (c.turn net t).2 := by
  cases t with
  | submit answer o => exact .submission rfl
  | host act => exact .quiet rfl ⟨rfl, rfl, rfl, rfl⟩
  | shutdown => exact .shutdown
  | move m =>
    cases m with
    | service => exact service_takes
    | receive => exact .reception (receive_receipt hc)
    | relay => exact .quiet rfl (relayRound_quiet net)
    | call call =>
      cases call with
      -- The driver's own two calls go to the host behind the port.
      | transmit memory packet =>
        have hsubmit := c.submit_packet memory packet
        simp only [turn, move, perform, ← hsubmit]
        exact .submission rfl
      | transmitFrame frame =>
        have hsubmit := c.submit_frame frame
        have heq : c.turn net (.move (.call (.transmitFrame frame))) =
            ((c.submit Port.offer (.frame frame)).1, (c.submit Port.offer (.frame frame)).2.1) := by
          rw [hsubmit]
          rfl
        rw [heq]
        exact .submission rfl
      | reset => exact .quiet rfl ⟨rfl, rfl, rfl, rfl⟩
      | attach type routine =>
        refine .quiet rfl ?_
        simp only [turn, move, perform, attach]
        split <;> exact ⟨rfl, rfl, rfl, rfl⟩
      | detach type =>
        refine .quiet rfl ?_
        simp only [turn, move, perform, detach]
        split <;> exact ⟨rfl, rfl, rfl, rfl⟩
      | arrive peer frame =>
        refine .quiet rfl ?_
        simp only [turn, move, perform, arrive]
        split <;> exact ⟨rfl, rfl, rfl, rfl⟩

theorem shutdown_isOpen (c : Card σ) : c.shutdown.isOpen = false := by
  cases h : c.isOpen with
  | true => rw [shutdown, if_pos h]
  | false => rwa [shutdown, if_neg (by simp [h])]

theorem shutdown_of_closed (h : c.isOpen = false) : c.shutdown = c := if_neg (by simp [h])

namespace Takes

variable {t : Turn} {c' : Card σ} {events : List CardEvent}

/-- When something is to be sent, that is all that happens. -/
theorem eq_submit (h : c.Takes t c' events) {answer : HostAnswer} {o : Outgoing}
    (ho : t.outgoing? = some (answer, o)) :
    c' = (c.submit answer o).1 ∧ events = (c.submit answer o).2.1 := by
  cases h with
  | submission hsome =>
    rw [ho] at hsome
    cases hsome
    exact ⟨rfl, rfl⟩
  | quiet hnone =>
    rw [hnone] at ho
    cases ho
  | spurious | serviced | reception | shutdown => cases ho

/-- The doorbell stays open just as long as the card. -/
theorem isClosed (h : c.Takes t c' events) (hc : c.doorbell.isClosed = !c.isOpen) :
    c'.doorbell.isClosed = !c'.isOpen := by
  cases h with
  | @submission _ answer o _ =>
    have hspares := (submit_submits answer c o).spares.1
    rw [hspares.doorbell, hspares.isOpen, hc]
  | quiet _ hquiet => rw [hquiet.doorbell, hquiet.isOpen, hc]
  | spurious => exact hc
  | serviced =>
    show c.doorbell.take.1.acknowledge.1.isClosed = !c.isOpen
    rw [Doorbell.acknowledge_isClosed, Doorbell.take]
    split <;> exact hc
  | reception hreceipt => cases hreceipt <;> exact hc
  | shutdown =>
    unfold Card.shutdown
    split
    · rfl
    · exact hc

/-- Once a card is shut down, nothing moves the counters of its link. -/
theorem of_closed (h : c.Takes t c' events) (ho : c.isOpen = false) :
    c'.isOpen = false ∧ c'.link.traffic = c.link.traffic := by
  cases h with
  | submission =>
    rw [submit_of_closed ho]
    exact ⟨ho, rfl⟩
  | quiet _ hquiet => exact ⟨hquiet.isOpen.trans ho, hquiet.traffic⟩
  | spurious | serviced => exact ⟨ho, rfl⟩
  | reception hreceipt =>
    have hrest : c.isResting = true := by simp [isResting, ho]
    cases hreceipt with
    | idle => exact ⟨ho, rfl⟩
    | nothing hr | lost hr | dropped hr | raised hr => rw [hrest] at hr; cases hr
  | shutdown =>
    rw [shutdown_of_closed ho]
    exact ⟨ho, rfl⟩

end Takes

end Card

namespace Life

variable {σ : Type} (net : NetStack σ)

/-- The doorbell has been open just as long as the card. -/
def IsSound (l : Life σ) : Prop := l.card.doorbell.isClosed = !l.card.isOpen

/-- To show that every turn keeps something, it is enough to look at the list of what a turn can
do. -/
theorem takes_induction {motive : Life σ → Prop}
    (step : ∀ (l : Life σ) (t : Turn),
      l.card.Takes t (l.turn net t).card (l.card.turn net t).2 → motive l → motive (l.turn net t))
    (turns : List Turn) {l : Life σ} (hl : l.IsSound) (start : motive l) :
    (l.after net turns).IsSound ∧ motive (l.after net turns) := by
  induction turns generalizing l with
  | nil => exact ⟨hl, start⟩
  | cons t turns ih =>
    have htakes := Card.turn_takes net hl t
    exact ih (htakes.isClosed hl) (step l t htakes start)

theorem IsSound.after {l : Life σ} (h : l.IsSound) (turns : List Turn) :
    (l.after net turns).IsSound :=
  (takes_induction (motive := fun _ => True) net (fun _ _ _ _ => trivial) turns h trivial).1

/-- A card that has been shut down stays so. -/
theorem IsSound.after_isOpen {l : Life σ} (h : l.IsSound) (ho : l.card.isOpen = false)
    (turns : List Turn) : (l.after net turns).card.isOpen = false :=
  (takes_induction (motive := fun l => l.card.isOpen = false) net
    (fun _ _ ht ho => (ht.of_closed ho).1) turns h ho).2

theorem isSound_fresh (port : Port) (relay : Option (Relay σ)) (layout : ReceiveLayout) :
    (fresh port relay layout).IsSound := rfl

end Life
end GuestNic
