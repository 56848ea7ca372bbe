import GuestNic.Proofs.Card.Receipt
import GuestNic.Proofs.Card.Submission
import GuestNic.Proofs.Link.Freshness
import GuestNic.Proofs.Threads.Shutdown

/-!
# Reception on any host

The reception thread asks the host two things: whether a frame can be read, and for the frame. Here
the host may answer as it likes, and leave any port behind. `Threads.waitOn` and `Threads.readOn`
are the two steps on such a host; the thread's own steps are those on the host behind its port. All
other steps leave alone what reception counts.
-/

namespace GuestNic

/-- What a read finds: a datagram and its origin, or a fault. -/
abbrev ReadAnswer := Except Host.Fault (Bytes × Origin)

/-- How a wait fails: the poll does, unless it was only interrupted, or it reports trouble and no
input. -/
inductive WaitFails : Except Host.Fault Host.PollEvents → Host.Fault → Prop where
  | poll {fault : Host.Fault} (h : fault ≠ .os .interrupted) : WaitFails (.error fault) fault
  | trouble {events : Host.PollEvents} (hinput : events.input = false)
      (h : events.hangup = true ∨ events.failed = true ∨ events.invalid = true) :
      WaitFails (.ok events) (.hungUp events)

theorem Port.polled_eq_error_iff {poll : Except Host.Fault Host.PollEvents}
    {fault : Host.Fault} : polled poll = .error fault ↔ WaitFails poll fault := by
  have hbroken : ∀ events : Host.PollEvents, events.isBroken = true ↔
      events.hangup = true ∨ events.failed = true ∨ events.invalid = true := by
    intro events
    simp only [Host.PollEvents.isBroken, Bool.or_eq_true, or_assoc]
  constructor
  · intro h
    unfold polled at h
    split at h
    · rename_i events
      unfold readiness at h
      split at h
      · cases h
      · rename_i hinput
        split at h
        · rename_i htrouble
          cases h
          exact .trouble (Bool.eq_false_iff.2 hinput) ((hbroken events).1 htrouble)
        · cases h
    · cases h
    · rename_i hinterrupted
      cases h
      exact .poll hinterrupted
  · intro h
    cases h with
    | poll h =>
      unfold polled
      split
      · contradiction
      · rename_i heq
        cases heq
        exact absurd rfl h
      · rename_i heq
        cases heq
        rfl
    | trouble hinput htrouble =>
      simp only [polled, readiness, hinput, (hbroken _).2 htrouble, Bool.false_eq_true,
        ↓reduceIte]

variable {σ : Type}

/-! ## Reception that is over -/

/-- The card once its port can no longer be polled. -/
def Card.lost (c : Card σ) : Card σ :=
  { c with isReceiving := false, counters.rxFailed := true }

namespace Threads

/-- The threads when the port of the card can no longer be polled. -/
def lost (m : Threads σ) : Threads σ := { m with card := m.card.lost, receiver := .ended }

/-- The threads of the same card on another port. -/
def onPort (m : Threads σ) (port : Port) : Threads σ :=
  { m with card := { m.card with link := { m.card.link with port } } }

/-! ## The two steps -/

/-- The reception thread waits, and the host answers its poll. -/
def waitOn (m : Threads σ) (port : Port) (poll : Except Host.Fault Host.PollEvents) :
    Threads σ × List Mark :=
  match Port.polled poll with
  | .error fault => ((m.onPort port).lost, [.alerted (Card.receptionLost fault)])
  | .ok isReady => ({ m.onPort port with receiver := if isReady then .read else .check }, [])

/-- Where the reception thread goes from a read. -/
def pointAfter : Except Host.Fault (Option Origin) → ReceiverPoint
  | .ok (some origin) => .sort origin
  | _ => .check

/-- The reception thread reads, and this is what it finds. -/
def readOn (m : Threads σ) (port : Port) (found : ReadAnswer) : Threads σ × List Mark :=
  let (link, buffer, answer) := m.card.link.readFrom m.card.buffer (port, found)
  ({ m with card := { m.card with link, buffer }, receiver := pointAfter answer }, [.read])

variable {m : Threads σ}

/-- The thread's own wait is the one on the host behind the port. -/
theorem receiverStep_wait (h : m.receiver = .wait) :
    m.receiverStep = some (m.waitOn m.card.link.port.poll.1 m.card.link.port.poll.2) := by
  have hwait : m.card.link.wait =
      ({ m.card.link with port := m.card.link.port.poll.1 },
        Port.polled m.card.link.port.poll.2) := rfl
  simp only [receiverStep, h, hwait, waitOn]
  cases Port.polled m.card.link.port.poll.2 <;> rfl

/-- So is its own read. -/
theorem receiverStep_read (h : m.receiver = .read) :
    m.receiverStep = some (m.readOn (m.card.link.port.read Frame.maxSize).1
      (m.card.link.port.read Frame.maxSize).2) := by
  simp only [receiverStep, h, Link.read_eq_readFrom, readOn]
  rcases m.card.link.readFrom m.card.buffer (m.card.link.port.read Frame.maxSize) with
    ⟨link, buffer, fault | _ | origin⟩ <;> rfl

theorem waitOn_effect (h : m.receiver = .wait) (port : Port)
    (poll : Except Host.Fault Host.PollEvents) :
    Effect m .receiver (m.waitOn port poll).1 (m.waitOn port poll).2 := by
  unfold waitOn
  split
  · exact .receiver ⟨rfl, rfl⟩ (.lost h _)
  · rename_i isReady _
    cases isReady with
    | true => exact .receiver ⟨rfl, rfl⟩ (.ready h)
    | false => exact .receiver ⟨rfl, rfl⟩ (.nothing h)

theorem readOn_effect (h : m.receiver = .read) (port : Port) (found : ReadAnswer) :
    Effect m .receiver (m.readOn port found).1 (m.readOn port found).2 := by
  unfold readOn
  rcases m.card.link.readFrom m.card.buffer (port, found) with ⟨link, buffer, fault | _ | origin⟩
  · exact .receiver ⟨rfl, rfl⟩ (.unread h)
  · exact .receiver ⟨rfl, rfl⟩ (.unread h)
  · exact .receiver ⟨rfl, rfl⟩ (.read h origin)

/-- What a read does depends on what it finds alone. -/
theorem readOn_eq (m : Threads σ) (port : Port) (found : ReadAnswer) :
    ∃ filled : FrameBuffer, filled.contents = (Showing.of found).frame ∧
      m.readOn port found =
        ({ m with
          card := { m.card with
            link := { port, traffic := m.card.link.traffic.counting found }
            buffer := filled }
          receiver := pointAfter (Showing.of found).answer }, [.read]) := by
  obtain ⟨filled, hfilled, hread⟩ := m.card.link.readFrom_eq m.card.buffer port found
  exact ⟨filled, hfilled, by rw [readOn, hread]⟩

end Threads

/-! ## The steps of the others -/

/-- A ring or an interrupt. -/
def Mark.isSignal : Mark → Bool
  | .rang _ | .interrupted => true
  | _ => false

/-- A step of reception that shows. -/
def Mark.isReception : Mark → Bool
  | .read | .rang _ | .interrupted | .alerted _ => true
  | _ => false

namespace Card

/-- What reception counts, and its buffer, are the same, and reception goes on unless the card has
been shut down. -/
structure SparesReception (c c' : Card σ) : Prop where
  buffer : c'.buffer = c.buffer
  dropped : c'.counters.rxDropped = c.counters.rxDropped
  raised : c'.counters.interruptsRaised = c.counters.interruptsRaised
  failed : c'.counters.rxFailed = c.counters.rxFailed
  traffic : c'.link.traffic.receiving = c.link.traffic.receiving
  receiving : (c'.isReceiving = c.isReceiving ∧ c'.isOpen = c.isOpen) ∨
    (c'.isReceiving = false ∧ c'.isOpen = false)

theorem SparesReception.refl (c : Card σ) : c.SparesReception c :=
  ⟨rfl, rfl, rfl, rfl, rfl, .inl ⟨rfl, rfl⟩⟩

theorem onRelay_sparesReception (act : Relay σ → StackPipe → Relay σ × StackPipe) (c : Card σ) :
    c.SparesReception (c.onRelay act) := by
  unfold onRelay
  split
  · exact ⟨rfl, rfl, rfl, rfl, rfl, .inl ⟨rfl, rfl⟩⟩
  · exact .refl c

theorem submit_sparesReception (answer : HostAnswer) (c : Card σ) (o : Outgoing) :
    c.SparesReception (c.submit answer o).1 := by
  have hsubmits := submit_submits answer c o
  generalize (c.submit answer o).1 = c', (c.submit answer o).2.1 = events,
    (c.submit answer o).2.2 = r at hsubmits ⊢
  cases hsubmits with
  | closed => exact .refl c
  | tooLong | sent | refused => exact ⟨rfl, rfl, rfl, rfl, rfl, .inl ⟨rfl, rfl⟩⟩

theorem perform_sparesReception (c : Card σ) (call : Call) :
    c.SparesReception (c.perform call).1 := by
  cases hcall : c.sending? call with
  | some sending =>
    rw [(perform_of_sending? hcall).1]
    exact submit_sparesReception Port.offer c _
  | none =>
    obtain ⟨handlers, port, hcard⟩ := perform_of_sending?_none hcall
    rw [hcard]
    exact ⟨rfl, rfl, rfl, rfl, rfl, .inl ⟨rfl, rfl⟩⟩

end Card

namespace Threads

/-- A step of somebody else, as reception sees it. -/
structure Aside (m m' : Threads σ) (marks : List Mark) : Prop where
  receiver : m'.receiver = m.receiver
  card : m.card.SparesReception m'.card
  cancelled : m.cancelled = true → m'.cancelled = true
  marks : ∀ x ∈ marks, x.isReception = false

variable {m : Threads σ}

theorem Aside.of_card {card : Card σ} (h : m.card.SparesReception card) :
    Aside m { m with card } [] := ⟨rfl, h, id, by simp⟩

theorem relayStep_aside (net : NetStack σ) {m' : Threads σ} {marks : List Mark}
    (h : m.relayStep net = some (m', marks)) : Aside m m' marks := by
  have honRelay : ∀ act, m.card.SparesReception (m.card.onRelay act) :=
    fun act => Card.onRelay_sparesReception act m.card
  unfold relayStep at h
  split at h
  · split at h
    · cases h
      exact ⟨rfl, honRelay fun relay pipe => (relay, pipe.closeStack), id, by simp⟩
    · cases h
      exact ⟨rfl, .refl _, id, by simp⟩
  · cases h
    exact ⟨rfl, honRelay (Relay.takeInput net), id, by simp⟩
  · cases h
    exact ⟨rfl, honRelay (Relay.serve net), id, by simp⟩
  · cases h

theorem guestStep_aside (i : Nat) (m : Threads σ) :
    Aside m (m.guestStep i).1 (m.guestStep i).2 := by
  unfold guestStep
  split
  · split <;>
      exact ⟨rfl, ⟨rfl, rfl, rfl, rfl, rfl, .inl ⟨rfl, rfl⟩⟩, id, by simp [Mark.isReception]⟩
  · exact ⟨rfl, ⟨rfl, rfl, rfl, rfl, rfl, .inl ⟨rfl, rfl⟩⟩, id, by simp [Mark.isReception]⟩
  · exact ⟨rfl, ⟨rfl, rfl, rfl, rfl, rfl, .inl ⟨rfl, rfl⟩⟩, id, by simp [Mark.isReception]⟩

theorem closerStep_aside {m' : Threads σ} {marks : List Mark}
    (h : m.closerStep = some (m', marks)) : Aside m m' marks := by
  have hsame : m.card.SparesReception (release m.card) :=
    ⟨rfl, rfl, rfl, rfl, rfl, .inr ⟨rfl, rfl⟩⟩
  unfold closerStep at h
  split at h
  · cases h
    exact ⟨rfl, .refl _, fun _ => rfl, by simp⟩
  · cases h
    exact ⟨rfl, ⟨rfl, rfl, rfl, rfl, rfl, .inl ⟨rfl, rfl⟩⟩, id, by simp [Mark.isReception]⟩
  · cases h
    exact ⟨rfl, .refl _, id, by simp⟩
  · split at h <;> cases h
    exact ⟨rfl, .refl _, id, by simp⟩
  · split at h <;> cases h
    exact ⟨rfl, hsame, id, by simp⟩
  · cases h

/-- Nobody but the reception thread does anything that reception sees. -/
theorem step_aside (net : NetStack σ) (m : Threads σ) {a : Actor} (ha : a.isReceiver = false) :
    Aside m (m.step net a).1 (m.step net a).2 := by
  unfold step
  cases hstep : m.step? net a with
  | none => exact .of_card (.refl _)
  | some result =>
    cases a with
    | receiver => cases ha
    | relay => exact relayStep_aside net hstep
    | guest i =>
      obtain rfl := Option.some.inj hstep
      exact guestStep_aside i m
    | closer => exact closerStep_aside hstep
    | outside call =>
      obtain rfl := Option.some.inj hstep
      exact .of_card (m.card.perform_sparesReception call)

end Threads
end GuestNic
