import GuestNic.Proofs.Threads.AnyHost
import Mathlib.Data.List.Forall2

/-!
# Watching reception

An onlooker writes down what arrives at the descriptor of a card, what each poll and each read
finds, and what becomes of every read: it finds nothing, it fails, or it finds a runt or a frame,
and a frame is dropped, or rung for and announced by an interrupt of its own. The host may answer as
it likes; what the threads do on their own port is among what can happen
(`Watched.exists_history`).
-/

namespace GuestNic

variable {σ : Type}

/-! ## Fates -/

/-- Where a delivery comes from. -/
def Delivery.origin : Delivery → Origin
  | .handler .. => .device
  | .tunnel _ peer => .peer peer

/-- The delivery is made of the datagram, or of as much of it as fits. -/
structure Delivery.Conveys (delivery : Delivery) (d : Bytes) (origin : Origin) : Prop where
  frame : delivery.frame.contents = d.take Frame.maxSize
  origin : delivery.origin = origin

/-- What became of a read. -/
inductive ReadFate where
  | nothing
  | failed (fault : Host.Fault)
  | runt
  | dropped
  /-- Rung for and announced. -/
  | delivered (delivery : Delivery)
  /-- The doorbell was closed. -/
  | silenced (delivery : Delivery)

namespace ReadFate

/-- The fates that a read can have by what it found. -/
inductive Of : ReadAnswer → ReadFate → Prop where
  | nothing {fault : Host.Fault} (h : fault.isTransient = true) : Of (.error fault) .nothing
  | failed {fault : Host.Fault} (h : fault.isTransient = false) :
      Of (.error fault) (.failed fault)
  | runt {d : Bytes} {origin : Origin} (h : d.length < Frame.headerSize) :
      Of (.ok (d, origin)) .runt
  | dropped {d : Bytes} (h : Frame.headerSize ≤ d.length) : Of (.ok (d, .device)) .dropped
  | delivered {d : Bytes} {origin : Origin} {delivery : Delivery}
      (h : Frame.headerSize ≤ d.length) (hd : delivery.Conveys d origin) :
      Of (.ok (d, origin)) (.delivered delivery)
  | silenced {d : Bytes} {origin : Origin} {delivery : Delivery}
      (h : Frame.headerSize ≤ d.length) (hd : delivery.Conveys d origin) :
      Of (.ok (d, origin)) (.silenced delivery)

def isRunt : ReadFate → Bool
  | .runt => true
  | _ => false

def isDropped : ReadFate → Bool
  | .dropped => true
  | _ => false

def isDelivered : ReadFate → Bool
  | .delivered _ => true
  | _ => false

def silenced? : ReadFate → Option Delivery
  | .silenced delivery => some delivery
  | _ => none

/-- The ring and the interrupt for a frame that was delivered. -/
def signals : ReadFate → List Mark
  | .delivered delivery => [.rang delivery, .interrupted]
  | _ => []

/-- The fate of a read that finds no frame. -/
def ofFound? : ReadAnswer → Option ReadFate
  | .error fault => some (if fault.isTransient then .nothing else .failed fault)
  | .ok (d, _) => if d.length < Frame.headerSize then some .runt else none

end ReadFate

namespace Mark

/-- The rings and the interrupts, in order. -/
def signals (t : List Mark) : List Mark := t.filter isSignal

theorem signals_append (s t : List Mark) : signals (s ++ t) = signals s ++ signals t :=
  List.filter_append ..

theorem signals_of_aside {t : List Mark} (h : ∀ x ∈ t, x.isReception = false) :
    signals t = [] := by
  apply List.filter_eq_nil_iff.2
  intro x hx hsignal
  have haside := h x hx
  cases x with
  | rang | interrupted => cases haside
  | _ => cases hsignal

end Mark

namespace ReceiverPoint

/-- No frame is in hand that has not been rung for. -/
def isSettled : ReceiverPoint → Bool
  | .sort _ | .ring _ => false
  | _ => true

/-- The interrupt that is still to come for the last ring. -/
def due : ReceiverPoint → List Mark
  | .announce => [.interrupted]
  | _ => []

end ReceiverPoint

/-! ## The onlooker -/

/-- What the host gives a read: the oldest of what waits, or something else. -/
inductive HostRead where
  | oldest
  | other (found : ReadAnswer)

/-- What the host makes of a turn of the reception thread, should it poll or read in it. -/
structure HostTurn where
  /-- The port afterwards. -/
  port : Port
  poll : Except Host.Fault Host.PollEvents
  read : HostRead

/-- What can happen to a card and its threads. -/
inductive Happening where
  /-- Something arrives at the descriptor, a datagram or a fault that a read will find. -/
  | arrival (found : ReadAnswer)
  | reception (turn : HostTurn)
  /-- Anybody else takes a step. -/
  | aside (a : Actor) (ha : a.isReceiver = false)

/-- A read, with what it found. -/
structure ReadRecord where
  found : ReadAnswer
  /-- It was the oldest of what waited. -/
  waited : Bool

/-- What a read gets and what is left waiting. The host has nothing to give where nothing waits. -/
def HostRead.settle : HostRead → List ReadAnswer → ReadRecord × List ReadAnswer
  | .oldest, [] => (⟨.error (.os .wouldBlock), false⟩, [])
  | .oldest, found :: rest => (⟨found, true⟩, rest)
  | .other found, waiting => (⟨found, false⟩, waiting)

/-- Whose turn it is. -/
def Happening.actor? : Happening → Option Actor
  | .arrival _ => none
  | .reception _ => some .receiver
  | .aside a _ => some a

/-- Threads that are watched, with the books of the onlooker. -/
structure Watched (σ : Type) where
  threads : Threads σ
  trace : List Mark
  /-- All that has arrived. -/
  arrived : List ReadAnswer
  /-- What has not been read yet. -/
  waiting : List ReadAnswer
  polls : List (Except Host.Fault Host.PollEvents)
  reads : List ReadRecord
  fates : List ReadFate

namespace Watched

/-- Watching begins. -/
def start (card : Card σ) : Watched σ where
  threads := .start card
  trace := []
  arrived := []
  waiting := []
  polls := []
  reads := []
  fates := []

/-- What was waiting and has been read. -/
def taken (w : Watched σ) : List ReadAnswer :=
  (w.reads.filter ReadRecord.waited).map ReadRecord.found

/-- Note down a step. -/
def note (w : Watched σ) (step : Threads σ × List Mark) : Watched σ :=
  { w with threads := step.1, trace := w.trace ++ step.2 }

/-- The frames that found the doorbell closed. -/
def lost (w : Watched σ) : List Delivery := w.fates.filterMap ReadFate.silenced?

/-- What the step of the reception thread decides about the frame in hand. -/
def verdict? (m : Threads σ) : Option ReadFate :=
  match m.receiver with
  | .sort origin => if (m.card.prepare origin).2.isNone then some .dropped else none
  | .ring delivery =>
    some (if m.card.doorbell.isClosed then .silenced delivery else .delivered delivery)
  | _ => none

/-- What a read takes from what waits is noted as taken. -/
theorem taken_settle (w : Watched σ) (read : HostRead) :
    (((w.reads ++ [(read.settle w.waiting).1]).filter ReadRecord.waited).map ReadRecord.found) ++
      (read.settle w.waiting).2 = w.taken ++ w.waiting := by
  cases read with
  | other found => simp [HostRead.settle, taken]
  | oldest => cases w.waiting <;> simp [HostRead.settle, taken]

variable (net : NetStack σ)

/-- A turn of the reception thread. -/
def receive (w : Watched σ) (turn : HostTurn) : Watched σ :=
  match w.threads.receiver with
  | .wait =>
    { w.note (w.threads.waitOn turn.port turn.poll) with polls := w.polls ++ [turn.poll] }
  | .read =>
    let (record, waiting) := turn.read.settle w.waiting
    { w.note (w.threads.readOn turn.port record.found) with
      waiting
      reads := w.reads ++ [record]
      fates := w.fates ++ (ReadFate.ofFound? record.found).toList }
  | _ =>
    { w.note (w.threads.step net .receiver) with
      fates := w.fates ++ (verdict? w.threads).toList }

theorem receive_own {w : Watched σ} (turn : HostTurn) (hwait : w.threads.receiver ≠ .wait)
    (hread : w.threads.receiver ≠ .read) :
    w.receive net turn =
      { w.note (w.threads.step net .receiver) with
        fates := w.fates ++ (verdict? w.threads).toList } := by
  unfold receive
  split
  · contradiction
  · contradiction
  · rfl

/-- A step of the reception thread that decides nothing. -/
theorem receive_undecided {w : Watched σ} (turn : HostTurn) (hwait : w.threads.receiver ≠ .wait)
    (hread : w.threads.receiver ≠ .read) (hverdict : verdict? w.threads = none) :
    w.receive net turn = w.note (w.threads.step net .receiver) := by
  rw [receive_own net turn hwait hread, hverdict, Option.toList_none, List.append_nil]
  rfl

theorem receive_of_ended {w : Watched σ} (turn : HostTurn) (hm : w.threads.receiver = .ended) :
    w.receive net turn = w := by
  simp only [receive, hm, verdict?, note, Threads.step, Threads.step?, Threads.receiverStep,
    Option.getD_none, Option.toList_none, List.append_nil]

def next (w : Watched σ) : Happening → Watched σ
  | .arrival found => { w with arrived := w.arrived ++ [found], waiting := w.waiting ++ [found] }
  | .reception turn => w.receive net turn
  | .aside a _ => w.note (w.threads.step net a)

def after : Watched σ → List Happening → Watched σ
  | w, [] => w
  | w, h :: hs => after (w.next net h) hs

theorem after_append (w : Watched σ) (hs hs' : List Happening) :
    w.after net (hs ++ hs') = (w.after net hs).after net hs' := by
  induction hs generalizing w with
  | nil => rfl
  | cons h hs ih => exact ih _

theorem after_snoc (w : Watched σ) (hs : List Happening) (h : Happening) :
    w.after net (hs ++ [h]) = (w.after net hs).next net h := after_append net w hs [h]

/-- The step that the threads take in what happens. -/
def stepOf (w : Watched σ) : Happening → Threads σ × List Mark
  | .arrival _ => (w.threads, [])
  | .reception turn =>
    match w.threads.receiver with
    | .wait => w.threads.waitOn turn.port turn.poll
    | .read => w.threads.readOn turn.port (turn.read.settle w.waiting).1.found
    | _ => w.threads.step net .receiver
  | .aside a _ => w.threads.step net a

/-- The onlooker writes down the whole step. -/
theorem next_stepOf (w : Watched σ) (h : Happening) :
    (w.next net h).threads = (w.stepOf net h).1 ∧
      (w.next net h).trace = w.trace ++ (w.stepOf net h).2 := by
  cases h with
  | arrival found => exact ⟨rfl, (List.append_nil w.trace).symm⟩
  | aside a ha => exact ⟨rfl, rfl⟩
  | reception turn =>
    simp only [next, receive, stepOf]
    split <;> exact ⟨rfl, rfl⟩

/-- Whatever the host answers, the threads take one of the steps that there are, or none. -/
theorem stepOf_effect (w : Watched σ) (h : Happening) :
    w.stepOf net h = (w.threads, []) ∨
      ∃ a, h.actor? = some a ∧
        Threads.Effect w.threads a (w.stepOf net h).1 (w.stepOf net h).2 := by
  cases h with
  | arrival found => exact .inl rfl
  | aside a ha =>
    exact (Threads.step_cases net w.threads a).imp And.right fun heffect => ⟨a, rfl, heffect⟩
  | reception turn =>
    simp only [stepOf]
    split
    · rename_i hm
      exact .inr ⟨.receiver, rfl, Threads.waitOn_effect hm _ _⟩
    · rename_i hm
      exact .inr ⟨.receiver, rfl, Threads.readOn_effect hm _ _⟩
    · exact (Threads.step_cases net w.threads .receiver).imp And.right fun heffect =>
        ⟨.receiver, rfl, heffect⟩

/-- What the port of the card itself makes of a turn. -/
def ownTurn (m : Threads σ) : HostTurn where
  port := match m.receiver with
    | .wait => m.card.link.port.poll.1
    | _ => (m.card.link.port.read Frame.maxSize).1
  poll := m.card.link.port.poll.2
  read := .other (m.card.link.port.read Frame.maxSize).2

/-- A turn on the card's own port is the step of the reception thread. -/
theorem receive_ownTurn (w : Watched σ) :
    (w.receive net (ownTurn w.threads)).threads = (w.threads.step net .receiver).1 ∧
      (w.receive net (ownTurn w.threads)).trace =
        w.trace ++ (w.threads.step net .receiver).2 := by
  by_cases hwait : w.threads.receiver = .wait
  · rw [Threads.step, Threads.step?, Threads.receiverStep_wait hwait]
    simp only [receive, ownTurn, hwait]
    exact ⟨rfl, rfl⟩
  by_cases hread : w.threads.receiver = .read
  · rw [Threads.step, Threads.step?, Threads.receiverStep_read hread]
    simp only [receive, ownTurn, hread]
    exact ⟨rfl, rfl⟩
  · rw [receive_own net _ hwait hread]
    exact ⟨rfl, rfl⟩

/-- So whatever the threads do on their own port is among what can happen. -/
theorem exists_history (w : Watched σ) (schedule : List Actor) :
    ∃ history, (w.after net history).threads = w.threads.after net schedule ∧
      (w.after net history).trace = w.trace ++ w.threads.trace net schedule := by
  induction schedule generalizing w with
  | nil => exact ⟨[], rfl, (List.append_nil _).symm⟩
  | cons a as ih =>
    -- The port answers for the host in a turn of the reception thread.
    have hfirst : ∃ happening, (w.next net happening).threads = (w.threads.step net a).1 ∧
        (w.next net happening).trace = w.trace ++ (w.threads.step net a).2 := by
      cases a with
      | receiver => exact ⟨.reception (ownTurn w.threads), w.receive_ownTurn net⟩
      | relay | guest | closer | outside => exact ⟨.aside _ rfl, rfl, rfl⟩
    obtain ⟨happening, hthreads, htrace⟩ := hfirst
    obtain ⟨history, hlater, hmarks⟩ := ih (w.next net happening)
    refine ⟨happening :: history, ?_, ?_⟩
    · rw [Threads.after, ← hthreads]
      exact hlater
    · rw [Threads.trace, ← List.append_assoc, ← htrace, ← hthreads]
      exact hmarks

end Watched

end GuestNic
