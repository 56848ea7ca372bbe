import GuestNic.Card.Reception
import GuestNic.Proofs.Link.Queue
import Mathlib.Data.List.Induction

/-!
# Histories of a card

A card lives by moves: calls of the driver, frames of the far side, services of its interrupt, and
in between rounds of its relay and of its reception, in any order. `Card.after` is the card that a
list of moves leads to, `Card.log` collects what can be seen on the way, and `Card.settled` lets
everything settle after each move.
-/

namespace GuestNic

/-- What can happen to a card from outside, other than the service of its interrupt. -/
inductive Call where
  | attach (type : UInt16) (routine : Routine)
  | detach (type : UInt16)
  | reset
  | transmit (memory : GuestMemory) (packet : OutgoingPacket)
  | transmitFrame (frame : Bytes)
  /-- The far side sends a frame. -/
  | arrive (peer : Peer) (frame : Bytes)

/-- One step in the life of an open card. -/
inductive Move where
  | call (call : Call)
  | service
  /-- One round of the relay. -/
  | relay
  /-- One round of reception. -/
  | receive

namespace Card

variable {σ : Type}

/-! ## Single moves -/

/-- The frames that wait at the card's port, oldest first. -/
def queue (c : Card σ) : List Bytes := c.link.port.queue

/-- The far side sends a frame. In NAT mode the far side is the card's own relay, and nobody else
can send. -/
def arrive (c : Card σ) (peer : Peer) (frame : Bytes) : Card σ × Bool :=
  match c.relay with
  | none =>
    let (port, sent) := c.link.port.arrive peer frame
    ({ c with link := { c.link with port } }, sent)
  | some _ => (c, false)

def perform (c : Card σ) : Call → Card σ × List CardEvent
  | .attach type routine => ((c.attach type routine).1, [])
  | .detach type => ((c.detach type).1, [])
  | .reset => (c.reset, [])
  | .transmit memory packet =>
    let (c, events, _) := c.transmit memory packet
    (c, events)
  | .transmitFrame frame => ((c.transmitFrame frame).1, [])
  | .arrive peer frame => ((c.arrive peer frame).1, [])

/-- Let something happen to the relay and its pipe. -/
def onRelay (act : Relay σ → StackPipe → Relay σ × StackPipe) (c : Card σ) : Card σ :=
  match c.link.port, c.relay with
  | .pipe pipe, some relay =>
    let (relay, pipe) := act relay pipe
    { c with link := { c.link with port := .pipe pipe }, relay := some relay }
  | _, _ => c

variable (net : NetStack σ)

/-- One round of the relay of an open card. -/
def relayRound (c : Card σ) : Card σ := if c.isOpen then c.onRelay (Relay.round net) else c

def move (c : Card σ) : Move → Card σ × List CardEvent
  | .call call => c.perform call
  | .service =>
    let (c, events, _) := c.service
    (c, events)
  | .relay => (c.relayRound net, [])
  | .receive => c.receive

/-! ## Many moves -/

/-- The card after some moves. -/
def after : Card σ → List Move → Card σ
  | c, [] => c
  | c, m :: ms => after (c.move net m).1 ms

/-- What `see` sees at each move, in order. -/
def log {α : Type} (see : Card σ → Move → List α) : Card σ → List Move → List α
  | _, [] => []
  | c, m :: ms => see c m ++ log see (c.move net m).1 ms

/-- The events of a history. -/
def events (c : Card σ) (moves : List Move) : List CardEvent :=
  log net (fun c m => (c.move net m).2) c moves

/-- The frame of the far side that finds room in the card's queue in one move. -/
def arrived (c : Card σ) : Move → List Bytes
  | .call (.arrive peer frame) => if (c.arrive peer frame).2 then [frame] else []
  | _ => []

/-- The frames of the far side that found room in the card's queue. -/
def arrivals (c : Card σ) (moves : List Move) : List Bytes := log net arrived c moves

@[simp] theorem after_nil (c : Card σ) : c.after net [] = c := rfl

@[simp] theorem log_nil {α : Type} (see : Card σ → Move → List α) (c : Card σ) :
    log net see c [] = [] := rfl

theorem after_append (c : Card σ) (ms ns : List Move) :
    c.after net (ms ++ ns) = (c.after net ms).after net ns := by
  induction ms generalizing c with
  | nil => rfl
  | cons m ms ih => exact ih _

theorem log_append {α : Type} (see : Card σ → Move → List α) (c : Card σ) (ms ns : List Move) :
    log net see c (ms ++ ns) = log net see c ms ++ log net see (c.after net ms) ns := by
  induction ms generalizing c with
  | nil => rfl
  | cons m ms ih =>
    simp only [List.cons_append, log, after, List.append_assoc]
    rw [ih]

theorem after_snoc (c : Card σ) (ms : List Move) (m : Move) :
    c.after net (ms ++ [m]) = ((c.after net ms).move net m).1 := by
  rw [after_append]; rfl

theorem log_snoc {α : Type} (see : Card σ → Move → List α) (c : Card σ) (ms : List Move)
    (m : Move) : log net see c (ms ++ [m]) = log net see c ms ++ see (c.after net ms) m := by
  rw [log_append]
  simp only [log, List.append_nil]

/-- What holds at the start and is kept by every move holds after every history. -/
theorem history_induction {motive : List Move → Prop} (start : motive [])
    (step : ∀ ms m, motive ms → motive (ms ++ [m])) (moves : List Move) : motive moves := by
  induction moves using List.reverseRecOn with
  | nil => exact start
  | append_singleton ms m ih => exact step ms m ih

/-! ## Settling -/

/-- How many rounds the relay runs when everything settles. -/
def relayRounds (c : Card σ) : Nat :=
  match c.isOpen, c.link.port, c.relay with
  | true, .pipe pipe, some _ => pipe.toStack.queue.length + 2
  | _, _, _ => 0

/-- The rounds in which everything settles: first those of the relay, then those of reception. -/
def settling (c : Card σ) : List Move :=
  let relaying := List.replicate c.relayRounds Move.relay
  relaying ++ List.replicate ((c.after net relaying).link.port.backlog + 1) .receive

/-- The moves of a history in which everything settles after each of `moves`. -/
def settled : Card σ → List Move → List Move
  | _, [] => []
  | c, m :: ms =>
    let now := m :: (c.move net m).1.settling net
    now ++ settled (c.after net now) ms

/-- Make a move and let everything settle. -/
def act (c : Card σ) (m : Move) : Card σ × List CardEvent :=
  let (c, events) := c.move net m
  let (c, more) := c.settle net
  (c, events ++ more)

theorem receiveTimes_of_eq {c : Card σ} (h : c.receive = (c, [])) (n : Nat) :
    receiveTimes n c = (c, []) := by
  induction n with
  | zero => rfl
  | succ n ih =>
    rw [receiveTimes, h]
    simp only [ih, List.append_nil]

theorem receiveTimes_eq (n : Nat) (c : Card σ) :
    receiveTimes n c =
      (c.after net (List.replicate n .receive), c.events net (List.replicate n .receive)) := by
  induction n generalizing c with
  | zero => rfl
  | succ n ih =>
    simp only [receiveTimes, ih, List.replicate_succ]
    rfl

theorem after_relay_replicate {c : Card σ} {pipe : StackPipe} {relay : Relay σ}
    (ho : c.isOpen = true) (hp : c.link.port = .pipe pipe) (hr : c.relay = some relay) (n : Nat) :
    c.after net (List.replicate n .relay) =
      { c with
        link := { c.link with port := .pipe (Relay.rounds net n relay pipe).2 }
        relay := some (Relay.rounds net n relay pipe).1 } := by
  induction n generalizing c pipe relay with
  | zero =>
    obtain ⟨_, _, _, ⟨port, traffic⟩, _⟩ := c
    cases hp; cases hr; rfl
  | succ n ih =>
    -- A round leads to a card of the same shape, for which the induction hypothesis speaks.
    have hmove : (c.move net .relay).1 = { c with
        link := { c.link with port := .pipe (Relay.round net relay pipe).2 }
        relay := some (Relay.round net relay pipe).1 } := by
      simp only [move, relayRound, ho, ↓reduceIte, onRelay, hp, hr]
    rw [List.replicate_succ, after, hmove]
    exact ih ho rfl rfl

theorem events_relay_replicate (c : Card σ) (n : Nat) :
    c.events net (List.replicate n .relay) = [] := by
  unfold events
  induction n generalizing c with
  | zero => rfl
  | succ n ih =>
    -- A round of the relay is not seen by the machine around the card.
    rw [List.replicate_succ, log, ih]
    rfl

theorem runRelay_eq (c : Card σ) :
    c.runRelay net = c.after net (List.replicate c.relayRounds .relay) := by
  unfold runRelay
  split
  · rename_i pipe relay ho hp hr
    have hn : c.relayRounds = pipe.toStack.queue.length + 2 := by
      simp only [relayRounds, ho, hp, hr]
    rw [hn, after_relay_replicate net ho hp hr]
    rfl
  · rename_i hno
    have hn : c.relayRounds = 0 := by
      unfold relayRounds
      split
      · rename_i ho hp hr
        exact (hno _ _ ho hp hr).elim
      · rfl
    rw [hn]
    rfl

/-- Settling is a history of its own. -/
theorem settle_eq (c : Card σ) :
    c.settle net = (c.after net (c.settling net), c.events net (c.settling net)) := by
  have hev := events_relay_replicate net c c.relayRounds
  unfold events at hev
  simp only [settle, settling, runRelay_eq, receiveTimes_eq net, after_append, events, log_append,
    hev, List.nil_append]

/-- The history `settled` is what making each move and letting everything settle amounts to. -/
theorem after_settled (c : Card σ) (moves : List Move) :
    c.after net (c.settled net moves) = moves.foldl (fun c m => (c.act net m).1) c := by
  induction moves generalizing c with
  | nil => rfl
  | cons m ms ih =>
    have hact : (c.act net m).1 = c.after net (m :: (c.move net m).1.settling net) := by
      simp only [act, settle_eq, after]
    rw [settled, after_append, ih, List.foldl_cons, hact]

end Card
end GuestNic
