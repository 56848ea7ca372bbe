import GuestNic.Proofs.Card.Growth
import Mathlib.Logic.Function.Basic

/-!
# The threads of a card

A card is worked on by its reception thread, by the relay's thread, by any number of guest threads
that service the interrupt, and in the end by one thread that shuts it down. Each of them is a
program of steps, and a step performs one operation on what they share: the doorbell, the two flags
that ask a thread to stop, the link, the handler table. A schedule says whose turn it is; a thread
that cannot go on leaves everything as it is. Whatever else the driver and the far side do may
happen at any point.
-/

namespace GuestNic

/-! ## Programs -/

/-- Where the reception thread stands, named for the step it takes next. -/
inductive ReceiverPoint where
  /-- Look whether to stop. -/
  | check
  /-- Wait until a frame can be read. -/
  | wait
  | read
  /-- Find out where the frame in the buffer goes. -/
  | sort (origin : Origin)
  | ring (delivery : Delivery)
  /-- Raise the interrupt. -/
  | announce
  /-- Wait for the acknowledgment. -/
  | await
  | ended
deriving DecidableEq

/-- Where the relay's thread stands. -/
inductive RelayPoint where
  /-- Look whether to stop. -/
  | check
  | input
  | serve
  | ended
deriving DecidableEq

/-- Where a guest thread stands in a service of the interrupt. -/
inductive GuestPoint where
  | idle
  /-- Hand the delivery that was taken to the guest. -/
  | upcall (delivery : Delivery)
  | acknowledge (delivery : Delivery)
deriving DecidableEq

/-- How far the card has been shut down. -/
inductive CloserPoint where
  /-- Shutdown has not begun. -/
  | running
  /-- The reception thread has been asked to stop. -/
  | flagged
  /-- The doorbell is closed. -/
  | silenced
  /-- The relay's thread has been asked to stop and is waited for. -/
  | stopping
  /-- The reception thread is waited for. -/
  | joining
  | finished
deriving DecidableEq

/-- Whose turn it is. -/
inductive Actor where
  | receiver
  | relay
  | guest (i : Nat)
  | closer
  /-- A call of the driver, or a frame of the far side. -/
  | outside (call : Call)

/-- A step that matters to others. -/
inductive Mark where
  /-- The reception thread reads from the link. -/
  | read
  | rang (delivery : Delivery)
  /-- The interrupt is raised. -/
  | interrupted
  | alerted (text : String)
  /-- A guest thread finds a delivery. -/
  | took (i : Nat) (delivery : Delivery)
  /-- A guest thread finds none, and its service answers that there was none. -/
  | missed (i : Nat)
  /-- A guest thread hands over what it took. -/
  | handed (i : Nat) (delivery : Delivery)
  /-- A guest thread acknowledges, and its service answers that there was a delivery; `answer` is
  what the doorbell told it. -/
  | acknowledged (i : Nat) (delivery : Delivery) (answer : Bool)
  /-- The doorbell is closed. -/
  | silenced

/-- What the machine around the card notices of a step. -/
def Mark.events (layout : ReceiveLayout) : Mark → List CardEvent
  | .interrupted => [.interrupt]
  | .alerted text => [.alert text]
  | .handed _ delivery => Card.upcall layout delivery
  | _ => []

/-- A card with the threads that work on it. -/
structure Threads (σ : Type) where
  card : Card σ
  /-- Asks the reception thread to stop. -/
  cancelled : Bool
  /-- Asks the relay's thread to stop. -/
  relayCancelled : Bool
  receiver : ReceiverPoint
  relay : RelayPoint
  guests : Nat → GuestPoint
  closer : CloserPoint

namespace Threads

variable {σ : Type}

/-- The threads of a card that has just been started. -/
def start (card : Card σ) : Threads σ where
  card
  cancelled := false
  relayCancelled := false
  receiver := .check
  relay := if card.relay.isSome then .check else .ended
  guests _ := .idle
  closer := .running

/-! ## Steps -/

def receiverStep (m : Threads σ) : Option (Threads σ × List Mark) :=
  match m.receiver with
  | .check => some ({ m with receiver := if m.cancelled then .ended else .wait }, [])
  | .wait =>
    match m.card.link.wait with
    -- Reception is over for good, whether or not anybody asked for it.
    | (link, .error fault) =>
      some ({ m with
        card := { m.card with link, isReceiving := false, counters.rxFailed := true }
        receiver := .ended }, [.alerted (Card.receptionLost fault)])
    | (link, .ok isReady) =>
      some ({ m with
        card := { m.card with link }
        receiver := if isReady then .read else .check }, [])
  | .read =>
    match m.card.link.read m.card.buffer with
    | (link, buffer, .ok (some origin)) =>
      some ({ m with card := { m.card with link, buffer }, receiver := .sort origin }, [.read])
    | (link, buffer, _) =>
      some ({ m with card := { m.card with link, buffer }, receiver := .check }, [.read])
  | .sort origin =>
    match m.card.prepare origin with
    | (card, some delivery) => some ({ m with card, receiver := .ring delivery }, [])
    | (card, none) => some ({ m with card, receiver := .check }, [])
  | .ring delivery =>
    match m.card.doorbell.ring delivery with
    | .ok doorbell =>
      some ({ m with card := { m.card with doorbell }, receiver := .announce }, [.rang delivery])
    -- The doorbell is closed, and the frame is lost.
    | .error _ => some ({ m with receiver := .check }, [])
  | .announce =>
    some ({ m with
      card := { m.card with
        counters.interruptsRaised := m.card.counters.interruptsRaised + 1 }
      receiver := .await }, [.interrupted])
  -- Blocked until the ring is acknowledged or the doorbell is closed.
  | .await => m.card.doorbell.awaited.map fun _ => ({ m with receiver := .check }, [])
  | .ended => none

/-- The stack's side of a pipe is let go when the thread of the relay ends. -/
def releaseStack (card : Card σ) : Card σ :=
  card.onRelay fun relay pipe => (relay, pipe.closeStack)

def relayStep (net : NetStack σ) (m : Threads σ) : Option (Threads σ × List Mark) :=
  match m.relay with
  | .check =>
    if m.relayCancelled then some ({ m with card := releaseStack m.card, relay := .ended }, [])
    else some ({ m with relay := .input }, [])
  | .input => some ({ m with card := m.card.onRelay (Relay.takeInput net), relay := .serve }, [])
  | .serve => some ({ m with card := m.card.onRelay (Relay.serve net), relay := .check }, [])
  | .ended => none

/-- A step of a service of the interrupt; an idle thread begins one. -/
def guestStep (i : Nat) (m : Threads σ) : Threads σ × List Mark :=
  match m.guests i with
  | .idle =>
    match m.card.doorbell.take with
    -- The service is over; the doorbell is as it was.
    | (_, none) =>
      ({ m with
        card := { m.card with
          counters.interruptsSpurious := m.card.counters.interruptsSpurious + 1 } }, [.missed i])
    | (doorbell, some delivery) =>
      ({ m with
        card := { m.card with doorbell }
        guests := Function.update m.guests i (.upcall delivery) }, [.took i delivery])
  | .upcall delivery =>
    ({ m with
      card := { m.card with counters := { m.card.counters with
        interruptsServiced := m.card.counters.interruptsServiced + 1
        rxPackets := m.card.counters.rxPackets + 1 } }
      guests := Function.update m.guests i (.acknowledge delivery) }, [.handed i delivery])
  | .acknowledge delivery =>
    ({ m with
      card := { m.card with doorbell := m.card.doorbell.acknowledge.1 }
      guests := Function.update m.guests i .idle },
      [.acknowledged i delivery m.card.doorbell.acknowledge.2])

/-- A card whose threads have ended lets its port go. -/
def release (card : Card σ) : Card σ :=
  { card with
    link := { card.link with port := card.releasedPort }
    isReceiving := false
    isOpen := false }

def closerStep (m : Threads σ) : Option (Threads σ × List Mark) :=
  match m.closer with
  | .running => some ({ m with cancelled := true, closer := .flagged }, [])
  | .flagged =>
    some ({ m with
      card := { m.card with doorbell := m.card.doorbell.close }
      closer := .silenced }, [.silenced])
  | .silenced => some ({ m with relayCancelled := true, closer := .stopping }, [])
  -- Blocked until the thread that is waited for has ended.
  | .stopping => if m.relay = .ended then some ({ m with closer := .joining }, []) else none
  | .joining =>
    if m.receiver = .ended then some ({ m with card := release m.card, closer := .finished }, [])
    else none
  | .finished => none

variable (net : NetStack σ)

/-- The step of an actor, if it can go on. -/
def step? (m : Threads σ) : Actor → Option (Threads σ × List Mark)
  | .receiver => m.receiverStep
  | .relay => m.relayStep net
  | .guest i => some (m.guestStep i)
  | .closer => m.closerStep
  | .outside call => some ({ m with card := (m.card.perform call).1 }, [])

def step (m : Threads σ) (a : Actor) : Threads σ × List Mark := (m.step? net a).getD (m, [])

/-! ## Schedules -/

/-- The threads after a schedule. -/
def after : Threads σ → List Actor → Threads σ
  | m, [] => m
  | m, a :: as => after (m.step net a).1 as

/-- What happens in a schedule. -/
def trace : Threads σ → List Actor → List Mark
  | _, [] => []
  | m, a :: as => (m.step net a).2 ++ trace (m.step net a).1 as

@[simp] theorem after_nil (m : Threads σ) : m.after net [] = m := rfl

@[simp] theorem trace_nil (m : Threads σ) : m.trace net [] = [] := rfl

theorem after_append (m : Threads σ) (as bs : List Actor) :
    m.after net (as ++ bs) = (m.after net as).after net bs := by
  induction as generalizing m with
  | nil => rfl
  | cons a as ih => exact ih _

theorem trace_append (m : Threads σ) (as bs : List Actor) :
    m.trace net (as ++ bs) = m.trace net as ++ (m.after net as).trace net bs := by
  induction as generalizing m with
  | nil => rfl
  | cons a as ih =>
    rw [List.cons_append, trace, ih, trace, after, List.append_assoc]

theorem after_snoc (m : Threads σ) (as : List Actor) (a : Actor) :
    m.after net (as ++ [a]) = ((m.after net as).step net a).1 := by
  rw [after_append]; rfl

theorem trace_snoc (m : Threads σ) (as : List Actor) (a : Actor) :
    m.trace net (as ++ [a]) = m.trace net as ++ ((m.after net as).step net a).2 := by
  rw [trace_append]
  simp only [trace, List.append_nil]

end Threads
end GuestNic
