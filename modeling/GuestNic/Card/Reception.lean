import GuestNic.Card.Basic

/-!
# Reception

What a card does without being called: reception reads one frame at a time and rings for it, then
rests until the ring is acknowledged; the relay passes frames to and from the network stack.
`settle` lets both go on until nothing is left to do.
-/

namespace GuestNic.Card

variable {σ : Type}

/-! ## One frame -/

/-- Ring for a delivery. -/
def publish (c : Card σ) (delivery : Delivery) : Card σ × List CardEvent :=
  match c.doorbell.ring delivery with
  | .error _ => (c, [])
  | .ok doorbell =>
    ({ c with doorbell, counters.interruptsRaised := c.counters.interruptsRaised + 1 },
      [.interrupt])

/-- The handler for frames with type field `t`, unless it is the null routine. -/
def handlerFor? (c : Card σ) (t : UInt16) : Option Routine :=
  (c.handlers.find? (Frame.handlerKey t)).filter fun routine => !routine.isNull

/-- The delivery that the frame in the buffer asks for; the buffer is given away with it. Frames of a
peer bypass the handler table; others are dropped unless they have a handler. -/
def prepare (c : Card σ) (origin : Origin) : Card σ × Option Delivery :=
  let frame := c.buffer
  let c := { c with buffer := .empty }
  match origin, frame.header?, frame.typeField? with
  | .peer peer, _, _ => (c, some (.tunnel frame peer))
  | .device, some header, some t =>
    match c.handlerFor? t with
    | some routine => (c, some (.handler routine t header frame))
    | none => ({ c with counters.rxDropped := c.counters.rxDropped + 1 }, none)
  | .device, _, _ => (c, none)

/-- Pass on the frame that was read. -/
def deliver (c : Card σ) (origin : Origin) : Card σ × List CardEvent :=
  match c.prepare origin with
  | (c, some delivery) => c.publish delivery
  | (c, none) => (c, [])

/-- The warning when reception ends. -/
def receptionLost (fault : Host.Fault) : String :=
  s!"network device became unreadable: {fault.message}"

/-- One round of reception: wait, read a frame, pass it on. While a ring is outstanding nothing is
read. A wait that fails ends reception for good; a read that fails does not. -/
def receive (c : Card σ) : Card σ × List CardEvent :=
  if !c.isOpen || !c.isReceiving || c.doorbell.isPending then (c, [])
  else
    match c.link.wait with
    | (link, .error fault) =>
      ({ c with link, isReceiving := false, counters.rxFailed := true },
        [.alert (receptionLost fault)])
    | (link, .ok false) => ({ c with link }, [])
    | (link, .ok true) =>
      match link.read c.buffer with
      | (link, buffer, .ok (some origin)) => deliver { c with link, buffer } origin
      | (link, buffer, _) => ({ c with link, buffer }, [])

/-! ## Going on until there is nothing to do -/

/-- Rounds of reception. -/
def receiveTimes : Nat → Card σ → Card σ × List CardEvent
  | 0, c => (c, [])
  | n + 1, c =>
    let (c, events) := c.receive
    let (c, more) := receiveTimes n c
    (c, events ++ more)

/-- Let the relay of an open card pass on what waits for it. -/
def runRelay (net : NetStack σ) (c : Card σ) : Card σ :=
  match c.isOpen, c.link.port, c.relay with
  | true, .pipe pipe, some relay =>
    let (relay, pipe) := relay.settle net pipe
    { c with link := { c.link with port := .pipe pipe }, relay := some relay }
  | _, _, _ => c

/-- Let the relay and then reception go on until neither has anything left to do. -/
def settle (net : NetStack σ) (c : Card σ) : Card σ × List CardEvent :=
  let c := c.runRelay net
  receiveTimes (c.link.port.backlog + 1) c

end GuestNic.Card
