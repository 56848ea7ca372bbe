import GuestNic.Card.Doorbell
import GuestNic.Card.Event
import GuestNic.Card.Stats
import GuestNic.Card.Status
import GuestNic.Guest.Packet

/-!
# The card

The emulated network card: a link to the host, a table of protocol handlers, the doorbell, and in
NAT mode the relay with its network stack. Driver calls are functions from a card to the card
afterwards, with the answer and the events on the way. What reception and the relay do by
themselves stands in `GuestNic.Card.Reception`.
-/

namespace GuestNic

/-- An emulated network card whose network stack has states in `σ`. -/
structure Card (σ : Type) where
  handlers : HandlerTable
  doorbell : Doorbell
  counters : CardCounters
  link : Link
  relay : Option (Relay σ)
  /-- The buffer into which reception reads. -/
  buffer : FrameBuffer
  /-- Reception has not ended. -/
  isReceiving : Bool
  layout : ReceiveLayout
  address : HardwareAddress
  /-- The card has not been shut down. -/
  isOpen : Bool

namespace Card

variable {σ : Type}

/-! ## Addresses -/

/-- The address of a card in NAT mode. -/
def natAddress : HardwareAddress := ⟨0x52, 0x54, 0x00, 0x12, 0x34, 0x56⟩

/-- The address of a card whose host will not tell one. -/
def fallbackAddress : HardwareAddress := ⟨0x12, 0x34, 0x56, 0x78, 0x9a, 0xbc⟩

/-- The address of a card on the given port. -/
def addressOn (port : Port) : HardwareAddress :=
  match port.hardwareAddress with
  | none => natAddress
  | some (.ok address) => address
  | some (.error _) => fallbackAddress

/-! ## Life -/

/-- A fresh card on a link. -/
def ofLink (link : Link) (relay : Option (Relay σ)) (layout : ReceiveLayout) : Card σ where
  handlers := .empty
  doorbell := .idle
  counters := {}
  link := link
  relay := relay
  buffer := .empty
  isReceiving := true
  layout := layout
  address := addressOn link.port
  isOpen := true

/-- The port of a card that lets it go: the card's side is closed, and in NAT mode the relay's side
too. -/
def releasedPort (c : Card σ) : Port :=
  match c.relay, c.link.port.close with
  | some _, .pipe p => .pipe p.closeStack
  | _, port => port

/-- Shut the card down. What has been rung for can still be serviced; the counters of link and relay
stay as they are. -/
def shutdown (c : Card σ) : Card σ :=
  if c.isOpen then
    { c with
      doorbell := c.doorbell.close
      link := { c.link with port := c.releasedPort }
      isReceiving := false
      isOpen := false }
  else c

def kind (c : Card σ) : PortKind := c.link.kind

def stats (c : Card σ) : CardStats :=
  { card := c.counters, link := c.link.traffic, relay := c.relay.map Relay.counters }

/-- A short description of the card. -/
def render (c : Card σ) : String :=
  "EtherDevice \x7b kind: " ++ c.kind.name ++ ", mac: " ++ c.address.render ++ ", open: " ++
    toString c.isOpen ++ ", .. \x7d"

/-! ## Handlers -/

def attach (c : Card σ) (type : UInt16) (routine : Routine) :
    Card σ × Except HandlerFault Unit :=
  match c.handlers.attach type routine with
  | .ok handlers => ({ c with handlers }, .ok ())
  | .error e => (c, .error e)

def detach (c : Card σ) (type : UInt16) : Card σ × Except HandlerFault Unit :=
  match c.handlers.detach type with
  | .ok handlers => ({ c with handlers }, .ok ())
  | .error e => (c, .error e)

/-- Forget every handler. -/
def reset (c : Card σ) : Card σ := { c with handlers := .empty }

/-! ## Sending -/

/-- Count a packet that was too long. -/
def refuseTooLong (c : Card σ) (len max : Nat) : Card σ × Except TransmitFault Unit :=
  ({ c with counters.txTooLong := c.counters.txTooLong + 1 }, .error (.tooLong len max))

/-- Write a frame to the link. -/
def send (c : Card σ) (frame : Bytes) : Card σ × Except TransmitFault Unit :=
  if Frame.maxSize < frame.length then refuseTooLong c frame.length Frame.maxSize
  else
    match c.link.write frame with
    | (link, .ok ()) =>
      ({ c with link, counters.txPackets := c.counters.txPackets + 1 }, .ok ())
    | (link, .error fault) =>
      ({ c with link, counters.txRefused := c.counters.txRefused + 1 }, .error (.host fault))

/-- Send a frame that the host already holds. -/
def transmitFrame (c : Card σ) (frame : Bytes) : Card σ × Except TransmitFault Unit :=
  if c.isOpen then c.send frame else (c, .error .closed)

/-- Put a packet together from guest memory and send it. -/
def transmit (c : Card σ) (m : GuestMemory) (packet : OutgoingPacket) :
    Card σ × List CardEvent × Except TransmitFault Unit :=
  if c.isOpen then
    let assembly := packet.assemble m
    let events := assembly.reads.map fun p => CardEvent.read p.address p.length
    let (c, r) :=
      match assembly.result with
      | .error e => refuseTooLong c e.len e.max
      | .ok frame => c.send frame.contents
    (c, events, r)
  else (c, [], .error .closed)

/-! ## Multicast -/

/-- Listen to a group address. An ethertap device that refuses delivers the group's frames all the
same. -/
def addMulticast (c : Card σ) (address : HardwareAddress) : Except MulticastFault Unit :=
  if c.isOpen then
    match c.link.port, c.link.port.changeMulticast address with
    | _, .ok () => .ok ()
    | .raw .ethertap _, .error _ => .ok ()
    | _, .error fault => .error ⟨fault⟩
  else .ok ()

/-- Listen to a group address no longer. -/
def removeMulticast (c : Card σ) (address : HardwareAddress) : Except MulticastFault Unit :=
  if c.isOpen then (c.link.port.changeMulticast address).mapError MulticastFault.mk else .ok ()

/-! ## Interrupts -/

/-- What the guest is given for a delivery. -/
def upcall (layout : ReceiveLayout) : Delivery → List CardEvent
  | .handler routine type header frame =>
    [.write layout.packetBuffer frame.contents, .write layout.headerArea header,
      .enter routine (layout.registers type frame.len)]
  | .tunnel frame peer => [.tunnelFrame frame.contents peer]

/-- Hand the outstanding delivery to the guest and acknowledge it. The answer tells whether there
was one. -/
def service (c : Card σ) : Card σ × List CardEvent × Bool :=
  match c.doorbell.take with
  | (_, none) =>
    ({ c with counters.interruptsSpurious := c.counters.interruptsSpurious + 1 }, [], false)
  | (doorbell, some delivery) =>
    let counters := { c.counters with
      interruptsServiced := c.counters.interruptsServiced + 1
      rxPackets := c.counters.rxPackets + 1 }
    ({ c with counters, doorbell := doorbell.acknowledge.1 }, upcall c.layout delivery, true)

end Card
end GuestNic
