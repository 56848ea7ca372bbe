import GuestNic.Host.Descriptor
import GuestNic.Link.Pipe
import GuestNic.Link.Tunnel

/-!
# Ports

The host endpoint behind a link: a raw network device, a UDP tunnel, or a NAT pipe.
-/

namespace GuestNic

/-- The host drivers behind raw devices, which treat multicast filters differently. -/
inductive RawDriver where
  | sheepNet
  | ethertap
deriving DecidableEq, Repr

/-- The kinds of host endpoints. -/
inductive PortKind where
  | raw
  | tunnel
  | nat
deriving DecidableEq, Repr

/-- The name under which a kind is reported. -/
def PortKind.name : PortKind → String
  | .raw => "RawDevice"
  | .tunnel => "UdpTunnel"
  | .nat => "Nat"

/-- Where a received frame came from. -/
inductive Origin where
  | device
  | peer (peer : Peer)
deriving DecidableEq, Repr

/-- A host endpoint. -/
inductive Port where
  | raw (driver : RawDriver) (descriptor : Host.Descriptor)
  | tunnel (tunnel : Tunnel)
  | pipe (pipe : StackPipe)

namespace Port

def kind : Port → PortKind
  | .raw .. => .raw
  | .tunnel .. => .tunnel
  | .pipe .. => .nat

/-! ## Waiting -/

/-- Whether polled events mean that a frame can be read. Input counts before anything else; a broken
descriptor without input is a fault. -/
def readiness (events : Host.PollEvents) : Except Host.Fault Bool :=
  if events.input then .ok true
  else if events.isBroken then .error (.hungUp events)
  else .ok false

/-- What a poll comes to. One that was interrupted has seen nothing. -/
def polled : Except Host.Fault Host.PollEvents → Except Host.Fault Bool
  | .ok events => readiness events
  | .error (.os .interrupted) => .ok false
  | .error fault => .error fault

/-- What is reported when all that can be is input. -/
theorem polled_input (input : Bool) : polled (.ok { input }) = .ok input := by
  cases input <;> rfl

/-- Poll for readability. -/
def poll : Port → Port × Except Host.Fault Host.PollEvents
  | .raw driver descriptor =>
    let (descriptor, r) := descriptor.poll
    (.raw driver descriptor, r)
  | .tunnel t => (.tunnel t, .ok { input := !t.inbox.isEmpty })
  | .pipe p => (.pipe p, .ok { input := !p.toGuest.queue.isEmpty })

/-- Look whether a frame can be read. -/
def wait (p : Port) : Port × Except Host.Fault Bool :=
  let (port, r) := p.poll
  (port, polled r)

/-- How many reads can still find something that is waiting now. -/
def backlog : Port → Nat
  | .raw _ descriptor => descriptor.backlog
  | .tunnel t => t.inbox.length
  | .pipe p => p.toGuest.queue.length

/-! ## Frames -/

/-- Read one datagram of up to `limit` bytes. -/
def read (limit : Nat) : Port → Port × Except Host.Fault (Bytes × Origin)
  | .raw driver descriptor =>
    let (descriptor, r) := descriptor.read limit
    (.raw driver descriptor, r.map fun bytes => (bytes, .device))
  | .tunnel t =>
    let (t, r) := t.receive limit
    (.tunnel t, r.map fun (bytes, peer) => (bytes, .peer peer))
  | .pipe p =>
    let (p, r) := p.receive limit
    (.pipe p, r.map fun bytes => (bytes, .device))

/-- A write that took fewer bytes than it was given is a fault. -/
def whole (writer : Host.Writer) (length : Nat) (r : Except Host.Fault Nat) :
    Except Host.Fault Unit :=
  r.bind fun taken =>
    if taken = length then .ok () else .error (.partialWrite writer taken length)

/-- Write one frame. -/
def write (frame : Bytes) : Port → Port × Except Host.Fault Unit
  | .raw driver descriptor =>
    let (descriptor, r) := descriptor.write frame
    (.raw driver descriptor, whole .rawDevice frame.length r)
  | .tunnel t =>
    let (t, r) := t.send frame
    (.tunnel t, whole .tunnel frame.length r)
  | .pipe p =>
    let (p, r) := p.send frame
    (.pipe p, whole .natPipe (Record.encode frame).length r)

/-! ## Requests to the driver -/

/-- The address that the host reports for its end, if it has one. No descriptor here belongs to a
network driver, so raw devices refuse. -/
def hardwareAddress : Port → Option (Except Host.Fault HardwareAddress)
  | .raw .. => some (.error (.os .unsupportedRequest))
  | .tunnel t => some (.ok t.hardwareAddress)
  | .pipe _ => none

/-- Change the multicast filter of the host. Only raw devices have one. -/
def changeMulticast : Port → HardwareAddress → Except Host.Fault Unit
  | .raw .., _ => .error (.os .unsupportedRequest)
  | .tunnel _, _ => .ok ()
  | .pipe _, _ => .ok ()

/-! ## The far side -/

/-- The far side sends a frame; `peer` matters to tunnels only. -/
def arrive (peer : Peer) (frame : Bytes) : Port → Port × Bool
  | .raw driver descriptor =>
    let (descriptor, sent) := descriptor.arrive frame
    (.raw driver descriptor, sent)
  | .tunnel t =>
    let (t, sent) := t.arrive peer frame
    (.tunnel t, sent)
  | .pipe p =>
    let (p, r) := p.deliver frame
    (.pipe p, r.isOk)

/-- The far side of a raw device or NAT pipe takes every datagram that was sent to it. -/
def collect : Port → Port × List Bytes
  | .raw driver descriptor =>
    let (descriptor, frames) := descriptor.collect
    (.raw driver descriptor, frames)
  | .tunnel t => (.tunnel t, [])
  | .pipe p =>
    let (toStack, records) := p.toStack.drain
    (.pipe { p with toStack }, records)

/-- The far side goes away. -/
def closeFarSide : Port → Port
  | .raw driver descriptor => .raw driver descriptor.closeFarSide
  | .tunnel t => .tunnel t
  | .pipe p => .pipe p.closeStack

/-- The card's side goes away. -/
def close : Port → Port
  | .raw driver descriptor => .raw driver descriptor.close
  | .tunnel t => .tunnel { t with isReachable := false, inbox := [] }
  | .pipe p => .pipe p.closeCard

end Port
end GuestNic
