import GuestNic.Ethernet.Address
import GuestNic.Host.Fault
import GuestNic.Net.Peer

/-!
# UDP tunnels

Frames carried as datagrams between cards on one network, all on the same port. The hardware
address of a card is two fixed bytes and its IPv4 address, so a frame for such an address goes
straight to its owner; every other frame is broadcast.
-/

namespace GuestNic

/-- Where a datagram is sent. -/
structure Endpoint where
  address : Ipv4
  port : UInt16
deriving DecidableEq, Repr

/-- A tunnel socket, with the datagrams that wait for it and those it has sent, oldest first. -/
structure Tunnel where
  port : UInt16
  localAddress : Ipv4
  /-- Whether the host has a way to the network. -/
  isReachable : Bool
  inbox : List (Peer × Bytes)
  outbox : List (Endpoint × Bytes)

namespace Tunnel

/-- The two bytes in front of the IPv4 address. -/
def addressMark : UInt8 × UInt8 := (0x42, 0x32)

/-- The largest datagram that the network carries. -/
def maxDatagram : Nat := 65507

/-- The largest length that can be asked for at all. -/
def maxRequest : Nat := 65535

def ofAddress (port : UInt16) (localAddress : Ipv4) (isReachable : Bool) : Tunnel :=
  { port, localAddress, isReachable, inbox := [], outbox := [] }

/-! ## Addresses -/

/-- The hardware address of the card at `address`. -/
def hardwareAddressOf (address : Ipv4) : HardwareAddress :=
  ⟨addressMark.1, addressMark.2, address.a, address.b, address.c, address.d⟩

def hardwareAddress (t : Tunnel) : HardwareAddress := hardwareAddressOf t.localAddress

/-- Where a frame goes: to the card whose hardware address it carries, else to everybody, and always
to the port that the tunnels share. -/
def destination (t : Tunnel) (frame : Bytes) : Endpoint :=
  match frame with
  | m :: n :: a :: b :: c :: d :: _ =>
    if (m, n) = addressMark then ⟨⟨a, b, c, d⟩, t.port⟩ else ⟨.broadcast, t.port⟩
  | _ => ⟨.broadcast, t.port⟩

/-! ## Datagrams -/

/-- Send a frame as one datagram. -/
def send (t : Tunnel) (frame : Bytes) : Tunnel × Except Host.Fault Nat :=
  if maxRequest < frame.length then (t, .error (.os .messageTooLong))
  else if !t.isReachable then (t, .error (.os .networkUnreachable))
  else if maxDatagram < frame.length then (t, .error (.os .messageTooLong))
  else ({ t with outbox := t.outbox ++ [(t.destination frame, frame)] }, .ok frame.length)

/-- Take the oldest datagram, cut to the first `limit` bytes. -/
def receive (t : Tunnel) (limit : Nat) : Tunnel × Except Host.Fault (Bytes × Peer) :=
  match t.inbox with
  | [] => (t, .error (.os .wouldBlock))
  | (peer, d) :: rest => ({ t with inbox := rest }, .ok (d.take limit, peer))

/-- A peer sends a datagram; the answer tells whether the network carried it. -/
def arrive (t : Tunnel) (peer : Peer) (datagram : Bytes) : Tunnel × Bool :=
  if t.isReachable && datagram.length ≤ maxDatagram then
    ({ t with inbox := t.inbox ++ [(peer, datagram)] }, true)
  else (t, false)

/-- The network takes what the tunnel has sent, to carry it to the addresses. -/
def collect (t : Tunnel) : Tunnel × List (Ipv4 × Bytes) :=
  ({ t with outbox := [] }, t.outbox.map fun (endpoint, d) => (endpoint.address, d))

end Tunnel
end GuestNic
