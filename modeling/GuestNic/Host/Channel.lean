import GuestNic.Bytes
import GuestNic.Host.Fault

/-!
# Datagram channels

One direction of a pair of connected datagram sockets: a bounded queue. A datagram is queued whole
or not at all. Once the receiver has gone the first send is refused and every later one finds no
connection; what the sender queued before it went can still be received.
-/

namespace GuestNic.Host

/-- How the sending end of a channel stands. -/
inductive SenderState where
  | connected
  /-- The sender has been told that the receiver is gone. -/
  | disconnected
  | closed
deriving DecidableEq, Repr

/-- A queue of datagrams from a sender to a receiver. -/
structure Channel where
  capacity : Nat
  queue : List Bytes
  sender : SenderState
  receiverOpen : Bool
deriving DecidableEq, Repr

namespace Channel

/-- How many frames of the largest size a host queues unless it is told otherwise. -/
def usualCapacity : Nat := 93

/-- An empty channel with room for `capacity` datagrams. -/
def ofCapacity (capacity : Nat) : Channel :=
  { capacity, queue := [], sender := .connected, receiverOpen := true }

/-- Queue a datagram. -/
def send (c : Channel) (datagram : Bytes) : Channel × Except Fault Unit :=
  match c.sender with
  | .closed => (c, .error (.os .badDescriptor))
  | .disconnected => (c, .error (.os .notConnected))
  | .connected =>
    if !c.receiverOpen then ({ c with sender := .disconnected }, .error (.os .connectionRefused))
    else if c.capacity ≤ c.queue.length then (c, .error (.os .wouldBlock))
    else ({ c with queue := c.queue ++ [datagram] }, .ok ())

/-- Take the oldest datagram, cut to the first `limit` bytes. -/
def receive (c : Channel) (limit : Nat) : Channel × Except Fault Bytes :=
  match c.queue with
  | [] => (c, .error (.os .wouldBlock))
  | d :: ds => ({ c with queue := ds }, .ok (d.take limit))

/-- Forget what waits for the receiver. -/
def purge (c : Channel) : Channel := { c with queue := [] }

/-- The receiver goes away, and what was queued for it is lost. -/
def closeReceiver (c : Channel) : Channel := { c.purge with receiverOpen := false }

/-- The sender goes away; what it queued stays. -/
def closeSender (c : Channel) : Channel := { c with sender := .closed }

/-- Take everything. -/
def drain (c : Channel) : Channel × List Bytes := (c.purge, c.queue)

end Channel
end GuestNic.Host
