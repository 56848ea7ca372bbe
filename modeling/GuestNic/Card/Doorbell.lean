import GuestNic.Ethernet.Buffer
import GuestNic.Guest.Handlers
import GuestNic.Net.Peer

/-!
# The doorbell

The hand-over of received frames to the guest. Reception rings with one delivery, the guest takes it
and acknowledges; there is never more than one ring outstanding. A closed doorbell rings no more,
but what was rung before can still be taken.
-/

namespace GuestNic

/-- A received frame on its way to the guest. -/
inductive Delivery where
  /-- For a protocol handler, with the type field and a copy of the header. -/
  | handler (routine : Routine) (type : UInt16) (header : Bytes) (frame : FrameBuffer)
  /-- From a peer of the tunnel. -/
  | tunnel (frame : FrameBuffer) (peer : Peer)
deriving DecidableEq

def Delivery.frame : Delivery → FrameBuffer
  | .handler _ _ _ frame => frame
  | .tunnel frame _ => frame

/-- The state of the hand-over. -/
structure Doorbell where
  /-- A ring has not been acknowledged. -/
  isPending : Bool
  /-- The delivery that has not been taken. -/
  delivery : Option Delivery
  isClosed : Bool
deriving DecidableEq

/-- The doorbell is closed. -/
structure DoorbellClosed where
deriving DecidableEq, Repr

def DoorbellClosed.message (_ : DoorbellClosed) : String := "interrupt bridge closed"

namespace Doorbell

def idle : Doorbell := { isPending := false, delivery := none, isClosed := false }

/-- Publish a delivery. -/
def ring (b : Doorbell) (d : Delivery) : Except DoorbellClosed Doorbell :=
  if b.isClosed then .error ⟨⟩ else .ok { b with isPending := true, delivery := some d }

/-- Claim the delivery, if there is one that nobody has taken. -/
def take (b : Doorbell) : Doorbell × Option Delivery :=
  if b.isPending then ({ b with delivery := none }, b.delivery) else (b, none)

/-- Answer the ring. Without one outstanding nothing happens. -/
def acknowledge (b : Doorbell) : Doorbell × Bool :=
  if b.isPending then ({ b with isPending := false, delivery := none }, true) else (b, false)

def close (b : Doorbell) : Doorbell := { b with isClosed := true }

/-- What someone who waits for the acknowledgment finds: nothing yet, or the end of the wait. -/
def awaited (b : Doorbell) : Option (Except DoorbellClosed Unit) :=
  if !b.isPending then some (.ok ()) else if b.isClosed then some (.error ⟨⟩) else none

theorem ring_of_isClosed {b : Doorbell} (h : b.isClosed = true) (d : Delivery) :
    b.ring d = .error ⟨⟩ := if_pos h

theorem ring_of_not_isClosed {b : Doorbell} (h : b.isClosed = false) (d : Delivery) :
    b.ring d = .ok { b with isPending := true, delivery := some d } :=
  if_neg (by simp [h])

/-- What is taken was rung for and has neither been taken nor acknowledged. -/
theorem take_some_iff {b : Doorbell} {d : Delivery} :
    b.take.2 = some d ↔ b.isPending = true ∧ b.delivery = some d := by
  cases hp : b.isPending <;> simp [take, hp]

/-- Acknowledging neither closes the doorbell nor opens it. -/
theorem acknowledge_isClosed (b : Doorbell) : b.acknowledge.1.isClosed = b.isClosed := by
  unfold acknowledge
  split <;> rfl

theorem awaited_eq_none_iff {b : Doorbell} :
    b.awaited = none ↔ b.isPending = true ∧ b.isClosed = false := by
  cases hp : b.isPending <;> cases hc : b.isClosed <;> simp [awaited, hp, hc]

theorem close_close (b : Doorbell) : b.close.close = b.close := rfl

end Doorbell
end GuestNic
