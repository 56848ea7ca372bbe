import GuestNic.Ethernet.Record
import GuestNic.Host.Channel

/-!
# Stack pipes

The two channels between the card and the relay that drives a network stack. Towards the stack
frames travel as records, towards the guest they travel bare, so that the card reads them like
frames of a raw device.
-/

namespace GuestNic

/-- The channels of a card in NAT mode. -/
structure StackPipe where
  toStack : Host.Channel
  toGuest : Host.Channel
  /-- A fault with which every receive of the stack's side fails. -/
  inputFault : Option Host.Fault

namespace StackPipe

/-- Empty channels with room for `capacity` datagrams each. -/
def ofCapacity (capacity : Nat) : StackPipe :=
  { toStack := .ofCapacity capacity, toGuest := .ofCapacity capacity, inputFault := none }

/-! ## The card's side -/

/-- Queue the record of a frame; the number of bytes taken is the answer. -/
def send (p : StackPipe) (frame : Bytes) : StackPipe × Except Host.Fault Nat :=
  let record := Record.encode frame
  let (toStack, r) := p.toStack.send record
  ({ p with toStack }, r.map fun _ => record.length)

/-- Take the oldest frame for the guest, cut to the first `limit` bytes. -/
def receive (p : StackPipe) (limit : Nat) : StackPipe × Except Host.Fault Bytes :=
  let (toGuest, r) := p.toGuest.receive limit
  ({ p with toGuest }, r)

/-- The card goes away. -/
def closeCard (p : StackPipe) : StackPipe :=
  { p with toStack := p.toStack.closeSender, toGuest := p.toGuest.closeReceiver }

/-! ## The stack's side -/

/-- Take the oldest datagram for the stack, cut to the size of the receive buffer. -/
def takeRecord (p : StackPipe) : StackPipe × Except Host.Fault Bytes :=
  match p.inputFault with
  | some fault => (p, .error fault)
  | none =>
    let (toStack, r) := p.toStack.receive Record.maxSize
    ({ p with toStack }, r)

/-- Queue a frame for the guest. -/
def deliver (p : StackPipe) (frame : Bytes) : StackPipe × Except Host.Fault Unit :=
  let (toGuest, r) := p.toGuest.send frame
  ({ p with toGuest }, r)

/-- The stack's side goes away. -/
def closeStack (p : StackPipe) : StackPipe :=
  { p with toStack := p.toStack.closeReceiver, toGuest := p.toGuest.closeSender }

end StackPipe
end GuestNic
