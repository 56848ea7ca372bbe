import GuestNic.Guest.Handlers
import GuestNic.Guest.Memory
import GuestNic.Guest.Registers
import GuestNic.Net.Peer

/-!
# Events

What a card does to the machine around it, in the order in which it does it.
-/

namespace GuestNic

/-- One effect of a card on the guest, or on whoever runs it. -/
inductive CardEvent where
  /-- The interrupt line is raised. -/
  | interrupt
  | read (address : UInt32) (length : Nat)
  | write (address : UInt32) (data : Bytes)
  /-- A protocol handler runs to its end. -/
  | enter (routine : Routine) (registers : EntryRegisters)
  /-- A frame is handed to the guest's end of the tunnel. -/
  | tunnelFrame (frame : Bytes) (peer : Peer)
  /-- A warning to the user. -/
  | alert (text : String)
deriving DecidableEq, Repr

/-- What an event does to guest memory. -/
def CardEvent.applyTo (m : GuestMemory) : CardEvent → GuestMemory
  | .write address data => m.write address data
  | _ => m

end GuestNic
