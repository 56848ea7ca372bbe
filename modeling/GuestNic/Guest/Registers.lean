import GuestNic.Ethernet.Frame

/-!
# Handler entry

Where received frames are put for the guest, and the registers with which a protocol handler is
entered.
-/

namespace GuestNic

/-- Fixed guest addresses of the receive side. -/
structure ReceiveLayout where
  /-- Where a frame is put before its handler runs. -/
  packetBuffer : UInt32
  /-- Where the header of the frame is put. -/
  headerArea : UInt32
  /-- The routine with which a handler reads on. -/
  readRoutine : UInt32
deriving DecidableEq, Repr

/-- The registers that carry arguments to a handler. -/
structure EntryRegisters where
  /-- The type field. -/
  d0 : UInt32
  /-- The number of bytes behind the header. -/
  d1 : UInt32
  /-- Where the bytes behind the header are. -/
  a0 : UInt32
  /-- Just past the copy of the header. -/
  a3 : UInt32
  /-- The routine with which to read on. -/
  a4 : UInt32
deriving DecidableEq, Repr

/-- The registers for a frame of `length` bytes with type field `t`. The length is taken as a 32-bit
word and addresses wrap around. -/
def ReceiveLayout.registers (l : ReceiveLayout) (t : UInt16) (length : Nat) : EntryRegisters :=
  let header := Frame.headerSize.toUInt32
  { d0 := t.toUInt32
    d1 := if length.toUInt32 < header then 0 else length.toUInt32 - header
    a0 := l.packetBuffer + header
    a3 := l.headerArea + header
    a4 := l.readRoutine }

end GuestNic
