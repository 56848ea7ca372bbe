import GuestNic.Bytes

/-!
# Guest memory

The memory of the emulated machine: a byte for each of the 2³² addresses, with addresses that wrap
around.
-/

namespace GuestNic

/-- A flat 32-bit memory. -/
structure GuestMemory where
  byte : UInt32 → UInt8

namespace GuestMemory

/-- Memory that holds zeros. -/
def zeros : GuestMemory := ⟨fun _ => 0⟩

/-- The `length` bytes from `address` on. -/
def read (m : GuestMemory) (address : UInt32) (length : Nat) : Bytes :=
  (List.range length).map fun i => m.byte (address + i.toUInt32)

/-- The memory with `data` put from `address` on. -/
def write (m : GuestMemory) (address : UInt32) (data : Bytes) : GuestMemory :=
  let block := data.toArray
  ⟨fun a => (block[(a - address).toNat]?).getD (m.byte a)⟩

@[simp] theorem read_length (m : GuestMemory) (address : UInt32) (length : Nat) :
    (m.read address length).length = length := by simp [read]

theorem byte_write (m : GuestMemory) (address : UInt32) (data : Bytes) (a : UInt32) :
    (m.write address data).byte a = (data[(a - address).toNat]?).getD (m.byte a) := by
  simp [write]

end GuestMemory
end GuestNic
