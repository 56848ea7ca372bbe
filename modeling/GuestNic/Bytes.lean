/-!
# Byte strings and words

Frames, records and guest memory blocks are lists of bytes. Network fields are big-endian; the
record header of the relay channel is little-endian.
-/

namespace GuestNic

/-- A string of bytes. -/
abbrev Bytes := List UInt8

namespace Bytes

/-! ## Words -/

/-- The 16-bit word whose high byte is `hi`. -/
def word16 (hi lo : UInt8) : UInt16 := hi.toUInt16 <<< 8 ||| lo.toUInt16

/-- The 32-bit word with its bytes given from the highest to the lowest. -/
def word32 (a b c d : UInt8) : UInt32 :=
  a.toUInt32 <<< 24 ||| b.toUInt32 <<< 16 ||| c.toUInt32 <<< 8 ||| d.toUInt32

/-- The bytes of a 16-bit word, highest first. -/
def ofWord16 (w : UInt16) : Bytes := [(w >>> 8).toUInt8, w.toUInt8]

/-- The bytes of a 32-bit word, lowest first. -/
def ofWord32LE (w : UInt32) : Bytes :=
  [w.toUInt8, (w >>> 8).toUInt8, (w >>> 16).toUInt8, (w >>> 24).toUInt8]

/-- The bytes of a 64-bit word, lowest first. -/
def ofWord64LE (w : UInt64) : Bytes :=
  (List.range 8).map fun i => (w >>> (8 * i).toUInt64).toUInt8

/-- The number whose little-endian digits to the base 256 are `bytes`. -/
def toNatLE : Bytes → Nat
  | [] => 0
  | b :: bs => b.toNat + 256 * toNatLE bs

@[simp] theorem ofWord16_length (w : UInt16) : (ofWord16 w).length = 2 := rfl

@[simp] theorem ofWord32LE_length (w : UInt32) : (ofWord32LE w).length = 4 := rfl

@[simp] theorem toNatLE_nil : toNatLE [] = 0 := rfl

@[simp] theorem toNatLE_cons (b : UInt8) (bs : Bytes) :
    toNatLE (b :: bs) = b.toNat + 256 * toNatLE bs := rfl

/-! ## Overwriting -/

/-- Replace the bytes of `base` from position `i` on by those of `data`, as far as `base`
reaches. -/
def overwrite (base : Bytes) (i : Nat) (data : Bytes) : Bytes :=
  base.take i ++ data.take (base.length - i) ++ base.drop (i + data.length)

theorem overwrite_length {base : Bytes} {i : Nat} (h : i ≤ base.length) (data : Bytes) :
    (overwrite base i data).length = base.length := by
  simp only [overwrite, List.length_append, List.length_take, List.length_drop]
  omega

/-- A block that fits is found again where it was written, behind what was there before it. -/
theorem take_overwrite {base data : Bytes} {i : Nat} (h : i + data.length ≤ base.length) :
    (overwrite base i data).take (i + data.length) = base.take i ++ data := by
  have hd : data.take (base.length - i) = data := List.take_of_length_le (by omega)
  have hl : (base.take i ++ data).length = i + data.length := by
    simp only [List.length_append, List.length_take]; omega
  rw [overwrite, hd, List.take_append_of_le_length (by omega), List.take_of_length_le (by omega)]

end Bytes
end GuestNic
