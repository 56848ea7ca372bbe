import GuestNic.Bytes

/-!
# Ethernet frames

A frame is a byte string: six bytes of destination, six bytes of source, a two-byte type field,
then the payload. A type field up to 1500 is a length, not a protocol number; all frames with such
a field share handler key 0.
-/

namespace GuestNic.Frame

/-- The longest frame moved in either direction: 1500 bytes of payload, the header, and slack. -/
def maxSize : Nat := 1516

/-- Destination, source and type field. -/
def headerSize : Nat := 14

/-- Type fields up to this one are lengths. -/
def maxLengthField : UInt16 := 1500

/-- Where the type field starts. -/
def typeOffset : Nat := 12

/-- The big-endian type field, if the frame reaches that far. -/
def typeField? (frame : Bytes) : Option UInt16 :=
  match frame.drop typeOffset with
  | hi :: lo :: _ => some (Bytes.word16 hi lo)
  | _ => none

/-- The first fourteen bytes, if the frame has as many. -/
def header? (frame : Bytes) : Option Bytes :=
  if headerSize ≤ frame.length then some (frame.take headerSize) else none

/-- The key under which a handler for frames with type field `t` is looked up. -/
def handlerKey (t : UInt16) : UInt16 := if t ≤ maxLengthField then 0 else t

theorem typeField?_isSome {frame : Bytes} :
    (typeField? frame).isSome ↔ headerSize ≤ frame.length := by
  unfold typeField? headerSize
  have hl : (frame.drop typeOffset).length = frame.length - 12 := by simp [typeOffset]
  split
  · rename_i h
    rw [h] at hl
    simp only [List.length_cons] at hl
    simp; omega
  · rename_i h
    match hd : frame.drop typeOffset with
    | [] => rw [hd] at hl; simp at hl ⊢; omega
    | [a] => rw [hd] at hl; simp at hl ⊢; omega
    | hi :: lo :: r => exact (h hi lo r hd).elim

theorem handlerKey_idem (t : UInt16) : handlerKey (handlerKey t) = handlerKey t := by
  unfold handlerKey
  split
  · rfl
  · rfl

end GuestNic.Frame
