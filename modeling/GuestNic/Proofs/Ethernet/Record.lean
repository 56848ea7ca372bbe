import GuestNic.Ethernet.Record

/-!
# Reading records back

A record that was made from a frame is read as that frame, whatever the buffer held before and
although the reader cuts datagrams to its own size.
-/

namespace GuestNic

/-! ## The length field -/

/-- Reading the bytes of a word gives the word back. -/
theorem Bytes.toNatLE_ofWord32LE (w : UInt32) :
    Bytes.toNatLE (Bytes.ofWord32LE w) = w.toNat := by
  have hw : w.toNat < 2 ^ 32 := w.toNat_lt
  simp only [Bytes.ofWord32LE, Bytes.toNatLE, UInt32.toNat_toUInt8, UInt32.toNat_shiftRight,
    UInt32.reduceToNat, Nat.shiftRight_eq_div_pow, Nat.reduceMod, Nat.reducePow]
  omega

namespace Record

theorem split?_ofWord32LE_append (w : UInt32) (body : Bytes) :
    split? (Bytes.ofWord32LE w ++ body) = some (w.toNat, body) := by
  have h : split? (Bytes.ofWord32LE w ++ body) =
      some (Bytes.toNatLE (Bytes.ofWord32LE w), body) := rfl
  rw [h, Bytes.toNatLE_ofWord32LE]

/-- The length field of a frame that is not too long tells its length. -/
theorem split?_encode {frame : Bytes} (h : frame.length ≤ Frame.maxSize) :
    split? (encode frame) = some (frame.length, frame) := by
  have hsize : Frame.maxSize < UInt32.size := by decide
  have hmin : min frame.length (UInt32.size - 1) = frame.length := by omega
  rw [encode, hmin, split?_ofWord32LE_append, UInt32.toNat_ofNat_of_lt' (by omega)]

/-! ## Whole records -/

@[simp] theorem encode_length (frame : Bytes) :
    (encode frame).length = headerSize + frame.length := by
  simp [encode, headerSize]

@[simp] theorem drop_encode (frame : Bytes) : (encode frame).drop headerSize = frame := rfl

/-- The record of a frame that is not too long passes the receive buffer whole. -/
theorem take_encode {frame : Bytes} (h : frame.length ≤ Frame.maxSize) :
    (encode frame).take maxSize = encode frame := by
  apply List.take_of_length_le
  rw [encode_length, maxSize]
  omega

/-- What was encoded is decoded again, and nothing of the earlier frame is left. -/
theorem decode_encode {frame : Bytes} (h : frame.length ≤ Frame.maxSize) (b : FrameBuffer) :
    ∃ filled, decode (encode frame) b = (filled, .ok ()) ∧ filled.contents = frame := by
  have hfits : b.clear.len + frame.length ≤ Frame.maxSize := by simpa [FrameBuffer.clear]
  obtain ⟨filled, hfilled, -⟩ := b.clear.append_of_le hfits
  refine ⟨filled, ?_, ?_⟩
  · simp only [decode, split?_encode h, hfilled, ne_eq, not_true_eq_false, ↓reduceIte]
    rw [if_neg (by omega)]
  · rw [FrameBuffer.append_ok hfilled, FrameBuffer.contents_clear, List.nil_append]

end Record
end GuestNic
