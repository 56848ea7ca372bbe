import GuestNic.Ethernet.Buffer

/-!
# Filling frame buffers

What a buffer holds after it was filled in place. The bytes of earlier frames stay in the storage,
so the point of each lemma is that none of them is shown.
-/

namespace GuestNic.FrameBuffer

variable {ε : Type}

/-! ## Filling from a source -/

theorem offered_maxSize : offered Frame.maxSize = Frame.maxSize := Nat.min_self _

/-- A buffer that was filled with no more bytes than it was offered holds exactly these. -/
theorem contents_fillWith (b : FrameBuffer) {bytes : Bytes} (h : bytes.length ≤ Frame.maxSize) :
    (b.fillWith Frame.maxSize fun _ => (.ofBytes (.ok bytes) : Filling ε)).1.contents = bytes := by
  have hs : b.storage.length = Frame.maxSize := b.storage_length
  have htake : bytes.take (b.storage.take Frame.maxSize).length = bytes := by
    rw [List.length_take, hs, Nat.min_self]
    exact List.take_of_length_le h
  have hover : (Bytes.overwrite b.storage 0 bytes).take (0 + bytes.length) =
      b.storage.take 0 ++ bytes := Bytes.take_overwrite (by omega)
  simp only [Nat.zero_add, List.take_zero, List.nil_append] at hover
  simp only [fillWith, Filling.ofBytes, contents, offered_maxSize, htake, Nat.min_eq_left h]
  exact hover

theorem fillWith_ok (b : FrameBuffer) {bytes : Bytes} (h : bytes.length ≤ Frame.maxSize) :
    (b.fillWith Frame.maxSize fun _ => (.ofBytes (.ok bytes) : Filling ε)).2 =
      .ok bytes.length := by
  simp only [fillWith, Filling.ofBytes, offered_maxSize, Nat.min_eq_left h]

end GuestNic.FrameBuffer
