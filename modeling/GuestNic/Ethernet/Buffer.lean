import GuestNic.Ethernet.Frame

/-!
# Frame buffers

A buffer of fixed capacity with a length. What lies past the length is left over from earlier use
and never shown; only filling in place offers it to be overwritten.
-/

namespace GuestNic

/-- A frame of `len` bytes is longer than `max` allows. -/
structure FrameOverflow where
  len : Nat
  max : Nat
deriving DecidableEq, Repr

def FrameOverflow.message (e : FrameOverflow) : String :=
  s!"frame of {e.len} bytes exceeds the {e.max} byte limit"

/-- A buffer that holds one frame. -/
structure FrameBuffer where
  storage : Bytes
  len : Nat
  storage_length : storage.length = Frame.maxSize
  len_le : len ≤ Frame.maxSize
deriving DecidableEq

/-- What a producer does with the bytes it is offered: it writes some leading ones, then reports
how many count, or a failure. -/
structure Filling (ε : Type) where
  written : Bytes
  result : Except ε Nat

/-- A producer that hands over the bytes it has, as many as it was offered. -/
def Filling.ofBytes {ε : Type} : Except ε Bytes → Filling ε
  | .ok bytes => { written := bytes, result := .ok bytes.length }
  | .error e => { written := [], result := .error e }

namespace FrameBuffer

/-! ## Views -/

/-- The bytes of the frame held. -/
def contents (b : FrameBuffer) : Bytes := b.storage.take b.len

def capacity (_ : FrameBuffer) : Nat := Frame.maxSize

def remaining (b : FrameBuffer) : Nat := Frame.maxSize - b.len

def isEmpty (b : FrameBuffer) : Bool := b.len == 0

def header? (b : FrameBuffer) : Option Bytes := Frame.header? b.contents

def typeField? (b : FrameBuffer) : Option UInt16 := Frame.typeField? b.contents

/-- Buffers are the same when they show the same frame. -/
instance : BEq FrameBuffer := ⟨fun a b => a.contents == b.contents⟩

def render (b : FrameBuffer) : String := "FrameBuf \x7b len: " ++ toString b.len ++ " \x7d"

/-! ## Operations -/

/-- A buffer of zeros with nothing in it. -/
def empty : FrameBuffer where
  storage := List.replicate Frame.maxSize 0
  len := 0
  storage_length := List.length_replicate
  len_le := Nat.zero_le _

instance : Inhabited FrameBuffer := ⟨empty⟩

def clear (b : FrameBuffer) : FrameBuffer := { b with len := 0, len_le := Nat.zero_le _ }

/-- The sum of two lengths, held at the largest 64-bit number. -/
def totalLength (m n : Nat) : Nat := min (m + n) (UInt64.size - 1)

/-- Put `bytes` behind the frame, all of them or none. -/
def append (b : FrameBuffer) (bytes : Bytes) : Except FrameOverflow FrameBuffer :=
  if h : b.len + bytes.length ≤ Frame.maxSize then
    .ok {
      storage := Bytes.overwrite b.storage b.len bytes
      len := b.len + bytes.length
      storage_length := by
        rw [Bytes.overwrite_length (by rw [b.storage_length]; exact b.len_le)]
        exact b.storage_length
      len_le := h }
  else
    .error ⟨totalLength b.len bytes.length, Frame.maxSize⟩

/-- A fresh buffer that holds `bytes`. -/
def ofBytes (bytes : Bytes) : Except FrameOverflow FrameBuffer := empty.append bytes

/-- How many bytes a filling limited to `limit` is offered. -/
def offered (limit : Nat) : Nat := min limit Frame.maxSize

/-- Replace the frame by what `fill` produces in the first `limit` bytes of the storage. A count
beyond the bytes offered is cut to them; a failure leaves the buffer empty. -/
def fillWith {ε : Type} (b : FrameBuffer) (limit : Nat) (fill : Bytes → Filling ε) :
    FrameBuffer × Except ε Nat :=
  let slice := b.storage.take (offered limit)
  let filling := fill slice
  let storage := Bytes.overwrite b.storage 0 (filling.written.take slice.length)
  have hs : storage.length = Frame.maxSize := by
    rw [Bytes.overwrite_length (Nat.zero_le _)]; exact b.storage_length
  match filling.result with
  | .error e => ({ storage, len := 0, storage_length := hs, len_le := Nat.zero_le _ }, .error e)
  | .ok n =>
    let count := min n (offered limit)
    ({ storage, len := count, storage_length := hs,
       len_le := Nat.le_trans (Nat.min_le_right ..) (Nat.min_le_right ..) }, .ok count)

/-! ## Laws -/

@[simp] theorem contents_length (b : FrameBuffer) : b.contents.length = b.len := by
  rw [contents, List.length_take, b.storage_length]
  exact Nat.min_eq_left b.len_le

theorem len_add_remaining (b : FrameBuffer) : b.len + b.remaining = Frame.maxSize := by
  have := b.len_le
  unfold remaining; omega

@[simp] theorem contents_empty : empty.contents = [] := rfl

@[simp] theorem contents_clear (b : FrameBuffer) : b.clear.contents = [] := by
  simp [contents, clear]

theorem append_ok {b c : FrameBuffer} {bytes : Bytes} (h : b.append bytes = .ok c) :
    c.contents = b.contents ++ bytes := by
  unfold append at h
  split at h
  · rename_i hl
    injection h with h
    subst h
    exact Bytes.take_overwrite (by rw [b.storage_length]; exact hl)
  · cases h

theorem append_of_le {b : FrameBuffer} {bytes : Bytes}
    (h : b.len + bytes.length ≤ Frame.maxSize) :
    ∃ c, b.append bytes = .ok c ∧ c.len = b.len + bytes.length := by
  refine ⟨_, dif_pos h, rfl⟩

theorem append_of_lt {b : FrameBuffer} {bytes : Bytes}
    (h : Frame.maxSize < b.len + bytes.length) :
    b.append bytes = .error ⟨totalLength b.len bytes.length, Frame.maxSize⟩ :=
  dif_neg (by omega)

end FrameBuffer
end GuestNic
