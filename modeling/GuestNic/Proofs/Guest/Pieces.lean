import GuestNic.Guest.Packet
import Mathlib.Algebra.Group.Nat.Defs
import Mathlib.Order.Basic

/-!
# Putting pieces together

The frame that is put together from pieces of guest memory is their bytes in a row, as long as it
stays within the longest frame. Otherwise the attempt ends at the first piece that goes beyond it,
which is not read.
-/

namespace GuestNic

namespace Piece

/-- The bytes of guest memory that a piece names. -/
def bytes (m : GuestMemory) (p : Piece) : Bytes := m.read p.address p.length

/-- The length of some pieces together. -/
def total : List Piece → Nat
  | [] => 0
  | p :: ps => p.length + total ps

@[simp] theorem total_nil : total [] = 0 := rfl

@[simp] theorem total_cons (p : Piece) (ps : List Piece) : total (p :: ps) = p.length + total ps :=
  rfl

/-- Pieces that are too much together have a first one that makes them so. -/
theorem exists_excess {room : Nat} {ps : List Piece} (h : room < total ps) :
    ∃ before p after, ps = before ++ p :: after ∧ total before ≤ room ∧
      room < total before + p.length := by
  induction ps generalizing room with
  | nil => exact absurd h (Nat.not_lt_zero _)
  | cons p ps ih =>
    by_cases hp : room < p.length
    · exact ⟨[], p, ps, rfl, Nat.zero_le _, by simpa using hp⟩
    · have hrest : room - p.length < total ps := by
        rw [total_cons] at h
        omega
      obtain ⟨before, q, after, rfl, hfits, hover⟩ := ih hrest
      refine ⟨p :: before, q, after, rfl, ?_, ?_⟩
      · rw [total_cons]
        omega
      · rw [total_cons]
        omega

end Piece

namespace OutgoingPacket

open Piece

variable {m : GuestMemory} {frame : FrameBuffer}

/-! ## One piece -/

/-- A piece for which there is room is read and stands behind the frame. -/
theorem place_of_le {p : Piece} (h : frame.len + p.length ≤ Frame.maxSize) :
    ∃ next, place m frame p = .ok next ∧ next.contents = frame.contents ++ p.bytes m := by
  have hroom : ¬ frame.remaining < p.length := by
    unfold FrameBuffer.remaining
    omega
  have hfits : frame.len + (p.bytes m).length ≤ Frame.maxSize := by simpa [bytes] using h
  obtain ⟨next, hnext, -⟩ := frame.append_of_le hfits
  refine ⟨next, ?_, FrameBuffer.append_ok hnext⟩
  rw [place, if_neg hroom]
  exact hnext

/-- A piece for which there is no room is reported with the length that the frame would have had. -/
theorem place_of_lt {p : Piece} (h : Frame.maxSize < frame.len + p.length) :
    place m frame p =
      .error ⟨min (frame.len + p.length) (UInt64.size - 1), Frame.maxSize⟩ := by
  have hfull : frame.remaining < p.length := by
    have := frame.len_le
    unfold FrameBuffer.remaining
    omega
  rw [place, if_pos hfull]
  rfl

/-! ## Any number of pieces -/

theorem placeAll_of_error {p : Piece} {e : FrameOverflow} (h : place m frame p = .error e)
    (ps : List Piece) : placeAll m frame (p :: ps) = ⟨[], .error e⟩ := by
  simp only [placeAll, h]

theorem placeAll_of_ok {p : Piece} {next : FrameBuffer} (h : place m frame p = .ok next)
    (ps : List Piece) :
    placeAll m frame (p :: ps) =
      ⟨p :: (placeAll m next ps).reads, (placeAll m next ps).result⟩ := by
  simp only [placeAll, h]

/-- Pieces for which there is room are all read and stand behind the frame. -/
theorem placeAll_of_le {ps : List Piece} (h : frame.len + total ps ≤ Frame.maxSize) :
    ∃ whole, placeAll m frame ps = ⟨ps, .ok whole⟩ ∧
      whole.contents = frame.contents ++ ps.flatMap (bytes m) := by
  induction ps generalizing frame with
  | nil => exact ⟨frame, rfl, (List.append_nil _).symm⟩
  | cons p ps ih =>
    rw [total_cons] at h
    have hp : frame.len + p.length ≤ Frame.maxSize := by omega
    obtain ⟨next, hplace, hnext⟩ := place_of_le (m := m) hp
    have hlen := place_len hplace
    have hps : next.len + total ps ≤ Frame.maxSize := by omega
    obtain ⟨whole, hall, hwhole⟩ := ih hps
    refine ⟨whole, ?_, ?_⟩
    · rw [placeAll_of_ok hplace, hall]
    · rw [hwhole, hnext, List.flatMap_cons, List.append_assoc]

/-- The first piece for which there is no room ends the attempt, and those before it were read. -/
theorem placeAll_of_lt {before after : List Piece} {p : Piece}
    (hfits : frame.len + total before ≤ Frame.maxSize)
    (hover : Frame.maxSize < frame.len + total before + p.length) :
    placeAll m frame (before ++ p :: after) =
      ⟨before, .error ⟨min (frame.len + total before + p.length) (UInt64.size - 1),
        Frame.maxSize⟩⟩ := by
  induction before generalizing frame with
  | nil =>
    have hplace := place_of_lt (m := m) (p := p) hover
    rw [List.nil_append, placeAll_of_error hplace]
    rfl
  | cons q before ih =>
    rw [total_cons] at hfits hover ⊢
    have hq : frame.len + q.length ≤ Frame.maxSize := by omega
    obtain ⟨next, hplace, -⟩ := place_of_le (m := m) hq
    have hlen := place_len hplace
    have hfits : next.len + total before ≤ Frame.maxSize := by omega
    have hrest := ih hfits (by omega)
    have hsum : next.len + total before + p.length =
        frame.len + (q.length + total before) + p.length := by omega
    rw [List.cons_append, placeAll_of_ok hplace, hrest, hsum]

/-! ## From the first piece on -/

theorem placeAll_empty_of_le {ps : List Piece} (h : total ps ≤ Frame.maxSize) :
    ∃ whole, placeAll m .empty ps = ⟨ps, .ok whole⟩ ∧ whole.contents = ps.flatMap (bytes m) := by
  have hfits : FrameBuffer.empty.len + total ps ≤ Frame.maxSize :=
    (Nat.zero_add (total ps)).trans_le h
  exact placeAll_of_le hfits

theorem placeAll_empty_of_lt {before after : List Piece} {p : Piece}
    (hfits : total before ≤ Frame.maxSize) (hover : Frame.maxSize < total before + p.length) :
    placeAll m .empty (before ++ p :: after) =
      ⟨before, .error ⟨min (total before + p.length) (UInt64.size - 1), Frame.maxSize⟩⟩ := by
  have hempty : FrameBuffer.empty.len + total before = total before := Nat.zero_add _
  rw [← hempty] at hfits hover ⊢
  exact placeAll_of_lt hfits hover

end OutgoingPacket
end GuestNic
