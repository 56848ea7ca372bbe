import GuestNic.Ethernet.Buffer
import GuestNic.Guest.Memory

/-!
# Outgoing packets

How the guest describes a packet that it wants sent, and how the packet is put together from guest
memory: the pieces are read in order, and one that would make the frame too long ends the attempt
before it is read.
-/

namespace GuestNic

/-- A block of guest memory. -/
structure Piece where
  address : UInt32
  length : Nat
deriving DecidableEq, Repr

/-- A block of guest memory with a 16-bit length. -/
structure Segment where
  address : UInt32
  length : UInt16
deriving DecidableEq, Repr

def Segment.piece (s : Segment) : Piece := ⟨s.address, s.length.toNat⟩

/-- A packet as the guest describes it. -/
inductive OutgoingPacket where
  | linear (address : UInt32) (length : Nat)
  | segments (blocks : List Segment)
  /-- A write list in guest memory: entries of a length and an address, up to a zero length. -/
  | writeList (entry : UInt32)
deriving DecidableEq, Repr

/-- What came of putting a packet together: the blocks of guest memory read, in order, and the
frame. -/
structure Assembly where
  reads : List Piece
  result : Except FrameOverflow FrameBuffer

namespace OutgoingPacket

/-! ## Pieces -/

/-- Put the bytes of a piece behind the frame. -/
def place (m : GuestMemory) (frame : FrameBuffer) (p : Piece) : Except FrameOverflow FrameBuffer :=
  if frame.remaining < p.length then
    .error ⟨FrameBuffer.totalLength frame.len p.length, Frame.maxSize⟩
  else frame.append (m.read p.address p.length)

theorem place_len {m : GuestMemory} {frame next : FrameBuffer} {p : Piece}
    (h : place m frame p = .ok next) : next.len = frame.len + p.length := by
  unfold place at h
  split at h
  · cases h
  · have := congrArg List.length (FrameBuffer.append_ok h)
    simpa using this

/-- Put pieces behind the frame. -/
def placeAll (m : GuestMemory) (frame : FrameBuffer) : List Piece → Assembly
  | [] => ⟨[], .ok frame⟩
  | p :: ps =>
    match place m frame p with
    | .error e => ⟨[], .error e⟩
    | .ok next =>
      let rest := placeAll m next ps
      ⟨p :: rest.reads, rest.result⟩

/-! ## Write lists -/

/-- The size of an entry of a write list. -/
def entrySize : Nat := 6

/-- The piece that the entry at `address` describes; an entry of zero length ends the list. -/
def entryAt (m : GuestMemory) (address : UInt32) : Option Piece :=
  match m.read address entrySize with
  | [hi, lo, a, b, c, d] =>
    let length := Bytes.word16 hi lo
    if length = 0 then none else some ⟨Bytes.word32 a b c d, length.toNat⟩
  | _ => none

theorem entryAt_length_pos {m : GuestMemory} {address : UInt32} {p : Piece}
    (h : entryAt m address = some p) : 0 < p.length := by
  unfold entryAt at h
  split at h
  · dsimp only at h
    split at h
    · cases h
    · rename_i hl
      injection h with h
      subst h
      exact Nat.pos_of_ne_zero fun h0 => hl (UInt16.toNat_inj.1 h0)
  · cases h

theorem remaining_lt {m : GuestMemory} {address : UInt32} {frame next : FrameBuffer} {p : Piece}
    (he : entryAt m address = some p) (hp : place m frame p = .ok next) :
    next.remaining < frame.remaining := by
  have h1 := place_len hp
  have h2 := entryAt_length_pos he
  have h3 := next.len_le
  unfold FrameBuffer.remaining
  omega

/-- Put the pieces of the write list at `entry` behind the frame. Every piece takes room, so this
ends whether or not the list does. -/
def placeList (m : GuestMemory) (entry : UInt32) (frame : FrameBuffer) : Assembly :=
  match he : entryAt m entry with
  | none => ⟨[⟨entry, entrySize⟩], .ok frame⟩
  | some p =>
    match hp : place m frame p with
    | .error e => ⟨[⟨entry, entrySize⟩], .error e⟩
    | .ok next =>
      have : next.remaining < frame.remaining := remaining_lt he hp
      let rest := placeList m (entry + entrySize.toUInt32) next
      ⟨⟨entry, entrySize⟩ :: p :: rest.reads, rest.result⟩
termination_by frame.remaining

/-! ## Packets -/

/-- Put a packet together. -/
def assemble (m : GuestMemory) : OutgoingPacket → Assembly
  | .linear address length => placeAll m .empty [⟨address, length⟩]
  | .segments blocks => placeAll m .empty (blocks.map Segment.piece)
  | .writeList entry => placeList m entry .empty

end OutgoingPacket
end GuestNic
