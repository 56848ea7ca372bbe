import GuestNic.Card.Basic
import GuestNic.Proofs.Guest.WriteList
import GuestNic.Proofs.Guest.Memory

/-!
# What a handler finds

Before a handler is entered, the frame is put into guest memory, and its header once more somewhere
else. The registers tell the handler where to look and how much there is to be read. As long as the
two places lie apart, neither disturbs the other.
-/

namespace GuestNic

open GuestMemory

/-- The place for a frame and the place for its header lie apart. -/
def ReceiveLayout.IsDisjoint (l : ReceiveLayout) : Prop :=
  ∀ a, IsWithin l.packetBuffer Frame.maxSize a → ¬ IsWithin l.headerArea Frame.headerSize a

/-- Going around once from the frame to the header area, there is room for the frame, and going on
from there to the frame, there is room for the header. -/
theorem ReceiveLayout.isDisjoint_iff (l : ReceiveLayout) :
    l.IsDisjoint ↔ Frame.maxSize ≤ (l.headerArea - l.packetBuffer).toNat ∧
      (l.headerArea - l.packetBuffer).toNat + Frame.headerSize ≤ UInt32.size := by
  have hsize : UInt32.size = 4294967296 := rfl
  have hframe : Frame.maxSize = 1516 := rfl
  have hheader : Frame.headerSize = 14 := rfl
  have hoffset : ∀ a : UInt32, (a - l.packetBuffer).toNat =
      ((a - l.headerArea).toNat + (l.headerArea - l.packetBuffer).toNat) % 4294967296 := by
    intro a
    have hsum : a - l.packetBuffer = (a - l.headerArea) + (l.headerArea - l.packetBuffer) := by
      grind
    rw [hsum, UInt32.toNat_add]
  have hdistance := (l.headerArea - l.packetBuffer).toNat_lt
  have hapart : l.IsDisjoint ↔ ∀ a : UInt32, (a - l.packetBuffer).toNat < Frame.maxSize →
      Frame.headerSize ≤ (a - l.headerArea).toNat := by
    refine forall_congr' fun a => ?_
    rw [isWithin_iff (by decide), isWithin_iff (by decide), Nat.not_lt]
  rw [hapart]
  have hzero : ∀ a : UInt32, (a - a).toNat = 0 := by
    intro a
    rw [UInt32.sub_self]
    rfl
  constructor
  · intro h
    constructor
    · -- The header does not begin within the frame.
      by_contra hlt
      have hbegins := h l.headerArea (Nat.lt_of_not_le hlt)
      rw [hzero] at hbegins
      omega
    · -- The frame does not begin within the header.
      by_contra hlt
      have hbegins := h l.packetBuffer (by rw [hzero, hframe]; decide)
      have haround := hoffset l.packetBuffer
      have hbelow := (l.packetBuffer - l.headerArea).toNat_lt
      rw [hzero] at haround
      omega
  · rintro ⟨hle, hle'⟩ a ha
    have haround := hoffset a
    have hbelow := (a - l.headerArea).toNat_lt
    omega

instance (l : ReceiveLayout) : Decidable l.IsDisjoint := decidable_of_iff _ l.isDisjoint_iff.symm

/-! ## Type fields -/

namespace Frame

/-- The type field is the big-endian number in front of the payload. -/
theorem typeField?_eq_some {frame : Bytes} {t : UInt16} (h : typeField? frame = some t) :
    ∃ hi lo, frame[12]? = some hi ∧ frame[13]? = some lo ∧
      t.toNat = 2 ^ 8 * hi.toNat + lo.toNat := by
  unfold typeField? at h
  split at h
  · rename_i hi lo payload hdrop
    cases h
    refine ⟨hi, lo, ?_, ?_, Bytes.toNat_word16 hi lo⟩
    · have h12 : (frame.drop typeOffset)[0]? = frame[12]? := List.getElem?_drop
      rw [← h12, hdrop]
      rfl
    · have h13 : (frame.drop typeOffset)[1]? = frame[13]? := List.getElem?_drop
      rw [← h13, hdrop]
      rfl
  · cases h

theorem header?_eq_some_iff {frame header : Bytes} :
    header? frame = some header ↔ headerSize ≤ frame.length ∧ frame.take headerSize = header := by
  unfold header?
  split
  · rename_i hlen
    simp only [Option.some.injEq, hlen, true_and]
  · rename_i hlen
    simp only [hlen, false_and, reduceCtorEq]

end Frame

/-! ## Registers -/

namespace ReceiveLayout

variable (l : ReceiveLayout) (t : UInt16) {length : Nat}

/-- Of a frame that a buffer can hold, the length behind the header is exact. -/
theorem toNat_registers_d1 (hmin : Frame.headerSize ≤ length) (hmax : length ≤ Frame.maxSize) :
    (l.registers t length).d1.toNat = length - Frame.headerSize := by
  have hmax : length ≤ 1516 := hmax
  have hmin : 14 ≤ length := hmin
  have hlength : length.toUInt32.toNat = length := UInt32.toNat_ofNat_of_lt' (by
    show length < 4294967296
    omega)
  have hheader : Frame.headerSize.toUInt32.toNat = 14 := rfl
  have hle : Frame.headerSize.toUInt32 ≤ length.toUInt32 := by
    rw [UInt32.le_iff_toNat_le, hlength, hheader]
    exact hmin
  have hsub : (l.registers t length).d1 = length.toUInt32 - Frame.headerSize.toUInt32 :=
    if_neg (UInt32.not_lt.2 hle)
  rw [hsub, UInt32.toNat_sub_of_le _ _ hle, hlength]
  rfl

theorem toNat_registers_d0 : (l.registers t length).d0.toNat = t.toNat := UInt16.toNat_toUInt32 t

end ReceiveLayout

/-! ## Entries -/

/-- A handler at the moment at which it is entered. -/
structure HandlerEntry where
  memory : GuestMemory
  routine : Routine
  registers : EntryRegisters

namespace HandlerEntry

/-- The handlers entered in a row of events, each with what the events before it make of guest
memory. -/
def among (m : GuestMemory) : List CardEvent → List HandlerEntry
  | [] => []
  | .enter routine registers :: events => ⟨m, routine, registers⟩ :: among m events
  | e :: events => among (e.applyTo m) events

/-- The handler finds `frame` in guest memory, which is otherwise as it was `before`, and its
registers lead it there. -/
structure Finds (layout : ReceiveLayout) (before : GuestMemory) (frame : Bytes)
    (e : HandlerEntry) : Prop where
  packetBuffer : e.memory.read layout.packetBuffer frame.length = frame
  headerArea : e.memory.read layout.headerArea 14 = frame.take 14
  elsewhere : ∀ a, ¬ IsWithin layout.packetBuffer frame.length a →
    ¬ IsWithin layout.headerArea 14 a → e.memory.byte a = before.byte a
  /-- The type field of the frame, as it was received. -/
  d0 : ∃ hi lo, frame[12]? = some hi ∧ frame[13]? = some lo ∧
    e.registers.d0.toNat = 2 ^ 8 * hi.toNat + lo.toNat
  d1 : e.registers.d1.toNat + 14 = frame.length
  payload : e.memory.read e.registers.a0 e.registers.d1.toNat = frame.drop 14
  a3 : e.registers.a3 = layout.headerArea + 14
  a4 : e.registers.a4 = layout.readRoutine

/-- The only handler that is entered in the events is `routine`, and it finds the frame. -/
def IsOnly (layout : ReceiveLayout) (m : GuestMemory) (routine : Routine) (frame : Bytes)
    (events : List CardEvent) : Prop :=
  ∃ e, among m events = [e] ∧ e.routine = routine ∧ e.Finds layout m frame

variable {m : GuestMemory} {layout : ReceiveLayout}

theorem among_append (m : GuestMemory) (events more : List CardEvent) :
    among m (events ++ more) = among m events ++ among (events.foldl CardEvent.applyTo m) more := by
  induction events generalizing m with
  | nil => rfl
  | cons e events ih =>
    cases e with
    | enter routine registers => exact congrArg (_ :: ·) (ih m)
    | interrupt | read | write | tunnelFrame | alert => exact ih _

theorem among_eq_nil {events : List CardEvent}
    (h : ∀ e ∈ events, ∀ routine registers, e ≠ .enter routine registers) :
    among m events = [] := by
  induction events generalizing m with
  | nil => rfl
  | cons e events ih =>
    have hrest := @ih (e.applyTo m) fun e he => h e (List.mem_cons_of_mem _ he)
    cases e with
    | enter routine registers => exact absurd rfl (h _ List.mem_cons_self routine registers)
    | interrupt | read | write | tunnelFrame | alert => exact hrest

/-- What the two writes of an upcall leave behind: the frame in its place, its header in the other
one, and nothing else changed. -/
theorem read_written (hl : layout.IsDisjoint) (m : GuestMemory) {frame : Bytes}
    (hmin : 14 ≤ frame.length) (hmax : frame.length ≤ 1516) :
    let memory := (m.write layout.packetBuffer frame).write layout.headerArea (frame.take 14)
    memory.read layout.packetBuffer frame.length = frame ∧
      memory.read layout.headerArea 14 = frame.take 14 ∧
      ∀ a, ¬ IsWithin layout.packetBuffer frame.length a → ¬ IsWithin layout.headerArea 14 a →
        memory.byte a = m.byte a := by
  intro memory
  have htake : (frame.take 14).length = 14 := List.length_take_of_le hmin
  have hfits : frame.length ≤ UInt32.size := by
    show frame.length ≤ 4294967296
    omega
  refine ⟨?_, ?_, ?_⟩
  · -- Nothing of the frame lies where its header is copied to.
    have hapart : ∀ a, IsWithin layout.packetBuffer frame.length a →
        ¬ IsWithin layout.headerArea (frame.take 14).length a := by
      intro a ha
      rw [htake]
      exact hl a (ha.mono hmax)
    calc memory.read layout.packetBuffer frame.length
        = (m.write layout.packetBuffer frame).read layout.packetBuffer frame.length :=
          read_write_of_disjoint hapart
      _ = frame := read_write hfits
  · have hheader : memory.read layout.headerArea (frame.take 14).length = frame.take 14 :=
      read_write (by
        rw [htake]
        decide)
    rwa [htake] at hheader
  · intro a ha ha'
    calc memory.byte a
        = (m.write layout.packetBuffer frame).byte a := byte_write_of_not_isWithin (by rwa [htake])
      _ = m.byte a := byte_write_of_not_isWithin ha

/-- What is given to the guest for a frame is one entry of its handler, which finds the frame. -/
theorem isOnly_upcall (hl : layout.IsDisjoint) {routine : Routine} {t : UInt16} {header : Bytes}
    {frame : FrameBuffer} (hheader : frame.header? = some header)
    (htype : frame.typeField? = some t) (m : GuestMemory) :
    IsOnly layout m routine frame.contents
      (Card.upcall layout (.handler routine t header frame)) := by
  obtain ⟨hmin, rfl⟩ := Frame.header?_eq_some_iff.1 hheader
  have hlen : frame.contents.length = frame.len := frame.contents_length
  have hmin : 14 ≤ frame.len := hlen ▸ hmin
  have hmax : frame.len ≤ 1516 := frame.len_le
  have hd1 : (layout.registers t frame.len).d1.toNat = frame.len - 14 :=
    layout.toNat_registers_d1 t hmin hmax
  obtain ⟨hbuffer, hheader, helsewhere⟩ := read_written hl m (hlen ▸ hmin) (hlen ▸ hmax)
  refine ⟨⟨(m.write layout.packetBuffer frame.contents).write layout.headerArea
    (frame.contents.take 14), routine, layout.registers t frame.len⟩, rfl, rfl, hbuffer, hheader,
    helsewhere, ?_, ?_, ?_, rfl, rfl⟩
  · obtain ⟨hi, lo, h12, h13, hvalue⟩ := Frame.typeField?_eq_some htype
    exact ⟨hi, lo, h12, h13, (layout.toNat_registers_d0 t).trans hvalue⟩
  · rw [hd1, hlen]
    omega
  · -- The payload is what a reading from the packet buffer on gives after the header.
    have hpayload := GuestMemory.read_add ((m.write layout.packetBuffer frame.contents).write
      layout.headerArea (frame.contents.take 14)) layout.packetBuffer 14 (frame.len - 14)
    have hwhole : 14 + (frame.len - 14) = frame.contents.length := by omega
    rw [hwhole, hbuffer] at hpayload
    rw [hd1]
    exact hpayload

end HandlerEntry
end GuestNic
