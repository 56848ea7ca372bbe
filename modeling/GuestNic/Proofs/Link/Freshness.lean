import GuestNic.Link.Basic
import GuestNic.Proofs.Ethernet.Buffer

/-!
# Reading, whatever the host answers

A read is answered by the host with a datagram or with a fault. What the read shows, and which
counter it moves, depends on this answer alone: one buffer serves all reads of a link, and nothing
that it held before is seen again. `Link.readFrom` is a read from a host that may answer anything;
the link's own read is the one from the host behind its port.
-/

namespace GuestNic

namespace FrameBuffer

/-- A buffer that is filled with bytes holds them, or the first ones if they do not all fit. -/
theorem fillWith_cut (b : FrameBuffer) (bytes : Bytes) :
    ∃ filled : FrameBuffer, filled.contents = bytes.take Frame.maxSize ∧
      (b.fillWith Frame.maxSize fun _ => (.ofBytes (.ok bytes) : Filling Host.Fault)) =
        (filled, .ok (min Frame.maxSize bytes.length)) := by
  let cut : Filling Host.Fault := .ofBytes (.ok (bytes.take Frame.maxSize))
  have hcut : (bytes.take Frame.maxSize).length ≤ Frame.maxSize := List.length_take_le ..
  have hslice : (b.storage.take Frame.maxSize).length = Frame.maxSize := by
    rw [List.length_take, b.storage_length, Nat.min_self]
  have hlength : min (min Frame.maxSize bytes.length) Frame.maxSize =
      min bytes.length Frame.maxSize := by omega
  -- The bytes past the slice are not written, and the count is cut to it.
  have hsame : (b.fillWith Frame.maxSize fun _ => (.ofBytes (.ok bytes) : Filling Host.Fault)) =
      b.fillWith Frame.maxSize fun _ => cut := by
    simp only [cut, fillWith, Filling.ofBytes, offered_maxSize, hslice, List.take_take,
      Nat.min_self, List.length_take, hlength]
  have hcontents : (b.fillWith Frame.maxSize fun _ => cut).1.contents =
      bytes.take Frame.maxSize := b.contents_fillWith hcut
  have hcount : (b.fillWith Frame.maxSize fun _ => cut).2 =
      .ok (bytes.take Frame.maxSize).length := b.fillWith_ok hcut
  refine ⟨_, hcontents, ?_⟩
  rw [hsame, ← List.length_take, ← hcount]

/-- A buffer whose filling fails is empty. -/
theorem fillWith_error (b : FrameBuffer) (fault : Host.Fault) :
    ∃ emptied : FrameBuffer, emptied.contents = [] ∧
      (b.fillWith Frame.maxSize fun _ => .ofBytes (.error fault)) = (emptied, .error fault) := by
  refine ⟨(b.fillWith Frame.maxSize fun _ => .ofBytes (.error fault)).1, ?_, rfl⟩
  exact List.take_zero

end FrameBuffer

/-- What a host makes of a read: the port afterwards, and a datagram with its origin or a fault. -/
abbrev HostReading := Port × Except Host.Fault (Bytes × Origin)

/-- What a read shows: its answer, and the frame that is in the buffer then. -/
structure Showing where
  answer : Except Host.Fault (Option Origin)
  frame : Bytes

/-- What is shown for an answer of the host. Of a frame the first bytes are shown; a runt, like
nothing at all, is no frame. -/
def Showing.of : Except Host.Fault (Bytes × Origin) → Showing
  | .ok (d, origin) =>
    if d.length < Frame.headerSize then ⟨.ok none, []⟩
    else ⟨.ok (some origin), d.take Frame.maxSize⟩
  | .error fault => ⟨if fault.isTransient then .ok none else .error fault, []⟩

/-- The frame that a read hands over, if it hands one over. -/
def Showing.handed? (s : Showing) : Option Bytes :=
  match s.answer with
  | .ok (some _) => some s.frame
  | _ => none

/-- The one effect that an answer of the host has on the counters. -/
def Traffic.counting (t : Traffic) : Except Host.Fault (Bytes × Origin) → Traffic
  | .ok (d, _) =>
    if d.length < Frame.headerSize then { t with rxRunts := t.rxRunts + 1 }
    else { t with
      rxFrames := t.rxFrames + 1
      rxBytes := t.rxBytes + min Frame.maxSize d.length }
  | .error fault => if fault.isTransient then t else { t with rxErrors := t.rxErrors + 1 }

theorem Showing.handed?_of_ok (d : Bytes) (origin : Origin) :
    (of (.ok (d, origin))).handed? =
      if Frame.headerSize ≤ d.length then some (d.take Frame.maxSize) else none := by
  by_cases hlen : d.length < Frame.headerSize
  · simp only [of, if_pos hlen, if_neg (Nat.not_le_of_lt hlen), handed?]
  · simp only [of, if_neg hlen, if_pos (Nat.le_of_not_lt hlen), handed?]

theorem Showing.handed?_of_error (fault : Host.Fault) : (of (.error fault)).handed? = none := by
  rw [of, handed?]
  cases fault.isTransient <;> rfl

/-- A frame that is handed over is the datagram of the host's answer, or as much of it as fits. -/
theorem Showing.exists_of_handed? {result : Except Host.Fault (Bytes × Origin)} {frame : Bytes}
    (h : (of result).handed? = some frame) :
    ∃ d origin, result = .ok (d, origin) ∧ Frame.headerSize ≤ d.length ∧
      frame = d.take Frame.maxSize ∧ of result = ⟨.ok (some origin), frame⟩ := by
  cases result with
  | error fault =>
    rw [handed?_of_error] at h
    cases h
  | ok d =>
    obtain ⟨d, origin⟩ := d
    rw [handed?_of_ok] at h
    split at h
    · rename_i hlen
      cases h
      exact ⟨d, origin, rfl, hlen, rfl, if_neg (Nat.not_lt_of_le hlen)⟩
    · cases h

/-- It is long enough for a header and not longer than the longest frame. -/
theorem Showing.length_of_handed? {result : Except Host.Fault (Bytes × Origin)} {frame : Bytes}
    (h : (of result).handed? = some frame) :
    Frame.headerSize ≤ frame.length ∧ frame.length ≤ Frame.maxSize := by
  obtain ⟨d, _, -, hlen, rfl, -⟩ := exists_of_handed? h
  have hheader : Frame.headerSize ≤ Frame.maxSize := by decide
  rw [List.length_take]
  omega

/-- Where no frame is handed over, the buffer is empty. -/
theorem Showing.frame_of_not_handed {result : Except Host.Fault (Bytes × Origin)}
    (h : (of result).handed? = none) : (of result).frame = [] := by
  cases result with
  | error fault => rfl
  | ok d =>
    obtain ⟨d, origin⟩ := d
    by_cases hlen : d.length < Frame.headerSize
    · rw [of, if_pos hlen]
    · rw [handed?_of_ok, if_pos (Nat.le_of_not_lt hlen)] at h
      cases h

/-- A datagram that was cut to the longest frame shows the same as the whole one. -/
theorem Showing.of_take (d : Bytes) (origin : Origin) :
    of (.ok (d.take Frame.maxSize, origin)) = of (.ok (d, origin)) := by
  have hlen : (d.take Frame.maxSize).length < Frame.headerSize ↔ d.length < Frame.headerSize := by
    have hheader : Frame.headerSize ≤ Frame.maxSize := by decide
    rw [List.length_take]
    omega
  simp only [of, hlen, List.take_take, Nat.min_self]

namespace Link

/-! ## One read -/

/-- Read one frame into `buffer` from a host that answers as it likes. -/
def readFrom (l : Link) (buffer : FrameBuffer) (h : HostReading) :
    Link × FrameBuffer × Except Host.Fault (Option Origin) :=
  let (buffer, filled) := buffer.fillWith Frame.maxSize fun _ => .ofBytes (h.2.map Prod.fst)
  let (traffic, buffer, answer) := settleRead l.traffic buffer <|
    filled.bind fun length => h.2.map fun (_, source) => (length, source)
  ({ port := h.1, traffic }, buffer, answer)

/-- The link reads from the host behind its port. -/
theorem read_eq_readFrom (l : Link) (buffer : FrameBuffer) :
    l.read buffer = l.readFrom buffer (l.port.read Frame.maxSize) := rfl

/-- What the buffer held makes no difference to what a read shows and counts. -/
theorem readFrom_eq (l : Link) (buffer : FrameBuffer) (port : Port)
    (result : Except Host.Fault (Bytes × Origin)) :
    ∃ filled : FrameBuffer, filled.contents = (Showing.of result).frame ∧
      l.readFrom buffer (port, result) =
        ({ port, traffic := l.traffic.counting result }, filled, (Showing.of result).answer) := by
  cases result with
  | error fault =>
    obtain ⟨emptied, hempty, hfill⟩ := buffer.fillWith_error fault
    refine ⟨emptied, hempty, ?_⟩
    simp only [readFrom, Except.map, hfill, Except.bind, settleRead, Showing.of, Traffic.counting]
    cases fault.isTransient <;> rfl
  | ok d =>
    obtain ⟨d, origin⟩ := d
    obtain ⟨filled, hfilled, hfill⟩ := buffer.fillWith_cut d
    simp only [readFrom, Except.map, hfill, Except.bind, settleRead, Showing.of, Traffic.counting]
    have hheader : Frame.headerSize ≤ Frame.maxSize := by decide
    by_cases hlen : d.length < Frame.headerSize
    · have hcut : min Frame.maxSize d.length < Frame.headerSize := by omega
      refine ⟨filled.clear, ?_, ?_⟩
      · rw [if_pos hlen]
        exact FrameBuffer.contents_clear _
      · rw [if_pos hlen, if_pos hlen, if_pos hcut]
    · have hcut : ¬ min Frame.maxSize d.length < Frame.headerSize := by omega
      refine ⟨filled, ?_, ?_⟩
      · rw [if_neg hlen]
        exact hfilled
      · rw [if_neg hlen, if_neg hlen, if_neg hcut]

/-! ## All the reads of a link -/

/-- Read into one buffer as often as the host answers, and note down what each read shows. -/
def readAll (l : Link) (buffer : FrameBuffer) :
    List HostReading → Link × FrameBuffer × List Showing
  | [] => (l, buffer, [])
  | h :: hs =>
    let (l, buffer, answer) := l.readFrom buffer h
    let (l', buffer', rest) := readAll l buffer hs
    (l', buffer', ⟨answer, buffer.contents⟩ :: rest)

/-- Each read shows what the host answered to it and counts that, whatever was read before. -/
theorem readAll_eq (l : Link) (buffer : FrameBuffer) (hs : List HostReading) :
    (l.readAll buffer hs).2.2 = hs.map (fun h => Showing.of h.2) ∧
      (l.readAll buffer hs).1.traffic = (hs.map Prod.snd).foldl Traffic.counting l.traffic := by
  induction hs generalizing l buffer with
  | nil => exact ⟨rfl, rfl⟩
  | cons h hs ih =>
    obtain ⟨port, result⟩ := h
    obtain ⟨filled, hfilled, hread⟩ := l.readFrom_eq buffer port result
    obtain ⟨hshown, htraffic⟩ := ih { port, traffic := l.traffic.counting result } filled
    constructor
    · simp only [readAll, hread, hshown, hfilled, List.map_cons]
    · simp only [readAll, hread, htraffic, List.map_cons, List.foldl_cons]

end Link
end GuestNic
