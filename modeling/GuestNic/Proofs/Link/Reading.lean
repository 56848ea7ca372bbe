import GuestNic.Link.Basic
import GuestNic.Proofs.Ethernet.Buffer

/-!
# What a read can do

Whatever stands behind a link, a read does one of four things, and each has exactly one effect on
the counters: it hands over a frame, it throws a runt away, it finds nothing, or it fails.
-/

namespace GuestNic

namespace FrameBuffer

variable {ε : Type}

/-- A buffer is as long as its filling reports, and empty after one that failed. -/
theorem len_fillWith (b : FrameBuffer) (limit : Nat) (fill : Bytes → Filling ε) :
    (b.fillWith limit fill).1.len =
      match (b.fillWith limit fill).2 with
      | .ok n => n
      | .error _ => 0 := by
  unfold fillWith
  dsimp only
  split <;> rfl

/-- Bytes that a source hands over fill a buffer, and a source that fails fails the filling. -/
theorem fillWith_ofBytes (b : FrameBuffer) (limit : Nat) (r : Except ε Bytes) :
    (b.fillWith limit fun _ => .ofBytes r).2 =
      r.map fun bytes => min bytes.length (offered limit) := by
  cases r with
  | ok bytes => rfl
  | error e => rfl

end FrameBuffer

namespace Link

/-- What a read can do to the counters, and what it leaves in the buffer and answers. -/
inductive Reads (traffic : Traffic) :
    Traffic → FrameBuffer → Except Host.Fault (Option Origin) → Prop where
  | frame {buffer : FrameBuffer} (origin : Origin) (hlen : Frame.headerSize ≤ buffer.len) :
      Reads traffic { traffic with
          rxFrames := traffic.rxFrames + 1
          rxBytes := traffic.rxBytes + buffer.len } buffer (.ok (some origin))
  | runt {buffer : FrameBuffer} (hlen : buffer.len = 0) :
      Reads traffic { traffic with rxRunts := traffic.rxRunts + 1 } buffer (.ok none)
  | nothing {buffer : FrameBuffer} (hlen : buffer.len = 0) : Reads traffic traffic buffer (.ok none)
  | failed {buffer : FrameBuffer} (fault : Host.Fault) (hlen : buffer.len = 0) :
      Reads traffic { traffic with rxErrors := traffic.rxErrors + 1 } buffer (.error fault)

variable (l : Link) (buffer : FrameBuffer)

/-- To wait is up to the port. -/
theorem wait_link : l.wait.1 = { l with port := l.port.wait.1 } := rfl

/-- A read does one of the things listed. -/
theorem read_reads :
    Reads l.traffic (l.read buffer).1.traffic (l.read buffer).2.1 (l.read buffer).2.2 := by
  rcases hr : l.port.read Frame.maxSize with ⟨port, r⟩
  have hfilled := buffer.fillWith_ofBytes Frame.maxSize (r.map Prod.fst)
  have hlen := buffer.len_fillWith Frame.maxSize fun _ => Filling.ofBytes (r.map Prod.fst)
  simp only [read, hr]
  -- All that matters of the filling is how long it says that the buffer has become.
  generalize buffer.fillWith Frame.maxSize (fun _ => Filling.ofBytes (r.map Prod.fst)) = filling
    at hfilled hlen ⊢
  obtain ⟨filled, n⟩ := filling
  simp only at hfilled hlen ⊢
  rw [hfilled] at hlen ⊢
  cases r with
  | ok d =>
    obtain ⟨bytes, origin⟩ := d
    have hlen : filled.len = min bytes.length (FrameBuffer.offered Frame.maxSize) := hlen
    simp only [Except.map, Except.bind, settleRead, ← hlen]
    split
    · exact .runt rfl
    · rename_i hlong
      exact .frame origin (Nat.le_of_not_lt hlong)
  | error fault =>
    simp only [Except.map, Except.bind, settleRead]
    split
    · exact .nothing hlen
    · exact .failed fault hlen

end Link
end GuestNic
