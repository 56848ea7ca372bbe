import GuestNic.Proofs.Ethernet.Buffer

/-!
# Frame buffers as plain byte strings

Whatever is done to a frame buffer, the frame that it shows goes the way of a plain byte string that
may not become longer than the longest frame. `FrameBuffer.edit` is one thing done to a buffer,
`Bytes.edit` the same done to a byte string, and `contents_edit` says that they agree. So the bytes
that are left over in the storage are never seen.
-/

namespace GuestNic

/-! ## Edits -/

/-- A producer that writes at least as many leading bytes of the slice that it is offered as it
makes count. It may look at the bytes that stand there. -/
structure Producer (ε : Type) where
  fill : Bytes → Filling ε
  covers : ∀ slice n, (fill slice).result = .ok n →
    min n slice.length ≤ (fill slice).written.length

/-- Something done to a frame buffer. `φ` is how it is filled in place. -/
inductive Edit (φ : Type) where
  | new
  | ofBytes (bytes : Bytes)
  | append (bytes : Bytes)
  | clear
  | fill (limit : Nat) (how : φ)
  | clone

/-- What is answered to an edit. -/
inductive EditAnswer (ε : Type) where
  | done
  | overflow (e : FrameOverflow)
  | filled (count : Nat)
  | failed (e : ε)

variable {ε : Type}

/-- What counts of the filling of a slice of `length` bytes. Of one that fails no bytes do. -/
def Filling.counted (length : Nat) (f : Filling ε) : Filling ε :=
  match f.result with
  | .ok n => { written := f.written.take (min n length), result := .ok (min n length) }
  | .error e => { written := [], result := .error e }

/-- A producer that writes back the bytes that it finds. -/
def Producer.writeBack : Producer ε where
  fill slice := { written := slice, result := .ok slice.length }
  covers slice n h := by
    cases h
    exact Nat.min_le_left ..

/-- The producer does not care what stands in the slice that it is offered. -/
def Producer.IsBlind (p : Producer ε) : Prop :=
  ∀ slice slice' : Bytes, slice.length = slice'.length → p.fill slice = p.fill slice'

/-- Nothing is done that depends on bytes that are not shown. -/
def Edit.IsBlind : Edit (Producer ε) → Prop
  | .fill _ p => p.IsBlind
  | _ => True

/-! ## Plain byte strings -/

namespace Bytes

/-- An edit of a byte string that may not become longer than the longest frame. A length that is
reported as too long is held at the largest 64-bit number. -/
def edit (s : Bytes) : Edit (Filling ε) → Bytes × EditAnswer ε
  | .new => ([], .done)
  | .ofBytes bytes =>
    if bytes.length ≤ Frame.maxSize then (bytes, .done)
    else (s, .overflow ⟨min bytes.length (UInt64.size - 1), Frame.maxSize⟩)
  | .append bytes =>
    if s.length + bytes.length ≤ Frame.maxSize then (s ++ bytes, .done)
    else (s, .overflow ⟨min (s.length + bytes.length) (UInt64.size - 1), Frame.maxSize⟩)
  | .clear => ([], .done)
  | .fill limit filling =>
    match filling.result with
    | .ok n =>
      let count := min n (min limit Frame.maxSize)
      (filling.written.take count, .filled count)
    | .error e => ([], .failed e)
  | .clone => (s, .done)

/-- Edits one after the other, with the answers. -/
def editAll : Bytes → List (Edit (Filling ε)) → Bytes × List (EditAnswer ε)
  | s, [] => (s, [])
  | s, e :: es =>
    let (s, answer) := s.edit e
    let (s, answers) := editAll s es
    (s, answer :: answers)

end Bytes

namespace FrameBuffer

/-! ## Frame buffers -/

/-- Go on with a buffer that was made, or with the old one. -/
def orKeep (b : FrameBuffer) : Except FrameOverflow FrameBuffer → FrameBuffer × EditAnswer ε
  | .ok made => (made, .done)
  | .error e => (b, .overflow e)

/-- An edit of a frame buffer. -/
def edit (b : FrameBuffer) : Edit (Producer ε) → FrameBuffer × EditAnswer ε
  | .new => (.empty, .done)
  | .ofBytes bytes => b.orKeep (FrameBuffer.ofBytes bytes)
  | .append bytes => b.orKeep (b.append bytes)
  | .clear => (b.clear, .done)
  | .fill limit p =>
    match b.fillWith limit p.fill with
    | (filled, .ok count) => (filled, .filled count)
    | (filled, .error e) => (filled, .failed e)
  | .clone => (b, .done)

/-- The edit as it turns out for this buffer: a producer is offered the leading bytes of the storage,
and of what it does with them some counts. -/
def turnsOut (b : FrameBuffer) : Edit (Producer ε) → Edit (Filling ε)
  | .new => .new
  | .ofBytes bytes => .ofBytes bytes
  | .append bytes => .append bytes
  | .clear => .clear
  | .fill limit p =>
    .fill limit ((p.fill (b.storage.take (offered limit))).counted (offered limit))
  | .clone => .clone

/-- Edits one after the other, with the answers. -/
def editAll : FrameBuffer → List (Edit (Producer ε)) → FrameBuffer × List (EditAnswer ε)
  | b, [] => (b, [])
  | b, e :: es =>
    let (b, answer) := b.edit e
    let (b, answers) := editAll b es
    (b, answer :: answers)

/-- Edits one after the other, as they turn out. -/
def turnOut : FrameBuffer → List (Edit (Producer ε)) → List (Edit (Filling ε))
  | _, [] => []
  | b, e :: es => b.turnsOut e :: turnOut (b.edit e).1 es

variable {b : FrameBuffer}

theorem beq_iff_contents {a : FrameBuffer} : (a == b) = true ↔ a.contents = b.contents := by
  show (a.contents == b.contents) = true ↔ a.contents = b.contents
  exact beq_iff_eq

theorem offered_length (b : FrameBuffer) (limit : Nat) :
    (b.storage.take (offered limit)).length = offered limit := by
  rw [List.length_take, b.storage_length]
  exact Nat.min_eq_left (Nat.min_le_right ..)

/-! ## One edit -/

theorem contents_orKeep (b : FrameBuffer) (s bytes : Bytes) {a : FrameBuffer}
    (ha : a.contents = s) :
    ((b.orKeep (ε := ε) (a.append bytes)).1.contents, (b.orKeep (ε := ε) (a.append bytes)).2) =
      if s.length + bytes.length ≤ Frame.maxSize then (s ++ bytes, .done)
      else (b.contents, .overflow ⟨min (s.length + bytes.length) (UInt64.size - 1),
        Frame.maxSize⟩) := by
  have hlen : a.len = s.length := by rw [← ha, contents_length]
  split
  · rename_i hfits
    obtain ⟨longer, happend, -⟩ := append_of_le (b := a) (by rw [hlen]; exact hfits)
    have hcontents : longer.contents = s ++ bytes := by rw [append_ok happend, ha]
    rw [happend]
    exact Prod.ext hcontents rfl
  · rename_i hfits
    rw [append_of_lt (by omega), hlen]
    rfl

/-- A buffer that was filled shows the bytes that were written and count, and an empty frame if the
producer failed. -/
theorem contents_fill (b : FrameBuffer) (limit : Nat) (p : Producer ε) :
    let filling := p.fill (b.storage.take (offered limit))
    (b.fillWith limit p.fill).1.contents =
        (match filling.result with
          | .ok n => filling.written.take (min n (offered limit))
          | .error _ => []) ∧
      (b.fillWith limit p.fill).2 = filling.result.map (min · (offered limit)) := by
  intro filling
  have hslice := b.offered_length limit
  have hbound : offered limit ≤ b.storage.length := by
    rw [b.storage_length]
    exact Nat.min_le_right ..
  cases hr : filling.result with
  | error e =>
    have hr' : (p.fill (b.storage.take (offered limit))).result = .error e := hr
    simp only [fillWith, hr', contents, List.take_zero, Except.map, and_self]
  | ok n =>
    have hr' : (p.fill (b.storage.take (offered limit))).result = .ok n := hr
    refine ⟨?_, by simp only [fillWith, hr', Except.map]⟩
    -- What counts was written, so nothing of what stood there before is shown.
    have hcovers : min n (offered limit) ≤ filling.written.length := by
      have hcovers := p.covers _ n hr
      rwa [hslice] at hcovers
    let data := filling.written.take (offered limit)
    have hdata : min n (offered limit) ≤ data.length := by
      rw [List.length_take]
      omega
    have hover : (Bytes.overwrite b.storage 0 data).take (0 + data.length) = [] ++ data :=
      Bytes.take_overwrite (by rw [List.length_take]; omega)
    rw [Nat.zero_add, List.nil_append] at hover
    simp only [fillWith, hr', contents, hslice]
    calc (Bytes.overwrite b.storage 0 data).take (min n (offered limit))
        = ((Bytes.overwrite b.storage 0 data).take data.length).take (min n (offered limit)) := by
          rw [List.take_take, Nat.min_eq_left hdata]
      _ = data.take (min n (offered limit)) := by rw [hover]
      _ = filling.written.take (min n (offered limit)) := by
          rw [List.take_take, Nat.min_eq_left (Nat.min_le_right ..)]

/-- The frame that a buffer shows is edited as a plain byte string is, with the same answer. -/
theorem contents_edit (b : FrameBuffer) (e : Edit (Producer ε)) :
    ((b.edit e).1.contents, (b.edit e).2) = b.contents.edit (b.turnsOut e) := by
  cases e with
  | new => rfl
  | clear => exact Prod.ext b.contents_clear rfl
  | clone => rfl
  | append bytes => exact contents_orKeep b b.contents bytes rfl
  | ofBytes bytes =>
    -- A fresh buffer is an empty one to which the bytes are appended.
    have hempty := contents_orKeep (ε := ε) b [] bytes contents_empty
    simp only [List.length_nil, Nat.zero_add, List.nil_append] at hempty
    exact hempty
  | fill limit p =>
    obtain ⟨hcontents, hanswer⟩ := b.contents_fill limit p
    simp only [edit, turnsOut, Bytes.edit]
    generalize b.fillWith limit p.fill = outcome at hcontents hanswer ⊢
    obtain ⟨filled, answer⟩ := outcome
    cases hr : (p.fill (b.storage.take (offered limit))).result with
    | ok n =>
      simp only [hr, Except.map] at hcontents hanswer
      subst hanswer
      -- To cut what counts once more to the bytes that were offered changes nothing.
      have hcut : min (min n (offered limit)) (min limit Frame.maxSize) = min n (offered limit) :=
        Nat.min_eq_left (Nat.min_le_right ..)
      simp only [Filling.counted, hr, hcut, List.take_take, Nat.min_self, hcontents]
    | error e =>
      simp only [hr, Except.map] at hcontents hanswer
      subst hanswer
      simp only [Filling.counted, hr, hcontents]

/-- What does not depend on bytes that are not shown turns out the same for every buffer. -/
theorem turnsOut_of_isBlind {e : Edit (Producer ε)} (h : e.IsBlind) (a b : FrameBuffer) :
    a.turnsOut e = b.turnsOut e := by
  cases e with
  | fill limit p =>
    have hlength := (a.offered_length limit).trans (b.offered_length limit).symm
    exact congrArg (fun filling => Edit.fill limit (filling.counted (offered limit)))
      (h _ _ hlength)
  | new | ofBytes | append | clear | clone => rfl

/-! ## Many edits -/

theorem contents_editAll (b : FrameBuffer) (edits : List (Edit (Producer ε))) :
    ((b.editAll edits).1.contents, (b.editAll edits).2) =
      b.contents.editAll (b.turnOut edits) := by
  induction edits generalizing b with
  | nil => rfl
  | cons e es ih =>
    -- The plain string goes on from what the edited buffer shows.
    have hedit := contents_edit b e
    have hrest := ih (b.edit e).1
    simp only [Prod.ext_iff] at hedit hrest
    simp only [editAll, turnOut, Bytes.editAll, ← hedit.1, ← hedit.2, ← hrest.1, ← hrest.2]

theorem turnOut_of_isBlind {edits : List (Edit (Producer ε))} (h : ∀ e ∈ edits, e.IsBlind)
    (a b : FrameBuffer) : a.turnOut edits = b.turnOut edits := by
  induction edits generalizing a b with
  | nil => rfl
  | cons e es ih =>
    have hfirst := turnsOut_of_isBlind (h e List.mem_cons_self) a b
    have hrest := ih (fun e he => h e (List.mem_cons_of_mem _ he)) (a.edit e).1 (b.edit e).1
    rw [turnOut, turnOut, hfirst, hrest]

/-- A frame buffer is a byte string that may not become longer than the longest frame. Whatever is
done to it, its length and its room together stay the same, and the bytes that it shows and all
answers are those of a plain byte string edited in the same way. It stays the same as any other
buffer that showed the same frame, as long as what counts of each filling is the same for both, and
so it is when no producer looks at the bytes that it is offered. -/
theorem buffer_is_bounded_string (b : FrameBuffer) (edits : List (Edit (Producer ε))) :
    let edited := b.editAll edits
    edited.1.len = edited.1.contents.length ∧
      edited.1.len + edited.1.remaining = Frame.maxSize ∧
      (edited.1.contents, edited.2) = b.contents.editAll (b.turnOut edits) ∧
      (∀ a : FrameBuffer, (a == b) = true → a.turnOut edits = b.turnOut edits →
        ((a.editAll edits).1 == edited.1) = true ∧ (a.editAll edits).2 = edited.2) ∧
      ((∀ e ∈ edits, e.IsBlind) → ∀ a : FrameBuffer, a.turnOut edits = b.turnOut edits) := by
  intro edited
  have hedited := contents_editAll b edits
  refine ⟨(contents_length _).symm, len_add_remaining _, hedited, ?_, ?_⟩
  · intro a hsame hturns
    have hother := contents_editAll a edits
    rw [beq_iff_contents.1 hsame, hturns, ← hedited] at hother
    obtain ⟨hcontents, hanswers⟩ := Prod.ext_iff.1 hother
    exact ⟨beq_iff_contents.2 hcontents, hanswers⟩
  · intro hblind a
    exact turnOut_of_isBlind hblind a b

/-- A producer that does look can show what was left over: two buffers that both show an empty frame
differ once what they are offered has been written back. -/
theorem leftover_shown_by_writeBack :
    let fresh : FrameBuffer := empty
    let used : FrameBuffer := (empty.editAll (ε := Empty) [.ofBytes [1, 1, 1], .clear]).1
    let edits : List (Edit (Producer Empty)) := [.fill 3 .writeBack]
    (fresh == used) = true ∧
      (fresh.editAll edits).1.contents = [0, 0, 0] ∧
      (used.editAll edits).1.contents = [1, 1, 1] ∧
      ((fresh.editAll edits).1 == (used.editAll edits).1) = false := by
  decide +kernel

end FrameBuffer
end GuestNic
