import GuestNic.Card.Basic
import GuestNic.Proofs.Guest.Memory
import GuestNic.Proofs.Guest.WriteList
import Mathlib.Data.List.Induction

/-!
# Walking along a write list

Where a write list ends is for guest memory alone to say, and guest memory may say nowhere. A walk
goes along the list entry by entry, and what bounds it is the room in the frame: every round after
which the walk goes on has taken some of it.
-/

namespace GuestNic

namespace Piece

theorem total_append (ps qs : List Piece) : total (ps ++ qs) = total ps + total qs := by
  induction ps with
  | nil => exact (Nat.zero_add _).symm
  | cons p ps ih => rw [List.cons_append, total_cons, total_cons, ih, Nat.add_assoc]

theorem total_concat (ps : List Piece) (p : Piece) : total (ps ++ [p]) = total ps + p.length :=
  total_append ps [p]

/-- None of the pieces is empty, and each of them fits into what those before it leave of the
longest frame. -/
def Fit (ps : List Piece) : Prop :=
  ∀ before p after, ps = before ++ p :: after →
    0 < p.length ∧ p.length ≤ Frame.maxSize - total before

variable {ps : List Piece} {p : Piece}

theorem fit_nil : Fit [] := by
  intro before p after h
  cases before <;> cases h

theorem Fit.concat (h : Fit ps) (hpos : 0 < p.length)
    (hfits : p.length ≤ Frame.maxSize - total ps) : Fit (ps ++ [p]) := by
  intro before q after hsplit
  rcases List.eq_nil_or_concat after with rfl | ⟨after, last, rfl⟩
  · obtain ⟨rfl, hq⟩ := List.append_inj' hsplit rfl
    cases hq
    exact ⟨hpos, hfits⟩
  · rw [List.concat_eq_append, ← List.cons_append, ← List.append_assoc] at hsplit
    obtain ⟨hfront, -⟩ := List.append_inj' hsplit rfl
    exact h before q after hfront

theorem Fit.of_concat (h : Fit (ps ++ [p])) :
    Fit ps ∧ 0 < p.length ∧ p.length ≤ Frame.maxSize - total ps := by
  refine ⟨?_, h ps p [] rfl⟩
  intro before q after hsplit
  refine h before q (after ++ [p]) ?_
  rw [hsplit, List.append_assoc, List.cons_append]

/-- Pieces that fit one after the other fit together, and there are no more of them than bytes. -/
theorem Fit.length_le (h : Fit ps) : ps.length ≤ total ps ∧ total ps ≤ Frame.maxSize := by
  induction ps using List.reverseRecOn with
  | nil => exact ⟨Nat.le_refl 0, Nat.zero_le _⟩
  | append_singleton ps p ih =>
    obtain ⟨hfront, hpos, hfits⟩ := h.of_concat
    obtain ⟨hlength, htotal⟩ := ih hfront
    rw [List.length_append, List.length_singleton, total_concat]
    omega

end Piece

namespace OutgoingPacket

open Piece

variable {m : GuestMemory}

/-- For a piece that passes the check there is room. -/
theorem append_of_le_remaining {frame : FrameBuffer} {p : Piece}
    (h : p.length ≤ frame.remaining) : ∃ next, frame.append (p.bytes m) = .ok next := by
  have hroom := frame.len_add_remaining
  have hlength : (p.bytes m).length = p.length := m.read_length p.address p.length
  have hfits : frame.len + (p.bytes m).length ≤ Frame.maxSize := by omega
  obtain ⟨next, hnext, -⟩ := frame.append_of_le hfits
  exact ⟨next, hnext⟩

/-! ## Rounds -/

/-- A walk along a write list that goes on. -/
structure Walk where
  /-- The entry that comes next. -/
  entry : UInt32
  frame : FrameBuffer
  /-- The blocks of guest memory read so far, in order. -/
  reads : List Piece

namespace Walk

/-- In front of the first entry. -/
def start (entry : UInt32) : Walk := ⟨entry, .empty, []⟩

/-- What is done about one entry. It is read, and if it does not end the list and its piece passes
the check, so is the piece. The walk is over then, or goes on behind the entry. -/
def round (m : GuestMemory) (w : Walk) : Assembly ⊕ Walk :=
  let reads := w.reads ++ [⟨w.entry, entrySize⟩]
  match entryAt m w.entry with
  | none => .inl ⟨reads, .ok w.frame⟩
  | some p =>
    if w.frame.remaining < p.length then
      .inl ⟨reads, .error ⟨FrameBuffer.totalLength w.frame.len p.length, Frame.maxSize⟩⟩
    else
      match w.frame.append (p.bytes m) with
      | .error e => .inl ⟨reads ++ [p], .error e⟩
      | .ok frame => .inr ⟨w.entry + entrySize.toUInt32, frame, reads ++ [p]⟩

/-- Go on for `n` rounds, or until the walk is over. -/
def rounds (m : GuestMemory) : Nat → Walk → Assembly ⊕ Walk
  | 0, w => .inr w
  | n + 1, w =>
    match round m w with
    | .inl assembly => .inl assembly
    | .inr w => rounds m n w

/-- Everything that a round can do. -/
inductive Round (m : GuestMemory) (w : Walk) : Assembly ⊕ Walk → Prop where
  /-- The list ends here. -/
  | ended (he : entryAt m w.entry = none) :
      Round m w (.inl ⟨w.reads ++ [⟨w.entry, entrySize⟩], .ok w.frame⟩)
  /-- There is no room for the piece. -/
  | full {p : Piece} (he : entryAt m w.entry = some p) {e : FrameOverflow}
      (hp : place m w.frame p = .error e) :
      Round m w (.inl ⟨w.reads ++ [⟨w.entry, entrySize⟩], .error e⟩)
  | goOn {p : Piece} (he : entryAt m w.entry = some p) {frame : FrameBuffer}
      (hp : place m w.frame p = .ok frame) (hfits : p.length ≤ w.frame.remaining) :
      Round m w (.inr ⟨w.entry + entrySize.toUInt32, frame,
        w.reads ++ [⟨w.entry, entrySize⟩] ++ [p]⟩)

theorem round_round (m : GuestMemory) (w : Walk) : Round m w (round m w) := by
  unfold round
  cases he : entryAt m w.entry with
  | none => exact .ended he
  | some p =>
    dsimp only
    by_cases hfull : w.frame.remaining < p.length
    · rw [if_pos hfull]
      exact .full he (if_pos hfull)
    · rw [if_neg hfull]
      have hfits := Nat.le_of_not_lt hfull
      obtain ⟨frame, happend⟩ := append_of_le_remaining (m := m) hfits
      rw [happend]
      exact .goOn he ((if_neg hfull).trans happend) hfits

/-! ## The walk comes to its end -/

/-- A walk that has more rounds than there is room in the frame comes to its end, and what has come
of it then is the packet. -/
theorem rounds_of_remaining_lt {n : Nat} {w : Walk} (h : w.frame.remaining < n) :
    rounds m n w =
      let rest := placeList m w.entry w.frame
      .inl ⟨w.reads ++ rest.reads, rest.result⟩ := by
  induction n generalizing w with
  | zero => exact absurd h (Nat.not_lt_zero _)
  | succ n ih =>
    rw [rounds]
    have hround := round_round m w
    generalize round m w = outcome at hround ⊢
    cases hround with
    | ended he => rw [placeList_of_none he]
    | full he hp => rw [placeList_of_error he hp]
    | @goOn p he frame hp hfits =>
      -- The piece has taken room, so that one round less is enough for the rest.
      have hless : frame.remaining < w.frame.remaining := remaining_lt he hp
      have hlt : frame.remaining < n := by omega
      rw [placeList_of_ok he hp]
      dsimp only
      rw [ih hlt]
      simp only [List.append_assoc, List.cons_append, List.nil_append]

/-! ## What is read on the way -/

/-- After the entries of `pieces` a walk from `entry` on has read each piece behind its entry, and
the frame has grown by the pieces, all of which fitted. -/
structure HasRead (entry : UInt32) (w : Walk) (pieces : List Piece) : Prop where
  reads : woven entry pieces = w.reads ++ [⟨w.entry, entrySize⟩]
  len : w.frame.len = total pieces
  fit : Fit pieces

theorem hasRead_start (entry : UInt32) : (start entry).HasRead entry [] := ⟨rfl, rfl, fit_nil⟩

variable {entry : UInt32} {pieces : List Piece} {w w' : Walk} {p : Piece}

theorem woven_concat {reads : List Piece} {last : UInt32}
    (h : woven entry pieces = reads ++ [⟨last, entrySize⟩]) (p : Piece) :
    woven entry (pieces ++ [p]) =
      reads ++ [⟨last, entrySize⟩] ++ [p] ++ [⟨last + entrySize.toUInt32, entrySize⟩] := by
  induction pieces generalizing entry reads with
  | nil =>
    have hlast : [] ++ [⟨entry, entrySize⟩] = reads ++ [⟨last, entrySize⟩] := h
    obtain ⟨rfl, hlast⟩ := List.append_inj' hlast rfl
    cases hlast
    rfl
  | cons q pieces ih =>
    -- Behind the first entry and its piece the rest of the list is woven in the same way.
    match reads, h with
    | [], h => cases pieces <;> cases h
    | [_], h => cases pieces <;> cases h
    | a :: b :: reads, h =>
      obtain ⟨rfl, hbehind⟩ := List.cons.inj h
      obtain ⟨rfl, hrest⟩ := List.cons.inj hbehind
      have htail := ih hrest
      simp only [List.cons_append, woven, htail]

theorem HasRead.goOn (h : w.HasRead entry pieces) (he : entryAt m w.entry = some p)
    {frame : FrameBuffer} (hp : place m w.frame p = .ok frame)
    (hfits : p.length ≤ w.frame.remaining) :
    HasRead entry ⟨w.entry + entrySize.toUInt32, frame,
      w.reads ++ [⟨w.entry, entrySize⟩] ++ [p]⟩ (pieces ++ [p]) where
  reads := woven_concat h.reads p
  len := by
    rw [total_concat, place_len hp, h.len]
  fit := by
    refine h.fit.concat (entryAt_length_pos he) ?_
    rw [← h.len]
    exact hfits

/-- What a walk has read when it is over: entry and piece by turns, and in the end the entry at
which it stopped. -/
theorem HasRead.rounds {n : Nat} {assembly : Assembly} (h : w.HasRead entry pieces)
    (hend : rounds m n w = .inl assembly) :
    ∃ pieces, assembly.reads = woven entry pieces ∧ Fit pieces := by
  induction n generalizing w pieces with
  | zero => cases hend
  | succ n ih =>
    rw [Walk.rounds] at hend
    have hround := round_round m w
    generalize round m w = outcome at hround hend
    cases hround with
    | ended | full =>
      cases hend
      exact ⟨pieces, h.reads.symm, h.fit⟩
    | goOn he hp hfits => exact ih (h.goOn he hp hfits) hend

end Walk

/-! ## Bounds of the walk -/

/-- Putting a write list together ends, whatever guest memory says: a walk is over after at most
1517 rounds, in each of which one entry is read. A piece is read only if it fits into what is left
of 1516 bytes, so that no more than these are read in all; to append it never fails. Nothing is done
to guest memory but to read it. -/
theorem write_list_walk_ends {σ : Type} (m : GuestMemory) (entry : UInt32) :
    let assembly := (writeList entry).assemble m
    (∀ n, 1517 ≤ n → Walk.rounds m n (.start entry) = .inl assembly) ∧
      (∃ pieces, assembly.reads = woven entry pieces ∧ pieces.length + 1 ≤ 1517 ∧
        total pieces ≤ 1516 ∧ ∀ before p after, pieces = before ++ p :: after →
          0 < p.length ∧ p.length ≤ 1516 - total before) ∧
      (∀ (frame : FrameBuffer) (p : Piece), p.length ≤ frame.remaining →
        ∃ next, frame.append (p.bytes m) = .ok next ∧
          next.contents = frame.contents ++ p.bytes m) ∧
      ∀ c : Card σ, let events := (c.transmit m (writeList entry)).2.1
        (∀ e ∈ events, ∃ p ∈ assembly.reads, e = .read p.address p.length) ∧
          events.foldl CardEvent.applyTo m = m := by
  intro assembly
  have hrounds : ∀ n, 1517 ≤ n → Walk.rounds m n (.start entry) = .inl assembly := by
    intro n hn
    have hroom : (Walk.start entry).frame.remaining < n := hn
    rw [Walk.rounds_of_remaining_lt hroom]
    rfl
  refine ⟨hrounds, ?_, ?_, ?_⟩
  · obtain ⟨pieces, hreads, hfit⟩ := (Walk.hasRead_start entry).rounds (hrounds 1517 (Nat.le_refl _))
    obtain ⟨hlength, htotal⟩ := hfit.length_le
    have hmax : Frame.maxSize = 1516 := rfl
    exact ⟨pieces, hreads, by omega, htotal, hfit⟩
  · intro frame p hfits
    obtain ⟨next, hnext⟩ := append_of_le_remaining (m := m) hfits
    exact ⟨next, hnext, FrameBuffer.append_ok hnext⟩
  · intro c events
    have hevents : ∀ e ∈ events, ∃ p ∈ assembly.reads, e = .read p.address p.length := by
      intro e he
      unfold events Card.transmit at he
      split at he
      · obtain ⟨p, hp, rfl⟩ := List.mem_map.1 he
        exact ⟨p, hp, rfl⟩
      · cases he
    refine ⟨hevents, CardEvent.foldl_applyTo_of_isNoWrite ?_ m⟩
    intro e he address data hwrite
    obtain ⟨p, -, hread⟩ := hevents e he
    rw [hread] at hwrite
    cases hwrite

end OutgoingPacket
end GuestNic
