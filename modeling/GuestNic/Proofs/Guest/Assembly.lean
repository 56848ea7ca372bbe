import GuestNic.Proofs.Guest.WriteList

/-!
# Packets

However the guest describes a packet, it comes down to a row of pieces, which has no end where a
write list has none. The packet can be put together exactly when the row has an end and fits into
the longest frame, and it is then the bytes of the pieces in their order.
-/

namespace GuestNic.OutgoingPacket

open Piece

/-- The first `n` pieces of a packet. -/
def pieces (m : GuestMemory) (n : Nat) : OutgoingPacket → List Piece
  | .linear address length => [⟨address, length⟩].take n
  | .segments blocks => (blocks.map Segment.piece).take n
  | .writeList entry => (listed m n entry).map Segment.piece

/-- The packet has these pieces and no more. -/
def Consists (m : GuestMemory) (packet : OutgoingPacket) (ps : List Piece) : Prop :=
  packet.pieces m (ps.length + 1) = ps

/-- The packet has these pieces, and there may be more behind them. -/
def StartsWith (m : GuestMemory) (packet : OutgoingPacket) (ps : List Piece) : Prop :=
  packet.pieces m ps.length = ps

variable (m : GuestMemory) (packet : OutgoingPacket)

/-! ## Rows of pieces -/

theorem take_pieces {k n : Nat} (h : k ≤ n) :
    (packet.pieces m n).take k = packet.pieces m k := by
  cases packet with
  | linear address length => rw [pieces, pieces, List.take_take, Nat.min_eq_left h]
  | segments blocks => rw [pieces, pieces, List.take_take, Nat.min_eq_left h]
  | writeList entry => rw [pieces, pieces, ← List.map_take, take_listed m h]

theorem length_pieces_le (n : Nat) : (packet.pieces m n).length ≤ n := by
  cases packet with
  | linear address length => exact List.length_take_le ..
  | segments blocks => exact List.length_take_le ..
  | writeList entry =>
    rw [pieces, List.length_map]
    exact listed_length_le m n entry

variable {m packet} {ps : List Piece}

/-- A row that ends before the `n`-th piece is the whole packet. -/
theorem consists_of_lt {n : Nat} (h : (packet.pieces m n).length < n) :
    packet.Consists m (packet.pieces m n) := by
  rw [Consists, ← take_pieces m packet h]
  exact List.take_of_length_le (Nat.le_succ _)

theorem Consists.pieces_eq (h : packet.Consists m ps) {n : Nat} (hn : ps.length < n) :
    packet.pieces m n = ps := by
  have htake : (packet.pieces m n).take (ps.length + 1) = ps := (take_pieces m packet hn).trans h
  -- One more piece was asked for than there are, so nothing was cut off.
  have hlen : (packet.pieces m n).length ≤ ps.length + 1 := by
    have := congrArg List.length htake
    rw [List.length_take] at this
    omega
  rwa [List.take_of_length_le hlen] at htake

theorem StartsWith.exists_append (h : packet.StartsWith m ps) {n : Nat} (hn : ps.length ≤ n) :
    ∃ after, packet.pieces m n = ps ++ after := by
  have htake : (packet.pieces m n).take ps.length = ps := (take_pieces m packet hn).trans h
  refine ⟨(packet.pieces m n).drop ps.length, ?_⟩
  calc packet.pieces m n
      = (packet.pieces m n).take ps.length ++ (packet.pieces m n).drop ps.length :=
        (List.take_append_drop ..).symm
    _ = ps ++ (packet.pieces m n).drop ps.length := by rw [htake]

theorem startsWith_of_pieces_eq {n : Nat} {after : List Piece}
    (h : packet.pieces m n = ps ++ after) : packet.StartsWith m ps := by
  have hle : ps.length ≤ n := by
    have := length_pieces_le m packet n
    rw [h, List.length_append] at this
    omega
  rw [StartsWith, ← take_pieces m packet hle, h, List.take_left']
  rfl

/-! ## Enough pieces -/

variable (m packet)

/-- From some point on it makes no difference how far into the row one looks; and if the pieces up
to there fit into a frame, they are all. -/
theorem assemble_eventually :
    ∃ enough, ∀ n, enough ≤ n →
      (packet.assemble m).result = (placeAll m .empty (packet.pieces m n)).result ∧
      (total (packet.pieces m n) ≤ Frame.maxSize → (packet.pieces m n).length < n) := by
  cases packet with
  | linear address length =>
    refine ⟨2, fun n hn => ?_⟩
    have hall : [(⟨address, length⟩ : Piece)].take n = [⟨address, length⟩] :=
      List.take_of_length_le (by simp only [List.length_singleton]; omega)
    rw [pieces, hall]
    exact ⟨rfl, fun _ => hn⟩
  | segments blocks =>
    refine ⟨blocks.length + 1, fun n hn => ?_⟩
    have hall : (blocks.map Segment.piece).take n = blocks.map Segment.piece :=
      List.take_of_length_le (by rw [List.length_map]; omega)
    rw [pieces, hall, List.length_map]
    exact ⟨rfl, fun _ => hn⟩
  | writeList entry =>
    refine ⟨Frame.maxSize + 1, fun n hn => ?_⟩
    have hroom : FrameBuffer.empty.remaining < n := hn
    constructor
    · rw [assemble, placeList_eq m n entry .empty (.inl hroom)]
      rfl
    · intro hfits
      have hlen := length_le_total_listed m n entry
      rw [pieces, List.length_map]
      exact Nat.lt_of_le_of_lt (Nat.le_trans hlen hfits) hn

variable {m packet}

/-- A packet comes to a frame exactly when it has an end and its pieces fit. -/
theorem assemble_ok_iff {bytes : Bytes} :
    (∃ frame, (packet.assemble m).result = .ok frame ∧ frame.contents = bytes) ↔
      ∃ ps, packet.Consists m ps ∧ total ps ≤ Frame.maxSize ∧
        bytes = ps.flatMap (Piece.bytes m) := by
  obtain ⟨enough, heventually⟩ := assemble_eventually m packet
  constructor
  · rintro ⟨frame, hok, rfl⟩
    obtain ⟨hresult, hend⟩ := heventually enough (Nat.le_refl _)
    rw [hresult] at hok
    by_cases hfits : total (packet.pieces m enough) ≤ Frame.maxSize
    · obtain ⟨whole, hplaced, hwhole⟩ := placeAll_empty_of_le (m := m) hfits
      rw [hplaced] at hok
      cases hok
      exact ⟨_, consists_of_lt (hend hfits), hfits, hwhole⟩
    · obtain ⟨before, p, after, hsplit, hbefore, hover⟩ :=
        exists_excess (Nat.lt_of_not_le hfits)
      rw [hsplit, placeAll_empty_of_lt hbefore hover] at hok
      cases hok
  · rintro ⟨ps, hconsists, hfits, rfl⟩
    obtain ⟨hresult, -⟩ := heventually (max enough (ps.length + 1)) (Nat.le_max_left ..)
    obtain ⟨whole, hplaced, hwhole⟩ := placeAll_empty_of_le (m := m) hfits
    refine ⟨whole, ?_, hwhole⟩
    rw [hresult, hconsists.pieces_eq (Nat.le_max_right ..), hplaced]

/-- Otherwise the first piece that does not fit is reported. -/
theorem assemble_error_iff {e : FrameOverflow} :
    (packet.assemble m).result = .error e ↔
      ∃ before p, packet.StartsWith m (before ++ [p]) ∧ total before ≤ Frame.maxSize ∧
        Frame.maxSize < total before + p.length ∧
        e = ⟨min (total before + p.length) (UInt64.size - 1), Frame.maxSize⟩ := by
  obtain ⟨enough, heventually⟩ := assemble_eventually m packet
  constructor
  · intro herror
    obtain ⟨hresult, -⟩ := heventually enough (Nat.le_refl _)
    rw [hresult] at herror
    by_cases hfits : total (packet.pieces m enough) ≤ Frame.maxSize
    · obtain ⟨whole, hplaced, -⟩ := placeAll_empty_of_le (m := m) hfits
      rw [hplaced] at herror
      cases herror
    · obtain ⟨before, p, after, hsplit, hbefore, hover⟩ :=
        exists_excess (Nat.lt_of_not_le hfits)
      have hpieces : packet.pieces m enough = (before ++ [p]) ++ after := by
        rw [hsplit, List.append_assoc, List.singleton_append]
      rw [hsplit, placeAll_empty_of_lt hbefore hover] at herror
      cases herror
      exact ⟨before, p, startsWith_of_pieces_eq hpieces, hbefore, hover, rfl⟩
  · rintro ⟨before, p, hstarts, hbefore, hover, rfl⟩
    obtain ⟨hresult, -⟩ := heventually (max enough (before ++ [p]).length) (Nat.le_max_left ..)
    obtain ⟨after, hpieces⟩ := hstarts.exists_append
      (Nat.le_max_right enough (before ++ [p]).length)
    rw [List.append_assoc, List.singleton_append] at hpieces
    rw [hresult, hpieces, placeAll_empty_of_lt hbefore hover]

/-- What comes of a packet, in whatever way the guest describes it. It is a frame exactly when the
packet has an end and its pieces fit, and the frame is then their bytes in a row; otherwise it is
reported how long the frame would have been with the first piece that does not fit. A write list is
put together, and its pieces are read, as the segments that its entries describe; of a list that has
no end, the first 1517 are enough. -/
theorem assembled_exactly (m : GuestMemory) :
    (∀ (packet : OutgoingPacket) (bytes : Bytes),
      (∃ frame, (packet.assemble m).result = .ok frame ∧ frame.contents = bytes) ↔
        ∃ ps, packet.Consists m ps ∧ total ps ≤ 1516 ∧ bytes = ps.flatMap (Piece.bytes m)) ∧
    (∀ (packet : OutgoingPacket) (e : FrameOverflow),
      (packet.assemble m).result = .error e ↔
        ∃ before p, packet.StartsWith m (before ++ [p]) ∧ total before ≤ 1516 ∧
          1516 < total before + p.length ∧
          e = ⟨min (total before + p.length) (2 ^ 64 - 1), 1516⟩) ∧
    ∀ (entry : UInt32) (n : Nat), (listed m n entry).length < n ∨ 1517 ≤ n →
      let asList := (writeList entry).assemble m
      let asSegments := (segments (listed m n entry)).assemble m
      asList.result = asSegments.result ∧ asList.reads = woven entry asSegments.reads := by
  refine ⟨fun packet bytes => assemble_ok_iff, fun packet e => assemble_error_iff, ?_⟩
  intro entry n hn asList asSegments
  have hroom : FrameBuffer.empty.remaining < n ∨ (listed m n entry).length < n := hn.symm
  have hplaced : asList = ⟨woven entry asSegments.reads, asSegments.result⟩ :=
    placeList_eq m n entry .empty hroom
  rw [hplaced]
  exact ⟨rfl, rfl⟩

end GuestNic.OutgoingPacket
