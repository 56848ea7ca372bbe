import GuestNic.Proofs.Threads.Onlooker

/-!
# What becomes of what is read

Whatever the host answers and whoever else takes steps in between, the books of the onlooker agree
with each other and with the counters of the card (`Watched.Accounted`).
-/

namespace GuestNic

variable {σ : Type}

/-! ## The frame in hand -/

/-- The fates so far are those of the reads so far, but for a frame that is still in hand. -/
inductive InHand (buffer : FrameBuffer) :
    ReceiverPoint → List ReadRecord → List ReadFate → Prop where
  | nothing {point : ReceiverPoint} {reads : List ReadRecord} {fates : List ReadFate}
      (hpoint : point.isSettled = true)
      (h : List.Forall₂ ReadFate.Of (reads.map ReadRecord.found) fates) :
      InHand buffer point reads fates
  | sorting {past : List ReadRecord} {fates : List ReadFate} {d : Bytes} {origin : Origin}
      {waited : Bool} (h : List.Forall₂ ReadFate.Of (past.map ReadRecord.found) fates)
      (hlen : Frame.headerSize ≤ d.length) (hbuffer : buffer.contents = d.take Frame.maxSize) :
      InHand buffer (.sort origin) (past ++ [⟨.ok (d, origin), waited⟩]) fates
  | ringing {past : List ReadRecord} {fates : List ReadFate} {d : Bytes} {origin : Origin}
      {waited : Bool} {delivery : Delivery}
      (h : List.Forall₂ ReadFate.Of (past.map ReadRecord.found) fates)
      (hlen : Frame.headerSize ≤ d.length) (hconveys : delivery.Conveys d origin) :
      InHand buffer (.ring delivery) (past ++ [⟨.ok (d, origin), waited⟩]) fates

theorem InHand.settled {buffer : FrameBuffer} {point : ReceiverPoint} {reads : List ReadRecord}
    {fates : List ReadFate} (h : InHand buffer point reads fates)
    (hpoint : point.isSettled = true) :
    List.Forall₂ ReadFate.Of (reads.map ReadRecord.found) fates := by
  cases h with
  | nothing _ h => exact h
  | sorting | ringing => cases hpoint

theorem InHand.of_sort {buffer : FrameBuffer} {origin : Origin} {reads : List ReadRecord}
    {fates : List ReadFate} (h : InHand buffer (.sort origin) reads fates) :
    ∃ past d waited, reads = past ++ [⟨.ok (d, origin), waited⟩] ∧
      List.Forall₂ ReadFate.Of (past.map ReadRecord.found) fates ∧
      Frame.headerSize ≤ d.length ∧ buffer.contents = d.take Frame.maxSize := by
  cases h with
  | nothing hpoint => cases hpoint
  | sorting h hlen hbuffer => exact ⟨_, _, _, rfl, h, hlen, hbuffer⟩

theorem InHand.of_ring {buffer : FrameBuffer} {delivery : Delivery} {reads : List ReadRecord}
    {fates : List ReadFate} (h : InHand buffer (.ring delivery) reads fates) :
    ∃ past d origin waited, reads = past ++ [⟨.ok (d, origin), waited⟩] ∧
      List.Forall₂ ReadFate.Of (past.map ReadRecord.found) fates ∧
      Frame.headerSize ≤ d.length ∧ delivery.Conveys d origin := by
  cases h with
  | nothing hpoint => cases hpoint
  | ringing h hlen hconveys => exact ⟨_, _, _, _, rfl, h, hlen, hconveys⟩

theorem ReadFate.forall_snoc {founds : List ReadAnswer} {fates : List ReadFate}
    {found : ReadAnswer} {fate : ReadFate} (h : List.Forall₂ Of founds fates) (hfate : Of found fate) :
    List.Forall₂ Of (founds ++ [found]) (fates ++ [fate]) :=
  List.rel_append h (.cons hfate .nil)

/-- What the link counts shows in the fates: runts as such, and frames as dropped, delivered or
silenced. -/
theorem ReadFate.counting_fates {founds : List ReadAnswer} {fates : List ReadFate}
    (h : List.Forall₂ Of founds fates) (t : Traffic) :
    (founds.foldl Traffic.counting t).rxRunts = t.rxRunts + fates.countP isRunt ∧
      (founds.foldl Traffic.counting t).rxFrames =
        t.rxFrames + fates.countP isDropped + fates.countP isDelivered +
          (fates.filterMap silenced?).length := by
  induction h generalizing t with
  | nil => exact ⟨rfl, rfl⟩
  | @cons found fate founds fates hof _ ih =>
    have hrunts : (t.counting found).rxRunts = t.rxRunts + if fate.isRunt then 1 else 0 := by
      cases hof with
      | nothing ht | failed ht => simp [Traffic.counting, ht, isRunt]
      | runt hlen => simp [Traffic.counting, hlen, isRunt]
      | dropped hlen | delivered hlen | silenced hlen =>
        simp [Traffic.counting, Nat.not_lt_of_le hlen, isRunt]
    have hframes : (t.counting found).rxFrames = t.rxFrames + (if fate.isDropped then 1 else 0) +
        (if fate.isDelivered then 1 else 0) + fate.silenced?.toList.length := by
      cases hof with
      | nothing ht | failed ht =>
        simp [Traffic.counting, ht, isDropped, isDelivered, silenced?]
      | runt hlen => simp [Traffic.counting, hlen, isDropped, isDelivered, silenced?]
      | dropped hlen | delivered hlen | silenced hlen =>
        simp [Traffic.counting, Nat.not_lt_of_le hlen, isDropped, isDelivered, silenced?]
    have hsilenced : ((fate :: fates).filterMap silenced?).length =
        fate.silenced?.toList.length + (fates.filterMap silenced?).length := by
      rw [List.filterMap_cons]
      cases fate.silenced? with
      | none => exact (Nat.zero_add _).symm
      | some delivery => exact Nat.add_comm _ 1
    obtain ⟨ihrunts, ihframes⟩ := ih (t.counting found)
    rw [List.foldl_cons, ihrunts, ihframes, hrunts, hframes, List.countP_cons, List.countP_cons,
      List.countP_cons, hsilenced]
    constructor <;> omega

/-- What waited and was read has its fates among those of all reads. -/
theorem ReadFate.exists_of_waited {reads : List ReadRecord} {fates : List ReadFate}
    (h : List.Forall₂ Of (reads.map ReadRecord.found) fates) :
    ∃ waited, List.Forall₂ Of ((reads.filter ReadRecord.waited).map ReadRecord.found) waited ∧
      waited.Sublist fates := by
  induction reads generalizing fates with
  | nil => exact ⟨[], .nil, List.nil_sublist fates⟩
  | cons record reads ih =>
    obtain ⟨fate, rest, hof, hrest, rfl⟩ := List.forall₂_cons_left_iff.1 h
    obtain ⟨waited, hwaited, hsub⟩ := ih hrest
    by_cases hrecord : record.waited = true
    · rw [List.filter_cons_of_pos hrecord]
      exact ⟨fate :: waited, .cons hof hwaited, hsub.cons_cons fate⟩
    · rw [List.filter_cons_of_neg hrecord]
      exact ⟨waited, hwaited, hsub.cons fate⟩

/-- A read that finds no frame is over, and nothing is rung for it. -/
theorem ReadFate.of_ofFound?_some {found : ReadAnswer} {fate : ReadFate}
    (h : ofFound? found = some fate) :
    Of found fate ∧ Threads.pointAfter (Showing.of found).answer = .check ∧
      fate.isDropped = false ∧ fate.isDelivered = false ∧ fate.signals = [] ∧
      ∀ delivery, fate ≠ .silenced delivery := by
  cases found with
  | error fault =>
    cases ht : fault.isTransient with
    | true =>
      simp only [ofFound?, ht, ↓reduceIte] at h
      cases h
      refine ⟨.nothing ht, ?_, rfl, rfl, rfl, fun _ hfate => by cases hfate⟩
      simp only [Showing.of, ht, ↓reduceIte, Threads.pointAfter]
    | false =>
      simp only [ofFound?, ht, Bool.false_eq_true, ↓reduceIte] at h
      cases h
      refine ⟨.failed ht, ?_, rfl, rfl, rfl, fun _ hfate => by cases hfate⟩
      simp only [Showing.of, ht, Bool.false_eq_true, ↓reduceIte, Threads.pointAfter]
  | ok d =>
    obtain ⟨d, origin⟩ := d
    by_cases hlen : d.length < Frame.headerSize
    · rw [ofFound?, if_pos hlen] at h
      cases h
      refine ⟨.runt hlen, ?_, rfl, rfl, rfl, fun _ hfate => by cases hfate⟩
      simp only [Showing.of, if_pos hlen, Threads.pointAfter]
    · rw [ofFound?, if_neg hlen] at h
      cases h

/-- Any other read finds a frame, which goes into the buffer. -/
theorem ReadFate.of_ofFound?_none {found : ReadAnswer} (h : ofFound? found = none) :
    ∃ d origin, found = .ok (d, origin) ∧ Frame.headerSize ≤ d.length ∧
      Showing.of found = ⟨.ok (some origin), d.take Frame.maxSize⟩ := by
  cases found with
  | error fault => cases h
  | ok d =>
    obtain ⟨d, origin⟩ := d
    by_cases hlen : d.length < Frame.headerSize
    · rw [ofFound?, if_pos hlen] at h
      cases h
    · exact ⟨d, origin, rfl, Nat.le_of_not_lt hlen, if_neg hlen⟩

/-- A frame that was long enough is dropped or rung for, and what is rung for conveys it. -/
theorem Card.prepare_conveys {c : Card σ} {d : Bytes} (origin : Origin)
    (hlen : Frame.headerSize ≤ d.length) (hbuffer : c.buffer.contents = d.take Frame.maxSize) :
    (origin = .device ∧ c.prepare origin =
        ({ c with buffer := .empty, counters.rxDropped := c.counters.rxDropped + 1 }, none)) ∨
      ∃ delivery, delivery.Conveys d origin ∧
        c.prepare origin = ({ c with buffer := .empty }, some delivery) := by
  cases origin with
  | peer peer => exact .inr ⟨.tunnel c.buffer peer, ⟨hbuffer, rfl⟩, rfl⟩
  | device =>
    have hheader : Frame.headerSize ≤ c.buffer.contents.length := by
      have hmax : Frame.headerSize ≤ Frame.maxSize := by decide
      rw [hbuffer, List.length_take]
      omega
    cases hi : c.handlers.invocation? c.buffer.contents with
    | none => exact .inl ⟨rfl, prepare_device_none hheader hi⟩
    | some i =>
      refine .inr ⟨_, ⟨?_, rfl⟩, (prepare_device_some hi).1⟩
      exact hbuffer

/-- What is received counts the same whatever was sent. -/
theorem Traffic.receiving_counting {t t' : Traffic} (h : t.receiving = t'.receiving)
    (found : ReadAnswer) : (t.counting found).receiving = (t'.counting found).receiving := by
  simp only [receiving, Traffic.mk.injEq, and_true] at h
  obtain ⟨hframes, hbytes, hrunts, herrors⟩ := h
  unfold counting
  split
  · split <;> simp only [receiving, hframes, hbytes, hrunts, herrors]
  · split <;> simp only [receiving, hframes, hbytes, hrunts, herrors]

/-! ## The books are right -/

namespace Watched

open Mark

/-- The books of the onlooker agree with each other and with the counters of the card, whose link
started with `traffic`. -/
structure Accounted (traffic : Traffic) (w : Watched σ) : Prop where
  arrived : w.arrived = w.taken ++ w.waiting
  inHand : InHand w.threads.card.buffer w.threads.receiver w.reads w.fates
  traffic : w.threads.card.link.traffic.receiving =
    ((w.reads.map ReadRecord.found).foldl Traffic.counting traffic).receiving
  dropped : w.threads.card.counters.rxDropped = w.fates.countP ReadFate.isDropped
  raised : w.threads.card.counters.interruptsRaised + w.threads.receiver.due.length =
    w.fates.countP ReadFate.isDelivered
  signals : signals w.trace ++ w.threads.receiver.due = w.fates.flatMap ReadFate.signals
  /-- A frame that finds the doorbell closed is the last one. -/
  silenced : ∀ delivery, .silenced delivery ∈ w.fates →
    w.threads.cancelled = true ∧ (w.threads.receiver = .check ∨ w.threads.receiver = .ended)
  progress : Threads.Progress w.threads

theorem accounted_start (link : Link) (relay : Option (Relay σ)) (layout : ReceiveLayout) :
    Accounted link.traffic (start (.ofLink link relay layout)) where
  arrived := rfl
  inHand := .nothing rfl .nil
  traffic := rfl
  dropped := rfl
  raised := rfl
  signals := rfl
  silenced _ h := by cases h
  progress := Threads.progress_start link relay layout

variable (net : NetStack σ) {traffic : Traffic} {w : Watched σ}

namespace Accounted

theorem arrival (h : w.Accounted traffic) (found : ReadAnswer) :
    (w.next net (.arrival found)).Accounted traffic where
  arrived := by
    show w.arrived ++ [found] = w.taken ++ (w.waiting ++ [found])
    rw [h.arrived, List.append_assoc]
  inHand := h.inHand
  traffic := h.traffic
  dropped := h.dropped
  raised := h.raised
  signals := h.signals
  silenced := h.silenced
  progress := h.progress

/-- The books stay right when each count moves with the verdict that a step brings, if it brings
one. -/
theorem advance (h : w.Accounted traffic) {w' : Watched σ} (marks : List Mark)
    (verdict : Option ReadFate) (htrace : w'.trace = w.trace ++ marks)
    (hfates : w'.fates = w.fates ++ verdict.toList) (harrived : w'.arrived = w.arrived)
    (htaken : w'.taken ++ w'.waiting = w.taken ++ w.waiting)
    (hinHand : InHand w'.threads.card.buffer w'.threads.receiver w'.reads w'.fates)
    (htraffic : w'.threads.card.link.traffic.receiving =
      ((w'.reads.map ReadRecord.found).foldl Traffic.counting traffic).receiving)
    (hdropped : w'.threads.card.counters.rxDropped =
      w.threads.card.counters.rxDropped + verdict.toList.countP ReadFate.isDropped)
    (hraised : w'.threads.card.counters.interruptsRaised + w'.threads.receiver.due.length =
      w.threads.card.counters.interruptsRaised + w.threads.receiver.due.length +
        verdict.toList.countP ReadFate.isDelivered)
    (hsignals : Mark.signals marks ++ w'.threads.receiver.due =
      w.threads.receiver.due ++ verdict.toList.flatMap ReadFate.signals)
    (hsilenced : ∀ delivery, .silenced delivery ∈ w'.fates →
      w'.threads.cancelled = true ∧ (w'.threads.receiver = .check ∨ w'.threads.receiver = .ended))
    (hprogress : Threads.Progress w'.threads) : w'.Accounted traffic where
  arrived := by rw [harrived, htaken, h.arrived]
  inHand := hinHand
  traffic := htraffic
  dropped := by rw [hfates, List.countP_append, hdropped, h.dropped]
  raised := by rw [hfates, List.countP_append, hraised, h.raised]
  signals := by
    rw [hfates, List.flatMap_append, htrace, signals_append, List.append_assoc, hsignals,
      ← List.append_assoc, h.signals]
  silenced := hsilenced
  progress := hprogress

/-- The steps of others are not in these books. -/
theorem aside (h : w.Accounted traffic) {a : Actor} (ha : a.isReceiver = false) :
    (w.note (w.threads.step net a)).Accounted traffic := by
  have haside := Threads.step_aside net w.threads ha
  have hprogress := h.progress.step net a
  generalize w.threads.step net a = step at haside hprogress ⊢
  obtain ⟨m, marks⟩ := step
  refine h.advance marks none rfl (List.append_nil _).symm rfl rfl ?_
    (haside.card.traffic.trans h.traffic) haside.card.dropped ?_ ?_ ?_ hprogress
  · show InHand m.card.buffer m.receiver w.reads w.fates
    rw [haside.receiver, haside.card.buffer]
    exact h.inHand
  · show m.card.counters.interruptsRaised + m.receiver.due.length = _
    rw [haside.receiver, haside.card.raised]
    rfl
  · show Mark.signals marks ++ m.receiver.due = _ ++ []
    rw [signals_of_aside haside.marks, List.nil_append, List.append_nil, haside.receiver]
  · intro delivery hmem
    show m.cancelled = true ∧ (m.receiver = .check ∨ m.receiver = .ended)
    rw [haside.receiver]
    exact (h.silenced delivery hmem).imp_left haside.cancelled

/-- Between two frames the reception thread goes on without touching the books. -/
theorem goOn (h : w.Accounted traffic) (hpoint : w.threads.receiver.isSettled = true)
    {m : Threads σ} (marks : List Mark) (polls : List (Except Host.Fault Host.PollEvents))
    (hprogress : Threads.Progress m) (hpoint' : m.receiver.isSettled = true)
    (hdropped : m.card.counters.rxDropped = w.threads.card.counters.rxDropped)
    (hraised : m.card.counters.interruptsRaised + m.receiver.due.length =
      w.threads.card.counters.interruptsRaised + w.threads.receiver.due.length)
    (htraffic : m.card.link.traffic.receiving = w.threads.card.link.traffic.receiving)
    (hsignals : Mark.signals marks ++ m.receiver.due = w.threads.receiver.due)
    (hsilenced : w.threads.cancelled = true →
      w.threads.receiver = .check ∨ w.threads.receiver = .ended →
      m.cancelled = true ∧ (m.receiver = .check ∨ m.receiver = .ended)) :
    { w.note (m, marks) with polls }.Accounted traffic := by
  refine h.advance marks none rfl (List.append_nil _).symm rfl rfl
    (.nothing hpoint' (h.inHand.settled hpoint)) (htraffic.trans h.traffic) hdropped hraised ?_ ?_
    hprogress
  · exact hsignals.trans (List.append_nil _).symm
  · intro delivery hmem
    obtain ⟨hcancelled, hreceiver⟩ := h.silenced delivery hmem
    exact hsilenced hcancelled hreceiver

/-- A frame that finds the doorbell closed is followed by no other. -/
theorem not_silenced (h : w.Accounted traffic) (hcheck : w.threads.receiver ≠ .check)
    (hended : w.threads.receiver ≠ .ended) (delivery : Delivery) :
    .silenced delivery ∉ w.fates := by
  intro hmem
  rcases (h.silenced delivery hmem).2 with hm | hm
  · exact hcheck hm
  · exact hended hm

section

variable {turn : HostTurn}

theorem receive_check (h : w.Accounted traffic) (hm : w.threads.receiver = .check) :
    (w.receive net turn).Accounted traffic := by
  have hprogress := h.progress.step net .receiver
  have hreceive : w.receive net turn = w.note (w.threads.step net .receiver) :=
    receive_undecided net turn (by rw [hm]; simp) (by rw [hm]; simp) (by rw [verdict?, hm])
  have hpoint : w.threads.receiver.isSettled = true := by rw [hm]; rfl
  rw [hreceive]
  cases hcancelled : w.threads.cancelled with
  | true =>
    have hstep : w.threads.step net .receiver = ({ w.threads with receiver := .ended }, []) := by
      simp only [Threads.step, Threads.step?, Threads.receiverStep, hm, hcancelled, ↓reduceIte,
        Option.getD_some]
    rw [hstep] at hprogress ⊢
    exact h.goOn hpoint [] w.polls hprogress rfl rfl (by rw [hm]; rfl) rfl (by rw [hm]; rfl)
      fun hc _ => ⟨hc, .inr rfl⟩
  | false =>
    have hstep : w.threads.step net .receiver = ({ w.threads with receiver := .wait }, []) := by
      simp only [Threads.step, Threads.step?, Threads.receiverStep, hm, hcancelled,
        Bool.false_eq_true, ↓reduceIte, Option.getD_some]
    rw [hstep] at hprogress ⊢
    refine h.goOn hpoint [] w.polls hprogress rfl rfl (by rw [hm]; rfl) rfl (by rw [hm]; rfl) ?_
    intro hc
    rw [hcancelled] at hc
    cases hc

theorem receive_wait (h : w.Accounted traffic) (hm : w.threads.receiver = .wait) :
    (w.receive net turn).Accounted traffic := by
  have hprogress := h.progress.effect (Threads.waitOn_effect hm turn.port turn.poll)
  have hreceive : w.receive net turn =
      { w.note (w.threads.waitOn turn.port turn.poll) with
        polls := w.polls ++ [turn.poll] } := by
    simp only [receive, hm]
  have hpoint : w.threads.receiver.isSettled = true := by rw [hm]; rfl
  have hdue : w.threads.receiver.due = [] := by rw [hm]; rfl
  have hraised : w.threads.card.counters.interruptsRaised =
      w.threads.card.counters.interruptsRaised + w.threads.receiver.due.length := by
    rw [hdue]; rfl
  have hsilenced : ∀ {P : Prop},
      w.threads.receiver = .check ∨ w.threads.receiver = .ended → P := by
    rintro P (hm' | hm') <;> (rw [hm] at hm'; cases hm')
  rw [hreceive]
  unfold Threads.waitOn at hprogress ⊢
  split at hprogress
  · exact h.goOn hpoint _ _ hprogress rfl rfl hraised rfl hdue.symm fun _ => hsilenced
  · rename_i isReady _
    cases isReady <;>
      exact h.goOn hpoint _ _ hprogress rfl rfl hraised rfl hdue.symm fun _ => hsilenced

theorem receive_read (h : w.Accounted traffic) (hm : w.threads.receiver = .read) :
    (w.receive net turn).Accounted traffic := by
  have hsettle := w.taken_settle turn.read
  have hreceive : w.receive net turn =
      { w.note (w.threads.readOn turn.port (turn.read.settle w.waiting).1.found) with
        waiting := (turn.read.settle w.waiting).2
        reads := w.reads ++ [(turn.read.settle w.waiting).1]
        fates := w.fates ++
          (ReadFate.ofFound? (turn.read.settle w.waiting).1.found).toList } := by
    simp only [receive, hm]
  generalize (turn.read.settle w.waiting).1 = record,
    (turn.read.settle w.waiting).2 = waiting at hsettle hreceive
  have hprogress := h.progress.effect (Threads.readOn_effect hm turn.port record.found)
  obtain ⟨filled, hfilled, hread⟩ := Threads.readOn_eq w.threads turn.port record.found
  have hold := h.inHand.settled (by rw [hm]; rfl)
  have hnone := h.not_silenced (by rw [hm]; simp) (by rw [hm]; simp)
  have htraffic : (w.threads.card.link.traffic.counting record.found).receiving =
      (((w.reads ++ [record]).map ReadRecord.found).foldl Traffic.counting traffic).receiving := by
    rw [List.map_append, List.foldl_append]
    exact Traffic.receiving_counting h.traffic record.found
  rw [hreceive]
  rw [hread] at hprogress ⊢
  -- Without a frame the read has its fate at once; a frame is in hand until it has been sorted.
  cases hfate : ReadFate.ofFound? record.found with
  | some fate =>
    obtain ⟨hof, hpoint, hdropped, hdelivered, hsignals, hsilent⟩ :=
      ReadFate.of_ofFound?_some hfate
    rw [hpoint] at hprogress ⊢
    refine h.advance [.read] (some fate) rfl rfl rfl hsettle (.nothing rfl ?_) htraffic
      ?_ ?_ ?_ ?_ hprogress
    · rw [List.map_append]
      exact ReadFate.forall_snoc hold hof
    · rw [Option.toList_some, List.countP_singleton, hdropped]
      rfl
    · rw [hm, Option.toList_some, List.countP_singleton, hdelivered]
      rfl
    · rw [hm, Option.toList_some, List.flatMap_singleton, hsignals]
      rfl
    · intro delivery hmem
      rcases List.mem_append.1 hmem with hmem | hmem
      · exact absurd hmem (hnone delivery)
      · exact absurd (List.mem_singleton.1 hmem).symm (hsilent delivery)
  | none =>
    obtain ⟨d, origin, hfound, hlen, hshowing⟩ := ReadFate.of_ofFound?_none hfate
    obtain ⟨found, waited⟩ := record
    obtain rfl : found = .ok (d, origin) := hfound
    rw [hshowing] at hprogress hfilled ⊢
    rw [Option.toList_none, List.append_nil]
    exact h.advance [.read] none rfl (List.append_nil _).symm rfl hsettle
      (.sorting hold hlen hfilled) htraffic rfl (by rw [hm]; rfl) (by rw [hm]; rfl)
      (fun delivery hmem => absurd hmem (hnone delivery)) hprogress

theorem receive_sort (h : w.Accounted traffic) {origin : Origin}
    (hm : w.threads.receiver = .sort origin) : (w.receive net turn).Accounted traffic := by
  have hprogress := h.progress.step net .receiver
  have hreceive := receive_own net (w := w) turn (by rw [hm]; simp) (by rw [hm]; simp)
  have hnone := h.not_silenced (by rw [hm]; simp) (by rw [hm]; simp)
  have hinHand := h.inHand
  rw [hm] at hinHand
  obtain ⟨past, d, waited, hreads, hold, hlen, hbuffer⟩ := hinHand.of_sort
  -- The frame in the buffer is what the last read found, and it is dropped or goes to the ring.
  rw [hreceive]
  rcases Card.prepare_conveys origin hlen hbuffer with
    ⟨rfl, hprepare⟩ | ⟨delivery, hconveys, hprepare⟩
  · have hverdict : verdict? w.threads = some .dropped := by
      simp only [verdict?, hm, hprepare, Option.isNone_none, ↓reduceIte]
    simp only [Threads.step, Threads.step?, Threads.receiverStep, hm, hprepare,
      Option.getD_some] at hprogress ⊢
    rw [hverdict]
    refine h.advance [] (some .dropped) rfl rfl rfl rfl (.nothing rfl ?_)
      h.traffic rfl (by rw [hm]; rfl) (by rw [hm]; rfl) ?_ hprogress
    · show List.Forall₂ _ (w.reads.map _) _
      rw [hreads, List.map_append]
      exact ReadFate.forall_snoc hold (.dropped hlen)
    · intro delivery hmem
      rcases List.mem_append.1 hmem with hmem | hmem
      · exact absurd hmem (hnone delivery)
      · cases List.mem_singleton.1 hmem
  · have hverdict : verdict? w.threads = none := by
      simp only [verdict?, hm, hprepare, Option.isNone_some, Bool.false_eq_true, ↓reduceIte]
    simp only [Threads.step, Threads.step?, Threads.receiverStep, hm, hprepare,
      Option.getD_some] at hprogress ⊢
    rw [hverdict, Option.toList_none, List.append_nil]
    refine h.advance [] none rfl (List.append_nil _).symm rfl rfl ?_
      h.traffic rfl (by rw [hm]; rfl) (by rw [hm]; rfl)
      (fun delivery hmem => absurd hmem (hnone delivery)) hprogress
    show InHand _ _ w.reads _
    rw [hreads]
    exact .ringing hold hlen hconveys

theorem receive_ring (h : w.Accounted traffic) {delivery : Delivery}
    (hm : w.threads.receiver = .ring delivery) : (w.receive net turn).Accounted traffic := by
  have hprogress := h.progress.step net .receiver
  have hreceive := receive_own net (w := w) turn (by rw [hm]; simp) (by rw [hm]; simp)
  have hinHand := h.inHand
  rw [hm] at hinHand
  obtain ⟨past, d, origin, waited, hreads, hold, hlen, hconveys⟩ := hinHand.of_ring
  have hsettled : ∀ {fate : ReadFate}, ReadFate.Of (.ok (d, origin)) fate →
      List.Forall₂ ReadFate.Of (w.reads.map ReadRecord.found) (w.fates ++ [fate]) := by
    intro fate hof
    rw [hreads, List.map_append]
    exact ReadFate.forall_snoc hold hof
  rw [hreceive]
  cases hclosed : w.threads.card.doorbell.isClosed with
  -- Only shutdown closes the doorbell, and it has asked the thread to stop before.
  | true =>
    have hcancelled := h.progress.cancelled_of_closed hclosed
    have hverdict : verdict? w.threads = some (.silenced delivery) := by
      simp only [verdict?, hm, hclosed, ↓reduceIte]
    simp only [Threads.step, Threads.step?, Threads.receiverStep, hm,
      Doorbell.ring_of_isClosed hclosed, Option.getD_some] at hprogress ⊢
    rw [hverdict]
    exact h.advance [] (some (.silenced delivery)) rfl rfl rfl rfl
      (.nothing rfl (hsettled (.silenced hlen hconveys))) h.traffic rfl (by rw [hm]; rfl)
      (by rw [hm]; rfl) (fun _ _ => ⟨hcancelled, .inl rfl⟩) hprogress
  | false =>
    have hnone := h.not_silenced (by rw [hm]; simp) (by rw [hm]; simp)
    have hverdict : verdict? w.threads = some (.delivered delivery) := by
      simp only [verdict?, hm, hclosed, Bool.false_eq_true, ↓reduceIte]
    simp only [Threads.step, Threads.step?, Threads.receiverStep, hm,
      Doorbell.ring_of_not_isClosed hclosed, Option.getD_some] at hprogress ⊢
    rw [hverdict]
    refine h.advance [.rang delivery] (some (.delivered delivery)) rfl rfl rfl rfl
      (.nothing rfl (hsettled (.delivered hlen hconveys))) h.traffic rfl (by rw [hm]; rfl)
      (by rw [hm]; rfl) ?_ hprogress
    intro delivery' hmem
    rcases List.mem_append.1 hmem with hmem | hmem
    · exact absurd hmem (hnone delivery')
    · cases List.mem_singleton.1 hmem

theorem receive_announce (h : w.Accounted traffic) (hm : w.threads.receiver = .announce) :
    (w.receive net turn).Accounted traffic := by
  have hprogress := h.progress.step net .receiver
  have hreceive : w.receive net turn = w.note (w.threads.step net .receiver) :=
    receive_undecided net turn (by rw [hm]; simp) (by rw [hm]; simp) (by rw [verdict?, hm])
  rw [hreceive]
  simp only [Threads.step, Threads.step?, Threads.receiverStep, hm, Option.getD_some]
    at hprogress ⊢
  refine h.goOn (by rw [hm]; rfl) [.interrupted] w.polls hprogress rfl rfl (by rw [hm]; rfl) rfl
    (by rw [hm]; rfl) ?_
  rintro - (hm' | hm') <;> (rw [hm] at hm'; cases hm')

theorem receive_await (h : w.Accounted traffic) (hm : w.threads.receiver = .await) :
    (w.receive net turn).Accounted traffic := by
  have hprogress := h.progress.step net .receiver
  have hreceive : w.receive net turn = w.note (w.threads.step net .receiver) :=
    receive_undecided net turn (by rw [hm]; simp) (by rw [hm]; simp) (by rw [verdict?, hm])
  rw [hreceive]
  simp only [Threads.step, Threads.step?, Threads.receiverStep, hm] at hprogress ⊢
  have hsilenced : ∀ {P : Prop},
      w.threads.receiver = .check ∨ w.threads.receiver = .ended → P := by
    rintro P (hm' | hm') <;> (rw [hm] at hm'; cases hm')
  cases hawaited : w.threads.card.doorbell.awaited with
  | none =>
    rw [hawaited] at hprogress
    exact h.goOn (by rw [hm]; rfl) [] w.polls hprogress (by rw [hm]; rfl) rfl rfl rfl rfl
      fun _ => hsilenced
  | some _ =>
    rw [hawaited] at hprogress
    exact h.goOn (by rw [hm]; rfl) [] w.polls hprogress rfl rfl (by rw [hm]; rfl) rfl
      (by rw [hm]; rfl) fun _ => hsilenced

theorem receive_ended (h : w.Accounted traffic) (hm : w.threads.receiver = .ended) :
    (w.receive net turn).Accounted traffic := by
  rw [receive_of_ended net turn hm]
  exact h

end

/-- Whatever happens leaves the books right. -/
theorem next (h : w.Accounted traffic) (happening : Happening) :
    (w.next net happening).Accounted traffic := by
  cases happening with
  | arrival found => exact h.arrival net found
  | aside a ha => exact h.aside net ha
  | reception turn =>
    show (w.receive net turn).Accounted traffic
    cases hm : w.threads.receiver with
    | check => exact h.receive_check net hm
    | wait => exact h.receive_wait net hm
    | read => exact h.receive_read net hm
    | sort => exact h.receive_sort net hm
    | ring => exact h.receive_ring net hm
    | announce => exact h.receive_announce net hm
    | await => exact h.receive_await net hm
    | ended => exact h.receive_ended net hm

theorem after (h : w.Accounted traffic) (past : List Happening) :
    (w.after net past).Accounted traffic := by
  induction past generalizing w with
  | nil => exact h
  | cons happening past ih => exact ih (h.next net happening)

end Accounted
end Watched
end GuestNic
