import GuestNic.Proofs.Link.Line

/-!
# Nothing stays on the line

Where the far end has room for a datagram, a line can be emptied: whatever waits on it can be
brought and read, one datagram at a time, without anything else being written. With that every frame
that was accepted at one end is handed over at the other, whole and in its turn.
-/

namespace GuestNic

/-! ## Room -/

namespace Port

/-- An end at which there is room for a datagram whenever nothing waits there. -/
inductive IsRoomy : Port → Prop where
  | raw (driver : RawDriver) {incoming : Host.Channel} (outgoing : Host.Channel)
      (hlive : incoming.IsLive) (hroom : 0 < incoming.capacity) :
      IsRoomy (.raw driver (.socket incoming outgoing))
  | tunnel {t : Tunnel} (hreach : t.isReachable = true) : IsRoomy (.tunnel t)

variable {p : Port}

theorem IsRoomy.isEnd (h : p.IsRoomy) : p.IsEnd := by
  cases h with
  | raw driver outgoing hlive hroom => exact .raw ..
  | tunnel hreach => exact .tunnel _

theorem IsRoomy.dequeue (h : p.IsRoomy) : p.dequeue.IsRoomy := by
  cases h with
  | raw driver outgoing hlive hroom => exact .raw driver outgoing (hlive.withQueue _) hroom
  | tunnel hreach => exact .tunnel hreach

theorem IsRoomy.arrive (h : p.IsRoomy) (peer : Peer) (d : Bytes) :
    (p.arrive peer d).1.IsRoomy := by
  cases h with
  | @raw driver incoming outgoing hlive hroom =>
    simp only [Port.arrive, Host.Descriptor.arrive, Host.Descriptor.sendOver_of_isLive hlive]
    refine .raw driver outgoing (hlive.send d) ?_
    cases hf : incoming.isFull with
    | true => rwa [Host.Channel.send_of_isFull hlive hf]
    | false => rwa [Host.Channel.send_of_not_isFull hlive hf]
  | @tunnel t hreach =>
    simp only [Port.arrive, Tunnel.arrive]
    split
    · exact .tunnel hreach
    · exact .tunnel hreach

/-- Where nothing waits, what is not too long for a network arrives. -/
theorem arrive_of_queue_nil (h : p.IsRoomy) (hq : p.queue = []) (peer : Peer) {d : Bytes}
    (hd : d.length ≤ Tunnel.maxDatagram) : (p.arrive peer d).2 = true := by
  cases h with
  | @raw driver incoming outgoing hlive hroom =>
    have hq : incoming.queue = [] := hq
    have hf : incoming.isFull = false := by
      rw [Host.Channel.isFull, hq]
      exact decide_eq_false (Nat.not_le_of_lt hroom)
    simp only [Port.arrive, Host.Descriptor.arrive, Host.Descriptor.sendOver_of_isLive hlive,
      Host.Channel.send_of_not_isFull hlive hf]
    rfl
  | @tunnel t hreach =>
    simp only [Port.arrive, Tunnel.arrive, hreach, Bool.true_and, decide_eq_true hd, if_true]

end Port

/-- Whether there is room at an end for at least one datagram. -/
def LineEnd.isRoomy : LineEnd → Bool
  | .raw _ capacity => 0 < capacity
  | .tunnel _ _ isReachable => isReachable

theorem LineEnd.isRoomy_port {e : LineEnd} (h : e.isRoomy = true) : e.port.IsRoomy := by
  cases e with
  | raw driver capacity =>
    exact .raw driver _ (Host.Channel.isLive_ofCapacity _) (of_decide_eq_true h)
  | tunnel port address isReachable => exact .tunnel h

namespace Line

variable {l : Line}

theorem isRoomy_move (h : l.far.port.IsRoomy) (m : LineMove) : (l.move m).far.port.IsRoomy := by
  cases m with
  | write frame => exact h
  | take => exact h
  | bring peer =>
    cases htransit : l.transit with
    | nil =>
      simp only [move, htransit]
      exact h
    | cons d ds =>
      simp only [move, htransit]
      exact h.arrive peer d
  | read =>
    have hport : (l.move .read).far.port = (l.far.port.read Frame.maxSize).1 := rfl
    rw [hport]
    cases hq : l.far.port.queue with
    | nil =>
      rw [Port.read_end_nil h.isEnd hq]
      exact h
    | cons d ds =>
      obtain ⟨-, -, _, hread⟩ := Port.read_end_cons h.isEnd hq Frame.maxSize
      rw [hread]
      exact h.dequeue

/-- A line on which nothing can get stuck. -/
structure IsClear (l : Line) : Prop where
  near : l.near.port.IsEnd
  far : l.far.port.IsRoomy
  short : ∀ d ∈ l.waiting, d.length ≤ Tunnel.maxDatagram

/-- What waits after a move that writes nothing is what waited, perhaps without the oldest. -/
theorem IsClear.move (h : l.IsClear) {m : LineMove} (hm : m.isWrite = false) :
    (l.move m).IsClear := by
  refine ⟨(isEnd_move h.near h.far.isEnd m).1, isRoomy_move h.far m, fun d hd => h.short d ?_⟩
  cases m with
  | write frame => cases hm
  | take => rwa [waiting_take h.near] at hd
  | bring peer => rwa [waiting_bring h.far.isEnd] at hd
  | read =>
    obtain ⟨_, -, hwaiting, -⟩ := shown_read h.far.isEnd
    rw [hwaiting]
    exact List.mem_append_right _ hd

/-- The line can bring what is on it to a far end where nothing waits. -/
theorem IsClear.queue_bring (h : l.IsClear) (hq : l.far.port.queue = []) {d : Bytes}
    {ds : List Bytes} (ht : l.transit = d :: ds) (peer : Peer) :
    (l.move (.bring peer)).far.port.queue = [d] := by
  have hd : d.length ≤ Tunnel.maxDatagram := by
    refine h.short d ?_
    rw [waiting, hq, ht]
    exact List.mem_cons_self
  obtain ⟨-, hqueue⟩ := Port.arrive_end h.far.isEnd peer d
  simp only [Line.move, ht, hqueue, hq, Port.arrive_of_queue_nil h.far hq peer hd, if_true,
    List.nil_append]

/-- If anything waits, the line can have something wait at the far end. -/
theorem IsClear.exists_at_far (h : l.IsClear) (hw : l.waiting ≠ []) :
    ∃ moves, (∀ m ∈ moves, m.isWrite = false) ∧ (l.after moves).IsClear ∧
      (l.after moves).waiting = l.waiting ∧ (l.after moves).far.port.queue ≠ [] := by
  let peer : Peer := .v4 Ipv4.broadcast 0
  -- With something on the line itself it is enough to bring that.
  have hbring : ∀ {l : Line}, l.IsClear → l.far.port.queue = [] → l.transit ≠ [] →
      (l.move (.bring peer)).IsClear ∧ (l.move (.bring peer)).waiting = l.waiting ∧
        (l.move (.bring peer)).far.port.queue ≠ [] := by
    intro l h hq ht
    obtain ⟨d, ds, ht⟩ := List.exists_cons_of_ne_nil ht
    refine ⟨h.move rfl, waiting_bring h.far.isEnd peer, ?_⟩
    rw [h.queue_bring hq ht]
    exact List.cons_ne_nil d []
  cases hq : l.far.port.queue with
  | cons d ds => exact ⟨[], nofun, h, rfl, by rw [after, List.foldl_nil, hq]; exact nofun⟩
  | nil =>
    cases ht : l.transit with
    | cons d ds =>
      have hne : l.transit ≠ [] := by rw [ht]; exact List.cons_ne_nil d ds
      exact ⟨[.bring peer], by simp [LineMove.isWrite], hbring h hq hne⟩
    | nil =>
      obtain ⟨-, -, htaken⟩ := Port.handOver_eq h.near
      have hne : (l.move .take).transit ≠ [] := by
        rw [waiting, hq, ht, List.nil_append] at hw
        simp only [Line.move, ht, htaken]
        exact hw
      obtain ⟨hclear, hwaiting, hqueue⟩ := hbring (h.move (m := .take) rfl) hq hne
      exact ⟨[.take, .bring peer], by simp [LineMove.isWrite], hclear,
        hwaiting.trans (waiting_take h.near), hqueue⟩

theorem after_append (moves more : List LineMove) :
    l.after (moves ++ more) = (l.after moves).after more := List.foldl_append ..

theorem accepted_after {moves : List LineMove} (h : ∀ m ∈ moves, m.isWrite = false) :
    (l.after moves).accepted = l.accepted := by
  induction moves generalizing l with
  | nil => rfl
  | cons m moves ih =>
    obtain ⟨hm, hmoves⟩ := List.forall_mem_cons.1 h
    exact (ih hmoves).trans (accepted_move hm)

/-- Without another write everything that waits can be read. -/
theorem IsClear.exists_drained (h : l.IsClear) :
    ∃ moves, (∀ m ∈ moves, m.isWrite = false) ∧ (l.after moves).waiting = [] := by
  induction hn : l.waiting.length generalizing l with
  | zero => exact ⟨[], nofun, List.length_eq_zero_iff.1 hn⟩
  | succ n ih =>
    have hw : l.waiting ≠ [] := List.ne_nil_of_length_eq_add_one hn
    obtain ⟨moves, hmoves, hclear, hwaiting, hqueue⟩ := h.exists_at_far hw
    obtain ⟨answer, -, hread, -, hnone⟩ := shown_read hclear.far.isEnd
    -- Something waits there, so the read takes one datagram.
    have hlength : ((l.after moves).move .read).waiting.length = n := by
      rw [← hwaiting, hread] at hn
      cases answer with
      | error fault => exact absurd (hnone rfl) hqueue
      | ok d =>
        simp only [Link.datagram?, Option.toList, List.cons_append, List.nil_append,
          List.length_cons] at hn
        omega
    obtain ⟨more, hmore, hdrained⟩ := ih (hclear.move rfl) hlength
    refine ⟨moves ++ .read :: more, ?_, ?_⟩
    · intro m hm
      rcases List.mem_append.1 hm with hm | hm
      · exact hmoves m hm
      · rcases List.mem_cons.1 hm with rfl | hm
        · rfl
        · exact hmore m hm
    · rw [after_append]
      exact hdrained

theorem IsFaithful.isClear {answers : List (Except Host.Fault (Bytes × Origin))}
    (h : l.IsFaithful answers) (hroomy : l.far.port.IsRoomy)
    (hshort : ∀ frame ∈ l.accepted, frame.length ≤ Tunnel.maxDatagram) : l.IsClear := by
  refine ⟨h.near, hroomy, fun d hd => hshort d ?_⟩
  rw [h.accepted]
  exact List.mem_append_right _ hd

theorem isRoomy_after (h : l.far.port.IsRoomy) (moves : List LineMove) :
    (l.after moves).far.port.IsRoomy := by
  induction moves generalizing l with
  | nil => exact h
  | cons m moves ih => exact ih (isRoomy_move h m)

end Line

/-! ## What is read -/

/-- What a read shows and counts is settled by the host's answer to it: a datagram of its own, cut
to the longest frame, or an empty buffer. So for any turns that writes, reads and the line itself
take between two ends, the reads show what the accepted frames amount to, one after the other; and
with room at the far end every accepted frame that is no runt can be handed over, whole unless it is
longer than the longest frame. -/
theorem Link.reads_fresh_and_in_order :
    (∀ (l : Link) (buffer : FrameBuffer) (hs : List HostReading),
      (l.readAll buffer hs).2.2 = hs.map (fun h => Showing.of h.2) ∧
        (l.readAll buffer hs).1.traffic = (hs.map Prod.snd).foldl Traffic.counting l.traffic) ∧
    (∀ (l : Link) (buffer : FrameBuffer),
      l.read buffer = l.readFrom buffer (l.port.read Frame.maxSize)) ∧
    (∀ (result : Except Host.Fault (Bytes × Origin)) (frame : Bytes),
      (Showing.of result).handed? = some frame →
        (Frame.headerSize ≤ frame.length ∧ frame.length ≤ Frame.maxSize) ∧
        ∃ d origin, result = .ok (d, origin) ∧ Frame.headerSize ≤ d.length ∧
          frame = d.take Frame.maxSize ∧ Showing.of result = ⟨.ok (some origin), frame⟩) ∧
    (∀ result : Except Host.Fault (Bytes × Origin),
      (Showing.of result).handed? = none → (Showing.of result).frame = []) ∧
    ∀ (near far : LineEnd) (buffer : FrameBuffer) (moves : List LineMove),
      let l := (Line.between near far buffer).after moves
      (∃ answers : List (Except Host.Fault (Bytes × Origin)),
        l.shown = answers.map Showing.of ∧
        l.accepted = answers.filterMap Link.datagram? ++ l.waiting ∧
        l.shown.filterMap Showing.handed? =
          ((answers.filterMap Link.datagram?).filter (Frame.headerSize ≤ ·.length)).map
            (·.take Frame.maxSize)) ∧
      (far.isRoomy = true → (∀ frame ∈ l.accepted, frame.length ≤ Tunnel.maxDatagram) →
        ∃ more, (∀ m ∈ more, m.isWrite = false) ∧
          (l.after more).shown.filterMap Showing.handed? =
            (l.accepted.filter (Frame.headerSize ≤ ·.length)).map (·.take Frame.maxSize)) := by
  refine ⟨readAll_eq, read_eq_readFrom, ?_, fun _ => Showing.frame_of_not_handed, ?_⟩
  · intro result frame hhanded
    exact ⟨Showing.length_of_handed? hhanded, Showing.exists_of_handed? hhanded⟩
  · intro near far buffer moves l
    obtain ⟨answers, hfaithful⟩ := (Line.isFaithful_between near far buffer).after moves
    rw [List.nil_append] at hfaithful
    refine ⟨⟨answers, hfaithful.shown, hfaithful.accepted, hfaithful.handed⟩, ?_⟩
    intro hroom hshort
    have hclear := hfaithful.isClear (Line.isRoomy_after (LineEnd.isRoomy_port hroom) moves) hshort
    obtain ⟨more, hmore, hdrained⟩ := hclear.exists_drained
    obtain ⟨later, hlater⟩ := hfaithful.after more
    have haccepted := Line.accepted_after (l := l) hmore
    refine ⟨more, hmore, ?_⟩
    rw [← haccepted]
    exact hlater.handed_of_waiting_nil hdrained

end GuestNic
