import GuestNic.Proofs.Link.Freshness
import GuestNic.Proofs.Link.Queue

/-!
# Two links with a line between them

What is written at one end is read at the other: whole, unchanged and in order, for either end a raw
device on datagram queues or a tunnel. The line may take its time and never loses or alters a
datagram. `Line.IsFaithful` is kept by every move: what was accepted is what was read, what waits at
the far end, what is on its way and what the near end has not handed over, in one row.
-/

namespace GuestNic

/-! ## Ends -/

/-- The queue that is sent into takes the datagram or does not, whether or not the other half of the
socket is told of a far side that has gone. -/
theorem Host.Descriptor.sendOver_eq (outgoing incoming : Host.Channel) (d : Bytes) :
    (sendOver outgoing incoming d).1 = (outgoing.send d).1 ∧
      (sendOver outgoing incoming d).2.2 = (outgoing.send d).2 := by
  rcases hsend : outgoing.send d with ⟨channel, r⟩
  simp only [sendOver, hsend]
  split
  · rename_i heq
    cases heq
    exact ⟨rfl, rfl⟩
  · rename_i heq
    cases heq
    exact ⟨rfl, rfl⟩

namespace Port

/-- The datagrams that were written at a port and wait to be taken from it, oldest first. -/
def sent : Port → List Bytes
  | .raw _ (.socket _ outgoing) => outgoing.queue
  | .raw _ _ => []
  | .tunnel t => t.outbox.map Prod.snd
  | .pipe p => p.toStack.queue

/-- The port after everything that was written at it was taken. -/
def handOver : Port → Port × List Bytes
  | .tunnel t =>
    let (t, sent) := t.collect
    (.tunnel t, sent.map Prod.snd)
  | p => p.collect

/-- A raw device on datagram queues, or a tunnel. -/
inductive IsEnd : Port → Prop where
  | raw (driver : RawDriver) (incoming outgoing : Host.Channel) :
      IsEnd (.raw driver (.socket incoming outgoing))
  | tunnel (t : Tunnel) : IsEnd (.tunnel t)

variable {p : Port}

theorem handOver_eq (h : p.IsEnd) :
    p.handOver.1.IsEnd ∧ p.handOver.1.sent = [] ∧ p.handOver.2 = p.sent := by
  cases h with
  | raw driver incoming outgoing => exact ⟨.raw .., rfl, rfl⟩
  | tunnel t => exact ⟨.tunnel _, rfl, List.map_map⟩

/-- A frame that is accepted stands behind the others; one that is refused leaves no trace. -/
theorem write_end (h : p.IsEnd) (frame : Bytes) :
    (p.write frame).1.IsEnd ∧
      (p.write frame).1.sent = p.sent ++ if (p.write frame).2.isOk then [frame] else [] := by
  cases h with
  | raw driver incoming outgoing =>
    obtain ⟨hqueue, hanswer⟩ := Host.Descriptor.sendOver_eq outgoing incoming frame
    refine ⟨.raw .., ?_⟩
    simp only [write, Host.Descriptor.write, sent, hqueue, hanswer, Host.Channel.queue_send]
    cases (outgoing.send frame).2 with
    | ok _ =>
      have hwhole : whole .rawDevice frame.length (.ok frame.length) = .ok () := if_pos rfl
      simp only [Except.map, hwhole, Except.isOk, Except.toBool]
    | error fault => rfl
  | tunnel t =>
    refine ⟨.tunnel _, ?_⟩
    simp only [write, Tunnel.send]
    split
    · exact (List.append_nil _).symm
    · split
      · exact (List.append_nil _).symm
      · split
        · exact (List.append_nil _).symm
        · have hwhole : whole .tunnel frame.length (.ok frame.length) = .ok () := if_pos rfl
          simp only [sent, List.map_append, hwhole]
          rfl

/-- A datagram that arrives stands behind the others, or does not arrive. -/
theorem arrive_end (h : p.IsEnd) (peer : Peer) (d : Bytes) :
    (p.arrive peer d).1.IsEnd ∧
      (p.arrive peer d).1.queue = p.queue ++ if (p.arrive peer d).2 then [d] else [] := by
  cases h with
  | raw driver incoming outgoing =>
    obtain ⟨hqueue, hanswer⟩ := Host.Descriptor.sendOver_eq incoming outgoing d
    refine ⟨.raw .., ?_⟩
    simp only [arrive, Host.Descriptor.arrive, queue, hqueue, hanswer]
    exact Host.Channel.queue_send incoming d
  | tunnel t =>
    refine ⟨.tunnel _, ?_⟩
    simp only [arrive, Tunnel.arrive]
    split
    · simp only [queue, List.map_append]
      rfl
    · exact (List.append_nil _).symm

theorem read_end_nil (h : p.IsEnd) (hq : p.queue = []) (limit : Nat) :
    p.read limit = (p, .error (.os .wouldBlock)) := by
  cases h with
  | raw driver incoming outgoing =>
    simp only [read, Host.Descriptor.read, Host.Channel.receive_nil hq]
    rfl
  | tunnel t =>
    have hinbox : t.inbox = [] := List.map_eq_nil_iff.1 hq
    simp only [read, Tunnel.receive, hinbox]
    rfl

/-- The oldest datagram is read first, and leaves the others. -/
theorem read_end_cons (h : p.IsEnd) {d : Bytes} {ds : List Bytes} (hq : p.queue = d :: ds)
    (limit : Nat) :
    p.dequeue.IsEnd ∧ p.dequeue.queue = ds ∧
      ∃ origin, p.read limit = (p.dequeue, .ok (d.take limit, origin)) := by
  cases h with
  | raw driver incoming outgoing =>
    have hq : incoming.queue = d :: ds := hq
    refine ⟨.raw .., ?_, .device, ?_⟩
    · simp only [dequeue, queue, hq, List.tail_cons]
    · simp only [read, Host.Descriptor.read, Host.Channel.receive_cons hq, dequeue, hq,
        List.tail_cons, Except.map]
  | tunnel t =>
    obtain ⟨⟨peer, d'⟩, rest, hinbox, rfl, rfl⟩ := List.map_eq_cons_iff.1 hq
    refine ⟨.tunnel _, ?_, .peer peer, ?_⟩
    · simp only [dequeue, queue, hinbox, List.tail_cons]
    · simp only [read, Tunnel.receive, hinbox, dequeue, List.tail_cons, Except.map]

end Port

namespace Link

/-- The datagram of an answer of the host, if it is one. -/
def datagram? : Except Host.Fault (Bytes × Origin) → Option Bytes
  | .ok (d, _) => some d
  | .error _ => none

/-- The frames that are handed over for answers are their datagrams other than the runts, cut to the
longest frame. -/
theorem handed_map (answers : List (Except Host.Fault (Bytes × Origin))) :
    (answers.map Showing.of).filterMap Showing.handed? =
      ((answers.filterMap datagram?).filter (Frame.headerSize ≤ ·.length)).map
        (·.take Frame.maxSize) := by
  induction answers with
  | nil => rfl
  | cons answer answers ih =>
    cases answer with
    | error fault =>
      rw [List.map_cons, List.filterMap_cons_none (Showing.handed?_of_error fault), ih]
      rfl
    | ok d =>
      obtain ⟨d, origin⟩ := d
      have hread : (.ok (d, origin) :: answers).filterMap datagram? =
        d :: answers.filterMap datagram? := rfl
      rw [List.map_cons, hread]
      by_cases hlen : Frame.headerSize ≤ d.length
      · rw [List.filterMap_cons_some ((Showing.handed?_of_ok d origin).trans (if_pos hlen)), ih,
          List.filter_cons_of_pos (by simpa using hlen), List.map_cons]
      · rw [List.filterMap_cons_none ((Showing.handed?_of_ok d origin).trans (if_neg hlen)), ih,
          List.filter_cons_of_neg (by simpa using hlen)]

/-- A read at an end shows what its oldest datagram amounts to, or that there is none. -/
theorem read_end {l : Link} (h : l.port.IsEnd) (buffer : FrameBuffer) :
    ∃ answer, (l.read buffer).1.port.IsEnd ∧
      Showing.mk (l.read buffer).2.2 (l.read buffer).2.1.contents = Showing.of answer ∧
      l.port.queue = (datagram? answer).toList ++ (l.read buffer).1.port.queue ∧
      (datagram? answer = none → l.port.queue = []) := by
  cases hq : l.port.queue with
  | nil =>
    have hread := Port.read_end_nil h hq Frame.maxSize
    obtain ⟨filled, hfilled, hfrom⟩ :=
      l.readFrom_eq buffer l.port (.error (.os .wouldBlock))
    refine ⟨.error (.os .wouldBlock), ?_, ?_, ?_, fun _ => rfl⟩
    all_goals rw [read_eq_readFrom, hread, hfrom]
    · exact h
    · rw [hfilled]
    · exact hq.symm
  | cons d ds =>
    obtain ⟨hend, hrest, origin, hread⟩ := Port.read_end_cons h hq Frame.maxSize
    obtain ⟨filled, hfilled, hfrom⟩ :=
      l.readFrom_eq buffer l.port.dequeue (.ok (d.take Frame.maxSize, origin))
    refine ⟨.ok (d, origin), ?_, ?_, ?_, fun hnone => by cases hnone⟩
    all_goals rw [read_eq_readFrom, hread, hfrom]
    · exact hend
    · rw [hfilled, Showing.of_take]
    · rw [hrest]
      rfl

end Link

/-! ## The line -/

/-- Two links with a line from the first to the second, and what was seen at its ends. -/
structure Line where
  near : Link
  /-- What the line has taken from the near end and not yet brought to the far end. -/
  transit : List Bytes
  far : Link
  /-- The buffer into which the far end reads. -/
  buffer : FrameBuffer
  /-- The frames that were accepted at the near end. -/
  accepted : List Bytes := []
  /-- What the reads at the far end showed. -/
  shown : List Showing := []

/-- What can happen at the ends of a line or on it. -/
inductive LineMove where
  | write (frame : Bytes)
  /-- The line takes what was written. -/
  | take
  /-- The line brings its oldest datagram, unless there is no room for it. -/
  | bring (peer : Peer)
  | read

def LineMove.isWrite : LineMove → Bool
  | .write _ => true
  | _ => false

/-- An end of a line that has just been opened. -/
inductive LineEnd where
  | raw (driver : RawDriver) (capacity : Nat)
  | tunnel (port : UInt16) (address : Ipv4) (isReachable : Bool)

def LineEnd.port : LineEnd → Port
  | .raw driver capacity => .raw driver (.ofCapacity capacity)
  | .tunnel port address isReachable => .tunnel (.ofAddress port address isReachable)

theorem LineEnd.port_fresh (e : LineEnd) :
    e.port.IsEnd ∧ e.port.queue = [] ∧ e.port.sent = [] := by
  cases e with
  | raw driver capacity => exact ⟨.raw .., rfl, rfl⟩
  | tunnel port address isReachable => exact ⟨.tunnel _, rfl, rfl⟩

namespace Line

/-- A line with nothing on it. -/
def between (near far : LineEnd) (buffer : FrameBuffer) : Line where
  near := .ofPort near.port
  transit := []
  far := .ofPort far.port
  buffer

def move (l : Line) : LineMove → Line
  | .write frame =>
    let (near, r) := l.near.write frame
    { l with near, accepted := l.accepted ++ if r.isOk then [frame] else [] }
  | .take =>
    let (port, sent) := l.near.port.handOver
    { l with near := { l.near with port }, transit := l.transit ++ sent }
  | .bring peer =>
    match l.transit with
    | [] => l
    | d :: ds =>
      let (port, arrived) := l.far.port.arrive peer d
      { l with far := { l.far with port }, transit := if arrived then ds else d :: ds }
  | .read =>
    let (far, buffer, answer) := l.far.read l.buffer
    { l with far, buffer, shown := l.shown ++ [⟨answer, buffer.contents⟩] }

def after (l : Line) (moves : List LineMove) : Line := moves.foldl move l

/-- What was accepted and not yet read, oldest first. -/
def waiting (l : Line) : List Bytes := l.far.port.queue ++ l.transit ++ l.near.port.sent

/-- What was read, given the answers of the host, and what is waiting make up what was accepted. -/
structure IsFaithful (l : Line) (answers : List (Except Host.Fault (Bytes × Origin))) : Prop where
  near : l.near.port.IsEnd
  far : l.far.port.IsEnd
  shown : l.shown = answers.map Showing.of
  accepted : l.accepted = answers.filterMap Link.datagram? ++ l.waiting

theorem isFaithful_between (near far : LineEnd) (buffer : FrameBuffer) :
    (between near far buffer).IsFaithful [] := by
  obtain ⟨hnear, -, hsent⟩ := near.port_fresh
  obtain ⟨hfar, hqueue, -⟩ := far.port_fresh
  refine ⟨hnear, hfar, rfl, ?_⟩
  simp only [waiting, between, Link.ofPort, hqueue, hsent]
  rfl

variable {l : Line} {answers : List (Except Host.Fault (Bytes × Origin))}

/-! ### What waits after a move -/

theorem waiting_write (h : l.near.port.IsEnd) (frame : Bytes) :
    (l.move (.write frame)).waiting =
      l.waiting ++ if (l.near.write frame).2.isOk then [frame] else [] := by
  obtain ⟨-, hsent⟩ := Port.write_end h frame
  simp only [move, Link.write, waiting, hsent, List.append_assoc]
  rfl

theorem waiting_take (h : l.near.port.IsEnd) : (l.move .take).waiting = l.waiting := by
  obtain ⟨-, hsent, htaken⟩ := Port.handOver_eq h
  simp only [move, waiting, hsent, htaken, List.append_assoc, List.append_nil]

/-- The datagram is at the far end then, or still on the line. -/
theorem waiting_bring (h : l.far.port.IsEnd) (peer : Peer) :
    (l.move (.bring peer)).waiting = l.waiting := by
  cases htransit : l.transit with
  | nil => simp only [move, htransit]
  | cons d ds =>
    obtain ⟨-, hqueue⟩ := Port.arrive_end h peer d
    simp only [move, waiting, htransit, hqueue]
    cases (l.far.port.arrive peer d).2 with
    | true => simp only [if_true, List.append_assoc, List.cons_append, List.nil_append]
    | false => simp only [Bool.false_eq_true, if_false, List.append_nil]

/-- A read takes the oldest datagram of the far end and shows what it amounts to. -/
theorem shown_read (h : l.far.port.IsEnd) :
    ∃ answer, (l.move .read).shown = l.shown ++ [Showing.of answer] ∧
      l.waiting = (Link.datagram? answer).toList ++ (l.move .read).waiting ∧
      l.far.port.queue = (Link.datagram? answer).toList ++ (l.move .read).far.port.queue ∧
      (Link.datagram? answer = none → l.far.port.queue = []) := by
  obtain ⟨answer, -, hshown, hqueue, hnone⟩ := Link.read_end h l.buffer
  refine ⟨answer, ?_, ?_, hqueue, hnone⟩
  · simp only [move, hshown]
  · simp only [waiting, hqueue, move, List.append_assoc]

/-! ### Whole runs -/

/-- The ends stay ends. -/
theorem isEnd_move (hnear : l.near.port.IsEnd) (hfar : l.far.port.IsEnd) (m : LineMove) :
    (l.move m).near.port.IsEnd ∧ (l.move m).far.port.IsEnd := by
  cases m with
  | write frame => exact ⟨(Port.write_end hnear frame).1, hfar⟩
  | take => exact ⟨(Port.handOver_eq hnear).1, hfar⟩
  | bring peer =>
    cases htransit : l.transit with
    | nil => simp only [move, htransit, hnear, hfar, and_self]
    | cons d ds =>
      simp only [move, htransit]
      exact ⟨hnear, (Port.arrive_end hfar peer d).1⟩
  | read =>
    obtain ⟨_, hend, -⟩ := Link.read_end hfar l.buffer
    exact ⟨hnear, hend⟩

/-- Only a write has a frame accepted. -/
theorem accepted_move {m : LineMove} (h : m.isWrite = false) :
    (l.move m).accepted = l.accepted := by
  cases m with
  | write frame => cases h
  | take => rfl
  | bring peer => cases htransit : l.transit <;> simp only [move, htransit]
  | read => rfl

/-- Only a read shows anything. -/
theorem shown_move {m : LineMove} (h : m ≠ .read) : (l.move m).shown = l.shown := by
  cases m with
  | write frame => rfl
  | take => rfl
  | bring peer => cases htransit : l.transit <;> simp only [move, htransit]
  | read => exact absurd rfl h

/-- No move loses, alters or reorders anything. -/
theorem IsFaithful.move (h : l.IsFaithful answers) (m : LineMove) :
    ∃ more, (l.move m).IsFaithful (answers ++ more) := by
  obtain ⟨hnear, hfar⟩ := isEnd_move h.near h.far m
  cases m with
  | write frame =>
    refine ⟨[], hnear, hfar, ?_, ?_⟩
    · rw [List.append_nil, shown_move (m := .write frame) nofun, h.shown]
    · rw [List.append_nil, waiting_write h.near, ← List.append_assoc, ← h.accepted]
      rfl
  | take =>
    refine ⟨[], hnear, hfar, ?_, ?_⟩
    · rw [List.append_nil, shown_move (m := .take) nofun, h.shown]
    · rw [List.append_nil, waiting_take h.near, accepted_move rfl, h.accepted]
  | bring peer =>
    refine ⟨[], hnear, hfar, ?_, ?_⟩
    · rw [List.append_nil, shown_move (m := .bring peer) nofun, h.shown]
    · rw [List.append_nil, waiting_bring h.far, accepted_move rfl, h.accepted]
  | read =>
    obtain ⟨answer, hshown, hwaiting, -⟩ := shown_read h.far
    refine ⟨[answer], hnear, hfar, ?_, ?_⟩
    · rw [hshown, h.shown, List.map_append, List.map_singleton]
    · rw [accepted_move rfl, h.accepted, hwaiting, List.filterMap_append, List.append_assoc]
      cases answer <;> rfl

theorem IsFaithful.after (h : l.IsFaithful answers) (moves : List LineMove) :
    ∃ more, (l.after moves).IsFaithful (answers ++ more) := by
  induction moves generalizing l answers with
  | nil => exact ⟨[], by rwa [List.append_nil]⟩
  | cons m moves ih =>
    obtain ⟨one, hone⟩ := h.move m
    obtain ⟨more, hmore⟩ := ih hone
    exact ⟨one ++ more, by rwa [← List.append_assoc]⟩

/-- What is shown for the last answers follows what was shown before. -/
theorem IsFaithful.handed (h : l.IsFaithful answers) :
    l.shown.filterMap Showing.handed? =
      ((answers.filterMap Link.datagram?).filter (Frame.headerSize ≤ ·.length)).map
        (·.take Frame.maxSize) := by
  rw [h.shown, Link.handed_map]

/-- Once nothing waits, all that was accepted and is no runt was handed over. -/
theorem IsFaithful.handed_of_waiting_nil (h : l.IsFaithful answers) (hnone : l.waiting = []) :
    l.shown.filterMap Showing.handed? =
      (l.accepted.filter (Frame.headerSize ≤ ·.length)).map (·.take Frame.maxSize) := by
  have haccepted : l.accepted = answers.filterMap Link.datagram? := by
    rw [h.accepted, hnone, List.append_nil]
  rw [h.handed, ← haccepted]

end Line
end GuestNic
