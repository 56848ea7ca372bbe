import GuestNic.Proofs.Card.Growth

/-!
# What reception does with a frame

A frame that is read asks for at most one invocation of a guest handler: the one that the handler
table names at that moment. `Card.Round` lists everything that a round of reception can do to a card
whose port has a queue behind it.
-/

namespace GuestNic

/-- A handler of the guest entered for a frame. -/
structure Invocation where
  routine : Routine
  /-- The type field of the frame. -/
  type : UInt16
  frame : Bytes
deriving DecidableEq, Repr

/-- The invocation that a frame asks for: none for a runt, and none where the key of its type field
has no handler or the null one. -/
def HandlerTable.invocation? (t : HandlerTable) (frame : Bytes) : Option Invocation :=
  if frame.length < Frame.headerSize then none
  else do
    let type ← Frame.typeField? frame
    let routine ← t.find? (Frame.handlerKey type)
    if routine.isNull then none else some ⟨routine, type, frame⟩

/-- A datagram at the moment at which it was read, with the handler table of that moment. -/
structure Reading where
  datagram : Bytes
  handlers : HandlerTable

namespace Reading

/-- The frame that was read, cut to the longest one. -/
def frame (r : Reading) : Bytes := r.datagram.take Frame.maxSize

def invocation? (r : Reading) : Option Invocation := r.handlers.invocation? r.frame

end Reading

/-- The invocation that a delivery stands for. -/
def Delivery.invocation? : Delivery → Option Invocation
  | .handler routine type _ frame => some ⟨routine, type, frame.contents⟩
  | .tunnel _ _ => none

/-- The invocations among the events of one move: a handler is entered for the frame that was put
into guest memory before it, with the type field in its first register. -/
def Invocation.ofEvents : List CardEvent → List Invocation
  | .write _ frame :: .write _ _ :: .enter routine registers :: rest =>
    ⟨routine, registers.d0.toUInt16, frame⟩ :: ofEvents rest
  | _ :: rest => ofEvents rest
  | [] => []

/-- What has left the front of a queue. -/
def departed (before after : List Bytes) : List Bytes := before.take (before.length - after.length)

@[simp] theorem departed_self (q : List Bytes) : departed q q = [] := by simp [departed]

@[simp] theorem departed_cons (d : Bytes) (q : List Bytes) : departed (d :: q) q = [d] := by
  simp [departed]

theorem Invocation.ofEvents_upcall (layout : ReceiveLayout) (d : Delivery) :
    ofEvents (Card.upcall layout d) = d.invocation?.toList := by
  cases d with
  | handler routine type header frame =>
    simp [Card.upcall, ofEvents, Delivery.invocation?, ReceiveLayout.registers]
  | tunnel frame peer => rfl

namespace Card

variable {σ : Type}

/-- Reception rests while the card is closed, after the port has failed, and as long as a ring is
outstanding. -/
def isResting (c : Card σ) : Bool := !c.isOpen || !c.isReceiving || c.doorbell.isPending

/-- The invocation that has been rung for and not been taken. -/
def outstanding (c : Card σ) : List Invocation :=
  (c.doorbell.delivery.bind Delivery.invocation?).toList

/-! ## Preparing a delivery -/

/-- Without a null routine, looking up a handler and preparing an invocation are the same. -/
theorem invocation?_eq_map (c : Card σ) {frame : Bytes} {t : UInt16}
    (ht : Frame.typeField? frame = some t) :
    c.handlers.invocation? frame = (c.handlerFor? t).map fun routine => ⟨routine, t, frame⟩ := by
  have hlen : ¬ frame.length < Frame.headerSize := by
    have := Frame.typeField?_isSome.1 (Option.isSome_of_eq_some ht)
    omega
  rw [HandlerTable.invocation?, if_neg hlen, handlerFor?]
  cases hf : c.handlers.find? (Frame.handlerKey t) with
  | none => simp [ht, hf]
  | some routine => cases hn : routine.isNull <;> simp [ht, hf, hn, Option.filter]

theorem prepare_device_none {c : Card σ} (hlen : Frame.headerSize ≤ c.buffer.contents.length)
    (hi : c.handlers.invocation? c.buffer.contents = none) :
    c.prepare .device =
      ({ c with buffer := .empty, counters.rxDropped := c.counters.rxDropped + 1 }, none) := by
  obtain ⟨t, ht⟩ := Option.isSome_iff_exists.1 (Frame.typeField?_isSome.2 hlen)
  -- The handler is looked up after the buffer was given away, which makes no difference to it.
  have hh : c.handlerFor? t = none := by
    rw [invocation?_eq_map c ht] at hi
    exact Option.map_eq_none_iff.1 hi
  have hh' : { c with buffer := FrameBuffer.empty }.handlerFor? t = none := hh
  simp only [prepare, FrameBuffer.header?, FrameBuffer.typeField?, Frame.header?, if_pos hlen, ht,
    hh']

theorem prepare_device_some {c : Card σ} {i : Invocation}
    (hi : c.handlers.invocation? c.buffer.contents = some i) :
    c.prepare .device =
      ({ c with buffer := .empty },
        some (.handler i.routine i.type (c.buffer.contents.take Frame.headerSize) c.buffer)) ∧
      i.frame = c.buffer.contents := by
  have hlen : Frame.headerSize ≤ c.buffer.contents.length := by
    by_contra hlt
    rw [HandlerTable.invocation?, if_pos (by omega)] at hi
    cases hi
  obtain ⟨t, ht⟩ := Option.isSome_iff_exists.1 (Frame.typeField?_isSome.2 hlen)
  rw [invocation?_eq_map c ht] at hi
  obtain ⟨routine, hh, rfl⟩ := Option.map_eq_some_iff.1 hi
  have hh' : { c with buffer := FrameBuffer.empty }.handlerFor? t = some routine := hh
  refine ⟨?_, rfl⟩
  simp only [prepare, FrameBuffer.header?, FrameBuffer.typeField?, Frame.header?, if_pos hlen, ht,
    hh']

/-! ## One round -/

/-- A card that has taken the oldest datagram from its port. -/
def dequeued (c : Card σ) (traffic : Traffic) (buffer : FrameBuffer) : Card σ :=
  { c with link := { port := c.link.port.dequeue, traffic }, buffer }

/-- What a round of reception can do, and what it emits. -/
inductive Round (c : Card σ) : Card σ → List CardEvent → Prop where
  /-- Nothing may be read, or nothing is there. -/
  | rest (h : c.isResting = true ∨ c.queue = []) : Round c c []
  | runt {d : Bytes} {ds : List Bytes} (hr : c.isResting = false) (hq : c.queue = d :: ds)
      (hlen : (d.take Frame.maxSize).length < Frame.headerSize) (buffer : FrameBuffer) :
      Round c (c.dequeued { c.link.traffic with rxRunts := c.link.traffic.rxRunts + 1 } buffer) []
  | dropped {d : Bytes} {ds : List Bytes} (hr : c.isResting = false) (hq : c.queue = d :: ds)
      (hlen : Frame.headerSize ≤ (d.take Frame.maxSize).length)
      (hi : c.handlers.invocation? (d.take Frame.maxSize) = none) :
      Round c
        { c.dequeued { c.link.traffic with
              rxFrames := c.link.traffic.rxFrames + 1
              rxBytes := c.link.traffic.rxBytes + (d.take Frame.maxSize).length } .empty with
          counters.rxDropped := c.counters.rxDropped + 1 } []
  | raised {d : Bytes} {ds : List Bytes} {i : Invocation} {frame : FrameBuffer}
      (hr : c.isResting = false) (hq : c.queue = d :: ds)
      (hi : c.handlers.invocation? (d.take Frame.maxSize) = some i)
      (hframe : frame.contents = i.frame) :
      Round c
        { c.dequeued { c.link.traffic with
              rxFrames := c.link.traffic.rxFrames + 1
              rxBytes := c.link.traffic.rxBytes + (d.take Frame.maxSize).length } .empty with
          doorbell := { c.doorbell with
            isPending := true
            delivery := some (.handler i.routine i.type (i.frame.take Frame.headerSize) frame) }
          counters.interruptsRaised := c.counters.interruptsRaised + 1 } [.interrupt]

theorem receive_of_resting {c : Card σ} (hr : c.isResting = true) : c.receive = (c, []) :=
  if_pos hr

theorem receive_of_queue_nil {c : Card σ} (hp : c.link.port.IsQueue) (hq : c.queue = []) :
    c.receive = (c, []) := by
  cases hr : c.isResting with
  | true => exact receive_of_resting hr
  | false =>
    have hr : (!c.isOpen || !c.isReceiving || c.doorbell.isPending) = false := hr
    have hq : c.link.port.queue = [] := hq
    simp only [receive, hr, Link.wait_eq hp, hq, Bool.false_eq_true, ↓reduceIte, List.isEmpty_nil,
      Bool.not_true]

theorem receive_of_queue_cons {c : Card σ} (hp : c.link.port.IsQueue) (hr : c.isResting = false)
    {d : Bytes} {ds : List Bytes} (hq : c.queue = d :: ds) :
    ∃ filled : FrameBuffer, filled.contents = d.take Frame.maxSize ∧
      c.receive =
        if (d.take Frame.maxSize).length < Frame.headerSize then
          (c.dequeued { c.link.traffic with
            rxRunts := c.link.traffic.rxRunts + 1 } filled.clear, [])
        else
          (c.dequeued { c.link.traffic with
            rxFrames := c.link.traffic.rxFrames + 1
            rxBytes := c.link.traffic.rxBytes + (d.take Frame.maxSize).length } filled).deliver
              .device := by
  have hr : (!c.isOpen || !c.isReceiving || c.doorbell.isPending) = false := hr
  have hq : c.link.port.queue = d :: ds := hq
  obtain ⟨filled, hfilled, hread⟩ := Link.read_eq hp hq c.buffer
  refine ⟨filled, hfilled, ?_⟩
  simp only [receive, hr, Link.wait_eq hp, hq, Bool.false_eq_true, ↓reduceIte, List.isEmpty_cons,
    Bool.not_false, hread]
  by_cases hlen : (d.take Frame.maxSize).length < Frame.headerSize
  · simp only [Link.settleRead, if_pos hlen, dequeued]
  · simp only [Link.settleRead, if_neg hlen, dequeued]

/-! ## A round in parts -/

section

variable {c : Card σ} {link : Link}

/-- The part of a round of reception that is left when a frame can be read. -/
def readFrame (c : Card σ) : Card σ × List CardEvent :=
  match c.link.read c.buffer with
  | (link, buffer, .ok (some origin)) => { c with link, buffer }.deliver origin
  | (link, buffer, _) => ({ c with link, buffer }, [])

theorem receive_of_readable (hr : c.isResting = false) (hw : c.link.wait = (link, .ok true)) :
    c.receive = { c with link }.readFrame := by
  have hr : (!c.isOpen || !c.isReceiving || c.doorbell.isPending) = false := hr
  simp only [receive, hr, hw, Bool.false_eq_true, ↓reduceIte]
  rfl

theorem receive_of_idle (hr : c.isResting = false) (hw : c.link.wait = (link, .ok false)) :
    c.receive = ({ c with link }, []) := by
  have hr : (!c.isOpen || !c.isReceiving || c.doorbell.isPending) = false := hr
  simp only [receive, hr, hw, Bool.false_eq_true, ↓reduceIte]

theorem receive_of_unreadable (hr : c.isResting = false) {fault : Host.Fault}
    (hw : c.link.wait = (link, .error fault)) :
    c.receive = ({ c with link, isReceiving := false, counters.rxFailed := true },
      [.alert (receptionLost fault)]) := by
  have hr : (!c.isOpen || !c.isReceiving || c.doorbell.isPending) = false := hr
  simp only [receive, hr, hw, Bool.false_eq_true, ↓reduceIte]

end

/-- A round of reception on an open doorbell does one of the things listed. -/
theorem receive_round {c : Card σ} (hp : c.link.port.IsQueue)
    (hc : c.doorbell.isClosed = false) : Round c c.receive.1 c.receive.2 := by
  cases hr : c.isResting with
  | true =>
    rw [receive_of_resting hr]
    exact .rest (.inl hr)
  | false =>
    cases hq : c.queue with
    | nil =>
      rw [receive_of_queue_nil hp hq]
      exact .rest (.inr hq)
    | cons d ds =>
      obtain ⟨filled, hfilled, hread⟩ := receive_of_queue_cons hp hr hq
      -- Runts end at the link; what is longer is for the handler table to decide.
      by_cases hlen : (d.take Frame.maxSize).length < Frame.headerSize
      · rw [hread, if_pos hlen]
        exact .runt hr hq hlen _
      · rw [hread, if_neg hlen]
        cases hi : c.handlers.invocation? (d.take Frame.maxSize) with
        | none =>
          rw [deliver, prepare_device_none (by simpa [dequeued, hfilled] using hlen)
            (by simpa [dequeued, hfilled] using hi)]
          exact .dropped hr hq (by omega) hi
        | some i =>
          obtain ⟨hprepare, hframe⟩ := prepare_device_some (c := c.dequeued _ filled)
            (by simpa [dequeued, hfilled] using hi)
          have hframe : filled.contents = i.frame := hframe.symm
          rw [deliver, hprepare]
          simp only [publish, dequeued, Doorbell.ring_of_not_isClosed hc, hframe]
          exact .raised hr hq hi hframe

end Card
end GuestNic
