import GuestNic.Nat.Relay
import GuestNic.Proofs.Link.Queue

/-!
# What becomes of the frames that a stack emits

Each frame is queued for the guest or dropped, and which of the two it is depends on its length and
on the room that the frames before it have left. `Relay.fates` foretells it for a list of frames,
and `Relay.emitAll_emits` says that the relay does, and counts, just that, whatever state the
channel towards the guest is in.
-/

namespace GuestNic

namespace Host.Channel

/-- How many datagrams a channel still takes: none once one of its ends has gone. -/
def room (c : Channel) : Nat :=
  if c.sender = .connected ∧ c.receiverOpen = true then c.capacity - c.queue.length else 0

theorem IsLive.room_eq {c : Channel} (h : c.IsLive) : c.room = c.capacity - c.queue.length :=
  if_pos ⟨h.sender, h.receiver⟩

/-- With room a datagram is queued. -/
theorem send_of_room_pos {c : Channel} (h : 0 < c.room) (d : Bytes) :
    c.send d = ({ c with queue := c.queue ++ [d] }, .ok ()) ∧
      room { c with queue := c.queue ++ [d] } = c.room - 1 := by
  unfold room at h
  split at h
  · rename_i hlive
    have hnot : c.isFull = false := by
      simp only [isFull, decide_eq_false_iff_not]
      omega
    have hnext : ({ c with queue := c.queue ++ [d] } : Channel).IsLive := ⟨hlive.1, hlive.2⟩
    refine ⟨send_of_not_isFull ⟨hlive.1, hlive.2⟩ hnot d, ?_⟩
    rw [hnext.room_eq, IsLive.room_eq ⟨hlive.1, hlive.2⟩, List.length_append,
      List.length_singleton, Nat.sub_add_eq]
  · cases h

/-- Without room a datagram is refused. All that can change is that the sender learns that the
receiver has gone. -/
theorem send_of_room_eq_zero {c : Channel} (h : c.room = 0) (d : Bytes) :
    ∃ sender fault, c.send d = ({ c with sender }, .error fault) ∧
      room { c with sender } = 0 ∧ (c.IsLive → sender = c.sender) := by
  unfold send
  split
  · rename_i hs
    exact ⟨c.sender, _, rfl, h, fun _ => rfl⟩
  · rename_i hs
    exact ⟨c.sender, _, rfl, h, fun _ => rfl⟩
  · rename_i hs
    split
    · rename_i hr
      refine ⟨.disconnected, _, rfl, by simp [room], ?_⟩
      intro hlive
      rw [hlive.receiver] at hr
      cases hr
    · rename_i hr
      have hlive : c.IsLive := ⟨hs, by simpa using hr⟩
      rw [hlive.room_eq] at h
      rw [if_pos (by omega)]
      exact ⟨c.sender, _, rfl, by rw [← h]; exact hlive.room_eq, fun _ => rfl⟩

end Host.Channel

/-! ## Foretelling -/

/-- A frame that a stack emitted, and whether it was queued for the guest. -/
structure Fate where
  frame : Bytes
  isQueued : Bool
deriving DecidableEq, Repr

namespace Fate

/-- The frames that were queued, in order. -/
def queued (fates : List Fate) : List Bytes := (fates.filter isQueued).map frame

/-- How many frames were dropped. -/
def dropped (fates : List Fate) : Nat := fates.countP fun fate => !fate.isQueued

theorem queued_append (fates fates' : List Fate) :
    queued (fates ++ fates') = queued fates ++ queued fates' := by
  simp [queued]

theorem dropped_append (fates fates' : List Fate) :
    dropped (fates ++ fates') = dropped fates + dropped fates' := List.countP_append

/-- Every frame is either queued or dropped. -/
theorem queued_length_add_dropped (fates : List Fate) :
    (queued fates).length + dropped fates = fates.length := by
  have hsum := List.length_eq_countP_add_countP isQueued (l := fates)
  rw [queued, List.length_map, dropped, ← List.countP_eq_length_filter]
  simpa using hsum.symm

theorem queued_cons (fate : Fate) (fates : List Fate) :
    queued (fate :: fates) = (if fate.isQueued then [fate.frame] else []) ++ queued fates := by
  cases h : fate.isQueued <;> simp [queued, h]

end Fate

namespace Relay

variable {σ : Type}

/-- The fates of frames where there is room for so many: those that are too long are dropped, and
the others as soon as there is no room left. -/
def fates : Nat → List Bytes → List Fate
  | _, [] => []
  | room, frame :: frames =>
    let isQueued := decide (frame.length ≤ Frame.maxSize) && decide (0 < room)
    ⟨frame, isQueued⟩ :: fates (if isQueued then room - 1 else room) frames

theorem fates_frames (room : Nat) (frames : List Bytes) :
    (fates room frames).map Fate.frame = frames := by
  induction frames generalizing room with
  | nil => rfl
  | cons frame frames ih => rw [fates, List.map_cons, ih]

/-- A frame that is too long is never queued. -/
theorem isQueued_of_lt {room : Nat} {frames : List Bytes} {fate : Fate}
    (h : fate ∈ fates room frames) (hlen : Frame.maxSize < fate.frame.length) :
    fate.isQueued = false := by
  induction frames generalizing room with
  | nil => cases h
  | cons frame frames ih =>
    rcases List.mem_cons.1 h with rfl | h
    · have hlen : ¬ frame.length ≤ Frame.maxSize := Nat.not_le.2 hlen
      simp [hlen]
    · exact ih h

/-- Whether a frame can travel to the guest at all. -/
def fits (frame : Bytes) : Bool := decide (frame.length ≤ Frame.maxSize)

/-- With room for all that fit, just these are queued. -/
theorem queued_fates {room : Nat} {frames : List Bytes} (h : frames.countP fits ≤ room) :
    Fate.queued (fates room frames) = frames.filter fits := by
  induction frames generalizing room with
  | nil => rfl
  | cons frame frames ih =>
    rw [List.countP_cons] at h
    rw [fates, Fate.queued_cons]
    cases hf : fits frame with
    | true =>
      have hlen : frame.length ≤ Frame.maxSize := by simpa [fits] using hf
      rw [hf, if_pos rfl] at h
      have hroom : 0 < room := by omega
      have hrest := @ih (room - 1) (by omega)
      simp [hlen, hroom, hf, hrest]
    | false =>
      have hlen : ¬ frame.length ≤ Frame.maxSize := by simpa [fits] using hf
      rw [hf] at h
      have hrest := @ih room (by simpa using h)
      simp [hlen, hf, hrest]

/-! ## Emitting -/

/-- What emitting does to the relay's counters and pipe. -/
structure Emits (counters : RelayCounters) (pipe : StackPipe) (after : RelayCounters × StackPipe)
    (fates : List Fate) : Prop where
  counters : after.1 = { counters with
    framesOut := counters.framesOut + (Fate.queued fates).length
    framesDropped := counters.framesDropped + Fate.dropped fates }
  toStack : after.2.toStack = pipe.toStack
  inputFault : after.2.inputFault = pipe.inputFault
  queue : after.2.toGuest.queue = pipe.toGuest.queue ++ Fate.queued fates
  capacity : after.2.toGuest.capacity = pipe.toGuest.capacity
  receiver : after.2.toGuest.receiverOpen = pipe.toGuest.receiverOpen
  sender : pipe.toGuest.IsLive → after.2.toGuest.sender = pipe.toGuest.sender

theorem Emits.isLive {counters : RelayCounters} {pipe : StackPipe}
    {after : RelayCounters × StackPipe} {fates : List Fate} (h : Emits counters pipe after fates)
    (hlive : pipe.toGuest.IsLive) : after.2.toGuest.IsLive :=
  ⟨(h.sender hlive).trans hlive.sender, h.receiver.trans hlive.receiver⟩

/-- Into a live channel frames are queued, and nothing else happens to the pipe. -/
theorem Emits.pipe_eq {counters : RelayCounters} {pipe : StackPipe}
    {after : RelayCounters × StackPipe} {fates : List Fate} (h : Emits counters pipe after fates)
    (hlive : pipe.toGuest.IsLive) :
    after.2 = { pipe with toGuest := { pipe.toGuest with
      queue := pipe.toGuest.queue ++ Fate.queued fates } } := by
  obtain ⟨counters', ⟨toStack, ⟨capacity, queue, sender, receiverOpen⟩, inputFault⟩⟩ := after
  obtain ⟨-, hstack, hfault, hqueue, hcapacity, hreceiver, hsender⟩ := h
  simp only at hstack hfault hqueue hcapacity hreceiver hsender
  rw [hstack, hfault, hqueue, hcapacity, hreceiver, hsender hlive]

/-- Nothing is emitted. -/
theorem Emits.nil (counters : RelayCounters) (pipe : StackPipe) :
    Emits counters pipe (counters, pipe) [] :=
  ⟨rfl, rfl, rfl, (List.append_nil _).symm, rfl, rfl, fun _ => rfl⟩

theorem Emits.cons {counters : RelayCounters} {pipe : StackPipe}
    {middle after : RelayCounters × StackPipe} {fate : Fate} {fates : List Fate}
    (h : Emits counters pipe middle [fate]) (h' : Emits middle.1 middle.2 after fates) :
    Emits counters pipe after (fate :: fates) where
  counters := by
    have hcons : fate :: fates = [fate] ++ fates := rfl
    rw [h'.counters, h.counters, hcons, Fate.queued_append, Fate.dropped_append,
      List.length_append, Nat.add_assoc, Nat.add_assoc]
  toStack := h'.toStack.trans h.toStack
  inputFault := h'.inputFault.trans h.inputFault
  queue := by
    rw [h'.queue, h.queue, List.append_assoc, ← Fate.queued_append]
    rfl
  capacity := h'.capacity.trans h.capacity
  receiver := h'.receiver.trans h.receiver
  sender hlive := (h'.sender (h.isLive hlive)).trans (h.sender hlive)

/-- One frame meets its fate. -/
theorem emit_emits (counters : RelayCounters) (pipe : StackPipe) (frame : Bytes) :
    let isQueued := decide (frame.length ≤ Frame.maxSize) && decide (0 < pipe.toGuest.room)
    Emits counters pipe (emit counters pipe frame) [⟨frame, isQueued⟩] ∧
      (emit counters pipe frame).2.toGuest.room =
        if isQueued then pipe.toGuest.room - 1 else pipe.toGuest.room := by
  intro isQueued
  by_cases hlen : frame.length ≤ Frame.maxSize
  · rcases Nat.eq_zero_or_pos pipe.toGuest.room with hroom | hroom
    · have hno : isQueued = false := by simp [isQueued, hroom]
      obtain ⟨sender, fault, hsend, hnext, hsame⟩ :=
        Host.Channel.send_of_room_eq_zero hroom frame
      rw [emit, if_neg (Nat.not_lt.2 hlen), StackPipe.deliver, hsend, hno]
      exact ⟨⟨rfl, rfl, rfl, (List.append_nil _).symm, rfl, rfl, hsame⟩, hnext.trans hroom.symm⟩
    · have hyes : isQueued = true := by simp [isQueued, hroom, hlen]
      obtain ⟨hsend, hnext⟩ := Host.Channel.send_of_room_pos hroom frame
      rw [emit, if_neg (Nat.not_lt.2 hlen), StackPipe.deliver, hsend, hyes]
      exact ⟨⟨rfl, rfl, rfl, rfl, rfl, rfl, fun _ => rfl⟩, hnext⟩
  · have hno : isQueued = false := by simp [isQueued, hlen]
    rw [emit, if_pos (Nat.lt_of_not_le hlen), hno]
    exact ⟨⟨rfl, rfl, rfl, (List.append_nil _).symm, rfl, rfl, fun _ => rfl⟩, rfl⟩

/-- Frames meet their fates one after the other. -/
theorem emitAll_emits (counters : RelayCounters) (pipe : StackPipe) (frames : List Bytes) :
    Emits counters pipe (emitAll counters pipe frames) (fates pipe.toGuest.room frames) := by
  induction frames generalizing counters pipe with
  | nil => exact .nil counters pipe
  | cons frame frames ih =>
    obtain ⟨hemit, hroom⟩ := emit_emits counters pipe frame
    have hrest := ih (emit counters pipe frame).1 (emit counters pipe frame).2
    rw [hroom] at hrest
    exact hemit.cons hrest

end Relay
end GuestNic
