import GuestNic.Link.Basic
import GuestNic.Proofs.Ethernet.Buffer

/-!
# Ports with a queue behind them

A raw device on a pair of datagram queues and the NAT pipe hand over frames in the same way: one
datagram at a time, oldest first, cut to the size of the buffer. `Port.IsQueue` says that a port is
one of the two with both ends of its channels in place; what follows is all that the card's
reception needs to know of it.
-/

namespace GuestNic

/-! ## Channels -/

namespace Host.Channel

/-- Neither end of the channel has gone. -/
structure IsLive (c : Channel) : Prop where
  sender : c.sender = .connected
  receiver : c.receiverOpen = true

/-- There is no room for another datagram. -/
def isFull (c : Channel) : Bool := decide (c.capacity ≤ c.queue.length)

theorem isLive_ofCapacity (capacity : Nat) : (ofCapacity capacity).IsLive := ⟨rfl, rfl⟩

theorem IsLive.withQueue {c : Channel} (h : c.IsLive) (queue : List Bytes) :
    ({ c with queue } : Channel).IsLive := ⟨h.sender, h.receiver⟩

/-- A channel that is full refuses a datagram and is left as it was. -/
theorem send_of_isFull {c : Channel} (h : c.IsLive) (hf : c.isFull = true) (d : Bytes) :
    c.send d = (c, .error (.os .wouldBlock)) := by
  have hcap : c.capacity ≤ c.queue.length := by simpa [isFull] using hf
  simp [send, h.sender, h.receiver, hcap]

/-- A channel that is not full queues a datagram behind the others. -/
theorem send_of_not_isFull {c : Channel} (h : c.IsLive) (hf : c.isFull = false) (d : Bytes) :
    c.send d = ({ c with queue := c.queue ++ [d] }, .ok ()) := by
  have hcap : ¬ c.capacity ≤ c.queue.length := by simpa [isFull] using hf
  simp only [send, h.sender, h.receiver, hcap, Bool.not_true, Bool.false_eq_true, ↓reduceIte]

theorem IsLive.send {c : Channel} (h : c.IsLive) (d : Bytes) : (c.send d).1.IsLive := by
  cases hf : c.isFull with
  | true => rw [send_of_isFull h hf]; exact h
  | false => rw [send_of_not_isFull h hf]; exact h.withQueue _

/-- Sending appends the datagram or nothing. -/
theorem queue_send (c : Channel) (d : Bytes) :
    (c.send d).1.queue = c.queue ++ if (c.send d).2.isOk then [d] else [] := by
  unfold send
  split
  · exact (List.append_nil _).symm
  · exact (List.append_nil _).symm
  · split
    · exact (List.append_nil _).symm
    · split
      · exact (List.append_nil _).symm
      · rfl

theorem receive_cons {c : Channel} {d : Bytes} {ds : List Bytes} (h : c.queue = d :: ds)
    (limit : Nat) : c.receive limit = ({ c with queue := ds }, .ok (d.take limit)) := by
  simp only [receive, h]

theorem receive_nil {c : Channel} (h : c.queue = []) (limit : Nat) :
    c.receive limit = (c, .error (.os .wouldBlock)) := by
  simp only [receive, h]

end Host.Channel

/-- Between live channels a send is not told of a far side that has gone, so it touches only the
channel it goes into. -/
theorem Host.Descriptor.sendOver_of_isLive {outgoing : Host.Channel} (h : outgoing.IsLive)
    (incoming : Host.Channel) (d : Bytes) :
    sendOver outgoing incoming d = ((outgoing.send d).1, incoming, (outgoing.send d).2) := by
  cases hf : outgoing.isFull with
  | true => simp only [sendOver, Host.Channel.send_of_isFull h hf]
  | false => simp only [sendOver, Host.Channel.send_of_not_isFull h hf]

/-! ## Ports -/

namespace Port

/-- The datagrams that wait at a port, oldest first. -/
def queue : Port → List Bytes
  | .raw _ (.socket incoming _) => incoming.queue
  | .raw _ _ => []
  | .tunnel t => t.inbox.map Prod.snd
  | .pipe p => p.toGuest.queue

/-- The port without its oldest datagram. -/
def dequeue : Port → Port
  | .raw driver (.socket incoming outgoing) =>
    .raw driver (.socket { incoming with queue := incoming.queue.tail } outgoing)
  | .raw driver descriptor => .raw driver descriptor
  | .tunnel t => .tunnel { t with inbox := t.inbox.tail }
  | .pipe p => .pipe { p with toGuest := { p.toGuest with queue := p.toGuest.queue.tail } }

/-- A raw device on datagram queues, or a NAT pipe, with both ends in place. -/
inductive IsQueue : Port → Prop where
  | raw {driver : RawDriver} {incoming outgoing : Host.Channel} (hi : incoming.IsLive)
      (ho : outgoing.IsLive) : IsQueue (.raw driver (.socket incoming outgoing))
  | pipe {p : StackPipe} (hg : p.toGuest.IsLive) : IsQueue (.pipe p)

variable {p : Port}

theorem IsQueue.dequeue (h : p.IsQueue) : p.dequeue.IsQueue := by
  cases h with
  | raw hi ho => exact .raw (hi.withQueue _) ho
  | pipe hg => exact .pipe (hg.withQueue _)

theorem queue_dequeue (h : p.IsQueue) : p.dequeue.queue = p.queue.tail := by
  cases h <;> rfl

theorem backlog_eq (h : p.IsQueue) : p.backlog = p.queue.length := by
  cases h <;> rfl

/-- Waiting finds out whether the queue is empty, and nothing else happens. -/
theorem wait_eq (h : p.IsQueue) : p.wait = (p, .ok (!p.queue.isEmpty)) := by
  cases h with
  | pipe hg => simp only [wait, poll, polled_input, queue]
  | raw hi ho => simp only [wait, poll, Host.Descriptor.poll, polled_input, queue]

theorem read_eq (h : p.IsQueue) {d : Bytes} {ds : List Bytes} (hq : p.queue = d :: ds)
    (limit : Nat) : p.read limit = (p.dequeue, .ok (d.take limit, .device)) := by
  cases h with
  | @raw driver incoming outgoing hi ho =>
    have hq : incoming.queue = d :: ds := hq
    simp only [read, Host.Descriptor.read, Host.Channel.receive_cons hq, dequeue, hq,
      List.tail_cons, Except.map]
  | @pipe p hg =>
    have hq : p.toGuest.queue = d :: ds := hq
    simp only [read, StackPipe.receive, Host.Channel.receive_cons hq, dequeue, hq,
      List.tail_cons, Except.map]

theorem IsQueue.write (h : p.IsQueue) (frame : Bytes) : (p.write frame).1.IsQueue := by
  cases h with
  | raw hi ho =>
    simp only [Port.write, Host.Descriptor.write, Host.Descriptor.sendOver_of_isLive ho]
    exact .raw hi (ho.send frame)
  | pipe hg =>
    simp only [Port.write, StackPipe.send]
    exact .pipe hg

/-- Writing does not disturb what waits to be read. -/
theorem queue_write (h : p.IsQueue) (frame : Bytes) : (p.write frame).1.queue = p.queue := by
  cases h with
  | raw hi ho =>
    simp only [write, Host.Descriptor.write, Host.Descriptor.sendOver_of_isLive ho, queue]
  | pipe hg => simp only [write, StackPipe.send, queue]

theorem IsQueue.arrive (h : p.IsQueue) (peer : Peer) (frame : Bytes) :
    (p.arrive peer frame).1.IsQueue := by
  cases h with
  | raw hi ho =>
    simp only [Port.arrive, Host.Descriptor.arrive, Host.Descriptor.sendOver_of_isLive hi]
    exact .raw (hi.send frame) ho
  | pipe hg =>
    simp only [Port.arrive, StackPipe.deliver]
    exact .pipe (hg.send frame)

/-- A frame of the far side stands behind the others, or does not arrive. -/
theorem queue_arrive (h : p.IsQueue) (peer : Peer) (frame : Bytes) :
    (p.arrive peer frame).1.queue =
      p.queue ++ if (p.arrive peer frame).2 then [frame] else [] := by
  cases h with
  | raw hi ho =>
    simp only [arrive, Host.Descriptor.arrive, Host.Descriptor.sendOver_of_isLive hi, queue]
    exact Host.Channel.queue_send _ frame
  | pipe hg =>
    simp only [arrive, StackPipe.deliver, queue]
    exact Host.Channel.queue_send _ frame

end Port

/-! ## Links -/

namespace Link

theorem wait_eq {l : Link} (h : l.port.IsQueue) :
    l.wait = (l, .ok (!l.port.queue.isEmpty)) := by
  simp only [wait, Port.wait_eq h]

/-- A read fills the buffer with the oldest datagram, cut to the longest frame, and counts it. -/
theorem read_eq {l : Link} (h : l.port.IsQueue) {d : Bytes} {ds : List Bytes}
    (hq : l.port.queue = d :: ds) (buffer : FrameBuffer) :
    ∃ filled : FrameBuffer, filled.contents = d.take Frame.maxSize ∧
      l.read buffer =
        let (traffic, buffer, answer) :=
          settleRead l.traffic filled (.ok ((d.take Frame.maxSize).length, .device))
        ({ port := l.port.dequeue, traffic }, buffer, answer) := by
  have hlen : (d.take Frame.maxSize).length ≤ Frame.maxSize := by
    rw [List.length_take]; exact Nat.min_le_left ..
  refine ⟨_, @FrameBuffer.contents_fillWith Host.Fault buffer _ hlen, ?_⟩
  simp only [read, Port.read_eq h hq, Except.map, FrameBuffer.fillWith_ok buffer hlen, Except.bind]

end Link
end GuestNic
