import GuestNic.Host.Channel

/-!
# Raw descriptors

What may stand behind a raw network device: a pair of datagram queues to a process of the host, one
of the host's special files, or a script of answers.
-/

namespace GuestNic.Host

/-- Answers given beforehand, one for each operation; when they run out nothing happens. -/
structure Script where
  polls : List (Except Fault PollEvents)
  reads : List (Except Fault Bytes)
  writes : List (Except Fault Nat)

/-- An open descriptor of the host. -/
inductive Descriptor where
  /-- Datagrams from the host and to the host. -/
  | socket (incoming outgoing : Channel)
  /-- Reads end at once and writes vanish. -/
  | null
  /-- Reads give zeros without end and writes vanish. -/
  | zero
  /-- As `zero`, but no write finds room. -/
  | full
  /-- Open for writing only. -/
  | writeOnly
  /-- Always ready and at its end. -/
  | ended
  /-- The other end of the pipe is gone. -/
  | hungUp
  /-- A counter: a write of eight bytes adds to it, a read of eight bytes takes it back to zero. -/
  | counter (value : Nat)
  | scripted (script : Script)

namespace Descriptor

/-- A socket pair with room for `capacity` datagrams either way. -/
def ofCapacity (capacity : Nat) : Descriptor :=
  .socket (.ofCapacity capacity) (.ofCapacity capacity)

/-- Send over `outgoing`, one half of a socket whose other half is `incoming`. The refusal that tells
a sender that the far side is gone also loses what the sender has not received yet. -/
def sendOver (outgoing incoming : Channel) (datagram : Bytes) :
    Channel × Channel × Except Fault Unit :=
  match outgoing.send datagram with
  | (outgoing, .error (.os .connectionRefused)) =>
    (outgoing, incoming.purge, .error (.os .connectionRefused))
  | (outgoing, r) => (outgoing, incoming, r)

/-- The largest value that a counter holds. -/
def counterMax : Nat := UInt64.size - 2

/-! ## The card's side -/

/-- What a poll for readability reports. -/
def poll : Descriptor → Descriptor × Except Fault PollEvents
  | .socket incoming outgoing =>
    (.socket incoming outgoing, .ok { input := !incoming.queue.isEmpty })
  | .hungUp => (.hungUp, .ok { hangup := true })
  | .counter value => (.counter value, .ok { input := value != 0 })
  | .scripted script =>
    match script.polls with
    | [] => (.scripted script, .ok .none)
    | r :: rs => (.scripted { script with polls := rs }, r)
  | d => (d, .ok { input := true })

/-- Read up to `limit` bytes. -/
def read (limit : Nat) : Descriptor → Descriptor × Except Fault Bytes
  | .socket incoming outgoing =>
    let (incoming, r) := incoming.receive limit
    (.socket incoming outgoing, r)
  | .zero => (.zero, .ok (List.replicate limit 0))
  | .full => (.full, .ok (List.replicate limit 0))
  | .writeOnly => (.writeOnly, .error (.os .badDescriptor))
  | .counter value =>
    if value = 0 then (.counter 0, .error (.os .wouldBlock))
    else (.counter 0, .ok ((Bytes.ofWord64LE value.toUInt64).take limit))
  | .scripted script =>
    match script.reads with
    | [] => (.scripted script, .error (.os .wouldBlock))
    | r :: rs => (.scripted { script with reads := rs }, r.map (·.take limit))
  | d => (d, .ok [])

/-- Write a frame; the number of bytes taken is the answer. -/
def write (frame : Bytes) : Descriptor → Descriptor × Except Fault Nat
  | .socket incoming outgoing =>
    let (outgoing, incoming, r) := sendOver outgoing incoming frame
    (.socket incoming outgoing, r.map fun _ => frame.length)
  | .full => (.full, .error (.os .storageFull))
  | .hungUp => (.hungUp, .error (.os .badDescriptor))
  | .counter value =>
    let added := Bytes.toNatLE frame
    if frame.length ≠ 8 ∨ added = UInt64.size - 1 then
      (.counter value, .error (.os .invalidArgument))
    else if counterMax < value + added then (.counter value, .error (.os .wouldBlock))
    else (.counter (value + added), .ok 8)
  | .scripted script =>
    match script.writes with
    | [] => (.scripted script, .error (.os .wouldBlock))
    | r :: rs => (.scripted { script with writes := rs }, r)
  | d => (d, .ok frame.length)

/-- How many reads can still find something that is waiting now. A descriptor that is always ready
counts once. -/
def backlog : Descriptor → Nat
  | .socket incoming _ => incoming.queue.length
  | .scripted script => script.polls.length
  | _ => 1

/-! ## The host's side -/

/-- The host sends a frame; the answer tells whether it was queued. -/
def arrive (frame : Bytes) : Descriptor → Descriptor × Bool
  | .socket incoming outgoing =>
    let (incoming, outgoing, r) := sendOver incoming outgoing frame
    (.socket incoming outgoing, r.isOk)
  | d => (d, false)

/-- The host takes every frame that the card has sent. -/
def collect : Descriptor → Descriptor × List Bytes
  | .socket incoming outgoing =>
    let (outgoing, frames) := outgoing.drain
    (.socket incoming outgoing, frames)
  | d => (d, [])

/-- The host closes its side. -/
def closeFarSide : Descriptor → Descriptor
  | .socket incoming outgoing => .socket incoming.closeSender outgoing.closeReceiver
  | d => d

/-- The card closes its side. -/
def close : Descriptor → Descriptor
  | .socket incoming outgoing => .socket incoming.closeReceiver outgoing.closeSender
  | d => d

end Descriptor
end GuestNic.Host
