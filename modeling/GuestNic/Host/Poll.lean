import GuestNic.Text.Hex

/-!
# Poll events

What the host reports about a descriptor that is watched.
-/

namespace GuestNic.Host

/-- The events that a poll can report. -/
structure PollEvents where
  input : Bool := false
  output : Bool := false
  failed : Bool := false
  hangup : Bool := false
  invalid : Bool := false
deriving DecidableEq, Repr

namespace PollEvents

def none : PollEvents := {}

/-- The events as the bits of a mask. -/
def bits (e : PollEvents) : Nat :=
  e.input.toNat * 0x1 + e.output.toNat * 0x4 + e.failed.toNat * 0x8 + e.hangup.toNat * 0x10 +
    e.invalid.toNat * 0x20

/-- Hang-up, failure or an invalid descriptor. -/
def isBroken (e : PollEvents) : Bool := e.hangup || e.failed || e.invalid

end PollEvents

/-- The events that a watcher of a descriptor asks for. -/
structure Interest where
  readable : Bool
  writable : Bool
deriving DecidableEq, Repr

/-- What is left of `events` for a watcher: what it asked for, and trouble in any case. -/
def Interest.select (i : Interest) (events : PollEvents) : PollEvents :=
  { events with input := events.input && i.readable, output := events.output && i.writable }

end GuestNic.Host
