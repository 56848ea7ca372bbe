/-!
# The broken-pipe signal

A write to a pipe whose reader is gone raises a signal that ends the process unless it is handled.
The card wants the write to fail instead, but leaves a handler alone that someone else has
installed.
-/

namespace GuestNic.Host

/-- What a process does about a signal. -/
inductive SignalDisposition where
  | default
  | ignore
  | handler
deriving DecidableEq, Repr

/-- Make the signal harmless, unless it already is. -/
def SignalDisposition.disarm : SignalDisposition → SignalDisposition
  | .default => .ignore
  | disposition => disposition

theorem SignalDisposition.disarm_disarm (d : SignalDisposition) : d.disarm.disarm = d.disarm := by
  cases d <;> rfl

end GuestNic.Host
