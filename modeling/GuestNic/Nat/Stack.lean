import GuestNic.Bytes
import GuestNic.Forwarding.Rule
import GuestNic.Host.Fault
import GuestNic.Nat.Watch

/-!
# Network stacks

What the relay asks of a network stack that lives in the emulator: to start, to install forwarding
rules, to take in frames of the guest, and to say which descriptors it watches and act on what they
report. Frames for the guest come out of the last three as lists.
-/

namespace GuestNic

/-- Why a stack refused. -/
inductive StackFault where
  | start (reason : String)
  | forwarding (rule : Forwarding.Rule) (reason : String)
  | host (fault : Host.Fault)
deriving DecidableEq, Repr

def StackFault.message : StackFault → String
  | .start reason => s!"user-mode network stack failed to initialize: {reason}"
  | .forwarding rule reason => s!"could not install host forwarding rule {rule.render}: {reason}"
  | .host fault => fault.message

/-- A network stack with states in `σ`. -/
structure NetStack (σ : Type) where
  start : σ → Except StackFault σ
  addRule : Forwarding.Rule → σ → σ × Except StackFault Unit
  /-- Take in a frame of the guest. -/
  input : Bytes → σ → σ × List Bytes
  /-- Register the descriptors to be watched, and say for how many milliseconds at most. -/
  watch : WatchSet → σ → σ × WatchSet × Nat
  /-- What the host would report about a watched descriptor. -/
  sense : σ → Watch → Host.PollEvents
  /-- Act on what was reported. -/
  complete : WatchSet → σ → σ × List Bytes

end GuestNic
