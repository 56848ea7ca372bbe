import GuestNic.Link.Pipe
import GuestNic.Nat.Stack

/-!
# The relay

The relay stands between a card's NAT pipe and a network stack. In every round it hands at most one
record of the guest to the stack, then polls what the stack watches and lets it act. What the stack
emits is queued for the guest, or dropped when it is too long or finds no room.
-/

namespace GuestNic

/-- Counters of a relay. The counts are taken as below 2⁶⁴, where a 64-bit counter would wrap
around. -/
structure RelayCounters where
  /-- Frames handed to the stack. -/
  framesIn : Nat := 0
  /-- Frames of the stack queued for the guest. -/
  framesOut : Nat := 0
  framesDropped : Nat := 0
  corruptRecords : Nat := 0
deriving DecidableEq, Repr

/-- Why a relay did not start. -/
inductive RelayFault where
  | stack (fault : StackFault)
  | channel (fault : Host.Fault)
  | spawn (fault : Host.Fault)
deriving DecidableEq, Repr

def RelayFault.message : RelayFault → String
  | .stack fault => fault.message
  | .channel fault => s!"failed to configure NAT input channel: {fault.message}"
  | .spawn fault => s!"failed to spawn NAT pump thread: {fault.message}"

/-- What became of a forwarding rule. -/
inductive RuleOutcome where
  | installed (rule : Forwarding.Rule)
  | refused (fault : StackFault)
deriving DecidableEq, Repr

/-- A relay with its stack. -/
structure Relay (σ : Type) where
  stack : σ
  /-- Cleared when the channel from the guest has failed for good. -/
  inputOpen : Bool
  buffer : FrameBuffer
  counters : RelayCounters

namespace Relay

variable {σ : Type} (net : NetStack σ)

/-! ## Starting -/

/-- Install rules in their order, each once, whatever becomes of the ones before it. -/
def installAll (stack : σ) : List Forwarding.Rule → σ × List RuleOutcome
  | [] => (stack, [])
  | rule :: rules =>
    let (stack, r) := net.addRule rule stack
    let outcome := match r with
      | .ok () => RuleOutcome.installed rule
      | .error fault => .refused fault
    let (stack, outcomes) := installAll stack rules
    (stack, outcome :: outcomes)

/-- Start a stack and install the rules. -/
def start (stack : σ) (rules : List Forwarding.Rule) :
    Except RelayFault (Relay σ × List RuleOutcome) :=
  match net.start stack with
  | .error fault => .error (.stack fault)
  | .ok stack =>
    let (stack, outcomes) := installAll net stack rules
    .ok ({ stack, inputOpen := true, buffer := .empty, counters := {} }, outcomes)

/-- Give a relay that was started its thread, once the channel that it reads from is set up. The
arguments are what the host answers to the two requests. -/
def launch (input thread : Except Host.Fault Unit) : Except RelayFault Unit := do
  input.mapError RelayFault.channel
  thread.mapError RelayFault.spawn

/-! ## Rounds -/

/-- Queue a frame of the stack for the guest, or drop it. -/
def emit (counters : RelayCounters) (pipe : StackPipe) (frame : Bytes) :
    RelayCounters × StackPipe :=
  if Frame.maxSize < frame.length then
    ({ counters with framesDropped := counters.framesDropped + 1 }, pipe)
  else
    match pipe.deliver frame with
    | (pipe, .ok ()) => ({ counters with framesOut := counters.framesOut + 1 }, pipe)
    | (pipe, .error _) => ({ counters with framesDropped := counters.framesDropped + 1 }, pipe)

def emitAll (counters : RelayCounters) (pipe : StackPipe) : List Bytes → RelayCounters × StackPipe
  | [] => (counters, pipe)
  | frame :: frames =>
    let (counters, pipe) := emit counters pipe frame
    emitAll counters pipe frames

/-- Hand one datagram of the guest to the stack, if it is a record. -/
def accept (r : Relay σ) (pipe : StackPipe) (datagram : Bytes) : Relay σ × StackPipe :=
  match Record.decode datagram r.buffer with
  | (buffer, .ok ()) =>
    let (stack, frames) := net.input buffer.contents r.stack
    let counters := { r.counters with framesIn := r.counters.framesIn + 1 }
    let (counters, pipe) := emitAll counters pipe frames
    ({ r with stack, buffer, counters }, pipe)
  | (buffer, .error _) =>
    let counters := { r.counters with corruptRecords := r.counters.corruptRecords + 1 }
    ({ r with buffer, counters }, pipe)

/-- Take at most one datagram of the guest. A fault that is more than passing closes the input. -/
def takeInput (r : Relay σ) (pipe : StackPipe) : Relay σ × StackPipe :=
  if !r.inputOpen then (r, pipe)
  else
    match pipe.takeRecord with
    | (pipe, .ok datagram) => accept net r pipe datagram
    | (pipe, .error fault) =>
      if fault.isTransient then (r, pipe) else ({ r with inputOpen := false }, pipe)

/-- Poll what the stack watches and let it act. -/
def serve (r : Relay σ) (pipe : StackPipe) : Relay σ × StackPipe :=
  let (stack, set, _) := net.watch .empty r.stack
  let (stack, frames) := net.complete (set.poll (net.sense stack)) stack
  let (counters, pipe) := emitAll r.counters pipe frames
  ({ r with stack, counters }, pipe)

/-- One round. -/
def round (r : Relay σ) (pipe : StackPipe) : Relay σ × StackPipe :=
  let (r, pipe) := takeInput net r pipe
  serve net r pipe

def rounds : Nat → Relay σ → StackPipe → Relay σ × StackPipe
  | 0, r, pipe => (r, pipe)
  | n + 1, r, pipe =>
    let (r, pipe) := round net r pipe
    rounds n r pipe

/-- Go on until the records that wait are used up: a round for each, one for what came to the
stack's own descriptors, and one in which there is nothing left. -/
def settle (r : Relay σ) (pipe : StackPipe) : Relay σ × StackPipe :=
  rounds net (pipe.toStack.queue.length + 2) r pipe

end Relay
end GuestNic
