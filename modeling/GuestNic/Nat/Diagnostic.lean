import GuestNic.Host.Channel
import GuestNic.Nat.Echo

/-!
# The diagnostic stack

An echo stack with faults that can be switched on, other ways to answer a frame, and sockets of
its own. It remembers the frames it was given and the last readiness of its sockets.
-/

namespace GuestNic

/-- What a diagnostic stack emits for a frame. -/
inductive EchoStyle where
  | reflect
  | swallow
  | double
  /-- A frame that is one byte too long first. -/
  | oversize
  /-- The part of the frame that is shorter than a header first. -/
  | runt
deriving DecidableEq, Repr

/-- The frames emitted for `frame`. -/
def EchoStyle.emit (style : EchoStyle) (frame : Bytes) : List Bytes :=
  match style with
  | .reflect => [frame]
  | .swallow => []
  | .double => [frame, frame]
  | .oversize => [List.replicate 1517 0x55, frame]
  | .runt => [frame.take 13, frame]

/-- A descriptor that a diagnostic stack watches. -/
inductive DiagnosticSocket where
  | datagram (incoming : Host.Channel)
  | hungUp
  | invalid
deriving DecidableEq, Repr

/-- A fault text, and whether it comes from the host or from the stack itself. -/
structure DiagnosticFault where
  text : String
  fromHost : Bool
deriving DecidableEq, Repr

structure DiagnosticStack where
  echo : EchoStack
  style : EchoStyle
  startFault : Option DiagnosticFault
  /-- Host ports whose rules are refused. -/
  refusedPorts : List Nat
  /-- Refusals of rules are reported as faults of the host. -/
  refusesAsHost : Bool
  sockets : List (DiagnosticSocket × Host.Interest)
  /-- The frames taken in, oldest first. -/
  inputs : List Bytes
  readiness : List WatchReport

namespace DiagnosticSocket

def events : DiagnosticSocket → Host.PollEvents
  | .datagram incoming => { input := !incoming.queue.isEmpty, output := true }
  | .hungUp => { hangup := true }
  | .invalid => { invalid := true }

/-- Receive a datagram if one is there to be had. -/
def receive (s : DiagnosticSocket) (ready : WatchReport) : DiagnosticSocket × List Bytes :=
  match s, ready.readable with
  | .datagram incoming, true =>
    match incoming.queue with
    | [] => (s, [])
    | d :: rest => (.datagram { incoming with queue := rest }, [d])
  | _, _ => (s, [])

/-- The host sends a datagram to the socket. -/
def arrive (s : DiagnosticSocket) (datagram : Bytes) : DiagnosticSocket × Bool :=
  match s with
  | .datagram incoming =>
    let (incoming, r) := incoming.send datagram
    (.datagram incoming, r.isOk)
  | _ => (s, false)

end DiagnosticSocket

namespace DiagnosticStack

/-- A stack that reflects every frame, has no sockets and refuses nothing. -/
def plain : DiagnosticStack where
  echo := .empty
  style := .reflect
  startFault := none
  refusedPorts := []
  refusesAsHost := false
  sockets := []
  inputs := []
  readiness := []

/-- Why rules with a refused port are refused. -/
def refusal : String := "address in use"

/-- Register every socket; the first has number 0. -/
def registerAll (sockets : List (DiagnosticSocket × Host.Interest)) (set : WatchSet) : WatchSet :=
  ((List.range sockets.length).zip sockets).foldl
    (fun set (number, _, interest) => (set.register number interest).1) set

/-- Receive at most one datagram from every socket that is readable. -/
def receiveAll : List (DiagnosticSocket × Host.Interest) → List WatchReport →
    List (DiagnosticSocket × Host.Interest) × List Bytes
  | (socket, interest) :: rest, ready :: others =>
    let (socket, frames) := socket.receive ready
    let (rest, more) := receiveAll rest others
    ((socket, interest) :: rest, frames ++ more)
  | sockets, _ => (sockets, [])

def start (s : DiagnosticStack) : Except StackFault DiagnosticStack :=
  match s.startFault with
  | none => .ok s
  | some ⟨text, true⟩ => .error (.host (.described text))
  | some ⟨text, false⟩ => .error (.start text)

def addRule (rule : Forwarding.Rule) (s : DiagnosticStack) :
    DiagnosticStack × Except StackFault Unit :=
  if s.refusedPorts.contains rule.hostPort.toNat then
    (s, .error (if s.refusesAsHost then .host (.described refusal) else .forwarding rule refusal))
  else
    let (echo, r) := EchoStack.net.addRule rule s.echo
    ({ s with echo }, r)

/-- The host sends a datagram to the socket with the given number. -/
def arrive (s : DiagnosticStack) (number : Nat) (datagram : Bytes) : DiagnosticStack × Bool :=
  match s.sockets[number]? with
  | none => (s, false)
  | some (socket, interest) =>
    let (socket, sent) := socket.arrive datagram
    ({ s with sockets := s.sockets.set number (socket, interest) }, sent)

def net : NetStack DiagnosticStack where
  start := start
  addRule := addRule
  input frame s := ({ s with inputs := s.inputs ++ [frame] }, s.style.emit frame)
  watch set s := (s, registerAll s.sockets set, EchoStack.idleWait)
  sense s w := ((s.sockets[w.descriptor.toNat]?).map fun p => p.1.events).getD .none
  complete set s :=
    let readiness := (List.range s.sockets.length).map set.readiness
    let (sockets, frames) := receiveAll s.sockets readiness
    ({ s with sockets, readiness }, frames)

end DiagnosticStack
end GuestNic
