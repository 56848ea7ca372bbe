import GuestNic.Link.Port

/-!
# Links

The one attachment to the host that a card has, with counters for its traffic. Reading and writing
each have exactly one effect on the counters.
-/

namespace GuestNic

/-- Counters of a link. Runts are frames shorter than a header; they are read and thrown away. The
counts are taken as below 2⁶⁴, where a 64-bit counter would wrap around. -/
structure Traffic where
  rxFrames : Nat := 0
  rxBytes : Nat := 0
  rxRunts : Nat := 0
  rxErrors : Nat := 0
  txFrames : Nat := 0
  txBytes : Nat := 0
  txErrors : Nat := 0
deriving DecidableEq, Repr

/-- A port with its counters. -/
structure Link where
  port : Port
  traffic : Traffic

namespace Link

def ofPort (port : Port) : Link := { port, traffic := {} }

def kind (l : Link) : PortKind := l.port.kind

/-- Look whether a frame can be read. -/
def wait (l : Link) : Link × Except Host.Fault Bool :=
  let (port, r) := l.port.wait
  ({ l with port }, r)

/-- What a read amounts to: its effect on the counters, the buffer afterwards and the answer.
`length` is the number of bytes that arrived in `buffer`. -/
def settleRead (traffic : Traffic) (buffer : FrameBuffer) :
    Except Host.Fault (Nat × Origin) →
      Traffic × FrameBuffer × Except Host.Fault (Option Origin)
  | .ok (length, source) =>
    if length < Frame.headerSize then
      ({ traffic with rxRunts := traffic.rxRunts + 1 }, buffer.clear, .ok none)
    else
      ({ traffic with rxFrames := traffic.rxFrames + 1, rxBytes := traffic.rxBytes + length },
        buffer, .ok (some source))
  | .error fault =>
    if fault.isTransient then (traffic, buffer, .ok none)
    else ({ traffic with rxErrors := traffic.rxErrors + 1 }, buffer, .error fault)

/-- Read one frame into `buffer`. There is none when nothing waits or what came is a runt. -/
def read (l : Link) (buffer : FrameBuffer) :
    Link × FrameBuffer × Except Host.Fault (Option Origin) :=
  let (port, r) := l.port.read Frame.maxSize
  let (buffer, filled) := buffer.fillWith Frame.maxSize fun _ => .ofBytes (r.map Prod.fst)
  let (traffic, buffer, answer) := settleRead l.traffic buffer <|
    filled.bind fun length => r.map fun (_, source) => (length, source)
  ({ port, traffic }, buffer, answer)

/-- Write one frame. -/
def write (l : Link) (frame : Bytes) : Link × Except Host.Fault Unit :=
  let (port, r) := l.port.write frame
  let traffic :=
    match r with
    | .ok () =>
      { l.traffic with
        txFrames := l.traffic.txFrames + 1
        txBytes := l.traffic.txBytes + frame.length }
    | .error _ => { l.traffic with txErrors := l.traffic.txErrors + 1 }
  ({ port, traffic }, r)

end Link
end GuestNic
