import GuestNic.Link.Basic

/-!
# Writing, whatever the host answers

A write hands some bytes to the host: the frame itself, or on a NAT pipe the record of the frame,
which is longer. The host answers with the number of bytes that it took. `Link.writeTo` is a write
to a host that may answer anything; the link's own write is the one to the host behind its port
(`Link.write_eq`).
-/

namespace GuestNic

/-- What a host makes of the bytes that it is handed at a port: the port afterwards, and the number
of bytes that it took. -/
abbrev HostAnswer := Bytes → Port → Port × Except Host.Fault Nat

namespace Port

/-- Who judges whether everything was taken. -/
def writer : Port → Host.Writer
  | .raw .. => .rawDevice
  | .tunnel _ => .tunnel
  | .pipe _ => .natPipe

/-- The bytes that are handed to the host for a frame. -/
def payload (frame : Bytes) : Port → Bytes
  | .raw .. => frame
  | .tunnel _ => frame
  | .pipe _ => Record.encode frame

/-- What the host behind the port makes of a frame. -/
def offer : HostAnswer := fun frame port =>
  match port with
  | .raw driver descriptor =>
    let (descriptor, r) := descriptor.write frame
    (.raw driver descriptor, r)
  | .tunnel t =>
    let (t, r) := t.send frame
    (.tunnel t, r)
  | .pipe p =>
    let (p, r) := p.send frame
    (.pipe p, r)

/-- A write succeeds when the host took everything that it was handed. -/
theorem write_eq (p : Port) (frame : Bytes) :
    p.write frame =
      ((offer frame p).1, whole p.writer (p.payload frame).length (offer frame p).2) := by
  cases p with
  | raw driver descriptor => rfl
  | tunnel t => rfl
  | pipe p => rfl

theorem whole_ok_iff {writer : Host.Writer} {length : Nat} {r : Except Host.Fault Nat} :
    whole writer length r = .ok () ↔ r = .ok length := by
  cases r with
  | error fault => simp [whole, Except.bind]
  | ok taken =>
    by_cases h : taken = length
    · simp [whole, Except.bind, h]
    · simp [whole, Except.bind, h]

/-- To take only a part is a fault. -/
theorem whole_of_ne {writer : Host.Writer} {taken length : Nat} (h : taken ≠ length) :
    whole writer length (.ok taken) = .error (.partialWrite writer taken length) := by
  simp only [whole, Except.bind, if_neg h]

end Port

/-- What a pipe is handed is a record, and the channel takes it whole or not at all. -/
theorem StackPipe.send_eq (p : StackPipe) (frame : Bytes) :
    p.send frame =
      ({ p with toStack := (p.toStack.send (Record.encode frame)).1 },
        (p.toStack.send (Record.encode frame)).2.map fun _ =>
          (Record.encode frame).length) := rfl

namespace Link

/-- Write one frame to a host that answers as it likes. -/
def writeTo (answer : HostAnswer) (l : Link) (frame : Bytes) : Link × Except Host.Fault Unit :=
  let (port, taken) := answer frame l.port
  match Port.whole l.port.writer (l.port.payload frame).length taken with
  | .ok () =>
    ({ port, traffic := { l.traffic with
        txFrames := l.traffic.txFrames + 1
        txBytes := l.traffic.txBytes + frame.length } }, .ok ())
  | .error fault =>
    ({ port, traffic := { l.traffic with txErrors := l.traffic.txErrors + 1 } }, .error fault)

/-- The link writes to the host behind its port. -/
theorem write_eq (l : Link) (frame : Bytes) : l.write frame = l.writeTo Port.offer frame := by
  simp only [write, writeTo, Port.write_eq]
  cases Port.whole l.port.writer (l.port.payload frame).length (Port.offer frame l.port).2 <;> rfl

end Link
end GuestNic
