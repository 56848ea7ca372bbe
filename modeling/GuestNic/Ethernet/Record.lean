import GuestNic.Ethernet.Buffer

/-!
# Records

On the channel to the network stack a frame travels as a record: its length as four bytes, lowest
first, then the frame. One record is one datagram.
-/

namespace GuestNic.Record

/-- The length field in front of the frame. -/
def headerSize : Nat := 4

/-- Room for the longest valid record and one byte more, so that a longer datagram cut to this size
is still not a valid record. -/
def maxSize : Nat := headerSize + Frame.maxSize + 1

/-- Why a byte string is not a record. -/
inductive Malformed where
  | tooLarge (len max : Nat)
  | lengthMismatch (declared actual : Nat)
  | truncated (len : Nat)
deriving DecidableEq, Repr

def Malformed.message : Malformed → String
  | .tooLarge len max => s!"record length {len} exceeds the {max} byte frame limit"
  | .lengthMismatch declared actual =>
    s!"record declares {declared} frame bytes but carries {actual}"
  | .truncated len => s!"record of {len} bytes is shorter than its header"

/-- The record of a frame. A length that does not fit into its field is written as the largest that
does. -/
def encode (frame : Bytes) : Bytes :=
  Bytes.ofWord32LE (min frame.length (UInt32.size - 1)).toUInt32 ++ frame

/-- Split a byte string into the declared length and the body. -/
def split? : Bytes → Option (Nat × Bytes)
  | a :: b :: c :: d :: body => some (Bytes.toNatLE [a, b, c, d], body)
  | _ => none

/-- Read the frame of one record into `buffer`, which is empty after a failure. -/
def decode (record : Bytes) (buffer : FrameBuffer) : FrameBuffer × Except Malformed Unit :=
  let cleared := buffer.clear
  match split? record with
  | none => (cleared, .error (.truncated record.length))
  | some (len, body) =>
    if Frame.maxSize < len then (cleared, .error (.tooLarge len Frame.maxSize))
    else if body.length ≠ len then (cleared, .error (.lengthMismatch len body.length))
    else
      match cleared.append body with
      | .ok filled => (filled, .ok ())
      | .error e => (cleared, .error (.tooLarge e.len e.max))

end GuestNic.Record
