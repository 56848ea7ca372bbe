import GuestNic.Host.Poll

/-!
# Faults of the host

What can go wrong when the card reads from, writes to or waits for its host, with the text that
reports it.
-/

namespace GuestNic.Host

/-- A refusal by the operating system. -/
inductive OsFault where
  | noSuchFile
  | interrupted
  | badDescriptor
  | wouldBlock
  | notDirectory
  | isDirectory
  | invalidArgument
  | unsupportedRequest
  | storageFull
  | nameTooLong
  | messageTooLong
  | addressInUse
  | networkUnreachable
  | notConnected
  | connectionRefused
deriving DecidableEq, Repr

/-- The number that the system gives a refusal. -/
def OsFault.number : OsFault → Nat
  | .noSuchFile => 2
  | .interrupted => 4
  | .badDescriptor => 9
  | .wouldBlock => 11
  | .notDirectory => 20
  | .isDirectory => 21
  | .invalidArgument => 22
  | .unsupportedRequest => 25
  | .storageFull => 28
  | .nameTooLong => 36
  | .messageTooLong => 90
  | .addressInUse => 98
  | .networkUnreachable => 101
  | .notConnected => 107
  | .connectionRefused => 111

def OsFault.text : OsFault → String
  | .noSuchFile => "No such file or directory"
  | .interrupted => "Interrupted system call"
  | .badDescriptor => "Bad file descriptor"
  | .wouldBlock => "Resource temporarily unavailable"
  | .notDirectory => "Not a directory"
  | .isDirectory => "Is a directory"
  | .invalidArgument => "Invalid argument"
  | .unsupportedRequest => "Inappropriate ioctl for device"
  | .storageFull => "No space left on device"
  | .nameTooLong => "File name too long"
  | .messageTooLong => "Message too long"
  | .addressInUse => "Address already in use"
  | .networkUnreachable => "Network is unreachable"
  | .notConnected => "Transport endpoint is not connected"
  | .connectionRefused => "Connection refused"

/-- Which writer found that the host took only a part. -/
inductive Writer where
  | rawDevice
  | natPipe
  | tunnel
deriving DecidableEq, Repr

/-- Why an operation on the host failed. -/
inductive Fault where
  | os (fault : OsFault)
  | partialWrite (writer : Writer) (taken length : Nat)
  | hungUp (events : PollEvents)
  | invalidText
  /-- A path holds a null character. -/
  | nullInPath
  | described (text : String)
deriving DecidableEq, Repr

def Fault.message : Fault → String
  | .os fault => s!"{fault.text} (os error {fault.number})"
  | .partialWrite .rawDevice taken length =>
    s!"short write to network device ({taken} of {length} bytes)"
  | .partialWrite .natPipe taken length => s!"NAT input channel took {taken} of {length} bytes"
  | .partialWrite .tunnel taken length => s!"short UDP tunnel send ({taken} of {length} bytes)"
  | .hungUp events => "descriptor reported poll events 0x" ++ Text.Hex.render events.bits
  | .invalidText => "stream did not contain valid UTF-8"
  | .nullInPath => "file name contained an unexpected NUL byte"
  | .described text => text

/-- Whether a fault only means that nothing can be had right now. -/
def Fault.isTransient : Fault → Bool
  | .os .wouldBlock => true
  | .os .interrupted => true
  | _ => false

end GuestNic.Host
