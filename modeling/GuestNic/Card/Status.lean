import GuestNic.Guest.Handlers
import GuestNic.Host.Fault

/-!
# Failures of driver calls

How the calls of the guest's driver fail, and the status code that the guest sees for each failure.
-/

namespace GuestNic

/-- Why a packet was not sent. -/
inductive TransmitFault where
  | tooLong (len max : Nat)
  | host (fault : Host.Fault)
  | closed
deriving DecidableEq, Repr

/-- The multicast filter was not changed. -/
structure MulticastFault where
  fault : Host.Fault
deriving DecidableEq, Repr

def TransmitFault.message : TransmitFault → String
  | .tooLong len max => s!"packet of {len} bytes exceeds the {max} byte frame limit"
  | .host fault => s!"transmit failed: {fault.message}"
  | .closed => "network device is closed"

def MulticastFault.message (e : MulticastFault) : String :=
  s!"cannot update multicast filter: {e.fault.message}"

/-- The status code of a call; zero is success. -/
abbrev Status := Int

def Status.ok : Status := 0

def HandlerFault.status (_ : HandlerFault) : Status := -94

def TransmitFault.status : TransmitFault → Status
  | .tooLong .. => -92
  | .host _ => -95
  | .closed => -95

def MulticastFault.status (_ : MulticastFault) : Status := -91

/-- The status of a call that may have failed. -/
def statusOf {ε α : Type} (status : ε → Status) : Except ε α → Status
  | .ok _ => .ok
  | .error e => status e

end GuestNic
