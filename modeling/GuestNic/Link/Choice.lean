import GuestNic.Link.Port
import GuestNic.Text.Blank

/-!
# Link choices

Which host endpoint the settings ask for, read from a name: `slirp` is the NAT pipe, `udp` the
tunnel, a name that starts with `tap` or `ethertap` a device of that name, and anything else the
default device.
-/

namespace GuestNic

/-- A host endpoint to open. -/
inductive LinkChoice where
  | sheepNet
  | ethertap (name : String)
  | tunnel (port : UInt16)
  | nat
deriving DecidableEq, Repr

namespace LinkChoice

/-- The tunnel port where none is given. -/
def defaultPort : UInt16 := 6066

/-- Read a name, white space around it left out. -/
def parse (name : String) : LinkChoice :=
  let cs := Text.trim name.toList
  if cs = "slirp".toList then .nat
  else if cs = "udp".toList then .tunnel defaultPort
  else if "tap".toList.isPrefixOf cs || "ethertap".toList.isPrefixOf cs then
    .ethertap (String.ofList cs)
  else .sheepNet

def kind : LinkChoice → PortKind
  | .sheepNet => .raw
  | .ethertap _ => .raw
  | .tunnel _ => .tunnel
  | .nat => .nat

/-- The folder of the device files. -/
def devices : String := "/dev/"

/-- The device file of a raw choice. -/
def devicePath? : LinkChoice → Option String
  | .sheepNet => some (devices ++ "sheep_net")
  | .ethertap name => some (devices ++ name)
  | .tunnel _ => none
  | .nat => none

end LinkChoice
end GuestNic
