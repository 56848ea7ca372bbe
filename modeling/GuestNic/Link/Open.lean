import GuestNic.Host.Path
import GuestNic.Link.Basic
import GuestNic.Link.Choice

/-!
# Opening a link

What the host grants when a link is opened, and how opening can fail.
-/

namespace GuestNic

/-- Why a link could not be opened. -/
inductive LinkFault where
  | openDevice (path : String) (fault : Host.Fault)
  | nonBlocking (fault : Host.Fault)
  | bindTunnel (port : UInt16) (fault : Host.Fault)
  | pipe (fault : Host.Fault)
deriving DecidableEq, Repr

def LinkFault.message : LinkFault → String
  | .openDevice path fault => s!"cannot open network device {path}: {fault.message}"
  | .nonBlocking fault =>
    s!"cannot switch network descriptor to non-blocking I/O: {fault.message}"
  | .bindTunnel port fault =>
    s!"cannot bind UDP tunnel socket on port {port.toNat}: {fault.message}"
  | .pipe fault => s!"cannot create NAT pipe: {fault.message}"

/-- A host as seen by a card that opens its link. -/
structure HostAccess where
  openDevice : String → Except Host.Fault Host.Descriptor
  bindTunnel : UInt16 → Except Host.Fault Tunnel
  openPipe : Except Host.Fault StackPipe

/-- A host without network devices and with no way to the network. Where `isBusy`, the ports are
taken. -/
def HostAccess.bare (isBusy : Bool) : HostAccess where
  openDevice path := Host.openIn (fun _ => none) path (path.toList.drop LinkChoice.devices.length)
  bindTunnel port :=
    if isBusy then .error (.os .addressInUse) else .ok (.ofAddress port .unspecified false)
  openPipe := .ok (.ofCapacity Host.Channel.usualCapacity)

/-- What the host answers when an opening asks for what a host hardly ever refuses. -/
structure HostGrants where
  /-- To switch the descriptor of a link to non-blocking I/O. -/
  nonBlocking : Except Host.Fault Unit
  /-- To set up the channel that a relay reads from. -/
  relayInput : Except Host.Fault Unit
  relayThread : Except Host.Fault Unit
  receptionThread : Except Host.Fault Unit

/-- A host that refuses nothing of this. -/
def HostGrants.all : HostGrants where
  nonBlocking := .ok ()
  relayInput := .ok ()
  relayThread := .ok ()
  receptionThread := .ok ()

/-- Open the device file at `path`. -/
def HostAccess.rawPort (host : HostAccess) (driver : RawDriver) (path : String) :
    Except LinkFault Port :=
  match host.openDevice path with
  | .ok descriptor => .ok (.raw driver descriptor)
  | .error fault => .error (.openDevice path fault)

/-- Open the port that `choice` names. -/
def HostAccess.port (host : HostAccess) (choice : LinkChoice) : Except LinkFault Port :=
  match choice with
  | .sheepNet => host.rawPort .sheepNet ((choice.devicePath?).getD "")
  | .ethertap _ => host.rawPort .ethertap ((choice.devicePath?).getD "")
  | .tunnel port =>
    match host.bindTunnel port with
    | .ok t => .ok (.tunnel t)
    | .error fault => .error (.bindTunnel port fault)
  | .nat =>
    match host.openPipe with
    | .ok p => .ok (.pipe p)
    | .error fault => .error (.pipe fault)

/-- Open the link that `choice` names. -/
def Link.openAt (host : HostAccess) (choice : LinkChoice) (grants : HostGrants := .all) :
    Except LinkFault Link := do
  let port ← host.port choice
  grants.nonBlocking.mapError LinkFault.nonBlocking
  return .ofPort port

theorem Link.openAt_all (host : HostAccess) (choice : LinkChoice) :
    Link.openAt host choice = (host.port choice).map Link.ofPort := by
  unfold Link.openAt
  cases host.port choice <;> rfl

end GuestNic
