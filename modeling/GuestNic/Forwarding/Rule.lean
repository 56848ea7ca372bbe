import GuestNic.Forwarding.Port
import GuestNic.Net.Ipv4

/-!
# Forwarding rules

A rule sends connections to a port of the host on to a port of the guest. It is written
`protocol:host port:guest address:guest port`; an empty protocol is TCP and an empty guest address
is the one that the network stack hands to its client.
-/

namespace GuestNic.Forwarding

inductive Protocol where
  | tcp
  | udp
deriving DecidableEq, Repr

def Protocol.render : Protocol → String
  | .tcp => "tcp"
  | .udp => "udp"

/-- A port of the host and the place in the guest that it leads to. -/
structure Rule where
  protocol : Protocol
  hostPort : UInt16
  guestAddress : Ipv4
  guestPort : UInt16
deriving DecidableEq, Repr

/-- The parts of a rule behind the protocol. -/
inductive Part where
  | hostPort
  | guestAddress
  | guestPort
deriving DecidableEq, Repr

def Part.name : Part → String
  | .hostPort => "host port"
  | .guestAddress => "guest address"
  | .guestPort => "guest port"

/-- What is wrong with the text of a rule. -/
inductive Flaw where
  | missing (part : Part)
  | unknownProtocol (value : String)
  | invalidPort (part : Part) (value : String)
  | invalidAddress (value : String)
deriving DecidableEq, Repr

/-- A text that is no rule, with its first flaw. -/
structure Malformed where
  rule : String
  flaw : Flaw
deriving DecidableEq, Repr

def Flaw.message : Flaw → String
  | .missing part => s!"missing {part.name}"
  | .unknownProtocol value => s!"unknown protocol '{value}'"
  | .invalidPort part value => s!"{part.name} '{value}' is not a port in 1..=65535"
  | .invalidAddress value => s!"bad guest address '{value}'"

def Malformed.message (e : Malformed) : String :=
  s!"invalid host forwarding rule '{e.rule}': {e.flaw.message}"

/-! ## Writing -/

def Rule.render (r : Rule) : String :=
  s!"{r.protocol.render}:{r.hostPort.toNat}:{r.guestAddress.render}:{r.guestPort.toNat}"

instance : ToString Rule := ⟨Rule.render⟩

/-! ## Reading -/

/-- Where a rule leads that names no guest address. -/
def defaultGuestAddress : Ipv4 := ⟨10, 0, 2, 15⟩

def protocol? (cs : List Char) : Option Protocol :=
  if cs = [] ∨ cs = "tcp".toList then some .tcp
  else if cs = "udp".toList then some .udp
  else none

def guestAddress? (cs : List Char) : Option Ipv4 :=
  if cs.isEmpty then some defaultGuestAddress else Ipv4.ofChars? cs

/-- A part's text, with the flaw that names it if it has no value. -/
def required {α : Type} (value : Option α) (flaw : Flaw) : Except Flaw α :=
  match value with
  | some a => .ok a
  | none => .error flaw

/-- Read a rule from left to right, up to the first flaw. -/
def Rule.ofChars (cs : List Char) : Except Flaw Rule := do
  let first := ((Text.cut? ':' cs).map Prod.fst).getD cs
  let protocol ← required (protocol? first) (.unknownProtocol (String.ofList first))
  let (_, rest) ← required (Text.cut? ':' cs) (.missing .hostPort)
  let (host, rest) ← required (Text.cut? ':' rest) (.missing .guestAddress)
  let hostPort ← required (port? host) (.invalidPort .hostPort (String.ofList host))
  let (address, guest) ← required (Text.cut? ':' rest) (.missing .guestPort)
  let guestAddress ← required (guestAddress? address) (.invalidAddress (String.ofList address))
  let guestPort ← required (port? guest) (.invalidPort .guestPort (String.ofList guest))
  return { protocol, hostPort, guestAddress, guestPort }

/-- Read a rule. -/
def Rule.parse (text : String) : Except Malformed Rule :=
  (Rule.ofChars text.toList).mapError fun flaw => ⟨text, flaw⟩

/-- Read every text, the rules and the failures each in their order. -/
def parseAll (texts : List String) : List Rule × List Malformed :=
  (texts.filterMap fun t => (Rule.parse t).toOption,
   texts.filterMap fun t =>
     match Rule.parse t with
     | .ok _ => none
     | .error e => some e)

end GuestNic.Forwarding
