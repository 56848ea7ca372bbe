import GuestNic.Forwarding.Rule
import GuestNic.Link.Choice

/-!
# Settings

The network preferences of a machine. A preference that is not given has its default.
-/

namespace GuestNic

/-- Network preferences. -/
structure Settings where
  /-- The name of the link; without one there is no network. -/
  link : Option String
  /-- Forwarding rules, as text. -/
  rules : List String
  /-- Use a tunnel whatever link is named. -/
  tunnel : Bool
  tunnelPort : UInt16
  /-- No network at all. -/
  disabled : Bool
deriving DecidableEq, Repr

namespace Settings

def default : Settings where
  link := none
  rules := []
  tunnel := false
  tunnelPort := LinkChoice.defaultPort
  disabled := false

/-- The link to open, if there is to be one. -/
def choice? (s : Settings) : Option LinkChoice :=
  if s.disabled then none
  else if s.tunnel then some (.tunnel s.tunnelPort)
  else
    s.link.map fun name =>
      match LinkChoice.parse name with
      | .tunnel _ => .tunnel s.tunnelPort
      | choice => choice

/-- The forwarding rules that can be read, and the failures of the others. -/
def forwarding (s : Settings) : List Forwarding.Rule × List Forwarding.Malformed :=
  Forwarding.parseAll s.rules

end Settings
end GuestNic
