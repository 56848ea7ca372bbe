import GuestNic.Card.Open
import GuestNic.CommandLine.Filter
import GuestNic.Terminal.Guarded

/-!
# Log records

What the program tells about itself: a level, the part of the program that speaks, a message, and
named values behind it. Characters in the message that could steer a terminal are written by number.
-/

namespace GuestNic.CommandLine

structure LogRecord where
  verbosity : Verbosity
  target : String
  message : String
  values : List (String × String)
deriving DecidableEq, Repr

namespace LogRecord

def info (target message : String) (values : List (String × String)) : LogRecord :=
  ⟨.info, target, message, values⟩

def warn (target message : String) (values : List (String × String)) : LogRecord :=
  ⟨.warn, target, message, values⟩

def debug (target message : String) (values : List (String × String)) : LogRecord :=
  ⟨.debug, target, message, values⟩

def trace (target message : String) (values : List (String × String)) : LogRecord :=
  ⟨.trace, target, message, values⟩

/-- The fields of a record; the message is one. -/
def fields (r : LogRecord) : List String := "message" :: r.values.map Prod.fst

/-- Whether a filter shows a record. -/
def isShown (filter : List Directive) (r : LogRecord) : Bool :=
  shows filter r.target r.fields r.verbosity

/-- One line, unless the message has more. -/
def render (r : LogRecord) : String :=
  " ".intercalate ((r.verbosity.name ++ " " ++ r.target ++ ": " ++ Terminal.guarded r.message) ::
    r.values.map fun (key, value) => key ++ "=" ++ value)

def programTarget : String := "b2_ether"
def guestTarget : String := "b2_ether::guest"
def driverTarget : String := "b2_ether::driver"
def deviceTarget : String := "b2_ether::device"
def receptionTarget : String := "b2_ether::rx"
def sendingTarget : String := "b2_ether::tx"
def relayTarget : String := "b2_net_pump::pump"
def stackTarget : String := "b2_net_pump::loopback"
def linkTarget : String := "b2_net_backend::transport"

/-- An alert, which goes to the log. -/
def alert (text : String) : LogRecord := warn guestTarget text []

/-- What is logged for a notice. -/
def ofNotice : Notice → List LogRecord
  | .malformedRule e => [alert e.message]
  | .rule (.installed rule) =>
    [debug stackTarget "loopback stack accepted host forwarding rule" [("rule", rule.render)],
      info relayTarget "installed host forwarding rule" [("rule", rule.render)]]
  | .rule (.refused fault) => [warn relayTarget fault.message [], alert fault.message]
  | .tunnelBound port => [info linkTarget "opened UDP tunnel" [("port", toString port.toNat)]]
  | .addressUnknown fault =>
    [warn deviceTarget
      s!"couldn't read Ethernet address from network device: {fault.message}" []]
  | .opened address kind =>
    (if kind = .nat then [debug relayTarget "NAT pump started" []] else []) ++
      [info deviceTarget "Ethernet device open" [("mac", address.render), ("kind", kind.name)],
        debug receptionTarget "Ethernet reception started" []]
  | .failed fault => [alert fault.message]
  | .disabled => [info driverTarget "networking disabled" []]
  | .unconfigured => [info driverTarget "no Ethernet device configured" []]
  | .unavailable fault =>
    [warn driverTarget s!"Ethernet unavailable: {fault.message}" []]

/-- What is logged when a card is shut down. -/
def ofClosing (kind : PortKind) : List LogRecord :=
  (if kind = .nat then [debug relayTarget "NAT pump stopped" []] else []) ++
    [debug receptionTarget "Ethernet reception stopped" [],
      info deviceTarget "Ethernet device closed" []]

end LogRecord
end GuestNic.CommandLine
