import GuestNic.CommandLine.Arguments
import GuestNic.Text.Lines

/-!
# Help

The text that describes the options.
-/

namespace GuestNic.CommandLine

def Opt.description : Opt → String
  | .config => "JSON network preferences; flags below override its fields"
  | .ether => "Transport selector: `slirp`, `udp`, `tapN`, or a sheep_net device name"
  | .redir =>
    "NAT forwarding rule `<proto>:<host_port>:<guest_address>:<guest_port>` (repeatable)"
  | .udpTunnel => "Tunnel Ethernet over UDP"
  | .udpPort => ""
  | .nonet => ""
  | .attach =>
    "EtherTypes to attach a handler for (decimal or 0x-prefixed). Values up to 1500 all share " ++
      "the catch-all handler"
  | .probe => "Transmit one broadcast probe frame after opening"
  | .durationMs => "Stop after this many milliseconds; runs until killed otherwise"
  | .logLevel => "`tracing` filter directive"

/-- The value an option has when it is not given, as text. -/
def Opt.defaultText? : Opt → Option String
  | .attach => some (" ".intercalate (defaultTypes.map fun t => toString t.toNat))
  | .logLevel => some "info"
  | _ => none

/-- Remarks behind a description: the variable with its value, and the default. -/
def Opt.remarks (environment : String → Option String) (o : Opt) : List String :=
  (o.variableName?.map fun v => "[env: " ++ v ++ "=" ++ (environment v).getD "" ++ "]").toList ++
    (o.defaultText?.map fun text => "[default: " ++ text ++ "]").toList

/-- The column in which descriptions start. -/
def descriptionColumn : Nat := 35

/-- One entry: what is described, with its names marked, and the width at which it is shown. Further
lines of a description start in the same column. -/
def helpEntry (marked : String) (width : Nat) (description : String) : String :=
  let blanks := fun n => String.ofList (List.replicate n ' ')
  marked ++ blanks (descriptionColumn - width) ++
    Text.indented (blanks descriptionColumn) description ++ "\n"

def Opt.helpEntry (environment : String → Option String) (o : Opt) : String :=
  let parts := (o.description :: o.remarks environment).filter fun part => !part.isEmpty
  let value := match o.valueName? with
    | none => ""
    | some name => " <" ++ name ++ ">"
  CommandLine.helpEntry ("      " ++ Terminal.marked ("--" ++ o.name) ++ value)
    (6 + o.render.length) (" ".intercalate parts)

/-- The help text, with names marked for a terminal. -/
def helpText (environment : String → Option String) : String :=
  "Open the emulated Ethernet device against a logging guest\n\n" ++
    Terminal.marked "Usage:" ++ " " ++ Terminal.marked "b2-ether" ++ " [OPTIONS]\n\n" ++
    Terminal.marked "Options:" ++ "\n" ++
    String.join (Opt.all.map (Opt.helpEntry environment)) ++
    helpEntry ("  " ++ Terminal.marked "-h" ++ ", " ++ Terminal.marked "--help") 12 "Print help"

end GuestNic.CommandLine
