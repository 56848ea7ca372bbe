import GuestNic.CommandLine.Integer
import GuestNic.Settings.Basic
import GuestNic.Terminal.Plain
import GuestNic.Text.Quoted

/-!
# Arguments

The options of the program and how they are read. The value of an option is its next argument or
follows an equals sign. A value that stands apart is looked at only when the next known option
comes, so an unknown argument is reported before a bad value in front of it.
-/

namespace GuestNic.CommandLine

/-- The options. -/
inductive Opt where
  | config
  | ether
  | redir
  | udpTunnel
  | udpPort
  | nonet
  | attach
  | probe
  | durationMs
  | logLevel
deriving DecidableEq, Repr

namespace Opt

def all : List Opt :=
  [.config, .ether, .redir, .udpTunnel, .udpPort, .nonet, .attach, .probe, .durationMs, .logLevel]

def name : Opt → String
  | .config => "config"
  | .ether => "ether"
  | .redir => "redir"
  | .udpTunnel => "udp-tunnel"
  | .udpPort => "udp-port"
  | .nonet => "nonet"
  | .attach => "attach"
  | .probe => "probe"
  | .durationMs => "duration-ms"
  | .logLevel => "log-level"

/-- What the value of an option is called; flags have none. -/
def valueName? : Opt → Option String
  | .config => some "CONFIG"
  | .ether => some "ETHER"
  | .redir => some "REDIR"
  | .udpTunnel => none
  | .udpPort => some "UDP_PORT"
  | .nonet => none
  | .attach => some "ATTACH"
  | .probe => none
  | .durationMs => some "DURATION_MS"
  | .logLevel => some "LOG_LEVEL"

def takesValue (o : Opt) : Bool := o.valueName?.isSome

/-- Whether an option may be given more than once. -/
def isRepeatable : Opt → Bool
  | .redir => true
  | .attach => true
  | _ => false

/-- The environment variable that stands in for an option. -/
def variableName? : Opt → Option String
  | .config => some "B2_ETHER_CONFIG"
  | .ether => some "B2_ETHER_DEVICE"
  | .logLevel => some "B2_ETHER_LOG"
  | _ => none

/-- The option as messages show it. -/
def render (o : Opt) : String :=
  match o.valueName? with
  | none => "--" ++ o.name
  | some value => "--" ++ o.name ++ " <" ++ value ++ ">"

def ofName? (name : String) : Option Opt := all.find? fun o => o.name == name

end Opt

/-! ## Values -/

/-- What is wrong with the arguments. -/
inductive UsageFault where
  | unexpected (argument : String)
  | valueMissing (opt : Opt)
  | repeated (opt : Opt)
  | unneededValue (flag : String) (value : String)
  | invalidValue (opt : Opt) (value : String) (reason : String)
deriving DecidableEq, Repr

/-- The message, with options and values marked for a terminal. -/
def UsageFault.message (e : UsageFault) : String :=
  let quoted := fun s => "'" ++ Terminal.marked s ++ "'"
  match e with
  | .unexpected argument => "unexpected argument " ++ quoted argument ++ " found"
  | .valueMissing opt =>
    "a value is required for " ++ quoted opt.render ++ " but none was supplied"
  | .repeated opt => "the argument " ++ quoted opt.render ++ " cannot be used multiple times"
  | .unneededValue flag value =>
    "unexpected value " ++ quoted value ++ " for " ++ quoted flag ++
      " found; no more were expected"
  | .invalidValue opt value reason =>
    "invalid value " ++ quoted value ++ " for " ++ quoted opt.render ++ ": " ++ reason

/-- The options given so far. -/
structure Given where
  seen : List Opt := []
  config : Option String := none
  ether : Option String := none
  redir : List String := []
  udpTunnel : Bool := false
  udpPort : Option UInt16 := none
  nonet : Bool := false
  attach : List UInt16 := []
  probe : Bool := false
  durationMs : Option Nat := none
  logLevel : Option String := none

/-- Read a protocol type: decimal, or hexadecimal behind `0x`. -/
def protocolType (text : String) : Except String UInt16 :=
  let read :=
    match text.toList with
    | '0' :: 'x' :: cs => readUnsigned 16 65535 cs
    | '0' :: 'X' :: cs => readUnsigned 16 65535 cs
    | cs => readUnsigned 10 65535 cs
  match read with
  | .ok n => .ok n.toUInt16
  | .error e => .error s!"invalid EtherType {Text.Quoted.encode text}: {e.message}"

/-- Read a port. -/
def portNumber (text : String) : Except String UInt16 :=
  match readSigned text.toList with
  | .ok n =>
    if 0 ≤ n ∧ n ≤ 65535 then .ok n.toNat.toUInt16
    else .error s!"{n} is not in 0..=65535"
  | .error e => .error e.message

def milliseconds (text : String) : Except String Nat :=
  (readUnsigned 10 (UInt64.size - 1) text.toList).mapError IntegerFault.message

/-- Enter the value of an option. -/
def Given.enter (g : Given) (opt : Opt) (value : String) : Except UsageFault Given :=
  let invalid := UsageFault.invalidValue opt value
  match opt with
  | .config =>
    if value.isEmpty then .error (.valueMissing .config) else .ok { g with config := some value }
  | .ether => .ok { g with ether := some value }
  | .redir => .ok { g with redir := g.redir ++ [value] }
  | .udpTunnel => .ok { g with udpTunnel := true }
  | .udpPort =>
    ((portNumber value).mapError invalid).map fun port => { g with udpPort := some port }
  | .nonet => .ok { g with nonet := true }
  | .attach =>
    ((protocolType value).mapError invalid).map fun t => { g with attach := g.attach ++ [t] }
  | .probe => .ok { g with probe := true }
  | .durationMs =>
    ((milliseconds value).mapError invalid).map fun ms => { g with durationMs := some ms }
  | .logLevel => .ok { g with logLevel := some value }

/-- Take an option with its value, or a flag. -/
def Given.take (g : Given) (opt : Opt) (value : Option String) : Except UsageFault Given :=
  if opt.takesValue && value.isNone then .error (.valueMissing opt)
  else if g.seen.contains opt && !opt.isRepeatable then .error (.repeated opt)
  else Given.enter { g with seen := opt :: g.seen } opt (value.getD "")

/-! ## Reading -/

/-- Where reading stands: the options given, and the last one if it has not been taken yet. -/
structure Reading where
  given : Given
  pending : Option (Opt × Option String)

/-- Take the pending option. -/
def Reading.resolve (r : Reading) : Except UsageFault Given :=
  match r.pending with
  | none => .ok r.given
  | some (opt, value) => r.given.take opt value

/-- The arguments ask for the help text. -/
inductive Request where
  | help
  | run (given : Given)

/-- Split a long argument at its equals sign. -/
def splitLong (cs : List Char) : String × Option String :=
  match Text.cut? '=' cs with
  | none => (String.ofList cs, none)
  | some (name, value) => (String.ofList name, some (String.ofList value))

/-- Read a long option, given without its dashes; `none` asks for help. -/
def Reading.long (r : Reading) (cs : List Char) : Except UsageFault (Option Reading) :=
  let (name, value) := splitLong cs
  match Opt.ofName? name, value with
  | none, none =>
    if name = "help" then r.resolve.map fun _ => none else .error (.unexpected ("--" ++ name))
  | none, some v =>
    .error (if name = "help" then .unneededValue "--help" v else .unexpected ("--" ++ name))
  | some opt, none =>
    r.resolve.bind fun given =>
      if opt.takesValue then .ok (some ⟨given, some (opt, none)⟩)
      else (given.take opt none).map fun given => some ⟨given, none⟩
  | some opt, some v =>
    if opt.takesValue then
      r.resolve.bind fun given => (given.take opt (some v)).map fun given => some ⟨given, none⟩
    else .error (.unneededValue opt.render v)

/-- Read the arguments from left to right. Behind a lone `--` nothing is expected. -/
def Reading.readAll (r : Reading) : List String → Except UsageFault Request
  | [] => r.resolve.map .run
  | argument :: rest =>
    match argument.toList with
    | ['-', '-'] =>
      match rest with
      | [] => r.resolve.map .run
      | next :: _ => .error (.unexpected next)
    | '-' :: '-' :: cs =>
      match r.long cs with
      | .error e => .error e
      | .ok none => .ok .help
      | .ok (some r) => readAll r rest
    | '-' :: c :: _ =>
      if c = 'h' then r.resolve.map fun _ => .help
      else .error (.unexpected (String.ofList ['-', c]))
    | _ =>
      match r.pending with
      | some (opt, none) => readAll ⟨r.given, some (opt, some argument)⟩ rest
      | _ => .error (.unexpected argument)

/-- Options that were not given take their values from the environment. -/
def Given.withVariables (g : Given) (environment : String → Option String) :
    Except UsageFault Given :=
  Opt.all.foldlM
    (fun g opt =>
      match opt.variableName?.bind environment with
      | some value => if g.seen.contains opt then .ok g else g.take opt (some value)
      | none => .ok g)
    g

/-- Read arguments and environment. -/
def readArguments (environment : String → Option String) (arguments : List String) :
    Except UsageFault Request :=
  match Reading.readAll ⟨{}, none⟩ arguments with
  | .error e => .error e
  | .ok .help => .ok .help
  | .ok (.run given) => (given.withVariables environment).map .run

/-! ## Settings -/

/-- The protocol type of probe frames, set aside for local experiments. -/
def probeType : UInt16 := 0x88b5

/-- The protocol types that get a handler unless others are named. -/
def defaultTypes : List UInt16 := [0x0800, 0x0806, 0x86dd, probeType, 0]

def Given.types (g : Given) : List UInt16 :=
  if g.seen.contains .attach then g.attach else defaultTypes

/-- The settings with the options put over them. -/
def Given.override (g : Given) (s : Settings) : Settings where
  link := g.ether.or s.link
  rules := if g.redir.isEmpty then s.rules else g.redir
  tunnel := s.tunnel || g.udpTunnel
  tunnelPort := g.udpPort.getD s.tunnelPort
  disabled := s.disabled || g.nonet

end GuestNic.CommandLine
