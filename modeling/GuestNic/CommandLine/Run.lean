import GuestNic.Card.Reception
import GuestNic.Card.Slot
import GuestNic.CommandLine.Help
import GuestNic.CommandLine.Log
import GuestNic.Nat.Echo
import GuestNic.Settings.Load
import GuestNic.Text.Lines

/-!
# Running the program

The program opens a card with an echo stack against a guest that only logs what it is given: it
attaches handlers, may send one probe frame, services interrupts for the time it is given, and
prints the statistics of the card.
-/

namespace GuestNic.CommandLine

/-- What the program finds around it. -/
structure Surroundings where
  environment : String → Option String
  file : String → FileContent
  host : HostAccess

/-- What a run of the program comes to. -/
structure Outcome where
  exit : Nat
  stdout : String
  stderr : String
  /-- How long interrupts are waited for; `none` is until the program is stopped. -/
  duration : Option Nat

namespace Outcome

/-- Texts with a line feed behind each. -/
def joined (texts : List String) : String := String.join (texts.map (· ++ "\n"))

def printing (texts : List String) : Outcome := ⟨0, joined texts, "", some 0⟩

/-- The text is printed without the marks for a terminal. -/
def help (text : String) : Outcome := ⟨0, Terminal.plain text, "", some 0⟩

/-- The arguments were wrong. -/
def usage (fault : UsageFault) : Outcome :=
  let text := joined [Terminal.marked "error:" ++ " " ++ fault.message, "",
    Terminal.marked "Usage:" ++ " " ++ Terminal.marked "b2-ether" ++ " [OPTIONS]", "",
    "For more information, try '" ++ Terminal.marked "--help" ++ "'."]
  ⟨2, "", Terminal.plain text, some 0⟩

/-- A message with the causes behind it, which are numbered if there are several. The lines of a
cause stand under its first. -/
def failure (message : String) (causes : List String) : Outcome :=
  let texts :=
    match causes with
    | [cause] => ["    " ++ Text.indented "    " cause]
    | causes => (causes.zip (List.range causes.length)).map fun (cause, n) =>
      "    " ++ toString n ++ ": " ++ Text.indented "       " cause
  ⟨1, "", joined (["Error: " ++ message, "", "Caused by:"] ++ texts), some 0⟩

end Outcome

/-! ## The guest -/

/-- Where the guest wants its frames. -/
def layout : ReceiveLayout :=
  { packetBuffer := 0x1000, headerArea := 0x2000, readRoutine := 0x3000 }

/-- Where the guest keeps the probe frame. -/
def probeAddress : UInt32 := 0x8000

/-- The handler for a protocol type; its address only shows in the log. -/
def handlerFor (type : UInt16) : Routine := ⟨type.toUInt32 ||| 0x10000⟩

/-- A broadcast frame of 60 bytes. -/
def probeFrame (source : HardwareAddress) : Bytes :=
  HardwareAddress.broadcast.octets ++ source.octets ++ Bytes.ofWord16 probeType ++
    List.replicate 46 0x42

/-- The guest with its card, and the log so far. -/
structure Session where
  slot : Slot EchoStack
  memory : GuestMemory
  log : List LogRecord

namespace Session

def note (s : Session) (record : LogRecord) : Session := { s with log := s.log ++ [record] }

/-- Bytes with colons between them. -/
def colonSeparated (bytes : Bytes) : String := ":".intercalate (bytes.map Text.Hex.byte)

/-- The guest's part in an event: writes change its memory, and what it is given is logged. -/
def observe (s : Session) (event : CardEvent) : Session :=
  let s := { s with memory := event.applyTo s.memory }
  match event with
  | .enter routine registers =>
    let header := s.memory.read layout.headerArea Frame.headerSize
    let length := registers.d1.toNat + Frame.headerSize
    let s := s.note (.trace LogRecord.deviceTarget "calling protocol handler" [
      ("ether_type", toString registers.d0.toNat), ("len", toString length),
      ("handler", toString routine.entry.toNat)])
    s.note (.info LogRecord.programTarget "frame delivered" [
      ("handler", "0x" ++ Text.Hex.render routine.entry.toNat),
      ("ether_type", "0x" ++ Text.Hex.padded 4 registers.d0.toNat),
      ("len", toString length),
      ("dst", colonSeparated (header.take 6)),
      ("src", colonSeparated ((header.drop 6).take 6))])
  | .tunnelFrame frame peer =>
    s.note (.info LogRecord.programTarget "tunnel frame delivered" [
      ("len", toString frame.length), ("from", peer.render)])
  | .alert text => s.note (.alert text)
  | _ => s

/-- What is logged for a frame without a handler. The guest is sent nothing but its own probes. -/
def dropped : LogRecord :=
  .trace LogRecord.receptionTarget "no protocol handler, dropping frame" [
    ("ether_type", toString probeType.toNat)]

/-- Let the card go on by itself. -/
def settle (s : Session) : Session :=
  match s.slot.card with
  | none => s
  | some c =>
    let (after, events) := c.settle EchoStack.net
    let drops := after.counters.rxDropped - c.counters.rxDropped
    let log := s.log ++ List.replicate drops dropped
    events.foldl observe { s with slot := .ofCard after, log }

def attach (s : Session) (type : UInt16) : Session :=
  let (slot, status) := s.slot.attach type (handlerFor type)
  let s := { s with slot }
  if status = Status.ok then
    s.note (.debug LogRecord.deviceTarget "attached protocol handler" [
      ("ether_type", toString type.toNat), ("handler", toString (handlerFor type).entry.toNat)])
  else
    s.note (.warn LogRecord.programTarget "attach failed" [
      ("ether_type", toString type.toNat), ("code", toString status)])

/-- Send the probe frame. -/
def probe (s : Session) : Session :=
  let frame := probeFrame s.slot.address
  let length := ("len", toString frame.length)
  let memory := s.memory.write probeAddress frame
  let s := { s with memory }
  match s.slot.card with
  | none => s.note (.info LogRecord.programTarget "probe sent" [length])
  | some c =>
    let (c, events, result) := c.transmit memory (.linear probeAddress frame.length)
    let s := events.foldl observe { s with slot := .ofCard c }
    match result with
    | .ok () => s.note (.info LogRecord.programTarget "probe sent" [length])
    | .error fault =>
      let s := match fault with
        | .host fault =>
          s.note (.debug LogRecord.sendingTarget s!"couldn't transmit packet: {fault.message}"
            [length])
        | _ => s
      s.note (.warn LogRecord.programTarget "probe transmit failed" [
        ("code", toString (TransmitFault.status fault))])

def isPending (s : Session) : Bool := (s.slot.card.map fun c => c.doorbell.isPending).getD false

/-- Service interrupts, at most `n`. -/
def serve : Nat → Session → Session
  | 0, s => s
  | n + 1, s =>
    if s.isPending then
      let (slot, events) := s.slot.service
      serve n (events.foldl observe { s with slot }).settle
    else s

/-- A bound on the interrupts that can come without anything being sent. -/
def expected (s : Session) : Nat :=
  (s.slot.card.map fun c => c.link.port.backlog + 1).getD 0

end Session

/-! ## The program -/

/-- Load the settings that the options ask for. -/
def loadSettings (around : Surroundings) (given : Given) : Except LoadFault Settings :=
  let loaded : Except LoadFault Settings :=
    match given.config with
    | none => .ok Settings.default
    | some path => Settings.load path (around.file path)
  loaded.map given.override

/-- Run with settings; what is printed. -/
def runWith (around : Surroundings) (given : Given) (settings : Settings)
    (filter : List Directive) : List String :=
  let shown := fun records =>
    (List.filter (LogRecord.isShown filter) records).map LogRecord.render
  let opening := Slot.ofSettings EchoStack.net settings
    { host := around.host, layout, stack := some .empty }
  let s : Session := ⟨opening.result, .zeros, opening.notices.flatMap LogRecord.ofNotice⟩
  match s.slot.card with
  | none =>
    let s := s.note (.info LogRecord.programTarget "Ethernet device not open; nothing to do" [])
    shown s.log
  | some c =>
    let s := given.types.foldl Session.attach s
    let s := if given.probe then s.probe else s
    let s := if given.durationMs = some 0 then s else
      let s := s.settle
      Session.serve s.expected s
    let stats :=
      match given.durationMs, s.slot.stats with
      | some _, some stats => stats.render
      | _, _ => []
    let closing := if given.durationMs.isSome then LogRecord.ofClosing c.kind else []
    shown s.log ++ stats ++ shown closing

/-- Run the program. -/
def run (around : Surroundings) (arguments : List String) : Outcome :=
  match readArguments around.environment arguments with
  | .error fault => .usage fault
  | .ok .help => .help (helpText around.environment)
  | .ok (.run given) =>
    let level := given.logLevel.getD "info"
    match readFilter level with
    | .error fault =>
      .failure ("invalid --log-level " ++ Text.Quoted.encode level) fault.messages
    | .ok filter =>
      match loadSettings around given with
      | .error fault => .failure "failed to load network config" [fault.message, fault.cause]
      | .ok settings =>
        { Outcome.printing (runWith around given settings filter) with
          duration := given.durationMs }

end GuestNic.CommandLine
