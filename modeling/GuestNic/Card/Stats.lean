import GuestNic.Link.Basic
import GuestNic.Nat.Relay

/-!
# Statistics

The counters of a card, and the snapshot that joins them with those of its link and its relay.
-/

namespace GuestNic

/-- What a card counts itself. The counts are taken as below 2⁶⁴, where a 64-bit counter would wrap
around. -/
structure CardCounters where
  txPackets : Nat := 0
  /-- Packets that the host refused. -/
  txRefused : Nat := 0
  txTooLong : Nat := 0
  /-- Frames handed to the guest. -/
  rxPackets : Nat := 0
  /-- Frames for which there was no handler. -/
  rxDropped : Nat := 0
  interruptsRaised : Nat := 0
  interruptsServiced : Nat := 0
  /-- Service calls with nothing outstanding. -/
  interruptsSpurious : Nat := 0
  /-- Reception has ended because the host could no longer be polled. -/
  rxFailed : Bool := false
deriving DecidableEq, Repr

/-- All counters of a card at one moment. -/
structure CardStats where
  card : CardCounters
  link : Traffic
  /-- Present in NAT mode. -/
  relay : Option RelayCounters
deriving DecidableEq, Repr

namespace CardStats

/-- Put a comma behind the last line. -/
def withComma : List String → List String
  | [] => []
  | [line] => [line ++ ","]
  | line :: lines => line :: withComma lines

def indent (lines : List String) : List String := lines.map ("    " ++ ·)

/-- A field of a record, whose value may take several lines. -/
def field (key : String) : List String → List String
  | [] => []
  | line :: lines => indent (withComma ((key ++ ": " ++ line) :: lines))

/-- A record with its name and its fields. -/
def block (name : String) (fields : List (String × List String)) : List String :=
  [name ++ " \x7b"] ++ (fields.flatMap fun (key, value) => field key value) ++ ["\x7d"]

def trafficLines (t : Traffic) : List String :=
  block "TransportStats" [
    ("rx_frames", [toString t.rxFrames]), ("rx_bytes", [toString t.rxBytes]),
    ("rx_runts", [toString t.rxRunts]), ("rx_errors", [toString t.rxErrors]),
    ("tx_frames", [toString t.txFrames]), ("tx_bytes", [toString t.txBytes]),
    ("tx_errors", [toString t.txErrors])]

def relayLines : Option RelayCounters → List String
  | none => ["None"]
  | some r =>
    ["Some("] ++ indent (withComma (block "PumpStats" [
      ("frames_in", [toString r.framesIn]), ("frames_out", [toString r.framesOut]),
      ("frames_dropped", [toString r.framesDropped]),
      ("corrupt_records", [toString r.corruptRecords])])) ++ [")"]

/-- The snapshot as lines of text. -/
def render (s : CardStats) : List String :=
  block "EtherStats" [
    ("tx_packets", [toString s.card.txPackets]),
    ("tx_buffer_full", [toString s.card.txRefused]),
    ("tx_too_long", [toString s.card.txTooLong]),
    ("rx_packets", [toString s.card.rxPackets]),
    ("rx_dropped", [toString s.card.rxDropped]),
    ("interrupts_raised", [toString s.card.interruptsRaised]),
    ("interrupts_serviced", [toString s.card.interruptsServiced]),
    ("spurious_interrupts", [toString s.card.interruptsSpurious]),
    ("rx_failed", [toString s.card.rxFailed]),
    ("transport", trafficLines s.link),
    ("pump", relayLines s.relay)]

end CardStats
end GuestNic
