import GuestNic.Bytes
import GuestNic.Card.Basic
import GuestNic.Card.Doorbell
import GuestNic.Card.Event
import GuestNic.Card.Open
import GuestNic.Card.Reception
import GuestNic.Card.Slot
import GuestNic.Card.Stats
import GuestNic.Card.Status
import GuestNic.Card.Waiters
import GuestNic.CommandLine.Arguments
import GuestNic.CommandLine.Filter
import GuestNic.CommandLine.Help
import GuestNic.CommandLine.Integer
import GuestNic.CommandLine.Log
import GuestNic.CommandLine.Run
import GuestNic.Decimal.Layout
import GuestNic.Decimal.Shortest
import GuestNic.Ethernet.Address
import GuestNic.Ethernet.Buffer
import GuestNic.Ethernet.Frame
import GuestNic.Ethernet.Record
import GuestNic.Forwarding.Port
import GuestNic.Forwarding.Rule
import GuestNic.Guest.Handlers
import GuestNic.Guest.Memory
import GuestNic.Guest.Packet
import GuestNic.Guest.Registers
import GuestNic.Host.Channel
import GuestNic.Host.Descriptor
import GuestNic.Host.Fault
import GuestNic.Host.PipeSignal
import GuestNic.Host.Poll
import GuestNic.Json.Fault
import GuestNic.Json.Number
import GuestNic.Json.Text
import GuestNic.Link.Basic
import GuestNic.Link.Choice
import GuestNic.Link.Open
import GuestNic.Link.Pipe
import GuestNic.Link.Port
import GuestNic.Link.Tunnel
import GuestNic.Main
import GuestNic.Nat.Diagnostic
import GuestNic.Nat.Echo
import GuestNic.Nat.Relay
import GuestNic.Nat.Stack
import GuestNic.Nat.Watch
import GuestNic.Net.Ipv4
import GuestNic.Net.Ipv6
import GuestNic.Net.Peer
import GuestNic.Proofs.Card.Attachment
import GuestNic.Proofs.Card.Bypass
import GuestNic.Proofs.Card.Counters
import GuestNic.Proofs.Card.Crowd
import GuestNic.Proofs.Card.Delivery
import GuestNic.Proofs.Card.Doorbell
import GuestNic.Proofs.Card.Driver
import GuestNic.Proofs.Card.Growth
import GuestNic.Proofs.Card.Handlers
import GuestNic.Proofs.Card.History
import GuestNic.Proofs.Card.Life
import GuestNic.Proofs.Card.Opening
import GuestNic.Proofs.Card.Outcome
import GuestNic.Proofs.Card.Quiescence
import GuestNic.Proofs.Card.Receipt
import GuestNic.Proofs.Card.Reception
import GuestNic.Proofs.Card.Refusal
import GuestNic.Proofs.Card.SendingHalf
import GuestNic.Proofs.Card.Submission
import GuestNic.Proofs.Card.TransmitAccounts
import GuestNic.Proofs.Card.Tunnel
import GuestNic.Proofs.Card.TwoWays
import GuestNic.Proofs.Card.Waiters
import GuestNic.Proofs.Ethernet.Buffer
import GuestNic.Proofs.Ethernet.Codec
import GuestNic.Proofs.Ethernet.Edits
import GuestNic.Proofs.Ethernet.Record
import GuestNic.Proofs.Forwarding.Grammar
import GuestNic.Proofs.Forwarding.Long
import GuestNic.Proofs.Forwarding.Port
import GuestNic.Proofs.Forwarding.RoundTrip
import GuestNic.Proofs.Forwarding.Strtol
import GuestNic.Proofs.Guest.Assembly
import GuestNic.Proofs.Guest.Entry
import GuestNic.Proofs.Guest.Handlers
import GuestNic.Proofs.Guest.Memory
import GuestNic.Proofs.Guest.Pieces
import GuestNic.Proofs.Guest.Walk
import GuestNic.Proofs.Guest.WriteList
import GuestNic.Proofs.Json.Grammar
import GuestNic.Proofs.Json.Literal
import GuestNic.Proofs.Json.Number
import GuestNic.Proofs.Link.Addressing
import GuestNic.Proofs.Link.Choice
import GuestNic.Proofs.Link.Drain
import GuestNic.Proofs.Link.Freshness
import GuestNic.Proofs.Link.Line
import GuestNic.Proofs.Link.Queue
import GuestNic.Proofs.Link.Reading
import GuestNic.Proofs.Link.Writing
import GuestNic.Proofs.Nat.Conservation
import GuestNic.Proofs.Nat.Datagram
import GuestNic.Proofs.Nat.Digest
import GuestNic.Proofs.Nat.Fate
import GuestNic.Proofs.Nat.Installation
import GuestNic.Proofs.Nat.Relay
import GuestNic.Proofs.Nat.RoundTrip
import GuestNic.Proofs.Nat.Stack
import GuestNic.Proofs.Nat.Station
import GuestNic.Proofs.Net.Ipv4
import GuestNic.Proofs.Settings.Object
import GuestNic.Proofs.Settings.RoundTrip
import GuestNic.Proofs.Settings.Values
import GuestNic.Proofs.Text.Numeral
import GuestNic.Proofs.Threads.Aftermath
import GuestNic.Proofs.Threads.Alone
import GuestNic.Proofs.Threads.AnyHost
import GuestNic.Proofs.Threads.Basic
import GuestNic.Proofs.Threads.Bypass
import GuestNic.Proofs.Threads.Confluence
import GuestNic.Proofs.Threads.Conservation
import GuestNic.Proofs.Threads.HandOver
import GuestNic.Proofs.Threads.Healthy
import GuestNic.Proofs.Threads.Installation
import GuestNic.Proofs.Threads.Loss
import GuestNic.Proofs.Threads.Onlooker
import GuestNic.Proofs.Threads.Provenance
import GuestNic.Proofs.Threads.QuietShutdown
import GuestNic.Proofs.Threads.ReadFates
import GuestNic.Proofs.Threads.ReceiveAccounts
import GuestNic.Proofs.Threads.Refusal
import GuestNic.Proofs.Threads.Running
import GuestNic.Proofs.Threads.Service
import GuestNic.Proofs.Threads.Shutdown
import GuestNic.Proofs.Threads.Step
import GuestNic.Proofs.Threads.View
import GuestNic.Settings.Basic
import GuestNic.Settings.Key
import GuestNic.Settings.Load
import GuestNic.Settings.Reader
import GuestNic.Settings.Writer
import GuestNic.Text.Blank
import GuestNic.Text.Digit
import GuestNic.Text.Hex
import GuestNic.Text.Hidden
import GuestNic.Text.Quoted
