import PortKnock.Octets
import PortKnock.IpAddress
import PortKnock.OsError
import PortKnock.Frame
import PortKnock.Knock
import PortKnock.Inspection
import PortKnock.Ring.Basic
import PortKnock.Ring.Access
import PortKnock.Ring.Producer
import PortKnock.Ring.Consumer
import PortKnock.Interface
import PortKnock.Log
import PortKnock.Receiver
import PortKnock.Capture
import PortKnock.Text.Unprintable
import PortKnock.Text.GraphemeExtend
import PortKnock.Text.Quoted
import PortKnock.Failure
import PortKnock.Decimal.Shortest
import PortKnock.Json.Problem
import PortKnock.Json.Scanner
import PortKnock.Json.Number
import PortKnock.Json.Ignored
import PortKnock.Json.Typed
import PortKnock.Config.Basic
import PortKnock.Config.Reader
import PortKnock.Config.Printer
import PortKnock.Decimal.Integer
import PortKnock.CapturePlan
import PortKnock.FileTree
import PortKnock.KernelProgram
import PortKnock.Config.Lookup
import PortKnock.CommandLine.Grammar
import PortKnock.CommandLine.Reading
import PortKnock.Daemon.CommandLine
import PortKnock.Sender.CommandLine
import PortKnock.Text.Hanging
import PortKnock.Exit
import PortKnock.Daemon.Run
import PortKnock.Sender.Run
import PortKnock.Main
import PortKnock.Proofs.Ring.Measures
import PortKnock.Proofs.Ring.Payload
import PortKnock.Proofs.Ring.Admission
import PortKnock.Proofs.Ring.History
import PortKnock.Proofs.Ring.Layout
import PortKnock.Proofs.Ring.Runs
import PortKnock.Proofs.Ring.Fifo
import PortKnock.Proofs.Ring.Traffic
import PortKnock.Proofs.Ring.Stages
import PortKnock.Proofs.Ring.Reliance
import PortKnock.Proofs.Ring.Progress
import PortKnock.Proofs.Ring.Delivery
import PortKnock.Proofs.Ring.Wakeup
import PortKnock.Proofs.Ring.Contention
import PortKnock.Proofs.Inspection
import PortKnock.Proofs.Knock
import PortKnock.Proofs.Receiver
import PortKnock.Proofs.Pipeline
import PortKnock.Proofs.ConcurrentInspection
import PortKnock.Proofs.Json.Grammar
import PortKnock.Proofs.Json.Scanning
import PortKnock.Proofs.Json.Skipping
import PortKnock.Proofs.Json.Reading
import PortKnock.Proofs.Config.Values
import PortKnock.Proofs.Config.Meaning
import PortKnock.Proofs.Config.RoundTrip
import PortKnock.Proofs.Config.Members
import PortKnock.Proofs.Ring.Deposits
import PortKnock.Proofs.Ring.Representation
import PortKnock.Proofs.Ring.Interference
import PortKnock.Proofs.Ring.Readiness
import PortKnock.Proofs.Capture
import PortKnock.Proofs.Interface
import PortKnock.Proofs.Batches
import PortKnock.Proofs.Service
import PortKnock.Proofs.Lines
import PortKnock.Proofs.Records
import PortKnock.Proofs.Config.Lookup
import PortKnock.Proofs.Ring.Exactness
