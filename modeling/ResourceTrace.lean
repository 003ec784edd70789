import ResourceTrace.Main
import ResourceTrace.Proofs.Ledger.Operation
import ResourceTrace.Proofs.Ledger.Conservation
import ResourceTrace.Proofs.Event.Isolation
import ResourceTrace.Proofs.Allocations.Heap
import ResourceTrace.Proofs.Allocations.Simulation
import ResourceTrace.Proofs.Allocations.Correction
import ResourceTrace.Proofs.Dump.Report
import ResourceTrace.Proofs.OptionLine.Image
import ResourceTrace.Proofs.Dump.Schedule
import ResourceTrace.Proofs.Dump.Throttle
import ResourceTrace.Proofs.Dump.Periodic
import ResourceTrace.Proofs.ValueLog.History
import ResourceTrace.Proofs.ValueLog.Run
import ResourceTrace.Proofs.CommandLine.Grouping
import ResourceTrace.Proofs.CommandLine.Agreement
import ResourceTrace.Proofs.Commands.Table
import ResourceTrace.Proofs.Session.StartUp
import ResourceTrace.Proofs.Output.Delivery
import ResourceTrace.Proofs.Snapshot.Recovery
import ResourceTrace.Proofs.Dump.Independence
import ResourceTrace.Proofs.Event.Site
import ResourceTrace.Proofs.OpenFiles.History
import ResourceTrace.Proofs.OpenFiles.Run
import ResourceTrace.Proofs.Event.FilterKey
import ResourceTrace.Proofs.ValueLog.Settings
import ResourceTrace.Proofs.Allocations.Interleaving
import ResourceTrace.Proofs.Allocations.Serialization
import ResourceTrace.Proofs.Magnitude.Segments
import ResourceTrace.Proofs.Magnitude.Sum
import ResourceTrace.Proofs.Magnitude.Word
import ResourceTrace.Proofs.Magnitude.Grammar
import ResourceTrace.Proofs.Ledger.FiniteMap
import ResourceTrace.Proofs.Format.Reading
import ResourceTrace.Proofs.Format.Rendering
import ResourceTrace.Proofs.OptionLine.Merging
import ResourceTrace.Proofs.Snapshot.Writing
import ResourceTrace.Proofs.Dump.Dispatch
import ResourceTrace.Proofs.Dump.Percentage
import ResourceTrace.Proofs.Dump.Reading
import ResourceTrace.Proofs.OpenFiles.Dump
import ResourceTrace.Proofs.Dump.Complement
import ResourceTrace.Proofs.Changes.History
import ResourceTrace.Proofs.Changes.Run
import ResourceTrace.Proofs.Event.Frame
import ResourceTrace.Proofs.OpenFiles.Frame
import ResourceTrace.Proofs.Workload.Files
import ResourceTrace.Proofs.Event.KeyTemplate
import ResourceTrace.Proofs.Text.Offsets
import ResourceTrace.Proofs.Allocations.Listing
import ResourceTrace.Proofs.Allocations.Frame
import ResourceTrace.Proofs.Workload.Buffers
