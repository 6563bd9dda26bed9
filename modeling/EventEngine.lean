import EventEngine.Event.Decoding
import EventEngine.Json.Reader
import EventEngine.Json.Writer
import EventEngine.Scenario.Run
import EventEngine.Scenario.Bare
import EventEngine.Main
import EventEngine.Proofs.Machine.Interpreter
import EventEngine.Proofs.Machine.Acts
import EventEngine.Proofs.Time.Readings
import EventEngine.Proofs.Time.Seconds
import EventEngine.Proofs.Queue.Stock
import EventEngine.Proofs.Queue.Journal
import EventEngine.Proofs.Queue.Conservation
import EventEngine.Proofs.Queue.Ledger
import EventEngine.Proofs.Machine.Beneath
import EventEngine.Proofs.Dispatch.Frames
import EventEngine.Proofs.Dispatch.Lives
import EventEngine.Proofs.Dispatch.Walk
import EventEngine.Proofs.Machine.Yields
import EventEngine.Proofs.Queue.Batch
import EventEngine.Proofs.Engine.Tick
import EventEngine.Proofs.Engine.Quit
import EventEngine.Proofs.Machine.Becomes
import EventEngine.Proofs.Machine.Beside
import EventEngine.Proofs.Registry.Resemblance
import EventEngine.Proofs.Dispatch.Balance
import EventEngine.Proofs.Dispatch.Ahead
import EventEngine.Proofs.Dispatch.Parallel
import EventEngine.Proofs.Dispatch.Pruning
import EventEngine.Proofs.Queue.Exclusion
import EventEngine.Proofs.Queue.ByHand
import EventEngine.Proofs.Registry.History
import EventEngine.Proofs.Registry.Frames
import EventEngine.Proofs.Manager.Book
import EventEngine.Proofs.Manager.Entries
import EventEngine.Proofs.Manager.Accounts
import EventEngine.Proofs.Manager.ProcessWide
import EventEngine.Proofs.Machine.Calls
import EventEngine.Proofs.Machine.Tasks
import EventEngine.Proofs.Queue.Causes
import EventEngine.Proofs.Queue.Turns
import EventEngine.Proofs.Queue.Isolation
import EventEngine.Proofs.Queue.Progress
import EventEngine.Proofs.Words.Checked
import EventEngine.Proofs.Words.Tasks
import EventEngine.Proofs.Words.Runs
import EventEngine.Proofs.Machine.Apart
import EventEngine.Proofs.Queue.Pending
import EventEngine.Proofs.Queue.Cancellation
import EventEngine.Proofs.Dispatch.Anomalies
import EventEngine.Proofs.Machine.Works
import EventEngine.Proofs.Manager.Clocks
import EventEngine.Proofs.Engine.Receipts
import EventEngine.Proofs.Engine.Ticks
import EventEngine.Proofs.Engine.ExitCode
import EventEngine.Proofs.Event.Category
import EventEngine.Proofs.Number.Exact
import EventEngine.Proofs.Json.Records
import EventEngine.Proofs.Event.Documents
import EventEngine.Proofs.Event.Domains
import EventEngine.Proofs.Engine.Departure
import EventEngine.Proofs.Time.ManualClock
