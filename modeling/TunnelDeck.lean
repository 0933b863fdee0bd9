import TunnelDeck.Application.ConfigLines
import TunnelDeck.Application.Forwards
import TunnelDeck.Application.Hosts
import TunnelDeck.Application.Import
import TunnelDeck.Application.ImportedRules
import TunnelDeck.Application.Preview
import TunnelDeck.Application.Printing
import TunnelDeck.Application.Quoting
import TunnelDeck.Application.Repetition
import TunnelDeck.Application.SelectedRules
import TunnelDeck.Cli.Selector
import TunnelDeck.Cli.Settings
import TunnelDeck.Combinatorics.Generations
import TunnelDeck.Combinatorics.Insertion
import TunnelDeck.Combinatorics.Screening
import TunnelDeck.Combinatorics.Traversal
import TunnelDeck.Concurrency.Accounts
import TunnelDeck.Concurrency.Broadcast
import TunnelDeck.Concurrency.Fairness
import TunnelDeck.Concurrency.Interleaving
import TunnelDeck.Concurrency.Pointwise
import TunnelDeck.Concurrency.ReadModifyWrite
import TunnelDeck.Concurrency.Run
import TunnelDeck.Concurrency.WriteAhead
import TunnelDeck.Config.Conversion
import TunnelDeck.Config.Migration
import TunnelDeck.Config.OnDisk
import TunnelDeck.Config.Saving
import TunnelDeck.Config.Schema
import TunnelDeck.Config.Store
import TunnelDeck.Daemon.Agreement
import TunnelDeck.Daemon.Announcements
import TunnelDeck.Daemon.Backoff
import TunnelDeck.Daemon.Bookkeeping
import TunnelDeck.Daemon.Change
import TunnelDeck.Daemon.Configuration
import TunnelDeck.Daemon.Diagnosis
import TunnelDeck.Daemon.Dispatch
import TunnelDeck.Daemon.Endpoint
import TunnelDeck.Daemon.Exclusion
import TunnelDeck.Daemon.Handover
import TunnelDeck.Daemon.Isolation
import TunnelDeck.Daemon.Leftovers
import TunnelDeck.Daemon.Lifecycle
import TunnelDeck.Daemon.Lifetimes
import TunnelDeck.Daemon.Markers
import TunnelDeck.Daemon.Ordering
import TunnelDeck.Daemon.Outcomes
import TunnelDeck.Daemon.Ownership
import TunnelDeck.Daemon.Policy
import TunnelDeck.Daemon.Refusals
import TunnelDeck.Daemon.Reports
import TunnelDeck.Daemon.Reservation
import TunnelDeck.Daemon.Retries
import TunnelDeck.Daemon.Returns
import TunnelDeck.Daemon.Selection
import TunnelDeck.Daemon.State
import TunnelDeck.Daemon.Stops
import TunnelDeck.Daemon.Thread
import TunnelDeck.Daemon.View
import TunnelDeck.Domain.Overlap
import TunnelDeck.Domain.Rule
import TunnelDeck.Domain.RuleSet
import TunnelDeck.Domain.Status
import TunnelDeck.Domain.Validation
import TunnelDeck.Domain.ValidationError
import TunnelDeck.Ipc.Client
import TunnelDeck.Ipc.Connection
import TunnelDeck.Ipc.Events
import TunnelDeck.Ipc.Frames
import TunnelDeck.Ipc.Message
import TunnelDeck.Ipc.Responses
import TunnelDeck.Ipc.Streaming
import TunnelDeck.Ipc.Subscription
import TunnelDeck.Ipc.Versions
import TunnelDeck.Logging.RotatingLog
import TunnelDeck.Platform.PrivateFiles
import TunnelDeck.Platform.PrivateFs
import TunnelDeck.Process.Forwarding
import TunnelDeck.Process.Guardian
import TunnelDeck.Process.Lock
import TunnelDeck.Process.Starting
import TunnelDeck.Symphony.Admission
import TunnelDeck.Symphony.Gate
import TunnelDeck.Symphony.Manifest
import TunnelDeck.Symphony.Merging
import TunnelDeck.Symphony.PullRequest
import TunnelDeck.Symphony.ReportHistory
import TunnelDeck.Symphony.Review
import TunnelDeck.Symphony.Risk
import TunnelDeck.Symphony.RunReport
import TunnelDeck.Text.AddressText
import TunnelDeck.Text.BufRead
import TunnelDeck.Text.Chars
import TunnelDeck.Text.Decimal
import TunnelDeck.Text.Fields
import TunnelDeck.Text.Hex
import TunnelDeck.Text.IpAddr
import TunnelDeck.Text.Joining
import TunnelDeck.Text.Json
import TunnelDeck.Text.JsonText
import TunnelDeck.Text.Lines
import TunnelDeck.Text.Lossy
import TunnelDeck.Text.Python
import TunnelDeck.Text.Sections
import TunnelDeck.Text.UnixPath
import TunnelDeck.Tui.App
import TunnelDeck.Tui.Editing
import TunnelDeck.Tui.Events
import TunnelDeck.Tui.Form
import TunnelDeck.Tui.Keys
import TunnelDeck.Tui.Ports
import TunnelDeck.Tui.RuleView
import TunnelDeck.Tui.Selecting
import TunnelDeck.Tui.Typing
import TunnelDeck.Unix.Calls
import TunnelDeck.Unix.Disk
import TunnelDeck.Unix.Files
