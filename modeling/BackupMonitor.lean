import BackupMonitor.Main
import BackupMonitor.Proofs.Run
import BackupMonitor.Proofs.Step
import BackupMonitor.Registry.Session
import BackupMonitor.Proofs.TrackerHistory
import BackupMonitor.Proofs.Contribution
import BackupMonitor.Proofs.Reports
import BackupMonitor.Proofs.Catalogue
import BackupMonitor.Proofs.Lives
import BackupMonitor.Proofs.Reconnect
import BackupMonitor.Proofs.Upkeep
import BackupMonitor.Proofs.WatcherRun
import BackupMonitor.Proofs.RosterInvariant
import BackupMonitor.Proofs.RosterAccount
import BackupMonitor.Proofs.TrackerMove
import BackupMonitor.Proofs.Cancellation
import BackupMonitor.Proofs.WatcherInvariant
import BackupMonitor.Proofs.Shutdown
import BackupMonitor.Proofs.Generations
import BackupMonitor.Proofs.ColdStart
import BackupMonitor.Proofs.Registrations
import BackupMonitor.Proofs.FeedOrder
import BackupMonitor.Proofs.LiveTracker
import BackupMonitor.Proofs.FanOut
import BackupMonitor.Proofs.Counters
import BackupMonitor.Proofs.Refusals
import BackupMonitor.Proofs.SinkFailures
import BackupMonitor.Proofs.SessionPoints
import BackupMonitor.Proofs.Orphans
import BackupMonitor.Proofs.CancellationReach
import BackupMonitor.Proofs.Dialogue
import BackupMonitor.Proofs.OwnErrors
import BackupMonitor.Proofs.WatcherHistory
import BackupMonitor.Proofs.Rounds
import BackupMonitor.Proofs.WatchStreams
import BackupMonitor.Proofs.ListVersions
import BackupMonitor.Proofs.Protocol
import BackupMonitor.Proofs.Prospects
import BackupMonitor.Proofs.Books
import BackupMonitor.Proofs.Convergence
import BackupMonitor.Proofs.SingleInputs
import BackupMonitor.Proofs.Rest
import BackupMonitor.Proofs.Tallies
import BackupMonitor.Proofs.Orders
import BackupMonitor.Proofs.Narrow
import BackupMonitor.Proofs.Mirror
import BackupMonitor.Proofs.WatcherMirror
import BackupMonitor.Proofs.Shadows
import BackupMonitor.Proofs.Isolation
import BackupMonitor.Proofs.ExactLedger
import BackupMonitor.Proofs.CallBounds
import BackupMonitor.Proofs.RawWatch
import BackupMonitor.Proofs.FeedFrames
import BackupMonitor.Proofs.Wired
import BackupMonitor.Proofs.Cuts
import BackupMonitor.Proofs.UnreadFields
import BackupMonitor.Proofs.Malformed
import BackupMonitor.Proofs.TrackedSet
import BackupMonitor.Proofs.TrackedCalls
import BackupMonitor.Proofs.Payload
import BackupMonitor.Proofs.ReportedDuration
import BackupMonitor.Proofs.PasswordArguments
import BackupMonitor.Proofs.Password
import BackupMonitor.Proofs.ClusterSchedules
import BackupMonitor.Proofs.RunOutcome
import BackupMonitor.Proofs.AgentRun
import BackupMonitor.Proofs.TimestampText
import BackupMonitor.Proofs.KeptSettings
import BackupMonitor.Proofs.SinkSelection
import BackupMonitor.Proofs.TwoRoutes
