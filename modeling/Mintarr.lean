import Mintarr.Backend.Delivery
import Mintarr.Backend.Handover
import Mintarr.Backend.PathMap
import Mintarr.Backup.Scheduled
import Mintarr.Connectors.ImportMode
import Mintarr.Dashboard.Cache
import Mintarr.Dashboard.LibraryRanking
import Mintarr.Disc.Cue
import Mintarr.Disc.Lookup
import Mintarr.Disc.ReadText
import Mintarr.Disc.RipLog
import Mintarr.Disc.Toc
import Mintarr.Evidence.Freshness
import Mintarr.Evidence.Revision
import Mintarr.Evidence.Spectral
import Mintarr.Holds.AlbumHolds
import Mintarr.Holds.Resolver
import Mintarr.Import.FailClosed
import Mintarr.Import.OnlyGate
import Mintarr.Import.Progress
import Mintarr.Import.Rescue
import Mintarr.Ingest.CompletedFolder
import Mintarr.Ingest.Offers
import Mintarr.Lane.Accounting
import Mintarr.Lane.BackendReports
import Mintarr.Lane.Retries
import Mintarr.Lane.Switches
import Mintarr.Lane.TargetGuard
import Mintarr.Pipeline.Normalize
import Mintarr.Policy.ExistingQuality
import Mintarr.Policy.FakeVeto
import Mintarr.Policy.Monotone
import Mintarr.Policy.ReleaseOrder
import Mintarr.Policy.TitleMatching
import Mintarr.Queue.AttemptBudget
import Mintarr.Queue.BootRecovery
import Mintarr.Queue.Cancellation
import Mintarr.Queue.Dedupe
import Mintarr.Queue.Exclusion
import Mintarr.Queue.ScanPairs
import Mintarr.Queue.TerminalStates
import Mintarr.Restore.Identity
import Mintarr.Restore.Plan
import Mintarr.Restore.Startup
import Mintarr.Review.Backfill
import Mintarr.Review.Mirror
import Mintarr.Review.Offered
import Mintarr.Sab.Grabs
import Mintarr.Sab.History
import Mintarr.Scan.Accounts
import Mintarr.Soulseek.Matching
import Mintarr.Soulseek.SourceIds
import Mintarr.Holds.CancelledGrabs
import Mintarr.Lib.Percent
import Mintarr.Lib.Xml
import Mintarr.Lib.XmlLayout
import Mintarr.Newznab.Link
