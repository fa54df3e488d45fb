import Backfill.Admin.BatchRequeue
import Backfill.Admin.Dlq
import Backfill.Admin.DlqCleanup
import Backfill.Admin.DlqDeletions
import Backfill.Admin.DlqEntry
import Backfill.Admin.DlqStats
import Backfill.Admin.DlqWalk
import Backfill.Admin.DryRuns
import Backfill.Admin.FailedRequests
import Backfill.Admin.Jobs
import Backfill.Admin.LockTimeouts
import Backfill.Admin.Locks
import Backfill.Admin.NotFound
import Backfill.Admin.Status
import Backfill.ClassificationStability
import Backfill.Client.CaptureLimits
import Backfill.Client.CleanupOutcome
import Backfill.Client.CounterTruth
import Backfill.Client.Description
import Backfill.Client.DlqPages
import Backfill.Client.DlqScripts
import Backfill.Client.PassOutcome
import Backfill.Client.RequeueFrame
import Backfill.Client.RoundTrip
import Backfill.Client.Starvation
import Backfill.Cluster.CleanupRace
import Backfill.Cluster.Columns
import Backfill.Cluster.DlqCounters
import Backfill.Cluster.DoubleExecution
import Backfill.Cluster.ExactlyOnce
import Backfill.Cluster.ExecutionBudget
import Backfill.Cluster.Executions
import Backfill.Cluster.FailureLedger
import Backfill.Cluster.HiddenFailures
import Backfill.Cluster.HookRace
import Backfill.Cluster.JobFates
import Backfill.Cluster.LockAges
import Backfill.Cluster.LockedCapture
import Backfill.Cluster.RequeueCounts
import Backfill.Cluster.RequeuedJobs
import Backfill.Cluster.SerialQueue
import Backfill.Cluster.StaleBinding
import Backfill.Cluster.StartupRace
import Backfill.Cluster.UnrunJobs
import Backfill.Worker.DlqSchedule
import Backfill.Worker.Lifecycle
import Backfill.Worker.Startup
