import BootcOperator.Daemon.Backoff
import BootcOperator.Daemon.RepeatedStaging
import BootcOperator.Properties.ApprovedReboots
import BootcOperator.Properties.CandidateSelection
import BootcOperator.Properties.Deadlines
import BootcOperator.Properties.DegradedTruth
import BootcOperator.Properties.DigestRoutes
import BootcOperator.Properties.IdleEvents
import BootcOperator.Properties.ImageOrigins
import BootcOperator.Properties.LaggingCordons
import BootcOperator.Properties.ManagedLabels
import BootcOperator.Properties.NamespaceLists
import BootcOperator.Properties.NodeEvents
import BootcOperator.Properties.NodeWatch
import BootcOperator.Properties.NoteLimit
import BootcOperator.Properties.PoolDeletion
import BootcOperator.Properties.PoolStatusTruth
import BootcOperator.Properties.RebootTimeouts
import BootcOperator.Properties.RolloutHalts
import BootcOperator.Properties.SecretIsolation
import BootcOperator.Properties.SecretWatch
import BootcOperator.Properties.SlotEpisode
import BootcOperator.Properties.SlotLifeCycle
import BootcOperator.Properties.StagedTargets
import BootcOperator.Properties.StartupTaint
import BootcOperator.Properties.StopReports
