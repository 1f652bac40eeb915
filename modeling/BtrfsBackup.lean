import BtrfsBackup.Lib.Interaction
import BtrfsBackup.Lib.Keyed
import BtrfsBackup.Lib.Ranking
import BtrfsBackup.Lib.OrderedJson
import BtrfsBackup.Path
import BtrfsBackup.Core
import BtrfsBackup.RuntimeTime
import BtrfsBackup.Snapshot
import BtrfsBackup.TimestampOrder
import BtrfsBackup.Profile
import BtrfsBackup.ProfileDocument
import BtrfsBackup.PendingRecovery
import BtrfsBackup.IncrementalParent
import BtrfsBackup.RetentionPlan
import BtrfsBackup.BackupRunPlan
import BtrfsBackup.Preflight
import BtrfsBackup.World
import BtrfsBackup.ActionHandlers
import BtrfsBackup.IncomingSeparation
import BtrfsBackup.MountSeparation
import BtrfsBackup.HandlerRules
import BtrfsBackup.Protocol
import BtrfsBackup.Invariants
import BtrfsBackup.Recovery
import BtrfsBackup.Refinement
import BtrfsBackup.RunSafety
import BtrfsBackup.CommitSafety
import BtrfsBackup.RetentionSafety
import BtrfsBackup.ChainContinuity
import BtrfsBackup.RunEvents
import BtrfsBackup.BackupRunExecutor
import BtrfsBackup.BackupService
import BtrfsBackup.ServiceRules
import BtrfsBackup.RunReport
import BtrfsBackup.ServiceProtocol
import BtrfsBackup.ConfigurationTransaction
import BtrfsBackup.ConfigurationRollback
import BtrfsBackup.Lib.Interleaving
import BtrfsBackup.RunCancellation
import BtrfsBackup.CancellationSafety
import BtrfsBackup.TransferRuntime
import BtrfsBackup.TransferCompleteness
import BtrfsBackup.PreparationTransaction
import BtrfsBackup.PreparationStore
import BtrfsBackup.PreparationRules
import BtrfsBackup.PreparationStoreSafety
import BtrfsBackup.PreparationExecutor
import BtrfsBackup.PreparationManager
import BtrfsBackup.PreparationSteps
import BtrfsBackup.PreparationInterference
import BtrfsBackup.PreparationStages
import BtrfsBackup.PreparationGuards
import BtrfsBackup.PreparationRelease
import BtrfsBackup.PreparationMappings
import BtrfsBackup.PreparationRecovery
import BtrfsBackup.BrowseBackend
import BtrfsBackup.BrowseRules
import BtrfsBackup.BrowseLeases
import BtrfsBackup.BrowseAccounting
import BtrfsBackup.BrowseLocking
import BtrfsBackup.Lib.AdvisoryLock
import BtrfsBackup.ManagerErrors
import BtrfsBackup.BrowseSessions
import BtrfsBackup.BrowseLifetime
import BtrfsBackup.ProvisioningService
import BtrfsBackup.ProvisioningPlans
import BtrfsBackup.StorageTopology
import BtrfsBackup.ProfileAdministration
import BtrfsBackup.ProfileUpdates
import BtrfsBackup.ProfileEncoding
import BtrfsBackup.ProvisionedProfile
import BtrfsBackup.ProvisionedInstallation
import BtrfsBackup.RunStatusProjection
import BtrfsBackup.RunProgress
import BtrfsBackup.UnitNames
import BtrfsBackup.RunHistory
import BtrfsBackup.EjectExclusion
import BtrfsBackup.StoredPermissions
import BtrfsBackup.RestorePlanner
import BtrfsBackup.DocumentNumbers
import BtrfsBackup.RestoreCopy
import BtrfsBackup.SourceIdentifiers
import BtrfsBackup.BrowseTokens
import BtrfsBackup.TargetStorageMeasurement
import BtrfsBackup.BoundedDiagnosticBuffer
import BtrfsBackup.SystemDevices
import BtrfsBackup.PartitionCreation
