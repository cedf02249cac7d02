import AkuSupervisor.Application.RuntimeOwnership
import AkuSupervisor.Application.Intent
import AkuSupervisor.Application.RefreshPasses
import AkuSupervisor.Application.ControlCalls
import AkuSupervisor.Application.LaunchOrder
import AkuSupervisor.Adapters.JournalRun
import AkuSupervisor.Adapters.AuditIsolation
import AkuSupervisor.Adapters.AuditOrder
import AkuSupervisor.Adapters.ShutdownSequence
import AkuSupervisor.Adapters.RegistrationGate
import AkuSupervisor.Adapters.MutationRun
import AkuSupervisor.Adapters.RegistrationProposal
import AkuSupervisor.Adapters.RegistrationRun
import AkuSupervisor.Adapters.RegistrationAlone
import AkuSupervisor.Adapters.RegistrationRecovery
import AkuSupervisor.Adapters.ChunkedBody
import AkuSupervisor.Adapters.RegistrationFrame
import AkuSupervisor.Adapters.RegistrationReview
import AkuSupervisor.Adapters.BatchOrder
import AkuSupervisor.Adapters.ChromeExtensionReload
import AkuSupervisor.Adapters.ReloadEvidence
import AkuSupervisor.Application.CooperativeOperations
import AkuSupervisor.Adapters.LiveLogRun
import AkuSupervisor.Adapters.LaunchBudget
import AkuSupervisor.Adapters.ClientTargets
import AkuSupervisor.Adapters.ConfigMonitor
import AkuSupervisor.Adapters.LeaseDiscipline
import AkuSupervisor.Adapters.LeaseFiles
import AkuSupervisor.Adapters.LeaseRun
import AkuSupervisor.Adapters.WatcherExclusion
import AkuSupervisor.Adapters.JournalPages
import AkuSupervisor.Lib.WindowsArguments
import AkuSupervisor.Platform.CommandLine
import AkuSupervisor.Lib.VariableBlock
import AkuSupervisor.Platform.EnvironmentBlock
import AkuSupervisor.Adapters.ChunkFrames
import AkuSupervisor.Adapters.LiveLogRings
import AkuSupervisor.Adapters.LogFraming
import AkuSupervisor.Adapters.RegistrationEvents
import AkuSupervisor.Adapters.RegistrationIdentity
import AkuSupervisor.Adapters.RegistrationPreparation
import AkuSupervisor.Adapters.RequestSegments
import AkuSupervisor.Adapters.HttpHealth
import AkuSupervisor.Adapters.Mcp
import AkuSupervisor.Adapters.McpSessions
import AkuSupervisor.Adapters.ResponseFraming
import AkuSupervisor.Adapters.SecretRedaction
import AkuSupervisor.Lib.Generations
import AkuSupervisor.Platform.LogRotation
import AkuSupervisor.Platform.ProcessTree
import AkuSupervisor.Scripts.WatchLoop
import AkuSupervisor.Adapters.LiveAddition
import AkuSupervisor.Adapters.DashboardPage
import AkuSupervisor.Adapters.ConfigSchema
import AkuSupervisor.Adapters.LiveLogDelivery
import AkuSupervisor.Adapters.LiveLogFollow
import AkuSupervisor.Adapters.LiveLogResume
import AkuSupervisor.Adapters.ControlClient
import AkuSupervisor.Adapters.ClientResponse
import AkuSupervisor.Adapters.RetryRun
import AkuSupervisor.Adapters.LiveLogStream
import AkuSupervisor.Adapters.TokenRun
import AkuSupervisor.Adapters.TokenAgreement
import AkuSupervisor.Platform.TreeOwnership
import AkuSupervisor.Platform.TreeContainment
import AkuSupervisor.Platform.TreeRun
