import Beampipe.Runs
import Beampipe.Programs
import Beampipe.Json
import Beampipe.Text
import Beampipe.RunRecord
import Beampipe.JobQueue
import Beampipe.JobLeases
import Beampipe.ExternalState
import Beampipe.SourceRegistry
import Beampipe.ExecutionLedger
import Beampipe.ExecutionStore
import Beampipe.SubmissionStore
import Beampipe.SlurmJobs
import Beampipe.Requests
import Beampipe.Transactions
import Beampipe.ExecuteWorker
import Beampipe.Pollers
import Beampipe.Processes
import Beampipe.ExecutionSystem
import Beampipe.IssuedRequests
import Beampipe.ExecuteOutline
import Beampipe.SubmissionOnce
import Beampipe.StaleWorkers
import Beampipe.HeldSubmissions
import Beampipe.LedgerRuns
import Beampipe.SubmissionReceipts
import Beampipe.AbandonmentEvidence
import Beampipe.LookupEvidence
import Beampipe.SlurmStates
import Beampipe.Redaction
import Beampipe.KeySort
import Beampipe.Grouping
import Beampipe.StableJson
import Beampipe.JsonText
import Beampipe.Discovery
import Beampipe.DiscoverySignature
import Beampipe.DiscoveryPersistence
import Beampipe.OutputInventory
import Beampipe.InventoryCodec
import Beampipe.CompletionGate
import Beampipe.JobAttempts
import Beampipe.ClaimTransactions
import Beampipe.ProfileAdmission
import Beampipe.CreateIdempotency
import Beampipe.DiscoveryFreshness
import Beampipe.DiscoveryIsolation
import Beampipe.DiscoveryAccounting
import Beampipe.SlurmPaths
import Beampipe.DeploymentPaths
import Beampipe.Pipelines
import Beampipe.ProjectConfig
import Beampipe.Transforms
import Beampipe.PreparedRecords
import Beampipe.FlagExclusion
import Beampipe.EnrichmentJoin
import Beampipe.PreparedContract
import Beampipe.AdmissionQueues
import Beampipe.Manifest
import Beampipe.SourceReadiness
import Beampipe.PhysicalGraph
import Beampipe.SessionStates
import Beampipe.AdmittedSignature
import Beampipe.InventoryValidation
import Beampipe.NegativeEvidence
import Beampipe.BatchPolls
import Beampipe.NamedJobLookups
import Beampipe.ExecutionScope
import Beampipe.InventoryRetrieval
import Beampipe.Replacement
import Beampipe.QueryTemplates
import Beampipe.TapRows
import Beampipe.KnownHosts
import Beampipe.ClientAddress
import Beampipe.GraphExpressions
import Beampipe.InventoryPaths
import Beampipe.ShellQuote
import Beampipe.StagingUrls
import Beampipe.GraphPatches
import Beampipe.SlurmCancellation
import Beampipe.RecordMerges
import Beampipe.TerminalFreeze
import Beampipe.Excerpts
import Beampipe.PollProgress
import Beampipe.PreparedIdentities
import Beampipe.ExecutionAdmission
import Beampipe.TapHealth
import Beampipe.TokenRevocation
import Beampipe.ConfigurationPinning
import Beampipe.RemoteUploads
import Beampipe.SubmissionDispatch
import Beampipe.LeaseExclusion
