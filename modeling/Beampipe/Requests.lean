/-
What a process of the program can ask for: database transactions and the world outside.

Workers, pollers and the API are programs over one type of requests.  A database request names a
transaction on the store of the execution; an external request is answered by something the store
does not determine (a backend, a scheduler, the pinned configuration).  Every request carries the
function of the source that issues it.

Main definitions:

* `Beampipe.Site` — the functions of the source that issue requests;
* `Beampipe.Tx`, `Beampipe.Tx.Result`, `Beampipe.Tx.run` — the transactions and their meaning;
* `Beampipe.External`, `Beampipe.External.Answer` — the questions to the outside;
* `Beampipe.Request`, `Beampipe.Request.Answer`, `Beampipe.Exec` — requests, and the programs over
  them;
* `Beampipe.Choice` — what one step leaves open: fresh identifiers, rows locked by others, a
  failing database, the answer from outside.
-/

import Beampipe.Programs
import Beampipe.SubmissionStore
import Beampipe.SlurmJobs

set_option relaxedAutoImplicit false
set_option autoImplicit false

namespace Beampipe

/-! ### Transactions -/

/-- The lease a worker holds: the job, the worker and the token. -/
structure LeaseKey where
  jobId : Uuid
  workerId : Uuid
  leaseToken : Uuid
  deriving DecidableEq, Repr

/-- The output inventory of an attempt: the artifact built from it, its schema, the text of its
digest, and whether it is valid for an attempt under the policy of the execution. -/
structure OutputReport where
  artifact : ExecutionArtifactInput
  schema : String
  reportSha256 : String
  accepted : ℕ → Except String Unit

/-- One database transaction. -/
inductive Tx where
  | getExecution
  | selectSourceRegistry
  | listArchiveMetadataForSources
  | applyExecutionPatch (patch : LedgerPatch)
  | applyExecutionStatePatch (patch : ExecutionStatePatch)
  | applyExecutionProvenancePatch (patch : Store.ProvenancePatch)
  | storeExecutionArtifact (artifact : ExecutionArtifactInput)
  | recordExecutionObservation (observation : ExecutionObservationInput)
  | beginExecutionSubmission (intent : SubmissionIntent)
  | latestSubmissionIntentObservation
  | recordSlurmNameLookup (input : SlurmNameLookupRecordInput)
  | recordSubmissionReceipt (input : SubmissionReceiptInput)
  | verifyExecutionOutputs (report : OutputReport) (clock : String)
  | markSourcesPendingWorkflowRun
  | clearWorkflowPendingForSources
  | finalizeSuccessfulExecutionSources
  | retryExecution (reason : String)
      (requiredCapabilities : ExecutionRetryPlan → Except String (List String))
  | cancelExecution (confirmation : Option ConfirmedExternalCancellation)
  | abandonSlurmSubmission (input : AbandonSlurmSubmissionInput)
      (evidence : List ExecutionObservationRow → SlurmAbandonmentEvidenceExpectation →
        Except String (List Uuid))
  | listSlurmExecutionsPendingPoll
  | listSlurmExecutionsPendingOutputInventory
  | listSlurmSubmissionsPendingReconciliation
  | listRestExecutionsPendingPoll
  | getJobByIdempotencyKey (key : String)
  | enqueueExecuteJob (payload : Json) (requiredCapabilities : List String)
  | enqueueDimPollJob (payload : Json) (delaySecs : ℤ) (pollRound : ℤ) (pool : String)
  | claimNextJobForWorker (workerId : Uuid) (workerPool : String) (lockSeconds : ℤ)
  | completeJobWithLease (lease : LeaseKey)
  | rescheduleRecurringJobWithLease (lease : LeaseKey) (delaySecs : ℤ)
  | failJobPermanentlyWithLease (lease : LeaseKey) (error failureClass : String)
  | failOrRetryJobWithLease (lease : LeaseKey) (error failureClass : String)
      (retryDelaySeconds : ℤ)

/-- What a transaction returns. -/
def Tx.Result : Tx → Type
  | .getExecution => ExecutionRow
  | .selectSourceRegistry => List SourceRegistryRow
  | .listArchiveMetadataForSources => List ArchiveMetadataRow
  | .applyExecutionPatch _ => ExecutionRow
  | .applyExecutionStatePatch _ => Store.StateApplyResult
  | .applyExecutionProvenancePatch _ => Unit
  | .storeExecutionArtifact _ => ExecutionArtifactRow
  | .recordExecutionObservation _ => ExecutionObservationRow
  | .beginExecutionSubmission _ => Option ℕ
  | .latestSubmissionIntentObservation => Option ExecutionObservationRow
  | .recordSlurmNameLookup _ => SlurmNameLookupRecordResult
  | .recordSubmissionReceipt _ => SubmissionReceiptResult
  | .verifyExecutionOutputs _ _ => ExecutionRow × ExecutionArtifactRow
  | .markSourcesPendingWorkflowRun => Unit
  | .clearWorkflowPendingForSources => Unit
  | .finalizeSuccessfulExecutionSources => Bool
  | .retryExecution _ _ => ExecutionRow
  | .cancelExecution _ => ExecutionRow
  | .abandonSlurmSubmission _ _ => ExecutionRow
  | .listSlurmExecutionsPendingPoll => List ExecutionRow
  | .listSlurmExecutionsPendingOutputInventory => List ExecutionRow
  | .listSlurmSubmissionsPendingReconciliation => List ExecutionRow
  | .listRestExecutionsPendingPoll => List ExecutionRow
  | .getJobByIdempotencyKey _ => Option JobRow
  | .enqueueExecuteJob _ _ => Option JobRow
  | .enqueueDimPollJob _ _ _ _ => Unit
  | .claimNextJobForWorker _ _ _ => Option JobRow
  | .completeJobWithLease _ => Bool
  | .rescheduleRecurringJobWithLease _ _ => Bool
  | .failJobPermanentlyWithLease _ _ _ => Bool
  | .failOrRetryJobWithLease _ _ _ _ => Bool

/-- Fresh identifiers of one transaction. -/
structure FreshIds where
  first : Uuid := 0
  second : Uuid := 0
  third : Uuid := 0
  deriving DecidableEq, Repr

namespace Store

/-- A lease operation on the queue. -/
def onQueue {α : Type} (s : Store) (result : JobQueue × α) : Store × α :=
  ({ s with queue := result.1 }, result.2)

/-- The execute job of the API. -/
def executeJob (s : Store) (jobId : Uuid) (payload : Json) (requiredCapabilities : List String) :
    NewJob :=
  { uuid := jobId
    kind := .execute
    payload := payload
    executionId := some s.row.uuid
    idempotencyKey := some (executeKey s.row.uuid)
    nextRunAt := s.now
    maxAttempts := 3
    pool := "default"
    requiredCapabilities := requiredCapabilities
    requiredLabels := []
    priority := 0 }

/-- The next DIM poll of the execution. -/
def dimPollJob (s : Store) (jobId : Uuid) (payload : Json) (delaySecs pollRound : ℤ)
    (pool : String) : NewJob :=
  { uuid := jobId
    kind := .dimPoll
    payload := payload
    executionId := some s.row.uuid
    idempotencyKey := some (dimPollKey s.row.uuid pollRound)
    nextRunAt := s.now + seconds delaySecs
    maxAttempts := 3
    pool := pool
    requiredCapabilities := ["deployment:daliuge_rest"]
    requiredLabels := []
    priority := 0 }

end Store

/-- The meaning of a transaction, given fresh identifiers and the rows other transactions hold. -/
def Tx.run (ids : FreshIds) (locked : List Uuid) (s : Store) :
    (t : Tx) → Except String (Store × t.Result)
  | .getExecution => .ok (s, s.row)
  | .selectSourceRegistry => .ok (s, s.registry.rows)
  | .listArchiveMetadataForSources => .ok (s, s.registry.archive)
  | .applyExecutionPatch patch => s.applyExecutionPatch patch
  | .applyExecutionStatePatch patch => s.applyExecutionStatePatchWithTransition patch
  | .applyExecutionProvenancePatch patch => .ok (s.applyExecutionProvenancePatch patch, ())
  | .storeExecutionArtifact artifact => s.storeExecutionArtifact ids.first artifact
  | .recordExecutionObservation observation => s.recordExecutionObservation ids.first observation
  | .beginExecutionSubmission intent => s.beginExecutionSubmission ids.first intent
  | .latestSubmissionIntentObservation => .ok (s, s.latestSubmissionIntentObservation)
  | .recordSlurmNameLookup input => s.recordSlurmNameLookup input
  | .recordSubmissionReceipt input =>
      s.recordSubmissionReceipt (ids.first, ids.second, ids.third) input
  | .verifyExecutionOutputs report clock =>
      s.verifyExecutionOutputs (ids.first, ids.second) report.artifact
        (fun row => report.accepted row.retryCount) report.schema report.reportSha256 clock
  | .markSourcesPendingWorkflowRun => .ok (s.markSourcesPending, ())
  | .clearWorkflowPendingForSources => .ok (s.clearSourcesPending, ())
  | .finalizeSuccessfulExecutionSources => .ok s.finalizeSuccessfulExecutionSources
  | .retryExecution reason requiredCapabilities =>
      s.retryExecution ids.first reason requiredCapabilities
  | .cancelExecution confirmation => s.cancelExecution ids.first confirmation
  | .abandonSlurmSubmission input evidence => s.abandonSlurmSubmission ids.first input evidence
  | .listSlurmExecutionsPendingPoll => .ok (s, s.rowsWhere Store.slurmPollPending)
  | .listSlurmExecutionsPendingOutputInventory =>
      .ok (s, s.rowsWhere Store.slurmOutputInventoryPending)
  | .listSlurmSubmissionsPendingReconciliation =>
      .ok (s, s.rowsWhere Store.slurmReconciliationPending)
  | .listRestExecutionsPendingPoll => .ok (s, s.rowsWhere Store.restPollPending)
  | .getJobByIdempotencyKey key => .ok (s, s.queue.findByKey key)
  | .enqueueExecuteJob payload requiredCapabilities =>
      s.enqueueExecuteJob (s.executeJob ids.first payload requiredCapabilities)
  | .enqueueDimPollJob payload delaySecs pollRound pool =>
      .ok (s.enqueueDimPollJob (s.dimPollJob ids.first payload delaySecs pollRound pool), ())
  | .claimNextJobForWorker workerId workerPool lockSeconds =>
      .ok (s.onQueue
        (s.queue.claimNextJobForWorker workerId workerPool lockSeconds ids.first locked))
  | .completeJobWithLease l =>
      .ok (s.onQueue (s.queue.completeJobWithLease l.jobId l.workerId l.leaseToken))
  | .rescheduleRecurringJobWithLease l delaySecs =>
      .ok (s.onQueue
        (s.queue.rescheduleRecurringJobWithLease l.jobId l.workerId l.leaseToken delaySecs))
  | .failJobPermanentlyWithLease l error failureClass =>
      .ok (s.onQueue
        (s.queue.failJobPermanentlyWithLease l.jobId l.workerId l.leaseToken error failureClass))
  | .failOrRetryJobWithLease l error failureClass retryDelaySeconds =>
      .ok (s.onQueue
        (s.queue.failOrRetryJobWithLease l.jobId l.workerId l.leaseToken error failureClass
          retryDelaySeconds))

/-! ### The outside -/

/-- `deployment_kind` of the pinned profile. -/
inductive BackendKind where
  | slurmRemote
  | restRemote
  deriving DecidableEq, Repr

/-- `DeploymentConfig`: whether a Slurm deployment has a publication contract, and the fingerprint
of its resolved target; the endpoint of a REST deployment. -/
inductive Deployment where
  | slurmRemote (publication : Bool) (targetFingerprint : Except String String)
  | restRemote (endpoint : Option String)

/-- The pinned configuration of an execution: `deployment` is the parsed deployment of its profile,
if it has one. -/
structure ExecutionSetup where
  backendKind : BackendKind
  deployment : Option (Except String Deployment)

/-- `BackendSubmit`. -/
structure BackendSubmit where
  schedulerName : String
  schedulerJobId : Option String
  sessionId : Option String
  remoteSessionDir : Option String
  stagingRoot : Option String
  workflowManifest : Json
  physicalGraph : Option Json
  nextStatus : ExecutionStatus
  deriving DecidableEq, Repr

/-- How a backend submission ends: with a receipt, with an error that rules the submission out or
leaves it open, or at the deadline. -/
inductive SubmitOutcome where
  | submitted (receipt : BackendSubmit)
  | failed (error : String)
  | uncertain (error : String)
  | timedOut (error : String)
  deriving DecidableEq, Repr

/-- `DaliugeSessionState`. -/
inductive DaliugeSessionState where
  | pristine
  | building
  | deploying
  | running
  | finished
  | cancelled
  | failed
  | unknown
  deriving DecidableEq, Repr

/-- `DaliugeSessionState::execution_status`. -/
def DaliugeSessionState.executionStatus : DaliugeSessionState → ExecutionStatus
  | .finished => .completed
  | .cancelled => .cancelled
  | .failed => .failed
  | .pristine | .building | .deploying | .running | .unknown => .running

/-- `DaliugeState::parse` of the serialized session state. -/
def DaliugeSessionState.daliugeState : DaliugeSessionState → DaliugeState
  | .pristine => .pristine
  | .building => .building
  | .deploying => .deploying
  | .running => .running
  | .finished => .finished
  | .cancelled => .cancelled
  | .failed => .failed
  | .unknown => .unknown

/-- `BackendPoll`; `rawStatus` is the text of the `status` of the summary and `sessionState` its
parsed `normalized_session_state`. -/
structure BackendPoll where
  status : ExecutionStatus
  pollSummary : Json
  rawStatus : Option String
  sessionState : Option DaliugeState
  deriving DecidableEq, Repr

/-- What a DIM client sees: the state of the session, also as the manager sends it and as text, and
the drops in error; or the mock. -/
inductive DimObservation where
  | session (state : DaliugeSessionState) (raw : Json) (rawText : String)
      (errorDropUids : List Json)
  | mock
  deriving DecidableEq, Repr

/-- `DimClient::poll`: a finished session with drops in error has failed. -/
def DimObservation.poll (sessionId : String) : DimObservation → BackendPoll
  | .session state raw rawText errorDropUids =>
      { status :=
          if state.executionStatus = .completed ∧ errorDropUids ≠ [] then .failed
          else state.executionStatus
        pollSummary :=
          .obj [("session_id", .str sessionId), ("status", raw),
                ("normalized_session_state", .str state.daliugeState.asStr),
                ("error_drop_uids", .arr errorDropUids)]
        rawStatus := some rawText
        sessionState := some state.daliugeState }
  | .mock =>
      { status := .completed
        pollSummary := .obj [("session_id", .str sessionId), ("state", .str "FINISHED")]
        rawStatus := none
        sessionState := none }

/-- A failed DIM poll: the session is unknown to the manager, or something else went wrong. -/
structure DimPollError where
  notFound : Bool
  failureClass : FailureClass
  kind : String
  retryable : Bool
  detail : String
  deriving DecidableEq, Repr

/-- A failed check or query of the Slurm poller, as it is recorded. -/
structure SlurmPollError where
  operation : String
  errorKind : String
  detail : String
  failureClass : FailureClass
  retryable : Bool
  deriving DecidableEq, Repr

/-- The lookup by name of an unresolved submission. -/
structure NameLookup where
  profileSha256 : String
  accountingNotBefore : ℕ
  queryStartedAt : ℕ
  queryCompletedAt : ℕ
  squeueComplete : Bool
  sacctComplete : Bool
  lookupId : Uuid
  outcome : SlurmNameLookupOutcome
  deriving DecidableEq, Repr

/-- The retrieval of an output inventory. -/
inductive InventoryRetrieval where
  | failed (code detail : String) (failureClass : FailureClass) (retryable : Bool)
  | rejected (detail : String)
  | report (report : OutputReport)

/-- `PollPolicy`, with its defaults applied. -/
structure PollPolicy where
  restMaxRounds : ℤ := 240
  slurmMaxRounds : ℤ := 480
  restIntervalSecs : ℤ := 3
  deriving DecidableEq, Repr

/-- A question to the outside. -/
inductive External where
  /-- the pinned project configuration and deployment profile -/
  | executionSetup (execution : ExecutionRow)
  /-- `select_execution_archive_metadata` -/
  | selectArchiveMetadata (rows : List ArchiveMetadataRow)
  /-- `preflight_execute` -/
  | preflight (doStage doSubmit : Bool)
  /-- `validate_manifest_selection_proof` of a replayed manifest -/
  | validateSelectionProof (manifest : Json)
  /-- staging, and the manifest built from the staged records -/
  | buildManifest
  /-- `resolve_graph` and `prepare_graph_for_manifest` -/
  | prepareGraph (manifest : Json)
  /-- `backend.submit`, up to the deadline -/
  | submit (attempt : Option ℕ) (manifest graph : Json) (deadline : ℕ)
  /-- `poll_policy_for_execution` -/
  | pollPolicy
  /-- the manager endpoint of a polled session, if it has one -/
  | dimEndpoint (execution : ExecutionRow)
  /-- `dim.poll` -/
  | dimPoll (sessionId : String)
  /-- the checks of a Slurm execution before its target is queried -/
  | slurmTarget (execution : ExecutionRow)
  /-- `query_slurm_states` for one job -/
  | slurmStates (schedulerJobId : String)
  /-- the checks of an unresolved submission before its lookup -/
  | reconcileTarget (execution : ExecutionRow)
  /-- `find_by_name` -/
  | findByName (sessionId : String) (intentObservedAt : ℕ)
  /-- `read_output_inventory` -/
  | readOutputInventory (remoteSessionDir : String) (attempt : ℕ)
  /-- `cancel_scheduler_session` -/
  | cancelSchedulerSession (schedulerJobId daliugeSessionId : Option String)
  /-- the deployment an operator command resolves -/
  | resolveDeployment
  /-- a job that belongs to another execution or another subsystem -/
  | otherJob
  /-- `Utc::now()` as text -/
  | clock

/-- The answer to a question. -/
def External.Answer : External → Type
  | .executionSetup _ => Except String ExecutionSetup
  | .selectArchiveMetadata _ => Except String Unit
  | .preflight _ _ => Except String Unit
  | .validateSelectionProof _ => Except String Unit
  | .buildManifest => Except String Json
  | .prepareGraph _ => Except String (Json × Json)
  | .submit _ _ _ _ => SubmitOutcome
  | .pollPolicy => PollPolicy
  | .dimEndpoint _ => Option String
  | .dimPoll _ => Except DimPollError DimObservation
  | .slurmTarget _ => Option SlurmPollError
  | .slurmStates _ => Except SlurmPollError SlurmJobPollResult
  | .reconcileTarget _ => Except SlurmPollError (Except String String)
  | .findByName _ _ => NameLookup
  | .readOutputInventory _ _ => InventoryRetrieval
  | .cancelSchedulerSession _ _ => Except String Bool
  | .resolveDeployment => Except String BackendKind
  | .otherJob => Except String Unit
  | .clock => String

/-! ### Requests -/

/-- The function of the source that issues a request; an arm that matters has its own name. -/
inductive Site where
  | tickForWorker
  | runExecute
  | executeErrorArm
  | terminalExecuteFailure
  | runExecuteBody
  | notSubmitted
  | runSubmitPhase
  | submitFailed
  | applySubmitResult
  | runDimPoll
  | applyDimPollUpdate
  | dimPollTimeout
  | recordDimReconciliationError
  | runSlurmPollTick
  | applySlurmPollUpdate
  | recordSlurmPollFailure
  | reconcileUncertainSlurmSubmissions
  | retrieveSlurmOutputInventories
  | recordOutputInventoryRetrievalFailure
  | finalizeExecutionSourcePending
  | api
  | cli
  deriving DecidableEq, Repr

/-- A request of a process. -/
inductive Request where
  | tx (site : Site) (t : Tx)
  | ask (site : Site) (question : External)

/-- The answer to a request: a transaction may fail. -/
def Request.Answer : Request → Type
  | .tx _ t => Except String t.Result
  | .ask _ question => question.Answer

/-- How a program fails: with an error, or by a panic. -/
inductive Failure where
  | error (message : String)
  | panic
  deriving DecidableEq, Repr

/-- Programs over requests. -/
abbrev Exec := Programs.Prog Request Request.Answer Failure

/-- One transaction whose error ends the program. -/
def tx (site : Site) (t : Tx) : Exec t.Result :=
  .req (.tx site t) fun
    | .ok result => .ret result
    | .error message => .throw (.error message)

/-- One transaction whose error is ignored. -/
def tryTx (site : Site) (t : Tx) : Exec Unit := .req (.tx site t) fun _ => .ret ()

/-- One question to the outside. -/
def ask (site : Site) (question : External) : Exec question.Answer :=
  .req (.ask site question) .ret

/-- A computed result, or its error. -/
def orFail {α : Type} : Except String α → Exec α
  | .ok a => .ret a
  | .error message => .throw (.error message)

/-- A computed result, or a panic. -/
def orPanic {α : Type} : Option α → Exec α
  | some a => .ret a
  | none => .throw .panic

/-- The items of a list in order. -/
def forEach {α : Type} : List α → (α → Exec Unit) → Exec Unit
  | [], _ => .ret ()
  | a :: rest, body => body a >>= fun _ => forEach rest body

/-! ### Choices -/

/-- What becomes of a transaction: it commits, it fails without effect, or it commits and the
caller sees an error. -/
inductive Fault where
  | none
  | failed
  | unacknowledged
  deriving DecidableEq, Repr

/-- What one step leaves open. -/
structure Choice where
  fault : Fault
  ids : FreshIds
  locked : List Uuid
  answer : (question : External) → question.Answer

/-- The answer of the database, and the store afterwards. -/
def Choice.transact (c : Choice) (t : Tx) (s : Store) : Except String t.Result × Store :=
  match c.fault, t.run c.ids c.locked s with
  | .none, .ok (s', result) => (.ok result, s')
  | .none, .error message => (.error message, s)
  | .failed, _ => (.error "database error", s)
  | .unacknowledged, .ok (s', _) => (.error "database error", s')
  | .unacknowledged, .error message => (.error message, s)

end Beampipe
