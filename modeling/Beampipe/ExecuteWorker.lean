/-
The execute job: `run_execute` and everything it calls.

The job reads the row once, works on that snapshot through configuration, readiness, staging,
manifest and graph, takes the submission, calls the backend and records the receipt.  An error
anywhere in between ends in one of three ways: another process has already settled the execution,
the submission may exist and is held for reconciliation, or the execution fails and its sources go
back to the scheduler.

Main definitions:

* `Beampipe.ExecutePayload`, `Beampipe.WorkerConfig` — the parameters of the job;
* `Beampipe.runSubmitPhase`, `Beampipe.runExecuteBody` — the way to a submission;
* `Beampipe.terminalExecuteFailure`, `Beampipe.runExecute` — the job with its error arms.
-/

import Beampipe.Requests

set_option relaxedAutoImplicit false
set_option autoImplicit false

namespace Beampipe

/-! ### Parameters -/

/-- `WorkerConfig`, the fields the modelled jobs read. -/
structure WorkerConfig where
  pool : String
  useRealBackends : Bool
  lockSeconds : ℤ
  submissionTimeout : ℤ
  deriving DecidableEq, Repr

/-- The options of an execute payload. -/
structure ExecutePayload where
  doStage : Bool
  doSubmit : Bool
  useReal : Bool
  deriving DecidableEq, Repr

/-- The options a payload carries, with their defaults. -/
def ExecutePayload.ofJson (config : WorkerConfig) (payload : Json) : ExecutePayload :=
  { doStage := ((payload.get "do_stage").bind Json.asBool).getD true
    doSubmit := ((payload.get "do_submit").bind Json.asBool).getD true
    useReal := ((payload.get "use_real_backends").bind Json.asBool).getD config.useRealBackends }

/-- `beampipe_session_id`; the creation time is rendered in microseconds. -/
def beampipeSessionId (executionId : Uuid) (createdAt : ℕ) : String :=
  s!"BeampipeExecution-{executionId}-{createdAt}"

namespace ExecutionSetup

/-- `ensure_publisher_delivery_supported`. -/
def ensurePublisherDeliverySupported (setup : ExecutionSetup) (required doSubmit useReal : Bool) :
    Except String Unit :=
  if !required || !doSubmit || !useReal then .ok ()
  else if setup.backendKind ≠ .slurmRemote then
    .error ("required output publication cannot use rest_remote until Core has a trusted handoff "
      ++ "retrieval contract for that control plane")
  else
    match setup.deployment with
    | none => .error "required output publication needs a pinned slurm_remote deployment profile"
    | some (.error error) => .error s!"pinned deployment profile is invalid: {error}"
    | some (.ok (.restRemote _)) =>
        .error "required output publication needs a slurm_remote deployment profile"
    | some (.ok (.slurmRemote publication _)) =>
        if publication then .ok ()
        else .error "required output publication has no pinned deployment publication contract"

/-- The endpoint of the session manager. -/
def daliugeManagerUrl (setup : ExecutionSetup) : Option String :=
  match setup.deployment with
  | some (.ok (.restRemote endpoint)) => endpoint
  | _ => none

/-- The fingerprint of the submission target. -/
def targetFingerprint (setup : ExecutionSetup) (useReal : Bool) : Except String (Option String) :=
  if setup.backendKind = .slurmRemote then
    match setup.deployment with
    | some (.ok (.slurmRemote _ fingerprint)) => fingerprint.map some
    | _ =>
        if useReal then .error "real Slurm submission requires a valid pinned deployment profile"
        else .ok (some "mock-slurm")
  else .ok none

/-- The name of the backend. -/
def schedulerName (setup : ExecutionSetup) : String :=
  if setup.backendKind = .slurmRemote then "slurm" else "daliuge"

end ExecutionSetup

/-! ### The submission -/

/-- The receipt of a backend, as `apply_submit_result` reads it. -/
def BackendSubmit.receipt (submitted : BackendSubmit) (executionId : Uuid) (useReal : Bool)
    (workerPool : String) (physicalGraph : Json) : SubmissionReceiptInput :=
  let parsed := submitted.schedulerJobId.map parseSchedulerJobId
  { schedulerName := submitted.schedulerName
    schedulerJobId :=
      if submitted.schedulerName = "slurm" then
        ((parsed.map (·.slurmJobId)).filter fun id => !id.isEmpty) <|> submitted.schedulerJobId
      else none
    daliugeSessionId := submitted.sessionId
    remoteSessionDir := submitted.remoteSessionDir <|> parsed.bind (·.sessionDir)
    stagingRoot := submitted.stagingRoot
    workflowManifest := submitted.workflowManifest
    physicalGraph := physicalGraph
    nextStatus := submitted.nextStatus
    pollJob :=
      if submitted.schedulerName ≠ "slurm" ∧ useReal = false then
        some (.obj [("execution_id", .str (toString executionId)), ("poll_round", .num (.int 0)),
                    ("use_real_backends", .bool useReal)], workerPool)
      else none }

/-- `apply_submit_result`. -/
def applySubmitResult (executionId : Uuid) (submitted : BackendSubmit) (useReal : Bool)
    (workerPool : String) : Exec Unit :=
  match submitted.physicalGraph with
  | none => .throw (.error "backend submission receipt omitted the physical graph")
  | some physicalGraph => do
      let _ ← tx .applySubmitResult
        (.recordSubmissionReceipt
          (submitted.receipt executionId useReal workerPool physicalGraph))

/-- The intent of `run_submit_phase`. -/
def submissionIntent (config : WorkerConfig) (execution : ExecutionRow) (setup : ExecutionSetup)
    (targetFingerprint : Option String) : SubmissionIntent :=
  { schedulerName := setup.schedulerName
    daliugeSessionId := beampipeSessionId execution.uuid execution.createdAt
    daliugeManagerUrl := setup.daliugeManagerUrl
    submissionTimeoutSeconds := config.submissionTimeout
    targetFingerprint := targetFingerprint }

/-- `run_submit_phase`: `execution` is the snapshot the job has read at its start. -/
def runSubmitPhase (config : WorkerConfig) (execution : ExecutionRow) (setup : ExecutionSetup)
    (useReal : Bool) (manifest graph : Json) : Exec Unit := do
  let fingerprint ← orFail (setup.targetFingerprint useReal)
  match ← tx .runSubmitPhase
      (.beginExecutionSubmission (submissionIntent config execution setup fingerprint)) with
  | none => pure ()
  | some deadline =>
      let attempt :=
        if execution.outputVerificationRequired ∧ useReal ∧ setup.backendKind = .slurmRemote then
          some execution.retryCount
        else none
      match ← ask .runSubmitPhase (.submit attempt manifest graph deadline) with
      | .submitted receipt => applySubmitResult execution.uuid receipt useReal config.pool
      | .failed error => do
          let _ ← tx .submitFailed
            (.applyExecutionStatePatch
              { submissionState := some .failed
                failureClass := some .dependencyUnavailable
                lastError := some error })
          .throw (.error error)
      | .uncertain error => do
          let _ ← tx .runSubmitPhase
            (.applyExecutionStatePatch
              { submissionState := some .uncertain
                failureClass := some .inconsistentState
                lastError := some error })
          .throw (.error error)
      | .timedOut error => do
          let _ ← tx .runSubmitPhase
            (.applyExecutionStatePatch
              { submissionState := some .uncertain
                failureClass := some .timeout
                lastError := some error })
          .throw (.error error)

/-! ### The way to the submission -/

/-- `ensure_execution_active`. -/
def ensureExecutionActive (recheckSources : Bool) : Exec ExecutionRow := do
  let execution ← tx .runExecuteBody .getExecution
  if execution.status.isTerminal then
    .throw (.error (s!"execution {execution.uuid} became terminal (" ++ execution.status.asStr
      ++ ") before dispatch"))
  else if recheckSources then do
    let rows ← tx .runExecuteBody .selectSourceRegistry
    let archive ← tx .runExecuteBody .listArchiveMetadataForSources
    match SourceRegistry.executionSourceReadinessErrors ⟨rows, archive⟩ execution.projectModule
        execution.sources execution.discoverySignature with
    | [] => pure execution
    | errors =>
        .throw (.error ("execution source readiness check failed: "
          ++ String.intercalate "; " errors))
  else pure execution

/-- `persist_inline_json_artifact`. -/
def persistInlineJsonArtifact (kind producerPhase : String) (value metadata : Json) :
    Exec Sha256 := do
  let _ ← tx .runExecuteBody
    (.storeExecutionArtifact
      { kind := kind
        storageKind := "database"
        uri := none
        inlineJson := some value
        mediaType := "application/json"
        sha256 := value
        producerPhase := producerPhase
        metadata := metadata })
  pure value

/-- A fresh manifest is staged and built; a replayed one is the manifest of the snapshot. -/
def executeManifest (execution : ExecutionRow) (replayManifest : Bool) : Exec Json :=
  if replayManifest then do
    let replayed := execution.workflowManifest.getD (.obj [])
    orFail (← ask .runExecuteBody (.validateSelectionProof replayed))
    pure replayed
  else do
    let _ ← ensureExecutionActive false
    orFail (← ask .runExecuteBody .buildManifest)

/-- The artifacts of the manifest and the graphs, and their digests in the row. -/
def persistExecutionArtifacts (execution : ExecutionRow) (manifest : Json)
    (graphs : Json × Json) : Exec Unit := do
  let manifestSha256 ← persistInlineJsonArtifact "manifest" "manifest_generated" manifest
    (.obj [("project_module", .str execution.projectModule)])
  let sourceGraphSha256 ← persistInlineJsonArtifact "source_graph" "graph_loaded" graphs.1
    (.obj [("immutable", .bool true)])
  let patchedGraphSha256 ← persistInlineJsonArtifact "patched_graph" "graph_patched" graphs.2
    (.obj [("manifest_sha256", manifestSha256)])
  tx .runExecuteBody
    (.applyExecutionProvenancePatch
      { manifestSha256 := some manifestSha256
        sourceGraphSha256 := some sourceGraphSha256
        patchedGraphSha256 := some patchedGraphSha256 })

/-- The end of a job that was not asked to submit. -/
def finishNotSubmitted (manifest : Json) : Exec Unit := do
  let _ ← tx .notSubmitted
    (.applyExecutionPatch
      { status := some .notSubmitted
        executionPhase := some none
        workflowManifest := some manifest })
  let _ ← tx .notSubmitted .finalizeSuccessfulExecutionSources

/-- The part of `run_execute_body` after admission: manifest, graphs and submission. -/
def prepareAndSubmit (config : WorkerConfig) (execution : ExecutionRow) (setup : ExecutionSetup)
    (payload : ExecutePayload) (replayManifest : Bool) : Exec Unit := do
  let manifest ← executeManifest execution replayManifest
  let graphs ← orFail (← ask .runExecuteBody (.prepareGraph manifest))
  persistExecutionArtifacts execution manifest graphs
  let _ ← tx .runExecuteBody
    (.applyExecutionStatePatch { controlPhase := some .graphPatched })
  if payload.doSubmit then do
    let _ ← tx .runExecuteBody
      (.applyExecutionPatch
        { executionPhase := some (some .submit), workflowManifest := some manifest })
    let _ ← ensureExecutionActive false
    runSubmitPhase config execution setup payload.useReal manifest graphs.2
  else finishNotSubmitted manifest

/-- The ledger patch that puts a worker's execution into `running`. -/
def runningPatch (replayManifest : Bool) : LedgerPatch :=
  if replayManifest then
    { status := some .running, executionPhase := some (some .submit), clearError := true }
  else { status := some .running, executionPhase := some (some .stageAndManifest) }

/-- A request that is made only under a condition. -/
def onlyIf (condition : Bool) (program : Exec Unit) : Exec Unit :=
  if condition then program else pure ()

/-- The ledger patch to `running`. -/
def markRunning (replayManifest : Bool) : Exec Unit := do
  let _ ← tx .runExecuteBody (.applyExecutionPatch (runningPatch replayManifest))

/-- The admission of `run_execute_body`: the row becomes running and admitted. -/
def admitExecution (execution : ExecutionRow) (replayManifest : Bool) : Exec Unit := do
  onlyIf (replayManifest && execution.status == .retrying) (markRunning true)
  let _ ← tx .runExecuteBody (.applyExecutionStatePatch { controlPhase := some .admitted })
  onlyIf (!replayManifest) (markRunning false)

/-- `run_execute_body`. -/
def runExecuteBody (config : WorkerConfig) (execution : ExecutionRow) (payload : ExecutePayload) :
    Exec Unit :=
  if execution.submissionState.holdsAutomaticWork then pure ()
  else do
    let replayManifest :=
      execution.executionPhase == some .submit && execution.workflowManifest.isSome
    let setup ← orFail (← ask .runExecuteBody (.executionSetup execution))
    orFail (setup.ensurePublisherDeliverySupported execution.outputVerificationRequired
      payload.doSubmit payload.useReal)
    let _ ← ensureExecutionActive true
    let archive ← tx .runExecuteBody .listArchiveMetadataForSources
    orFail (← ask .runExecuteBody (.selectArchiveMetadata archive))
    orFail (← ask .runExecuteBody (.preflight payload.doStage (payload.doSubmit && payload.useReal)))
    admitExecution execution replayManifest
    prepareAndSubmit config execution setup payload replayManifest

/-! ### The job -/

/-- `terminal_execute_failure`. -/
def terminalExecuteFailure (error : String) : Exec Unit := do
  let _ ← tx .terminalExecuteFailure
    (.applyExecutionStatePatch
      { terminalOutcome := some .failed
        failureClass := some .internal
        lastError := some error })
  let execution ← tx .terminalExecuteFailure .getExecution
  let _ ← tx .terminalExecuteFailure
    (.applyExecutionPatch
      { status := some .failed
        executionPhase := some execution.executionPhase
        error := some error })
  tx .terminalExecuteFailure .markSourcesPendingWorkflowRun

/-- The error arm of `run_execute`. -/
def executeErrorArm (error : String) : Exec Unit := do
  let current ← tx .executeErrorArm .getExecution
  if current.status.isTerminal then pure ()
  else if current.submissionState.holdsAutomaticWork then
    if current.submissionState = .inFlight then
      tryTx .executeErrorArm
        (.applyExecutionStatePatch
          { submissionState := some .uncertain
            failureClass := some .inconsistentState
            lastError := some error })
    else pure ()
  else terminalExecuteFailure error

/-- `run_execute`. -/
def runExecute (config : WorkerConfig) (payload : ExecutePayload) : Exec Unit := do
  let execution ← tx .runExecute .getExecution
  if execution.status.isTerminal then pure ()
  else
    match ← (runExecuteBody config execution payload).attempt with
    | .ok () => pure ()
    | .error (.error error) => executeErrorArm error
    | .error .panic => .throw .panic

end Beampipe
