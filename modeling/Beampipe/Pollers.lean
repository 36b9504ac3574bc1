/-
The pollers: DIM sessions, Slurm jobs, unresolved submissions and output inventories.

A poller lists the executions that wait for it, asks the outside about each, and folds the answer
into the row with a state patch; a terminal answer also settles the sources.  Like the execute job
it works on the row it has listed, so every step may meet a row that others have changed.

Main definitions:

* `Beampipe.finalizeExecutionSourcePending` — what a terminal status does to the sources;
* `Beampipe.applyDimPollUpdate`, `Beampipe.runDimPoll`, `Beampipe.runDimPollTick` — DIM sessions;
* `Beampipe.applySlurmPollUpdate`, `Beampipe.recordSlurmPollFailure`,
  `Beampipe.reconcileUncertainSlurmSubmissions`, `Beampipe.retrieveSlurmOutputInventories`,
  `Beampipe.runSlurmPollTick` — Slurm jobs.
-/

import Beampipe.ExecuteWorker

set_option relaxedAutoImplicit false
set_option autoImplicit false

namespace Beampipe

/-! ### The sources of a finished execution -/

/-- `finalize_execution_source_pending`. -/
def finalizeExecutionSourcePending (status : ExecutionStatus) : Exec Unit :=
  match status with
  | .failed => tx .finalizeExecutionSourcePending .markSourcesPendingWorkflowRun
  | .completed | .notSubmitted => do
      let _ ← tx .finalizeExecutionSourcePending .finalizeSuccessfulExecutionSources
  | .cancelled => tx .finalizeExecutionSourcePending .clearWorkflowPendingForSources
  | .pending | .running | .awaitingScheduler | .retrying => pure ()

/-- `poll_control_phase`. -/
def pollControlPhase (row : ExecutionRow) (externalSucceeded : Bool) : ControlPhase :=
  if externalSucceeded && row.outputVerificationRequired && row.outputState != .verified then
    .outputVerification
  else .monitoring

/-- `terminal_ledger_status`. -/
def terminalLedgerStatus (status : ExecutionStatus) : Option String :=
  if status.isTerminal then some status.asStr else none

/-- The sources of a row that has just become `status` are still to be settled: the completion
through verified outputs has settled them already. -/
def sourcesUnsettled (transition : Store.StateApplyResult) : Bool :=
  transition.enteredTerminal &&
    !(transition.row.status == .completed && transition.row.requiredOutputsVerified)

/-! ### DIM sessions -/

/-- The state a DIM poll reports. -/
def BackendPoll.daliugeState (poll : BackendPoll) : DaliugeState :=
  match poll.status with
  | .failed => .failed
  | .cancelled => .cancelled
  | .completed => poll.sessionState.getD .finished
  | _ => poll.sessionState.getD .running

/-- The observation of a DIM poll. -/
def dimPollObservation (poll : BackendPoll) : ExecutionObservationInput :=
  { kind := "daliuge_session"
    normalizedState := poll.daliugeState.asStr
    rawState := poll.rawStatus.map fun text => String.ofList (text.toList.take 128)
    reason := none
    payload := poll.pollSummary
    sourceVersion := none }

/-- The state patch of a DIM poll; `execution` is the row the poller has read. -/
def dimPollPatch (execution : ExecutionRow) (poll : BackendPoll) : ExecutionStatePatch :=
  { controlPhase :=
      some (pollControlPhase execution (poll.daliugeState == .finished &&
        (execution.schedulerState == .succeeded || execution.schedulerState == .notSubmitted)))
    daliugeState := some poll.daliugeState }

/-- The session of an execution. -/
def dimSessionId (execution : ExecutionRow) : String :=
  execution.daliugeSessionId.getD (toString execution.uuid)

/-- The number of drops in error a summary names. -/
def errorDropsCount (pollSummary : Json) : Option ℤ :=
  match pollSummary.get "error_drop_uids" with
  | some (.arr uids) => some uids.length
  | _ => none

/-- `dim_logs_url`. -/
def dimLogsUrl (dimBase sessionId : String) : String :=
  trimEndSlashes dimBase ++ "/api/sessions/" ++ sessionId ++ "/logs"

/-- The manifest after a DIM poll. -/
def dimPollManifest (clock : String) (execution reconciled : ExecutionRow) (poll : BackendPoll)
    (dimBase : Option String) : Option Json :=
  if poll.status.isTerminal then
    (mergeDimPollIntoManifest clock reconciled.workflowManifest (dimSessionId execution)
      poll.daliugeState.asStr true (terminalLedgerStatus reconciled.status) none
      (errorDropsCount poll.pollSummary)).map fun manifest =>
        match poll.status, dimBase with
        | .failed, some dimBase =>
            Json.insert "dim_logs_url" (.str (dimLogsUrl dimBase (dimSessionId execution))) manifest
        | _, _ => manifest
  else some (mergePollSummary reconciled.workflowManifest "dim_poll" poll.pollSummary)

/-- The timeout arm of `apply_dim_poll_update`. -/
def dimPollTimeout (clock : String) (manifest : Json) : Exec Unit := do
  let timedOut ← orPanic
    (mergeSchedulerTimeoutIntoManifest clock (some manifest) "DIM poll exceeded max rounds")
  let _ ← tx .dimPollTimeout
    (.applyExecutionStatePatch
      { failureClass := some .timeout, lastError := some "DIM poll timeout" })
  let _ ← tx .dimPollTimeout
    (.applyExecutionPatch
      { status := some .failed
        workflowManifest := some timedOut
        error := some "DIM poll timeout" })
  tx .dimPollTimeout .markSourcesPendingWorkflowRun

/-- A poll that leaves the session alive has used up its rounds. -/
def dimPollExhausted (poll : BackendPoll) (pollRound : ℤ) (policy : PollPolicy) : Bool :=
  !poll.status.isTerminal && decide (policy.restMaxRounds ≤ pollRound + 1)

/-- The payload of the next DIM poll job. -/
def dimPollPayload (executionId : Uuid) (pollRound : ℤ) (useReal : Bool) : Json :=
  .obj [("execution_id", .str (toString executionId)), ("poll_round", .num (.int pollRound)),
        ("use_real_backends", .bool useReal)]

/-- `apply_dim_poll_update`. -/
def applyDimPollUpdate (config : WorkerConfig) (execution : ExecutionRow) (poll : BackendPoll)
    (pollRound : ℤ) (policy : PollPolicy) (dimBase : Option String) (fromTick useReal : Bool) :
    Exec Unit := do
  let _ ← tx .applyDimPollUpdate (.recordExecutionObservation (dimPollObservation poll))
  let transition ← tx .applyDimPollUpdate (.applyExecutionStatePatch (dimPollPatch execution poll))
  if transition.previousStatus.isTerminal then pure ()
  else do
    let exhausted := dimPollExhausted poll pollRound policy
    let clock ← ask (if exhausted then .dimPollTimeout else .applyDimPollUpdate) .clock
    let manifest ← orPanic (dimPollManifest clock execution transition.row poll dimBase)
    if poll.status.isTerminal then do
      let _ ← tx .applyDimPollUpdate (.applyExecutionPatch { workflowManifest := some manifest })
      onlyIf (sourcesUnsettled transition)
        (finalizeExecutionSourcePending transition.row.status)
    else if exhausted then dimPollTimeout clock manifest
    else if fromTick then do
      let _ ← tx .applyDimPollUpdate
        (.applyExecutionPatch
          { workflowManifest := some (mergeDimPollTickRound clock (some manifest) (pollRound + 1)) })
    else do
      let _ ← tx .applyDimPollUpdate (.applyExecutionPatch { workflowManifest := some manifest })
      tx .applyDimPollUpdate
        (.enqueueDimPollJob (dimPollPayload execution.uuid (pollRound + 1) useReal)
          policy.restIntervalSecs (pollRound + 1) config.pool)

/-- What a DIM client answers, real or mocked. -/
def pollDim (site : Site) (useReal : Bool) (sessionId : String) :
    Exec (Except DimPollError BackendPoll) :=
  if useReal then do
    match ← ask site (.dimPoll sessionId) with
    | .ok observation => pure (.ok (observation.poll sessionId))
    | .error error => pure (.error error)
  else pure (.ok (DimObservation.mock.poll sessionId))

/-- `run_dim_poll`. -/
def runDimPoll (config : WorkerConfig) (payload : Json) : Exec Unit := do
  let pollRound := ((payload.get "poll_round").bind Json.asI64).getD 0
  let useReal := ((payload.get "use_real_backends").bind Json.asBool).getD config.useRealBackends
  let execution ← tx .runDimPoll .getExecution
  let policy ← ask .runDimPoll .pollPolicy
  match ← pollDim .runDimPoll useReal (dimSessionId execution) with
  | .error error => .throw (.error error.detail)
  | .ok poll => applyDimPollUpdate config execution poll pollRound policy none false useReal

/-- `record_dim_reconciliation_error`. -/
def recordDimReconciliationError (error : DimPollError) : Exec Unit := do
  let state := if error.notFound then DaliugeState.notCreated else .unreachable
  let _ ← tx .recordDimReconciliationError
    (.recordExecutionObservation
      { kind := "daliuge_session"
        normalizedState := state.asStr
        rawState := some error.kind
        reason := some error.detail
        payload := .obj [("error_kind", .str error.kind), ("retryable", .bool error.retryable)]
        sourceVersion := none })
  let _ ← tx .recordDimReconciliationError
    (.applyExecutionStatePatch
      { daliugeState := some state
        failureClass := some error.failureClass
        lastError := some error.detail })

/-- One execution of `run_dim_poll_tick`. -/
def dimPollTickItem (config : WorkerConfig) (execution : ExecutionRow) : Exec Unit :=
  match execution.daliugeSessionId.filter fun id => !id.isEmpty with
  | none => pure ()
  | some sessionId => do
      let profileEndpoint : Option String ← ask .runDimPoll (.dimEndpoint execution)
      match (execution.daliugeManagerUrl.filter fun url => !isBlank url) <|> profileEndpoint with
      | none => pure ()
      | some endpoint => do
          let policy ← ask .runDimPoll .pollPolicy
          match ← pollDim .runDimPoll config.useRealBackends sessionId with
          | .error error => recordDimReconciliationError error
          | .ok poll =>
              applyDimPollUpdate config execution poll
                (dimPollRoundFromManifest execution.workflowManifest) policy (some endpoint) true
                config.useRealBackends

/-- `run_dim_poll_tick`. -/
def runDimPollTick (config : WorkerConfig) : Exec Unit := do
  let executions ← tx .runDimPoll .listRestExecutionsPendingPoll
  forEach executions (dimPollTickItem config)

/-! ### Slurm jobs -/

/-- `stderr_diagnostics`. -/
def stderrDiagnostics (sessionDir : Option String) : Option Json :=
  (sessionDir.filter fun dir => !isBlank dir).map fun dir =>
    .obj [("stderr_glob", .str (trimEndSlashes dir ++ "/logs/err-*.log"))]

/-- `manifest_for_slurm_poll`. -/
def manifestForSlurmPoll (clock : String) (execution : ExecutionRow) (result : SlurmJobPollResult)
    (schedulerJobId : String) (recordTerminal : Bool) (terminalLedgerStatus reason : Option String) :
    Option Json :=
  let parsed := parseSchedulerJobId schedulerJobId
  let remoteSessionDir := parsed.sessionDir <|> execution.remoteSessionDir
  mergeSlurmPollIntoManifest clock execution.workflowManifest schedulerJobId parsed.slurmJobId
    result.state.token result.source.asStr (result.rawLine <|> some result.rawState) recordTerminal
    terminalLedgerStatus
    { exitCode := result.exitCode
      remoteSessionDir := remoteSessionDir
      reason := reason
      diagnostics := stderrDiagnostics remoteSessionDir }

/-- `record_slurm_poll_escalation`. -/
def recordSlurmPollEscalation (site : Site) (schedulerState : SchedulerState)
    (progress : SlurmPollProgress) (maxRounds : ℤ) (reason : String) : Exec Unit :=
  onlyIf progress.operatorEscalated do
    let _ ← tx site
      (.recordExecutionObservation
        { kind := "scheduler"
          normalizedState := schedulerState.asStr
          rawState := some "poll_budget_escalation"
          reason := some ("Slurm polling reached its configured budget while the scheduler state "
            ++ "remained " ++ schedulerState.asStr ++ "; manual reconciliation is required")
          payload :=
            .obj [("operator_action_required", .bool true), ("escalation_reason", .str reason),
                  ("poll_round", .num (.int progress.nextRound)),
                  ("max_rounds", .num (.int maxRounds)), ("terminalized", .bool false)]
          sourceVersion := none })

/-- The state patch of a Slurm poll; `execution` is the row the poller has read. -/
def slurmPollPatch (execution : ExecutionRow) (result : SlurmJobPollResult) : ExecutionStatePatch :=
  { controlPhase := some (pollControlPhase execution (result.state == .succeeded))
    schedulerState := some result.state
    daliugeState := if result.state = .succeeded then some .finished else none
    clearFailureContext := result.hasSchedulerObservation }

/-- The observation of a Slurm poll. -/
def slurmPollObservation (schedulerJobId : String) (result : SlurmJobPollResult) :
    ExecutionObservationInput :=
  { kind := "scheduler"
    normalizedState := result.state.asStr
    rawState := some result.rawState
    reason := result.reason
    payload :=
      .obj [("scheduler_job_id", .str schedulerJobId),
            ("slurm_job_id", .str (parseSchedulerJobId schedulerJobId).slurmJobId),
            ("source", .str result.source.asStr),
            ("exit_code", (result.exitCode.map fun code => Json.num (.int code)).getD .null),
            ("raw_line", textJson result.rawLine),
            ("daliuge_completion_inferred", .bool (result.state == .succeeded))]
    sourceVersion := none }

/-- The error text of a failed Slurm job. -/
def slurmFailureText (execution : ExecutionRow) (schedulerJobId : String)
    (result : SlurmJobPollResult) : String :=
  let parsed := parseSchedulerJobId schedulerJobId
  let reason := (terminalReason result.state).getD result.state.token
  let exitCode :=
    match result.exitCode with
    | some code => s!" exit_code={code}"
    | none => ""
  let stderr :=
    match (parsed.sessionDir <|> execution.remoteSessionDir).filter fun dir => !dir.isEmpty with
    | some dir => " stderr_glob=" ++ trimEndSlashes dir ++ "/logs/err-*.log"
    | none => ""
  s!"SLURM job {parsed.slurmJobId} finished in state={result.state.token} reason={reason}"
    ++ exitCode ++ stderr

/-- The part of `apply_slurm_poll_update` for a job that is still alive, or unknown. -/
def applySlurmPollActive (clock : String) (reconciled : ExecutionRow) (schedulerJobId : String)
    (result : SlurmJobPollResult) (pollRound maxRounds : ℤ) (reason : String) : Exec Unit := do
  let manifest ← orPanic
    (manifestForSlurmPoll clock reconciled result schedulerJobId false none none)
  let progress := advanceSlurmPollProgress clock (some manifest) pollRound maxRounds reason
  let _ ← tx .applySlurmPollUpdate
    (.applyExecutionPatch { workflowManifest := some progress.manifest })
  recordSlurmPollEscalation .applySlurmPollUpdate result.state progress maxRounds reason

/-- The part of `apply_slurm_poll_update` for a job that has ended. -/
def applySlurmPollTerminal (clock : String) (execution : ExecutionRow) (schedulerJobId : String)
    (result : SlurmJobPollResult) (transition : Store.StateApplyResult) : Exec Unit := do
  let status := transition.row.status
  let manifest ← orPanic
    (manifestForSlurmPoll clock transition.row result schedulerJobId true
      (terminalLedgerStatus status) (terminalReason result.state))
  let _ ← tx .applySlurmPollUpdate
    (.applyExecutionPatch
      { workflowManifest := some manifest
        error :=
          if status = .failed then some (slurmFailureText execution schedulerJobId result)
          else none })
  onlyIf (sourcesUnsettled transition) (finalizeExecutionSourcePending status)

/-- `apply_slurm_poll_update`. -/
def applySlurmPollUpdate (execution : ExecutionRow) (result : SlurmJobPollResult) (pollRound : ℤ)
    (policy : PollPolicy) : Exec Unit := do
  let schedulerJobId := execution.schedulerJobId.getD ""
  let _ ← tx .applySlurmPollUpdate
    (.recordExecutionObservation (slurmPollObservation schedulerJobId result))
  let transition ← tx .applySlurmPollUpdate
    (.applyExecutionStatePatch (slurmPollPatch execution result))
  if transition.previousStatus.isTerminal then pure ()
  else do
    let clock ← ask .applySlurmPollUpdate .clock
    match result.state with
    | .unknown =>
        applySlurmPollActive clock transition.row schedulerJobId result pollRound
          policy.slurmMaxRounds "scheduler_state_unknown"
    | .pending | .running =>
        applySlurmPollActive clock transition.row schedulerJobId result pollRound
          policy.slurmMaxRounds "scheduler_job_still_active"
    | .notSubmitted | .succeeded | .failed | .cancelled | .timedOut =>
        applySlurmPollTerminal clock execution schedulerJobId result transition

/-- `record_slurm_poll_failure`: the manifest it writes is merged from the row the poller has
read, whatever the row is by now. -/
def recordSlurmPollFailure (execution : ExecutionRow) (error : SlurmPollError) : Exec Unit := do
  let policy ← ask .recordSlurmPollFailure .pollPolicy
  let clock ← ask .recordSlurmPollFailure .clock
  let progress := advanceSlurmPollProgress clock execution.workflowManifest
    (slurmPollRoundFromManifest execution.workflowManifest) policy.slurmMaxRounds
    "scheduler_poll_error"
  let _ ← tx .recordSlurmPollFailure
    (.recordExecutionObservation
      { kind := "scheduler"
        normalizedState := execution.schedulerState.asStr
        rawState := some error.errorKind
        reason := some error.detail
        payload :=
          .obj [("operation", .str error.operation), ("error_kind", .str error.errorKind),
                ("retryable", .bool error.retryable),
                ("poll_round", .num (.int progress.nextRound)),
                ("operator_escalated", .bool progress.operatorEscalated),
                ("scheduler_state_preserved", .bool true)]
        sourceVersion := none })
  let _ ← tx .recordSlurmPollFailure
    (.applyExecutionStatePatch
      { failureClass := some error.failureClass, lastError := some error.detail })
  let _ ← tx .recordSlurmPollFailure
    (.applyExecutionPatch { workflowManifest := some progress.manifest })
  recordSlurmPollEscalation .recordSlurmPollFailure execution.schedulerState progress
    policy.slurmMaxRounds "scheduler_poll_error"

/-- What the scheduler answers about one job, real or mocked. -/
def querySlurmState (useReal : Bool) (schedulerJobId : String) :
    Exec (Except SlurmPollError SlurmJobPollResult) :=
  if useReal then ask .runSlurmPollTick (.slurmStates schedulerJobId)
  else pure (.ok SlurmJobPollResult.mock)

/-- One execution of `run_slurm_poll_tick`. -/
def slurmPollTickItem (config : WorkerConfig) (execution : ExecutionRow) : Exec Unit := do
  match ← ask .runSlurmPollTick (.slurmTarget execution) with
  | some error => recordSlurmPollFailure execution error
  | none => do
      let schedulerJobId := execution.schedulerJobId.getD ""
      match ← querySlurmState config.useRealBackends schedulerJobId with
      | .error error => recordSlurmPollFailure execution error
      | .ok result => do
          let policy ← ask .runSlurmPollTick .pollPolicy
          applySlurmPollUpdate execution result
            (slurmPollRoundFromManifest execution.workflowManifest) policy

/-! ### Output inventories -/

/-- `record_output_inventory_retrieval_failure`. -/
def recordOutputInventoryRetrievalFailure (code detail : String) (failureClass : FailureClass)
    (retryable : Bool) : Exec Unit := do
  let state := if retryable then OutputState.pending else .failed
  let _ ← tx .recordOutputInventoryRetrievalFailure
    (.recordExecutionObservation
      { kind := "output"
        normalizedState := if retryable then "pending" else "failed"
        rawState := some code
        reason := some detail
        payload :=
          .obj [("source", .str "slurm_sftp"), ("retryable", .bool retryable),
                ("scheduler_state_preserved", .str "succeeded")]
        sourceVersion := some "beampipe-output-inventory/v1" })
  let transition ← tx .recordOutputInventoryRetrievalFailure
    (.applyExecutionStatePatch
      { controlPhase := some .outputVerification
        outputState := some state
        failureClass := some failureClass
        lastError := some detail })
  onlyIf transition.enteredTerminal (finalizeExecutionSourcePending .failed)

/-- `commit_retrieved_output_inventory`. -/
def commitRetrievedOutputInventory (execution : ExecutionRow) (report : OutputReport) :
    Exec Unit := do
  orFail (report.accepted execution.retryCount)
  let clock ← ask .retrieveSlurmOutputInventories .clock
  let _ ← tx .retrieveSlurmOutputInventories (.verifyExecutionOutputs report clock)

/-- One execution of `retrieve_slurm_output_inventories`. -/
def retrieveOutputInventoryItem (execution : ExecutionRow) : Exec Unit := do
  match ← ask .retrieveSlurmOutputInventories
      (.readOutputInventory (execution.remoteSessionDir.getD "") execution.retryCount) with
  | .failed code detail failureClass retryable =>
      recordOutputInventoryRetrievalFailure code detail failureClass retryable
  | .rejected detail =>
      recordOutputInventoryRetrievalFailure "inventory_rejected" detail .validation false
  | .report report => do
      match ← (commitRetrievedOutputInventory execution report).attempt with
      | .ok () => pure ()
      | .error (.error detail) =>
          recordOutputInventoryRetrievalFailure "inventory_rejected" detail .validation false
      | .error .panic => .throw .panic

/-- `retrieve_slurm_output_inventories`. -/
def retrieveSlurmOutputInventories (useReal : Bool) : Exec Unit :=
  onlyIf useReal do
    let executions ← tx .retrieveSlurmOutputInventories .listSlurmExecutionsPendingOutputInventory
    forEach executions retrieveOutputInventoryItem

/-! ### Unresolved submissions -/

/-- A failure of the reconciler before its lookup. -/
def reconcileError (errorKind detail : String) (failureClass : FailureClass) : SlurmPollError :=
  { operation := "find_by_name"
    errorKind := errorKind
    detail := detail
    failureClass := failureClass
    retryable := false }

/-- The evidence of a lookup for an intent.  A failed lookup carries the time of the intent itself,
a completed one the time its client has used. -/
def NameLookup.recordInput (lookup : NameLookup) (intent : ExecutionObservationRow)
    (sessionId targetFingerprint : String) : SlurmNameLookupRecordInput :=
  { lookupId := lookup.lookupId
    intentObservationId := intent.uuid
    daliugeSessionId := sessionId
    profileSha256 := lookup.profileSha256
    targetFingerprint := targetFingerprint
    accountingNotBefore :=
      match lookup.outcome with
      | .error _ _ _ => intent.observedAt
      | _ => lookup.accountingNotBefore
    queryStartedAt := lookup.queryStartedAt
    queryCompletedAt := lookup.queryCompletedAt
    squeueComplete := lookup.squeueComplete
    sacctComplete := lookup.sacctComplete
    outcome := lookup.outcome }

/-- `slurm_poll_result_from_name_lookup`. -/
def slurmPollResultFromNameLookup : SlurmNameLookupOutcome → Option SlurmJobPollResult
  | .exact _ state rawState reason source =>
      some
        { rawState := rawState
          state := state
          source :=
            if source = "squeue" then .squeue else if source = "sacct" then .sacct else .nameLookup
          exitCode := none
          rawLine :=
            match reason.filter fun reason => !reason.isEmpty with
            | some reason => some (rawState ++ "|" ++ reason)
            | none => some rawState }
  | .notFound | .ambiguous _ | .error _ _ _ => none

/-- The lookup of one unresolved submission, once its target is known. -/
def reconcileLookup (sessionId currentFingerprint : String) (execution : ExecutionRow)
    (intent : ExecutionObservationRow) : Exec Unit :=
  match ((intent.payload.get "target_fingerprint").bind Json.asStr).filter
      fun value => !value.isEmpty with
  | none =>
      recordSlurmPollFailure execution
        (reconcileError "missing_submission_target_fingerprint"
          "the unresolved Slurm submission has no pinned resolved target identity"
          .inconsistentState)
  | some fingerprint =>
      if currentFingerprint ≠ fingerprint then
        recordSlurmPollFailure execution
          (reconcileError "submission_target_identity_changed"
            ("the resolved Slurm login target or remote user changed after submission intent; "
              ++ "refusing name lookup") .inconsistentState)
      else do
        let lookup ← ask .reconcileUncertainSlurmSubmissions
          (.findByName sessionId intent.observedAt)
        let recorded ← tx .reconcileUncertainSlurmSubmissions
          (.recordSlurmNameLookup (lookup.recordInput intent sessionId fingerprint))
        match (slurmPollResultFromNameLookup lookup.outcome).filter
            fun _ => !recorded.lateAfterAbandonment with
        | none => pure ()
        | some result => do
            let policy ← ask .reconcileUncertainSlurmSubmissions .pollPolicy
            applySlurmPollUpdate recorded.execution result
              (slurmPollRoundFromManifest recorded.execution.workflowManifest) policy

/-- One execution of `reconcile_uncertain_slurm_submissions`. -/
def reconcileItem (execution : ExecutionRow) : Exec Unit :=
  match execution.daliugeSessionId.filter fun id => !id.isEmpty with
  | none =>
      recordSlurmPollFailure execution
        (reconcileError "missing_daliuge_session_id"
          "the uncertain Slurm submission has no stable DALiuGE session name" .configuration)
  | some sessionId => do
      match ← ask .reconcileUncertainSlurmSubmissions (.reconcileTarget execution) with
      | .error error => recordSlurmPollFailure execution error
      | .ok currentFingerprint => do
          match ← tx .reconcileUncertainSlurmSubmissions .latestSubmissionIntentObservation with
          | none =>
              recordSlurmPollFailure execution
                (reconcileError "missing_submission_intent_evidence"
                  "the unresolved Slurm submission has no persisted intent timestamp"
                  .inconsistentState)
          | some intent => do
              let currentFingerprint ← orFail currentFingerprint
              reconcileLookup sessionId currentFingerprint execution intent

/-- `reconcile_uncertain_slurm_submissions`. -/
def reconcileUncertainSlurmSubmissions (useReal : Bool) : Exec Unit :=
  onlyIf useReal do
    let executions ←
      tx .reconcileUncertainSlurmSubmissions .listSlurmSubmissionsPendingReconciliation
    forEach executions reconcileItem

/-- `run_slurm_poll_tick`. -/
def runSlurmPollTick (config : WorkerConfig) : Exec Unit := do
  reconcileUncertainSlurmSubmissions config.useRealBackends
  let executions ← tx .runSlurmPollTick .listSlurmExecutionsPendingPoll
  forEach executions (slurmPollTickItem config)
  retrieveSlurmOutputInventories config.useRealBackends

end Beampipe
