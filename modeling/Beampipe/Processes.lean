/-
The processes that touch an execution: workers, the API and the operator.

A worker claims a job, runs it, and closes its lease by the outcome.  The API starts, retries,
cancels and abandons; the operator's command line cancels on its own path.  Each of them is a
program over the requests of `Beampipe/Requests.lean`.

Main definitions:

* `Beampipe.dispatch`, `Beampipe.tickForWorker` — one job of a worker;
* `Beampipe.executeExecution`, `Beampipe.patchExecution`, `Beampipe.abandonExecutionSubmission` —
  the endpoints of the API;
* `Beampipe.cancelByOperator` — the command of the operator;
* `Beampipe.Entry`, `Beampipe.Entry.program` — everything that can be started.
-/

import Beampipe.Pollers

set_option relaxedAutoImplicit false
set_option autoImplicit false

namespace Beampipe

/-! ### Failed jobs -/

/-- `is_non_retryable_job_error`. -/
def isNonRetryableJobError (kind : JobKind) (error : String) : Bool :=
  let lower := toAsciiLowercase error
  match kind with
  | .execute =>
      ["unreachable", "authentication failed", "credentials required", "translation manager",
        "preflight", "dim at", "is unreachable"].any (containsText lower)
  | .discoverBatch => ["authentication failed", "401"].any (containsText lower)
  | .slurmPollTick | .dimPoll | .dimPollTick =>
      ["authentication failed", "connection failed", "unreachable"].any (containsText lower)
  | .schedulerTick | .executionSchedulerTick | .other _ => false

/-- `classify_job_failure`. -/
def classifyJobFailure (kind : JobKind) (error : String) : String :=
  let lower := toAsciiLowercase error
  if ["timeout", "timed out"].any (containsText lower) then "timeout"
  else if ["unauthorized", "authentication", "credential"].any (containsText lower) then
    "authentication"
  else if isNonRetryableJobError kind error then "configuration"
  else if ["conflict", "already exists"].any (containsText lower) then "conflict"
  else "dependency_unavailable"

/-- `retry_delay_seconds`. -/
def retryDelaySeconds (job : JobRow) : ℤ :=
  min (15 * Int.pow 2 (min (job.attempts - 1) 8) + ((job.uuid % 11 : ℕ) : ℤ)) 3600

/-! ### One job of a worker -/

/-- The payload names the execution. -/
def namesExecution (executionId : Uuid) (payload : Json) : Bool :=
  (payload.get "execution_id").bind Json.asStr == some (toString executionId)

/-- A job that belongs to something else. -/
def otherJob : Exec Unit := do
  orFail (← ask .tickForWorker .otherJob)

/-- `dispatch`. -/
def dispatch (config : WorkerConfig) (executionId : Uuid) (job : JobRow) : Exec Unit :=
  match job.kind with
  | .execute =>
      if namesExecution executionId job.payload then
        runExecute config (ExecutePayload.ofJson config job.payload)
      else otherJob
  | .dimPoll =>
      if namesExecution executionId job.payload then runDimPoll config job.payload else otherJob
  | .dimPollTick => runDimPollTick config
  | .slurmPollTick => runSlurmPollTick config
  | .schedulerTick | .discoverBatch | .executionSchedulerTick | .other _ => otherJob

/-- The end of a job that has succeeded. -/
def closeSucceeded (lease : LeaseKey) (job : JobRow) : Exec Unit := do
  if job.kind = .slurmPollTick ∨ job.kind = .dimPollTick then do
    let interval := ((job.payload.get "interval_secs").bind Json.asI64).getD
      (if job.kind = .dimPollTick then 3 else 30)
    let _ ← tx .tickForWorker (.rescheduleRecurringJobWithLease lease interval)
  else do
    let _ ← tx .tickForWorker (.completeJobWithLease lease)

/-- The end of a job that has failed. -/
def closeFailed (lease : LeaseKey) (job : JobRow) (error : String) : Exec Unit := do
  let failureClass := classifyJobFailure job.kind error
  if isNonRetryableJobError job.kind error then do
    let _ ← tx .tickForWorker (.failJobPermanentlyWithLease lease error failureClass)
  else do
    let _ ← tx .tickForWorker
      (.failOrRetryJobWithLease lease error failureClass (retryDelaySeconds job))

/-- A claimed job: it runs under its lease, which its outcome closes.  A job that panics leaves the
lease to run out. -/
def runClaimedJob (config : WorkerConfig) (executionId workerId : Uuid) (job : JobRow) :
    Exec Unit :=
  match job.leaseToken with
  | none => .throw (.error "claimed job has no lease token")
  | some leaseToken => do
      let lease : LeaseKey := ⟨job.uuid, workerId, leaseToken⟩
      match ← (dispatch config executionId job).attempt with
      | .ok () => closeSucceeded lease job
      | .error (.error error) => closeFailed lease job error
      | .error .panic => .throw .panic

/-- `tick_for_worker`.  The renewals of the lease are steps of their own; a worker that finds its
lease lost stops where it stands. -/
def tickForWorker (config : WorkerConfig) (executionId workerId : Uuid) : Exec Unit := do
  match ← tx .tickForWorker
      (.claimNextJobForWorker workerId config.pool config.lockSeconds) with
  | none => pure ()
  | some job => runClaimedJob config executionId workerId job

/-! ### Starting an execution -/

/-- `execute_job_replayable`. -/
def executeJobReplayable : JobStatus → Bool
  | .queued | .running | .completed => true
  | .failed | .deadLetter | .cancelled => false

/-- `execute_job_options`. -/
def executeJobOptions (payload : Json) : Bool × Bool :=
  (((payload.get "do_stage").bind Json.asBool).getD true,
    ((payload.get "do_submit").bind Json.asBool).getD true)

/-- The payload of a started execute job. -/
def executePayload (executionId : Uuid) (doStage doSubmit : Bool) : Json :=
  .obj [("execution_id", .str (toString executionId)), ("do_stage", .bool doStage),
        ("do_submit", .bool doSubmit)]

/-- The part of `execute_execution` that enqueues the job. -/
def startExecution (execution : ExecutionRow) (executionId : Uuid) (doStage doSubmit : Bool)
    (requiredCapabilities : ExecutionRow → Except String (List String)) : Exec Unit := do
  if execution.status ≠ .pending then
    .throw (.error ("execution cannot be started from status '" ++ execution.status.asStr ++ "'"))
  else do
    let capabilities ← orFail (requiredCapabilities execution)
    let enqueued : Option JobRow ←
      tx .api (.enqueueExecuteJob (executePayload executionId doStage doSubmit) capabilities)
    match enqueued with
    | none => pure ()
    | some job =>
        if executeJobOptions job.payload ≠ (doStage, doSubmit) then
          .throw (.error ("a concurrent start request queued different do_stage/do_submit "
            ++ "options"))
        else if ¬executeJobReplayable job.status then
          .throw (.error (s!"execution start request already finished with job status "
            ++ "'" ++ job.status.asStr ++ "'; use the retry endpoint before starting again"))
        else pure ()

/-- `execute_execution`. -/
def executeExecution (executionId : Uuid) (doStage doSubmit : Bool)
    (requiredCapabilities : ExecutionRow → Except String (List String)) : Exec Unit := do
  let execution ← tx .api .getExecution
  let existing : Option JobRow ← tx .api (.getJobByIdempotencyKey (executeKey executionId))
  match existing with
  | none => startExecution execution executionId doStage doSubmit requiredCapabilities
  | some job =>
      if executeJobOptions job.payload ≠ (doStage, doSubmit) then
        .throw (.error ("execution was already queued with different do_stage/do_submit "
          ++ "options"))
      else if executeJobReplayable job.status then pure ()
      else startExecution execution executionId doStage doSubmit requiredCapabilities

/-! ### Cancelling an execution -/

namespace ExecutionRow

/-- `cancellation_is_recovered_uncertain_slurm`. -/
def recoveredUncertainSlurm (row : ExecutionRow) : Bool :=
  row.submissionState == .uncertain && row.schedulerName == some "slurm" &&
    row.schedulerJobId.any isAsciiDigits

/-- `cancellation_submission_is_blocked`. -/
def cancellationBlocked (row : ExecutionRow) : Bool :=
  row.submissionState == .inFlight ||
    (row.submissionState == .uncertain && !row.recoveredUncertainSlurm)

/-- `execution_cancel_requires_external`. -/
def cancelRequiresExternal (row : ExecutionRow) : Bool :=
  (row.status == .awaitingScheduler || row.status == .running) &&
    ((row.schedulerJobId.any (fun id => !isBlank id) &&
        !([SchedulerState.notSubmitted, .succeeded, .failed, .cancelled, .timedOut].contains
          row.schedulerState)) ||
      (row.daliugeSessionId.any (fun id => !isBlank id) &&
        !([DaliugeState.notCreated, .finished, .failed, .cancelled].contains row.daliugeState)))

/-- The confirmation that a cancelled backend gives. -/
def externalConfirmation (row : ExecutionRow) :
    BackendKind → Except String ConfirmedExternalCancellation
  | .slurmRemote =>
      match row.schedulerJobId.filter fun id => !isBlank id with
      | none => .error "Slurm cancellation requires an exact scheduler job ID"
      | some schedulerJobId =>
          let parsed := (parseSchedulerJobId schedulerJobId).slurmJobId
          let exactJobId := if parsed.isEmpty then schedulerJobId else parsed
          if isAsciiDigits exactJobId then .ok (.slurm schedulerJobId exactJobId)
          else .error "Slurm job ID must contain ASCII digits only"
  | .restRemote =>
      match row.daliugeSessionId.filter fun id => !isBlank id with
      | none => .error "DALiuGE cancellation requires an exact session ID"
      | some sessionId => .ok (.daliuge sessionId)

end ExecutionRow

/-- `cancel_execution_scheduler`. -/
def cancelExecutionScheduler : Exec ConfirmedExternalCancellation := do
  let execution ← tx .api .getExecution
  let kind ← orFail (← ask .api .resolveDeployment)
  let confirmation ← orFail (execution.externalConfirmation kind)
  let cancelled ← orFail
    (← ask .api (.cancelSchedulerSession execution.schedulerJobId execution.daliugeSessionId))
  if cancelled then pure confirmation
  else .throw (.error "external cancellation was not confirmed")

/-- `patch_execution` with the status `cancelled`, the only one it accepts. -/
def patchExecution : Exec Unit := do
  let execution ← tx .api .getExecution
  if execution.status.isTerminal then
    .throw (.error ("execution is already terminal (" ++ execution.status.asStr ++ ")"))
  else if execution.cancellationBlocked then
    .throw (.error ("execution submission outcome is unresolved; wait for reconciliation to "
      ++ "record an exact external job before cancelling"))
  else if execution.recoveredUncertainSlurm || execution.cancelRequiresExternal then do
    let confirmation ← cancelExecutionScheduler
    let _ ← tx .api (.cancelExecution (some confirmation))
  else do
    let _ ← tx .api (.cancelExecution none)

/-- The state patch of the operator's cancellation. -/
def operatorCancelPatch : BackendKind → ExecutionStatePatch
  | .restRemote => { daliugeState := some .cancelled }
  | .slurmRemote => { schedulerState := some .cancelled }

/-- `cancel_execution` of the command line. -/
def cancelByOperator : Exec Unit := do
  let execution ← tx .cli .getExecution
  let kind ← orFail (← ask .cli .resolveDeployment)
  let cancelled ← orFail
    (← ask .cli (.cancelSchedulerSession execution.schedulerJobId execution.daliugeSessionId))
  if cancelled then do
    let _ ← tx .cli (.applyExecutionStatePatch (operatorCancelPatch kind))
    let _ ← tx .cli (.applyExecutionPatch { status := some .cancelled })
  else pure ()

/-! ### Abandoning a submission -/

/-- `ExecutionSubmissionAbandonRequest::validate`. -/
def AbandonSlurmSubmissionInput.requestError (input : AbandonSlurmSubmissionInput) :
    Option String :=
  let reason := trim input.reason
  if reason.isEmpty then some "an operator rationale is required for the audit trail"
  else if 1000 < reason.utf8ByteSize then
    some "the operator rationale must be at most 1000 bytes"
  else if input.expectedSubmissionState ≠ .inFlight ∧ input.expectedSubmissionState ≠ .uncertain then
    some "expected_submission_state must be 'in_flight' or 'uncertain'"
  else if isBlank input.expectedDaliugeSessionId ∨
      trim input.expectedDaliugeSessionId ≠ input.expectedDaliugeSessionId then
    some ("expected_daliuge_session_id must be a non-empty exact identifier without surrounding "
      ++ "whitespace")
  else if ¬input.acknowledgeExternalJobMayExist then
    some "acknowledge_external_job_may_exist must be true"
  else none

/-- `abandon_execution_submission`. -/
def abandonExecutionSubmission (input : AbandonSlurmSubmissionInput)
    (evidence : List ExecutionObservationRow → SlurmAbandonmentEvidenceExpectation →
      Except String (List Uuid)) : Exec Unit :=
  match input.requestError with
  | some error => .throw (.error error)
  | none => do
      let _ ← tx .api (.abandonSlurmSubmission { input with reason := trim input.reason } evidence)

/-! ### Everything that can be started -/

/-- A process to be started. -/
inductive Entry where
  | tickForWorker (config : WorkerConfig) (workerId : Uuid)
  | executeExecution (doStage doSubmit : Bool)
      (requiredCapabilities : ExecutionRow → Except String (List String))
  | retryExecution (reason : String)
      (requiredCapabilities : ExecutionRetryPlan → Except String (List String))
  | patchExecution
  | cancelByOperator
  | abandonExecutionSubmission (input : AbandonSlurmSubmissionInput)
      (evidence : List ExecutionObservationRow → SlurmAbandonmentEvidenceExpectation →
        Except String (List Uuid))

/-- The program of a process. -/
def Entry.program (executionId : Uuid) : Entry → Exec Unit
  | .tickForWorker config workerId => Beampipe.tickForWorker config executionId workerId
  | .executeExecution doStage doSubmit requiredCapabilities =>
      Beampipe.executeExecution executionId doStage doSubmit requiredCapabilities
  | .retryExecution reason requiredCapabilities => do
      let _ ← tx .api (.retryExecution reason requiredCapabilities)
  | .patchExecution => Beampipe.patchExecution
  | .cancelByOperator => Beampipe.cancelByOperator
  | .abandonExecutionSubmission input evidence =>
      Beampipe.abandonExecutionSubmission input evidence

end Beampipe
