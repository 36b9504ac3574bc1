/-
The store of one execution, and the transactions on it.

An execution owns its row, its artifacts and its observations, and shares the source registry and
the job queue with the rest of the program.  Every function below is one database transaction: it
maps the store to the store after the commit together with what it returns, or fails and leaves the
store as it was.  Rows of `batch_execution_record` are never deleted, so the row is always there.
The transactions of a submission are in `Beampipe/SubmissionStore.lean`.

Timestamps are microseconds of the database clock, also inside payloads.

Main definitions:

* `Beampipe.ExecutionArtifactRow`, `Beampipe.ExecutionObservationRow`, `Beampipe.Store` — the data;
* `Beampipe.Store.applyExecutionPatch`, `Beampipe.Store.applyExecutionStatePatchWithTransition`,
  `Beampipe.Store.applyExecutionProvenancePatch` — the writers of the row;
* `Beampipe.Store.storeExecutionArtifact`, `Beampipe.Store.recordExecutionObservation`;
* `Beampipe.Store.markSourcesPending`, `Beampipe.Store.clearSourcesPending`,
  `Beampipe.Store.finalizeSuccessfulExecutionSources` — what an outcome does to the sources;
* `Beampipe.Store.retryExecution`, `Beampipe.Store.cancelExecution`;
* `Beampipe.Store.slurmPollPending` and the other three filters of the pollers;
* `Beampipe.Store.enqueueExecuteJob`, `Beampipe.Store.enqueueDimPollJob`.

Main results:

* `Beampipe.Store.applyExecutionStatePatchWithTransition_cases` — what a state patch does;
* `Beampipe.Store.retryExecution_cases`, `Beampipe.Store.cancelExecution_cases` — what an accepted
  retry and cancellation have checked, and the row they leave.
-/

import Beampipe.ExecutionLedger

set_option relaxedAutoImplicit false
set_option autoImplicit false

namespace Beampipe

/-! ### Rows -/

/-- A row of `execution_artifacts`.  The size of a stored document is a function of it. -/
structure ExecutionArtifactRow where
  uuid : Uuid
  kind : String
  storageKind : String
  uri : Option String
  inlineJson : Option Json
  mediaType : String
  sha256 : Sha256
  producerPhase : String
  metadata : Json
  createdAt : ℕ
  deriving DecidableEq, Repr

/-- `ExecutionArtifactInput`. -/
structure ExecutionArtifactInput where
  kind : String
  storageKind : String
  uri : Option String
  inlineJson : Option Json
  mediaType : String
  sha256 : Sha256
  producerPhase : String
  metadata : Json
  deriving DecidableEq, Repr

/-- The row an artifact becomes. -/
def ExecutionArtifactInput.row (uuid : Uuid) (now : ℕ) (artifact : ExecutionArtifactInput) :
    ExecutionArtifactRow :=
  { uuid := uuid
    kind := artifact.kind
    storageKind := artifact.storageKind
    uri := artifact.uri
    inlineJson := artifact.inlineJson
    mediaType := artifact.mediaType
    sha256 := artifact.sha256
    producerPhase := artifact.producerPhase
    metadata := artifact.metadata
    createdAt := now }

/-- The row has the document and the metadata of the artifact. -/
structure ExecutionArtifactRow.Holds (row : ExecutionArtifactRow)
    (artifact : ExecutionArtifactInput) : Prop where
  kind : row.kind = artifact.kind
  uri : row.uri = artifact.uri
  inlineJson : row.inlineJson = artifact.inlineJson
  sha256 : row.sha256 = artifact.sha256
  metadata : row.metadata = artifact.metadata

/-- A row of `execution_observations`. -/
structure ExecutionObservationRow where
  uuid : Uuid
  kind : String
  normalizedState : String
  rawState : Option String
  reason : Option String
  payload : Json
  sourceVersion : Option String
  observedAt : ℕ
  deriving DecidableEq, Repr

/-- `ExecutionObservationInput`. -/
structure ExecutionObservationInput where
  kind : String
  normalizedState : String
  rawState : Option String
  reason : Option String
  payload : Json
  sourceVersion : Option String
  deriving DecidableEq, Repr

/-- The row an observation becomes. -/
def ExecutionObservationInput.row (uuid : Uuid) (observedAt : ℕ) (input : ExecutionObservationInput) :
    ExecutionObservationRow :=
  { uuid := uuid
    kind := input.kind
    normalizedState := input.normalizedState
    rawState := input.rawState
    reason := input.reason
    payload := input.payload
    sourceVersion := input.sourceVersion
    observedAt := observedAt }

/-- One execution with its artifacts and observations, the source registry and the job queue, whose
clock is the clock of the database. -/
structure Store where
  row : ExecutionRow
  artifacts : List ExecutionArtifactRow
  observations : List ExecutionObservationRow
  registry : SourceRegistry
  queue : JobQueue
  deriving DecidableEq, Repr

/-- The outputs of the execution are required and verified. -/
def ExecutionRow.requiredOutputsVerified (row : ExecutionRow) : Bool :=
  row.outputVerificationRequired && row.outputState == .verified

namespace Store

/-- `now()`. -/
def now (s : Store) : ℕ := s.queue.now

/-! ### Artifacts and observations -/

/-- `validate_artifact`, apart from the digest and the size. -/
def artifactError (artifact : ExecutionArtifactInput) : Option String :=
  if ¬["database", "file", "remote", "http"].contains artifact.storageKind then
    some "artifact storage_kind must be database, file, remote, or http"
  else if artifact.uri.isNone ∧ artifact.inlineJson.isNone then
    some "artifact requires uri or inline_json"
  else none

/-- The artifact of a kind and a digest. -/
def findArtifact (s : Store) (kind : String) (sha256 : Sha256) : Option ExecutionArtifactRow :=
  s.artifacts.find? fun artifact => artifact.kind == kind && artifact.sha256 == sha256

theorem findArtifact_some {s : Store} {kind : String} {sha256 : Sha256}
    {row : ExecutionArtifactRow} (h : s.findArtifact kind sha256 = some row) :
    row ∈ s.artifacts ∧ row.kind = kind ∧ row.sha256 = sha256 := by
  have hkey := List.find?_some h
  simp only [Bool.and_eq_true, beq_iff_eq] at hkey
  exact ⟨List.mem_of_find?_eq_some h, hkey⟩

/-- `store_execution_artifact`: a second artifact of one kind and digest is not stored again. -/
def storeExecutionArtifact (s : Store) (uuid : Uuid) (artifact : ExecutionArtifactInput) :
    Except String (Store × ExecutionArtifactRow) :=
  match artifactError artifact with
  | some error => .error error
  | none =>
      match s.findArtifact artifact.kind artifact.sha256 with
      | some existing => .ok (s, existing)
      | none =>
          let row := artifact.row uuid s.now
          .ok ({ s with artifacts := s.artifacts ++ [row] }, row)

/-- `record_execution_observation`. -/
def recordExecutionObservation (s : Store) (uuid : Uuid) (observation : ExecutionObservationInput) :
    Except String (Store × ExecutionObservationRow) :=
  if ["scheduler", "daliuge_session", "daliuge_graph", "output"].contains observation.kind then
    let row := observation.row uuid s.now
    .ok ({ s with observations := s.observations ++ [row] }, row)
  else .error s!"unsupported execution observation kind: {observation.kind}"

/-! ### The sources of the execution -/

/-- `mark_sources_pending_workflow_run` on the sources of the execution. -/
def markSourcesPending (s : Store) : Store :=
  { s with
    registry :=
      s.registry.markSourcesPendingWorkflowRun s.now s.row.projectModule s.row.sourceIdentifiers }

/-- `clear_workflow_pending_for_sources` on the sources of the execution. -/
def clearSourcesPending (s : Store) : Store :=
  { s with
    registry :=
      s.registry.clearWorkflowPendingForSources s.row.projectModule s.row.sourceIdentifiers }

/-- `finalize_successful_sources`. -/
def finalizeSources (s : Store) : Store :=
  { s with
    registry :=
      s.registry.finalizeSuccessfulSources s.now s.row.projectModule s.row.sourceIdentifiers
        s.row.discoverySignature }

/-- The selection still has the signatures the execution was admitted with. -/
def signaturesCurrent (s : Store) : Bool :=
  !s.row.sourceIdentifiers.isEmpty &&
    s.registry.signaturesCurrent s.row.projectModule s.row.sourceIdentifiers
      s.row.discoverySignature

/-- `finalize_successful_execution_sources`: nothing happens unless the execution succeeded. -/
def finalizeSuccessfulExecutionSources (s : Store) : Store × Bool :=
  if s.row.status = .completed ∨ s.row.status = .notSubmitted then
    (s.finalizeSources, s.signaturesCurrent)
  else (s, false)

/-! ### Patches of the row -/

/-- `apply_execution_patch_with_correlation`. -/
def applyExecutionPatch (s : Store) (patch : LedgerPatch) : Except String (Store × ExecutionRow) :=
  (s.row.applyPatch patch s.now).map fun row => ({ s with row := row }, row)

/-- `ExecutionStateApplyResult`. -/
structure StateApplyResult where
  row : ExecutionRow
  previousStatus : ExecutionStatus
  enteredTerminal : Bool
  deriving DecidableEq, Repr

/-- `apply_execution_state_patch_with_transition`: a terminal row ignores the patch; a completion
through verified outputs settles the sources in the same transaction. -/
def applyExecutionStatePatchWithTransition (s : Store) (patch : ExecutionStatePatch) :
    Except String (Store × StateApplyResult) :=
  if s.row.status.isTerminal then .ok (s, ⟨s.row, s.row.status, false⟩)
  else
    let row := s.row.applyStatePatch patch s.now
    let updated := { s with row := row }
    let result : StateApplyResult := ⟨row, s.row.status, row.status.isTerminal⟩
    if row.status = .completed ∧ row.requiredOutputsVerified then
      if s.artifacts.any fun artifact => artifact.kind == "output_inventory" then
        .ok (updated.finalizeSources, result)
      else .error "verified output state has no output_inventory artifact"
    else .ok (updated, result)

/-- A ledger patch that succeeds writes the row and nothing else. -/
theorem applyExecutionPatch_cases {s s' : Store} {patch : LedgerPatch} {row : ExecutionRow}
    (h : s.applyExecutionPatch patch = .ok (s', row)) :
    s.row.applyPatch patch s.now = .ok row ∧ s' = { s with row := row } := by
  unfold applyExecutionPatch at h
  cases hpatch : s.row.applyPatch patch s.now with
  | error error => simp [hpatch, Except.map] at h
  | ok written =>
      simp only [hpatch, Except.map, Except.ok.injEq, Prod.mk.injEq] at h
      obtain ⟨rfl, rfl⟩ := h
      exact ⟨rfl, rfl⟩

/-- A state patch that succeeds found a terminal row and changed nothing, or it wrote the row; the
registry is written only with a completion through verified outputs. -/
theorem applyExecutionStatePatchWithTransition_cases {s s' : Store} {patch : ExecutionStatePatch}
    {result : StateApplyResult}
    (h : s.applyExecutionStatePatchWithTransition patch = .ok (s', result)) :
    s.row.status.isTerminal ∧ s' = s ∧ result = ⟨s.row, s.row.status, false⟩ ∨
      s.row.status.isTerminal = false ∧
        result = ⟨s.row.applyStatePatch patch s.now, s.row.status,
          (s.row.applyStatePatch patch s.now).status.isTerminal⟩ ∧
        ∃ registry, s' = { s with row := s.row.applyStatePatch patch s.now, registry := registry } ∧
          (registry = s.registry ∨ (s.row.applyStatePatch patch s.now).status = .completed) := by
  unfold applyExecutionStatePatchWithTransition at h
  split at h
  next hterminal =>
    cases h
    exact .inl ⟨hterminal, rfl, rfl⟩
  next hlive =>
    refine .inr ⟨by simpa using hlive, ?_⟩
    simp only at h
    split at h
    next hcompleted =>
      split at h
      · cases h
        exact ⟨rfl, _, rfl, .inr hcompleted.1⟩
      · cases h
    next =>
      cases h
      exact ⟨rfl, _, rfl, .inl rfl⟩

/-- `ExecutionProvenancePatch`, the digests. -/
structure ProvenancePatch where
  manifestSha256 : Option Sha256 := none
  sourceGraphSha256 : Option Sha256 := none
  patchedGraphSha256 : Option Sha256 := none
  physicalGraphSha256 : Option Sha256 := none
  deriving DecidableEq, Repr

/-- `apply_execution_provenance_patch`. -/
def applyExecutionProvenancePatch (s : Store) (patch : ProvenancePatch) : Store :=
  { s with
    row :=
      { s.row with
        manifestSha256 := patch.manifestSha256 <|> s.row.manifestSha256
        sourceGraphSha256 := patch.sourceGraphSha256 <|> s.row.sourceGraphSha256
        patchedGraphSha256 := patch.patchedGraphSha256 <|> s.row.patchedGraphSha256
        physicalGraphSha256 := patch.physicalGraphSha256 <|> s.row.physicalGraphSha256 } }

end Store

/-! ### Retry -/

/-- The idempotency key of the first execute job. -/
def executeKey (executionId : Uuid) : String := s!"execute:{executionId}"

/-- The idempotency key of the execute job of a retry. -/
def retryKey (executionId : Uuid) (retryCount : ℕ) : String :=
  s!"execute:{executionId}:retry:{retryCount}"

/-- Retries of one execution have different keys. -/
theorem retryKey_injective {executionId : Uuid} {n m : ℕ}
    (h : retryKey executionId n = retryKey executionId m) : n = m := by
  have hrepr : n.repr = m.repr := by simpa [retryKey, String.append_assoc] using h
  have hdigits : Nat.toDigits 10 n = Nat.toDigits 10 m := by
    simpa using congrArg String.toList hrepr
  simpa using congrArg (Nat.ofDigitChars 10 · 0) hdigits

/-- The idempotency key of a DIM poll job. -/
def dimPollKey (executionId : Uuid) (pollRound : ℤ) : String :=
  s!"dim_poll:{executionId}:{pollRound}"

/-- `i32::saturating_add(1)` on a retry count. -/
def nextRetryCount (retryCount : ℕ) : ℕ := min (retryCount + 1) 2147483647

/-- The columns a retry writes. -/
def ExecutionRow.resetForRetry (row : ExecutionRow) (stage : ExecutionRetryStage)
    (retryCount : ℕ) : ExecutionRow :=
  { row with
    status := .retrying
    retryCount := retryCount
    executionPhase :=
      match stage with
      | .submit => some .submit
      | .stageAndManifest => some .stageAndManifest
    controlPhase :=
      match stage with
      | .submit => .graphPatched
      | .stageAndManifest => .admitted
    submissionState := .notStarted
    schedulerName := none
    schedulerJobId := none
    schedulerState := .notSubmitted
    daliugeSessionId := none
    daliugeManagerUrl := none
    daliugeState := .notCreated
    remoteSessionDir := none
    outputState := if row.outputVerificationRequired then .pending else .notStarted
    terminalOutcome := none
    failureClass := none
    lastError := none
    completedAt := none }

namespace JobQueue

/-- `INSERT INTO jobs` without a conflict clause: a second row under one key aborts. -/
def insertNewJob (q : JobQueue) (job : NewJob) : Option JobQueue :=
  if q.jobs.any (hasKey job.idempotencyKey) ∨ q.jobs.any (fun row => row.uuid == job.uuid) then none
  else some { q with jobs := q.jobs ++ [job.row q.now] }

/-- `INSERT INTO jobs … ON CONFLICT (idempotency_key) DO NOTHING`. -/
def insertJobOnce (q : JobQueue) (job : NewJob) : Option JobQueue :=
  if q.jobs.any (hasKey job.idempotencyKey) then some q else q.insertNewJob job

/-- `SELECT * FROM jobs WHERE idempotency_key = $1`. -/
def findByKey (q : JobQueue) (key : String) : Option JobRow :=
  q.jobs.find? (hasKey (some key))

end JobQueue

/-- The job row belongs to the execution and is an execute job. -/
def JobRow.isExecuteJobOf (executionId : Uuid) (job : JobRow) : Bool :=
  job.executionId == some executionId && job.kind == .execute

/-- `execute_job_has_active_lease`: a running job without both deadlines counts as active. -/
def JobRow.hasActiveLease (now : ℕ) (job : JobRow) : Bool :=
  job.status == .running &&
    match job.leaseExpiresAt, job.lockedUntil with
    | some leaseExpiresAt, some lockedUntil => decide (now < max leaseExpiresAt lockedUntil)
    | _, _ => true

namespace Store

/-- The execute jobs of the execution. -/
def executeJobs (s : Store) : List JobRow :=
  s.queue.jobs.filter (JobRow.isExecuteJobOf s.row.uuid)

/-- A queued or running execute job. -/
def hasOpenExecuteJob (s : Store) : Bool :=
  s.queue.jobs.any (JobQueue.isOpenExecuteJob s.row.uuid)

/-- `NOT EXISTS` in the filters of the pollers, negated: a worker holds an execute lease. -/
def executeLeaseActive (s : Store) : Bool :=
  s.executeJobs.any (JobRow.hasActiveLease s.now)

/-- The most recently created execute job. -/
def latestExecuteJob (s : Store) : Option JobRow :=
  firstInOrder (fun a b => decide (b.createdAt < a.createdAt)) s.executeJobs

/-- A selected source that a scheduler tick has claimed. -/
def claimedSource (s : Store) : Option SourceRegistryRow :=
  s.registry.rows.find? fun row =>
    row.selectedBy s.row.projectModule s.row.sourceIdentifiers && row.workflowClaimToken.isSome

/-- The execute job of a retry. -/
def retryJob (s : Store) (jobId : Uuid) (plan : ExecutionRetryPlan) (retryCount : ℕ)
    (reason : String) (requiredCapabilities : List String) : NewJob :=
  { uuid := jobId
    kind := .execute
    payload :=
      .obj [("execution_id", .str (toString s.row.uuid)), ("do_stage", .bool plan.doStage),
            ("do_submit", .bool plan.doSubmit), ("retry_count", .num (.int retryCount)),
            ("recovery_reason", .str reason)]
    executionId := some s.row.uuid
    idempotencyKey := some (retryKey s.row.uuid retryCount)
    nextRunAt := s.now
    maxAttempts := 3
    pool := (s.latestExecuteJob.map (·.pool)).getD "default"
    requiredCapabilities := requiredCapabilities
    requiredLabels := (s.latestExecuteJob.map (·.requiredLabels)).getD []
    priority := (s.latestExecuteJob.map (·.priority)).getD 0 }

/-- `retry_execution`.  The pinned project configuration and deployment profile determine
`requiredCapabilities`, or that there are none to determine. -/
def retryExecution (s : Store) (jobId : Uuid) (reason : String)
    (requiredCapabilities : ExecutionRetryPlan → Except String (List String)) :
    Except String (Store × ExecutionRow) :=
  let reason := trim reason
  if reason.isEmpty then
    .error "retry_reason_required: a recovery reason is required for the audit trail"
  else if 1000 < reason.utf8ByteSize then
    .error "retry_reason_too_long: the recovery reason must be at most 1000 bytes"
  else
    match planExecutionRetry s.row.retryContext with
    | .error rejection => .error s!"{rejection.code}: {rejection.message}"
    | .ok plan =>
        match requiredCapabilities plan with
        | .error error => .error error
        | .ok capabilities =>
            if s.hasOpenExecuteJob then
              .error ("execution_job_active: the previous execution job still owns active work; "
                ++ "wait for it to finish before retrying")
            else
              match s.claimedSource with
              | some source =>
                  .error (s!"source_admission_claimed: source {source.sourceIdentifier} is already "
                    ++ "claimed for admission; let that claim finish before retrying")
              | none =>
                  let retryCount := nextRetryCount s.row.retryCount
                  match s.queue.insertNewJob (s.retryJob jobId plan retryCount reason capabilities) with
                  | none => .error "duplicate key value violates unique constraint"
                  | some queue =>
                      let row := s.row.resetForRetry plan.stage retryCount
                      .ok ({ s.clearSourcesPending with row := row, queue := queue }, row)

/-- An accepted retry has planned one, found no open execute job, and put the job of the next
generation into the queue. -/
theorem retryExecution_cases {s s' : Store} {jobId : Uuid} {reason : String}
    {requiredCapabilities : ExecutionRetryPlan → Except String (List String)} {row : ExecutionRow}
    (h : s.retryExecution jobId reason requiredCapabilities = .ok (s', row)) :
    ∃ plan capabilities queue, planExecutionRetry s.row.retryContext = .ok plan ∧
      s.hasOpenExecuteJob = false ∧
      s.queue.insertNewJob (s.retryJob jobId plan (nextRetryCount s.row.retryCount) (trim reason)
        capabilities) = some queue ∧
      row = s.row.resetForRetry plan.stage (nextRetryCount s.row.retryCount) ∧
      s' = { s.clearSourcesPending with row := row, queue := queue } := by
  unfold retryExecution at h
  simp only at h
  split at h
  · cases h
  split at h
  · cases h
  split at h
  · cases h
  next plan hplan =>
    split at h
    · cases h
    next capabilities _ =>
      split at h
      · cases h
      next hopen =>
        split at h
        · cases h
        split at h
        · cases h
        next queue hqueue =>
          cases h
          exact ⟨plan, capabilities, queue, hplan, by simpa using hopen, hqueue, rfl, rfl⟩

/-! ### Cancellation -/

end Store

/-- `ConfirmedExternalCancellation`. -/
inductive ConfirmedExternalCancellation where
  | slurm (schedulerJobId exactJobId : String)
  | daliuge (sessionId : String)
  deriving DecidableEq, Repr

namespace ExecutionRow

/-- The statuses a cancellation starts from. -/
def cancellable : ExecutionStatus → Bool
  | .pending | .running | .awaitingScheduler | .retrying | .cancelled => true
  | .completed | .failed | .notSubmitted => false

/-- The confirmation names the external work of the row. -/
def confirmedBy (row : ExecutionRow) : Option ConfirmedExternalCancellation → Bool
  | none => true
  | some (.slurm schedulerJobId _) =>
      row.schedulerName == some "slurm" && row.schedulerJobId == some schedulerJobId
  | some (.daliuge sessionId) =>
      row.schedulerName == some "daliuge" && row.daliugeSessionId == some sessionId

/-- An unresolved submission may be cancelled only when the scheduler confirmed it under its exact
job id. -/
def cancellationResolved (row : ExecutionRow) :
    Option ConfirmedExternalCancellation → Bool
  | some (.slurm schedulerJobId exactJobId) =>
      (row.submissionState != .inFlight && row.submissionState != .uncertain) ||
        (row.submissionState == .uncertain && row.schedulerName == some "slurm" &&
          row.schedulerJobId.any isAsciiDigits && row.schedulerJobId == some schedulerJobId &&
          row.schedulerJobId == some exactJobId)
  | _ => row.submissionState != .inFlight && row.submissionState != .uncertain

/-- The columns a cancellation writes. -/
def cancel (row : ExecutionRow) (confirmation : Option ConfirmedExternalCancellation) (now : ℕ) :
    ExecutionRow :=
  { row with
    status := .cancelled
    executionPhase := none
    controlPhase := .terminal
    terminalOutcome := some .cancelled
    schedulerState :=
      match confirmation with
      | some (.slurm _ _) => .cancelled
      | _ => row.schedulerState
    daliugeState :=
      match confirmation with
      | some (.daliuge _) => .cancelled
      | _ => row.daliugeState
    lastError := none
    failureClass := none
    completedAt := row.completedAt <|> some now }

end ExecutionRow

namespace Store

/-- A confirmation without an exact external identifier is refused. -/
def confirmationError : Option ConfirmedExternalCancellation → Option String
  | some (.slurm _ exactJobId) =>
      if isAsciiDigits exactJobId then none
      else some "confirmed Slurm cancellation requires an exact ASCII-digit job ID"
  | some (.daliuge sessionId) =>
      if isBlank sessionId then some "confirmed DALiuGE cancellation requires an exact session ID"
      else none
  | none => none

/-- The observation of a confirmed cancellation. -/
def cancellationObservation : ConfirmedExternalCancellation → ExecutionObservationInput
  | .slurm schedulerJobId exactJobId =>
      { kind := "scheduler"
        normalizedState := "cancelled"
        rawState := some "CANCELLED_CONFIRMED"
        reason := some "external cancellation confirmed"
        payload :=
          .obj [("backend", .str "slurm"), ("external_id", .str schedulerJobId),
                ("exact_external_id", .str exactJobId)]
        sourceVersion := none }
  | .daliuge sessionId =>
      { kind := "daliuge_session"
        normalizedState := "cancelled"
        rawState := some "cancelled_confirmed"
        reason := some "external cancellation confirmed"
        payload :=
          .obj [("backend", .str "daliuge"), ("external_id", .str sessionId),
                ("exact_external_id", .str sessionId)]
        sourceVersion := none }

/-- `cancel_execution_with_correlation_inner`. -/
def cancelExecution (s : Store) (observationId : Uuid)
    (confirmation : Option ConfirmedExternalCancellation) : Except String (Store × ExecutionRow) :=
  match confirmationError confirmation with
  | some error => .error error
  | none =>
      if ExecutionRow.cancellable s.row.status ∧ s.row.confirmedBy confirmation ∧
          s.row.cancellationResolved confirmation then
        let row := s.row.cancel confirmation s.now
        .ok ({ s with
                row := row
                queue := s.queue.cancelExecuteJobs s.row.uuid
                observations := s.observations ++
                  (confirmation.map fun c => (cancellationObservation c).row observationId s.now).toList },
              row)
      else if s.row.submissionState = .inFlight ∨ s.row.submissionState = .uncertain then
        .error ("execution cannot be cancelled while submission outcome is '" ++
          s.row.submissionState.asStr ++ "'")
      else .error ("execution cannot be cancelled from terminal status '" ++ s.row.status.asStr ++ "'")

/-- An accepted cancellation has found a status it may start from and a submission whose outcome is
known. -/
theorem cancelExecution_cases {s s' : Store} {observationId : Uuid}
    {confirmation : Option ConfirmedExternalCancellation} {row : ExecutionRow}
    (h : s.cancelExecution observationId confirmation = .ok (s', row)) :
    ExecutionRow.cancellable s.row.status ∧ s.row.cancellationResolved confirmation ∧
      row = s.row.cancel confirmation s.now ∧
      ∃ observations, s' =
        { s with
          row := row
          queue := s.queue.cancelExecuteJobs s.row.uuid
          observations := observations } := by
  unfold cancelExecution at h
  split at h
  · cases h
  split at h
  next haccepted =>
    cases h
    exact ⟨haccepted.1, haccepted.2.2, rfl, _, rfl⟩
  next =>
    split at h <;> cases h

/-! ### The filters of the pollers -/

/-- `list_slurm_executions_pending_poll`. -/
def slurmPollPending (s : Store) : Bool :=
  s.row.schedulerName == some "slurm" && s.row.schedulerJobId.isSome &&
    (s.row.status == .awaitingScheduler || s.row.status == .running) &&
    s.row.schedulerState != .succeeded && !s.executeLeaseActive

/-- `list_slurm_executions_pending_output_inventory`. -/
def slurmOutputInventoryPending (s : Store) : Bool :=
  s.row.schedulerName == some "slurm" && s.row.schedulerJobId.isSome &&
    s.row.remoteSessionDir.isSome && s.row.outputVerificationRequired &&
    s.row.schedulerState == .succeeded && s.row.daliugeState == .finished &&
    s.row.outputState != .verified && s.row.outputState != .failed &&
    (s.row.status == .awaitingScheduler || s.row.status == .running) &&
    s.row.terminalOutcome.isNone && !s.executeLeaseActive

/-- `list_slurm_submissions_pending_reconciliation`. -/
def slurmReconciliationPending (s : Store) : Bool :=
  s.row.schedulerName == some "slurm" && s.row.schedulerJobId.isNone &&
    s.row.daliugeSessionId.isSome &&
    (s.row.submissionState == .inFlight || s.row.submissionState == .uncertain) &&
    !s.row.status.isTerminal && s.row.terminalOutcome.isNone &&
    s.row.submissionAbandonedAt.isNone && !s.executeLeaseActive

/-- `list_rest_executions_pending_poll`. -/
def restPollPending (s : Store) : Bool :=
  s.row.schedulerName == some "daliuge" && s.row.daliugeSessionId.isSome &&
    (s.row.status == .running || s.row.submissionState == .inFlight ||
      s.row.submissionState == .uncertain) &&
    !s.row.status.isTerminal && s.row.terminalOutcome.isNone &&
    s.row.daliugeState != .finished && s.row.daliugeState != .failed &&
    s.row.daliugeState != .cancelled && !s.executeLeaseActive

/-- The rows of a filter: the execution, when the filter lets it through. -/
def rowsWhere (s : Store) (filter : Store → Bool) : List ExecutionRow :=
  if filter s then [s.row] else []

/-! ### Enqueueing -/

/-- `enqueue_job_with_options` for an execute job: a terminal or abandoned execution gets none. -/
def enqueueExecuteJob (s : Store) (job : NewJob) : Except String (Store × Option JobRow) :=
  if s.row.submissionAbandonedAt.isSome ∨ s.row.status.isTerminal then
    .error ("cannot enqueue execute work for terminal or operator-abandoned execution " ++
      toString s.row.uuid)
  else
    let queue := s.queue.insertJob job
    .ok ({ s with queue := queue }, job.idempotencyKey.bind queue.findByKey)

/-- `enqueue_job_with_options` for the next DIM poll. -/
def enqueueDimPollJob (s : Store) (job : NewJob) : Store :=
  { s with queue := s.queue.insertJob job }

end Store

end Beampipe
