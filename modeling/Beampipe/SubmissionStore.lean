/-
The transactions of a submission.

A worker that is about to call a backend first takes the submission (`beginExecutionSubmission`)
and records the receipt afterwards.  When the receipt does not arrive the submission is uncertain:
the Slurm poller looks the job up by its name, an operator may abandon it, and a late receipt is
still recorded.  Verified outputs complete an execution that waits for them.

Main definitions:

* `Beampipe.Store.beginExecutionSubmission`, `Beampipe.Store.latestSubmissionIntentObservation`;
* `Beampipe.Store.recordSubmissionReceipt` — the receipt of a backend;
* `Beampipe.Store.recordSlurmNameLookup` — one lookup by name and its effect;
* `Beampipe.Store.abandonSlurmSubmission` — the operator gives a submission up;
* `Beampipe.Store.verifyExecutionOutputs` — verified outputs release the completion gate.

Main results:

* `Beampipe.Store.beginExecutionSubmission_cases` — when a submission is taken, and the row it
  leaves;
* `Beampipe.Store.recordSubmissionReceipt_cases`, `Beampipe.Store.recordSlurmNameLookup_cases`,
  `Beampipe.Store.abandonSlurmSubmission_cases`, `Beampipe.Store.verifyExecutionOutputs_cases` —
  what the other transactions have checked, and what they write.
-/

import Beampipe.ExecutionStore
import Beampipe.RunRecord

set_option relaxedAutoImplicit false
set_option autoImplicit false

namespace Beampipe

/-! ### Taking the submission -/

/-- The arguments of `begin_execution_submission`. -/
structure SubmissionIntent where
  schedulerName : String
  daliugeSessionId : String
  daliugeManagerUrl : Option String
  submissionTimeoutSeconds : ℤ
  targetFingerprint : Option String
  deriving DecidableEq, Repr

/-- The intent cannot be recorded. -/
def SubmissionIntent.error (intent : SubmissionIntent) : Option String :=
  if ¬["slurm", "daliuge"].contains intent.schedulerName then
    some s!"unsupported submission backend '{intent.schedulerName}'"
  else if isBlank intent.daliugeSessionId then
    some "submission intent requires daliuge_session_id"
  else if intent.submissionTimeoutSeconds ≤ 0 then some "submission timeout must be positive"
  else if intent.schedulerName = "slurm" ∧ intent.targetFingerprint.all isBlank then
    some "Slurm submission intent requires a resolved target fingerprint"
  else none

/-- A nullable text in a payload. -/
def textJson (value : Option String) : Json := (value.map Json.str).getD .null

/-- The columns a taken submission writes. -/
def ExecutionRow.beginSubmission (row : ExecutionRow) (intent : SubmissionIntent) (deadline : ℕ) :
    ExecutionRow :=
  { row with
    controlPhase := .submissionPending
    submissionState := .inFlight
    submissionDeadlineAt := some deadline
    schedulerName := some intent.schedulerName
    daliugeSessionId := some intent.daliugeSessionId
    daliugeManagerUrl := intent.daliugeManagerUrl
    daliugeState := .notCreated }

namespace Store

/-- The observation that records the intent. -/
def intentObservation (intent : SubmissionIntent) (deadline : ℕ) : ExecutionObservationInput :=
  { kind := "daliuge_session"
    normalizedState := SubmissionState.inFlight.asStr
    rawState := some "intent_persisted"
    reason := none
    payload :=
      .obj [("daliuge_session_id", .str intent.daliugeSessionId),
            ("backend", .str intent.schedulerName),
            ("submission_deadline_at", .num (.int deadline)),
            ("submission_timeout_seconds", .num (.int intent.submissionTimeoutSeconds)),
            ("target_fingerprint", textJson intent.targetFingerprint)]
    sourceVersion := none }

/-- `begin_execution_submission`: the deadline, if the caller has taken the submission. -/
def beginExecutionSubmission (s : Store) (observationId : Uuid) (intent : SubmissionIntent) :
    Except String (Store × Option ℕ) :=
  match intent.error with
  | some error => .error error
  | none =>
      if s.row.status.isTerminal ∨ s.row.submissionState.holdsAutomaticWork then .ok (s, none)
      else
        let deadline := s.now + seconds intent.submissionTimeoutSeconds
        .ok ({ s with
                row := s.row.beginSubmission intent deadline
                observations := s.observations ++
                  [(intentObservation intent deadline).row observationId s.now] },
              some deadline)

/-- A submission is refused to an execution that is terminal or may have been submitted; otherwise
the caller takes it. -/
theorem beginExecutionSubmission_cases {s s' : Store} {observationId : Uuid}
    {intent : SubmissionIntent} {taken : Option ℕ}
    (h : s.beginExecutionSubmission observationId intent = .ok (s', taken)) :
    intent.error = none ∧
      (taken = none ∧ s' = s ∧
          (s.row.status.isTerminal ∨ s.row.submissionState.holdsAutomaticWork) ∨
        s.row.status.isTerminal = false ∧ s.row.submissionState.holdsAutomaticWork = false ∧
          ∃ deadline observations, taken = some deadline ∧
            s' = { s with
              row := s.row.beginSubmission intent deadline
              observations := observations }) := by
  unfold beginExecutionSubmission at h
  split at h
  · cases h
  next hintent =>
    refine ⟨hintent, ?_⟩
    split at h
    next hrefused =>
      cases h
      exact .inl ⟨rfl, rfl, hrefused⟩
    next htaken =>
      cases h
      simp only [not_or, Bool.not_eq_true] at htaken
      exact .inr ⟨htaken.1, htaken.2, _, _, rfl, rfl⟩

/-- `ORDER BY observed_at DESC, uuid DESC`. -/
def observedLater (a b : ExecutionObservationRow) : Bool :=
  decide (b.observedAt < a.observedAt) ||
    (a.observedAt == b.observedAt && decide (b.uuid < a.uuid))

/-- `latest_submission_intent_observation`. -/
def latestSubmissionIntentObservation (s : Store) : Option ExecutionObservationRow :=
  firstInOrder observedLater <| s.observations.filter fun observation =>
    observation.kind == "daliuge_session" && observation.rawState == some "intent_persisted"

end Store

/-! ### The receipt -/

/-- `SubmissionReceiptInput`; `pollJob` is the payload and the pool of a first DIM poll. -/
structure SubmissionReceiptInput where
  schedulerName : String
  schedulerJobId : Option String
  daliugeSessionId : Option String
  remoteSessionDir : Option String
  stagingRoot : Option String
  workflowManifest : Json
  physicalGraph : Json
  nextStatus : ExecutionStatus
  pollJob : Option (Json × String)
  deriving DecidableEq, Repr

/-- `staging_root_is_scoped_to_session`. -/
def stagingRootIsScopedToSession (sessionDir stagingRoot : String) : Bool :=
  match normalizedAbsolutePath sessionDir, normalizedAbsolutePath stagingRoot with
  | some session, some staging =>
      decide (2 ≤ session.length) && staging != session && session.isPrefixOf staging
  | _, _ => false

/-- `receipt_nonempty`. -/
def receiptNonempty (value : Option String) : Option String :=
  (value.map trim).filter fun value => !value.isEmpty

/-- `validate_submission_receipt`. -/
def SubmissionReceiptInput.error (input : SubmissionReceiptInput) : Option String :=
  if ¬input.workflowManifest.isObject then
    some "submission receipt workflow_manifest must be a JSON object"
  else if input.physicalGraph = .null then some "submission receipt requires a physical graph"
  else
    match receiptNonempty input.daliugeSessionId with
    | none => some "submission receipt requires daliuge_session_id"
    | some sessionId =>
        let backendError :=
          if input.schedulerName = "slurm" then
            match receiptNonempty input.schedulerJobId, receiptNonempty input.remoteSessionDir,
                receiptNonempty input.stagingRoot with
            | none, _, _ => some "submission receipt requires scheduler_job_id"
            | _, none, _ => some "submission receipt requires remote_session_dir"
            | _, _, none => some "submission receipt requires staging_root"
            | some _, some sessionDir, some stagingRoot =>
                if ¬stagingRootIsScopedToSession sessionDir stagingRoot then
                  some ("submission receipt staging_root must be a normalized, run-scoped output "
                    ++ "directory beneath remote_session_dir")
                else if input.nextStatus ≠ .awaitingScheduler then
                  some "Slurm submission receipt must enter awaiting_scheduler"
                else if input.pollJob.isSome then
                  some "Slurm submission receipt cannot enqueue a DIM poll job"
                else none
          else if input.schedulerName = "daliuge" then
            if input.schedulerJobId.isSome ∨ input.remoteSessionDir.isSome ∨
                input.stagingRoot.isSome then
              some "REST/DIM submission receipt cannot contain Slurm job or path fields"
            else if input.nextStatus ≠ .running then
              some "REST/DIM submission receipt must enter running"
            else none
          else some s!"unsupported submission receipt backend '{input.schedulerName}'"
        match backendError with
        | some error => some error
        | none =>
            if 512 < sessionId.utf8ByteSize then
              some "submission receipt daliuge_session_id is too long"
            else if input.pollJob.any fun job => isBlank job.2 then
              some "submission receipt poll worker pool must be non-empty"
            else none

/-- The receipt document, whose digest identifies the receipt. -/
def SubmissionReceiptInput.document (input : SubmissionReceiptInput) : Json :=
  .obj [("schema", .str "beampipe-submission-receipt/v1"),
        ("scheduler_name", .str input.schedulerName),
        ("scheduler_job_id", textJson input.schedulerJobId),
        ("daliuge_session_id", textJson input.daliugeSessionId),
        ("remote_session_dir", textJson input.remoteSessionDir),
        ("staging_root", textJson input.stagingRoot),
        ("workflow_manifest_sha256", input.workflowManifest),
        ("physical_graph_sha256", input.physicalGraph),
        ("next_status", .str input.nextStatus.asStr)]

/-- The artifact of the physical graph. -/
def SubmissionReceiptInput.artifact (input : SubmissionReceiptInput) : ExecutionArtifactInput :=
  { kind := "physical_graph"
    storageKind := "database"
    uri := none
    inlineJson := some input.physicalGraph
    mediaType := "application/json"
    sha256 := input.physicalGraph
    producerPhase := "translated"
    metadata :=
      .obj [("backend", .str input.schedulerName),
            ("scheduler_job_id", textJson input.schedulerJobId),
            ("daliuge_session_id", textJson input.daliugeSessionId),
            ("remote_session_dir", textJson input.remoteSessionDir),
            ("staging_root", textJson input.stagingRoot),
            ("workflow_manifest_sha256", input.workflowManifest),
            ("submission_receipt_sha256", input.document)] }

namespace ExecutionRow

/-- The receipt contradicts what the row already records. -/
def intentConflicts (row : ExecutionRow) (input : SubmissionReceiptInput) : Bool :=
  row.schedulerName.any (· != input.schedulerName) ||
    row.schedulerJobId.any (some · != input.schedulerJobId) ||
    row.daliugeSessionId.any (some · != input.daliugeSessionId) ||
    row.remoteSessionDir.any (some · != input.remoteSessionDir)

/-- The scheduler state that a lookup by name has recorded for the job of this receipt. -/
def recoveredSchedulerState (row : ExecutionRow) (input : SubmissionReceiptInput) :
    Option SchedulerState :=
  if row.submissionState = .uncertain ∧ input.schedulerName = "slurm" ∧
      row.schedulerJobId = input.schedulerJobId then some row.schedulerState
  else none

/-- The status a receipt leads to. -/
def receiptStatus (row : ExecutionRow) (input : SubmissionReceiptInput) : ExecutionStatus :=
  match row.recoveredSchedulerState input with
  | some state => ({ row.axes with submission := .submitted, scheduler := state }).reconcile.status
  | none => input.nextStatus

/-- The columns a receipt writes; a terminal row keeps its outcome and an abandoned one its
submission. -/
def recordReceipt (row : ExecutionRow) (input : SubmissionReceiptInput) : ExecutionRow :=
  let preserved := row.status.isTerminal
  { row with
    status := if preserved then row.status else row.receiptStatus input
    executionPhase := if preserved then row.executionPhase else some .submit
    workflowManifest := some input.workflowManifest
    physicalGraphSha256 := some input.physicalGraph
    controlPhase := if preserved then row.controlPhase else .submitted
    submissionState := if row.submissionAbandonedAt.isSome then row.submissionState else .submitted
    schedulerName := some input.schedulerName
    schedulerJobId := input.schedulerJobId
    schedulerState :=
      if preserved then row.schedulerState
      else (row.recoveredSchedulerState input).getD
        (if input.schedulerName = "slurm" then .pending else .notSubmitted)
    daliugeSessionId := input.daliugeSessionId
    daliugeState :=
      if preserved then row.daliugeState
      else if input.schedulerName = "slurm" then .notCreated else .running
    remoteSessionDir := input.remoteSessionDir
    terminalOutcome := if preserved then row.terminalOutcome else none
    failureClass := if preserved then row.failureClass else none
    lastError := if preserved then row.lastError else none }

end ExecutionRow

/-- `SubmissionReceiptResult`. -/
structure SubmissionReceiptResult where
  execution : ExecutionRow
  replayed : Bool
  lateAfterAbandonment : Bool
  deriving DecidableEq, Repr

namespace Store

/-- The observation of a receipt, taken from the row it left. -/
def receiptObservation (row : ExecutionRow) (input : SubmissionReceiptInput) :
    ExecutionObservationInput :=
  if input.schedulerName = "slurm" then
    { kind := "scheduler"
      normalizedState := row.schedulerState.asStr
      rawState := some "SUBMITTED"
      reason := none
      payload := input.document
      sourceVersion := none }
  else
    { kind := "daliuge_session"
      normalizedState := row.daliugeState.asStr
      rawState := some "deployed"
      reason := none
      payload := input.document
      sourceVersion := none }

/-- The first DIM poll of a submission. -/
def receiptPollJob (s : Store) (jobId : Uuid) (pollJob : Json × String) : NewJob :=
  { uuid := jobId
    kind := .dimPoll
    payload := pollJob.1
    executionId := some s.row.uuid
    idempotencyKey := some (dimPollKey s.row.uuid 0)
    nextRunAt := s.now
    maxAttempts := 3
    pool := pollJob.2
    requiredCapabilities := ["deployment:daliuge_rest"]
    requiredLabels := []
    priority := 0 }

/-- The receipt is the one already recorded. -/
def receiptRecorded (s : Store) (input : SubmissionReceiptInput) : Bool :=
  s.row.schedulerName == some input.schedulerName &&
    s.row.schedulerJobId == input.schedulerJobId &&
    s.row.daliugeSessionId == input.daliugeSessionId &&
    s.row.remoteSessionDir == input.remoteSessionDir &&
    s.row.physicalGraphSha256 == some input.physicalGraph &&
    (s.findArtifact "physical_graph" input.physicalGraph).any fun artifact =>
      artifact.storageKind == "database" && artifact.inlineJson == some input.physicalGraph &&
        artifact.mediaType == "application/json" && artifact.producerPhase == "translated" &&
        artifact.metadata.get "submission_receipt_sha256" == some input.document

/-- `record_submission_receipt`.  `ids` are the fresh identifiers of the artifact, the observation
and the poll job. -/
def recordSubmissionReceipt (s : Store) (ids : Uuid × Uuid × Uuid) (input : SubmissionReceiptInput) :
    Except String (Store × SubmissionReceiptResult) :=
  let late := s.row.submissionAbandonedAt.isSome
  match input.error with
  | some error => .error error
  | none =>
      if s.row.intentConflicts input then
        .error "submission receipt conflicts with the persisted submission intent"
      else if (s.row.submissionState = .submitted ∨ late) ∧ s.receiptRecorded input then
        .ok (s, ⟨s.row, true, late⟩)
      else if s.row.submissionState = .submitted then
        .error "conflicting submission receipt for an already submitted execution"
      else if s.row.submissionState ≠ .inFlight ∧ s.row.submissionState ≠ .uncertain then
        .error (s!"execution {s.row.uuid} is not awaiting a submission receipt " ++
          "(submission_state=" ++ s.row.submissionState.asStr ++ ")")
      else if ¬s.row.status.isTerminal ∧ s.row.status ≠ s.row.receiptStatus input ∧
          ¬s.row.status.allows (s.row.receiptStatus input) then
        .error ("invalid submission receipt ledger transition from " ++ s.row.status.asStr ++
          " to " ++ (s.row.receiptStatus input).asStr)
      else if s.artifacts.any fun artifact => artifact.kind == "physical_graph" then
        .error ("execution already has physical graph evidence without a completed submission " ++
          "receipt")
      else
        let row := s.row.recordReceipt input
        let queue :=
          match input.pollJob with
          | some pollJob => s.queue.insertJobOnce (s.receiptPollJob ids.2.2 pollJob)
          | none => some s.queue
        match queue with
        | none => .error "duplicate key value violates unique constraint"
        | some queue =>
            if row.completionGate then
              .ok ({ s with
                      row := row
                      artifacts := s.artifacts ++ [input.artifact.row ids.1 s.now]
                      observations := s.observations ++
                        [(receiptObservation row input).row ids.2.1 s.now]
                      queue := queue },
                    ⟨row, false, late⟩)
            else .error "ck_required_output_completion_verified"

/-- A receipt is a replay that changes nothing, or it meets an unresolved submission without
physical graph evidence and writes the row, its artifact and the first poll. -/
theorem recordSubmissionReceipt_cases {s s' : Store} {ids : Uuid × Uuid × Uuid}
    {input : SubmissionReceiptInput} {result : SubmissionReceiptResult}
    (h : s.recordSubmissionReceipt ids input = .ok (s', result)) :
    input.error = none ∧ s.row.intentConflicts input = false ∧
      (s' = s ∧ (s.row.submissionState = .submitted ∨ s.row.submissionAbandonedAt.isSome) ∧
          s.receiptRecorded input ∨
        (s.row.submissionState = .inFlight ∨ s.row.submissionState = .uncertain) ∧
          (s.row.status.isTerminal ∨ s.row.status = s.row.receiptStatus input ∨
            s.row.status.allows (s.row.receiptStatus input)) ∧
          (∀ artifact ∈ s.artifacts, artifact.kind ≠ "physical_graph") ∧
          ∃ queue observations,
            (match input.pollJob with
              | some pollJob => s.queue.insertJobOnce (s.receiptPollJob ids.2.2 pollJob)
              | none => some s.queue) = some queue ∧
            (s.row.recordReceipt input).completionGate ∧
            s' = { s with
              row := s.row.recordReceipt input
              artifacts := s.artifacts ++ [input.artifact.row ids.1 s.now]
              observations := observations
              queue := queue }) := by
  unfold recordSubmissionReceipt at h
  simp only at h
  split at h
  · cases h
  next hinput =>
    split at h
    · cases h
    next hconflict =>
      refine ⟨hinput, by simpa using hconflict, ?_⟩
      split at h
      next hreplay =>
        cases h
        exact .inl ⟨rfl, hreplay.1, hreplay.2⟩
      split at h
      · cases h
      split at h
      · cases h
      next hunresolved =>
        split at h
        · cases h
        next hallowed =>
          split at h
          · cases h
          next hevidence =>
            split at h
            · cases h
            next queue hqueue =>
              split at h
              next hgate =>
                cases h
                refine .inr ⟨?_, ?_, ?_, queue, _, hqueue, hgate, rfl⟩
                · by_contra hne
                  exact hunresolved (not_or.mp hne)
                · by_contra hne
                  simp only [not_or] at hne
                  exact hallowed ⟨hne.1, hne.2.1, hne.2.2⟩
                · simpa using hevidence
              next => cases h

end Store

/-! ### The lookup by name -/

/-- `SlurmNameLookupOutcome`. -/
inductive SlurmNameLookupOutcome where
  | notFound
  | exact (schedulerJobId : String) (state : SchedulerState) (rawState : String)
      (reason : Option String) (source : String)
  | ambiguous (schedulerJobIds : List String)
  | error (code message : String) (retryable : Bool)
  deriving DecidableEq, Repr

/-- `SlurmNameLookupRecordInput`. -/
structure SlurmNameLookupRecordInput where
  lookupId : Uuid
  intentObservationId : Uuid
  daliugeSessionId : String
  profileSha256 : String
  targetFingerprint : String
  accountingNotBefore : ℕ
  queryStartedAt : ℕ
  queryCompletedAt : ℕ
  squeueComplete : Bool
  sacctComplete : Bool
  outcome : SlurmNameLookupOutcome
  deriving DecidableEq, Repr

/-- A time truncated to whole seconds. -/
def wholeSeconds (time : ℕ) : ℕ := time / 1000000 * 1000000

/-- `SLURM_NAME_LOOKUP_SCHEMA`. -/
def slurmNameLookupSchema : String := "beampipe-slurm-name-lookup/v1"

namespace SlurmNameLookupRecordInput

/-- The evidence is not well formed. -/
def error (input : SlurmNameLookupRecordInput) : Option String :=
  if isBlank input.daliugeSessionId ∨ isBlank input.profileSha256 ∨
      isBlank input.targetFingerprint then
    some "Slurm name lookup evidence is missing its identity binding"
  else if input.queryCompletedAt < input.queryStartedAt then
    some "Slurm name lookup completion precedes its start"
  else
    match input.outcome with
    | .exact schedulerJobId _ _ _ _ =>
        if isAsciiDigits schedulerJobId then none
        else some "exact Slurm name lookup requires an ASCII-digit job ID"
    | _ => none

end SlurmNameLookupRecordInput

namespace SlurmNameLookupOutcome

/-- The text of the result for an execution whose recorded job id is `persisted`. -/
def result (persisted : Option String) : SlurmNameLookupOutcome → String
  | notFound => "not_found"
  | exact schedulerJobId _ _ _ _ =>
      if persisted.any (· != schedulerJobId) then "exact_conflict" else "exact"
  | ambiguous _ => "ambiguous"
  | error _ _ _ => "error"

/-- The scheduler state of the observation. -/
def normalizedState : SlurmNameLookupOutcome → SchedulerState
  | exact _ state _ _ _ => state
  | notFound | ambiguous _ | error _ _ _ => .unknown

/-- The raw state of the observation. -/
def rawState : SlurmNameLookupOutcome → String
  | notFound => "not_found_by_name"
  | exact _ _ rawState _ _ => rawState
  | ambiguous _ => "ambiguous_name_match"
  | error code _ _ => code

/-- The reason of the observation. -/
def reason : SlurmNameLookupOutcome → Option String
  | notFound => some "no scheduler job matches the exact DALiuGE session name"
  | exact _ _ _ reason _ => reason
  | ambiguous ids =>
      some ("multiple scheduler jobs match the exact DALiuGE session name: "
        ++ String.intercalate ", " ids)
  | error _ message _ => some message

/-- The job ids that matched. -/
def matchedSchedulerJobIds : SlurmNameLookupOutcome → List String
  | notFound | error _ _ _ => []
  | exact schedulerJobId _ _ _ _ => [schedulerJobId]
  | ambiguous ids => ids

/-- The source of an exact match. -/
def source : SlurmNameLookupOutcome → Option String
  | exact _ _ _ _ source => some source
  | notFound | ambiguous _ | error _ _ _ => none

/-- A failed lookup may be repeated. -/
def retryable : SlurmNameLookupOutcome → Bool
  | error _ _ retryable => retryable
  | notFound | exact _ _ _ _ _ | ambiguous _ => false

end SlurmNameLookupOutcome

/-- `SlurmNameLookupRecordResult`, without the observation. -/
structure SlurmNameLookupRecordResult where
  execution : ExecutionRow
  lateAfterAbandonment : Bool
  deriving DecidableEq, Repr

namespace Store

/-- The lookup is not bound to the latest intent of this row. -/
def lookupBindingError (s : Store) (input : SlurmNameLookupRecordInput) : Option String :=
  if s.row.schedulerName ≠ some "slurm" ∨ s.row.daliugeSessionId ≠ some input.daliugeSessionId then
    some "Slurm name lookup no longer matches the persisted submission intent"
  else if s.row.deploymentProfileSpecSha256.any (· != input.profileSha256) then
    some "Slurm name lookup profile hash does not match the pinned execution profile"
  else
    match s.latestSubmissionIntentObservation with
    | none => some "Slurm name lookup requires persisted submission intent evidence"
    | some intent =>
        if intent.uuid ≠ input.intentObservationId ∨
            input.accountingNotBefore ≠ wholeSeconds intent.observedAt ∨
            (((intent.payload.get "target_fingerprint").bind Json.asStr).filter
              fun value => !value.isEmpty) ≠ some input.targetFingerprint then
          some ("Slurm name lookup is not bound to the latest submission intent and resolved "
            ++ "target")
        else none

/-- `canonical_state_mutation_allowed`: the submission is unresolved, has no receipt, and no
execute worker holds a lease. -/
def lookupMayMutate (s : Store) : Bool :=
  s.row.submissionAbandonedAt.isNone && !s.row.status.isTerminal &&
    (s.row.submissionState == .inFlight || s.row.submissionState == .uncertain) &&
    s.row.schedulerJobId.isNone && s.row.physicalGraphSha256.isNone && !s.executeLeaseActive

/-- The observation of a lookup. -/
def lookupObservation (s : Store) (input : SlurmNameLookupRecordInput) :
    ExecutionObservationRow :=
  let outcome := input.outcome
  let result := outcome.result s.row.schedulerJobId
  let pinned := s.row.deploymentProfileSpecSha256.isSome
  { uuid := input.lookupId
    kind := "scheduler"
    normalizedState := outcome.normalizedState.asStr
    rawState := some outcome.rawState
    reason := outcome.reason
    payload :=
      .obj [("schema", .str slurmNameLookupSchema),
            ("lookup_id", .num (.int input.lookupId)),
            ("intent_observation_id", .num (.int input.intentObservationId)),
            ("daliuge_session_id", .str input.daliugeSessionId),
            ("profile_sha256", .str input.profileSha256),
            ("profile_pinned", .bool pinned),
            ("target_fingerprint", .str input.targetFingerprint),
            ("accounting_not_before", .num (.int input.accountingNotBefore)),
            ("query_started_at", .num (.int input.queryStartedAt)),
            ("query_completed_at", .num (.int input.queryCompletedAt)),
            ("sources",
              .obj [("squeue", .bool input.squeueComplete), ("sacct", .bool input.sacctComplete)]),
            ("query_complete", .bool (input.squeueComplete && input.sacctComplete)),
            ("result", .str result),
            ("matched_scheduler_job_ids", .arr (outcome.matchedSchedulerJobIds.map .str)),
            ("source", textJson outcome.source),
            ("retryable", .bool outcome.retryable),
            ("active_execute_lease", .bool s.executeLeaseActive),
            ("canonical_state_mutation_allowed", .bool s.lookupMayMutate),
            ("eligible_for_abandonment",
              .bool (result == "not_found" && input.squeueComplete && input.sacctComplete &&
                s.lookupMayMutate && pinned)),
            ("late_after_abandonment", .bool s.row.submissionAbandonedAt.isSome)]
    sourceVersion := some slurmNameLookupSchema
    observedAt := input.queryCompletedAt }

/-- What a lookup writes into the row. -/
def lookupRow (s : Store) (outcome : SlurmNameLookupOutcome) : ExecutionRow :=
  let row := s.row
  match outcome with
  | .exact schedulerJobId state _ _ _ =>
      if row.schedulerJobId.any (· != schedulerJobId) then row
      else if s.lookupMayMutate ∨ row.submissionAbandonedAt.isSome then
        { row with
          submissionState :=
            if row.submissionAbandonedAt.isNone then .uncertain else row.submissionState
          schedulerJobId := row.schedulerJobId <|> some schedulerJobId
          schedulerState := state
          failureClass := if row.submissionAbandonedAt.isNone then none else row.failureClass
          lastError := if row.submissionAbandonedAt.isNone then none else row.lastError }
      else row
  | .notFound =>
      if s.lookupMayMutate then
        { row with schedulerState := .unknown, failureClass := some .notFound }
      else row
  | .ambiguous ids =>
      if s.lookupMayMutate then
        { row with
          schedulerState := .unknown
          failureClass := some .inconsistentState
          lastError := (SlurmNameLookupOutcome.ambiguous ids).reason }
      else row
  | .error _ _ _ => row

/-- `record_slurm_name_lookup`. -/
def recordSlurmNameLookup (s : Store) (input : SlurmNameLookupRecordInput) :
    Except String (Store × SlurmNameLookupRecordResult) :=
  match input.error with
  | some error => .error error
  | none =>
      match s.lookupBindingError input with
      | some error => .error error
      | none =>
          let row := s.lookupRow input.outcome
          .ok ({ s with row := row, observations := s.observations ++ [s.lookupObservation input] },
            ⟨row, s.row.submissionAbandonedAt.isSome⟩)

/-- A recorded lookup is bound to the Slurm submission of the row, and writes what its outcome says
into the row. -/
theorem recordSlurmNameLookup_cases {s s' : Store} {input : SlurmNameLookupRecordInput}
    {result : SlurmNameLookupRecordResult}
    (h : s.recordSlurmNameLookup input = .ok (s', result)) :
    s.row.schedulerName = some "slurm" ∧
      result = ⟨s.lookupRow input.outcome, s.row.submissionAbandonedAt.isSome⟩ ∧
      ∃ observations,
        s' = { s with row := s.lookupRow input.outcome, observations := observations } := by
  unfold recordSlurmNameLookup at h
  split at h
  · cases h
  split at h
  · cases h
  next hbinding =>
    cases h
    refine ⟨?_, rfl, _, rfl⟩
    unfold lookupBindingError at hbinding
    split at hbinding
    · cases hbinding
    next hname =>
      by_contra hne
      exact hname (.inl hne)

end Store

/-! ### Abandonment -/

/-- `AbandonSlurmSubmissionInput`. -/
structure AbandonSlurmSubmissionInput where
  reason : String
  expectedSubmissionState : SubmissionState
  expectedDaliugeSessionId : String
  expectedSubmissionDeadlineAt : ℕ
  acknowledgeExternalJobMayExist : Bool
  allowEarlyAfterExecuteFenced : Bool
  deriving DecidableEq, Repr

/-- `SlurmAbandonmentEvidenceExpectation`. -/
structure SlurmAbandonmentEvidenceExpectation where
  sessionId : String
  intentId : Uuid
  intentObservedAt : ℕ
  profileSha256 : String
  targetFingerprint : String
  quietEligibleAt : ℕ
  now : ℕ
  deriving DecidableEq, Repr

/-- `latest_execute_activity`. -/
def JobRow.latestActivity (job : JobRow) : ℕ :=
  [job.updatedAt, job.heartbeatAt, job.leaseExpiresAt, job.lockedUntil].foldl
    (fun latest time => max latest (time.getD 0)) job.createdAt

/-- `SUBMISSION_ABANDONMENT_GRACE_SECONDS`, in microseconds. -/
def submissionAbandonmentGrace : ℕ := 24 * 60 * 60 * 1000000

namespace AbandonSlurmSubmissionInput

/-- The request is not well formed. -/
def error (input : AbandonSlurmSubmissionInput) : Option String :=
  let reason := trim input.reason
  if reason.isEmpty ∨ 1000 < reason.utf8ByteSize then
    some ("submission_abandonment_reason_invalid: an abandonment reason between 1 and 1000 bytes "
      ++ "is required")
  else if input.expectedSubmissionState ≠ .inFlight ∧ input.expectedSubmissionState ≠ .uncertain then
    some ("submission_abandonment_state_invalid: expected_submission_state must be in_flight or "
      ++ "uncertain")
  else if isBlank input.expectedDaliugeSessionId then
    some "submission_abandonment_session_required: expected_daliuge_session_id is required"
  else if ¬input.acknowledgeExternalJobMayExist then
    some ("submission_abandonment_orphan_risk_not_acknowledged: operator abandonment requires "
      ++ "explicit acknowledgement that an external job may still exist")
  else none

end AbandonSlurmSubmissionInput

namespace Store

/-- The row is not the one the operator has reviewed, or its work may still be alive. -/
def abandonmentRowError (s : Store) (input : AbandonSlurmSubmissionInput) : Option String :=
  if s.row.submissionAbandonedAt.isSome then
    some "submission_already_abandoned: the unresolved submission was already abandoned"
  else if s.row.status.isTerminal then
    some ("submission_abandonment_terminal_execution: execution is already terminal with status '"
      ++ s.row.status.asStr ++ "'")
  else if s.row.schedulerName ≠ some "slurm" ∨
      s.row.submissionState ≠ input.expectedSubmissionState ∨
      s.row.daliugeSessionId ≠ some input.expectedDaliugeSessionId ∨
      s.row.submissionDeadlineAt ≠ some input.expectedSubmissionDeadlineAt then
    some ("submission_abandonment_cas_mismatch: submission state, session, backend, or deadline "
      ++ "changed since operator review")
  else if s.row.schedulerJobId.isSome then
    some ("submission_abandonment_exact_job_known: an exact Slurm job ID is now known; use "
      ++ "confirmed external cancellation")
  else if s.row.daliugeState = .deploying ∨ s.row.daliugeState = .running then
    some ("submission_abandonment_daliuge_active: DALiuGE activity is present for this execution")
  else if s.executeLeaseActive then
    some ("submission_abandonment_active_execute_lease: an execute worker still holds an active "
      ++ "or incompletely fenced lease")
  else none

/-- The end of the quiet time after the last activity of an execute job. -/
def quietEligibleAt (s : Store) (input : AbandonSlurmSubmissionInput) : ℕ :=
  let latest :=
    match s.executeJobs.map JobRow.latestActivity with
    | [] => input.expectedSubmissionDeadlineAt
    | activity :: rest => rest.foldl max activity
  if input.allowEarlyAfterExecuteFenced then latest
  else max latest input.expectedSubmissionDeadlineAt + submissionAbandonmentGrace

/-- The lookups recorded since `quietEligibleAt`, newest first. -/
def lookupRows (s : Store) (quietEligibleAt : ℕ) : List ExecutionObservationRow :=
  ((s.observations.filter fun observation =>
    observation.kind == "scheduler" && observation.sourceVersion == some slurmNameLookupSchema &&
      decide (quietEligibleAt ≤ observation.observedAt)).insertionSort
        fun a b => observedLater a b).take 500

/-- What the evidence of an abandonment has to match. -/
def abandonmentExpectation (s : Store) (input : AbandonSlurmSubmissionInput)
    (intent : ExecutionObservationRow) (profileSha256 targetFingerprint : String) :
    SlurmAbandonmentEvidenceExpectation :=
  { sessionId := input.expectedDaliugeSessionId
    intentId := intent.uuid
    intentObservedAt := intent.observedAt
    profileSha256 := profileSha256
    targetFingerprint := targetFingerprint
    quietEligibleAt := s.quietEligibleAt input
    now := s.now }

/-- The job update of an abandonment: open execute jobs are cancelled and their leases released. -/
def abandonExecuteJobs (s : Store) : JobQueue :=
  let released := (s.executeJobs.filter fun job => job.status == .queued || job.status == .running)
  let events := released.filterMap fun job =>
    job.leaseToken.map fun token =>
      { jobId := job.uuid
        workerId := job.leaseOwner.getD 0
        leaseToken := token
        event := .released
        details := .obj [("reason", .str "operator_abandoned_unresolved_submission"),
                         ("execution_id", .num (.int s.row.uuid))] : ClaimEvent }
  let queue := s.queue.updateWhere (JobQueue.isOpenExecuteJob s.row.uuid) fun job =>
    { job.clearLease with
      status := .cancelled
      failureClass := some "inconsistent_state"
      lastError := some "fenced after operator abandonment of unresolved external submission"
      updatedAt := some s.now }
  { queue with history := queue.history ++ events }

/-- The columns an abandonment writes. -/
def abandonedRow (s : Store) (reason : String) : ExecutionRow :=
  { s.row with
    status := .failed
    executionPhase := none
    controlPhase := .terminal
    terminalOutcome := some .inconsistent
    failureClass := some .inconsistentState
    submissionAbandonedAt := some s.now
    lastError := some ("operator abandoned unresolved Slurm submission after durable negative "
      ++ "evidence: " ++ reason)
    completedAt := s.row.completedAt <|> some s.now }

/-- `abandon_slurm_submission`.  `evidence` is `validate_slurm_abandonment_evidence` on the parsed
lookup observations: the ids of the negative lookups it accepts. -/
def abandonSlurmSubmission (s : Store) (observationId : Uuid) (input : AbandonSlurmSubmissionInput)
    (evidence : List ExecutionObservationRow → SlurmAbandonmentEvidenceExpectation →
      Except String (List Uuid)) : Except String (Store × ExecutionRow) :=
  match input.error <|> s.abandonmentRowError input with
  | some error => .error error
  | none =>
      match s.row.deploymentProfileSpecSha256.filter fun value => !value.isEmpty,
          s.latestSubmissionIntentObservation with
      | none, _ =>
          .error ("submission_abandonment_profile_unpinned: a pinned deployment profile hash is "
            ++ "required")
      | _, none =>
          .error ("submission_abandonment_intent_missing: persisted submission intent evidence is "
            ++ "missing")
      | some profileSha256, some intent =>
          match ((intent.payload.get "target_fingerprint").bind Json.asStr).filter
              fun value => !value.isEmpty with
          | none =>
              .error ("submission_abandonment_target_unpinned: the persisted submission intent has "
                ++ "no resolved target fingerprint")
          | some targetFingerprint =>
              if s.now < s.quietEligibleAt input then
                .error "submission_abandonment_quiet_grace: the required quiet grace has not ended"
              else
                match evidence (s.lookupRows (s.quietEligibleAt input))
                    (s.abandonmentExpectation input intent profileSha256 targetFingerprint) with
                | .error error => .error error
                | .ok evidenceIds =>
                    let row := s.abandonedRow (trim input.reason)
                    let observation : ExecutionObservationRow :=
                      { uuid := observationId
                        kind := "scheduler"
                        normalizedState := SchedulerState.unknown.asStr
                        rawState := some "operator_abandoned"
                        reason := some (trim input.reason)
                        payload :=
                          .obj [("schema", .str "beampipe-slurm-submission-abandonment/v1"),
                                ("prior_submission_state",
                                  .str input.expectedSubmissionState.asStr),
                                ("negative_lookup_observation_ids",
                                  .arr (evidenceIds.map fun id => .num (.int id)))]
                        sourceVersion := some "beampipe-slurm-submission-abandonment/v1"
                        observedAt := s.now }
                    .ok ({ s with
                            row := row
                            queue := s.abandonExecuteJobs
                            observations := s.observations ++ [observation] }, row)

/-- An accepted abandonment has found a Slurm submission that is unresolved and alive in the ledger,
and ends the execution with its open execute jobs. -/
theorem abandonSlurmSubmission_cases {s s' : Store} {observationId : Uuid}
    {input : AbandonSlurmSubmissionInput}
    {evidence : List ExecutionObservationRow → SlurmAbandonmentEvidenceExpectation →
      Except String (List Uuid)} {row : ExecutionRow}
    (h : s.abandonSlurmSubmission observationId input evidence = .ok (s', row)) :
    s.row.status.isTerminal = false ∧ row = s.abandonedRow (trim input.reason) ∧
      (s.row.submissionState = .inFlight ∨ s.row.submissionState = .uncertain) ∧
      ∃ observations,
        s' = { s with row := row, queue := s.abandonExecuteJobs, observations := observations } := by
  unfold abandonSlurmSubmission at h
  split at h
  · cases h
  next hnone =>
    have hinput : input.error = none ∧ s.abandonmentRowError input = none := by
      cases herror : input.error <;> simp_all
    split at h
    · cases h
    · cases h
    split at h
    · cases h
    split at h
    · cases h
    split at h
    · cases h
    cases h
    have hrow := hinput.2
    unfold abandonmentRowError at hrow
    split_ifs at hrow with habandoned hterminal hcas
    refine ⟨by simpa using hterminal, rfl, ?_, _, rfl⟩
    simp only [not_or, not_not] at hcas
    have hform := hinput.1
    unfold AbandonSlurmSubmissionInput.error at hform
    simp only at hform
    split_ifs at hform with hreason hstate
    rw [hcas.2.1]
    by_contra hne
    exact hstate (not_or.mp hne)

/-! ### Verified outputs -/

/-- A digest of 64 lower-case hexadecimal digits. -/
def isLowerHexDigest (value : String) : Bool :=
  value.utf8ByteSize == 64 &&
    value.toList.all fun c => isAsciiDigit c || (decide ('a' ≤ c) && decide (c ≤ 'f'))

/-- The columns verified outputs write. -/
def verifiedRow (s : Store) (stored : ExecutionArtifactRow) (inventorySha256 : String)
    (reportSha256 : String) (clock : String) : ExecutionRow :=
  { s.row with
    workflowManifest :=
      some (mergeOutputVerificationIntoManifest clock s.row.workflowManifest (toString stored.uuid)
        inventorySha256 reportSha256 stored.uri)
    outputState := .verified
    status := .completed
    executionPhase := none
    controlPhase := .terminal
    terminalOutcome := some .succeeded
    failureClass := none
    lastError := none
    completedAt := s.row.completedAt <|> some s.now }

/-- The update of verified outputs: the row, the observation and the sources. -/
def completeVerified (s : Store) (ids : Uuid × Uuid) (stored : ExecutionArtifactRow)
    (schema inventorySha256 reportSha256 clock : String) :
    Store × ExecutionRow × ExecutionArtifactRow :=
  let row := s.verifiedRow stored inventorySha256 reportSha256 clock
  let observation : ExecutionObservationRow :=
    { uuid := ids.2
      kind := "output"
      normalizedState := "verified"
      rawState := some "publication_acknowledged"
      reason := none
      payload :=
        .obj [("artifact_id", .num (.int stored.uuid)), ("inventory_sha256", .str inventorySha256),
              ("report_sha256", .str reportSha256), ("destination_uri", textJson stored.uri)]
      sourceVersion := some schema
      observedAt := s.now }
  ({ s with row := row, observations := s.observations ++ [observation] }.finalizeSources, row,
    stored)

/-- `verify_execution_outputs`: the row and the stored inventory.  `accepted` is the outcome of
validating the report of the artifact, which has the schema `schema`, against the policy and the
current attempt, and `reportSha256` renders its digest. -/
def verifyExecutionOutputs (s : Store) (ids : Uuid × Uuid) (artifact : ExecutionArtifactInput)
    (accepted : ExecutionRow → Except String Unit) (schema reportSha256 clock : String) :
    Except String (Store × ExecutionRow × ExecutionArtifactRow) :=
  if (artifactError artifact).isSome ∨ artifact.kind ≠ "output_inventory" ∨
      artifact.storageKind ≠ "remote" ∨ artifact.uri.getD "" = "" then
    .error ("output verification rejected: verification requires a remote output_inventory "
      ++ "artifact with a destination URI")
  else
    match ((artifact.metadata.get "inventory_sha256").bind Json.asStr).filter isLowerHexDigest with
    | none =>
        .error ("output verification rejected: verification artifact metadata requires a lowercase "
          ++ "inventory_sha256")
    | some inventorySha256 =>
        match accepted s.row with
        | .error error => .error s!"output verification rejected: {error}"
        | .ok () =>
            if s.row.outputState = .verified then
              match (s.findArtifact "output_inventory" artifact.sha256).filter fun row =>
                  row.uri == artifact.uri && row.inlineJson == artifact.inlineJson &&
                    row.metadata == artifact.metadata with
              | some existing => .ok (s, s.row, existing)
              | none =>
                  .error ("output verification rejected: outputs were already verified with a "
                    ++ "different durable inventory")
            else if s.row.status.isTerminal then
              .error ("output verification rejected: execution is already terminal ("
                ++ s.row.status.asStr ++ ") without verified outputs")
            else if s.row.axes.reconcile.nextAction ≠ .verifyOutputs then
              .error ("output verification rejected: execution is not waiting for output "
                ++ "verification after external success")
            else
              match s.findArtifact "output_inventory" artifact.sha256 with
              | some stored =>
                  if stored.uri ≠ artifact.uri ∨ stored.inlineJson ≠ artifact.inlineJson ∨
                      stored.metadata ≠ artifact.metadata ∨
                      stored.mediaType ≠ artifact.mediaType ∨
                      stored.producerPhase ≠ artifact.producerPhase then
                    .error ("output verification rejected: inventory digest conflicts with an "
                      ++ "existing publication report or execution attempt")
                  else .ok (s.completeVerified ids stored schema inventorySha256 reportSha256 clock)
              | none =>
                  let stored := artifact.row ids.1 s.now
                  .ok ({ s with artifacts := s.artifacts ++ [stored] }.completeVerified ids stored
                    schema inventorySha256 reportSha256 clock)

/-- An artifact that is not stored yet is found after it has been added. -/
theorem findArtifact_append_row {s s' : Store} {kind : String} {artifact : ExecutionArtifactInput}
    {uuid : Uuid} {now : ℕ} (hnew : s.findArtifact kind artifact.sha256 = none)
    (hkind : artifact.kind = kind) (hs' : s'.artifacts = s.artifacts ++ [artifact.row uuid now]) :
    s'.findArtifact kind artifact.sha256 = some (artifact.row uuid now) := by
  unfold findArtifact at hnew ⊢
  rw [hs', List.find?_append, hnew]
  simp [ExecutionArtifactInput.row, hkind]

/-- Verified outputs are a replay that changes nothing, or they complete an execution that waits for
them.  The inventory that is returned is stored and is the one that was brought. -/
theorem verifyExecutionOutputs_cases {s s' : Store} {ids : Uuid × Uuid}
    {artifact : ExecutionArtifactInput} {accepted : ExecutionRow → Except String Unit}
    {schema reportSha256 clock : String} {row : ExecutionRow} {stored : ExecutionArtifactRow}
    (h : s.verifyExecutionOutputs ids artifact accepted schema reportSha256 clock =
      .ok (s', row, stored)) :
    accepted s.row = .ok () ∧
      s'.findArtifact "output_inventory" artifact.sha256 = some stored ∧ stored.Holds artifact ∧
      (s.row.outputState = .verified ∧ s' = s ∧ row = s.row ∨
        s.row.status.isTerminal = false ∧ s.row.axes.reconcile.nextAction = .verifyOutputs ∧
          ∃ inventorySha256 artifacts observations registry,
            row = s.verifiedRow stored inventorySha256 reportSha256 clock ∧
              (artifacts = s.artifacts ∨ artifacts = s.artifacts ++ [stored]) ∧
              s' = { s with
                row := row
                artifacts := artifacts
                observations := observations
                registry := registry }) := by
  unfold verifyExecutionOutputs at h
  split at h
  · cases h
  next hkind =>
    have hinventory : artifact.kind = "output_inventory" := by
      by_contra hne
      exact hkind (.inr (.inl hne))
    split at h
    · cases h
    next inventorySha256 _ =>
      split at h
      · cases h
      next haccepted =>
        refine ⟨haccepted, ?_⟩
        split at h
        next hverified =>
          split at h
          next existing hexisting =>
            obtain ⟨rfl, rfl, rfl⟩ := by simpa using h
            obtain ⟨hfound, hsame⟩ := Option.filter_eq_some_iff.mp hexisting
            obtain ⟨-, hkey⟩ := findArtifact_some hfound
            simp only [Bool.and_eq_true, beq_iff_eq] at hsame
            exact ⟨hfound, ⟨hkey.1.trans hinventory.symm, hsame.1.1, hsame.1.2, hkey.2, hsame.2⟩,
              .inl ⟨hverified, rfl, rfl⟩⟩
          · cases h
        split at h
        · cases h
        next hlive =>
          split at h
          · cases h
          next hwaiting =>
            have hlive' : s.row.status.isTerminal = false := by simpa using hlive
            have hwaiting' : s.row.axes.reconcile.nextAction = .verifyOutputs := by
              simpa using hwaiting
            split at h
            next found hfound =>
              split at h
              · cases h
              next hsame =>
                obtain ⟨rfl, rfl, rfl⟩ := by simpa [completeVerified] using h
                obtain ⟨-, hkey⟩ := findArtifact_some hfound
                simp only [not_or, not_not] at hsame
                exact ⟨hfound, ⟨hkey.1.trans hinventory.symm, hsame.1, hsame.2.1, hkey.2,
                  hsame.2.2.1⟩, .inr ⟨hlive', hwaiting', inventorySha256, s.artifacts, _, _, rfl,
                    .inl rfl, rfl⟩⟩
            next hnew =>
              obtain ⟨rfl, rfl, rfl⟩ := by simpa [completeVerified] using h
              exact ⟨findArtifact_append_row hnew hinventory rfl, ⟨rfl, rfl, rfl, rfl, rfl⟩,
                .inr ⟨hlive', hwaiting', inventorySha256, _, _, _, rfl, .inr rfl, rfl⟩⟩

end Store

end Beampipe
