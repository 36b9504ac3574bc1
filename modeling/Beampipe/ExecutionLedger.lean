/-
The execution row and the rules that write it.

A row of `batch_execution_record` carries the ledger status next to the five axes of
`Beampipe/ExternalState.lean`.  Two kinds of patch change it: a ledger patch names the next status
and obeys the transition table, a state patch writes axes and takes the status from their
reconciliation.  This module has the row, the two patches on it, and the plan of a retry.

Main definitions:

* `Beampipe.ExecutionRow` — the row, with `Beampipe.ExecutionRow.axes`;
* `Beampipe.LedgerPatch`, `Beampipe.ExecutionRow.applyPatch` — `LedgerState::apply_patch`;
* `Beampipe.ExecutionStatePatch`, `Beampipe.ExecutionRow.applyStatePatch` — the state patch;
* `Beampipe.planExecutionRetry` — whether and where a failed execution resumes.

Main results:

* `Beampipe.ExecutionRow.applyPatch_cases` — everything a ledger patch can do to the status;
* `Beampipe.ExecutionRow.applyStatePatch_of_isTerminal` — a terminal row ignores state patches;
* `Beampipe.planExecutionRetry_ok` — what an accepted retry has checked.
-/

import Beampipe.Json
import Beampipe.ExternalState
import Beampipe.SourceRegistry
import Beampipe.JobQueue

set_option relaxedAutoImplicit false
set_option autoImplicit false

namespace Beampipe

/-! ### The row -/

/-- `batch_execution_record.execution_phase`. -/
inductive ExecutionPhase where
  | stageAndManifest
  | submit
  deriving DecidableEq, Repr

/-- `batch_execution_record.failure_class`. -/
inductive FailureClass where
  | validation
  | configuration
  | authentication
  | authorization
  | notFound
  | conflict
  | dependencyUnavailable
  | connectivity
  | timeout
  | rateLimited
  | unsupported
  | cancelled
  | inconsistentState
  | internal
  deriving DecidableEq, Repr

/-- A SHA-256 digest of a document, represented by the document. -/
abbrev Sha256 := Json

/-- A row of `batch_execution_record`; `deploymentProfileSpecSha256` is the hash in the pinned
profile snapshot. -/
structure ExecutionRow where
  uuid : Uuid
  projectModule : String
  sources : List SourceSelection
  deploymentProfileSpecSha256 : Option String
  discoverySignature : Option CombinedSignature
  workflowManifest : Option Json
  manifestSha256 : Option Sha256
  sourceGraphSha256 : Option Sha256
  patchedGraphSha256 : Option Sha256
  physicalGraphSha256 : Option Sha256
  executionPhase : Option ExecutionPhase
  controlPhase : ControlPhase
  submissionState : SubmissionState
  submissionDeadlineAt : Option ℕ
  submissionAbandonedAt : Option ℕ
  schedulerName : Option String
  schedulerJobId : Option String
  schedulerState : SchedulerState
  daliugeSessionId : Option String
  daliugeManagerUrl : Option String
  daliugeState : DaliugeState
  outputState : OutputState
  outputVerificationRequired : Bool
  remoteSessionDir : Option String
  terminalOutcome : Option TerminalOutcome
  failureClass : Option FailureClass
  lastError : Option String
  status : ExecutionStatus
  retryCount : ℕ
  createdAt : ℕ
  startedAt : Option ℕ
  completedAt : Option ℕ
  deriving DecidableEq, Repr

namespace ExecutionRow

/-- `ExecutionRow::axes`. -/
def axes (row : ExecutionRow) : ExecutionAxes :=
  { controlPhase := row.controlPhase
    submission := row.submissionState
    scheduler := row.schedulerState
    daliuge := row.daliugeState
    outputs := row.outputState
    outputVerificationRequired := row.outputVerificationRequired }

/-- The selected source identifiers. -/
def sourceIdentifiers (row : ExecutionRow) : List String :=
  row.sources.map (·.sourceIdentifier)

/-- `ck_required_output_completion_verified`: a completed execution that requires verified outputs
has them. -/
def completionGate (row : ExecutionRow) : Bool :=
  row.status != .completed || !row.outputVerificationRequired || row.outputState == .verified

end ExecutionRow

/-- `submission_state_holds_automatic_work`: the external submission may exist. -/
def SubmissionState.holdsAutomaticWork : SubmissionState → Bool
  | .inFlight | .uncertain | .submitted => true
  | .notStarted | .preparing | .failed => false

/-! ### The ledger patch -/

/-- `LedgerPatch`. -/
structure LedgerPatch where
  status : Option ExecutionStatus := none
  schedulerName : Option String := none
  schedulerJobId : Option String := none
  workflowManifest : Option Json := none
  error : Option String := none
  executionPhase : Option (Option ExecutionPhase) := none
  clearError : Bool := false
  deriving DecidableEq, Repr

/-- `TransitionError::Invalid`, as it is printed. -/
def invalidTransition (current next : ExecutionStatus) : String :=
  "invalid status transition from " ++ current.debugName ++ " to " ++ next.debugName

namespace ExecutionRow

/-- The status a ledger patch leads to: none when it names none or the row is locked, an error
when the ledger does not allow it. -/
def effectiveStatus (row : ExecutionRow) (patch : LedgerPatch) :
    Except String (Option ExecutionStatus) :=
  match patch.status with
  | none => .ok none
  | some next =>
      if row.status.isLockedTerminal ∧ next ≠ row.status then .ok none
      else if next ≠ row.status ∧ ¬row.status.allows next then
        .error (invalidTransition row.status next)
      else .ok (some next)

/-- The fields a status change touches. -/
def enterStatus (row : ExecutionRow) (patch : LedgerPatch) (now : ℕ) (next : ExecutionStatus) :
    ExecutionRow :=
  let recovering := (row.status = .failed ∨ row.status = .retrying) ∧
    (next = .running ∨ next = .retrying)
  { row with
    status := next
    startedAt := if next = .running then row.startedAt <|> some now else row.startedAt
    completedAt := if next.isTerminal then row.completedAt <|> some now else row.completedAt
    retryCount :=
      if row.status = .failed ∧ next = .retrying then row.retryCount + 1 else row.retryCount
    lastError :=
      if (recovering ∨ next = .completed) ∧ patch.error = none then none else row.lastError
    executionPhase :=
      if next.isTerminal ∧ patch.executionPhase = none then none else row.executionPhase }

/-- The fields a ledger patch writes whatever becomes of the status. -/
def writeFields (row : ExecutionRow) (patch : LedgerPatch) : ExecutionRow :=
  { row with
    schedulerName := patch.schedulerName <|> row.schedulerName
    schedulerJobId := patch.schedulerJobId <|> row.schedulerJobId
    workflowManifest := patch.workflowManifest <|> row.workflowManifest
    lastError :=
      match patch.error with
      | some error => some error
      | none => if patch.clearError then none else row.lastError
    executionPhase := patch.executionPhase.getD row.executionPhase }

/-- The columns that the update derives from the new status. -/
def settleStatus (row : ExecutionRow) : ExecutionRow :=
  { row with
    controlPhase := if row.status.isTerminal then .terminal else row.controlPhase
    terminalOutcome :=
      match row.status with
      | .completed => row.terminalOutcome <|> some .succeeded
      | .failed => row.terminalOutcome <|> some .failed
      | .cancelled => row.terminalOutcome <|> some .cancelled
      | _ => row.terminalOutcome }

/-- The row after a ledger patch that leads to the status `next`, if it leads to one. -/
def patched (row : ExecutionRow) (patch : LedgerPatch) (now : ℕ) :
    Option ExecutionStatus → ExecutionRow
  | some next => ((row.enterStatus patch now next).writeFields patch).settleStatus
  | none => (row.writeFields patch).settleStatus

/-- `apply_execution_patch_with_correlation` on the locked row: `LedgerState::apply_patch`, then the
columns that the update derives from the new status, under the completion gate. -/
def applyPatch (row : ExecutionRow) (patch : LedgerPatch) (now : ℕ) : Except String ExecutionRow :=
  match row.effectiveStatus patch with
  | .error error => .error error
  | .ok next =>
      if (row.patched patch now next).completionGate then .ok (row.patched patch now next)
      else .error "ck_required_output_completion_verified"

section Patched

variable (row : ExecutionRow) (patch : LedgerPatch) (now : ℕ) (next : Option ExecutionStatus)

@[simp] theorem patched_status : (row.patched patch now next).status = next.getD row.status := by
  cases next <;> rfl

@[simp] theorem patched_uuid : (row.patched patch now next).uuid = row.uuid := by
  cases next <;> rfl

@[simp] theorem patched_projectModule :
    (row.patched patch now next).projectModule = row.projectModule := by
  cases next <;> rfl

@[simp] theorem patched_sources : (row.patched patch now next).sources = row.sources := by
  cases next <;> rfl

@[simp] theorem patched_submissionState :
    (row.patched patch now next).submissionState = row.submissionState := by
  cases next <;> rfl

@[simp] theorem patched_schedulerState :
    (row.patched patch now next).schedulerState = row.schedulerState := by
  cases next <;> rfl

@[simp] theorem patched_daliugeState :
    (row.patched patch now next).daliugeState = row.daliugeState := by
  cases next <;> rfl

@[simp] theorem patched_outputState :
    (row.patched patch now next).outputState = row.outputState := by
  cases next <;> rfl

@[simp] theorem patched_outputVerificationRequired :
    (row.patched patch now next).outputVerificationRequired = row.outputVerificationRequired := by
  cases next <;> rfl

@[simp] theorem patched_workflowManifest :
    (row.patched patch now next).workflowManifest =
      (patch.workflowManifest <|> row.workflowManifest) := by
  cases next <;> rfl

@[simp] theorem patched_completedAt :
    (row.patched patch now next).completedAt =
      if next.any ExecutionStatus.isTerminal then row.completedAt <|> some now
      else row.completedAt := by
  cases next <;> rfl

/-- The outcome after a ledger patch is the recorded one, or the one its status stands for. -/
theorem patched_terminalOutcome :
    (row.patched patch now next).terminalOutcome =
      match next.getD row.status with
      | .completed => row.terminalOutcome <|> some .succeeded
      | .failed => row.terminalOutcome <|> some .failed
      | .cancelled => row.terminalOutcome <|> some .cancelled
      | _ => row.terminalOutcome := by
  cases next <;> rfl

theorem patched_lastError :
    (row.patched patch now next).lastError =
      match patch.error with
      | some error => some error
      | none =>
          if patch.clearError then none
          else
            match next with
            | some next =>
                if (row.status = .failed ∨ row.status = .retrying) ∧
                    (next = .running ∨ next = .retrying) ∨ next = .completed then none
                else row.lastError
            | none => row.lastError := by
  cases next with
  | none => rfl
  | some next =>
      cases herror : patch.error with
      | some error => simp [patched, writeFields, settleStatus, herror]
      | none => simp [patched, writeFields, settleStatus, enterStatus, herror]

/-- A retry is counted on the way from `failed` to `retrying` only. -/
theorem patched_retryCount_of_ne (h : next ≠ some .retrying) :
    (row.patched patch now next).retryCount = row.retryCount := by
  cases next with
  | none => rfl
  | some next =>
      have hne : next ≠ .retrying := fun hnext => h (congrArg some hnext)
      change (if row.status = .failed ∧ next = .retrying then _ else _) = _
      simp [hne]

end Patched

/-- The status a ledger patch leads to is one it names and the ledger allows. -/
theorem effectiveStatus_cases {row : ExecutionRow} {patch : LedgerPatch}
    {next : Option ExecutionStatus} (h : row.effectiveStatus patch = .ok next) :
    next = none ∧ (patch.status = none ∨ row.status.isLockedTerminal) ∨
      next = patch.status ∧ ∃ status, patch.status = some status ∧
        (status = row.status ∨ row.status.allows status) := by
  unfold effectiveStatus at h
  split at h
  next hnone =>
    cases h
    exact .inl ⟨rfl, .inl hnone⟩
  next status hsome =>
    split at h
    next hlocked =>
      cases h
      exact .inl ⟨rfl, .inr hlocked.1⟩
    next =>
      split at h
      · cases h
      next hallowed =>
        cases h
        refine .inr ⟨hsome.symm, status, hsome, ?_⟩
        by_cases hsame : status = row.status
        · exact .inl hsame
        · exact .inr (by simpa [hsame] using hallowed)

/-- Everything a ledger patch can do. -/
theorem applyPatch_cases {row row' : ExecutionRow} {patch : LedgerPatch} {now : ℕ}
    (h : row.applyPatch patch now = .ok row') :
    ∃ next, row.effectiveStatus patch = .ok next ∧ row' = row.patched patch now next ∧
      row'.completionGate := by
  unfold applyPatch at h
  split at h
  next => cases h
  next next hnext =>
    split at h
    next hgate =>
      cases h
      exact ⟨next, hnext, rfl, hgate⟩
    next => cases h

end ExecutionRow

/-! ### The state patch -/

/-- `ExecutionStatePatch`. -/
structure ExecutionStatePatch where
  controlPhase : Option ControlPhase := none
  submissionState : Option SubmissionState := none
  schedulerName : Option String := none
  schedulerJobId : Option String := none
  schedulerState : Option SchedulerState := none
  daliugeSessionId : Option String := none
  daliugeManagerUrl : Option String := none
  daliugeState : Option DaliugeState := none
  remoteSessionDir : Option String := none
  outputState : Option OutputState := none
  terminalOutcome : Option TerminalOutcome := none
  failureClass : Option FailureClass := none
  lastError : Option String := none
  clearFailureContext : Bool := false
  deriving DecidableEq, Repr

namespace ExecutionRow

/-- The first update of a state patch: the given columns are written. -/
def project (row : ExecutionRow) (patch : ExecutionStatePatch) : ExecutionRow :=
  { row with
    controlPhase := patch.controlPhase.getD row.controlPhase
    submissionState := patch.submissionState.getD row.submissionState
    schedulerName := patch.schedulerName <|> row.schedulerName
    schedulerJobId := patch.schedulerJobId <|> row.schedulerJobId
    schedulerState := patch.schedulerState.getD row.schedulerState
    daliugeSessionId := patch.daliugeSessionId <|> row.daliugeSessionId
    daliugeManagerUrl := patch.daliugeManagerUrl <|> row.daliugeManagerUrl
    daliugeState := patch.daliugeState.getD row.daliugeState
    remoteSessionDir := patch.remoteSessionDir <|> row.remoteSessionDir
    outputState := patch.outputState.getD row.outputState
    terminalOutcome := patch.terminalOutcome <|> row.terminalOutcome
    failureClass :=
      if patch.clearFailureContext then none else patch.failureClass <|> row.failureClass
    lastError := if patch.clearFailureContext then none else patch.lastError <|> row.lastError }

/-- The status after a reconciliation: a bare `pending` never displaces a status that is past it. -/
def aggregateStatus (current : ExecutionStatus) (decision : ReconciliationDecision) :
    ExecutionStatus :=
  if decision.status = .pending ∧ current ≠ .pending then current else decision.status

/-- A decision other than `pending` is the status. -/
theorem aggregateStatus_of_ne {current : ExecutionStatus} {decision : ReconciliationDecision}
    (h : decision.status ≠ .pending) : aggregateStatus current decision = decision.status := by
  simp [aggregateStatus, h]

/-- The second update of a state patch: the status and what it entails. -/
def aggregate (row : ExecutionRow) (current : ExecutionStatus) (now : ℕ) : ExecutionRow :=
  let decision := row.axes.reconcile
  let status := aggregateStatus current decision
  { row with
    status := status
    terminalOutcome := decision.terminalOutcome <|> row.terminalOutcome
    lastError := if decision.terminalOutcome = some .succeeded then none else row.lastError
    failureClass := if decision.terminalOutcome = some .succeeded then none else row.failureClass
    controlPhase := if status.isTerminal then .terminal else row.controlPhase
    completedAt := if status.isTerminal then row.completedAt <|> some now else row.completedAt }

/-- The row update of `apply_execution_state_patch_with_transition`. -/
def applyStatePatch (row : ExecutionRow) (patch : ExecutionStatePatch) (now : ℕ) : ExecutionRow :=
  if row.status.isTerminal then row else (row.project patch).aggregate row.status now

/-- A terminal row ignores state patches. -/
theorem applyStatePatch_of_isTerminal {row : ExecutionRow} (h : row.status.isTerminal)
    (patch : ExecutionStatePatch) (now : ℕ) : row.applyStatePatch patch now = row := by
  simp [applyStatePatch, h]

/-- On any other row both updates of a state patch happen. -/
theorem applyStatePatch_of_live {row : ExecutionRow} (h : row.status.isTerminal = false)
    (patch : ExecutionStatePatch) (now : ℕ) :
    row.applyStatePatch patch now = (row.project patch).aggregate row.status now := by
  simp [applyStatePatch, h]

section Aggregate

variable (row : ExecutionRow) (current : ExecutionStatus) (now : ℕ)

@[simp] theorem aggregate_status :
    (row.aggregate current now).status = aggregateStatus current row.axes.reconcile := rfl

@[simp] theorem aggregate_completedAt :
    (row.aggregate current now).completedAt =
      if (aggregateStatus current row.axes.reconcile).isTerminal then
        row.completedAt <|> some now
      else row.completedAt := rfl

@[simp] theorem aggregate_terminalOutcome :
    (row.aggregate current now).terminalOutcome =
      (row.axes.reconcile.terminalOutcome <|> row.terminalOutcome) := rfl

@[simp] theorem aggregate_submissionState :
    (row.aggregate current now).submissionState = row.submissionState := rfl

@[simp] theorem aggregate_schedulerState :
    (row.aggregate current now).schedulerState = row.schedulerState := rfl

@[simp] theorem aggregate_daliugeState :
    (row.aggregate current now).daliugeState = row.daliugeState := rfl

@[simp] theorem aggregate_outputState :
    (row.aggregate current now).outputState = row.outputState := rfl

@[simp] theorem aggregate_retryCount :
    (row.aggregate current now).retryCount = row.retryCount := rfl

@[simp] theorem project_submissionState (patch : ExecutionStatePatch) :
    (row.project patch).submissionState = patch.submissionState.getD row.submissionState := rfl

@[simp] theorem project_completedAt (patch : ExecutionStatePatch) :
    (row.project patch).completedAt = row.completedAt := rfl

@[simp] theorem project_terminalOutcome (patch : ExecutionStatePatch) :
    (row.project patch).terminalOutcome = (patch.terminalOutcome <|> row.terminalOutcome) := rfl

@[simp] theorem project_retryCount (patch : ExecutionStatePatch) :
    (row.project patch).retryCount = row.retryCount := rfl

end Aggregate

@[simp] theorem applyStatePatch_retryCount (row : ExecutionRow) (patch : ExecutionStatePatch)
    (now : ℕ) : (row.applyStatePatch patch now).retryCount = row.retryCount := by
  unfold applyStatePatch
  split <;> rfl

end ExecutionRow

/-! ### Retry planning -/

/-- `ExecutionRetryStage`. -/
inductive ExecutionRetryStage where
  | stageAndManifest
  | submit
  deriving DecidableEq, Repr

/-- `ExecutionRetryContext`. -/
structure ExecutionRetryContext where
  status : ExecutionStatus
  phase : Option ExecutionPhase
  submission : SubmissionState
  scheduler : SchedulerState
  daliuge : DaliugeState
  terminalOutcome : Option TerminalOutcome
  hasManifest : Bool
  hasSchedulerJobId : Bool
  deriving DecidableEq, Repr

/-- `ExecutionRetryPlan`. -/
structure ExecutionRetryPlan where
  stage : ExecutionRetryStage
  doStage : Bool
  doSubmit : Bool
  deriving DecidableEq, Repr

/-- `ExecutionRetryRejection`. -/
structure ExecutionRetryRejection where
  code : String
  message : String
  deriving DecidableEq, Repr

/-- `plan_execution_retry`. -/
def planExecutionRetry (context : ExecutionRetryContext) :
    Except ExecutionRetryRejection ExecutionRetryPlan :=
  if context.status ≠ .failed then
    .error ⟨"execution_not_failed", "only a failed execution can be retried in place"⟩
  else if context.terminalOutcome = some .inconsistent then
    .error ⟨"external_state_inconsistent", ("the external state is inconsistent; reconcile or "
      ++ "create a new execution instead of replaying work")⟩
  else if context.submission = .preparing ∨ context.submission.holdsAutomaticWork then
    .error ⟨"submission_may_exist", ("submission may have reached an external system; retry is "
      ++ "blocked to prevent duplicate work")⟩
  else if context.hasSchedulerJobId ∨ context.scheduler ≠ .notSubmitted then
    .error ⟨"scheduler_work_exists", ("a scheduler job or scheduler observation exists; create a "
      ++ "new execution after reconciliation")⟩
  else if context.daliuge ≠ .notCreated then
    .error ⟨"daliuge_session_may_exist", ("DALiuGE is not definitively in the not-created state; "
      ++ "retry is blocked to prevent duplicate sessions")⟩
  else if context.phase = some .submit ∨ (context.submission = .failed ∧ context.hasManifest) then
    if context.hasManifest then .ok ⟨.submit, false, true⟩
    else .error ⟨"retry_manifest_missing", ("the submit stage cannot be retried because its pinned "
      ++ "manifest is missing")⟩
  else .ok ⟨.stageAndManifest, true, true⟩

/-- An accepted retry has seen a failed execution that nothing outside can still be running, and it
repeats the submission alone only with the manifest at hand. -/
theorem planExecutionRetry_ok {context : ExecutionRetryContext} {plan : ExecutionRetryPlan}
    (h : planExecutionRetry context = .ok plan) :
    context.status = .failed ∧ context.submission ≠ .preparing ∧
      context.submission.holdsAutomaticWork = false ∧ context.hasSchedulerJobId = false ∧
      context.scheduler = .notSubmitted ∧ context.daliuge = .notCreated ∧
      (plan.stage = .submit → context.hasManifest) := by
  unfold planExecutionRetry at h
  split_ifs at h with hstatus hinconsistent hsubmission hscheduler hdaliuge hsubmit hmanifest
  all_goals
    cases h
    simp only [not_not, not_or, Bool.not_eq_true] at hstatus hsubmission hscheduler hdaliuge
    refine ⟨hstatus, hsubmission.1, hsubmission.2, hscheduler.1, hscheduler.2, hdaliuge, ?_⟩
  · exact fun _ => hmanifest
  · intro hstage
    cases hstage

/-- `ExecutionRetryContext` of a row. -/
def ExecutionRow.retryContext (row : ExecutionRow) : ExecutionRetryContext :=
  { status := row.status
    phase := row.executionPhase
    submission := row.submissionState
    scheduler := row.schedulerState
    daliuge := row.daliugeState
    terminalOutcome := row.terminalOutcome
    hasManifest := row.workflowManifest.isSome
    hasSchedulerJobId := row.schedulerJobId.isSome }

end Beampipe
