/-
The axes of an execution and their reconciliation.

An execution is observed along five axes: the control phase of the pipeline, the state of the
submission, the scheduler job, the DALiuGE session and the outputs.  `ExecutionAxes.reconcile`
folds them into one status of the ledger, whose values and allowed transitions come first.

Main definitions:

* `Beampipe.ExecutionStatus` — the ledger status, with `Beampipe.ExecutionStatus.isTerminal`,
  `Beampipe.ExecutionStatus.isLockedTerminal` and `Beampipe.ExecutionStatus.allows`;
* `Beampipe.SubmissionState`, `Beampipe.SchedulerState`, `Beampipe.DaliugeState`,
  `Beampipe.OutputState`, `Beampipe.ControlPhase`, `Beampipe.TerminalOutcome` — the columns;
* `Beampipe.ExecutionAxes.reconcile` — the decision;
* `Beampipe.ExecutionAxes.HasEnded`, `Beampipe.ExecutionAxes.Completes`,
  `Beampipe.ExecutionAxes.AwaitsScheduler` — the axes that lead to the statuses.

Main results:

* `Beampipe.ExecutionAxes.reconcile_cases` — what a reconciliation can decide, and why;
* `Beampipe.ExecutionAxes.terminalOutcome_isSome_iff` — a decision carries an outcome exactly when
  its status is terminal.
-/

import Mathlib.Tactic.Basic

set_option relaxedAutoImplicit false
set_option autoImplicit false

namespace Beampipe

/-! ### The ledger status -/

/-- `batch_execution_record.status`. -/
inductive ExecutionStatus where
  | pending
  | running
  | awaitingScheduler
  | notSubmitted
  | completed
  | failed
  | retrying
  | cancelled
  deriving DecidableEq, Repr

namespace ExecutionStatus

/-- The text of the status column. -/
def asStr : ExecutionStatus → String
  | pending => "pending"
  | running => "running"
  | awaitingScheduler => "awaiting_scheduler"
  | notSubmitted => "not_submitted"
  | completed => "completed"
  | failed => "failed"
  | retrying => "retrying"
  | cancelled => "cancelled"

/-- The `{:?}` form of a status. -/
def debugName : ExecutionStatus → String
  | pending => "Pending"
  | running => "Running"
  | awaitingScheduler => "AwaitingScheduler"
  | notSubmitted => "NotSubmitted"
  | completed => "Completed"
  | failed => "Failed"
  | retrying => "Retrying"
  | cancelled => "Cancelled"

/-- No automatic work is left. -/
def isTerminal : ExecutionStatus → Bool
  | completed | failed | cancelled | notSubmitted => true
  | pending | running | awaitingScheduler | retrying => false

/-- The status can never be left again. -/
def isLockedTerminal : ExecutionStatus → Bool
  | completed | cancelled => true
  | _ => false

/-- The transitions of the ledger. -/
def allows : ExecutionStatus → ExecutionStatus → Bool
  | pending, running | pending, cancelled | pending, failed => true
  | running, awaitingScheduler | running, completed | running, notSubmitted | running, failed
  | running, cancelled => true
  | awaitingScheduler, running | awaitingScheduler, completed | awaitingScheduler, failed
  | awaitingScheduler, cancelled => true
  | notSubmitted, running | notSubmitted, cancelled => true
  | failed, retrying | failed, running | failed, cancelled => true
  | retrying, running | retrying, failed | retrying, cancelled => true
  | _, _ => false

theorem isTerminal_of_isLockedTerminal {status : ExecutionStatus}
    (h : status.isLockedTerminal) : status.isTerminal := by
  cases status <;> simp_all [isLockedTerminal, isTerminal]

/-- Nothing is allowed from a locked terminal status. -/
theorem not_allows_of_isLockedTerminal {status next : ExecutionStatus}
    (h : status.isLockedTerminal) : status.allows next = false := by
  cases status <;> simp_all [isLockedTerminal, allows]

end ExecutionStatus

/-! ### The axes -/

/-- `batch_execution_record.control_phase`. -/
inductive ControlPhase where
  | discovered
  | admissionPending
  | admitted
  | manifestGenerated
  | graphPatched
  | translated
  | submissionPending
  | submitted
  | monitoring
  | outputVerification
  | terminal
  deriving DecidableEq, Repr

/-- `batch_execution_record.submission_state`. -/
inductive SubmissionState where
  | notStarted
  | preparing
  | inFlight
  | submitted
  | uncertain
  | failed
  deriving DecidableEq, Repr

/-- `batch_execution_record.scheduler_state`. -/
inductive SchedulerState where
  | notSubmitted
  | pending
  | running
  | succeeded
  | failed
  | cancelled
  | timedOut
  | unknown
  deriving DecidableEq, Repr

/-- The text of a submission state. -/
def SubmissionState.asStr : SubmissionState → String
  | .notStarted => "not_started"
  | .preparing => "preparing"
  | .inFlight => "in_flight"
  | .submitted => "submitted"
  | .uncertain => "uncertain"
  | .failed => "failed"

/-- The text of a scheduler state. -/
def SchedulerState.asStr : SchedulerState → String
  | .notSubmitted => "not_submitted"
  | .pending => "pending"
  | .running => "running"
  | .succeeded => "succeeded"
  | .failed => "failed"
  | .cancelled => "cancelled"
  | .timedOut => "timed_out"
  | .unknown => "unknown"

/-- The scheduler still holds the job. -/
def SchedulerState.isActive : SchedulerState → Bool
  | .pending | .running => true
  | _ => false

/-- `batch_execution_record.daliuge_state`. -/
inductive DaliugeState where
  | notCreated
  | pristine
  | building
  | deploying
  | running
  | finished
  | cancelled
  | failed
  | unknown
  | unreachable
  deriving DecidableEq, Repr

/-- The text of a DALiuGE state. -/
def DaliugeState.asStr : DaliugeState → String
  | .notCreated => "not_created"
  | .pristine => "pristine"
  | .building => "building"
  | .deploying => "deploying"
  | .running => "running"
  | .finished => "finished"
  | .cancelled => "cancelled"
  | .failed => "failed"
  | .unknown => "unknown"
  | .unreachable => "unreachable"

/-- The session still runs. -/
def DaliugeState.isActive : DaliugeState → Bool
  | .pristine | .building | .deploying | .running => true
  | _ => false

/-- `batch_execution_record.output_state`. -/
inductive OutputState where
  | notStarted
  | pending
  | verifying
  | verified
  | failed
  | unknown
  deriving DecidableEq, Repr

/-- `batch_execution_record.terminal_outcome`. -/
inductive TerminalOutcome where
  | succeeded
  | failed
  | cancelled
  | inconsistent
  deriving DecidableEq, Repr

/-! ### Reconciliation -/

/-- What a reconciliation asks for next. -/
inductive ReconciliationAction where
  | wait
  | pollScheduler
  | pollDaliuge
  | verifyOutputs
  | operatorReview
  | none
  deriving DecidableEq, Repr

/-- Axes that contradict one another. -/
structure ReconciliationMismatch where
  code : String
  message : String
  requiresOperator : Bool
  deriving DecidableEq, Repr

/-- The result of a reconciliation. -/
structure ReconciliationDecision where
  status : ExecutionStatus
  terminalOutcome : Option TerminalOutcome
  nextAction : ReconciliationAction
  mismatch : Option ReconciliationMismatch
  deriving DecidableEq, Repr

/-- The five axes, and whether completion waits for verified outputs. -/
structure ExecutionAxes where
  controlPhase : ControlPhase
  submission : SubmissionState
  scheduler : SchedulerState
  daliuge : DaliugeState
  outputs : OutputState
  outputVerificationRequired : Bool
  deriving DecidableEq, Repr

namespace ReconciliationDecision

/-- A decision that keeps the execution alive. -/
def active (status : ExecutionStatus) (nextAction : ReconciliationAction) :
    ReconciliationDecision :=
  { status := status, terminalOutcome := .none, nextAction := nextAction, mismatch := .none }

/-- A decision that ends the execution. -/
def terminal (status : ExecutionStatus) (outcome : TerminalOutcome) : ReconciliationDecision :=
  { status := status, terminalOutcome := some outcome, nextAction := .none, mismatch := .none }

/-- An unsuccessful end and its outcome. -/
def IsUnsuccessful (decision : ReconciliationDecision) : Prop :=
  decision.status = .failed ∧ (decision.terminalOutcome = some .failed ∨
      decision.terminalOutcome = some .inconsistent) ∨
    decision.status = .cancelled ∧ (decision.terminalOutcome = some .cancelled ∨
      decision.terminalOutcome = some .inconsistent)

end ReconciliationDecision

namespace ExecutionAxes

/-- The DALiuGE session failed. -/
def daliugeFailed (axes : ExecutionAxes) : ReconciliationDecision :=
  { status := .failed
    terminalOutcome := some .failed
    nextAction := if axes.scheduler.isActive then .pollScheduler else .none
    mismatch :=
      if axes.scheduler.isActive then
        some
          { code := "daliuge_failed_scheduler_active"
            message := "the DALiuGE session failed while its scheduler allocation is active"
            requiresOperator := false }
      else .none }

/-- The scheduler job failed or timed out. -/
def schedulerFailed (axes : ExecutionAxes) : ReconciliationDecision :=
  { status := .failed
    terminalOutcome := some .failed
    nextAction := if axes.daliuge.isActive then .pollDaliuge else .none
    mismatch :=
      if axes.daliuge.isActive then
        some
          { code := "scheduler_failed_daliuge_active"
            message := ("the scheduler job ended unsuccessfully while DALiuGE still reports an "
              ++ "active session")
            requiresOperator := false }
      else .none }

/-- The allocation ended under an active session. -/
def schedulerFinishedDaliugeActive : ReconciliationDecision :=
  { status := .failed
    terminalOutcome := some .inconsistent
    nextAction := .operatorReview
    mismatch :=
      some
        { code := "scheduler_finished_daliuge_active"
          message := ("the scheduler allocation finished while DALiuGE still reports an active "
            ++ "session")
          requiresOperator := true } }

/-- One layer is cancelled. -/
def layerCancelled (axes : ExecutionAxes) : ReconciliationDecision :=
  let otherActive := axes.scheduler.isActive || axes.daliuge.isActive
  { status := .cancelled
    terminalOutcome := some (if otherActive then .inconsistent else .cancelled)
    nextAction := if otherActive then .operatorReview else .none
    mismatch :=
      if otherActive then
        some
          { code := "partial_cancellation"
            message := "one external execution layer is cancelled while another remains active"
            requiresOperator := true }
      else .none }

/-- The response of the submission was not observed. -/
def submissionUncertain : ReconciliationDecision :=
  { status := .awaitingScheduler
    terminalOutcome := .none
    nextAction := .pollScheduler
    mismatch :=
      some
        { code := "submission_outcome_uncertain"
          message := "submission may have succeeded but its response was not observed"
          requiresOperator := false } }

/-- The job ended and the session has not reported. -/
def daliugeUnconfirmed : ReconciliationDecision :=
  { status := .awaitingScheduler
    terminalOutcome := .none
    nextAction := .pollDaliuge
    mismatch :=
      some
        { code := "scheduler_finished_daliuge_unconfirmed"
          message := "the scheduler job finished but DALiuGE completion is not confirmed"
          requiresOperator := false } }

/-- `external_complete`: the session finished and the scheduler has nothing left to do. -/
def externalComplete (axes : ExecutionAxes) : Bool :=
  axes.daliuge == .finished &&
    (axes.scheduler == .succeeded || axes.scheduler == .notSubmitted)

/-- `ExecutionAxes::reconcile`. -/
def reconcile (axes : ExecutionAxes) : ReconciliationDecision :=
  if axes.outputs = .failed ∨ axes.submission = .failed then .terminal .failed .failed
  else if axes.daliuge = .failed then axes.daliugeFailed
  else if axes.scheduler = .failed ∨ axes.scheduler = .timedOut then axes.schedulerFailed
  else if axes.scheduler = .succeeded ∧ axes.daliuge.isActive then schedulerFinishedDaliugeActive
  else if axes.scheduler = .cancelled ∨ axes.daliuge = .cancelled then axes.layerCancelled
  else if axes.externalComplete then
    if axes.outputVerificationRequired ∧ axes.outputs ≠ .verified then
      .active .running .verifyOutputs
    else .terminal .completed .succeeded
  else if axes.submission = .uncertain then submissionUncertain
  else if axes.scheduler = .pending then .active .awaitingScheduler .pollScheduler
  else if axes.scheduler = .running ∨ axes.daliuge.isActive then .active .running .pollDaliuge
  else if axes.scheduler = .succeeded ∧
      (axes.daliuge = .unknown ∨ axes.daliuge = .unreachable ∨ axes.daliuge = .notCreated) then
    daliugeUnconfirmed
  else if axes.scheduler = .unknown then .active .awaitingScheduler .pollScheduler
  else .active .pending .wait

/-! ### What a reconciliation decides -/

/-- A layer has ended badly, was cancelled, or contradicts another one. -/
def HasEnded (axes : ExecutionAxes) : Prop :=
  (axes.outputs = .failed ∨ axes.submission = .failed) ∨ axes.daliuge = .failed ∨
    (axes.scheduler = .failed ∨ axes.scheduler = .timedOut) ∨
    (axes.scheduler = .succeeded ∧ axes.daliuge.isActive) ∨
    (axes.scheduler = .cancelled ∨ axes.daliuge = .cancelled)

instance (axes : ExecutionAxes) : Decidable axes.HasEnded := inferInstanceAs (Decidable (_ ∨ _))

/-- Every layer has succeeded, and the outputs are verified where they have to be. -/
def Completes (axes : ExecutionAxes) : Prop :=
  ¬axes.HasEnded ∧ axes.externalComplete ∧
    (axes.outputVerificationRequired → axes.outputs = .verified)

instance (axes : ExecutionAxes) : Decidable axes.Completes := inferInstanceAs (Decidable (_ ∧ _))

/-- The submission, or what has become of its job, is not known. -/
def AwaitsScheduler (axes : ExecutionAxes) : Prop :=
  ¬axes.HasEnded ∧ ¬axes.externalComplete ∧
    (axes.submission = .uncertain ∨ axes.scheduler = .pending ∨ axes.scheduler = .succeeded ∨
      (axes.scheduler = .unknown ∧ ¬axes.daliuge.isActive))

instance (axes : ExecutionAxes) : Decidable axes.AwaitsScheduler :=
  inferInstanceAs (Decidable (_ ∧ _))

/-- Axes on which something has ended reconcile to an unsuccessful end. -/
theorem reconcile_of_hasEnded {axes : ExecutionAxes} (h : axes.HasEnded) :
    axes.reconcile.IsUnsuccessful := by
  unfold reconcile
  by_cases houtputs : axes.outputs = .failed ∨ axes.submission = .failed
  · rw [if_pos houtputs]
    exact .inl ⟨rfl, .inl rfl⟩
  rw [if_neg houtputs]
  by_cases hdaliuge : axes.daliuge = .failed
  · rw [if_pos hdaliuge]
    exact .inl ⟨rfl, .inl rfl⟩
  rw [if_neg hdaliuge]
  by_cases hscheduler : axes.scheduler = .failed ∨ axes.scheduler = .timedOut
  · rw [if_pos hscheduler]
    exact .inl ⟨rfl, .inl rfl⟩
  rw [if_neg hscheduler]
  by_cases hactive : axes.scheduler = .succeeded ∧ axes.daliuge.isActive
  · rw [if_pos hactive]
    exact .inl ⟨rfl, .inr rfl⟩
  have hcancelled : axes.scheduler = .cancelled ∨ axes.daliuge = .cancelled := by
    rcases h with h | h | h | h | h
    · exact absurd h houtputs
    · exact absurd h hdaliuge
    · exact absurd h hscheduler
    · exact absurd h hactive
    · exact h
  rw [if_neg hactive, if_pos hcancelled]
  refine .inr ⟨rfl, ?_⟩
  simp only [layerCancelled]
  split
  · exact .inr rfl
  · exact .inl rfl

/-- On other axes the reconciliation starts with the completion. -/
theorem reconcile_of_not_hasEnded {axes : ExecutionAxes} (h : ¬axes.HasEnded) :
    axes.reconcile =
      if axes.externalComplete then
        if axes.outputVerificationRequired ∧ axes.outputs ≠ .verified then
          .active .running .verifyOutputs
        else .terminal .completed .succeeded
      else if axes.submission = .uncertain then submissionUncertain
      else if axes.scheduler = .pending then .active .awaitingScheduler .pollScheduler
      else if axes.scheduler = .running ∨ axes.daliuge.isActive then .active .running .pollDaliuge
      else if axes.scheduler = .succeeded then daliugeUnconfirmed
      else if axes.scheduler = .unknown then .active .awaitingScheduler .pollScheduler
      else .active .pending .wait := by
  simp only [HasEnded, not_or] at h
  obtain ⟨⟨houtputs, hsubmission⟩, hdaliuge, ⟨hfailed, htimedOut⟩, hactive, hcancelled,
    hdaliugeCancelled⟩ := h
  -- a session that has neither ended nor is active has not been confirmed
  have hrest (hcomplete : ¬axes.externalComplete) (hs : axes.scheduler = .succeeded) :
      axes.daliuge = .unknown ∨ axes.daliuge = .unreachable ∨ axes.daliuge = .notCreated := by
    cases hd : axes.daliuge <;>
      simp_all [externalComplete, DaliugeState.isActive]
  unfold reconcile
  simp only [houtputs, hsubmission, hdaliuge, hfailed, htimedOut, hcancelled, hdaliugeCancelled,
    hactive, or_self, if_false]
  split
  · rfl
  next hcomplete =>
    have hiff : (axes.scheduler = .succeeded ∧
        (axes.daliuge = .unknown ∨ axes.daliuge = .unreachable ∨ axes.daliuge = .notCreated)) ↔
        axes.scheduler = .succeeded := ⟨fun hs => hs.1, fun hs => ⟨hs, hrest hcomplete hs⟩⟩
    simp only [hiff]

/-- What a reconciliation can decide, and why. -/
theorem reconcile_cases (axes : ExecutionAxes) :
    axes.HasEnded ∧ axes.reconcile.IsUnsuccessful ∨
      axes.Completes ∧ axes.reconcile = .terminal .completed .succeeded ∨
      axes.AwaitsScheduler ∧ axes.reconcile.status = .awaitingScheduler ∧
        axes.reconcile.terminalOutcome = none ∨
      (axes.reconcile.status = .running ∨ axes.reconcile.status = .pending) ∧
        axes.reconcile.terminalOutcome = none ∧ ¬axes.Completes ∧ ¬axes.AwaitsScheduler := by
  by_cases hended : axes.HasEnded
  · exact .inl ⟨hended, reconcile_of_hasEnded hended⟩
  have heq := reconcile_of_not_hasEnded hended
  right
  split at heq
  next hcomplete =>
    have hawaits : ¬axes.AwaitsScheduler := fun h => h.2.1 hcomplete
    split at heq
    next hrequired =>
      refine .inr (.inr ⟨.inl (by rw [heq]; rfl), by rw [heq]; rfl, ?_, hawaits⟩)
      exact fun h => hrequired.2 (h.2.2 hrequired.1)
    next hverified =>
      refine .inl ⟨⟨hended, hcomplete, fun hrequired => ?_⟩, heq⟩
      simpa [hrequired] using hverified
  next hcomplete =>
    have hcompletes : ¬axes.Completes := fun h => hcomplete h.2.1
    right
    split at heq
    next huncertain =>
      exact .inl ⟨⟨hended, hcomplete, .inl huncertain⟩, by rw [heq]; rfl, by rw [heq]; rfl⟩
    split at heq
    next hpending =>
      exact .inl ⟨⟨hended, hcomplete, .inr (.inl hpending)⟩, by rw [heq]; rfl, by rw [heq]; rfl⟩
    split at heq
    next huncertain hpending hrunning =>
      refine .inr ⟨.inl (by rw [heq]; rfl), by rw [heq]; rfl, hcompletes, ?_⟩
      rintro ⟨-, -, h | h | h | ⟨h, hidle⟩⟩
      · exact huncertain h
      · exact hpending h
      · rcases hrunning with hrunning | hactive
        · rw [hrunning] at h
          cases h
        · exact hended (.inr (.inr (.inr (.inl ⟨h, hactive⟩))))
      · rcases hrunning with hrunning | hactive
        · rw [hrunning] at h
          cases h
        · exact hidle hactive
    split at heq
    next hsucceeded =>
      exact .inl ⟨⟨hended, hcomplete, .inr (.inr (.inl hsucceeded))⟩, by rw [heq]; rfl,
        by rw [heq]; rfl⟩
    split at heq
    next hrunning _ hunknown =>
      exact .inl ⟨⟨hended, hcomplete, .inr (.inr (.inr ⟨hunknown, fun h => hrunning (.inr h)⟩))⟩,
        by rw [heq]; rfl, by rw [heq]; rfl⟩
    next huncertain hpending _ hsucceeded hunknown =>
      refine .inr ⟨.inr (by rw [heq]; rfl), by rw [heq]; rfl, hcompletes, ?_⟩
      rintro ⟨-, -, h | h | h | ⟨h, -⟩⟩ <;> contradiction

theorem reconcile_completed_iff (axes : ExecutionAxes) :
    axes.reconcile.status = .completed ↔ axes.Completes := by
  rcases axes.reconcile_cases with
    ⟨hended, h⟩ | ⟨hcompletes, h⟩ | ⟨hawaits, h, -⟩ | ⟨h, -, hnot, -⟩
  · have hnot : ¬axes.Completes := fun hcompletes => hcompletes.1 hended
    rcases h with ⟨h, -⟩ | ⟨h, -⟩ <;> simp [h, hnot]
  · simp [h, hcompletes, ReconciliationDecision.terminal]
  · have hnot : ¬axes.Completes := fun hcompletes => hawaits.2.1 hcompletes.2.1
    simp [h, hnot]
  · rcases h with h | h <;> simp [h, hnot]

theorem reconcile_awaitingScheduler_iff (axes : ExecutionAxes) :
    axes.reconcile.status = .awaitingScheduler ↔ axes.AwaitsScheduler := by
  rcases axes.reconcile_cases with
    ⟨hended, h⟩ | ⟨hcompletes, h⟩ | ⟨hawaits, h, -⟩ | ⟨h, -, -, hnot⟩
  · have hnot : ¬axes.AwaitsScheduler := fun hawaits => hawaits.1 hended
    rcases h with ⟨h, -⟩ | ⟨h, -⟩ <;> simp [h, hnot]
  · have hnot : ¬axes.AwaitsScheduler := fun hawaits => hawaits.2.1 hcompletes.2.1
    simp [h, hnot, ReconciliationDecision.terminal]
  · simp [h, hawaits]
  · rcases h with h | h <;> simp [h, hnot]

/-- A decision carries an outcome exactly when its status is terminal. -/
theorem terminalOutcome_isSome_iff (axes : ExecutionAxes) :
    axes.reconcile.terminalOutcome.isSome ↔ axes.reconcile.status.isTerminal := by
  rcases axes.reconcile_cases with ⟨-, h⟩ | ⟨-, h⟩ | ⟨-, h, h'⟩ | ⟨h | h, h', -⟩
  · rcases h with ⟨h, h' | h'⟩ | ⟨h, h' | h'⟩ <;> simp [h, h', ExecutionStatus.isTerminal]
  · simp [h, ReconciliationDecision.terminal, ExecutionStatus.isTerminal]
  all_goals simp [h, h', ExecutionStatus.isTerminal]

end ExecutionAxes

end Beampipe
