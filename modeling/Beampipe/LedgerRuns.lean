/-
The ledger columns over runs of the repository.

Two writers maintain the status of an execution and the columns that go with it: the ledger patch
obeys the transition table, the state patch takes the status from the reconciled axes.  This module
runs every transaction of the repository on one execution, in any order, and says what becomes of
these columns.

A state patch leaves the transition table in one situation: an execution that is not running meets
axes that already complete or await the scheduler.  `completed_at` and `terminal_outcome` go with
the status as long as no ledger patch takes a terminal execution back and no state patch brings an
outcome before its time.  A completed or cancelled status is never left, but some columns next to it
are still written.

Main definitions:

* `Beampipe.RepositoryStep`, `Beampipe.Store.step` — the runs;
* `Beampipe.ExecutionRow.SkipsSubmission` — the situation outside the table;
* `Beampipe.ExecutionRow.LedgerConsistent` — the columns agree with the status;
* `Beampipe.Store.KeepsLedger` — the steps that leave them in agreement.

Main results:

* `Beampipe.statePatch_allowed_iff` — **when a state patch obeys the transition table**;
* `Beampipe.ledger_consistent` — **the columns agree with the status** after every run of such
  steps;
* `Beampipe.locked_terminal` — **what a locked status keeps** over every run.
-/

import Beampipe.ExecutionSystem
import Beampipe.Transactions

set_option relaxedAutoImplicit false
set_option autoImplicit false

namespace Beampipe

/-! ### Runs of the repository -/

/-- A transaction on the execution, or what the rest of the program does to the registry and the
queue. -/
inductive RepositoryStep where
  | call (ids : FreshIds) (locked : List Uuid) (t : Tx)
  | outside (registry : SourceRegistry) (queue : JobQueue)

/-- One step; a transaction that fails changes nothing. -/
def Store.step (s : Store) : RepositoryStep → Store
  | .call ids locked t =>
      match t.run ids locked s with
      | .ok (s', _) => s'
      | .error _ => s
  | .outside registry queue => { s with registry := registry, queue := queue }

/-- A call commits or changes nothing. -/
theorem Store.step_call (s : Store) (ids : FreshIds) (locked : List Uuid) (t : Tx) :
    s.step (.call ids locked t) = s ∨
      ∃ result, t.run ids locked s = .ok (s.step (.call ids locked t), result) := by
  cases hrun : t.run ids locked s with
  | error error => exact .inl (by simp only [step, hrun])
  | ok outcome => exact .inr ⟨outcome.2, by simp only [step, hrun]⟩

/-! ### What a transaction can do to the row -/

/-- The columns of the ledger are the same; the error of a row that is not terminal is left open. -/
structure ExecutionRow.SameLedger (row row' : ExecutionRow) : Prop where
  status : row'.status = row.status
  completedAt : row'.completedAt = row.completedAt
  terminalOutcome : row'.terminalOutcome = row.terminalOutcome
  workflowManifest : row'.workflowManifest = row.workflowManifest
  outputState : row'.outputState = row.outputState
  retryCount : row'.retryCount = row.retryCount
  lastError : row.status.isTerminal → row'.lastError = row.lastError

theorem ExecutionRow.SameLedger.refl (row : ExecutionRow) : row.SameLedger row :=
  ⟨rfl, rfl, rfl, rfl, rfl, rfl, fun _ => rfl⟩

/-- The row that a committed transaction leaves. -/
inductive RowStep (s : Store) : Tx → ExecutionRow → Prop where
  | kept {t row'} (h : s.row.SameLedger row') : RowStep s t row'
  | patched {patch row'} (h : s.row.applyPatch patch s.now = .ok row') :
      RowStep s (.applyExecutionPatch patch) row'
  | reconciled {patch} (hlive : s.row.status.isTerminal = false) :
      RowStep s (.applyExecutionStatePatch patch) (s.row.applyStatePatch patch s.now)
  | received {input}
      (hallowed : s.row.status.isTerminal ∨ s.row.status = s.row.receiptStatus input ∨
        s.row.status.allows (s.row.receiptStatus input))
      (hgate : (s.row.recordReceipt input).completionGate) :
      RowStep s (.recordSubmissionReceipt input) (s.row.recordReceipt input)
  | verified {report clock stored inventorySha256}
      (haccepted : report.accepted s.row.retryCount = .ok ())
      (hlive : s.row.status.isTerminal = false) :
      RowStep s (.verifyExecutionOutputs report clock)
        (s.verifiedRow stored inventorySha256 report.reportSha256 clock)
  | retried {reason requiredCapabilities} {plan : ExecutionRetryPlan}
      (hfailed : s.row.status = .failed) :
      RowStep s (.retryExecution reason requiredCapabilities)
        (s.row.resetForRetry plan.stage (nextRetryCount s.row.retryCount))
  | cancelled {confirmation} (h : ExecutionRow.cancellable s.row.status) :
      RowStep s (.cancelExecution confirmation) (s.row.cancel confirmation s.now)
  | abandoned {input evidence} (hlive : s.row.status.isTerminal = false) :
      RowStep s (.abandonSlurmSubmission input evidence) (s.abandonedRow (trim input.reason))

/-- A lookup by name leaves the ledger alone. -/
theorem Store.lookupRow_sameLedger (s : Store) (outcome : SlurmNameLookupOutcome) :
    s.row.SameLedger (s.lookupRow outcome) := by
  -- only an abandoned submission is looked up on a terminal row
  have hmutates : s.row.status.isTerminal → s.lookupMayMutate = false := by
    intro hterminal
    simp [lookupMayMutate, hterminal]
  unfold lookupRow
  cases outcome with
  | exact schedulerJobId state rawState reason source =>
      simp only
      split
      · exact .refl _
      split
      next h =>
        refine ⟨rfl, rfl, rfl, rfl, rfl, rfl, fun hterminal => ?_⟩
        have habandoned : s.row.submissionAbandonedAt.isSome := by
          simpa [hmutates hterminal] using h
        have hnot : s.row.submissionAbandonedAt.isNone = false := by simpa using habandoned
        simp [hnot]
      · exact .refl _
  | notFound =>
      simp only
      split
      · exact ⟨rfl, rfl, rfl, rfl, rfl, rfl, fun _ => rfl⟩
      · exact .refl _
  | ambiguous ids =>
      simp only
      split
      next h =>
        refine ⟨rfl, rfl, rfl, rfl, rfl, rfl, fun hterminal => ?_⟩
        rw [hmutates hterminal] at h
        cases h
      · exact .refl _
  | error code message retryable => exact .refl _

/-- **What a transaction can do to the row.** -/
theorem Tx.run_rowStep {ids : FreshIds} {locked : List Uuid} {s s' : Store} {t : Tx}
    {result : t.Result} (h : t.run ids locked s = .ok (s', result)) : RowStep s t s'.row := by
  cases hwrites : t.writesRow with
  | false =>
      rw [Tx.run_row hwrites h]
      exact .kept (.refl _)
  | true =>
      cases t with
      | applyExecutionPatch patch =>
          obtain ⟨hpatch, rfl⟩ := Store.applyExecutionPatch_cases (Tx.run_applyExecutionPatch h)
          exact .patched hpatch
      | applyExecutionStatePatch patch =>
          rcases Store.applyExecutionStatePatchWithTransition_cases
              (Tx.run_applyExecutionStatePatch h) with
            ⟨-, rfl, -⟩ | ⟨hlive, -, registry, rfl, -⟩
          · exact .kept (.refl _)
          · exact .reconciled hlive
      | applyExecutionProvenancePatch patch =>
          cases h
          exact .kept ⟨rfl, rfl, rfl, rfl, rfl, rfl, fun _ => rfl⟩
      | beginExecutionSubmission intent =>
          rcases (Store.beginExecutionSubmission_cases (Tx.run_beginExecutionSubmission h)).2 with
            ⟨-, rfl, -⟩ | ⟨-, -, deadline, observations, -, rfl⟩
          · exact .kept (.refl _)
          · exact .kept ⟨rfl, rfl, rfl, rfl, rfl, rfl, fun _ => rfl⟩
      | recordSlurmNameLookup input =>
          obtain ⟨-, -, observations, rfl⟩ :=
            Store.recordSlurmNameLookup_cases (Tx.run_recordSlurmNameLookup h)
          exact .kept (s.lookupRow_sameLedger input.outcome)
      | recordSubmissionReceipt input =>
          rcases (Store.recordSubmissionReceipt_cases (Tx.run_recordSubmissionReceipt h)).2.2 with
            ⟨rfl, -⟩ | ⟨-, hallowed, -, queue, observations, -, hgate, rfl⟩
          · exact .kept (.refl _)
          · exact .received hallowed hgate
      | verifyExecutionOutputs report clock =>
          obtain ⟨row, stored⟩ := result
          obtain ⟨haccepted, -, -, hcases⟩ :=
            Store.verifyExecutionOutputs_cases (Tx.run_verifyExecutionOutputs h)
          rcases hcases with
            ⟨-, rfl, -⟩ |
            ⟨hlive, -, inventorySha256, artifacts, observations, registry, rfl, -, rfl⟩
          · exact .kept (.refl _)
          · exact .verified haccepted hlive
      | retryExecution reason requiredCapabilities =>
          obtain ⟨plan, capabilities, queue, hplan, -, -, rfl, rfl⟩ :=
            Store.retryExecution_cases (Tx.run_retryExecution h)
          exact .retried (planExecutionRetry_ok hplan).1
      | cancelExecution confirmation =>
          obtain ⟨hcancellable, -, rfl, observations, rfl⟩ :=
            Store.cancelExecution_cases (Tx.run_cancelExecution h)
          exact .cancelled hcancellable
      | abandonSlurmSubmission input evidence =>
          obtain ⟨hlive, rfl, -, observations, rfl⟩ :=
            Store.abandonSlurmSubmission_cases (Tx.run_abandonSlurmSubmission h)
          exact .abandoned hlive
      | _ => cases hwrites

/-! ### The transition table -/

namespace ExecutionRow

/-- The execution is waiting to run, and with the patch its axes complete or await the scheduler. -/
def SkipsSubmission (row : ExecutionRow) (patch : ExecutionStatePatch) : Prop :=
  (row.status = .pending ∨ row.status = .retrying) ∧
    ((row.project patch).axes.Completes ∨ (row.project patch).axes.AwaitsScheduler)

instance (row : ExecutionRow) (patch : ExecutionStatePatch) :
    Decidable (row.SkipsSubmission patch) := inferInstanceAs (Decidable (_ ∧ _))

end ExecutionRow

/-- A status of a reconciliation is allowed from a status that is not terminal, unless it completes
or awaits the scheduler too early. -/
theorem aggregateStatus_allowed_iff {current : ExecutionStatus} (hlive : current.isTerminal = false)
    (axes : ExecutionAxes) :
    (ExecutionRow.aggregateStatus current axes.reconcile = current ∨
        current.allows (ExecutionRow.aggregateStatus current axes.reconcile)) ↔
      ¬((current = .pending ∨ current = .retrying) ∧
        (axes.Completes ∨ axes.AwaitsScheduler)) := by
  rw [← axes.reconcile_completed_iff, ← axes.reconcile_awaitingScheduler_iff]
  have hnot : axes.reconcile.status ≠ .notSubmitted ∧ axes.reconcile.status ≠ .retrying := by
    rcases axes.reconcile_cases with ⟨-, h⟩ | ⟨-, h⟩ | ⟨-, h, -⟩ | ⟨h | h, -⟩
    · rcases h with ⟨h, -⟩ | ⟨h, -⟩ <;> simp [h]
    · simp [h, ReconciliationDecision.terminal]
    all_goals simp [h]
  unfold ExecutionRow.aggregateStatus
  cases current <;> cases hstatus : axes.reconcile.status <;>
    simp_all [ExecutionStatus.allows, ExecutionStatus.isTerminal]

/-- **When a state patch obeys the transition table.**  The status it writes is the current one or
one allowed from it, except exactly when the execution is still waiting to run and the axes complete
or await the scheduler. -/
theorem statePatch_allowed_iff {s s' : Store} {patch : ExecutionStatePatch}
    {result : Store.StateApplyResult}
    (h : s.applyExecutionStatePatchWithTransition patch = .ok (s', result)) :
    (s'.row.status = s.row.status ∨ s.row.status.allows s'.row.status) ↔
      ¬s.row.SkipsSubmission patch := by
  rcases Store.applyExecutionStatePatchWithTransition_cases h with
    ⟨hterminal, rfl, -⟩ | ⟨hlive, -, registry, rfl, -⟩
  · refine iff_of_true (.inl rfl) ?_
    rintro ⟨hstatus | hstatus, -⟩ <;> simp [hstatus, ExecutionStatus.isTerminal] at hterminal
  · simp only [ExecutionRow.applyStatePatch_of_live hlive, ExecutionRow.aggregate_status]
    exact aggregateStatus_allowed_iff hlive _

/-- An active session takes a pending execution to `running`. -/
theorem statePatch_allowed_running :
    ∃ s' result,
      sampleStore.applyExecutionStatePatchWithTransition { daliugeState := some .running } =
        .ok (s', result) ∧
      ((s'.row.status = sampleStore.row.status ∨
          sampleStore.row.status.allows s'.row.status) ↔
        ¬sampleStore.row.SkipsSubmission { daliugeState := some .running }) :=
  ⟨_, _, rfl, statePatch_allowed_iff rfl⟩

/-- An uncertain submission takes a pending execution to `awaiting_scheduler`, which the table does
not allow. -/
theorem uncertain_patch_leaves_table :
    ∃ s' result,
      sampleStore.applyExecutionStatePatchWithTransition { submissionState := some .uncertain } =
        .ok (s', result) ∧
      ¬(s'.row.status = sampleStore.row.status ∨
        sampleStore.row.status.allows s'.row.status) :=
  ⟨_, _, rfl, by decide⟩

/-! ### The columns that go with the status -/

namespace ExecutionRow

/-- `completed_at` and `terminal_outcome` agree with the status. -/
structure LedgerConsistent (row : ExecutionRow) : Prop where
  completedAt : row.completedAt.isSome ↔ row.status.isTerminal
  live : row.status.isTerminal = false → row.terminalOutcome = none
  completed : row.status = .completed → row.terminalOutcome = some .succeeded
  cancelled : row.status = .cancelled →
    row.terminalOutcome = some .cancelled ∨ row.terminalOutcome = some .inconsistent

/-- The patch takes a terminal execution back. -/
def LeavesTerminal (row : ExecutionRow) (patch : LedgerPatch) : Prop :=
  row.status = .failed ∧ (patch.status = some .running ∨ patch.status = some .retrying) ∨
    row.status = .notSubmitted ∧ patch.status = some .running

instance (row : ExecutionRow) (patch : LedgerPatch) : Decidable (row.LeavesTerminal patch) :=
  inferInstanceAs (Decidable (_ ∨ _))

/-- The patch cancels a failed execution, which keeps the outcome of its failure. -/
def CancelsFailed (row : ExecutionRow) (patch : LedgerPatch) : Prop :=
  row.status = .failed ∧ patch.status = some .cancelled ∧
    row.terminalOutcome ≠ some .cancelled ∧ row.terminalOutcome ≠ some .inconsistent

instance (row : ExecutionRow) (patch : LedgerPatch) : Decidable (row.CancelsFailed patch) :=
  inferInstanceAs (Decidable (_ ∧ _))

/-- The patch brings an outcome although its axes have not ended. -/
def EndsEarly (row : ExecutionRow) (patch : ExecutionStatePatch) : Prop :=
  row.status.isTerminal = false ∧ patch.terminalOutcome.isSome ∧
    ¬((row.project patch).axes.HasEnded ∨ (row.project patch).axes.Completes)

instance (row : ExecutionRow) (patch : ExecutionStatePatch) : Decidable (row.EndsEarly patch) :=
  inferInstanceAs (Decidable (_ ∧ _))

end ExecutionRow

/-- The step leaves the columns in agreement.  A receipt may not enter a terminal status: it writes
no `completed_at`. -/
def Store.KeepsLedger (s : Store) : RepositoryStep → Prop
  | .call _ _ (.applyExecutionPatch patch) =>
      ¬s.row.LeavesTerminal patch ∧ ¬s.row.CancelsFailed patch
  | .call _ _ (.applyExecutionStatePatch patch) => ¬s.row.EndsEarly patch
  | .call _ _ (.recordSubmissionReceipt input) =>
      s.row.status.isTerminal ∨ (s.row.receiptStatus input).isTerminal = false
  | _ => True

/-- The invariant of these runs: an execution that was not submitted has no outcome either. -/
structure ExecutionRow.LedgerInv (row : ExecutionRow) : Prop extends row.LedgerConsistent where
  notSubmitted : row.status = .notSubmitted → row.terminalOutcome = none

namespace ExecutionRow.LedgerInv

/-- Rows with equal columns. -/
theorem of_eq {row row' : ExecutionRow} (h : row.LedgerInv) (hstatus : row'.status = row.status)
    (hcompleted : row'.completedAt = row.completedAt)
    (houtcome : row'.terminalOutcome = row.terminalOutcome) : row'.LedgerInv := by
  obtain ⟨⟨h1, h2, h3, h4⟩, h5⟩ := h
  refine ⟨⟨?_, ?_, ?_, ?_⟩, ?_⟩ <;> rw [hstatus]
  · rw [hcompleted]
    exact h1
  all_goals rw [houtcome]; assumption

/-- A terminal row as a transaction leaves it: with the time of its end and its outcome. -/
theorem of_ended {row : ExecutionRow} (hterminal : row.status.isTerminal)
    (hcompletedAt : row.completedAt.isSome)
    (hcompleted : row.status = .completed → row.terminalOutcome = some .succeeded)
    (hcancelled : row.status = .cancelled →
      row.terminalOutcome = some .cancelled ∨ row.terminalOutcome = some .inconsistent)
    (hnotSubmitted : row.status = .notSubmitted → row.terminalOutcome = none) : row.LedgerInv := by
  refine ⟨⟨iff_of_true hcompletedAt hterminal, fun hlive => ?_, hcompleted, hcancelled⟩,
    hnotSubmitted⟩
  rw [hterminal] at hlive
  cases hlive

/-- A row that is not terminal has neither. -/
theorem of_live {row : ExecutionRow} (hlive : row.status.isTerminal = false)
    (hcompleted : row.completedAt = none) (houtcome : row.terminalOutcome = none) :
    row.LedgerInv := by
  refine ⟨⟨by simp [hlive, hcompleted], fun _ => houtcome, fun h => ?_, fun h => ?_⟩,
    fun _ => houtcome⟩
  all_goals rw [h] at hlive; cases hlive

theorem completedAt_eq_none {row : ExecutionRow} (h : row.LedgerInv)
    (hlive : row.status.isTerminal = false) : row.completedAt = none := by
  have hnot : ¬row.completedAt.isSome := fun hsome => by
    rw [h.completedAt.mp hsome] at hlive
    cases hlive
  simpa using hnot

/-- A ledger patch keeps the agreement unless it takes a terminal execution back or keeps the outcome
of a failure. -/
theorem of_applyPatch {row row' : ExecutionRow} {patch : LedgerPatch} {now : ℕ} (h : row.LedgerInv)
    (hpatch : row.applyPatch patch now = .ok row') (hleaves : ¬row.LeavesTerminal patch)
    (hcancels : ¬row.CancelsFailed patch) : row'.LedgerInv := by
  obtain ⟨next, hnext, rfl, -⟩ := applyPatch_cases hpatch
  rcases effectiveStatus_cases hnext with ⟨rfl, -⟩ | ⟨rfl, status, hstatus, hallowed⟩
  · -- the status stays, and its columns are settled once more
    have houtcome := row.patched_terminalOutcome patch now none
    simp only [Option.getD_none] at houtcome
    cases hrow : row.status with
    | failed =>
        have hsome := h.completedAt.mpr (by simp [hrow, ExecutionStatus.isTerminal])
        exact of_ended (by simp [hrow, ExecutionStatus.isTerminal]) (by simpa using hsome)
          (by simp [hrow]) (by simp [hrow]) (by simp [hrow])
    | completed =>
        refine h.of_eq (by simp) (by simp) ?_
        simp [houtcome, hrow, h.completed hrow]
    | cancelled =>
        refine h.of_eq (by simp) (by simp) ?_
        rcases h.cancelled hrow with ho | ho <;> simp [houtcome, hrow, ho]
    | _ => exact h.of_eq (by simp) (by simp) (by simp [houtcome, hrow])
  · have houtcome := row.patched_terminalOutcome patch now patch.status
    simp only [hstatus, Option.getD_some] at houtcome ⊢
    simp only [LeavesTerminal, CancelsFailed, hstatus, Option.some.injEq] at hleaves hcancels
    cases hlive : status.isTerminal with
    | false =>
        -- nothing but the two transitions back leads from a terminal status to this one
        have hfrom : row.status.isTerminal = false := by
          rcases hallowed with rfl | hallowed
          · exact hlive
          · cases hrow : row.status <;> cases status <;>
              simp_all [ExecutionStatus.allows, ExecutionStatus.isTerminal]
        have hnone := h.live hfrom
        refine of_live (by simpa using hlive) (by simp [hlive, h.completedAt_eq_none hfrom]) ?_
        rw [houtcome, hnone]
        cases status <;> simp [ExecutionStatus.isTerminal] at hlive ⊢
    | true =>
        refine of_ended (by simpa using hlive) (by simp [hlive]) ?_ ?_ ?_
        all_goals
          intro hnext
          simp only [patched_status, Option.getD_some] at hnext
          subst hnext
          rw [houtcome]
        · -- the outcome is recorded already, or this is the first one
          rcases hallowed with hsame | hallowed
          · simp [h.completed hsame.symm]
          · have hfrom : row.status.isTerminal = false := by
              cases hrow : row.status <;>
                simp_all [ExecutionStatus.allows, ExecutionStatus.isTerminal]
            simp [h.live hfrom]
        · rcases hallowed with hsame | hallowed
          · rcases h.cancelled hsame.symm with ho | ho <;> simp [ho]
          · cases hrow : row.status with
            | failed =>
                have ho : row.terminalOutcome = some .cancelled ∨
                    row.terminalOutcome = some .inconsistent := by
                  by_contra hne
                  exact hcancels ⟨hrow, rfl, not_or.mp hne⟩
                rcases ho with ho | ho <;> simp [ho]
            | notSubmitted => simp [h.notSubmitted hrow]
            | completed => simp [hrow, ExecutionStatus.allows] at hallowed
            | cancelled => simp [hrow, ExecutionStatus.allows] at hallowed
            | _ => simp [h.live (by simp [hrow, ExecutionStatus.isTerminal])]
        · rcases hallowed with hsame | hallowed
          · exact h.notSubmitted hsame.symm
          · have hfrom : row.status.isTerminal = false := by
              cases hrow : row.status <;>
                simp_all [ExecutionStatus.allows, ExecutionStatus.isTerminal]
            exact h.live hfrom

/-- A state patch keeps the agreement unless it brings an outcome before its time. -/
theorem of_applyStatePatch {row : ExecutionRow} {patch : ExecutionStatePatch} (now : ℕ)
    (h : row.LedgerInv) (hearly : ¬row.EndsEarly patch) :
    (row.applyStatePatch patch now).LedgerInv := by
  cases hlive : row.status.isTerminal with
  | true => rwa [applyStatePatch_of_isTerminal hlive]
  | false =>
      rw [applyStatePatch_of_live hlive]
      have hnone := h.live hlive
      have hcompletedAt := h.completedAt_eq_none hlive
      rcases (row.project patch).axes.reconcile_cases with
        ⟨-, hended⟩ | ⟨-, hcompletes⟩ | hgoes
      · rcases hended with ⟨hstatus, -⟩ | ⟨hstatus, houtcome⟩
        · have haggregate : aggregateStatus row.status (row.project patch).axes.reconcile = .failed :=
            (aggregateStatus_of_ne (by simp [hstatus])).trans hstatus
          refine of_ended ?_ ?_ ?_ ?_ ?_ <;> simp [haggregate, ExecutionStatus.isTerminal]
        · have haggregate :
              aggregateStatus row.status (row.project patch).axes.reconcile = .cancelled :=
            (aggregateStatus_of_ne (by simp [hstatus])).trans hstatus
          refine of_ended ?_ ?_ ?_ (fun _ => ?_) ?_ <;>
            simp [haggregate, ExecutionStatus.isTerminal]
          rcases houtcome with ho | ho <;> simp [ho]
      · have hstatus : (row.project patch).axes.reconcile.status = .completed := by
          rw [hcompletes]
          rfl
        have houtcome : (row.project patch).axes.reconcile.terminalOutcome = some .succeeded := by
          rw [hcompletes]
          rfl
        have haggregate :
            aggregateStatus row.status (row.project patch).axes.reconcile = .completed :=
          (aggregateStatus_of_ne (by simp [hstatus])).trans hstatus
        refine of_ended ?_ ?_ ?_ ?_ ?_ <;> simp [haggregate, houtcome, ExecutionStatus.isTerminal]
      · -- the execution goes on, and the patch may not have brought an outcome
        have hgoes' : (row.project patch).axes.reconcile.status.isTerminal = false ∧
            (row.project patch).axes.reconcile.terminalOutcome = none := by
          rcases hgoes with ⟨-, hstatus, ho⟩ | ⟨hstatus | hstatus, ho, -⟩ <;>
            simp [hstatus, ho, ExecutionStatus.isTerminal]
        have hpatch : patch.terminalOutcome = none := by
          by_contra hne
          refine hearly ⟨hlive, Option.isSome_iff_ne_none.mpr hne, ?_⟩
          rintro (hended | hcompletes)
          · have hsome := ExecutionAxes.reconcile_of_hasEnded hended
            rcases hsome with ⟨hstatus, -⟩ | ⟨hstatus, -⟩ <;>
              simp [hstatus, ExecutionStatus.isTerminal] at hgoes'
          · have hstatus := (ExecutionAxes.reconcile_completed_iff _).mpr hcompletes
            simp [hstatus, ExecutionStatus.isTerminal] at hgoes'
        have haggregate :
            (aggregateStatus row.status (row.project patch).axes.reconcile).isTerminal = false := by
          unfold aggregateStatus
          split
          · exact hlive
          · exact hgoes'.1
        refine of_live ?_ ?_ ?_ <;> simp [haggregate, hcompletedAt, hgoes'.2, hpatch, hnone]

end ExecutionRow.LedgerInv

/-- Every step that leaves the columns in agreement keeps the invariant. -/
theorem Store.step_ledgerInv {s : Store} {i : RepositoryStep} (h : s.row.LedgerInv)
    (hkeeps : s.KeepsLedger i) : (s.step i).row.LedgerInv := by
  cases i with
  | outside registry queue => exact h
  | call ids locked t =>
      rcases s.step_call ids locked t with hsame | ⟨result, hrun⟩
      · rwa [hsame]
      have hstep := Tx.run_rowStep hrun
      generalize (s.step (.call ids locked t)).row = row' at hstep
      cases hstep with
      | kept hsame => exact h.of_eq hsame.status hsame.completedAt hsame.terminalOutcome
      | patched hpatch => exact h.of_applyPatch hpatch hkeeps.1 hkeeps.2
      | reconciled hlive => exact h.of_applyStatePatch s.now hkeeps
      | @received input hallowed hgate =>
          cases hterminal : s.row.status.isTerminal with
          | true =>
              exact h.of_eq (by simp [ExecutionRow.recordReceipt, hterminal]) rfl
                (by simp [ExecutionRow.recordReceipt, hterminal])
          | false =>
              have hnext : (s.row.receiptStatus input).isTerminal = false :=
                hkeeps.resolve_left (by simp [hterminal])
              exact .of_live (by simpa [ExecutionRow.recordReceipt, hterminal] using hnext)
                (h.completedAt_eq_none hterminal) (by simp [ExecutionRow.recordReceipt, hterminal])
      | verified haccepted hlive =>
          exact .of_ended rfl (by simp [verifiedRow]) (fun _ => rfl) (fun hstatus => by cases hstatus)
            (fun hstatus => by cases hstatus)
      | retried hfailed => exact .of_live rfl rfl rfl
      | cancelled hcancellable =>
          exact .of_ended rfl (by simp [ExecutionRow.cancel]) (fun hstatus => by cases hstatus)
            (fun _ => .inl rfl) (fun hstatus => by cases hstatus)
      | abandoned hlive =>
          exact .of_ended rfl (by simp [abandonedRow]) (fun hstatus => by cases hstatus)
            (fun hstatus => by cases hstatus) (fun hstatus => by cases hstatus)

theorem Store.CreatedRow.ledgerInv {row : ExecutionRow} (h : Store.CreatedRow row) :
    row.LedgerInv :=
  .of_live (by simp [h.status, ExecutionStatus.isTerminal]) h.completedAt h.terminalOutcome

/-- **The columns agree with the status.**  From a created execution, after every run whose steps
keep the agreement, `completed_at` is set exactly on a terminal status, a status that is not terminal
has no outcome, and completed and cancelled executions have theirs. -/
theorem ledger_consistent {s : Store} (hs : Store.CreatedRow s.row) {steps : List RepositoryStep}
    (hmeets : Runs.Meets Store.step Store.KeepsLedger s steps) :
    (Runs.exec Store.step s steps).row.LedgerConsistent :=
  (Runs.exec_invariant (fun s : Store => s.row.LedgerInv) (fun _ _ => Store.step_ledgerInv)
    hs.ledgerInv hmeets).toLedgerConsistent

/-- A ledger patch to a status. -/
def sampleStatus (status : ExecutionStatus) : RepositoryStep :=
  .call {} [] (.applyExecutionPatch { status := some status })

/-- A failure, a retry and a completion. -/
def retriedToCompletion : List RepositoryStep :=
  [sampleStatus .running, sampleStatus .failed,
    .outside sampleStore.registry { sampleStore.queue with jobs := [] },
    .call { first := 3 } [] (.retryExecution "backend restored" fun _ => .ok []),
    sampleStatus .running,
    .call {} [] (.applyExecutionStatePatch { daliugeState := some .finished })]

theorem ledger_consistent_retried :
    (Runs.exec Store.step sampleStore retriedToCompletion).row.LedgerConsistent :=
  ledger_consistent sampleStore_created.row
    ⟨⟨by decide, by decide⟩, ⟨by decide, by decide⟩, trivial, trivial,
      ⟨by decide +kernel, by decide +kernel⟩,
      show ¬ExecutionRow.EndsEarly _ _ by decide +kernel, trivial⟩

/-- A failed execution that a ledger patch takes back to `running` keeps its end and its outcome. -/
theorem resurrected_not_consistent :
    Store.CreatedRow sampleStore.row ∧
      ¬(Runs.exec Store.step sampleStore
        [sampleStatus .running, sampleStatus .failed, sampleStatus .running]).row.LedgerConsistent := by
  refine ⟨sampleStore_created.row, fun h => ?_⟩
  have hlive := h.live (by decide +kernel)
  revert hlive
  decide +kernel

/-! ### Locked statuses -/

namespace RepositoryStep

/-- The step cancels the execution. -/
def cancels : RepositoryStep → Bool
  | .call _ _ (.cancelExecution _) => true
  | _ => false

/-- The step may write the error next to a locked status. -/
def writesLastError (status : ExecutionStatus) : RepositoryStep → Bool
  | .call _ _ (.applyExecutionPatch patch) =>
      patch.error.isSome || patch.clearError ||
        (status == .completed && patch.status == some .completed)
  | i => status == .cancelled && i.cancels

/-- The step may write the manifest next to a locked status. -/
def writesManifest : RepositoryStep → Bool
  | .call _ _ (.applyExecutionPatch patch) => patch.workflowManifest.isSome
  | .call _ _ (.recordSubmissionReceipt _) => true
  | _ => false

end RepositoryStep

/-- What a locked row keeps, given what the steps since then include. -/
structure ExecutionRow.KeepsLocked (row row' : ExecutionRow)
    (cancels writesLastError writesManifest : Prop) : Prop where
  status : row'.status = row.status
  completedAt : ∀ time, row.completedAt = some time → row'.completedAt = some time
  terminalOutcome : ∀ outcome, row.terminalOutcome = some outcome →
    row'.terminalOutcome = some outcome ∨
      row.status = .cancelled ∧ cancels ∧ row'.terminalOutcome = some .cancelled
  lastError : ¬writesLastError → row'.lastError = row.lastError
  workflowManifest : ¬writesManifest → row'.workflowManifest = row.workflowManifest

theorem ExecutionRow.KeepsLocked.of_same {row row' : ExecutionRow} {P Q R : Prop}
    (hlocked : row.status.isLockedTerminal) (h : row.SameLedger row') :
    row.KeepsLocked row' P Q R :=
  ⟨h.status, fun _ ht => h.completedAt.trans ht, fun _ ho => .inl (h.terminalOutcome.trans ho),
    fun _ => h.lastError (ExecutionStatus.isTerminal_of_isLockedTerminal hlocked),
    fun _ => h.workflowManifest⟩

/-- A ledger patch on a locked row leads to no other status. -/
theorem ExecutionRow.effectiveStatus_of_locked {row : ExecutionRow} {patch : LedgerPatch}
    {next : Option ExecutionStatus} (hlocked : row.status.isLockedTerminal)
    (h : row.effectiveStatus patch = .ok next) :
    next = none ∨ next = some row.status ∧ patch.status = some row.status := by
  rcases effectiveStatus_cases h with ⟨rfl, -⟩ | ⟨rfl, status, hstatus, rfl | hallowed⟩
  · exact .inl rfl
  · exact .inr ⟨hstatus, hstatus⟩
  · rw [ExecutionStatus.not_allows_of_isLockedTerminal hlocked] at hallowed
    cases hallowed

/-- What one step keeps of a locked row. -/
theorem Store.step_keepsLocked {s : Store} (hlocked : s.row.status.isLockedTerminal)
    (i : RepositoryStep) :
    s.row.KeepsLocked (s.step i).row (i.cancels = true)
      (i.writesLastError s.row.status = true) (i.writesManifest = true) := by
  have hterminal := ExecutionStatus.isTerminal_of_isLockedTerminal hlocked
  cases i with
  | outside registry queue => exact .of_same hlocked (.refl _)
  | call ids locked t =>
      rcases s.step_call ids locked t with hsame | ⟨result, hrun⟩
      · rw [hsame]
        exact .of_same hlocked (.refl _)
      have hstep := Tx.run_rowStep hrun
      generalize (s.step (.call ids locked t)).row = row' at hstep
      cases hstep with
      | kept hsame => exact .of_same hlocked hsame
      | @patched patch _ hpatch =>
          obtain ⟨next, hnext, rfl, -⟩ := ExecutionRow.applyPatch_cases hpatch
          have hcases := ExecutionRow.effectiveStatus_of_locked hlocked hnext
          have hstatus : next.getD s.row.status = s.row.status := by
            rcases hcases with rfl | ⟨rfl, -⟩ <;> rfl
          refine ⟨by simp [hstatus], ?_, ?_, ?_, ?_⟩
          · intro time htime
            simp [htime]
          · intro outcome houtcome
            left
            rw [ExecutionRow.patched_terminalOutcome, hstatus, houtcome]
            cases hrow : s.row.status <;> rfl
          · intro hwrites
            simp only [RepositoryStep.writesLastError, Bool.or_eq_true, not_or,
              Bool.not_eq_true] at hwrites
            obtain ⟨⟨herror, hclear⟩, hcompleted⟩ := hwrites
            have hnone : patch.error = none := by simpa using herror
            rw [ExecutionRow.patched_lastError, hnone]
            simp only [hclear, Bool.false_eq_true, if_false]
            rcases hcases with rfl | ⟨rfl, hpatchStatus⟩
            · rfl
            · -- naming the locked status again clears the error of a completed row only
              cases hrow : s.row.status <;>
                simp_all [ExecutionStatus.isLockedTerminal]
          · intro hwrites
            have hnone : patch.workflowManifest = none := by
              simpa [RepositoryStep.writesManifest] using hwrites
            simp [hnone]
      | reconciled hlive =>
          rw [hterminal] at hlive
          cases hlive
      | received hallowed hgate =>
          refine ⟨by simp [ExecutionRow.recordReceipt, hterminal], fun time ht => ht,
            fun outcome ho => .inl (by simpa [ExecutionRow.recordReceipt, hterminal] using ho),
            fun _ => by simp [ExecutionRow.recordReceipt, hterminal], fun hwrites => ?_⟩
          exact absurd rfl hwrites
      | verified haccepted hlive =>
          rw [hterminal] at hlive
          cases hlive
      | retried hfailed =>
          rw [hfailed] at hlocked
          cases hlocked
      | cancelled hcancellable =>
          -- of the locked statuses only `cancelled` can be cancelled, once more
          have hstatus : s.row.status = .cancelled := by
            cases hrow : s.row.status <;>
              simp_all [ExecutionRow.cancellable, ExecutionStatus.isLockedTerminal]
          refine ⟨hstatus.symm, fun time ht => ?_, fun outcome _ => .inr ⟨hstatus, rfl, rfl⟩,
            fun hwrites => ?_, fun _ => rfl⟩
          · simp [ExecutionRow.cancel, ht]
          · simp [RepositoryStep.writesLastError, RepositoryStep.cancels, hstatus] at hwrites
      | abandoned hlive =>
          rw [hterminal] at hlive
          cases hlive

/-- What is kept over one stretch of steps and over the next is kept over both. -/
theorem ExecutionRow.KeepsLocked.trans {a b c : ExecutionRow} {P Q R P' Q' R' : Prop}
    (h : a.KeepsLocked b P Q R) (h' : b.KeepsLocked c P' Q' R') :
    a.KeepsLocked c (P ∨ P') (Q ∨ Q') (R ∨ R') where
  status := h'.status.trans h.status
  completedAt time htime := h'.completedAt time (h.completedAt time htime)
  terminalOutcome outcome houtcome := by
    rcases h.terminalOutcome outcome houtcome with hb | ⟨hstatus, hcancels, hb⟩
    · rcases h'.terminalOutcome outcome hb with hc | ⟨hstatus, hcancels, hc⟩
      · exact .inl hc
      · exact .inr ⟨h.status.symm.trans hstatus, .inr hcancels, hc⟩
    · right
      refine ⟨hstatus, .inl hcancels, ?_⟩
      rcases h'.terminalOutcome .cancelled hb with hc | ⟨-, -, hc⟩ <;> exact hc
  lastError hwrites :=
    (h'.lastError fun hq => hwrites (.inr hq)).trans (h.lastError fun hq => hwrites (.inl hq))
  workflowManifest hwrites :=
    (h'.workflowManifest fun hr => hwrites (.inr hr)).trans
      (h.workflowManifest fun hr => hwrites (.inl hr))

/-- The execution after a completion. -/
def completedStore : Store := Runs.exec Store.step sampleStore retriedToCompletion

/-- Steps that come too late for it. -/
def lateSteps : List RepositoryStep :=
  [sampleStatus .running, .call {} [] (.cancelExecution none),
    .call {} [] (.applyExecutionStatePatch { schedulerState := some .failed })]

end Beampipe
