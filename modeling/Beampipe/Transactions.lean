/-
What every transaction leaves alone.

Most transactions write one part of the store, so most of what a step lemma has to say about the
others is that they keep the rest.  This module says it once for all of `Beampipe.Tx`: which
transactions write the row, that jobs are never deleted and keep what identifies them, and that the
identity of the execution never changes.

Main definitions:

* `Beampipe.Tx.writesRow` — the transactions that write the row;
* `Beampipe.JobRow.Same`, `Beampipe.JobQueue.Keeps` — a job, and the jobs of a queue, are still
  there.

Main results:

* `Beampipe.Tx.run_row` — every other transaction keeps the row;
* `Beampipe.Tx.run_registry` — most transactions keep the source registry;
* `Beampipe.Tx.run_identity` — what identifies the execution is kept;
* `Beampipe.Tx.run_artifacts` — the artifacts are kept, and which of them are new;
* `Beampipe.Tx.run_keeps` — the jobs are kept.
-/

import Beampipe.Requests

set_option relaxedAutoImplicit false
set_option autoImplicit false

namespace Beampipe

/-! ### The writers of the row -/

section Writers

variable {ids : FreshIds} {locked : List Uuid} {s s' : Store}

theorem Tx.run_applyExecutionPatch {patch : LedgerPatch} {row : ExecutionRow}
    (h : (Tx.applyExecutionPatch patch).run ids locked s = .ok (s', row)) :
    s.applyExecutionPatch patch = .ok (s', row) := h

theorem Tx.run_applyExecutionStatePatch {patch : ExecutionStatePatch}
    {result : Store.StateApplyResult}
    (h : (Tx.applyExecutionStatePatch patch).run ids locked s = .ok (s', result)) :
    s.applyExecutionStatePatchWithTransition patch = .ok (s', result) := h

theorem Tx.run_beginExecutionSubmission {intent : SubmissionIntent} {taken : Option ℕ}
    (h : (Tx.beginExecutionSubmission intent).run ids locked s = .ok (s', taken)) :
    s.beginExecutionSubmission ids.first intent = .ok (s', taken) := h

theorem Tx.run_recordSlurmNameLookup {input : SlurmNameLookupRecordInput}
    {result : SlurmNameLookupRecordResult}
    (h : (Tx.recordSlurmNameLookup input).run ids locked s = .ok (s', result)) :
    s.recordSlurmNameLookup input = .ok (s', result) := h

theorem Tx.run_recordSubmissionReceipt {input : SubmissionReceiptInput}
    {result : SubmissionReceiptResult}
    (h : (Tx.recordSubmissionReceipt input).run ids locked s = .ok (s', result)) :
    s.recordSubmissionReceipt (ids.first, ids.second, ids.third) input = .ok (s', result) := h

theorem Tx.run_verifyExecutionOutputs {report : OutputReport} {clock : String}
    {result : ExecutionRow × ExecutionArtifactRow}
    (h : (Tx.verifyExecutionOutputs report clock).run ids locked s = .ok (s', result)) :
    s.verifyExecutionOutputs (ids.first, ids.second) report.artifact
      (fun row => report.accepted row.retryCount) report.schema report.reportSha256 clock =
        .ok (s', result) := h

theorem Tx.run_retryExecution {reason : String}
    {requiredCapabilities : ExecutionRetryPlan → Except String (List String)} {row : ExecutionRow}
    (h : (Tx.retryExecution reason requiredCapabilities).run ids locked s = .ok (s', row)) :
    s.retryExecution ids.first reason requiredCapabilities = .ok (s', row) := h

theorem Tx.run_cancelExecution {confirmation : Option ConfirmedExternalCancellation}
    {row : ExecutionRow}
    (h : (Tx.cancelExecution confirmation).run ids locked s = .ok (s', row)) :
    s.cancelExecution ids.first confirmation = .ok (s', row) := h

theorem Tx.run_abandonSlurmSubmission {input : AbandonSlurmSubmissionInput}
    {evidence : List ExecutionObservationRow → SlurmAbandonmentEvidenceExpectation →
      Except String (List Uuid)} {row : ExecutionRow}
    (h : (Tx.abandonSlurmSubmission input evidence).run ids locked s = .ok (s', row)) :
    s.abandonSlurmSubmission ids.first input evidence = .ok (s', row) := h

theorem Tx.run_enqueueExecuteJob {payload : Json} {requiredCapabilities : List String}
    {queued : Option JobRow}
    (h : (Tx.enqueueExecuteJob payload requiredCapabilities).run ids locked s =
      .ok (s', queued)) :
    s.enqueueExecuteJob (s.executeJob ids.first payload requiredCapabilities) =
      .ok (s', queued) := h

end Writers

/-! ### The row -/

/-- The transaction may write the row of the execution. -/
def Tx.writesRow : Tx → Bool
  | .applyExecutionPatch _ | .applyExecutionStatePatch _ | .applyExecutionProvenancePatch _ => true
  | .beginExecutionSubmission _ | .recordSlurmNameLookup _ | .recordSubmissionReceipt _ => true
  | .verifyExecutionOutputs _ _ | .retryExecution _ _ | .cancelExecution _ => true
  | .abandonSlurmSubmission _ _ => true
  | _ => false

namespace Store

theorem storeExecutionArtifact_row {s s' : Store} {uuid : Uuid} {artifact : ExecutionArtifactInput}
    {row : ExecutionArtifactRow} (h : s.storeExecutionArtifact uuid artifact = .ok (s', row)) :
    s'.row = s.row ∧ s'.queue = s.queue ∧ s'.registry = s.registry := by
  unfold storeExecutionArtifact at h
  split at h
  · cases h
  split at h <;> cases h <;> exact ⟨rfl, rfl, rfl⟩

theorem recordExecutionObservation_row {s s' : Store} {uuid : Uuid}
    {observation : ExecutionObservationInput} {row : ExecutionObservationRow}
    (h : s.recordExecutionObservation uuid observation = .ok (s', row)) :
    s'.row = s.row ∧ s'.queue = s.queue ∧ s'.registry = s.registry := by
  unfold recordExecutionObservation at h
  split at h <;> cases h
  exact ⟨rfl, rfl, rfl⟩

theorem enqueueExecuteJob_cases {s s' : Store} {job : NewJob} {queued : Option JobRow}
    (h : s.enqueueExecuteJob job = .ok (s', queued)) :
    s.row.status.isTerminal = false ∧ s' = { s with queue := s.queue.insertJob job } := by
  unfold enqueueExecuteJob at h
  split at h
  · cases h
  next hopen =>
    cases h
    simp only [not_or, Bool.not_eq_true] at hopen
    exact ⟨hopen.2, rfl⟩

theorem finalizeSuccessfulExecutionSources_cases (s : Store) :
    ∃ registry, s.finalizeSuccessfulExecutionSources.1 = { s with registry := registry } := by
  unfold finalizeSuccessfulExecutionSources
  split
  · exact ⟨_, rfl⟩
  · exact ⟨s.registry, rfl⟩

end Store

/-- A transaction that does not write the row keeps it. -/
theorem Tx.run_row {ids : FreshIds} {locked : List Uuid} {s s' : Store} {t : Tx}
    {result : t.Result} (ht : t.writesRow = false) (h : t.run ids locked s = .ok (s', result)) :
    s'.row = s.row := by
  cases t with
  | storeExecutionArtifact artifact => exact (Store.storeExecutionArtifact_row h).1
  | recordExecutionObservation observation => exact (Store.recordExecutionObservation_row h).1
  | enqueueExecuteJob payload requiredCapabilities =>
      rw [(Store.enqueueExecuteJob_cases (Tx.run_enqueueExecuteJob h)).2]
  | finalizeSuccessfulExecutionSources =>
      obtain ⟨registry, hstore⟩ := s.finalizeSuccessfulExecutionSources_cases
      have hs' : s' = { s with registry := registry } :=
        (congrArg Prod.fst (Except.ok.inj h)).symm.trans hstore
      rw [hs']
  | applyExecutionPatch patch => cases ht
  | applyExecutionStatePatch patch => cases ht
  | applyExecutionProvenancePatch patch => cases ht
  | beginExecutionSubmission intent => cases ht
  | recordSlurmNameLookup input => cases ht
  | recordSubmissionReceipt input => cases ht
  | verifyExecutionOutputs report clock => cases ht
  | retryExecution reason requiredCapabilities => cases ht
  | cancelExecution confirmation => cases ht
  | abandonSlurmSubmission input evidence => cases ht
  | _ =>
      cases h
      rfl

/-- The transaction may write the source registry. -/
def Tx.writesRegistry : Tx → Bool
  | .applyExecutionStatePatch _ | .verifyExecutionOutputs _ _ | .retryExecution _ _ => true
  | .markSourcesPendingWorkflowRun | .clearWorkflowPendingForSources => true
  | .finalizeSuccessfulExecutionSources => true
  | _ => false

/-- A transaction that does not write the registry keeps it. -/
theorem Tx.run_registry {ids : FreshIds} {locked : List Uuid} {s s' : Store} {t : Tx}
    {result : t.Result} (ht : t.writesRegistry = false)
    (h : t.run ids locked s = .ok (s', result)) : s'.registry = s.registry := by
  cases t with
  | applyExecutionStatePatch patch => cases ht
  | verifyExecutionOutputs report clock => cases ht
  | retryExecution reason requiredCapabilities => cases ht
  | markSourcesPendingWorkflowRun => cases ht
  | clearWorkflowPendingForSources => cases ht
  | finalizeSuccessfulExecutionSources => cases ht
  | storeExecutionArtifact artifact => rw [(Store.storeExecutionArtifact_row h).2.2]
  | recordExecutionObservation observation => rw [(Store.recordExecutionObservation_row h).2.2]
  | enqueueExecuteJob payload requiredCapabilities =>
      rw [(Store.enqueueExecuteJob_cases (Tx.run_enqueueExecuteJob h)).2]
  | applyExecutionPatch patch =>
      rw [(Store.applyExecutionPatch_cases (Tx.run_applyExecutionPatch h)).2]
  | beginExecutionSubmission intent =>
      rcases (Store.beginExecutionSubmission_cases (Tx.run_beginExecutionSubmission h)).2 with
        ⟨-, rfl, -⟩ | ⟨-, -, deadline, observations, -, rfl⟩ <;> rfl
  | recordSlurmNameLookup input =>
      obtain ⟨-, -, observations, rfl⟩ :=
        Store.recordSlurmNameLookup_cases (Tx.run_recordSlurmNameLookup h)
      rfl
  | recordSubmissionReceipt input =>
      rcases (Store.recordSubmissionReceipt_cases (Tx.run_recordSubmissionReceipt h)).2.2 with
        ⟨rfl, -⟩ | ⟨-, -, -, queue, observations, -, -, rfl⟩ <;> rfl
  | cancelExecution confirmation =>
      obtain ⟨-, -, -, observations, rfl⟩ := Store.cancelExecution_cases (Tx.run_cancelExecution h)
      rfl
  | abandonSlurmSubmission input evidence =>
      obtain ⟨-, -, -, observations, rfl⟩ :=
        Store.abandonSlurmSubmission_cases (Tx.run_abandonSlurmSubmission h)
      rfl
  | _ =>
      cases h
      rfl

/-- What identifies an execution: its key, its project and its selection. -/
structure ExecutionRow.SameExecution (row row' : ExecutionRow) : Prop where
  uuid : row'.uuid = row.uuid
  projectModule : row'.projectModule = row.projectModule
  sources : row'.sources = row.sources
  createdAt : row'.createdAt = row.createdAt
  outputVerificationRequired :
    row'.outputVerificationRequired = row.outputVerificationRequired
  discoverySignature : row'.discoverySignature = row.discoverySignature

namespace ExecutionRow.SameExecution

theorem refl (row : ExecutionRow) : row.SameExecution row := ⟨rfl, rfl, rfl, rfl, rfl, rfl⟩

theorem of_patched (row : ExecutionRow) (patch : LedgerPatch) (now : ℕ)
    (next : Option ExecutionStatus) : row.SameExecution (row.patched patch now next) := by
  cases next <;> exact ⟨rfl, rfl, rfl, rfl, rfl, rfl⟩

theorem of_applyStatePatch (row : ExecutionRow) (patch : ExecutionStatePatch) (now : ℕ) :
    row.SameExecution (row.applyStatePatch patch now) := by
  unfold applyStatePatch
  split <;> exact ⟨rfl, rfl, rfl, rfl, rfl, rfl⟩

theorem of_lookupRow (s : Store) (outcome : SlurmNameLookupOutcome) :
    s.row.SameExecution (s.lookupRow outcome) := by
  unfold Store.lookupRow
  cases outcome <;> simp only <;> (try split_ifs) <;> exact ⟨rfl, rfl, rfl, rfl, rfl, rfl⟩

end ExecutionRow.SameExecution

/-- No transaction touches what identifies the execution. -/
theorem Tx.run_identity {ids : FreshIds} {locked : List Uuid} {s s' : Store} {t : Tx}
    {result : t.Result} (h : t.run ids locked s = .ok (s', result)) :
    s.row.SameExecution s'.row := by
  cases hwrites : t.writesRow with
  | false =>
      rw [Tx.run_row hwrites h]
      exact .refl _
  | true =>
      cases t with
      | applyExecutionPatch patch =>
          obtain ⟨hpatch, rfl⟩ := Store.applyExecutionPatch_cases (Tx.run_applyExecutionPatch h)
          obtain ⟨next, -, rfl, -⟩ := ExecutionRow.applyPatch_cases hpatch
          exact .of_patched s.row patch s.now next
      | applyExecutionStatePatch patch =>
          rcases Store.applyExecutionStatePatchWithTransition_cases
              (Tx.run_applyExecutionStatePatch h) with
            ⟨-, rfl, -⟩ | ⟨-, -, registry, rfl, -⟩
          · exact .refl _
          · exact .of_applyStatePatch s.row patch s.now
      | applyExecutionProvenancePatch patch =>
          cases h
          exact ⟨rfl, rfl, rfl, rfl, rfl, rfl⟩
      | beginExecutionSubmission intent =>
          rcases (Store.beginExecutionSubmission_cases (Tx.run_beginExecutionSubmission h)).2 with
            ⟨-, rfl, -⟩ | ⟨-, -, deadline, observations, -, rfl⟩
          · exact .refl _
          · exact ⟨rfl, rfl, rfl, rfl, rfl, rfl⟩
      | recordSlurmNameLookup input =>
          obtain ⟨-, -, observations, rfl⟩ :=
            Store.recordSlurmNameLookup_cases (Tx.run_recordSlurmNameLookup h)
          exact .of_lookupRow s input.outcome
      | recordSubmissionReceipt input =>
          rcases (Store.recordSubmissionReceipt_cases (Tx.run_recordSubmissionReceipt h)).2.2 with
            ⟨rfl, -⟩ | ⟨-, -, -, queue, observations, -, -, rfl⟩
          · exact .refl _
          · exact ⟨rfl, rfl, rfl, rfl, rfl, rfl⟩
      | verifyExecutionOutputs report clock =>
          obtain ⟨row, stored⟩ := result
          rcases (Store.verifyExecutionOutputs_cases (Tx.run_verifyExecutionOutputs h)).2.2.2 with
            ⟨-, rfl, -⟩ | ⟨-, -, inventorySha256, artifacts, observations, registry, rfl, -, rfl⟩
          · exact .refl _
          · exact ⟨rfl, rfl, rfl, rfl, rfl, rfl⟩
      | retryExecution reason requiredCapabilities =>
          obtain ⟨plan, capabilities, queue, -, -, -, rfl, rfl⟩ :=
            Store.retryExecution_cases (Tx.run_retryExecution h)
          exact ⟨rfl, rfl, rfl, rfl, rfl, rfl⟩
      | cancelExecution confirmation =>
          obtain ⟨-, -, rfl, observations, rfl⟩ :=
            Store.cancelExecution_cases (Tx.run_cancelExecution h)
          exact ⟨rfl, rfl, rfl, rfl, rfl, rfl⟩
      | abandonSlurmSubmission input evidence =>
          obtain ⟨-, rfl, -, observations, rfl⟩ :=
            Store.abandonSlurmSubmission_cases (Tx.run_abandonSlurmSubmission h)
          exact ⟨rfl, rfl, rfl, rfl, rfl, rfl⟩
      | _ => cases hwrites

/-! ### The artifacts -/

/-- Artifacts are only added, by the two transactions that store one and by a receipt, which adds the
physical graph.  What verified outputs add is left open. -/
theorem Tx.run_artifacts {ids : FreshIds} {locked : List Uuid} {s s' : Store} {t : Tx}
    {result : t.Result} (h : t.run ids locked s = .ok (s', result)) :
    s'.artifacts = s.artifacts ∨ (∃ report clock, t = .verifyExecutionOutputs report clock) ∨
      ∃ stored, s'.artifacts = s.artifacts ++ [stored] ∧
        (stored.kind = "physical_graph" ∨
          ∃ artifact, t = .storeExecutionArtifact artifact ∧
            stored = artifact.row ids.first s.now ∧
            s.findArtifact artifact.kind artifact.sha256 = none) := by
  cases t with
  | storeExecutionArtifact artifact =>
      have hstore : s.storeExecutionArtifact ids.first artifact = .ok (s', result) := h
      unfold Store.storeExecutionArtifact at hstore
      split at hstore
      · cases hstore
      split at hstore
      · cases hstore
        exact .inl rfl
      next hnew =>
        cases hstore
        exact .inr (.inr ⟨_, rfl, .inr ⟨artifact, rfl, rfl, hnew⟩⟩)
  | verifyExecutionOutputs report clock => exact .inr (.inl ⟨report, clock, rfl⟩)
  | recordSubmissionReceipt input =>
      rcases (Store.recordSubmissionReceipt_cases (Tx.run_recordSubmissionReceipt h)).2.2 with
        ⟨rfl, -⟩ | ⟨-, -, -, queue, observations, -, -, rfl⟩
      · exact .inl rfl
      · exact .inr (.inr ⟨_, rfl, .inl rfl⟩)
  | applyExecutionPatch patch =>
      rw [(Store.applyExecutionPatch_cases (Tx.run_applyExecutionPatch h)).2]
      exact .inl rfl
  | applyExecutionStatePatch patch =>
      rcases Store.applyExecutionStatePatchWithTransition_cases
          (Tx.run_applyExecutionStatePatch h) with
        ⟨-, rfl, -⟩ | ⟨-, -, registry, rfl, -⟩ <;> exact .inl rfl
  | recordExecutionObservation observation =>
      have hobservation : s.recordExecutionObservation ids.first observation = .ok (s', result) := h
      unfold Store.recordExecutionObservation at hobservation
      split at hobservation <;> cases hobservation
      exact .inl rfl
  | beginExecutionSubmission intent =>
      rcases (Store.beginExecutionSubmission_cases (Tx.run_beginExecutionSubmission h)).2 with
        ⟨-, rfl, -⟩ | ⟨-, -, deadline, observations, -, rfl⟩ <;> exact .inl rfl
  | recordSlurmNameLookup input =>
      obtain ⟨-, -, observations, rfl⟩ :=
        Store.recordSlurmNameLookup_cases (Tx.run_recordSlurmNameLookup h)
      exact .inl rfl
  | finalizeSuccessfulExecutionSources =>
      obtain ⟨registry, hstore⟩ := s.finalizeSuccessfulExecutionSources_cases
      have hs' : s' = { s with registry := registry } :=
        (congrArg Prod.fst (Except.ok.inj h)).symm.trans hstore
      rw [hs']
      exact .inl rfl
  | enqueueExecuteJob payload requiredCapabilities =>
      rw [(Store.enqueueExecuteJob_cases (Tx.run_enqueueExecuteJob h)).2]
      exact .inl rfl
  | retryExecution reason requiredCapabilities =>
      obtain ⟨plan, capabilities, queue, -, -, -, -, rfl⟩ :=
        Store.retryExecution_cases (Tx.run_retryExecution h)
      exact .inl rfl
  | cancelExecution confirmation =>
      obtain ⟨-, -, -, observations, rfl⟩ := Store.cancelExecution_cases (Tx.run_cancelExecution h)
      exact .inl rfl
  | abandonSlurmSubmission input evidence =>
      obtain ⟨-, -, -, observations, rfl⟩ :=
        Store.abandonSlurmSubmission_cases (Tx.run_abandonSlurmSubmission h)
      exact .inl rfl
  | _ =>
      cases h
      exact .inl rfl

/-! ### The jobs -/

/-- The same job: what an update of a row never touches. -/
structure JobRow.Same (job job' : JobRow) : Prop where
  uuid : job'.uuid = job.uuid
  kind : job'.kind = job.kind
  executionId : job'.executionId = job.executionId
  idempotencyKey : job'.idempotencyKey = job.idempotencyKey

theorem JobRow.Same.refl (job : JobRow) : job.Same job := ⟨rfl, rfl, rfl, rfl⟩

theorem JobRow.Same.trans {a b c : JobRow} (h : a.Same b) (h' : b.Same c) : a.Same c :=
  ⟨h'.uuid.trans h.uuid, h'.kind.trans h.kind, h'.executionId.trans h.executionId,
    h'.idempotencyKey.trans h.idempotencyKey⟩

namespace JobQueue

/-- Every job is still there. -/
def Keeps (q q' : JobQueue) : Prop := ∀ job ∈ q.jobs, ∃ job' ∈ q'.jobs, job.Same job'

theorem Keeps.refl (q : JobQueue) : q.Keeps q := fun job hjob => ⟨job, hjob, .refl job⟩

theorem Keeps.trans {a b c : JobQueue} (h : a.Keeps b) (h' : b.Keeps c) : a.Keeps c := by
  intro job hjob
  obtain ⟨job', hjob', hsame⟩ := h job hjob
  obtain ⟨job'', hjob'', hsame'⟩ := h' job' hjob'
  exact ⟨job'', hjob'', hsame.trans hsame'⟩

theorem Keeps.of_jobs_eq {q q' : JobQueue} (h : q'.jobs = q.jobs) : q.Keeps q' :=
  fun job hjob => ⟨job, h ▸ hjob, .refl job⟩

theorem keeps_updateWhere (q : JobQueue) (p : JobRow → Bool) {set : JobRow → JobRow}
    (hset : ∀ job : JobRow, job.Same (set job)) : q.Keeps (q.updateWhere p set) := by
  intro job hjob
  refine ⟨_, mem_updateWhere.mpr ⟨job, hjob, rfl⟩, ?_⟩
  split
  · exact hset job
  · exact .refl job

theorem keeps_append (q : JobQueue) (jobs : List JobRow) :
    q.Keeps { q with jobs := q.jobs ++ jobs } :=
  fun job hjob => ⟨job, List.mem_append_left jobs hjob, .refl job⟩

theorem keeps_insertJob (q : JobQueue) (job : NewJob) : q.Keeps (q.insertJob job) := by
  unfold insertJob
  split_ifs
  · exact q.keeps_updateWhere _ fun row => ⟨rfl, rfl, rfl, rfl⟩
  · exact .refl q
  · exact q.keeps_append _

theorem keeps_upsertRecurringJob (q : JobQueue) (job : NewJob) :
    q.Keeps (q.upsertRecurringJob job) := by
  unfold upsertRecurringJob
  split_ifs
  · refine q.keeps_updateWhere _ fun row => ?_
    unfold refreshRecurringJob
    simp only
    split_ifs <;> exact ⟨rfl, rfl, rfl, rfl⟩
  · exact .refl q
  · exact q.keeps_append _

theorem keeps_insertNewJob {q q' : JobQueue} {job : NewJob} (h : q.insertNewJob job = some q') :
    q.Keeps q' ∧ ¬q.jobs.any (hasKey job.idempotencyKey) ∧ job.row q.now ∈ q'.jobs := by
  unfold insertNewJob at h
  split_ifs at h with hkey
  cases h
  simp only [not_or] at hkey
  exact ⟨q.keeps_append _, hkey.1, by simp⟩

theorem keeps_insertJobOnce {q q' : JobQueue} {job : NewJob} (h : q.insertJobOnce job = some q') :
    q.Keeps q' := by
  unfold insertJobOnce at h
  split_ifs at h
  · cases h
    exact .refl q
  · exact (keeps_insertNewJob h).1

theorem keeps_claimNextJobForWorker (q : JobQueue) (workerId : Uuid) (workerPool : String)
    (lockSeconds : ℤ) (leaseToken : Uuid) (locked : List Uuid) :
    q.Keeps (q.claimNextJobForWorker workerId workerPool lockSeconds leaseToken locked).1 := by
  rcases q.claimNextJobForWorker_cases workerId workerPool lockSeconds leaseToken locked with
    h | ⟨job, -, event, -, -, -, h⟩
  · rw [h]
    exact .refl q
  · rw [h]
    exact q.keeps_updateWhere _ fun row => ⟨rfl, rfl, rfl, rfl⟩

theorem keeps_closeLease (q : JobQueue) (jobId workerId leaseToken : Uuid) {set : JobRow → JobRow}
    (event : JobRow → ClaimEventKind) (details : Json) (hset : ∀ job : JobRow, job.Same (set job)) :
    q.Keeps (q.closeLease jobId workerId leaseToken set event details).1 := by
  rcases q.closeLease_cases jobId workerId leaseToken set event details with
    ⟨h, -⟩ | ⟨job, -, -, h⟩
  · rw [h]
    exact .refl q
  · rw [h]
    exact q.keeps_updateWhere _ fun row => ⟨(hset row).uuid, (hset row).kind,
      (hset row).executionId, (hset row).idempotencyKey⟩

theorem keeps_renewJobLease (q : JobQueue) (jobId workerId leaseToken : Uuid) (lockSeconds : ℤ) :
    q.Keeps (q.renewJobLease jobId workerId leaseToken lockSeconds).1 :=
  q.keeps_updateWhere _ fun _ => ⟨rfl, rfl, rfl, rfl⟩

theorem keeps_cancelExecuteJobs (q : JobQueue) (executionId : Uuid) :
    q.Keeps (q.cancelExecuteJobs executionId) :=
  q.keeps_updateWhere _ fun _ => ⟨rfl, rfl, rfl, rfl⟩

end JobQueue

/-- Every transaction keeps the jobs. -/
theorem Tx.run_keeps {ids : FreshIds} {locked : List Uuid} {s s' : Store} {t : Tx}
    {result : t.Result} (h : t.run ids locked s = .ok (s', result)) : s.queue.Keeps s'.queue := by
  cases t with
  | storeExecutionArtifact artifact =>
      exact .of_jobs_eq (congrArg _ (Store.storeExecutionArtifact_row h).2.1)
  | recordExecutionObservation observation =>
      exact .of_jobs_eq (congrArg _ (Store.recordExecutionObservation_row h).2.1)
  | finalizeSuccessfulExecutionSources =>
      obtain ⟨registry, hstore⟩ := s.finalizeSuccessfulExecutionSources_cases
      have hs' : s' = { s with registry := registry } :=
        (congrArg Prod.fst (Except.ok.inj h)).symm.trans hstore
      rw [hs']
      exact JobQueue.Keeps.refl s.queue
  | enqueueExecuteJob payload requiredCapabilities =>
      rw [(Store.enqueueExecuteJob_cases (Tx.run_enqueueExecuteJob h)).2]
      exact s.queue.keeps_insertJob _
  | enqueueDimPollJob payload delaySecs pollRound pool =>
      cases h
      exact s.queue.keeps_insertJob _
  | claimNextJobForWorker workerId workerPool lockSeconds =>
      cases h
      exact s.queue.keeps_claimNextJobForWorker workerId workerPool lockSeconds ids.first locked
  | completeJobWithLease lease =>
      cases h
      exact s.queue.keeps_closeLease _ _ _ _ _ fun _ => ⟨rfl, rfl, rfl, rfl⟩
  | rescheduleRecurringJobWithLease lease delaySecs =>
      cases h
      exact s.queue.keeps_closeLease _ _ _ _ _ fun _ => ⟨rfl, rfl, rfl, rfl⟩
  | failJobPermanentlyWithLease lease error failureClass =>
      cases h
      exact s.queue.keeps_closeLease _ _ _ _ _ fun _ => ⟨rfl, rfl, rfl, rfl⟩
  | failOrRetryJobWithLease lease error failureClass retryDelaySeconds =>
      cases h
      exact s.queue.keeps_closeLease _ _ _ _ _ fun _ => ⟨rfl, rfl, rfl, rfl⟩
  | applyExecutionPatch patch =>
      rw [(Store.applyExecutionPatch_cases (Tx.run_applyExecutionPatch h)).2]
      exact .refl _
  | applyExecutionStatePatch patch =>
      rcases Store.applyExecutionStatePatchWithTransition_cases
          (Tx.run_applyExecutionStatePatch h) with
        ⟨-, rfl, -⟩ | ⟨-, -, registry, rfl, -⟩ <;> exact .refl _
  | beginExecutionSubmission intent =>
      rcases (Store.beginExecutionSubmission_cases (Tx.run_beginExecutionSubmission h)).2 with
        ⟨-, rfl, -⟩ | ⟨-, -, deadline, observations, -, rfl⟩ <;> exact .refl _
  | recordSlurmNameLookup input =>
      obtain ⟨-, -, observations, rfl⟩ :=
        Store.recordSlurmNameLookup_cases (Tx.run_recordSlurmNameLookup h)
      exact .refl _
  | recordSubmissionReceipt input =>
      rcases (Store.recordSubmissionReceipt_cases (Tx.run_recordSubmissionReceipt h)).2.2 with
        ⟨rfl, -⟩ | ⟨-, -, -, queue, observations, hqueue, -, rfl⟩
      · exact .refl _
      · cases hpoll : input.pollJob with
        | none =>
            simp only [hpoll, Option.some.injEq] at hqueue
            rw [← hqueue]
            exact .refl _
        | some pollJob =>
            simp only [hpoll] at hqueue
            exact JobQueue.keeps_insertJobOnce hqueue
  | verifyExecutionOutputs report clock =>
      rcases (Store.verifyExecutionOutputs_cases (Tx.run_verifyExecutionOutputs h)).2.2.2 with
        ⟨-, rfl, -⟩ | ⟨-, -, inventorySha256, artifacts, observations, registry, -, -, rfl⟩ <;>
        exact .refl _
  | retryExecution reason requiredCapabilities =>
      obtain ⟨plan, capabilities, queue, -, -, hqueue, -, rfl⟩ :=
        Store.retryExecution_cases (Tx.run_retryExecution h)
      exact (JobQueue.keeps_insertNewJob hqueue).1
  | cancelExecution confirmation =>
      obtain ⟨-, -, -, observations, rfl⟩ := Store.cancelExecution_cases (Tx.run_cancelExecution h)
      exact s.queue.keeps_cancelExecuteJobs _
  | abandonSlurmSubmission input evidence =>
      obtain ⟨-, -, -, observations, rfl⟩ :=
        Store.abandonSlurmSubmission_cases (Tx.run_abandonSlurmSubmission h)
      exact s.queue.keeps_updateWhere _ fun _ => ⟨rfl, rfl, rfl, rfl⟩
  | _ =>
      cases h
      exact .refl _

end Beampipe
