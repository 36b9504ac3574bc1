/-
One submission for each retry generation.

A submission belongs to the generation its execution has reached, the value of `retry_count`.  The
claim of a submission looks at the status and at the submission state only, so what protects a
generation is that no transaction puts a submission back to its beginning, but a retry, which counts
the generation up and leaves a job under its key.

One way around this is open.  A definite failure of the backend leaves the submission `failed` on a
failed execution; a stale worker that still has its patch to `running` ahead of it brings the
execution back to life with that submission, and `begin_execution_submission` takes it once more.
`Beampipe.resurrected_submission_taken_twice` is such a run, and
`Beampipe.submission_once` shows that there is no other way.

Main definitions:

* `Beampipe.World.begun`, `Beampipe.World.submitted` — the generations whose submission was taken,
  and begun at the backend;
* `Beampipe.World.SubmittedOnce` — each of them at most once;
* `Beampipe.Request.retakesFailed` — the step that must not happen;
* `Beampipe.SubmissionInv`, `Beampipe.submissionOutline` — the invariant, and the outline that
  carries it.

Main results:

* `Beampipe.Tx.run_submission` — what a transaction does to the submission and the generation;
* `Beampipe.submission_once` — **the property holds in every run without such a step**;
* `Beampipe.resurrected_submission_taken_twice` — and fails in a run with one.
-/

import Beampipe.ExecuteOutline
import Beampipe.Transactions

set_option relaxedAutoImplicit false
set_option autoImplicit false

namespace Beampipe

/-! ### The property -/

/-- The generation of a started backend submission: the one its process has taken. -/
def Event.submittedGeneration (e : Event) : Option ℕ := if e.submits then e.loc.grant else none

namespace World

/-- The generations whose submission has been taken, in the order of the log. -/
def begun (w : World) : List ℕ := w.log.filterMap Event.began

/-- The generations for which a backend submission has been started. -/
def submitted (w : World) : List ℕ := w.log.filterMap Event.submittedGeneration

/-- Each generation is taken at most once, and at most one backend submission is started for it. -/
structure SubmittedOnce (w : World) : Prop where
  begun : w.begun.Nodup
  submitted : w.submitted.Nodup
  granted : ∀ e ∈ w.log, e.submits → e.submittedGeneration.isSome

end World

/-- The request takes the submission of a live execution whose submission has failed. -/
def Request.retakesFailed (s : Store) : Request → Bool
  | .tx _ (.beginExecutionSubmission _) =>
      !s.row.status.isTerminal && s.row.submissionState == .failed
  | _ => false

/-! ### The submission of a row -/

/-- The submission has not been taken since the execution was created or retried. -/
def SubmissionState.isFresh : SubmissionState → Bool
  | .notStarted | .preparing => true
  | .inFlight | .submitted | .uncertain | .failed => false

/-- No site resets a submission by a state patch. -/
theorem ExecutionStatePatch.IssuedAt.submissionState {site : Site} {patch : ExecutionStatePatch}
    (h : patch.IssuedAt site) :
    patch.submissionState = none ∨
      ∃ state, patch.submissionState = some state ∧ state.isFresh = false := by
  cases site <;> simp only [ExecutionStatePatch.IssuedAt] at h
  case runExecuteBody => rcases h with rfl | rfl <;> exact .inl rfl
  case executeErrorArm | runSubmitPhase | submitFailed =>
    obtain ⟨failureClass, error, rfl⟩ := h
    exact .inr ⟨_, rfl, rfl⟩
  case terminalExecuteFailure | dimPollTimeout | recordSlurmPollFailure =>
    obtain ⟨failureClass, error, rfl⟩ := h
    exact .inl rfl
  case applyDimPollUpdate | applySlurmPollUpdate =>
    obtain ⟨execution, polled, rfl⟩ := h
    exact .inl rfl
  case recordDimReconciliationError | recordOutputInventoryRetrievalFailure =>
    obtain ⟨state, failureClass, error, -, rfl⟩ := h
    exact .inl rfl
  case cli =>
    obtain ⟨kind, rfl⟩ := h
    cases kind <;> exact .inl rfl

/-- No site counts a retry by a ledger patch. -/
theorem LedgerPatch.IssuedAt.status_ne {site : Site} {patch : LedgerPatch}
    (h : patch.IssuedAt site) : patch.status ≠ some .retrying := by
  cases site <;> simp only [LedgerPatch.IssuedAt] at h
  case runExecuteBody =>
    rcases h with ⟨replayManifest, rfl⟩ | ⟨manifest, rfl⟩
    · cases replayManifest <;> simp [runningPatch]
    · simp
  case terminalExecuteFailure | dimPollTimeout | applySlurmPollUpdate =>
    obtain ⟨x, y, rfl⟩ := h
    simp
  case notSubmitted | applyDimPollUpdate | recordSlurmPollFailure =>
    obtain ⟨manifest, rfl⟩ := h
    simp
  case cli => simp [h]

/-- What one row may become of another as far as the submission goes: the generation is the same and
the submission has not been put back. -/
def ExecutionRow.KeepsSubmission (row row' : ExecutionRow) : Prop :=
  row'.retryCount = row.retryCount ∧
    (row'.submissionState.isFresh → row.submissionState.isFresh)

theorem ExecutionRow.keepsSubmission_patched {row row' : ExecutionRow} {site : Site}
    {patch : LedgerPatch} {now : ℕ} (hissued : patch.IssuedAt site)
    (h : row.applyPatch patch now = .ok row') : row.KeepsSubmission row' := by
  obtain ⟨next, hnext, rfl, -⟩ := ExecutionRow.applyPatch_cases h
  have hne : next ≠ some .retrying := by
    rcases ExecutionRow.effectiveStatus_cases hnext with ⟨rfl, -⟩ | ⟨rfl, -⟩
    · simp
    · exact hissued.status_ne
  refine ⟨ExecutionRow.patched_retryCount_of_ne row patch now next hne, ?_⟩
  rw [ExecutionRow.patched_submissionState]
  exact id

theorem ExecutionRow.keepsSubmission_applyStatePatch {row : ExecutionRow} {site : Site}
    {patch : ExecutionStatePatch} (hissued : patch.IssuedAt site) (now : ℕ) :
    row.KeepsSubmission (row.applyStatePatch patch now) := by
  refine ⟨row.applyStatePatch_retryCount patch now, fun hfresh => ?_⟩
  cases hlive : row.status.isTerminal with
  | true =>
      rwa [ExecutionRow.applyStatePatch_of_isTerminal hlive] at hfresh
  | false =>
      rw [ExecutionRow.applyStatePatch_of_live hlive] at hfresh
      rcases hissued.submissionState with hnone | ⟨state, hsome, hstate⟩
      · simpa [hnone] using hfresh
      · simp [hsome, hstate] at hfresh

theorem Store.keepsSubmission_lookupRow (s : Store) (outcome : SlurmNameLookupOutcome) :
    s.row.KeepsSubmission (s.lookupRow outcome) := by
  unfold Store.lookupRow
  cases outcome with
  | exact schedulerJobId state rawState reason source =>
      simp only
      split_ifs
      · exact ⟨rfl, id⟩
      · exact ⟨rfl, fun hfresh => by cases hfresh⟩
      · exact ⟨rfl, id⟩
      · exact ⟨rfl, id⟩
  | notFound | ambiguous ids =>
      simp only
      split_ifs <;> exact ⟨rfl, id⟩
  | error code message retryable => exact ⟨rfl, id⟩

theorem ExecutionRow.keepsSubmission_recordReceipt (row : ExecutionRow)
    (input : SubmissionReceiptInput) : row.KeepsSubmission (row.recordReceipt input) := by
  refine ⟨rfl, fun hfresh => ?_⟩
  change (if row.submissionAbandonedAt.isSome then row.submissionState else .submitted).isFresh
    at hfresh
  split at hfresh
  · exact hfresh
  · cases hfresh

/-- **The submission under one transaction.**  It is taken, or it is kept with its generation, or a
retry goes on to a generation whose key no job had. -/
theorem Tx.run_submission {ids : FreshIds} {locked : List Uuid} {s s' : Store} {t : Tx} {site : Site}
    {result : t.Result} (hissued : t.IssuedAt site)
    (h : t.run ids locked s = .ok (s', result)) :
    s.row.KeepsSubmission s'.row ∨
      s'.row.retryCount = nextRetryCount s.row.retryCount ∧
        (∀ job ∈ s.queue.jobs,
          job.idempotencyKey ≠ some (retryKey s.row.uuid (nextRetryCount s.row.retryCount))) ∧
        ∃ job ∈ s'.queue.jobs,
          job.idempotencyKey = some (retryKey s.row.uuid (nextRetryCount s.row.retryCount)) := by
  cases hwrites : t.writesRow with
  | false =>
      rw [Tx.run_row hwrites h]
      exact .inl ⟨rfl, id⟩
  | true =>
      cases t with
      | applyExecutionPatch patch =>
          obtain ⟨hpatch, rfl⟩ := Store.applyExecutionPatch_cases (Tx.run_applyExecutionPatch h)
          exact .inl (ExecutionRow.keepsSubmission_patched hissued hpatch)
      | applyExecutionStatePatch patch =>
          rcases Store.applyExecutionStatePatchWithTransition_cases
              (Tx.run_applyExecutionStatePatch h) with
            ⟨-, rfl, -⟩ | ⟨-, -, registry, rfl, -⟩
          · exact .inl ⟨rfl, id⟩
          · exact .inl (ExecutionRow.keepsSubmission_applyStatePatch hissued s.now)
      | applyExecutionProvenancePatch patch =>
          cases h
          exact .inl ⟨rfl, id⟩
      | beginExecutionSubmission intent =>
          rcases (Store.beginExecutionSubmission_cases (Tx.run_beginExecutionSubmission h)).2 with
            ⟨-, rfl, -⟩ | ⟨-, -, deadline, observations, -, rfl⟩
          · exact .inl ⟨rfl, id⟩
          · exact .inl ⟨rfl, fun hfresh => by cases hfresh⟩
      | recordSlurmNameLookup input =>
          obtain ⟨-, -, observations, rfl⟩ :=
            Store.recordSlurmNameLookup_cases (Tx.run_recordSlurmNameLookup h)
          exact .inl (s.keepsSubmission_lookupRow input.outcome)
      | recordSubmissionReceipt input =>
          rcases (Store.recordSubmissionReceipt_cases (Tx.run_recordSubmissionReceipt h)).2.2 with
            ⟨rfl, -⟩ | ⟨-, -, -, queue, observations, -, -, rfl⟩
          · exact .inl ⟨rfl, id⟩
          · exact .inl (s.row.keepsSubmission_recordReceipt input)
      | verifyExecutionOutputs report clock =>
          obtain ⟨row, stored⟩ := result
          rcases (Store.verifyExecutionOutputs_cases (Tx.run_verifyExecutionOutputs h)).2.2.2 with
            ⟨-, rfl, -⟩ |
            ⟨-, -, inventorySha256, artifacts, observations, registry, rfl, -, rfl⟩ <;>
            exact .inl ⟨rfl, id⟩
      | retryExecution reason requiredCapabilities =>
          obtain ⟨plan, capabilities, queue, -, -, hqueue, rfl, rfl⟩ :=
            Store.retryExecution_cases (Tx.run_retryExecution h)
          obtain ⟨-, hfresh, hmem⟩ := JobQueue.keeps_insertNewJob hqueue
          refine .inr ⟨rfl, fun job hjob hkey => ?_, _, hmem, rfl⟩
          refine hfresh (List.any_eq_true.mpr ⟨job, hjob, ?_⟩)
          simp [JobQueue.hasKey, hkey, Store.retryJob]
      | cancelExecution confirmation =>
          obtain ⟨-, -, rfl, observations, rfl⟩ :=
            Store.cancelExecution_cases (Tx.run_cancelExecution h)
          exact .inl ⟨rfl, id⟩
      | abandonSlurmSubmission input evidence =>
          obtain ⟨-, rfl, -, observations, rfl⟩ :=
            Store.abandonSlurmSubmission_cases (Tx.run_abandonSlurmSubmission h)
          exact .inl ⟨rfl, id⟩
      | _ => cases hwrites

/-! ### The invariant -/

/-- What the store knows of the submissions that have been taken: none belongs to a later generation,
that of the present generation has left its mark, and the key of a retry is in use. -/
structure Store.Guards (executionId : Uuid) (begun : List ℕ) (s : Store) : Prop where
  uuid : s.row.uuid = executionId
  bound : s.row.retryCount ≤ 2147483647
  le : ∀ g ∈ begun, g ≤ s.row.retryCount
  taken : s.row.retryCount ∈ begun → s.row.submissionState.isFresh = false
  key : s.row.retryCount = 0 ∨ ∃ job ∈ s.queue.jobs,
    job.idempotencyKey = some (retryKey executionId s.row.retryCount)

namespace Store.Guards

variable {executionId : Uuid} {begun : List ℕ} {s s' : Store}

/-- A step that keeps the submission and the jobs. -/
theorem keep (h : s.Guards executionId begun) (huuid : s'.row.uuid = s.row.uuid)
    (hrow : s.row.KeepsSubmission s'.row) (hjobs : s.queue.Keeps s'.queue) :
    s'.Guards executionId begun := by
  obtain ⟨hretry, hfresh⟩ := hrow
  refine ⟨huuid.trans h.uuid, hretry ▸ h.bound, fun g hg => ?_, fun hg => ?_, ?_⟩
  · rw [hretry]
    exact h.le g hg
  · have hold := h.taken (hretry ▸ hg)
    cases hstate : s'.row.submissionState.isFresh with
    | false => rfl
    | true =>
        rw [hfresh hstate] at hold
        cases hold
  · rcases h.key with hzero | ⟨job, hjob, hkey⟩
    · exact .inl (hretry.trans hzero)
    · obtain ⟨job', hjob', hsame⟩ := hjobs job hjob
      exact .inr ⟨job', hjob', by rw [hretry, hsame.idempotencyKey, hkey]⟩

/-- A retry reaches a generation of which nothing has been taken: its key was free, and a generation
that cannot be counted on keeps the key of the present one. -/
theorem retry (h : s.Guards executionId begun) (huuid : s'.row.uuid = s.row.uuid)
    (hretry : s'.row.retryCount = nextRetryCount s.row.retryCount)
    (hfree : ∀ job ∈ s.queue.jobs,
      job.idempotencyKey ≠ some (retryKey s.row.uuid (nextRetryCount s.row.retryCount)))
    (hmem : ∃ job ∈ s'.queue.jobs,
      job.idempotencyKey = some (retryKey s.row.uuid (nextRetryCount s.row.retryCount))) :
    s'.Guards executionId begun := by
  have hbound := h.bound
  have hnext : s.row.retryCount < nextRetryCount s.row.retryCount ∨
      nextRetryCount s.row.retryCount = s.row.retryCount ∧ s.row.retryCount ≠ 0 := by
    unfold nextRetryCount
    omega
  have hlt : s.row.retryCount < s'.row.retryCount := by
    rw [hretry]
    rcases hnext with hlt | ⟨hsame, hpos⟩
    · exact hlt
    · obtain ⟨job, hjob, hkey⟩ := h.key.resolve_left hpos
      rw [hsame, h.uuid] at hfree
      exact absurd hkey (hfree job hjob)
  refine ⟨huuid.trans h.uuid, ?_, fun g hg => (h.le g hg).trans hlt.le, fun hg => ?_, .inr ?_⟩
  · rw [hretry]
    exact min_le_right _ _
  · exact absurd (h.le _ hg) (by omega)
  · rw [hretry, ← h.uuid]
    exact hmem

/-- Any transaction of a process. -/
theorem transact {c : Choice} {t : Tx} {site : Site} (h : s.Guards executionId begun)
    (hissued : t.IssuedAt site) : (c.transact t s).2.Guards executionId begun := by
  rcases c.transact_cases t s with ⟨-, hsame⟩ | ⟨s', result, hrun, hs', -⟩
  · rw [hsame]
    exact h
  · rw [hs']
    have huuid := (Tx.run_identity hrun).uuid
    rcases Tx.run_submission hissued hrun with hkeep | ⟨hretry, hfree, hmem⟩
    · exact h.keep huuid hkeep (Tx.run_keeps hrun)
    · exact h.retry huuid hretry hfree hmem

/-- The submission of the present generation is added. -/
theorem begin (h : s.Guards executionId begun)
    (htaken : s.row.submissionState.isFresh = false) :
    s.Guards executionId (begun ++ [s.row.retryCount]) := by
  refine ⟨h.uuid, h.bound, fun g hg => ?_, fun _ => htaken, h.key⟩
  rcases List.mem_append.mp hg with hg | hg
  · exact h.le g hg
  · exact (List.mem_singleton.mp hg).le

end Store.Guards

/-- The surroundings keep the jobs. -/
theorem Environment.keeps (executionId : Uuid) (q : JobQueue) (e : Environment) :
    q.Keeps (e.onQueue executionId q) := by
  cases e with
  | advanceClock now => exact .of_jobs_eq rfl
  | writeRegistry registry => exact .refl q
  | registerWorkers workers => exact .of_jobs_eq rfl
  | renewJobLease lease lockSeconds => exact q.keeps_renewJobLease _ _ _ _
  | insertJob job =>
      change q.Keeps (if job.isForeign executionId then q.insertJob job else q)
      split
      · exact q.keeps_insertJob job
      · exact .refl q
  | upsertRecurringJob job =>
      simp only [Environment.onQueue]
      split
      · exact q.keeps_upsertRecurringJob job
      · exact .refl q
  | cancelExecuteJobs other =>
      simp only [Environment.onQueue]
      split
      · exact .refl q
      · exact q.keeps_cancelExecuteJobs other

/-- The invariant: the store guards what has been taken, and what has been begun at the backend was
taken before. -/
structure SubmissionInv (executionId : Uuid) (w : World) : Prop where
  guards : w.store.Guards executionId w.begun
  once : w.SubmittedOnce
  begun : ∀ g ∈ w.submitted, g ∈ w.begun

/-- The submission that a process has taken and not yet begun is its own. -/
def Granted (pid : ℕ) (l : Local) (w : World) : Prop :=
  ∀ g, l.grant = some g → (∃ e ∈ w.log, e.pid = pid ∧ e.began = some g) ∧ g ∉ w.submitted

/-- The outline: a process that is about to submit has taken a submission, and what it has taken is
its own. -/
def submissionOutline (executionId : Uuid) : ExecutionOutline where
  perform := performRequest
  inv := SubmissionInv executionId
  assertion pid r l w := r.Issued ∧ (r.submits → l.grant.isSome) ∧ Granted pid l w
  guard _ r _ _ w := r.retakesFailed w.store = false

/-! ### One step -/

section Step

variable {executionId : Uuid} {pid : ℕ} {r : Request} {i : Choice} {l : Local} {w : World}

/-- A started submission reaches the log with the generation its process has taken. -/
@[simp] theorem Event.submittedGeneration_of :
    (Event.of pid l i w.store r).submittedGeneration = if r.submits then l.grant else none := by
  cases r <;> rfl

@[simp] theorem World.begun_perform : (performRequest pid r i l w).2.2.begun =
    w.begun ++ (Event.of pid l i w.store r).began.toList :=
  Runs.filterMap_concat _ _ _

@[simp] theorem World.submitted_perform : (performRequest pid r i l w).2.2.submitted =
    w.submitted ++ (if r.submits then l.grant else none).toList :=
  (Runs.filterMap_concat _ _ _).trans (by rw [Event.submittedGeneration_of]; rfl)

/-- A taken submission is of a generation of which none has been taken. -/
theorem SubmissionInv.began_fresh {g : ℕ} (hinv : SubmissionInv executionId w)
    (hguard : r.retakesFailed w.store = false)
    (hbegan : (Event.of pid l i w.store r).began = some g) :
    g ∉ w.begun ∧ r.submits = false ∧
      (Event.of pid l i w.store r).after.row.retryCount = g ∧
      (Event.of pid l i w.store r).after.row.submissionState = .inFlight := by
  cases r with
  | ask site question => cases hbegan
  | tx site t =>
      obtain ⟨⟨intent, rfl⟩, rfl, hlive, hfree, hretry, hstate⟩ := Event.began_of_tx hbegan
      refine ⟨fun hmem => ?_, rfl, hretry, hstate⟩
      have htaken := hinv.guards.taken hmem
      simp only [Request.retakesFailed, hlive, Bool.not_false, Bool.true_and] at hguard
      cases hsubmission : w.store.row.submissionState <;>
        simp_all [SubmissionState.isFresh, SubmissionState.holdsAutomaticWork]

/-- A step keeps what the store knows of the taken submissions. -/
theorem SubmissionInv.guards_step (hinv : SubmissionInv executionId w) (hissued : r.Issued)
    (hguard : r.retakesFailed w.store = false) :
    (performRequest pid r i l w).2.2.store.Guards executionId
      (performRequest pid r i l w).2.2.begun := by
  have hafter : (performRequest pid r i l w).2.2.store.Guards executionId w.begun := by
    cases r with
    | ask site question => exact hinv.guards
    | tx site t => exact hinv.guards.transact hissued.1
  rw [World.begun_perform]
  cases hbegan : (Event.of pid l i w.store r).began with
  | none => simpa using hafter
  | some g =>
      obtain ⟨-, -, hretry, hstate⟩ := hinv.began_fresh hguard hbegan
      rw [← hretry]
      exact hafter.begin (congrArg SubmissionState.isFresh hstate)

/-- The invariant is kept. -/
theorem SubmissionInv.step (hinv : SubmissionInv executionId w)
    (hassert : (submissionOutline executionId).assertion pid r l w)
    (hguard : r.retakesFailed w.store = false) :
    SubmissionInv executionId (performRequest pid r i l w).2.2 := by
  obtain ⟨hissued, hhas, hgranted⟩ := hassert
  have hsubmitted : ∀ g, (if r.submits then l.grant else none) = some g →
      r.submits ∧ l.grant = some g := by
    intro g hg
    cases hsubmits : r.submits <;> simp_all
  refine ⟨hinv.guards_step hissued hguard, ⟨?_, ?_, ?_⟩, ?_⟩
  · rw [World.begun_perform]
    exact Runs.nodup_record hinv.once.begun fun g hg => (hinv.began_fresh hguard hg).1
  · rw [World.submitted_perform]
    exact Runs.nodup_record hinv.once.submitted fun g hg => (hgranted g (hsubmitted g hg).2).2
  · intro e he hsubmits
    rcases List.mem_append.mp he with hold | hnew
    · exact hinv.once.granted e hold hsubmits
    · obtain rfl := List.mem_singleton.mp hnew
      have hr : r.submits := by simpa [Event.submits] using hsubmits
      simpa [hr] using hhas hr
  · intro g hg
    rw [World.begun_perform]
    rw [World.submitted_perform] at hg
    rcases List.mem_append.mp hg with hold | hnew
    · exact List.mem_append_left _ (hinv.begun g hold)
    · obtain ⟨⟨e, he, -, hbegan⟩, -⟩ := hgranted g (hsubmitted g (by simpa using hnew)).2
      exact List.mem_append_left _ (List.mem_filterMap.mpr ⟨e, he, hbegan⟩)

/-- A process keeps its own taken submission, or begins it. -/
theorem granted_step (hinv : SubmissionInv executionId w)
    (hassert : (submissionOutline executionId).assertion pid r l w)
    (hguard : r.retakesFailed w.store = false) :
    Granted pid (performRequest pid r i l w).2.1 (performRequest pid r i l w).2.2 := by
  obtain ⟨-, -, hgranted⟩ := hassert
  intro g hg
  have hg' : (if r.submits then none else (Event.of pid l i w.store r).began <|> l.grant) = some g := by
    simpa [performRequest, Local.after, Event.submits] using hg
  cases hsubmits : r.submits with
  | true => simp [hsubmits] at hg'
  | false =>
      rw [World.submitted_perform, hsubmits]
      simp only [hsubmits, Bool.false_eq_true, if_false] at hg'
      simp only [Bool.false_eq_true, if_false, Option.toList_none, List.append_nil]
      cases hbegan : (Event.of pid l i w.store r).began with
      | some g' =>
          obtain rfl : g' = g := by simpa [hbegan] using hg'
          refine ⟨⟨_, List.mem_append_right _ (List.mem_singleton_self _), Event.of_pid r, hbegan⟩, ?_⟩
          exact fun hmem => (hinv.began_fresh hguard hbegan).1 (hinv.begun g' hmem)
      | none =>
          obtain ⟨⟨e, he, hpid, hb⟩, hnew⟩ := hgranted g (by simpa [hbegan] using hg')
          exact ⟨⟨e, List.mem_append_left _ he, hpid, hb⟩, hnew⟩

/-- What another process has taken is not begun by this one. -/
theorem granted_stable {pid' : ℕ} {l' : Local} (hne : pid' ≠ pid)
    (hinv : SubmissionInv executionId w) (hown : Granted pid l w) (hother : Granted pid' l' w) :
    Granted pid' l' (performRequest pid r i l w).2.2 := by
  intro g hg
  obtain ⟨⟨e, he, hpid, hbegan⟩, hnew⟩ := hother g hg
  refine ⟨⟨e, List.mem_append_left _ he, hpid, hbegan⟩, fun hmem => ?_⟩
  rw [World.submitted_perform] at hmem
  rcases List.mem_append.mp hmem with hold | hadded
  · exact hnew hold
  · -- the generation would have been taken by both
    have hg' : l.grant = some g := by
      cases hsubmits : r.submits <;> simp_all
    obtain ⟨⟨e', he', hpid', hbegan'⟩, -⟩ := hown g hg'
    have hsame := Runs.eq_of_nodup_filterMap hinv.once.begun he he' hbegan hbegan'
    exact hne (by rw [← hpid, ← hpid', hsame])

end Step

/-! ### The programs -/

section Programs

variable {executionId : Uuid} {pid : ℕ}

/-- A program that issues only requests of the table, and starts no submission. -/
theorem submission_keep {α : Type} {p : Exec α}
    (hp : p.Requests fun r => r.Issued ∧ r.submits = false) :
    (submissionOutline executionId).Triple pid (Granted pid) p (fun _ => Granted pid)
      fun _ => Granted pid := by
  refine Programs.Outline.triple_of_requests hp (fun r l w hr _ h => ⟨hr.1, ?_, h⟩)
    fun r i l w _ hinv hassert hguard _ => granted_step hinv hassert hguard
  simp [hr.2]

/-- Outside a submission nothing is submitted. -/
theorem Request.submits_of_site {r : Request} (hissued : r.Issued) (hsite : r.site ≠ .runSubmitPhase) :
    r.submits = false := by
  cases r with
  | tx site t => rfl
  | ask site question =>
      cases question with
      | submit attempt manifest graph deadline => exact absurd hissued hsite
      | _ => rfl

/-- A process remembers the submission that it has taken. -/
theorem grant_of_began {i : Choice} {l : Local} {w : World} {intent : SubmissionIntent}
    {deadline : ℕ}
    (h : (performRequest pid (.tx .runSubmitPhase (.beginExecutionSubmission intent)) i l w).1 =
      .ok (some deadline)) :
    (performRequest pid (.tx .runSubmitPhase (.beginExecutionSubmission intent)) i l
      w).2.1.grant.isSome := by
  have hbegan : (Event.of pid l i w.store (.tx .runSubmitPhase
      (.beginExecutionSubmission intent))).began = some w.store.row.retryCount :=
    Event.began_of_ok h
  simp [performRequest, Local.after, Event.submits, Request.submits, hbegan]

variable (config : WorkerConfig) (execution : ExecutionRow)

/-- The submission: a process that has taken it may begin it. -/
theorem submission_runSubmitPhase (setup : ExecutionSetup) (useReal : Bool) (manifest graph : Json) :
    (submissionOutline executionId).Triple pid (Granted pid)
      (runSubmitPhase config execution setup useReal manifest graph) (fun _ => Granted pid)
      fun _ => Granted pid := by
  have hpatch : ∀ site patch, patch.IssuedAt site → site ≠ .runExecute →
      (submissionOutline executionId).Triple pid (Granted pid)
        (tx site (.applyExecutionStatePatch patch)) (fun _ => Granted pid) fun _ => Granted pid :=
    fun site patch hissued hsite =>
      submission_keep (requests_tx.2 ⟨⟨hissued, fun h => absurd h hsite⟩, rfl⟩)
  refine triple_runSubmitPhase (R := fun _ => Granted pid)
    (G := fun l w => Granted pid l w ∧ l.grant.isSome) config execution setup useReal manifest graph
    (submission_keep (requests_orFail _)) (fun fingerprint => ?_) (fun attempt deadline => ?_)
    (fun receipt => ?_) (fun error => hpatch _ _ ⟨_, _, rfl⟩ (by simp))
    fun outcome failureClass error _ => hpatch _ _ ⟨_, _, rfl⟩ (by simp)
  · -- what `begin_execution_submission` grants is what the process remembers
    refine triple_tx (fun l w _ h => ⟨by simp, by simp [Request.submits], h⟩)
      (fun i l w taken hinv hassert hguard _ hanswer =>
        ⟨fun _ => granted_step hinv hassert hguard,
          fun htaken => ⟨granted_step hinv hassert hguard, ?_⟩⟩)
      fun i l w message hinv hassert hguard _ _ => granted_step hinv hassert hguard
    obtain ⟨deadline, rfl⟩ := Option.isSome_iff_exists.mp htaken
    exact grant_of_began hanswer
  · exact triple_ask (fun l w _ h => ⟨rfl, fun _ => h.2, h.1⟩)
      fun i l w hinv hassert hguard _ => granted_step hinv hassert hguard
  · exact submission_keep ((requests_applySubmitResult execution _ _ _).mono fun r hr =>
      ⟨hr.1, Request.submits_of_site hr.1 (by simp_all [Request.IssuedIn])⟩)

/-- The execute job. -/
theorem submission_runExecute (payload : ExecutePayload) :
    (submissionOutline executionId).Triple pid (Granted pid) (runExecute config payload)
      (fun _ => Granted pid) fun _ => Granted pid := by
  have hissued : ∀ {α : Type} (p : Exec α) (sites : List Site),
      p.Requests (Request.IssuedIn sites) → .runSubmitPhase ∉ sites →
      (submissionOutline executionId).Triple pid (Granted pid) p (fun _ => Granted pid)
        fun _ => Granted pid :=
    fun p sites hp hsites => submission_keep (hp.mono fun r hr =>
      ⟨hr.1, Request.submits_of_site hr.1 fun h => hsites (h ▸ hr.2)⟩)
  refine triple_runExecute (S := fun _ => Granted pid) config payload ?_ (fun row => ?_)
    (fun row error => hissued _ _ (requests_executeErrorArm error) (by simp))
    fun row l w _ h => h
  · exact (hissued _ [.runExecute] (by simp) (by simp)).conseq (fun _ _ _ h => h)
      (fun _ _ _ _ h => ⟨h, fun _ => h, fun _ => h⟩) fun _ _ _ _ h => h
  · refine (triple_runExecuteBody config row payload (fun p hp => hissued p _ hp (by simp))
      (fun setup useReal manifest graph =>
        submission_runSubmitPhase config row setup useReal manifest graph)
      fun manifest => hissued _ _ (requests_finishNotSubmitted manifest) (by simp)).conseq
      (fun _ _ _ h => h) (fun _ _ _ _ h => h) fun _ _ _ _ h => h

end Programs

/-! ### Runs -/

theorem submissionOutline_obligations (executionId : Uuid) :
    Programs.System.Obligations (executionSystem executionId) (submissionOutline executionId)
      (fun _ _ _ => True) (fun _ _ _ => True)
      (Guarded fun c _ r _ _ => r.retakesFailed c.shared.store = false) where
  perform_eq := rfl
  code pid e := by
    refine (triple_program (F := Granted pid) (G := Granted pid) executionId
      (fun p hp => submission_keep hp) (fun p hp => submission_keep (hp.mono fun r hr => ?_))
      (fun r hr hsite _ => ⟨hr, Request.submits_of_site hr fun h => hsite (h ▸ by decide)⟩)
      (fun _ _ _ h => h) (fun config payload => submission_runExecute config payload) e).conseq
      (fun l w _ h => ?_) (fun _ _ _ _ h => h) fun _ _ _ _ h => h
    · obtain ⟨hissued, hsite⟩ := Request.site_of_closesJob hr
      exact ⟨hissued, Request.submits_of_site hissued (by rw [hsite]; decide)⟩
    · rw [h]
      exact fun g hg => by cases hg
  guard c pid i l r k hC hthread := hC.answered hthread
  inv_step pid r i l w hinv hassert hguard := hinv.step hassert hguard
  inv_environment e w hinv :=
    ⟨hinv.guards.keep rfl ⟨rfl, id⟩ (Environment.keeps executionId _ e),
      ⟨hinv.once.begun, hinv.once.submitted, hinv.once.granted⟩, hinv.begun⟩
  stable c pid i l r k pid' l' r' k' _ _ _ hne hinv hassert hother :=
    ⟨hother.1, hother.2.1, granted_stable hne hinv hassert.2.2 hother.2.2⟩
  stable_environment e pid r l w _ hassert := hassert

theorem Store.Created.submissionInv {executionId : Uuid} {s : Store}
    (h : s.Created executionId) : SubmissionInv executionId ⟨s, []⟩ := by
  refine ⟨⟨h.uuid, by simp [h.row.retryCount], by simp [World.begun], by simp [World.begun],
    .inl h.row.retryCount⟩, ⟨by simp [World.begun], by simp [World.submitted], by simp⟩,
    by simp [World.submitted]⟩

/-- **One submission for each generation.**  In every run in which no submission of a live execution
is taken from a failed one, each retry generation is taken at most once, and begun at the backend at
most once. -/
theorem submission_once {executionId : Uuid} {s : Store} (hs : s.Created executionId)
    {labels : List ExecutionLabel}
    (hmeets : Runs.Meets (executionSystem executionId).step
      (Guarded fun c _ r _ _ => r.retakesFailed c.shared.store = false)
      (Programs.System.init ⟨s, []⟩) labels) :
    (Runs.exec (executionSystem executionId).step
      (Programs.System.init ⟨s, []⟩) labels).shared.SubmittedOnce :=
  (Programs.System.exec_outline (submissionOutline_obligations executionId) hs.submissionInv
    hmeets).inv.once

/-- The answers of a backend that refuses every submission. -/
def refusingAnswer : (question : External) → question.Answer
  | .submit _ _ _ _ => .failed "connection refused"
  | question => sampleAnswer question

/-- A job whose submission is refused. -/
theorem submission_once_refused :
    (Runs.exec (executionSystem 1).step (Programs.System.init ⟨sampleStore, []⟩)
      (.start 0 (.tickForWorker sampleConfig 1) :: answered 0 0 26 refusingAnswer)
      ).shared.SubmittedOnce :=
  submission_once sampleStore_created (by decide +kernel)

/-- The first worker loses its lease before its patch to `running`, the second one right before the
submission.  The third one submits and is refused; then the first one goes on, and the second. -/
def resurrectedRun : List ExecutionLabel :=
  .start 0 (.tickForWorker sampleConfig 1) :: answered 0 0 10 refusingAnswer ++
  .environment (.advanceClock 100000000) ::
  .start 1 (.tickForWorker sampleConfig 2) :: answered 1 0 21 refusingAnswer ++
  .environment (.advanceClock 200000000) ::
  .start 2 (.tickForWorker sampleConfig 3) :: answered 2 0 26 refusingAnswer ++
  answered 0 10 1 refusingAnswer ++ answered 1 21 2 refusingAnswer

/-- In this run the submission of one generation is taken twice, and begun twice at the backend. -/
theorem resurrected_submission_taken_twice :
    sampleStore.Created 1 ∧
      ¬(Runs.exec (executionSystem 1).step (Programs.System.init ⟨sampleStore, []⟩)
        resurrectedRun).shared.SubmittedOnce := by
  refine ⟨sampleStore_created, fun honce => ?_⟩
  have hbegun : (Runs.exec (executionSystem 1).step (Programs.System.init ⟨sampleStore, []⟩)
      resurrectedRun).shared.begun = [0, 0] := by decide +kernel
  have hnodup := honce.begun
  rw [hbegun] at hnodup
  exact absurd hnodup (by decide)

end Beampipe
