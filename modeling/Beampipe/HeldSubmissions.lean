/-
Executions whose submission may exist.

While the submission of an execution is in flight, uncertain or submitted, `run_execute` leaves it to
reconciliation: its error arm reads the row once more and ends the job when the submission is held.
The three transactions after that read look at the submission no more.  Another worker may take the
submission between them, and then the first one fails the execution and returns its sources to the
scheduler while the submission is in flight: `Beampipe.submission_failed_in_flight` is such a run.

Two other ways lead there.  A patch of the job reconciles the axes as it finds them, so it carries out
an end that something else has recorded on a held row, and a job that does not submit settles the
sources of an execution that another worker may have submitted.  `Beampipe.submissions_held` shows
that there is no fourth way.

Main definitions:

* `Beampipe.World.HoldsSubmissions` — the property;
* `Beampipe.Request.takesHold` — the request makes the submission held;
* `Beampipe.Request.endsHeld` — the request carries out an end on a row whose submission stays held;
* `Beampipe.heldOutline` — the outline that carries the property.

Main results:

* `Beampipe.Tx.run_held` — nothing but a request that takes the submission makes it held;
* `Beampipe.Tx.run_holds` — one transaction of an execute job;
* `Beampipe.submissions_held` — **the property holds in every run without these steps**;
* `Beampipe.submission_failed_in_flight` — and fails in a run with one.
-/

import Beampipe.SubmissionOnce

set_option relaxedAutoImplicit false
set_option autoImplicit false

namespace Beampipe

/-! ### The property -/

/-- The source is pending for a workflow run. -/
def SourceRegistry.isPending (r : SourceRegistry) (projectModule source : String) : Bool :=
  r.rows.any fun row =>
    row.projectModule == projectModule && row.sourceIdentifier == source && row.workflowRunPending

/-- A selected source is pending in the second store and was not in the first. -/
def Store.releases (s s' : Store) : Bool :=
  s'.row.sourceIdentifiers.any fun source =>
    s'.registry.isPending s'.row.projectModule source &&
      !s.registry.isPending s'.row.projectModule source

/-- The event neither fails the execution nor returns its sources to the scheduler. -/
structure Event.KeepsExecution (e : Event) : Prop where
  failed : e.before.row.status ≠ .failed → e.after.row.status ≠ .failed
  marks : e.marks = false
  releases : e.before.releases e.after = false

/-- An execution whose submission may exist is held: `run_execute` neither fails it nor returns its
sources. -/
def World.HoldsSubmissions (w : World) : Prop :=
  ∀ e ∈ w.log, e.request.site ∈ executeSites →
    e.after.row.submissionState.holdsAutomaticWork → e.KeepsExecution

/-! ### The steps that must not happen -/

/-- A successful end would return a selected source: the selection has changed since the admission,
and one of its registered sources is not pending. -/
def Store.returnsSources (s : Store) : Bool :=
  !s.signaturesCurrent && s.row.sourceIdentifiers.any fun source =>
    (s.registry.find s.row.projectModule source).isSome &&
      !s.registry.isPending s.row.projectModule source

/-- The state patch meets a live row, leaves its submission held, and carries out an end: a failure
that its axes have recorded, or a completion that returns sources. -/
def Store.patchEndsHeld (s : Store) (patch : ExecutionStatePatch) : Bool :=
  let row := s.row.project patch
  !s.row.status.isTerminal && row.submissionState.holdsAutomaticWork &&
    (row.axes.reconcile.status == .failed ||
      (row.axes.reconcile.status == .completed && row.requiredOutputsVerified &&
        (s.artifacts.any fun artifact => artifact.kind == "output_inventory") &&
        s.returnsSources))

/-- The receipt meets a live row whose recovered job has failed. -/
def Store.receiptEndsHeld (s : Store) (input : SubmissionReceiptInput) : Bool :=
  !s.row.status.isTerminal && s.row.receiptStatus input == .failed && input.error.isNone &&
    !s.row.intentConflicts input &&
    !(s.artifacts.any fun artifact => artifact.kind == "physical_graph")

/-- A request of an execute job that carries out an end on a row whose submission stays held. -/
def Request.endsHeld (s : Store) : Request → Bool
  | .tx site (.applyExecutionStatePatch patch) =>
      executeSites.contains site && s.patchEndsHeld patch
  | .tx .applySubmitResult (.recordSubmissionReceipt input) => s.receiptEndsHeld input
  | .tx .notSubmitted .finalizeSuccessfulExecutionSources =>
      s.row.submissionState.holdsAutomaticWork &&
        (s.row.status == .completed || s.row.status == .notSubmitted) && s.returnsSources
  | _ => false

/-- The request makes the submission of a live row held that was not. -/
def Request.takesHold (s : Store) : Request → Bool
  | .tx _ (.beginExecutionSubmission intent) =>
      intent.error.isNone && !s.row.status.isTerminal && !s.row.submissionState.holdsAutomaticWork
  | .tx _ (.applyExecutionStatePatch patch) =>
      !s.row.status.isTerminal && !s.row.submissionState.holdsAutomaticWork &&
        patch.submissionState.any SubmissionState.holdsAutomaticWork
  | _ => false

/-- Another process has decided to fail the execution and is not done with it. -/
def FailsBeside (c : ExecutionConfig) (pid : ℕ) : Prop :=
  ∃ pid' l r k, pid' ≠ pid ∧ c.threads pid' = some ⟨l, .req r k⟩ ∧ r.site = .terminalExecuteFailure

/-- The condition on a step: it carries out no end on a row that stays held, and it does not take
the submission while another process fails the execution. -/
def KeepsHeld (c : ExecutionConfig) (pid : ℕ) (r : Request) (_ : Choice) (_ : Local) : Prop :=
  r.endsHeld c.shared.store = false ∧ (r.takesHold c.shared.store → ¬FailsBeside c pid)

/-! ### The submission of a row -/

theorem Store.held_of_lookupRow {s : Store} {outcome : SlurmNameLookupOutcome}
    (h : (s.lookupRow outcome).submissionState.holdsAutomaticWork) :
    s.row.submissionState.holdsAutomaticWork := by
  have hopen : s.lookupMayMutate → s.row.submissionState.holdsAutomaticWork := by
    intro hmay
    simp only [lookupMayMutate, Bool.and_eq_true, Bool.or_eq_true, beq_iff_eq] at hmay
    obtain ⟨⟨⟨⟨-, hstate | hstate⟩, -⟩, -⟩, -⟩ := hmay <;> rw [hstate] <;> rfl
  unfold lookupRow at h
  cases outcome with
  | exact schedulerJobId state rawState reason source =>
      simp only at h
      split at h
      · exact h
      split at h
      next hmay =>
        rcases hmay with hmay | habandoned
        · exact hopen hmay
        · have hnot : s.row.submissionAbandonedAt.isNone = false := by simpa using habandoned
          simpa [hnot] using h
      · exact h
  | notFound | ambiguous ids =>
      simp only at h
      split at h <;> exact h
  | error code message retryable => exact h

/-- **What makes a submission held.**  Nothing but a request that takes it. -/
theorem Tx.run_held {ids : FreshIds} {locked : List Uuid} {s s' : Store} {t : Tx} {site : Site}
    {result : t.Result} (h : t.run ids locked s = .ok (s', result))
    (htakes : (Request.tx site t).takesHold s = false)
    (hheld : s'.row.submissionState.holdsAutomaticWork) :
    s.row.submissionState.holdsAutomaticWork := by
  cases hwrites : t.writesRow with
  | false => rwa [Tx.run_row hwrites h] at hheld
  | true =>
      cases t with
      | applyExecutionPatch patch =>
          obtain ⟨hpatch, rfl⟩ := Store.applyExecutionPatch_cases (Tx.run_applyExecutionPatch h)
          obtain ⟨next, -, rfl, -⟩ := ExecutionRow.applyPatch_cases hpatch
          simpa using hheld
      | applyExecutionStatePatch patch =>
          rcases Store.applyExecutionStatePatchWithTransition_cases
              (Tx.run_applyExecutionStatePatch h) with
            ⟨-, rfl, -⟩ | ⟨hlive, -, registry, rfl, -⟩
          · exact hheld
          · simp only [ExecutionRow.applyStatePatch_of_live hlive,
              ExecutionRow.aggregate_submissionState, ExecutionRow.project_submissionState] at hheld
            simp only [Request.takesHold, hlive, Bool.not_false, Bool.true_and] at htakes
            cases hpatch : patch.submissionState with
            | none => simpa [hpatch] using hheld
            | some state =>
                simp only [hpatch, Option.getD_some] at hheld
                simpa [hpatch, hheld] using htakes
      | applyExecutionProvenancePatch patch =>
          cases h
          exact hheld
      | beginExecutionSubmission intent =>
          obtain ⟨hintent, hcases⟩ :=
            Store.beginExecutionSubmission_cases (Tx.run_beginExecutionSubmission h)
          rcases hcases with ⟨-, rfl, -⟩ | ⟨hlive, hfree, -⟩
          · exact hheld
          · simp [Request.takesHold, hintent, hlive, hfree] at htakes
      | recordSlurmNameLookup input =>
          obtain ⟨-, -, observations, rfl⟩ :=
            Store.recordSlurmNameLookup_cases (Tx.run_recordSlurmNameLookup h)
          exact Store.held_of_lookupRow hheld
      | recordSubmissionReceipt input =>
          rcases (Store.recordSubmissionReceipt_cases (Tx.run_recordSubmissionReceipt h)).2.2 with
            ⟨rfl, -⟩ | ⟨hopen, -⟩
          · exact hheld
          · rcases hopen with hopen | hopen <;> rw [hopen] <;> rfl
      | verifyExecutionOutputs report clock =>
          obtain ⟨row, stored⟩ := result
          rcases (Store.verifyExecutionOutputs_cases (Tx.run_verifyExecutionOutputs h)).2.2.2 with
            ⟨-, rfl, -⟩ |
            ⟨-, -, inventorySha256, artifacts, observations, registry, rfl, -, rfl⟩ <;>
            exact hheld
      | retryExecution reason requiredCapabilities =>
          obtain ⟨plan, capabilities, queue, -, -, -, rfl, rfl⟩ :=
            Store.retryExecution_cases (Tx.run_retryExecution h)
          cases hheld
      | cancelExecution confirmation =>
          obtain ⟨-, -, rfl, observations, rfl⟩ :=
            Store.cancelExecution_cases (Tx.run_cancelExecution h)
          exact hheld
      | abandonSlurmSubmission input evidence =>
          obtain ⟨-, rfl, -, observations, rfl⟩ :=
            Store.abandonSlurmSubmission_cases (Tx.run_abandonSlurmSubmission h)
          exact hheld
      | _ => cases hwrites

/-- The same for any transaction of a process, committed or not. -/
theorem Choice.transact_held {c : Choice} {t : Tx} {site : Site} {s : Store}
    (htakes : (Request.tx site t).takesHold s = false)
    (hfree : s.row.submissionState.holdsAutomaticWork = false) :
    (c.transact t s).2.row.submissionState.holdsAutomaticWork = false := by
  rcases c.transact_cases t s with ⟨-, hsame⟩ | ⟨s', result, hrun, hs', -⟩
  · rw [hsame]
    exact hfree
  · rw [hs']
    cases hheld : s'.row.submissionState.holdsAutomaticWork with
    | false => rfl
    | true =>
        rw [Tx.run_held hrun htakes hheld] at hfree
        cases hfree

/-! ### The sources -/

theorem Store.releases_of_registry {s s' : Store} (h : s'.registry = s.registry) :
    s.releases s' = false := by
  simp [releases, h]

namespace SourceRegistry

variable {r : SourceRegistry} {projectModule source : String}

theorem isPending_iff : r.isPending projectModule source = true ↔
    ∃ row ∈ r.rows, row.projectModule = projectModule ∧ row.sourceIdentifier = source ∧
      row.workflowRunPending = true := by
  simp [isPending, and_assoc]

/-- A row of a source is found. -/
theorem find_isSome_of_mem {row : SourceRegistryRow} (hrow : row ∈ r.rows) :
    (r.find row.projectModule row.sourceIdentifier).isSome := by
  rw [find, List.find?_isSome]
  exact ⟨row, hrow, by simp⟩

/-- An update that marks no row makes no source pending. -/
theorem isPending_of_updateWhere {p : SourceRegistryRow → Bool}
    {set : SourceRegistryRow → SourceRegistryRow}
    (hkey : ∀ row, (set row).projectModule = row.projectModule ∧
      (set row).sourceIdentifier = row.sourceIdentifier)
    (hmarks : ∀ row, (set row).workflowRunPending = true → row.workflowRunPending = true)
    (h : (r.updateWhere p set).isPending projectModule source) :
    r.isPending projectModule source := by
  obtain ⟨row, hrow, hmodule, hsource, hpending⟩ := isPending_iff.mp h
  obtain ⟨old, hold, rfl⟩ := mem_updateWhere.mp hrow
  refine isPending_iff.mpr ⟨old, hold, ?_⟩
  cases hp : p old with
  | false =>
      simp only [hp, Bool.false_eq_true, if_false] at hmodule hsource hpending
      exact ⟨hmodule, hsource, hpending⟩
  | true =>
      simp only [hp, if_true] at hmodule hsource hpending
      exact ⟨(hkey old).1 ▸ hmodule, (hkey old).2 ▸ hsource, hmarks old hpending⟩

end SourceRegistry

/-- What a successful end does to the sources. -/
theorem Store.releases_finalizeSources {s : Store} {row : ExecutionRow}
    (hsame : s.row.SameExecution row) (hreturns : s.returnsSources = false) :
    s.releases { s with row := row }.finalizeSources = false := by
  rw [← Bool.not_eq_true]
  intro hreleases
  obtain ⟨source, hsource, hreleased⟩ := List.any_eq_true.mp hreleases
  simp only [Bool.and_eq_true, Bool.not_eq_true'] at hreleased
  obtain ⟨hpending, hbefore⟩ := hreleased
  have hids : row.sourceIdentifiers = s.row.sourceIdentifiers := by
    rw [ExecutionRow.sourceIdentifiers, hsame.sources]
    rfl
  change source ∈ row.sourceIdentifiers at hsource
  change (s.registry.finalizeSuccessfulSources s.now row.projectModule row.sourceIdentifiers
    row.discoverySignature).isPending row.projectModule source = true at hpending
  change s.registry.isPending row.projectModule source = false at hbefore
  rw [hids] at hsource hpending
  rw [hsame.projectModule, hsame.discoverySignature] at hpending
  rw [hsame.projectModule] at hbefore
  unfold SourceRegistry.finalizeSuccessfulSources at hpending
  split at hpending
  · rw [hpending] at hbefore
    cases hbefore
  split at hpending
  · -- a current selection is only cleared
    have hold : s.registry.isPending s.row.projectModule source = true := by
      refine SourceRegistry.isPending_of_updateWhere (fun row => ?_) (fun row h => ?_) hpending
      · exact ⟨rfl, rfl⟩
      · cases h
    rw [hold] at hbefore
    cases hbefore
  next hstale =>
    obtain ⟨marked, hmarked, hmodule, hkey, -⟩ := SourceRegistry.isPending_iff.mp hpending
    obtain ⟨old, hold, rfl⟩ := SourceRegistry.mem_updateWhere.mp hmarked
    have hregistered : (s.registry.find s.row.projectModule source).isSome := by
      have hfound := SourceRegistry.find_isSome_of_mem hold
      rw [← hmodule, ← hkey]
      split <;> exact hfound
    have hcurrent : s.signaturesCurrent = false := by
      simp only [Bool.not_eq_true] at hstale
      simp [signaturesCurrent, hstale]
    have hreturned : s.returnsSources = true := by
      simp only [returnsSources, hcurrent, Bool.not_false, Bool.true_and, List.any_eq_true]
      exact ⟨source, hsource, by simp [hregistered, hbefore]⟩
    rw [hreturned] at hreturns
    cases hreturns

/-- The registry under a state patch. -/
theorem Store.applyExecutionStatePatchWithTransition_registry {s s' : Store}
    {patch : ExecutionStatePatch} {result : StateApplyResult}
    (h : s.applyExecutionStatePatchWithTransition patch = .ok (s', result)) :
    s'.registry = s.registry ∨
      (s.row.applyStatePatch patch s.now).status = .completed ∧
        (s.row.applyStatePatch patch s.now).requiredOutputsVerified ∧
        (s.artifacts.any fun artifact => artifact.kind == "output_inventory") ∧
        s' = { s with row := s.row.applyStatePatch patch s.now }.finalizeSources := by
  unfold applyExecutionStatePatchWithTransition at h
  split at h
  · cases h
    exact .inl rfl
  simp only at h
  split at h
  next hcompleted =>
    split at h
    next hinventory =>
      cases h
      exact .inr ⟨hcompleted.1, hcompleted.2, hinventory, rfl⟩
    next => cases h
  next =>
    cases h
    exact .inl rfl

/-! ### One transaction of an execute job -/

/-- The transactions that fail an execution do not take its submission. -/
theorem Tx.IssuedAt.takesHold {t : Tx} (h : t.IssuedAt .terminalExecuteFailure) (s : Store) :
    (Request.tx .terminalExecuteFailure t).takesHold s = false := by
  cases t with
  | applyExecutionStatePatch patch =>
      obtain ⟨failureClass, error, rfl⟩ := h
      simp [Request.takesHold]
  | beginExecutionSubmission intent => simp at h
  | _ => rfl

/-- At the other sites of an execute job no ledger patch names `failed`. -/
theorem LedgerPatch.IssuedAt.status_ne_failed {site : Site} {patch : LedgerPatch}
    (h : patch.IssuedAt site) (hsite : site ∈ executeSites) (hne : site ≠ .terminalExecuteFailure) :
    patch.status ≠ some .failed := by
  cases site <;> simp only [LedgerPatch.IssuedAt] at h
  case runExecuteBody =>
    rcases h with ⟨replayManifest, rfl⟩ | ⟨manifest, rfl⟩
    · cases replayManifest <;> simp [runningPatch]
    · simp
  case notSubmitted =>
    obtain ⟨manifest, rfl⟩ := h
    simp
  case terminalExecuteFailure => exact absurd rfl hne
  all_goals exact absurd hsite (by decide)

/-- A reconciliation leads a live row to an end only when it decides that end. -/
theorem ExecutionRow.aggregateStatus_eq_of_isTerminal {current status : ExecutionStatus}
    {decision : ReconciliationDecision} (hlive : current.isTerminal = false)
    (hstatus : status.isTerminal) (h : aggregateStatus current decision = status) :
    decision.status = status := by
  unfold aggregateStatus at h
  split at h
  · rw [h, hstatus] at hlive
    cases hlive
  · exact h

/-- A state patch that carries out no end on a held row. -/
theorem Store.applyExecutionStatePatchWithTransition_holds {s s' : Store}
    {patch : ExecutionStatePatch} {result : StateApplyResult}
    (h : s.applyExecutionStatePatchWithTransition patch = .ok (s', result))
    (hguard : s.patchEndsHeld patch = false)
    (hheld : s'.row.submissionState.holdsAutomaticWork) :
    (s.row.status ≠ .failed → s'.row.status ≠ .failed) ∧ s.releases s' = false := by
  rcases applyExecutionStatePatchWithTransition_cases h with
    ⟨-, rfl, -⟩ | ⟨hlive, -, registry, hs', -⟩
  · exact ⟨id, releases_of_registry rfl⟩
  have hrow : s'.row = (s.row.project patch).aggregate s.row.status s.now := by
    rw [hs', ← ExecutionRow.applyStatePatch_of_live hlive]
  have hprojected : (s.row.project patch).submissionState.holdsAutomaticWork := by
    rw [hrow] at hheld
    exact hheld
  simp only [patchEndsHeld, hlive, hprojected, Bool.not_false, Bool.true_and,
    Bool.or_eq_false_iff, beq_eq_false_iff_ne, ne_eq] at hguard
  obtain ⟨hfailed, hcompleted⟩ := hguard
  refine ⟨fun _ hstatus => hfailed ?_, ?_⟩
  · rw [hrow, ExecutionRow.aggregate_status] at hstatus
    exact ExecutionRow.aggregateStatus_eq_of_isTerminal hlive rfl hstatus
  rcases applyExecutionStatePatchWithTransition_registry h with
    hregistry | ⟨hstatus, hverified, hinventory, hfinalized⟩
  · exact releases_of_registry hregistry
  · rw [ExecutionRow.applyStatePatch_of_live hlive, ExecutionRow.aggregate_status] at hstatus
    have hdecision := ExecutionRow.aggregateStatus_eq_of_isTerminal hlive rfl hstatus
    rw [ExecutionRow.applyStatePatch_of_live hlive] at hverified
    change (s.row.project patch).requiredOutputsVerified = true at hverified
    rw [hfinalized]
    refine releases_finalizeSources (.of_applyStatePatch s.row patch s.now) ?_
    simpa [hdecision, hverified, hinventory] using hcompleted

/-- **One transaction of an execute job.**  It neither fails an execution whose submission is held
nor returns its sources, unless it carries out an end that is recorded already. -/
theorem Tx.run_holds {ids : FreshIds} {locked : List Uuid} {s s' : Store} {t : Tx} {site : Site}
    {result : t.Result} (hissued : t.IssuedAt site) (hsite : site ∈ executeSites)
    (hne : site ≠ .terminalExecuteFailure) (hguard : (Request.tx site t).endsHeld s = false)
    (h : t.run ids locked s = .ok (s', result))
    (hheld : s'.row.submissionState.holdsAutomaticWork) :
    (s.row.status ≠ .failed → s'.row.status ≠ .failed) ∧ s.releases s' = false := by
  have hother : ∀ site', site = site' → site' ∉ executeSites → False := by
    intro site' heq hout
    exact hout (heq ▸ hsite)
  cases t with
  | applyExecutionPatch patch =>
      obtain ⟨hpatch, rfl⟩ := Store.applyExecutionPatch_cases (Tx.run_applyExecutionPatch h)
      obtain ⟨next, hnext, rfl, -⟩ := ExecutionRow.applyPatch_cases hpatch
      refine ⟨fun hlive => ?_, Store.releases_of_registry rfl⟩
      rw [ExecutionRow.patched_status]
      rcases ExecutionRow.effectiveStatus_cases hnext with ⟨rfl, -⟩ | ⟨rfl, status, hstatus, -⟩
      · exact hlive
      · have hfailed := hissued.status_ne_failed hsite hne
        rw [hstatus] at hfailed ⊢
        exact fun heq => hfailed (congrArg some heq)
  | applyExecutionStatePatch patch =>
      have hcontains : executeSites.contains site = true := by simpa using hsite
      rw [Request.endsHeld, hcontains, Bool.true_and] at hguard
      exact Store.applyExecutionStatePatchWithTransition_holds (Tx.run_applyExecutionStatePatch h)
        hguard hheld
  | recordSubmissionReceipt input =>
      obtain rfl : site = .applySubmitResult := hissued
      obtain ⟨hinput, hconflict, hcases⟩ :=
        Store.recordSubmissionReceipt_cases (Tx.run_recordSubmissionReceipt h)
      rcases hcases with ⟨rfl, -⟩ | ⟨-, -, hevidence, queue, observations, -, -, rfl⟩
      · exact ⟨id, Store.releases_of_registry rfl⟩
      · refine ⟨fun hlive => ?_, Store.releases_of_registry rfl⟩
        have hnone : (s.artifacts.any fun artifact => artifact.kind == "physical_graph") = false := by
          simpa using hevidence
        change (if s.row.status.isTerminal then s.row.status else s.row.receiptStatus input) ≠ .failed
        split
        · exact hlive
        next hopen =>
          simpa [Request.endsHeld, Store.receiptEndsHeld, hopen, hinput, hconflict, hnone]
            using hguard
  | finalizeSuccessfulExecutionSources =>
      rcases hissued with rfl | heq
      · have hs' : s' = s.finalizeSuccessfulExecutionSources.1 :=
          (congrArg Prod.fst (Except.ok.inj h)).symm
        unfold Store.finalizeSuccessfulExecutionSources at hs'
        split at hs'
        next hstatus =>
          subst hs'
          refine ⟨id, Store.releases_finalizeSources (.refl s.row) ?_⟩
          have hbefore : s.row.submissionState.holdsAutomaticWork = true := hheld
          have hended : (s.row.status == .completed || s.row.status == .notSubmitted) = true := by
            simpa using hstatus
          simpa [Request.endsHeld, hbefore, hended] using hguard
        next =>
          subst hs'
          exact ⟨id, Store.releases_of_registry rfl⟩
      · exact (hother _ heq (by decide)).elim
  | markSourcesPendingWorkflowRun =>
      rcases hissued with heq | heq | heq
      · exact absurd heq hne
      all_goals exact (hother _ heq (by decide)).elim
  | verifyExecutionOutputs report clock => exact (hother _ hissued (by decide)).elim
  | clearWorkflowPendingForSources => exact (hother _ hissued (by decide)).elim
  | retryExecution reason requiredCapabilities => exact (hother _ hissued (by decide)).elim
  | recordSlurmNameLookup input => exact (hother _ hissued (by decide)).elim
  | cancelExecution confirmation => exact (hother _ hissued (by decide)).elim
  | abandonSlurmSubmission input evidence => exact (hother _ hissued (by decide)).elim
  | beginExecutionSubmission intent =>
      rcases (Store.beginExecutionSubmission_cases (Tx.run_beginExecutionSubmission h)).2 with
        ⟨-, rfl, -⟩ | ⟨-, -, deadline, observations, -, rfl⟩ <;>
        exact ⟨id, Store.releases_of_registry rfl⟩
  | applyExecutionProvenancePatch patch =>
      cases h
      exact ⟨id, Store.releases_of_registry rfl⟩
  | _ =>
      have hrow := Tx.run_row rfl h
      have hregistry := Tx.run_registry rfl h
      exact ⟨fun hlive => hrow ▸ hlive, Store.releases_of_registry hregistry⟩

/-- The transactions of an execute job that does not fail the execution mark no source. -/
theorem Tx.IssuedAt.marks {t : Tx} {site : Site} (h : t.IssuedAt site) (hsite : site ∈ executeSites)
    (hne : site ≠ .terminalExecuteFailure) {pid : ℕ} {l : Local} {c : Choice} {s : Store} :
    (Event.of pid l c s (.tx site t)).marks = false := by
  cases t with
  | markSourcesPendingWorkflowRun =>
      rcases h with rfl | rfl | rfl
      · exact absurd rfl hne
      all_goals exact absurd hsite (by decide)
  | _ => rfl

/-! ### The outline -/

/-- The outline: a process that has decided to fail the execution finds its submission open. -/
def heldOutline : ExecutionOutline where
  perform := performRequest
  inv := World.HoldsSubmissions
  assertion _ r _ w := r.Issued ∧
    (r.site = .terminalExecuteFailure → w.store.row.submissionState.holdsAutomaticWork = false)
  guard _ r _ _ w := r.endsHeld w.store = false

section Step

variable {pid : ℕ} {r : Request} {i : Choice} {l : Local} {w : World}

/-- A request that does not take the submission leaves an open one open. -/
theorem performRequest_held (htakes : r.takesHold w.store = false)
    (hfree : w.store.row.submissionState.holdsAutomaticWork = false) :
    (performRequest pid r i l w).2.2.store.row.submissionState.holdsAutomaticWork = false := by
  cases r with
  | ask site question => exact hfree
  | tx site t => exact Choice.transact_held htakes hfree

/-- The event of a step keeps the execution. -/
theorem World.HoldsSubmissions.step (hinv : w.HoldsSubmissions)
    (hassert : heldOutline.assertion pid r l w) (hguard : r.endsHeld w.store = false) :
    (performRequest pid r i l w).2.2.HoldsSubmissions := by
  intro e he hsite hheld
  rcases List.mem_append.mp he with hold | hnew
  · exact hinv e hold hsite hheld
  obtain rfl := List.mem_singleton.mp hnew
  rw [Event.of_request] at hsite
  cases r with
  | ask site question => exact ⟨id, rfl, Store.releases_of_registry rfl⟩
  | tx site t =>
      obtain ⟨hissued, hfails⟩ := hassert
      rw [Event.of_tx_after] at hheld
      by_cases hne : site = .terminalExecuteFailure
      · subst hne
        rw [Choice.transact_held (hissued.1.takesHold w.store) (hfails rfl)] at hheld
        cases hheld
      have hkeeps : (w.store.row.status ≠ .failed → (i.transact t w.store).2.row.status ≠ .failed) ∧
          w.store.releases (i.transact t w.store).2 = false := by
        rcases i.transact_cases t w.store with ⟨-, hsame⟩ | ⟨s', result, hrun, hs', -⟩
        · rw [hsame]
          exact ⟨id, Store.releases_of_registry rfl⟩
        · rw [hs'] at hheld ⊢
          exact Tx.run_holds hissued.1 hsite hne hguard hrun hheld
      exact ⟨hkeeps.1, hissued.1.marks hsite hne, hkeeps.2⟩

end Step

/-! ### The programs -/

section Programs

variable {pid : ℕ} {α : Type} {p : Exec α}

/-- A program that does not get to fail the execution. -/
theorem held_keep (hp : p.Requests fun r => r.Issued ∧ r.site ≠ .terminalExecuteFailure) :
    heldOutline.Triple pid (fun _ _ => True) p (fun _ _ _ => True) fun _ _ _ => True :=
  Programs.Outline.triple_of_requests hp (fun _ _ _ hr _ _ => ⟨hr.1, fun h => absurd h hr.2⟩)
    fun _ _ _ _ _ _ _ _ _ => trivial

/-- A process that fails the execution leaves an open submission open. -/
theorem held_terminalExecuteFailure (error : String) :
    heldOutline.Triple pid (fun _ w => w.store.row.submissionState.holdsAutomaticWork = false)
      (terminalExecuteFailure error) (fun _ _ _ => True) fun _ _ _ => True := by
  have hopen : heldOutline.Triple pid
      (fun _ w => w.store.row.submissionState.holdsAutomaticWork = false)
      (terminalExecuteFailure error)
      (fun _ _ w => w.store.row.submissionState.holdsAutomaticWork = false)
      fun _ _ w => w.store.row.submissionState.holdsAutomaticWork = false := by
    refine Programs.Outline.triple_of_requests (requests_terminalExecuteFailure error)
      (fun r l w hr _ h => ⟨hr.1, fun _ => h⟩) fun r i l w hr _ hassert _ _ => ?_
    have hsite : r.site = .terminalExecuteFailure := by simpa using hr.2
    refine performRequest_held ?_ (hassert.2 hsite)
    cases r with
    | ask site question => rfl
    | tx site t =>
        obtain rfl : site = .terminalExecuteFailure := hsite
        exact hr.1.1.takesHold w.store
  exact hopen.conseq (fun _ _ _ h => h) (fun _ _ _ _ _ => trivial) fun _ _ _ _ _ => trivial

/-- The error arm fails the execution only after it has read an open submission. -/
theorem held_executeErrorArm (error : String) :
    heldOutline.Triple pid (fun _ _ => True) (executeErrorArm error) (fun _ _ _ => True)
      fun _ _ _ => True := by
  unfold executeErrorArm
  refine Programs.Outline.triple_bind (R := fun row _ w =>
    row.submissionState.holdsAutomaticWork = false →
      w.store.row.submissionState.holdsAutomaticWork = false) ?_ fun current => ?_
  · refine triple_tx (fun l w _ _ => ⟨by simp, by simp⟩)
      (fun i l w row _ _ _ _ hanswer => ?_) fun _ _ _ _ _ _ _ _ _ => trivial
    change (i.transact .getExecution w.store).1 = .ok row at hanswer
    have hrun : Except.ok (w.store, w.store.row) =
        Except.ok ((i.transact .getExecution w.store).2, row) := Choice.run_of_transact_ok hanswer
    obtain ⟨hstore, hrow⟩ := Prod.mk.inj (Except.ok.inj hrun)
    change row.submissionState.holdsAutomaticWork = false →
      (i.transact .getExecution w.store).2.row.submissionState.holdsAutomaticWork = false
    rw [← hstore, ← hrow]
    exact id
  have hdone : ∀ {P : Local → World → Prop}, heldOutline.Triple pid P (pure () : Exec Unit)
      (fun _ _ _ => True) fun _ _ _ => True :=
    Programs.Outline.triple_ret fun _ _ _ _ => trivial
  split
  · exact hdone
  split
  · split
    · exact (held_keep (requests_tryTx.2 (by simp))).strengthen fun _ _ _ _ => trivial
    · exact hdone
  next hopen =>
    exact (held_terminalExecuteFailure error).strengthen fun l w _ h => h (by simpa using hopen)

theorem held_runExecute (config : WorkerConfig) (payload : ExecutePayload) :
    heldOutline.Triple pid (fun _ _ => True) (runExecute config payload) (fun _ _ _ => True)
      fun _ _ _ => True := by
  refine triple_runExecute (Q := fun _ _ => True) (S := fun _ _ _ => True) config payload ?_
    (fun row => ?_) (fun row error => held_executeErrorArm error) fun _ _ _ _ _ => trivial
  · exact (held_keep (requests_tx.2 (by simp))).conseq (fun _ _ _ h => h)
      (fun _ _ _ _ _ => ⟨trivial, fun _ => trivial, fun _ => trivial⟩) fun _ _ _ _ h => h
  · refine (held_keep ((requests_runExecuteBody config row payload).mono fun r hr => ⟨hr.1, ?_⟩)
      ).strengthen fun _ _ _ _ => trivial
    intro hsite
    have hmem := hr.2
    rw [hsite] at hmem
    exact absurd hmem (by decide)

end Programs

/-! ### Runs -/

theorem heldOutline_obligations (executionId : Uuid) :
    Programs.System.Obligations (executionSystem executionId) heldOutline (fun _ _ _ => True)
      (fun _ _ _ => True) (Guarded KeepsHeld) where
  perform_eq := rfl
  code pid e := by
    refine (triple_program (F := fun _ _ => True) (G := fun _ _ => True) executionId
      (fun p hp => held_keep hp) (fun p hp => held_keep (hp.mono fun r hr => ?_))
      (fun r hr hsite _ => ⟨hr, fun h => hsite (h ▸ by decide)⟩) (fun _ _ _ h => h)
      (fun config payload => held_runExecute config payload) e).conseq
      (fun _ _ _ _ => trivial) (fun _ _ _ _ h => h) fun _ _ _ _ h => h
    obtain ⟨hissued, hsite⟩ := Request.site_of_closesJob hr
    exact ⟨hissued, by rw [hsite]; decide⟩
  guard c pid i l r k hC hthread := (hC.answered hthread).1
  inv_step pid r i l w hinv hassert hguard := hinv.step hassert hguard
  inv_environment e w hinv := hinv
  stable c pid i l r k pid' l' r' k' hC hthread hthread' hne _ hassert hother := by
    refine ⟨hother.1, fun hsite => ?_⟩
    cases htakes : r.takesHold c.shared.store with
    | false => exact performRequest_held htakes (hother.2 hsite)
    | true =>
        -- nobody takes the submission while the other process fails the execution
        have hbeside := (hC.answered hthread).2 htakes
        exact absurd ⟨pid', l', r', k', hne, hthread', hsite⟩ hbeside
  stable_environment e pid r l w _ hassert := hassert

/-- **Executions whose submission may exist are held.**  In every run in which no submission is taken
while another process fails the execution, and no request of an execute job carries out an end on a
row whose submission stays held, `run_execute` neither fails an execution whose submission is held nor
returns its sources. -/
theorem submissions_held (executionId : Uuid) (s : Store) {labels : List ExecutionLabel}
    (hmeets : Runs.Meets (executionSystem executionId).step (Guarded KeepsHeld)
      (Programs.System.init ⟨s, []⟩) labels) :
    (Runs.exec (executionSystem executionId).step
      (Programs.System.init ⟨s, []⟩) labels).shared.HoldsSubmissions :=
  (Programs.System.exec_outline (heldOutline_obligations executionId)
    (fun e he => by cases he) hmeets).inv

/-- The step is one of the process `pid`, or of the surroundings. -/
def isAlone (pid : ℕ) : ExecutionLabel → Bool
  | .start other _ | .run other _ | .crash other => other == pid
  | .environment _ => true

/-- A process that runs alone has nobody beside it. -/
theorem meets_keepsHeld_of_alone {executionId : Uuid} {s : Store} {labels : List ExecutionLabel}
    (pid : ℕ)
    (hmeets : Runs.Meets (executionSystem executionId).step
      (fun c lab => isAlone pid lab ∧
        Guarded (fun c _ r _ _ => r.endsHeld c.shared.store = false) c lab)
      (Programs.System.init ⟨s, []⟩) labels) :
    Runs.Meets (executionSystem executionId).step (Guarded KeepsHeld)
      (Programs.System.init ⟨s, []⟩) labels := by
  refine Runs.Meets.mono (fun c => ∀ other, other ≠ pid → c.threads other = none)
    (fun c lab hc hlab other hne => ?_) (fun c lab hc hlab => ?_) (fun _ _ => rfl) hmeets
  · cases lab with
    | start q e =>
        obtain rfl : q = pid := by simpa [isAlone] using hlab.1
        cases hq : c.threads q <;> simp [Programs.System.step, hq, hne, hc other hne]
    | run q i =>
        obtain rfl : q = pid := by simpa [isAlone] using hlab.1
        unfold Programs.System.step
        simp only
        split
        · simp [hne, hc other hne]
        · exact hc other hne
    | crash q =>
        obtain rfl : q = pid := by simpa [isAlone] using hlab.1
        simp [Programs.System.step, hne, hc other hne]
    | environment e => exact hc other hne
  · cases lab with
    | run q i =>
        obtain rfl : q = pid := by simpa [isAlone] using hlab.1
        have hguard := hlab.2
        simp only [Guarded] at hguard ⊢
        split at hguard
        · refine ⟨hguard, fun _ hbeside => ?_⟩
          obtain ⟨other, l, r, k, hne, hthread, -⟩ := hbeside
          rw [hc other hne] at hthread
          cases hthread
        · trivial
    | _ => trivial

/-- A worker that submits and records the receipt. -/
theorem submissions_held_submitted :
    (Runs.exec (executionSystem 1).step (Programs.System.init ⟨sampleStore, []⟩)
      (.start 0 (.tickForWorker sampleConfig 1) :: answered 0 0 26 sampleAnswer)
      ).shared.HoldsSubmissions :=
  submissions_held 1 sampleStore (meets_keepsHeld_of_alone 0 (by decide +kernel))

/-- The answers of a deployment whose preflight fails. -/
def failingAnswer : (question : External) → question.Answer
  | .preflight _ _ => .error "no token"
  | question => sampleAnswer question

/-- The first worker fails its preflight, reads an open submission and loses its lease.  The second
one takes the submission; then the first one goes on. -/
def failedInFlightRun : List ExecutionLabel :=
  .start 0 (.tickForWorker sampleConfig 1) :: answered 0 0 10 failingAnswer ++
  .environment (.advanceClock 100000000) ::
  .start 1 (.tickForWorker sampleConfig 2) :: answered 1 0 22 sampleAnswer ++
  answered 0 10 4 failingAnswer

/-- In this run the first worker fails the execution while its submission is in flight. -/
theorem submission_failed_in_flight :
    sampleStore.Created 1 ∧
      ¬(Runs.exec (executionSystem 1).step (Programs.System.init ⟨sampleStore, []⟩)
        failedInFlightRun).shared.HoldsSubmissions := by
  refine ⟨sampleStore_created, fun hholds => ?_⟩
  have hfailed : ∃ e ∈ (Runs.exec (executionSystem 1).step
      (Programs.System.init ⟨sampleStore, []⟩) failedInFlightRun).shared.log,
      e.request.site ∈ executeSites ∧ e.after.row.submissionState = .inFlight ∧
        e.before.row.status ≠ .failed ∧ e.after.row.status = .failed := by decide +kernel
  obtain ⟨e, he, hsite, hinFlight, hbefore, hafter⟩ := hfailed
  have hkeeps := hholds e he hsite (by rw [hinFlight]; rfl)
  exact hkeeps.failed hbefore hafter

end Beampipe
