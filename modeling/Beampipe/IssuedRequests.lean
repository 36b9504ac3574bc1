/-
What each function of the source can ask for.

A process issues few kinds of requests, and each site of the source only some of them: one place
takes submissions, three places mark sources, and a patch has the same few columns wherever a site
issues one.  `Beampipe.Request.Issued` is the table; every program is shown once to stay inside it, at
the sites it runs through, and later proofs about steps go by the table instead of by the programs.

Main definitions:

* `Beampipe.LedgerPatch.IssuedAt`, `Beampipe.ExecutionStatePatch.IssuedAt`,
  `Beampipe.Tx.IssuedAt` — the table;
* `Beampipe.Request.Issued`, `Beampipe.Request.IssuedIn` — a request is in the table, at one of the
  given sites.

Main results:

* `Beampipe.requests_runExecute`, `Beampipe.requests_runDimPoll`, `Beampipe.requests_runDimPollTick`,
  `Beampipe.requests_runSlurmPollTick` — the jobs;
* `Beampipe.requests_program` — **every program stays inside the table**.
-/

import Beampipe.ExecutionSystem

set_option relaxedAutoImplicit false
set_option autoImplicit false

namespace Beampipe

open Programs.Prog

/-! ### The table -/

/-- The ledger patches of a site. -/
@[simp] def LedgerPatch.IssuedAt (site : Site) (patch : LedgerPatch) : Prop :=
  match site with
  | .runExecuteBody =>
      (∃ replayManifest, patch = runningPatch replayManifest) ∨
        ∃ manifest, patch =
          { executionPhase := some (some .submit), workflowManifest := some manifest }
  | .notSubmitted =>
      ∃ manifest, patch =
        { status := some .notSubmitted
          executionPhase := some none
          workflowManifest := some manifest }
  | .terminalExecuteFailure =>
      ∃ phase error, patch =
        { status := some .failed, executionPhase := some phase, error := some error }
  | .dimPollTimeout =>
      ∃ manifest error, patch =
        { status := some .failed, workflowManifest := some manifest, error := some error }
  | .applyDimPollUpdate | .recordSlurmPollFailure =>
      ∃ manifest, patch = { workflowManifest := some manifest }
  | .applySlurmPollUpdate =>
      ∃ manifest error, patch = { workflowManifest := some manifest, error := error }
  | .cli => patch = { status := some .cancelled }
  | _ => False

/-- The state patches of a site. -/
@[simp] def ExecutionStatePatch.IssuedAt (site : Site) (patch : ExecutionStatePatch) : Prop :=
  match site with
  | .runExecuteBody =>
      patch = { controlPhase := some .admitted } ∨ patch = { controlPhase := some .graphPatched }
  | .submitFailed =>
      ∃ failureClass error, patch =
        { submissionState := some .failed
          failureClass := some failureClass
          lastError := some error }
  | .runSubmitPhase | .executeErrorArm =>
      ∃ failureClass error, patch =
        { submissionState := some .uncertain
          failureClass := some failureClass
          lastError := some error }
  | .terminalExecuteFailure =>
      ∃ failureClass error, patch =
        { terminalOutcome := some .failed
          failureClass := some failureClass
          lastError := some error }
  | .applyDimPollUpdate => ∃ execution poll, patch = dimPollPatch execution poll
  | .dimPollTimeout | .recordSlurmPollFailure =>
      ∃ failureClass error, patch = { failureClass := some failureClass, lastError := some error }
  | .recordDimReconciliationError =>
      ∃ state failureClass error, (state = .notCreated ∨ state = .unreachable) ∧ patch =
        { daliugeState := some state
          failureClass := some failureClass
          lastError := some error }
  | .applySlurmPollUpdate => ∃ execution result, patch = slurmPollPatch execution result
  | .recordOutputInventoryRetrievalFailure =>
      ∃ state failureClass error, (state = .pending ∨ state = .failed) ∧ patch =
        { controlPhase := some .outputVerification
          outputState := some state
          failureClass := some failureClass
          lastError := some error }
  | .cli => ∃ kind, patch = operatorCancelPatch kind
  | _ => False

/-- The transactions of a site. -/
@[simp] def Tx.IssuedAt (site : Site) : Tx → Prop
  | .applyExecutionPatch patch => patch.IssuedAt site
  | .applyExecutionStatePatch patch => patch.IssuedAt site
  | .beginExecutionSubmission _ => site = .runSubmitPhase
  | .recordSubmissionReceipt _ => site = .applySubmitResult
  | .recordSlurmNameLookup _ => site = .reconcileUncertainSlurmSubmissions
  | .verifyExecutionOutputs _ _ => site = .retrieveSlurmOutputInventories
  | .markSourcesPendingWorkflowRun =>
      site = .terminalExecuteFailure ∨ site = .dimPollTimeout ∨
        site = .finalizeExecutionSourcePending
  | .clearWorkflowPendingForSources => site = .finalizeExecutionSourcePending
  | .finalizeSuccessfulExecutionSources =>
      site = .notSubmitted ∨ site = .finalizeExecutionSourcePending
  | .retryExecution _ _ | .cancelExecution _ | .abandonSlurmSubmission _ _
  | .enqueueExecuteJob _ _ => site = .api
  | .enqueueDimPollJob _ _ _ _ => site = .applyDimPollUpdate
  | .claimNextJobForWorker _ _ _ | .completeJobWithLease _ | .rescheduleRecurringJobWithLease _ _
  | .failJobPermanentlyWithLease _ _ _ | .failOrRetryJobWithLease _ _ _ _ => site = .tickForWorker
  | .storeExecutionArtifact _ | .applyExecutionProvenancePatch _ => site = .runExecuteBody
  | .recordExecutionObservation _ => site ≠ .tickForWorker
  | _ => True

namespace Request

/-- The site of a request. -/
@[simp] def site : Request → Site
  | .tx site _ => site
  | .ask site _ => site

/-- The request is in the table: a submission is started where one is taken. -/
@[simp] def Issued : Request → Prop
  | .tx site t => t.IssuedAt site ∧ (site = .runExecute → t = .getExecution)
  | .ask site (.submit _ _ _ _) => site = .runSubmitPhase
  | .ask site _ => site ≠ .runExecute

/-- The request is in the table, at one of the sites. -/
def IssuedIn (sites : List Site) (r : Request) : Prop := r.Issued ∧ r.site ∈ sites

@[simp] theorem issuedIn_tx {sites : List Site} {site : Site} {t : Tx} :
    (tx site t).IssuedIn sites ↔
      (t.IssuedAt site ∧ (site = .runExecute → t = .getExecution)) ∧ site ∈ sites := Iff.rfl

@[simp] theorem issuedIn_ask {sites : List Site} {site : Site} {question : External} :
    (ask site question).IssuedIn sites ↔ (ask site question).Issued ∧ site ∈ sites := Iff.rfl

theorem IssuedIn.mono {sites sites' : List Site} {r : Request} (h : r.IssuedIn sites)
    (hsub : sites ⊆ sites') : r.IssuedIn sites' :=
  ⟨h.1, hsub h.2⟩

end Request

/-! ### Small programs -/

section Rules

variable {φ : Request → Prop} {α : Type}

@[simp] theorem requests_tx {site : Site} {t : Tx} :
    (tx site t).Requests φ ↔ φ (.tx site t) := by
  refine ⟨fun h => h.1, fun h => ⟨h, fun answer => ?_⟩⟩
  cases answer <;> trivial

@[simp] theorem requests_tryTx {site : Site} {t : Tx} :
    (tryTx site t).Requests φ ↔ φ (.tx site t) :=
  ⟨fun h => h.1, fun h => ⟨h, fun _ => trivial⟩⟩

@[simp] theorem requests_ask {site : Site} {question : External} :
    (ask site question).Requests φ ↔ φ (.ask site question) :=
  ⟨fun h => h.1, fun h => ⟨h, fun _ => trivial⟩⟩

@[simp] theorem requests_orFail (x : Except String α) : (orFail x).Requests φ := by
  cases x <;> trivial

@[simp] theorem requests_orPanic (x : Option α) : (orPanic x).Requests φ := by
  cases x <;> trivial

@[simp] theorem requests_pure (a : α) : (pure a : Exec α).Requests φ := trivial

theorem requests_onlyIf {condition : Bool} {program : Exec Unit} (h : program.Requests φ) :
    (onlyIf condition program).Requests φ := by
  unfold onlyIf
  split
  · exact h
  · trivial

theorem requests_forEach {items : List α} {body : α → Exec Unit}
    (h : ∀ a, (body a).Requests φ) : (forEach items body).Requests φ := by
  induction items with
  | nil => trivial
  | cons a rest ih => exact requests_bind (h a) fun _ => ih

theorem requests_widen {sites sites' : List Site} {p : Exec α}
    (h : p.Requests (Request.IssuedIn sites)) (hsub : sites ⊆ sites') :
    p.Requests (Request.IssuedIn sites') :=
  h.mono fun _ hr => hr.mono hsub

end Rules

/-! ### The execute job -/

section Execute

variable (config : WorkerConfig) (execution : ExecutionRow) (setup : ExecutionSetup)

theorem requests_ensureExecutionActive (recheckSources : Bool) :
    (ensureExecutionActive recheckSources).Requests (Request.IssuedIn [.runExecuteBody]) := by
  unfold ensureExecutionActive
  refine requests_bind (by simp) fun current => ?_
  split
  · trivial
  split
  · refine requests_bind (by simp) fun rows => ?_
    refine requests_bind (by simp) fun archive => ?_
    split <;> trivial
  · trivial

theorem requests_persistInlineJsonArtifact (kind producerPhase : String) (value metadata : Json) :
    (persistInlineJsonArtifact kind producerPhase value metadata).Requests
      (Request.IssuedIn [.runExecuteBody]) :=
  requests_bind (by simp) fun _ => trivial

theorem requests_executeManifest (replayManifest : Bool) :
    (executeManifest execution replayManifest).Requests
      (Request.IssuedIn [.runExecuteBody]) := by
  unfold executeManifest
  split
  · refine requests_bind (by simp) fun answer => ?_
    exact requests_bind (requests_orFail answer) fun _ => trivial
  · refine requests_bind (requests_ensureExecutionActive false) fun _ => ?_
    exact requests_bind (by simp) fun answer => requests_orFail answer

theorem requests_persistExecutionArtifacts (manifest : Json) (graphs : Json × Json) :
    (persistExecutionArtifacts execution manifest graphs).Requests
      (Request.IssuedIn [.runExecuteBody]) := by
  unfold persistExecutionArtifacts
  refine requests_bind (requests_persistInlineJsonArtifact _ _ _ _) fun manifestSha256 => ?_
  refine requests_bind (requests_persistInlineJsonArtifact _ _ _ _) fun sourceGraphSha256 => ?_
  refine requests_bind (requests_persistInlineJsonArtifact _ _ _ _) fun patchedGraphSha256 => ?_
  exact requests_tx.2 (by simp)

theorem requests_finishNotSubmitted (manifest : Json) :
    (finishNotSubmitted manifest).Requests (Request.IssuedIn [.notSubmitted]) := by
  refine requests_bind ?_ fun _ => requests_bind (by simp) fun _ => trivial
  simp

theorem requests_applySubmitResult (submitted : BackendSubmit) (useReal : Bool)
    (workerPool : String) :
    (applySubmitResult execution.uuid submitted useReal workerPool).Requests
      (Request.IssuedIn [.applySubmitResult]) := by
  unfold applySubmitResult
  split
  · trivial
  · exact requests_bind (by simp) fun _ => trivial

/-- The sites of a submission. -/
def submitSites : List Site := [.runSubmitPhase, .submitFailed, .applySubmitResult]

theorem requests_runSubmitPhase (useReal : Bool) (manifest graph : Json) :
    (runSubmitPhase config execution setup useReal manifest graph).Requests
      (Request.IssuedIn submitSites) := by
  unfold runSubmitPhase
  refine requests_bind (requests_orFail _) fun fingerprint => ?_
  refine requests_bind (by simp [submitSites]) fun taken => ?_
  split
  · trivial
  · refine requests_bind (by simp [submitSites]) fun outcome => ?_
    split
    · exact requests_widen (requests_applySubmitResult execution _ _ _) (by simp [submitSites])
    all_goals
      refine requests_bind ?_ fun _ => trivial
      simp [submitSites]

/-- The sites of `run_execute_body`. -/
def bodySites : List Site := .runExecuteBody :: .notSubmitted :: submitSites

theorem requests_prepareAndSubmit (payload : ExecutePayload) (replayManifest : Bool) :
    (prepareAndSubmit config execution setup payload replayManifest).Requests
      (Request.IssuedIn bodySites) := by
  unfold prepareAndSubmit
  have hbody : [Site.runExecuteBody] ⊆ bodySites := by simp [bodySites]
  refine requests_bind (requests_widen (requests_executeManifest execution _) hbody)
    fun manifest => ?_
  refine requests_bind (by simp [bodySites]) fun answer => ?_
  refine requests_bind (requests_orFail answer) fun graphs => ?_
  refine requests_bind (requests_widen (requests_persistExecutionArtifacts execution _ _) hbody)
    fun _ => ?_
  refine requests_bind (by simp [bodySites])
    fun _ => ?_
  split
  · refine requests_bind (by simp [bodySites]) fun _ => ?_
    refine requests_bind (requests_widen (requests_ensureExecutionActive false) hbody) fun _ => ?_
    exact requests_widen (requests_runSubmitPhase config execution setup _ _ _)
      (by simp [bodySites, submitSites])
  · exact requests_widen (requests_finishNotSubmitted manifest) (by simp [bodySites])

theorem requests_admitExecution (replayManifest : Bool) :
    (admitExecution execution replayManifest).Requests (Request.IssuedIn [.runExecuteBody]) := by
  have hmark : ∀ replay, (markRunning replay).Requests (Request.IssuedIn [.runExecuteBody]) :=
    fun replay => requests_bind (by simp) fun _ => trivial
  refine requests_bind (requests_onlyIf (hmark true)) fun _ => ?_
  refine requests_bind (by simp) fun _ => ?_
  exact requests_onlyIf (hmark false)

theorem requests_runExecuteBody (payload : ExecutePayload) :
    (runExecuteBody config execution payload).Requests (Request.IssuedIn bodySites) := by
  unfold runExecuteBody
  have hbody : [Site.runExecuteBody] ⊆ bodySites := by simp [bodySites]
  split
  · trivial
  refine requests_bind (by simp [bodySites]) fun answer => ?_
  refine requests_bind (requests_orFail answer) fun setup => ?_
  refine requests_bind (requests_orFail _) fun _ => ?_
  refine requests_bind (requests_widen (requests_ensureExecutionActive true) hbody) fun _ => ?_
  refine requests_bind (by simp [bodySites]) fun archive => ?_
  refine requests_bind (by simp [bodySites]) fun answer => ?_
  refine requests_bind (requests_orFail answer) fun _ => ?_
  refine requests_bind (by simp [bodySites]) fun answer => ?_
  refine requests_bind (requests_orFail answer) fun _ => ?_
  refine requests_bind (requests_widen (requests_admitExecution execution _) hbody) fun _ => ?_
  exact requests_prepareAndSubmit config execution setup payload _

theorem requests_terminalExecuteFailure (error : String) :
    (terminalExecuteFailure error).Requests (Request.IssuedIn [.terminalExecuteFailure]) := by
  refine requests_bind (by simp) fun _ => ?_
  refine requests_bind (by simp) fun current => ?_
  refine requests_bind (by simp) fun _ => ?_
  exact requests_tx.2 (by simp)

theorem requests_executeErrorArm (error : String) :
    (executeErrorArm error).Requests
      (Request.IssuedIn [.executeErrorArm, .terminalExecuteFailure]) := by
  refine requests_bind (by simp) fun current => ?_
  split
  · trivial
  split
  · split
    · simp
    · trivial
  · exact requests_widen (requests_terminalExecuteFailure error) (by simp)

/-- The sites of `run_execute`. -/
def executeSites : List Site :=
  .runExecute :: .executeErrorArm :: .terminalExecuteFailure :: bodySites

theorem requests_runExecute (payload : ExecutePayload) :
    (runExecute config payload).Requests (Request.IssuedIn executeSites) := by
  refine requests_bind (by simp [executeSites]) fun execution => ?_
  split
  · trivial
  refine requests_bind (requests_attempt (requests_widen
    (requests_runExecuteBody config execution payload) (by decide))) fun outcome => ?_
  split
  · trivial
  · exact requests_widen (requests_executeErrorArm _) (by simp [executeSites])
  · trivial

end Execute

/-! ### The pollers -/

section Pollers

variable (config : WorkerConfig) (execution : ExecutionRow)

/-- The sites that settle the sources of a finished execution. -/
def sourceSites : List Site := [.finalizeExecutionSourcePending]

theorem requests_finalizeExecutionSourcePending (status : ExecutionStatus) :
    (finalizeExecutionSourcePending status).Requests (Request.IssuedIn sourceSites) := by
  unfold finalizeExecutionSourcePending
  split
  · exact requests_tx.2 (by simp [sourceSites])
  · exact requests_bind (by simp [sourceSites]) fun _ => trivial
  · exact requests_bind (by simp [sourceSites]) fun _ => trivial
  · exact requests_tx.2 (by simp [sourceSites])
  all_goals trivial

/-- The sites of a DIM poll update. -/
def dimUpdateSites : List Site :=
  [.applyDimPollUpdate, .dimPollTimeout, .finalizeExecutionSourcePending]

theorem requests_dimPollTimeout (clock : String) (manifest : Json) :
    (dimPollTimeout clock manifest).Requests (Request.IssuedIn [.dimPollTimeout]) := by
  refine requests_bind (requests_orPanic _) fun timedOut => ?_
  refine requests_bind (by simp) fun _ => ?_
  refine requests_bind (by simp) fun _ => ?_
  exact requests_tx.2 (by simp)

theorem requests_applyDimPollUpdate (poll : BackendPoll) (pollRound : ℤ) (policy : PollPolicy)
    (dimBase : Option String) (fromTick useReal : Bool) :
    (applyDimPollUpdate config execution poll pollRound policy dimBase fromTick useReal).Requests
      (Request.IssuedIn dimUpdateSites) := by
  unfold applyDimPollUpdate
  refine requests_bind (by simp [dimUpdateSites]) fun _ => ?_
  refine requests_bind ?_ fun transition => ?_
  · exact requests_tx.2 ⟨⟨⟨execution, poll, rfl⟩, by simp⟩, by simp [dimUpdateSites]⟩
  split
  · trivial
  refine requests_bind ?_ fun clock => ?_
  · split <;> simp [dimUpdateSites]
  refine requests_bind (requests_orPanic _) fun manifest => ?_
  split
  · refine requests_bind (by simp [dimUpdateSites]) fun _ => ?_
    exact requests_onlyIf (requests_widen (requests_finalizeExecutionSourcePending _)
      (by simp [dimUpdateSites, sourceSites]))
  split
  · exact requests_widen (requests_dimPollTimeout clock manifest) (by simp [dimUpdateSites])
  cases fromTick with
  | true => exact requests_bind (by simp [dimUpdateSites]) fun _ => trivial
  | false =>
      refine requests_bind (by simp [dimUpdateSites]) fun _ => ?_
      exact requests_tx.2 (by simp [dimUpdateSites])

theorem requests_pollDim {site : Site} (hsite : site ≠ .runExecute) (useReal : Bool)
    (sessionId : String) : (pollDim site useReal sessionId).Requests (Request.IssuedIn [site]) := by
  unfold pollDim
  split
  · refine requests_bind (by simpa using hsite) fun answer => ?_
    split <;> trivial
  · trivial

/-- The sites of the DIM jobs. -/
def dimSites : List Site := .runDimPoll :: .recordDimReconciliationError :: dimUpdateSites

theorem requests_runDimPoll (payload : Json) :
    (runDimPoll config payload).Requests (Request.IssuedIn dimSites) := by
  refine requests_bind (by simp [dimSites]) fun execution => ?_
  refine requests_bind (by simp [dimSites]) fun policy => ?_
  refine requests_bind (requests_widen (requests_pollDim (by simp) _ _) (by decide))
    fun answer => ?_
  split
  · trivial
  · exact requests_widen (requests_applyDimPollUpdate config execution _ _ _ _ _ _) (by decide)

theorem requests_recordDimReconciliationError (error : DimPollError) :
    (recordDimReconciliationError error).Requests
      (Request.IssuedIn [.recordDimReconciliationError]) := by
  refine requests_bind (by simp) fun _ => requests_bind ?_ fun _ => trivial
  refine requests_tx.2 ⟨⟨⟨_, _, _, ?_, rfl⟩, by simp⟩, by simp⟩
  cases error.notFound <;> simp

theorem requests_dimPollTickItem :
    (dimPollTickItem config execution).Requests (Request.IssuedIn dimSites) := by
  unfold dimPollTickItem
  split
  · trivial
  refine requests_bind (requests_ask.2 (by simp [dimSites]))
    fun profileEndpoint => ?_
  split
  · trivial
  refine requests_bind (by simp [dimSites]) fun policy => ?_
  refine requests_bind (requests_widen (requests_pollDim (by simp) _ _) (by decide))
    fun answer => ?_
  split
  · exact requests_widen (requests_recordDimReconciliationError _) (by decide)
  · exact requests_widen (requests_applyDimPollUpdate config execution _ _ _ _ _ _) (by decide)

theorem requests_runDimPollTick :
    (runDimPollTick config).Requests (Request.IssuedIn dimSites) := by
  refine requests_bind (by simp [dimSites]) fun executions => ?_
  exact requests_forEach (requests_dimPollTickItem config)

/-- The sites of a Slurm poll update. -/
def slurmUpdateSites : List Site := [.applySlurmPollUpdate, .finalizeExecutionSourcePending]

theorem requests_recordSlurmPollEscalation {site : Site}
    (hsite : site ≠ .tickForWorker ∧ site ≠ .runExecute)
    (schedulerState : SchedulerState) (progress : SlurmPollProgress) (maxRounds : ℤ)
    (reason : String) :
    (recordSlurmPollEscalation site schedulerState progress maxRounds reason).Requests
      (Request.IssuedIn [site]) :=
  requests_onlyIf (requests_bind (by simpa using hsite) fun _ => trivial)

theorem requests_applySlurmPollUpdate (result : SlurmJobPollResult) (pollRound : ℤ)
    (policy : PollPolicy) :
    (applySlurmPollUpdate execution result pollRound policy).Requests
      (Request.IssuedIn slurmUpdateSites) := by
  unfold applySlurmPollUpdate
  refine requests_bind (by simp [slurmUpdateSites]) fun _ => ?_
  refine requests_bind ?_ fun transition => ?_
  · exact requests_tx.2
      ⟨⟨⟨execution, result, rfl⟩, by simp⟩, by simp [slurmUpdateSites]⟩
  split
  · trivial
  refine requests_bind (by simp [slurmUpdateSites]) fun clock => ?_
  have hactive : ∀ reason, (applySlurmPollActive clock transition.row
      (execution.schedulerJobId.getD "") result pollRound policy.slurmMaxRounds reason).Requests
        (Request.IssuedIn slurmUpdateSites) := by
    intro reason
    refine requests_bind (requests_orPanic _) fun manifest => ?_
    refine requests_bind (by simp [slurmUpdateSites])
      fun _ => ?_
    exact requests_widen (requests_recordSlurmPollEscalation (by simp) _ _ _ _)
      (by simp [slurmUpdateSites])
  have hterminal : (applySlurmPollTerminal clock execution (execution.schedulerJobId.getD "")
      result transition).Requests (Request.IssuedIn slurmUpdateSites) := by
    refine requests_bind (requests_orPanic _) fun manifest => ?_
    refine requests_bind (by simp [slurmUpdateSites])
      fun _ => ?_
    exact requests_onlyIf (requests_widen (requests_finalizeExecutionSourcePending _)
      (by simp [slurmUpdateSites, sourceSites]))
  split
  · exact hactive _
  · exact hactive _
  · exact hactive _
  all_goals exact hterminal

theorem requests_recordSlurmPollFailure (error : SlurmPollError) :
    (recordSlurmPollFailure execution error).Requests
      (Request.IssuedIn [.recordSlurmPollFailure]) := by
  refine requests_bind (by simp) fun policy => ?_
  refine requests_bind (by simp) fun clock => ?_
  refine requests_bind (by simp) fun _ => ?_
  refine requests_bind (by simp) fun _ => ?_
  refine requests_bind (by simp) fun _ => ?_
  exact requests_recordSlurmPollEscalation (by simp) _ _ _ _

/-- The sites of the Slurm job. -/
def slurmSites : List Site :=
  [.runSlurmPollTick, .applySlurmPollUpdate, .recordSlurmPollFailure,
    .reconcileUncertainSlurmSubmissions, .retrieveSlurmOutputInventories,
    .recordOutputInventoryRetrievalFailure, .finalizeExecutionSourcePending]

theorem requests_querySlurmState (useReal : Bool) (schedulerJobId : String) :
    (querySlurmState useReal schedulerJobId).Requests (Request.IssuedIn [.runSlurmPollTick]) := by
  cases useReal with
  | true => exact requests_ask.2 (by simp)
  | false => trivial

theorem requests_slurmPollTickItem :
    (slurmPollTickItem config execution).Requests (Request.IssuedIn slurmSites) := by
  refine requests_bind (by simp [slurmSites]) fun target => ?_
  have hfailure : ∀ error, (recordSlurmPollFailure execution error).Requests
      (Request.IssuedIn slurmSites) :=
    fun error => requests_widen (requests_recordSlurmPollFailure execution error) (by decide)
  split
  · exact hfailure _
  refine requests_bind (requests_widen (requests_querySlurmState _ _) (by decide))
    fun polled => ?_
  split
  · exact hfailure _
  · refine requests_bind (by simp [slurmSites]) fun policy => ?_
    exact requests_widen (requests_applySlurmPollUpdate execution _ _ _) (by decide)

theorem requests_recordOutputInventoryRetrievalFailure (code detail : String)
    (failureClass : FailureClass) (retryable : Bool) :
    (recordOutputInventoryRetrievalFailure code detail failureClass retryable).Requests
      (Request.IssuedIn [.recordOutputInventoryRetrievalFailure,
        .finalizeExecutionSourcePending]) := by
  refine requests_bind (by simp) fun _ => ?_
  refine requests_bind ?_ fun transition => ?_
  · refine requests_tx.2 ⟨⟨⟨_, _, _, ?_, rfl⟩, by simp⟩, by simp⟩
    cases retryable <;> simp
  · exact requests_onlyIf (requests_widen (requests_finalizeExecutionSourcePending _)
      (by simp [sourceSites]))

theorem requests_retrieveOutputInventoryItem :
    (retrieveOutputInventoryItem execution).Requests (Request.IssuedIn slurmSites) := by
  refine requests_bind (by simp [slurmSites]) fun retrieval => ?_
  have hfailure : ∀ code detail failureClass retryable,
      (recordOutputInventoryRetrievalFailure code detail failureClass retryable).Requests
        (Request.IssuedIn slurmSites) :=
    fun code detail failureClass retryable => requests_widen
      (requests_recordOutputInventoryRetrievalFailure code detail failureClass retryable)
      (by decide)
  split
  · exact hfailure _ _ _ _
  · exact hfailure _ _ _ _
  · refine requests_bind (requests_attempt ?_) fun outcome => ?_
    · refine requests_bind (requests_orFail _) fun _ => ?_
      refine requests_bind (by simp [slurmSites]) fun clock => ?_
      exact requests_bind (by simp [slurmSites]) fun _ => trivial
    · split
      · trivial
      · exact hfailure _ _ _ _
      · trivial

theorem requests_retrieveSlurmOutputInventories (useReal : Bool) :
    (retrieveSlurmOutputInventories useReal).Requests (Request.IssuedIn slurmSites) :=
  requests_onlyIf (requests_bind (by simp [slurmSites])
    fun _ => requests_forEach requests_retrieveOutputInventoryItem)

theorem requests_reconcileLookup (sessionId currentFingerprint : String)
    (intent : ExecutionObservationRow) :
    (reconcileLookup sessionId currentFingerprint execution intent).Requests
      (Request.IssuedIn slurmSites) := by
  unfold reconcileLookup
  have hfailure : ∀ error, (recordSlurmPollFailure execution error).Requests
      (Request.IssuedIn slurmSites) :=
    fun error => requests_widen (requests_recordSlurmPollFailure execution error) (by decide)
  split
  · exact hfailure _
  split
  · exact hfailure _
  refine requests_bind (by simp [slurmSites]) fun lookup => ?_
  refine requests_bind (by simp [slurmSites]) fun recorded => ?_
  split
  · trivial
  · refine requests_bind (by simp [slurmSites]) fun policy => ?_
    exact requests_widen (requests_applySlurmPollUpdate recorded.execution _ _ _) (by decide)

theorem requests_reconcileItem :
    (reconcileItem execution).Requests (Request.IssuedIn slurmSites) := by
  unfold reconcileItem
  have hfailure : ∀ error, (recordSlurmPollFailure execution error).Requests
      (Request.IssuedIn slurmSites) :=
    fun error => requests_widen (requests_recordSlurmPollFailure execution error) (by decide)
  split
  · exact hfailure _
  refine requests_bind (by simp [slurmSites]) fun target => ?_
  split
  · exact hfailure _
  refine requests_bind (by simp [slurmSites]) fun intent => ?_
  split
  · exact hfailure _
  · refine requests_bind (requests_orFail _) fun fingerprint => ?_
    exact requests_reconcileLookup execution _ _ _

theorem requests_reconcileUncertainSlurmSubmissions (useReal : Bool) :
    (reconcileUncertainSlurmSubmissions useReal).Requests (Request.IssuedIn slurmSites) :=
  requests_onlyIf (requests_bind (by simp [slurmSites])
    fun _ => requests_forEach requests_reconcileItem)

theorem requests_runSlurmPollTick :
    (runSlurmPollTick config).Requests (Request.IssuedIn slurmSites) := by
  refine requests_bind (requests_reconcileUncertainSlurmSubmissions _) fun _ => ?_
  refine requests_bind (by simp [slurmSites]) fun executions => ?_
  refine requests_bind (requests_forEach (requests_slurmPollTickItem config)) fun _ => ?_
  exact requests_retrieveSlurmOutputInventories _

end Pollers

/-! ### Workers, the API and the operator -/

section Processes

variable (config : WorkerConfig) (executionId workerId : Uuid) (job : JobRow)

/-- The request closes the job of its worker. -/
def Request.closesJob : Request → Bool
  | .tx .tickForWorker (.completeJobWithLease _)
  | .tx .tickForWorker (.rescheduleRecurringJobWithLease _ _)
  | .tx .tickForWorker (.failJobPermanentlyWithLease _ _ _)
  | .tx .tickForWorker (.failOrRetryJobWithLease _ _ _ _) => true
  | _ => false

theorem Request.site_of_closesJob {r : Request} (h : r.closesJob) :
    r.Issued ∧ r.site = .tickForWorker := by
  unfold closesJob at h
  split at h
  all_goals first
    | cases h; done
    | exact ⟨by simp, rfl⟩

theorem requests_otherJob : otherJob.Requests fun r =>
    r.Issued ∧ r.site = .tickForWorker ∧ r.closesJob = false :=
  requests_bind (requests_ask.2 ⟨by simp, rfl, rfl⟩) fun answer => requests_orFail answer

theorem requests_dispatch : (dispatch config executionId job).Requests Request.Issued := by
  have hother : otherJob.Requests Request.Issued := requests_otherJob.mono fun _ h => h.1
  unfold dispatch
  split
  · split
    · exact (requests_runExecute config _).mono fun _ h => h.1
    · exact hother
  · split
    · exact (requests_runDimPoll config _).mono fun _ h => h.1
    · exact hother
  · exact (requests_runDimPollTick config).mono fun _ h => h.1
  · exact (requests_runSlurmPollTick config).mono fun _ h => h.1
  all_goals exact hother

theorem requests_closeSucceeded (lease : LeaseKey) :
    (closeSucceeded lease job).Requests fun r => r.closesJob := by
  unfold closeSucceeded
  split <;> exact requests_bind (requests_tx.2 rfl) fun _ => trivial

theorem requests_closeFailed (lease : LeaseKey) (error : String) :
    (closeFailed lease job error).Requests fun r => r.closesJob := by
  unfold closeFailed
  split <;> exact requests_bind (requests_tx.2 rfl) fun _ => trivial

theorem requests_tickForWorker :
    (tickForWorker config executionId workerId).Requests Request.Issued := by
  refine requests_bind (by simp) fun claimed => ?_
  split
  · trivial
  next job =>
    unfold runClaimedJob
    split
    · trivial
    refine requests_bind (requests_attempt (requests_dispatch config executionId job))
      fun outcome => ?_
    split
    · exact (requests_closeSucceeded job _).mono fun _ h => (Request.site_of_closesJob h).1
    · exact (requests_closeFailed job _ _).mono fun _ h => (Request.site_of_closesJob h).1
    · trivial

theorem requests_startExecution (execution : ExecutionRow) (doStage doSubmit : Bool)
    (requiredCapabilities : ExecutionRow → Except String (List String)) :
    (startExecution execution executionId doStage doSubmit requiredCapabilities).Requests
      (Request.IssuedIn [.api]) := by
  unfold startExecution
  split
  · trivial
  refine requests_bind (requests_orFail _) fun capabilities => ?_
  refine requests_bind (requests_tx.2 (by simp)) fun enqueued => ?_
  split
  · trivial
  split
  · trivial
  split <;> trivial

theorem requests_executeExecution (doStage doSubmit : Bool)
    (requiredCapabilities : ExecutionRow → Except String (List String)) :
    (executeExecution executionId doStage doSubmit requiredCapabilities).Requests
      (Request.IssuedIn [.api]) := by
  refine requests_bind (by simp) fun execution => ?_
  refine requests_bind (requests_tx.2 (by simp)) fun existing => ?_
  split
  · exact requests_startExecution executionId execution doStage doSubmit requiredCapabilities
  split
  · trivial
  split
  · trivial
  · exact requests_startExecution executionId execution doStage doSubmit requiredCapabilities

theorem requests_cancelExecutionScheduler :
    cancelExecutionScheduler.Requests (Request.IssuedIn [.api]) := by
  refine requests_bind (by simp) fun execution => ?_
  refine requests_bind (by simp) fun answer => ?_
  refine requests_bind (requests_orFail answer) fun kind => ?_
  refine requests_bind (requests_orFail _) fun confirmation => ?_
  refine requests_bind (by simp) fun answer => ?_
  refine requests_bind (requests_orFail answer) fun cancelled => ?_
  split <;> trivial

theorem requests_patchExecution : patchExecution.Requests (Request.IssuedIn [.api]) := by
  refine requests_bind (by simp) fun execution => ?_
  split
  · trivial
  split
  · trivial
  split
  · refine requests_bind requests_cancelExecutionScheduler fun confirmation => ?_
    exact requests_bind (by simp) fun _ => trivial
  · exact requests_bind (by simp) fun _ => trivial

theorem requests_cancelByOperator : cancelByOperator.Requests (Request.IssuedIn [.cli]) := by
  refine requests_bind (by simp) fun execution => ?_
  refine requests_bind (by simp) fun answer => ?_
  refine requests_bind (requests_orFail answer) fun kind => ?_
  refine requests_bind (by simp) fun answer => ?_
  refine requests_bind (requests_orFail answer) fun cancelled => ?_
  split
  · refine requests_bind (by simp) fun _ => ?_
    exact requests_bind (by simp) fun _ => trivial
  · trivial

/-- The commands of the API and of the operator. -/
theorem requests_command {e : Entry} (he : ∀ config workerId, e ≠ .tickForWorker config workerId) :
    (e.program executionId).Requests (Request.IssuedIn [.api, .cli]) := by
  cases e with
  | tickForWorker config workerId => exact absurd rfl (he config workerId)
  | executeExecution doStage doSubmit requiredCapabilities =>
      exact requests_widen
        (requests_executeExecution executionId doStage doSubmit requiredCapabilities) (by simp)
  | retryExecution reason requiredCapabilities =>
      exact requests_bind (by simp) fun _ => trivial
  | patchExecution => exact requests_widen requests_patchExecution (by simp)
  | cancelByOperator => exact requests_widen requests_cancelByOperator (by simp)
  | abandonExecutionSubmission input evidence =>
      change (Beampipe.abandonExecutionSubmission input evidence).Requests _
      unfold Beampipe.abandonExecutionSubmission
      split
      · trivial
      · exact requests_bind (by simp) fun _ => trivial

/-- **Every program stays inside the table.** -/
theorem requests_program (e : Entry) : (e.program executionId).Requests Request.Issued := by
  cases e with
  | tickForWorker config workerId => exact requests_tickForWorker config executionId workerId
  | _ => exact (requests_command executionId fun _ _ => by simp).mono fun _ h => h.1

end Processes

end Beampipe
