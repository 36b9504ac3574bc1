/-
Workers that a retry has left behind.

A worker reads the retry generation of its execution once and compares it with nothing afterwards.
Its lease does not fence the transactions on the execution, so once it has lost the lease and the
execution has been retried, what keeps it from the new generation is only what each of its
transactions finds: a terminal row ignores a state patch, a held submission is not taken again.  A
retried row is neither, so a stale worker can take the submission of the generation after its own:
`Beampipe.stale_worker_takes_retried_submission` is such a run.

Where every transaction of a stale worker meets a guard that stops it, the rest follows: nothing it
does takes effect, and what is submitted for a generation has been prepared in that generation.

Main definitions:

* `Beampipe.Local.stale` — the process has read a generation before the present one;
* `Beampipe.World.StaleExcluded` — the property;
* `Beampipe.Tx.stopped` — the guards of the transactions of an execute job;
* `Beampipe.staleOutline` — the outline that carries the invariant.

Main results:

* `Beampipe.Tx.run_of_stopped` — a guard that stops a transaction leaves the store alone;
* `Beampipe.submits_prepared` — in every run a worker submits what it has prepared;
* `Beampipe.stale_excluded` — **the property holds in every run in which stale workers are stopped**;
* `Beampipe.stale_worker_takes_retried_submission` — and fails in a run in which one is not.
-/

import Beampipe.SubmissionOnce

set_option relaxedAutoImplicit false
set_option autoImplicit false

namespace Beampipe

/-! ### The property -/

/-- The process runs an execute job whose generation a retry has left behind. -/
def Local.stale (l : Local) (s : Store) : Bool :=
  l.prepared.generation.any fun g => decide (g < s.row.retryCount)

/-- Stale workers are excluded: none of their steps takes effect on the execution, none of them is
granted a submission, and a submission is begun for the generation it has been prepared in. -/
structure World.StaleExcluded (w : World) : Prop where
  execute : ∀ e ∈ w.log, e.loc.stale e.before → e.request.site ∈ executeSites → e.after = e.before
  unchanged : ∀ e ∈ w.log, e.loc.stale e.before → e.after = { e.before with queue := e.after.queue }
  begun : ∀ e ∈ w.log, e.loc.stale e.before → e.began = none
  submission : ∀ e ∈ w.log, ∀ site attempt manifest graph deadline,
    e.request = .ask site (.submit attempt manifest graph deadline) →
      ∃ g, e.loc.grant = some g ∧ e.loc.prepared = ⟨some g, some manifest, some graph⟩ ∧
        (attempt = none ∨ attempt = some g)

/-! ### The guards -/

/-- The transaction of an execute job is stopped by its own guard, or it only reads. -/
def Tx.stopped (s : Store) : Tx → Bool
  | .getExecution | .selectSourceRegistry | .listArchiveMetadataForSources => true
  | .applyExecutionPatch patch =>
      patch.status.any fun next =>
        !s.row.status.isLockedTerminal && next != s.row.status && !s.row.status.allows next
  | .applyExecutionStatePatch _ => s.row.status.isTerminal
  | .storeExecutionArtifact artifact => (s.findArtifact artifact.kind artifact.sha256).isSome
  | .beginExecutionSubmission _ =>
      s.row.status.isTerminal || s.row.submissionState.holdsAutomaticWork
  | .recordSubmissionReceipt input =>
      s.row.intentConflicts input ||
        (s.row.submissionState != .inFlight && s.row.submissionState != .uncertain) ||
        s.artifacts.any fun artifact => artifact.kind == "physical_graph"
  | .finalizeSuccessfulExecutionSources =>
      s.row.status != .completed && s.row.status != .notSubmitted
  -- nothing stops the digests of a manifest, the marking of sources, and whatever else there is
  | _ => false

section Stopped

variable {ids : FreshIds} {locked : List Uuid} {s s' : Store} {t : Tx} {result : t.Result}

/-- A stopped transaction leaves the store alone. -/
theorem Tx.run_of_stopped (hstopped : t.stopped s) (h : t.run ids locked s = .ok (s', result)) :
    s' = s := by
  cases t with
  | getExecution | selectSourceRegistry | listArchiveMetadataForSources =>
      cases h
      rfl
  | applyExecutionPatch patch =>
      obtain ⟨hpatch, -⟩ := Store.applyExecutionPatch_cases (Tx.run_applyExecutionPatch h)
      obtain ⟨next, hnext, -, -⟩ := ExecutionRow.applyPatch_cases hpatch
      simp only [stopped] at hstopped
      rcases ExecutionRow.effectiveStatus_cases hnext with
        ⟨-, hnone | hlocked⟩ | ⟨-, status, hstatus, hallowed⟩
      · simp [hnone] at hstopped
      · cases hstatus : patch.status <;> simp [hstatus, hlocked] at hstopped
      · simp only [hstatus, Option.any_some, Bool.and_eq_true, bne_iff_ne, ne_eq,
          Bool.not_eq_true'] at hstopped
        rcases hallowed with rfl | hallowed
        · exact absurd rfl hstopped.1.2
        · rw [hallowed] at hstopped
          cases hstopped.2
  | applyExecutionStatePatch patch =>
      rcases Store.applyExecutionStatePatchWithTransition_cases
          (Tx.run_applyExecutionStatePatch h) with
        ⟨-, rfl, -⟩ | ⟨hlive, -⟩
      · rfl
      · simp only [stopped, hlive] at hstopped
        cases hstopped
  | storeExecutionArtifact artifact =>
      change s.storeExecutionArtifact ids.first artifact = .ok (s', result) at h
      obtain ⟨existing, hfound⟩ := Option.isSome_iff_exists.mp hstopped
      simp only [Store.storeExecutionArtifact, hfound] at h
      split at h <;> cases h
      rfl
  | beginExecutionSubmission intent =>
      rcases (Store.beginExecutionSubmission_cases (Tx.run_beginExecutionSubmission h)).2 with
        ⟨-, rfl, -⟩ | ⟨hlive, hfree, -⟩
      · rfl
      · simp [stopped, hlive, hfree] at hstopped
  | recordSubmissionReceipt input =>
      obtain ⟨-, hconflict, hcases⟩ :=
        Store.recordSubmissionReceipt_cases (Tx.run_recordSubmissionReceipt h)
      rcases hcases with ⟨rfl, -⟩ | ⟨hopen, -, hevidence, -⟩
      · rfl
      · -- the receipt has met an unresolved submission without evidence, so nothing stopped it
        have hnone : (s.artifacts.any fun artifact => artifact.kind == "physical_graph") = false := by
          simpa using hevidence
        simp only [stopped, hconflict, hnone] at hstopped
        rcases hopen with hopen | hopen <;> simp [hopen] at hstopped
  | finalizeSuccessfulExecutionSources =>
      simp only [stopped, Bool.and_eq_true, bne_iff_ne, ne_eq] at hstopped
      have hs' : s' = s.finalizeSuccessfulExecutionSources.1 :=
        (congrArg Prod.fst (Except.ok.inj h)).symm
      rw [hs']
      simp [Store.finalizeSuccessfulExecutionSources, hstopped]
  | _ => cases hstopped

/-- What a worker does around its job concerns the queue. -/
theorem Tx.run_tickForWorker (hissued : t.IssuedAt .tickForWorker)
    (h : t.run ids locked s = .ok (s', result)) : s' = { s with queue := s'.queue } := by
  cases t with
  | getExecution | selectSourceRegistry | listArchiveMetadataForSources
  | latestSubmissionIntentObservation | listSlurmExecutionsPendingPoll
  | listSlurmExecutionsPendingOutputInventory | listSlurmSubmissionsPendingReconciliation
  | listRestExecutionsPendingPoll | getJobByIdempotencyKey key
  | claimNextJobForWorker workerId workerPool lockSeconds | completeJobWithLease lease
  | rescheduleRecurringJobWithLease lease delaySecs
  | failJobPermanentlyWithLease lease error failureClass
  | failOrRetryJobWithLease lease error failureClass retryDelaySeconds =>
      cases h
      rfl
  | _ => simp at hissued

/-- The retry count never goes down. -/
theorem Tx.run_retryCount_le {site : Site} (hissued : t.IssuedAt site)
    (hbound : s.row.retryCount ≤ 2147483647) (h : t.run ids locked s = .ok (s', result)) :
    s.row.retryCount ≤ s'.row.retryCount ∧ s'.row.retryCount ≤ 2147483647 := by
  rcases Tx.run_submission hissued h with ⟨hkeep, -⟩ | ⟨hretry, -, -⟩
  · rw [hkeep]
    exact ⟨le_rfl, hbound⟩
  · rw [hretry]
    unfold nextRetryCount
    omega

end Stopped

/-! ### What a worker submits -/

/-- A submission fits what its process has prepared. -/
def Prepared.Fits (p : Prepared) : Request → Prop
  | .ask _ (.submit attempt manifest graph _) =>
      p.manifest = some manifest ∧ p.graph = some graph ∧ (attempt = none ∨ attempt = p.generation)
  | _ => True

/-- The program submits what it has prepared. -/
abbrev SubmitsPrepared {α : Type} (p : Exec α) (before : Prepared) (Q : α → Prepared → Prop) : Prop :=
  p.wp Prepared.after Prepared.Fits Q (fun _ _ => True) before

namespace SubmitsPrepared

variable {α : Type} {p : Exec α} {prepared : Prepared}

theorem Request.fits_of_submits {r : Request} (h : r.submits = false) : prepared.Fits r := by
  cases r with
  | tx site t => trivial
  | ask site question =>
      cases question with
      | submit attempt manifest graph deadline => cases h
      | _ => trivial

/-- The generation is read once. -/
theorem after_generation {r : Request} (h : r.site ≠ .runExecute) (answer : r.Answer) :
    (prepared.after r answer).generation = prepared.generation := by
  unfold Prepared.after
  split
  · exact absurd rfl h
  · rfl
  · split <;> rfl
  · rfl

/-- A program that submits nothing. -/
theorem of_requests (hp : p.Requests fun r => r.submits = false) :
    SubmitsPrepared p prepared fun _ _ => True :=
  Programs.Prog.wp_mono
    (Programs.Prog.wp_of_requests (K := fun _ => True) hp
      (fun _ _ hr _ => Request.fits_of_submits hr) (fun _ _ _ _ _ => trivial) trivial)
    (fun _ _ _ => trivial) fun _ _ _ => trivial

/-- A program that issues nothing from where a submission is made. -/
theorem of_issuedIn (sites : List Site) (hp : p.Requests (Request.IssuedIn sites))
    (hout : .runSubmitPhase ∉ sites) : SubmitsPrepared p prepared fun _ _ => True := by
  refine of_requests (hp.mono fun r hr => Request.submits_of_site hr.1 fun hsite => ?_)
  rw [← hsite] at hout
  exact hout hr.2

/-- A part of an execute job before its submission keeps the generation. -/
theorem of_body (hp : p.Requests (Request.IssuedIn [.runExecuteBody])) :
    SubmitsPrepared p prepared fun _ after => after.generation = prepared.generation := by
  have hsite : ∀ r : Request, r.IssuedIn [.runExecuteBody] → r.site = .runExecuteBody :=
    fun r hr => by simpa using hr.2
  refine Programs.Prog.wp_mono (Programs.Prog.wp_of_requests
    (K := fun after => after.generation = prepared.generation) hp (fun r s hr _ => ?_)
    (fun r answer s hr hs => ?_) rfl) (fun _ _ h => h) fun _ _ _ => trivial
  · refine Request.fits_of_submits (Request.submits_of_site hr.1 ?_)
    rw [hsite r hr]
    decide
  · rw [after_generation (by rw [hsite r hr]; decide)]
    exact hs

/-- A program whose answers add nothing. -/
theorem of_unchanged
    (hp : p.Requests fun r =>
      r.submits = false ∧ ∀ before answer, Prepared.after before r answer = before) :
    SubmitsPrepared p prepared fun _ after => after = prepared := by
  refine Programs.Prog.wp_mono (Programs.Prog.wp_of_requests (K := fun after => after = prepared) hp
    (fun r _ hr _ => Request.fits_of_submits hr.1) (fun r answer before hr hbefore => ?_) rfl)
    (fun _ _ h => h) fun _ _ _ => trivial
  rw [hr.2, hbefore]

/-- One transaction. -/
theorem of_tx {site : Site} {t : Tx} {Q : t.Result → Prepared → Prop}
    (h : ∀ result, Q result (prepared.after (.tx site t) (.ok result))) :
    SubmitsPrepared (tx site t) prepared Q := by
  refine ⟨trivial, fun answer => ?_⟩
  cases answer with
  | ok result => exact h result
  | error message => trivial

theorem of_orFail (x : Except String α) :
    SubmitsPrepared (orFail x) prepared fun _ after => after = prepared := by
  cases x with
  | ok a => rfl
  | error message => trivial

theorem ensureExecutionActive :
    SubmitsPrepared (Beampipe.ensureExecutionActive false) prepared
      fun _ after => after = prepared := by
  refine of_unchanged (Programs.Prog.requests_bind (requests_tx.2 ⟨rfl, fun _ _ => rfl⟩)
    fun current => ?_)
  split <;> trivial

variable (config : WorkerConfig) (execution : ExecutionRow) (setup : ExecutionSetup)

theorem persistExecutionArtifacts (manifest : Json) (graphs : Json × Json) :
    SubmitsPrepared (Beampipe.persistExecutionArtifacts execution manifest graphs) prepared
      fun _ after => after.generation = prepared.generation ∧ after.graph = some graphs.2 := by
  unfold Beampipe.persistExecutionArtifacts
  refine Programs.Prog.wp_bind (of_body (requests_persistInlineJsonArtifact _ _ _ _))
    fun manifestSha256 first hfirst => ?_
  refine Programs.Prog.wp_bind (of_body (requests_persistInlineJsonArtifact _ _ _ _))
    fun sourceGraphSha256 second hsecond => ?_
  refine Programs.Prog.wp_bind (R := fun _ after =>
    after.generation = prepared.generation ∧ after.graph = some graphs.2) ?_ fun _ third hthird => ?_
  · refine Programs.Prog.wp_bind (R := fun _ after =>
      after.generation = prepared.generation ∧ after.graph = some graphs.2)
      (of_tx fun _ => ⟨hsecond.trans hfirst, rfl⟩) fun _ after h => ?_
    exact h
  · exact of_tx fun _ => hthird

/-- The submission, once manifest and graph are prepared. -/
theorem runSubmitPhase (useReal : Bool) (manifest graph : Json)
    (hprepared : prepared = ⟨some execution.retryCount, some manifest, some graph⟩) :
    SubmitsPrepared (Beampipe.runSubmitPhase config execution setup useReal manifest graph) prepared
      fun _ _ => True := by
  unfold Beampipe.runSubmitPhase
  refine Programs.Prog.wp_bind (of_orFail _) fun fingerprint first hfirst => ?_
  refine Programs.Prog.wp_bind (R := fun _ after => after = prepared)
    (of_tx fun _ => hfirst) fun taken second hsecond => ?_
  cases taken with
  | none => trivial
  | some deadline =>
      rw [hsecond, hprepared]
      refine Programs.Prog.wp_bind (R := fun _ _ => True) ⟨⟨rfl, rfl, ?_⟩, fun _ => trivial⟩
        fun outcome after _ => ?_
      · -- the publication attempt is the retry count of the row that was read
        split
        · exact .inr rfl
        · exact .inl rfl
      · cases outcome with
        | submitted receipt =>
            exact of_issuedIn _ (requests_applySubmitResult execution _ _ _) (by decide)
        | failed error | uncertain error | timedOut error =>
            exact of_requests (Programs.Prog.requests_bind (requests_tx.2 rfl) fun _ => trivial)

theorem prepareAndSubmit (payload : ExecutePayload) (replayManifest : Bool)
    (hprepared : prepared.generation = some execution.retryCount) :
    SubmitsPrepared
      (Beampipe.prepareAndSubmit config execution setup payload replayManifest) prepared
      fun _ _ => True := by
  unfold Beampipe.prepareAndSubmit
  refine Programs.Prog.wp_bind (of_body (requests_executeManifest execution replayManifest))
    fun manifest first hfirst => ?_
  refine Programs.Prog.wp_bind (of_body (by simp [Request.Issued])) fun answer second hsecond => ?_
  refine Programs.Prog.wp_bind (of_orFail answer) fun graphs third hthird => ?_
  refine Programs.Prog.wp_bind (persistExecutionArtifacts execution manifest graphs)
    fun _ fourth hfourth => ?_
  have hgeneration : fourth.generation = some execution.retryCount := by
    rw [hfourth.1, hthird, hsecond, hfirst, hprepared]
  refine Programs.Prog.wp_bind (R := fun _ after => after = fourth) (of_tx fun _ => rfl)
    fun _ fifth hfifth => ?_
  split
  · refine Programs.Prog.wp_bind (R := fun _ after =>
      after = ⟨some execution.retryCount, some manifest, some graphs.2⟩) (of_tx fun _ => ?_)
      fun _ sixth hsixth => ?_
    · rw [hfifth, ← hgeneration, ← hfourth.2]
      rfl
    · exact Programs.Prog.wp_bind ensureExecutionActive fun _ seventh hseventh =>
        runSubmitPhase config execution setup _ manifest graphs.2 (hseventh.trans hsixth)
  · exact of_issuedIn _ (requests_finishNotSubmitted manifest) (by decide)

theorem runExecuteBody (payload : ExecutePayload)
    (hprepared : prepared.generation = some execution.retryCount) :
    SubmitsPrepared (Beampipe.runExecuteBody config execution payload) prepared
      fun _ _ => True := by
  unfold Beampipe.runExecuteBody
  split
  · trivial
  -- up to admission the job keeps the generation it has read
  let K (after : Prepared) : Prop := after.generation = some execution.retryCount
  have hbody : ∀ {α : Type} {p : Exec α} {before : Prepared},
      p.Requests (Request.IssuedIn [.runExecuteBody]) → K before →
      SubmitsPrepared p before fun _ => K :=
    fun hp hbefore => Programs.Prog.wp_mono (of_body hp)
      (fun _ _ h => h.trans hbefore) fun _ _ h => h
  refine Programs.Prog.wp_bind (hbody (by simp [Request.Issued]) hprepared) fun answer s1 h1 => ?_
  refine Programs.Prog.wp_bind (hbody (requests_orFail answer) h1) fun setup s2 h2 => ?_
  refine Programs.Prog.wp_bind (hbody (requests_orFail _) h2) fun _ s3 h3 => ?_
  refine Programs.Prog.wp_bind (hbody (requests_ensureExecutionActive true) h3) fun _ s4 h4 => ?_
  refine Programs.Prog.wp_bind (hbody (by simp [Tx.IssuedAt]) h4) fun archive s5 h5 => ?_
  refine Programs.Prog.wp_bind (hbody (by simp [Request.Issued]) h5) fun answer s6 h6 => ?_
  refine Programs.Prog.wp_bind (hbody (requests_orFail answer) h6) fun _ s7 h7 => ?_
  refine Programs.Prog.wp_bind (hbody (by simp [Request.Issued]) h7) fun answer s8 h8 => ?_
  refine Programs.Prog.wp_bind (hbody (requests_orFail answer) h8) fun _ s9 h9 => ?_
  refine Programs.Prog.wp_bind (hbody (requests_admitExecution execution _) h9) fun _ s10 h10 => ?_
  exact prepareAndSubmit config execution setup payload _ h10

theorem runExecute (payload : ExecutePayload) :
    SubmitsPrepared (Beampipe.runExecute config payload) prepared fun _ _ => True := by
  unfold Beampipe.runExecute
  refine Programs.Prog.wp_bind (R := fun row after => after.generation = some row.retryCount)
    (of_tx fun row => rfl) fun row first hfirst => ?_
  split
  · trivial
  refine Programs.Prog.wp_bind (R := fun _ _ => True) ?_ fun outcome after _ => ?_
  · exact Programs.Prog.wp_attempt (runExecuteBody config row payload hfirst)
  · cases outcome with
    | ok _ => trivial
    | error failure =>
        cases failure with
        | panic => trivial
        | error message =>
            exact of_issuedIn _ (requests_executeErrorArm message) (by decide)

/-- Every process. -/
theorem program (executionId : Uuid) (e : Entry) :
    SubmitsPrepared (e.program executionId) prepared fun _ _ => True := by
  have hclose : ∀ {p : Exec Unit} {before : Prepared}, p.Requests (fun r => r.closesJob) →
      SubmitsPrepared p before fun _ _ => True := by
    refine fun hp => of_requests (hp.mono fun r hr => ?_)
    obtain ⟨hissued, hsite⟩ := Request.site_of_closesJob hr
    exact Request.submits_of_site hissued (by rw [hsite]; decide)
  have hother : ∀ {before : Prepared}, SubmitsPrepared otherJob before fun _ _ => True :=
    of_requests (requests_otherJob.mono fun r hr =>
      Request.submits_of_site hr.1 (by rw [hr.2.1]; decide))
  by_cases htick : ∃ config workerId, e = .tickForWorker config workerId
  · obtain ⟨config, workerId, rfl⟩ := htick
    refine Programs.Prog.wp_bind (of_issuedIn [.tickForWorker] (by simp) (by decide))
      fun claimed after _ => ?_
    split
    · trivial
    next job =>
      unfold runClaimedJob
      split
      · trivial
      refine Programs.Prog.wp_bind (R := fun _ _ => True) (Programs.Prog.wp_attempt ?_)
        fun outcome after _ => ?_
      · unfold dispatch
        split
        · split
          · exact runExecute config _
          · exact hother
        · split
          · exact of_issuedIn _ (requests_runDimPoll config _) (by decide)
          · exact hother
        · exact of_issuedIn _ (requests_runDimPollTick config) (by decide)
        · exact of_issuedIn _ (requests_runSlurmPollTick config) (by decide)
        all_goals exact hother
      · split
        · exact hclose (requests_closeSucceeded job _)
        · exact hclose (requests_closeFailed job _ _)
        · trivial
  · have hcommand := requests_command executionId fun config workerId h =>
      htick ⟨config, workerId, h⟩
    exact of_issuedIn _ hcommand (by decide)

end SubmitsPrepared

/-- **In every run a worker submits what it has prepared**: the manifest it has put into the row and
the graph it has stored since it has read the row, under the attempt of the generation it has read. -/
theorem submits_prepared (executionId : Uuid) (s : Store) (labels : List ExecutionLabel) :
    ∀ e ∈ (Runs.exec (executionSystem executionId).step (Programs.System.init ⟨s, []⟩)
      labels).shared.log, e.loc.prepared.Fits e.request := by
  refine Programs.System.exec_wp (I := fun w : World => ∀ e ∈ w.log, e.loc.prepared.Fits e.request)
    (φ := Prepared.Fits) Local.prepared (fun pid r i l w => ?_)
    (SubmitsPrepared.program executionId) (fun pid r i l w hlog hfits e he => ?_)
    (fun e w h => h) (by simp) labels
  · cases r <;> rfl
  · rcases List.mem_append.mp he with hold | hnew
    · exact hlog e hold
    · obtain rfl := List.mem_singleton.mp hnew
      simpa using hfits

/-! ### The invariant -/

/-- What the log shows, apart from what a submission carries. -/
structure StaleInv (w : World) : Prop where
  bound : w.store.row.retryCount ≤ 2147483647
  execute : ∀ e ∈ w.log, e.loc.stale e.before → e.request.site ∈ executeSites → e.after = e.before
  unchanged : ∀ e ∈ w.log, e.loc.stale e.before → e.after = { e.before with queue := e.after.queue }
  begun : ∀ e ∈ w.log, e.loc.stale e.before → e.began = none
  granted : ∀ e ∈ w.log, e.submits →
    ∃ g, e.loc.grant = some g ∧ e.loc.prepared.generation = some g

/-- The generation a process has read has been reached, and what it has taken belongs to it. -/
structure Current (l : Local) (w : World) : Prop where
  reached : ∀ g, l.prepared.generation = some g → g ≤ w.store.row.retryCount
  own : ∀ g, l.grant = some g → l.prepared.generation = some g

/-- A transaction of a stale worker meets a guard that stops it. -/
def Request.stopsStale (s : Store) (l : Local) : Request → Prop
  | .tx site t => l.stale s → site ∈ executeSites → t.stopped s
  | .ask _ _ => True

instance (s : Store) (l : Local) (r : Request) : Decidable (r.stopsStale s l) :=
  match r with
  | .tx site t => inferInstanceAs (Decidable (l.stale s → site ∈ executeSites → t.stopped s))
  | .ask _ _ => isTrue trivial

/-- The outline: an execute job reads its generation first, takes and begins its submission in it,
and issues nothing but its own requests until it is closed. -/
def staleOutline : ExecutionOutline where
  perform := performRequest
  inv := StaleInv
  assertion _ r l w :=
    r.Issued ∧ Current l w ∧
      (l.prepared.generation.isSome → r.closesJob ∨ r.site ∈ executeSites) ∧
      (r.site = .runExecute → l.prepared.generation = none) ∧
      (r.site ∈ executeSites → r.site ≠ .runExecute → l.prepared.generation.isSome) ∧
      (r.submits → l.grant.isSome)
  guard _ r _ l w := r.stopsStale w.store l

theorem submitSite_mem : Site.runSubmitPhase ∈ executeSites := by decide

section Step

variable {pid : ℕ} {r : Request} {i : Choice} {l : Local} {w : World}

/-- The generation that is read is the one the execution has reached. -/
theorem prepared_after_cases (i : Choice) (l : Local) (w : World) (r : Request) :
    (l.prepared.after r (i.answerTo w.store r)).generation = l.prepared.generation ∨
      r.site = .runExecute ∧
        (l.prepared.after r (i.answerTo w.store r)).generation = some w.store.row.retryCount := by
  cases hanswer : r.site == .runExecute with
  | false => exact .inl (SubmitsPrepared.after_generation (by simpa using hanswer) _)
  | true =>
      cases r with
      | ask site question => exact .inl rfl
      | tx site t =>
          obtain rfl : site = .runExecute := by simpa using hanswer
          cases t with
          | getExecution =>
              have hafter : ∀ answer : Request.Answer (.tx .runExecute .getExecution),
                  answer = (i.transact .getExecution w.store).1 →
                  (l.prepared.after _ answer).generation = l.prepared.generation ∨
                    (l.prepared.after _ answer).generation = some w.store.row.retryCount := by
                intro answer hanswer
                cases answer with
                | error message => exact .inl rfl
                | ok row =>
                    have hrow : w.store.row = row :=
                      congrArg Prod.snd (Except.ok.inj (Choice.run_of_transact_ok hanswer.symm))
                    rw [hrow]
                    exact .inr rfl
              rcases hafter _ rfl with hsame | hread
              · exact .inl hsame
              · exact .inr ⟨rfl, hread⟩
          | _ => exact .inl rfl

theorem generation_perform (hsite : r.site ≠ .runExecute) :
    (performRequest pid r i l w).2.1.prepared.generation = l.prepared.generation := by
  refine Eq.trans ?_ (SubmitsPrepared.after_generation hsite (i.answerTo w.store r))
  cases r <;> rfl

/-- A submission is granted to a process of the present generation. -/
theorem began_current {g : ℕ} (hassert : staleOutline.assertion pid r l w)
    (hguard : r.stopsStale w.store l)
    (hbegan : (Event.of pid l i w.store r).began = some g) : l.prepared.generation = some g := by
  obtain ⟨hissued, hcurrent, -, -, hread, -⟩ := hassert
  cases r with
  | ask site question => cases hbegan
  | tx site t =>
      obtain ⟨⟨intent, rfl⟩, rfl, hlive, hfree, -, -⟩ := Event.began_of_tx hbegan
      obtain rfl : site = .runSubmitPhase := hissued.1
      obtain ⟨g, hg⟩ := Option.isSome_iff_exists.mp (hread submitSite_mem (by simp))
      have hle := hcurrent.reached g hg
      rcases hle.lt_or_eq with hlt | heq
      · -- nothing has stopped the transaction, so its process is not stale
        have hstopped := hguard (by simp [Local.stale, hg, hlt]) submitSite_mem
        simp [Tx.stopped, hlive, hfree] at hstopped
      · rw [hg, heq]

/-- No step of a process puts the retry count back. -/
theorem retryCount_perform_le (hissued : r.Issued) (hinv : StaleInv w) :
    w.store.row.retryCount ≤ (performRequest pid r i l w).2.2.store.row.retryCount ∧
      (performRequest pid r i l w).2.2.store.row.retryCount ≤ 2147483647 := by
  cases r with
  | ask site question => exact ⟨le_rfl, hinv.bound⟩
  | tx site t =>
      change _ ≤ (i.transact t w.store).2.row.retryCount ∧
        (i.transact t w.store).2.row.retryCount ≤ _
      rcases i.transact_cases t w.store with ⟨-, hsame⟩ | ⟨s', result, hrun, hs', -⟩
      · rw [hsame]
        exact ⟨le_rfl, hinv.bound⟩
      · rw [hs']
        exact Tx.run_retryCount_le hissued.1 hinv.bound hrun

theorem current_step (hinv : StaleInv w) (hassert : staleOutline.assertion pid r l w)
    (hguard : r.stopsStale w.store l) :
    Current (performRequest pid r i l w).2.1 (performRequest pid r i l w).2.2 := by
  have hle : w.store.row.retryCount ≤ (performRequest pid r i l w).2.2.store.row.retryCount :=
    (retryCount_perform_le hassert.1 hinv).1
  have hgeneration : (performRequest pid r i l w).2.1.prepared.generation =
      (l.prepared.after r (i.answerTo w.store r)).generation := by cases r <;> rfl
  refine ⟨fun g hg => ?_, fun g hg => ?_⟩
  · rw [hgeneration] at hg
    rcases prepared_after_cases i l w r with hsame | ⟨-, hread⟩
    · exact (hassert.2.1.reached g (hsame ▸ hg)).trans hle
    · rw [hread] at hg
      exact (Option.some.inj hg) ▸ hle
  · rw [hgeneration]
    have hg' : (if r.submits then none
        else (Event.of pid l i w.store r).began <|> l.grant) = some g := by
      simpa [performRequest, Local.after, Event.submits] using hg
    have hgrant : (Event.of pid l i w.store r).began = some g ∨ l.grant = some g := by
      cases hsubmits : r.submits with
      | true => simp [hsubmits] at hg'
      | false =>
          cases hbegan : (Event.of pid l i w.store r).began <;> simp_all
    have hold : l.prepared.generation = some g := by
      rcases hgrant with hbegan | hold
      · exact began_current hassert hguard hbegan
      · exact hassert.2.1.own g hold
    rcases prepared_after_cases i l w r with hsame | ⟨hsite, -⟩
    · rw [hsame, hold]
    · rw [hassert.2.2.2.1 hsite] at hold
      cases hold

/-- The event of a step meets what the log shows. -/
theorem StaleInv.step (hinv : StaleInv w) (hassert : staleOutline.assertion pid r l w)
    (hguard : r.stopsStale w.store l) : StaleInv (performRequest pid r i l w).2.2 := by
  obtain ⟨hissued, hcurrent, hplace, -, -, hgrant⟩ := id hassert
  have hstopped : l.stale w.store → r.site ∈ executeSites →
      (Event.of pid l i w.store r).after = w.store := by
    intro hstale hsite
    cases r with
    | ask site question => rfl
    | tx site t =>
        rcases i.transact_cases t w.store with ⟨-, hsame⟩ | ⟨s', result, hrun, hs', -⟩
        · exact hsame
        · exact hs'.trans (Tx.run_of_stopped (hguard hstale hsite) hrun)
  refine ⟨(retryCount_perform_le hissued hinv).2, ?_, ?_, ?_, ?_⟩
  all_goals
    intro e he
    rcases List.mem_append.mp he with hold | hnew
  · exact hinv.execute e hold
  · obtain rfl := List.mem_singleton.mp hnew
    simpa using hstopped
  · exact hinv.unchanged e hold
  · obtain rfl := List.mem_singleton.mp hnew
    simp only [Event.of_loc, Event.of_before]
    intro hstale
    have hsome : l.prepared.generation.isSome := by
      cases hg : l.prepared.generation <;> simp_all [Local.stale]
    rcases hplace hsome with hcloses | hsite
    · -- the end of a job concerns the queue
      cases r with
      | ask site question => rfl
      | tx site t =>
          obtain rfl : site = .tickForWorker := (Request.site_of_closesJob hcloses).2
          change (i.transact t w.store).2 = { w.store with queue := (i.transact t w.store).2.queue }
          rcases i.transact_cases t w.store with ⟨-, hsame⟩ | ⟨s', result, hrun, hs', -⟩
          · rw [hsame]
          · rw [hs']
            exact Tx.run_tickForWorker hissued.1 hrun
    · rw [hstopped hstale hsite]
  · exact hinv.begun e hold
  · obtain rfl := List.mem_singleton.mp hnew
    simp only [Event.of_loc, Event.of_before]
    intro hstale
    cases hbegan : (Event.of pid l i w.store r).began with
    | none => rfl
    | some g =>
        have hg := began_current hassert hguard hbegan
        have hretry : g = w.store.row.retryCount := by
          cases r with
          | ask site question => cases hbegan
          | tx site t => exact (Event.began_of_tx hbegan).2.1
        simp [Local.stale, hg, hretry] at hstale
  · exact hinv.granted e hold
  · obtain rfl := List.mem_singleton.mp hnew
    intro hsubmits
    have hr : r.submits := by simpa [Event.submits] using hsubmits
    obtain ⟨g, hg⟩ := Option.isSome_iff_exists.mp (hgrant hr)
    simpa using ⟨g, hg, hcurrent.own g hg⟩

end Step

/-! ### The programs -/

section Programs

variable {pid : ℕ} {α : Type} {p : Exec α}

/-- What holds of a process that has not read a generation. -/
def Unread (l : Local) (w : World) : Prop := Current l w ∧ l.prepared.generation = none

/-- What holds of a process that has. -/
def Read (l : Local) (w : World) : Prop := Current l w ∧ l.prepared.generation.isSome

/-- A process that is at other requests than those of an execute job has read no generation. -/
theorem stale_unread
    (hp : p.Requests fun r => r.Issued ∧ r.site ∉ executeSites ∧ r.closesJob = false) :
    staleOutline.Triple pid Unread p (fun _ => Unread) fun _ => Unread := by
  have hsite : ∀ {r : Request} {site : Site}, r.site ∉ executeSites → site ∈ executeSites →
      r.site ≠ site := fun hout hin h => hout (h ▸ hin)
  refine Programs.Outline.triple_of_requests hp
    (fun r l w hr _ h => ⟨hr.1, h.1, ?_, fun _ => h.2, fun hin => absurd hin hr.2.1, ?_⟩)
    fun r i l w hr hinv hassert hguard _ => ⟨current_step hinv hassert hguard, ?_⟩
  · simp [h.2]
  · rw [Request.submits_of_site hr.1 (hsite hr.2.1 (by decide))]
    simp
  · have hnone : l.prepared.generation = none := by
      cases hgeneration : l.prepared.generation with
      | none => rfl
      | some g =>
          rcases hassert.2.2.1 (by simp [hgeneration]) with hcloses | hexecute
          · rw [hr.2.2] at hcloses
            cases hcloses
          · exact absurd hexecute hr.2.1
    exact (generation_perform (hsite hr.2.1 (by decide))).trans hnone

/-- The requests of an execute job after its read, apart from those of the submission. -/
theorem stale_read (hp : p.Requests fun r =>
      r.Issued ∧ r.site ∈ executeSites ∧ r.site ≠ .runExecute ∧ r.submits = false) :
    staleOutline.Triple pid Read p (fun _ => Read) fun _ => Read := by
  refine Programs.Outline.triple_of_requests hp
    (fun r l w hr _ h => ⟨hr.1, h.1, fun _ => .inr hr.2.1, fun heq => absurd heq hr.2.2.1,
      fun _ _ => h.2, by simp [hr.2.2.2]⟩)
    fun r i l w hr hinv hassert hguard _ => ⟨current_step hinv hassert hguard, ?_⟩
  change (performRequest pid r i l w).2.1.prepared.generation.isSome
  rw [generation_perform hr.2.2.1]
  exact hassert.2.2.2.2.1 hr.2.1 hr.2.2.1

/-- The end of a job. -/
theorem stale_close (hp : p.Requests fun r => r.closesJob) :
    staleOutline.Triple pid Current p (fun _ => Current) fun _ => Current := by
  have hsite : ∀ {r : Request} {site : Site}, r.closesJob → site ∈ executeSites → r.site ≠ site := by
    intro r site hcloses hin h
    rw [← h, (Request.site_of_closesJob hcloses).2] at hin
    exact absurd hin (by decide)
  refine Programs.Outline.triple_of_requests hp
    (fun r l w hr _ h => ⟨(Request.site_of_closesJob hr).1, h, fun _ => .inl hr,
      fun heq => absurd heq (hsite hr (by decide)), fun hin => absurd rfl (hsite hr hin), ?_⟩)
    fun r i l w _ hinv hassert hguard _ => current_step hinv hassert hguard
  rw [Request.submits_of_site (Request.site_of_closesJob hr).1 (hsite hr (by decide))]
  simp

variable (config : WorkerConfig) (execution : ExecutionRow)

theorem stale_runSubmitPhase (setup : ExecutionSetup) (useReal : Bool) (manifest graph : Json) :
    staleOutline.Triple pid Read
      (runSubmitPhase config execution setup useReal manifest graph) (fun _ => Read)
      fun _ => Read := by
  have hpatch : ∀ site patch, patch.IssuedAt site → site ∈ executeSites → site ≠ .runExecute →
      staleOutline.Triple pid Read (tx site (.applyExecutionStatePatch patch)) (fun _ => Read)
        fun _ => Read :=
    fun site patch hissued hin hsite =>
      stale_read (requests_tx.2 ⟨⟨hissued, fun h => absurd h hsite⟩, hin, hsite, rfl⟩)
  have hkeep : ∀ {r : Request} {i : Choice} {l : Local} {w : World}, staleOutline.inv w →
      staleOutline.assertion pid r l w → staleOutline.guard pid r i l w →
      r.site = .runSubmitPhase →
      Read (performRequest pid r i l w).2.1 (performRequest pid r i l w).2.2 := by
    intro r i l w hinv hassert hguard hsite
    refine ⟨current_step hinv hassert hguard, ?_⟩
    rw [generation_perform (by rw [hsite]; decide)]
    exact hassert.2.2.2.2.1 (by rw [hsite]; decide) (by rw [hsite]; decide)
  refine triple_runSubmitPhase (R := fun _ => Read) (G := fun l w => Read l w ∧ l.grant.isSome)
    config execution setup useReal manifest graph (stale_read (requests_orFail _))
    (fun fingerprint => ?_) (fun attempt deadline => ?_) (fun receipt => ?_)
    (fun error => hpatch _ _ ⟨_, _, rfl⟩ (by decide) (by simp))
    fun outcome failureClass error _ => hpatch _ _ ⟨_, _, rfl⟩ (by decide) (by simp)
  · -- what `begin_execution_submission` grants is what the process remembers
    refine triple_tx (fun l w _ h => ⟨by simp, h.1, fun _ => .inr submitSite_mem, by simp,
        fun _ _ => h.2, by simp [Request.submits]⟩)
      (fun i l w taken hinv hassert hguard _ hanswer =>
        ⟨fun _ => hkeep hinv hassert hguard rfl,
          fun htaken => ⟨hkeep hinv hassert hguard rfl, ?_⟩⟩)
      fun i l w message hinv hassert hguard _ _ => hkeep hinv hassert hguard rfl
    obtain ⟨deadline, rfl⟩ := Option.isSome_iff_exists.mp htaken
    exact grant_of_began hanswer
  · exact triple_ask (fun l w _ h => ⟨rfl, h.1.1, fun _ => .inr submitSite_mem, by simp,
        fun _ _ => h.1.2, fun _ => h.2⟩)
      fun i l w hinv hassert hguard _ => hkeep hinv hassert hguard rfl
  · refine stale_read ((requests_applySubmitResult execution _ _ _).mono fun r hr => ?_)
    obtain hsite : r.site = .applySubmitResult := by simpa using hr.2
    exact ⟨hr.1, by rw [hsite]; decide, by rw [hsite]; decide,
      Request.submits_of_site hr.1 (by rw [hsite]; decide)⟩

theorem stale_runExecute (payload : ExecutePayload) :
    staleOutline.Triple pid Unread (runExecute config payload) (fun _ => Current)
      fun _ => Current := by
  have hissued : ∀ {α : Type} (p : Exec α) (sites : List Site),
      p.Requests (Request.IssuedIn sites) →
      (∀ site ∈ sites, site ∈ executeSites ∧ site ≠ .runExecute ∧ site ≠ .runSubmitPhase) →
      staleOutline.Triple pid Read p (fun _ => Read) fun _ => Read :=
    fun p sites hp hsites => stale_read (hp.mono fun r hr =>
      ⟨hr.1, (hsites _ hr.2).1, (hsites _ hr.2).2.1,
        Request.submits_of_site hr.1 (hsites _ hr.2).2.2⟩)
  have hweaken : ∀ {p : Exec Unit} {P : Local → World → Prop},
      staleOutline.Triple pid P p (fun _ => Read) (fun _ => Read) →
      staleOutline.Triple pid P p (fun _ => Current) fun _ => Current :=
    fun h => h.conseq (fun _ _ _ h => h) (fun _ _ _ _ h => h.1) fun _ _ _ _ h => h.1
  refine triple_runExecute (S := fun _ => Read) config payload ?_ (fun row => ?_)
    (fun row error => hweaken (hissued _ _ (requests_executeErrorArm error) (by decide)))
    fun row l w _ h => h.1
  · refine triple_tx (fun l w _ h => ⟨by simp, h.1, by simp [h.2], fun _ => h.2,
        fun _ hne => absurd rfl hne, by simp [Request.submits]⟩)
      (fun i l w row hinv hassert hguard _ hanswer => ?_)
      fun i l w message hinv hassert hguard _ _ => current_step hinv hassert hguard
    have hcurrent : Current (performRequest pid (.tx .runExecute .getExecution) i l w).2.1
        (performRequest pid (.tx .runExecute .getExecution) i l w).2.2 :=
      current_step hinv hassert hguard
    change (i.transact .getExecution w.store).1 = .ok row at hanswer
    have hread : (performRequest pid (.tx .runExecute .getExecution) i l w).2.1.prepared =
        l.prepared.after (.tx .runExecute .getExecution) (i.transact .getExecution w.store).1 := rfl
    rw [hanswer] at hread
    exact ⟨⟨hcurrent, congrArg (fun p : Prepared => p.generation.isSome) hread⟩,
      fun _ => hcurrent, fun _ => hcurrent⟩
  · exact (triple_runExecuteBody config row payload (fun p hp => hissued p _ hp (by decide))
      (fun setup useReal manifest graph =>
        stale_runSubmitPhase config row setup useReal manifest graph)
      fun manifest => hissued _ _ (requests_finishNotSubmitted manifest) (by decide)).conseq
      (fun l w _ h => ⟨h.1, fun _ => h.1⟩) (fun _ _ _ _ h => h.1) fun _ _ _ _ h => h

end Programs

/-! ### Runs -/

theorem staleOutline_obligations (executionId : Uuid) :
    Programs.System.Obligations (executionSystem executionId) staleOutline
      (fun _ _ _ => True) (fun _ _ _ => True)
      (Guarded fun c _ r _ l => r.stopsStale c.shared.store l) where
  perform_eq := rfl
  code pid e := by
    refine (triple_program (F := Unread) (G := Current) executionId (fun p hp => stale_unread hp)
      (fun p hp => stale_close hp) (fun r hr hsite hcloses => ⟨hr, hsite, hcloses⟩)
      (fun _ _ _ h => h.1) (fun config payload => stale_runExecute config payload) e).conseq
      (fun l w _ h => ?_) (fun _ _ _ _ h => h) fun _ _ _ _ h => h
    rw [h]
    exact ⟨⟨fun g hg => (by cases hg), fun g hg => (by cases hg)⟩, rfl⟩
  guard c pid i l r k hC hthread := hC.answered hthread
  inv_step pid r i l w hinv hassert hguard := hinv.step hassert hguard
  inv_environment e w hinv :=
    ⟨hinv.bound, hinv.execute, hinv.unchanged, hinv.begun, hinv.granted⟩
  stable c pid i l r k pid' l' r' k' _ _ _ _ hinv hassert hother :=
    ⟨hother.1, ⟨fun g hg => (hother.2.1.reached g hg).trans
      (retryCount_perform_le hassert.1 hinv).1, hother.2.1.own⟩, hother.2.2⟩
  stable_environment e pid r l w _ hassert :=
    ⟨hassert.1, ⟨hassert.2.1.reached, hassert.2.1.own⟩, hassert.2.2⟩

theorem Store.Created.staleInv {executionId : Uuid} {s : Store} (h : s.Created executionId) :
    StaleInv ⟨s, []⟩ :=
  ⟨by simp [h.row.retryCount], by simp, by simp, by simp, by simp⟩

/-- **Stale workers are excluded.**  In every run in which each transaction of a stale worker meets
a guard that stops it, no step of such a worker takes effect, none takes a submission, and every
submission is begun with the manifest, the graph and the attempt of the generation it is taken for. -/
theorem stale_excluded {executionId : Uuid} {s : Store} (hs : s.Created executionId)
    {labels : List ExecutionLabel}
    (hmeets : Runs.Meets (executionSystem executionId).step
      (Guarded fun c _ r _ l => r.stopsStale c.shared.store l)
      (Programs.System.init ⟨s, []⟩) labels) :
    (Runs.exec (executionSystem executionId).step
      (Programs.System.init ⟨s, []⟩) labels).shared.StaleExcluded := by
  have hinv := (Programs.System.exec_outline (staleOutline_obligations executionId) hs.staleInv
    hmeets).inv
  refine ⟨hinv.execute, hinv.unchanged, hinv.begun, ?_⟩
  intro e he site attempt manifest graph deadline hrequest
  obtain ⟨g, hgrant, hgeneration⟩ := hinv.granted e he
    (by simp [Event.submits, hrequest, Request.submits])
  have hfits := submits_prepared executionId s labels e he
  rw [hrequest] at hfits
  obtain ⟨hmanifest, hgraph, hattempt⟩ := hfits
  refine ⟨g, hgrant, ?_, hgeneration ▸ hattempt⟩
  rw [← hgeneration, ← hmanifest, ← hgraph]

/-- The first worker loses its lease right before the submission; the second one submits, is refused,
and the execution is retried. -/
def retriedRun : List ExecutionLabel :=
  .start 0 (.tickForWorker sampleConfig 1) :: answered 0 0 21 refusingAnswer ++
  .environment (.advanceClock 100000000) ::
  .start 1 (.tickForWorker sampleConfig 2) :: answered 1 0 26 refusingAnswer ++
  .start 2 (.retryExecution "backend restored" fun _ => .ok []) :: answered 2 0 1 refusingAnswer

/-- The worker of the retry submits before the stale worker goes on, which is stopped. -/
theorem stale_excluded_stopped :
    (Runs.exec (executionSystem 1).step (Programs.System.init ⟨sampleStore, []⟩)
      (retriedRun ++ .start 3 (.tickForWorker sampleConfig 3) :: answered 3 0 26 sampleAnswer ++
        answered 0 21 2 sampleAnswer)).shared.StaleExcluded :=
  stale_excluded sampleStore_created (by decide +kernel)

/-- The stale worker goes on first: it takes the submission of the generation after its own, and
begins it with what it has prepared in its own. -/
theorem stale_worker_takes_retried_submission :
    sampleStore.Created 1 ∧
      ¬(Runs.exec (executionSystem 1).step (Programs.System.init ⟨sampleStore, []⟩)
        (retriedRun ++ answered 0 21 2 sampleAnswer)).shared.StaleExcluded := by
  refine ⟨sampleStore_created, fun hexcluded => ?_⟩
  have hbegun : ∃ e ∈ (Runs.exec (executionSystem 1).step
      (Programs.System.init ⟨sampleStore, []⟩)
      (retriedRun ++ answered 0 21 2 sampleAnswer)).shared.log,
      e.loc.stale e.before = true ∧ e.began = some 1 := by decide +kernel
  obtain ⟨e, he, hstale, hbegan⟩ := hbegun
  have hnone := hexcluded.begun e he hstale
  rw [hbegan] at hnone
  cases hnone

end Beampipe
