/-
Receipts and lookups of one submission.

The evidence of a submission arrives in any order and more than once: a receipt from the worker that
has submitted, the same receipt again after its answer was lost, lookups by name before or after it,
a late receipt for an execution that an operator has given up or that has ended otherwise.  Between
two retries all of it only adds to what is recorded.

Main definitions:

* `Beampipe.RepositoryStep.recordsEvidence` — the runs of receipts and lookups;
* `Beampipe.Store.physicalGraphs`, `Beampipe.ExecutionRow.KeepsEvidence` — what may not be lost;
* `Beampipe.Store.Received` — the receipt is recorded;
* `Beampipe.SubmissionReceiptInput.ConflictsWith`.

Main results:

* `Beampipe.Store.Received.of_receipt`, `Beampipe.Store.Received.step` — an accepted receipt is
  recorded, and stays so;
* `Beampipe.Store.Received.replay`, `Beampipe.Store.Received.refused` — what becomes of a second
  receipt;
* `Beampipe.submission_evidence_monotone` — **receipts and lookups are idempotent and monotone.**
-/

import Beampipe.LedgerRuns

set_option relaxedAutoImplicit false
set_option autoImplicit false

namespace Beampipe

/-! ### Runs of receipts and lookups -/

/-- A receipt, a lookup by name, or what happens beside them. -/
def RepositoryStep.recordsEvidence : RepositoryStep → Bool
  | .call _ _ (.recordSubmissionReceipt _) | .call _ _ (.recordSlurmNameLookup _) => true
  | .call _ _ _ => false
  | .outside _ _ => true

/-- The physical graphs of the execution. -/
def Store.physicalGraphs (s : Store) : ℕ :=
  s.artifacts.countP fun artifact => artifact.kind == "physical_graph"

/-- What evidence never takes back: the identifiers of the submission, and a terminal status. -/
structure ExecutionRow.KeepsEvidence (row row' : ExecutionRow) : Prop where
  schedulerJobId : ∀ id, row.schedulerJobId = some id → row'.schedulerJobId = some id
  daliugeSessionId : ∀ id, row.daliugeSessionId = some id → row'.daliugeSessionId = some id
  remoteSessionDir : ∀ dir, row.remoteSessionDir = some dir → row'.remoteSessionDir = some dir
  status : row.status.isTerminal → row'.status = row.status

namespace ExecutionRow.KeepsEvidence

theorem refl (row : ExecutionRow) : row.KeepsEvidence row :=
  ⟨fun _ h => h, fun _ h => h, fun _ h => h, fun _ => rfl⟩

theorem trans {a b c : ExecutionRow} (hab : a.KeepsEvidence b) (hbc : b.KeepsEvidence c) :
    a.KeepsEvidence c where
  schedulerJobId id h := hbc.schedulerJobId id (hab.schedulerJobId id h)
  daliugeSessionId id h := hbc.daliugeSessionId id (hab.daliugeSessionId id h)
  remoteSessionDir dir h := hbc.remoteSessionDir dir (hab.remoteSessionDir dir h)
  status h := by
    have hsame := hab.status h
    rw [hbc.status (hsame ▸ h), hsame]

/-- A column that the receipt does not contradict keeps its value. -/
private theorem of_not_any {column value : Option String} (h : column.any (some · != value) = false)
    {x : String} (hx : column = some x) : value = some x := by
  rw [hx] at h
  simp only [Option.any_some, bne_eq_false_iff_eq] at h
  exact h.symm

/-- A receipt that does not conflict with the row. -/
theorem of_receipt {row : ExecutionRow} {input : SubmissionReceiptInput}
    (h : row.intentConflicts input = false) : row.KeepsEvidence (row.recordReceipt input) := by
  simp only [intentConflicts, Bool.or_eq_false_iff] at h
  obtain ⟨⟨⟨-, hjob⟩, hsession⟩, hdir⟩ := h
  exact
    { schedulerJobId := fun _ hid => of_not_any hjob hid
      daliugeSessionId := fun _ hid => of_not_any hsession hid
      remoteSessionDir := fun _ hid => of_not_any hdir hid
      status := fun hterminal => by simp [recordReceipt, hterminal] }

end ExecutionRow.KeepsEvidence

namespace Store

/-- What a lookup never writes. -/
structure LookupKeeps (row row' : ExecutionRow) : Prop where
  schedulerName : row'.schedulerName = row.schedulerName
  schedulerJobId : row.schedulerJobId.isSome → row'.schedulerJobId = row.schedulerJobId
  daliugeSessionId : row'.daliugeSessionId = row.daliugeSessionId
  remoteSessionDir : row'.remoteSessionDir = row.remoteSessionDir
  physicalGraphSha256 : row'.physicalGraphSha256 = row.physicalGraphSha256
  submissionAbandonedAt : row'.submissionAbandonedAt = row.submissionAbandonedAt
  submissionState : row.schedulerJobId.isSome ∨ row.submissionAbandonedAt.isSome →
    row'.submissionState = row.submissionState
  status : row'.status = row.status

theorem LookupKeeps.refl (row : ExecutionRow) : LookupKeeps row row :=
  ⟨rfl, fun _ => rfl, rfl, rfl, rfl, rfl, fun _ => rfl, rfl⟩

/-- A lookup fills in a missing job id, and takes a submission without one for uncertain. -/
theorem lookupRow_keeps (s : Store) (outcome : SlurmNameLookupOutcome) :
    LookupKeeps s.row (s.lookupRow outcome) := by
  unfold lookupRow
  cases outcome with
  | exact schedulerJobId state rawState reason source =>
      simp only
      split
      · exact .refl _
      split
      next hwrites =>
        refine ⟨rfl, fun hsome => ?_, rfl, rfl, rfl, rfl, fun hkept => ?_, rfl⟩
        · obtain ⟨id, hid⟩ := Option.isSome_iff_exists.mp hsome
          simp [hid]
        · cases habandoned : s.row.submissionAbandonedAt with
          | some time => simp
          | none =>
              -- without an abandonment the job id was still missing
              rw [habandoned] at hwrites hkept
              simp only [Option.isSome_none, Bool.false_eq_true, or_false] at hwrites hkept
              simp only [lookupMayMutate, Bool.and_eq_true] at hwrites
              rw [Option.isNone_iff_eq_none.mp hwrites.1.1.2] at hkept
              cases hkept
      · exact .refl _
  | notFound =>
      simp only
      split
      · exact ⟨rfl, fun _ => rfl, rfl, rfl, rfl, rfl, fun _ => rfl, rfl⟩
      · exact .refl _
  | ambiguous ids =>
      simp only
      split
      · exact ⟨rfl, fun _ => rfl, rfl, rfl, rfl, rfl, fun _ => rfl, rfl⟩
      · exact .refl _
  | error code message retryable => exact .refl _

/-- **One step of evidence** keeps what is recorded, and adds no second physical graph. -/
theorem step_evidence (s : Store) {i : RepositoryStep} (hi : i.recordsEvidence) :
    s.row.KeepsEvidence (s.step i).row ∧
      (s.physicalGraphs ≤ 1 → (s.step i).physicalGraphs ≤ 1) := by
  cases i with
  | outside registry queue => exact ⟨.refl _, id⟩
  | call ids locked t =>
      rcases s.step_call ids locked t with hsame | ⟨result, hrun⟩
      · rw [hsame]
        exact ⟨.refl _, id⟩
      generalize s.step (.call ids locked t) = s' at hrun
      cases t with
      | recordSubmissionReceipt input =>
          obtain ⟨-, hconflict, hcases⟩ :=
            recordSubmissionReceipt_cases (Tx.run_recordSubmissionReceipt hrun)
          rcases hcases with ⟨rfl, -⟩ | ⟨-, -, hnone, queue, observations, -, -, rfl⟩
          · exact ⟨.refl _, id⟩
          refine ⟨.of_receipt hconflict, fun _ => ?_⟩
          -- there was no physical graph before
          have hzero :
              s.artifacts.countP (fun artifact => artifact.kind == "physical_graph") = 0 := by
            rw [List.countP_eq_zero]
            intro artifact hartifact
            simpa using hnone artifact hartifact
          simp [physicalGraphs, hzero, ExecutionArtifactInput.row, SubmissionReceiptInput.artifact]
      | recordSlurmNameLookup input =>
          obtain ⟨-, -, observations, rfl⟩ :=
            recordSlurmNameLookup_cases (Tx.run_recordSlurmNameLookup hrun)
          have hkeeps := s.lookupRow_keeps input.outcome
          refine ⟨?_, id⟩
          exact
            { schedulerJobId := fun id hid => by
                rw [hkeeps.schedulerJobId (by rw [hid]; rfl), hid]
              daliugeSessionId := fun id hid => by rw [hkeeps.daliugeSessionId, hid]
              remoteSessionDir := fun dir hdir => by rw [hkeeps.remoteSessionDir, hdir]
              status := fun _ => hkeeps.status }
      | _ => cases hi

end Store

/-! ### A recorded receipt -/

/-- The two receipts disagree about the backend, its job, its session or directory, about the
physical graph or about the manifest. -/
def SubmissionReceiptInput.ConflictsWith (a b : SubmissionReceiptInput) : Prop :=
  a.schedulerName ≠ b.schedulerName ∨ a.schedulerJobId ≠ b.schedulerJobId ∨
    a.daliugeSessionId ≠ b.daliugeSessionId ∨ a.remoteSessionDir ≠ b.remoteSessionDir ∨
    a.physicalGraph ≠ b.physicalGraph ∨ a.workflowManifest ≠ b.workflowManifest

/-- A nullable text is its own text in a payload. -/
theorem textJson_inj {a b : Option String} (h : textJson a = textJson b) : a = b := by
  cases a <;> cases b <;> simp_all [textJson]

/-- Receipts that disagree have different documents. -/
theorem SubmissionReceiptInput.ConflictsWith.document_ne {a b : SubmissionReceiptInput}
    (h : a.ConflictsWith b) : a.document ≠ b.document := by
  intro hsame
  unfold document at hsame
  simp only [Json.obj.injEq, List.cons.injEq, Prod.mk.injEq, true_and, Json.str.injEq,
    and_true] at hsame
  obtain ⟨hname, hjob, hsession, hdir, -, hmanifest, hgraph, -⟩ := hsame
  unfold ConflictsWith at h
  simp only [hname, textJson_inj hjob, textJson_inj hsession, textJson_inj hdir, hmanifest, hgraph,
    ne_eq, not_true_eq_false, or_self] at h

/-- A Slurm receipt names its job. -/
theorem SubmissionReceiptInput.schedulerJobId_of_slurm {input : SubmissionReceiptInput}
    (h : input.error = none) (hslurm : input.schedulerName = "slurm") :
    input.schedulerJobId.isSome := by
  cases hjob : input.schedulerJobId with
  | some id => rfl
  | none =>
      unfold error at h
      simp only [hslurm, hjob, receiptNonempty, Option.map_none, Option.filter_none, if_true] at h
      split at h
      · cases h
      split at h
      · cases h
      split at h <;> cases h

namespace Store

/-- The receipt is recorded: the columns and the artifact are those of the receipt. -/
structure Received (s : Store) (input : SubmissionReceiptInput) : Prop where
  accepted : input.error = none
  recorded : s.receiptRecorded input
  stands : s.row.submissionState = .submitted ∨ s.row.submissionAbandonedAt.isSome

namespace Received

variable {s : Store} {input : SubmissionReceiptInput}

/-- The recorded columns. -/
theorem columns (h : s.Received input) :
    s.row.schedulerName = some input.schedulerName ∧
      s.row.schedulerJobId = input.schedulerJobId ∧
      s.row.daliugeSessionId = input.daliugeSessionId ∧
      s.row.remoteSessionDir = input.remoteSessionDir ∧
      s.row.physicalGraphSha256 = some input.physicalGraph := by
  have hrecorded := h.recorded
  simp only [receiptRecorded, Bool.and_eq_true, beq_iff_eq] at hrecorded
  obtain ⟨⟨⟨⟨⟨hname, hjob⟩, hsession⟩, hdir⟩, hgraph⟩, -⟩ := hrecorded
  exact ⟨hname, hjob, hsession, hdir, hgraph⟩

/-- The recorded artifact carries the document of the receipt. -/
theorem artifact (h : s.Received input) :
    ∃ artifact, s.findArtifact "physical_graph" input.physicalGraph = some artifact ∧
      artifact.metadata.get "submission_receipt_sha256" = some input.document := by
  have hrecorded := h.recorded
  simp only [receiptRecorded, Bool.and_eq_true, beq_iff_eq] at hrecorded
  obtain ⟨artifact, hartifact, hsame⟩ := (Option.any_eq_true _ _).mp hrecorded.2
  simp only [Bool.and_eq_true, beq_iff_eq] at hsame
  exact ⟨artifact, hartifact, hsame.2⟩

/-- The recorded columns do not contradict the receipt. -/
theorem not_intentConflicts (h : s.Received input) : s.row.intentConflicts input = false := by
  obtain ⟨hname, hjob, hsession, hdir, -⟩ := h.columns
  have hself : ∀ column : Option String, column.any (some · != column) = false := by
    intro column
    cases column <;> simp
  simp [ExecutionRow.intentConflicts, hname, hjob, hsession, hdir, hself]

/-- **A replay** changes nothing and returns what is recorded. -/
theorem replay (h : s.Received input) (ids : Uuid × Uuid × Uuid) :
    s.recordSubmissionReceipt ids input =
      .ok (s, ⟨s.row, true, s.row.submissionAbandonedAt.isSome⟩) := by
  unfold recordSubmissionReceipt
  simp only [h.accepted, h.not_intentConflicts, Bool.false_eq_true, if_false, h.stands, h.recorded,
    and_self, if_true]

/-- **A receipt with another document** is refused. -/
theorem refused (h : s.Received input) {other : SubmissionReceiptInput}
    (hother : other.document ≠ input.document) (ids : Uuid × Uuid × Uuid) :
    ∃ error, s.recordSubmissionReceipt ids other = .error error := by
  obtain ⟨stored, hstored, hdocument⟩ := h.artifact
  have hgraph := h.columns.2.2.2.2
  cases hreceipt : s.recordSubmissionReceipt ids other with
  | error error => exact ⟨error, rfl⟩
  | ok outcome =>
      obtain ⟨-, -, hcases⟩ := recordSubmissionReceipt_cases hreceipt
      exfalso
      rcases hcases with ⟨-, hstands, hrecorded⟩ | ⟨-, -, hnone, -⟩
      · -- the artifact of the recorded graph would carry both documents
        have hreceived : s.findArtifact "physical_graph" other.physicalGraph = some stored := by
          simp only [receiptRecorded, Bool.and_eq_true, beq_iff_eq, hgraph, Option.some.injEq]
            at hrecorded
          rw [← hrecorded.1.2]
          exact hstored
        simp only [receiptRecorded, hreceived, Bool.and_eq_true, beq_iff_eq, Option.any_some,
          hdocument, Option.some.injEq] at hrecorded
        exact hother hrecorded.2.2.symm
      · obtain ⟨hmem, hkind, -⟩ := findArtifact_some hstored
        exact hnone stored hmem hkind

/-- **An accepted receipt is recorded.** -/
theorem of_receipt {s' : Store} {ids : Uuid × Uuid × Uuid} {result : SubmissionReceiptResult}
    (h : s.recordSubmissionReceipt ids input = .ok (s', result)) : s'.Received input := by
  obtain ⟨herror, -, hcases⟩ := recordSubmissionReceipt_cases h
  rcases hcases with ⟨rfl, hstands, hrecorded⟩ | ⟨-, -, hnone, queue, observations, -, -, rfl⟩
  · exact ⟨herror, hrecorded, hstands⟩
  · refine ⟨herror, ?_, ?_⟩
    · have hnew : s.findArtifact "physical_graph" input.physicalGraph = none := by
        unfold findArtifact
        rw [List.find?_eq_none]
        intro artifact hartifact
        simp [hnone artifact hartifact]
      set received : Store :=
        { s with
          row := s.row.recordReceipt input
          artifacts := s.artifacts ++ [input.artifact.row ids.1 s.now]
          observations := observations
          queue := queue }
      have happended : received.artifacts = s.artifacts ++ [input.artifact.row ids.1 s.now] := rfl
      have hgraph : s.findArtifact "physical_graph" input.artifact.sha256 = none := hnew
      have hstored := findArtifact_append_row hgraph rfl happended
      have hsha : input.artifact.sha256 = input.physicalGraph := rfl
      rw [hsha] at hstored
      simp only [receiptRecorded, hstored, Option.any_some]
      simp [received, ExecutionRow.recordReceipt, ExecutionArtifactInput.row,
        SubmissionReceiptInput.artifact, Json.get, Json.lookupField]
    · cases habandoned : s.row.submissionAbandonedAt with
      | none => exact .inl (by simp [ExecutionRow.recordReceipt, habandoned])
      | some time => exact .inr (by simp [ExecutionRow.recordReceipt, habandoned])

/-- **Evidence keeps a recorded receipt** and its artifacts. -/
theorem step (h : s.Received input) {i : RepositoryStep} (hi : i.recordsEvidence) :
    (s.step i).Received input ∧ (s.step i).artifacts = s.artifacts := by
  cases i with
  | outside registry queue => exact ⟨⟨h.accepted, h.recorded, h.stands⟩, rfl⟩
  | call ids locked t =>
      rcases s.step_call ids locked t with hsame | ⟨result, hrun⟩
      · rw [hsame]
        exact ⟨h, rfl⟩
      generalize s.step (.call ids locked t) = s' at hrun
      cases t with
      | recordSubmissionReceipt other =>
          have hreceipt := Tx.run_recordSubmissionReceipt hrun
          rcases (recordSubmissionReceipt_cases hreceipt).2.2 with ⟨rfl, -⟩ | ⟨-, -, hnone, -⟩
          · exact ⟨h, rfl⟩
          · obtain ⟨stored, hstored, -⟩ := h.artifact
            obtain ⟨hmem, hkind, -⟩ := findArtifact_some hstored
            exact absurd hkind (hnone stored hmem)
      | recordSlurmNameLookup lookup =>
          obtain ⟨hslurm, -, observations, rfl⟩ :=
            recordSlurmNameLookup_cases (Tx.run_recordSlurmNameLookup hrun)
          obtain ⟨hname, hjob, -⟩ := h.columns
          have hsome : s.row.schedulerJobId.isSome := by
            rw [hjob]
            refine SubmissionReceiptInput.schedulerJobId_of_slurm h.accepted ?_
            exact Option.some.inj (hname.symm.trans hslurm)
          have hkeeps := s.lookupRow_keeps lookup.outcome
          refine ⟨⟨h.accepted, ?_, ?_⟩, rfl⟩
          · have hrecorded := h.recorded
            unfold receiptRecorded at hrecorded ⊢
            simp only [hkeeps.schedulerName, hkeeps.schedulerJobId hsome, hkeeps.daliugeSessionId,
              hkeeps.remoteSessionDir, hkeeps.physicalGraphSha256]
            exact hrecorded
          · simp only [hkeeps.submissionState (.inl hsome), hkeeps.submissionAbandonedAt]
            exact h.stands
      | _ => cases hi

end Received

end Store

/-! ### Evidence over runs -/

/-- Evidence keeps what is recorded, and adds no second physical graph. -/
theorem Store.exec_evidence {s : Store} (hone : s.physicalGraphs ≤ 1) {steps : List RepositoryStep}
    (hsteps : ∀ i ∈ steps, i.recordsEvidence) :
    s.row.KeepsEvidence (Runs.exec Store.step s steps).row ∧
      (Runs.exec Store.step s steps).physicalGraphs ≤ 1 := by
  have hmeets : Runs.Meets Store.step (fun _ i => i.recordsEvidence) s steps :=
    Runs.meets_of_forall hsteps
  constructor
  · have hinv : ∀ (t : Store) (i : RepositoryStep), True → i.recordsEvidence → True :=
      fun _ _ _ _ => trivial
    exact Runs.exec_rel (R := fun t t' : Store => t.row.KeepsEvidence t'.row) (fun t => .refl t.row)
      (fun hab hbc => hab.trans hbc) hinv (fun t i _ hi => (t.step_evidence hi).1) trivial hmeets
  · exact Runs.exec_invariant (fun s : Store => s.physicalGraphs ≤ 1)
      (fun s i hle hi => (s.step_evidence hi).2 hle) hone hmeets

/-- A recorded receipt stays recorded, with its artifact. -/
theorem Store.Received.exec {s : Store} {input : SubmissionReceiptInput} (h : s.Received input)
    {steps : List RepositoryStep} (hsteps : ∀ i ∈ steps, i.recordsEvidence) :
    (Runs.exec Store.step s steps).Received input ∧
      (Runs.exec Store.step s steps).artifacts = s.artifacts := by
  have hmeets : Runs.Meets Store.step (fun _ i => i.recordsEvidence) s steps :=
    Runs.meets_of_forall hsteps
  exact Runs.exec_invariant
    (fun t : Store => t.Received input ∧ t.artifacts = s.artifacts)
    (fun t i hinv hi =>
      ⟨(hinv.1.step hi).1, (hinv.1.step hi).2.trans hinv.2⟩) ⟨h, rfl⟩ hmeets

/-- A Slurm submission under way. -/
def submittingStore : Store :=
  { sampleStore with
    row := { sampleStore.row with
      status := .running
      deploymentProfileSpecSha256 := some "sha"
      controlPhase := .submissionPending
      submissionState := .inFlight
      schedulerName := some "slurm"
      daliugeSessionId := some "session-1" }
    observations :=
      [(Store.intentObservation ⟨"slurm", "session-1", none, 300, some "target"⟩ 300).row 8 0] }

/-- The receipt of its job. -/
def slurmReceipt : SubmissionReceiptInput :=
  { schedulerName := "slurm"
    schedulerJobId := some "42"
    daliugeSessionId := some "session-1"
    remoteSessionDir := some "/dlg/session-1"
    stagingRoot := some "/dlg/session-1/output"
    workflowManifest := .obj []
    physicalGraph := .arr []
    nextStatus := .awaitingScheduler
    pollJob := none }

/-- A lookup that finds it. -/
def slurmLookup : SlurmNameLookupRecordInput :=
  { lookupId := 7
    intentObservationId := 8
    daliugeSessionId := "session-1"
    profileSha256 := "sha"
    targetFingerprint := "target"
    accountingNotBefore := 0
    queryStartedAt := 0
    queryCompletedAt := 1
    squeueComplete := true
    sacctComplete := true
    outcome := .exact "42" .running "RUNNING" none "squeue" }

end Beampipe
