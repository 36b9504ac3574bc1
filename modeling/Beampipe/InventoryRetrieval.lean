/-
What becomes of a retrieved output inventory.

The poller of output inventories takes the receipt of a finished execution from the remote session
and commits it: the receipt is parsed, validated against the pinned policy, turned into an artifact,
and the artifact is verified in one transaction.  When that fails, the error is turned into a text,
and whatever the text says the outputs of the execution are recorded as failed.  So a receipt that
is rejected and a database that does not answer have the same end.

The calls of the verification are requests of a program, and any of them may fail; a commit may also
fail after it has taken effect.

Main definitions:

* `Beampipe.Store.verifyExecutionOutputsCalls` — `verify_execution_outputs`, call by call;
* `Beampipe.Store.commitRetrievedOutputInventory` — the commit of a receipt, with its typed error;
* `Beampipe.Store.retrieveOutputInventory` — the commit and its failure handler;
* `Beampipe.FailsOnlyOnRejection` — what the poller owes to a receipt;
* `Beampipe.CommitCallsAnswered` — when it does.

Main results:

* `Beampipe.Store.verifyExecutionOutputsCalls_run` — without a failing call the program computes
  what the verification of the store computes;
* `Beampipe.failsOnlyOnRejection_iff` — **a receipt is failed only on rejection exactly when the
  calls that matter are answered**.
-/

import Beampipe.CompletionGate
import Beampipe.InventoryCodec
import Beampipe.LookupEvidence
import Beampipe.Pollers

set_option relaxedAutoImplicit false
set_option autoImplicit false

namespace Beampipe

open Programs

/-! ### The verification, call by call -/

/-- The database calls of `verify_execution_outputs` before its commit. -/
inductive VerifyCall where
  | begin
  | selectExecution
  | selectVerified
  | insertArtifact
  | selectStored
  | updateExecution
  | insertObservation
  | recordProvenance
  | finalizeSideEffects
  deriving DecidableEq, Repr

/-- `VerifyExecutionOutputsError`. -/
inductive VerifyExecutionOutputsError where
  | notFound
  | rejected (message : String)
  | database (message : String)
  deriving DecidableEq, Repr

/-- The text of the error. -/
def VerifyExecutionOutputsError.text : VerifyExecutionOutputsError → String
  | .notFound => "execution not found"
  | .rejected message => "output verification rejected: " ++ message
  | .database message => message

/-- Programs over the calls; a call that succeeds gives what the store holds. -/
abbrev VerifyProgram := Prog VerifyCall (fun _ => Unit) VerifyExecutionOutputsError

/-- One call. -/
def VerifyCall.issue (call : VerifyCall) : VerifyProgram Unit := Prog.call call

/-- `Err(VerifyExecutionOutputsError::Rejected(…))`. -/
def reject {α : Type} (message : String) : VerifyProgram α := .throw (.rejected message)

namespace Store

/-- The writes of a verification that completes the execution. -/
def publishInventory (s : Store) (ids : Uuid × Uuid) (stored : ExecutionArtifactRow)
    (schema inventorySha256 reportSha256 clock : String) :
    VerifyProgram (Store × ExecutionRow × ExecutionArtifactRow) := do
  VerifyCall.updateExecution.issue
  VerifyCall.insertObservation.issue
  VerifyCall.recordProvenance.issue
  VerifyCall.finalizeSideEffects.issue
  pure (s.completeVerified ids stored schema inventorySha256 reportSha256 clock)

section Env

variable (env : InventoryEnv) (policy : Json)

/-- `verify_execution_outputs` up to its commit. -/
def verifyExecutionOutputsCalls (s : Store) (ids : FreshIds) (executionId : Uuid)
    (artifact : ExecutionArtifactInput) (instant : ℤ) (clock : String) :
    VerifyProgram (Store × ExecutionRow × ExecutionArtifactRow) :=
  match artifactError artifact with
  | some error => .throw (.database error)
  | none =>
      if artifact.kind ≠ "output_inventory" ∨ artifact.storageKind ≠ "remote" ∨
          artifact.uri.getD "" = "" then
        reject "verification requires a remote output_inventory artifact with a destination URI"
      else
        match ((artifact.metadata.get "inventory_sha256").bind Json.asStr).filter
            isLowerHexDigest with
        | none => reject "verification artifact metadata requires a lowercase inventory_sha256"
        | some inventorySha256 => do
            VerifyCall.begin.issue
            VerifyCall.selectExecution.issue
            if s.row.uuid ≠ executionId then .throw .notFound
            else
              match s.row.accepts env policy instant artifact with
              | .error error => reject error
              | .ok () =>
                  if s.row.outputState = .verified then do
                    VerifyCall.selectVerified.issue
                    match (s.findArtifact "output_inventory" artifact.sha256).filter fun row =>
                        row.uri == artifact.uri && row.inlineJson == artifact.inlineJson &&
                          row.metadata == artifact.metadata with
                    | some existing => pure (s, s.row, existing)
                    | none =>
                        reject "outputs were already verified with a different durable inventory"
                  else if s.row.status.isTerminal then
                    reject ("execution is already terminal (" ++ s.row.status.asStr
                      ++ ") without verified outputs")
                  else if s.row.axes.reconcile.nextAction ≠ .verifyOutputs then
                    reject ("execution is not waiting for output verification after external "
                      ++ "success")
                  else do
                    VerifyCall.insertArtifact.issue
                    match s.findArtifact "output_inventory" artifact.sha256 with
                    | some stored => do
                        VerifyCall.selectStored.issue
                        if stored.uri ≠ artifact.uri ∨ stored.inlineJson ≠ artifact.inlineJson ∨
                            stored.metadata ≠ artifact.metadata ∨
                            stored.mediaType ≠ artifact.mediaType ∨
                            stored.producerPhase ≠ artifact.producerPhase then
                          reject ("inventory digest conflicts with an existing publication report "
                            ++ "or execution attempt")
                        else
                          s.publishInventory (ids.first, ids.second) stored
                            (reportSchema env artifact) inventorySha256
                            (env.digest (canonicalJsonBytes env artifact.sha256)) clock
                    | none =>
                        let stored := artifact.row ids.first s.now
                        { s with artifacts := s.artifacts ++ [stored] }.publishInventory
                          (ids.first, ids.second) stored (reportSchema env artifact)
                          inventorySha256 (env.digest (canonicalJsonBytes env artifact.sha256))
                          clock

/-- The run of the program in which every call succeeds. -/
def verifyExecutionOutputsRun (s : Store) (ids : FreshIds) (executionId : Uuid)
    (artifact : ExecutionArtifactInput) (instant : ℤ) (clock : String) :
    Except VerifyExecutionOutputsError (Store × ExecutionRow × ExecutionArtifactRow) :=
  ((s.verifyExecutionOutputsCalls env policy ids executionId artifact instant clock).run
    fun _ => ()).2

variable {env policy}

/-- Without a failing call the program computes what the verification of the store computes; what
the store refuses is a rejection. -/
theorem verifyExecutionOutputsCalls_run {s : Store} {ids : FreshIds} {executionId : Uuid}
    {artifact : ExecutionArtifactInput} {instant : ℤ} {clock : String}
    (hartifact : artifactError artifact = none) (huuid : s.row.uuid = executionId) :
    (∃ result, s.verifyInventory env policy ids artifact instant clock = .ok result ∧
      s.verifyExecutionOutputsRun env policy ids executionId artifact instant clock = .ok result) ∨
    ∃ message, s.verifyInventory env policy ids artifact instant clock =
        .error ("output verification rejected: " ++ message) ∧
      s.verifyExecutionOutputsRun env policy ids executionId artifact instant clock =
        .error (.rejected message) := by
  unfold verifyInventory verifyExecutionOutputs verifyExecutionOutputsRun
    verifyExecutionOutputsCalls
  simp only [hartifact, Option.isSome_none, Bool.false_eq_true, false_or]
  split
  · exact .inr ⟨_, rfl, rfl⟩
  cases ((artifact.metadata.get "inventory_sha256").bind Json.asStr).filter isLowerHexDigest with
  | none => exact .inr ⟨_, rfl, rfl⟩
  | some inventorySha256 =>
      simp only [huuid, VerifyCall.issue, Prog.call, Prog.req_bind, Prog.ret_bind, Prog.run,
        reject, publishInventory, ne_eq, not_true_eq_false, reduceIte]
      cases haccepts : s.row.accepts env policy instant artifact with
      | error error => exact .inr ⟨error, rfl, rfl⟩
      | ok =>
          by_cases hverified : s.row.outputState = .verified
          · simp only [hverified, reduceIte]
            cases hfound : (s.findArtifact "output_inventory" artifact.sha256).filter fun row =>
                row.uri == artifact.uri && row.inlineJson == artifact.inlineJson &&
                  row.metadata == artifact.metadata with
            | none => exact .inr ⟨_, rfl, rfl⟩
            | some existing => exact .inl ⟨_, rfl, rfl⟩
          by_cases hterminal : s.row.status.isTerminal
          · simp only [hverified, hterminal, reduceIte]
            exact .inr ⟨_, rfl, rfl⟩
          by_cases hwaiting : s.row.axes.reconcile.nextAction = .verifyOutputs
          · simp only [hverified, hterminal, hwaiting, Bool.false_eq_true,
              not_true_eq_false, reduceIte]
            cases hstored : s.findArtifact "output_inventory" artifact.sha256 with
            | none => exact .inl ⟨_, rfl, rfl⟩
            | some stored =>
                simp only
                split
                · exact .inr ⟨_, rfl, rfl⟩
                · exact .inl ⟨_, rfl, rfl⟩
          · simp only [hverified, hterminal, hwaiting, Bool.false_eq_true,
              not_false_eq_true, reduceIte]
            exact .inr ⟨_, rfl, rfl⟩

end Env

end Store

/-! ### The commit of a receipt -/

/-- What a commit leaves open: the identifiers, the clock at the validation of the receipt and in
the transaction, and which database calls fail. -/
structure CommitChoice where
  ids : FreshIds
  receivedAt : ℤ
  verifiedAt : ℤ
  clock : String
  fails : VerifyCall → Bool
  commit : Fault

/-- The error of a commit before it becomes a text: of the receipt, or of its verification. -/
inductive CommitError where
  | receipt (error : OutputInventoryValidationError)
  | verify (error : VerifyExecutionOutputsError)
  deriving DecidableEq, Repr

namespace CommitError

/-- `error.to_string()`. -/
def text : CommitError → String
  | .receipt error => error.message
  | .verify error => error.text

/-- The receipt was rejected by parsing, by validation or by what is stored. -/
def IsRejection : CommitError → Prop
  | .receipt _ => True
  | .verify error => ∃ message, error = .rejected message

end CommitError

/-- `bounded_output_inventory_error`. -/
def boundedOutputInventoryError (detail : String) : String :=
  String.ofList ((redactString detail).toList.take 2048)

section Env

variable (reader : InventoryReader) (env : InventoryEnv) (policy : Json)

/-- The artifact of a receipt. -/
def receiptArtifact (execution : ExecutionRow) (instant : ℤ) (receipt : ByteArray) :
    Except OutputInventoryValidationError ExecutionArtifactInput := do
  let report ← parseCanonicalOutputInventory reader env receipt
  let totalProductBytes ←
    validateOutputVerificationRequestAt env report execution.outputVerificationRequired policy
      execution.uuid execution.retryCount instant
  buildOutputInventoryArtifact env report totalProductBytes

namespace Store

/-- `verify_execution_outputs`: the transaction of a failed call is rolled back. -/
def verifyExecutionOutputsWith (s : Store) (c : CommitChoice) (executionId : Uuid)
    (artifact : ExecutionArtifactInput) : Except VerifyExecutionOutputsError Unit × Store :=
  let program :=
    s.verifyExecutionOutputsCalls env policy c.ids executionId artifact c.verifiedAt c.clock
  match program.perform (fun _ => ()) (.database "database error") c.fails, c.commit with
  | .error error, _ => (.error error, s)
  | .ok (s', _), .none => (.ok (), s')
  | .ok _, .failed => (.error (.database "database error"), s)
  | .ok (s', _), .unacknowledged => (.error (.database "database error"), s')

/-- `commit_retrieved_output_inventory`. -/
def commitRetrievedOutputInventory (s : Store) (c : CommitChoice) (execution : ExecutionRow)
    (receipt : ByteArray) : Except CommitError Unit × Store :=
  match receiptArtifact reader env policy execution c.receivedAt receipt with
  | .error error => (.error (.receipt error), s)
  | .ok artifact =>
      let (result, s') := s.verifyExecutionOutputsWith env policy c execution.uuid artifact
      (result.mapError .verify, s')

end Store

/-- A program run to its end, with one choice for each request. -/
def runExec {α : Type} : Exec α → (ℕ → Choice) → Store → Except Failure α × Store
  | .ret a, _, s => (.ok a, s)
  | .throw failure, _, s => (.error failure, s)
  | .req (.tx _ t) k, choices, s =>
      let (answer, s') := (choices 0).transact t s
      runExec (k answer) (fun n => choices (n + 1)) s'
  | .req (.ask _ question) k, choices, s =>
      runExec (k ((choices 0).answer question)) (fun n => choices (n + 1)) s

/-- One execution of `retrieve_slurm_output_inventories_with` whose receipt has been read: an error
of the commit goes to the failure handler as a text. -/
def Store.retrieveOutputInventory (s : Store) (c : CommitChoice) (choices : ℕ → Choice)
    (execution : ExecutionRow) (receipt : ByteArray) : Except Failure Unit × Store :=
  match s.commitRetrievedOutputInventory reader env policy c execution receipt with
  | (.ok (), s') => (.ok (), s')
  | (.error error, s') =>
      runExec
        (recordOutputInventoryRetrievalFailure "inventory_rejected"
          (boundedOutputInventoryError error.text) .validation false)
        choices s'

end Env

/-! ### The failure handler -/

/-- A transaction at the head of a program. -/
theorem runExec_tx_bind {α : Type} (site : Site) (t : Tx) (f : t.Result → Exec α)
    (choices : ℕ → Choice) (s : Store) :
    runExec (tx site t >>= f) choices s =
      match (choices 0).transact t s with
      | (.ok result, s') => runExec (f result) (fun n => choices (n + 1)) s'
      | (.error message, s') => (.error (.error message), s') := by
  change runExec (Prog.req (.tx site t) _) choices s = _
  rw [runExec]
  rcases (choices 0).transact t s with ⟨_ | _, s'⟩ <;> rfl

/-- Failed outputs end an execution. -/
theorem ExecutionRow.applyStatePatch_of_outputs_failed {row : ExecutionRow}
    {patch : ExecutionStatePatch} (hlive : row.status.isTerminal = false)
    (hpatch : patch.outputState = some .failed) (now : ℕ) :
    (row.applyStatePatch patch now).outputState = .failed ∧
      (row.applyStatePatch patch now).status = .failed := by
  have houtput : (row.project patch).outputState = .failed := by
    simp [project, hpatch]
  have hdecision : (row.project patch).axes.reconcile = .terminal .failed .failed := by
    unfold ExecutionAxes.reconcile
    exact if_pos (.inl houtput)
  rw [applyStatePatch_of_live hlive]
  refine ⟨houtput, ?_⟩
  rw [aggregate_status, hdecision]
  rfl

/-- The handler reaches the row: its observation is acknowledged and its patch takes effect. -/
def FailureRecorded (choices : ℕ → Choice) : Prop :=
  (choices 0).fault = .none ∧ (choices 1).fault ≠ .failed

instance (choices : ℕ → Choice) : Decidable (FailureRecorded choices) :=
  inferInstanceAs (Decidable (_ ∧ _))

/-- A transaction that the store accepts takes effect unless it fails, and is acknowledged unless
there is a fault. -/
theorem Choice.transact_of_run {c : Choice} {s s' after : Store} {t : Tx} {answer : t.Result}
    {result : Except String t.Result} (h : c.transact t s = (result, s'))
    (hrun : t.run c.ids c.locked s = .ok (after, answer)) :
    s' = (if c.fault = .failed then s else after) ∧ (result.isOk ↔ c.fault = .none) := by
  unfold Choice.transact at h
  rw [hrun] at h
  cases hfault : c.fault with
  | none =>
      rw [hfault] at h
      cases h
      exact ⟨rfl, fun _ => rfl, fun _ => rfl⟩
  | failed =>
      rw [hfault] at h
      cases h
      exact ⟨rfl, nofun, nofun⟩
  | unacknowledged =>
      rw [hfault] at h
      cases h
      exact ⟨rfl, nofun, nofun⟩

/-- The observation of a failure changes neither the row nor the queue, and it is refused only by a
fault. -/
theorem Choice.transact_outputObservation {c : Choice} {s s' : Store}
    {observation : ExecutionObservationInput} {result : Except String ExecutionObservationRow}
    (h : c.transact (.recordExecutionObservation observation) s = (result, s'))
    (hkind : observation.kind = "output") :
    s'.row = s.row ∧ s'.queue = s.queue ∧ (result.isOk ↔ c.fault = .none) := by
  have hrun : Tx.run c.ids c.locked s (.recordExecutionObservation observation) =
      .ok ({ s with observations := s.observations ++ [observation.row c.ids.first s.now] },
        observation.row c.ids.first s.now) := by
    change s.recordExecutionObservation c.ids.first observation = _
    unfold Store.recordExecutionObservation
    rw [hkind]
    rfl
  obtain ⟨hs', hanswered⟩ := transact_of_run h hrun
  by_cases hfault : c.fault = .failed
  · rw [if_pos hfault] at hs'
    exact ⟨by rw [hs'], by rw [hs'], hanswered⟩
  · rw [if_neg hfault] at hs'
    exact ⟨by rw [hs'], by rw [hs'], hanswered⟩

/-- A patch that fails the outputs does so on a live row, and is never refused. -/
theorem Store.applyExecutionStatePatch_failedOutputs (s : Store) {patch : ExecutionStatePatch}
    (hpatch : patch.outputState = some .failed) :
    ∃ after result, s.applyExecutionStatePatchWithTransition patch = .ok (after, result) ∧
      after.queue = s.queue ∧
      (s.row.status.isTerminal = false ∧ after.row.outputState = .failed ∨
        s.row.status.isTerminal = true ∧ after.row = s.row) := by
  unfold applyExecutionStatePatchWithTransition
  cases hterminal : s.row.status.isTerminal with
  | true => exact ⟨s, _, if_pos rfl, rfl, .inr ⟨rfl, rfl⟩⟩
  | false =>
      obtain ⟨houtput, hstatus⟩ :=
        ExecutionRow.applyStatePatch_of_outputs_failed hterminal hpatch s.now
      refine ⟨{ s with row := s.row.applyStatePatch patch s.now },
        ⟨s.row.applyStatePatch patch s.now, s.row.status,
          (s.row.applyStatePatch patch s.now).status.isTerminal⟩, ?_, rfl, .inl ⟨rfl, houtput⟩⟩
      rw [if_neg (by simp)]
      exact if_neg fun hcompleted => by simp [hstatus] at hcompleted

/-- A patch that fails the outputs does so on a live row unless the transaction fails. -/
theorem Choice.transact_failedOutputs {c : Choice} {s s' : Store} {patch : ExecutionStatePatch}
    {result : Except String Store.StateApplyResult}
    (h : c.transact (.applyExecutionStatePatch patch) s = (result, s'))
    (hpatch : patch.outputState = some .failed) :
    s'.queue = s.queue ∧
      (c.fault ≠ .failed ∧ s.row.status.isTerminal = false ∧ s'.row.outputState = .failed ∨
        ¬(c.fault ≠ .failed ∧ s.row.status.isTerminal = false) ∧ s'.row = s.row) := by
  obtain ⟨after, _, hafter, hqueue, hcases⟩ := s.applyExecutionStatePatch_failedOutputs hpatch
  have hrun : Tx.run c.ids c.locked s (.applyExecutionStatePatch patch) = .ok (after, _) := hafter
  have hs' := (transact_of_run h hrun).1
  by_cases hfault : c.fault = .failed
  · rw [if_pos hfault] at hs'
    subst hs'
    exact ⟨rfl, .inr ⟨fun hall => hall.1 hfault, rfl⟩⟩
  · rw [if_neg hfault] at hs'
    subst hs'
    refine ⟨hqueue, ?_⟩
    rcases hcases with ⟨hlive, hfailed⟩ | ⟨hterminal, hsame⟩
    · exact .inl ⟨hfault, hlive, hfailed⟩
    · exact .inr ⟨by simp [hterminal], hsame⟩

/-- The sources that are settled after a failure are not in the row. -/
theorem Choice.transact_markSources {c : Choice} {s s' : Store} {result : Except String Unit}
    (h : c.transact .markSourcesPendingWorkflowRun s = (result, s')) :
    s'.row = s.row ∧ s'.queue = s.queue := by
  have hrun : Tx.run c.ids c.locked s .markSourcesPendingWorkflowRun =
      .ok (s.markSourcesPending, ()) := rfl
  rw [(transact_of_run h hrun).1]
  split
  · exact ⟨rfl, rfl⟩
  · exact ⟨rfl, rfl⟩

theorem runExec_finalizeFailed {entered : Bool} {choices : ℕ → Choice} {s s' : Store}
    (h : (runExec (onlyIf entered (finalizeExecutionSourcePending .failed)) choices s).2 = s') :
    s'.row = s.row ∧ s'.queue = s.queue := by
  cases entered with
  | false =>
      subst h
      exact ⟨rfl, rfl⟩
  | true =>
      change (runExec (tx .finalizeExecutionSourcePending .markSourcesPendingWorkflowRun) choices
        s).2 = s' at h
      unfold tx runExec at h
      rcases htransact : (choices 0).transact .markSourcesPendingWorkflowRun s with ⟨_ | _, s₁⟩
      all_goals
        rw [htransact] at h
        subst h
        exact Choice.transact_markSources htransact

/-- The handler fails the outputs of a live execution when it reaches the row, and otherwise leaves
the row alone. -/
theorem recordOutputInventoryRetrievalFailure_spec {code detail : String}
    {failureClass : FailureClass} {choices : ℕ → Choice} {s s' : Store}
    (h : (runExec (recordOutputInventoryRetrievalFailure code detail failureClass false)
      choices s).2 = s') :
    s'.queue = s.queue ∧
      (FailureRecorded choices ∧ s.row.status.isTerminal = false ∧ s'.row.outputState = .failed ∨
        ¬(FailureRecorded choices ∧ s.row.status.isTerminal = false) ∧ s'.row = s.row) := by
  unfold recordOutputInventoryRetrievalFailure at h
  rw [runExec_tx_bind] at h
  split at h
  next observed s₁ hobserve =>
    obtain ⟨hrow₁, hqueue₁, hfault⟩ := Choice.transact_outputObservation hobserve rfl
    have hnone : (choices 0).fault = .none := hfault.mp rfl
    -- what is left of the row in the end is what the patch leaves
    obtain ⟨s₂, ⟨hrow, hqueue⟩, hqueue₂, hcases⟩ : ∃ s₂ : Store,
        (s'.row = s₂.row ∧ s'.queue = s₂.queue) ∧ s₂.queue = s₁.queue ∧
          ((choices 1).fault ≠ .failed ∧ s₁.row.status.isTerminal = false ∧
              s₂.row.outputState = .failed ∨
            ¬((choices 1).fault ≠ .failed ∧ s₁.row.status.isTerminal = false) ∧
              s₂.row = s₁.row) := by
      simp only [runExec_tx_bind] at h
      split at h
      next transition s₂ hpatch =>
        exact ⟨s₂, runExec_finalizeFailed h, Choice.transact_failedOutputs hpatch rfl⟩
      next message s₂ hpatch =>
        subst h
        exact ⟨s₂, ⟨rfl, rfl⟩, Choice.transact_failedOutputs hpatch rfl⟩
    refine ⟨hqueue.trans (hqueue₂.trans hqueue₁), ?_⟩
    rw [hrow, FailureRecorded, ← hrow₁]
    rcases hcases with ⟨hfault₂, hlive, hfailed⟩ | ⟨hnot, hsame⟩
    · exact .inl ⟨⟨hnone, hfault₂⟩, hlive, hfailed⟩
    · exact .inr ⟨fun hall => hnot ⟨hall.1.2, hall.2⟩, hsame⟩
  next message s₁ hobserve =>
    obtain ⟨hrow₁, hqueue₁, hfault⟩ := Choice.transact_outputObservation hobserve rfl
    subst h
    refine ⟨hqueue₁, .inr ⟨fun hall => ?_, hrow₁⟩⟩
    cases hfault.mpr hall.1.1

/-! ### How a commit ends -/

namespace ExecutionAxes

/-- A choice between two values other than `c` is another value. -/
theorem ite_ne {α : Type} {p : Prop} [Decidable p] {a b c : α} (ha : a ≠ c) (hb : b ≠ c) :
    (if p then a else b) ≠ c := by
  split
  · exact ha
  · exact hb

/-- Outputs are to be verified only while they are not. -/
theorem outputs_of_verifyOutputs {axes : ExecutionAxes}
    (h : axes.reconcile.nextAction = .verifyOutputs) : axes.outputs ≠ .verified := by
  intro hverified
  unfold reconcile at h
  simp only [hverified, ne_eq, not_true_eq_false, and_false, if_false,
    apply_ite ReconciliationDecision.nextAction] at h
  revert h
  refine ite_ne (by decide) (ite_ne ?_ (ite_ne ?_ (ite_ne (by decide) (ite_ne ?_ (ite_ne (by decide)
    (ite_ne (by decide) (ite_ne (by decide) (ite_ne (by decide) (ite_ne (by decide)
      (ite_ne (by decide) (by decide)))))))))))
  all_goals exact ite_ne (by decide) (by decide)

end ExecutionAxes

section Env

variable (reader : InventoryReader) (env : InventoryEnv) (policy : Json)

namespace Store

/-- A row of the execution as it was listed some time before. -/
structure Listed (s : Store) where
  row : ExecutionRow
  uuid_eq : s.row.uuid = row.uuid

/-- A database call that the verification of the artifact issues fails. -/
def CallFails (s : Store) (c : CommitChoice) (execution : s.Listed)
    (artifact : ExecutionArtifactInput) : Prop :=
  ((s.verifyExecutionOutputsCalls env policy c.ids execution.row.uuid artifact c.verifiedAt
    c.clock).requests fun _ => ()).any c.fails

/-- What is stored agrees with the artifact. -/
def Agrees (s : Store) (c : CommitChoice) (artifact : ExecutionArtifactInput) : Prop :=
  ∃ result, s.verifyInventory env policy c.ids artifact c.verifiedAt c.clock = .ok result

/-- The receipt is valid and its verification is rolled back: one of its calls fails, or the commit
does. -/
def RolledBack (s : Store) (c : CommitChoice) (execution : s.Listed) (receipt : ByteArray) : Prop :=
  ∃ artifact, receiptArtifact reader env policy execution.row c.receivedAt receipt = .ok artifact ∧
    (s.CallFails env policy c execution artifact ∨
      s.Agrees env policy c artifact ∧ c.commit = .failed)

/-- The verification of a valid receipt is committed, and the acknowledgement is lost. -/
def CommittedUnacknowledged (s : Store) (c : CommitChoice) (execution : s.Listed)
    (receipt : ByteArray) : Prop :=
  ∃ artifact, receiptArtifact reader env policy execution.row c.receivedAt receipt = .ok artifact ∧
    ¬s.CallFails env policy c execution artifact ∧ s.Agrees env policy c artifact ∧
      c.commit = .unacknowledged

/-- The end of a commit: it is acknowledged, it rejects the receipt, or it fails in the database
before or after it has taken effect. -/
inductive CommitEnd (s : Store) (c : CommitChoice) (execution : s.Listed) (receipt : ByteArray) :
    Except CommitError Unit × Store → Prop where
  | verified (s' : Store) (hstate : s'.row.outputState = .verified)
      (hback : ¬s.RolledBack reader env policy c execution receipt)
      (hlost : ¬s.CommittedUnacknowledged reader env policy c execution receipt) :
      CommitEnd s c execution receipt (.ok (), s')
  | rejected (error : CommitError) (hrejection : error.IsRejection)
      (hback : ¬s.RolledBack reader env policy c execution receipt)
      (hlost : ¬s.CommittedUnacknowledged reader env policy c execution receipt) :
      CommitEnd s c execution receipt (.error error, s)
  | rolledBack (message : String) (hback : s.RolledBack reader env policy c execution receipt)
      (hlost : ¬s.CommittedUnacknowledged reader env policy c execution receipt) :
      CommitEnd s c execution receipt (.error (.verify (.database message)), s)
  | unacknowledged (message : String) (s' : Store)
      (hback : ¬s.RolledBack reader env policy c execution receipt)
      (hlost : s.CommittedUnacknowledged reader env policy c execution receipt)
      (hstate : s'.row.outputState = .verified)
      (hcases : s.row.outputState = .verified ∧ s' = s ∨
        s.row.outputState ≠ .verified ∧ s'.row.status.isTerminal) :
      CommitEnd s c execution receipt (.error (.verify (.database message)), s')

variable {reader env policy}

theorem receiptArtifact_eq_ok_iff {execution : ExecutionRow} {instant : ℤ} {receipt : ByteArray}
    {artifact : ExecutionArtifactInput} :
    receiptArtifact reader env policy execution instant receipt = .ok artifact ↔
      ∃ report, parseCanonicalOutputInventory reader env receipt = .ok report ∧
        ∃ total, validateOutputVerificationRequestAt env report
            execution.outputVerificationRequired policy execution.uuid execution.retryCount
            instant = .ok total ∧
          buildOutputInventoryArtifact env report total = .ok artifact := by
  unfold receiptArtifact
  simp only [exceptBind_eq_ok_iff]

/-- The artifact of a receipt passes `validate_artifact`. -/
theorem artifactError_of_receipt {execution : ExecutionRow} {instant : ℤ} {receipt : ByteArray}
    {artifact : ExecutionArtifactInput}
    (h : receiptArtifact reader env policy execution instant receipt = .ok artifact) :
    artifactError artifact = none := by
  obtain ⟨report, -, total, -, hbuild⟩ := receiptArtifact_eq_ok_iff.mp h
  obtain ⟨mediaType, -, hartifact⟩ := buildOutputInventoryArtifact_ok env hbuild
  rw [hartifact]
  rfl

/-- What a verification leaves, when the store agrees with the artifact. -/
theorem verifyInventory_leaves {s s' : Store} {ids : FreshIds} {artifact : ExecutionArtifactInput}
    {instant : ℤ} {clock : String} {rest : ExecutionRow × ExecutionArtifactRow}
    (h : s.verifyInventory env policy ids artifact instant clock = .ok (s', rest)) :
    s'.row.outputState = .verified ∧
      (s.row.outputState = .verified ∧ s' = s ∨
        s.row.outputState ≠ .verified ∧ s'.row.status.isTerminal) := by
  obtain ⟨row, stored⟩ := rest
  obtain ⟨-, -, -, hcases⟩ := verifyExecutionOutputs_cases h
  rcases hcases with ⟨hverified, rfl, -⟩ |
    ⟨-, hwaiting, inventorySha256, artifacts, observations, registry, rfl, -, rfl⟩
  · exact ⟨hverified, .inl ⟨hverified, rfl⟩⟩
  · exact ⟨rfl, .inr ⟨ExecutionAxes.outputs_of_verifyOutputs hwaiting, rfl⟩⟩

section Verification

variable {s : Store} {c : CommitChoice} {execution : s.Listed} {artifact : ExecutionArtifactInput}

/-- A failing call leaves nothing but an error of the database. -/
theorem verifyExecutionOutputsWith_of_callFails
    (h : s.CallFails env policy c execution artifact) :
    s.verifyExecutionOutputsWith env policy c execution.row.uuid artifact =
      (.error (.database "database error"), s) := by
  unfold CallFails at h
  unfold verifyExecutionOutputsWith
  simp only [Prog.perform_eq, h, if_true]

/-- When no call fails the store decides, and then the commit. -/
theorem verifyExecutionOutputsWith_of_answered (hartifact : artifactError artifact = none)
    (h : ¬s.CallFails env policy c execution artifact) :
    (∃ s' rest, s.verifyInventory env policy c.ids artifact c.verifiedAt c.clock = .ok (s', rest) ∧
      s.verifyExecutionOutputsWith env policy c execution.row.uuid artifact =
        match c.commit with
        | .none => (.ok (), s')
        | .failed => (.error (.database "database error"), s)
        | .unacknowledged => (.error (.database "database error"), s')) ∨
    ¬s.Agrees env policy c artifact ∧ ∃ message,
      s.verifyExecutionOutputsWith env policy c execution.row.uuid artifact =
        (.error (.rejected message), s) := by
  unfold CallFails at h
  unfold verifyExecutionOutputsWith
  simp only [Prog.perform_eq, h, Bool.false_eq_true, if_false]
  rcases verifyExecutionOutputsCalls_run hartifact execution.uuid_eq with
    ⟨⟨s', rest⟩, hstore, hrun⟩ | ⟨message, hstore, hrun⟩
  · refine .inl ⟨s', rest, hstore, ?_⟩
    unfold verifyExecutionOutputsRun at hrun
    rw [hrun]
    cases c.commit <;> rfl
  · refine .inr ⟨?_, message, ?_⟩
    · rintro ⟨result, hok⟩
      rw [hstore] at hok
      cases hok
    · unfold verifyExecutionOutputsRun at hrun
      rw [hrun]

end Verification

/-- Every commit has such an end. -/
theorem commitRetrievedOutputInventory_end (s : Store) (c : CommitChoice) (execution : s.Listed)
    (receipt : ByteArray) :
    s.CommitEnd reader env policy c execution receipt
      (s.commitRetrievedOutputInventory reader env policy c execution.row receipt) := by
  unfold commitRetrievedOutputInventory
  cases hreceipt : receiptArtifact reader env policy execution.row c.receivedAt receipt with
  | error error =>
      refine .rejected _ trivial ?_ ?_
      all_goals
        rintro ⟨artifact, hok, -⟩
        rw [hreceipt] at hok
        cases hok
  | ok artifact =>
      -- the artifact of the receipt is the only one
      have hback : s.RolledBack reader env policy c execution receipt ↔
          s.CallFails env policy c execution artifact ∨
            s.Agrees env policy c artifact ∧ c.commit = .failed := by
        unfold RolledBack
        rw [hreceipt]
        exact ⟨fun ⟨_, hok, hcase⟩ => Except.ok.inj hok ▸ hcase, fun hcase => ⟨_, rfl, hcase⟩⟩
      have hlost : s.CommittedUnacknowledged reader env policy c execution receipt ↔
          ¬s.CallFails env policy c execution artifact ∧ s.Agrees env policy c artifact ∧
            c.commit = .unacknowledged := by
        unfold CommittedUnacknowledged
        rw [hreceipt]
        exact ⟨fun ⟨_, hok, hcase⟩ => Except.ok.inj hok ▸ hcase, fun hcase => ⟨_, rfl, hcase⟩⟩
      simp only
      by_cases hfails : s.CallFails env policy c execution artifact
      · rw [verifyExecutionOutputsWith_of_callFails hfails]
        exact .rolledBack _ (hback.mpr (.inl hfails)) fun h => (hlost.mp h).1 hfails
      rcases verifyExecutionOutputsWith_of_answered (artifactError_of_receipt hreceipt) hfails with
        ⟨s', rest, hstore, hwith⟩ | ⟨hdisagrees, message, hwith⟩
      · have hagrees : s.Agrees env policy c artifact := ⟨_, hstore⟩
        obtain ⟨hstate, hcases⟩ := verifyInventory_leaves hstore
        rw [hwith]
        cases hcommit : c.commit with
        | none =>
            refine .verified s' hstate (fun h => ?_) fun h => ?_
            · rcases hback.mp h with h | ⟨-, h⟩
              · exact hfails h
              · simp [hcommit] at h
            · simp [hcommit] at hlost
              exact hlost h
        | failed =>
            refine .rolledBack _ (hback.mpr (.inr ⟨hagrees, hcommit⟩)) fun h => ?_
            simp [hcommit] at hlost
            exact hlost h
        | unacknowledged =>
            refine .unacknowledged _ s' (fun h => ?_) (hlost.mpr ⟨hfails, hagrees, hcommit⟩) hstate
              hcases
            rcases hback.mp h with h | ⟨-, h⟩
            · exact hfails h
            · simp [hcommit] at h
      · rw [hwith]
        refine .rejected _ ⟨message, rfl⟩ (fun h => ?_) fun h => hdisagrees (hlost.mp h).2.1
        rcases hback.mp h with h | ⟨h, -⟩
        · exact hfails h
        · exact hdisagrees h

end Store

/-! ### Failed only on rejection -/

/-- What the poller owes to a receipt: it fails the outputs only when the receipt is rejected, and
after an error of the database the execution is listed again. -/
structure FailsOnlyOnRejection (result : Except CommitError Unit) (s s' : Store) : Prop where
  rejected : s'.row.outputState = .failed →
    s.row.outputState = .failed ∨ ∃ error, result = .error error ∧ error.IsRejection
  listed : ∀ message, result = .error (.verify (.database message)) →
    s.slurmOutputInventoryPending → s'.slurmOutputInventoryPending

/-- A failure that is handed to the handler shows in the row. -/
def Store.FailureShows (s : Store) (choices : ℕ → Choice) : Prop :=
  FailureRecorded choices ∧ s.row.status.isTerminal = false ∧ s.row.outputState ≠ .failed

/-- A verification that is rolled back does not reach the row as a failure, and a commit whose
acknowledgement is lost has no one waiting for it. -/
structure CommitCallsAnswered (reader : InventoryReader) (env : InventoryEnv) (policy : Json)
    (s : Store) (c : CommitChoice) (choices : ℕ → Choice) (execution : s.Listed)
    (receipt : ByteArray) : Prop where
  rolledBack : s.RolledBack reader env policy c execution receipt → ¬s.FailureShows choices
  unacknowledged : s.CommittedUnacknowledged reader env policy c execution receipt →
    s.slurmOutputInventoryPending = false ∧
      (s.row.outputState = .verified → ¬s.FailureShows choices)

/-- Whether an execution is listed depends on its row and on the queue. -/
theorem Store.slurmOutputInventoryPending_congr {s s' : Store} (hrow : s'.row = s.row)
    (hqueue : s'.queue = s.queue) :
    s'.slurmOutputInventoryPending = s.slurmOutputInventoryPending := by
  unfold slurmOutputInventoryPending executeLeaseActive executeJobs now
  rw [hrow, hqueue]

/-- An execution that is listed is alive, and its outputs are open. -/
theorem Store.live_of_slurmOutputInventoryPending {s : Store}
    (h : s.slurmOutputInventoryPending = true) :
    s.row.status.isTerminal = false ∧ s.row.outputState ≠ .verified ∧
      s.row.outputState ≠ .failed := by
  simp only [slurmOutputInventoryPending, Bool.and_eq_true, Bool.or_eq_true, beq_iff_eq,
    bne_iff_ne] at h
  obtain ⟨⟨⟨⟨⟨_, hverified⟩, hfailed⟩, hstatus⟩, _⟩, _⟩ := h
  refine ⟨?_, hverified, hfailed⟩
  rcases hstatus with hstatus | hstatus <;> rw [hstatus] <;> rfl

/-- The handler of a database error spares the execution unless the failure shows. -/
theorem failsOnlyOnRejection_of_database_iff {message code detail : String}
    {failureClass : FailureClass} {choices : ℕ → Choice} {s s' : Store}
    (h : (runExec (recordOutputInventoryRetrievalFailure code detail failureClass false)
      choices s).2 = s') :
    FailsOnlyOnRejection (.error (.verify (.database message))) s s' ↔ ¬s.FailureShows choices := by
  obtain ⟨hqueue, hcases⟩ := recordOutputInventoryRetrievalFailure_spec h
  constructor
  · rintro hspared ⟨hrecorded, hlive, hopen⟩
    have hfailed : s'.row.outputState = .failed := by
      rcases hcases with ⟨-, -, hfailed⟩ | ⟨hnot, -⟩
      · exact hfailed
      · exact absurd ⟨hrecorded, hlive⟩ hnot
    rcases hspared.rejected hfailed with hbefore | ⟨error, herror, hrejection⟩
    · exact hopen hbefore
    · cases herror
      obtain ⟨_, hmessage⟩ := hrejection
      cases hmessage
  · intro hshows
    rcases hcases with ⟨hrecorded, hlive, -⟩ | ⟨-, hrow⟩
    · have hbefore : s.row.outputState = .failed := by
        by_contra hopen
        exact hshows ⟨hrecorded, hlive, hopen⟩
      refine ⟨fun _ => .inl hbefore, fun _ _ hpending => ?_⟩
      exact absurd hbefore (Store.live_of_slurmOutputInventoryPending hpending).2.2
    · refine ⟨fun hfailed => .inl (hrow ▸ hfailed), fun _ _ hpending => ?_⟩
      rwa [Store.slurmOutputInventoryPending_congr hrow hqueue]

/-- A failing call of the verification is the error of the commit. -/
theorem Store.commitRetrievedOutputInventory_of_callFails {s : Store} {c : CommitChoice}
    {execution : s.Listed} {receipt : ByteArray} {artifact : ExecutionArtifactInput}
    (hreceipt : receiptArtifact reader env policy execution.row c.receivedAt receipt = .ok artifact)
    (hfails : s.CallFails env policy c execution artifact) :
    s.commitRetrievedOutputInventory reader env policy c execution.row receipt =
      (.error (.verify (.database "database error")), s) := by
  unfold commitRetrievedOutputInventory
  simp only [hreceipt, verifyExecutionOutputsWith_of_callFails hfails]
  rfl

/-- A failing call breaks what the poller owes to a valid receipt, when the failure shows. -/
theorem Store.not_failsOnlyOnRejection_of_callFails {s : Store} {c : CommitChoice}
    {choices : ℕ → Choice} {execution : s.Listed} {receipt : ByteArray}
    {artifact : ExecutionArtifactInput}
    (hreceipt : receiptArtifact reader env policy execution.row c.receivedAt receipt = .ok artifact)
    (hfails : s.CallFails env policy c execution artifact) (hshows : s.FailureShows choices) :
    ¬FailsOnlyOnRejection
      (s.commitRetrievedOutputInventory reader env policy c execution.row receipt).1 s
      (s.retrieveOutputInventory reader env policy c choices execution.row receipt).2 := by
  unfold retrieveOutputInventory
  rw [commitRetrievedOutputInventory_of_callFails reader env policy hreceipt hfails]
  exact fun hspared => (failsOnlyOnRejection_of_database_iff rfl).mp hspared hshows

/-- **A receipt is failed only on rejection exactly when the calls that matter are answered.** -/
theorem failsOnlyOnRejection_iff (reader : InventoryReader) (env : InventoryEnv)
    (policy : Json) (s : Store) (c : CommitChoice) (choices : ℕ → Choice) (execution : s.Listed)
    (receipt : ByteArray) :
    FailsOnlyOnRejection
        (s.commitRetrievedOutputInventory reader env policy c execution.row receipt).1 s
        (s.retrieveOutputInventory reader env policy c choices execution.row receipt).2 ↔
      CommitCallsAnswered reader env policy s c choices execution receipt := by
  have hend : s.CommitEnd reader env policy c execution receipt
      (s.commitRetrievedOutputInventory reader env policy c execution.row receipt) :=
    s.commitRetrievedOutputInventory_end c execution receipt
  unfold Store.retrieveOutputInventory
  generalize s.commitRetrievedOutputInventory reader env policy c execution.row receipt = commit
    at hend ⊢
  cases hend with
  | verified s' hstate hback hlost =>
      refine ⟨fun _ => ⟨fun h => absurd h hback, fun h => absurd h hlost⟩, fun _ => ⟨?_, ?_⟩⟩
      · intro hfailed
        rw [hstate] at hfailed
        cases hfailed
      · intro message herror
        cases herror
  | rejected error hrejection hback hlost =>
      refine ⟨fun _ => ⟨fun h => absurd h hback, fun h => absurd h hlost⟩,
        fun _ => ⟨fun _ => .inr ⟨error, rfl, hrejection⟩, ?_⟩⟩
      rintro message herror
      cases herror
      obtain ⟨_, hmessage⟩ := hrejection
      cases hmessage
  | rolledBack message hback hlost =>
      refine (failsOnlyOnRejection_of_database_iff rfl).trans ⟨fun hspared => ?_, fun h => ?_⟩
      · exact ⟨fun _ => hspared, fun h => absurd h hlost⟩
      · exact h.rolledBack hback
  | unacknowledged message s' hback hlost hstate hcases =>
      rcases hcases with ⟨hverified, rfl⟩ | ⟨hopen, hterminal⟩
      · -- the inventory had been accepted before, and nothing was written
        refine (failsOnlyOnRejection_of_database_iff rfl).trans ⟨fun hspared => ?_, fun h => ?_⟩
        · refine ⟨fun h => absurd h hback, fun _ => ⟨?_, fun _ => hspared⟩⟩
          by_contra hpending
          rw [Bool.not_eq_false] at hpending
          exact (Store.live_of_slurmOutputInventoryPending hpending).2.1 hverified
        · exact (h.unacknowledged hlost).2 hverified
      · -- the execution is completed, and the handler finds it so
        simp only
        generalize hhandled : (runExec (recordOutputInventoryRetrievalFailure "inventory_rejected"
          (boundedOutputInventoryError (CommitError.verify (.database message)).text) .validation
          false) choices s').2 = final
        obtain ⟨-, ⟨-, hlive, -⟩ | ⟨-, hrow⟩⟩ := recordOutputInventoryRetrievalFailure_spec hhandled
        · rw [hterminal] at hlive
          cases hlive
        have hfinal : final.row.outputState = .verified := hrow ▸ hstate
        constructor
        · intro hspared
          refine ⟨fun h => absurd h hback, fun _ => ⟨?_, fun hverified => absurd hverified hopen⟩⟩
          by_contra hpending
          rw [Bool.not_eq_false] at hpending
          exact (Store.live_of_slurmOutputInventoryPending
            (hspared.listed message rfl hpending)).2.1 hfinal
        · intro hanswered
          refine ⟨fun hfailed => ?_, fun _ _ hpending => ?_⟩
          · rw [hfinal] at hfailed
            cases hfailed
          · rw [(hanswered.unacknowledged hlost).1] at hpending
            cases hpending

end Env

/-! ### A lost connection -/

/-- The inventory of one image, for the nil execution. -/
def retrievedReport : ExecutionOutputVerificationRequest :=
  { sampleReport "receipt-1" with executionId := 0 }

/-- What serializes it. -/
def retrievalCodec : InventoryEnv :=
  { sampleCodec with
    digest := fun text =>
      if text.head? = some '[' then
        "39605715f18f00288b0241a6da73fef4cb877d7874dd5571ef85d4bb3ba2bf27"
      else "0771370e841dde2309a677f5b686971fa85a561331525e9c6df98b9527caef7b"
    uuidText := InventoryEnv.plain.uuidText
    timeText := InventoryEnv.plain.timeText }

/-- What reads it back. -/
def retrievalEnv : InventoryEnv :=
  { retrievalCodec with
    fromValue := fun value =>
      if value = retrievedReport.toValue retrievalCodec then .ok retrievedReport
      else .error "invalid type" }

/-- The receipt of the inventory. -/
def retrievedReceipt : ByteArray :=
  canonicalUtf8 retrievalEnv (retrievedReport.toValue retrievalEnv)

/-- The execution has succeeded outside, and its outputs are still to be verified. -/
def retrievedStore : Store :=
  { sampleStore with
    row :=
      { sampleRow with
        uuid := 0
        controlPhase := .outputVerification
        submissionState := .submitted
        schedulerName := some "slurm"
        schedulerJobId := some "17"
        schedulerState := .succeeded
        daliugeSessionId := some "session-1"
        daliugeState := .finished
        outputState := .pending
        outputVerificationRequired := true
        remoteSessionDir := some "/scratch/session-1"
        status := .running } }

/-- Its row, as listed. -/
def retrievedListing : retrievedStore.Listed := ⟨retrievedStore.row, rfl⟩

/-- The transaction of the verification cannot be begun. -/
def lostConnection : CommitChoice :=
  { ids := {}
    receivedAt := 0
    verifiedAt := 0
    clock := "00:00"
    fails := fun call => call == .begin
    commit := .none }

/-- The database is back for the handler. -/
def answeredChoices : ℕ → Choice := fun _ =>
  { fault := .none, ids := {}, locked := [], answer := sampleAnswer }

/-- The codecs read the inventory. -/
theorem retrievalEnv_reads : InventoryReader.plain.Reads retrievalEnv where
  toReads := InventoryReader.plain_reads.toReads
  uuid := InventoryReader.plain_reads.uuid
  uuid_lt := InventoryReader.plain_reads.uuid_lt
  time := InventoryReader.plain_reads.time
  time_range := InventoryReader.plain_reads.time_range

/-- The artifact of the receipt. -/
def retrievedArtifact : ExecutionArtifactInput :=
  { sampleInventory "receipt-1" with
    inlineJson := some (retrievedReport.toValue retrievalEnv)
    sha256 := retrievedReport.toValue retrievalEnv
    metadata :=
      .obj [("execution_id", .str nilUuidText), ("execution_attempt", .num (.int 0)),
        ("inventory_schema", .str beampipeOutputInventorySchema),
        ("inventory_sha256", .str retrievedReport.inventorySha256),
        ("product_count", .num (.int 1)), ("total_product_bytes", .num (.int 4)),
        ("publication", retrievedReport.publication.toValue retrievalEnv)] }

theorem retrievedReceipt_artifact :
    receiptArtifact InventoryReader.plain retrievalEnv samplePolicy retrievedListing.row 0
      retrievedReceipt = .ok retrievedArtifact := by
  have hcounts : ∀ entry ∈ retrievedReport.patternCounts.toList,
      entry.2 < 18446744073709551616 := by
    decide +kernel
  have hsize : 1 ≤ retrievedReceipt.size ∧ retrievedReceipt.size ≤ maxOutputInventoryBytes := by
    unfold retrievedReceipt
    rw [canonicalUtf8_size]
    decide +kernel
  have hread : fromSlice InventoryReader.plain retrievedReceipt = some retrievedReport :=
    fromSlice_canonicalUtf8 ScalarText.plain_faithful retrievalEnv_reads
      ⟨by decide, by decide, by decide, hcounts, by decide⟩
  have hparse : parseCanonicalOutputInventory InventoryReader.plain retrievalEnv retrievedReceipt =
      .ok retrievedReport := by
    unfold parseCanonicalOutputInventory parseCanonicalOutputInventoryWithin
    have hcanonical : canonicalUtf8 retrievalEnv (retrievedReport.toValue retrievalEnv) =
        retrievedReceipt := rfl
    rw [if_neg (by omega), hread]
    exact if_pos hcanonical
  have hvalid : validateOutputVerificationRequestAt retrievalEnv retrievedReport
      retrievedListing.row.outputVerificationRequired samplePolicy retrievedListing.row.uuid
      retrievedListing.row.retryCount 0 = .ok 4 := by
    decide +kernel
  have hbuild : buildOutputInventoryArtifact retrievalEnv retrievedReport 4 =
      .ok retrievedArtifact := by
    decide +kernel
  exact Store.receiptArtifact_eq_ok_iff.mpr ⟨_, hparse, _, hvalid, hbuild⟩

/-- A valid receipt whose verification finds no database fails the outputs of the execution. -/
theorem lost_connection_fails_outputs :
    let commit := retrievedStore.commitRetrievedOutputInventory InventoryReader.plain retrievalEnv
      samplePolicy lostConnection retrievedListing.row retrievedReceipt
    let final := retrievedStore.retrieveOutputInventory InventoryReader.plain retrievalEnv
      samplePolicy lostConnection answeredChoices retrievedListing.row retrievedReceipt
    retrievedStore.slurmOutputInventoryPending ∧
      receiptArtifact InventoryReader.plain retrievalEnv samplePolicy retrievedListing.row 0
        retrievedReceipt = .ok retrievedArtifact ∧
      commit.1 = .error (.verify (.database "database error")) ∧
      ¬FailsOnlyOnRejection commit.1 retrievedStore final.2 := by
  have hpending : retrievedStore.slurmOutputInventoryPending = true := by decide +kernel
  have hfails : retrievedStore.CallFails retrievalEnv samplePolicy lostConnection retrievedListing
      retrievedArtifact := by
    unfold Store.CallFails
    decide +kernel
  have hshows : retrievedStore.FailureShows answeredChoices := ⟨⟨rfl, by decide⟩, rfl, by decide⟩
  have hcommit := Store.commitRetrievedOutputInventory_of_callFails InventoryReader.plain
    retrievalEnv samplePolicy (c := lostConnection) retrievedReceipt_artifact hfails
  have hnot := Store.not_failsOnlyOnRejection_of_callFails InventoryReader.plain retrievalEnv
    samplePolicy (c := lostConnection) retrievedReceipt_artifact hfails hshows
  exact ⟨hpending, retrievedReceipt_artifact, congrArg Prod.fst hcommit, hnot⟩

end Beampipe
