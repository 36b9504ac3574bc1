/-
The completion gate of required outputs.

An execution that requires verified outputs completes only after an inventory of them has been
accepted for its current attempt.  Three writers can complete it: the verification itself, the state
patch through the reconciliation, and the ledger patch.  The last two rely on `output_state`, so the
gate holds as long as nothing but the verification makes it `verified`.

Main definitions:

* `Beampipe.Store.verifyInventory` — `verify_execution_outputs` on an artifact;
* `Beampipe.GateStep`, `Beampipe.Store.gateStep` — the runs;
* `Beampipe.Store.KeepsGate` — the steps that leave verification to the verification;
* `Beampipe.Store.Gated` — the invariant.

Main results:

* `Beampipe.completion_gate` — **completed means verified for the current attempt**, a verification
  can be replayed, and another inventory is rejected.
-/

import Beampipe.LedgerRuns
import Beampipe.OutputInventory

set_option relaxedAutoImplicit false
set_option autoImplicit false

namespace Beampipe

/-! ### Runs -/

/-- The step is a verification. -/
def RepositoryStep.verifies : RepositoryStep → Bool
  | .call _ _ (.verifyExecutionOutputs _ _) => true
  | _ => false

/-- A step of the repository; a verification brings its artifact at an instant. -/
inductive GateStep where
  | verifyExecutionOutputs (ids : FreshIds) (artifact : ExecutionArtifactInput) (instant : ℤ)
      (clock : String)
  | other (i : RepositoryStep) (h : i.verifies = false)

section Env

variable (env : InventoryEnv) (policy : Json)

/-- The artifact is accepted for the current attempt of the execution. -/
def ExecutionRow.accepts (row : ExecutionRow) (instant : ℤ) (artifact : ExecutionArtifactInput) :
    Except String Unit :=
  acceptInventory env row.outputVerificationRequired policy row.uuid row.retryCount instant artifact

/-- The schema that the report of the artifact names. -/
def reportSchema (artifact : ExecutionArtifactInput) : String :=
  match (artifact.inlineJson.map env.fromValue) with
  | some (.ok report) => report.schema
  | _ => ""

namespace Store

/-- `verify_execution_outputs`; `policy` is the pinned output policy of the execution. -/
def verifyInventory (s : Store) (ids : FreshIds) (artifact : ExecutionArtifactInput) (instant : ℤ)
    (clock : String) : Except String (Store × ExecutionRow × ExecutionArtifactRow) :=
  s.verifyExecutionOutputs (ids.first, ids.second) artifact
    (fun row => row.accepts env policy instant artifact) (reportSchema env artifact)
    (env.digest (canonicalJsonBytes env artifact.sha256)) clock

/-- One step; a verification that fails changes nothing. -/
def gateStep (s : Store) : GateStep → Store
  | .verifyExecutionOutputs ids artifact instant clock =>
      match s.verifyInventory env policy ids artifact instant clock with
      | .ok (s', _) => s'
      | .error _ => s
  | .other i _ => s.step i

end Store

/-- The row holds an inventory that is valid for some attempt of the execution. -/
def ExecutionRow.IsInventory (row : ExecutionRow) (stored : ExecutionArtifactRow) : Prop :=
  ∃ artifact attempt instant,
    acceptInventory env row.outputVerificationRequired policy row.uuid attempt instant artifact =
      .ok () ∧ stored.Holds artifact

/-- The step leaves verification to the verification: no state patch makes the outputs of an
execution `verified` before its end, and no inventory is stored on its own. -/
def Store.KeepsGate (s : Store) : GateStep → Prop
  | .other (.call _ _ (.applyExecutionStatePatch patch)) _ =>
      s.row.status.isTerminal ∨ patch.outputState ≠ some .verified
  | .other (.call ids _ (.storeExecutionArtifact artifact)) _ =>
      (s.findArtifact artifact.kind artifact.sha256).isSome ∨
        ¬s.row.IsInventory env policy (artifact.row ids.first s.now)
  | _ => True

/-! ### The invariant -/

/-- The artifact was accepted for the current attempt, `stored` holds it, and no other inventory is
stored. -/
structure Store.VerifiedBy (s : Store) (artifact : ExecutionArtifactInput) (instant : ℤ)
    (stored : ExecutionArtifactRow) : Prop where
  accepted : s.row.accepts env policy instant artifact = .ok ()
  found : s.findArtifact "output_inventory" artifact.sha256 = some stored
  holds : stored.Holds artifact
  only : ∀ other ∈ s.artifacts, s.row.IsInventory env policy other → other.Holds artifact

/-- The gate: completed and verified are one, and an inventory is stored exactly then. -/
structure Store.Gated (s : Store) : Prop where
  required : s.row.outputVerificationRequired
  completed_iff : s.row.status = .completed ↔ s.row.outputState = .verified
  verified : s.row.status = .completed →
    ∃ artifact instant stored, s.VerifiedBy env policy artifact instant stored
  unverified : s.row.status ≠ .completed →
    ∀ stored ∈ s.artifacts, ¬s.row.IsInventory env policy stored

variable {env : InventoryEnv} {policy : Json}

/-- Whether a row holds an inventory does not change while the execution is the same. -/
theorem ExecutionRow.SameExecution.isInventory_iff {row row' : ExecutionRow}
    (h : row.SameExecution row') (stored : ExecutionArtifactRow) :
    row'.IsInventory env policy stored ↔ row.IsInventory env policy stored := by
  unfold ExecutionRow.IsInventory
  rw [h.outputVerificationRequired, h.uuid]

/-- An inventory has the kind of one. -/
theorem ExecutionRow.IsInventory.kind {row : ExecutionRow} {stored : ExecutionArtifactRow}
    (h : row.IsInventory env policy stored) : stored.kind = "output_inventory" := by
  obtain ⟨artifact, attempt, instant, haccepted, hholds⟩ := h
  obtain ⟨value, report, total, -, -, -, hbuild⟩ := acceptInventory_ok haccepted
  obtain ⟨mediaType, -, heq⟩ := buildOutputInventoryArtifact_ok env hbuild
  rw [hholds.kind, heq]

namespace Store

theorem VerifiedBy.isInventory {s : Store} {artifact : ExecutionArtifactInput} {instant : ℤ}
    {stored : ExecutionArtifactRow} (h : s.VerifiedBy env policy artifact instant stored) :
    s.row.IsInventory env policy stored :=
  ⟨artifact, _, instant, h.accepted, h.holds⟩

end Store

/-! ### What a step does to the gate -/

/-- The step is no verification: it neither completes nor verifies the execution, a completed
execution keeps its attempt, and what is stored is no inventory. -/
structure Store.LeavesGate (env : InventoryEnv) (policy : Json) (s s' : Store) : Prop where
  same : s.row.SameExecution s'.row
  completed : s'.row.status = .completed ↔ s.row.status = .completed
  verified : s'.row.outputState = .verified ↔ s.row.outputState = .verified
  attempt : s.row.status = .completed → s'.row.retryCount = s.row.retryCount
  artifacts : s'.artifacts = s.artifacts ∨
    ∃ new, s'.artifacts = s.artifacts ++ [new] ∧ ¬s.row.IsInventory env policy new

/-- The row passes the completion gate only with verified outputs. -/
theorem ExecutionRow.not_completed_of_gate {row : ExecutionRow} (hgate : row.completionGate)
    (hrequired : row.outputVerificationRequired) (hverified : row.outputState ≠ .verified) :
    row.status ≠ .completed := by
  intro hcompleted
  simp [completionGate, hcompleted, hrequired, hverified] at hgate

theorem ExecutionRow.not_completed_of_live {row : ExecutionRow}
    (hlive : row.status.isTerminal = false) : row.status ≠ .completed := by
  intro hcompleted
  rw [hcompleted] at hlive
  cases hlive

/-- What a transaction other than a verification does to the row of a gated execution. -/
theorem Store.Gated.rowStep {s : Store} (h : s.Gated env policy) {t : Tx} {row' : ExecutionRow}
    (hrow : RowStep s t row') (ht : ∀ report clock, t ≠ .verifyExecutionOutputs report clock)
    (hpatch : ∀ patch, t = .applyExecutionStatePatch patch →
      s.row.status.isTerminal ∨ patch.outputState ≠ some .verified) :
    (row'.status = .completed ↔ s.row.status = .completed) ∧
      (row'.outputState = .verified ↔ s.row.outputState = .verified) ∧
      (s.row.status = .completed → row'.retryCount = s.row.retryCount) := by
  -- an execution that is not completed has no verified outputs
  have hopen : s.row.status ≠ .completed → s.row.outputState ≠ .verified :=
    fun hne hverified => hne (h.completed_iff.mpr hverified)
  cases hrow with
  | kept hsame => exact ⟨by rw [hsame.status], by rw [hsame.outputState], fun _ => hsame.retryCount⟩
  | patched happly =>
      obtain ⟨next, hnext, rfl, hgate⟩ := ExecutionRow.applyPatch_cases happly
      refine ⟨⟨fun hcompleted => ?_, fun hcompleted => ?_⟩, by simp, fun hcompleted => ?_⟩
      · by_contra hne
        exact ExecutionRow.not_completed_of_gate hgate (by simpa using h.required)
          (by simpa using hopen hne) hcompleted
      all_goals
        have hlocked : s.row.status.isLockedTerminal := by
          rw [hcompleted]
          rfl
        have hcases := ExecutionRow.effectiveStatus_of_locked hlocked hnext
      · rcases hcases with rfl | ⟨rfl, -⟩ <;> simp [hcompleted]
      · refine ExecutionRow.patched_retryCount_of_ne _ _ _ _ ?_
        rcases hcases with rfl | ⟨rfl, -⟩ <;> simp [hcompleted]
  | @reconciled patch hlive =>
      have hne := ExecutionRow.not_completed_of_live hlive
      have houtputs : (s.row.project patch).outputState ≠ .verified := by
        have hreported : patch.outputState ≠ some .verified :=
          (hpatch patch rfl).resolve_left (by simp [hlive])
        change patch.outputState.getD s.row.outputState ≠ .verified
        cases hstate : patch.outputState with
        | none => exact hopen hne
        | some state => simpa [hstate] using hreported
      have hstatus : (s.row.applyStatePatch patch s.now).status ≠ .completed := by
        rw [ExecutionRow.applyStatePatch_of_live hlive, ExecutionRow.aggregate_status]
        unfold ExecutionRow.aggregateStatus
        split
        · exact hne
        · rw [ne_eq, ExecutionAxes.reconcile_completed_iff]
          rintro ⟨-, -, hgate⟩
          exact houtputs (hgate h.required)
      refine ⟨iff_of_false hstatus hne, iff_of_false ?_ (hopen hne),
        fun hcompleted => absurd hcompleted hne⟩
      rw [ExecutionRow.applyStatePatch_of_live hlive]
      exact houtputs
  | @received input hallowed hgate =>
      refine ⟨⟨fun hcompleted => ?_, fun hcompleted => ?_⟩, Iff.rfl, fun _ => rfl⟩
      · by_contra hne
        exact ExecutionRow.not_completed_of_gate hgate h.required (hopen hne) hcompleted
      · simp [ExecutionRow.recordReceipt, hcompleted, ExecutionStatus.isTerminal]
  | verified haccepted hlive => exact absurd rfl (ht _ _)
  | retried hfailed =>
      have hne : s.row.status ≠ .completed := by simp [hfailed]
      refine ⟨iff_of_false (by simp [ExecutionRow.resetForRetry]) hne, iff_of_false ?_ (hopen hne),
        fun hcompleted => absurd hcompleted hne⟩
      simp [ExecutionRow.resetForRetry, h.required]
  | cancelled hcancellable =>
      have hne : s.row.status ≠ .completed := by
        intro hcompleted
        rw [hcompleted] at hcancellable
        cases hcancellable
      exact ⟨iff_of_false (by simp [ExecutionRow.cancel]) hne, Iff.rfl,
        fun hcompleted => absurd hcompleted hne⟩
  | abandoned hlive =>
      have hne := ExecutionRow.not_completed_of_live hlive
      exact ⟨iff_of_false (by simp [Store.abandonedRow]) hne, Iff.rfl,
        fun hcompleted => absurd hcompleted hne⟩

/-- What a step other than a verification does to the gate. -/
theorem Store.Gated.step_leavesGate {s : Store} (h : s.Gated env policy) {i : RepositoryStep}
    (hi : i.verifies = false) (hkeeps : s.KeepsGate env policy (.other i hi)) :
    s.LeavesGate env policy (s.step i) := by
  have hrefl : s.LeavesGate env policy s :=
    ⟨.refl _, Iff.rfl, Iff.rfl, fun _ => rfl, .inl rfl⟩
  cases i with
  | outside registry queue => exact ⟨.refl _, Iff.rfl, Iff.rfl, fun _ => rfl, .inl rfl⟩
  | call ids locked t =>
      rcases s.step_call ids locked t with hsame | ⟨result, hrun⟩
      · rwa [hsame]
      have hnot : ∀ report clock, t ≠ .verifyExecutionOutputs report clock := by
        rintro report clock rfl
        cases hi
      obtain ⟨hcompleted, hverified, hattempt⟩ := h.rowStep (Tx.run_rowStep hrun) hnot (by
        rintro patch rfl
        exact hkeeps)
      refine ⟨Tx.run_identity hrun, hcompleted, hverified, hattempt, ?_⟩
      rcases Tx.run_artifacts hrun with hsame | ⟨report, clock, rfl⟩ | ⟨new, hnew, horigin⟩
      · exact .inl hsame
      · cases hi
      · refine .inr ⟨new, hnew, fun hinventory => ?_⟩
        rcases horigin with hkind | ⟨artifact, rfl, rfl, hfresh⟩
        · have hother := hinventory.kind
          rw [hkind] at hother
          exact absurd hother (by decide)
        · rcases hkeeps with hfound | hnone
          · rw [hfresh] at hfound
            cases hfound
          · exact hnone hinventory

namespace Store

/-- The verification of a completed execution survives such a step. -/
theorem VerifiedBy.of_leavesGate {s s' : Store} {artifact : ExecutionArtifactInput} {instant : ℤ}
    {stored : ExecutionArtifactRow} (h : s.VerifiedBy env policy artifact instant stored)
    (hcompleted : s.row.status = .completed) (hleaves : s.LeavesGate env policy s') :
    s'.VerifiedBy env policy artifact instant stored := by
  refine ⟨?_, ?_, h.holds, ?_⟩
  · have haccepted := h.accepted
    unfold ExecutionRow.accepts at haccepted ⊢
    rwa [hleaves.same.outputVerificationRequired, hleaves.same.uuid, hleaves.attempt hcompleted]
  · have hfound := h.found
    unfold findArtifact at hfound ⊢
    rcases hleaves.artifacts with hsame | ⟨new, hnew, -⟩
    · rwa [hsame]
    · rw [hnew, List.find?_append, hfound]
      rfl
  · intro other hother hinventory
    rw [hleaves.same.isInventory_iff] at hinventory
    rcases hleaves.artifacts with hsame | ⟨new, hnew, hnone⟩
    · rw [hsame] at hother
      exact h.only other hother hinventory
    · rw [hnew] at hother
      rcases List.mem_append.mp hother with hold | hlast
      · exact h.only other hold hinventory
      · rw [List.mem_singleton.mp hlast] at hinventory
        exact absurd hinventory hnone

/-- The gate survives such a step. -/
theorem Gated.of_leavesGate {s s' : Store} (h : s.Gated env policy)
    (hleaves : s.LeavesGate env policy s') : s'.Gated env policy where
  required := hleaves.same.outputVerificationRequired ▸ h.required
  completed_iff := hleaves.completed.trans (h.completed_iff.trans hleaves.verified.symm)
  verified hcompleted := by
    have hbefore := hleaves.completed.mp hcompleted
    obtain ⟨artifact, instant, stored, hby⟩ := h.verified hbefore
    exact ⟨artifact, instant, stored, hby.of_leavesGate hbefore hleaves⟩
  unverified hopen other hother hinventory := by
    have hbefore : s.row.status ≠ .completed := fun hc => hopen (hleaves.completed.mpr hc)
    rw [hleaves.same.isInventory_iff] at hinventory
    rcases hleaves.artifacts with hsame | ⟨new, hnew, hnone⟩
    · rw [hsame] at hother
      exact h.unverified hbefore other hother hinventory
    · rw [hnew] at hother
      rcases List.mem_append.mp hother with hold | hlast
      · exact h.unverified hbefore other hold hinventory
      · rw [List.mem_singleton.mp hlast] at hinventory
        exact hnone hinventory

end Store

/-! ### The verification -/

namespace Store

/-- A verification that succeeds leaves the execution completed, and verified by its artifact. -/
theorem Gated.verifyInventory {s s' : Store} (h : s.Gated env policy) {ids : FreshIds}
    {artifact : ExecutionArtifactInput} {instant : ℤ} {clock : String} {row : ExecutionRow}
    {stored : ExecutionArtifactRow}
    (hok : s.verifyInventory env policy ids artifact instant clock = .ok (s', row, stored)) :
    s'.Gated env policy ∧ s'.row.status = .completed ∧
      s'.VerifiedBy env policy artifact instant stored ∧ (s.row.status = .completed → s' = s) := by
  obtain ⟨haccepted, hfound, hholds, hcases⟩ := verifyExecutionOutputs_cases hok
  have hinventory : s.row.IsInventory env policy stored := ⟨artifact, _, instant, haccepted, hholds⟩
  rcases hcases with ⟨hverified, rfl, -⟩ |
    ⟨hlive, -, inventorySha256, artifacts, observations, registry, rfl, hartifacts, rfl⟩
  · -- a replay: the inventory is the one that is stored
    have hcompleted := h.completed_iff.mpr hverified
    refine ⟨h, hcompleted, ⟨haccepted, hfound, hholds, ?_⟩, fun _ => rfl⟩
    obtain ⟨artifact₀, instant₀, stored₀, hby⟩ := h.verified hcompleted
    have hmem := (findArtifact_some hfound).1
    have hsame : artifact₀ = artifact :=
      acceptInventory_unique haccepted hby.accepted hholds (hby.only stored hmem hinventory)
    rw [← hsame]
    exact hby.only
  · have hne := ExecutionRow.not_completed_of_live hlive
    -- no inventory was there, so the artifact has been added
    have hnew : artifacts = s.artifacts ++ [stored] := by
      refine hartifacts.resolve_left fun hsame => ?_
      rw [hsame] at hfound
      exact h.unverified hne stored (findArtifact_some hfound).1 hinventory
    subst hnew
    refine ⟨⟨h.required, iff_of_true rfl rfl, fun _ => ⟨artifact, instant, stored, ?_⟩,
      fun hopen => absurd rfl hopen⟩, rfl, ?_, fun hcompleted => absurd hcompleted hne⟩
    all_goals
      refine ⟨haccepted, hfound, hholds, fun other hother hother' => ?_⟩
      rcases List.mem_append.mp hother with hold | hlast
      · exact absurd hother' (h.unverified hne other hold)
      · rw [List.mem_singleton.mp hlast]
        exact hholds

/-- A verification succeeds or changes nothing. -/
theorem gateStep_verifyExecutionOutputs (env : InventoryEnv) (policy : Json) (s : Store)
    (ids : FreshIds) (artifact : ExecutionArtifactInput) (instant : ℤ) (clock : String) :
    s.gateStep env policy (.verifyExecutionOutputs ids artifact instant clock) = s ∨
      ∃ result, s.verifyInventory env policy ids artifact instant clock =
        .ok (s.gateStep env policy (.verifyExecutionOutputs ids artifact instant clock), result) := by
  cases hok : s.verifyInventory env policy ids artifact instant clock with
  | error error => exact .inl (by simp only [gateStep, hok])
  | ok outcome => exact .inr ⟨outcome.2, by simp only [gateStep, hok]⟩

/-- Every step keeps the gate. -/
theorem Gated.gateStep {s : Store} (h : s.Gated env policy) {i : GateStep}
    (hkeeps : s.KeepsGate env policy i) : (s.gateStep env policy i).Gated env policy := by
  cases i with
  | other i hi => exact h.of_leavesGate (h.step_leavesGate hi hkeeps)
  | verifyExecutionOutputs ids artifact instant clock =>
      rcases s.gateStep_verifyExecutionOutputs env policy ids artifact instant clock with
        hsame | ⟨⟨row, stored⟩, hok⟩
      · rwa [hsame]
      · exact (h.verifyInventory hok).1

/-- Every step keeps the verification of a completed execution. -/
theorem VerifiedBy.gateStep {s : Store} (h : s.Gated env policy)
    {artifact : ExecutionArtifactInput} {instant : ℤ} {stored : ExecutionArtifactRow}
    (hcompleted : s.row.status = .completed)
    (hby : s.VerifiedBy env policy artifact instant stored) {i : GateStep}
    (hkeeps : s.KeepsGate env policy i) :
    (s.gateStep env policy i).row.status = .completed ∧
      (s.gateStep env policy i).VerifiedBy env policy artifact instant stored := by
  cases i with
  | other i hi =>
      have hleaves := h.step_leavesGate hi hkeeps
      exact ⟨hleaves.completed.mpr hcompleted, hby.of_leavesGate hcompleted hleaves⟩
  | verifyExecutionOutputs ids artifact' instant' clock =>
      have hsame : s.gateStep env policy (.verifyExecutionOutputs ids artifact' instant' clock) = s := by
        rcases s.gateStep_verifyExecutionOutputs env policy ids artifact' instant' clock with
          hsame | ⟨⟨row, stored'⟩, hok⟩
        · exact hsame
        · exact (h.verifyInventory hok).2.2.2 hcompleted
      rw [hsame]
      exact ⟨hcompleted, hby⟩

/-- A verified artifact passes the checks that do not read the row again. -/
theorem verifyInventory_replay {s t : Store} {result : Store × ExecutionRow × ExecutionArtifactRow}
    {ids ids' : FreshIds} {artifact : ExecutionArtifactInput} {instant instant' : ℤ}
    {clock clock' : String} {stored : ExecutionArtifactRow} (hle : instant ≤ instant')
    (hbefore : s.verifyInventory env policy ids artifact instant clock = .ok result)
    (hverified : t.row.outputState = .verified)
    (hby : t.VerifiedBy env policy artifact instant stored) :
    t.verifyInventory env policy ids' artifact instant' clock' = .ok (t, t.row, stored) := by
  have haccepted : t.row.accepts env policy instant' artifact = .ok () :=
    acceptInventory_mono hle hby.accepted
  unfold verifyInventory verifyExecutionOutputs at hbefore ⊢
  split at hbefore
  · cases hbefore
  next hkind =>
    split at hbefore
    · cases hbefore
    next inventorySha256 hdigest =>
      simp only [if_neg hkind, haccepted, if_pos hverified, hby.found]
      simp [Option.filter, hby.holds.uri, hby.holds.inlineJson, hby.holds.metadata]

/-- Another inventory is rejected. -/
theorem verifyInventory_rejects {s : Store} (h : s.Gated env policy)
    (hcompleted : s.row.status = .completed) {artifact artifact' : ExecutionArtifactInput}
    {instant : ℤ} {stored : ExecutionArtifactRow}
    (hby : s.VerifiedBy env policy artifact instant stored) (hne : artifact' ≠ artifact)
    (ids : FreshIds) (instant' : ℤ) (clock : String) :
    ∃ error, s.verifyInventory env policy ids artifact' instant' clock = .error error := by
  cases hok : s.verifyInventory env policy ids artifact' instant' clock with
  | error error => exact ⟨error, rfl⟩
  | ok result =>
      obtain ⟨s', row, stored'⟩ := result
      obtain ⟨-, -, hby', hsame⟩ := h.verifyInventory hok
      obtain rfl := hsame hcompleted
      -- both verified the same store, so both are held by its inventory
      have hmem := (findArtifact_some hby'.found).1
      have hholds := hby.only stored' hmem hby'.isInventory
      exact absurd (acceptInventory_unique hby.accepted hby'.accepted hholds hby'.holds) hne

end Store

/-! ### The gate over runs -/

section Run

variable {s : Store} {steps : List GateStep}

/-- A created execution that requires verified outputs is gated. -/
theorem Store.CreatedRow.gated (hrow : Store.CreatedRow s.row)
    (hartifacts : s.artifacts = []) (hrequired : s.row.outputVerificationRequired) :
    s.Gated env policy where
  required := hrequired
  completed_iff := by
    rw [hrow.status, hrow.outputState, if_pos hrequired]
    decide
  verified hcompleted := by
    rw [hrow.status] at hcompleted
    cases hcompleted
  unverified _ stored hstored := by
    rw [hartifacts] at hstored
    cases hstored

/-- **The completion gate.**  An execution that requires verified outputs is created, and no step
makes its outputs verified or stores an inventory but the verification.  Whenever it is completed,
its outputs are verified and an inventory that was accepted for its current attempt is stored.  After
a verification has succeeded, the same artifact brought again later returns the same inventory and
changes nothing, and every other artifact is rejected and changes nothing. -/
theorem completion_gate (env : InventoryEnv) (policy : Json) (hrow : Store.CreatedRow s.row)
    (hartifacts : s.artifacts = []) (hrequired : s.row.outputVerificationRequired)
    (hmeets : Runs.Meets (Store.gateStep env policy) (Store.KeepsGate env policy) s steps) :
    let final := Runs.exec (Store.gateStep env policy) s steps
    (final.row.status = .completed →
      final.row.outputState = .verified ∧
        ∃ stored ∈ final.artifacts, ∃ artifact instant,
          final.row.accepts env policy instant artifact = .ok () ∧ stored.Holds artifact) ∧
    ∀ before after ids artifact instant clock s' row stored,
      steps = before ++ .verifyExecutionOutputs ids artifact instant clock :: after →
      (Runs.exec (Store.gateStep env policy) s before).verifyInventory env policy ids artifact
        instant clock = .ok (s', row, stored) →
      (∀ ids' instant' clock', instant ≤ instant' →
        final.verifyInventory env policy ids' artifact instant' clock' =
          .ok (final, final.row, stored)) ∧
      ∀ ids' artifact' instant' clock', artifact' ≠ artifact →
        (∃ error, final.verifyInventory env policy ids' artifact' instant' clock' = .error error) ∧
        final.gateStep env policy (.verifyExecutionOutputs ids' artifact' instant' clock') =
          final := by
  intro final
  have hstart : s.Gated env policy := hrow.gated hartifacts hrequired
  have hgated : final.Gated env policy :=
    Runs.exec_invariant (Store.Gated env policy) (fun _ _ h hkeeps => h.gateStep hkeeps) hstart hmeets
  refine ⟨fun hcompleted => ⟨hgated.completed_iff.mp hcompleted, ?_⟩, ?_⟩
  · obtain ⟨artifact, instant, stored, hby⟩ := hgated.verified hcompleted
    exact ⟨stored, (Store.findArtifact_some hby.found).1, artifact, instant, hby.accepted, hby.holds⟩
  · rintro before after ids artifact instant clock s' row stored rfl hok
    rw [Runs.meets_append, Runs.meets_cons] at hmeets
    obtain ⟨hbefore, -, hafter⟩ := hmeets
    have hmiddle := Runs.exec_invariant (Store.Gated env policy)
      (fun _ _ h hkeeps => h.gateStep hkeeps) hstart hbefore
    obtain ⟨hgated', hcompleted', hby', -⟩ := hmiddle.verifyInventory hok
    have hstep : (Runs.exec (Store.gateStep env policy) s before).gateStep env policy
        (.verifyExecutionOutputs ids artifact instant clock) = s' := by
      simp only [Store.gateStep, hok]
    rw [hstep] at hafter
    have hfinal : final = Runs.exec (Store.gateStep env policy) s' after := by
      change Runs.exec _ _ _ = _
      rw [Runs.exec_append, Runs.exec_cons, hstep]
    obtain ⟨-, hcompleted, hby⟩ := Runs.exec_invariant
      (fun t => t.Gated env policy ∧ t.row.status = .completed ∧
        t.VerifiedBy env policy artifact instant stored)
      (fun _ _ h hkeeps => ⟨h.1.gateStep hkeeps, h.2.2.gateStep h.1 h.2.1 hkeeps⟩)
      ⟨hgated', hcompleted', hby'⟩ hafter
    rw [← hfinal] at hcompleted hby
    refine ⟨fun ids' instant' clock' hle => ?_, fun ids' artifact' instant' clock' hne => ?_⟩
    · exact Store.verifyInventory_replay hle hok (hgated.completed_iff.mp hcompleted) hby
    · obtain ⟨error, herror⟩ :=
        Store.verifyInventory_rejects hgated hcompleted hby hne ids' instant' clock'
      exact ⟨⟨error, herror⟩, by simp only [Store.gateStep, herror]⟩

end Run

end Env

/-! ### An execution that requires its outputs -/

/-- The execution of the small deployment with required outputs. -/
def requiredStore : Store :=
  { sampleStore with
    row := { sampleRow with outputVerificationRequired := true, outputState := .pending } }

theorem requiredStore_created : Store.CreatedRow requiredStore.row := by
  constructor <;> decide

/-- Its output policy. -/
def samplePolicy : Json :=
  .obj [("inventory_schema", .str beampipeOutputInventorySchema),
    ("expected_patterns", .arr [.str "*.fits"])]

/-- An inventory of one image, acknowledged under a receipt. -/
def sampleReport (receiptId : String) : ExecutionOutputVerificationRequest :=
  { executionId := 1
    executionAttempt := 0
    schema := beampipeOutputInventorySchema
    patterns := ["*.fits"]
    patternCounts := Std.ExtTreeMap.ofList [("*.fits", 1)] compare
    products :=
      [⟨"image.fits", 4, "0123456789abcdef0123456789abcdef0123456789abcdef0123456789abcdef"⟩]
    inventorySha256 := "39605715f18f00288b0241a6da73fef4cb877d7874dd5571ef85d4bb3ba2bf27"
    durableDestinationUri := "s3://archive/1"
    publication := ⟨true, "archive", receiptId, 0⟩ }

/-- What serializes it. -/
def sampleCodec : InventoryEnv :=
  { text := .plain
    digest := fun text =>
      if text.head? = some '[' then
        "39605715f18f00288b0241a6da73fef4cb877d7874dd5571ef85d4bb3ba2bf27"
      else "3dd7122936a76d175b78ea54333c5e40abb8d0944460e4a52f0ae8f225e3cb63"
    uuidText := fun _ => "00000000-0000-0000-0000-000000000001"
    timeText := fun _ => "1970-01-01T00:00:00Z"
    fromValue := fun _ => .error "missing field"
    buildGlob := fun _ => some fun path => path.endsWith ".fits" && !path.toList.contains '/'
    parseUrl := fun _ => some ⟨"s3", "", none, some "archive", "/1", none, none⟩ }

/-- What reads it back. -/
def inventoryEnv : InventoryEnv :=
  { sampleCodec with
    fromValue := fun value =>
      match ((value.get "publication").bind (Json.get "receipt_id")).bind Json.asStr with
      | none => .error "missing field"
      | some receiptId =>
          if value = (sampleReport receiptId).toValue sampleCodec then .ok (sampleReport receiptId)
          else .error "invalid type" }

/-- The artifact of such an inventory. -/
def sampleInventory (receiptId : String) : ExecutionArtifactInput :=
  { kind := "output_inventory"
    storageKind := "remote"
    uri := some "s3://archive/1"
    inlineJson := some ((sampleReport receiptId).toValue sampleCodec)
    mediaType := "application/vnd.beampipe.output-inventory+json"
    sha256 := (sampleReport receiptId).toValue sampleCodec
    producerPhase := "publication_acknowledged"
    metadata :=
      .obj [("execution_id", .str "00000000-0000-0000-0000-000000000001"),
        ("execution_attempt", .num (.int 0)),
        ("inventory_schema", .str beampipeOutputInventorySchema),
        ("inventory_sha256", .str (sampleReport receiptId).inventorySha256),
        ("product_count", .num (.int 1)), ("total_product_bytes", .num (.int 4)),
        ("publication", (sampleReport receiptId).publication.toValue sampleCodec)] }

/-- The session has finished. -/
def finishedStep : GateStep :=
  .other (.call {} [] (.applyExecutionStatePatch { daliugeState := some .finished })) rfl

/-- The verification under a receipt. -/
def verifyStep (receiptId : String) : GateStep :=
  .verifyExecutionOutputs {} (sampleInventory receiptId) 0 "00:00"

/-- The same receipt brought again finds its inventory, and another receipt comes too late. -/
theorem completion_gate_verified :
    let final := Runs.exec (Store.gateStep inventoryEnv samplePolicy) requiredStore
      [finishedStep, verifyStep "receipt-1"]
    (∃ stored, final.verifyInventory inventoryEnv samplePolicy {} (sampleInventory "receipt-1") 1
      "00:01" = .ok (final, final.row, stored)) ∧
      final.gateStep inventoryEnv samplePolicy (verifyStep "receipt-2") = final := by
  intro final
  have hmeets : Runs.Meets (Store.gateStep inventoryEnv samplePolicy)
      (Store.KeepsGate inventoryEnv samplePolicy) requiredStore
      [finishedStep, verifyStep "receipt-1"] := ⟨.inr (by decide), trivial, trivial⟩
  have hgate := completion_gate inventoryEnv samplePolicy requiredStore_created rfl rfl hmeets
  have hok : ((Runs.exec (Store.gateStep inventoryEnv samplePolicy) requiredStore
      [finishedStep]).verifyInventory inventoryEnv samplePolicy {} (sampleInventory "receipt-1") 0
        "00:00").toOption.isSome := by decide +kernel
  cases hverify : (Runs.exec (Store.gateStep inventoryEnv samplePolicy) requiredStore
      [finishedStep]).verifyInventory inventoryEnv samplePolicy {} (sampleInventory "receipt-1") 0
        "00:00" with
  | error error =>
      rw [hverify] at hok
      cases hok
  | ok result =>
      obtain ⟨s', row, stored⟩ := result
      obtain ⟨hreplay, hother⟩ := hgate.2 [finishedStep] [] {} (sampleInventory "receipt-1") 0
        "00:00" s' row stored rfl hverify
      exact ⟨⟨stored, hreplay {} 1 "00:01" (by decide)⟩,
        (hother {} (sampleInventory "receipt-2") 0 "00:00" (by decide +kernel)).2⟩

/-- A state patch that reports verified outputs opens the gate for the ledger patch: the execution
completes and no inventory was ever stored. -/
theorem reported_outputs_complete :
    Store.CreatedRow requiredStore.row ∧ requiredStore.row.outputVerificationRequired ∧
      ∃ i j k : GateStep, (∀ ids artifact instant clock,
          .verifyExecutionOutputs ids artifact instant clock ∉ [i, j, k]) ∧
        (Runs.exec (Store.gateStep inventoryEnv samplePolicy) requiredStore [i, j, k]).row.status =
          .completed ∧
        (Runs.exec (Store.gateStep inventoryEnv samplePolicy) requiredStore [i, j, k]).artifacts =
          [] :=
  ⟨requiredStore_created, rfl,
    .other (.call {} [] (.applyExecutionStatePatch { outputState := some .verified })) rfl,
    .other (sampleStatus .running) rfl, .other (sampleStatus .completed) rfl, by simp,
    by decide +kernel, by decide +kernel⟩

end Beampipe
