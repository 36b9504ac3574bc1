/-
Readiness of a source and the claim of a discovery.

A worker that discovers a source holds a claim on it: a token with a time of expiry.  Whoever claims
sources looks at the time, so that a claim which nobody released ends by itself.  The readiness
check looks at the token, which stays in the row until the source is claimed again.  The two agree
on every row whose token is there exactly as long as its time has not come.

Main definitions:

* `Beampipe.SourceRegistryRow.discoveryClaimFree` — the claim does not keep a source from being
  claimed;
* `Beampipe.SourceRegistry.sourceExecutionStatus` — `source_execution_status`;
* `Beampipe.SourceRegistry.ActivityAgrees` — readiness and claim agree on a discovery in progress.

Main results:

* `Beampipe.SourceRegistry.mem_discoveryCandidates` — what a discovery can claim;
* `Beampipe.SourceRegistry.parsedSourceReadinessError_eq_inProgress_iff` — when the check says that
  a discovery is in progress;
* `Beampipe.SourceRegistry.activity_agrees_iff` — **when readiness and claim agree**.
-/

import Beampipe.DiscoveryPersistence

set_option relaxedAutoImplicit false
set_option autoImplicit false

namespace Beampipe

/-- `discovery_claim_expires_at IS NULL OR discovery_claim_expires_at <= now()`. -/
def SourceRegistryRow.discoveryClaimFree (now : ℕ) (row : SourceRegistryRow) : Bool :=
  row.discoveryClaimExpiresAt.all fun expiresAt => expiresAt ≤ now

/-- The source was discovered and has a signature. -/
def SourceRegistryRow.discovered (row : SourceRegistryRow) : Prop :=
  row.lastCheckedAt.isSome = true ∧ row.discoverySignature.getD "" ≠ ""

/-- `SourceExecutionStatus`. -/
structure SourceExecutionStatus where
  readyForExecution : Bool
  discoveryComplete : Bool
  workflowRunPending : Bool
  discoverySignature : Option String
  lastExecutedDiscoverySignature : Option String
  signatureMatchesLastExecution : Bool
  blockers : List String
  pendingAgeSeconds : Option ℕ
  deriving DecidableEq, Repr

namespace SourceRegistry

/-- The text for a discovery in progress. -/
def inProgressError (sid : String) : String :=
  s!"Source {sid}: Discovery is still in progress for this source (active lease). "
    ++ "Wait and retry."

/-- `signature_matches_last_execution`. -/
def signatureMatchesLastExecution (row : SourceRegistryRow) : Bool :=
  match row.discoverySignature.filter fun s => !s.isEmpty,
      row.lastExecutedDiscoverySignature.filter fun s => !s.isEmpty with
  | some current, some last => current == last
  | _, _ => false

/-- `source_execution_status` of a registered source. -/
def sourceExecutionStatus (r : SourceRegistry) (now : ℕ) (row : SourceRegistryRow)
    (groups : Option (List String)) : SourceExecutionStatus :=
  let sid := row.sourceIdentifier
  let error := r.parsedSourceReadinessError row.projectModule ⟨sid, groups⟩
  let executed := signatureMatchesLastExecution row
  let blockers := (error.toList ++ if executed then
      [s!"Source {sid}: Discovery signature matches last executed run "
        ++ "(already executed for current metadata)."] else []).insertionSort (· ≤ ·)
  { readyForExecution := blockers.isEmpty
    discoveryComplete :=
      row.lastCheckedAt.isSome && (row.discoverySignature.any fun s => !s.isEmpty) &&
        row.discoveryClaimToken.isNone
    workflowRunPending := row.workflowRunPending
    discoverySignature := row.discoverySignature
    lastExecutedDiscoverySignature := row.lastExecutedDiscoverySignature
    signatureMatchesLastExecution := executed
    blockers := blockers.dedup
    pendingAgeSeconds :=
      if row.workflowRunPending then
        row.workflowRunPendingAt.map fun at_ => (now - at_) / 1000000
      else none }

/-! ### What a discovery can claim -/

/-- A source can be claimed when it is enabled and due, and no claim on it is left to run. -/
theorem mem_discoveryCandidates {r : SourceRegistry} {now : ℕ} {projectModule : Option String}
    {staleAfterHours : ℕ} {locked : List (String × String)} {row : SourceRegistryRow} :
    row ∈ r.discoveryCandidates now projectModule staleAfterHours locked ↔
      row ∈ r.rows ∧ row.enabled = true ∧ row.discoveryClaimFree now = true ∧
        (row.lastCheckedAt.all fun checkedAt => checkedAt + staleAfterHours * 3600000000 ≤ now) ∧
        (projectModule.all fun projectModule => row.projectModule == projectModule) ∧
        row.key ∉ locked := by
  simp only [discoveryCandidates, List.mem_insertionSort, List.mem_filter, Bool.and_eq_true,
    Bool.not_eq_true', SourceRegistryRow.discoveryClaimFree, and_assoc]
  simp

/-! ### What readiness says of a discovery in progress -/

section Readiness

variable {r : SourceRegistry} {row : SourceRegistryRow} {groups : Option (List String)}

/-- A source is said to have a discovery in progress exactly when it is enabled, was discovered, and
its row has a token. -/
theorem parsedSourceReadinessError_eq_inProgress_iff
    (hfind : r.find row.projectModule row.sourceIdentifier = some row) :
    r.parsedSourceReadinessError row.projectModule ⟨row.sourceIdentifier, groups⟩ =
        some (inProgressError row.sourceIdentifier) ↔
      row.enabled = true ∧ row.discovered ∧ row.discoveryClaimToken.isSome = true := by
  unfold parsedSourceReadinessError
  simp only [hfind]
  split
  next hdisabled =>
    refine iff_of_false (fun h => ?_) (fun h => ?_)
    · have htext := congrArg String.toList (Option.some.inj h)
      simp [inProgressError, toString] at htext
    · rw [h.1] at hdisabled
      cases hdisabled
  next henabled =>
    split
    next hunchecked =>
      refine iff_of_false (fun h => ?_) (fun h => ?_)
      · have htext := congrArg String.toList (Option.some.inj h)
        simp [inProgressError, toString] at htext
      · rw [Option.isNone_iff_eq_none] at hunchecked
        have hchecked := h.2.1.1
        rw [hunchecked] at hchecked
        cases hchecked
    next hchecked =>
      split
      next hunsigned =>
        refine iff_of_false (fun h => ?_) (fun h => h.2.1.2 hunsigned)
        have htext := congrArg String.toList (Option.some.inj h)
        simp [inProgressError, toString] at htext
      next hsigned =>
        have hdiscovered : row.discovered := by
          refine ⟨?_, hsigned⟩
          rwa [Bool.not_eq_true, Option.isNone_eq_false_iff] at hchecked
        split
        next htoken =>
          refine iff_of_true rfl ⟨?_, hdiscovered, htoken⟩
          simpa using henabled
        next htoken =>
          refine iff_of_false ?_ fun h => htoken h.2.2
          -- the other texts differ after the source
          split
          · intro h
            have htext := congrArg String.toList (Option.some.inj h)
            simp [inProgressError, toString] at htext
          · intro h
            obtain ⟨bad, -, hbad⟩ := Option.map_eq_some_iff.mp h
            have htext := congrArg String.toList hbad
            simp [inProgressError, toString] at htext

/-- A discovery is complete when the source was discovered and its row has no token. -/
theorem discoveryComplete_iff (now : ℕ) :
    (r.sourceExecutionStatus now row groups).discoveryComplete = true ↔
      row.discovered ∧ row.discoveryClaimToken.isSome = false := by
  unfold sourceExecutionStatus SourceRegistryRow.discovered
  dsimp only
  rw [Bool.and_eq_true, Bool.and_eq_true, and_congr_left_iff.mpr]
  · rw [Option.isNone_iff_eq_none, Option.isSome_eq_false_iff, Option.isNone_iff_eq_none]
  · intro _
    cases row.discoverySignature with
    | none => simp
    | some signature => simp

/-- Readiness takes a discovery for being in progress exactly as long as its claim keeps the source
from being claimed again: the check says so unless it has something else to say first, and the
discovery of a discovered source is complete otherwise. -/
structure ActivityAgrees (r : SourceRegistry) (now : ℕ) (row : SourceRegistryRow)
    (groups : Option (List String)) : Prop where
  error : r.parsedSourceReadinessError row.projectModule ⟨row.sourceIdentifier, groups⟩ =
      some (inProgressError row.sourceIdentifier) ↔
    row.enabled = true ∧ row.discovered ∧ row.discoveryClaimFree now = false
  status : (r.sourceExecutionStatus now row groups).discoveryComplete = true ↔
    row.discovered ∧ row.discoveryClaimFree now = true

end Readiness

/-- **Readiness and claim agree** on a source exactly when it was not discovered yet, or its row has
a token exactly as long as the claim has not expired. -/
theorem activity_agrees_iff {r : SourceRegistry} {row : SourceRegistryRow}
    (hfind : r.find row.projectModule row.sourceIdentifier = some row) (now : ℕ)
    (groups : Option (List String)) :
    ActivityAgrees r now row groups ↔
      (row.discovered →
        (row.discoveryClaimToken.isSome = true ↔ row.discoveryClaimFree now = false)) := by
  constructor
  · rintro ⟨-, hstatus⟩ hdiscovered
    rw [discoveryComplete_iff] at hstatus
    have hfree : row.discoveryClaimToken.isSome = false ↔ row.discoveryClaimFree now = true := by
      constructor
      · exact fun h => (hstatus.mp ⟨hdiscovered, h⟩).2
      · exact fun h => (hstatus.mpr ⟨hdiscovered, h⟩).2
    cases htoken : row.discoveryClaimToken.isSome with
    | false => simp [hfree.mp htoken]
    | true =>
        rw [htoken] at hfree
        simpa using hfree
  · intro hagrees
    constructor
    · rw [parsedSourceReadinessError_eq_inProgress_iff hfind]
      constructor
      · exact fun ⟨henabled, hdiscovered, h⟩ => ⟨henabled, hdiscovered, (hagrees hdiscovered).mp h⟩
      · exact fun ⟨henabled, hdiscovered, h⟩ => ⟨henabled, hdiscovered, (hagrees hdiscovered).mpr h⟩
    · rw [discoveryComplete_iff]
      refine and_congr_right fun hdiscovered => ?_
      rw [← Bool.not_eq_true, hagrees hdiscovered, Bool.not_eq_false]

/-! ### A claim that nobody releases -/

/-- A source is discovered, and its worker stops before the claim is released. -/
def crashedDiscovery : List (ℕ × RegistryOp) := claimSample 1 "first" ++ [persistSample 2 "first"]

/-- Three days, in microseconds. -/
def threeDays : ℕ := 3 * 24 * 3600000000

/-- While the worker lives its source is busy. -/
theorem activity_agrees_iff_claimed : ∃ row,
    (sampleRegistry crashedDiscovery).find "survey" "101" = some row ∧
      (ActivityAgrees (sampleRegistry crashedDiscovery) 3 row none ↔
        (row.discovered →
          (row.discoveryClaimToken.isSome = true ↔ row.discoveryClaimFree 3 = false))) := by
  have hfound : ((sampleRegistry crashedDiscovery).find "survey" "101").map
      SourceRegistryRow.key = some ("survey", "101") := by decide +kernel
  obtain ⟨row, hrow, hkey⟩ := Option.map_eq_some_iff.mp hfound
  obtain ⟨hproject, hsource⟩ := Prod.mk.inj hkey
  refine ⟨row, hrow, activity_agrees_iff ?_ 3 none⟩
  rw [hproject, hsource, hrow]

/-- After three days the source can be claimed again, and it is still said to be busy. -/
theorem crashed_discovery_stays_busy : ∃ row,
    row ∈ (sampleRegistry crashedDiscovery).discoveryCandidates threeDays (some "survey") 24 [] ∧
      (sampleRegistry crashedDiscovery).parsedSourceReadinessError row.projectModule
        ⟨row.sourceIdentifier, none⟩ = some (inProgressError row.sourceIdentifier) ∧
      ¬ ActivityAgrees (sampleRegistry crashedDiscovery) threeDays row none := by
  have hbusy : ((sampleRegistry crashedDiscovery).discoveryCandidates threeDays (some "survey") 24
      []).any (fun row => (sampleRegistry crashedDiscovery).parsedSourceReadinessError
        row.projectModule ⟨row.sourceIdentifier, none⟩ ==
          some (inProgressError row.sourceIdentifier)) = true := by decide +kernel
  obtain ⟨row, hcandidate, hbusy⟩ := List.any_eq_true.mp hbusy
  have hbusy := beq_iff_eq.mp hbusy
  refine ⟨row, hcandidate, hbusy, fun hagrees => ?_⟩
  have hclaimed := (hagrees.error.mp hbusy).2.2
  rw [(mem_discoveryCandidates.mp hcandidate).2.2.1] at hclaimed
  cases hclaimed

end SourceRegistry

end Beampipe
