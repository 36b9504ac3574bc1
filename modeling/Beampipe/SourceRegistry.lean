/-
The source registry: rows of `source_registry` and the transactions on their workflow columns.

A registered source is discovered from an archive, and a new discovery signature makes it pending
for the execution scheduler (`workflow_run_pending`).  The scheduler takes pending sources under a
time-limited claim token; admission, retry, failure and completion of an execution set and clear
the flag.  Each function below is one transaction on the registry at time `now`.

A SHA-256 digest is represented by what it was taken of, so the combined signature of a selection
is the list of the sources with their signatures.

Main definitions:

* `Beampipe.SourceRegistryRow`, `Beampipe.ArchiveMetadataRow`, `Beampipe.SourceRegistry` — the
  tables;
* `Beampipe.SourceRegistry.claimPendingSourcesForWorkflowRun`,
  `Beampipe.SourceRegistry.releaseWorkflowClaim` — the claim of a scheduler tick;
* `Beampipe.SourceRegistry.clearWorkflowPendingForSources`,
  `Beampipe.SourceRegistry.markSourcesPendingWorkflowRun`,
  `Beampipe.SourceRegistry.markSourcesForRediscovery`,
  `Beampipe.SourceRegistry.finalizeSuccessfulSources` — the writers of the pending flag and the
  claim;
* `Beampipe.SourceRegistry.parsedSourceReadinessError`,
  `Beampipe.SourceRegistry.executionSourceReadinessErrors` — the readiness checks.

Main results:

* `Beampipe.SourceRegistry.mem_updateWhere` — the rows after an update;
* `Beampipe.SourceRegistry.pending_of_mark` — marked sources are pending.
-/

import Beampipe.Json
import Beampipe.Text
import Mathlib.Data.List.Sort
import Mathlib.Tactic.Basic

set_option relaxedAutoImplicit false
set_option autoImplicit false

namespace Beampipe

/-! ### Rows -/

/-- A row of `source_registry`. -/
structure SourceRegistryRow where
  projectModule : String
  sourceIdentifier : String
  enabled : Bool
  createdAt : ℕ
  lastCheckedAt : Option ℕ
  lastAttemptedAt : Option ℕ
  discoverySignature : Option String
  lastExecutedDiscoverySignature : Option String
  discoveryClaimToken : Option String
  discoveryClaimExpiresAt : Option ℕ
  workflowRunPending : Bool
  workflowRunPendingAt : Option ℕ
  workflowClaimToken : Option String
  workflowClaimedAt : Option ℕ
  workflowClaimExpiresAt : Option ℕ
  deriving DecidableEq, Repr

/-- A row of `archive_metadata`. -/
structure ArchiveMetadataRow where
  projectModule : String
  sourceIdentifier : String
  groupKey : String
  metadataJson : Option Json
  deriving DecidableEq, Repr

/-- One selected source of an execution, with its groups when they are restricted. -/
structure SourceSelection where
  sourceIdentifier : String
  groups : Option (List String)
  deriving DecidableEq, Repr

/-- The combined signature of a selection: `discovery_signature` of the map from its sources to
their signatures. -/
abbrev CombinedSignature := List (String × String)

/-- The registry and the archive metadata. -/
structure SourceRegistry where
  rows : List SourceRegistryRow
  archive : List ArchiveMetadataRow
  deriving DecidableEq, Repr

namespace SourceRegistryRow

/-- `project_module = $1 AND source_identifier = ANY($2)`. -/
def selectedBy (projectModule : String) (sources : List String) (row : SourceRegistryRow) : Bool :=
  row.projectModule == projectModule && sources.contains row.sourceIdentifier

@[simp] theorem selectedBy_iff {projectModule : String} {sources : List String}
    {row : SourceRegistryRow} : row.selectedBy projectModule sources = true ↔
      row.projectModule = projectModule ∧ row.sourceIdentifier ∈ sources := by
  simp [selectedBy]

/-- The workflow claim columns set to NULL. -/
def clearWorkflowClaim (row : SourceRegistryRow) : SourceRegistryRow :=
  { row with workflowClaimToken := none, workflowClaimedAt := none, workflowClaimExpiresAt := none }

/-- `workflow_run_pending = false` without a claim. -/
def clearPending (row : SourceRegistryRow) : SourceRegistryRow :=
  { row.clearWorkflowClaim with workflowRunPending := false, workflowRunPendingAt := none }

/-- `workflow_run_pending = true` without a claim. -/
def markPending (now : ℕ) (row : SourceRegistryRow) : SourceRegistryRow :=
  { row.clearWorkflowClaim with workflowRunPending := true, workflowRunPendingAt := some now }

/-- `workflow_claim_expires_at IS NULL OR workflow_claim_expires_at <= now()`. -/
def workflowClaimFree (now : ℕ) (row : SourceRegistryRow) : Bool :=
  match row.workflowClaimExpiresAt with
  | some expiresAt => expiresAt ≤ now
  | none => true

end SourceRegistryRow

namespace SourceRegistry

/-- `UPDATE source_registry SET … WHERE …`. -/
def updateWhere (r : SourceRegistry) (p : SourceRegistryRow → Bool)
    (set : SourceRegistryRow → SourceRegistryRow) : SourceRegistry :=
  { r with rows := r.rows.map fun row => if p row then set row else row }

theorem mem_updateWhere {r : SourceRegistry} {p : SourceRegistryRow → Bool}
    {set : SourceRegistryRow → SourceRegistryRow} {row : SourceRegistryRow} :
    row ∈ (r.updateWhere p set).rows ↔ ∃ old ∈ r.rows, row = if p old then set old else old := by
  rw [updateWhere, List.mem_map]
  constructor
  · rintro ⟨old, hold, rfl⟩
    exact ⟨old, hold, rfl⟩
  · rintro ⟨old, hold, rfl⟩
    exact ⟨old, hold, rfl⟩

/-- The row of a source. -/
def find (r : SourceRegistry) (projectModule source : String) : Option SourceRegistryRow :=
  r.rows.find? fun row => row.projectModule == projectModule && row.sourceIdentifier == source

/-! ### The claim of a scheduler tick -/

/-- `ORDER BY workflow_run_pending_at ASC NULLS LAST, created_at ASC`. -/
def pendingBefore (a b : SourceRegistryRow) : Bool :=
  match a.workflowRunPendingAt, b.workflowRunPendingAt with
  | some x, some y => decide (x < y) || (x == y && decide (a.createdAt ≤ b.createdAt))
  | some _, none => true
  | none, some _ => false
  | none, none => decide (a.createdAt ≤ b.createdAt)

/-- The pending sources a claim may take: enabled, pending, and without a live claim.  Rows in
`locked` are skipped, another transaction holds them. -/
def claimCandidates (r : SourceRegistry) (now : ℕ) (projectModule : String)
    (locked : List String) : List SourceRegistryRow :=
  (r.rows.filter fun row =>
    row.projectModule == projectModule && row.enabled && row.workflowRunPending &&
      row.workflowClaimFree now && !locked.contains row.sourceIdentifier).insertionSort
        fun a b => pendingBefore a b

/-- `claim_pending_sources_for_workflow_run`: the claimed sources, oldest first. -/
def claimPendingSourcesForWorkflowRun (r : SourceRegistry) (now : ℕ) (projectModule : String)
    (limit : ℕ) (leaseTtlMinutes : ℕ) (claimToken : String) (locked : List String) :
    SourceRegistry × List String :=
  let claimed :=
    ((r.claimCandidates now projectModule locked).take limit).map (·.sourceIdentifier)
  (r.updateWhere (SourceRegistryRow.selectedBy projectModule claimed) fun row =>
    { row with
      workflowClaimToken := some claimToken
      workflowClaimedAt := some now
      workflowClaimExpiresAt := some (now + leaseTtlMinutes * 60000000) }, claimed)

/-- `release_workflow_claim`. -/
def releaseWorkflowClaim (r : SourceRegistry) (projectModule : String) (sources : List String)
    (claimToken : String) : SourceRegistry :=
  r.updateWhere
    (fun row => row.selectedBy projectModule sources && row.workflowClaimToken == some claimToken)
    SourceRegistryRow.clearWorkflowClaim

/-! ### The pending flag -/

/-- `clear_workflow_pending_for_sources`. -/
def clearWorkflowPendingForSources (r : SourceRegistry) (projectModule : String)
    (sources : List String) : SourceRegistry :=
  r.updateWhere (SourceRegistryRow.selectedBy projectModule sources)
    SourceRegistryRow.clearPending

/-- `mark_sources_pending_workflow_run`. -/
def markSourcesPendingWorkflowRun (r : SourceRegistry) (now : ℕ) (projectModule : String)
    (sources : List String) : SourceRegistry :=
  r.updateWhere (SourceRegistryRow.selectedBy projectModule sources)
    (SourceRegistryRow.markPending now)

/-- Marked sources are pending. -/
theorem pending_of_mark {r : SourceRegistry} {now : ℕ} {projectModule : String}
    {sources : List String} {row : SourceRegistryRow}
    (hrow : row ∈ (r.markSourcesPendingWorkflowRun now projectModule sources).rows)
    (hsel : row.selectedBy projectModule sources) : row.workflowRunPending = true := by
  obtain ⟨old, -, rfl⟩ := mem_updateWhere.mp hrow
  by_cases h : old.selectedBy projectModule sources
  · simp [h, SourceRegistryRow.markPending]
  · simp only [h, Bool.false_eq_true, if_false] at hsel

/-- `mark_sources_for_rediscovery`; no list of sources means all of the project. -/
def markSourcesForRediscovery (r : SourceRegistry) (projectModule : String)
    (sources : Option (List String)) : SourceRegistry :=
  r.updateWhere
    (fun row => row.projectModule == projectModule && row.enabled &&
      sources.all fun ids => ids.isEmpty || ids.contains row.sourceIdentifier)
    fun row =>
      { row.clearWorkflowClaim with
        lastCheckedAt := none
        lastAttemptedAt := none
        discoveryClaimToken := none
        discoveryClaimExpiresAt := none }

/-- The signatures of the registered sources among `sources`, in their order. -/
def currentSignatures (r : SourceRegistry) (projectModule : String) (sources : List String) :
    List (String × Option String) :=
  sources.filterMap fun source =>
    (r.find projectModule source).map fun row => (source, row.discoverySignature)

/-- The selection is still the one the execution was admitted with: every source is registered
with a signature, and together they are the stored combined signature. -/
def signaturesCurrent (r : SourceRegistry) (projectModule : String) (sources : List String)
    (admitted : Option CombinedSignature) : Bool :=
  let current := r.currentSignatures projectModule sources
  current.length == sources.length && current.all (fun entry => entry.2.isSome) &&
    admitted == some (current.map fun entry => (entry.1, entry.2.getD ""))

/-- `finalize_successful_sources`: an unchanged selection is stamped as executed; after a newer
discovery the whole selection goes back to the scheduler. -/
def finalizeSuccessfulSources (r : SourceRegistry) (now : ℕ) (projectModule : String)
    (sources : List String) (admitted : Option CombinedSignature) : SourceRegistry :=
  if sources.isEmpty then r
  else if r.signaturesCurrent projectModule sources admitted then
    r.updateWhere
      (fun row => row.selectedBy projectModule sources && row.discoverySignature.isSome)
      fun row =>
        { row.clearPending with lastExecutedDiscoverySignature := row.discoverySignature }
  else
    r.updateWhere (SourceRegistryRow.selectedBy projectModule sources) fun row =>
      { row with
        workflowRunPending := true
        workflowRunPendingAt := row.workflowRunPendingAt <|> some now }

/-! ### Readiness -/

/-- `discovery_flag_passes`. -/
def discoveryFlagPasses : Json → Bool
  | .null => false
  | .bool b => b
  | .str s => !isBlank s
  | .num (.int n) => n != 0
  | .num (.float bits) => bits != 0 && bits != 0x8000000000000000
  | .arr items => !items.isEmpty
  | .obj fields => !fields.isEmpty

/-- The failed flags of a metadata row. -/
def failedFlags (row : ArchiveMetadataRow) : List String :=
  match row.metadataJson.bind (Json.get "discovery_flags") with
  | some (.obj flags) => (flags.filter fun flag => !discoveryFlagPasses flag.2).map (·.1)
  | _ => []

/-- `filter_archive_rows_by_groups` on the metadata of one source. -/
def selectedMetadata (r : SourceRegistry) (projectModule : String) (selection : SourceSelection) :
    List ArchiveMetadataRow :=
  r.archive.filter fun row =>
    row.projectModule == projectModule && row.sourceIdentifier == selection.sourceIdentifier &&
      selection.groups.all fun groups => groups.isEmpty || groups.contains row.groupKey

/-- `parsed_source_readiness_error`: the first reason why a source is not ready. -/
def parsedSourceReadinessError (r : SourceRegistry) (projectModule : String)
    (selection : SourceSelection) : Option String :=
  let sid := selection.sourceIdentifier
  match r.find projectModule sid with
  | none =>
      some s!"Source {sid} is not registered. Register and discover the source before execution."
  | some row =>
      if !row.enabled then some s!"Source {sid} is disabled"
      else if row.lastCheckedAt.isNone then
        some (s!"Source {sid}: Discovery has not yet run for this source (last_checked_at is unset). "
          ++ "Run discovery first (POST /api/v2/sources/discover).")
      else if row.discoverySignature.getD "" = "" then
        some (s!"Source {sid}: Discovery signature is missing. "
          ++ "Run discovery first (POST /api/v2/sources/discover).")
      else if row.discoveryClaimToken.isSome then
        some (s!"Source {sid}: Discovery is still in progress for this source (active lease). "
          ++ "Wait and retry.")
      else
        match r.selectedMetadata projectModule selection with
        | [] =>
            let hint :=
              match selection.groups with
              | some groups => " (groups: " ++ debugStrings groups ++ ")"
              | none => ""
            some (s!"Source {sid} has no discovered metadata{hint}. "
              ++ "Run discovery first (POST /api/v2/sources/discover).")
        | metadata =>
            (metadata.find? fun row => !(failedFlags row).isEmpty).map fun row =>
              let bad := debugStrings (failedFlags row)
              s!"Source {sid} metadata has discovery_flags that have not passed "
                ++ s!"(failed keys: {bad}). Re-run discovery."

/-- `execution_source_readiness_errors`. -/
def executionSourceReadinessErrors (r : SourceRegistry) (projectModule : String)
    (sources : List SourceSelection) (admitted : Option CombinedSignature) : List String :=
  match sources.filterMap (r.parsedSourceReadinessError projectModule) with
  | [] =>
      let current := (r.currentSignatures projectModule (sources.map (·.sourceIdentifier))).filterMap
        fun entry => entry.2.map fun signature => (entry.1, signature)
      if admitted = some current then []
      else ["source discovery state changed after execution admission; prepare a new execution"]
  | errors => errors

end SourceRegistry

end Beampipe
