/-
What a discovery leaves in the registry and in the archive metadata.

A source is claimed for discovery under a token, its results are persisted while the claim stands,
and the claim is released.  A batch of metadata replaces the archive rows of its source by the
groups of the batch.  Whether the source changed is decided by its stored signature, and without one
by the archive rows that are there; an unchanged source keeps the signature column as it is.  The
rows of a source outlive the source: deleting it leaves its archive rows behind, so a source that is
registered again can meet its own old rows before it has a signature.

Main definitions:

* `Beampipe.SourceRegistry.persistChangedOrUnchanged`, `Beampipe.SourceRegistry.persistNoRecords` —
  the transactions of `persist_discovery_results`;
* `Beampipe.RegistryOp`, `Beampipe.SourceRegistry.step` — the transactions on the two tables;
* `Beampipe.SourceRegistry.Corresponds` — signature and archive rows are those of a batch;
* `Beampipe.SourceRegistry.RecordsSignature` — a committed batch writes its signature, or finds it.

Main results:

* `Beampipe.SourceRegistry.hasGroup_synchronize` — the groups that are stored after a batch;
* `Beampipe.SourceRegistry.persisted_corresponds_iff` — **in every run the committed batches leave
  signature and archive rows of their own exactly when each of them records its signature**.
-/

import Beampipe.DiscoverySignature
import Beampipe.SourceRegistry
import Beampipe.Runs

set_option relaxedAutoImplicit false
set_option autoImplicit false

namespace Beampipe

/-! ### What the code does not contain -/

/-- The digest, the serializer, and which groups the database takes into `archive_metadata`. -/
structure DiscoveryEnv where
  digest : List Char → String
  text : ScalarText
  storesGroup : String × Json → Bool

/-- Why a result is not persisted. -/
inductive PersistError where
  | protocol (error : PreparedMetadataError)
  | database
  deriving DecidableEq, Repr

/-- `PersistOutcome`. -/
inductive PersistOutcome where
  | changed (groups records : ℕ)
  | unchanged (groups records : ℕ)
  | missingRegistry
  deriving DecidableEq, Repr

/-- A batch that `persist_changed_or_unchanged` is given. -/
structure MetadataBatch where
  metadata : List Json
  discoveryFlags : Json
  signature : SignatureOptions
  deriving DecidableEq, Repr

namespace MetadataBatch

variable (env : DiscoveryEnv) (batch : MetadataBatch)

/-- The records with canonical identities, all of them of the source. -/
def prepared (sourceIdentifier : String) : Except PreparedMetadataError (List Json) := do
  let metadata ← canonicalizePreparedMetadataIdentities env.text batch.metadata
  validatePreparedMetadataRecordsForSource metadata sourceIdentifier
  pure metadata

/-- `new_sig`. -/
def newSignature (metadata : List Json) : String :=
  batchSignature env.digest env.text metadata (some batch.discoveryFlags) (some batch.signature)

/-- `storage_payload`. -/
def storagePayload (metadata : List Json) : BTreeMap Json :=
  metadataStoragePayloadByGroup env.text (groupMetadataByGroupKey metadata)
    (some batch.discoveryFlags)

end MetadataBatch

/-! ### The rows of a source -/

namespace SourceRegistryRow

/-- `project_module = $1 AND source_identifier = $2 AND discovery_claim_token = $3`. -/
def discoveryClaimedBy (projectModule source claimToken : String) (row : SourceRegistryRow) :
    Bool :=
  row.projectModule == projectModule && row.sourceIdentifier == source &&
    row.discoveryClaimToken == some claimToken

/-- The source a row registers. -/
def key (row : SourceRegistryRow) : String × String := (row.projectModule, row.sourceIdentifier)

/-- The row was checked. -/
def markChecked (now : ℕ) (row : SourceRegistryRow) : SourceRegistryRow :=
  { row with lastCheckedAt := some now }

/-- The row was checked and has a new signature. -/
def markDiscovered (now : ℕ) (signature : String) (row : SourceRegistryRow) : SourceRegistryRow :=
  { row with
    lastCheckedAt := some now
    discoverySignature := some signature
    workflowRunPending := true
    workflowRunPendingAt := some now }

/-- A new row of `source_registry`. -/
def new (projectModule source : String) (enabled : Bool) (now : ℕ) : SourceRegistryRow where
  projectModule := projectModule
  sourceIdentifier := source
  enabled := enabled
  createdAt := now
  lastCheckedAt := none
  lastAttemptedAt := none
  discoverySignature := none
  lastExecutedDiscoverySignature := none
  discoveryClaimToken := none
  discoveryClaimExpiresAt := none
  workflowRunPending := false
  workflowRunPendingAt := none
  workflowClaimToken := none
  workflowClaimedAt := none
  workflowClaimExpiresAt := none

end SourceRegistryRow

/-- The row is of the source. -/
def ArchiveMetadataRow.ofSource (projectModule source : String) (row : ArchiveMetadataRow) : Bool :=
  row.projectModule == projectModule && row.sourceIdentifier == source

@[simp] theorem ArchiveMetadataRow.ofSource_iff {projectModule source : String}
    {row : ArchiveMetadataRow} : row.ofSource projectModule source = true ↔
      row.projectModule = projectModule ∧ row.sourceIdentifier = source := by
  simp [ofSource]

namespace SourceRegistry

/-- `SELECT group_key, COALESCE(metadata_json, '{}'::jsonb) FROM archive_metadata WHERE …`. -/
def archiveRecords (r : SourceRegistry) (projectModule source : String) : List (String × Json) :=
  (r.archive.filter (ArchiveMetadataRow.ofSource projectModule source)).map fun row =>
    (row.groupKey, row.metadataJson.getD (.obj []))

/-- `INSERT INTO archive_metadata … ON CONFLICT … DO UPDATE SET metadata_json`. -/
def upsertArchiveMetadata (projectModule source : String) (archive : List ArchiveMetadataRow)
    (group : String × Json) : List ArchiveMetadataRow :=
  let conflicts := fun row : ArchiveMetadataRow =>
    row.ofSource projectModule source && row.groupKey == group.1
  if archive.any conflicts then
    archive.map fun row =>
      if conflicts row then { row with metadataJson := some group.2 } else row
  else archive ++ [⟨projectModule, source, group.1, some group.2⟩]

/-- `synchronize_archive_metadata`: rows of other groups go, the groups of the payload are
written. -/
def synchronizeArchiveMetadata (r : SourceRegistry) (projectModule source : String)
    (payload : BTreeMap Json) : SourceRegistry :=
  let kept := r.archive.filter fun row =>
    !(row.ofSource projectModule source && !payload.contains row.groupKey)
  { r with archive := payload.toList.foldl (upsertArchiveMetadata projectModule source) kept }

/-! ### Transactions of a discovery -/

/-- `upsert_source`. -/
def upsertSource (r : SourceRegistry) (now : ℕ) (projectModule source : String)
    (enabled : Bool) : SourceRegistry :=
  if r.rows.any fun row => row.key == (projectModule, source) then
    r.updateWhere (fun row => row.key == (projectModule, source))
      fun row => { row with enabled := enabled }
  else { r with rows := r.rows ++ [.new projectModule source enabled now] }

/-- `update_source`. -/
def updateSource (r : SourceRegistry) (projectModule source : String) (enabled : Option Bool) :
    SourceRegistry :=
  r.updateWhere (fun row => row.key == (projectModule, source))
    fun row => { row with enabled := enabled.getD row.enabled }

/-- `delete_source`: the registry row, not the archive rows. -/
def deleteSource (r : SourceRegistry) (projectModule source : String) : SourceRegistry :=
  { r with rows := r.rows.filter fun row => row.key != (projectModule, source) }

/-- The sources that are due: enabled, without a live claim, never checked or checked too long
ago. -/
def discoveryCandidates (r : SourceRegistry) (now : ℕ) (projectModule : Option String)
    (staleAfterHours : ℕ) (locked : List (String × String)) : List SourceRegistryRow :=
  (r.rows.filter fun row =>
    row.enabled && (row.discoveryClaimExpiresAt.all fun expiresAt => expiresAt ≤ now) &&
      (row.lastCheckedAt.all fun checkedAt => checkedAt + staleAfterHours * 3600000000 ≤ now) &&
      (projectModule.all fun projectModule => row.projectModule == projectModule) &&
      !locked.contains row.key).insertionSort fun a b => a.createdAt ≤ b.createdAt

/-- `claim_source_rows_for_discovery`; rows in `locked` are skipped, another transaction holds
them. -/
def claimSourceRowsForDiscovery (r : SourceRegistry) (now : ℕ) (projectModule : Option String)
    (staleAfterHours limit leaseTtlMinutes : ℕ) (claimToken : String)
    (locked : List (String × String)) : SourceRegistry × List (String × String) :=
  let claimed := ((r.discoveryCandidates now projectModule staleAfterHours locked).take limit).map
    SourceRegistryRow.key
  (r.updateWhere (fun row => claimed.contains row.key) fun row =>
    { row with
      discoveryClaimToken := some claimToken
      discoveryClaimExpiresAt := some (now + leaseTtlMinutes * 60000000) }, claimed)

/-- What `release_discovery_claim` and the two marks below share: an update of the claimed sources,
which an empty list or an empty token does not reach. -/
def updateIfClaimed (r : SourceRegistry) (projectModule : String) (sources : List String)
    (claimToken : String) (set : SourceRegistryRow → SourceRegistryRow) : SourceRegistry :=
  if sources.isEmpty || claimToken.isEmpty then r
  else
    r.updateWhere (fun row =>
      row.selectedBy projectModule sources && row.discoveryClaimToken == some claimToken) set

/-- `release_discovery_claim`. -/
def releaseDiscoveryClaim (r : SourceRegistry) (projectModule : String) (sources : List String)
    (claimToken : String) : SourceRegistry :=
  r.updateIfClaimed projectModule sources claimToken fun row =>
    { row with discoveryClaimToken := none, discoveryClaimExpiresAt := none }

/-- `mark_sources_checked_if_claimed`. -/
def markSourcesCheckedIfClaimed (r : SourceRegistry) (now : ℕ) (projectModule : String)
    (sources : List String) (claimToken : String) : SourceRegistry :=
  r.updateIfClaimed projectModule sources claimToken (SourceRegistryRow.markChecked now)

/-- `mark_sources_attempted_if_claimed`. -/
def markSourcesAttemptedIfClaimed (r : SourceRegistry) (now : ℕ) (projectModule : String)
    (sources : List String) (claimToken : String) : SourceRegistry :=
  r.updateIfClaimed projectModule sources claimToken fun row =>
    { row with lastAttemptedAt := some now }

section Persist

variable (env : DiscoveryEnv)

/-- `existing_sig`: the stored signature, or that of the archive rows. -/
def existingSignature (r : SourceRegistry) (row : SourceRegistryRow)
    (signature : SignatureOptions) : String :=
  row.discoverySignature.getD (existingSignatureFromRecords env.digest env.text
    (r.archiveRecords row.projectModule row.sourceIdentifier) (some signature))

/-- `persist_changed_or_unchanged`. -/
def persistChangedOrUnchanged (r : SourceRegistry) (now : ℕ)
    (projectModule source claimToken : String) (batch : MetadataBatch) :
    Except PersistError (SourceRegistry × PersistOutcome) :=
  match batch.prepared env source with
  | .error error => .error (.protocol error)
  | .ok metadata =>
      let storagePayload := batch.storagePayload env metadata
      let newSig := batch.newSignature env metadata
      match r.rows.find? (SourceRegistryRow.discoveryClaimedBy projectModule source claimToken) with
      | none => .ok (r, .missingRegistry)
      | some row =>
          if !storagePayload.toList.all env.storesGroup then .error .database
          else
            let synchronized := r.synchronizeArchiveMetadata projectModule source storagePayload
            let claimed := SourceRegistryRow.discoveryClaimedBy projectModule source claimToken
            if r.existingSignature env row batch.signature = newSig then
              -- the signature column is left as it is, also when it is NULL
              .ok (synchronized.updateWhere claimed (SourceRegistryRow.markChecked now),
                .unchanged storagePayload.size metadata.length)
            else
              .ok (synchronized.updateWhere claimed (SourceRegistryRow.markDiscovered now newSig),
                .changed storagePayload.size metadata.length)

/-- `persist_no_records`: whether the source changed. -/
def persistNoRecords (r : SourceRegistry) (now : ℕ) (projectModule source claimToken : String) :
    SourceRegistry × Bool :=
  let sig := noRecordsSignature env.digest env.text
  let claimed := SourceRegistryRow.discoveryClaimedBy projectModule source claimToken
  match r.rows.find? claimed with
  | none => (r, false)
  | some row =>
      if row.discoverySignature = some sig then
        (r.updateWhere claimed (SourceRegistryRow.markChecked now), false)
      else
        let kept := r.archive.filter fun row =>
          !(row.ofSource projectModule source && row.groupKey != "default")
        let written : SourceRegistry :=
          { r with
            archive := noRecordsPayload.toList.foldl (upsertArchiveMetadata projectModule source)
              kept }
        (written.updateWhere claimed fun row =>
          { row with lastCheckedAt := some now, discoverySignature := some sig }, true)

end Persist

end SourceRegistry

/-! ### Transactions on the registry and the archive metadata -/

/-- A transaction that writes `source_registry` or `archive_metadata`.  `persist_discovery_results`
runs the persistence of each result as a transaction of its own, then the marks and the release. -/
inductive RegistryOp where
  | upsertSource (projectModule source : String) (enabled : Bool)
  | updateSource (projectModule source : String) (enabled : Option Bool)
  | deleteSource (projectModule source : String)
  | markSourcesForRediscovery (projectModule : String) (sources : Option (List String))
  | claimSourceRowsForDiscovery (projectModule : Option String)
      (staleAfterHours limit leaseTtlMinutes : ℕ) (claimToken : String)
      (locked : List (String × String))
  | releaseDiscoveryClaim (projectModule : String) (sources : List String) (claimToken : String)
  | markSourcesCheckedIfClaimed (projectModule : String) (sources : List String)
      (claimToken : String)
  | markSourcesAttemptedIfClaimed (projectModule : String) (sources : List String)
      (claimToken : String)
  | persistChangedOrUnchanged (projectModule source claimToken : String) (batch : MetadataBatch)
  | persistNoRecords (projectModule source claimToken : String)
  | claimPendingSourcesForWorkflowRun (projectModule : String) (limit leaseTtlMinutes : ℕ)
      (claimToken : String) (locked : List String)
  | releaseWorkflowClaim (projectModule : String) (sources : List String) (claimToken : String)
  | clearWorkflowPendingForSources (projectModule : String) (sources : List String)
  | markSourcesPendingWorkflowRun (projectModule : String) (sources : List String)
  | finalizeSuccessfulSources (projectModule : String) (sources : List String)
      (admitted : Option CombinedSignature)
  deriving DecidableEq, Repr

namespace SourceRegistry

/-- The tables after a transaction at a time; one that fails leaves them alone. -/
def step (env : DiscoveryEnv) (r : SourceRegistry) (label : ℕ × RegistryOp) : SourceRegistry :=
  let now := label.1
  match label.2 with
  | .upsertSource projectModule source enabled => r.upsertSource now projectModule source enabled
  | .updateSource projectModule source enabled => r.updateSource projectModule source enabled
  | .deleteSource projectModule source => r.deleteSource projectModule source
  | .markSourcesForRediscovery projectModule sources =>
      r.markSourcesForRediscovery projectModule sources
  | .claimSourceRowsForDiscovery projectModule staleAfterHours limit leaseTtlMinutes claimToken
      locked =>
      (r.claimSourceRowsForDiscovery now projectModule staleAfterHours limit leaseTtlMinutes
        claimToken locked).1
  | .releaseDiscoveryClaim projectModule sources claimToken =>
      r.releaseDiscoveryClaim projectModule sources claimToken
  | .markSourcesCheckedIfClaimed projectModule sources claimToken =>
      r.markSourcesCheckedIfClaimed now projectModule sources claimToken
  | .markSourcesAttemptedIfClaimed projectModule sources claimToken =>
      r.markSourcesAttemptedIfClaimed now projectModule sources claimToken
  | .persistChangedOrUnchanged projectModule source claimToken batch =>
      match r.persistChangedOrUnchanged env now projectModule source claimToken batch with
      | .ok (r', _) => r'
      | .error _ => r
  | .persistNoRecords projectModule source claimToken =>
      (r.persistNoRecords env now projectModule source claimToken).1
  | .claimPendingSourcesForWorkflowRun projectModule limit leaseTtlMinutes claimToken locked =>
      (r.claimPendingSourcesForWorkflowRun now projectModule limit leaseTtlMinutes claimToken
        locked).1
  | .releaseWorkflowClaim projectModule sources claimToken =>
      r.releaseWorkflowClaim projectModule sources claimToken
  | .clearWorkflowPendingForSources projectModule sources =>
      r.clearWorkflowPendingForSources projectModule sources
  | .markSourcesPendingWorkflowRun projectModule sources =>
      r.markSourcesPendingWorkflowRun now projectModule sources
  | .finalizeSuccessfulSources projectModule sources admitted =>
      r.finalizeSuccessfulSources now projectModule sources admitted

/-! ### One row for each source -/

/-- `uq_source_registry_composite`: a source is registered once. -/
def Keyed (r : SourceRegistry) : Prop := (r.rows.map SourceRegistryRow.key).Nodup

/-- The row that is found is the row of the source. -/
theorem Keyed.find_eq_some_iff {r : SourceRegistry} (hkeyed : r.Keyed) {projectModule sid : String}
    {row : SourceRegistryRow} :
    r.find projectModule sid = some row ↔ row ∈ r.rows ∧ row.key = (projectModule, sid) := by
  have hkey : ∀ row : SourceRegistryRow, (row.projectModule == projectModule &&
      row.sourceIdentifier == sid) = true ↔ row.key = (projectModule, sid) := by
    intro row
    rw [Bool.and_eq_true, beq_iff_eq, beq_iff_eq, SourceRegistryRow.key, Prod.mk.injEq]
  unfold SourceRegistry.find
  constructor
  · intro h
    have hfound := List.find?_some h
    exact ⟨List.mem_of_find?_eq_some h, (hkey row).mp hfound⟩
  · rintro ⟨hmem, hrow⟩
    cases hfind : r.rows.find? fun row =>
        row.projectModule == projectModule && row.sourceIdentifier == sid with
    | none => exact absurd ((hkey row).mpr hrow) (List.find?_eq_none.mp hfind row hmem)
    | some other =>
        have hfound := List.find?_some hfind
        rw [List.inj_on_of_nodup_map hkeyed (List.mem_of_find?_eq_some hfind) hmem
          (((hkey other).mp hfound).trans hrow.symm)]

theorem Keyed.updateWhere {r : SourceRegistry} (h : r.Keyed) (p : SourceRegistryRow → Bool)
    {set : SourceRegistryRow → SourceRegistryRow} (hset : ∀ row, (set row).key = row.key) :
    (r.updateWhere p set).Keyed := by
  have hkeys : (r.updateWhere p set).rows.map SourceRegistryRow.key =
      r.rows.map SourceRegistryRow.key := by
    rw [SourceRegistry.updateWhere, List.map_map]
    refine List.map_congr_left fun row _ => ?_
    simp only [Function.comp_apply]
    split
    · exact hset row
    · rfl
  rw [Keyed, hkeys]
  exact h

theorem Keyed.updateIfClaimed {r : SourceRegistry} (h : r.Keyed) (projectModule : String)
    (sources : List String) (claimToken : String) {set : SourceRegistryRow → SourceRegistryRow}
    (hset : ∀ row, (set row).key = row.key) :
    (r.updateIfClaimed projectModule sources claimToken set).Keyed := by
  unfold SourceRegistry.updateIfClaimed
  split
  · exact h
  · exact h.updateWhere _ hset

theorem Keyed.upsertSource {r : SourceRegistry} (h : r.Keyed) (now : ℕ)
    (projectModule source : String) (enabled : Bool) :
    (r.upsertSource now projectModule source enabled).Keyed := by
  unfold SourceRegistry.upsertSource
  split
  · exact h.updateWhere _ fun _ => rfl
  · next hnew =>
      have hkey : (projectModule, source) ∉ r.rows.map SourceRegistryRow.key := by
        intro hmem
        obtain ⟨row, hrow, hkey⟩ := List.mem_map.mp hmem
        exact hnew (List.any_eq_true.mpr ⟨row, hrow, by simp [hkey]⟩)
      rw [Keyed, List.map_append, List.map_singleton, ← List.concat_eq_append]
      exact List.Nodup.concat hkey h

theorem Keyed.finalizeSuccessfulSources {r : SourceRegistry} (h : r.Keyed) (now : ℕ)
    (projectModule : String) (sources : List String) (admitted : Option CombinedSignature) :
    (r.finalizeSuccessfulSources now projectModule sources admitted).Keyed := by
  unfold SourceRegistry.finalizeSuccessfulSources
  split
  · exact h
  · split
    · exact h.updateWhere _ fun _ => rfl
    · exact h.updateWhere _ fun _ => rfl

/-- What persisting a batch does: nothing without the claim; otherwise the archive rows are the
groups of the batch, and the row is stamped, with the signature when it is a new one. -/
theorem persistChangedOrUnchanged_cases {env : DiscoveryEnv} {r r' : SourceRegistry} {now : ℕ}
    {projectModule source claimToken : String} {batch : MetadataBatch} {outcome : PersistOutcome}
    (h : r.persistChangedOrUnchanged env now projectModule source claimToken batch =
      .ok (r', outcome)) :
    ∃ metadata, batch.prepared env source = .ok metadata ∧
      ((r.rows.find? (SourceRegistryRow.discoveryClaimedBy projectModule source claimToken) = none ∧
          r' = r ∧ outcome = .missingRegistry) ∨
        ∃ row, r.rows.find?
            (SourceRegistryRow.discoveryClaimedBy projectModule source claimToken) = some row ∧
          outcome ≠ .missingRegistry ∧
          ∃ set : SourceRegistryRow → SourceRegistryRow, (∀ row, (set row).key = row.key) ∧
            r' = (r.synchronizeArchiveMetadata projectModule source
              (batch.storagePayload env metadata)).updateWhere
                (SourceRegistryRow.discoveryClaimedBy projectModule source claimToken) set ∧
            (set row).discoverySignature =
              if r.existingSignature env row batch.signature = batch.newSignature env metadata then
                row.discoverySignature
              else some (batch.newSignature env metadata)) := by
  unfold SourceRegistry.persistChangedOrUnchanged at h
  cases hprepared : batch.prepared env source with
  | error error => simp [hprepared] at h
  | ok metadata =>
      refine ⟨metadata, rfl, ?_⟩
      simp only [hprepared] at h
      split at h
      · next hfind =>
          obtain ⟨rfl, rfl⟩ := Prod.mk.inj (Except.ok.inj h)
          exact .inl ⟨hfind, rfl, rfl⟩
      · next row hfind =>
          refine .inr ⟨row, hfind, ?_⟩
          split at h
          · cases h
          · split at h
            · next hequal =>
                obtain ⟨rfl, rfl⟩ := Prod.mk.inj (Except.ok.inj h)
                refine ⟨by simp, .markChecked now, fun _ => rfl, rfl, ?_⟩
                rw [if_pos hequal]
                rfl
            · next hdiffers =>
                obtain ⟨rfl, rfl⟩ := Prod.mk.inj (Except.ok.inj h)
                refine ⟨by simp, .markDiscovered now _, fun _ => rfl, rfl, ?_⟩
                rw [if_neg hdiffers]
                rfl

theorem Keyed.persistChangedOrUnchanged {env : DiscoveryEnv} {r r' : SourceRegistry}
    (h : r.Keyed) {now : ℕ} {projectModule source claimToken : String} {batch : MetadataBatch}
    {outcome : PersistOutcome} (hpersist : r.persistChangedOrUnchanged env now projectModule source
      claimToken batch = .ok (r', outcome)) : r'.Keyed := by
  obtain ⟨metadata, -, ⟨-, rfl, -⟩ | ⟨row, -, -, set, hset, rfl, -⟩⟩ :=
    persistChangedOrUnchanged_cases hpersist
  · exact h
  · exact Keyed.updateWhere (show (r.synchronizeArchiveMetadata _ _ _).Keyed from h) _ hset

theorem Keyed.persistNoRecords {env : DiscoveryEnv} {r : SourceRegistry} (h : r.Keyed) (now : ℕ)
    (projectModule source claimToken : String) :
    (r.persistNoRecords env now projectModule source claimToken).1.Keyed := by
  unfold SourceRegistry.persistNoRecords
  dsimp only
  split
  · exact h
  · split
    · exact h.updateWhere _ fun _ => rfl
    · refine Keyed.updateWhere ?_ _ fun _ => rfl
      exact h

/-- No transaction registers a source a second time. -/
theorem Keyed.step {env : DiscoveryEnv} {r : SourceRegistry} (h : r.Keyed)
    (label : ℕ × RegistryOp) : (r.step env label).Keyed := by
  obtain ⟨now, op⟩ := label
  unfold SourceRegistry.step
  dsimp only
  cases op with
  | upsertSource projectModule source enabled => exact h.upsertSource now _ _ _
  | deleteSource projectModule source =>
      exact h.sublist (List.filter_sublist.map _)
  | persistChangedOrUnchanged projectModule source claimToken batch =>
      dsimp only
      split
      · next hpersist => exact h.persistChangedOrUnchanged hpersist
      · exact h
  | persistNoRecords projectModule source claimToken => exact h.persistNoRecords now _ _ _
  | releaseDiscoveryClaim projectModule sources claimToken
  | markSourcesCheckedIfClaimed projectModule sources claimToken
  | markSourcesAttemptedIfClaimed projectModule sources claimToken =>
      exact h.updateIfClaimed _ _ _ fun _ => rfl
  | finalizeSuccessfulSources projectModule sources admitted =>
      exact h.finalizeSuccessfulSources now _ _ _
  | _ => exact h.updateWhere _ fun _ => rfl

/-! ### The archive rows after a batch -/

/-- The source has an archive row of the group. -/
def HasGroup (archive : List ArchiveMetadataRow) (projectModule source groupKey : String) : Prop :=
  ∃ row ∈ archive, row.ofSource projectModule source = true ∧ row.groupKey = groupKey

theorem hasGroup_upsert {archive : List ArchiveMetadataRow}
    {projectModule source groupKey : String} {group : String × Json} :
    HasGroup (upsertArchiveMetadata projectModule source archive group) projectModule source
        groupKey ↔
      HasGroup archive projectModule source groupKey ∨ groupKey = group.1 := by
  unfold upsertArchiveMetadata
  dsimp only
  split
  · next hconflict =>
      -- the group is there already, and an update keeps the groups
      obtain ⟨old, hold, hkey⟩ := List.any_eq_true.mp hconflict
      rw [Bool.and_eq_true, beq_iff_eq] at hkey
      constructor
      · rintro ⟨row, hrow, hsource, rfl⟩
        obtain ⟨before, hbefore, rfl⟩ := List.mem_map.mp hrow
        refine .inl ⟨before, hbefore, ?_, ?_⟩
        · split at hsource <;> exact hsource
        · split <;> rfl
      · intro h
        have hmem : HasGroup archive projectModule source groupKey :=
          h.elim id fun heq => ⟨old, hold, hkey.1, hkey.2.trans heq.symm⟩
        obtain ⟨row, hrow, hsource, rfl⟩ := hmem
        refine ⟨_, List.mem_map.mpr ⟨row, hrow, rfl⟩, ?_, ?_⟩
        · split <;> exact hsource
        · split <;> rfl
  · constructor
    · rintro ⟨row, hrow, hsource, rfl⟩
      rcases List.mem_append.mp hrow with hold | hnew
      · exact .inl ⟨row, hold, hsource, rfl⟩
      · exact .inr (by rw [List.mem_singleton.mp hnew])
    · rintro (⟨row, hrow, hsource, rfl⟩ | rfl)
      · exact ⟨row, List.mem_append_left _ hrow, hsource, rfl⟩
      · exact ⟨_, List.mem_append_right _ (List.mem_singleton_self _), by simp, rfl⟩

theorem hasGroup_upserts {groups : List (String × Json)} {archive : List ArchiveMetadataRow}
    {projectModule source groupKey : String} :
    HasGroup (groups.foldl (upsertArchiveMetadata projectModule source) archive) projectModule source
        groupKey ↔
      HasGroup archive projectModule source groupKey ∨ groupKey ∈ groups.map Prod.fst := by
  induction groups generalizing archive with
  | nil => simp
  | cons group groups ih =>
      rw [List.foldl_cons, ih, hasGroup_upsert, List.map_cons, List.mem_cons, or_assoc]

/-- The archive rows of a source after a batch are of the groups of the batch. -/
theorem hasGroup_synchronize {r : SourceRegistry} {projectModule source groupKey : String}
    {payload : BTreeMap Json} :
    HasGroup (r.synchronizeArchiveMetadata projectModule source payload).archive projectModule source
        groupKey ↔ groupKey ∈ payload := by
  rw [synchronizeArchiveMetadata, hasGroup_upserts, Std.ExtTreeMap.map_fst_toList_eq_keys,
    Std.ExtTreeMap.mem_keys]
  constructor
  · rintro (⟨row, hrow, hsource, rfl⟩ | hmem)
    · have hkept := (List.mem_filter.mp hrow).2
      simpa [hsource] using hkept
    · exact hmem
  · exact .inr

/-! ### A batch and what is stored of it -/

/-- The registry has the signature of the batch, and the archive rows of the source are of the
groups of the batch. -/
structure Corresponds (env : DiscoveryEnv) (r : SourceRegistry) (projectModule source : String)
    (batch : MetadataBatch) (metadata : List Json) : Prop where
  signature : ∃ row ∈ r.rows, row.key = (projectModule, source) ∧
    row.discoverySignature = some (batch.newSignature env metadata)
  groups : ∀ groupKey, HasGroup r.archive projectModule source groupKey ↔
    groupKey ∈ batch.storagePayload env metadata

/-- A transaction commits a batch of a claimed source. -/
structure Commits (env : DiscoveryEnv) (r : SourceRegistry) (label : ℕ × RegistryOp)
    (projectModule source claimToken : String) (batch : MetadataBatch) (metadata : List Json)
    (row : SourceRegistryRow) : Prop where
  op : label.2 = .persistChangedOrUnchanged projectModule source claimToken batch
  prepared : batch.prepared env source = .ok metadata
  claimed : r.rows.find? (SourceRegistryRow.discoveryClaimedBy projectModule source claimToken) =
    some row
  committed : ∃ outcome, r.persistChangedOrUnchanged env label.1 projectModule source claimToken
    batch = .ok (r.step env label, outcome)

/-- A batch that the transaction commits is what is stored afterwards. -/
def LeavesBatch (env : DiscoveryEnv) (r : SourceRegistry) (label : ℕ × RegistryOp) : Prop :=
  ∀ projectModule source claimToken batch metadata row,
    Commits env r label projectModule source claimToken batch metadata row →
      Corresponds env (r.step env label) projectModule source batch metadata

/-- A batch that the transaction commits meets a stored signature, or archive rows that give another
signature than its own. -/
def RecordsSignature (env : DiscoveryEnv) (r : SourceRegistry) (label : ℕ × RegistryOp) : Prop :=
  ∀ projectModule source claimToken batch metadata row,
    Commits env r label projectModule source claimToken batch metadata row →
      row.discoverySignature.isSome = true ∨
        existingSignatureFromRecords env.digest env.text (r.archiveRecords projectModule source)
          (some batch.signature) ≠ batch.newSignature env metadata

/-- One committed batch: what is stored afterwards is the batch, or the signature column was NULL
and stayed so. -/
theorem corresponds_iff {env : DiscoveryEnv} {r : SourceRegistry} (hkeyed : r.Keyed)
    {label : ℕ × RegistryOp} {projectModule source claimToken : String} {batch : MetadataBatch}
    {metadata : List Json} {row : SourceRegistryRow}
    (h : Commits env r label projectModule source claimToken batch metadata row) :
    Corresponds env (r.step env label) projectModule source batch metadata ↔
      (row.discoverySignature.isSome = true ∨
        existingSignatureFromRecords env.digest env.text (r.archiveRecords projectModule source)
          (some batch.signature) ≠ batch.newSignature env metadata) := by
  obtain ⟨outcome, hpersist⟩ := h.committed
  obtain ⟨other, hother, hcases⟩ := persistChangedOrUnchanged_cases hpersist
  obtain rfl : other = metadata := Except.ok.inj (hother.symm.trans h.prepared)
  rcases hcases with ⟨hnone, -, -⟩ | ⟨found, hfound, -, set, hset, hstep, hsignature⟩
  · rw [h.claimed] at hnone
    cases hnone
  · obtain rfl : found = row := Option.some.inj (hfound.symm.trans h.claimed)
    have hclaimed := List.find?_some hfound
    have hmem := List.mem_of_find?_eq_some hfound
    have hkey : found.key = (projectModule, source) := by
      simp only [SourceRegistryRow.discoveryClaimedBy, Bool.and_eq_true, beq_iff_eq] at hclaimed
      rw [SourceRegistryRow.key, hclaimed.1.1, hclaimed.1.2]
    -- the row of the source after the transaction
    have hrow : ∀ after, (after ∈ (r.step env label).rows ∧ after.key = (projectModule, source)) ↔
        after = set found := by
      intro after
      rw [hstep, mem_updateWhere]
      constructor
      · rintro ⟨⟨before, hbefore, rfl⟩, hafter⟩
        have hbeforeKey : before.key = found.key := by
          rw [hkey, ← hafter]
          split
          · exact (hset before).symm
          · rfl
        obtain rfl := List.inj_on_of_nodup_map hkeyed hbefore hmem hbeforeKey
        rw [if_pos hclaimed]
      · rintro rfl
        exact ⟨⟨found, hmem, by rw [if_pos hclaimed]⟩, (hset found).trans hkey⟩
    have hgroups : ∀ groupKey, HasGroup (r.step env label).archive projectModule source groupKey ↔
        groupKey ∈ batch.storagePayload env other := by
      intro groupKey
      rw [hstep]
      exact hasGroup_synchronize
    have hexisting : r.existingSignature env found batch.signature =
        found.discoverySignature.getD (existingSignatureFromRecords env.digest env.text
          (r.archiveRecords projectModule source) (some batch.signature)) := by
      rw [existingSignature, (Prod.mk.inj hkey).1, (Prod.mk.inj hkey).2]
    have hcorresponds : Corresponds env (r.step env label) projectModule source batch other ↔
        (set found).discoverySignature = some (batch.newSignature env other) := by
      constructor
      · rintro ⟨⟨after, hafter, hafterKey, hsig⟩, -⟩
        rwa [(hrow after).mp ⟨hafter, hafterKey⟩] at hsig
      · intro hsig
        obtain ⟨hafter, hafterKey⟩ := (hrow _).mpr rfl
        exact ⟨⟨_, hafter, hafterKey, hsig⟩, hgroups⟩
    rw [hcorresponds, hsignature, hexisting]
    cases hstored : found.discoverySignature with
    | some stored =>
        refine iff_of_true ?_ (.inl rfl)
        split
        · next hequal => rw [← hequal, Option.getD_some]
        · rfl
    | none =>
        rw [Option.getD_none]
        split
        · next hequal => simp [hequal]
        · next hdiffers => simp [hdiffers]

/-- **Committed batches are what is stored** after them, in a run from any tables, exactly when each
of them meets a stored signature or archive rows of another signature. -/
theorem persisted_corresponds_iff {env : DiscoveryEnv} {r : SourceRegistry} (hkeyed : r.Keyed)
    (labels : List (ℕ × RegistryOp)) :
    Runs.Meets (SourceRegistry.step env) (LeavesBatch env) r labels ↔
      Runs.Meets (SourceRegistry.step env) (RecordsSignature env) r labels := by
  refine Runs.meets_congr Keyed (fun r label h => h.step label) ?_ hkeyed
  intro r label hr
  constructor
  · intro h projectModule source claimToken batch metadata row hcommits
    exact (corresponds_iff hr hcommits).mp
      (h projectModule source claimToken batch metadata row hcommits)
  · intro h projectModule source claimToken batch metadata row hcommits
    exact (corresponds_iff hr hcommits).mpr
      (h projectModule source claimToken batch metadata row hcommits)

/-! ### A source that is registered again -/

/-- An environment for runs on fixed inputs. -/
def sampleEnv : DiscoveryEnv := ⟨plainDigest, .plain, fun _ => true⟩

/-- One record, without flags. -/
def sampleBatch : MetadataBatch := ⟨[sampleRecord], .null, ⟨[], false⟩⟩

/-- A source is registered and claimed. -/
def claimSample (now : ℕ) (claimToken : String) : List (ℕ × RegistryOp) :=
  [(now, .upsertSource "survey" "101" true),
    (now, .claimSourceRowsForDiscovery (some "survey") 24 10 180 claimToken [])]

/-- The batch of the claimed source is persisted. -/
def persistSample (now : ℕ) (claimToken : String) : ℕ × RegistryOp :=
  (now, .persistChangedOrUnchanged "survey" "101" claimToken sampleBatch)

/-- A source is discovered, deleted, registered again and claimed again. -/
def reregistered : List (ℕ × RegistryOp) :=
  claimSample 1 "first" ++
    [persistSample 2 "first", (3, .releaseDiscoveryClaim "survey" ["101"] "first"),
      (4, .deleteSource "survey" "101")] ++ claimSample 5 "second"

/-- The registry after transactions from empty tables. -/
def sampleRegistry (labels : List (ℕ × RegistryOp)) : SourceRegistry :=
  Runs.exec (SourceRegistry.step sampleEnv) ⟨[], []⟩ labels

theorem keyed_sampleRegistry (labels : List (ℕ × RegistryOp)) : (sampleRegistry labels).Keyed :=
  Runs.exec_invariant Keyed (fun _ label h _ => h.step label)
    (show Keyed ⟨[], []⟩ from List.nodup_nil) (Runs.meets_true labels)

theorem persisted_corresponds_iff_sample :
    Runs.Meets (SourceRegistry.step sampleEnv) (LeavesBatch sampleEnv) ⟨[], []⟩
        (claimSample 1 "first" ++ [persistSample 2 "first"]) ↔
      Runs.Meets (SourceRegistry.step sampleEnv) (RecordsSignature sampleEnv) ⟨[], []⟩
        (claimSample 1 "first" ++ [persistSample 2 "first"]) :=
  persisted_corresponds_iff (show (⟨[], []⟩ : SourceRegistry).Keyed from List.nodup_nil) _

/-- The rows left of the deleted source keep its signature from being written again. -/
theorem reregistered_without_signature :
    ¬ Runs.Meets (SourceRegistry.step sampleEnv) (LeavesBatch sampleEnv) ⟨[], []⟩
      (reregistered ++ [persistSample 6 "second"]) := by
  intro h
  have hlast := ((Runs.meets_append _ _ _).mp h).2.1
  generalize hr : Runs.exec (SourceRegistry.step sampleEnv) ⟨[], []⟩ reregistered = r at hlast
  have hclaimed : (r.rows.find? (SourceRegistryRow.discoveryClaimedBy "survey" "101" "second")).isSome
      = true := by
    rw [← hr]
    decide +kernel
  obtain ⟨row, hrow⟩ := Option.isSome_iff_exists.mp hclaimed
  have hprepared : sampleBatch.prepared sampleEnv "101" = .ok [sampleRecord] := by decide +kernel
  have hcommitted : ∃ outcome, r.persistChangedOrUnchanged sampleEnv 6 "survey" "101" "second"
      sampleBatch = .ok (r.step sampleEnv (persistSample 6 "second"), outcome) := by
    rw [← hr]
    exact ⟨.unchanged 1 1, by decide +kernel⟩
  obtain ⟨after, hafter, -, hsignature⟩ :=
    (hlast "survey" "101" "second" sampleBatch _ row ⟨rfl, hprepared, hrow, hcommitted⟩).signature
  have hnull : ∀ after ∈ (r.step sampleEnv (persistSample 6 "second")).rows,
      after.discoverySignature = none := by
    rw [← hr]
    decide +kernel
  rw [hnull after hafter] at hsignature
  cases hsignature

end SourceRegistry

end Beampipe
