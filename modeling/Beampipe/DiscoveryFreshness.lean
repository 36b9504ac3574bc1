/-
A discovery: what a source is found to be, and what is persisted of it.

A worker discovers the claimed sources of a batch one by one and then persists the results.  Before
it queries the archive it looks at what is stored: when the stored records still give the stored
signature, the source is taken to be unchanged and the archive is not asked.  What was stored with a
signature gives that signature again, so this happens whatever the archive would answer now.

Main definitions:

* `Beampipe.DiscoveryConfig`, `Beampipe.ArchiveAnswer` — what the project configures and what the
  queries answer;
* `Beampipe.SourceRegistry.skipsTap`, `Beampipe.SourceRegistry.discoverSource` — `discover_source`;
* `Beampipe.SourceRegistry.persistResult`, `Beampipe.SourceRegistry.persistDiscoveryResults` —
  `persist_discovery_results`, a transaction for each result;
* `Beampipe.SourceRegistry.SameSource` — the rows of a source are left alone.

Main results:

* `Beampipe.SourceRegistry.persistResult_sameSource` — a result leaves the other sources alone;
* `Beampipe.SourceRegistry.discovery_fresh_iff` — **when a discovery reports what the archive
  answers**.
-/

import Beampipe.DiscoveryPersistence
import Beampipe.PreparedIdentities

set_option relaxedAutoImplicit false
set_option autoImplicit false

namespace Beampipe

/-! ### Answers and results -/

/-- The part of a project configuration that a discovery reads apart from its queries:
`prepare_metadata.required_fields` and `prepare_metadata.signature`. -/
structure DiscoveryConfig where
  requiredFields : List String
  signature : Option SignatureOptions
  deriving DecidableEq, Repr

/-- The options of its signatures. -/
def DiscoveryConfig.signatureOptions (config : DiscoveryConfig) : SignatureOptions :=
  config.signature.getD {}

/-- What `discover_from_config` gets from the archive; `prepared` are the records after the
`prepare_metadata` hook of the project, if it returns any. -/
inductive ArchiveAnswer where
  | records (metadata : List Json) (prepared : Option (List Json)) (discoveryFlags : Json)
  | noRecords
  | timeout
  | failed (error : String)
  deriving DecidableEq, Repr

/-- `DiscoverySourceResult`. -/
inductive DiscoverySourceResult where
  | hasMetadata (sourceIdentifier : String) (metadata : List Json) (discoveryFlags : Json)
  | noRecords (sourceIdentifier : String)
  | unchanged (sourceIdentifier : String)
  | timeout (sourceIdentifier error : String)
  | error (sourceIdentifier error : String)
  deriving DecidableEq, Repr

/-- The source of a result. -/
def DiscoverySourceResult.sourceIdentifier : DiscoverySourceResult → String
  | .hasMetadata source _ _ | .noRecords source | .unchanged source | .timeout source _
  | .error source _ => source

/-- `nonempty_string_field`. -/
def nonemptyStringField (value : Json) (field : String) : Bool :=
  match (value.get field).bind Json.asStr with
  | some text => !(trim text).isEmpty
  | none => false

/-- `prepared_metadata_cache_complete`. -/
def preparedMetadataCacheComplete (config : DiscoveryConfig) (records : List (String × Json)) :
    Bool :=
  config.requiredFields.isEmpty ||
    records.all fun group =>
      match group.2.get "records" with
      | some (.arr items) =>
          !items.isEmpty && items.all fun item =>
            config.requiredFields.all fun field => nonemptyStringField item field
      | _ => false

/-- The identities of prepared records are made canonical and checked. -/
def prepareIdentities (t : ScalarText) (source : String) (metadata : List Json) :
    Except PreparedMetadataError (List Json) := do
  let metadata ← canonicalizePreparedMetadataIdentities t metadata
  validatePreparedMetadataRecordsForSource metadata source
  pure metadata

/-- The result for an answer of the archive. -/
def ArchiveAnswer.result (t : ScalarText) (source : String) :
    ArchiveAnswer → DiscoverySourceResult
  | .records metadata prepared discoveryFlags =>
      match prepareIdentities t source (prepared.getD metadata) with
      | .error error => .error source ("invalid prepared metadata: " ++ error.message)
      | .ok metadata => .hasMetadata source metadata discoveryFlags
  | .noRecords => .noRecords source
  | .timeout => .timeout source "TAP timeout"
  | .failed error => .error source error

namespace SourceRegistry

/-- The stored records of a source: groups without a document are left out. -/
def storedRecords (r : SourceRegistry) (projectModule source : String) : List (String × Json) :=
  (r.archive.filter (ArchiveMetadataRow.ofSource projectModule source)).filterMap fun row =>
    row.metadataJson.map fun value => (row.groupKey, value)

variable (env : DiscoveryEnv)

/-- The stored records are complete and give the stored signature. -/
def skipsTap (r : SourceRegistry) (config : DiscoveryConfig) (projectModule source : String) :
    Bool :=
  match r.find projectModule source with
  | none => false
  | some row =>
      let records := r.storedRecords projectModule source
      !records.isEmpty && preparedMetadataCacheComplete config records &&
        shouldSkipTap env.digest env.text row.discoverySignature records config.signatureOptions

/-- `discover_source`; `readable` says that the stored rows can be read. -/
def discoverSource (r : SourceRegistry) (config : Option DiscoveryConfig)
    (projectModule source : String) (readable : Bool) (answer : ArchiveAnswer) :
    DiscoverySourceResult :=
  match config with
  | none => .error source ("no active project config for project " ++ projectModule)
  | some config =>
      if readable && r.skipsTap env config projectModule source then .unchanged source
      else answer.result env.text source

end SourceRegistry

/-- `DiscoveryBatchStats`. -/
structure DiscoveryBatchStats where
  totalSources : ℕ := 0
  totalGroups : ℕ := 0
  totalRecords : ℕ := 0
  changedCount : ℕ := 0
  unchangedCount : ℕ := 0
  noRecordsCount : ℕ := 0
  errorCount : ℕ := 0
  timeoutCount : ℕ := 0
  failedSources : List String := []
  missingRegistryCount : ℕ := 0
  changedSourceIdentifiers : List String := []
  deriving DecidableEq, Repr

/-- The statistics of a batch, with the sources to be marked at its end. -/
structure DiscoveryBatch where
  stats : DiscoveryBatchStats := {}
  checked : List String := []
  attempted : List String := []
  deriving DecidableEq, Repr

namespace DiscoveryBatch

/-- The source is unchanged. -/
def markUnchanged (batch : DiscoveryBatch) (source : String) : DiscoveryBatch :=
  { batch with
    stats := { batch.stats with unchangedCount := batch.stats.unchangedCount + 1 }
    checked := batch.checked ++ [source] }

/-- The discovery of the source has failed. -/
def markFailed (batch : DiscoveryBatch) (source : String) : DiscoveryBatch :=
  { batch with
    stats := { batch.stats with failedSources := batch.stats.failedSources ++ [source] }
    attempted := batch.attempted ++ [source] }

/-- What a batch of metadata contributes. -/
def recordMetadata (batch : DiscoveryBatch) (source : String) : PersistOutcome → DiscoveryBatch
  | .changed groups records =>
      { batch with
        stats :=
          { batch.stats with
            changedCount := batch.stats.changedCount + 1
            totalGroups := batch.stats.totalGroups + groups
            totalRecords := batch.stats.totalRecords + records
            changedSourceIdentifiers := batch.stats.changedSourceIdentifiers ++ [source] } }
  | .unchanged groups records =>
      { batch.markUnchanged source with
        stats :=
          { (batch.markUnchanged source).stats with
            totalGroups := batch.stats.totalGroups + groups
            totalRecords := batch.stats.totalRecords + records } }
  | .missingRegistry =>
      { batch with
        stats :=
          { batch.stats with missingRegistryCount := batch.stats.missingRegistryCount + 1 } }

/-- What a source without records contributes. -/
def recordNoRecords (batch : DiscoveryBatch) (source : String) (changed : Bool) : DiscoveryBatch :=
  let counted :=
    if changed then
      { batch with stats := { batch.stats with changedCount := batch.stats.changedCount + 1 } }
    else batch.markUnchanged source
  { counted with
    stats := { counted.stats with noRecordsCount := counted.stats.noRecordsCount + 1 } }

end DiscoveryBatch

namespace SourceRegistry

section Persist

variable (env : DiscoveryEnv)

/-- One result of a batch, in a transaction of its own. -/
def persistResult (r : SourceRegistry) (now : ℕ) (projectModule claimToken : String)
    (signature : SignatureOptions) (batch : DiscoveryBatch) :
    DiscoverySourceResult → Except PersistError (SourceRegistry × DiscoveryBatch)
  | .hasMetadata source metadata discoveryFlags =>
      match r.persistChangedOrUnchanged env now projectModule source claimToken
          ⟨metadata, discoveryFlags, signature⟩ with
      | .error error => .error error
      | .ok (r', outcome) => .ok (r', batch.recordMetadata source outcome)
  | .noRecords source =>
      let (r', changed) := r.persistNoRecords env now projectModule source claimToken
      .ok (r', batch.recordNoRecords source changed)
  | .unchanged source => .ok (r, batch.markUnchanged source)
  | .timeout source _ =>
      .ok (r, { batch.markFailed source with
        stats :=
          { (batch.markFailed source).stats with timeoutCount := batch.stats.timeoutCount + 1 } })
  | .error source _ =>
      .ok (r, { batch.markFailed source with
        stats :=
          { (batch.markFailed source).stats with errorCount := batch.stats.errorCount + 1 } })

/-- The results in order; `clock` gives the times of the transactions.  An error ends the batch
after the results before it. -/
def persistResults (clock : ℕ → ℕ) (projectModule claimToken : String)
    (signature : SignatureOptions) :
    SourceRegistry → DiscoveryBatch → List DiscoverySourceResult →
      SourceRegistry × Except PersistError DiscoveryBatch
  | r, batch, [] => (r, .ok batch)
  | r, batch, result :: rest =>
      match r.persistResult env (clock rest.length) projectModule claimToken signature batch
          result with
      | .error error => (r, .error error)
      | .ok (r', batch') => persistResults clock projectModule claimToken signature r' batch' rest

/-- `persist_discovery_results`: the results, then the marks, and the claims are released. -/
def persistDiscoveryResults (r : SourceRegistry) (now : ℕ) (clock : ℕ → ℕ)
    (projectModule claimToken : String) (results : List DiscoverySourceResult)
    (signatureConfig : Option SignatureOptions) :
    SourceRegistry × Except PersistError DiscoveryBatch :=
  match persistResults env clock projectModule claimToken (signatureConfig.getD {}) r
      { stats := { totalSources := results.length } } results with
  | (r', .error error) => (r', .error error)
  | (r', .ok batch) =>
      (((r'.markSourcesCheckedIfClaimed now projectModule batch.checked
          claimToken).markSourcesAttemptedIfClaimed now projectModule batch.attempted
          claimToken).releaseDiscoveryClaim projectModule
          (results.map DiscoverySourceResult.sourceIdentifier) claimToken, .ok batch)

end Persist

end SourceRegistry

/-! ### Prepared identities -/

/-- Preparing identities twice is preparing them once. -/
theorem prepareIdentities_idem {t : ScalarText} {source : String} {metadata prepared : List Json}
    (h : prepareIdentities t source metadata = .ok prepared) :
    prepareIdentities t source prepared = .ok prepared := by
  obtain ⟨canonical, -, h⟩ := exceptBind_ok h
  obtain ⟨_, hvalid, h⟩ := exceptBind_ok h
  cases h
  obtain ⟨_, hrecords, -⟩ := exceptBind_ok hvalid
  have hcanonical := canonicalizeRecords_of_valid t hrecords
  unfold prepareIdentities canonicalizePreparedMetadataIdentities
  rw [hcanonical]
  change (validatePreparedMetadataRecordsForSource prepared source >>= fun _ => pure prepared) = _
  rw [hvalid]
  rfl

/-- What is known of a record whose identities have been made canonical and checked. -/
structure IsPrepared (source : String) (object : List (String × Json)) : Prop where
  identities : ∀ field : IdentityField, ∃ value,
    Json.lookupField field.name object = some (.str value) ∧ isCanonicalIdentity value = true
  source : Json.lookupField "source_identifier" object = some (.str source)

theorem validateSources_ok {source : String} {index : ℕ} {records : List Json}
    (h : validateSources source index records = .ok ()) :
    ∀ record ∈ records, (record.get "source_identifier").bind Json.asStr = some source := by
  induction records generalizing index with
  | nil => exact fun record hrecord => (List.not_mem_nil hrecord).elim
  | cons first records ih =>
      rw [validateSources] at h
      split at h
      · cases h
      next actual hactual =>
        split at h
        next hequal =>
          intro record hmem
          rcases List.mem_cons.mp hmem with rfl | hmem
          · rw [hactual, hequal]
          · exact ih h record hmem
        · cases h

/-- **Prepared records** carry canonical identities, and that of the source. -/
theorem isPrepared_of_prepareIdentities {t : ScalarText} {source : String}
    {metadata prepared : List Json} (h : prepareIdentities t source metadata = .ok prepared) :
    ∀ record ∈ prepared, ∃ object, record = .obj object ∧ IsPrepared source object := by
  obtain ⟨canonical, -, h⟩ := exceptBind_ok h
  obtain ⟨⟨⟩, hvalid, h⟩ := exceptBind_ok h
  cases h
  obtain ⟨⟨⟩, hrecords, hsources⟩ := exceptBind_ok hvalid
  intro record hmem
  obtain ⟨object, rfl, hidentities⟩ := validateRecords_ok hrecords record hmem
  refine ⟨object, rfl, hidentities, ?_⟩
  obtain ⟨value, hvalue, -⟩ := hidentities .sourceIdentifier
  have hsource := validateSources_ok hsources _ hmem
  simp only [IdentityField.name] at hvalue
  rw [Json.get, hvalue, Option.bind_some, Json.asStr, Option.some.injEq] at hsource
  rw [hvalue, hsource]

/-- A prepared record has a group. -/
theorem IsPrepared.groupKeyOf {source : String} {object : List (String × Json)}
    (h : IsPrepared source object) : ∃ groupKey, Beampipe.groupKeyOf (.obj object) = some groupKey := by
  obtain ⟨value, hvalue, hcanonical⟩ := h.identities .groupKey
  simp only [IdentityField.name] at hvalue
  refine ⟨value, ?_⟩
  rw [Beampipe.groupKeyOf, Json.get, hvalue, Option.bind_some, Json.asStr, Option.filter_some,
    if_pos hcanonical]

/-! ### The rows of one source -/

namespace SourceRegistry

/-- An update leaves alone what it does not select. -/
theorem filter_update_of_unselected {α : Type} {q p : α → Bool} {set : α → α}
    (hset : ∀ a, q (set a) = q a) (hp : ∀ a, q a → p a = false) (rows : List α) :
    (rows.map fun a => if p a then set a else a).filter q = rows.filter q := by
  induction rows with
  | nil => rfl
  | cons a rows ih =>
      have hsame : q (if p a then set a else a) = q a := by
        split
        · exact hset a
        · rfl
      rw [List.map_cons, List.filter_cons, List.filter_cons, hsame, ih]
      cases hq : q a with
      | true => simp [hp a hq]
      | false => rfl

/-- The rows of the source are the same in both tables. -/
structure SameSource (projectModule source : String) (r r' : SourceRegistry) : Prop where
  rows : r'.rows.filter (fun row => row.key == (projectModule, source)) =
    r.rows.filter fun row => row.key == (projectModule, source)
  archive : r'.archive.filter (ArchiveMetadataRow.ofSource projectModule source) =
    r.archive.filter (ArchiveMetadataRow.ofSource projectModule source)

section SameSource

variable {projectModule source : String} {r r' r'' : SourceRegistry}

theorem SameSource.refl (r : SourceRegistry) : SameSource projectModule source r r := ⟨rfl, rfl⟩

theorem SameSource.trans (h : SameSource projectModule source r r')
    (h' : SameSource projectModule source r' r'') : SameSource projectModule source r r'' :=
  ⟨h'.rows.trans h.rows, h'.archive.trans h.archive⟩

/-- An update of other rows. -/
theorem sameSource_updateWhere {p : SourceRegistryRow → Bool}
    {set : SourceRegistryRow → SourceRegistryRow} (hset : ∀ row, (set row).key = row.key)
    (hp : ∀ row : SourceRegistryRow, row.key = (projectModule, source) → p row = false) :
    SameSource projectModule source r (r.updateWhere p set) := by
  refine ⟨filter_update_of_unselected (fun row => ?_) (fun row hrow => ?_) r.rows, rfl⟩
  · rw [hset]
  · exact hp row (beq_iff_eq.mp hrow)

/-- A document of another source. -/
theorem filter_upsertArchiveMetadata {other : String} (hne : other ≠ source)
    (archive : List ArchiveMetadataRow) (group : String × Json) :
    (upsertArchiveMetadata projectModule other archive group).filter
        (ArchiveMetadataRow.ofSource projectModule source) =
      archive.filter (ArchiveMetadataRow.ofSource projectModule source) := by
  unfold upsertArchiveMetadata
  dsimp only
  split
  · refine filter_update_of_unselected ?_ ?_ archive
    · exact fun row => rfl
    · intro row hrow
      rw [ArchiveMetadataRow.ofSource_iff] at hrow
      simp [ArchiveMetadataRow.ofSource, hrow.2, hne.symm]
  · simp [ArchiveMetadataRow.ofSource, hne]

theorem filter_upserts {other : String} (hne : other ≠ source) (groups : List (String × Json))
    (archive : List ArchiveMetadataRow) :
    (groups.foldl (upsertArchiveMetadata projectModule other) archive).filter
        (ArchiveMetadataRow.ofSource projectModule source) =
      archive.filter (ArchiveMetadataRow.ofSource projectModule source) := by
  induction groups generalizing archive with
  | nil => rfl
  | cons group groups ih => rw [List.foldl_cons, ih, filter_upsertArchiveMetadata hne]

/-- The claimed row of another source. -/
theorem discoveryClaimedBy_of_ne {other claimToken : String} (hne : other ≠ source)
    (row : SourceRegistryRow) (hrow : row.key = (projectModule, source)) :
    row.discoveryClaimedBy projectModule other claimToken = false := by
  simp [SourceRegistryRow.discoveryClaimedBy, (Prod.mk.inj hrow).2, hne.symm]

/-- Documents of another source that are deleted. -/
theorem filter_of_other {other : String} (hne : other ≠ source) (archive : List ArchiveMetadataRow)
    (deleted : ArchiveMetadataRow → Bool) :
    (archive.filter fun row => !(row.ofSource projectModule other && deleted row)).filter
        (ArchiveMetadataRow.ofSource projectModule source) =
      archive.filter (ArchiveMetadataRow.ofSource projectModule source) := by
  rw [List.filter_filter]
  refine List.filter_congr fun row _ => ?_
  cases hrow : row.ofSource projectModule source with
  | false => rfl
  | true =>
      rw [ArchiveMetadataRow.ofSource_iff] at hrow
      simp [ArchiveMetadataRow.ofSource, hrow.2, hne.symm]

theorem sameSource_synchronizeArchiveMetadata {other : String} (hne : other ≠ source)
    (payload : BTreeMap Json) :
    SameSource projectModule source r
      (r.synchronizeArchiveMetadata projectModule other payload) := by
  refine ⟨rfl, ?_⟩
  rw [synchronizeArchiveMetadata, filter_upserts hne]
  exact filter_of_other hne r.archive _

theorem sameSource_persistNoRecords {env : DiscoveryEnv} {now : ℕ} {other claimToken : String}
    (hne : other ≠ source) :
    SameSource projectModule source r
      (r.persistNoRecords env now projectModule other claimToken).1 := by
  unfold persistNoRecords
  dsimp only
  split
  · exact .refl r
  split
  · exact sameSource_updateWhere (fun _ => rfl) (discoveryClaimedBy_of_ne hne)
  · refine SameSource.trans ?_ (sameSource_updateWhere ?_ (discoveryClaimedBy_of_ne hne))
    · refine ⟨rfl, ?_⟩
      rw [filter_upserts hne]
      exact filter_of_other hne r.archive _
    · exact fun _ => rfl

/-- A batch of another source. -/
theorem sameSource_persistChangedOrUnchanged {env : DiscoveryEnv} {now : ℕ}
    {other claimToken : String} {batch : MetadataBatch} {outcome : PersistOutcome}
    (hne : other ≠ source)
    (h : r.persistChangedOrUnchanged env now projectModule other claimToken batch =
      .ok (r', outcome)) : SameSource projectModule source r r' := by
  obtain ⟨metadata, -, ⟨-, rfl, -⟩ | ⟨row, -, -, set, hset, rfl, -⟩⟩ :=
    persistChangedOrUnchanged_cases h
  · exact .refl _
  · exact (sameSource_synchronizeArchiveMetadata hne _).trans
      (sameSource_updateWhere hset (discoveryClaimedBy_of_ne hne))

end SameSource

end SourceRegistry

/-! ### What a batch says of one source -/

/-- Two batches say the same of the source. -/
structure DiscoveryBatch.SaysSame (source : String) (batch batch' : DiscoveryBatch) : Prop where
  checked : source ∈ batch'.checked ↔ source ∈ batch.checked
  changed : source ∈ batch'.stats.changedSourceIdentifiers ↔
    source ∈ batch.stats.changedSourceIdentifiers

theorem DiscoveryBatch.SaysSame.trans {source : String} {a b c : DiscoveryBatch}
    (h : a.SaysSame source b) (h' : b.SaysSame source c) : a.SaysSame source c :=
  ⟨h'.checked.trans h.checked, h'.changed.trans h.changed⟩

namespace SourceRegistry

section Batch

variable {env : DiscoveryEnv} {clock : ℕ → ℕ} {projectModule claimToken source : String}
  {signature : SignatureOptions} {r r' : SourceRegistry} {batch batch' : DiscoveryBatch}

/-- **A result leaves the other sources alone**, and the batch says the same of them. -/
theorem persistResult_sameSource {now : ℕ} {result : DiscoverySourceResult}
    (hne : result.sourceIdentifier ≠ source)
    (h : r.persistResult env now projectModule claimToken signature batch result =
      .ok (r', batch')) :
    SameSource projectModule source r r' ∧ batch.SaysSame source batch' := by
  cases result with
  | hasMetadata other metadata discoveryFlags =>
      have hne : source ≠ other := fun h => hne h.symm
      simp only [persistResult] at h
      split at h
      · cases h
      next r'' outcome hpersist =>
        cases h
        refine ⟨sameSource_persistChangedOrUnchanged hne.symm hpersist, ?_⟩
        cases outcome <;> constructor <;>
          simp [DiscoveryBatch.recordMetadata, DiscoveryBatch.markUnchanged, hne]
  | noRecords other =>
      have hne : source ≠ other := fun h => hne h.symm
      simp only [persistResult, Except.ok.injEq, Prod.mk.injEq] at h
      obtain ⟨rfl, rfl⟩ := h
      refine ⟨sameSource_persistNoRecords hne.symm, ?_⟩
      unfold DiscoveryBatch.recordNoRecords
      dsimp only
      split <;> constructor <;> simp [DiscoveryBatch.markUnchanged, hne]
  | unchanged other =>
      have hne : source ≠ other := fun h => hne h.symm
      cases h
      exact ⟨.refl r, by constructor <;> simp [DiscoveryBatch.markUnchanged, hne]⟩
  | timeout other error =>
      cases h
      exact ⟨.refl r, ⟨.rfl, .rfl⟩⟩
  | error other error =>
      cases h
      exact ⟨.refl r, ⟨.rfl, .rfl⟩⟩

theorem persistResults_sameSource {results : List DiscoverySourceResult}
    (hne : ∀ result ∈ results, result.sourceIdentifier ≠ source)
    (h : persistResults env clock projectModule claimToken signature r batch results =
      (r', .ok batch')) :
    SameSource projectModule source r r' ∧ batch.SaysSame source batch' := by
  induction results generalizing r batch with
  | nil =>
      cases h
      exact ⟨.refl _, ⟨.rfl, .rfl⟩⟩
  | cons result results ih =>
      rw [persistResults] at h
      split at h
      · cases h
      next r₁ batch₁ hresult =>
        obtain ⟨hsame, hreport⟩ := persistResult_sameSource (hne result List.mem_cons_self) hresult
        obtain ⟨hsame', hreport'⟩ :=
          ih (fun other hother => hne other (List.mem_cons_of_mem _ hother)) h
        exact ⟨hsame.trans hsame', hreport.trans hreport'⟩

/-- Of the results of a batch one is about the source: the rest leave what it finds and what it
leaves. -/
theorem persistResults_own {results : List DiscoverySourceResult} {result : DiscoverySourceResult}
    (hnodup : (results.map DiscoverySourceResult.sourceIdentifier).Nodup) (hmem : result ∈ results)
    (hsource : result.sourceIdentifier = source)
    (h : persistResults env clock projectModule claimToken signature r batch results =
      (r', .ok batch')) :
    ∃ r₁ batch₁ now r₂ batch₂,
      SameSource projectModule source r r₁ ∧ batch.SaysSame source batch₁ ∧
      r₁.persistResult env now projectModule claimToken signature batch₁ result =
        .ok (r₂, batch₂) ∧
      SameSource projectModule source r₂ r' ∧ batch₂.SaysSame source batch' := by
  induction results generalizing r batch with
  | nil => cases hmem
  | cons head results ih =>
      rw [List.map_cons, List.nodup_cons] at hnodup
      rw [persistResults] at h
      split at h
      · cases h
      next r₁ batch₁ hhead =>
        rcases List.mem_cons.mp hmem with rfl | hrest
        · have hothers : ∀ other ∈ results, other.sourceIdentifier ≠ source := by
            rintro other hother rfl
            exact hnodup.1 (hsource ▸ List.mem_map_of_mem hother)
          obtain ⟨hsame, hreport⟩ := persistResults_sameSource hothers h
          exact ⟨r, batch, _, r₁, batch₁, .refl r, ⟨.rfl, .rfl⟩, hhead, hsame, hreport⟩
        · have hne : head.sourceIdentifier ≠ source := by
            intro hhead
            exact hnodup.1 (hhead.trans hsource.symm ▸ List.mem_map_of_mem hrest)
          obtain ⟨hsame, hreport⟩ := persistResult_sameSource hne hhead
          obtain ⟨r₂, batch₂, now, r₃, batch₃, hsame₂, hreport₂, hown, hsame₃, hreport₃⟩ :=
            ih hnodup.2 hrest h
          exact ⟨r₂, batch₂, now, r₃, batch₃, hsame.trans hsame₂, hreport.trans hreport₂, hown, hsame₃,
            hreport₃⟩

/-! ### The transaction of the source itself -/

/-- The claimed row is the same wherever the rows of the source are. -/
theorem SameSource.find_claimed (h : SameSource projectModule source r r') :
    r'.rows.find? (SourceRegistryRow.discoveryClaimedBy projectModule source claimToken) =
      r.rows.find? (SourceRegistryRow.discoveryClaimedBy projectModule source claimToken) := by
  have hclaimed : ∀ rows : List SourceRegistryRow,
      (rows.filter fun row => row.key == (projectModule, source)).find?
          (SourceRegistryRow.discoveryClaimedBy projectModule source claimToken) =
        rows.find? (SourceRegistryRow.discoveryClaimedBy projectModule source claimToken) := by
    intro rows
    rw [List.find?_filter]
    congr 1
    funext row
    cases hrow : row.discoveryClaimedBy projectModule source claimToken with
    | false => simp
    | true =>
        simp only [SourceRegistryRow.discoveryClaimedBy, Bool.and_eq_true, beq_iff_eq] at hrow
        simp [SourceRegistryRow.key, hrow.1.1, hrow.1.2]
  rw [← hclaimed, h.rows, hclaimed]

/-- What is stored of the source gives the same signature. -/
theorem SameSource.existingSignature (h : SameSource projectModule source r r')
    {row : SourceRegistryRow} (hrow : row.key = (projectModule, source)) :
    r'.existingSignature env row signature = r.existingSignature env row signature := by
  obtain ⟨hproject, hsource⟩ := Prod.mk.inj hrow
  unfold SourceRegistry.existingSignature archiveRecords
  rw [hproject, hsource, h.archive]

/-- The claimed row is the row of the source. -/
theorem Keyed.find_of_claimed (hkeyed : r.Keyed) {row : SourceRegistryRow}
    (hclaimed : r.rows.find?
      (SourceRegistryRow.discoveryClaimedBy projectModule source claimToken) = some row) :
    r.find projectModule source = some row ∧ row.key = (projectModule, source) := by
  have hmem := List.mem_of_find?_eq_some hclaimed
  have hrow := List.find?_some hclaimed
  simp only [SourceRegistryRow.discoveryClaimedBy, Bool.and_eq_true, beq_iff_eq] at hrow
  have hkey : row.key = (projectModule, source) := by
    rw [SourceRegistryRow.key, hrow.1.1, hrow.1.2]
  exact ⟨hkeyed.find_eq_some_iff.mpr ⟨hmem, hkey⟩, hkey⟩

/-- A batch of the claimed source is unchanged exactly when the existing signature is its own, and
otherwise the source is pending with the signature of the batch. -/
theorem persistChangedOrUnchanged_reports {now : ℕ} {metadataBatch : MetadataBatch}
    {outcome : PersistOutcome} {metadata : List Json} {row : SourceRegistryRow}
    (h : r.persistChangedOrUnchanged env now projectModule source claimToken metadataBatch =
      .ok (r', outcome))
    (hprepared : metadataBatch.prepared env source = .ok metadata)
    (hclaimed : r.rows.find?
      (SourceRegistryRow.discoveryClaimedBy projectModule source claimToken) = some row) :
    r.existingSignature env row metadataBatch.signature = metadataBatch.newSignature env metadata ∧
        (∃ groups records, outcome = .unchanged groups records) ∨
      r.existingSignature env row metadataBatch.signature ≠
          metadataBatch.newSignature env metadata ∧
        (∃ groups records, outcome = .changed groups records) ∧
        row.markDiscovered now (metadataBatch.newSignature env metadata) ∈ r'.rows := by
  unfold persistChangedOrUnchanged at h
  simp only [hprepared, hclaimed] at h
  split at h
  · cases h
  split at h
  next hsame =>
    cases h
    exact .inl ⟨hsame, _, _, rfl⟩
  next hchanged =>
    cases h
    refine .inr ⟨hchanged, ⟨_, _, rfl⟩, mem_updateWhere.mpr ⟨row, ?_, ?_⟩⟩
    · exact List.mem_of_find?_eq_some hclaimed
    · rw [if_pos (List.find?_some hclaimed)]

/-- What an update of claimed rows leaves of a row. -/
theorem exists_updateIfClaimed {sources : List String} {set : SourceRegistryRow → SourceRegistryRow}
    {P : SourceRegistryRow → Prop} (hset : ∀ row, P (set row) ↔ P row) :
    (∃ row ∈ (r.updateIfClaimed projectModule sources claimToken set).rows, P row) ↔
      ∃ row ∈ r.rows, P row := by
  unfold updateIfClaimed
  split
  · rfl
  constructor
  · rintro ⟨row, hrow, hP⟩
    obtain ⟨before, hbefore, rfl⟩ := mem_updateWhere.mp hrow
    refine ⟨before, hbefore, ?_⟩
    split at hP
    · exact (hset before).mp hP
    · exact hP
  · rintro ⟨row, hrow, hP⟩
    refine ⟨_, mem_updateWhere.mpr ⟨row, hrow, rfl⟩, ?_⟩
    split
    · exact (hset row).mpr hP
    · exact hP

/-- The rows of the source are there or not. -/
theorem SameSource.exists_iff (h : SameSource projectModule source r r')
    {P : SourceRegistryRow → Prop} :
    (∃ row ∈ r'.rows, row.key = (projectModule, source) ∧ P row) ↔
      ∃ row ∈ r.rows, row.key = (projectModule, source) ∧ P row := by
  have hfiltered : ∀ rows : List SourceRegistryRow,
      (∃ row ∈ rows, row.key = (projectModule, source) ∧ P row) ↔
        ∃ row ∈ rows.filter (fun row => row.key == (projectModule, source)), P row := by
    intro rows
    simp only [List.mem_filter, beq_iff_eq, and_assoc]
  rw [hfiltered, h.rows, ← hfiltered]

end Batch

end SourceRegistry

/-! ### What the archive answers and what is reported -/

/-- The answer has records. -/
def ArchiveAnswer.hasRecords : ArchiveAnswer → Bool
  | .records _ _ _ => true
  | .noRecords | .timeout | .failed _ => false

/-- The signature of what is prepared from the answer. -/
def ArchiveAnswer.signature (env : DiscoveryEnv) (config : DiscoveryConfig) (source : String) :
    ArchiveAnswer → Option String
  | .records metadata prepared discoveryFlags =>
      match prepareIdentities env.text source (prepared.getD metadata) with
      | .error _ => none
      | .ok metadata =>
          some (batchSignature env.digest env.text metadata (some discoveryFlags)
            (some config.signatureOptions))
  | .noRecords => some (noRecordsSignature env.digest env.text)
  | .timeout | .failed _ => none

namespace SourceRegistry

/-- What is reported of a source is what the archive answers: it is unchanged only if the answer has
the stored signature, and records with another signature are reported as a change and make the
source pending. -/
structure ReportsArchive (env : DiscoveryEnv) (config : DiscoveryConfig) (row : SourceRegistryRow)
    (answer : ArchiveAnswer) (batch : DiscoveryBatch) (after : SourceRegistry) : Prop where
  unchanged : row.sourceIdentifier ∈ batch.checked →
    ∃ signature, answer.signature env config row.sourceIdentifier = some signature ∧
      row.discoverySignature = some signature
  changed : ∀ signature, answer.hasRecords →
    answer.signature env config row.sourceIdentifier = some signature →
    row.discoverySignature ≠ some signature →
      row.sourceIdentifier ∈ batch.stats.changedSourceIdentifiers ∧
        ∃ row' ∈ after.rows, row'.key = row.key ∧ row'.workflowRunPending = true ∧
          row'.discoverySignature = some signature

/-- The stored rows do not speak for the archive: if they keep the queries from being asked, the
answer has the stored signature all the same, and without a stored signature they do not give that
of the answer. -/
def ArchiveDecides (env : DiscoveryEnv) (r : SourceRegistry) (config : DiscoveryConfig)
    (row : SourceRegistryRow) (readable : Bool) (answer : ArchiveAnswer) : Prop :=
  (readable → r.skipsTap env config row.projectModule row.sourceIdentifier →
    answer.signature env config row.sourceIdentifier = row.discoverySignature) ∧
  (row.discoverySignature = none → answer.hasRecords →
    answer.signature env config row.sourceIdentifier ≠
      some (existingSignatureFromRecords env.digest env.text
        (r.archiveRecords row.projectModule row.sourceIdentifier) (some config.signatureOptions)))

section Fresh

variable {env : DiscoveryEnv} {projectModule claimToken source : String}
  {r r' : SourceRegistry} {config : DiscoveryConfig} {answer : ArchiveAnswer}
  {row : SourceRegistryRow}

/-- Stored records keep the queries from being asked only next to a stored signature. -/
theorem isSome_of_skipsTap (hfind : r.find projectModule source = some row)
    (h : r.skipsTap env config projectModule source) : row.discoverySignature.isSome := by
  unfold skipsTap at h
  simp only [hfind, Bool.and_eq_true] at h
  obtain ⟨-, hskip⟩ := h
  unfold shouldSkipTap at hskip
  cases hsig : row.discoverySignature with
  | none => simp [hsig] at hskip
  | some signature => rfl

/-- A result is about its source. -/
theorem discoverSource_sourceIdentifier (readable : Bool) :
    (r.discoverSource env (some config) projectModule source readable answer).sourceIdentifier =
      source := by
  unfold discoverSource
  dsimp only
  split
  · rfl
  · cases answer with
    | records metadata prepared discoveryFlags =>
        rw [ArchiveAnswer.result]
        split <;> rfl
    | _ => rfl

/-- Nothing is said of a source that is not checked and has no new records. -/
theorem reports_of_not_checked {batch : DiscoveryBatch}
    (hchecked : row.sourceIdentifier ∉ batch.checked)
    (h : ∀ signature, answer.hasRecords →
      answer.signature env config row.sourceIdentifier ≠ some signature) :
    ReportsArchive env config row answer batch r where
  unchanged hmem := absurd hmem hchecked
  changed signature hrecords hsignature := absurd hsignature (h signature hrecords)

/-- Whatever is said of a source that has the signature of the answer. -/
theorem reports_of_signature {batch : DiscoveryBatch}
    (hsame : answer.signature env config row.sourceIdentifier = row.discoverySignature)
    (hsome : row.discoverySignature.isSome) : ReportsArchive env config row answer batch r := by
  obtain ⟨stored, hstored⟩ := Option.isSome_iff_exists.mp hsome
  constructor
  · intro _
    exact ⟨stored, hsame.trans hstored, hstored⟩
  · intro signature _ hsignature hne
    exact absurd (hsame.symm.trans hsignature) hne

/-- What is said of the source, and what is pending, decide. -/
theorem reports_congr {batch batch' : DiscoveryBatch}
    (hreport : batch.SaysSame row.sourceIdentifier batch')
    (hpending : ∀ signature,
      (∃ row' ∈ r'.rows, row'.key = row.key ∧ row'.workflowRunPending = true ∧
          row'.discoverySignature = some signature) ↔
        ∃ row' ∈ r.rows, row'.key = row.key ∧ row'.workflowRunPending = true ∧
          row'.discoverySignature = some signature) :
    ReportsArchive env config row answer batch' r' ↔
      ReportsArchive env config row answer batch r := by
  constructor
  · rintro ⟨hunchanged, hchanged⟩
    refine ⟨fun hmem => hunchanged (hreport.checked.mpr hmem), fun signature hrecords hsig hne => ?_⟩
    obtain ⟨hmem, hrow⟩ := hchanged signature hrecords hsig hne
    exact ⟨hreport.changed.mp hmem, (hpending signature).mp hrow⟩
  · rintro ⟨hunchanged, hchanged⟩
    refine ⟨fun hmem => hunchanged (hreport.checked.mp hmem), fun signature hrecords hsig hne => ?_⟩
    obtain ⟨hmem, hrow⟩ := hchanged signature hrecords hsig hne
    exact ⟨hreport.changed.mpr hmem, (hpending signature).mpr hrow⟩

/-- Where the existing signature is that of the answer, the source is said to be unchanged, which is
right exactly when the signature is stored. -/
theorem reports_unchanged_iff {batch : DiscoveryBatch} {readable : Bool} {signature : String}
    (hrecords : answer.hasRecords)
    (hsignature : answer.signature env config row.sourceIdentifier = some signature)
    (hfirst : readable → r.skipsTap env config row.projectModule row.sourceIdentifier →
      answer.signature env config row.sourceIdentifier = row.discoverySignature)
    (hequal : r.existingSignature env row config.signatureOptions = signature)
    (hmem : row.sourceIdentifier ∈ batch.checked) :
    ReportsArchive env config row answer batch r' ↔
      ArchiveDecides env r config row readable answer := by
  rw [SourceRegistry.existingSignature] at hequal
  cases hstored : row.discoverySignature with
  | none =>
      rw [hstored, Option.getD_none] at hequal
      refine iff_of_false (fun hreports => ?_) (fun hdecides => ?_)
      · obtain ⟨signature, -, hsome⟩ := hreports.unchanged hmem
        rw [hstored] at hsome
        cases hsome
      · refine hdecides.2 hstored hrecords ?_
        rw [hsignature, ← hequal]
  | some stored =>
      rw [hstored, Option.getD_some] at hequal
      have hsame : answer.signature env config row.sourceIdentifier = row.discoverySignature := by
        rw [hsignature, hstored, hequal]
      refine iff_of_true (reports_of_signature hsame (by rw [hstored]; rfl))
        ⟨hfirst, fun hnone => ?_⟩
      rw [hstored] at hnone
      cases hnone

/-- Where the existing signature is another one, nothing stands in the way of the answer. -/
theorem archiveDecides_of_differs {readable : Bool} {signature : String}
    (hsignature : answer.signature env config row.sourceIdentifier = some signature)
    (hfirst : readable → r.skipsTap env config row.projectModule row.sourceIdentifier →
      answer.signature env config row.sourceIdentifier = row.discoverySignature)
    (hdiffers : r.existingSignature env row config.signatureOptions ≠ signature) :
    ArchiveDecides env r config row readable answer := by
  refine ⟨hfirst, fun hnone _ hsame => hdiffers ?_⟩
  rw [SourceRegistry.existingSignature, hnone, Option.getD_none]
  exact Option.some.inj (hsame.symm.trans hsignature)

/-- What the transaction of the source reports. -/
theorem persistResult_reports_iff {r₁ r₂ : SourceRegistry} {batch₁ batch₂ : DiscoveryBatch}
    {now : ℕ} {readable : Bool} (hkeyed : r.Keyed)
    (hclaimed : r.rows.find? (SourceRegistryRow.discoveryClaimedBy row.projectModule
      row.sourceIdentifier claimToken) = some row)
    (hsame : SameSource row.projectModule row.sourceIdentifier r r₁)
    (hchecked : row.sourceIdentifier ∉ batch₁.checked)
    (h : r₁.persistResult env now row.projectModule claimToken config.signatureOptions batch₁
      (r.discoverSource env (some config) row.projectModule row.sourceIdentifier readable answer) =
        .ok (r₂, batch₂)) :
    ReportsArchive env config row answer batch₂ r₂ ↔
      ArchiveDecides env r config row readable answer := by
  obtain ⟨hfind, hkey⟩ := hkeyed.find_of_claimed hclaimed
  have hclaimed₁ := hsame.find_claimed.trans hclaimed
  unfold discoverSource at h
  dsimp only at h
  split at h
  next hfast =>
    -- the queries are not asked
    rw [Bool.and_eq_true] at hfast
    have hsome := isSome_of_skipsTap hfind hfast.2
    cases h
    have hmem : row.sourceIdentifier ∈ (batch₁.markUnchanged row.sourceIdentifier).checked := by
      simp [DiscoveryBatch.markUnchanged]
    constructor
    · intro hreports
      obtain ⟨signature, hsignature, hstored⟩ := hreports.unchanged hmem
      refine ⟨fun _ _ => hsignature.trans hstored.symm, fun hnone => ?_⟩
      rw [hnone] at hstored
      cases hstored
    · intro hdecides
      exact reports_of_signature (hdecides.1 hfast.1 hfast.2) hsome
  next hslow =>
    have hfirst : readable → r.skipsTap env config row.projectModule row.sourceIdentifier →
        answer.signature env config row.sourceIdentifier = row.discoverySignature := by
      intro hreadable hskips
      exact absurd (Bool.and_eq_true_iff.mpr ⟨hreadable, hskips⟩) hslow
    cases answer with
    | records metadata prepared discoveryFlags =>
        cases hprepared :
            prepareIdentities env.text row.sourceIdentifier (prepared.getD metadata) with
        | error error =>
            have hnone : ArchiveAnswer.signature env config row.sourceIdentifier
                (.records metadata prepared discoveryFlags) = none := by
              simp only [ArchiveAnswer.signature, hprepared]
            simp only [ArchiveAnswer.result, hprepared] at h
            cases h
            refine iff_of_true (reports_of_not_checked hchecked fun signature _ => ?_)
              ⟨hfirst, fun _ _ => ?_⟩
            · simp [hnone]
            · simp [hnone]
        | ok metadata' =>
            have hsignature : ArchiveAnswer.signature env config row.sourceIdentifier
                (.records metadata prepared discoveryFlags) =
                  some (batchSignature env.digest env.text metadata' (some discoveryFlags)
                    (some config.signatureOptions)) := by
              simp only [ArchiveAnswer.signature, hprepared]
            have hexisting : r₁.existingSignature env row config.signatureOptions =
                r.existingSignature env row config.signatureOptions :=
              hsame.existingSignature hkey
            simp only [ArchiveAnswer.result, hprepared, persistResult] at h
            split at h
            · cases h
            next r₂' outcome hpersist =>
              cases h
              rcases persistChangedOrUnchanged_reports hpersist (prepareIdentities_idem hprepared)
                hclaimed₁ with
                ⟨hequal, groups, records, rfl⟩ | ⟨hdiffers, ⟨groups, records, rfl⟩, hmem⟩
              · -- the records that are there give the signature of the answer
                refine reports_unchanged_iff rfl hsignature hfirst (hexisting.symm.trans hequal) ?_
                simp [DiscoveryBatch.recordMetadata, DiscoveryBatch.markUnchanged]
              · refine iff_of_true ⟨fun hmem' => ?_, fun signature _ hsig _ => ?_⟩
                  (archiveDecides_of_differs hsignature hfirst fun hequal => ?_)
                · exact absurd hmem' hchecked
                · obtain rfl := Option.some.inj (hsignature.symm.trans hsig)
                  refine ⟨?_, _, hmem, rfl, rfl, rfl⟩
                  simp [DiscoveryBatch.recordMetadata]
                · exact hdiffers (hexisting.trans hequal)
    | noRecords =>
        refine iff_of_true ⟨fun hmem => ?_, fun signature hrecords => ?_⟩
          ⟨hfirst, fun _ hrecords => ?_⟩
        · refine ⟨noRecordsSignature env.digest env.text, rfl, ?_⟩
          by_contra hdiffers
          simp only [ArchiveAnswer.result, persistResult, persistNoRecords, hclaimed₁, hdiffers,
            if_false, Except.ok.injEq, Prod.mk.injEq] at h
          obtain ⟨-, rfl⟩ := h
          exact hchecked hmem
        · cases hrecords
        · cases hrecords
    | timeout =>
        cases h
        refine iff_of_true (reports_of_not_checked hchecked fun _ hrecords => ?_)
          ⟨hfirst, fun _ hrecords => ?_⟩ <;> cases hrecords
    | failed error =>
        cases h
        refine iff_of_true (reports_of_not_checked hchecked fun _ hrecords => ?_)
          ⟨hfirst, fun _ hrecords => ?_⟩ <;> cases hrecords

end Fresh

/-- **When a discovery reports what the archive answers.** -/
theorem discovery_fresh_iff {env : DiscoveryEnv} {r r' : SourceRegistry} (hkeyed : r.Keyed)
    {config : DiscoveryConfig} {projectModule claimToken source : String} {row : SourceRegistryRow}
    (hclaimed : r.rows.find?
      (SourceRegistryRow.discoveryClaimedBy projectModule source claimToken) = some row)
    {readable : Bool} {answer : ArchiveAnswer} {results : List DiscoverySourceResult}
    (hnodup : (results.map DiscoverySourceResult.sourceIdentifier).Nodup)
    (hmem : r.discoverSource env (some config) projectModule source readable answer ∈ results)
    {now : ℕ} {clock : ℕ → ℕ} {batch : DiscoveryBatch}
    (h : r.persistDiscoveryResults env now clock projectModule claimToken results config.signature =
      (r', .ok batch)) :
    ReportsArchive env config row answer batch r' ↔
      ArchiveDecides env r config row readable answer := by
  obtain ⟨rfl, rfl⟩ := Prod.mk.inj (hkeyed.find_of_claimed hclaimed).2
  unfold persistDiscoveryResults at h
  split at h
  · cases h
  next r₃ batch₃ hresults =>
    cases h
    obtain ⟨r₁, batch₁, now₁, r₂, batch₂, hsame₁, hreport₁, hown, hsame₂, hreport₂⟩ :=
      persistResults_own hnodup hmem (discoverSource_sourceIdentifier readable) hresults
    have hchecked : row.sourceIdentifier ∉ batch₁.checked := by
      rw [hreport₁.checked]
      exact List.not_mem_nil
    rw [← persistResult_reports_iff hkeyed hclaimed hsame₁ hchecked hown]
    refine reports_congr hreport₂ fun signature => ?_
    -- the marks and the release leave the pending flag and the signature alone
    refine Iff.trans (exists_updateIfClaimed ?_) ?_
    · exact fun _ => .rfl
    refine Iff.trans (exists_updateIfClaimed ?_) ?_
    · exact fun _ => .rfl
    refine Iff.trans (exists_updateIfClaimed ?_) ?_
    · exact fun _ => .rfl
    exact hsame₂.exists_iff

/-! ### A source that is asked for again -/

/-- No fields are required and no flags are hashed. -/
def sampleConfig : DiscoveryConfig := ⟨[], some ⟨[], false⟩⟩

/-- The archive answers one record. -/
def sampleAnswer : ArchiveAnswer := .records [sampleRecord] none .null

/-- The archive answers another record of the same group. -/
def otherAnswer : ArchiveAnswer :=
  .records [.obj [("source_identifier", .str "101"), ("group_key", .str "3001"),
    ("record_id", .str "b.ms")]] none .null

/-- A source is discovered and executed, marked for rediscovery and claimed again. -/
def markedForRediscovery : List (ℕ × RegistryOp) :=
  claimSample 1 "first" ++
    [persistSample 2 "first", (3, .releaseDiscoveryClaim "survey" ["101"] "first"),
      (4, .clearWorkflowPendingForSources "survey" ["101"]),
      (5, .markSourcesForRediscovery "survey" (some ["101"])),
      (6, .claimSourceRowsForDiscovery (some "survey") 24 10 180 "second" [])]

/-- The source is discovered alone, and the stored rows are read. -/
def discoverSample (labels : List (ℕ × RegistryOp)) (claimToken : String) (answer : ArchiveAnswer) :
    SourceRegistry × Except PersistError DiscoveryBatch :=
  (sampleRegistry labels).persistDiscoveryResults sampleEnv 9 (fun _ => 9) "survey" claimToken
    [(sampleRegistry labels).discoverSource sampleEnv (some sampleConfig) "survey" "101" true
      answer]
    sampleConfig.signature

theorem discovery_fresh_iff_first : ∃ row r' batch,
    discoverSample (claimSample 1 "first") "first" sampleAnswer = (r', .ok batch) ∧
      (ReportsArchive sampleEnv sampleConfig row sampleAnswer batch r' ↔
        ArchiveDecides sampleEnv (sampleRegistry (claimSample 1 "first")) sampleConfig row true
          sampleAnswer) := by
  have hclaimed : ((sampleRegistry (claimSample 1 "first")).rows.find?
      (SourceRegistryRow.discoveryClaimedBy "survey" "101" "first")).isSome := by decide +kernel
  obtain ⟨row, hrow⟩ := Option.isSome_iff_exists.mp hclaimed
  have hok : (discoverSample (claimSample 1 "first") "first" sampleAnswer).2.toOption.isSome := by
    decide +kernel
  cases hsample : discoverSample (claimSample 1 "first") "first" sampleAnswer with
  | mk r' result =>
      cases result with
      | error error =>
          rw [hsample] at hok
          cases hok
      | ok batch =>
          refine ⟨row, r', batch, rfl,
            discovery_fresh_iff (keyed_sampleRegistry _) hrow ?_ ?_ hsample⟩
          · exact List.nodup_singleton _
          · exact List.mem_cons_self

/-- The stored record is taken for the answer of the archive after the source was marked for
rediscovery. -/
theorem rediscovery_not_fresh : ∃ row r' batch,
    (sampleRegistry markedForRediscovery).find "survey" "101" = some row ∧
      discoverSample markedForRediscovery "second" otherAnswer = (r', .ok batch) ∧
      ¬ ReportsArchive sampleEnv sampleConfig row otherAnswer batch r' := by
  have hfound : ((sampleRegistry markedForRediscovery).find "survey" "101").map
      (fun row => (row.sourceIdentifier, row.discoverySignature)) = some ("101",
        sampleAnswer.signature sampleEnv sampleConfig "101") := by decide +kernel
  obtain ⟨row, hrow, hfields⟩ := Option.map_eq_some_iff.mp hfound
  obtain ⟨hsource, hsignature⟩ := Prod.mk.inj hfields
  have hchecked : (discoverSample markedForRediscovery "second" otherAnswer).2.toOption.map
      DiscoveryBatch.checked = some ["101"] := by decide +kernel
  cases hsample : discoverSample markedForRediscovery "second" otherAnswer with
  | mk r' result =>
      cases result with
      | error error =>
          rw [hsample] at hchecked
          cases hchecked
      | ok batch =>
          rw [hsample] at hchecked
          refine ⟨row, r', batch, hrow, rfl, fun hreports => ?_⟩
          have hmem : row.sourceIdentifier ∈ batch.checked := by
            rw [Option.some.inj hchecked, hsource]
            exact List.mem_singleton_self _
          obtain ⟨signature, hanswer, hstored⟩ := hreports.unchanged hmem
          have hsame := hanswer.trans (hstored.symm.trans hsignature)
          rw [hsource] at hsame
          revert hsame
          decide +kernel

end SourceRegistry

end Beampipe
