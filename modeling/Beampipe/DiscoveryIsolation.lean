/-
What the results of a discovery batch owe to each other.

`persist_discovery_results` is given the results of a batch, one for each source.  It persists them
one after the other, each in a transaction of its own that touches the rows of its own source only,
and keeps the bookkeeping for the end: which sources were checked, which were attempted, and the
release of all claims.  A result that is rejected, because its records fail the validation or the
database refuses a group, ends the function where it stands.  The results before it stay recorded
but are neither stamped nor released; the results after it are not looked at.

Main definitions:

* `Beampipe.SourceRegistry.rejects` — the result of a source is rejected, as seen from its own rows;
* `Beampipe.SourceRegistry.BatchIsolated` — each claimed source comes out of the batch as it would
  come out of a batch of its own, and a source that is not rejected is released.

Main results:

* `Beampipe.SourceRegistry.persistResult_congr` — a result does to the rows of its source what these
  rows alone decide;
* `Beampipe.SourceRegistry.persistResults_isOk_iff` — a batch gets through exactly when none of its
  results is rejected;
* `Beampipe.SourceRegistry.batch_isolated_iff` — **a batch is isolated exactly when no result is
  rejected, or the results of all claimed sources are**.
-/

import Beampipe.DiscoveryFreshness

set_option relaxedAutoImplicit false
set_option autoImplicit false

namespace Beampipe

namespace SourceRegistry

/-! ### Sources, claims and rejections -/

/-- The source is claimed under the token. -/
def Claims (r : SourceRegistry) (projectModule claimToken source : String) : Prop :=
  ∃ row ∈ r.rows, row.discoveryClaimedBy projectModule source claimToken = true

/-- A result is rejected: its records fail the validation, claimed or not, or the source is claimed
and the database refuses one of its groups. -/
def rejects (env : DiscoveryEnv) (r : SourceRegistry) (projectModule claimToken : String)
    (signature : SignatureOptions) : DiscoverySourceResult → Bool
  | .hasMetadata source metadata discoveryFlags =>
      let batch : MetadataBatch := ⟨metadata, discoveryFlags, signature⟩
      match batch.prepared env source with
      | .error _ => true
      | .ok metadata =>
          r.rows.any (SourceRegistryRow.discoveryClaimedBy projectModule source claimToken) &&
            !(batch.storagePayload env metadata).toList.all env.storesGroup
  | .noRecords _ | .unchanged _ | .timeout _ _ | .error _ _ => false

/-- **The results of a batch do not get in each other's way.**  What becomes of a claimed source is
what a batch of its result alone, at the same times, makes of any registry with the same rows of the
source; and when its result is not rejected its claim is gone. -/
structure BatchIsolated (env : DiscoveryEnv) (r : SourceRegistry) (now : ℕ) (clock : ℕ → ℕ)
    (projectModule claimToken : String) (results : List DiscoverySourceResult)
    (signatureConfig : Option SignatureOptions) : Prop where
  own : ∀ before result after, results = before ++ result :: after →
    r.Claims projectModule claimToken result.sourceIdentifier →
    ∀ r₀, SameSource projectModule result.sourceIdentifier r r₀ →
      SameSource projectModule result.sourceIdentifier
        (r₀.persistDiscoveryResults env now (fun _ => clock after.length) projectModule claimToken
          [result] signatureConfig).1
        (r.persistDiscoveryResults env now clock projectModule claimToken results
          signatureConfig).1
  released : ∀ result ∈ results, r.Claims projectModule claimToken result.sourceIdentifier →
    r.rejects env projectModule claimToken (signatureConfig.getD {}) result = false →
    ¬ (r.persistDiscoveryResults env now clock projectModule claimToken results
      signatureConfig).1.Claims projectModule claimToken result.sourceIdentifier

/-! ### The rows of one source in two registries -/

section SameSource

variable {env : DiscoveryEnv} {projectModule claimToken source : String}
  {r₁ r₂ : SourceRegistry}

theorem SameSource.symm (h : SameSource projectModule source r₁ r₂) :
    SameSource projectModule source r₂ r₁ := ⟨h.rows.symm, h.archive.symm⟩

/-- The same update of the rows of the source. -/
theorem SameSource.updateWhere (h : SameSource projectModule source r₁ r₂)
    {p₁ p₂ : SourceRegistryRow → Bool} {set : SourceRegistryRow → SourceRegistryRow}
    (hset : ∀ row, (set row).key = row.key)
    (hp : ∀ row : SourceRegistryRow, row.key = (projectModule, source) → p₁ row = p₂ row) :
    SameSource projectModule source (r₁.updateWhere p₁ set) (r₂.updateWhere p₂ set) := by
  have hfilter : ∀ (p : SourceRegistryRow → Bool) (rows : List SourceRegistryRow),
      (rows.map fun row => if p row then set row else row).filter
          (fun row => row.key == (projectModule, source)) =
        (rows.filter fun row => row.key == (projectModule, source)).map
          fun row => if p row then set row else row := by
    intro p rows
    rw [List.filter_map]
    congr 2
    funext row
    rw [Function.comp_apply]
    split
    · rw [hset]
    · rfl
  refine ⟨?_, h.archive⟩
  rw [SourceRegistry.updateWhere, SourceRegistry.updateWhere, hfilter, hfilter, h.rows]
  refine List.map_congr_left fun row hrow => ?_
  rw [List.mem_filter, beq_iff_eq] at hrow
  rw [hp row hrow.2]

/-- The same mark on the claimed rows, when both lists name the source or neither does. -/
theorem SameSource.updateIfClaimed (h : SameSource projectModule source r₁ r₂)
    {sources₁ sources₂ : List String} {set : SourceRegistryRow → SourceRegistryRow}
    (hset : ∀ row, (set row).key = row.key) (hsources : source ∈ sources₁ ↔ source ∈ sources₂) :
    SameSource projectModule source (r₁.updateIfClaimed projectModule sources₁ claimToken set)
      (r₂.updateIfClaimed projectModule sources₂ claimToken set) := by
  -- a list that is empty selects no row
  have hupdate : ∀ (r : SourceRegistry) (sources : List String), claimToken.isEmpty = false →
      r.updateIfClaimed projectModule sources claimToken set =
        r.updateWhere (fun row => row.selectedBy projectModule sources &&
          row.discoveryClaimToken == some claimToken) set := by
    intro r sources htoken
    cases sources with
    | nil => simp [SourceRegistry.updateIfClaimed, SourceRegistry.updateWhere,
        SourceRegistryRow.selectedBy]
    | cons head tail => simp [SourceRegistry.updateIfClaimed, htoken]
  cases htoken : claimToken.isEmpty with
  | true => simpa [SourceRegistry.updateIfClaimed, htoken] using h
  | false =>
      rw [hupdate r₁ sources₁ htoken, hupdate r₂ sources₂ htoken]
      refine h.updateWhere hset fun row hrow => ?_
      obtain ⟨hproject, hsource⟩ := Prod.mk.inj hrow
      have hselected : row.selectedBy projectModule sources₁ =
          row.selectedBy projectModule sources₂ := by
        rw [Bool.eq_iff_iff, SourceRegistryRow.selectedBy_iff, SourceRegistryRow.selectedBy_iff,
          hsource, hsources]
      rw [hselected]

/-- Documents of the source itself are written among its rows. -/
theorem filter_upserts_own (groups : List (String × Json)) (archive : List ArchiveMetadataRow) :
    (groups.foldl (upsertArchiveMetadata projectModule source) archive).filter
        (ArchiveMetadataRow.ofSource projectModule source) =
      groups.foldl (upsertArchiveMetadata projectModule source)
        (archive.filter (ArchiveMetadataRow.ofSource projectModule source)) := by
  induction groups generalizing archive with
  | nil => rfl
  | cons group groups ih =>
      rw [List.foldl_cons, List.foldl_cons, ih]
      congr 1
      have hany : (archive.filter (ArchiveMetadataRow.ofSource projectModule source)).any
            (fun row => row.ofSource projectModule source && row.groupKey == group.1) =
          archive.any fun row => row.ofSource projectModule source && row.groupKey == group.1 := by
        rw [List.any_filter]
        congr 1
        funext row
        cases row.ofSource projectModule source <;> rfl
      unfold upsertArchiveMetadata
      dsimp only
      rw [hany]
      split
      · rw [List.filter_map]
        congr 2
        funext row
        rw [Function.comp_apply]
        split <;> rfl
      · rw [List.filter_append, List.filter_singleton]
        simp [ArchiveMetadataRow.ofSource]

/-- The documents of the source after some are deleted and some written. -/
theorem SameSource.rewrite (h : SameSource projectModule source r₁ r₂)
    (kept : ArchiveMetadataRow → Bool) (groups : List (String × Json)) :
    SameSource projectModule source
      { r₁ with archive :=
          groups.foldl (upsertArchiveMetadata projectModule source) (r₁.archive.filter kept) }
      { r₂ with archive :=
          groups.foldl (upsertArchiveMetadata projectModule source) (r₂.archive.filter kept) } := by
  refine ⟨h.rows, ?_⟩
  dsimp only
  rw [filter_upserts_own, filter_upserts_own, List.filter_filter, List.filter_filter]
  simp only [Bool.and_comm _ (kept _)]
  rw [← List.filter_filter, ← List.filter_filter, h.archive]

end SameSource

end SourceRegistry
namespace SourceRegistry

/-! ### A result and the rows of its source -/

section Result

variable {env : DiscoveryEnv} {projectModule claimToken source : String}
  {signature : SignatureOptions} {r₁ r₂ r r' : SourceRegistry} {now : ℕ}
  {result : DiscoverySourceResult}

/-- Whether there is a claimed row. -/
theorem find_claimed_isSome : (r.rows.find?
    (SourceRegistryRow.discoveryClaimedBy projectModule source claimToken)).isSome = true ↔
      r.Claims projectModule claimToken source := by
  rw [List.find?_isSome]
  rfl

theorem SameSource.claims (h : SameSource projectModule source r₁ r₂) :
    r₂.Claims projectModule claimToken source ↔ r₁.Claims projectModule claimToken source := by
  rw [← find_claimed_isSome, ← find_claimed_isSome, h.find_claimed]

/-- Whether a result is rejected depends on the rows of its source. -/
theorem SameSource.rejects (h : SameSource projectModule result.sourceIdentifier r₁ r₂) :
    r₂.rejects env projectModule claimToken signature result =
      r₁.rejects env projectModule claimToken signature result := by
  cases result with
  | hasMetadata source metadata discoveryFlags =>
      have hany : r₂.rows.any
            (SourceRegistryRow.discoveryClaimedBy projectModule source claimToken) =
          r₁.rows.any (SourceRegistryRow.discoveryClaimedBy projectModule source claimToken) := by
        rw [Bool.eq_iff_iff, List.any_eq_true, List.any_eq_true]
        exact h.claims
      simp only [SourceRegistry.rejects, hany]
  | noRecords | unchanged | timeout | error => rfl

/-- A batch of metadata of the source itself. -/
theorem persistChangedOrUnchanged_congr (h : SameSource projectModule source r₁ r₂)
    {batch : MetadataBatch} {outcome : PersistOutcome}
    (hpersist : r₁.persistChangedOrUnchanged env now projectModule source claimToken batch =
      .ok (r', outcome)) :
    ∃ r'', r₂.persistChangedOrUnchanged env now projectModule source claimToken batch =
        .ok (r'', outcome) ∧ SameSource projectModule source r' r'' := by
  have hfind :
      r₂.rows.find? (SourceRegistryRow.discoveryClaimedBy projectModule source claimToken) =
        r₁.rows.find? (SourceRegistryRow.discoveryClaimedBy projectModule source claimToken) :=
    h.find_claimed
  unfold persistChangedOrUnchanged at hpersist ⊢
  cases hprepared : batch.prepared env source with
  | error error => simp [hprepared] at hpersist
  | ok metadata =>
      simp only [hprepared, hfind] at hpersist ⊢
      split at hpersist
      · cases hpersist
        exact ⟨r₂, rfl, h⟩
      next row hrow =>
        have hkey : row.key = (projectModule, source) := by
          have hclaimed := List.find?_some hrow
          simp only [SourceRegistryRow.discoveryClaimedBy, Bool.and_eq_true, beq_iff_eq] at hclaimed
          rw [SourceRegistryRow.key, hclaimed.1.1, hclaimed.1.2]
        have hwritten : SameSource projectModule source
            (r₁.synchronizeArchiveMetadata projectModule source (batch.storagePayload env metadata))
            (r₂.synchronizeArchiveMetadata projectModule source
              (batch.storagePayload env metadata)) := h.rewrite _ _
        simp only [h.existingSignature hkey]
        split at hpersist
        · cases hpersist
        next hstores =>
          rw [if_neg hstores]
          split at hpersist
          next hsame =>
            cases hpersist
            rw [if_pos hsame]
            exact ⟨_, rfl, hwritten.updateWhere (fun _ => rfl) fun _ _ => rfl⟩
          next hchanged =>
            cases hpersist
            rw [if_neg hchanged]
            exact ⟨_, rfl, hwritten.updateWhere (fun _ => rfl) fun _ _ => rfl⟩

theorem persistNoRecords_congr (h : SameSource projectModule source r₁ r₂) :
    SameSource projectModule source
        (r₁.persistNoRecords env now projectModule source claimToken).1
        (r₂.persistNoRecords env now projectModule source claimToken).1 ∧
      (r₂.persistNoRecords env now projectModule source claimToken).2 =
        (r₁.persistNoRecords env now projectModule source claimToken).2 := by
  have hfind :
      r₂.rows.find? (SourceRegistryRow.discoveryClaimedBy projectModule source claimToken) =
        r₁.rows.find? (SourceRegistryRow.discoveryClaimedBy projectModule source claimToken) :=
    h.find_claimed
  unfold persistNoRecords
  simp only [hfind]
  split
  · exact ⟨h, rfl⟩
  next row hrow =>
    split
    · exact ⟨h.updateWhere (fun _ => rfl) fun _ _ => rfl, rfl⟩
    · exact ⟨(h.rewrite _ _).updateWhere (fun _ => rfl) fun _ _ => rfl, rfl⟩

end Result

end SourceRegistry

/-- Two batches mark the source alike. -/
structure DiscoveryBatch.MarksSame (source : String) (batch₁ batch₂ : DiscoveryBatch) : Prop where
  checked : source ∈ batch₁.checked ↔ source ∈ batch₂.checked
  attempted : source ∈ batch₁.attempted ↔ source ∈ batch₂.attempted

theorem DiscoveryBatch.MarksSame.trans {source : String} {a b c : DiscoveryBatch}
    (h : a.MarksSame source b) (h' : b.MarksSame source c) : a.MarksSame source c :=
  ⟨h.checked.trans h'.checked, h.attempted.trans h'.attempted⟩

@[simp] theorem DiscoveryBatch.attempted_recordNoRecords (batch : DiscoveryBatch) (source : String)
    (changed : Bool) : (batch.recordNoRecords source changed).attempted = batch.attempted := by
  cases changed <;> rfl

namespace SourceRegistry

section Batch

variable {env : DiscoveryEnv} {clock : ℕ → ℕ} {projectModule claimToken source : String}
  {signature : SignatureOptions} {r r' r₁ r₂ : SourceRegistry}
  {batch batch' batch₁ batch₂ : DiscoveryBatch} {now : ℕ} {result : DiscoverySourceResult}
  {results : List DiscoverySourceResult}

/-- **What a result does to its source is decided by the rows of the source.** -/
theorem persistResult_congr (hsource : result.sourceIdentifier = source)
    (h : SameSource projectModule source r₁ r₂) (hmarks : batch₁.MarksSame source batch₂)
    (hpersist : r₁.persistResult env now projectModule claimToken signature batch₁ result =
      .ok (r', batch')) :
    ∃ r'' batch'', r₂.persistResult env now projectModule claimToken signature batch₂ result =
        .ok (r'', batch'') ∧ SameSource projectModule source r' r'' ∧
      batch'.MarksSame source batch'' := by
  obtain ⟨hchecked, hattempted⟩ := hmarks
  cases result with
  | hasMetadata own metadata discoveryFlags =>
      obtain rfl : own = source := hsource
      simp only [persistResult] at hpersist
      split at hpersist
      · cases hpersist
      next r₁' outcome hown =>
        cases hpersist
        obtain ⟨r₂', hown₂, hsame⟩ := persistChangedOrUnchanged_congr h hown
        refine ⟨r₂', batch₂.recordMetadata own outcome, ?_, hsame, ?_⟩
        · simp only [persistResult]
          rw [hown₂]
        · cases outcome with
          | changed groups records => exact ⟨hchecked, hattempted⟩
          | unchanged groups records =>
              refine ⟨?_, hattempted⟩
              simp [DiscoveryBatch.recordMetadata, DiscoveryBatch.markUnchanged]
          | missingRegistry => exact ⟨hchecked, hattempted⟩
  | noRecords own =>
      obtain rfl : own = source := hsource
      have hown : SameSource projectModule own
            (r₁.persistNoRecords env now projectModule own claimToken).1
            (r₂.persistNoRecords env now projectModule own claimToken).1 ∧
          (r₂.persistNoRecords env now projectModule own claimToken).2 =
            (r₁.persistNoRecords env now projectModule own claimToken).2 :=
        persistNoRecords_congr h
      simp only [persistResult, Except.ok.injEq, Prod.mk.injEq] at hpersist
      obtain ⟨rfl, rfl⟩ := hpersist
      refine ⟨(r₂.persistNoRecords env now projectModule own claimToken).1,
        batch₂.recordNoRecords own (r₂.persistNoRecords env now projectModule own claimToken).2,
        rfl, hown.1, ?_⟩
      rw [hown.2]
      unfold DiscoveryBatch.recordNoRecords
      dsimp only
      split
      · exact ⟨hchecked, hattempted⟩
      · refine ⟨?_, hattempted⟩
        simp [DiscoveryBatch.markUnchanged]
  | unchanged own =>
      obtain rfl : own = source := hsource
      cases hpersist
      refine ⟨_, _, rfl, h, ?_, hattempted⟩
      simp [DiscoveryBatch.markUnchanged]
  | timeout own error =>
      obtain rfl : own = source := hsource
      cases hpersist
      refine ⟨_, _, rfl, h, hchecked, ?_⟩
      simp [DiscoveryBatch.markFailed]
  | error own error =>
      obtain rfl : own = source := hsource
      cases hpersist
      refine ⟨_, _, rfl, h, hchecked, ?_⟩
      simp [DiscoveryBatch.markFailed]

/-- A result is rejected where it stands. -/
theorem persistResult_isOk :
    (r.persistResult env now projectModule claimToken signature batch result).isOk =
      !r.rejects env projectModule claimToken signature result := by
  cases result with
  | hasMetadata source metadata discoveryFlags =>
      simp only [persistResult, rejects, persistChangedOrUnchanged]
      cases hprepared :
          MetadataBatch.prepared env ⟨metadata, discoveryFlags, signature⟩ source with
      | error error => rfl
      | ok prepared =>
          dsimp only
          cases hfind : r.rows.find?
              (SourceRegistryRow.discoveryClaimedBy projectModule source claimToken) with
          | none =>
              have hany : r.rows.any
                  (SourceRegistryRow.discoveryClaimedBy projectModule source claimToken) =
                    false := by
                rw [List.any_eq_false]
                exact List.find?_eq_none.mp hfind
              rw [hany]
              rfl
          | some row =>
              have hany : r.rows.any
                  (SourceRegistryRow.discoveryClaimedBy projectModule source claimToken) = true :=
                List.any_eq_true.mpr
                  ⟨row, List.mem_of_find?_eq_some hfind, List.find?_some hfind⟩
              rw [hany, Bool.true_and, Bool.not_not]
              dsimp only
              cases hstores : (MetadataBatch.storagePayload env
                  ⟨metadata, discoveryFlags, signature⟩ prepared).toList.all env.storesGroup with
              | false => rfl
              | true =>
                  rw [if_neg (by simp)]
                  by_cases hsame : r.existingSignature env row signature =
                      MetadataBatch.newSignature env ⟨metadata, discoveryFlags, signature⟩ prepared
                  · rw [if_pos hsame]
                    rfl
                  · rw [if_neg hsame]
                    rfl
  | noRecords | unchanged | timeout | error => rfl

end Batch

end SourceRegistry
namespace SourceRegistry

section Run

variable {env : DiscoveryEnv} {clock : ℕ → ℕ} {projectModule claimToken source : String}
  {signature : SignatureOptions} {r r' r₁ r₂ : SourceRegistry}
  {batch batch' : DiscoveryBatch} {now : ℕ} {result : DiscoverySourceResult}
  {results before after : List DiscoverySourceResult}

/-! ### Rejected batches -/

/-- The sources behind a result are not its own. -/
theorem ne_of_nodup
    (hnodup : ((result :: results).map DiscoverySourceResult.sourceIdentifier).Nodup)
    {other : DiscoverySourceResult} (hother : other ∈ results) :
    result.sourceIdentifier ≠ other.sourceIdentifier := by
  rw [List.map_cons, List.nodup_cons] at hnodup
  intro hequal
  exact hnodup.1 (hequal ▸ List.mem_map_of_mem hother)

/-- **A batch gets through exactly when none of its results is rejected.** -/
theorem persistResults_isOk_iff
    (hnodup : (results.map DiscoverySourceResult.sourceIdentifier).Nodup) :
    (persistResults env clock projectModule claimToken signature r batch results).2.isOk = true ↔
      ∀ result ∈ results, r.rejects env projectModule claimToken signature result = false := by
  induction results generalizing r batch with
  | nil => simp [persistResults, Except.isOk, Except.toBool]
  | cons result results ih =>
      rw [persistResults, List.forall_mem_cons]
      have hown : (r.persistResult env (clock results.length) projectModule claimToken signature
          batch result).isOk = !r.rejects env projectModule claimToken signature result :=
        persistResult_isOk
      cases hresult : r.persistResult env (clock results.length) projectModule claimToken signature
          batch result with
      | error error =>
          rw [hresult] at hown
          have hrejected : r.rejects env projectModule claimToken signature result = true := by
            simpa [Except.isOk, Except.toBool] using hown
          simp [hrejected, Except.isOk, Except.toBool]
      | ok next =>
          rw [hresult] at hown
          have hpassed : r.rejects env projectModule claimToken signature result = false := by
            simpa [Except.isOk, Except.toBool] using hown
          dsimp only
          rw [ih (List.nodup_cons.mp hnodup).2]
          -- the result has left the rows of the others alone
          have hothers : ∀ other ∈ results,
              next.1.rejects env projectModule claimToken signature other =
                r.rejects env projectModule claimToken signature other := fun other hother =>
            (persistResult_sameSource (ne_of_nodup hnodup hother) hresult).1.rejects
          constructor
          · intro h
            exact ⟨hpassed, fun other hother => (hothers other hother).symm.trans (h other hother)⟩
          · intro h other hother
            exact (hothers other hother).trans (h.2 other hother)

/-- The rows of a source whose result is rejected are left as they are. -/
theorem persistResults_of_rejects
    (hnodup : (results.map DiscoverySourceResult.sourceIdentifier).Nodup) (hmem : result ∈ results)
    (hrejects : r.rejects env projectModule claimToken signature result = true) :
    SameSource projectModule result.sourceIdentifier r
      (persistResults env clock projectModule claimToken signature r batch results).1 := by
  induction results generalizing r batch with
  | nil => cases hmem
  | cons head results ih =>
      rw [persistResults]
      split
      · exact .refl r
      next r₁ batch₁ hhead =>
        rcases List.mem_cons.mp hmem with rfl | hrest
        · have hisOk : (r.persistResult env (clock results.length) projectModule claimToken
              signature batch result).isOk =
                !r.rejects env projectModule claimToken signature result := persistResult_isOk
          rw [hhead, hrejects] at hisOk
          cases hisOk
        · have hsame := (persistResult_sameSource (ne_of_nodup hnodup hrest) hhead).1
          exact hsame.trans (ih (List.nodup_cons.mp hnodup).2 hrest (hsame.rejects.trans hrejects))

/-! ### Claims while results are persisted -/

/-- A row and its claim. -/
def claimOf (row : SourceRegistryRow) : (String × String) × Option String :=
  (row.key, row.discoveryClaimToken)

theorem claims_updateWhere {p : SourceRegistryRow → Bool}
    {set : SourceRegistryRow → SourceRegistryRow} (hset : ∀ row, claimOf (set row) = claimOf row) :
    (r.updateWhere p set).rows.map claimOf = r.rows.map claimOf := by
  rw [updateWhere, List.map_map]
  refine List.map_congr_left fun row _ => ?_
  rw [Function.comp_apply]
  split
  · exact hset row
  · rfl

/-- Persisting a result moves no claim. -/
theorem persistResult_claims
    (h : r.persistResult env now projectModule claimToken signature batch result =
      .ok (r', batch')) : r'.rows.map claimOf = r.rows.map claimOf := by
  cases result with
  | hasMetadata own metadata discoveryFlags =>
      simp only [persistResult, persistChangedOrUnchanged] at h
      split at h
      · cases h
      next r'' outcome hpersist =>
        cases h
        split at hpersist
        · cases hpersist
        split at hpersist
        · cases hpersist
          rfl
        split at hpersist
        · cases hpersist
        split at hpersist
        · cases hpersist
          exact claims_updateWhere fun _ => rfl
        · cases hpersist
          exact claims_updateWhere fun _ => rfl
  | noRecords own =>
      simp only [persistResult, persistNoRecords, Except.ok.injEq, Prod.mk.injEq] at h
      obtain ⟨rfl, -⟩ := h
      split
      · rfl
      split
      · exact claims_updateWhere fun _ => rfl
      · exact claims_updateWhere fun _ => rfl
  | unchanged | timeout | error =>
      cases h
      rfl

theorem persistResults_claims :
    (persistResults env clock projectModule claimToken signature r batch results).1.rows.map
        claimOf = r.rows.map claimOf := by
  induction results generalizing r batch with
  | nil => rfl
  | cons result results ih =>
      rw [persistResults]
      split
      · rfl
      next r₁ batch₁ hresult => rw [ih, persistResult_claims hresult]

/-- A source is claimed before and after. -/
theorem claims_congr (h : r'.rows.map claimOf = r.rows.map claimOf) :
    r'.Claims projectModule claimToken source ↔ r.Claims projectModule claimToken source := by
  have hmap : ∀ r : SourceRegistry, r.Claims projectModule claimToken source ↔
      ((projectModule, source), some claimToken) ∈ r.rows.map claimOf := by
    intro r
    rw [List.mem_map]
    refine exists_congr fun row => and_congr_right fun _ => ?_
    simp [SourceRegistryRow.discoveryClaimedBy, claimOf, SourceRegistryRow.key]
  rw [hmap, hmap, h]

end Run

end SourceRegistry
namespace SourceRegistry

section Isolated

variable {env : DiscoveryEnv} {clock : ℕ → ℕ} {projectModule claimToken source : String}
  {signature : SignatureOptions} {signatureConfig : Option SignatureOptions}
  {r r' r₀ : SourceRegistry} {batch batch' : DiscoveryBatch} {now time : ℕ}
  {result : DiscoverySourceResult} {results before after : List DiscoverySourceResult}

/-! ### The marks of a batch -/

theorem persistResult_marks (hne : result.sourceIdentifier ≠ source)
    (h : r.persistResult env now projectModule claimToken signature batch result =
      .ok (r', batch')) : batch.MarksSame source batch' := by
  refine ⟨(persistResult_sameSource hne h).2.checked.symm, ?_⟩
  cases result with
  | hasMetadata own metadata discoveryFlags =>
      simp only [persistResult] at h
      split at h
      · cases h
      next r'' outcome hpersist =>
        cases h
        cases outcome <;> rfl
  | noRecords own =>
      cases h
      rw [DiscoveryBatch.attempted_recordNoRecords]
  | unchanged own =>
      cases h
      rfl
  | timeout own error | error own error =>
      have hne : source ≠ own := fun h => hne h.symm
      cases h
      simp [DiscoveryBatch.markFailed, hne]

theorem persistResults_marks (hne : ∀ result ∈ results, result.sourceIdentifier ≠ source)
    (h : persistResults env clock projectModule claimToken signature r batch results =
      (r', .ok batch')) : batch.MarksSame source batch' := by
  induction results generalizing r batch with
  | nil =>
      cases h
      exact ⟨.rfl, .rfl⟩
  | cons result results ih =>
      rw [persistResults] at h
      split at h
      · cases h
      next r₁ batch₁ hresult =>
        exact (persistResult_marks (hne result List.mem_cons_self) hresult).trans
          (ih (fun other hother => hne other (List.mem_cons_of_mem _ hother)) h)

/-- The result of a source in a batch that gets through: it finds the rows of its source as they
were, and what it leaves of them stays. -/
theorem persistResults_at
    (hnodup : ((before ++ result :: after).map DiscoverySourceResult.sourceIdentifier).Nodup)
    (h : persistResults env clock projectModule claimToken signature r batch
      (before ++ result :: after) = (r', .ok batch')) :
    ∃ r₁ batch₁ r₂ batch₂, SameSource projectModule result.sourceIdentifier r r₁ ∧
      batch.MarksSame result.sourceIdentifier batch₁ ∧
      r₁.persistResult env (clock after.length) projectModule claimToken signature batch₁ result =
        .ok (r₂, batch₂) ∧
      SameSource projectModule result.sourceIdentifier r₂ r' ∧
      batch₂.MarksSame result.sourceIdentifier batch' := by
  induction before generalizing r batch with
  | nil =>
      rw [List.nil_append] at hnodup h
      rw [persistResults] at h
      split at h
      · cases h
      next r₂ batch₂ hresult =>
        have hothers : ∀ other ∈ after, other.sourceIdentifier ≠ result.sourceIdentifier :=
          fun other hother => (ne_of_nodup hnodup hother).symm
        exact ⟨r, batch, r₂, batch₂, .refl r, ⟨.rfl, .rfl⟩, hresult,
          (persistResults_sameSource hothers h).1, persistResults_marks hothers h⟩
  | cons head before ih =>
      rw [List.cons_append] at hnodup h
      rw [persistResults] at h
      split at h
      · cases h
      next r₁ batch₁ hhead =>
        have hne : head.sourceIdentifier ≠ result.sourceIdentifier :=
          ne_of_nodup hnodup (List.mem_append_right _ List.mem_cons_self)
        have hsame := (persistResult_sameSource hne hhead).1
        obtain ⟨r₂, batch₂, r₃, batch₃, hsame₂, hmarks₂, hown, hsame₃, hmarks₃⟩ :=
          ih (List.nodup_cons.mp hnodup).2 h
        exact ⟨r₂, batch₂, r₃, batch₃, hsame.trans hsame₂,
          (persistResult_marks hne hhead).trans hmarks₂, hown, hsame₃, hmarks₃⟩

/-! ### The end of a batch -/

/-- The marks and the release, at the end of a batch that gets through. -/
def settle (r : SourceRegistry) (now : ℕ) (projectModule claimToken : String)
    (batch : DiscoveryBatch) (sources : List String) : SourceRegistry :=
  ((r.markSourcesCheckedIfClaimed now projectModule batch.checked
    claimToken).markSourcesAttemptedIfClaimed now projectModule batch.attempted
    claimToken).releaseDiscoveryClaim projectModule sources claimToken

theorem persistDiscoveryResults_of_ok
    (h : persistResults env clock projectModule claimToken (signatureConfig.getD {}) r
      { stats := { totalSources := results.length } } results = (r', .ok batch)) :
    (r.persistDiscoveryResults env now clock projectModule claimToken results signatureConfig).1 =
      r'.settle now projectModule claimToken batch
        (results.map DiscoverySourceResult.sourceIdentifier) := by
  unfold persistDiscoveryResults
  rw [h]
  rfl

theorem persistDiscoveryResults_of_error {error : PersistError}
    (h : persistResults env clock projectModule claimToken (signatureConfig.getD {}) r
      { stats := { totalSources := results.length } } results = (r', .error error)) :
    (r.persistDiscoveryResults env now clock projectModule claimToken results signatureConfig).1 =
      r' := by
  unfold persistDiscoveryResults
  rw [h]

/-- The end of a batch, seen from one source. -/
theorem SameSource.settle (h : SameSource projectModule source r r')
    (hmarks : batch.MarksSame source batch') {sources sources' : List String}
    (hsources : source ∈ sources ↔ source ∈ sources') :
    SameSource projectModule source (r.settle now projectModule claimToken batch sources)
      (r'.settle now projectModule claimToken batch' sources') := by
  refine SameSource.updateIfClaimed ?_ (fun _ => rfl) hsources
  refine SameSource.updateIfClaimed ?_ (fun _ => rfl) hmarks.attempted
  exact h.updateIfClaimed (fun _ => rfl) hmarks.checked

/-- A release frees the sources it names, under a token that is one. -/
theorem claims_releaseDiscoveryClaim {sources : List String} :
    (r.releaseDiscoveryClaim projectModule sources claimToken).Claims projectModule claimToken
        source ↔
      r.Claims projectModule claimToken source ∧ (claimToken = "" ∨ source ∉ sources) := by
  have hclaimed : ∀ row : SourceRegistryRow,
      row.discoveryClaimedBy projectModule source claimToken = true ↔
        row.projectModule = projectModule ∧ row.sourceIdentifier = source ∧
          row.discoveryClaimToken = some claimToken := by
    intro row
    simp [SourceRegistryRow.discoveryClaimedBy, and_assoc]
  unfold Claims
  simp only [hclaimed, releaseDiscoveryClaim, updateIfClaimed]
  split
  next hreaches =>
    have hfree : claimToken = "" ∨ source ∉ sources := by
      rcases Bool.or_eq_true_iff.mp hreaches with hnone | hempty
      · rw [List.isEmpty_iff] at hnone
        exact .inr (by simp [hnone])
      · exact .inl (by simpa using hempty)
    simp [hfree]
  next hreaches =>
    have htoken : claimToken ≠ "" := by
      rintro rfl
      simp at hreaches
    constructor
    · rintro ⟨row, hrow, hproject, hsource, hheld⟩
      obtain ⟨old, hold, rfl⟩ := mem_updateWhere.mp hrow
      split at hheld
      · cases hheld
      next hnot =>
        rw [if_neg hnot] at hproject hsource
        refine ⟨⟨old, hold, hproject, hsource, hheld⟩, .inr fun hmem => hnot ?_⟩
        rw [Bool.and_eq_true, SourceRegistryRow.selectedBy_iff, beq_iff_eq]
        exact ⟨⟨hproject, hsource ▸ hmem⟩, hheld⟩
    · rintro ⟨⟨row, hrow, hproject, hsource, hheld⟩, hempty | hmem⟩
      · exact absurd hempty htoken
      have hnot : ¬ (row.selectedBy projectModule sources &&
          row.discoveryClaimToken == some claimToken) = true := by
        rw [Bool.and_eq_true, SourceRegistryRow.selectedBy_iff]
        rintro ⟨⟨-, hin⟩, -⟩
        exact hmem (hsource ▸ hin)
      exact ⟨row, mem_updateWhere.mpr ⟨row, hrow, (if_neg hnot).symm⟩, hproject, hsource, hheld⟩

/-- What the end of a batch leaves of the claims. -/
theorem claims_settle {sources : List String} :
    (r.settle now projectModule claimToken batch sources).Claims projectModule claimToken source ↔
      r.Claims projectModule claimToken source ∧ (claimToken = "" ∨ source ∉ sources) := by
  have hmarks : ∀ (r : SourceRegistry) (marked : List String)
      {set : SourceRegistryRow → SourceRegistryRow} (_ : ∀ row, claimOf (set row) = claimOf row),
      (r.updateIfClaimed projectModule marked claimToken set).rows.map claimOf =
        r.rows.map claimOf := by
    intro r marked set hset
    unfold updateIfClaimed
    split
    · rfl
    · exact claims_updateWhere hset
  rw [settle, claims_releaseDiscoveryClaim]
  refine and_congr_left fun _ => claims_congr ?_
  rw [markSourcesAttemptedIfClaimed, markSourcesCheckedIfClaimed, hmarks, hmarks]
  · exact fun _ => rfl
  · exact fun _ => rfl

/-- A batch that is persisted releases its sources, and moves no other claim. -/
theorem claims_persistDiscoveryResults
    (h : r.persistDiscoveryResults env now clock projectModule claimToken results signatureConfig =
      (r', .ok batch)) :
    r'.Claims projectModule claimToken source ↔ r.Claims projectModule claimToken source ∧
      (claimToken = "" ∨ source ∉ results.map DiscoverySourceResult.sourceIdentifier) := by
  cases hrun : persistResults env clock projectModule claimToken (signatureConfig.getD {}) r
      { stats := { totalSources := results.length } } results with
  | mk left persisted =>
    unfold persistDiscoveryResults at h
    rw [hrun] at h
    cases persisted with
    | error error => cases h
    | ok batch' =>
        obtain ⟨rfl, -⟩ := Prod.mk.inj h
        have hclaims : left.rows.map claimOf = r.rows.map claimOf := by
          have hkept : (persistResults env clock projectModule claimToken
              (signatureConfig.getD {}) r { stats := { totalSources := results.length } }
              results).1.rows.map claimOf = r.rows.map claimOf := persistResults_claims
          rwa [hrun] at hkept
        exact claims_settle.trans (and_congr_left fun _ => claims_congr hclaims)

/-- A result that is rejected leaves a batch of its own as it was. -/
theorem persistDiscoveryResults_singleton_of_rejects
    (h : r.rejects env projectModule claimToken (signatureConfig.getD {}) result = true) :
    (r.persistDiscoveryResults env now clock projectModule claimToken [result] signatureConfig).1 =
      r := by
  have hisOk : (r.persistResult env (clock 0) projectModule claimToken (signatureConfig.getD {})
      { stats := { totalSources := 1 } } result).isOk = !true := by
    rw [persistResult_isOk, h]
  cases hresult : r.persistResult env (clock 0) projectModule claimToken
      (signatureConfig.getD {}) { stats := { totalSources := 1 } } result with
  | ok next =>
      rw [hresult] at hisOk
      cases hisOk
  | error error =>
      have hrun : persistResults env clock projectModule claimToken (signatureConfig.getD {}) r
          { stats := { totalSources := [result].length } } [result] = (r, .error error) := by
        rw [persistResults, List.length_singleton, List.length_nil, hresult]
      exact persistDiscoveryResults_of_error hrun

end Isolated

end SourceRegistry
namespace SourceRegistry

section Isolated

variable {env : DiscoveryEnv} {clock : ℕ → ℕ} {projectModule claimToken : String}
  {signatureConfig : Option SignatureOptions} {r : SourceRegistry} {now : ℕ}
  {results : List DiscoverySourceResult}

/-- Every source of a batch that gets through comes out of it as out of a batch of its own. -/
theorem own_of_isOk {r' r₀ : SourceRegistry} {batch : DiscoveryBatch}
    {result : DiscoverySourceResult} {before after : List DiscoverySourceResult}
    (hnodup : ((before ++ result :: after).map DiscoverySourceResult.sourceIdentifier).Nodup)
    (h : persistResults env clock projectModule claimToken (signatureConfig.getD {}) r
      { stats := { totalSources := (before ++ result :: after).length } }
      (before ++ result :: after) = (r', .ok batch))
    (hsame : SameSource projectModule result.sourceIdentifier r r₀) :
    SameSource projectModule result.sourceIdentifier
      (r₀.persistDiscoveryResults env now (fun _ => clock after.length) projectModule claimToken
        [result] signatureConfig).1
      (r.persistDiscoveryResults env now clock projectModule claimToken
        (before ++ result :: after) signatureConfig).1 := by
  obtain ⟨r₁, batch₁, r₂, batch₂, hbefore, hmarks, hown, hafter, hmarks'⟩ :=
    persistResults_at hnodup h
  have hstart : batch₁.MarksSame result.sourceIdentifier { stats := { totalSources := 1 } } :=
    ⟨hmarks.checked.symm, hmarks.attempted.symm⟩
  obtain ⟨r₃, batch₃, halone, hleft, hmarks₃⟩ :=
    persistResult_congr rfl (hbefore.symm.trans hsame) hstart hown
  have hrun : persistResults env (fun _ => clock after.length) projectModule claimToken
      (signatureConfig.getD {}) r₀ { stats := { totalSources := [result].length } } [result] =
        (r₃, .ok batch₃) := by
    rw [persistResults, List.length_singleton, halone]
    rfl
  rw [persistDiscoveryResults_of_ok h, persistDiscoveryResults_of_ok hrun]
  refine (hleft.symm.trans hafter).settle ?_ ?_
  · exact ⟨hmarks₃.checked.symm.trans hmarks'.checked,
      hmarks₃.attempted.symm.trans hmarks'.attempted⟩
  · simp

/-- **A batch is isolated exactly when none of its results is rejected, or those of all claimed
sources are.**  `hissued` is what `claim_source_rows_for_discovery` grants: claims are issued under
tokens of their own. -/
theorem batch_isolated_iff (hissued : ∀ row ∈ r.rows, row.discoveryClaimToken ≠ some "")
    (hnodup : (results.map DiscoverySourceResult.sourceIdentifier).Nodup) :
    BatchIsolated env r now clock projectModule claimToken results signatureConfig ↔
      (∀ result ∈ results,
        r.rejects env projectModule claimToken (signatureConfig.getD {}) result = false) ∨
      ∀ result ∈ results, r.Claims projectModule claimToken result.sourceIdentifier →
        r.rejects env projectModule claimToken (signatureConfig.getD {}) result = true := by
  have hisOk : (persistResults env clock projectModule claimToken (signatureConfig.getD {}) r
      { stats := { totalSources := results.length } } results).2.isOk = true ↔
      ∀ result ∈ results,
        r.rejects env projectModule claimToken (signatureConfig.getD {}) result = false :=
    persistResults_isOk_iff hnodup
  have htoken : ∀ source, r.Claims projectModule claimToken source → claimToken ≠ "" := by
    rintro source ⟨row, hrow, hclaimed⟩ rfl
    simp only [SourceRegistryRow.discoveryClaimedBy, Bool.and_eq_true, beq_iff_eq] at hclaimed
    exact hissued row hrow hclaimed.2
  cases hrun : persistResults env clock projectModule claimToken (signatureConfig.getD {}) r
      { stats := { totalSources := results.length } } results with
  | mk r' outcome =>
    rw [hrun] at hisOk
    cases outcome with
    | ok batch =>
        -- nothing is rejected, so each source is on its own
        have hpassed := hisOk.mp rfl
        refine iff_of_true ⟨?_, ?_⟩ (.inl hpassed)
        · rintro before result after rfl - r₀ hsame
          exact own_of_isOk hnodup hrun hsame
        · intro result hmem hclaimed _
          rw [persistDiscoveryResults_of_ok hrun]
          rw [claims_settle]
          rintro ⟨-, hempty | hnot⟩
          · exact htoken _ hclaimed hempty
          · exact hnot (List.mem_map_of_mem hmem)
    | error error =>
        have hrejected : ¬ ∀ result ∈ results,
            r.rejects env projectModule claimToken (signatureConfig.getD {}) result = false :=
          fun h => Bool.false_ne_true (hisOk.mpr h)
        rw [or_iff_right hrejected]
        have hclaims : (persistResults env clock projectModule claimToken
            (signatureConfig.getD {}) r { stats := { totalSources := results.length } }
            results).1.rows.map claimOf = r.rows.map claimOf := persistResults_claims
        rw [hrun] at hclaims
        constructor
        · -- a source that should have been released still has its claim
          intro h result hmem hclaimed
          by_contra hpassed
          have hreleased := h.released result hmem hclaimed (Bool.eq_false_of_not_eq_true hpassed)
          rw [persistDiscoveryResults_of_error hrun] at hreleased
          exact hreleased ((claims_congr hclaims).mpr hclaimed)
        · intro h
          refine ⟨?_, fun result hmem hclaimed hpassed => ?_⟩
          · intro before result after hresults hclaimed r₀ hsame
            have hmem : result ∈ results := by
              rw [hresults]
              exact List.mem_append_right _ List.mem_cons_self
            have hrejects := h result hmem hclaimed
            have hleft : SameSource projectModule result.sourceIdentifier r
                (persistResults env clock projectModule claimToken (signatureConfig.getD {}) r
                  { stats := { totalSources := results.length } } results).1 :=
              persistResults_of_rejects hnodup hmem hrejects
            rw [hrun] at hleft
            rw [persistDiscoveryResults_of_error hrun,
              persistDiscoveryResults_singleton_of_rejects (hsame.rejects.trans hrejects)]
            exact hsame.symm.trans hleft
          · rw [h result hmem hclaimed] at hpassed
            cases hpassed

end Isolated

end SourceRegistry
namespace SourceRegistry

/-! ### A group key that the database refuses -/

/-- A text column does not take the character U+0000. -/
def columnEnv : DiscoveryEnv :=
  { sampleEnv with storesGroup := fun group => group.1.toList.all fun c => c.toNat != 0 }

/-- Two sources are registered and claimed. -/
def claimPair : SourceRegistry :=
  sampleRegistry
    [(1, .upsertSource "survey" "101" true), (1, .upsertSource "survey" "102" true),
      (2, .claimSourceRowsForDiscovery (some "survey") 24 10 180 "first" [])]

/-- A record of the group. -/
def recordOfGroup (groupKey : String) : Json :=
  .obj [("source_identifier", .str "101"), ("group_key", .str groupKey),
    ("record_id", .str "a.ms")]

/-- The first source has a record of the group, the second is unchanged. -/
def pairResults (groupKey : String) : List DiscoverySourceResult :=
  [.hasMetadata "101" [recordOfGroup groupKey] .null, .unchanged "102"]

theorem batch_isolated_iff_stored :
    BatchIsolated columnEnv claimPair 4 (fun _ => 3) "survey" "first" (pairResults "3001") none ↔
      (∀ result ∈ pairResults "3001",
        claimPair.rejects columnEnv "survey" "first" {} result = false) ∨
      ∀ result ∈ pairResults "3001", claimPair.Claims "survey" "first" result.sourceIdentifier →
        claimPair.rejects columnEnv "survey" "first" {} result = true :=
  batch_isolated_iff (by decide +kernel) (by decide)

/-- The database refuses the group of the first source, and the second keeps its claim. -/
theorem refused_group_keeps_claim :
    ¬ BatchIsolated columnEnv claimPair 4 (fun _ => 3) "survey" "first"
      (pairResults (String.ofList [Char.ofNat 0])) none := by
  intro h
  have hclaimed : claimPair.Claims "survey" "first" "102" := by
    unfold Claims
    decide +kernel
  have hreleased := h.released (.unchanged "102") (List.mem_cons_of_mem _ List.mem_cons_self)
    hclaimed rfl
  refine hreleased ?_
  unfold Claims
  decide +kernel

end SourceRegistry

end Beampipe
