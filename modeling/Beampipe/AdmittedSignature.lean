/-
The combined signature of a selection, in the three places that compute it.

An execution stores the digest of the signatures its sources had when it was created.  Before it is
dispatched the readiness check computes the digest again, and when it has succeeded its sources are
stamped as executed if the digest is still the same.  The three differ in how they read the stored
selection, in what they make of sources without a row and in what they make of a row without a
signature.

Main definitions:

* `Beampipe.parseExecutionSourceScope` — the stored selection as the readiness check reads it;
* `Beampipe.SourceRegistry.createdSignature`, `Beampipe.SourceRegistry.scopeSignature`,
  `Beampipe.SourceRegistry.finalizedSignature` — the digest at creation, at dispatch, at completion;
* `Beampipe.SourceRegistry.finalizeExecutionSources` — `finalize_successful_sources` of a stored
  selection;
* `Beampipe.SourceRegistry.StampedExecuted` — the selection is stamped as executed.

Main results:

* `Beampipe.parseExecutionSourceScope_ok` — what a selection that is read contains;
* `Beampipe.SourceRegistry.combined_signatures_agree` — **one digest in three places, and when it
  stamps the sources**.
-/

import Beampipe.DiscoveryPersistence
import Mathlib.Data.List.Dedup

set_option relaxedAutoImplicit false
set_option autoImplicit false

namespace Beampipe

/-! ### The stored selection -/

/-- The identifiers of the selected sources, as creation and finalization read them. -/
def selectedIdentifiers : Json → List String
  | .arr selections =>
      selections.filterMap fun selection => (selection.get "source_identifier").bind Json.asStr
  | _ => []

/-- A trimmed text that is not empty. -/
def trimmedNonempty (value : Option Json) : Option String :=
  ((value.bind Json.asStr).map trim).filter fun text => !text.isEmpty

/-- The selected groups of a source, each of them once. -/
def parseSelectedGroups (index : ℕ) :
    ℕ → List String → List Json → Except String (List String)
  | _, selected, [] => .ok (selected.insertionSort (· ≤ ·))
  | groupIndex, selected, value :: values =>
      match trimmedNonempty (some value) with
      | none =>
          .error (s!"execution sources[{index}].groups[{groupIndex}] must be a non-empty "
            ++ "string")
      | some group =>
          if selected.contains group then
            .error s!"execution sources[{index}].groups contains duplicate group '{group}'"
          else parseSelectedGroups index (groupIndex + 1) (selected ++ [group]) values

/-- The `groups` of a selection. -/
def parseGroups (index : ℕ) : Option Json → Except String (Option (List String))
  | none | some .null => .ok none
  | some (.arr []) =>
      .error (s!"execution sources[{index}].groups must contain at least one group when set")
  | some (.arr values) => (parseSelectedGroups index 0 [] values).map some
  | some _ => .error s!"execution sources[{index}].groups must be a JSON array when set"

/-- One selection. -/
def parseSelection (index : ℕ) (selection : Json) :
    Except String (String × Option (List String)) :=
  match selection with
  | .obj _ =>
      match trimmedNonempty (selection.get "source_identifier") with
      | none =>
          .error (s!"execution sources[{index}].source_identifier must be a non-empty "
            ++ "string")
      | some source =>
          (parseGroups index (selection.get "groups")).map fun groups => (source, groups)
  | _ => .error s!"execution sources[{index}] must be a JSON object"

/-- The selections from `index` on, each source once. -/
def parseSelections : ℕ → BTreeMap (Option (List String)) → List Json →
    Except String (BTreeMap (Option (List String)))
  | _, sources, [] => .ok sources
  | index, sources, selection :: selections =>
      match parseSelection index selection with
      | .error error => .error error
      | .ok (source, groups) =>
          if sources.contains source then
            .error s!"execution source '{source}' is selected more than once"
          else parseSelections (index + 1) (sources.insert source groups) selections

/-- `parse_execution_source_scope`. -/
def parseExecutionSourceScope : Json → Except String (BTreeMap (Option (List String)))
  | .arr [] => .error "execution has no source selections"
  | .arr selections => parseSelections 0 ∅ selections
  | _ => .error "execution sources must be a JSON array"

/-- The current signature is recorded as executed. -/
def SourceRegistryRow.stampExecuted (row : SourceRegistryRow) : SourceRegistryRow :=
  { row.clearPending with lastExecutedDiscoverySignature := row.discoverySignature }

/-- The source stays pending, or becomes so. -/
def SourceRegistryRow.keepPending (now : ℕ) (row : SourceRegistryRow) : SourceRegistryRow :=
  { row with
    workflowRunPending := true
    workflowRunPendingAt := row.workflowRunPendingAt <|> some now }

namespace SourceRegistry

/-! ### The combined signature -/

/-- The rows of the selected sources, with the signatures. -/
def signatureRows (r : SourceRegistry) (projectModule : String) (sources : List String) :
    List (String × Option String) :=
  (r.rows.filter (SourceRegistryRow.selectedBy projectModule sources)).map fun row =>
    (row.sourceIdentifier, row.discoverySignature)

/-- The payload of a combined signature. -/
def signaturePayload (signatures : List (String × String)) : BTreeMap Json :=
  Std.ExtTreeMap.ofList (signatures.map fun entry => (entry.1, Json.str entry.2)) compare

/-- What is hashed of the rows: NULL as the empty text. -/
def hashedSignatures (signatures : List (String × Option String)) : List (String × String) :=
  signatures.map fun entry => (entry.1, entry.2.getD "")

section Signatures

variable (env : DiscoveryEnv) (r : SourceRegistry) (projectModule : String)

/-- The digest of the rows, NULL for no row. -/
def rowsSignature (signatures : List (String × Option String)) : Option String :=
  if signatures.isEmpty then none
  else
    some (discoverySignature env.digest env.text (signaturePayload (hashedSignatures signatures)))

/-- `combined_discovery_signature` of `create_execution_internal`. -/
def createdSignature (sources : Json) : Option String :=
  rowsSignature env (r.signatureRows projectModule (selectedIdentifiers sources))

/-- The readiness errors of the selected sources. -/
def scopeErrors (scope : BTreeMap (Option (List String))) : List String :=
  scope.toList.filterMap fun entry => r.parsedSourceReadinessError projectModule ⟨entry.1, entry.2⟩

/-- The digest that `execution_source_readiness_errors` computes: sources without a signature are
left out. -/
def scopeSignature (scope : BTreeMap (Option (List String))) : String :=
  discoverySignature env.digest env.text <| signaturePayload <|
    scope.toList.filterMap fun entry =>
      ((r.find projectModule entry.1).bind (·.discoverySignature)).map fun signature =>
        (entry.1, signature)

/-- `execution_source_readiness_errors` of a stored selection. -/
def scopeReadinessErrors (sources : Json) (admitted : Option String) : List String :=
  match parseExecutionSourceScope sources with
  | .error error => [error]
  | .ok scope =>
      match r.scopeErrors projectModule scope with
      | [] =>
          if admitted = some (r.scopeSignature env projectModule scope) then []
          else ["source discovery state changed after execution admission; prepare a new execution"]
      | errors => errors

/-- The identifiers that `finalize_successful_sources` collects, each of them once. -/
def finalizedIdentifiers (sources : Json) : List String :=
  ((selectedIdentifiers sources).insertionSort (· ≤ ·)).dedup

/-- `current_signature` of `finalize_successful_sources`. -/
def finalizedSignature (sources : Json) : Option String :=
  rowsSignature env (r.signatureRows projectModule (finalizedIdentifiers sources))

/-- `finalized_current_signatures` of a selection that is not empty. -/
def selectionCurrent (sources : Json) (admitted : Option String) : Bool :=
  let ids := finalizedIdentifiers sources
  let current := r.signatureRows projectModule ids
  current.length == ids.length && current.all (fun entry => entry.2.isSome) &&
    admitted == r.finalizedSignature env projectModule sources

/-- `finalize_successful_sources`, with `finalized_current_signatures`. -/
def finalizeExecutionSources (now : ℕ) (sources : Json) (admitted : Option String) :
    SourceRegistry × Bool :=
  let ids := finalizedIdentifiers sources
  if ids.isEmpty then (r, false)
  else if r.selectionCurrent env projectModule sources admitted then
    (r.updateWhere
      (fun row => row.selectedBy projectModule ids && row.discoverySignature.isSome)
      SourceRegistryRow.stampExecuted, true)
  else
    (r.updateWhere (SourceRegistryRow.selectedBy projectModule ids)
      (SourceRegistryRow.keepPending now), false)

end Signatures

end SourceRegistry

/-! ### What a selection that is read contains -/

/-- What a selection is read as. -/
theorem parseSelection_ok {index : ℕ} {selection : Json} {source : String}
    {groups : Option (List String)} (h : parseSelection index selection = .ok (source, groups)) :
    ∃ raw, (selection.get "source_identifier").bind Json.asStr = some raw ∧ source = trim raw := by
  unfold parseSelection at h
  split at h
  next fields =>
    split at h
    · cases h
    next source' hsource =>
      cases hgroups : parseGroups index (Json.get "groups" (.obj fields)) with
      | error error =>
          rw [hgroups] at h
          cases h
      | ok groups' =>
          rw [hgroups] at h
          cases h
          unfold trimmedNonempty at hsource
          obtain ⟨hmap, -⟩ := Option.filter_eq_some_iff.mp hsource
          obtain ⟨raw, hraw, rfl⟩ := Option.map_eq_some_iff.mp hmap
          exact ⟨raw, hraw, rfl⟩
  · cases h

/-- The sources read from `selections` are their identifiers, none of them twice. -/
theorem parseSelections_ok {index : ℕ} {sources scope : BTreeMap (Option (List String))}
    {selections : List Json} (h : parseSelections index sources selections = .ok scope)
    (htrimmed : ∀ sid ∈ selectedIdentifiers (.arr selections), trim sid = sid) :
    (selectedIdentifiers (.arr selections)).Nodup ∧
      (∀ sid ∈ selectedIdentifiers (.arr selections), sid ∉ sources) ∧
      ∀ sid, sid ∈ scope ↔ sid ∈ sources ∨ sid ∈ selectedIdentifiers (.arr selections) := by
  induction selections generalizing index sources with
  | nil =>
      cases h
      exact ⟨List.nodup_nil, by simp [selectedIdentifiers], by simp [selectedIdentifiers]⟩
  | cons selection selections ih =>
      rw [parseSelections] at h
      split at h
      · cases h
      next source groups hselection =>
        obtain ⟨raw, hraw, rfl⟩ := parseSelection_ok hselection
        have hcons : selectedIdentifiers (.arr (selection :: selections)) =
            raw :: selectedIdentifiers (.arr selections) := by
          simp [selectedIdentifiers, hraw]
        rw [hcons] at htrimmed ⊢
        have htrim := htrimmed raw List.mem_cons_self
        rw [htrim] at h
        split at h
        · cases h
        next hnew =>
          rw [Std.ExtTreeMap.contains_iff_mem] at hnew
          obtain ⟨hnodup, hfresh, hscope⟩ :=
            ih h fun sid hsid => htrimmed sid (List.mem_cons_of_mem _ hsid)
          have hraw' : ∀ sid ∈ selectedIdentifiers (.arr selections),
              sid ≠ raw ∧ sid ∉ sources := by
            intro sid hsid
            have hinsert := hfresh sid hsid
            rw [Std.ExtTreeMap.mem_insert, Std.LawfulEqCmp.compare_eq_iff_eq, not_or] at hinsert
            exact ⟨fun heq => hinsert.1 heq.symm, hinsert.2⟩
          refine ⟨List.nodup_cons.mpr ⟨fun hmem => (hraw' raw hmem).1 rfl, hnodup⟩, ?_, ?_⟩
          · intro sid hsid
            rcases List.mem_cons.mp hsid with rfl | hsid
            · exact hnew
            · exact (hraw' sid hsid).2
          · intro sid
            rw [hscope, Std.ExtTreeMap.mem_insert, Std.LawfulEqCmp.compare_eq_iff_eq,
              List.mem_cons]
            constructor
            · rintro ((rfl | hsid) | hsid)
              · exact .inr (.inl rfl)
              · exact .inl hsid
              · exact .inr (.inr hsid)
            · rintro (hsid | rfl | hsid)
              · exact .inl (.inr hsid)
              · exact .inl (.inl rfl)
              · exact .inr hsid

/-- **A selection of trimmed identifiers that can be read** has these sources, each of them once. -/
theorem parseExecutionSourceScope_ok {sources : Json} {scope : BTreeMap (Option (List String))}
    (h : parseExecutionSourceScope sources = .ok scope)
    (htrimmed : ∀ sid ∈ selectedIdentifiers sources, trim sid = sid) :
    (selectedIdentifiers sources).Nodup ∧ selectedIdentifiers sources ≠ [] ∧
      ∀ sid, sid ∈ scope ↔ sid ∈ selectedIdentifiers sources := by
  unfold parseExecutionSourceScope at h
  split at h
  · cases h
  next selections hnonempty =>
    obtain ⟨hnodup, -, hscope⟩ := parseSelections_ok h htrimmed
    refine ⟨hnodup, ?_, fun sid => by simp [hscope]⟩
    cases selections with
    | nil => exact absurd rfl hnonempty
    | cons selection selections =>
        rw [parseSelections] at h
        split at h
        · cases h
        next source groups hselection =>
          obtain ⟨raw, hraw, -⟩ := parseSelection_ok hselection
          simp [selectedIdentifiers, hraw]
  · cases h

/-! ### Payloads of signatures -/

namespace SourceRegistry

/-- The payload has the entries of the list. -/
theorem getElem?_signaturePayload {signatures : List (String × String)}
    (hnodup : (signatures.map Prod.fst).Nodup) {sid : String} {value : Json} :
    (signaturePayload signatures)[sid]? = some value ↔
      ∃ signature, value = .str signature ∧ (sid, signature) ∈ signatures := by
  have hdistinct : (signatures.map fun entry => (entry.1, Json.str entry.2)).Pairwise
      fun a b => ¬ compare a.1 b.1 = .eq := by
    rw [List.pairwise_map]
    rw [List.Nodup, List.pairwise_map] at hnodup
    refine hnodup.imp fun hne => ?_
    rwa [Std.LawfulEqCmp.compare_eq_iff_eq]
  have hof : ∀ signature, (sid, signature) ∈ signatures →
      (signaturePayload signatures)[sid]? = some (.str signature) := by
    intro signature hmem
    exact Std.ExtTreeMap.getElem?_ofList_of_mem Std.ReflCmp.compare_self hdistinct
      (List.mem_map.mpr ⟨_, hmem, rfl⟩)
  constructor
  · intro hget
    by_cases hkey : ∃ signature, (sid, signature) ∈ signatures
    · obtain ⟨signature, hmem⟩ := hkey
      refine ⟨signature, ?_, hmem⟩
      rw [hof signature hmem] at hget
      exact (Option.some.inj hget).symm
    · have hnone : (signaturePayload signatures)[sid]? = none := by
        refine Std.ExtTreeMap.getElem?_ofList_of_contains_eq_false ?_
        rw [List.map_map, List.contains_eq_mem, decide_eq_false_iff_not]
        intro hmem
        obtain ⟨entry, hentry, hfst⟩ := List.mem_map.mp hmem
        exact hkey ⟨entry.2, by rwa [← show entry.1 = sid from hfst]⟩
      rw [hnone] at hget
      cases hget
  · rintro ⟨signature, rfl, hmem⟩
    exact hof signature hmem

/-- Lists with the same entries have one payload. -/
theorem signaturePayload_congr {signatures signatures' : List (String × String)}
    (hnodup : (signatures.map Prod.fst).Nodup) (hnodup' : (signatures'.map Prod.fst).Nodup)
    (h : ∀ entry, entry ∈ signatures ↔ entry ∈ signatures') :
    signaturePayload signatures = signaturePayload signatures' := by
  refine Std.ExtTreeMap.ext_getElem? fun sid => Option.ext fun value => ?_
  rw [getElem?_signaturePayload hnodup, getElem?_signaturePayload hnodup']
  simp only [h]

/-- One digest, one list of signatures. -/
theorem mem_iff_of_discoverySignature_eq {env : DiscoveryEnv} (htext : env.text.Faithful)
    (hdigest : Function.Injective env.digest) {signatures signatures' : List (String × String)}
    (hnodup : (signatures.map Prod.fst).Nodup) (hnodup' : (signatures'.map Prod.fst).Nodup)
    (h : discoverySignature env.digest env.text (signaturePayload signatures) =
      discoverySignature env.digest env.text (signaturePayload signatures'))
    {sid signature : String} (hmem : (sid, signature) ∈ signatures) :
    (sid, signature) ∈ signatures' := by
  have hget := (discoverySignature_eq_iff htext hdigest _ _).mp h sid
  rw [(getElem?_signaturePayload hnodup).mpr ⟨signature, rfl, hmem⟩, Option.map_some,
    eq_comm, Option.map_eq_some_iff] at hget
  obtain ⟨value, hvalue, hcanonical⟩ := hget
  obtain ⟨signature', rfl, hmem'⟩ := (getElem?_signaturePayload hnodup').mp hvalue
  have hsame : Json.str signature' = .str signature := by simpa [Json.canonical] using hcanonical
  cases hsame
  exact hmem'

/-! ### The rows of a selection -/

section Rows

variable {r : SourceRegistry} {projectModule sid : String} {ids : List String}

theorem Keyed.mem_signatureRows (hkeyed : r.Keyed) {signature : Option String} :
    (sid, signature) ∈ r.signatureRows projectModule ids ↔
      sid ∈ ids ∧ ∃ row, r.find projectModule sid = some row ∧
        row.discoverySignature = signature := by
  unfold signatureRows
  rw [List.mem_map]
  constructor
  · rintro ⟨row, hrow, hentry⟩
    obtain ⟨rfl, rfl⟩ := Prod.mk.inj hentry
    rw [List.mem_filter, SourceRegistryRow.selectedBy_iff] at hrow
    refine ⟨hrow.2.2, row, hkeyed.find_eq_some_iff.mpr ⟨hrow.1, ?_⟩, rfl⟩
    rw [SourceRegistryRow.key, hrow.2.1]
  · rintro ⟨hsid, row, hfind, rfl⟩
    obtain ⟨hmem, hkey⟩ := hkeyed.find_eq_some_iff.mp hfind
    obtain ⟨rfl, rfl⟩ := Prod.mk.inj hkey
    exact ⟨row, List.mem_filter.mpr ⟨hmem, SourceRegistryRow.selectedBy_iff.mpr ⟨rfl, hsid⟩⟩, rfl⟩

/-- No source has two rows. -/
theorem Keyed.nodup_signatureRows (hkeyed : r.Keyed) (projectModule : String) (ids : List String) :
    ((r.signatureRows projectModule ids).map Prod.fst).Nodup := by
  unfold signatureRows
  rw [List.map_map]
  have hfiltered : ((r.rows.filter (SourceRegistryRow.selectedBy projectModule ids)).map
      SourceRegistryRow.key).Nodup := hkeyed.sublist (List.filter_sublist.map _)
  rw [List.Nodup, List.pairwise_map] at hfiltered ⊢
  refine hfiltered.imp_of_mem fun {a b} ha hb hne heq => hne ?_
  have ha := SourceRegistryRow.selectedBy_iff.mp (List.mem_filter.mp ha).2
  have hb := SourceRegistryRow.selectedBy_iff.mp (List.mem_filter.mp hb).2
  rw [SourceRegistryRow.key, SourceRegistryRow.key, ha.1, hb.1]
  exact congrArg _ heq

/-- The rows do not depend on the order or the number of the identifiers. -/
theorem signatureRows_congr {ids' : List String} (h : ∀ sid, sid ∈ ids ↔ sid ∈ ids') :
    r.signatureRows projectModule ids = r.signatureRows projectModule ids' := by
  unfold signatureRows
  congr 1
  refine List.filter_congr fun row _ => ?_
  rw [Bool.eq_iff_iff, SourceRegistryRow.selectedBy_iff, SourceRegistryRow.selectedBy_iff, h]

/-- All sources of a selection are registered when as many rows are found. -/
theorem Keyed.length_signatureRows_eq_iff (hkeyed : r.Keyed) (hnodup : ids.Nodup) :
    (r.signatureRows projectModule ids).length = ids.length ↔
      ∀ sid ∈ ids, ∃ row, r.find projectModule sid = some row := by
  have hrows := hkeyed.nodup_signatureRows projectModule ids
  have hsubset : (r.signatureRows projectModule ids).map Prod.fst ⊆ ids := by
    intro sid hsid
    obtain ⟨⟨_, signature⟩, hmem, rfl⟩ := List.mem_map.mp hsid
    exact (hkeyed.mem_signatureRows.mp hmem).1
  have hfound : ∀ sid ∈ ids, (∃ row, r.find projectModule sid = some row) ↔
      sid ∈ (r.signatureRows projectModule ids).map Prod.fst := by
    intro sid hsid
    constructor
    · rintro ⟨row, hrow⟩
      exact List.mem_map.mpr ⟨_, hkeyed.mem_signatureRows.mpr ⟨hsid, row, hrow, rfl⟩, rfl⟩
    · intro hmem
      obtain ⟨⟨sid', signature⟩, hentry, rfl⟩ := List.mem_map.mp hmem
      obtain ⟨-, row, hrow, -⟩ := hkeyed.mem_signatureRows.mp hentry
      exact ⟨row, hrow⟩
  have hlength : ((r.signatureRows projectModule ids).map Prod.fst).length =
      (r.signatureRows projectModule ids).length := List.length_map _
  rw [← hlength]
  constructor
  · intro hlength sid hsid
    rw [hfound sid hsid]
    have hperm := (List.subperm_of_subset hrows hsubset).perm_of_length_le hlength.ge
    exact hperm.mem_iff.mpr hsid
  · intro hall
    refine ((List.perm_ext_iff_of_nodup hrows hnodup).mpr fun sid => ?_).length_eq
    exact ⟨fun hmem => hsubset hmem, fun hsid => (hfound sid hsid).mp (hall sid hsid)⟩

/-- What is hashed of the rows. -/
theorem Keyed.nodup_hashedSignatures (hkeyed : r.Keyed) (projectModule : String)
    (ids : List String) :
    ((hashedSignatures (r.signatureRows projectModule ids)).map Prod.fst).Nodup := by
  unfold hashedSignatures
  rw [List.map_map]
  exact hkeyed.nodup_signatureRows projectModule ids

theorem Keyed.mem_hashedSignatures (hkeyed : r.Keyed) {signature : String} :
    (sid, signature) ∈ hashedSignatures (r.signatureRows projectModule ids) ↔
      sid ∈ ids ∧ ∃ row, r.find projectModule sid = some row ∧
        row.discoverySignature.getD "" = signature := by
  unfold hashedSignatures
  rw [List.mem_map]
  constructor
  · rintro ⟨⟨sid', stored⟩, hmem, heq⟩
    obtain ⟨rfl, rfl⟩ := Prod.mk.inj heq
    obtain ⟨hsid, row, hrow, rfl⟩ := hkeyed.mem_signatureRows.mp hmem
    exact ⟨hsid, row, hrow, rfl⟩
  · rintro ⟨hsid, row, hrow, rfl⟩
    exact ⟨_, hkeyed.mem_signatureRows.mpr ⟨hsid, row, hrow, rfl⟩, rfl⟩

theorem mem_finalizedIdentifiers {sources : Json} :
    sid ∈ finalizedIdentifiers sources ↔ sid ∈ selectedIdentifiers sources := by
  rw [finalizedIdentifiers, List.mem_dedup, List.mem_insertionSort]

end Rows

/-! ### The three digests -/

section Agreement

variable {env : DiscoveryEnv} {r r₀ r₁ : SourceRegistry} {projectModule : String} {sources : Json}
  {scope : BTreeMap (Option (List String))}

/-- Creation and finalization compute one digest. -/
theorem finalizedSignature_eq (env : DiscoveryEnv) (r : SourceRegistry) (projectModule : String)
    (sources : Json) :
    r.finalizedSignature env projectModule sources =
      r.createdSignature env projectModule sources := by
  unfold finalizedSignature createdSignature
  rw [signatureRows_congr fun sid => mem_finalizedIdentifiers]

/-- A source without a readiness error is registered with a signature. -/
theorem exists_signature_of_ready {sid : String} {groups : Option (List String)}
    (h : r.parsedSourceReadinessError projectModule ⟨sid, groups⟩ = none) :
    ∃ row signature, r.find projectModule sid = some row ∧
      row.discoverySignature = some signature := by
  unfold parsedSourceReadinessError at h
  dsimp only at h
  split at h
  · cases h
  next row hfind =>
    split_ifs at h with hdisabled hunchecked hunsigned
    cases hsignature : row.discoverySignature with
    | none =>
        rw [hsignature] at hunsigned
        exact absurd rfl hunsigned
    | some signature => exact ⟨row, signature, hfind, hsignature⟩

/-- A selection without readiness errors has the digest of its creation. -/
theorem scopeSignature_eq (hkeyed : r.Keyed)
    (hscope : ∀ sid, sid ∈ scope ↔ sid ∈ selectedIdentifiers sources)
    (hnonempty : selectedIdentifiers sources ≠ [])
    (hready : r.scopeErrors projectModule scope = []) :
    some (r.scopeSignature env projectModule scope) =
      r.createdSignature env projectModule sources := by
  have hsignature : ∀ sid ∈ selectedIdentifiers sources, ∃ row signature,
      r.find projectModule sid = some row ∧ row.discoverySignature = some signature := by
    intro sid hsid
    rw [← hscope, Std.ExtTreeMap.mem_iff_isSome_getElem?, Option.isSome_iff_exists] at hsid
    obtain ⟨groups, hgroups⟩ := hsid
    have herror := List.filterMap_eq_nil_iff.mp hready (sid, groups)
      (Std.ExtTreeMap.mem_toList_iff_getElem?_eq_some.mpr hgroups)
    exact exists_signature_of_ready herror
  have hrows : (r.signatureRows projectModule (selectedIdentifiers sources)).isEmpty = false := by
    obtain ⟨sid, hsid⟩ := List.exists_mem_of_ne_nil _ hnonempty
    obtain ⟨row, signature, hrow, -⟩ := hsignature sid hsid
    rw [List.isEmpty_eq_false_iff]
    exact List.ne_nil_of_mem (hkeyed.mem_signatureRows.mpr ⟨hsid, row, hrow, rfl⟩)
  unfold createdSignature rowsSignature scopeSignature
  rw [hrows, if_neg Bool.false_ne_true]
  congr 2
  refine signaturePayload_congr ?_ ?_ ?_
  · rw [List.Nodup, List.pairwise_map]
    refine List.Pairwise.filterMap _ ?_ Std.ExtTreeMap.distinct_keys_toList
    intro entry entry' hne a ha a' ha' heq
    obtain ⟨_, -, rfl⟩ := Option.map_eq_some_iff.mp ha
    obtain ⟨_, -, rfl⟩ := Option.map_eq_some_iff.mp ha'
    exact hne (Std.LawfulEqCmp.compare_eq_iff_eq.mpr heq)
  · exact hkeyed.nodup_hashedSignatures projectModule _
  · rintro ⟨sid, signature⟩
    rw [List.mem_filterMap, hkeyed.mem_hashedSignatures]
    constructor
    · rintro ⟨⟨sid', groups⟩, hmem, hentry⟩
      obtain ⟨_, hfound, heq⟩ := Option.map_eq_some_iff.mp hentry
      obtain ⟨rfl, rfl⟩ := Prod.mk.inj heq
      obtain ⟨row, hrow, hstored⟩ := Option.bind_eq_some_iff.mp hfound
      have hsid : sid' ∈ scope := by
        rw [Std.ExtTreeMap.mem_iff_isSome_getElem?,
          Std.ExtTreeMap.mem_toList_iff_getElem?_eq_some.mp hmem]
        rfl
      exact ⟨(hscope sid').mp hsid, row, hrow, by rw [hstored, Option.getD_some]⟩
    · rintro ⟨hsid, row, hrow, hvalue⟩
      obtain ⟨row', signature', hrow', hstored⟩ := hsignature sid hsid
      rw [hrow] at hrow'
      cases hrow'
      rw [hstored, Option.getD_some] at hvalue
      rw [← hscope, Std.ExtTreeMap.mem_iff_isSome_getElem?, Option.isSome_iff_exists] at hsid
      obtain ⟨groups, hgroups⟩ := hsid
      refine ⟨(sid, groups), Std.ExtTreeMap.mem_toList_iff_getElem?_eq_some.mpr hgroups, ?_⟩
      rw [hrow, Option.bind_some, hstored, Option.map_some, hvalue]

/-- All selected sources are registered with a signature, and each of them had that signature when
the execution was created, where NULL counts as the empty text. -/
def Unchanged (r₀ r₁ : SourceRegistry) (projectModule : String) (ids : List String) : Prop :=
  ∀ sid ∈ ids, ∃ row₀ row₁ signature,
    r₀.find projectModule sid = some row₀ ∧ r₁.find projectModule sid = some row₁ ∧
      row₁.discoverySignature = some signature ∧ row₀.discoverySignature.getD "" = signature

/-- The selection is current exactly when it is unchanged since the digest was stored. -/
theorem selectionCurrent_iff (htext : env.text.Faithful)
    (hdigest : Function.Injective env.digest) (hkeyed₀ : r₀.Keyed) (hkeyed₁ : r₁.Keyed)
    (hnonempty : selectedIdentifiers sources ≠ []) :
    r₁.selectionCurrent env projectModule sources
        (r₀.createdSignature env projectModule sources) = true ↔
      Unchanged r₀ r₁ projectModule (selectedIdentifiers sources) := by
  have hlength : (r₁.signatureRows projectModule (finalizedIdentifiers sources)).length =
      (finalizedIdentifiers sources).length ↔
        ∀ sid ∈ finalizedIdentifiers sources, ∃ row, r₁.find projectModule sid = some row :=
    hkeyed₁.length_signatureRows_eq_iff (List.nodup_dedup _)
  have hrows : r₁.signatureRows projectModule (finalizedIdentifiers sources) =
      r₁.signatureRows projectModule (selectedIdentifiers sources) :=
    signatureRows_congr fun sid => mem_finalizedIdentifiers
  unfold selectionCurrent
  simp only [Bool.and_eq_true, beq_iff_eq, List.all_eq_true]
  rw [finalizedSignature_eq]
  constructor
  · rintro ⟨⟨hfound, hsome⟩, hequal⟩ sid hsid
    obtain ⟨row₁, hrow₁⟩ := hlength.mp hfound sid (mem_finalizedIdentifiers.mpr hsid)
    have hmem₁ := hkeyed₁.mem_signatureRows.mpr
      ⟨mem_finalizedIdentifiers.mpr hsid, row₁, hrow₁, rfl⟩
    obtain ⟨signature, hsignature⟩ : ∃ signature, row₁.discoverySignature = some signature :=
      Option.isSome_iff_exists.mp (hsome _ hmem₁)
    -- the digest of the later rows is that of the earlier ones
    rw [hrows] at hmem₁
    have hnonempty₁ := List.isEmpty_eq_false_iff.mpr (List.ne_nil_of_mem hmem₁)
    unfold createdSignature rowsSignature at hequal
    rw [hnonempty₁, if_neg Bool.false_ne_true] at hequal
    split at hequal
    · cases hequal
    · have hmem := mem_iff_of_discoverySignature_eq htext hdigest
        (hkeyed₁.nodup_hashedSignatures _ _) (hkeyed₀.nodup_hashedSignatures _ _)
        (Option.some.inj hequal).symm
        (hkeyed₁.mem_hashedSignatures.mpr ⟨hsid, row₁, hrow₁, by rw [hsignature, Option.getD_some]⟩)
      obtain ⟨-, row₀, hrow₀, hsignature₀⟩ := hkeyed₀.mem_hashedSignatures.mp hmem
      exact ⟨row₀, row₁, signature, hrow₀, hrow₁, hsignature, hsignature₀⟩
  · intro hunchanged
    refine ⟨⟨?_, ?_⟩, ?_⟩
    · refine hlength.mpr fun sid hsid => ?_
      obtain ⟨row₀, row₁, signature, -, hrow₁, -⟩ :=
        hunchanged sid (mem_finalizedIdentifiers.mp hsid)
      exact ⟨row₁, hrow₁⟩
    · rintro ⟨sid, stored⟩ hmem
      obtain ⟨hsid, row, hrow, rfl⟩ := hkeyed₁.mem_signatureRows.mp hmem
      obtain ⟨row₀, row₁, signature, -, hrow₁, hsignature, -⟩ :=
        hunchanged sid (mem_finalizedIdentifiers.mp hsid)
      rw [hrow] at hrow₁
      cases hrow₁
      exact Option.isSome_iff_exists.mpr ⟨signature, hsignature⟩
    · obtain ⟨sid, hsid⟩ := List.exists_mem_of_ne_nil _ hnonempty
      obtain ⟨row₀, row₁, signature, hrow₀, hrow₁, -⟩ := hunchanged sid hsid
      have hnonempty₀ := List.isEmpty_eq_false_iff.mpr
        (List.ne_nil_of_mem (hkeyed₀.mem_signatureRows.mpr ⟨hsid, row₀, hrow₀, rfl⟩))
      have hnonempty₁ := List.isEmpty_eq_false_iff.mpr
        (List.ne_nil_of_mem (hkeyed₁.mem_signatureRows.mpr ⟨hsid, row₁, hrow₁, rfl⟩))
      unfold createdSignature rowsSignature
      rw [hnonempty₀, hnonempty₁, if_neg Bool.false_ne_true, if_neg Bool.false_ne_true]
      congr 2
      refine signaturePayload_congr (hkeyed₀.nodup_hashedSignatures _ _)
        (hkeyed₁.nodup_hashedSignatures _ _) ?_
      rintro ⟨sid, signature⟩
      rw [hkeyed₀.mem_hashedSignatures, hkeyed₁.mem_hashedSignatures]
      refine and_congr_right fun hsid => ?_
      obtain ⟨row₀, row₁, signature', hrow₀, hrow₁, hsignature, hsame⟩ := hunchanged sid hsid
      rw [hrow₀, hrow₁]
      simp only [Option.some.injEq, exists_eq_left', hsignature, Option.getD_some, hsame]

/-- The row of a source after an update. -/
theorem find_updateWhere {p : SourceRegistryRow → Bool}
    (set : SourceRegistryRow → SourceRegistryRow) (hset : ∀ row, (set row).key = row.key)
    (r : SourceRegistry) (projectModule sid : String) :
    (r.updateWhere p set).find projectModule sid =
      (r.find projectModule sid).map fun row => if p row then set row else row := by
  unfold SourceRegistry.find updateWhere
  rw [List.find?_map]
  congr 2
  funext row
  have hkey : (if p row then set row else row).key = row.key := by
    split
    · exact hset row
    · rfl
  obtain ⟨hproject, hsource⟩ := Prod.mk.inj hkey
  rw [Function.comp_apply, hproject, hsource]

/-- The selection is stamped as executed: every source is registered, its signature is recorded as
executed, and it is not pending. -/
def StampedExecuted (r : SourceRegistry) (projectModule : String) (ids : List String) : Prop :=
  ∀ sid ∈ ids, ∃ row, r.find projectModule sid = some row ∧
    row.lastExecutedDiscoverySignature = row.discoverySignature ∧ row.workflowRunPending = false

/-- A finalization stamps the selection when it is current, and otherwise leaves it pending. -/
theorem stampedExecuted_iff (hkeyed : r.Keyed) (hnonempty : selectedIdentifiers sources ≠ [])
    (now : ℕ) (admitted : Option String) :
    StampedExecuted (r.finalizeExecutionSources env projectModule now sources admitted).1
        projectModule (selectedIdentifiers sources) ↔
      r.selectionCurrent env projectModule sources admitted = true := by
  obtain ⟨first, hfirst⟩ := List.exists_mem_of_ne_nil _ hnonempty
  have hids : (finalizedIdentifiers sources).isEmpty = false := by
    rw [List.isEmpty_eq_false_iff]
    exact List.ne_nil_of_mem (mem_finalizedIdentifiers.mpr hfirst)
  have hselected : ∀ {sid row}, r.find projectModule sid = some row →
      sid ∈ selectedIdentifiers sources →
        row.selectedBy projectModule (finalizedIdentifiers sources) = true := by
    intro sid row hrow hsid
    obtain ⟨hproject, rfl⟩ := Prod.mk.inj (hkeyed.find_eq_some_iff.mp hrow).2
    rw [SourceRegistryRow.selectedBy_iff]
    exact ⟨hproject, mem_finalizedIdentifiers.mpr hsid⟩
  unfold finalizeExecutionSources
  dsimp only
  rw [hids, if_neg Bool.false_ne_true]
  split
  next hcurrent =>
    refine iff_of_true (fun sid hsid => ?_) hcurrent
    unfold selectionCurrent at hcurrent
    simp only [Bool.and_eq_true, beq_iff_eq, List.all_eq_true] at hcurrent
    obtain ⟨row, hrow⟩ := (hkeyed.length_signatureRows_eq_iff (List.nodup_dedup _)).mp
      hcurrent.1.1 sid (mem_finalizedIdentifiers.mpr hsid)
    have hsome : row.discoverySignature.isSome = true :=
      hcurrent.1.2 _
        (hkeyed.mem_signatureRows.mpr ⟨mem_finalizedIdentifiers.mpr hsid, row, hrow, rfl⟩)
    refine ⟨row.stampExecuted, ?_, rfl, rfl⟩
    rw [find_updateWhere SourceRegistryRow.stampExecuted fun _ => rfl, hrow,
      Option.map_some, hselected hrow hsid, hsome]
    rfl
  next hcurrent =>
    refine iff_of_false (fun hstamped => ?_) hcurrent
    obtain ⟨row', hrow', -, hpending⟩ := hstamped first hfirst
    rw [find_updateWhere (SourceRegistryRow.keepPending now) fun _ => rfl,
      Option.map_eq_some_iff] at hrow'
    obtain ⟨row, hrow, rfl⟩ := hrow'
    rw [if_pos (hselected hrow hfirst)] at hpending
    cases hpending

/-- **One digest in three places.**  For a selection of trimmed identifiers that can be read,
creation, readiness check and finalization compute the same digest of the same rows, the check
wherever it computes one; and a finalization stamps the selection exactly when every source is
registered with a signature and had it when the execution was created. -/
theorem combined_signatures_agree (htext : env.text.Faithful)
    (hdigest : Function.Injective env.digest)
    (hscope : parseExecutionSourceScope sources = .ok scope)
    (htrimmed : ∀ sid ∈ selectedIdentifiers sources, trim sid = sid) :
    (∀ r : SourceRegistry, r.Keyed →
      r.finalizedSignature env projectModule sources =
          r.createdSignature env projectModule sources ∧
        (r.scopeErrors projectModule scope = [] →
          some (r.scopeSignature env projectModule scope) =
            r.createdSignature env projectModule sources)) ∧
      ∀ r₀ r₁ : SourceRegistry, r₀.Keyed → r₁.Keyed → ∀ now,
        (StampedExecuted (r₁.finalizeExecutionSources env projectModule now sources
            (r₀.createdSignature env projectModule sources)).1 projectModule
            (selectedIdentifiers sources) ↔
          Unchanged r₀ r₁ projectModule (selectedIdentifiers sources)) := by
  obtain ⟨-, hnonempty, hmem⟩ := parseExecutionSourceScope_ok hscope htrimmed
  refine ⟨fun r hkeyed => ⟨finalizedSignature_eq env r projectModule sources, fun hready => ?_⟩, ?_⟩
  · exact scopeSignature_eq hkeyed hmem hnonempty hready
  · intro r₀ r₁ hkeyed₀ hkeyed₁ now
    rw [stampedExecuted_iff hkeyed₁ hnonempty]
    exact selectionCurrent_iff htext hdigest hkeyed₀ hkeyed₁ hnonempty

end Agreement

/-! ### A source without a signature -/

/-- One selected source. -/
def sampleSources : Json := .arr [.obj [("source_identifier", .str "101")]]

/-- The source is registered and was not discovered. -/
def undiscovered : SourceRegistry := sampleRegistry [(1, .upsertSource "survey" "101" true)]

theorem combined_signatures_agree_sample :
    (∀ r : SourceRegistry, r.Keyed →
      r.finalizedSignature sampleEnv "survey" sampleSources =
          r.createdSignature sampleEnv "survey" sampleSources ∧
        (r.scopeErrors "survey" (Std.ExtTreeMap.insert ∅ "101" none) = [] →
          some (r.scopeSignature sampleEnv "survey" (Std.ExtTreeMap.insert ∅ "101" none)) =
            r.createdSignature sampleEnv "survey" sampleSources)) ∧
      ∀ r₀ r₁ : SourceRegistry, r₀.Keyed → r₁.Keyed → ∀ now,
        (StampedExecuted (r₁.finalizeExecutionSources sampleEnv "survey" now sampleSources
            (r₀.createdSignature sampleEnv "survey" sampleSources)).1 "survey"
            (selectedIdentifiers sampleSources) ↔
          Unchanged r₀ r₁ "survey" (selectedIdentifiers sampleSources)) :=
  combined_signatures_agree ScalarText.plain_faithful plainDigest_injective rfl (by decide)

/-- A source that has no signature before and after is not stamped. -/
theorem unsigned_source_not_stamped :
    ¬ ∀ (env : DiscoveryEnv) (r₀ r₁ : SourceRegistry) (projectModule : String) (sources : Json)
      (scope : BTreeMap (Option (List String))) (now : ℕ),
      env.text.Faithful → Function.Injective env.digest → r₀.Keyed → r₁.Keyed →
      parseExecutionSourceScope sources = .ok scope →
      (∀ sid ∈ selectedIdentifiers sources, trim sid = sid) →
        (StampedExecuted (r₁.finalizeExecutionSources env projectModule now sources
            (r₀.createdSignature env projectModule sources)).1 projectModule
            (selectedIdentifiers sources) ↔
          ∀ sid ∈ selectedIdentifiers sources, ∃ row₀ row₁,
            r₀.find projectModule sid = some row₀ ∧ r₁.find projectModule sid = some row₁ ∧
              row₁.discoverySignature = row₀.discoverySignature) := by
  intro h
  have hsample := (h sampleEnv undiscovered undiscovered "survey" sampleSources _ 2
    ScalarText.plain_faithful plainDigest_injective (keyed_sampleRegistry _)
    (keyed_sampleRegistry _) rfl (by decide)).mpr
  have hfound : (undiscovered.find "survey" "101").isSome := by decide
  obtain ⟨row, hrow⟩ := Option.isSome_iff_exists.mp hfound
  have hstamped := hsample fun sid hsid => by
    obtain rfl : sid = "101" := List.mem_singleton.mp hsid
    exact ⟨row, row, hrow, hrow, rfl⟩
  have hcurrent := (stampedExecuted_iff (keyed_sampleRegistry _) (by decide) 2 _).mp hstamped
  revert hcurrent
  decide +kernel

end SourceRegistry

end Beampipe
