/-
The records of an execution.

An execution stores which sources it has selected, and which groups of them.  The archive metadata
of the selection are collected record by record, together with the identities of the records, and
what staging gives back is compared with these identities.

Main definitions:

* `Beampipe.selectExecutionArchiveMetadata`, `Beampipe.validateStagedRecordScope` — the selection
  and the comparison, as the source computes them;
* `Beampipe.recordKey` — the identity of a record;
* `Beampipe.Covers` — the rows cover the selection;
* `Beampipe.SelectionEntry` — what a stored selection of a source has to be.

Main results:

* `Beampipe.parseExecutionSourceScope_ok_iff` — which stored selections are read, and as what;
* `Beampipe.selectExecutionArchiveMetadata_ok_iff` — when the records are selected;
* `Beampipe.validateStagedRecordScope_ok_iff` — when staged records are accepted;
* `Beampipe.executionScope_spec` — **the three together.**
-/

import Mathlib.Algebra.GroupWithZero.Nat
import Beampipe.AdmittedSignature

set_option relaxedAutoImplicit false
set_option autoImplicit false

namespace Beampipe

/-! ### Record scopes -/

/-- The order of pairs of a source and a group. -/
def compareScopeKey (a b : String × String) : Ordering :=
  compareLex (compareOn Prod.fst) (compareOn Prod.snd) a b

instance : Std.TransCmp compareScopeKey :=
  inferInstanceAs (Std.TransCmp
    (compareLex (compareOn (Prod.fst : String × String → String)) (compareOn Prod.snd)))

instance : Std.LawfulEqCmp compareScopeKey where
  eq_of_compare {a b} h := by
    obtain ⟨hsource, hgroup⟩ :=
      (@compareLex_eq_eq _ (compareOn Prod.fst) (compareOn Prod.snd) a b).mp h
    exact Prod.ext (Std.LawfulEqCmp.eq_of_compare hsource) (Std.LawfulEqCmp.eq_of_compare hgroup)

/-- `ExecutionRecordScope`: the identities of records by source and group. -/
abbrev ExecutionRecordScope : Type :=
  Std.ExtTreeMap (String × String) (Std.ExtTreeSet String compare) compareScopeKey

/-- `required_record_string`. -/
def requiredRecordString (record : Json) (field context : String) : Except String String :=
  match trimmedNonempty (record.get field) with
  | some value => .ok value
  | none => .error s!"{context} requires a non-empty string '{field}'"

/-- `record_identity`. -/
def recordIdentity (record : Json) (context : String) : Except String String :=
  match record with
  | .obj _ => requiredRecordString record "record_id" context
  | _ => .error s!"{context} must be a JSON object"

/-- The parent of a record is the expected one, if there is one. -/
def checkParent (expectedParent : Option (String × String)) (source groupKey context : String) :
    Except String Unit :=
  match expectedParent with
  | none => .ok ()
  | some (parentSource, parentGroup) =>
      if source ≠ parentSource then
        .error (s!"{context} source_identifier '{source}' does not match archive/manifest parent "
          ++ s!"'{parentSource}'")
      else if groupKey ≠ parentGroup then
        .error (s!"{context} group_key '{groupKey}' does not match archive parent "
          ++ s!"'{parentGroup}'")
      else .ok ()

/-- `add_record_scope_entry`. -/
def addRecordScopeEntry (scope : ExecutionRecordScope) (record : Json)
    (expectedParent : Option (String × String)) (context : String) :
    Except String ExecutionRecordScope := do
  let source ← requiredRecordString record "source_identifier" context
  let groupKey ← requiredRecordString record "group_key" context
  checkParent expectedParent source groupKey context
  let identity ← recordIdentity record context
  let identities := scope[(source, groupKey)]?.getD ∅
  if identities.contains identity then
    .error (s!"{context} duplicates record '{identity}' for source '{source}' group "
      ++ s!"'{groupKey}'")
  else .ok (scope.insert (source, groupKey) (identities.insert identity))

/-- The records of a list, from `index` on. -/
def addRecords (expectedParent : Option (String × String)) (context : String) :
    ℕ → ExecutionRecordScope → List Json → Except String ExecutionRecordScope
  | _, scope, [] => .ok scope
  | index, scope, record :: records => do
      let scope ← addRecordScopeEntry scope record expectedParent s!"{context} record[{index}]"
      addRecords expectedParent context (index + 1) scope records

/-! ### The selection -/

/-- The row belongs to the source, and to one of its groups if they are restricted. -/
def isSelectedRow (entry : String × Option (List String)) (row : ArchiveMetadataRow) : Bool :=
  row.sourceIdentifier == entry.1 && entry.2.all fun groups => groups.contains row.groupKey

/-- The records of one row. -/
def selectRow (state : List Json × ExecutionRecordScope) (row : ArchiveMetadataRow) :
    Except String (List Json × ExecutionRecordScope) :=
  let rowContext :=
    s!"archive metadata for source '{row.sourceIdentifier}' group '{row.groupKey}'"
  match row.metadataJson with
  | some (.obj fields) =>
      match Json.get "records" (.obj fields) with
      | some (.arr []) => .error s!"{rowContext} contains no records"
      | some (.arr records) => do
          let scope ← addRecords (some (row.sourceIdentifier, row.groupKey)) rowContext 0 state.2
            records
          .ok (state.1 ++ records, scope)
      | _ => .error s!"{rowContext} requires a records array"
  | _ => .error s!"{rowContext} must be a JSON object"

/-- The rows of one source. -/
def selectSource (rows : List ArchiveMetadataRow) (state : List Json × ExecutionRecordScope)
    (entry : String × Option (List String)) : Except String (List Json × ExecutionRecordScope) :=
  let selectedRows := rows.filter (isSelectedRow entry)
  let covered := selectedRows.map (·.groupKey)
  match entry.2 with
  | none =>
      if selectedRows.isEmpty then .error s!"source '{entry.1}' has no archive metadata"
      else selectedRows.foldlM selectRow state
  | some groups =>
      if selectedRows.isEmpty then
        .error (s!"source '{entry.1}' has no archive metadata for selected groups "
          ++ ", ".intercalate groups)
      else
        let missing := groups.filter fun group => !covered.contains group
        if missing.isEmpty then selectedRows.foldlM selectRow state
        else
          .error (s!"source '{entry.1}' is missing archive metadata for selected groups "
            ++ ", ".intercalate missing)

/-- `select_execution_archive_metadata`. -/
def selectExecutionArchiveMetadata (selection : BTreeMap (Option (List String)))
    (rows : List ArchiveMetadataRow) : Except String (List Json × ExecutionRecordScope) :=
  selection.toList.foldlM (selectSource rows) ([], ∅)

/-- `record_scope_from_records`. -/
def recordScopeFromRecords (records : List Json) (context : String) :
    Except String ExecutionRecordScope :=
  addRecords none context 0 ∅ records

/-- The number of identities of a scope. -/
def recordCount (scope : ExecutionRecordScope) : ℕ := (scope.values.map (·.size)).sum

/-- `validate_staged_record_scope`. -/
def validateStagedRecordScope (records : List Json) (skippedGroups : List String)
    (expected : ExecutionRecordScope) : Except String Unit :=
  if !skippedGroups.isEmpty then
    .error ("staging skipped selected groups " ++ ", ".intercalate skippedGroups
      ++ "; execution requires exact selected coverage")
  else do
    let actual ← recordScopeFromRecords records "staged metadata"
    if actual ≠ expected then
      .error (s!"staging changed selected record scope (expected {recordCount expected} records "
        ++ s!"across {expected.size} source/group pairs, received {recordCount actual} across "
        ++ s!"{actual.size})")
    else .ok ()

/-! ### Identities -/

/-- The source, the group and the id of a record. -/
def recordKey (record : Json) : Option (String × String × String) :=
  match trimmedNonempty (record.get "source_identifier"), trimmedNonempty (record.get "group_key"),
      trimmedNonempty (record.get "record_id") with
  | some source, some groupKey, some identity => some (source, groupKey, identity)
  | _, _, _ => none

/-- The identities of records. -/
def recordKeys (records : List Json) : List (String × String × String) :=
  records.filterMap recordKey

theorem recordKeys_cons {record : Json} {records : List Json} {key : String × String × String}
    (h : recordKey record = some key) :
    recordKeys (record :: records) = key :: recordKeys records :=
  List.filterMap_cons_some h

/-- The identity is in the scope. -/
def InScope (scope : ExecutionRecordScope) (key : String × String × String) : Prop :=
  ∃ identities, scope[(key.1, key.2.1)]? = some identities ∧ key.2.2 ∈ identities

/-- Every pair of the scope has an identity. -/
def NonemptyGroups (scope : ExecutionRecordScope) : Prop :=
  ∀ (pair : String × String) (identities : Std.ExtTreeSet String compare),
    scope[pair]? = some identities → ∃ identity, identity ∈ identities

/-- The scope with one more identity. -/
def insertKey (scope : ExecutionRecordScope) (key : String × String × String) :
    ExecutionRecordScope :=
  scope.insert (key.1, key.2.1) ((scope[(key.1, key.2.1)]?.getD ∅).insert key.2.2)

theorem not_inScope_empty (key : String × String × String) : ¬ InScope ∅ key := by
  rintro ⟨identities, hget, -⟩
  rw [Std.ExtTreeMap.getElem?_empty] at hget
  cases hget

theorem nonemptyGroups_empty : NonemptyGroups ∅ := by
  intro pair identities hget
  rw [Std.ExtTreeMap.getElem?_empty] at hget
  cases hget

theorem inScope_iff_mem_getD {scope : ExecutionRecordScope} {key : String × String × String} :
    InScope scope key ↔ key.2.2 ∈ scope[(key.1, key.2.1)]?.getD ∅ := by
  unfold InScope
  cases scope[(key.1, key.2.1)]? with
  | none => simp
  | some identities => simp

@[simp] theorem inScope_insertKey {scope : ExecutionRecordScope}
    {key other : String × String × String} :
    InScope (insertKey scope key) other ↔ other = key ∨ InScope scope other := by
  obtain ⟨source, groupKey, identity⟩ := key
  obtain ⟨source', groupKey', identity'⟩ := other
  rw [inScope_iff_mem_getD, inScope_iff_mem_getD, insertKey, Std.ExtTreeMap.getElem?_insert]
  by_cases hpair : compareScopeKey (source, groupKey) (source', groupKey') = .eq
  · obtain ⟨rfl, rfl⟩ := Prod.mk.injEq _ _ _ _ ▸ Std.LawfulEqCmp.eq_of_compare hpair
    rw [if_pos hpair, Option.getD_some, Std.ExtTreeSet.mem_insert,
      Std.LawfulEqCmp.compare_eq_iff_eq]
    simp [eq_comm]
  · rw [if_neg hpair]
    rw [Std.LawfulEqCmp.compare_eq_iff_eq, Prod.mk.injEq] at hpair
    have hne : (source', groupKey', identity') ≠ (source, groupKey, identity) := by
      rintro heq
      simp only [Prod.mk.injEq] at heq
      exact hpair ⟨heq.1.symm, heq.2.1.symm⟩
    simp [hne]

theorem nonemptyGroups_insertKey {scope : ExecutionRecordScope} (h : NonemptyGroups scope)
    (key : String × String × String) : NonemptyGroups (insertKey scope key) := by
  intro pair identities hget
  rw [insertKey, Std.ExtTreeMap.getElem?_insert] at hget
  split at hget
  · refine ⟨key.2.2, ?_⟩
    rw [← Option.some.inj hget]
    exact Std.ExtTreeSet.mem_insert_self
  · exact h pair identities hget

theorem inScope_foldl_insertKey {keys : List (String × String × String)}
    {scope : ExecutionRecordScope} {key : String × String × String} :
    InScope (keys.foldl insertKey scope) key ↔ key ∈ keys ∨ InScope scope key := by
  induction keys generalizing scope with
  | nil => simp
  | cons first keys ih =>
      rw [List.foldl_cons, ih, inScope_insertKey, List.mem_cons]
      tauto

theorem nonemptyGroups_foldl {scope : ExecutionRecordScope} (h : NonemptyGroups scope)
    (keys : List (String × String × String)) : NonemptyGroups (keys.foldl insertKey scope) := by
  induction keys generalizing scope with
  | nil => exact h
  | cons first keys ih => exact ih (nonemptyGroups_insertKey h first)

/-- **Scopes with the same identities are equal.** -/
theorem scope_ext {scope scope' : ExecutionRecordScope} (h : NonemptyGroups scope)
    (h' : NonemptyGroups scope') (hkeys : ∀ key, InScope scope key ↔ InScope scope' key) :
    scope = scope' := by
  -- a pair of one scope has an identity, so the other scope has the pair too
  have hsub : ∀ {scope scope' : ExecutionRecordScope}, NonemptyGroups scope →
      (∀ key, InScope scope key ↔ InScope scope' key) →
        ∀ (pair : String × String) (identities : Std.ExtTreeSet String compare),
          scope[pair]? = some identities → scope'[pair]? = some identities := by
    intro scope scope' h hkeys pair identities hget
    obtain ⟨identity, hmem⟩ := h pair identities hget
    obtain ⟨identities', hget', -⟩ :=
      (hkeys (pair.1, pair.2, identity)).mp ⟨identities, hget, hmem⟩
    have hsame : identities = identities' := by
      refine Std.ExtTreeSet.ext_mem fun identity => ?_
      have hiff := hkeys (pair.1, pair.2, identity)
      rw [inScope_iff_mem_getD, inScope_iff_mem_getD, hget, hget'] at hiff
      exact hiff
    rw [hget', hsame]
  refine Std.ExtTreeMap.ext_getElem? fun pair => ?_
  cases hget : scope[pair]? with
  | some identities => exact (hsub h hkeys pair identities hget).symm
  | none =>
      cases hget' : scope'[pair]? with
      | none => rfl
      | some identities =>
          rw [hsub h' (fun key => (hkeys key).symm) pair identities hget'] at hget
          cases hget

/-! ### Records that are added -/

/-- The identities are new and distinct, and they are added. -/
structure AddsKeys (scope : ExecutionRecordScope) (keys : List (String × String × String))
    (scope' : ExecutionRecordScope) : Prop where
  nodup : keys.Nodup
  fresh : ∀ key ∈ keys, ¬ InScope scope key
  eq : scope' = keys.foldl insertKey scope

theorem AddsKeys.append {scope scope' scope'' : ExecutionRecordScope}
    {keys keys' : List (String × String × String)} (h : AddsKeys scope keys scope')
    (h' : AddsKeys scope' keys' scope'') : AddsKeys scope (keys ++ keys') scope'' := by
  obtain ⟨hnodup, hfresh, rfl⟩ := h
  obtain ⟨hnodup', hfresh', rfl⟩ := h'
  -- what is new after the first part is new before it, and not in it
  have hnew : ∀ key ∈ keys', key ∉ keys ∧ ¬ InScope scope key := by
    intro key hmem
    have hnot := hfresh' key hmem
    rwa [inScope_foldl_insertKey, not_or] at hnot
  refine ⟨List.nodup_append.mpr ⟨hnodup, hnodup', fun key hmem key' hmem' heq =>
    (hnew key' hmem').1 (heq ▸ hmem)⟩, fun key hmem => ?_, (List.foldl_append ..).symm⟩
  rcases List.mem_append.mp hmem with hmem | hmem
  · exact hfresh key hmem
  · exact (hnew key hmem).2

/-- Identities that are added together can be added one part after the other. -/
theorem AddsKeys.split {scope scope'' : ExecutionRecordScope}
    {keys keys' : List (String × String × String)} (h : AddsKeys scope (keys ++ keys') scope'') :
    AddsKeys scope keys (keys.foldl insertKey scope) ∧
      AddsKeys (keys.foldl insertKey scope) keys' scope'' := by
  obtain ⟨hnodup, hfresh, rfl⟩ := h
  obtain ⟨hnodup, hnodup', hdisjoint⟩ := List.nodup_append.mp hnodup
  refine ⟨⟨hnodup, fun key hmem => hfresh key (List.mem_append_left _ hmem), rfl⟩, hnodup',
    fun key hmem => ?_, List.foldl_append ..⟩
  rw [inScope_foldl_insertKey, not_or]
  exact ⟨fun hmem' => hdisjoint key hmem' key hmem rfl, hfresh key (List.mem_append_right _ hmem)⟩

theorem requiredRecordString_ok_iff {record : Json} {field context value : String} :
    requiredRecordString record field context = .ok value ↔
      trimmedNonempty (record.get field) = some value := by
  unfold requiredRecordString
  cases trimmedNonempty (record.get field) with
  | none => exact iff_of_false (fun h => nomatch h) fun h => nomatch h
  | some other => exact ⟨fun h => Except.ok.inj h ▸ rfl, fun h => Option.some.inj h ▸ rfl⟩

/-- A member of a record is one of an object. -/
theorem recordIdentity_ok_iff {record : Json} {context identity : String} :
    recordIdentity record context = .ok identity ↔
      trimmedNonempty (record.get "record_id") = some identity := by
  unfold recordIdentity
  split
  · exact requiredRecordString_ok_iff
  next hother =>
    refine iff_of_false (fun h => nomatch h) fun h => ?_
    cases record with
    | obj fields => exact hother fields rfl
    | _ => cases h

theorem checkParent_ok_iff {expectedParent : Option (String × String)}
    {source groupKey context : String} :
    checkParent expectedParent source groupKey context = .ok () ↔
      ∀ parent ∈ expectedParent, parent = (source, groupKey) := by
  unfold checkParent
  cases expectedParent with
  | none => exact iff_of_true rfl fun parent h => nomatch h
  | some parent =>
      obtain ⟨parentSource, parentGroup⟩ := parent
      simp only [Option.mem_def, Option.some.injEq, forall_eq', Prod.mk.injEq]
      split
      next hne => exact iff_of_false (fun h => nomatch h) fun h => hne h.1.symm
      next hsource =>
        split
        next hne => exact iff_of_false (fun h => nomatch h) fun h => hne h.2.symm
        next hgroup =>
          exact iff_of_true rfl ⟨(not_not.mp hsource).symm, (not_not.mp hgroup).symm⟩

theorem recordKey_eq_some_iff {record : Json} {key : String × String × String} :
    recordKey record = some key ↔
      trimmedNonempty (record.get "source_identifier") = some key.1 ∧
        trimmedNonempty (record.get "group_key") = some key.2.1 ∧
        trimmedNonempty (record.get "record_id") = some key.2.2 := by
  obtain ⟨source, groupKey, identity⟩ := key
  unfold recordKey
  split
  next source' groupKey' identity' hsource hgroup hidentity =>
    simp [hsource, hgroup, hidentity]
  next hnone =>
    refine iff_of_false (fun h => nomatch h) ?_
    rintro ⟨hsource, hgroup, hidentity⟩
    exact hnone source groupKey identity hsource hgroup hidentity

/-- A record is added when it has an identity that is new and belongs to its parent. -/
theorem addRecordScopeEntry_ok_iff {scope scope' : ExecutionRecordScope} {record : Json}
    {expectedParent : Option (String × String)} {context : String} :
    addRecordScopeEntry scope record expectedParent context = .ok scope' ↔
      ∃ key, recordKey record = some key ∧
        (∀ parent ∈ expectedParent, parent = (key.1, key.2.1)) ∧ AddsKeys scope [key] scope' := by
  unfold addRecordScopeEntry
  simp only [exceptBind_eq_ok_iff, requiredRecordString_ok_iff, recordIdentity_ok_iff]
  constructor
  · rintro ⟨source, hsource, groupKey, hgroup, ⟨⟩, hparent, identity, hidentity, h⟩
    split at h
    · cases h
    next hnew =>
      refine ⟨(source, groupKey, identity),
        recordKey_eq_some_iff.mpr ⟨hsource, hgroup, hidentity⟩, checkParent_ok_iff.mp hparent,
        List.nodup_singleton _, fun key hmem => ?_, (Except.ok.inj h).symm⟩
      obtain rfl := List.mem_singleton.mp hmem
      rwa [inScope_iff_mem_getD, ← Std.ExtTreeSet.contains_iff_mem]
  · rintro ⟨key, hkey, hparent, -, hfresh, rfl⟩
    obtain ⟨hsource, hgroup, hidentity⟩ := recordKey_eq_some_iff.mp hkey
    refine ⟨key.1, hsource, key.2.1, hgroup, (), checkParent_ok_iff.mpr hparent, key.2.2, hidentity,
      ?_⟩
    have hnew := hfresh key List.mem_cons_self
    rw [inScope_iff_mem_getD, ← Std.ExtTreeSet.contains_iff_mem] at hnew
    rw [if_neg hnew]
    rfl

/-- Records are added when all of them have identities, new and distinct ones of their parent. -/
theorem addRecords_ok_iff {scope scope' : ExecutionRecordScope} {records : List Json}
    {expectedParent : Option (String × String)} {context : String} {index : ℕ} :
    addRecords expectedParent context index scope records = .ok scope' ↔
      (∀ record ∈ records, ∃ key, recordKey record = some key ∧
        ∀ parent ∈ expectedParent, parent = (key.1, key.2.1)) ∧
      AddsKeys scope (recordKeys records) scope' := by
  induction records generalizing scope index with
  | nil =>
      refine ⟨fun h => ?_, fun h => ?_⟩
      · refine ⟨fun record h => (List.not_mem_nil h).elim, List.nodup_nil,
          fun key h => (List.not_mem_nil h).elim, (Except.ok.inj h).symm⟩
      · rw [h.2.eq]
        rfl
  | cons record records ih =>
      rw [addRecords]
      simp only [exceptBind_eq_ok_iff, addRecordScopeEntry_ok_iff, ih, List.forall_mem_cons]
      constructor
      -- `middle` is the scope after the first record
      · rintro ⟨middle, ⟨key, hkey, hparent, hadds⟩, hall, hadds'⟩
        exact ⟨⟨⟨key, hkey, hparent⟩, hall⟩, recordKeys_cons hkey ▸ hadds.append hadds'⟩
      · rintro ⟨⟨⟨key, hkey, hparent⟩, hall⟩, hadds⟩
        rw [recordKeys_cons hkey, ← List.singleton_append] at hadds
        obtain ⟨hfirst, hrest⟩ := hadds.split
        exact ⟨_, ⟨key, hkey, hparent, hfirst⟩, hall, hrest⟩

/-! ### When the records are selected -/

/-- The records of a row. -/
def rowRecords (row : ArchiveMetadataRow) : List Json :=
  match row.metadataJson with
  | some (.obj fields) =>
      match Json.get "records" (.obj fields) with
      | some (.arr records) => records
      | _ => []
  | _ => []

/-- The row has records, and all of them are its own. -/
def AdmittedRow (row : ArchiveMetadataRow) : Prop :=
  rowRecords row ≠ [] ∧ ∀ record ∈ rowRecords row, ∃ identity,
    recordKey record = some (row.sourceIdentifier, row.groupKey, identity)

/-- The records are appended, and their identities are added. -/
def AddsRecords (state : List Json × ExecutionRecordScope) (records : List Json)
    (state' : List Json × ExecutionRecordScope) : Prop :=
  state'.1 = state.1 ++ records ∧ AddsKeys state.2 (recordKeys records) state'.2

/-- A row without records is an error, and the records of another are added. -/
theorem selectRow_cases (state : List Json × ExecutionRecordScope) (row : ArchiveMetadataRow) :
    rowRecords row = [] ∧ (∃ error, selectRow state row = .error error) ∨
      rowRecords row ≠ [] ∧ ∃ context, selectRow state row = (do
        let scope ← addRecords (some (row.sourceIdentifier, row.groupKey)) context 0 state.2
          (rowRecords row)
        .ok (state.1 ++ rowRecords row, scope)) := by
  unfold selectRow rowRecords
  cases row.metadataJson with
  | none => exact .inl ⟨rfl, _, rfl⟩
  | some metadata =>
      cases metadata with
      | obj fields =>
          simp only
          cases Json.get "records" (.obj fields) with
          | none => exact .inl ⟨rfl, _, rfl⟩
          | some value =>
              cases value with
              | arr records =>
                  cases records with
                  | nil => exact .inl ⟨rfl, _, rfl⟩
                  | cons record records => exact .inr ⟨List.cons_ne_nil _ _, _, rfl⟩
              | _ => exact .inl ⟨rfl, _, rfl⟩
      | _ => exact .inl ⟨rfl, _, rfl⟩

/-- A row is taken when it is admitted and its identities are new. -/
theorem selectRow_ok_iff {state state' : List Json × ExecutionRecordScope}
    {row : ArchiveMetadataRow} :
    selectRow state row = .ok state' ↔
      AdmittedRow row ∧ AddsRecords state (rowRecords row) state' := by
  rcases selectRow_cases state row with ⟨hnil, error, hrow⟩ | ⟨hne, context, hrow⟩
  · rw [hrow]
    exact iff_of_false (fun h => nomatch h) fun h => h.1.1 hnil
  · rw [hrow, exceptBind_eq_ok_iff]
    simp only [addRecords_ok_iff, Option.mem_def, Option.some.injEq, forall_eq']
    have hown : (∀ record ∈ rowRecords row, ∃ key, recordKey record = some key ∧
          (row.sourceIdentifier, row.groupKey) = (key.1, key.2.1)) ↔
        ∀ record ∈ rowRecords row, ∃ identity,
          recordKey record = some (row.sourceIdentifier, row.groupKey, identity) := by
      refine forall₂_congr fun record _ => ⟨?_, ?_⟩
      · rintro ⟨⟨source, groupKey, identity⟩, hkey, hparent⟩
        simp only [Prod.mk.injEq] at hparent
        exact ⟨identity, by rw [hkey, hparent.1, hparent.2]⟩
      · rintro ⟨identity, hkey⟩
        exact ⟨_, hkey, rfl⟩
    rw [hown]
    constructor
    · rintro ⟨scope, ⟨hall, hadds⟩, h⟩
      rw [← Except.ok.inj h]
      exact ⟨⟨hne, hall⟩, rfl, hadds⟩
    · rintro ⟨⟨-, hall⟩, hrecords, hadds⟩
      exact ⟨state'.2, ⟨hall, hadds⟩, by rw [← hrecords]⟩

/-- Steps that add records one after the other add them together. -/
theorem foldlM_addsRecords {α : Type}
    {step : List Json × ExecutionRecordScope → α →
      Except String (List Json × ExecutionRecordScope)}
    {admitted : α → Prop} {records : α → List Json}
    (hstep : ∀ state state' item,
      step state item = .ok state' ↔ admitted item ∧ AddsRecords state (records item) state')
    {items : List α} {state state' : List Json × ExecutionRecordScope} :
    items.foldlM step state = .ok state' ↔
      (∀ item ∈ items, admitted item) ∧ AddsRecords state (items.flatMap records) state' := by
  induction items generalizing state with
  | nil =>
      constructor
      · intro h
        obtain rfl := Except.ok.inj h
        exact ⟨fun item h => (List.not_mem_nil h).elim, (List.append_nil _).symm, List.nodup_nil,
          fun key h => (List.not_mem_nil h).elim, rfl⟩
      · rintro ⟨-, hrecords, -, -, hscope⟩
        rw [List.flatMap_nil, List.append_nil] at hrecords
        exact congrArg Except.ok (Prod.ext hrecords.symm hscope.symm)
  | cons item items ih =>
      rw [List.foldlM_cons, List.flatMap_cons, List.forall_mem_cons]
      simp only [exceptBind_eq_ok_iff, hstep, ih]
      have hkeys : recordKeys (records item ++ items.flatMap records) =
          recordKeys (records item) ++ recordKeys (items.flatMap records) :=
        List.filterMap_append ..
      unfold AddsRecords
      rw [hkeys]
      constructor
      · rintro ⟨middle, ⟨hitem, hrecords, hadds⟩, hall, hrecords', hadds'⟩
        refine ⟨⟨hitem, hall⟩, ?_, hadds.append hadds'⟩
        rw [hrecords', hrecords, List.append_assoc]
      · rintro ⟨⟨hitem, hall⟩, hrecords, hadds⟩
        obtain ⟨hfirst, hrest⟩ := hadds.split
        exact ⟨(state.1 ++ records item, _), ⟨hitem, rfl, hfirst⟩, hall,
          by rw [hrecords, List.append_assoc], hrest⟩

/-- The source has rows for what is selected of it, and they are admitted. -/
structure CoversSource (rows : List ArchiveMetadataRow) (entry : String × Option (List String)) :
    Prop where
  nonempty : ∃ row ∈ rows, isSelectedRow entry row
  groups : ∀ groups, entry.2 = some groups → ∀ group ∈ groups,
    ∃ row ∈ rows, isSelectedRow entry row ∧ row.groupKey = group
  admitted : ∀ row ∈ rows, isSelectedRow entry row → AdmittedRow row

/-- The records of the rows of a source. -/
def sourceRecords (rows : List ArchiveMetadataRow) (entry : String × Option (List String)) :
    List Json :=
  (rows.filter (isSelectedRow entry)).flatMap rowRecords

/-- A source is taken when it is covered and its identities are new. -/
theorem selectSource_ok_iff {rows : List ArchiveMetadataRow}
    {state state' : List Json × ExecutionRecordScope} {entry : String × Option (List String)} :
    selectSource rows state entry = .ok state' ↔
      CoversSource rows entry ∧ AddsRecords state (sourceRecords rows entry) state' := by
  have hrows : (∀ row ∈ rows.filter (isSelectedRow entry), AdmittedRow row) ↔
      ∀ row ∈ rows, isSelectedRow entry row → AdmittedRow row := by
    simp only [List.mem_filter, and_imp]
  have hempty : (rows.filter (isSelectedRow entry)).isEmpty = true ↔
      ¬ ∃ row ∈ rows, isSelectedRow entry row := by
    rw [List.isEmpty_iff, List.filter_eq_nil_iff]
    push Not
    rfl
  have hfold := @foldlM_addsRecords _ selectRow AdmittedRow rowRecords
    (fun state state' row => selectRow_ok_iff) (rows.filter (isSelectedRow entry)) state state'
  rw [hrows] at hfold
  unfold selectSource
  simp only
  cases hgroups : entry.2 with
  | none =>
      simp only
      split
      next hnone =>
        exact iff_of_false (fun h => nomatch h) fun h => hempty.mp hnone h.1.nonempty
      next hsome =>
        rw [hfold]
        refine ⟨fun h => ⟨⟨not_not.mp fun hnot => hsome (hempty.mpr hnot), ?_, h.1⟩, h.2⟩,
          fun h => ⟨h.1.admitted, h.2⟩⟩
        intro groups hsome
        rw [hgroups] at hsome
        cases hsome
  | some groups =>
      have hmissing : (groups.filter fun group =>
            !((rows.filter (isSelectedRow entry)).map (·.groupKey)).contains group).isEmpty = true ↔
          ∀ group ∈ groups, ∃ row ∈ rows, isSelectedRow entry row ∧ row.groupKey = group := by
        rw [List.isEmpty_iff, List.filter_eq_nil_iff]
        refine forall₂_congr fun group _ => ?_
        simp only [Bool.not_eq_true', Bool.not_eq_false, List.contains_eq_mem, decide_eq_true_eq,
          List.mem_map, List.mem_filter, and_assoc]
      simp only
      split
      next hnone =>
        exact iff_of_false (fun h => nomatch h) fun h => hempty.mp hnone h.1.nonempty
      next hsome =>
        have hexists := not_not.mp fun hnot => hsome (hempty.mpr hnot)
        split
        next hcovered =>
          rw [hfold]
          refine ⟨fun h => ⟨⟨hexists, ?_, h.1⟩, h.2⟩, fun h => ⟨h.1.admitted, h.2⟩⟩
          intro groups' hsome'
          obtain rfl := Option.some.inj (hgroups.symm.trans hsome')
          exact hmissing.mp hcovered
        next huncovered =>
          exact iff_of_false (fun h => nomatch h) fun h =>
            huncovered (hmissing.mpr (h.1.groups groups hgroups))

/-- The rows cover the selection: every source is covered, and no identity occurs twice. -/
structure Covers (selection : BTreeMap (Option (List String))) (rows : List ArchiveMetadataRow) :
    Prop where
  sources : ∀ source groups, selection[source]? = some groups → CoversSource rows (source, groups)
  distinct : (recordKeys (selection.toList.flatMap (sourceRecords rows))).Nodup

/-- The selected records have identities. -/
theorem Covers.keys {selection : BTreeMap (Option (List String))} {rows : List ArchiveMetadataRow}
    (h : Covers selection rows) :
    ∀ record ∈ selection.toList.flatMap (sourceRecords rows),
      ∃ key, recordKey record = some key := by
  intro record hmem
  obtain ⟨entry, hentry, hmem⟩ := List.mem_flatMap.mp hmem
  obtain ⟨row, hrow, hmem⟩ := List.mem_flatMap.mp hmem
  obtain ⟨hrow, hselected⟩ := List.mem_filter.mp hrow
  have hcovers := h.sources entry.1 entry.2
    (Std.ExtTreeMap.mem_toList_iff_getElem?_eq_some.mp hentry)
  obtain ⟨identity, hkey⟩ := (hcovers.admitted row hrow hselected).2 record hmem
  exact ⟨_, hkey⟩

/-- **When the records are selected**, and which ones. -/
theorem selectExecutionArchiveMetadata_ok_iff {selection : BTreeMap (Option (List String))}
    {rows : List ArchiveMetadataRow} {metadata : List Json} {expected : ExecutionRecordScope} :
    selectExecutionArchiveMetadata selection rows = .ok (metadata, expected) ↔
      Covers selection rows ∧ metadata = selection.toList.flatMap (sourceRecords rows) ∧
        expected = (recordKeys metadata).foldl insertKey ∅ := by
  unfold selectExecutionArchiveMetadata
  rw [@foldlM_addsRecords _ (selectSource rows) (CoversSource rows) (sourceRecords rows)
    fun state state' entry => selectSource_ok_iff]
  have hsources : (∀ entry ∈ selection.toList, CoversSource rows entry) ↔
      ∀ source groups, selection[source]? = some groups → CoversSource rows (source, groups) := by
    simp only [Prod.forall, Std.ExtTreeMap.mem_toList_iff_getElem?_eq_some]
  rw [hsources]
  constructor
  · rintro ⟨hall, hmetadata, hnodup, -, hexpected⟩
    obtain rfl : metadata = selection.toList.flatMap (sourceRecords rows) := hmetadata
    exact ⟨⟨hall, hnodup⟩, rfl, hexpected⟩
  · rintro ⟨⟨hall, hnodup⟩, rfl, rfl⟩
    exact ⟨hall, (List.nil_append _).symm, hnodup, fun key _ => not_inScope_empty key, rfl⟩

/-! ### When staged records are accepted -/

/-- Distinct identities are determined by their scope, up to their order. -/
theorem foldl_insertKey_eq_iff {keys keys' : List (String × String × String)} (h : keys.Nodup)
    (h' : keys'.Nodup) :
    keys.foldl insertKey ∅ = keys'.foldl insertKey ∅ ↔ keys.Perm keys' := by
  have hmem : ∀ (keys : List (String × String × String)) key,
      InScope (keys.foldl insertKey ∅) key ↔ key ∈ keys := by
    intro keys key
    rw [inScope_foldl_insertKey]
    exact or_iff_left (not_inScope_empty key)
  rw [List.perm_ext_iff_of_nodup h h']
  constructor
  · intro heq key
    rw [← hmem keys, ← hmem keys', heq]
  · intro hall
    refine scope_ext (nonemptyGroups_foldl nonemptyGroups_empty _)
      (nonemptyGroups_foldl nonemptyGroups_empty _) fun key => ?_
    rw [hmem, hmem]
    exact hall key

/-- Records with identities have these ones. -/
theorem map_recordKey_eq {records : List Json}
    (h : ∀ record ∈ records, ∃ key, recordKey record = some key) :
    records.map recordKey = (recordKeys records).map some := by
  induction records with
  | nil => rfl
  | cons record records ih =>
      obtain ⟨⟨key, hkey⟩, hrest⟩ := List.forall_mem_cons.mp h
      rw [List.map_cons, ih hrest, hkey, recordKeys_cons hkey, List.map_cons]

/-- Records have these identities when each has one and they are these, up to their order. -/
theorem map_recordKey_perm_iff {records : List Json} {keys : List (String × String × String)} :
    (records.map recordKey).Perm (keys.map some) ↔
      (∀ record ∈ records, ∃ key, recordKey record = some key) ∧
        (recordKeys records).Perm keys := by
  constructor
  · intro h
    constructor
    · intro record hmem
      obtain ⟨key, -, hkey⟩ := List.mem_map.mp (h.mem_iff.mp (List.mem_map_of_mem hmem))
      exact ⟨key, hkey.symm⟩
    · have hfiltered := h.filterMap id
      rw [List.filterMap_map, List.filterMap_map] at hfiltered
      simpa [recordKeys, Function.comp_def] using hfiltered
  · rintro ⟨hall, hperm⟩
    rw [map_recordKey_eq hall]
    exact hperm.map some

/-- **When staged records are accepted.** -/
theorem validateStagedRecordScope_ok_iff {records : List Json} {skippedGroups : List String}
    {keys : List (String × String × String)} (h : keys.Nodup) :
    validateStagedRecordScope records skippedGroups (keys.foldl insertKey ∅) = .ok () ↔
      skippedGroups = [] ∧ (records.map recordKey).Perm (keys.map some) := by
  rw [map_recordKey_perm_iff]
  unfold validateStagedRecordScope recordScopeFromRecords
  split
  next hskipped =>
    refine iff_of_false (fun h => nomatch h) fun h => ?_
    rw [h.1] at hskipped
    cases hskipped
  next hskipped =>
    have hnil : skippedGroups = [] := by simpa using hskipped
    rw [exceptBind_eq_ok_iff]
    constructor
    · rintro ⟨actual, hactual, hsame⟩
      obtain ⟨hall, hnodup, -, rfl⟩ := addRecords_ok_iff.mp hactual
      refine ⟨hnil, fun record hmem => ?_, ?_⟩
      · obtain ⟨key, hkey, -⟩ := hall record hmem
        exact ⟨key, hkey⟩
      · split at hsame
        · cases hsame
        next heq => exact (foldl_insertKey_eq_iff hnodup h).mp (not_not.mp heq)
    · rintro ⟨-, hall, hperm⟩
      -- the staged identities are as distinct as the expected ones
      have hnodup := hperm.nodup_iff.mpr h
      refine ⟨(recordKeys records).foldl insertKey ∅, addRecords_ok_iff.mpr ⟨fun record hmem => ?_,
        hnodup, fun key _ => not_inScope_empty key, rfl⟩, ?_⟩
      · obtain ⟨key, hkey⟩ := hall record hmem
        exact ⟨key, hkey, fun parent hparent => nomatch hparent⟩
      · exact if_neg (not_not.mpr ((foldl_insertKey_eq_iff hnodup h).mpr hperm))

/-! ### Which selections are read -/

/-- The groups of a selection: none are named, or distinct ones that are not empty. -/
inductive GroupsEntry : Option Json → Option (List String) → Prop
  | absent : GroupsEntry none none
  | null : GroupsEntry (some .null) none
  | named (raws : List String) (hne : raws ≠ []) (hnonempty : ∀ raw ∈ raws, trim raw ≠ "")
      (hnodup : (raws.map trim).Nodup) :
      GroupsEntry (some (.arr (raws.map .str))) (some ((raws.map trim).insertionSort (· ≤ ·)))

/-- The selection of a source is an object with a source that is not empty. -/
structure SelectionEntry (selection : Json) (entry : String × Option (List String)) : Prop where
  object : ∃ fields, selection = .obj fields
  source : ∃ raw, selection.get "source_identifier" = some (.str raw) ∧ entry.1 = trim raw
  nonempty : entry.1 ≠ ""
  groups : GroupsEntry (selection.get "groups") entry.2

theorem trimmedNonempty_eq_some_iff {value : Option Json} {text : String} :
    trimmedNonempty value = some text ↔
      ∃ raw, value = some (.str raw) ∧ text = trim raw ∧ trim raw ≠ "" := by
  unfold trimmedNonempty
  rw [Option.filter_eq_some_iff, Option.map_eq_some_iff]
  constructor
  · rintro ⟨⟨raw, hraw, rfl⟩, hnonempty⟩
    obtain ⟨value', hvalue, hstr⟩ := Option.bind_eq_some_iff.mp hraw
    refine ⟨raw, ?_, rfl, fun hempty => by simp [hempty] at hnonempty⟩
    cases value' with
    | str other =>
        cases hstr
        exact hvalue
    | _ => cases hstr
  · rintro ⟨raw, rfl, rfl, hne⟩
    refine ⟨⟨raw, rfl, rfl⟩, ?_⟩
    rw [Bool.not_eq_true', ← Bool.not_eq_true, String.isEmpty_iff]
    exact hne

/-- The groups that are named are texts that are not empty, and each of them is new. -/
theorem parseSelectedGroups_ok_iff {index groupIndex : ℕ} {selected groups : List String}
    {values : List Json} :
    parseSelectedGroups index groupIndex selected values = .ok groups ↔
      ∃ raws : List String, values = raws.map .str ∧ (∀ raw ∈ raws, trim raw ≠ "") ∧
        (raws.map trim).Nodup ∧ (∀ raw ∈ raws, trim raw ∉ selected) ∧
        groups = (selected ++ raws.map trim).insertionSort (· ≤ ·) := by
  induction values generalizing groupIndex selected with
  | nil =>
      rw [parseSelectedGroups]
      constructor
      · intro h
        refine ⟨[], rfl, fun raw h => (List.not_mem_nil h).elim, List.nodup_nil,
          fun raw h => (List.not_mem_nil h).elim, ?_⟩
        rw [← Except.ok.inj h, List.map_nil, List.append_nil]
      · rintro ⟨raws, hnil, -, -, -, rfl⟩
        rw [List.map_eq_nil_iff.mp hnil.symm, List.map_nil, List.append_nil]
  | cons value values ih =>
      rw [parseSelectedGroups]
      split
      next hnone =>
        refine iff_of_false (fun h => nomatch h) ?_
        -- a value that is not a text has been refused
        rintro ⟨raws, hraws, hnonempty, -⟩
        obtain ⟨raw, rest, rfl, rfl, -⟩ := List.map_eq_cons_iff.mp hraws.symm
        rw [trimmedNonempty_eq_some_iff.mpr
          ⟨raw, rfl, rfl, hnonempty raw List.mem_cons_self⟩] at hnone
        cases hnone
      next group hgroup =>
        obtain ⟨raw, hvalue, rfl, hne⟩ := trimmedNonempty_eq_some_iff.mp hgroup
        obtain rfl := Option.some.inj hvalue
        split
        next hold =>
          refine iff_of_false (fun h => nomatch h) ?_
          rintro ⟨raws, hraws, -, -, hnew, -⟩
          obtain ⟨raw', rest, rfl, hraw', -⟩ := List.map_eq_cons_iff.mp hraws.symm
          obtain rfl := Json.str.inj hraw'
          exact hnew raw' List.mem_cons_self (by simpa using hold)
        next hnew =>
          rw [List.contains_iff_mem] at hnew
          rw [ih]
          constructor
          · rintro ⟨raws, rfl, hnonempty, hnodup, hfresh, rfl⟩
            refine ⟨raw :: raws, rfl, List.forall_mem_cons.mpr ⟨hne, hnonempty⟩,
              List.nodup_cons.mpr ⟨fun hmem => ?_, hnodup⟩,
              List.forall_mem_cons.mpr ⟨hnew, fun raw' hmem => ?_⟩, by simp⟩
            · obtain ⟨raw', hraw', heq⟩ := List.mem_map.mp hmem
              exact hfresh raw' hraw' (heq ▸ List.mem_append_right _ List.mem_cons_self)
            · exact fun hold => hfresh raw' hmem (List.mem_append_left _ hold)
          · rintro ⟨raws, hraws, hnonempty, hnodup, hfresh, rfl⟩
            obtain ⟨raw', rest, rfl, hraw', rfl⟩ := List.map_eq_cons_iff.mp hraws.symm
            obtain rfl := Json.str.inj hraw'
            rw [List.map_cons, List.nodup_cons] at hnodup
            refine ⟨rest, rfl, fun raw' hmem => hnonempty raw' (List.mem_cons_of_mem _ hmem),
              hnodup.2, fun other hmem hold => ?_, by simp⟩
            rcases List.mem_append.mp hold with hold | heq
            · exact hfresh other (List.mem_cons_of_mem _ hmem) hold
            · rw [List.mem_singleton] at heq
              exact hnodup.1 (heq ▸ List.mem_map_of_mem hmem)

theorem parseGroups_ok_iff {index : ℕ} {value : Option Json} {groups : Option (List String)} :
    parseGroups index value = .ok groups ↔ GroupsEntry value groups := by
  unfold parseGroups
  split
  · refine ⟨fun h => Except.ok.inj h ▸ .absent, fun h => ?_⟩
    cases h
    rfl
  · refine ⟨fun h => Except.ok.inj h ▸ .null, fun h => ?_⟩
    cases h
    rfl
  · refine iff_of_false (fun h => nomatch h) fun h => ?_
    generalize hvalue : some (Json.arr []) = value at h
    cases h with
    | named raws hne =>
        simp only [Option.some.injEq, Json.arr.injEq] at hvalue
        exact hne (List.map_eq_nil_iff.mp hvalue.symm)
    | _ => cases hvalue
  next values hne =>
    constructor
    · intro h
      cases hparsed : parseSelectedGroups index 0 [] values with
      | error error =>
          rw [hparsed] at h
          cases h
      | ok selected =>
          rw [hparsed] at h
          obtain rfl := Except.ok.inj h
          obtain ⟨raws, rfl, hnonempty, hnodup, -, rfl⟩ := parseSelectedGroups_ok_iff.mp hparsed
          exact .named raws (fun hnil => hne (hnil ▸ rfl)) hnonempty hnodup
    · intro h
      generalize hvalue : some (Json.arr values) = value at h
      cases h with
      | named raws _ hnonempty hnodup =>
          simp only [Option.some.injEq, Json.arr.injEq] at hvalue
          rw [parseSelectedGroups_ok_iff.mpr ⟨raws, hvalue, hnonempty, hnodup,
            fun raw _ => List.not_mem_nil, rfl⟩]
          rfl
      | _ => cases hvalue
  next other hnull hempty hall =>
    refine iff_of_false (fun h => nomatch h) fun h => ?_
    cases h with
    | null => exact hnull rfl
    | named raws => exact hall _ rfl

theorem parseSelection_ok_iff {index : ℕ} {selection : Json}
    {entry : String × Option (List String)} :
    parseSelection index selection = .ok entry ↔ SelectionEntry selection entry := by
  unfold parseSelection
  split
  next fields =>
    split
    next hnone =>
      refine iff_of_false (fun h => nomatch h) fun h => ?_
      obtain ⟨raw, hraw, htrim⟩ := h.source
      rw [trimmedNonempty_eq_some_iff.mpr ⟨raw, hraw, rfl, htrim ▸ h.nonempty⟩] at hnone
      cases hnone
    next source hsource =>
      obtain ⟨raw, hraw, rfl, hne⟩ := trimmedNonempty_eq_some_iff.mp hsource
      constructor
      · intro h
        cases hgroups : parseGroups index (Json.get "groups" (.obj fields)) with
        | error error =>
            rw [hgroups] at h
            cases h
        | ok groups =>
            rw [hgroups] at h
            obtain rfl := Except.ok.inj h
            exact ⟨⟨fields, rfl⟩, ⟨raw, hraw, rfl⟩, hne, parseGroups_ok_iff.mp hgroups⟩
      · intro h
        obtain ⟨raw', hraw', hentry⟩ := h.source
        obtain rfl := Json.str.inj (Option.some.inj (hraw'.symm.trans hraw))
        rw [parseGroups_ok_iff.mpr h.groups, ← hentry]
        rfl
  next hother =>
    refine iff_of_false (fun h => nomatch h) fun h => ?_
    obtain ⟨fields, rfl⟩ := h.object
    exact hother fields rfl

/-- The selections are entries of distinct sources that are not there yet. -/
theorem parseSelections_ok_iff {index : ℕ} {sources scope : BTreeMap (Option (List String))}
    {selections : List Json} :
    parseSelections index sources selections = .ok scope ↔
      ∃ entries : List (String × Option (List String)),
        List.Forall₂ SelectionEntry selections entries ∧ (entries.map (·.1)).Nodup ∧
          (∀ entry ∈ entries, entry.1 ∉ sources) ∧
          scope = entries.foldl (fun sources entry => sources.insert entry.1 entry.2) sources := by
  induction selections generalizing index sources with
  | nil =>
      rw [parseSelections]
      constructor
      · intro h
        exact ⟨[], .nil, List.nodup_nil, fun entry h => (List.not_mem_nil h).elim,
          (Except.ok.inj h).symm⟩
      · rintro ⟨entries, hentries, -, -, rfl⟩
        cases hentries
        rfl
  | cons selection selections ih =>
      rw [parseSelections]
      split
      next error herror =>
        refine iff_of_false (fun h => by cases h) ?_
        rintro ⟨entries, hentries, -⟩
        cases hentries with
        | cons hentry _ =>
            rw [parseSelection_ok_iff.mpr hentry] at herror
            cases herror
      next source groups hselection =>
        have hentry := parseSelection_ok_iff.mp hselection
        have hunique : ∀ entry, SelectionEntry selection entry → entry = (source, groups) :=
          fun entry h => Except.ok.inj ((@parseSelection_ok_iff index _ _).mpr h ▸ hselection)
        split
        next hold =>
          refine iff_of_false (fun h => by cases h) ?_
          rintro ⟨entries, hentries, -, hfresh, -⟩
          cases hentries with
          | cons hfirst _ =>
              obtain rfl := hunique _ hfirst
              exact hfresh _ List.mem_cons_self (Std.ExtTreeMap.contains_iff_mem.mp hold)
        next hnew =>
          rw [Std.ExtTreeMap.contains_iff_mem] at hnew
          rw [ih]
          constructor
          · rintro ⟨entries, hentries, hnodup, hfresh, rfl⟩
            refine ⟨(source, groups) :: entries, .cons hentry hentries,
              List.nodup_cons.mpr ⟨fun hmem => ?_, hnodup⟩,
              List.forall_mem_cons.mpr ⟨hnew, fun entry hmem hold => ?_⟩, rfl⟩
            · obtain ⟨entry, hmem, hsame⟩ := List.mem_map.mp hmem
              exact hfresh entry hmem (hsame ▸ Std.ExtTreeMap.mem_insert_self)
            · exact hfresh entry hmem (Std.ExtTreeMap.mem_insert.mpr (.inr hold))
          · rintro ⟨entries, hentries, hnodup, hfresh, rfl⟩
            cases hentries with
            | cons hfirst hrest =>
                obtain rfl := hunique _ hfirst
                rw [List.map_cons, List.nodup_cons] at hnodup
                refine ⟨_, hrest, hnodup.2, fun entry hmem hold => ?_, rfl⟩
                rcases Std.ExtTreeMap.mem_insert.mp hold with hsame | hold
                · rw [Std.LawfulEqCmp.compare_eq_iff_eq] at hsame
                  exact hnodup.1 (List.mem_map.mpr ⟨entry, hmem, hsame.symm⟩)
                · exact hfresh entry (List.mem_cons_of_mem _ hmem) hold

/-- The entries of distinct sources are what the map holds. -/
theorem getElem?_foldl_insert {entries : List (String × Option (List String))}
    (hnodup : (entries.map (·.1)).Nodup) {sources : BTreeMap (Option (List String))}
    (hfresh : ∀ entry ∈ entries, entry.1 ∉ sources) {source : String}
    {groups : Option (List String)} :
    (entries.foldl (fun sources entry => sources.insert entry.1 entry.2) sources)[source]? =
        some groups ↔ (source, groups) ∈ entries ∨ sources[source]? = some groups := by
  induction entries generalizing sources with
  | nil => simp
  | cons entry entries ih =>
      obtain ⟨first, firstGroups⟩ := entry
      rw [List.map_cons, List.nodup_cons] at hnodup
      have hfresh' : ∀ entry ∈ entries, entry.1 ∉ sources.insert first firstGroups := by
        intro entry hmem hold
        rcases Std.ExtTreeMap.mem_insert.mp hold with hsame | hold
        · rw [Std.LawfulEqCmp.compare_eq_iff_eq] at hsame
          exact hnodup.1 (List.mem_map.mpr ⟨entry, hmem, hsame.symm⟩)
        · exact hfresh entry (List.mem_cons_of_mem _ hmem) hold
      rw [List.foldl_cons, ih hnodup.2 hfresh', Std.ExtTreeMap.getElem?_insert, List.mem_cons]
      by_cases hsame : first = source
      · subst hsame
        have hnone : sources[first]? = none :=
          Std.ExtTreeMap.getElem?_eq_none (hfresh _ List.mem_cons_self)
        rw [if_pos Std.ReflCmp.compare_self, hnone]
        simp [eq_comm, or_comm]
      · rw [if_neg fun h => hsame (Std.LawfulEqCmp.eq_of_compare h)]
        simp [Ne.symm hsame]

/-- The stored selection: a list of selections of distinct sources, and these are the sources. -/
def ScopeGrammar (value : Json) (scope : BTreeMap (Option (List String))) : Prop :=
  ∃ (selections : List Json) (entries : List (String × Option (List String))),
    value = .arr selections ∧ selections ≠ [] ∧ List.Forall₂ SelectionEntry selections entries ∧
      (entries.map (·.1)).Nodup ∧
      ∀ source groups, scope[source]? = some groups ↔ (source, groups) ∈ entries

/-- **Which stored selections are read, and as what.** -/
theorem parseExecutionSourceScope_ok_iff {value : Json} {scope : BTreeMap (Option (List String))} :
    parseExecutionSourceScope value = .ok scope ↔ ScopeGrammar value scope := by
  unfold parseExecutionSourceScope
  split
  · refine iff_of_false (fun h => nomatch h) ?_
    rintro ⟨selections, entries, hvalue, hne, -⟩
    exact hne (Json.arr.inj hvalue).symm
  next selections hne =>
    rw [parseSelections_ok_iff]
    constructor
    · rintro ⟨entries, hentries, hnodup, hfresh, rfl⟩
      refine ⟨selections, entries, rfl, fun hnil => hne (hnil ▸ rfl), hentries, hnodup,
        fun source groups => ?_⟩
      rw [getElem?_foldl_insert hnodup hfresh, Std.ExtTreeMap.getElem?_empty]
      exact or_iff_left fun h => nomatch h
    · rintro ⟨selections', entries, hvalue, -, hentries, hnodup, hscope⟩
      obtain rfl := Json.arr.inj hvalue
      have hfresh : ∀ entry ∈ entries, entry.1 ∉ (∅ : BTreeMap (Option (List String))) :=
        fun entry _ => Std.ExtTreeMap.not_mem_empty
      refine ⟨entries, hentries, hnodup, hfresh, Std.ExtTreeMap.ext_getElem? fun source => ?_⟩
      refine Option.ext fun groups => ?_
      rw [hscope, getElem?_foldl_insert hnodup hfresh, Std.ExtTreeMap.getElem?_empty]
      exact (or_iff_left fun h => nomatch h).symm
  next hother =>
    refine iff_of_false (fun h => nomatch h) ?_
    rintro ⟨selections, entries, hvalue, -⟩
    exact hother selections hvalue

/-- What is related to a list has a partner in it. -/
theorem exists_of_mem_forall₂ {α β : Type} {R : α → β → Prop} {xs : List α} {ys : List β}
    (h : List.Forall₂ R xs ys) {y : β} (hy : y ∈ ys) : ∃ x ∈ xs, R x y := by
  induction h with
  | nil => cases hy
  | cons hfirst _ ih =>
      rcases List.mem_cons.mp hy with rfl | hy
      · exact ⟨_, List.mem_cons_self, hfirst⟩
      · obtain ⟨x, hx, hR⟩ := ih hy
        exact ⟨x, List.mem_cons_of_mem _ hx, hR⟩

/-- What is read has no empty and no repeated source or group. -/
theorem ScopeGrammar.distinct {value : Json} {scope : BTreeMap (Option (List String))}
    (h : ScopeGrammar value scope) {source : String} {groups : Option (List String)}
    (hsource : scope[source]? = some groups) :
    source ≠ "" ∧ ∀ selected, groups = some selected →
      selected ≠ [] ∧ selected.Nodup ∧ "" ∉ selected := by
  obtain ⟨selections, entries, -, -, hentries, -, hscope⟩ := h
  have hmem := (hscope source groups).mp hsource
  obtain ⟨selection, -, hentry⟩ := exists_of_mem_forall₂ hentries hmem
  refine ⟨hentry.nonempty, fun selected hselected => ?_⟩
  obtain rfl : groups = some selected := hselected
  have hgroups := hentry.groups
  generalize selection.get "groups" = value at hgroups
  cases hgroups with
  | named raws hne hnonempty hnodup =>
      have hperm := List.perm_insertionSort (· ≤ ·) (raws.map trim)
      refine ⟨fun hnil => ?_, hperm.nodup_iff.mpr hnodup, fun hempty => ?_⟩
      · rw [hnil, List.nil_perm, List.map_eq_nil_iff] at hperm
        exact hne hperm
      · obtain ⟨raw, hraw, htrim⟩ := List.mem_map.mp (hperm.mem_iff.mp hempty)
        exact hnonempty raw hraw htrim

/-- **The records of an execution**: which stored selections are read, when the archive metadata
cover a selection, which records are selected then, and which staged records are accepted for
them. -/
theorem executionScope_spec :
    (∀ value scope, parseExecutionSourceScope value = .ok scope ↔ ScopeGrammar value scope) ∧
    (∀ value scope, parseExecutionSourceScope value = .ok scope →
      ∀ (source : String) groups, scope[source]? = some groups → source ≠ "" ∧
        ∀ selected, groups = some selected → selected ≠ [] ∧ selected.Nodup ∧ "" ∉ selected) ∧
    (∀ selection rows, (∃ result, selectExecutionArchiveMetadata selection rows = .ok result) ↔
      Covers selection rows) ∧
    ∀ selection rows metadata expected,
      selectExecutionArchiveMetadata selection rows = .ok (metadata, expected) →
        metadata = selection.toList.flatMap (sourceRecords rows) ∧
        ∀ records skippedGroups,
          validateStagedRecordScope records skippedGroups expected = .ok () ↔
            skippedGroups = [] ∧ (records.map recordKey).Perm (metadata.map recordKey) := by
  refine ⟨fun value scope => parseExecutionSourceScope_ok_iff, fun value scope h source groups =>
    (parseExecutionSourceScope_ok_iff.mp h).distinct, fun selection rows => ⟨?_, fun h => ?_⟩,
    fun selection rows metadata expected h => ?_⟩
  · rintro ⟨⟨metadata, expected⟩, h⟩
    exact (selectExecutionArchiveMetadata_ok_iff.mp h).1
  · exact ⟨_, selectExecutionArchiveMetadata_ok_iff.mpr ⟨h, rfl, rfl⟩⟩
  · obtain ⟨hcovers, rfl, rfl⟩ := selectExecutionArchiveMetadata_ok_iff.mp h
    refine ⟨rfl, fun records skippedGroups => ?_⟩
    rw [validateStagedRecordScope_ok_iff hcovers.distinct, map_recordKey_eq hcovers.keys]

end Beampipe
