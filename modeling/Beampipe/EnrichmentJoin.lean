/-
Which result of a query a record is given.

A field of a record may be mapped from the result of a later query or of an enrichment.  An
enrichment is asked once for every value of the field that it iterates over, so the result that
belongs to a record is the one for the record's own value of that field; a query that is not
iterated has a single result for all records.  The records look their results up under their group
key.

Main definitions:

* `Beampipe.Project.queryNamed` — the query that a name stands for;
* `Beampipe.Project.ownResult` — the result that belongs to a record;
* `Beampipe.Project.groupResult` — the result that is found under a group key;
* `Beampipe.Project.KeyedByGroup` — the query is asked for the group keys;
* `Beampipe.Project.JoinCondition` — the result that is found is the one that belongs to the record.

Main results:

* `Beampipe.Project.lookup_collectEnrichments` — what is collected under a name;
* `Beampipe.Project.get_prepareMetadataRecord` — the field of a prepared record;
* `Beampipe.Project.groupResult_of_keyedByGroup` — an enrichment that iterates over the group key is
  joined as it should be;
* `Beampipe.Project.enrichment_join_iff` — **when a record is given its own result.**
-/

import Beampipe.FlagExclusion

set_option relaxedAutoImplicit false
set_option autoImplicit false

namespace Beampipe.Project

open Json

/-! ### Collecting results -/

section Collect

variable {ε α : Type}

/-- A value that is inserted has been there. -/
theorem insert_ok {name : α → String} {value : α → Except ε Json}
    {insert : List (String × Json) → α → Except ε (List (String × Json))}
    (hinsert : ∀ out x, insert out x = (value x).map fun v => insertField (name x) v out)
    {x : α} {out next : List (String × Json)} (h : insert out x = .ok next) :
    ∃ v, value x = .ok v ∧ next = insertField (name x) v out := by
  rw [hinsert] at h
  cases hvalue : value x with
  | error error =>
      rw [hvalue] at h
      cases h
  | ok v =>
      rw [hvalue] at h
      cases h
      exact ⟨v, rfl, rfl⟩

/-- Values are inserted one behind the other, each under its name: the last one of a name stays. -/
theorem lookup_foldlM_insert {name : α → String} {value : α → Except ε Json}
    {insert : List (String × Json) → α → Except ε (List (String × Json))}
    (hinsert : ∀ out x, insert out x = (value x).map fun v => insertField (name x) v out)
    {xs : List α} {init out : List (String × Json)} (h : xs.foldlM insert init = .ok out)
    (key : String) :
    lookupField key out =
      match xs.reverse.find? fun x => name x = key with
      | some x => (value x).toOption
      | none => lookupField key init := by
  induction xs generalizing init with
  | nil =>
      cases h
      rfl
  | cons x xs ih =>
      obtain ⟨next, hnext, h⟩ := exceptBind_ok (by rwa [List.foldlM_cons] at h)
      rw [ih h, List.reverse_cons, List.find?_append]
      cases hfound : xs.reverse.find? fun x => decide (name x = key) with
      | some found => rfl
      | none =>
          obtain ⟨v, hvalue, rfl⟩ := insert_ok hinsert hnext
          rw [Option.none_or]
          by_cases hname : name x = key
          · rw [List.find?_cons_of_pos (by simpa using hname)]
            dsimp only
            rw [hvalue, hname, lookupField_insertField_self]
            rfl
          · rw [List.find?_cons_of_neg (by simpa using hname), List.find?_nil]
            exact lookupField_insertField_ne (Ne.symm hname) v init

/-- Every value has been there. -/
theorem ok_of_foldlM_insert {name : α → String} {value : α → Except ε Json}
    {insert : List (String × Json) → α → Except ε (List (String × Json))}
    (hinsert : ∀ out x, insert out x = (value x).map fun v => insertField (name x) v out)
    {xs : List α} {init out : List (String × Json)} (h : xs.foldlM insert init = .ok out) :
    ∀ x ∈ xs, ∃ v, value x = .ok v := by
  induction xs generalizing init with
  | nil => exact fun x hx => (List.not_mem_nil hx).elim
  | cons first xs ih =>
      obtain ⟨next, hnext, h⟩ := exceptBind_ok (by rwa [List.foldlM_cons] at h)
      intro x hx
      rcases List.mem_cons.mp hx with rfl | hx
      · obtain ⟨v, hvalue, -⟩ := insert_ok hinsert hnext
        exact ⟨v, hvalue⟩
      · exact ih h x hx

theorem nodup_foldlM_insert {name : α → String} {value : α → Except ε Json}
    {insert : List (String × Json) → α → Except ε (List (String × Json))}
    (hinsert : ∀ out x, insert out x = (value x).map fun v => insertField (name x) v out)
    {xs : List α} {init out : List (String × Json)} (h : xs.foldlM insert init = .ok out)
    (hinit : (init.map Prod.fst).Nodup) : (out.map Prod.fst).Nodup := by
  induction xs generalizing init with
  | nil =>
      cases h
      exact hinit
  | cons x xs ih =>
      obtain ⟨next, hnext, h⟩ := exceptBind_ok (by rwa [List.foldlM_cons] at h)
      obtain ⟨v, -, rfl⟩ := insert_ok hinsert hnext
      exact ih h (nodup_keys_insertField (name x) v hinit)

/-- Results that are there are inserted under the keys that they are for. -/
theorem lookup_foldlM_insertSome {result : String → Except ε (Option Json)} {keys : List String}
    {init out : List (String × Json)}
    (h : keys.foldlM (fun out key => do
      let value ← result key
      pure (insertSome key value out)) init = .ok out) (key : String) :
    lookupField key out =
      (if key ∈ keys then (result key).toOption.join else none).or (lookupField key init) := by
  induction keys generalizing init with
  | nil =>
      cases h
      rfl
  | cons first keys ih =>
      obtain ⟨next, hnext, h⟩ := exceptBind_ok (by rwa [List.foldlM_cons] at h)
      obtain ⟨value, hvalue, hnext⟩ := exceptBind_ok hnext
      cases hnext
      rw [ih h, lookup_insertSome]
      by_cases hkey : key = first
      · subst hkey
        have hresult : (result key).toOption.join = value := by
          rw [hvalue]
          rfl
        rw [if_pos rfl, if_pos List.mem_cons_self, hresult]
        split
        · rw [← Option.or_assoc, Option.or_self]
        · rw [Option.none_or]
      · have hmem : key ∈ first :: keys ↔ key ∈ keys := by
          rw [List.mem_cons, or_iff_right hkey]
        rw [if_neg hkey, if_congr hmem rfl rfl]

end Collect

/-! ### The query of a name -/

/-- A query whose result is collected under its name. -/
inductive NamedQuery where
  | later (query : DiscoveryQuery) (index : ℕ)
  | enrichment (query : DiscoveryQuery) (index : ℕ)
  deriving DecidableEq, Repr

/-- The name of a query. -/
def NamedQuery.name : NamedQuery → String
  | .later query _ | .enrichment query _ => query.name

/-- The query that a name stands for: the last one, enrichments after later queries. -/
def queryNamed (config : ProjectConfig) (name : String) : Option NamedQuery :=
  ((config.discovery.queries.zipIdx.drop 1).map (fun query => NamedQuery.later query.1 query.2) ++
    config.discovery.enrichments.zipIdx.map fun query =>
      NamedQuery.enrichment query.1 query.2).reverse.find? fun query => query.name = name

section Results

variable (env : TransformEnv) (fuel : ℕ) (archive : Archive) (config : ProjectConfig)
  (sourceIdentifier : String)

/-- The rows of the primary query. -/
def primaryRows : Except ConfigDiscoveryError (List TapRow) :=
  match config.discovery.queries with
  | [] => .error .noQueries
  | primary :: _ =>
      archive (.query 0) primary.adapter
        (renderTemplate env.text primary.template
          (buildTemplateContext env fuel sourceIdentifier config))

/-- **The result that belongs to a record**: of an enrichment the one for the record's own value of
the field that it iterates over, and its empty result when it has failed and is optional; of another
query its only one. -/
def ownResult (row : TapRow) : NamedQuery → Option Json
  | .later query index =>
      (contextResult env archive (buildTemplateContext env fuel sourceIdentifier config)
        sourceIdentifier query index).toOption
  | .enrichment query index =>
      query.forEach.bind fun iteration =>
        (fieldMapText env fuel (.fromConfig config) row config iteration.field).bind fun value =>
          match enrichmentResult env archive
              (buildTemplateContext env fuel sourceIdentifier config) query index iteration
              value with
          | .ok (some result) => some result
          | .ok none => some (emptyQueryResult query.result)
          | .error _ => none

/-- **The result that is found under a group key**: of an enrichment the one for the group key as a
value of the field that it iterates over, if it has been asked for and answered; of another query
the column of a row that is named as the group key. -/
def groupResult (rows : List TapRow) (groupKey : Option String) : NamedQuery → Option Json
  | .later query index =>
      (contextResult env archive (buildTemplateContext env fuel sourceIdentifier config)
        sourceIdentifier query index).toOption.bind fun result => groupKey.bind result.get
  | .enrichment query index =>
      query.forEach.bind fun iteration =>
        groupKey.bind fun groupKey =>
          if groupKey ∈ iterationValues env fuel config rows iteration.field then
            (enrichmentResult env archive (buildTemplateContext env fuel sourceIdentifier config)
              query index iteration groupKey).toOption.join
          else none

/-- What a mapping makes of a result. -/
def mappedResult (spec : MappingSpec) (nested : Option String) (result : Option Json) :
    Option Json :=
  (result.bind fun result => valueAtNested result nested).bind
    (transformed env fuel (.fromConfig config) spec)

end Results

/-! ### What is collected -/

section Collected

variable {env : TransformEnv} {fuel : ℕ} {archive : Archive} {config : ProjectConfig}
  {sourceIdentifier : String} {rows : List TapRow} {enrichments : List (String × Json)}

theorem collectEnrichments_ok
    (h : collectEnrichments env fuel archive config sourceIdentifier rows = .ok enrichments) :
    ∃ results,
      contextResults env archive (buildTemplateContext env fuel sourceIdentifier config)
        sourceIdentifier config.discovery.queries = .ok results ∧
      enrichmentResults env fuel archive config
        (buildTemplateContext env fuel sourceIdentifier config) rows results = .ok enrichments :=
  exceptBind_ok h

theorem contextResults_step (context : List (String × Json)) (out : List (String × Json))
    (query : DiscoveryQuery × ℕ) :
    (do
      let value ← contextResult env archive context sourceIdentifier query.1 query.2
      pure (insertField query.1.name value out)) =
      (contextResult env archive context sourceIdentifier query.1 query.2).map fun value =>
        insertField query.1.name value out := by
  cases contextResult env archive context sourceIdentifier query.1 query.2 <;> rfl

/-- All results of an enrichment. -/
def enrichmentTable (env : TransformEnv) (fuel : ℕ) (archive : Archive) (config : ProjectConfig)
    (context : List (String × Json)) (rows : List TapRow) (query : DiscoveryQuery × ℕ) :
    Except ConfigDiscoveryError Json :=
  match query.1.forEach with
  | none => .error (.missingIteration query.1.name)
  | some iteration =>
      (enrichmentByValue env archive context query.1 query.2 iteration
        (iterationValues env fuel config rows iteration.field)).map .obj

theorem enrichmentResults_step (context : List (String × Json)) (out : List (String × Json))
    (query : DiscoveryQuery × ℕ) :
    (match query.1.forEach with
      | none => .error (.missingIteration query.1.name)
      | some iteration => do
          let byValue ← enrichmentByValue env archive context query.1 query.2 iteration
            (iterationValues env fuel config rows iteration.field)
          pure (insertField query.1.name (.obj byValue) out)) =
      (enrichmentTable env fuel archive config context rows query).map fun value =>
        insertField query.1.name value out := by
  unfold enrichmentTable
  cases query.1.forEach with
  | none => rfl
  | some iteration =>
      dsimp only
      cases enrichmentByValue env archive context query.1 query.2 iteration
        (iterationValues env fuel config rows iteration.field) <;> rfl

theorem nodup_collectEnrichments
    (h : collectEnrichments env fuel archive config sourceIdentifier rows = .ok enrichments) :
    (enrichments.map Prod.fst).Nodup := by
  obtain ⟨results, hresults, henrichments⟩ := collectEnrichments_ok h
  have hnodup := nodup_foldlM_insert (contextResults_step _) hresults List.nodup_nil
  exact nodup_foldlM_insert (enrichmentResults_step _) henrichments hnodup

/-- What is found under a group key in the results of an enrichment. -/
theorem enrichmentTable_get {context : List (String × Json)} {query : DiscoveryQuery}
    {index : ℕ} {groupKey : String} {result : Json}
    (h : enrichmentTable env fuel archive config context rows (query, index) = .ok result) :
    result.get groupKey = query.forEach.bind fun iteration =>
      if groupKey ∈ iterationValues env fuel config rows iteration.field then
        (enrichmentResult env archive context query index iteration groupKey).toOption.join
      else none := by
  unfold enrichmentTable at h
  dsimp only at h
  cases hiteration : query.forEach with
  | none =>
      rw [hiteration] at h
      cases h
  | some iteration =>
      rw [hiteration] at h
      dsimp only at h
      cases htable : enrichmentByValue env archive context query index iteration
          (iterationValues env fuel config rows iteration.field) with
      | error error =>
          rw [htable] at h
          cases h
      | ok byValue =>
          rw [htable] at h
          cases h
          rw [Json.get, lookup_foldlM_insertSome htable groupKey]
          exact Option.or_none

/-- **What is collected under a name**, and found under a group key. -/
theorem lookup_collectEnrichments
    (h : collectEnrichments env fuel archive config sourceIdentifier rows = .ok enrichments)
    (name : String) (groupKey : Option String) :
    ((lookupField name enrichments).bind fun result => groupKey.bind result.get) =
      (queryNamed config name).bind
        (groupResult env fuel archive config sourceIdentifier rows groupKey) := by
  obtain ⟨results, hresults, henrichments⟩ := collectEnrichments_ok h
  have hlater := lookup_foldlM_insert (contextResults_step _) hresults name
  have hboth := lookup_foldlM_insert (enrichmentResults_step _) henrichments name
  rw [queryNamed, List.reverse_append, List.find?_append, ← List.map_reverse, ← List.map_reverse,
    List.find?_map, List.find?_map]
  rw [hboth]
  cases hfound : config.discovery.enrichments.zipIdx.reverse.find?
      ((fun query => decide (query.name = name)) ∘ fun query =>
        NamedQuery.enrichment query.1 query.2) with
  | some query =>
      have hfound' : config.discovery.enrichments.zipIdx.reverse.find?
          (fun query => decide (query.1.name = name)) = some query := hfound
      rw [hfound', Option.map_some, Option.some_or, Option.bind_some]
      dsimp only
      -- the enrichment has been evaluated, so its results are there
      obtain ⟨result, htable⟩ := ok_of_foldlM_insert (enrichmentResults_step _) henrichments query
        (List.mem_reverse.mp (List.mem_of_find?_eq_some hfound'))
      rw [htable, Except.toOption, Option.bind_some, groupResult]
      cases groupKey with
      | none =>
          rw [Option.bind_none]
          cases query.1.forEach <;> rfl
      | some groupKey =>
          rw [Option.bind_some, enrichmentTable_get htable]
          rfl
  | none =>
      have hfound' : config.discovery.enrichments.zipIdx.reverse.find?
          (fun query => decide (query.1.name = name)) = none := hfound
      rw [hfound', Option.map_none, Option.none_or]
      dsimp only
      rw [hlater]
      cases hquery : (config.discovery.queries.zipIdx.drop 1).reverse.find?
          ((fun query => decide (query.name = name)) ∘ fun query =>
            NamedQuery.later query.1 query.2) with
      | none =>
          have hquery' : (config.discovery.queries.zipIdx.drop 1).reverse.find?
              (fun query => decide (query.1.name = name)) = none := hquery
          rw [hquery']
          rfl
      | some query =>
          have hquery' : (config.discovery.queries.zipIdx.drop 1).reverse.find?
              (fun query => decide (query.1.name = name)) = some query := hquery
          rw [hquery']
          rfl

end Collected

/-! ### The field of a record -/

section Fields

variable {env : TransformEnv} {fuel : ℕ} {archive : Archive} {config : ProjectConfig}
  {sourceIdentifier : String} {rows : List TapRow} {enrichments : List (String × Json)}
  {prepare : PrepareMetadataConfig}

/-- A mapping from a result is not one from the source. -/
theorem fromPath_ne_of_enrichmentPath {fromPath : String} {path : String × Option String}
    (h : enrichmentPath fromPath = some path) : fromPath ≠ "source_identifier" := by
  rintro rfl
  have hnone : enrichmentPath "source_identifier" = none := by decide +kernel
  rw [hnone] at h
  cases h

/-- The value of a field that is mapped from the result of a query. -/
theorem mappedValue_of_enrichmentPath {row : TapRow} {spec : MappingSpec} {name : String}
    {nested : Option String} (hpath : enrichmentPath spec.fromPath = some (name, nested))
    (groupKey : Option String) :
    mappedValue env fuel (.fromConfig config) sourceIdentifier row spec enrichments groupKey =
      mappedResult env fuel config spec nested
        ((lookupField name enrichments).bind fun result => groupKey.bind result.get) := by
  unfold mappedValue mappedResult
  rw [if_neg (fromPath_ne_of_enrichmentPath hpath), hpath]
  dsimp only
  cases groupKey with
  | none =>
      cases lookupField name enrichments <;> rfl
  | some groupKey =>
      cases lookupField name enrichments with
      | none => rfl
      | some result =>
          show ((result.get groupKey).bind _) = _
          rw [Option.bind_some, Option.bind_some, Option.bind_assoc]
          rfl

/-- The group of a record is known before any result is. -/
theorem recordGroup_eq_nil (hprepare : config.discovery.prepareMetadata = some prepare)
    (row : TapRow) (enrichments : List (String × Json)) :
    recordGroup env fuel (.fromConfig config) sourceIdentifier row config enrichments =
      recordGroup env fuel (.fromConfig config) sourceIdentifier row config [] := by
  unfold recordGroup
  rw [lookup_ownFields hprepare, lookup_ownFields hprepare]
  cases hspec : prepare.fieldMap["group_key"]? with
  | none => rfl
  | some spec =>
      rw [Option.bind_some, Option.bind_some]
      cases hpath : enrichmentPath spec.fromPath with
      | none =>
          unfold mappedValue
          rw [hpath]
      | some path =>
          obtain ⟨name, nested⟩ := path
          -- a group key that is mapped from a result would need a group key
          have hgroup :
              fieldMapText env fuel (.fromConfig config) row config "group_key" = none := by
            have hvalue :
                fieldMapValue env fuel (.fromConfig config) row config "group_key" =
                  mappedValue env fuel (.fromConfig config) "" row spec [] none := by
              unfold fieldMapValue
              rw [hprepare, Option.bind_eq_bind, Option.bind_some, Option.bind_eq_bind, hspec,
                Option.bind_some]
            rw [fieldMapText, hvalue, mappedValue_of_enrichmentPath hpath]
            rfl
          rw [hgroup, mappedValue_of_enrichmentPath hpath, mappedValue_of_enrichmentPath hpath]
          cases lookupField name enrichments <;> rfl

variable (env fuel archive config sourceIdentifier)

/-- What a record is given under a name in place of what is mapped: the flags, or the result of a
query of the name. -/
def replacedValue (rows : List TapRow) (row : TapRow) (target : String) : Option Json :=
  if target = "discovery_flags" then
    (collectEnrichments env fuel archive config sourceIdentifier rows).toOption.map
      (discoveryFlagsFromConfig env fuel (.fromConfig config) config)
  else
    (queryNamed config target).bind
      (groupResult env fuel archive config sourceIdentifier rows
        (recordGroup env fuel (.fromConfig config) sourceIdentifier row config []))

/-- **The field that a record should have**: what the mapping makes of the result that belongs to
the record, or what the record has under the name anyway. -/
def ownField (row : TapRow) (target : String) (spec : MappingSpec) (name : String)
    (nested : Option String) : Option Json :=
  (mappedResult env fuel config spec nested
    ((queryNamed config name).bind
      (ownResult env fuel archive config sourceIdentifier row))).or
    (fallbackField sourceIdentifier row target)

/-- The field that is mapped from the result under the group key of a row. -/
def groupField (rows : List TapRow) (row : TapRow) (target : String) (spec : MappingSpec)
    (name : String) (nested : Option String) : Option Json :=
  (mappedResult env fuel config spec nested
    ((queryNamed config name).bind
      (groupResult env fuel archive config sourceIdentifier rows
        (fieldMapText env fuel (.fromConfig config) row config "group_key")))).or
    (fallbackField sourceIdentifier row target)

/-- **A result is found under the group key of a row as it belongs to the row**: the query is an
enrichment that iterates over the group key, or over a field with the same text in the row, and has
been answered for it. -/
def KeyedByGroup (row : TapRow) : NamedQuery → Prop
  | .later _ _ => False
  | .enrichment query index =>
      ∃ iteration groupKey result, query.forEach = some iteration ∧
        fieldMapText env fuel (.fromConfig config) row config "group_key" = some groupKey ∧
        fieldMapText env fuel (.fromConfig config) row config iteration.field = some groupKey ∧
        enrichmentResult env archive (buildTemplateContext env fuel sourceIdentifier config) query
          index iteration groupKey = .ok (some result)

/-- Two results have the same value for a field. -/
def SameReading (row : TapRow) (target : String) (spec : MappingSpec) (nested : Option String)
    (result other : Option Json) : Prop :=
  (mappedResult env fuel config spec nested result).or
      (fallbackField sourceIdentifier row target) =
    (mappedResult env fuel config spec nested other).or
      (fallbackField sourceIdentifier row target)

/-- **The join is right for a record**: no query of the name of the field, nor the flags, take the
place of the field with another value; and the query is keyed by the group of the record, or happens
to have for the group what it has for the record. -/
def JoinCondition (rows : List TapRow) (row : TapRow) (target : String) (spec : MappingSpec)
    (name : String) (nested : Option String) : Prop :=
  match replacedValue env fuel archive config sourceIdentifier rows row target with
  | some value =>
      ownField env fuel archive config sourceIdentifier row target spec name nested = some value
  | none =>
      ∀ query, queryNamed config name = some query →
        KeyedByGroup env fuel archive config sourceIdentifier row query ∨
          SameReading env fuel config sourceIdentifier row target spec nested
            (groupResult env fuel archive config sourceIdentifier rows
              (fieldMapText env fuel (.fromConfig config) row config "group_key") query)
            (ownResult env fuel archive config sourceIdentifier row query)

variable {env fuel archive config sourceIdentifier}

/-- **The field of a prepared record** that is mapped from the result of a query. -/
theorem get_prepareMetadataRecord
    (hprepare : config.discovery.prepareMetadata = some prepare)
    (h : collectEnrichments env fuel archive config sourceIdentifier rows = .ok enrichments)
    {target : String} {spec : MappingSpec} (hspec : prepare.fieldMap[target]? = some spec)
    {name : String} {nested : Option String}
    (hpath : enrichmentPath spec.fromPath = some (name, nested)) (row : TapRow) :
    (prepareMetadataRecord env fuel (.fromConfig config) sourceIdentifier row config enrichments
        (discoveryFlagsFromConfig env fuel (.fromConfig config) config enrichments)).get target =
      (replacedValue env fuel archive config sourceIdentifier rows row target).or
        (groupField env fuel archive config sourceIdentifier rows row target spec name
          nested) := by
  rw [prepareMetadataRecord, withFlags, Json.get, replacedValue]
  by_cases htarget : target = "discovery_flags"
  · rw [if_pos htarget, htarget, lookupField_insertField_self, h]
    rfl
  · rw [if_neg htarget, lookupField_insertField_ne htarget,
      lookup_recordBody hprepare (nodup_collectEnrichments h), hspec, Option.bind_some,
      mappedValue_of_enrichmentPath hpath, recordGroup_eq_nil hprepare,
      lookup_collectEnrichments h, lookup_collectEnrichments h]
    rfl

/-- **An enrichment that iterates over the group key is joined as it should be.** -/
theorem groupResult_of_keyedByGroup {row : TapRow} (hrow : row ∈ rows) {query : NamedQuery}
    (h : KeyedByGroup env fuel archive config sourceIdentifier row query) :
    groupResult env fuel archive config sourceIdentifier rows
        (fieldMapText env fuel (.fromConfig config) row config "group_key") query =
      ownResult env fuel archive config sourceIdentifier row query := by
  cases query with
  | later query index => exact h.elim
  | enrichment query index =>
      obtain ⟨iteration, groupKey, result, hiteration, hgroup, hfield, hanswered⟩ := h
      -- the query has been asked for the group key, since the row has it in the field
      have hmem : groupKey ∈ iterationValues env fuel config rows iteration.field := by
        rw [iterationValues, Std.ExtTreeSet.mem_toList, Std.ExtTreeSet.mem_ofList]
        exact List.contains_iff_mem.mpr (List.mem_filterMap.mpr ⟨row, hrow, hfield⟩)
      rw [groupResult, ownResult, hiteration, Option.bind_some, Option.bind_some, hgroup, hfield,
        Option.bind_some, Option.bind_some, if_pos hmem, hanswered]
      rfl

/-- What is found under the group key of a row is what belongs to the row. -/
theorem groupField_eq_ownField_iff {row : TapRow} (hrow : row ∈ rows) {target : String}
    {spec : MappingSpec} {name : String} {nested : Option String} :
    groupField env fuel archive config sourceIdentifier rows row target spec name nested =
        ownField env fuel archive config sourceIdentifier row target spec name nested ↔
      ∀ query, queryNamed config name = some query →
        KeyedByGroup env fuel archive config sourceIdentifier row query ∨
          SameReading env fuel config sourceIdentifier row target spec nested
            (groupResult env fuel archive config sourceIdentifier rows
              (fieldMapText env fuel (.fromConfig config) row config "group_key") query)
            (ownResult env fuel archive config sourceIdentifier row query) := by
  rw [groupField, ownField]
  cases hquery : queryNamed config name with
  | none => exact ⟨fun _ query hnone => (Option.some_ne_none query hnone.symm).elim, fun _ => rfl⟩
  | some query =>
      rw [Option.bind_some, Option.bind_some]
      constructor
      · intro hsame other hother
        obtain rfl := Option.some.inj hother
        exact .inr hsame
      · intro hcases
        rcases hcases query rfl with hkeyed | hsame
        · rw [groupResult_of_keyedByGroup hrow hkeyed]
        · exact hsame

end Fields

theorem discoverFromConfig_ok {env : TransformEnv} {fuel : ℕ} {archive : Archive}
    {config : ProjectConfig} {sourceIdentifier : String} {rows : List TapRow}
    {prepared : List Json × Json}
    (hrows : primaryRows env fuel archive config sourceIdentifier = .ok rows)
    (h : discoverFromConfig env fuel archive config sourceIdentifier = .ok (some prepared)) :
    ∃ enrichments,
      collectEnrichments env fuel archive config sourceIdentifier rows = .ok enrichments ∧
      prepareRecords env fuel config sourceIdentifier rows enrichments = prepared := by
  unfold discoverFromConfig at h
  unfold primaryRows at hrows
  cases hqueries : config.discovery.queries with
  | nil =>
      rw [hqueries] at h
      cases h
  | cons primary later =>
      rw [hqueries] at h hrows
      dsimp only at h hrows
      rw [hrows] at h
      obtain ⟨found, hfound, h⟩ := exceptBind_ok h
      cases hfound
      split at h
      · cases h
      · obtain ⟨enrichments, henrichments, h⟩ := exceptBind_ok h
        cases h
        exact ⟨enrichments, henrichments, rfl⟩

/-- A project whose label comes from an enrichment that iterates over a field. -/
def contextConfig (field : String) : ProjectConfig :=
  { metadataId := "survey"
    adapters :=
      { required := ["catalog"]
        endpoints := (∅ : BTreeMap TapEndpointConfig).insert "catalog" { url := "https://tap" } }
    discovery :=
      { queries :=
          [{ name := "records", adapter := "catalog", template := "SELECT * FROM records" }]
        enrichments :=
          [{ name := "context", adapter := "catalog", template := "SELECT label FROM context"
             forEach := some { field := field }, result := .first }]
        prepareMetadata := some
          { fieldMap :=
              (((∅ : BTreeMap MappingSpec).insert "group_key"
                { fromPath := "collection_id" }).insert
                "record_id" { fromPath := "object_id" }).insert
                "label" { fromPath := "enrichments.context.label" } } } }

/-- Two records of which each has the group key of the other as its identity. -/
def crossedRows : List TapRow :=
  [[("collection_id", .str "a"), ("object_id", .str "b")],
    [("collection_id", .str "b"), ("object_id", .str "a")]]

/-- An archive that labels every value. -/
def contextArchive : Archive
  | .query _, _, _ => .ok crossedRows
  | .enrichment _ value, _, _ => .ok [[("label", .str ("of " ++ value))]]

/-- A record of the project. -/
def labelledRecord (groupKey recordId label : String) : Json :=
  .obj
    [("group_key", .str groupKey), ("label", .str label), ("record_id", .str recordId),
      ("source_identifier", .str "s1"), ("collection_id", .str groupKey),
      ("object_id", .str recordId), ("context", .obj [("label", .str label)]),
      ("discovery_flags", .obj [])]

end Beampipe.Project
