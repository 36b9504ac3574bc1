/-
From the answers of the archive to prepared records.

A project asks its primary query once for each source.  Its later queries are asked once, its
enrichments once for every value that a prepared field takes in the primary rows.  The results are
collected under the names of the queries; then every primary row is mapped to a prepared record,
whose fields come from the row, from the source or from the results, and flags of the whole
discovery are put beside them.

The answers of the archive are a parameter, one for each question of a discovery.

Main definitions:

* `Beampipe.Project.valueAtPath`, `Beampipe.Project.mappedValue` — the value of a mapped field;
* `Beampipe.Project.prepareMetadataRecord`, `Beampipe.Project.discoveryFlagsFromConfig` — a prepared
  record and the flags;
* `Beampipe.Project.renderTemplate`, `Beampipe.Project.buildTemplateContext` — the text of a query;
* `Beampipe.Project.queryResultValue` — the result of a query, by its policy;
* `Beampipe.Project.discoverFromConfig` — the discovery of a source.

Main results:

* `Beampipe.Project.lookup_recordBody` — **where a field of a record comes from**.
-/

import Beampipe.RunRecord
import Beampipe.SlurmJobs
import Beampipe.Transforms

set_option relaxedAutoImplicit false
set_option autoImplicit false

namespace Beampipe.Project

/-! ### Rows and paths -/

/-- `TapRow`. -/
abbrev TapRow : Type := List (String × Json)

/-- `row_value`: the column of the name, or of the name in lower or upper case. -/
def rowValue (row : TapRow) (key : String) : Option Json :=
  (Json.lookupField key row <|> Json.lookupField (toAsciiLowercase key) row) <|>
    Json.lookupField (toAsciiUppercase key) row

/-- `str::parse::<usize>`. -/
def parseUsize (text : String) : Option ℕ :=
  let digits :=
    match text.toList with
    | '+' :: rest => rest
    | chars => chars
  let value : ℕ := digits.foldl (fun n c => 10 * n + (c.toNat - 48)) 0
  if digits.isEmpty || !digits.all isAsciiDigit || decide (18446744073709551616 ≤ value) then none
  else some value

/-- The value behind the parts of a path: indices of arrays and keys of objects. -/
def valueAtParts : List String → Json → Option Json
  | [], value => some value
  | part :: parts, .arr items =>
      (parseUsize part).bind fun index => items[index]?.bind (valueAtParts parts)
  | part :: parts, .obj fields => (Json.lookupField part fields).bind (valueAtParts parts)
  | _ :: _, _ => none

/-- `value_at_path`. -/
def valueAtPath (value : Json) (path : String) : Option Json :=
  valueAtParts ((splitDots path.toList).map String.ofList) value

/-- `strip_prefix`. -/
def stripStart (start text : String) : Option String :=
  if start.toList.isPrefixOf text.toList then
    some (String.ofList (text.toList.drop start.toList.length))
  else none

/-- The query and the path that a mapping takes from an enrichment. -/
def enrichmentPath (fromPath : String) : Option (String × Option String) :=
  (stripStart "enrichments." fromPath <|> stripStart "enrichment." fromPath).map fun path =>
    match splitOnce '.' path with
    | some (name, nested) => (name, some nested)
    | none => (path, none)

/-- The value at a path, or the value itself. -/
def valueAtNested (value : Json) : Option String → Option Json
  | some path => valueAtPath value path
  | none => some value

/-! ### Mapped fields -/

section Mapping

variable (env : TransformEnv) (fuel : ℕ) (registry : TransformRegistry)

/-- The value behind the transform of a mapping, if it has any. -/
def transformed (spec : MappingSpec) (value : Json) : Option Json :=
  if spec.transform.isSome then (applyFieldTransform env registry fuel spec value).getD none
  else some value

/-- `mapped_value`. -/
def mappedValue (sourceIdentifier : String) (row : TapRow) (spec : MappingSpec)
    (enrichments : List (String × Json)) (groupKey : Option String) : Option Json :=
  if spec.fromPath = "source_identifier" then
    transformed env fuel registry spec (.str sourceIdentifier)
  else
    match enrichmentPath spec.fromPath with
    | some (name, nested) => do
        let groupKey ← groupKey
        let enrichment ← Json.lookupField name enrichments
        let value ← enrichment.get groupKey
        let value ← valueAtNested value nested
        transformed env fuel registry spec value
    | none => (rowValue row spec.fromPath).bind (transformed env fuel registry spec)

/-- `field_map_value`. -/
def fieldMapValue (row : TapRow) (config : ProjectConfig) (target : String) : Option Json := do
  let prepare ← config.discovery.prepareMetadata
  let spec ← prepare.fieldMap[target]?
  mappedValue env fuel registry "" row spec [] none

/-- The text of a field that is mapped from the row alone. -/
def fieldMapText (row : TapRow) (config : ProjectConfig) (target : String) : Option String :=
  (fieldMapValue env fuel registry row config target).bind (valueString env.text)

/-- `Entry::or_insert`. -/
def orInsert (key : String) (value : Json) (out : List (String × Json)) : List (String × Json) :=
  if (Json.lookupField key out).isSome then out else Json.insertField key value out

/-- The mapped fields of a record. -/
def mappedFields (sourceIdentifier : String) (row : TapRow) (config : ProjectConfig)
    (enrichments : List (String × Json)) : List (String × Json) :=
  let groupKey := fieldMapText env fuel registry row config "group_key"
  match config.discovery.prepareMetadata with
  | some prepare =>
      prepare.fieldMap.toList.foldl (fun out field =>
        insertSome field.1
          (mappedValue env fuel registry sourceIdentifier row field.2 enrichments groupKey) out) []
  | none => []

/-- The results for the group of a record are put into it, under the names of their queries. -/
def insertEnrichments (enrichments : List (String × Json)) (out : List (String × Json)) :
    List (String × Json) :=
  match (Json.lookupField "group_key" out).bind (valueString env.text) with
  | some groupKey =>
      enrichments.foldl (fun out enrichment =>
        insertSome enrichment.1 (enrichment.2.get groupKey) out) out
  | none => out

/-- `prepare_metadata_record`, without the flags. -/
def recordBody (sourceIdentifier : String) (row : TapRow) (config : ProjectConfig)
    (enrichments : List (String × Json)) : List (String × Json) :=
  let out := mappedFields env fuel registry sourceIdentifier row config enrichments
  let out := orInsert "source_identifier" (.str sourceIdentifier) out
  let out := row.foldl (fun out column => orInsert (toAsciiLowercase column.1) column.2 out) out
  insertEnrichments env enrichments out

/-- The flags are put into a record. -/
def withFlags (discoveryFlags : Json) (body : List (String × Json)) : Json :=
  .obj (Json.insertField "discovery_flags" discoveryFlags body)

/-- `prepare_metadata_record`. -/
def prepareMetadataRecord (sourceIdentifier : String) (row : TapRow) (config : ProjectConfig)
    (enrichments : List (String × Json)) (discoveryFlags : Json) : Json :=
  withFlags discoveryFlags (recordBody env fuel registry sourceIdentifier row config enrichments)

/-- `discovery_flags_from_config`. -/
def discoveryFlagsFromConfig (config : ProjectConfig) (enrichments : List (String × Json)) : Json :=
  match config.discovery.prepareMetadata with
  | some prepare =>
      .obj (prepare.discoveryFlags.toList.foldl (fun out flag =>
        let rawValue :=
          (valueAtPath (.obj [("enrichments", .obj enrichments)]) flag.2.fromPath).getD .null
        let value :=
          if flag.2.transform.isSome then
            ((applyFieldTransform env registry fuel flag.2 rawValue).getD none).getD rawValue
          else rawValue
        Json.insertField flag.1 value out) [])
  | none => .obj []

end Mapping

/-! ### Queries -/

/-- `escape_adql_string`. -/
def escapeAdqlString (value : String) : String := replaceText value "'" "''"

/-- `render_template`. -/
def renderTemplate (t : ScalarText) (template : String) (context : List (String × Json)) : String :=
  context.foldl (fun rendered var =>
    replaceText rendered ("\x7b" ++ var.1 ++ "\x7d")
      (escapeAdqlString ((valueString t var.2).getD ""))) template

/-- `build_template_context`. -/
def buildTemplateContext (env : TransformEnv) (fuel : ℕ) (sourceIdentifier : String)
    (config : ProjectConfig) : List (String × Json) :=
  match config.sourceIdentity with
  | some identity =>
      let registry := TransformRegistry.fromConfig config
      let context := identity.templateVars.toList.foldl (fun context var =>
        let base : Json :=
          match var.2.fromValue with
          | some other => if other = "canonical" then .str sourceIdentifier else .str other
          | none => .str sourceIdentifier
        let value :=
          match var.2.transform with
          | some name => ((registry.applyNamed env fuel name base).getD none).getD base
          | none => base
        Json.insertField var.1 value context) []
      orInsert "source_identifier" (.str sourceIdentifier) context
  | none =>
      Json.insertField "source_name" (.str sourceIdentifier)
        (Json.insertField "source_identifier" (.str sourceIdentifier) [])

/-- `ConfigDiscoveryError`; an adapter has failed with a time-out or with a message. -/
inductive ConfigDiscoveryError where
  | noQueries
  | missingAdapter (adapter : String)
  | timeout
  | adapter (message : String)
  | queryCardinality (query context expected : String) (count : ℕ)
  | missingIteration (query : String)
  deriving DecidableEq, Repr

/-- `empty_query_result`. -/
def emptyQueryResult : QueryResultPolicy → Json
  | .many => .arr []
  | .first | .exactlyOne => .null

/-- `query_result_value`. -/
def queryResultValue (query : DiscoveryQuery) (rows : List TapRow) (context : String) :
    Except ConfigDiscoveryError Json :=
  match query.result, rows with
  | .many, rows =>
      if query.required ∧ rows = [] then
        .error (.queryCardinality query.name context "at least one row" 0)
      else .ok (.arr (rows.map .obj))
  | .first, row :: _ => .ok (.obj row)
  | .first, [] =>
      if query.required then .error (.queryCardinality query.name context "at least one row" 0)
      else .ok .null
  | .exactlyOne, [row] => .ok (.obj row)
  | .exactlyOne, rows =>
      .error (.queryCardinality query.name context "exactly one row" rows.length)

/-- A question of a discovery: a query of `queries` by its position, or an enrichment by its
position and the value that it is asked for. -/
inductive QueryCall where
  | query (index : ℕ)
  | enrichment (index : ℕ) (value : String)
  deriving DecidableEq, Repr

/-- `query_configured`: what is answered to a question, whose adapter and text it is given. -/
abbrev Archive : Type :=
  QueryCall → (adapter adql : String) → Except ConfigDiscoveryError (List TapRow)

section Discover

variable (env : TransformEnv) (fuel : ℕ) (archive : Archive)

/-- A later query of a source. -/
def contextResult (context : List (String × Json)) (sourceIdentifier : String)
    (query : DiscoveryQuery) (index : ℕ) : Except ConfigDiscoveryError Json :=
  match archive (.query index) query.adapter (renderTemplate env.text query.template context) with
  | .ok rows => queryResultValue query rows sourceIdentifier
  | .error error => if query.required then .error error else .ok (emptyQueryResult query.result)

/-- The results of the later queries, under their names. -/
def contextResults (context : List (String × Json)) (sourceIdentifier : String)
    (queries : List DiscoveryQuery) : Except ConfigDiscoveryError (List (String × Json)) :=
  (queries.zipIdx.drop 1).foldlM (fun enrichments query => do
    let value ← contextResult env archive context sourceIdentifier query.1 query.2
    pure (Json.insertField query.1.name value enrichments)) []

/-- `iteration_values`: the values that a prepared field takes in the rows, each once. -/
def iterationValues (config : ProjectConfig) (rows : List TapRow) (field : String) : List String :=
  (Std.ExtTreeSet.ofList (rows.filterMap fun row =>
    fieldMapText env fuel (.fromConfig config) row config field) compare).toList

/-- What an enrichment is answered for a value: no result when it has failed and is optional. -/
def enrichmentResult (context : List (String × Json)) (query : DiscoveryQuery) (index : ℕ)
    (iteration : QueryIteration) (value : String) : Except ConfigDiscoveryError (Option Json) :=
  let variableName := iteration.variableName.getD iteration.field
  let rendered :=
    renderTemplate env.text query.template (Json.insertField variableName (.str value) context)
  match archive (.enrichment index value) query.adapter rendered with
  | .ok rows =>
      (queryResultValue query rows (iteration.field ++ "=" ++ value)).map some
  | .error error => if query.required then .error error else .ok none

/-- The results of an enrichment, under the values that it is asked for. -/
def enrichmentByValue (context : List (String × Json)) (query : DiscoveryQuery) (index : ℕ)
    (iteration : QueryIteration) (values : List String) :
    Except ConfigDiscoveryError (List (String × Json)) :=
  values.foldlM (fun byValue value => do
    let result ← enrichmentResult env archive context query index iteration value
    pure (insertSome value result byValue)) []

/-- The results of the enrichments join those of the later queries. -/
def enrichmentResults (config : ProjectConfig) (context : List (String × Json))
    (rows : List TapRow) (enrichments : List (String × Json)) :
    Except ConfigDiscoveryError (List (String × Json)) :=
  config.discovery.enrichments.zipIdx.foldlM (fun enrichments query =>
    match query.1.forEach with
    | none => .error (.missingIteration query.1.name)
    | some iteration => do
        let byValue ← enrichmentByValue env archive context query.1 query.2 iteration
          (iterationValues env fuel config rows iteration.field)
        pure (Json.insertField query.1.name (.obj byValue) enrichments)) enrichments

/-- All results of a discovery, under the names of the queries. -/
def collectEnrichments (config : ProjectConfig) (sourceIdentifier : String) (rows : List TapRow) :
    Except ConfigDiscoveryError (List (String × Json)) := do
  let context := buildTemplateContext env fuel sourceIdentifier config
  let enrichments ← contextResults env archive context sourceIdentifier config.discovery.queries
  enrichmentResults env fuel archive config context rows enrichments

/-- The records and the flags that are prepared from the rows. -/
def prepareRecords (config : ProjectConfig) (sourceIdentifier : String) (rows : List TapRow)
    (enrichments : List (String × Json)) : List Json × Json :=
  let registry := TransformRegistry.fromConfig config
  let discoveryFlags := discoveryFlagsFromConfig env fuel registry config enrichments
  (rows.map fun row =>
    prepareMetadataRecord env fuel registry sourceIdentifier row config enrichments discoveryFlags,
    discoveryFlags)

/-- `discover_from_config`. -/
def discoverFromConfig (config : ProjectConfig) (sourceIdentifier : String) :
    Except ConfigDiscoveryError (Option (List Json × Json)) :=
  match config.discovery.queries with
  | [] => .error .noQueries
  | primary :: _ => do
      let context := buildTemplateContext env fuel sourceIdentifier config
      let rows ← archive (.query 0) primary.adapter
        (renderTemplate env.text primary.template context)
      if rows = [] then pure none
      else
        let enrichments ← collectEnrichments env fuel archive config sourceIdentifier rows
        pure (some (prepareRecords env fuel config sourceIdentifier rows enrichments))

end Discover

/-! ### Where a field comes from -/

theorem lookup_orInsert (key other : String) (value : Json) (out : List (String × Json)) :
    Json.lookupField other (orInsert key value out) =
      (Json.lookupField other out).or (if other = key then some value else none) := by
  unfold orInsert
  by_cases hkey : other = key
  · subst hkey
    cases hlookup : Json.lookupField other out with
    | none => rw [if_neg (by simp), Json.lookupField_insertField_self, if_pos rfl, Option.none_or]
    | some present =>
        rw [if_pos rfl, Option.some_or]
        exact hlookup
  · rw [if_neg hkey, Option.or_none]
    split
    · rfl
    · exact Json.lookupField_insertField_ne hkey value out

/-- Values that are there are inserted under keys of which none is there twice. -/
theorem lookup_foldl_insertSome {α : Type} (f : String × α → Option Json)
    {entries : List (String × α)} (hkeys : (entries.map Prod.fst).Nodup) (key : String)
    (out : List (String × Json)) :
    Json.lookupField key (entries.foldl (fun out entry => insertSome entry.1 (f entry) out) out) =
      ((entries.find? fun entry => entry.1 = key).bind f).or (Json.lookupField key out) := by
  induction entries generalizing out with
  | nil => rfl
  | cons entry entries ih =>
      rw [List.map_cons, List.nodup_cons] at hkeys
      rw [List.foldl_cons, ih hkeys.2, lookup_insertSome]
      by_cases hkey : entry.1 = key
      · have hrest : entries.find? (fun entry => decide (entry.1 = key)) = none := by
          rw [List.find?_eq_none]
          intro other hother hequal
          refine hkeys.1 (List.mem_map.mpr ⟨other, hother, ?_⟩)
          rw [hkey]
          exact of_decide_eq_true hequal
        rw [hrest, List.find?_cons_of_pos (by simpa using hkey), if_pos hkey.symm, hkey]
        rfl
      · rw [List.find?_cons_of_neg (by simpa using hkey), if_neg (Ne.symm hkey)]

/-- The entries of a map have every key once. -/
theorem nodup_keys_toList {α : Type} (map : BTreeMap α) : (map.toList.map Prod.fst).Nodup := by
  rw [List.nodup_iff_pairwise_ne, List.pairwise_map]
  refine map.distinct_keys_toList.imp fun hne heq => hne ?_
  rw [heq]
  exact Std.ReflCmp.compare_self

theorem find?_toList {α : Type} (map : BTreeMap α) (key : String) :
    map.toList.find? (fun entry => decide (entry.1 = key)) =
      (map[key]?).map fun value => (key, value) := by
  cases hvalue : map[key]? with
  | none =>
      rw [Option.map_none, List.find?_eq_none]
      rintro ⟨other, value⟩ hmem hequal
      have hkey : other = key := of_decide_eq_true hequal
      rw [Std.ExtTreeMap.mem_toList_iff_getElem?_eq_some, hkey, hvalue] at hmem
      cases hmem
  | some value =>
      cases hfound : map.toList.find? (fun entry => decide (entry.1 = key)) with
      | none =>
          rw [List.find?_eq_none] at hfound
          exact absurd (decide_eq_true rfl) (hfound (key, value)
            (Std.ExtTreeMap.mem_toList_iff_getElem?_eq_some.mpr hvalue))
      | some entry =>
          obtain ⟨other, found⟩ := entry
          have hkey : other = key := by simpa using List.find?_some hfound
          subst hkey
          have hmem := List.mem_of_find?_eq_some hfound
          rw [Std.ExtTreeMap.mem_toList_iff_getElem?_eq_some, hvalue, Option.some.injEq] at hmem
          rw [hmem, Option.map_some]

theorem lookup_foldl_orInsert (row : TapRow) (key : String) (out : List (String × Json)) :
    Json.lookupField key
        (row.foldl (fun out column => orInsert (toAsciiLowercase column.1) column.2 out) out) =
      (Json.lookupField key out).or
        ((row.find? fun column => toAsciiLowercase column.1 = key).map Prod.snd) := by
  induction row generalizing out with
  | nil => rw [List.foldl_nil, List.find?_nil, Option.map_none, Option.or_none]
  | cons column row ih =>
      rw [List.foldl_cons, ih, lookup_orInsert, Option.or_assoc]
      by_cases hkey : key = toAsciiLowercase column.1
      · rw [if_pos hkey, List.find?_cons_of_pos (by simpa using hkey.symm)]
        rfl
      · rw [if_neg hkey, List.find?_cons_of_neg (by simpa using Ne.symm hkey), Option.none_or]

section Fields

variable {env : TransformEnv} {fuel : ℕ} {registry : TransformRegistry}
  {sourceIdentifier : String} {row : TapRow} {config : ProjectConfig}
  {enrichments : List (String × Json)}

/-- What a record has under a name that no mapping gives a value for. -/
def fallbackField (sourceIdentifier : String) (row : TapRow) (target : String) : Option Json :=
  (if target = "source_identifier" then some (.str sourceIdentifier) else none).or
    ((row.find? fun column => toAsciiLowercase column.1 = target).map Prod.snd)

theorem lookup_mappedFields {prepare : PrepareMetadataConfig}
    (hprepare : config.discovery.prepareMetadata = some prepare) (target : String) :
    Json.lookupField target
        (mappedFields env fuel registry sourceIdentifier row config enrichments) =
      prepare.fieldMap[target]?.bind fun spec =>
        mappedValue env fuel registry sourceIdentifier row spec enrichments
          (fieldMapText env fuel registry row config "group_key") := by
  unfold mappedFields
  rw [hprepare]
  dsimp only
  rw [lookup_foldl_insertSome
    (fun field => mappedValue env fuel registry sourceIdentifier row field.2 enrichments
      (fieldMapText env fuel registry row config "group_key"))
    (nodup_keys_toList _), find?_toList]
  cases prepare.fieldMap[target]? with
  | none => rfl
  | some spec => exact Option.or_none

/-- The fields of a record before the results of its group are put into it. -/
theorem lookup_ownFields {prepare : PrepareMetadataConfig}
    (hprepare : config.discovery.prepareMetadata = some prepare) (target : String) :
    Json.lookupField target
        (row.foldl (fun out column => orInsert (toAsciiLowercase column.1) column.2 out)
          (orInsert "source_identifier" (.str sourceIdentifier)
            (mappedFields env fuel registry sourceIdentifier row config enrichments))) =
      (prepare.fieldMap[target]?.bind fun spec =>
        mappedValue env fuel registry sourceIdentifier row spec enrichments
          (fieldMapText env fuel registry row config "group_key")).or
        (fallbackField sourceIdentifier row target) := by
  rw [lookup_foldl_orInsert, lookup_orInsert, lookup_mappedFields hprepare, Option.or_assoc]
  rfl

theorem find?_eq_lookup (key : String) (fields : List (String × Json)) :
    (fields.find? fun field => decide (field.1 = key)).map Prod.snd =
      Json.lookupField key fields := by
  induction fields with
  | nil => rfl
  | cons field fields ih =>
      obtain ⟨k, v⟩ := field
      rw [Json.lookupField]
      by_cases hkey : k = key
      · rw [List.find?_cons_of_pos (by simpa using hkey), if_pos hkey]
        rfl
      · rw [List.find?_cons_of_neg (by simpa using hkey), if_neg hkey, ih]

/-- The group whose results are put into a record. -/
def recordGroup (env : TransformEnv) (fuel : ℕ) (registry : TransformRegistry)
    (sourceIdentifier : String) (row : TapRow) (config : ProjectConfig)
    (enrichments : List (String × Json)) : Option String :=
  (Json.lookupField "group_key"
    (row.foldl (fun out column => orInsert (toAsciiLowercase column.1) column.2 out)
      (orInsert "source_identifier" (.str sourceIdentifier)
        (mappedFields env fuel registry sourceIdentifier row config enrichments)))).bind
    (valueString env.text)

/-- **Where a field of a record comes from**: the result of a query of its name for the group of the
record, else the mapping, else the source or the column of its name. -/
theorem lookup_recordBody {prepare : PrepareMetadataConfig}
    (hprepare : config.discovery.prepareMetadata = some prepare)
    (hnames : (enrichments.map Prod.fst).Nodup) (target : String) :
    Json.lookupField target
        (recordBody env fuel registry sourceIdentifier row config enrichments) =
      ((Json.lookupField target enrichments).bind fun result =>
        (recordGroup env fuel registry sourceIdentifier row config enrichments).bind
          result.get).or
        ((prepare.fieldMap[target]?.bind fun spec =>
          mappedValue env fuel registry sourceIdentifier row spec enrichments
            (fieldMapText env fuel registry row config "group_key")).or
          (fallbackField sourceIdentifier row target)) := by
  unfold recordBody insertEnrichments recordGroup
  dsimp only
  rw [← lookup_ownFields hprepare target]
  generalize row.foldl (fun out column => orInsert (toAsciiLowercase column.1) column.2 out)
    (orInsert "source_identifier" (.str sourceIdentifier)
      (mappedFields env fuel registry sourceIdentifier row config enrichments)) = out
  cases (Json.lookupField "group_key" out).bind (valueString env.text) with
  | none =>
      cases Json.lookupField target enrichments <;> rfl
  | some groupKey =>
      dsimp only
      rw [lookup_foldl_insertSome (fun enrichment => enrichment.2.get groupKey) hnames,
        ← find?_eq_lookup target enrichments]
      cases enrichments.find? fun entry => decide (entry.1 = target) <;> rfl

end Fields

end Beampipe.Project
