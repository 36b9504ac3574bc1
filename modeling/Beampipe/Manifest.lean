/-
The manifest of an execution.

The records that were admitted are grouped twice, first by the fields that the project names, then
by their group key, and each group is written down under output names that the project chooses.
Records of group `0` and of the groups that staging has given up are left out.  A project without a
manifest configuration has its records grouped by source and group key instead.

A `Slot` is a place of the manifest with the record that was put there; what the manifest shows
there may have been rendered from a template.

Main definitions:

* `Beampipe.ManifestConfig`, `Beampipe.renderManifestTemplate` — the configuration, its templates;
* `Beampipe.buildManifestFromConfig` — the manifest, by configuration or without one;
* `Beampipe.ManifestCovers` — the admitted records are in the manifest, each once and in its place.

Main results:

* `Beampipe.slotsOf_perm` — the slots of a grouping, one for each entry;
* `Beampipe.readSlots_manifest` — what is read at the slots of a manifest;
* `Beampipe.slots_perm_own_iff` — the slots are the own slots of the records exactly when records
  that are grouped together are of one source;
* `Beampipe.manifest_covers_iff` — **the manifest covers the admitted records exactly when the
  output names do not collide, records that are grouped together are of one source, and, without a
  configuration, no group is left out**.
-/

import Beampipe.Grouping
import Beampipe.StableJson
import Beampipe.Text

set_option relaxedAutoImplicit false
set_option autoImplicit false

namespace Beampipe

/-! ### Texts of values -/

namespace Json

mutual

/-- `Value::to_string`. -/
def display (t : ScalarText) : Json → List Char
  | .null => "null".toList
  | .bool b => if b then "true".toList else "false".toList
  | .num n => t.number n
  | .str s => t.string s
  | .arr items => '[' :: joinComma (displayItems t items) ++ [']']
  | .obj fields => '{' :: joinComma ((displayFields t fields).map (memberText t)) ++ ['}']

/-- The texts of the items of an array. -/
def displayItems (t : ScalarText) : List Json → List (List Char)
  | [] => []
  | item :: items => display t item :: displayItems t items

/-- The members of an object with the texts of their values. -/
def displayFields (t : ScalarText) : List (String × Json) → List (String × List Char)
  | [] => []
  | (key, value) :: fields => (key, display t value) :: displayFields t fields

end

/-- The items of an array. -/
def asItems : Json → List Json
  | .arr items => items
  | _ => []

end Json

/-- `value_key`. -/
def valueKey (t : ScalarText) : Json → String
  | .str s => s
  | other => String.ofList (other.display t)

/-! ### Templates -/

/-- What stands between a `{` and a `}` at the ends of a text. -/
def bracedKey (s : String) : Option String :=
  if s.toList.head? = some '{' ∧ s.toList.getLast? = some '}' then
    some (String.ofList s.toList.tail.dropLast)
  else none

/-- `str::strip_prefix`. -/
def stripLeading (leading text : String) : Option String :=
  if leading.toList.isPrefixOf text.toList then
    some (String.ofList (text.toList.drop leading.toList.length))
  else none

/-- `value_at_path`. -/
def valueAtPath (value : Json) (path : String) : Option Json :=
  (splitDots path.toList).foldl
    (fun current part => current.bind fun json => json.get (String.ofList part)) (some value)

/-- The value that a key of a template stands for. -/
def templateValue (record context : Json) (key : String) : Option Json :=
  match stripLeading "flags." key with
  | some flagKey =>
      ((record.get "discovery_flags").bind fun flags => flags.get flagKey) <|>
        record.get flagKey <|> context.get flagKey
  | none =>
      match stripLeading "staging." key with
      | some stagingKey => valueAtPath context stagingKey
      | none => record.get key

mutual

/-- `render_template_value`. -/
def renderTemplateValue (record context : Json) : Json → Json
  | .str s =>
      match bracedKey s with
      | some key => (templateValue record context key).getD (.str s)
      | none => .str s
  | .arr items => .arr (renderTemplateItems record context items)
  | .obj fields => .obj (renderTemplateFields record context fields)
  | .null => .null
  | .bool b => .bool b
  | .num n => .num n

/-- The items of an array. -/
def renderTemplateItems (record context : Json) : List Json → List Json
  | [] => []
  | item :: items =>
      renderTemplateValue record context item :: renderTemplateItems record context items

/-- `render_template_object`. -/
def renderTemplateFields (record context : Json) : List (String × Json) → List (String × Json)
  | [] => []
  | (key, value) :: fields =>
      (key, renderTemplateValue record context value) :: renderTemplateFields record context fields

end

/-- `render_manifest_template`. -/
def renderManifestTemplate (template : BTreeMap Json) (record context : Json) : Json :=
  .obj (template.toList.map fun field => (field.1, renderTemplateValue record context field.2))

/-! ### The configuration -/

/-- `ManifestConfig`, as far as the manifest depends on it. -/
structure ManifestConfig where
  groupBy : List String := []
  sourceTemplate : BTreeMap Json := ∅
  recordTemplate : Option (BTreeMap Json) := none
  expandFrom : Option String := none
  groupsOutputField : String := "groups"
  groupKeyOutputField : String := "group_key"
  recordsOutputField : String := "records"

/-- The names of the output fields. -/
structure OutputFields where
  groups : String
  groupKey : String
  records : String

/-- The names that a configuration chooses. -/
def ManifestConfig.outputFields (cfg : ManifestConfig) : OutputFields :=
  ⟨cfg.groupsOutputField, cfg.groupKeyOutputField, cfg.recordsOutputField⟩

/-- The names without a configuration. -/
def defaultOutputFields : OutputFields := ⟨"groups", "group_key", "records"⟩

/-- The diagnostics of a manifest configuration: path, code and message of each error. -/
def ManifestConfig.diagnostics (cfg : ManifestConfig) : List (String × String × String) :=
  ([("groups_output_field", cfg.groupsOutputField),
      ("group_key_output_field", cfg.groupKeyOutputField),
      ("records_output_field", cfg.recordsOutputField)].filter fun field =>
        isBlank field.2).map fun field =>
    ("manifest." ++ field.1, "required", "manifest." ++ field.1 ++ " must be non-empty")

/-- `OrchestrationError`, as far as building a manifest fails. -/
inductive ManifestError where
  | noUsableRecords
  | backend (message : String)
  deriving DecidableEq, Repr

/-! ### Grouping -/

/-- A record with the keys of the two groups that it is pushed to. -/
structure RecordEntry where
  outer : String
  inner : String
  record : Json

/-- `BTreeMap<String, Vec<Value>>`: the groups of a source. -/
abbrev GroupMap : Type := BTreeMap (List Json)

/-- `grouped.entry(outer).or_default().entry(inner).or_default().push(record)`. -/
def pushEntry (grouped : BTreeMap GroupMap) (entry : RecordEntry) : BTreeMap GroupMap :=
  grouped.alter entry.outer fun groups =>
    some ((groups.getD ∅).alter entry.inner fun records => some (records.getD [] ++ [entry.record]))

/-- All entries pushed. -/
def grouped (entries : List RecordEntry) : BTreeMap GroupMap := entries.foldl pushEntry ∅

/-- The character between the parts of a group key. -/
def nulText : String := String.singleton (Char.ofNat 0)

/-- The key of a record in the outer grouping. -/
def groupByKey (t : ScalarText) (cfg : ManifestConfig) (record : Json) : String :=
  String.intercalate nulText <| cfg.groupBy.map fun key =>
    (((record.get key).map (valueKey t)).filter fun value => !value.isEmpty).getD "unknown"

/-- The key of a record in the inner grouping, `0` if there is none. -/
def collectionKey (t : ScalarText) (record : Json) : String :=
  (((record.get "group_key").map (valueKey t)).filter fun value =>
    value != "0" && !value.isEmpty).getD "0"

/-- The record is left out. -/
def leavesOut (t : ScalarText) (excludeGroups : List String) (record : Json) : Bool :=
  collectionKey t record == "0" || excludeGroups.contains (collectionKey t record)

/-- The first loop of `build_from_manifest_config`. -/
def groupRecords (t : ScalarText) (cfg : ManifestConfig) (metadata : List Json)
    (excludeGroups : List String) : BTreeMap GroupMap :=
  metadata.foldl
    (fun grouped record =>
      if leavesOut t excludeGroups record then grouped
      else pushEntry grouped ⟨groupByKey t cfg record, collectionKey t record, record⟩) ∅

/-! ### Writing the groups down -/

/-- The identifier that the first record of a source gives to it. -/
def sourceLabel (groups : GroupMap) : String :=
  let first := ((groups.toList.flatMap fun group => group.2).head?).getD .null
  ((first.get "source_identifier").bind Json.asStr).getD "unknown"

/-- A record as it is shown. -/
def renderRecord (cfg : ManifestConfig) (staging record : Json) : Json :=
  if cfg.expandFrom = some "metadata" then
    match cfg.recordTemplate with
    | some template => renderManifestTemplate template record staging
    | none => record
  else record

/-- A group under the names of the configuration. -/
def collectionJson (cfg : ManifestConfig) (staging : Json) (group : String × List Json) : Json :=
  .obj (Json.insertField cfg.recordsOutputField (.arr (group.2.map (renderRecord cfg staging)))
    [(cfg.groupKeyOutputField, .str group.1)])

/-- A source under the names of the configuration. -/
def sourceJson (cfg : ManifestConfig) (staging : Json) (groups : GroupMap) : Json :=
  let first := ((groups.toList.flatMap fun group => group.2).head?).getD .null
  Json.insert cfg.groupsOutputField (.arr (groups.toList.map (collectionJson cfg staging)))
    (Json.insert "source_identifier" (.str (sourceLabel groups))
      (renderManifestTemplate cfg.sourceTemplate first staging))

/-- The manifest with these sources, unless no record is in it. -/
def manifestOf (grouped : BTreeMap GroupMap) (sources : List Json) : Except ManifestError Json :=
  let records := grouped.toList.flatMap fun source => source.2.toList.flatMap fun group => group.2
  if records.length = 0 then .error .noUsableRecords
  else .ok (.obj [("inputs", .obj []), ("sources", .arr sources)])

/-- `build_from_manifest_config`. -/
def buildFromManifestConfig (t : ScalarText) (cfg : ManifestConfig) (metadata : List Json)
    (excludeGroups : List String) (staging : Json) : Except ManifestError Json :=
  let grouped := groupRecords t cfg metadata excludeGroups
  manifestOf grouped (grouped.toList.map fun source => sourceJson cfg staging source.2)

/-! ### Without a configuration -/

/-- The keys of a record, which must all be there; its id is made a text. -/
def genericEntry (t : ScalarText) (record : Json) : Except ManifestError RecordEntry :=
  match ((record.get "source_identifier").bind Json.asStr).filter fun value => !isBlank value with
  | none => .error (.backend "metadata record requires a non-empty source_identifier")
  | some source =>
      match ((record.get "group_key").map (valueKey t)).filter fun value => !isBlank value with
      | none => .error (.backend "metadata record requires a non-empty group_key")
      | some groupKey =>
          match ((record.get "record_id").map (valueKey t)).filter fun value => !isBlank value with
          | none => .error (.backend "metadata record requires a non-empty record_id")
          | some recordId =>
              .ok ⟨source, groupKey, Json.insert "record_id" (.str recordId) record⟩

/-- A source under the default names. -/
def genericSourceJson (source : String × GroupMap) : Json :=
  .obj [("source_identifier", .str source.1),
    ("groups", .arr (source.2.toList.map fun group =>
      .obj [("group_key", .str group.1), ("records", .arr group.2)]))]

/-- `build_generic_manifest`. -/
def buildGenericManifest (t : ScalarText) (metadata : List Json) : Except ManifestError Json := do
  let entries ← metadata.mapM (genericEntry t)
  manifestOf (grouped entries) ((grouped entries).toList.map genericSourceJson)

/-- `build_manifest_from_config_with_staging`. -/
def buildManifestFromConfig (t : ScalarText) (manifest : Option ManifestConfig)
    (metadata : List Json) (excludeGroups : List String) (staging : Json) :
    Except ManifestError Json :=
  match manifest with
  | some cfg => buildFromManifestConfig t cfg metadata excludeGroups staging
  | none => buildGenericManifest t metadata

/-! ### Slots -/

/-- A place of the manifest with the record that was put there. -/
structure Slot where
  source : String
  group : String
  record : Json

/-- The slots of one source. -/
def groupSlots (label : String) (groups : GroupMap) : List Slot :=
  groups.toList.flatMap fun group => group.2.map fun record => ⟨label, group.1, record⟩

/-- The slots of all sources. -/
def slotsOf (grouped : BTreeMap GroupMap) : List Slot :=
  grouped.toList.flatMap fun source => groupSlots (sourceLabel source.2) source.2

/-- The groups of the entries of one source. -/
def groupsOf (entries : List RecordEntry) : GroupMap :=
  Grouping.accumulate RecordEntry.inner (fun records entry => records ++ [entry.record]) []
    entries

theorem grouped_eq (entries : List RecordEntry) : grouped entries =
    Grouping.accumulate RecordEntry.outer
      (Grouping.addTo RecordEntry.inner (fun records entry => records ++ [entry.record]) []) ∅
      entries := rfl

/-- What the groups of a source show of their records. -/
theorem flatMap_groupsOf_perm {γ : Type} (f : String → Json → γ) (entries : List RecordEntry) :
    ((groupsOf entries).toList.flatMap fun group => group.2.map (f group.1)).Perm
      (entries.map fun entry => f entry.inner entry.record) := by
  refine Grouping.flatMap_toList_perm (fun key (records : List Json) => records.map (f key)) _
    fun key _ => ?_
  rw [Grouping.foldl_listed, List.nil_append, List.map_map]
  refine List.Perm.of_eq (List.map_congr_left fun entry hentry => ?_)
  rw [← (Grouping.mem_ofKey.mp hentry).2]
  rfl

/-- The identifier that the entries of a source are given. -/
def labelOf (entries : List RecordEntry) (outer : String) : String :=
  sourceLabel (groupsOf (Grouping.ofKey RecordEntry.outer outer entries))

/-- **The slots of a grouping**: one for each entry, with the label of its source. -/
theorem slotsOf_perm (entries : List RecordEntry) :
    (slotsOf (grouped entries)).Perm
      (entries.map fun entry => ⟨labelOf entries entry.outer, entry.inner, entry.record⟩) := by
  rw [slotsOf, grouped_eq]
  refine Grouping.flatMap_toList_perm (fun _ groups => groupSlots (sourceLabel groups) groups) _
    fun outer _ => ?_
  have hslots := flatMap_groupsOf_perm (fun group record => Slot.mk (labelOf entries outer) group
    record) (Grouping.ofKey RecordEntry.outer outer entries)
  refine hslots.trans (List.Perm.of_eq (List.map_congr_left fun entry hentry => ?_))
  rw [(Grouping.mem_ofKey.mp hentry).2]

/-- The records of a grouping, whatever their slots. -/
theorem records_perm (entries : List RecordEntry) :
    ((groupsOf entries).toList.flatMap fun group => group.2).Perm
      (entries.map RecordEntry.record) := by
  have hrecords := flatMap_groupsOf_perm (fun _ record => record) entries
  simpa using hrecords

/-- The label of a source comes from one of its records. -/
theorem exists_labelOf {entries : List RecordEntry} {entry : RecordEntry} (h : entry ∈ entries) :
    ∃ first ∈ entries, first.outer = entry.outer ∧ labelOf entries entry.outer =
      ((first.record.get "source_identifier").bind Json.asStr).getD "unknown" := by
  have hperm := records_perm (Grouping.ofKey RecordEntry.outer entry.outer entries)
  have hmem : entry ∈ Grouping.ofKey RecordEntry.outer entry.outer entries :=
    Grouping.mem_ofKey.mpr ⟨h, rfl⟩
  unfold labelOf sourceLabel
  dsimp only
  generalize ((groupsOf (Grouping.ofKey RecordEntry.outer entry.outer entries)).toList.flatMap
    fun group => group.2) = records at hperm ⊢
  cases records with
  | nil =>
      have hnil : Grouping.ofKey RecordEntry.outer entry.outer entries = [] := by
        simpa using hperm.symm.eq_nil
      rw [hnil] at hmem
      cases hmem
  | cons record records =>
      obtain ⟨first, hfirst, hrecord⟩ := List.mem_map.mp (hperm.subset List.mem_cons_self)
      obtain ⟨hfirst, houter⟩ := Grouping.mem_ofKey.mp hfirst
      refine ⟨first, hfirst, houter, ?_⟩
      rw [hrecord]
      rfl

/-! ### Reading a manifest -/

/-- What a manifest shows at one place. -/
structure ReadSlot where
  source : Option String
  group : Option String
  record : Json

/-- A manifest read under the names of its fields. -/
def readSlots (fields : OutputFields) (manifest : Json) : List ReadSlot :=
  (((manifest.get "sources").getD .null).asItems).flatMap fun source =>
    (((source.get fields.groups).getD .null).asItems).flatMap fun group =>
      (((group.get fields.records).getD .null).asItems).map fun record =>
        ⟨(source.get "source_identifier").bind Json.asStr,
          (group.get fields.groupKey).bind Json.asStr, record⟩

/-- The identifier that is read of a source. -/
def shownSource (fields : OutputFields) (label : String) : Option String :=
  if fields.groups = "source_identifier" then none else some label

/-- The key that is read of a group. -/
def shownGroup (fields : OutputFields) (group : String) : Option String :=
  if fields.groupKey = fields.records then none else some group

theorem shownSource_eq_some_iff (fields : OutputFields) (label : String) :
    shownSource fields label = some label ↔ fields.groups ≠ "source_identifier" := by
  unfold shownSource
  split
  next hsame => simp [hsame]
  next hdistinct => simp [hdistinct]

theorem shownGroup_eq_some_iff (fields : OutputFields) (group : String) :
    shownGroup fields group = some group ↔ fields.groupKey ≠ fields.records := by
  unfold shownGroup
  split
  next hsame => simp [hsame]
  next hdistinct => simp [hdistinct]

theorem readGroups_collectionJson (cfg : ManifestConfig) (staging : Json)
    (group : String × List Json) :
    (((collectionJson cfg staging group).get cfg.recordsOutputField).getD .null).asItems =
        group.2.map (renderRecord cfg staging) ∧
      ((collectionJson cfg staging group).get cfg.groupKeyOutputField).bind Json.asStr =
        shownGroup cfg.outputFields group.1 := by
  have hrecords : (collectionJson cfg staging group).get cfg.recordsOutputField =
      some (.arr (group.2.map (renderRecord cfg staging))) :=
    Json.lookupField_insertField_self _ _ _
  refine ⟨by rw [hrecords]; rfl, ?_⟩
  unfold shownGroup
  split
  next hsame =>
    have hname : cfg.groupKeyOutputField = cfg.recordsOutputField := hsame
    rw [hname, hrecords]
    rfl
  next hdistinct =>
    have hname : cfg.groupKeyOutputField ≠ cfg.recordsOutputField := hdistinct
    have hkey : (collectionJson cfg staging group).get cfg.groupKeyOutputField =
        some (.str group.1) := by
      refine (Json.lookupField_insertField_ne hname _ _).trans ?_
      rw [Json.lookupField, if_pos rfl]
    rw [hkey]
    rfl

theorem readSource_sourceJson (cfg : ManifestConfig) (staging : Json) (groups : GroupMap) :
    (((sourceJson cfg staging groups).get cfg.groupsOutputField).getD .null).asItems =
        groups.toList.map (collectionJson cfg staging) ∧
      ((sourceJson cfg staging groups).get "source_identifier").bind Json.asStr =
        shownSource cfg.outputFields (sourceLabel groups) := by
  have hgroups : (sourceJson cfg staging groups).get cfg.groupsOutputField =
      some (.arr (groups.toList.map (collectionJson cfg staging))) :=
    Json.lookupField_insertField_self _ _ _
  refine ⟨by rw [hgroups]; rfl, ?_⟩
  unfold shownSource
  split
  next hsame =>
    have hname : cfg.groupsOutputField = "source_identifier" := hsame
    rw [← hname, hgroups]
    rfl
  next hdistinct =>
    have hname : "source_identifier" ≠ cfg.groupsOutputField := fun h => hdistinct h.symm
    have hsource : (sourceJson cfg staging groups).get "source_identifier" =
        some (.str (sourceLabel groups)) :=
      (Json.lookupField_insertField_ne hname _ _).trans
        (Json.lookupField_insertField_self _ _ _)
    rw [hsource]
    rfl

/-- **What is read at the slots of a manifest.** -/
theorem readSlots_manifest (cfg : ManifestConfig) (staging : Json) (grouped : BTreeMap GroupMap) :
    readSlots cfg.outputFields
        (.obj [("inputs", .obj []),
          ("sources", .arr (grouped.toList.map fun source => sourceJson cfg staging source.2))]) =
      (slotsOf grouped).map fun slot =>
        ⟨shownSource cfg.outputFields slot.source, shownGroup cfg.outputFields slot.group,
          renderRecord cfg staging slot.record⟩ := by
  have hsources : ((((Json.obj [("inputs", .obj []), ("sources", .arr (grouped.toList.map
      fun source => sourceJson cfg staging source.2))]).get "sources").getD .null).asItems) =
      grouped.toList.map fun source => sourceJson cfg staging source.2 := rfl
  rw [readSlots, hsources, slotsOf, List.flatMap_map, List.map_flatMap]
  refine List.flatMap_congr fun source _ => ?_
  obtain ⟨hgroups, hlabel⟩ := readSource_sourceJson cfg staging source.2
  have hgroups' : (((sourceJson cfg staging source.2).get cfg.outputFields.groups).getD
      .null).asItems = source.2.toList.map (collectionJson cfg staging) := hgroups
  rw [hgroups', groupSlots, List.flatMap_map, List.map_flatMap]
  refine List.flatMap_congr fun group _ => ?_
  obtain ⟨hrecords, hkey⟩ := readGroups_collectionJson cfg staging group
  have hrecords' : (((collectionJson cfg staging group).get cfg.outputFields.records).getD
      .null).asItems = group.2.map (renderRecord cfg staging) := hrecords
  have hkey' : ((collectionJson cfg staging group).get cfg.outputFields.groupKey).bind
      Json.asStr = shownGroup cfg.outputFields group.1 := hkey
  rw [hrecords', List.map_map, List.map_map]
  refine List.map_congr_left fun record _ => ?_
  simp only [Function.comp_apply, hlabel, hkey']

/-! ### The admitted records -/

/-- The source of a record. -/
def sourceText (record : Json) : String :=
  ((record.get "source_identifier").bind Json.asStr).getD ""

/-- The group of a record. -/
def groupText (t : ScalarText) (record : Json) : String :=
  ((record.get "group_key").map (valueKey t)).getD ""

/-- The id of a record. -/
def recordIdText (t : ScalarText) (record : Json) : String :=
  ((record.get "record_id").map (valueKey t)).getD ""

/-- The record has a source, a group and an id. -/
structure CarriesIdentity (t : ScalarText) (record : Json) : Prop where
  source : sourceText record ≠ ""
  group : groupText t record ≠ ""
  id : recordIdText t record ≠ ""

/-- The record is neither in an excluded group nor in the group `0`, which is skipped. -/
def isAdmitted (t : ScalarText) (excludeGroups : List String) (record : Json) : Bool :=
  groupText t record != "0" && !excludeGroups.contains (groupText t record)

/-- The place where a record belongs. -/
def ownSlot (t : ScalarText) (record : Json) : Slot :=
  ⟨sourceText record, groupText t record, record⟩

/-- **The manifest covers the admitted records**: its slots show what was put there, and the records
that were put there are the admitted ones, each once, under its own source and its own group.
Without a configuration no group is skipped, and a record is shown as it is, with its id as a
text. -/
def ManifestCovers (t : ScalarText) (config : Option ManifestConfig) (metadata : List Json)
    (excludeGroups : List String) (staging manifest : Json) : Prop :=
  match config with
  | some cfg =>
      (readSlots cfg.outputFields manifest =
        (slotsOf (groupRecords t cfg metadata excludeGroups)).map fun slot =>
          ⟨some slot.source, some slot.group, renderRecord cfg staging slot.record⟩) ∧
      (slotsOf (groupRecords t cfg metadata excludeGroups)).Perm
        ((metadata.filter (isAdmitted t excludeGroups)).map (ownSlot t))
  | none =>
      (readSlots defaultOutputFields manifest).Perm
        ((metadata.filter fun record => !excludeGroups.contains (groupText t record)).map
          fun record => ⟨some (sourceText record), some (groupText t record),
            Json.insert "record_id" (.str (recordIdText t record)) record⟩)

/-- When it does: the output names do not collide, and records that are grouped together are of one
source; without a configuration, no record is of an excluded group. -/
def CoversWhen (t : ScalarText) (config : Option ManifestConfig) (metadata : List Json)
    (excludeGroups : List String) : Prop :=
  match config with
  | some cfg =>
      cfg.groupsOutputField ≠ "source_identifier" ∧
      cfg.groupKeyOutputField ≠ cfg.recordsOutputField ∧
      ∀ record ∈ metadata, ∀ other ∈ metadata, isAdmitted t excludeGroups record = true →
        isAdmitted t excludeGroups other = true →
        groupByKey t cfg record = groupByKey t cfg other → sourceText record = sourceText other
  | none => ∀ record ∈ metadata, excludeGroups.contains (groupText t record) = false

section Admitted

variable {t : ScalarText} {record : Json}

/-- A record with a group is pushed to it. -/
theorem collectionKey_eq (h : CarriesIdentity t record) :
    collectionKey t record = groupText t record := by
  have hgroup := h.group
  unfold groupText at hgroup ⊢
  unfold collectionKey
  cases hkey : (record.get "group_key").map (valueKey t) with
  | none => exact absurd (by rw [hkey]; rfl) hgroup
  | some key =>
      rw [hkey, Option.getD_some] at hgroup
      rw [Option.getD_some]
      by_cases hzero : key = "0"
      · rw [hzero]
        rfl
      · have hkept : (key != "0" && !key.isEmpty) = true := by
          simp [hzero, hgroup]
        rw [Option.filter_some, if_pos hkept, Option.getD_some]

theorem isAdmitted_eq (h : CarriesIdentity t record) (excludeGroups : List String) :
    isAdmitted t excludeGroups record = !leavesOut t excludeGroups record := by
  rw [isAdmitted, leavesOut, collectionKey_eq h, Bool.not_or]
  rfl

theorem source_eq_some (h : CarriesIdentity t record) :
    (record.get "source_identifier").bind Json.asStr = some (sourceText record) := by
  have hsource := h.source
  unfold sourceText at hsource ⊢
  cases hget : (record.get "source_identifier").bind Json.asStr with
  | none => exact absurd (by rw [hget]; rfl) hsource
  | some source => rfl

end Admitted

/-- The records that are pushed, with their keys. -/
def pushedEntries (t : ScalarText) (cfg : ManifestConfig) (metadata : List Json)
    (excludeGroups : List String) : List RecordEntry :=
  (metadata.filter (isAdmitted t excludeGroups)).map fun record =>
    ⟨groupByKey t cfg record, groupText t record, record⟩

section Configured

variable {t : ScalarText} {cfg : ManifestConfig} {metadata : List Json}
  {excludeGroups : List String}

theorem groupRecords_eq (hcarries : ∀ record ∈ metadata, CarriesIdentity t record) :
    groupRecords t cfg metadata excludeGroups =
      grouped (pushedEntries t cfg metadata excludeGroups) := by
  unfold groupRecords grouped pushedEntries
  generalize (∅ : BTreeMap GroupMap) = start
  induction metadata generalizing start with
  | nil => rfl
  | cons record metadata ih =>
      have hrecord := hcarries record List.mem_cons_self
      have htail := fun start => ih (fun other hother =>
        hcarries other (List.mem_cons_of_mem _ hother)) start
      have hadmitted := isAdmitted_eq hrecord excludeGroups
      rw [List.foldl_cons, htail, collectionKey_eq hrecord]
      cases hleft : leavesOut t excludeGroups record with
      | true =>
          rw [hleft] at hadmitted
          rw [if_pos rfl, List.filter_cons_of_neg (by rw [hadmitted]; decide)]
      | false =>
          rw [hleft] at hadmitted
          rw [if_neg Bool.false_ne_true, List.filter_cons_of_pos (by rw [hadmitted]; rfl),
            List.map_cons, List.foldl_cons]

theorem mem_pushedEntries {entry : RecordEntry} :
    entry ∈ pushedEntries t cfg metadata excludeGroups ↔
      ∃ record ∈ metadata, isAdmitted t excludeGroups record = true ∧
        entry = ⟨groupByKey t cfg record, groupText t record, record⟩ := by
  unfold pushedEntries
  rw [List.mem_map]
  constructor
  · rintro ⟨record, hrecord, rfl⟩
    rw [List.mem_filter] at hrecord
    exact ⟨record, hrecord.1, hrecord.2, rfl⟩
  · rintro ⟨record, hrecord, hadmitted, rfl⟩
    exact ⟨record, List.mem_filter.mpr ⟨hrecord, hadmitted⟩, rfl⟩

/-- The label that an admitted record is put under is the source of an admitted record of the same
key. -/
theorem exists_label_eq (hcarries : ∀ record ∈ metadata, CarriesIdentity t record) {record : Json}
    (hrecord : record ∈ metadata) (hadmitted : isAdmitted t excludeGroups record = true) :
    ∃ first ∈ metadata, isAdmitted t excludeGroups first = true ∧
      groupByKey t cfg first = groupByKey t cfg record ∧
      labelOf (pushedEntries t cfg metadata excludeGroups) (groupByKey t cfg record) =
        sourceText first := by
  obtain ⟨entry, hentry, houter, hlabel⟩ :=
    exists_labelOf (mem_pushedEntries.mpr ⟨record, hrecord, hadmitted, rfl⟩)
  obtain ⟨first, hfirst, hfirstAdmitted, rfl⟩ := mem_pushedEntries.mp hentry
  refine ⟨first, hfirst, hfirstAdmitted, houter, hlabel.trans ?_⟩
  rw [source_eq_some (hcarries first hfirst), Option.getD_some]

/-- The slots of the admitted records. -/
theorem slots_perm (hcarries : ∀ record ∈ metadata, CarriesIdentity t record) :
    (slotsOf (groupRecords t cfg metadata excludeGroups)).Perm
      ((metadata.filter (isAdmitted t excludeGroups)).map fun record =>
        ⟨labelOf (pushedEntries t cfg metadata excludeGroups) (groupByKey t cfg record),
          groupText t record, record⟩) := by
  rw [groupRecords_eq hcarries]
  refine (slotsOf_perm _).trans (List.Perm.of_eq ?_)
  unfold pushedEntries
  rw [List.map_map]
  rfl

/-- **The slots are the own slots** exactly when records that are grouped together are of one
source. -/
theorem slots_perm_own_iff (hcarries : ∀ record ∈ metadata, CarriesIdentity t record) :
    (slotsOf (groupRecords t cfg metadata excludeGroups)).Perm
        ((metadata.filter (isAdmitted t excludeGroups)).map (ownSlot t)) ↔
      ∀ record ∈ metadata, ∀ other ∈ metadata, isAdmitted t excludeGroups record = true →
        isAdmitted t excludeGroups other = true →
        groupByKey t cfg record = groupByKey t cfg other →
          sourceText record = sourceText other := by
  have hslots : (slotsOf (groupRecords t cfg metadata excludeGroups)).Perm _ := slots_perm hcarries
  constructor
  · intro hown
    -- a slot of the own slots has the source of its record
    have hlabel : ∀ record ∈ metadata, isAdmitted t excludeGroups record = true →
        labelOf (pushedEntries t cfg metadata excludeGroups) (groupByKey t cfg record) =
          sourceText record := by
      intro record hrecord hadmitted
      have hmem := (hslots.symm.trans hown).subset (List.mem_map.mpr
        ⟨record, List.mem_filter.mpr ⟨hrecord, hadmitted⟩, rfl⟩)
      obtain ⟨other, -, hother⟩ := List.mem_map.mp hmem
      rw [ownSlot, Slot.mk.injEq] at hother
      rw [← hother.1, hother.2.2]
    intro record hrecord other hother hadmitted hadmitted' hkey
    rw [← hlabel record hrecord hadmitted, hkey, hlabel other hother hadmitted']
  · intro hone
    refine hslots.trans (List.Perm.of_eq (List.map_congr_left fun record hrecord => ?_))
    rw [List.mem_filter] at hrecord
    obtain ⟨first, hfirst, hadmitted, hkey, hlabel⟩ := exists_label_eq hcarries hrecord.1 hrecord.2
    rw [hlabel, hone first hfirst record hrecord.1 hadmitted hrecord.2 hkey]
    rfl

/-- A manifest that was built shows its sources, and some record is in it. -/
theorem manifestOf_ok {grouped : BTreeMap GroupMap} {sources : List Json} {manifest : Json}
    (h : manifestOf grouped sources = .ok manifest) :
    manifest = .obj [("inputs", .obj []), ("sources", .arr sources)] ∧ slotsOf grouped ≠ [] := by
  unfold manifestOf at h
  dsimp only at h
  split at h
  · cases h
  next hsome =>
    cases h
    refine ⟨rfl, fun hnil => hsome ?_⟩
    have hrecords : (slotsOf grouped).map Slot.record =
        grouped.toList.flatMap fun source => source.2.toList.flatMap fun group => group.2 := by
      unfold slotsOf groupSlots
      simp only [List.map_flatMap, List.map_map]
      refine List.flatMap_congr fun source _ => List.flatMap_congr fun group _ => ?_
      exact List.map_id' _
    rw [← hrecords, hnil]
    rfl

theorem covers_configured_iff (hcarries : ∀ record ∈ metadata, CarriesIdentity t record)
    {staging manifest : Json}
    (h : buildFromManifestConfig t cfg metadata excludeGroups staging = .ok manifest) :
    ManifestCovers t (some cfg) metadata excludeGroups staging manifest ↔
      CoversWhen t (some cfg) metadata excludeGroups := by
  obtain ⟨hmanifest, hsome⟩ := manifestOf_ok h
  have hread := readSlots_manifest cfg staging (groupRecords t cfg metadata excludeGroups)
  rw [← hmanifest] at hread
  unfold ManifestCovers CoversWhen
  dsimp only
  rw [hread, slots_perm_own_iff hcarries, List.map_inj_left, ← and_assoc]
  refine and_congr_left fun _ => ⟨fun hshown => ?_, fun hdistinct slot _ => ?_⟩
  · obtain ⟨slot, hslot⟩ := List.exists_mem_of_ne_nil _ hsome
    have hequal := hshown slot hslot
    rw [ReadSlot.mk.injEq] at hequal
    exact ⟨(shownSource_eq_some_iff cfg.outputFields _).mp hequal.1,
      (shownGroup_eq_some_iff cfg.outputFields _).mp hequal.2.1⟩
  · rw [ReadSlot.mk.injEq]
    exact ⟨(shownSource_eq_some_iff cfg.outputFields _).mpr hdistinct.1,
      (shownGroup_eq_some_iff cfg.outputFields _).mpr hdistinct.2, rfl⟩

end Configured

/-! ### Without a configuration -/

/-- A computation that succeeds on every item with a known value. -/
theorem eq_map_of_mapM_ok {ε α β : Type} {f : α → Except ε β} {g : α → β} {xs : List α}
    {ys : List β} (hf : ∀ x y, f x = .ok y → y = g x) (h : xs.mapM f = .ok ys) :
    ys = xs.map g := by
  induction xs generalizing ys with
  | nil =>
      cases h
      rfl
  | cons x xs ih =>
      rw [List.mapM_cons] at h
      obtain ⟨y, hy, h⟩ := exceptBind_ok h
      obtain ⟨rest, hrest, h⟩ := exceptBind_ok h
      cases h
      rw [hf x y hy, ih hrest, List.map_cons]

section Generic

variable {t : ScalarText}

/-- The entry of a record that is accepted. -/
def ownEntry (t : ScalarText) (record : Json) : RecordEntry :=
  ⟨sourceText record, groupText t record,
    Json.insert "record_id" (.str (recordIdText t record)) record⟩

theorem eq_some_of_filter {α : Type} {value : Option α} {p : α → Bool} {a : α}
    (h : value.filter p = some a) : value = some a := (Option.filter_eq_some_iff.mp h).1

theorem genericEntry_ok {record : Json} {entry : RecordEntry}
    (h : genericEntry t record = .ok entry) : entry = ownEntry t record := by
  unfold genericEntry at h
  split at h
  · cases h
  next hsource =>
  split at h
  · cases h
  next hgroup =>
  split at h
  · cases h
  next hid =>
    cases h
    unfold ownEntry sourceText groupText recordIdText
    rw [eq_some_of_filter hsource, eq_some_of_filter hgroup, eq_some_of_filter hid]
    rfl

/-- What is read of one source. -/
def genericSlots (source : String) (groups : GroupMap) : List ReadSlot :=
  groups.toList.flatMap fun group => group.2.map fun record => ⟨some source, some group.1, record⟩

/-- What is read of a manifest under the default names. -/
theorem readSlots_generic (entries : List RecordEntry) :
    (readSlots defaultOutputFields
        (.obj [("inputs", .obj []),
          ("sources", .arr ((grouped entries).toList.map genericSourceJson))])).Perm
      (entries.map fun entry => ⟨some entry.outer, some entry.inner, entry.record⟩) := by
  have hread : readSlots defaultOutputFields
      (.obj [("inputs", .obj []),
        ("sources", .arr ((grouped entries).toList.map genericSourceJson))]) =
      (grouped entries).toList.flatMap fun source => genericSlots source.1 source.2 := by
    have hsources : ((((Json.obj [("inputs", .obj []), ("sources", .arr
        ((grouped entries).toList.map genericSourceJson))]).get "sources").getD .null).asItems) =
        (grouped entries).toList.map genericSourceJson := rfl
    rw [readSlots, hsources, List.flatMap_map]
    refine List.flatMap_congr fun source _ => ?_
    have hgroups : (((genericSourceJson source).get "groups").getD .null).asItems =
        source.2.toList.map fun group =>
          .obj [("group_key", .str group.1), ("records", .arr group.2)] := rfl
    rw [show defaultOutputFields.groups = "groups" from rfl, hgroups, List.flatMap_map]
    rfl
  rw [hread, grouped_eq]
  refine Grouping.flatMap_toList_perm genericSlots _ fun outer _ => ?_
  have hgroups := flatMap_groupsOf_perm (fun group record => ReadSlot.mk (some outer) (some group)
    record) (Grouping.ofKey RecordEntry.outer outer entries)
  refine hgroups.trans (List.Perm.of_eq (List.map_congr_left fun entry hentry => ?_))
  rw [← (Grouping.mem_ofKey.mp hentry).2]

theorem covers_generic_iff {metadata : List Json} {excludeGroups : List String}
    {staging manifest : Json} (h : buildGenericManifest t metadata = .ok manifest) :
    ManifestCovers t none metadata excludeGroups staging manifest ↔
      CoversWhen t none metadata excludeGroups := by
  obtain ⟨entries, hentries, hbuilt⟩ := exceptBind_ok h
  have hown : entries = metadata.map (ownEntry t) :=
    eq_map_of_mapM_ok (fun _ _ => genericEntry_ok) hentries
  obtain ⟨hmanifest, -⟩ := manifestOf_ok hbuilt
  have hread := readSlots_generic entries
  rw [← hmanifest, hown, List.map_map] at hread
  unfold ManifestCovers CoversWhen
  dsimp only
  constructor
  · -- all records are shown, so all are among those that should be
    intro hcovers
    have hlength := (hread.symm.trans hcovers).length_eq
    rw [List.length_map, List.length_map] at hlength
    have hall := List.length_filter_eq_length_iff.mp hlength.symm
    exact fun record hrecord => by simpa using hall record hrecord
  · intro hnone
    rw [List.filter_eq_self.mpr fun record hrecord => by rw [hnone record hrecord]; rfl]
    exact hread

end Generic

/-! ### The manifest covers the selection -/

/-- **When the manifest covers the admitted records.**  Let every record carry a source, a group and
an id.  A manifest that is built covers the admitted records exactly when the names of its output
fields do not collide and records that are grouped together are of one source; without a
configuration, exactly when no record is of an excluded group. -/
theorem manifest_covers_iff {t : ScalarText} {config : Option ManifestConfig} {metadata : List Json}
    {excludeGroups : List String} {staging manifest : Json}
    (hcarries : ∀ record ∈ metadata, CarriesIdentity t record)
    (h : buildManifestFromConfig t config metadata excludeGroups staging = .ok manifest) :
    ManifestCovers t config metadata excludeGroups staging manifest ↔
      CoversWhen t config metadata excludeGroups := by
  cases config with
  | some cfg => exact covers_configured_iff hcarries h
  | none => exact covers_generic_iff h

/-! ### Samples -/

/-- A record of a source and a group. -/
def sampleManifestRecord (source group id : String) : Json :=
  .obj [("source_identifier", .str source), ("group_key", .str group), ("record_id", .str id)]

/-- Two records of one group key and two sources. -/
def sampleMetadata : List Json :=
  [sampleManifestRecord "101" "1" "a", sampleManifestRecord "102" "1" "b"]

theorem carriesIdentity_sample :
    ∀ record ∈ sampleMetadata, CarriesIdentity ScalarText.plain record := by
  intro record hrecord
  simp only [sampleMetadata, List.mem_cons, List.not_mem_nil, or_false] at hrecord
  rcases hrecord with rfl | rfl
  · exact ⟨by decide, by decide, by decide⟩
  · exact ⟨by decide, by decide, by decide⟩

/-- A configuration that groups by the source. -/
def bySource : ManifestConfig := { groupBy := ["source_identifier"] }

theorem manifest_covers_iff_sample :
    ∃ manifest, buildManifestFromConfig .plain (some bySource) sampleMetadata ["2"] (.obj []) =
        .ok manifest ∧
      ManifestCovers .plain (some bySource) sampleMetadata ["2"] (.obj []) manifest := by
  refine ⟨_, rfl, (manifest_covers_iff carriesIdentity_sample rfl).mpr ⟨by decide, by decide, ?_⟩⟩
  intro record hrecord other hother _ _ hkey
  simp only [sampleMetadata, List.mem_cons, List.not_mem_nil, or_false] at hrecord hother
  rcases hrecord with rfl | rfl <;> rcases hother with rfl | rfl
  · rfl
  · exact absurd hkey (by decide +kernel)
  · exact absurd hkey (by decide +kernel)
  · rfl

/-- **Three manifests that do not cover the selection**, of a configuration that is valid.  Without
a `group_by` all records are put under the first source.  A groups field named `source_identifier`
takes the place of the identifier.  Without a configuration an excluded group is in the manifest. -/
theorem selection_not_covered :
    (∃ manifest, ManifestConfig.diagnostics {} = [] ∧
      buildManifestFromConfig .plain (some {}) sampleMetadata [] (.obj []) = .ok manifest ∧
      ¬ ManifestCovers .plain (some {}) sampleMetadata [] (.obj []) manifest) ∧
    (∃ manifest, ManifestConfig.diagnostics
        { bySource with groupsOutputField := "source_identifier" } = [] ∧
      buildManifestFromConfig .plain
        (some { bySource with groupsOutputField := "source_identifier" }) sampleMetadata []
        (.obj []) = .ok manifest ∧
      ¬ ManifestCovers .plain (some { bySource with groupsOutputField := "source_identifier" })
        sampleMetadata [] (.obj []) manifest) ∧
    ∃ manifest,
      buildManifestFromConfig .plain none sampleMetadata ["1"] (.obj []) = .ok manifest ∧
      ¬ ManifestCovers .plain none sampleMetadata ["1"] (.obj []) manifest := by
  have hfirst : sampleManifestRecord "101" "1" "a" ∈ sampleMetadata := List.mem_cons_self
  have hsecond : sampleManifestRecord "102" "1" "b" ∈ sampleMetadata :=
    List.mem_cons_of_mem _ List.mem_cons_self
  refine ⟨⟨_, by decide +kernel, rfl, fun hcovers => ?_⟩,
    ⟨_, by decide +kernel, rfl, fun hcovers => ?_⟩, ⟨_, rfl, fun hcovers => ?_⟩⟩
  · obtain ⟨-, -, hone⟩ := (covers_configured_iff carriesIdentity_sample rfl).mp hcovers
    exact absurd (hone _ hfirst _ hsecond (by decide +kernel) (by decide +kernel) rfl)
      (by decide +kernel)
  · exact ((covers_configured_iff carriesIdentity_sample rfl).mp hcovers).1 rfl
  · have hnone := (covers_generic_iff rfl).mp hcovers
    exact absurd (hnone _ hfirst) (by decide +kernel)

end Beampipe
