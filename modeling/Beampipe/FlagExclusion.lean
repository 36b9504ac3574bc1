/-
The flags of a discovery and its signature.

The flags of a discovery are stored beside its records, and each record carries a copy of its own.
A project may exclude the flags from its signature, so that a change of the flags alone starts no
new run.  The exclusion takes the flags beside the records out of what is hashed; the copies in the
records are only taken out when their field is excluded by name.

Main results:

* `Beampipe.Json.UniqueKeys.insertField` — inserting a member leaves no key twice;
* `Beampipe.Project.uniqueKeys_recordBody` — prepared records have no key twice;
* `Beampipe.Project.prepareIdentities_withFlags` — the identities of a record do not depend on its
  flags;
* `Beampipe.Project.flags_excluded_iff` — **when a change of the flags alone keeps the signature.**
-/

import Beampipe.DiscoveryFreshness
import Beampipe.PreparedRecords

set_option relaxedAutoImplicit false
set_option autoImplicit false

namespace Beampipe

open Json

/-! ### Inserting a member -/

theorem mem_insertField {key : String} {value : Json} {fields : List (String × Json)}
    {field : String × Json} (h : field ∈ insertField key value fields) :
    field = (key, value) ∨ field ∈ fields := by
  induction fields with
  | nil => exact .inl (List.mem_singleton.mp h)
  | cons first fields ih =>
      obtain ⟨k, v⟩ := first
      rw [insertField] at h
      split at h
      next hkey =>
        rcases List.mem_cons.mp h with rfl | hrest
        · exact .inl (by rw [hkey])
        · exact .inr (List.mem_cons_of_mem _ hrest)
      next hkey =>
        rcases List.mem_cons.mp h with rfl | hrest
        · exact .inr List.mem_cons_self
        · rcases ih hrest with hnew | hold
          · exact .inl hnew
          · exact .inr (List.mem_cons_of_mem _ hold)

theorem nodup_keys_insertField (key : String) (value : Json) {fields : List (String × Json)}
    (h : (fields.map Prod.fst).Nodup) : ((insertField key value fields).map Prod.fst).Nodup := by
  induction fields with
  | nil => exact List.nodup_singleton key
  | cons first fields ih =>
      obtain ⟨k, v⟩ := first
      rw [List.map_cons, List.nodup_cons] at h
      rw [insertField]
      split
      next hkey => exact List.nodup_cons.mpr h
      next hkey =>
        refine List.nodup_cons.mpr ⟨fun hmem => ?_, ih h.2⟩
        obtain ⟨field, hfield, hname⟩ := List.mem_map.mp hmem
        rcases mem_insertField hfield with rfl | hold
        · exact hkey hname.symm
        · exact h.1 (List.mem_map.mpr ⟨field, hold, hname⟩)

/-- **Inserting a member** leaves no key twice. -/
theorem Json.UniqueKeys.insertField {key : String} {value : Json} {fields : List (String × Json)}
    (h : (Json.obj fields).UniqueKeys) (hvalue : value.UniqueKeys) :
    (Json.obj (Json.insertField key value fields)).UniqueKeys := by
  cases h with
  | obj hkeys hvalues =>
      refine .obj (nodup_keys_insertField key value hkeys) fun field hfield => ?_
      rcases mem_insertField hfield with rfl | hold
      · exact hvalue
      · exact hvalues field hold

theorem Json.UniqueKeys.lookup {key : String} {value : Json} {fields : List (String × Json)}
    (h : (Json.obj fields).UniqueKeys) (hlookup : lookupField key fields = some value) :
    value.UniqueKeys := by
  cases h with
  | obj hkeys hvalues => exact hvalues _ ((lookupField_eq_some_iff hkeys).mp hlookup)

theorem Json.UniqueKeys.get {key : String} {value object : Json} (h : object.UniqueKeys)
    (hget : object.get key = some value) : value.UniqueKeys := by
  cases object with
  | obj fields => exact h.lookup hget
  | _ => cases hget

/-- A member is inserted in one place, whatever its value is. -/
theorem exists_insertField (key : String) (fields : List (String × Json)) :
    ∃ before after, ∀ value, insertField key value fields = before ++ (key, value) :: after := by
  induction fields with
  | nil => exact ⟨[], [], fun value => rfl⟩
  | cons first fields ih =>
      obtain ⟨k, v⟩ := first
      by_cases hkey : k = key
      · subst hkey
        exact ⟨[], fields, fun value => by rw [insertField, if_pos rfl]; rfl⟩
      · obtain ⟨before, after, hall⟩ := ih
        refine ⟨(k, v) :: before, after, fun value => ?_⟩
        rw [insertField, if_neg hkey, hall value]
        rfl

/-- A member that is there is replaced before or after another one is inserted. -/
theorem insertField_comm {key other : String} (hne : other ≠ key) {value value' : Json}
    {fields : List (String × Json)} (h : (lookupField other fields).isSome = true) :
    insertField other value' (insertField key value fields) =
      insertField key value (insertField other value' fields) := by
  induction fields with
  | nil => cases h
  | cons first fields ih =>
      obtain ⟨k, v⟩ := first
      by_cases hkey : k = key
      · have hother : k ≠ other := fun hequal => hne (hequal.symm.trans hkey)
        simp only [insertField, if_pos hkey, if_neg hother]
      · by_cases hother : k = other
        · simp only [insertField, if_neg hkey, if_pos hother]
        · rw [lookupField, if_neg hother] at h
          simp only [insertField, if_neg hkey, if_neg hother]
          rw [ih h]

/-! ### Prepared records have no key twice -/

namespace Project

theorem uniqueKeys_insertSome {key : String} {value : Option Json} {out : List (String × Json)}
    (h : (Json.obj out).UniqueKeys) (hvalue : ∀ v, value = some v → v.UniqueKeys) :
    (Json.obj (insertSome key value out)).UniqueKeys := by
  cases value with
  | none => exact h
  | some value => exact h.insertField (hvalue value rfl)

theorem uniqueKeys_orInsert {key : String} {value : Json} {out : List (String × Json)}
    (h : (Json.obj out).UniqueKeys) (hvalue : value.UniqueKeys) :
    (Json.obj (orInsert key value out)).UniqueKeys := by
  unfold orInsert
  split
  · exact h
  · exact h.insertField hvalue

/-- What inserts values without double keys leaves no key twice. -/
theorem uniqueKeys_foldl {α : Type} {insert : List (String × Json) → α → List (String × Json)}
    {entries : List α} (hinsert : ∀ out, (Json.obj out).UniqueKeys → ∀ entry ∈ entries,
      (Json.obj (insert out entry)).UniqueKeys) {out : List (String × Json)}
    (h : (Json.obj out).UniqueKeys) : (Json.obj (entries.foldl insert out)).UniqueKeys := by
  induction entries generalizing out with
  | nil => exact h
  | cons entry entries ih =>
      rw [List.foldl_cons]
      exact ih (fun out hout other hother => hinsert out hout other (List.mem_cons_of_mem _ hother))
        (hinsert out h entry List.mem_cons_self)

theorem uniqueKeys_empty : (Json.obj []).UniqueKeys :=
  .obj List.nodup_nil fun _ h => (List.not_mem_nil h).elim

section Transforms

variable {env : TransformEnv} {fuel : ℕ} {registry : TransformRegistry}

/-- A text that a transform gives. -/
theorem uniqueKeys_of_map_str {text : Option String} {output : Json}
    (h : text.map Json.str = some output) : output.UniqueKeys := by
  obtain ⟨s, -, rfl⟩ := Option.map_eq_some_iff.mp h
  exact .str s

theorem uniqueKeys_applyTransformSpec {spec : TransformSpec} {input output : Json}
    (hinput : input.UniqueKeys) (h : applyTransformSpec env spec input = some output) :
    output.UniqueKeys := by
  unfold applyTransformSpec at h
  dsimp only at h
  split at h
  case h_1 =>
    cases h
    exact hinput
  case h_2 | h_3 | h_4 =>
    obtain ⟨s, -, rfl⟩ := Option.map_eq_some_iff.mp h
    exact .str _
  case h_5 | h_6 | h_7 | h_9 =>
    obtain ⟨_, -, h⟩ := Option.bind_eq_some_iff.mp h
    obtain ⟨_, -, h⟩ := Option.bind_eq_some_iff.mp h
    cases h
    exact .str _
  case h_8 =>
    split at h
    · cases hdefault : spec.default with
      | none =>
          rw [hdefault] at h
          cases h
          exact .null
      | some text =>
          rw [hdefault] at h
          cases h
          exact .str text
    · cases h
      exact hinput
  case h_10 => exact uniqueKeys_of_map_str h
  case h_11 =>
    obtain ⟨_, -, h⟩ := Option.bind_eq_some_iff.mp h
    cases h
    exact .str _
  case h_12 =>
    cases h
    exact .bool _
  case h_13 | h_14 => exact uniqueKeys_of_map_str h
  case h_15 =>
    obtain ⟨_, -, h⟩ := Option.bind_eq_some_iff.mp h
    obtain ⟨_, -, h⟩ := Option.bind_eq_some_iff.mp h
    exact uniqueKeys_of_map_str h
  all_goals cases h

theorem uniqueKeys_runSteps {apply : String → Json → Option (Option Json)}
    (happly : ∀ name input output, input.UniqueKeys → apply name input = some (some output) →
      output.UniqueKeys) {steps : List String} {input output : Json} (hinput : input.UniqueKeys)
    (h : Pipelines.runSteps apply steps input = some (some output)) : output.UniqueKeys := by
  induction steps generalizing input with
  | nil =>
      cases h
      exact hinput
  | cons step steps ih =>
      rw [Pipelines.runSteps] at h
      cases hstep : apply step input with
      | none =>
          rw [hstep] at h
          cases h
      | some answer =>
          rw [hstep] at h
          cases answer with
          | none => cases h
          | some next => exact ih (happly step input next hinput hstep) h

theorem uniqueKeys_applyNamed {name : String} {input output : Json} (hinput : input.UniqueKeys)
    (h : registry.applyNamed env fuel name input = some (some output)) : output.UniqueKeys := by
  induction fuel generalizing name input output with
  | zero => cases h
  | succ fuel ih =>
      rw [TransformRegistry.applyNamed] at h
      split at h
      · cases h
      · split at h
        · split at h
          · cases h
          · exact uniqueKeys_runSteps (fun name input output hin hout => ih hin hout) hinput h
        · exact uniqueKeys_applyTransformSpec hinput (Option.some.inj h)

theorem uniqueKeys_transformed {spec : MappingSpec} {input output : Json}
    (hinput : input.UniqueKeys) (h : transformed env fuel registry spec input = some output) :
    output.UniqueKeys := by
  unfold transformed at h
  split at h
  · rw [Option.getD_eq_iff] at h
    rcases h with h | ⟨-, h⟩
    · unfold applyFieldTransform at h
      split at h
      · cases h
      · exact uniqueKeys_applyNamed hinput h
      · exact uniqueKeys_runSteps (fun name input output hin hout =>
          uniqueKeys_applyNamed hin hout) hinput h
    · cases h
  · cases h
    exact hinput

theorem uniqueKeys_rowValue {row : TapRow} (hrow : (Json.obj row).UniqueKeys) {key : String}
    {value : Json} (h : rowValue row key = some value) : value.UniqueKeys := by
  unfold rowValue at h
  rw [Option.orElse_eq_orElse, Option.orElse_eq_or, Option.orElse_eq_or, Option.or_eq_some_iff,
    Option.or_eq_some_iff] at h
  rcases h with (h | ⟨-, h⟩) | ⟨-, h⟩
  · exact hrow.lookup h
  · exact hrow.lookup h
  · exact hrow.lookup h

theorem uniqueKeys_valueAtParts {parts : List String} {value result : Json}
    (hvalue : value.UniqueKeys) (h : valueAtParts parts value = some result) :
    result.UniqueKeys := by
  induction parts generalizing value with
  | nil =>
      rw [valueAtParts, Option.some.injEq] at h
      exact h ▸ hvalue
  | cons part parts ih =>
      cases value with
      | arr items =>
          rw [valueAtParts] at h
          obtain ⟨index, -, h⟩ := Option.bind_eq_some_iff.mp h
          obtain ⟨item, hitem, h⟩ := Option.bind_eq_some_iff.mp h
          cases hvalue with
          | arr hitems => exact ih (hitems item (List.mem_of_getElem? hitem)) h
      | obj fields =>
          rw [valueAtParts] at h
          obtain ⟨field, hfield, h⟩ := Option.bind_eq_some_iff.mp h
          exact ih (hvalue.lookup hfield) h
      | null => cases h
      | bool b => cases h
      | num n => cases h
      | str s => cases h

end Transforms

section Records

variable {env : TransformEnv} {fuel : ℕ} {registry : TransformRegistry}
  {sourceIdentifier : String} {row : TapRow} {config : ProjectConfig}
  {enrichments : List (String × Json)}

theorem uniqueKeys_mappedValue {spec : MappingSpec} {groupKey : Option String} {value : Json}
    (hrow : (Json.obj row).UniqueKeys) (henrichments : (Json.obj enrichments).UniqueKeys)
    (h : mappedValue env fuel registry sourceIdentifier row spec enrichments groupKey =
      some value) : value.UniqueKeys := by
  unfold mappedValue at h
  split at h
  · exact uniqueKeys_transformed (.str _) h
  · split at h
    next name nested _ =>
      obtain ⟨key, -, h⟩ := Option.bind_eq_some_iff.mp h
      obtain ⟨enrichment, henrichment, h⟩ := Option.bind_eq_some_iff.mp h
      obtain ⟨result, hresult, h⟩ := Option.bind_eq_some_iff.mp h
      obtain ⟨inner, hinner, h⟩ := Option.bind_eq_some_iff.mp h
      have hunique : result.UniqueKeys := (henrichments.lookup henrichment).get hresult
      refine uniqueKeys_transformed ?_ h
      cases nested with
      | none =>
          cases hinner
          exact hunique
      | some path => exact uniqueKeys_valueAtParts hunique hinner
    · obtain ⟨inner, hinner, h⟩ := Option.bind_eq_some_iff.mp h
      exact uniqueKeys_transformed (uniqueKeys_rowValue hrow hinner) h

/-- **Prepared records** have no key twice. -/
theorem uniqueKeys_recordBody (hrow : (Json.obj row).UniqueKeys)
    (henrichments : (Json.obj enrichments).UniqueKeys) :
    (Json.obj (recordBody env fuel registry sourceIdentifier row config
      enrichments)).UniqueKeys := by
  have hmapped : (Json.obj (mappedFields env fuel registry sourceIdentifier row config
      enrichments)).UniqueKeys := by
    unfold mappedFields
    split
    · exact uniqueKeys_foldl (fun out hout field _ => uniqueKeys_insertSome hout fun v hv =>
        uniqueKeys_mappedValue hrow henrichments hv) uniqueKeys_empty
    · exact uniqueKeys_empty
  have hrowValues : ∀ column ∈ row, column.2.UniqueKeys := by
    cases hrow with
    | obj _ hvalues => exact hvalues
  have hown : (Json.obj (row.foldl
      (fun out column => orInsert (toAsciiLowercase column.1) column.2 out)
      (orInsert "source_identifier" (.str sourceIdentifier)
        (mappedFields env fuel registry sourceIdentifier row config enrichments)))).UniqueKeys :=
    uniqueKeys_foldl (fun out hout column hcolumn =>
      uniqueKeys_orInsert hout (hrowValues column hcolumn)) (uniqueKeys_orInsert hmapped (.str _))
  have hresults : ∀ enrichment ∈ enrichments, enrichment.2.UniqueKeys := by
    cases henrichments with
    | obj _ hvalues => exact hvalues
  unfold recordBody insertEnrichments
  dsimp only
  split
  · exact uniqueKeys_foldl (fun out hout enrichment henrichment =>
      uniqueKeys_insertSome hout fun v hv => (hresults enrichment henrichment).get hv) hown
  · exact hown

end Records

/-! ### Identities and flags -/

section Identities

variable {t : ScalarText} {flags : Json}

/-- One identity of a record is made canonical whatever the flags are. -/
theorem canonicalizeIdentity_insertFlags (index : ℕ) (object : List (String × Json))
    (field : IdentityField) :
    canonicalizeIdentity t index (Json.insertField "discovery_flags" flags object) field =
      (canonicalizeIdentity t index object field).map
        (Json.insertField "discovery_flags" flags) := by
  have hne : field.name ≠ "discovery_flags" := by cases field <;> decide
  have hlookup := Json.lookupField_insertField_ne hne flags object
  have hset : ∀ text, (lookupField field.name object).isSome = true →
      setIdentity index field text (Json.insertField "discovery_flags" flags object) =
        (setIdentity index field text object).map
          (Json.insertField "discovery_flags" flags) := by
    intro text hpresent
    unfold setIdentity
    split
    · rfl
    · rw [insertField_comm hne hpresent]
      rfl
  unfold canonicalizeIdentity
  rw [hlookup]
  cases hvalue : lookupField field.name object with
  | none => rfl
  | some value =>
      have hpresent : (lookupField field.name object).isSome = true := by
        rw [hvalue]
        rfl
      cases value with
      | str text => exact hset _ hpresent
      | num n => exact hset _ hpresent
      | bool b => exact hset _ hpresent
      | null => rfl
      | arr items => rfl
      | obj fields => rfl

theorem canonicalizeIdentities_insertFlags (index : ℕ) (fields : List IdentityField)
    (object : List (String × Json)) :
    fields.foldlM (canonicalizeIdentity t index)
        (Json.insertField "discovery_flags" flags object) =
      (fields.foldlM (canonicalizeIdentity t index) object).map
        (Json.insertField "discovery_flags" flags) := by
  induction fields generalizing object with
  | nil => rfl
  | cons field fields ih =>
      rw [List.foldlM_cons, List.foldlM_cons, canonicalizeIdentity_insertFlags]
      cases canonicalizeIdentity t index object field with
      | error error => rfl
      | ok object => exact ih object

theorem canonicalizeRecords_withFlags (index : ℕ) (bodies : List (List (String × Json))) :
    canonicalizeRecords t index (bodies.map (withFlags flags)) =
      (bodies.zipIdx index).mapM (fun body =>
        (preparedIdentityFields.foldlM (canonicalizeIdentity t body.2) body.1).map
          (withFlags flags)) := by
  induction bodies generalizing index with
  | nil => rfl
  | cons body bodies ih =>
      rw [List.map_cons, List.zipIdx_cons, List.mapM_cons, withFlags, canonicalizeRecords,
        canonicalizeIdentities_insertFlags, ih]
      cases preparedIdentityFields.foldlM (canonicalizeIdentity t index) body with
      | error error => rfl
      | ok object =>
          cases (bodies.zipIdx (index + 1)).mapM (fun body =>
            (preparedIdentityFields.foldlM (canonicalizeIdentity t body.2) body.1).map
              (withFlags flags)) <;> rfl

/-- A step on every entry, and then one that does not fail. -/
theorem mapM_map {ε α β γ : Type} (f : α → Except ε β) (g : β → γ) (entries : List α) :
    entries.mapM (fun entry => (f entry).map g) =
      (entries.mapM f).map (List.map g) := by
  induction entries with
  | nil => rfl
  | cons entry entries ih =>
      rw [List.mapM_cons, List.mapM_cons, ih]
      cases f entry with
      | error error => rfl
      | ok b => cases entries.mapM f <;> rfl

/-- **The identities of records do not depend on their flags**: whatever the flags are, the records
that come out are the same ones with these flags. -/
theorem prepareIdentities_withFlags {source : String} {bodies : List (List (String × Json))}
    {metadata : List Json}
    (h : prepareIdentities t source (bodies.map (withFlags flags)) = .ok metadata) :
    ∃ objects, (bodies.zipIdx 0).mapM (fun body =>
        preparedIdentityFields.foldlM (canonicalizeIdentity t body.2) body.1) = .ok objects ∧
      metadata = objects.map (withFlags flags) := by
  obtain ⟨canonical, hcanonical, h⟩ := exceptBind_ok h
  obtain ⟨-, -, h⟩ := exceptBind_ok h
  cases h
  rw [canonicalizePreparedMetadataIdentities, canonicalizeRecords_withFlags, mapM_map] at hcanonical
  cases hobjects : (bodies.zipIdx 0).mapM (fun body =>
      preparedIdentityFields.foldlM (canonicalizeIdentity t body.2) body.1) with
  | error error =>
      rw [hobjects] at hcanonical
      cases hcanonical
  | ok objects =>
      rw [hobjects] at hcanonical
      cases hcanonical
      exact ⟨objects, rfl, rfl⟩

theorem uniqueKeys_canonicalizeIdentities {index : ℕ} {fields : List IdentityField}
    {object object' : List (String × Json)} (hobject : (Json.obj object).UniqueKeys)
    (h : fields.foldlM (canonicalizeIdentity t index) object = .ok object') :
    (Json.obj object').UniqueKeys := by
  have hset : ∀ (field : IdentityField) (text : String) {object object' : List (String × Json)},
      (Json.obj object).UniqueKeys → setIdentity index field text object = .ok object' →
        (Json.obj object').UniqueKeys := by
    intro field text object object' hobject h
    unfold setIdentity at h
    split at h
    · cases h
    · cases h
      exact hobject.insertField (.str text)
  induction fields generalizing object with
  | nil =>
      cases h
      exact hobject
  | cons field fields ih =>
      obtain ⟨next, hnext, h⟩ := exceptBind_ok (by rwa [List.foldlM_cons] at h)
      refine ih ?_ h
      unfold canonicalizeIdentity at hnext
      split at hnext
      · exact hset field _ hobject hnext
      · exact hset field _ hobject hnext
      · exact hset field _ hobject hnext
      · cases hnext
      · cases hnext

end Identities

/-! ### What the exclusions leave of a record -/

section Strip

variable {exclude : List String} {flags : Json}

theorem groupKeyOf_withFlags (object : List (String × Json)) :
    groupKeyOf (withFlags flags object) = groupKeyOf (.obj object) := by
  unfold groupKeyOf withFlags
  rw [Json.get, Json.get,
    Json.lookupField_insertField_ne (by decide : "group_key" ≠ "discovery_flags")]

theorem filter_insertField_of_mem {key : String} (hkey : key ∈ exclude) (value : Json)
    (fields : List (String × Json)) :
    (Json.insertField key value fields).filter (fun field => field.1 ∉ exclude) =
      fields.filter (fun field => field.1 ∉ exclude) := by
  induction fields with
  | nil => simp [Json.insertField, hkey]
  | cons first fields ih =>
      obtain ⟨k, v⟩ := first
      rw [Json.insertField]
      split
      next hequal =>
        subst hequal
        rw [List.filter_cons_of_neg (by simpa using hkey),
          List.filter_cons_of_neg (by simpa using hkey)]
      next hne => rw [List.filter_cons, List.filter_cons, ih]

/-- The members that the exclusions leave. -/
def strippedMembers (exclude : List String) (fields : List (String × Json)) :
    List (String × Json) :=
  (fields.filter fun field => field.1 ∉ exclude).map fun field =>
    (field.1, stripExcludedFields exclude field.2)

theorem strippedMembers_insertField {key : String} (hkey : key ∉ exclude) (value : Json)
    (fields : List (String × Json)) :
    strippedMembers exclude (Json.insertField key value fields) =
      Json.insertField key (stripExcludedFields exclude value)
        (strippedMembers exclude fields) := by
  unfold strippedMembers
  induction fields with
  | nil => simp [Json.insertField, hkey]
  | cons first fields ih =>
      obtain ⟨k, v⟩ := first
      rw [Json.insertField]
      by_cases hequal : k = key
      · subst hequal
        rw [if_pos rfl, List.filter_cons_of_pos (by simpa using hkey),
          List.filter_cons_of_pos (by simpa using hkey), List.map_cons, List.map_cons,
          Json.insertField, if_pos rfl]
      · rw [if_neg hequal]
        by_cases hmem : k ∈ exclude
        · rw [List.filter_cons_of_neg (by simpa using hmem),
            List.filter_cons_of_neg (by simpa using hmem), ih]
        · rw [List.filter_cons_of_pos (by simpa using hmem),
            List.filter_cons_of_pos (by simpa using hmem), List.map_cons, List.map_cons, ih,
            Json.insertField, if_neg hequal]

/-- Excluded flags are gone, others are left without what is excluded in them. -/
theorem strip_withFlags (object : List (String × Json)) :
    stripExcludedFields exclude (withFlags flags object) =
      if "discovery_flags" ∈ exclude then .obj (strippedMembers exclude object)
      else withFlags (stripExcludedFields exclude flags) (strippedMembers exclude object) := by
  rw [withFlags, stripExcludedFields_obj]
  split
  next hmem =>
    rw [filter_insertField_of_mem hmem]
    rfl
  next hmem => exact congrArg Json.obj (strippedMembers_insertField hmem flags object)

/-- Flags that differ in the order of object keys differ in nothing else in a record. -/
theorem reorders_withFlags {flags' : Json} (h : Reorders flags flags')
    (object : List (String × Json)) :
    Reorders (withFlags flags object) (withFlags flags' object) := by
  obtain ⟨before, after, hinsert⟩ := exists_insertField "discovery_flags" object
  rw [withFlags, withFlags, hinsert, hinsert]
  exact .field before after _ h

theorem get_withFlags (object : List (String × Json)) :
    (withFlags flags object).get "discovery_flags" = some flags :=
  Json.lookupField_insertField_self _ _ _

/-- The flags are read off a record. -/
theorem reorders_of_withFlags {flags' : Json} {object object' : List (String × Json)}
    (hkeys : (withFlags flags object).UniqueKeys) (hflags : flags.UniqueKeys)
    (hkeys' : (withFlags flags' object').UniqueKeys)
    (h : Reorders (withFlags flags object) (withFlags flags' object')) : Reorders flags flags' := by
  have hget : (canonical (withFlags flags object)).get "discovery_flags" =
      (canonical (withFlags flags' object')).get "discovery_flags" := by
    rw [(reorders_iff hkeys).mp h]
  rw [get_canonical hkeys, get_canonical hkeys', get_withFlags, get_withFlags, Option.map_some,
    Option.map_some, Option.some.injEq] at hget
  exact (reorders_iff hflags).mpr hget

end Strip

/-! ### A change of the flags alone -/

/-- Every entry that a step has given comes from an entry. -/
theorem mem_of_exceptMapM {ε α β : Type} {f : α → Except ε β} {xs : List α} {ys : List β}
    (h : xs.mapM f = .ok ys) : ys.length = xs.length ∧ ∀ y ∈ ys, ∃ x ∈ xs, f x = .ok y := by
  induction xs generalizing ys with
  | nil =>
      cases h
      exact ⟨rfl, fun y hy => (List.not_mem_nil hy).elim⟩
  | cons x xs ih =>
      rw [List.mapM_cons] at h
      obtain ⟨y, hy, h⟩ := exceptBind_ok h
      obtain ⟨rest, hrest, h⟩ := exceptBind_ok h
      cases h
      obtain ⟨hlength, hmem⟩ := ih hrest
      refine ⟨by rw [List.length_cons, List.length_cons, hlength], fun other hother => ?_⟩
      rcases List.mem_cons.mp hother with rfl | hother
      · exact ⟨x, List.mem_cons_self, hy⟩
      · obtain ⟨before, hbefore, hstep⟩ := hmem other hother
        exact ⟨before, List.mem_cons_of_mem _ hbefore, hstep⟩

theorem exists_of_forall₂ {α β : Type} {R : α → β → Prop} {xs : List α} {ys : List β}
    (h : List.Forall₂ R xs ys) : ∀ x ∈ xs, ∃ y ∈ ys, R x y := by
  induction h with
  | nil => exact fun x hx => (List.not_mem_nil hx).elim
  | @cons x y xs ys hxy _ ih =>
      intro other hother
      rcases List.mem_cons.mp hother with rfl | hother
      · exact ⟨y, List.mem_cons_self, hxy⟩
      · obtain ⟨z, hz, hR⟩ := ih other hother
        exact ⟨z, List.mem_cons_of_mem _ hz, hR⟩

section Change

variable {exclude : List String} {flags flags' : Json} {objects : List (List (String × Json))}

theorem recordsOf_withFlags (groupKey : String) :
    recordsOf groupKey (objects.map (withFlags flags)) =
      (objects.filter fun object => groupKeyOf (.obj object) = some groupKey).map
        (withFlags flags) := by
  rw [recordsOf, List.filter_map]
  congr 1
  exact List.filter_congr fun object _ => by
    rw [Function.comp_apply, groupKeyOf_withFlags]

/-- Records that differ in their flags alone are the same without the exclusions exactly when the
flags are excluded, or are the same without them. -/
theorem sameRecords_withFlags_iff (hobjects : ∀ object ∈ objects, (Json.obj object).UniqueKeys)
    (hflags : flags.UniqueKeys) (hflags' : flags'.UniqueKeys) :
    SameRecords ((objects.map (withFlags flags)).map (stripExcludedFields exclude))
        ((objects.map (withFlags flags')).map (stripExcludedFields exclude)) ↔
      objects = [] ∨ "discovery_flags" ∈ exclude ∨
        Reorders (stripExcludedFields exclude flags) (stripExcludedFields exclude flags') := by
  have hkeys : ∀ {flags : Json}, flags.UniqueKeys → ∀ object ∈ objects,
      (stripExcludedFields exclude (withFlags flags object)).UniqueKeys := by
    intro flags hflags object hobject
    exact ((hobjects object hobject).insertField hflags).strip exclude
  constructor
  · rintro ⟨permuted, hperm, hrelated⟩
    rw [or_iff_not_imp_left, or_iff_not_imp_left]
    intro hne hmem
    obtain ⟨first, rest, rfl⟩ := List.exists_cons_of_ne_nil hne
    -- the first record has a counterpart, and both show their flags
    have hfirst : stripExcludedFields exclude (withFlags flags first) ∈ permuted :=
      hperm.subset List.mem_cons_self
    obtain ⟨counterpart, hcounterpart, hreorders⟩ := exists_of_forall₂ hrelated _ hfirst
    rw [List.map_map] at hcounterpart
    obtain ⟨object, hobject, rfl⟩ := List.mem_map.mp hcounterpart
    have hleft := hkeys hflags first List.mem_cons_self
    have hright := hkeys hflags' object hobject
    rw [strip_withFlags, if_neg hmem] at hleft
    rw [strip_withFlags, if_neg hmem] at hright
    rw [Function.comp_apply, strip_withFlags, strip_withFlags, if_neg hmem, if_neg hmem]
      at hreorders
    exact reorders_of_withFlags hleft (hflags.strip exclude) hright hreorders
  · intro hcases
    refine ⟨_, List.Perm.refl _, ?_⟩
    rw [List.map_map, List.map_map, List.forall₂_map_left_iff, List.forall₂_map_right_iff]
    refine List.forall₂_same.mpr fun object hobject => ?_
    rw [Function.comp_apply, Function.comp_apply, strip_withFlags, strip_withFlags]
    rcases hcases with rfl | hmem | hreorders
    · exact (List.not_mem_nil hobject).elim
    · rw [if_pos hmem, if_pos hmem]
      exact .refl _
    · split
      · exact .refl _
      · exact reorders_withFlags hreorders _

end Change

/-- **When a change of the flags alone keeps the signature.**  Two discoveries of a source prepare
the same records but for their flags, and the flags are not to be part of the signature.  The
signatures are the same exactly when the field of the copies is excluded by name, or the exclusions
leave nothing of the difference.  The exclusion of the flags itself does not reach the copies. -/
theorem flags_excluded_iff {digest : List Char → String} {env : TransformEnv} {fuel : ℕ}
    {config : ProjectConfig} {options : SignatureOptions} {source : String}
    {rows : List TapRow} {enrichments enrichments' : List (String × Json)}
    {flags flags' : Json} {metadata metadata' : List Json}
    (ht : env.text.Faithful) (hdigest : Function.Injective digest)
    (hexclude : options.includeDiscoveryFlags = false)
    (hrows : rows ≠ []) (hrowKeys : ∀ row ∈ rows, (Json.obj row).UniqueKeys)
    (hkeys : (Json.obj enrichments).UniqueKeys)
    (hflags : flags.UniqueKeys) (hflags' : flags'.UniqueKeys)
    (hsame : ∀ row ∈ rows,
      recordBody env fuel (.fromConfig config) source row config enrichments =
        recordBody env fuel (.fromConfig config) source row config enrichments')
    (hmetadata : prepareIdentities env.text source (rows.map fun row =>
      prepareMetadataRecord env fuel (.fromConfig config) source row config enrichments flags) =
        .ok metadata)
    (hmetadata' : prepareIdentities env.text source (rows.map fun row =>
      prepareMetadataRecord env fuel (.fromConfig config) source row config enrichments' flags') =
        .ok metadata') :
    batchSignature digest env.text metadata (some flags) (some options) =
        batchSignature digest env.text metadata' (some flags') (some options) ↔
      "discovery_flags" ∈ options.excludeFields ∨
        Reorders (stripExcludedFields options.excludeFields flags)
          (stripExcludedFields options.excludeFields flags') := by
  have hbodies : ∀ (flags : Json) (enrichments : List (String × Json)),
      rows.map (fun row =>
        prepareMetadataRecord env fuel (.fromConfig config) source row config enrichments flags) =
      (rows.map fun row => recordBody env fuel (.fromConfig config) source row config
        enrichments).map (withFlags flags) := by
    intro flags enrichments
    rw [List.map_map]
    rfl
  rw [hbodies] at hmetadata hmetadata'
  rw [← List.map_congr_left hsame] at hmetadata'
  have hprepared := isPrepared_of_prepareIdentities hmetadata
  obtain ⟨objects, hobjects, rfl⟩ := prepareIdentities_withFlags hmetadata
  obtain ⟨objects', hobjects', rfl⟩ := prepareIdentities_withFlags hmetadata'
  obtain rfl : objects = objects' := by
    rw [hobjects, Except.ok.injEq] at hobjects'
    exact hobjects'
  obtain ⟨hlength, hmem⟩ := mem_of_exceptMapM hobjects
  have hunique : ∀ object ∈ objects, (Json.obj object).UniqueKeys := by
    intro object hobject
    obtain ⟨⟨body, index⟩, hbody, hcanonical⟩ := hmem object hobject
    have hbodyMem : body ∈ rows.map fun row =>
        recordBody env fuel (.fromConfig config) source row config enrichments :=
      List.fst_mem_of_mem_zipIdx hbody
    obtain ⟨row, hrow, rfl⟩ := List.mem_map.mp hbodyMem
    exact uniqueKeys_canonicalizeIdentities (uniqueKeys_recordBody (hrowKeys row hrow) hkeys)
      hcanonical
  have hbatch : ∀ {flags : Json}, flags.UniqueKeys →
      BatchUniqueKeys (objects.map (withFlags flags)) (some flags) := by
    intro flags hflags
    refine ⟨fun record hrecord => ?_, fun given hgiven => ?_⟩
    · obtain ⟨object, hobject, rfl⟩ := List.mem_map.mp hrecord
      exact (hunique object hobject).insertField hflags
    · cases hgiven
      exact hflags
  have hhashed : ∀ flags, hashedFlags (some options) (some flags) = none := by
    intro flags
    rw [hashedFlags, includesFlags, Option.map_some, Option.getD_some, hexclude]
    rfl
  rw [batchSignature_eq_iff ht hdigest (some options) (hbatch hflags) (hbatch hflags')]
  simp only [strippedRecordsOf, recordsOf_withFlags, excludedFields, Option.map_some,
    Option.getD_some, hhashed]
  constructor
  · rintro ⟨hgroups, -⟩
    -- the first record has a group, and in this group the flags are compared
    obtain ⟨object, hobject⟩ : ∃ object, object ∈ objects := by
      refine List.exists_mem_of_ne_nil objects (List.ne_nil_of_length_pos ?_)
      have hpos := List.length_pos_of_ne_nil hrows
      rw [List.length_zipIdx, List.length_map] at hlength
      omega
    obtain ⟨prepared, hequal, hisPrepared⟩ :=
      hprepared _ (List.mem_map.mpr ⟨object, hobject, rfl⟩)
    obtain ⟨groupKey, hgroup⟩ := hisPrepared.groupKeyOf
    rw [← hequal, groupKeyOf_withFlags] at hgroup
    have hfilter : ∀ object ∈ objects.filter
        (fun object => decide (groupKeyOf (.obj object) = some groupKey)),
        (Json.obj object).UniqueKeys := fun object hmember =>
      hunique object (List.mem_of_mem_filter hmember)
    rcases (sameRecords_withFlags_iff hfilter hflags hflags').mp (hgroups groupKey) with
      hempty | hcases
    · rw [List.filter_eq_nil_iff] at hempty
      exact absurd (decide_eq_true hgroup) (hempty object hobject)
    · exact hcases
  · intro hcases
    refine ⟨fun groupKey => ?_, fun _ => .none⟩
    exact (sameRecords_withFlags_iff
      (fun object hmember => hunique object (List.mem_of_mem_filter hmember)) hflags hflags').mpr
      (.inr hcases)

/-- Transforms without angles and regular expressions. -/
def plainTransforms : TransformEnv := ⟨.plain, fun _ => none, fun _ => none, fun _ _ _ => none⟩

/-- A project whose flags come from a query of their own and are not part of its signature. -/
def statusConfig : ProjectConfig :=
  { metadataId := "survey"
    adapters :=
      { required := ["catalog"]
        endpoints := (∅ : BTreeMap TapEndpointConfig).insert "catalog" { url := "https://tap" } }
    discovery :=
      { queries :=
          [{ name := "records", adapter := "catalog", template := "SELECT * FROM records" },
            { name := "status", adapter := "catalog", template := "SELECT ready FROM status",
              result := .first }]
        prepareMetadata := some
          { fieldMap :=
              ((∅ : BTreeMap MappingSpec).insert "group_key" { fromPath := "collection_id" }).insert
                "record_id" { fromPath := "object_id" }
            discoveryFlags :=
              (∅ : BTreeMap MappingSpec).insert "ready" { fromPath := "enrichments.status.ready" }
            signature := some { includeDiscoveryFlags := false } } } }

/-- The record of a source. -/
def statusRow : TapRow := [("collection_id", .str "g1"), ("object_id", .str "r1")]

/-- An archive with one record and a status. -/
def statusArchive (ready : Bool) : Archive
  | .query 0, _, _ => .ok [statusRow]
  | .query _, _, _ => .ok [[("ready", .bool ready)]]
  | .enrichment _ _, _, _ => .ok []

/-- What is prepared for the status. -/
def statusRecord (ready : Bool) : Json :=
  .obj
    [("group_key", .str "g1"), ("record_id", .str "r1"), ("source_identifier", .str "s1"),
      ("collection_id", .str "g1"), ("object_id", .str "r1"),
      ("discovery_flags", .obj [("ready", .bool ready)])]

theorem uniqueKeys_status (ready : Bool) : (Json.obj [("ready", .bool ready)]).UniqueKeys := by
  refine .obj (List.nodup_singleton _) fun field hfield => ?_
  rw [List.mem_singleton.mp hfield]
  exact .bool ready

/-- Two discoveries whose flags differ, and nothing else. -/
theorem flags_excluded_iff_sample :
    batchSignature plainDigest .plain [statusRecord true] (some (.obj [("ready", .bool true)]))
        (some { includeDiscoveryFlags := false }) =
      batchSignature plainDigest .plain [statusRecord false] (some (.obj [("ready", .bool false)]))
        (some { includeDiscoveryFlags := false }) ↔
      "discovery_flags" ∈ ([] : List String) ∨
        Reorders (stripExcludedFields [] (.obj [("ready", .bool true)]))
          (stripExcludedFields [] (.obj [("ready", .bool false)])) := by
  have hrow : ∀ row ∈ [statusRow], (Json.obj row).UniqueKeys := by
    intro row hmem
    rw [List.mem_singleton.mp hmem]
    refine .obj (by decide) fun field hfield => ?_
    rcases List.mem_cons.mp hfield with rfl | hfield
    · exact .str _
    · rw [List.mem_singleton.mp hfield]
      exact .str _
  exact @flags_excluded_iff plainDigest plainTransforms 0 statusConfig
    { includeDiscoveryFlags := false } "s1" [statusRow] [] [] _ _ _ _ ScalarText.plain_faithful
    plainDigest_injective rfl (by decide) hrow uniqueKeys_empty (uniqueKeys_status true)
    (uniqueKeys_status false) (fun _ _ => rfl) (by decide +kernel) (by decide +kernel)

/-- The project is valid, and another status gives the same record with other flags and another
signature. -/
theorem status_changes_signature :
    Valid (fun _ => []) statusConfig ∧
      (∀ ready, discoverFromConfig plainTransforms 0 (statusArchive ready) statusConfig "s1" =
        .ok (some ([statusRecord ready], .obj [("ready", .bool ready)]))) ∧
      (∀ ready, prepareIdentities .plain "s1" [statusRecord ready] = .ok [statusRecord ready]) ∧
      batchSignature plainDigest .plain [statusRecord true] (some (.obj [("ready", .bool true)]))
          (some { includeDiscoveryFlags := false }) ≠
        batchSignature plainDigest .plain [statusRecord false]
          (some (.obj [("ready", .bool false)])) (some { includeDiscoveryFlags := false }) := by
  refine ⟨by decide +kernel, by decide +kernel, by decide +kernel, by decide +kernel⟩

end Project

end Beampipe
