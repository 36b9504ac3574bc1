/-
Discovery: prepared metadata, its groups, the payloads they are stored and hashed as.

A discovery answer is a batch of metadata records, JSON objects that carry three identities.  The
identities are made canonical strings first, then the records are grouped by `group_key`.  Two
payloads are built from the groups: the stored one has every field, the one a signature is taken of
is without the fields and flags that the project excludes.  A signature is the digest of the stable
JSON of its payload; the digest and the texts of strings and numbers are parameters.

Main definitions:

* `Beampipe.canonicalizePreparedMetadataIdentities`, `Beampipe.validatePreparedMetadataRecords` —
  the identities of prepared records;
* `Beampipe.groupMetadataByGroupKey` — the groups of a batch, a `BTreeMap`;
* `Beampipe.metadataPayloadByGroup`, `Beampipe.metadataStoragePayloadByGroup` — the two payloads;
* `Beampipe.discoverySignature`, `Beampipe.existingSignatureFromRecords`, `Beampipe.shouldSkipTap` —
  signatures of a payload and of stored rows.

Main results:

* `Beampipe.getElem?_groupMetadataByGroupKey` — a group has the records of its key, in order;
* `Beampipe.recordSortKey_eq_iff` — the sort key of records tells apart what differs in more than
  the order of object keys;
* `Beampipe.stripExcludedFields_eq_self_iff` — an exclusion leaves alone what names no excluded
  field.
-/

import Beampipe.Grouping
import Beampipe.StableJson
import Beampipe.Text
import Mathlib.Data.String.Basic

set_option relaxedAutoImplicit false
set_option autoImplicit false

namespace Beampipe

/-! ### Identities of prepared records -/

/-- `PREPARED_IDENTITY_FIELDS`. -/
inductive IdentityField where
  | sourceIdentifier
  | groupKey
  | recordId
  deriving DecidableEq, Repr

/-- The field in a record. -/
@[simp] def IdentityField.name : IdentityField → String
  | .sourceIdentifier => "source_identifier"
  | .groupKey => "group_key"
  | .recordId => "record_id"

/-- The identities in the order in which they are checked. -/
def preparedIdentityFields : List IdentityField := [.sourceIdentifier, .groupKey, .recordId]

/-- `PreparedMetadataError`. -/
inductive PreparedMetadataError where
  | notObject (index : ℕ)
  | missingSourceIdentifier (index : ℕ)
  | missingGroupKey (index : ℕ)
  | missingRecordIdentity (index : ℕ)
  | unsupportedIdentityType (index : ℕ) (field : String)
  | nonCanonicalIdentity (index : ℕ) (field : String)
  | sourceIdentifierMismatch (index : ℕ) (expected actual : String)
  deriving DecidableEq, Repr

/-- The text of an error. -/
def PreparedMetadataError.message : PreparedMetadataError → String
  | .notObject index => s!"record[{index}] must be a JSON object"
  | .missingSourceIdentifier index =>
      s!"record[{index}] requires a non-empty 'source_identifier'"
  | .missingGroupKey index => s!"record[{index}] requires a non-empty 'group_key'"
  | .missingRecordIdentity index => s!"record[{index}] requires a non-empty 'record_id'"
  | .unsupportedIdentityType index field =>
      s!"record[{index}] identity field '{field}' must be a JSON string, number, or boolean"
  | .nonCanonicalIdentity index field =>
      s!"record[{index}] identity field '{field}' must be a canonical non-empty string"
  | .sourceIdentifierMismatch index expected actual =>
      s!"record[{index}] source_identifier '{actual}' does not match claimed source '{expected}'"

/-- `missing_identity_error`. -/
def missingIdentityError (index : ℕ) : IdentityField → PreparedMetadataError
  | .sourceIdentifier => .missingSourceIdentifier index
  | .groupKey => .missingGroupKey index
  | .recordId => .missingRecordIdentity index

/-- A canonical identity takes the place of the given one, unless nothing is left of it. -/
def setIdentity (index : ℕ) (field : IdentityField) (canonical : String)
    (object : List (String × Json)) : Except PreparedMetadataError (List (String × Json)) :=
  if canonical.isEmpty then .error (missingIdentityError index field)
  else .ok (Json.insertField field.name (.str canonical) object)

/-- One identity of one record. -/
def canonicalizeIdentity (t : ScalarText) (index : ℕ) (object : List (String × Json))
    (field : IdentityField) : Except PreparedMetadataError (List (String × Json)) :=
  match Json.lookupField field.name object with
  | some (.str value) => setIdentity index field (trim value) object
  | some (.num n) => setIdentity index field (String.ofList (t.number n)) object
  | some (.bool b) => setIdentity index field (if b then "true" else "false") object
  | some _ => .error (.unsupportedIdentityType index field.name)
  | none => .error (missingIdentityError index field)

/-- The records from an index on. -/
def canonicalizeRecords (t : ScalarText) :
    ℕ → List Json → Except PreparedMetadataError (List Json)
  | _, [] => .ok []
  | index, .obj object :: records => do
      let object ← preparedIdentityFields.foldlM (canonicalizeIdentity t index) object
      let records ← canonicalizeRecords t (index + 1) records
      pure (.obj object :: records)
  | index, _ :: _ => .error (.notObject index)

/-- `canonicalize_prepared_metadata_identities`. -/
def canonicalizePreparedMetadataIdentities (t : ScalarText) (metadata : List Json) :
    Except PreparedMetadataError (List Json) :=
  canonicalizeRecords t 0 metadata

/-- A canonical identity: non-empty, without white space at its ends. -/
def isCanonicalIdentity (value : String) : Bool := !value.isEmpty && value == trim value

/-- One identity of one record. -/
def validateIdentity (index : ℕ) (object : List (String × Json)) (field : IdentityField) :
    Except PreparedMetadataError Unit :=
  match Json.lookupField field.name object with
  | some (.str value) =>
      if isCanonicalIdentity value then .ok ()
      else if (trim value).isEmpty then .error (missingIdentityError index field)
      else .error (.nonCanonicalIdentity index field.name)
  | none => .error (missingIdentityError index field)
  | some _ => .error (.nonCanonicalIdentity index field.name)

/-- The records from an index on. -/
def validateRecords : ℕ → List Json → Except PreparedMetadataError Unit
  | _, [] => .ok ()
  | index, .obj object :: records => do
      preparedIdentityFields.forM (validateIdentity index object)
      validateRecords (index + 1) records
  | index, _ :: _ => .error (.notObject index)

/-- `validate_prepared_metadata_records`. -/
def validatePreparedMetadataRecords (metadata : List Json) : Except PreparedMetadataError Unit :=
  validateRecords 0 metadata

/-- The records from an index on are of the source. -/
def validateSources (expectedSourceIdentifier : String) :
    ℕ → List Json → Except PreparedMetadataError Unit
  | _, [] => .ok ()
  | index, record :: records =>
      match (record.get "source_identifier").bind Json.asStr with
      | none => .error (.nonCanonicalIdentity index "source_identifier")
      | some actual =>
          if actual = expectedSourceIdentifier then
            validateSources expectedSourceIdentifier (index + 1) records
          else .error (.sourceIdentifierMismatch index expectedSourceIdentifier actual)

/-- `validate_prepared_metadata_records_for_source`. -/
def validatePreparedMetadataRecordsForSource (metadata : List Json)
    (expectedSourceIdentifier : String) : Except PreparedMetadataError Unit := do
  validatePreparedMetadataRecords metadata
  validateSources expectedSourceIdentifier 0 metadata

/-! ### Groups -/

/-- The group of a record. -/
def groupKeyOf (item : Json) : Option String :=
  ((item.get "group_key").bind Json.asStr).filter isCanonicalIdentity

/-- A record joins the group of its key, at the end. -/
def pushToGroup (grouped : BTreeMap (List Json)) (item : Json) : BTreeMap (List Json) :=
  match groupKeyOf item with
  | none => grouped
  | some groupKey => grouped.alter groupKey fun records => some (records.getD [] ++ [item])

/-- `group_metadata_by_group_key`. -/
def groupMetadataByGroupKey (metadata : List Json) : BTreeMap (List Json) :=
  metadata.foldl pushToGroup ∅

/-- The records of a group, in the order of the batch. -/
def recordsOf (groupKey : String) (metadata : List Json) : List Json :=
  metadata.filter fun item => groupKeyOf item = some groupKey

/-- The records that have a group, with its key. -/
def keyedRecords (metadata : List Json) : List (String × Json) :=
  metadata.filterMap fun item => (groupKeyOf item).map fun groupKey => (groupKey, item)

theorem groupMetadataByGroupKey_eq (metadata : List Json) :
    groupMetadataByGroupKey metadata =
      Grouping.accumulate Prod.fst (fun records keyed => records ++ [keyed.2]) []
        (keyedRecords metadata) := by
  unfold groupMetadataByGroupKey keyedRecords Grouping.accumulate
  rw [List.foldl_filterMap]
  refine List.foldl_ext _ _ _ fun grouped item _ => ?_
  unfold pushToGroup
  cases groupKeyOf item with
  | none => rfl
  | some groupKey => rfl

theorem ofKey_keyedRecords (metadata : List Json) (groupKey : String) :
    (Grouping.ofKey Prod.fst groupKey (keyedRecords metadata)).map Prod.snd =
      recordsOf groupKey metadata := by
  induction metadata with
  | nil => rfl
  | cons item metadata ih =>
      unfold keyedRecords recordsOf at ih ⊢
      cases hkey : groupKeyOf item with
      | none =>
          rw [List.filterMap_cons_none (by rw [hkey]; rfl), List.filter_cons_of_neg (by simp [hkey])]
          exact ih
      | some key =>
          rw [List.filterMap_cons_some (by rw [hkey]; rfl)]
          by_cases hequal : key = groupKey
          · rw [Grouping.ofKey_cons_self hequal, List.filter_cons_of_pos (by simp [hkey, hequal]),
              List.map_cons, ih]
          · rw [Grouping.ofKey_cons_of_ne hequal,
              List.filter_cons_of_neg (by simp [hkey, hequal])]
            exact ih

/-- **A group has the records of its key, in order.** -/
theorem getElem?_groupMetadataByGroupKey (metadata : List Json) (groupKey : String) :
    (groupMetadataByGroupKey metadata)[groupKey]? =
      if recordsOf groupKey metadata = [] then none else some (recordsOf groupKey metadata) := by
  rw [groupMetadataByGroupKey_eq, Grouping.getElem?_accumulate_listed, ofKey_keyedRecords]

/-! ### Values -/

mutual

/-- `to_jsonable`: the value is built anew. -/
def toJsonable : Json → Json
  | .obj fields => .obj (toJsonableFields fields)
  | .arr items => .arr (toJsonableItems items)
  | other => other

/-- The items of an array. -/
def toJsonableItems : List Json → List Json
  | [] => []
  | item :: items => toJsonable item :: toJsonableItems items

/-- The members of an object. -/
def toJsonableFields : List (String × Json) → List (String × Json)
  | [] => []
  | (key, value) :: fields => (key, toJsonable value) :: toJsonableFields fields

end

mutual

/-- `strip_excluded_fields`: the excluded members are removed, at any depth. -/
def stripExcludedFields (exclude : List String) : Json → Json
  | .obj fields => .obj (stripExcludedMembers exclude fields)
  | .arr items => .arr (stripExcludedItems exclude items)
  | other => other

/-- The items of an array. -/
def stripExcludedItems (exclude : List String) : List Json → List Json
  | [] => []
  | item :: items => stripExcludedFields exclude item :: stripExcludedItems exclude items

/-- The members of an object that are kept. -/
def stripExcludedMembers (exclude : List String) : List (String × Json) → List (String × Json)
  | [] => []
  | (key, value) :: fields =>
      if key ∈ exclude then stripExcludedMembers exclude fields
      else (key, stripExcludedFields exclude value) :: stripExcludedMembers exclude fields

end

/-- The value without the excluded fields; without exclusions it is not walked through. -/
def stripUnlessEmpty (exclude : List String) (value : Json) : Json :=
  if exclude.isEmpty then value else stripExcludedFields exclude value

/-- An excluded field occurs in the value. -/
inductive MentionsField (exclude : List String) : Json → Prop where
  | key {fields : List (String × Json)} {field : String × Json} (hmem : field ∈ fields)
      (h : field.1 ∈ exclude) : MentionsField exclude (.obj fields)
  | value {fields : List (String × Json)} {field : String × Json} (hmem : field ∈ fields)
      (h : MentionsField exclude field.2) : MentionsField exclude (.obj fields)
  | item {items : List Json} {item : Json} (hmem : item ∈ items)
      (h : MentionsField exclude item) : MentionsField exclude (.arr items)

section Strip

variable (exclude : List String)

@[simp] theorem toJsonable_eq (v : Json) : toJsonable v = v := by
  have hitems : ∀ items : List Json, (∀ item ∈ items, toJsonable item = item) →
      toJsonableItems items = items := by
    intro items h
    induction items with
    | nil => rfl
    | cons item items ih => simp_all [toJsonableItems]
  have hfields : ∀ fields : List (String × Json), (∀ field ∈ fields, toJsonable field.2 = field.2) →
      toJsonableFields fields = fields := by
    intro fields h
    induction fields with
    | nil => rfl
    | cons field fields ih => simp_all [toJsonableFields]
  induction v using Json.ind with
  | harr items ih => rw [toJsonable, hitems items ih]
  | hobj fields ih => rw [toJsonable, hfields fields ih]
  | _ => rfl

@[simp] theorem map_toJsonable (records : List Json) : records.map toJsonable = records := by
  rw [List.map_congr_left fun record _ => toJsonable_eq record, List.map_id']

theorem stripExcludedFields_arr (items : List Json) :
    stripExcludedFields exclude (.arr items) = .arr (items.map (stripExcludedFields exclude)) := by
  rw [stripExcludedFields]
  congr 1
  induction items with
  | nil => rfl
  | cons item items ih => rw [stripExcludedItems, ih, List.map_cons]

/-- The members of an object that are kept, with their values stripped. -/
theorem stripExcludedFields_obj (fields : List (String × Json)) :
    stripExcludedFields exclude (.obj fields) =
      .obj ((fields.filter fun field => field.1 ∉ exclude).map fun field =>
        (field.1, stripExcludedFields exclude field.2)) := by
  rw [stripExcludedFields]
  congr 1
  induction fields with
  | nil => rfl
  | cons field fields ih =>
      rw [stripExcludedMembers, ih]
      by_cases h : field.1 ∈ exclude
      · simp [h]
      · simp [h]

/-- Without exclusions nothing is removed. -/
theorem stripExcludedFields_nil (v : Json) : stripExcludedFields [] v = v := by
  induction v using Json.ind with
  | harr items ih => rw [stripExcludedFields_arr, List.map_congr_left ih, List.map_id']
  | hobj fields ih =>
      rw [stripExcludedFields_obj, List.filter_eq_self.mpr (by simp)]
      have hfields : ∀ field ∈ fields, (field.1, stripExcludedFields [] field.2) = field :=
        fun field hfield => by rw [ih field hfield]
      rw [List.map_congr_left hfields, List.map_id']
  | _ => rfl

@[simp] theorem stripUnlessEmpty_eq (v : Json) :
    stripUnlessEmpty exclude v = stripExcludedFields exclude v := by
  cases exclude with
  | nil => rw [stripUnlessEmpty, stripExcludedFields_nil]; rfl
  | cons name names => rfl

/-- A removal leaves no key twice. -/
theorem Json.UniqueKeys.strip {v : Json} (hv : v.UniqueKeys) :
    (stripExcludedFields exclude v).UniqueKeys := by
  induction v using Json.ind with
  | harr items ih =>
      cases hv with
      | arr hitems =>
          rw [stripExcludedFields_arr]
          refine .arr fun item hitem => ?_
          obtain ⟨before, hbefore, rfl⟩ := List.mem_map.mp hitem
          exact ih before hbefore (hitems before hbefore)
  | hobj fields ih =>
      cases hv with
      | obj hkeys hvalues =>
          rw [stripExcludedFields_obj]
          refine .obj ?_ fun field hfield => ?_
          · rw [List.map_map]
            exact (List.filter_sublist.map Prod.fst).nodup hkeys
          · obtain ⟨before, hbefore, rfl⟩ := List.mem_map.mp hfield
            have hmem := List.mem_of_mem_filter hbefore
            exact ih before hmem (hvalues before hmem)
  | _ => exact hv

/-- Removals do not look at the order of keys. -/
theorem Json.Reorders.strip {v w : Json} (h : Reorders v w) :
    Reorders (stripExcludedFields exclude v) (stripExcludedFields exclude w) := by
  induction h with
  | refl v => exact .refl _
  | trans _ _ ih ih' => exact ih.trans ih'
  | keys hperm =>
      rw [stripExcludedFields_obj, stripExcludedFields_obj]
      exact .keys ((hperm.filter _).map _)
  | item before after _ ih =>
      simp only [stripExcludedFields_arr, List.map_append, List.map_cons]
      exact .item _ _ ih
  | field before after key _ ih =>
      simp only [stripExcludedFields_obj, List.filter_append, List.map_append]
      by_cases hkey : key ∈ exclude
      · -- the member is removed from both values
        simp only [List.filter_cons, hkey, not_true, decide_false, Bool.false_eq_true, if_false]
        exact .refl _
      · simp only [List.filter_cons, hkey, not_false_eq_true, decide_true, if_true, List.map_cons]
        exact .field _ _ _ ih

/-- An exclusion leaves alone exactly what names no excluded field. -/
theorem stripExcludedFields_eq_self_iff {v : Json} :
    stripExcludedFields exclude v = v ↔ ¬ MentionsField exclude v := by
  induction v using Json.ind with
  | harr items ih =>
      rw [stripExcludedFields_arr, Json.arr.injEq]
      constructor
      · rintro h (_ | _ | ⟨hmem, hitem⟩)
        have hself : ∀ item ∈ items, stripExcludedFields exclude item = item :=
          List.map_eq_map_iff.mp (h.trans (List.map_id items).symm)
        exact (ih _ hmem).mp (hself _ hmem) hitem
      · intro h
        have hself : ∀ item ∈ items, stripExcludedFields exclude item = item :=
          fun item hmem => (ih item hmem).mpr fun hitem => h (.item hmem hitem)
        rw [List.map_congr_left hself, List.map_id']
  | hobj fields ih =>
      rw [stripExcludedFields_obj, Json.obj.injEq]
      constructor
      · intro h
        have hlength : (fields.filter fun field => field.1 ∉ exclude).length = fields.length := by
          simpa using congrArg List.length h
        have hkept := List.length_filter_eq_length_iff.mp hlength
        rw [List.filter_eq_self.mpr hkept] at h
        have hself : ∀ field ∈ fields, (field.1, stripExcludedFields exclude field.2) = field :=
          List.map_eq_map_iff.mp (h.trans (List.map_id fields).symm)
        rintro (⟨hmem, hkey⟩ | ⟨hmem, hvalue⟩ | _)
        · exact absurd hkey (by simpa using hkept _ hmem)
        · exact (ih _ hmem).mp (congrArg Prod.snd (hself _ hmem)) hvalue
      · intro h
        have hkept : ∀ field ∈ fields, decide (field.1 ∉ exclude) = true := by
          intro field hmem
          simpa using fun hkey => h (.key hmem hkey)
        have hself : ∀ field ∈ fields, (field.1, stripExcludedFields exclude field.2) = field :=
          fun field hmem => by rw [(ih field hmem).mpr fun hvalue => h (.value hmem hvalue)]
        rw [List.filter_eq_self.mpr hkept, List.map_congr_left hself, List.map_id']
  | hnull | hbool b | hnum n | hstr s =>
      refine iff_of_true rfl ?_
      rintro ⟨⟩

/-- An exclusion that changes at most the order of keys changes nothing. -/
theorem stripExcludedFields_eq_self_of_canonical {v : Json} (hv : v.UniqueKeys)
    (h : (stripExcludedFields exclude v).canonical = v.canonical) :
    stripExcludedFields exclude v = v := by
  induction v using Json.ind with
  | harr items ih =>
      cases hv with
      | arr hitems =>
          rw [stripExcludedFields_arr] at h ⊢
          rw [Json.canonical_arr, Json.canonical_arr, Json.arr.injEq, List.map_map] at h
          have hself : ∀ item ∈ items, stripExcludedFields exclude item = item :=
            fun item hmem => ih item hmem (hitems item hmem) (List.map_eq_map_iff.mp h item hmem)
          rw [List.map_congr_left hself, List.map_id']
  | hobj fields ih =>
      cases hv with
      | obj hkeys hvalues =>
          rw [stripExcludedFields_obj] at h ⊢
          rw [Json.canonical_obj, Json.canonical_obj, Json.obj.injEq] at h
          -- no member is missing, and a key has one value
          have hlength : (fields.filter fun field => field.1 ∉ exclude).length = fields.length := by
            simpa [(Json.sortFields_perm _).length_eq] using congrArg List.length h
          have hkept := List.filter_eq_self.mpr (List.length_filter_eq_length_iff.mp hlength)
          rw [hkept] at h ⊢
          have hself : ∀ field ∈ fields, (field.1, stripExcludedFields exclude field.2) = field := by
            intro field hmem
            have hleft : (field.1, (stripExcludedFields exclude field.2).canonical) ∈
                (Json.sortFields fields).map fun field => (field.1, field.2.canonical) := by
              rw [← h]
              refine List.mem_map.mpr ⟨(field.1, stripExcludedFields exclude field.2), ?_, rfl⟩
              exact Json.mem_sortFields.mpr (List.mem_map.mpr ⟨field, hmem, rfl⟩)
            obtain ⟨other, hother, heq⟩ := List.mem_map.mp hleft
            rw [Json.mem_sortFields] at hother
            rw [Prod.mk.injEq] at heq
            obtain rfl := List.inj_on_of_nodup_map hkeys hother hmem heq.1
            rw [ih other hmem (hvalues other hmem) heq.2.symm]
          rw [List.map_congr_left hself, List.map_id']
  | _ => rfl

end Strip

/-! ### Sort keys -/

/-- `record_sort_key`. -/
def recordSortKey (t : ScalarText) (value : Json) : List Char :=
  let recordId := ((value.get "record_id").bind Json.asStr).getD ""
  recordId.toList ++ unitSeparator :: value.stableJson t

/-- What follows the last occurrence of an element is determined. -/
theorem eq_of_append_cons_eq {α : Type} {a : α} {xs ys xs' ys' : List α} (hy : a ∉ ys)
    (hy' : a ∉ ys') (h : xs ++ a :: ys = xs' ++ a :: ys') : ys = ys' := by
  rcases List.append_eq_append_iff.mp h with ⟨between, -, hcons⟩ | ⟨between, -, hcons⟩
  · cases between with
    | nil => exact (List.cons.inj hcons).2
    | cons b between => exact absurd (by rw [(List.cons.inj hcons).2]; simp) hy
  · cases between with
    | nil => exact (List.cons.inj hcons).2.symm
    | cons b between => exact absurd (by rw [(List.cons.inj hcons).2]; simp) hy'

/-- **The sort key tells apart** what differs in more than the order of object keys. -/
theorem recordSortKey_eq_iff {t : ScalarText} (ht : t.Faithful) {v w : Json} (hv : v.UniqueKeys)
    (hw : w.UniqueKeys) : recordSortKey t v = recordSortKey t w ↔ v.canonical = w.canonical := by
  unfold recordSortKey
  constructor
  · intro h
    rw [← Json.stableJson_eq_iff_canonical ht]
    -- the last separator of a key ends the record id
    exact eq_of_append_cons_eq (Json.unitSeparator_notMem ht v) (Json.unitSeparator_notMem ht w) h
  · intro h
    rw [Json.asStr_get_eq hv hw h "record_id", (Json.stableJson_eq_iff_canonical ht v w).mpr h]

/-! ### Payloads -/

/-- `SignatureOptions`; the derived default does not include the flags, a missing field does. -/
structure SignatureOptions where
  excludeFields : List String := []
  includeDiscoveryFlags : Bool := false
  deriving DecidableEq, Repr

/-- `default_include_discovery_flags`. -/
def defaultIncludeDiscoveryFlags : Bool := true

/-- The excluded fields; without options there are none. -/
def excludedFields (signature : Option SignatureOptions) : List String :=
  (signature.map SignatureOptions.excludeFields).getD []

/-- The flags are part of what is hashed; without options they are. -/
def includesFlags (signature : Option SignatureOptions) : Bool :=
  (signature.map SignatureOptions.includeDiscoveryFlags).getD true

/-- Flags that say something: neither `null` nor an empty object. -/
def presentFlags (discoveryFlags : Option Json) : Option Json :=
  (discoveryFlags.map toJsonable).filter fun flags => flags ≠ .obj [] ∧ flags ≠ .null

/-- The records of a group in the order of their keys, and the flags if there are any. -/
def groupPayload (t : ScalarText) (records : List Json) (flags : Option Json) : Json :=
  let payload := Json.insert "records" (.arr (KeySort.sortByKey (recordSortKey t) records)) (.obj [])
  match flags with
  | some flags => Json.insert "discovery_flags" flags payload
  | none => payload

/-- `metadata_payload_by_group`. -/
def metadataPayloadByGroup (t : ScalarText) (grouped : BTreeMap (List Json))
    (discoveryFlags : Option Json) (signature : Option SignatureOptions) : BTreeMap Json :=
  let exclude := excludedFields signature
  let flags := if includesFlags signature then presentFlags discoveryFlags else none
  grouped.map fun _ records =>
    groupPayload t (records.map fun record => stripUnlessEmpty exclude (toJsonable record)) flags

/-- `metadata_storage_payload_by_group`: no exclusions, and the flags always. -/
def metadataStoragePayloadByGroup (t : ScalarText) (grouped : BTreeMap (List Json))
    (discoveryFlags : Option Json) : BTreeMap Json :=
  grouped.map fun _ records =>
    groupPayload t (records.map toJsonable) (presentFlags discoveryFlags)

/-- `no_records_payload`. -/
def noRecordsPayload : BTreeMap Json :=
  Std.ExtTreeMap.insert ∅ "default"
    (.obj [("records", .arr []), ("discovery_status", .str "no_records")])

/-! ### Signatures -/

section Signatures

variable (digest : List Char → String) (t : ScalarText)

/-- `discovery_signature`. -/
def discoverySignature (payloadByGroup : BTreeMap Json) : String :=
  digest ((Json.obj payloadByGroup.toList).stableJson t)

/-- `no_records_signature`. -/
def noRecordsSignature : String := discoverySignature digest t noRecordsPayload

/-- The stored rows without the excluded fields, one for each group. -/
def strippedRows (exclude : List String) (records : List (String × Json)) : BTreeMap Json :=
  records.foldl (fun canonical row =>
    canonical.insert row.1 (stripUnlessEmpty exclude (toJsonable row.2))) ∅

/-- `existing_signature_from_records`. -/
def existingSignatureFromRecords (records : List (String × Json))
    (signature : Option SignatureOptions) : String :=
  discoverySignature digest t (strippedRows (excludedFields signature) records)

/-- `should_skip_tap`. -/
def shouldSkipTap (storedSig : Option String) (archiveRecords : List (String × Json))
    (signatureOpts : SignatureOptions) : Bool :=
  match storedSig with
  | some s =>
      !s.isEmpty && existingSignatureFromRecords digest t archiveRecords (some signatureOpts) == s
  | none => false

/-- The signature of a batch, as `persist_changed_or_unchanged` computes it. -/
def batchSignature (metadata : List Json) (discoveryFlags : Option Json)
    (signature : Option SignatureOptions) : String :=
  discoverySignature digest t
    (metadataPayloadByGroup t (groupMetadataByGroupKey metadata) discoveryFlags signature)

end Signatures

end Beampipe
