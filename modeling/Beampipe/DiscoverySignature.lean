/-
What a discovery signature tells apart.

Two batches of prepared metadata have one signature exactly when, without the excluded fields, each
group has the same records in both, in whatever order and with object keys in whatever order, and
the flags that are hashed are the same.  Flags are hashed with a group, so those of a batch without
groups do not count.

The rows that a batch is stored as give the signature of the batch when the exclusion takes nothing
from the rows that it does not take from the records: the stored flags are inside the rows, and the
records of a row are in the order of keys of the records before the exclusion.

Main definitions:

* `Beampipe.SameRecords` — the same records in another order, up to the order of object keys;
* `Beampipe.hashedFlags` — the flags that the signature of a group covers;
* `Beampipe.FlagsAgree`, `Beampipe.KeepsRecordOrder` — what the stored rows need.

Main results:

* `Beampipe.discoverySignature_eq_iff` — payloads with one signature have the same groups up to the
  order of object keys;
* `Beampipe.batchSignature_eq_iff` — **signatures tell apart the batches** that differ in more than
  order;
* `Beampipe.existingSignature_eq_iff` — **when stored rows give the signature of their batch**.
-/

import Beampipe.Discovery

set_option relaxedAutoImplicit false
set_option autoImplicit false

namespace Beampipe

open Json

variable {t : ScalarText} {digest : List Char → String}

/-! ### Payloads up to the order of keys -/

/-- Payloads with one signature have the same groups up to the order of object keys. -/
theorem discoverySignature_eq_iff (ht : t.Faithful) (hdigest : Function.Injective digest)
    (payload payload' : BTreeMap Json) :
    discoverySignature digest t payload = discoverySignature digest t payload' ↔
      ∀ groupKey : String, payload[groupKey]?.map canonical = payload'[groupKey]?.map canonical := by
  have hcanonical : ∀ payload : BTreeMap Json, canonical (.obj payload.toList) =
      .obj (KeySort.sortByKey Prod.fst (payload.map fun _ value => value.canonical).toList) := by
    intro payload
    rw [canonical, canonicalFields_eq, Std.ExtTreeMap.toList_map]
  rw [discoverySignature, discoverySignature, hdigest.eq_iff, stableJson_eq_iff_canonical ht,
    hcanonical, hcanonical, Json.obj.injEq]
  constructor
  · intro h groupKey
    have hperm : (payload.map fun _ value => value.canonical).toList.Perm
        (payload'.map fun _ value => value.canonical).toList := KeySort.perm_of_sortByKey_eq h
    have hmem : ∀ value, (payload.map fun _ value => value.canonical)[groupKey]? = some value ↔
        (payload'.map fun _ value => value.canonical)[groupKey]? = some value := by
      intro value
      rw [← Std.ExtTreeMap.mem_toList_iff_getElem?_eq_some,
        ← Std.ExtTreeMap.mem_toList_iff_getElem?_eq_some, hperm.mem_iff]
    have hget := Option.ext hmem
    rwa [Std.ExtTreeMap.getElem?_map, Std.ExtTreeMap.getElem?_map] at hget
  · intro h
    have hmap : (payload.map fun _ value => value.canonical) =
        payload'.map fun _ value => value.canonical := by
      refine Std.ExtTreeMap.ext_getElem? fun groupKey => ?_
      rw [Std.ExtTreeMap.getElem?_map, Std.ExtTreeMap.getElem?_map, h groupKey]
    rw [hmap]

/-- The payload of a group with its records in a given order. -/
def payloadOf (records : List Json) (flags : Option Json) : Json :=
  .obj (("records", .arr records) :: (flags.map fun flags => ("discovery_flags", flags)).toList)

theorem groupPayload_eq (records : List Json) (flags : Option Json) :
    groupPayload t records flags =
      payloadOf (KeySort.sortByKey (recordSortKey t) records) flags := by
  cases flags <;> rfl

/-- Payloads of groups agree in their records one by one, and in their flags. -/
theorem canonical_payloadOf_eq_iff {records records' : List Json} {flags flags' : Option Json} :
    canonical (payloadOf records flags) = canonical (payloadOf records' flags') ↔
      records.map canonical = records'.map canonical ∧
        flags.map canonical = flags'.map canonical := by
  have hsort : ∀ records flags, canonical (payloadOf records flags) =
      .obj (KeySort.sortByKey Prod.fst (("records", .arr (records.map canonical)) ::
        ((flags.map canonical).map fun flags => ("discovery_flags", flags)).toList)) := by
    intro records flags
    rw [payloadOf, canonical, canonicalFields_eq]
    cases flags <;> simp [canonical_arr]
  rw [hsort, hsort, Json.obj.injEq]
  constructor
  · intro h
    have hperm := KeySort.perm_of_sortByKey_eq h
    have hrecords : ("records", Json.arr (records.map canonical)) ∈
        ("records", Json.arr (records'.map canonical)) ::
          ((flags'.map canonical).map fun flags => ("discovery_flags", flags)).toList :=
      hperm.subset (by simp)
    have hhead : records.map canonical = records'.map canonical := by
      simpa using hrecords
    rw [hhead] at hperm
    have hflags := hperm.cons_inv
    refine ⟨hhead, ?_⟩
    cases hleft : flags.map canonical <;> cases hright : flags'.map canonical <;>
      simp_all
  · rintro ⟨hrecords, hflags⟩
    rw [hrecords, hflags]

/-! ### The same records -/

/-- The same records in another order, up to the order of object keys. -/
def SameRecords (records records' : List Json) : Prop :=
  ∃ permuted, records.Perm permuted ∧ List.Forall₂ Reorders permuted records'

theorem sameRecords_iff {records records' : List Json} (h : ∀ record ∈ records, record.UniqueKeys) :
    SameRecords records records' ↔ (records.map canonical).Perm (records'.map canonical) := by
  constructor
  · rintro ⟨permuted, hperm, hreorders⟩
    have hvalues : permuted.map canonical = records'.map canonical := by
      rw [← List.forall₂_eq_eq_eq, List.forall₂_map_left_iff, List.forall₂_map_right_iff]
      refine List.Forall₂.imp ?_ ((List.forall₂_and_left _ _).mpr
        ⟨fun v hv => h v (hperm.symm.subset hv), hreorders⟩)
      rintro v w ⟨hv, hvw⟩
      exact (canonical_eq_of_reorders hv hvw).2
    exact (hperm.map canonical).trans (.of_eq hvalues)
  · intro hperm
    -- the permutation of the canonical records is one of the records
    have hcomp : Relation.Comp (List.Forall₂ fun v w : Json => v.canonical = w) List.Perm records
        (records'.map canonical) := by
      refine ⟨records.map canonical, ?_, hperm⟩
      rw [List.forall₂_map_right_iff]
      exact List.forall₂_same.mpr fun _ _ => rfl
    rw [List.forall₂_comp_perm_eq_perm_comp_forall₂] at hcomp
    obtain ⟨permuted, hpermuted, hvalues⟩ := hcomp
    rw [List.forall₂_map_right_iff] at hvalues
    refine ⟨permuted, hpermuted, List.Forall₂.imp ?_ ((List.forall₂_and_left _ _).mpr
      ⟨fun v hv => h v (hpermuted.symm.subset hv), hvalues⟩)⟩
    rintro v w ⟨hv, hvw⟩
    exact (reorders_iff hv).mpr hvw

/-- Records sorted by their keys agree one by one when they are the same records. -/
theorem sorted_canonical_eq_iff (ht : t.Faithful) {records records' : List Json}
    (h : ∀ record ∈ records, record.UniqueKeys) (h' : ∀ record ∈ records', record.UniqueKeys) :
    (KeySort.sortByKey (recordSortKey t) records).map canonical =
        (KeySort.sortByKey (recordSortKey t) records').map canonical ↔
      SameRecords records records' := by
  rw [sameRecords_iff h]
  constructor
  · intro hsorted
    have hperm : ∀ records : List Json, ((KeySort.sortByKey (recordSortKey t) records).map
        canonical).Perm (records.map canonical) := fun records =>
      (KeySort.sortByKey_perm records).map canonical
    exact (hperm records).symm.trans (hsorted ▸ hperm records')
  · intro hperm
    exact KeySort.map_sortByKey_eq hperm fun v hv w hw => recordSortKey_eq_iff ht (h v hv) (h' w hw)

/-! ### Signatures of batches -/

/-- The flags that the signature of a group covers. -/
def hashedFlags (signature : Option SignatureOptions) (discoveryFlags : Option Json) :
    Option Json :=
  if includesFlags signature then presentFlags discoveryFlags else none

/-- The values of a batch are JSON objects without double keys, at any depth. -/
structure BatchUniqueKeys (metadata : List Json) (discoveryFlags : Option Json) : Prop where
  records : ∀ record ∈ metadata, record.UniqueKeys
  flags : ∀ flags ∈ discoveryFlags, flags.UniqueKeys

/-- The records of a group without the excluded fields. -/
def strippedRecordsOf (signature : Option SignatureOptions) (groupKey : String)
    (metadata : List Json) : List Json :=
  (recordsOf groupKey metadata).map (stripExcludedFields (excludedFields signature))

section Batches

variable {metadata : List Json} {discoveryFlags : Option Json}
  {signature : Option SignatureOptions}

theorem mem_of_presentFlags {flags : Json} (h : presentFlags discoveryFlags = some flags) :
    discoveryFlags = some flags := by
  cases discoveryFlags with
  | none => simp [presentFlags] at h
  | some given => simpa [presentFlags, Option.filter_eq_some_iff] using And.left <|
      (Option.filter_eq_some_iff.mp h)

theorem uniqueKeys_of_hashedFlags (h : BatchUniqueKeys metadata discoveryFlags) {flags : Json}
    (hflags : hashedFlags signature discoveryFlags = some flags) : flags.UniqueKeys := by
  unfold hashedFlags at hflags
  split at hflags
  · exact h.flags flags (mem_of_presentFlags hflags)
  · cases hflags

theorem uniqueKeys_of_mem_recordsOf (h : BatchUniqueKeys metadata discoveryFlags)
    {groupKey : String} {record : Json} (hmem : record ∈ recordsOf groupKey metadata) :
    record.UniqueKeys :=
  h.records record (List.mem_of_mem_filter hmem)

theorem uniqueKeys_of_mem_strippedRecordsOf (h : BatchUniqueKeys metadata discoveryFlags)
    {groupKey : String} : ∀ record ∈ strippedRecordsOf signature groupKey metadata,
      record.UniqueKeys := by
  intro record hmem
  obtain ⟨before, hbefore, rfl⟩ := List.mem_map.mp hmem
  exact (uniqueKeys_of_mem_recordsOf h hbefore).strip _

/-- The payload of a group. -/
theorem getElem?_metadataPayloadByGroup (metadata : List Json) (discoveryFlags : Option Json)
    (signature : Option SignatureOptions) (groupKey : String) :
    (metadataPayloadByGroup t (groupMetadataByGroupKey metadata) discoveryFlags
        signature)[groupKey]? =
      if recordsOf groupKey metadata = [] then none
      else some (payloadOf
        (KeySort.sortByKey (recordSortKey t) (strippedRecordsOf signature groupKey metadata))
        (hashedFlags signature discoveryFlags)) := by
  simp only [metadataPayloadByGroup, Std.ExtTreeMap.getElem?_map,
    getElem?_groupMetadataByGroupKey, toJsonable_eq, stripUnlessEmpty_eq, groupPayload_eq]
  by_cases hempty : recordsOf groupKey metadata = []
  · rw [if_pos hempty, if_pos hempty, Option.map_none]
  · rw [if_neg hempty, if_neg hempty]
    rfl

/-- The row of a group. -/
theorem getElem?_metadataStoragePayloadByGroup (metadata : List Json)
    (discoveryFlags : Option Json) (groupKey : String) :
    (metadataStoragePayloadByGroup t (groupMetadataByGroupKey metadata)
        discoveryFlags)[groupKey]? =
      if recordsOf groupKey metadata = [] then none
      else some (payloadOf
        (KeySort.sortByKey (recordSortKey t) (recordsOf groupKey metadata))
        (presentFlags discoveryFlags)) := by
  simp only [metadataStoragePayloadByGroup, Std.ExtTreeMap.getElem?_map,
    getElem?_groupMetadataByGroupKey, groupPayload_eq, map_toJsonable]
  by_cases hempty : recordsOf groupKey metadata = []
  · rw [if_pos hempty, if_pos hempty, Option.map_none]
  · rw [if_neg hempty, if_neg hempty, Option.map_some]

theorem strippedRecordsOf_eq_nil_iff {groupKey : String} :
    strippedRecordsOf signature groupKey metadata = [] ↔ recordsOf groupKey metadata = [] :=
  List.map_eq_nil_iff

end Batches

/-! ### What a signature tells apart -/

/-- Values that may be missing agree up to the order of object keys. -/
theorem option_map_canonical_eq_iff {flags flags' : Option Json}
    (h : ∀ v, flags = some v → v.UniqueKeys) :
    flags.map canonical = flags'.map canonical ↔ Option.Rel Reorders flags flags' := by
  cases flags with
  | none => cases flags' with
    | none => exact iff_of_true rfl .none
    | some w => exact iff_of_false (by simp) (by rintro ⟨⟩)
  | some v => cases flags' with
    | none => exact iff_of_false (by simp) (by rintro ⟨⟩)
    | some w =>
        rw [Option.map_some, Option.map_some, Option.some.injEq, ← reorders_iff (h v rfl)]
        constructor
        · exact .some
        · rintro ⟨hvw⟩
          exact hvw

section TellsApart

variable {metadata metadata' : List Json} {discoveryFlags discoveryFlags' : Option Json}

/-- **Signatures tell apart the batches** that differ in more than order: batches have one signature
when every group has the same records in both, after the exclusions, and the hashed flags of a batch
that has a group at all are the same. -/
theorem batchSignature_eq_iff (ht : t.Faithful) (hdigest : Function.Injective digest)
    (signature : Option SignatureOptions) (h : BatchUniqueKeys metadata discoveryFlags)
    (h' : BatchUniqueKeys metadata' discoveryFlags') :
    batchSignature digest t metadata discoveryFlags signature =
        batchSignature digest t metadata' discoveryFlags' signature ↔
      (∀ groupKey, SameRecords (strippedRecordsOf signature groupKey metadata)
        (strippedRecordsOf signature groupKey metadata')) ∧
      ((∃ groupKey, recordsOf groupKey metadata ≠ []) →
        Option.Rel Reorders (hashedFlags signature discoveryFlags)
          (hashedFlags signature discoveryFlags')) := by
  -- one group: both batches have it, with the same payload, or neither has it
  have hgroup : ∀ groupKey,
      ((metadataPayloadByGroup t (groupMetadataByGroupKey metadata) discoveryFlags
          signature)[groupKey]?.map canonical =
        (metadataPayloadByGroup t (groupMetadataByGroupKey metadata') discoveryFlags'
          signature)[groupKey]?.map canonical ↔
      SameRecords (strippedRecordsOf signature groupKey metadata)
          (strippedRecordsOf signature groupKey metadata') ∧
        (recordsOf groupKey metadata ≠ [] →
          Option.Rel Reorders (hashedFlags signature discoveryFlags)
            (hashedFlags signature discoveryFlags'))) := by
    intro groupKey
    rw [getElem?_metadataPayloadByGroup, getElem?_metadataPayloadByGroup,
      ← sorted_canonical_eq_iff ht (uniqueKeys_of_mem_strippedRecordsOf h)
        (uniqueKeys_of_mem_strippedRecordsOf h'),
      ← option_map_canonical_eq_iff fun flags => uniqueKeys_of_hashedFlags h]
    have hnil : ∀ {records : List Json},
        (KeySort.sortByKey (recordSortKey t) records).map canonical = [] ↔ records = [] := by
      intro records
      rw [List.map_eq_nil_iff, KeySort.sortByKey_eq_nil_iff]
    by_cases hempty : recordsOf groupKey metadata = []
    · have hleft : strippedRecordsOf signature groupKey metadata = [] :=
        strippedRecordsOf_eq_nil_iff.mpr hempty
      rw [if_pos hempty, hleft]
      by_cases hempty' : recordsOf groupKey metadata' = []
      · have hright : strippedRecordsOf signature groupKey metadata' = [] :=
          strippedRecordsOf_eq_nil_iff.mpr hempty'
        simp [hempty, hempty', hright]
      · rw [if_neg hempty']
        refine iff_of_false (by simp) fun hsame => hempty' ?_
        exact strippedRecordsOf_eq_nil_iff.mp (hnil.mp hsame.1.symm)
    · by_cases hempty' : recordsOf groupKey metadata' = []
      · have hright : strippedRecordsOf signature groupKey metadata' = [] :=
          strippedRecordsOf_eq_nil_iff.mpr hempty'
        rw [if_neg hempty, if_pos hempty', hright]
        refine iff_of_false (by simp) fun hsame => hempty ?_
        exact strippedRecordsOf_eq_nil_iff.mp (hnil.mp hsame.1)
      · rw [if_neg hempty, if_neg hempty', Option.map_some, Option.map_some, Option.some.injEq,
          canonical_payloadOf_eq_iff]
        simp [hempty]
  rw [batchSignature, batchSignature, discoverySignature_eq_iff ht hdigest]
  constructor
  · intro hall
    refine ⟨fun groupKey => ((hgroup groupKey).mp (hall groupKey)).1, ?_⟩
    rintro ⟨groupKey, hrecords⟩
    exact ((hgroup groupKey).mp (hall groupKey)).2 hrecords
  · rintro ⟨hrecords, hflags⟩ groupKey
    exact (hgroup groupKey).mpr ⟨hrecords groupKey, fun hne => hflags ⟨groupKey, hne⟩⟩

/-! ### Order does not count -/

/-- A record is in the same group whatever the order of its keys. -/
theorem groupKeyOf_eq_of_reorders {v w : Json} (hv : v.UniqueKeys) (h : Reorders v w) :
    groupKeyOf v = groupKeyOf w := by
  obtain ⟨hw, heq⟩ := canonical_eq_of_reorders hv h
  rw [groupKeyOf, groupKeyOf, asStr_get_eq hv hw heq]

/-- The groups of reordered batches have the same records, with and without the exclusions. -/
theorem SameRecords.stripped (h : ∀ record ∈ metadata, record.UniqueKeys)
    (hsame : SameRecords metadata metadata') (signature : Option SignatureOptions)
    (groupKey : String) :
    SameRecords (strippedRecordsOf signature groupKey metadata)
      (strippedRecordsOf signature groupKey metadata') := by
  obtain ⟨permuted, hperm, hreorders⟩ := hsame
  refine ⟨strippedRecordsOf signature groupKey permuted, (hperm.filter _).map _, ?_⟩
  have hunique : List.Forall₂ (fun v w => v.UniqueKeys ∧ Reorders v w) permuted metadata' :=
    (List.forall₂_and_left _ _).mpr ⟨fun v hv => h v (hperm.symm.subset hv), hreorders⟩
  have hfilter : List.Forall₂ (fun v w => v.UniqueKeys ∧ Reorders v w) (recordsOf groupKey permuted)
      (recordsOf groupKey metadata') := by
    refine List.rel_filter ?_ hunique
    rintro v w ⟨hv, hvw⟩
    simp only [groupKeyOf_eq_of_reorders hv hvw]
  rw [strippedRecordsOf, strippedRecordsOf, List.forall₂_map_left_iff, List.forall₂_map_right_iff]
  exact hfilter.imp fun v w hvw => hvw.2.strip _

/-- Flags say nothing in whatever order of their keys. -/
theorem presents_iff_of_reorders {v w : Json} (h : Reorders v w) :
    (v ≠ .obj [] ∧ v ≠ .null) ↔ (w ≠ .obj [] ∧ w ≠ .null) := by
  induction h with
  | refl v => rfl
  | trans _ _ ih ih' => exact ih.trans ih'
  | @keys fields fields' hperm =>
      have hnil : fields = [] ↔ fields' = [] := by
        rw [← List.length_eq_zero_iff, hperm.length_eq, List.length_eq_zero_iff]
      simp [hnil]
  | item before after _ _ => simp
  | field before after key _ _ => simp

theorem hashedFlags_reorders (signature : Option SignatureOptions)
    (h : Option.Rel Reorders discoveryFlags discoveryFlags') :
    Option.Rel Reorders (hashedFlags signature discoveryFlags)
      (hashedFlags signature discoveryFlags') := by
  unfold hashedFlags
  split
  · cases h with
    | none => exact .none
    | @some v w hvw =>
        have hpresent := presents_iff_of_reorders hvw
        simp only [presentFlags, Option.map_some, toJsonable_eq, Option.filter_some, hpresent]
        by_cases hkept : w ≠ .obj [] ∧ w ≠ .null
        · rw [if_pos (decide_eq_true hkept), if_pos (decide_eq_true hkept)]
          exact .some hvw
        · rw [if_neg (by simpa using hkept), if_neg (by simpa using hkept)]
          exact .none
  · exact .none

/-- The order of the records and of object keys does not change a signature. -/
theorem batchSignature_eq_of_sameRecords (ht : t.Faithful) (hdigest : Function.Injective digest)
    (signature : Option SignatureOptions) (h : BatchUniqueKeys metadata discoveryFlags)
    (h' : BatchUniqueKeys metadata' discoveryFlags') (hsame : SameRecords metadata metadata')
    (hflags : Option.Rel Reorders discoveryFlags discoveryFlags') :
    batchSignature digest t metadata discoveryFlags signature =
      batchSignature digest t metadata' discoveryFlags' signature :=
  (batchSignature_eq_iff ht hdigest signature h h').mpr
    ⟨hsame.stripped h.records signature, fun _ => hashedFlags_reorders signature hflags⟩

end TellsApart

/-- **Signatures are canonical.**  The stable text determines a value up to the order of object
keys; reordering the records of a batch, or object keys in it, leaves its signature; and batches
with one signature differ in order only, and in the flags only when neither has a group. -/
theorem signatures_canonical (ht : t.Faithful) (hdigest : Function.Injective digest) :
    (∀ v w : Json, v.UniqueKeys → w.UniqueKeys →
      (v.stableJson t = w.stableJson t ↔ Reorders v w)) ∧
    ∀ (signature : Option SignatureOptions) (metadata metadata' : List Json)
      (discoveryFlags discoveryFlags' : Option Json),
      BatchUniqueKeys metadata discoveryFlags → BatchUniqueKeys metadata' discoveryFlags' →
      (SameRecords metadata metadata' → Option.Rel Reorders discoveryFlags discoveryFlags' →
        batchSignature digest t metadata discoveryFlags signature =
          batchSignature digest t metadata' discoveryFlags' signature) ∧
      (batchSignature digest t metadata discoveryFlags signature =
          batchSignature digest t metadata' discoveryFlags' signature ↔
        (∀ groupKey, SameRecords (strippedRecordsOf signature groupKey metadata)
          (strippedRecordsOf signature groupKey metadata')) ∧
        ((∃ groupKey, recordsOf groupKey metadata ≠ []) →
          Option.Rel Reorders (hashedFlags signature discoveryFlags)
            (hashedFlags signature discoveryFlags'))) := by
  refine ⟨fun v w hv _ => stableJson_eq_iff ht hv, ?_⟩
  intro signature metadata metadata' discoveryFlags discoveryFlags' h h'
  exact ⟨batchSignature_eq_of_sameRecords ht hdigest signature h h',
    batchSignature_eq_iff ht hdigest signature h h'⟩

/-- A digest for runs on fixed inputs: the text itself. -/
def plainDigest (text : List Char) : String := String.ofList text

theorem plainDigest_injective : Function.Injective plainDigest := fun _ _ h =>
  String.ofList_inj.mp h

/-- Two records that change places, one of them with its keys in another order. -/
theorem signatures_canonical_plain :
    batchSignature plainDigest .plain
        [.obj [("group_key", .str "1"), ("record_id", .str "b")],
          .obj [("record_id", .str "a"), ("group_key", .str "1")]] none none =
      batchSignature plainDigest .plain
        [.obj [("group_key", .str "1"), ("record_id", .str "a")],
          .obj [("group_key", .str "1"), ("record_id", .str "b")]] none none := by
  have hunique : ∀ names : List (String × String), (names.map Prod.fst).Nodup →
      (Json.obj (names.map fun name => (name.1, .str name.2))).UniqueKeys := by
    intro names hnames
    refine .obj (by simpa [Function.comp_def] using hnames) fun field hfield => ?_
    obtain ⟨name, -, rfl⟩ := List.mem_map.mp hfield
    exact .str name.2
  refine ((signatures_canonical ScalarText.plain_faithful plainDigest_injective).2 none _ _ _ _
    ⟨?_, by simp⟩ ⟨?_, by simp⟩).1 ?_ .none
  · rintro record (_ | ⟨_, _ | ⟨_, ⟨⟩⟩⟩)
    · exact hunique [("group_key", "1"), ("record_id", "b")] (by decide)
    · exact hunique [("record_id", "a"), ("group_key", "1")] (by decide)
  · rintro record (_ | ⟨_, _ | ⟨_, ⟨⟩⟩⟩)
    · exact hunique [("group_key", "1"), ("record_id", "a")] (by decide)
    · exact hunique [("group_key", "1"), ("record_id", "b")] (by decide)
  · exact ⟨_, .swap _ _ _, .cons (.keys (.swap _ _ _)) (.cons (.refl _) .nil)⟩

/-- The flags of batches without groups are in no signature. -/
theorem empty_batches_share_signature :
    ¬ ∀ (signature : Option SignatureOptions) (metadata metadata' : List Json)
      (discoveryFlags discoveryFlags' : Option Json),
      BatchUniqueKeys metadata discoveryFlags → BatchUniqueKeys metadata' discoveryFlags' →
      (batchSignature plainDigest .plain metadata discoveryFlags signature =
          batchSignature plainDigest .plain metadata' discoveryFlags' signature ↔
        (∀ groupKey, SameRecords (strippedRecordsOf signature groupKey metadata)
          (strippedRecordsOf signature groupKey metadata')) ∧
        Option.Rel Reorders (hashedFlags signature discoveryFlags)
          (hashedFlags signature discoveryFlags')) := by
  intro h
  have hflags : (Json.obj [("ready", .bool true)]).UniqueKeys := by
    refine .obj (by simp) ?_
    rintro field (_ | ⟨_, ⟨⟩⟩)
    exact .bool true
  have hequal := h none [] [] (some (.obj [("ready", .bool true)])) none
    ⟨by simp, by simpa using hflags⟩ ⟨by simp, by simp⟩
  have hrel := (hequal.mp (by decide +kernel)).2
  rw [show hashedFlags none (some (.obj [("ready", .bool true)])) =
    some (.obj [("ready", .bool true)]) by decide +kernel] at hrel
  cases hrel

/-! ### Stored rows -/

/-- Rows in any order, one for each group, are the groups again. -/
theorem strippedRows_eq {exclude : List String} {rows : List (String × Json)}
    {stored : BTreeMap Json} (h : rows.Perm stored.toList) :
    strippedRows exclude rows = stored.map fun _ value => stripExcludedFields exclude value := by
  have hof : strippedRows exclude rows = Std.ExtTreeMap.ofList
      (rows.map fun row => (row.1, stripExcludedFields exclude row.2)) compare := by
    rw [Std.ExtTreeMap.ofList_eq_foldl, List.foldl_map, strippedRows]
    simp
  have hdistinct : (rows.map fun row => (row.1, stripExcludedFields exclude row.2)).Pairwise
      fun a b => ¬ compare a.1 b.1 = .eq := by
    rw [List.pairwise_map]
    refine h.symm.pairwise Std.ExtTreeMap.distinct_keys_toList ?_
    intro a b hab hba
    exact hab (by rw [Std.LawfulEqCmp.compare_eq_iff_eq] at hba ⊢; exact hba.symm)
  rw [hof]
  refine Std.ExtTreeMap.ext_getElem? fun groupKey => ?_
  rw [Std.ExtTreeMap.getElem?_map]
  cases hget : stored[groupKey]? with
  | some value =>
      have hmem : (groupKey, value) ∈ rows :=
        h.symm.subset (Std.ExtTreeMap.mem_toList_iff_getElem?_eq_some.mpr hget)
      exact Std.ExtTreeMap.getElem?_ofList_of_mem Std.ReflCmp.compare_self hdistinct
        (List.mem_map.mpr ⟨_, hmem, rfl⟩)
  | none =>
      refine Std.ExtTreeMap.getElem?_ofList_of_contains_eq_false ?_
      rw [List.map_map, List.contains_eq_mem, decide_eq_false_iff_not]
      intro hmem
      obtain ⟨row, hrow, hkey⟩ := List.mem_map.mp hmem
      have hsome := Std.ExtTreeMap.mem_toList_iff_getElem?_eq_some.mp (h.subset hrow)
      rw [show row.1 = groupKey from hkey, hget] at hsome
      cases hsome

/-- What the exclusion leaves of a stored row. -/
theorem strip_payloadOf {exclude : List String} (records : List Json) (flags : Option Json)
    (hrecords : "records" ∉ exclude) :
    stripExcludedFields exclude (payloadOf records flags) =
      payloadOf (records.map (stripExcludedFields exclude))
        (if "discovery_flags" ∈ exclude then none
          else flags.map (stripExcludedFields exclude)) := by
  rw [payloadOf, stripExcludedFields_obj]
  cases flags with
  | none => simp [payloadOf, hrecords, stripExcludedFields_arr]
  | some flags =>
      by_cases hflags : "discovery_flags" ∈ exclude
      · simp [payloadOf, hrecords, hflags, stripExcludedFields_arr]
      · simp [payloadOf, hrecords, hflags, stripExcludedFields_arr]

/-- A row without its records is not the payload of a group. -/
theorem strip_payloadOf_ne {exclude : List String} {records records' : List Json}
    {flags flags' : Option Json} (hrecords : "records" ∈ exclude) :
    (stripExcludedFields exclude (payloadOf records flags)).canonical ≠
      (payloadOf records' flags').canonical := by
  rw [payloadOf, payloadOf, stripExcludedFields_obj, canonical_obj, canonical_obj, Ne,
    Json.obj.injEq]
  intro h
  have hright : ("records", (Json.arr records').canonical) ∈ (sortFields (("records",
      .arr records') :: (flags'.map fun flags => ("discovery_flags", flags)).toList)).map
        fun field => (field.1, field.2.canonical) :=
    List.mem_map.mpr ⟨("records", .arr records'), by simp, rfl⟩
  rw [← h] at hright
  obtain ⟨field, hfield, hkey⟩ := List.mem_map.mp hright
  obtain ⟨before, hbefore, rfl⟩ := List.mem_map.mp (mem_sortFields.mp hfield)
  have hkept := of_decide_eq_true (List.mem_filter.mp hbefore).2
  exact hkept ((Prod.mk.inj hkey).1 ▸ hrecords)

/-- Flags that say something are hashed with a row as they are hashed with its batch: included and
free of excluded fields, or neither included nor left in the row. -/
def FlagsAgree (signature : Option SignatureOptions) (discoveryFlags : Option Json) : Prop :=
  ∀ flags, presentFlags discoveryFlags = some flags →
    if includesFlags signature then
      "discovery_flags" ∉ excludedFields signature ∧
        ¬ MentionsField (excludedFields signature) flags
    else "discovery_flags" ∈ excludedFields signature

/-- Without the excluded fields the records have their keys in the same order as with them. -/
def KeepsRecordOrder (t : ScalarText) (signature : Option SignatureOptions)
    (records : List Json) : Prop :=
  ∀ record ∈ records, ∀ other ∈ records, recordSortKey t record < recordSortKey t other →
    recordSortKey t (stripExcludedFields (excludedFields signature) record) ≤
      recordSortKey t (stripExcludedFields (excludedFields signature) other)

section StoredRows

variable {metadata : List Json} {discoveryFlags : Option Json}

theorem flagsAgree_iff (signature : Option SignatureOptions)
    (h : ∀ flags ∈ discoveryFlags, flags.UniqueKeys) :
    FlagsAgree signature discoveryFlags ↔
      (if "discovery_flags" ∈ excludedFields signature then none
        else (presentFlags discoveryFlags).map
          (stripExcludedFields (excludedFields signature))).map canonical =
      (hashedFlags signature discoveryFlags).map canonical := by
  unfold FlagsAgree hashedFlags
  cases hpresent : presentFlags discoveryFlags with
  | none => simp
  | some flags =>
      have hunique := h flags (mem_of_presentFlags hpresent)
      have hself : (stripExcludedFields (excludedFields signature) flags).canonical =
          flags.canonical ↔ ¬ MentionsField (excludedFields signature) flags := by
        rw [← stripExcludedFields_eq_self_iff]
        exact ⟨stripExcludedFields_eq_self_of_canonical _ hunique, fun heq => by rw [heq]⟩
      by_cases hexcluded : "discovery_flags" ∈ excludedFields signature
      · cases includesFlags signature <;> simp [hexcluded]
      · cases includesFlags signature <;> simp [hexcluded, hself]

/-- **When stored rows give the signature of their batch**: the batch has no group, or the exclusion
leaves the records of a row in place and in order, and its flags as they are hashed. -/
theorem existingSignature_eq_iff (ht : t.Faithful) (hdigest : Function.Injective digest)
    (signature : Option SignatureOptions) (h : BatchUniqueKeys metadata discoveryFlags)
    {rows : List (String × Json)} (hrows : rows.Perm (metadataStoragePayloadByGroup t
      (groupMetadataByGroupKey metadata) discoveryFlags).toList) :
    existingSignatureFromRecords digest t rows signature =
        batchSignature digest t metadata discoveryFlags signature ↔
      (∀ groupKey, recordsOf groupKey metadata = []) ∨
        ("records" ∉ excludedFields signature ∧ FlagsAgree signature discoveryFlags ∧
          ∀ groupKey, KeepsRecordOrder t signature (recordsOf groupKey metadata)) := by
  -- one group, compared with its row
  have hgroup : ∀ groupKey, recordsOf groupKey metadata ≠ [] →
      ((stripExcludedFields (excludedFields signature) (payloadOf
          (KeySort.sortByKey (recordSortKey t) (recordsOf groupKey metadata))
          (presentFlags discoveryFlags))).canonical =
        (payloadOf (KeySort.sortByKey (recordSortKey t)
          (strippedRecordsOf signature groupKey metadata))
          (hashedFlags signature discoveryFlags)).canonical ↔
      "records" ∉ excludedFields signature ∧ FlagsAgree signature discoveryFlags ∧
        KeepsRecordOrder t signature (recordsOf groupKey metadata)) := by
    intro groupKey _
    by_cases hrecords : "records" ∈ excludedFields signature
    · -- the row has lost its records, the payload has them
      refine iff_of_false (fun heq => ?_) (by simp [hrecords])
      exact strip_payloadOf_ne hrecords heq
    · rw [strip_payloadOf _ _ hrecords, canonical_payloadOf_eq_iff, flagsAgree_iff signature h.flags,
        strippedRecordsOf, KeySort.map_sortByKey_map_eq_iff]
      · simp only [hrecords, not_false_eq_true, true_and]
        exact and_comm
      · intro v hv w hw
        exact recordSortKey_eq_iff ht ((uniqueKeys_of_mem_recordsOf h hv).strip _)
          ((uniqueKeys_of_mem_recordsOf h hw).strip _)
      · intro v hv w hw hkey
        have hv' := uniqueKeys_of_mem_recordsOf h hv
        have hw' := uniqueKeys_of_mem_recordsOf h hw
        rw [recordSortKey_eq_iff ht hv' hw', ← reorders_iff hv'] at hkey
        rw [recordSortKey_eq_iff ht (hv'.strip _) (hw'.strip _), ← reorders_iff (hv'.strip _)]
        exact hkey.strip _
  rw [existingSignatureFromRecords, batchSignature, discoverySignature_eq_iff ht hdigest,
    strippedRows_eq hrows]
  have hlookup : ∀ groupKey : String,
      ((metadataStoragePayloadByGroup t (groupMetadataByGroupKey metadata) discoveryFlags).map
          fun _ value => stripExcludedFields (excludedFields signature) value)[groupKey]?.map
            canonical =
        (metadataPayloadByGroup t (groupMetadataByGroupKey metadata) discoveryFlags
          signature)[groupKey]?.map canonical ↔
      (recordsOf groupKey metadata ≠ [] →
        "records" ∉ excludedFields signature ∧ FlagsAgree signature discoveryFlags ∧
          KeepsRecordOrder t signature (recordsOf groupKey metadata)) := by
    intro groupKey
    rw [Std.ExtTreeMap.getElem?_map, getElem?_metadataStoragePayloadByGroup,
      getElem?_metadataPayloadByGroup]
    by_cases hempty : recordsOf groupKey metadata = []
    · simp [hempty]
    · rw [if_neg hempty, if_neg hempty, Option.map_some, Option.map_some, Option.map_some,
        Option.some.injEq, hgroup groupKey hempty]
      simp [hempty]
  constructor
  · intro hall
    by_cases hnone : ∀ groupKey, recordsOf groupKey metadata = []
    · exact .inl hnone
    · obtain ⟨groupKey, hne⟩ := not_forall.mp hnone
      obtain ⟨hrecords, hflags, -⟩ := (hlookup groupKey).mp (hall groupKey) hne
      refine .inr ⟨hrecords, hflags, fun other => ?_⟩
      by_cases hempty : recordsOf other metadata = []
      · intro record hrecord
        rw [hempty] at hrecord
        cases hrecord
      · exact ((hlookup other).mp (hall other) hempty).2.2
  · rintro (hnone | ⟨hrecords, hflags, horder⟩) groupKey
    · exact (hlookup groupKey).mpr fun hne => absurd (hnone groupKey) hne
    · exact (hlookup groupKey).mpr fun _ => ⟨hrecords, hflags, horder groupKey⟩

end StoredRows

/-- A record of one group. -/
def sampleRecord : Json :=
  .obj [("source_identifier", .str "101"), ("group_key", .str "3001"), ("record_id", .str "a.ms")]

/-- Flags that say something. -/
def sampleFlags : Json := .obj [("ready", .bool true)]

theorem uniqueKeys_sampleRecord : sampleRecord.UniqueKeys := by
  refine .obj (by decide) fun field hfield => ?_
  obtain ⟨name, -, rfl⟩ := List.mem_map.mp (show field ∈ [("source_identifier", "101"),
    ("group_key", "3001"), ("record_id", "a.ms")].map fun name => (name.1, Json.str name.2)
    from hfield)
  exact .str name.2

theorem batchUniqueKeys_sample : BatchUniqueKeys [sampleRecord] (some sampleFlags) where
  records record hrecord := by
    rw [List.mem_singleton.mp hrecord]
    exact uniqueKeys_sampleRecord
  flags flags hflags := by
    obtain rfl := Option.some.inj hflags
    refine .obj (by decide) fun field hfield => ?_
    rw [List.mem_singleton.mp hfield]
    exact .bool true

theorem existingSignature_eq_iff_sample :
    existingSignatureFromRecords plainDigest .plain
        (metadataStoragePayloadByGroup .plain (groupMetadataByGroupKey [sampleRecord])
          (some sampleFlags)).toList (some ⟨["ready"], true⟩) =
      batchSignature plainDigest .plain [sampleRecord] (some sampleFlags)
        (some ⟨["ready"], true⟩) ↔
    (∀ groupKey, recordsOf groupKey [sampleRecord] = []) ∨
      ("records" ∉ ["ready"] ∧ FlagsAgree (some ⟨["ready"], true⟩) (some sampleFlags) ∧
        ∀ groupKey, KeepsRecordOrder .plain (some ⟨["ready"], true⟩)
          (recordsOf groupKey [sampleRecord])) :=
  existingSignature_eq_iff ScalarText.plain_faithful plainDigest_injective
    (some ⟨["ready"], true⟩) batchUniqueKeys_sample (.refl _)

/-- Flags that are not included in signatures are hashed with the stored rows all the same. -/
theorem stored_flags_change_signature :
    canonicalizePreparedMetadataIdentities .plain [sampleRecord] = .ok [sampleRecord] ∧
    existingSignatureFromRecords plainDigest .plain
        (metadataStoragePayloadByGroup .plain (groupMetadataByGroupKey [sampleRecord])
          (some sampleFlags)).toList (some ⟨[], false⟩) ≠
      batchSignature plainDigest .plain [sampleRecord] (some sampleFlags) (some ⟨[], false⟩) := by
  decide +kernel

end Beampipe
