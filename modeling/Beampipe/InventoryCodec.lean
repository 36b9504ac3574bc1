/-
The canonical form of a retrieved inventory.

The bytes that are retrieved from the cluster are read as a report, the report is written again in
canonical form, and the bytes are refused when they are any others.  Reading follows the derived
deserializers: a struct is an object with known keys, each at most once, or an array of its first
fields in order.

Main definitions:

* `Beampipe.structMembers`, `Beampipe.ExecutionOutputVerificationRequest.deserialize` — the derived
  deserializers;
* `Beampipe.parseCanonicalOutputInventory` — what is accepted of the retrieved bytes;
* `Beampipe.InventoryReader.Reads` — what is assumed of the scalar codecs.

Main results:

* `Beampipe.ExecutionOutputVerificationRequest.deserialize_canonical` — a report is read back from
  its canonical value;
* `Beampipe.canonical_inventory_codec` — **the retrieved bytes are accepted exactly when they are
  the canonical bytes of the report**, and canonical bytes determine a value up to the order of
  keys.
-/

import Mathlib
import Beampipe.JsonText
import Beampipe.OutputInventory

set_option relaxedAutoImplicit false
set_option autoImplicit false

namespace Beampipe

/-! ### Deserializing -/

/-- What `serde_json`, `uuid` and `chrono` read, and how an error reads. -/
structure InventoryReader extends ScalarReader where
  uuid : String → Option Uuid
  time : String → Option ℤ
  errorText : ByteArray → String

/-- The members of a struct without unknown fields: of an object whose keys are known and different,
or of an array of its first fields. -/
def structMembers (names : List String) : Json → Option Json
  | .obj fields =>
      if fields.all (fun field => names.contains field.1) && decide (fields.map Prod.fst).Nodup then
        some (.obj fields)
      else none
  | .arr items => if items.length ≤ names.length then some (.obj (names.zip items)) else none
  | _ => none

/-- An unsigned 64-bit integer. -/
def readU64 : Json → Option ℕ
  | .num (.int n) => if 0 ≤ n ∧ n < 18446744073709551616 then some n.toNat else none
  | _ => none

/-- A signed 32-bit integer. -/
def readI32 : Json → Option ℤ
  | .num (.int n) => if -2147483648 ≤ n ∧ n ≤ 2147483647 then some n else none
  | _ => none

/-- A list. -/
def readList {α : Type} (read : Json → Option α) : Json → Option (List α)
  | .arr items => items.mapM read
  | _ => none

/-- A map; of two entries with one key the later one counts. -/
def readCounts : Json → Option (BTreeMap ℕ)
  | .obj fields =>
      (fields.mapM fun field => (readU64 field.2).map fun count => (field.1, count)).map
        fun entries => Std.ExtTreeMap.ofList entries compare
  | _ => none

/-- `#[serde(default)]`. -/
def readDefault {α : Type} (default : α) (read : Json → Option α) : Option Json → Option α
  | none => some default
  | some value => read value

/-- A field of a struct that has to be there. -/
def readField {α : Type} (read : Json → Option α) (name : String) (members : Json) : Option α :=
  (members.get name).bind read

/-- The derived deserializer of a product. -/
def OutputInventoryProduct.deserialize (tree : Json) : Option OutputInventoryProduct :=
  (structMembers ["path", "bytes", "sha256"] tree).bind fun members =>
  (readField Json.asStr "path" members).bind fun path =>
  (readField readU64 "bytes" members).bind fun bytes =>
  (readField Json.asStr "sha256" members).map fun sha256 => ⟨path, bytes, sha256⟩

section Reader

variable (reader : InventoryReader)

/-- The derived deserializer of an acknowledgement. -/
def OutputPublicationAcknowledgement.deserialize (tree : Json) :
    Option OutputPublicationAcknowledgement :=
  (structMembers ["acknowledged", "publisher", "receipt_id", "published_at"] tree).bind
    fun members =>
  (readField Json.asBool "acknowledged" members).bind fun acknowledged =>
  (readField Json.asStr "publisher" members).bind fun publisher =>
  (readField Json.asStr "receipt_id" members).bind fun receiptId =>
  (readField (fun value => value.asStr.bind reader.time) "published_at" members).map
    fun publishedAt => ⟨acknowledged, publisher, receiptId, publishedAt⟩

/-- The derived deserializer of a report. -/
def ExecutionOutputVerificationRequest.deserialize (tree : Json) :
    Option ExecutionOutputVerificationRequest :=
  (structMembers
      ["execution_id", "execution_attempt", "schema", "patterns", "pattern_counts", "products",
        "inventory_sha256", "durable_destination_uri", "publication"] tree).bind fun members =>
  (readField (fun value => value.asStr.bind reader.uuid) "execution_id" members).bind
    fun executionId =>
  (readField readI32 "execution_attempt" members).bind fun executionAttempt =>
  (readField Json.asStr "schema" members).bind fun schema =>
  (readDefault [] (readList Json.asStr) (members.get "patterns")).bind fun patterns =>
  (readDefault ∅ readCounts (members.get "pattern_counts")).bind fun patternCounts =>
  (readField (readList OutputInventoryProduct.deserialize) "products" members).bind
    fun products =>
  (readField Json.asStr "inventory_sha256" members).bind fun inventorySha256 =>
  (readField Json.asStr "durable_destination_uri" members).bind fun durableDestinationUri =>
  (readField (OutputPublicationAcknowledgement.deserialize reader) "publication" members).map
    fun publication =>
      { executionId := executionId
        executionAttempt := executionAttempt
        schema := schema
        patterns := patterns
        patternCounts := patternCounts
        products := products
        inventorySha256 := inventorySha256
        durableDestinationUri := durableDestinationUri
        publication := publication }

/-- `serde_json::from_slice` at the report. -/
def fromSlice (bytes : ByteArray) : Option ExecutionOutputVerificationRequest :=
  (String.fromUTF8? bytes).bind fun text =>
  (parseJson reader.toScalarReader text.toList).bind fun tree =>
  ExecutionOutputVerificationRequest.deserialize reader tree

/-! ### The retrieved bytes -/

variable (env : InventoryEnv)

/-- The bytes that `canonical_json_bytes` writes. -/
def canonicalUtf8 (value : Json) : ByteArray :=
  (String.ofList (canonicalJsonBytes env value)).toByteArray

/-- `parse_canonical_output_inventory` with a bound of its own. -/
def parseCanonicalOutputInventoryWithin (limit : ℕ) (bytes : ByteArray) :
    Except OutputInventoryValidationError ExecutionOutputVerificationRequest :=
  if bytes.size = 0 ∨ limit < bytes.size then
    .error (.invalid s!"output inventory receipt must contain 1-{limit} bytes")
  else
    match fromSlice reader bytes with
    | none =>
        .error (.invalid ("remote output inventory is not valid JSON: " ++ reader.errorText bytes))
    | some report =>
        if canonicalUtf8 env (report.toValue env) = bytes then .ok report
        else .error (.invalid "remote output inventory is not canonical JSON")

/-- `parse_canonical_output_inventory`. -/
def parseCanonicalOutputInventory (bytes : ByteArray) :
    Except OutputInventoryValidationError ExecutionOutputVerificationRequest :=
  parseCanonicalOutputInventoryWithin reader env maxOutputInventoryBytes bytes

/-- The instants of `DateTime<Utc>`, in nanoseconds. -/
def IsInstant (instant : ℤ) : Prop :=
  -8334601228800000000000 ≤ instant ∧ instant ≤ 8210266876799999999999

instance (instant : ℤ) : Decidable (IsInstant instant) := inferInstanceAs (Decidable (_ ∧ _))

/-- The scalar codecs: what was written is read back, and what is read is of its type. -/
structure InventoryReader.Reads : Prop extends reader.toScalarReader.Reads env.text where
  uuid : ∀ id, id < 340282366920938463463374607431768211456 →
    reader.uuid (env.uuidText id) = some id
  uuid_lt : ∀ text id, reader.uuid text = some id → id < 340282366920938463463374607431768211456
  time : ∀ instant, IsInstant instant → reader.time (env.timeText instant) = some instant
  time_range : ∀ text instant, reader.time text = some instant → IsInstant instant

end Reader

/-- The numbers of the report are of their types: 128 bits for the id, 32 bits with a sign for the
attempt, 64 bits without for the sizes and counts. -/
structure ExecutionOutputVerificationRequest.InRange
    (request : ExecutionOutputVerificationRequest) : Prop where
  executionId : request.executionId < 340282366920938463463374607431768211456
  executionAttempt : -2147483648 ≤ request.executionAttempt ∧
    request.executionAttempt ≤ 2147483647
  bytes : ∀ product ∈ request.products, product.bytes < 18446744073709551616
  patternCounts : ∀ entry ∈ request.patternCounts.toList, entry.2 < 18446744073709551616
  publishedAt : IsInstant request.publication.publishedAt

/-! ### Reading back -/

/-- The members of an object with known and different keys. -/
theorem structMembers_canonical {names : List String} {fields : List (String × Json)}
    (hnames : ∀ field ∈ fields, field.1 ∈ names) (hkeys : (fields.map Prod.fst).Nodup) :
    structMembers names (Json.canonical (.obj fields)) = some (Json.canonical (.obj fields)) := by
  have hfst : ((Json.sortFields fields).map fun field => (field.1, field.2.canonical)).map
      Prod.fst = (Json.sortFields fields).map Prod.fst := by
    rw [List.map_map]
    rfl
  have hnodup : ((Json.sortFields fields).map Prod.fst).Nodup :=
    ((Json.sortFields_perm fields).map Prod.fst).nodup_iff.mpr hkeys
  rw [Json.canonical_obj, structMembers, hfst]
  refine if_pos ?_
  rw [Bool.and_eq_true, decide_eq_true_iff, List.all_eq_true]
  refine ⟨fun field hfield => ?_, hnodup⟩
  obtain ⟨other, hother, rfl⟩ := List.mem_map.mp hfield
  exact List.contains_iff_mem.mpr (hnames other (Json.mem_sortFields.mp hother))

/-- A list is read back item by item. -/
theorem mapM_option_map {α β : Type} {write : α → β} {read : β → Option α} {xs : List α}
    (h : ∀ x ∈ xs, read (write x) = some x) : (xs.map write).mapM read = some xs := by
  rw [optionMapM_eq_some_iff, List.map_map]
  exact List.map_congr_left h

theorem readU64_int {n : ℕ} (h : n < 18446744073709551616) :
    readU64 (.num (.int n)) = some n := by
  rw [readU64, if_pos (by omega), Int.toNat_natCast]

/-! ### The values of a report -/

section Values

variable (env : InventoryEnv)

theorem OutputInventoryProduct.uniqueKeys (product : OutputInventoryProduct) :
    product.toValue.UniqueKeys := by
  refine .obj (by simp) fun field hfield => ?_
  simp only [List.mem_cons, List.not_mem_nil, or_false] at hfield
  rcases hfield with rfl | rfl | rfl
  · exact .str _
  · exact .num _
  · exact .str _

theorem OutputInventoryProduct.readable {product : OutputInventoryProduct}
    (h : product.bytes < 18446744073709551616) : product.toValue.ReadableNumbers := by
  refine .obj fun field hfield => ?_
  simp only [List.mem_cons, List.not_mem_nil, or_false] at hfield
  rcases hfield with rfl | rfl | rfl
  · exact .str _
  · exact .int (by omega) (by omega)
  · exact .str _

/-- A field is read from the canonical value as it is from the value itself. -/
theorem readField_canonical {α : Type} {read : Json → Option α} {name : String} {v w : Json}
    {a : α} (hv : v.UniqueKeys) (hget : v.get name = some w) (hread : read w.canonical = some a) :
    readField read name v.canonical = some a := by
  rw [readField, Json.get_canonical hv, hget, Option.map_some, Option.bind_some, hread]

/-- A product is read back from its canonical value. -/
theorem OutputInventoryProduct.deserialize_canonical {product : OutputInventoryProduct}
    (h : product.bytes < 18446744073709551616) :
    deserialize product.toValue.canonical = some product := by
  have hkeys := product.uniqueKeys
  have hmembers : structMembers ["path", "bytes", "sha256"] product.toValue.canonical =
      some product.toValue.canonical := structMembers_canonical (by simp) (by simp)
  have hpath : readField Json.asStr "path" product.toValue.canonical = some product.path :=
    readField_canonical hkeys rfl rfl
  have hbytes : readField readU64 "bytes" product.toValue.canonical = some product.bytes :=
    readField_canonical hkeys rfl (readU64_int h)
  have hsha256 : readField Json.asStr "sha256" product.toValue.canonical = some product.sha256 :=
    readField_canonical hkeys rfl rfl
  rw [deserialize, hmembers, Option.bind_some, hpath, Option.bind_some, hbytes, Option.bind_some,
    hsha256, Option.map_some]

theorem OutputPublicationAcknowledgement.uniqueKeys
    (publication : OutputPublicationAcknowledgement) : (publication.toValue env).UniqueKeys := by
  refine .obj (by simp) fun field hfield => ?_
  simp only [List.mem_cons, List.not_mem_nil, or_false] at hfield
  rcases hfield with rfl | rfl | rfl | rfl
  · exact .bool _
  · exact .str _
  · exact .str _
  · exact .str _

theorem OutputPublicationAcknowledgement.readable
    (publication : OutputPublicationAcknowledgement) :
    (publication.toValue env).ReadableNumbers := by
  refine .obj fun field hfield => ?_
  simp only [List.mem_cons, List.not_mem_nil, or_false] at hfield
  rcases hfield with rfl | rfl | rfl | rfl
  · exact .bool _
  · exact .str _
  · exact .str _
  · exact .str _

/-- An acknowledgement is read back from its canonical value. -/
theorem OutputPublicationAcknowledgement.deserialize_canonical {reader : InventoryReader}
    (hr : reader.Reads env) {publication : OutputPublicationAcknowledgement}
    (h : IsInstant publication.publishedAt) :
    deserialize reader (publication.toValue env).canonical = some publication := by
  have hkeys := publication.uniqueKeys env
  have hmembers : structMembers ["acknowledged", "publisher", "receipt_id", "published_at"]
      (publication.toValue env).canonical = some (publication.toValue env).canonical :=
    structMembers_canonical (by simp) (by simp)
  have hacknowledged : readField Json.asBool "acknowledged" (publication.toValue env).canonical =
      some publication.acknowledged := readField_canonical hkeys rfl rfl
  have hpublisher : readField Json.asStr "publisher" (publication.toValue env).canonical =
      some publication.publisher := readField_canonical hkeys rfl rfl
  have hreceipt : readField Json.asStr "receipt_id" (publication.toValue env).canonical =
      some publication.receiptId := readField_canonical hkeys rfl rfl
  have htime : readField (fun value => value.asStr.bind reader.time) "published_at"
      (publication.toValue env).canonical = some publication.publishedAt :=
    readField_canonical hkeys rfl (hr.time publication.publishedAt h)
  rw [deserialize, hmembers, Option.bind_some, hacknowledged, Option.bind_some, hpublisher,
    Option.bind_some, hreceipt, Option.bind_some, htime, Option.map_some]

/-- A list of texts is read back. -/
theorem readList_texts (texts : List String) :
    readList Json.asStr (Json.canonical (.arr (texts.map .str))) = some texts := by
  rw [Json.canonical_arr, List.map_map, readList]
  exact mapM_option_map fun _ _ => rfl

/-- The products are read back. -/
theorem readList_products {products : List OutputInventoryProduct}
    (h : ∀ product ∈ products, product.bytes < 18446744073709551616) :
    readList OutputInventoryProduct.deserialize
      (Json.canonical (.arr (products.map OutputInventoryProduct.toValue))) = some products := by
  rw [Json.canonical_arr, List.map_map, readList]
  exact mapM_option_map fun product hproduct =>
    OutputInventoryProduct.deserialize_canonical (h product hproduct)

/-- The entries of a map have different keys. -/
theorem nodup_keys_toList {α : Type} (m : BTreeMap α) : (m.toList.map Prod.fst).Nodup := by
  rw [List.nodup_iff_pairwise_ne, List.pairwise_map]
  refine Std.ExtTreeMap.distinct_keys_toList.imp fun hdistinct heq => hdistinct ?_
  rw [heq]
  exact Std.ReflCmp.compare_self

/-- A map is made of its entries, in any order. -/
theorem ofList_of_perm_toList {α : Type} {m : BTreeMap α} {entries : List (String × α)}
    (h : entries.Perm m.toList) : (Std.ExtTreeMap.ofList entries compare : BTreeMap α) = m := by
  have hnodup : (entries.map Prod.fst).Nodup :=
    (h.map Prod.fst).nodup_iff.mpr (nodup_keys_toList m)
  have hdistinct : entries.Pairwise fun a b => ¬ compare a.1 b.1 = .eq := by
    rw [List.nodup_iff_pairwise_ne, List.pairwise_map] at hnodup
    exact hnodup.imp fun hne heq => hne (Std.LawfulEqCmp.eq_of_compare heq)
  refine Std.ExtTreeMap.ext_getElem? fun key => ?_
  cases hget : m[key]? with
  | some value =>
      have hmem : (key, value) ∈ entries :=
        h.mem_iff.mpr (Std.ExtTreeMap.mem_toList_iff_getElem?_eq_some.mpr hget)
      exact Std.ExtTreeMap.getElem?_ofList_of_mem Std.ReflCmp.compare_self hdistinct hmem
  | none =>
      refine Std.ExtTreeMap.getElem?_ofList_of_contains_eq_false ?_
      rw [Bool.eq_false_iff]
      intro hcontains
      obtain ⟨entry, hentry, rfl⟩ := List.mem_map.mp (List.contains_iff_mem.mp hcontains)
      have hsome := Std.ExtTreeMap.mem_toList_iff_getElem?_eq_some.mp (h.mem_iff.mp hentry)
      rw [hget] at hsome
      cases hsome

/-- The counts are read back. -/
theorem readCounts_canonical {counts : BTreeMap ℕ}
    (h : ∀ entry ∈ counts.toList, entry.2 < 18446744073709551616) :
    readCounts (Json.canonical (.obj (counts.toList.map fun entry =>
      (entry.1, .num (.int entry.2))))) = some counts := by
  -- the members of the canonical value are the entries of the map in some order
  obtain ⟨entries, hentries, hperm⟩ : ∃ entries : List (String × ℕ),
      Json.sortFields (counts.toList.map fun entry => (entry.1, .num (.int entry.2))) =
        entries.map (fun entry => (entry.1, .num (.int entry.2))) ∧
          entries.Perm counts.toList := by
    have hsorted : (KeySort.sortByKey Prod.fst counts.toList).map
        (fun entry => (entry.1, Json.num (.int entry.2))) =
          Json.sortFields (counts.toList.map fun entry => (entry.1, .num (.int entry.2))) :=
      KeySort.map_sortByKey fun _ _ _ _ => Iff.rfl
    exact ⟨_, hsorted.symm, KeySort.sortByKey_perm counts.toList⟩
  have hread : ((entries.map fun entry => (entry.1, Json.num (.int entry.2))).map fun field =>
      (field.1, field.2.canonical)).mapM (fun field : String × Json =>
        (readU64 field.2).map fun count => (field.1, count)) = some entries := by
    rw [List.map_map]
    refine mapM_option_map fun entry hentry => ?_
    have hu64 := readU64_int (h entry (hperm.mem_iff.mp hentry))
    have hcanonical : Json.canonical (.num (.int entry.2)) = .num (.int entry.2) := rfl
    simp only [Function.comp_apply, hcanonical]
    rw [hu64, Option.map_some]
  rw [Json.canonical_obj, hentries, readCounts, hread, Option.map_some,
    ofList_of_perm_toList hperm]

theorem ExecutionOutputVerificationRequest.uniqueKeys
    (request : ExecutionOutputVerificationRequest) : (request.toValue env).UniqueKeys := by
  refine .obj (by simp) fun field hfield => ?_
  simp only [List.mem_cons, List.not_mem_nil, or_false] at hfield
  rcases hfield with rfl | rfl | rfl | rfl | rfl | rfl | rfl | rfl | rfl
  · exact .str _
  · exact .num _
  · exact .str _
  · refine .arr fun item hitem => ?_
    obtain ⟨pattern, -, rfl⟩ := List.mem_map.mp hitem
    exact .str _
  · refine .obj ?_ fun entry hentry => ?_
    · rw [List.map_map]
      exact nodup_keys_toList request.patternCounts
    · obtain ⟨count, -, rfl⟩ := List.mem_map.mp hentry
      exact .num _
  · refine .arr fun item hitem => ?_
    obtain ⟨product, -, rfl⟩ := List.mem_map.mp hitem
    exact product.uniqueKeys
  · exact .str _
  · exact .str _
  · exact request.publication.uniqueKeys env

theorem ExecutionOutputVerificationRequest.readable
    {request : ExecutionOutputVerificationRequest} (h : request.InRange) :
    (request.toValue env).ReadableNumbers := by
  refine .obj fun field hfield => ?_
  simp only [List.mem_cons, List.not_mem_nil, or_false] at hfield
  rcases hfield with rfl | rfl | rfl | rfl | rfl | rfl | rfl | rfl | rfl
  · exact .str _
  · have hrange := h.executionAttempt
    exact .int (by omega) (by omega)
  · exact .str _
  · refine .arr fun item hitem => ?_
    obtain ⟨pattern, -, rfl⟩ := List.mem_map.mp hitem
    exact .str _
  · refine .obj fun entry hentry => ?_
    obtain ⟨count, hcount, rfl⟩ := List.mem_map.mp hentry
    have hrange := h.patternCounts count hcount
    exact .int (by omega) (by omega)
  · refine .arr fun item hitem => ?_
    obtain ⟨product, hproduct, rfl⟩ := List.mem_map.mp hitem
    exact product.readable (h.bytes product hproduct)
  · exact .str _
  · exact .str _
  · exact request.publication.readable env

/-- **A report is read back from its canonical value.** -/
theorem ExecutionOutputVerificationRequest.deserialize_canonical {reader : InventoryReader}
    (hr : reader.Reads env) {request : ExecutionOutputVerificationRequest} (h : request.InRange) :
    deserialize reader (request.toValue env).canonical = some request := by
  have hkeys := request.uniqueKeys env
  have hmembers : structMembers
      ["execution_id", "execution_attempt", "schema", "patterns", "pattern_counts", "products",
        "inventory_sha256", "durable_destination_uri", "publication"]
      (request.toValue env).canonical = some (request.toValue env).canonical :=
    structMembers_canonical (by simp) (by simp)
  have hid : readField (fun value => value.asStr.bind reader.uuid) "execution_id"
      (request.toValue env).canonical = some request.executionId :=
    readField_canonical hkeys rfl (hr.uuid request.executionId h.executionId)
  have hattempt : readField readI32 "execution_attempt" (request.toValue env).canonical =
      some request.executionAttempt := readField_canonical hkeys rfl (if_pos h.executionAttempt)
  have hschema : readField Json.asStr "schema" (request.toValue env).canonical =
      some request.schema := readField_canonical hkeys rfl rfl
  have hpatterns : readDefault [] (readList Json.asStr)
      ((request.toValue env).canonical.get "patterns") = some request.patterns := by
    rw [Json.get_canonical hkeys]
    exact readList_texts request.patterns
  have hcounts : readDefault ∅ readCounts
      ((request.toValue env).canonical.get "pattern_counts") = some request.patternCounts := by
    rw [Json.get_canonical hkeys]
    exact readCounts_canonical h.patternCounts
  have hproducts : readField (readList OutputInventoryProduct.deserialize) "products"
      (request.toValue env).canonical = some request.products :=
    readField_canonical hkeys rfl (readList_products h.bytes)
  have hsha256 : readField Json.asStr "inventory_sha256" (request.toValue env).canonical =
      some request.inventorySha256 := readField_canonical hkeys rfl rfl
  have huri : readField Json.asStr "durable_destination_uri" (request.toValue env).canonical =
      some request.durableDestinationUri := readField_canonical hkeys rfl rfl
  have hpublication : readField (OutputPublicationAcknowledgement.deserialize reader)
      "publication" (request.toValue env).canonical = some request.publication :=
    readField_canonical hkeys rfl
      (OutputPublicationAcknowledgement.deserialize_canonical env hr h.publishedAt)
  rw [deserialize, hmembers, Option.bind_some, hid, Option.bind_some, hattempt, Option.bind_some,
    hschema, Option.bind_some, hpatterns, Option.bind_some, hcounts, Option.bind_some, hproducts,
    Option.bind_some, hsha256, Option.bind_some, huri, Option.bind_some, hpublication,
    Option.map_some]

end Values

/-! ### What is read is of its type -/

theorem readU64_lt {value : Json} {n : ℕ} (h : readU64 value = some n) :
    n < 18446744073709551616 := by
  unfold readU64 at h
  split at h
  · split at h
    next hrange =>
      cases h
      omega
    · cases h
  · cases h

theorem readI32_range {value : Json} {n : ℤ} (h : readI32 value = some n) :
    -2147483648 ≤ n ∧ n ≤ 2147483647 := by
  unfold readI32 at h
  split at h
  · split at h
    next hrange =>
      cases h
      exact hrange
    · cases h
  · cases h

/-- What is read of a list item by item has been read of some item. -/
theorem mem_of_mapM_option {α β : Type} {read : β → Option α} {ys : List β} {xs : List α}
    (h : ys.mapM read = some xs) : ∀ x ∈ xs, ∃ y ∈ ys, read y = some x := by
  intro x hx
  have hmem : some x ∈ ys.map read := optionMapM_eq_some_iff.mp h ▸ List.mem_map_of_mem hx
  exact List.mem_map.mp hmem

theorem readList_mem {α : Type} {read : Json → Option α} {value : Json} {xs : List α}
    (h : readList read value = some xs) : ∀ x ∈ xs, ∃ item, read item = some x := by
  unfold readList at h
  split at h
  · intro x hx
    obtain ⟨item, -, hitem⟩ := mem_of_mapM_option h x hx
    exact ⟨item, hitem⟩
  · cases h

/-- An entry of a map that was made of entries is one of them. -/
theorem mem_of_getElem?_ofList {α : Type} {entries : List (String × α)} {key : String} {a : α}
    (h : (Std.ExtTreeMap.ofList entries compare : BTreeMap α)[key]? = some a) :
    (key, a) ∈ entries := by
  have hfold : ∀ (entries : List (String × α)) (m : BTreeMap α),
      (entries.foldl (fun m entry => m.insert entry.1 entry.2) m)[key]? = some a →
        m[key]? = some a ∨ (key, a) ∈ entries := by
    intro entries
    induction entries with
    | nil => exact fun m h => .inl h
    | cons entry entries ih =>
        intro m h
        rcases ih _ h with hinsert | hmem
        · rw [Std.ExtTreeMap.getElem?_insert] at hinsert
          split at hinsert
          next heq =>
            obtain rfl : entry.1 = key := Std.LawfulEqCmp.eq_of_compare heq
            cases hinsert
            exact .inr List.mem_cons_self
          · exact .inl hinsert
        · exact .inr (List.mem_cons_of_mem _ hmem)
  rw [Std.ExtTreeMap.ofList_eq_foldl] at h
  rcases hfold entries ∅ h with hempty | hmem
  · rw [Std.ExtTreeMap.getElem?_empty] at hempty
    cases hempty
  · exact hmem

theorem readCounts_lt {value : Json} {counts : BTreeMap ℕ} (h : readCounts value = some counts) :
    ∀ entry ∈ counts.toList, entry.2 < 18446744073709551616 := by
  unfold readCounts at h
  split at h
  next fields =>
    obtain ⟨entries, hentries, rfl⟩ := Option.map_eq_some_iff.mp h
    rintro ⟨key, count⟩ hentry
    -- the entry is one of those that were read
    have hget := Std.ExtTreeMap.mem_toList_iff_getElem?_eq_some.mp hentry
    have hmem : (key, count) ∈ entries := mem_of_getElem?_ofList hget
    obtain ⟨field, -, hfield⟩ := mem_of_mapM_option hentries _ hmem
    obtain ⟨n, hn, heq⟩ := Option.map_eq_some_iff.mp hfield
    cases heq
    exact readU64_lt hn
  · cases h

theorem OutputInventoryProduct.bytes_lt {tree : Json} {product : OutputInventoryProduct}
    (h : deserialize tree = some product) : product.bytes < 18446744073709551616 := by
  unfold deserialize at h
  obtain ⟨members, -, h⟩ := Option.bind_eq_some_iff.mp h
  obtain ⟨path, -, h⟩ := Option.bind_eq_some_iff.mp h
  obtain ⟨bytes, hbytes, h⟩ := Option.bind_eq_some_iff.mp h
  obtain ⟨sha256, -, rfl⟩ := Option.map_eq_some_iff.mp h
  obtain ⟨value, -, hvalue⟩ := Option.bind_eq_some_iff.mp hbytes
  exact readU64_lt hvalue

theorem OutputPublicationAcknowledgement.isInstant {env : InventoryEnv} {reader : InventoryReader}
    (hr : reader.Reads env) {tree : Json} {publication : OutputPublicationAcknowledgement}
    (h : deserialize reader tree = some publication) : IsInstant publication.publishedAt := by
  unfold deserialize at h
  obtain ⟨members, -, h⟩ := Option.bind_eq_some_iff.mp h
  obtain ⟨acknowledged, -, h⟩ := Option.bind_eq_some_iff.mp h
  obtain ⟨publisher, -, h⟩ := Option.bind_eq_some_iff.mp h
  obtain ⟨receiptId, -, h⟩ := Option.bind_eq_some_iff.mp h
  obtain ⟨publishedAt, htime, rfl⟩ := Option.map_eq_some_iff.mp h
  obtain ⟨value, -, hvalue⟩ := Option.bind_eq_some_iff.mp htime
  obtain ⟨text, -, htext⟩ := Option.bind_eq_some_iff.mp hvalue
  exact hr.time_range text publishedAt htext

/-- The numbers of a report that was read are of their types. -/
theorem ExecutionOutputVerificationRequest.inRange_of_deserialize {env : InventoryEnv}
    {reader : InventoryReader} (hr : reader.Reads env) {tree : Json}
    {request : ExecutionOutputVerificationRequest} (h : deserialize reader tree = some request) :
    request.InRange := by
  unfold deserialize at h
  obtain ⟨members, -, h⟩ := Option.bind_eq_some_iff.mp h
  obtain ⟨executionId, hid, h⟩ := Option.bind_eq_some_iff.mp h
  obtain ⟨executionAttempt, hattempt, h⟩ := Option.bind_eq_some_iff.mp h
  obtain ⟨schema, -, h⟩ := Option.bind_eq_some_iff.mp h
  obtain ⟨patterns, -, h⟩ := Option.bind_eq_some_iff.mp h
  obtain ⟨patternCounts, hcounts, h⟩ := Option.bind_eq_some_iff.mp h
  obtain ⟨products, hproducts, h⟩ := Option.bind_eq_some_iff.mp h
  obtain ⟨inventorySha256, -, h⟩ := Option.bind_eq_some_iff.mp h
  obtain ⟨durableDestinationUri, -, h⟩ := Option.bind_eq_some_iff.mp h
  obtain ⟨publication, hpublication, rfl⟩ := Option.map_eq_some_iff.mp h
  refine ⟨?_, ?_, ?_, ?_, ?_⟩
  · obtain ⟨value, -, hvalue⟩ := Option.bind_eq_some_iff.mp hid
    obtain ⟨text, -, htext⟩ := Option.bind_eq_some_iff.mp hvalue
    exact hr.uuid_lt text executionId htext
  · obtain ⟨value, -, hvalue⟩ := Option.bind_eq_some_iff.mp hattempt
    exact readI32_range hvalue
  · intro product hproduct
    obtain ⟨value, -, hvalue⟩ := Option.bind_eq_some_iff.mp hproducts
    obtain ⟨item, hitem⟩ := readList_mem hvalue product hproduct
    exact OutputInventoryProduct.bytes_lt hitem
  · cases hvalue : members.get "pattern_counts" with
    | none =>
        rw [hvalue] at hcounts
        cases hcounts
        intro entry hentry
        rw [Std.ExtTreeMap.toList_eq_nil_iff.mpr rfl] at hentry
        cases hentry
    | some value =>
        rw [hvalue] at hcounts
        exact readCounts_lt hcounts
  · obtain ⟨value, -, hvalue⟩ := Option.bind_eq_some_iff.mp hpublication
    exact OutputPublicationAcknowledgement.isInstant hr hvalue

/-! ### The retrieved bytes -/

variable {env : InventoryEnv} {reader : InventoryReader}

/-- The canonical bytes of a report are read as the report. -/
theorem fromSlice_canonicalUtf8 (ht : env.text.Faithful) (hr : reader.Reads env)
    {request : ExecutionOutputVerificationRequest} (h : request.InRange) :
    fromSlice reader (canonicalUtf8 env (request.toValue env)) = some request := by
  have hdecode : ∀ text : String, String.fromUTF8? text.toByteArray = some text := by
    intro text
    rw [String.fromUTF8?, dif_pos text.isValidUTF8]
    rfl
  have hparse := parseJson_stableJson ht hr.toReads (request.readable env h)
  unfold fromSlice canonicalUtf8 canonicalJsonBytes
  rw [hdecode, Option.bind_some, String.toList_ofList, hparse, Option.bind_some,
    request.deserialize_canonical env hr h]

/-- The size of the canonical bytes is the number of bytes of the characters. -/
theorem canonicalUtf8_size (value : Json) :
    (canonicalUtf8 env value).size =
      ((canonicalJsonBytes env value).flatMap String.utf8EncodeChar).length := by
  unfold canonicalUtf8
  rw [String.toByteArray_ofList, List.utf8Encode, List.size_toByteArray]

/-- Canonical bytes determine a value up to the order of its keys. -/
theorem canonicalUtf8_eq_iff (ht : env.text.Faithful) {v w : Json} (hv : v.UniqueKeys) :
    canonicalUtf8 env v = canonicalUtf8 env w ↔ v.Reorders w := by
  rw [canonicalUtf8, canonicalUtf8, String.toByteArray_inj, canonicalJsonBytes, canonicalJsonBytes,
    ← Json.stableJson_eq_iff ht hv]
  exact ⟨fun h => String.ofList_injective h, fun h => by rw [h]⟩

/-- **The canonical codec**: bytes are accepted as a report exactly when they are the canonical
bytes of the report and no more than the bound allows; and canonical bytes determine a value up to
the order of its keys. -/
theorem canonical_inventory_codec (ht : env.text.Faithful) (hr : reader.Reads env) :
    (∀ limit bytes request,
        parseCanonicalOutputInventoryWithin reader env limit bytes = .ok request ↔
          request.InRange ∧ bytes = canonicalUtf8 env (request.toValue env) ∧
            1 ≤ bytes.size ∧ bytes.size ≤ limit) ∧
      ∀ v w : Json, v.UniqueKeys → w.UniqueKeys →
        (canonicalUtf8 env v = canonicalUtf8 env w ↔ v.Reorders w) := by
  refine ⟨fun limit bytes request => ?_, fun v w hv _ => canonicalUtf8_eq_iff ht hv⟩
  unfold parseCanonicalOutputInventoryWithin
  constructor
  · intro h
    split at h
    · cases h
    next hsize =>
      split at h
      · cases h
      next report hreport =>
        split at h
        next hcanonical =>
          cases h
          obtain ⟨text, -, hread⟩ := Option.bind_eq_some_iff.mp hreport
          obtain ⟨tree, -, hread⟩ := Option.bind_eq_some_iff.mp hread
          exact ⟨ExecutionOutputVerificationRequest.inRange_of_deserialize hr hread,
            hcanonical.symm, by omega, by omega⟩
        · cases h
  · rintro ⟨hrange, hbytes, hpos, hlimit⟩
    have hread := fromSlice_canonicalUtf8 ht hr hrange
    rw [← hbytes] at hread
    rw [if_neg (by omega), hread]
    exact if_pos hbytes.symm

/-! ### Scalar codecs -/

/-- The text of a number, with a text of its own for zero. -/
def numberedText (zero : String) (n : ℤ) : String :=
  if n = 0 then zero else String.ofList (ScalarText.plain.number (.int n))

/-- A numbered text is read back. -/
def readNumbered (zero text : String) : Option ℤ :=
  if text = zero then some 0
  else
    match ScalarReader.plain.number text.toList with
    | some (.int n) => some n
    | _ => none

/-- The nil UUID. -/
def nilUuidText : String := "00000000-0000-0000-0000-000000000000"

/-- The beginning of the epoch. -/
def epochText : String := "1970-01-01T00:00:00Z"

/-- Codecs that agree with the real ones on the nil UUID and on the beginning of the epoch. -/
def InventoryEnv.plain : InventoryEnv where
  text := ScalarText.plain
  digest := String.ofList
  uuidText id := numberedText nilUuidText id
  timeText := numberedText epochText
  fromValue _ := .error "unused"
  buildGlob _ := none
  parseUrl _ := none

/-- The reader of these codecs. -/
def InventoryReader.plain : InventoryReader where
  toScalarReader := ScalarReader.plain
  uuid text :=
    ((readNumbered nilUuidText text).map Int.toNat).filter fun id =>
      decide (id < 340282366920938463463374607431768211456)
  time text :=
    (readNumbered epochText text).filter fun instant => decide (IsInstant instant)
  errorText _ := "invalid"

/-- A numbered text is read back, when the text of zero has a dash behind its first character. -/
theorem readNumbered_numberedText {zero : String} (hzero : '-' ∈ zero.toList.tail) (n : ℤ) :
    readNumbered zero (numberedText zero n) = some n := by
  unfold readNumbered numberedText
  by_cases hn : n = 0
  · rw [if_pos hn, if_pos rfl, hn]
  · have hne : String.ofList (ScalarText.plain.number (.int n)) ≠ zero := by
      rintro rfl
      rw [String.toList_ofList] at hzero
      have hdigits : '-' ∈ Nat.toDigits 10 n.natAbs := by
        simp only [ScalarText.plain] at hzero
        split at hzero
        · exact hzero
        · exact List.mem_of_mem_tail hzero
      exact (isNumberChar_of_mem_toDigits hdigits).2.1 rfl
    rw [if_neg hn, if_neg hne, String.toList_ofList, ScalarReader.plain_integer]

/-- The codecs read what they write. -/
theorem InventoryReader.plain_reads : InventoryReader.plain.Reads InventoryEnv.plain where
  toReads := ScalarReader.plain_reads
  uuid id hid := by
    have hread := @readNumbered_numberedText nilUuidText (by decide +kernel) (id : ℤ)
    simp [plain, InventoryEnv.plain, hread, hid]
  uuid_lt text id h := by
    obtain ⟨-, hlt⟩ := Option.filter_eq_some_iff.mp h
    exact of_decide_eq_true hlt
  time instant hinstant := by
    have hread := @readNumbered_numberedText epochText (by decide +kernel) instant
    simp [plain, InventoryEnv.plain, hread, hinstant]
  time_range text instant h := by
    obtain ⟨-, hrange⟩ := Option.filter_eq_some_iff.mp h
    exact of_decide_eq_true hrange

/-- The report of one product. -/
def plainReport : ExecutionOutputVerificationRequest where
  executionId := 0
  executionAttempt := 2
  schema := beampipeOutputInventorySchema
  patterns := ["image/*.fits"]
  patternCounts := Std.ExtTreeMap.ofList [("image/*.fits", 1)] compare
  products := [⟨"image/a.fits", 42, "0a"⟩]
  inventorySha256 := "0b"
  durableDestinationUri := "s3://bucket/run"
  publication := ⟨true, "publisher", "receipt", 0⟩

/-- The canonical bytes of the report are accepted as the report. -/
theorem canonical_inventory_codec_sample :
    parseCanonicalOutputInventory InventoryReader.plain InventoryEnv.plain
      (canonicalUtf8 InventoryEnv.plain (plainReport.toValue InventoryEnv.plain)) =
        .ok plainReport := by
  have hcounts : ∀ entry ∈ plainReport.patternCounts.toList, entry.2 < 18446744073709551616 := by
    decide +kernel
  have hsize : 1 ≤ (canonicalUtf8 InventoryEnv.plain
      (plainReport.toValue InventoryEnv.plain)).size ∧
        (canonicalUtf8 InventoryEnv.plain (plainReport.toValue InventoryEnv.plain)).size ≤
          maxOutputInventoryBytes := by
    rw [canonicalUtf8_size]
    decide +kernel
  exact ((canonical_inventory_codec ScalarText.plain_faithful InventoryReader.plain_reads).1 _ _
    _).mpr ⟨⟨by decide, by decide, by decide, hcounts, by decide⟩, rfl, hsize⟩

end Beampipe
