/-
The canonical identities of prepared records.

The identities of a batch are made canonical in place, record by record and field by field, until
one cannot be: then the records before it are canonical already and the rest is as it was.  What a
normalizer, a validator and a grouping take for a canonical identity is compared here: what the
normalizer writes is what the validator accepts and the grouping keeps.

Main definitions:

* `Beampipe.canonicalizePreparedMetadataInPlace` — the normalization with what it leaves behind;
* `Beampipe.Canonicalizable` — a record whose identities can be made canonical;
* `Beampipe.SameButIdentities` — two records that differ in their identities at most.

Main results:

* `Beampipe.canonicalizeFields_again`, `Beampipe.canonicalizeInPlace_again` — a second run changes
  nothing and fails alike;
* `Beampipe.canonicalizePreparedMetadataIdentities_eq` — what is returned is what is left behind;
* `Beampipe.flatMap_groupMetadataByGroupKey_perm` — the groups of canonical records lose none;
* `Beampipe.canonicalize_spec` — **normalizing, validating and grouping agree.**
-/

import Beampipe.Discovery

set_option relaxedAutoImplicit false
set_option autoImplicit false

namespace Beampipe

/-! ### Valid identities -/

/-- A checked identity is canonical already. -/
theorem canonicalizeIdentity_of_valid (t : ScalarText) {index : ℕ} {object : List (String × Json)}
    {field : IdentityField} (h : validateIdentity index object field = .ok ()) :
    canonicalizeIdentity t index object field = .ok object := by
  unfold validateIdentity at h
  split at h
  next value hvalue =>
    split at h
    next hcanonical =>
      simp only [isCanonicalIdentity, Bool.and_eq_true, Bool.not_eq_true', beq_iff_eq] at hcanonical
      obtain ⟨hnonempty, htrim⟩ := hcanonical
      rw [canonicalizeIdentity]
      simp only [hvalue, ← htrim, setIdentity, hnonempty, Bool.false_eq_true, if_false,
        Json.insertField_eq_self hvalue]
    · split at h <;> cases h
  · cases h
  · cases h

theorem canonicalizeIdentities_of_valid (t : ScalarText) {index : ℕ}
    {object : List (String × Json)} {fields : List IdentityField}
    (h : fields.forM (validateIdentity index object) = .ok ()) :
    fields.foldlM (canonicalizeIdentity t index) object = .ok object := by
  induction fields with
  | nil => rfl
  | cons field fields ih =>
      obtain ⟨_, hfield, hfields⟩ := exceptBind_ok h
      rw [List.foldlM_cons, canonicalizeIdentity_of_valid t hfield]
      exact ih hfields

theorem canonicalizeRecords_of_valid (t : ScalarText) {index : ℕ} {records : List Json}
    (h : validateRecords index records = .ok ()) :
    canonicalizeRecords t index records = .ok records := by
  induction records generalizing index with
  | nil => rfl
  | cons record records ih =>
      cases record with
      | obj object =>
          rw [validateRecords] at h
          obtain ⟨_, hfields, hrest⟩ := exceptBind_ok h
          rw [canonicalizeRecords, canonicalizeIdentities_of_valid t hfields, ih hrest]
          rfl
      | _ => cases h

theorem validateIdentity_ok {index : ℕ} {object : List (String × Json)} {field : IdentityField}
    (h : validateIdentity index object field = .ok ()) :
    ∃ value, Json.lookupField field.name object = some (.str value) ∧
      isCanonicalIdentity value = true := by
  unfold validateIdentity at h
  split at h
  next value hvalue =>
    split at h
    next hcanonical => exact ⟨value, hvalue, hcanonical⟩
    · split at h <;> cases h
  · cases h
  · cases h

theorem validateRecords_ok {index : ℕ} {records : List Json}
    (h : validateRecords index records = .ok ()) :
    ∀ record ∈ records, ∃ object, record = .obj object ∧ ∀ field : IdentityField, ∃ value,
      Json.lookupField field.name object = some (.str value) ∧ isCanonicalIdentity value = true := by
  induction records generalizing index with
  | nil => exact fun record hrecord => (List.not_mem_nil hrecord).elim
  | cons first records ih =>
      cases first with
      | obj object =>
          rw [validateRecords] at h
          obtain ⟨⟨⟩, hfields, hrest⟩ := exceptBind_ok h
          obtain ⟨⟨⟩, hsource, hfields⟩ := exceptBind_ok hfields
          obtain ⟨⟨⟩, hgroup, hfields⟩ := exceptBind_ok hfields
          obtain ⟨⟨⟩, hrecord, -⟩ := exceptBind_ok hfields
          intro record hmem
          rcases List.mem_cons.mp hmem with rfl | hmem
          · refine ⟨object, rfl, fun field => ?_⟩
            cases field with
            | sourceIdentifier => exact validateIdentity_ok hsource
            | groupKey => exact validateIdentity_ok hgroup
            | recordId => exact validateIdentity_ok hrecord
          · exact ih hrest record hmem
      | _ => cases h

/-! ### One identity -/

/-- The text that an identity is made, if it is a scalar. -/
def canonicalText (t : ScalarText) : Json → Option String
  | .str value => some (trim value)
  | .num n => some (String.ofList (t.number n))
  | .bool b => some (if b then "true" else "false")
  | _ => none

/-- A value of which something is left as an identity. -/
def IsIdentityScalar : Json → Prop
  | .str value => trim value ≠ ""
  | .num _ => True
  | .bool _ => True
  | _ => False

/-- The index that an error reports. -/
def PreparedMetadataError.index : PreparedMetadataError → ℕ
  | .notObject index => index
  | .missingSourceIdentifier index => index
  | .missingGroupKey index => index
  | .missingRecordIdentity index => index
  | .unsupportedIdentityType index _ => index
  | .nonCanonicalIdentity index _ => index
  | .sourceIdentifierMismatch index _ _ => index

@[simp] theorem index_missingIdentityError (index : ℕ) (field : IdentityField) :
    (missingIdentityError index field).index = index := by
  cases field <;> rfl

/-- A character of a number is no white space. -/
theorem isWhitespace_of_isNumberChar {c : Char} (h : isNumberChar c = true) :
    isWhitespace c = false := by
  have hrange : (48 ≤ c.toNat ∧ c.toNat ≤ 57) ∨ c.toNat = 45 ∨ c.toNat = 43 ∨ c.toNat = 46 ∨
      c.toNat = 101 ∨ c.toNat = 69 := by
    simp only [isNumberChar, Bool.or_eq_true, Bool.and_eq_true, decide_eq_true_eq,
      beq_iff_eq] at h
    rcases h with ((((hdigit | rfl) | rfl) | rfl) | rfl) | rfl
    · exact .inl ⟨hdigit.1, hdigit.2⟩
    all_goals simp
  simp only [isWhitespace, Bool.or_eq_false_iff, Bool.and_eq_false_iff, decide_eq_false_iff_not,
    beq_eq_false_iff_ne]
  omega

/-- The text of an identity is canonical, unless it is empty. -/
theorem isCanonicalIdentity_canonicalText {t : ScalarText} (ht : t.Faithful) {value : Json}
    {text : String} (htext : canonicalText t value = some text) (hne : text ≠ "") :
    isCanonicalIdentity text = true := by
  have htrim : trim text = text := by
    rw [trim_eq_self_iff]
    cases value with
    | str given =>
        cases htext
        rw [trim, String.toList_ofList, trimChars_trimChars]
    | num n =>
        cases htext
        rw [String.toList_ofList]
        have hplain : ∀ c ∈ t.number n, isWhitespace c = false := fun c hc =>
          isWhitespace_of_isNumberChar (ht.number_chars n c hc)
        exact trimChars_eq_self (fun c hc => hplain c (List.mem_of_mem_head? hc))
          fun c hc => hplain c (List.mem_of_mem_getLast? hc)
    | bool b =>
        cases htext
        cases b <;> decide
    | _ => cases htext
  rw [isCanonicalIdentity, htrim]
  simpa using hne

/-- Something is made of exactly the scalars that are not blank. -/
theorem exists_canonicalText_iff {t : ScalarText} (ht : t.Faithful) {value : Json} :
    (∃ text, canonicalText t value = some text ∧ text ≠ "") ↔ IsIdentityScalar value := by
  cases value with
  | str given => simp [canonicalText, IsIdentityScalar]
  | num n =>
      simp only [canonicalText, IsIdentityScalar, iff_true]
      exact ⟨_, rfl, by simpa using ht.number_ne_nil n⟩
  | bool b => cases b <;> simp [canonicalText, IsIdentityScalar]
  | _ => simp [canonicalText, IsIdentityScalar]

/-- The identity is canonical. -/
def HasCanonical (object : List (String × Json)) (field : IdentityField) : Prop :=
  ∃ text, Json.lookupField field.name object = some (.str text) ∧ isCanonicalIdentity text = true

/-- The identity can be made canonical. -/
def HasScalar (object : List (String × Json)) (field : IdentityField) : Prop :=
  ∃ value, Json.lookupField field.name object = some value ∧ IsIdentityScalar value

section Identity

variable {t : ScalarText} {index : ℕ} {object : List (String × Json)} {field : IdentityField}

/-- An identity is set to the text of its value. -/
theorem canonicalizeIdentity_eq_set {value : Json} {text : String}
    (hvalue : Json.lookupField field.name object = some value)
    (htext : canonicalText t value = some text) :
    canonicalizeIdentity t index object field = setIdentity index field text object := by
  rw [canonicalizeIdentity, hvalue]
  cases value with
  | str given =>
      cases htext
      rfl
  | num n =>
      cases htext
      rfl
  | bool b =>
      cases htext
      rfl
  | _ => cases htext

/-- **A scalar that is not blank is replaced by a canonical text.** -/
theorem canonicalizeIdentity_of_scalar (ht : t.Faithful) (index : ℕ) {value : Json}
    (hvalue : Json.lookupField field.name object = some value) (hscalar : IsIdentityScalar value) :
    ∃ text, isCanonicalIdentity text = true ∧
      canonicalizeIdentity t index object field =
        .ok (Json.insertField field.name (.str text) object) := by
  obtain ⟨text, htext, hne⟩ := (exists_canonicalText_iff ht).2 hscalar
  refine ⟨text, isCanonicalIdentity_canonicalText ht htext hne, ?_⟩
  rw [canonicalizeIdentity_eq_set hvalue htext, setIdentity, if_neg (by simpa using hne)]

/-- **Anything else is an error** at the index of the record. -/
theorem canonicalizeIdentity_of_not_scalar (ht : t.Faithful) (index : ℕ)
    (h : ∀ value, Json.lookupField field.name object = some value → ¬ IsIdentityScalar value) :
    ∃ error, canonicalizeIdentity t index object field = .error error ∧ error.index = index := by
  cases hvalue : Json.lookupField field.name object with
  | none =>
      refine ⟨missingIdentityError index field, ?_, index_missingIdentityError index field⟩
      rw [canonicalizeIdentity, hvalue]
  | some value =>
      have hnot := h value hvalue
      cases htext : canonicalText t value with
      | some text =>
          -- the text is blank
          have hempty : text = "" := by
            by_contra hne
            exact hnot ((exists_canonicalText_iff ht).1 ⟨text, htext, hne⟩)
          refine ⟨missingIdentityError index field, ?_, index_missingIdentityError index field⟩
          rw [canonicalizeIdentity_eq_set hvalue htext, hempty]
          rfl
      | none =>
          refine ⟨.unsupportedIdentityType index field.name, ?_, rfl⟩
          rw [canonicalizeIdentity, hvalue]
          cases value with
          | str given => cases htext
          | num n => cases htext
          | bool b => cases htext
          | _ => rfl

/-- A canonical identity is valid. -/
theorem validateIdentity_of_canonical {text : String}
    (hvalue : Json.lookupField field.name object = some (.str text))
    (hcanonical : isCanonicalIdentity text = true) :
    validateIdentity index object field = .ok () := by
  rw [validateIdentity, hvalue]
  simp only [hcanonical, if_true]

/-- Canonical identities are valid. -/
theorem validateIdentities_of_canonical {fields : List IdentityField}
    (h : ∀ field ∈ fields, HasCanonical object field) :
    fields.forM (validateIdentity index object) = .ok () := by
  induction fields with
  | nil => rfl
  | cons field fields ih =>
      obtain ⟨text, hvalue, hcanonical⟩ := h field List.mem_cons_self
      rw [List.forM, validateIdentity_of_canonical hvalue hcanonical]
      exact ih fun other hother => h other (List.mem_cons_of_mem _ hother)

end Identity

/-! ### One record -/

/-- The identities of a record that are left, with what is left behind on an error. -/
def canonicalizeFields (t : ScalarText) (index : ℕ) :
    List (String × Json) → List IdentityField →
      List (String × Json) × Except PreparedMetadataError Unit
  | object, [] => (object, .ok ())
  | object, field :: fields =>
      match canonicalizeIdentity t index object field with
      | .error error => (object, .error error)
      | .ok object => canonicalizeFields t index object fields

theorem identityName_inj {field other : IdentityField} (h : field ≠ other) :
    field.name ≠ other.name := by
  cases field <;> cases other <;> first | exact absurd rfl h | decide

section Record

variable {t : ScalarText} {index : ℕ} {object : List (String × Json)}

/-- The step for a field: it is set, or the run ends where it is. -/
theorem canonicalizeFields_cons (ht : t.Faithful) (index : ℕ) (object : List (String × Json))
    (field : IdentityField) (fields : List IdentityField) :
    (HasScalar object field ∧ ∃ text, isCanonicalIdentity text = true ∧
      canonicalizeIdentity t index object field =
        .ok (Json.insertField field.name (.str text) object) ∧
      canonicalizeFields t index object (field :: fields) =
        canonicalizeFields t index (Json.insertField field.name (.str text) object) fields) ∨
    ¬ HasScalar object field ∧ ∃ error, error.index = index ∧
      canonicalizeFields t index object (field :: fields) = (object, .error error) := by
  by_cases hscalar : HasScalar object field
  · obtain ⟨value, hvalue, hvalue'⟩ := hscalar
    obtain ⟨text, hcanonical, hidentity⟩ :=
      canonicalizeIdentity_of_scalar ht index hvalue hvalue'
    refine .inl ⟨⟨value, hvalue, hvalue'⟩, text, hcanonical, hidentity, ?_⟩
    rw [canonicalizeFields, hidentity]
  · have hnot : ∀ value, Json.lookupField field.name object = some value →
        ¬ IsIdentityScalar value := fun value hvalue hvalue' => hscalar ⟨value, hvalue, hvalue'⟩
    obtain ⟨error, hidentity, hindex⟩ := canonicalizeIdentity_of_not_scalar ht index hnot
    refine .inr ⟨hscalar, error, hindex, ?_⟩
    rw [canonicalizeFields, hidentity]

/-- The run touches only the fields that it is about. -/
theorem lookup_canonicalizeFields (ht : t.Faithful) (index : ℕ) (object : List (String × Json))
    {fields : List IdentityField} {key : String} (hkey : ∀ field ∈ fields, key ≠ field.name) :
    Json.lookupField key (canonicalizeFields t index object fields).1 =
      Json.lookupField key object := by
  induction fields generalizing object with
  | nil => rfl
  | cons field fields ih =>
      rcases canonicalizeFields_cons ht index object field fields with
        ⟨-, text, -, -, hrun⟩ | ⟨-, error, -, hrun⟩
      · rw [hrun, ih _ fun other hother => hkey other (List.mem_cons_of_mem _ hother)]
        exact Json.lookupField_insertField_ne (hkey field List.mem_cons_self) _ _
      · rw [hrun]

/-- An identity that is set is still set when the others have been. -/
theorem lookup_canonicalizeFields_set (ht : t.Faithful) (index : ℕ)
    (object : List (String × Json)) {field : IdentityField} {fields : List IdentityField}
    (hnew : field ∉ fields) (text : String) :
    Json.lookupField field.name (canonicalizeFields t index
      (Json.insertField field.name (.str text) object) fields).1 = some (.str text) := by
  have hname : ∀ other ∈ fields, field.name ≠ other.name := by
    intro other hother
    refine identityName_inj ?_
    rintro rfl
    exact hnew hother
  rw [lookup_canonicalizeFields ht index _ hname, Json.lookupField_insertField_self]

/-- Whether an identity can be made canonical does not depend on the others. -/
theorem hasScalar_insert {field other : IdentityField} (h : other ≠ field) (value : Json) :
    HasScalar (Json.insertField field.name value object) other ↔ HasScalar object other := by
  rw [HasScalar, HasScalar, Json.lookupField_insertField_ne (identityName_inj h)]

/-- **A second run changes nothing and ends alike.** -/
theorem canonicalizeFields_again (ht : t.Faithful) (index : ℕ) (object : List (String × Json))
    {fields : List IdentityField}
    (hnodup : fields.Nodup) :
    canonicalizeFields t index (canonicalizeFields t index object fields).1 fields =
      canonicalizeFields t index object fields := by
  induction fields generalizing object with
  | nil => rfl
  | cons field fields ih =>
      obtain ⟨hnew, hrest⟩ := List.nodup_cons.1 hnodup
      rcases canonicalizeFields_cons ht index object field fields with
        ⟨-, text, hcanonical, -, hrun⟩ | ⟨-, error, -, hrun⟩
      · rw [hrun]
        have hset := lookup_canonicalizeFields_set ht index object hnew text
        rw [canonicalizeFields, canonicalizeIdentity_of_valid t
          (validateIdentity_of_canonical hset hcanonical)]
        exact ih _ hrest
      · rw [hrun, hrun]

/-- **The run succeeds exactly when every identity is a scalar that is not blank.** -/
theorem canonicalizeFields_ok_iff (ht : t.Faithful) (index : ℕ) (object : List (String × Json))
    {fields : List IdentityField}
    (hnodup : fields.Nodup) :
    (canonicalizeFields t index object fields).2 = .ok () ↔
      ∀ field ∈ fields, HasScalar object field := by
  induction fields generalizing object with
  | nil => simp [canonicalizeFields]
  | cons field fields ih =>
      obtain ⟨hnew, hrest⟩ := List.nodup_cons.1 hnodup
      rcases canonicalizeFields_cons ht index object field fields with
        ⟨hscalar, text, -, -, hrun⟩ | ⟨hnot, error, -, hrun⟩
      · rw [hrun, ih _ hrest, List.forall_mem_cons, and_iff_right hscalar]
        refine forall_congr' fun other => ?_
        refine forall_congr' fun hother => ?_
        refine hasScalar_insert ?_ _
        rintro rfl
        exact hnew hother
      · rw [hrun]
        constructor
        · intro h
          cases h
        · intro h
          exact absurd (h field List.mem_cons_self) hnot

/-- After a successful run every identity is canonical. -/
theorem hasCanonical_canonicalizeFields (ht : t.Faithful) {fields : List IdentityField}
    (hnodup : fields.Nodup) (h : (canonicalizeFields t index object fields).2 = .ok ()) :
    ∀ field ∈ fields, HasCanonical (canonicalizeFields t index object fields).1 field := by
  induction fields generalizing object with
  | nil => exact fun field hfield => absurd hfield List.not_mem_nil
  | cons field fields ih =>
      obtain ⟨hnew, hrest⟩ := List.nodup_cons.1 hnodup
      rcases canonicalizeFields_cons ht index object field fields with
        ⟨-, text, hcanonical, -, hrun⟩ | ⟨-, error, -, hrun⟩
      · rw [hrun] at h ⊢
        intro other hother
        rcases List.mem_cons.1 hother with rfl | hother
        · exact ⟨text, lookup_canonicalizeFields_set ht index object hnew text, hcanonical⟩
        · exact ih hrest h other hother
      · rw [hrun] at h
        cases h

/-- An error reports the index of the record. -/
theorem index_canonicalizeFields (ht : t.Faithful) {fields : List IdentityField}
    {error : PreparedMetadataError}
    (h : (canonicalizeFields t index object fields).2 = .error error) : error.index = index := by
  induction fields generalizing object with
  | nil => cases h
  | cons field fields ih =>
      rcases canonicalizeFields_cons ht index object field fields with
        ⟨-, text, -, -, hrun⟩ | ⟨-, error', hindex, hrun⟩
      · rw [hrun] at h
        exact ih h
      · rw [hrun] at h
        cases h
        exact hindex

/-- The run computes what the fold over the fields does. -/
theorem foldlM_canonicalizeIdentity (t : ScalarText) (index : ℕ) (object : List (String × Json))
    (fields : List IdentityField) :
    fields.foldlM (canonicalizeIdentity t index) object =
      (canonicalizeFields t index object fields).2.map
        fun _ => (canonicalizeFields t index object fields).1 := by
  induction fields generalizing object with
  | nil => rfl
  | cons field fields ih =>
      rw [List.foldlM_cons, canonicalizeFields]
      cases canonicalizeIdentity t index object field with
      | error error => rfl
      | ok object => exact ih object

end Record

/-! ### The batch -/

/-- The records from an index on, with what is left behind on an error. -/
def canonicalizeInPlace (t : ScalarText) :
    ℕ → List Json → List Json × Except PreparedMetadataError Unit
  | _, [] => ([], .ok ())
  | index, .obj object :: records =>
      match canonicalizeFields t index object preparedIdentityFields with
      | (object, .error error) => (.obj object :: records, .error error)
      | (object, .ok ()) =>
          let rest := canonicalizeInPlace t (index + 1) records
          (.obj object :: rest.1, rest.2)
  | index, record :: records => (record :: records, .error (.notObject index))

/-- `canonicalize_prepared_metadata_identities` with what it leaves in its argument. -/
def canonicalizePreparedMetadataInPlace (t : ScalarText) (metadata : List Json) :
    List Json × Except PreparedMetadataError Unit :=
  canonicalizeInPlace t 0 metadata

/-- A record whose identities can be made canonical. -/
def Canonicalizable (record : Json) : Prop :=
  ∃ object, record = .obj object ∧ ∀ field : IdentityField, HasScalar object field

/-- Two records that differ in their identities at most. -/
def SameButIdentities (record record' : Json) : Prop :=
  ∃ object object', record = .obj object ∧ record' = .obj object' ∧
    ∀ key, (∀ field : IdentityField, key ≠ field.name) →
      Json.lookupField key object' = Json.lookupField key object

theorem nodup_preparedIdentityFields : preparedIdentityFields.Nodup := by decide

theorem mem_preparedIdentityFields (field : IdentityField) : field ∈ preparedIdentityFields := by
  cases field <;> decide

section Batch

variable {t : ScalarText}

/-- The step for a record: its identities are made canonical, or the run ends at it. -/
theorem canonicalizeInPlace_cons (ht : t.Faithful) (index : ℕ) (record : Json)
    (records : List Json) :
    (Canonicalizable record ∧ ∃ object object', record = .obj object ∧
      canonicalizeFields t index object preparedIdentityFields = (object', .ok ()) ∧
      canonicalizeInPlace t index (record :: records) =
        (.obj object' :: (canonicalizeInPlace t (index + 1) records).1,
          (canonicalizeInPlace t (index + 1) records).2)) ∨
    ¬ Canonicalizable record ∧ ∃ record' error, error.index = index ∧
      canonicalizeInPlace t index (record :: records) = (record' :: records, .error error) ∧
      canonicalizeInPlace t index (record' :: records) = (record' :: records, .error error) := by
  cases record with
  | obj object =>
      obtain ⟨object', outcome, hrun⟩ : ∃ object' outcome,
          canonicalizeFields t index object preparedIdentityFields = (object', outcome) :=
        ⟨_, _, rfl⟩
      have hagain := canonicalizeFields_again ht index object nodup_preparedIdentityFields
      have hok := canonicalizeFields_ok_iff ht index object nodup_preparedIdentityFields
      rw [hrun] at hagain hok
      have hscalars : Canonicalizable (.obj object) ↔ outcome = .ok () := by
        rw [hok]
        constructor
        · rintro ⟨other, hother, hscalar⟩ field -
          cases hother
          exact hscalar field
        · intro hscalar
          exact ⟨object, rfl, fun field => hscalar field (mem_preparedIdentityFields field)⟩
      cases outcome with
      | ok done =>
          refine .inl ⟨hscalars.2 rfl, object, object', rfl, hrun, ?_⟩
          rw [canonicalizeInPlace, hrun]
      | error error =>
          have hindex : error.index = index :=
            index_canonicalizeFields ht (by rw [hrun])
          refine .inr ⟨fun h => ?_, .obj object', error, hindex, ?_, ?_⟩
          · cases hscalars.1 h
          · rw [canonicalizeInPlace, hrun]
          · rw [canonicalizeInPlace, hagain]
  | _ =>
      refine .inr ⟨?_, _, .notObject index, rfl, rfl, rfl⟩
      rintro ⟨object, hobject, -⟩
      cases hobject

/-- **A second run changes nothing and ends alike.** -/
theorem canonicalizeInPlace_again (ht : t.Faithful) (index : ℕ) (records : List Json) :
    canonicalizeInPlace t index (canonicalizeInPlace t index records).1 =
      canonicalizeInPlace t index records := by
  induction records generalizing index with
  | nil => rfl
  | cons record records ih =>
      rcases canonicalizeInPlace_cons ht index record records with
        ⟨-, object, object', rfl, hfields, hrun⟩ | ⟨-, record', error, -, hrun, hagain⟩
      · rw [hrun]
        have hsame := canonicalizeFields_again ht index object nodup_preparedIdentityFields
        rw [hfields] at hsame
        rw [canonicalizeInPlace, hsame]
        simp only [ih (index + 1)]
      · rw [hrun, hagain]

/-- After a successful run the records are valid, and what is no identity is what it was. -/
theorem validateRecords_canonicalizeInPlace (ht : t.Faithful) {index : ℕ} {records : List Json}
    (h : (canonicalizeInPlace t index records).2 = .ok ()) :
    validateRecords index (canonicalizeInPlace t index records).1 = .ok () ∧
      List.Forall₂ SameButIdentities records (canonicalizeInPlace t index records).1 := by
  induction records generalizing index with
  | nil => exact ⟨rfl, .nil⟩
  | cons record records ih =>
      rcases canonicalizeInPlace_cons ht index record records with
        ⟨-, object, object', rfl, hfields, hrun⟩ | ⟨-, record', error, -, hrun, -⟩
      · rw [hrun] at h ⊢
        obtain ⟨hvalid, hsame⟩ := ih h
        have hcanonical := hasCanonical_canonicalizeFields ht nodup_preparedIdentityFields
          (congrArg Prod.snd hfields)
        rw [hfields] at hcanonical
        refine ⟨?_, .cons ⟨object, object', rfl, rfl, fun key hkey => ?_⟩ hsame⟩
        · rw [validateRecords, validateIdentities_of_canonical hcanonical]
          exact hvalid
        · have hkept := lookup_canonicalizeFields ht index object
            fun field (_ : field ∈ preparedIdentityFields) => hkey field
          rw [hfields] at hkept
          exact hkept
      · rw [hrun] at h
        cases h

/-- **An error reports the first record that cannot be made canonical.** -/
theorem first_of_canonicalizeInPlace_error (ht : t.Faithful) {index : ℕ} {records : List Json}
    {error : PreparedMetadataError} (h : (canonicalizeInPlace t index records).2 = .error error) :
    ∃ before record after, records = before ++ record :: after ∧
      error.index = index + before.length ∧ ¬ Canonicalizable record ∧
      ∀ other ∈ before, Canonicalizable other := by
  induction records generalizing index with
  | nil => cases h
  | cons record records ih =>
      rcases canonicalizeInPlace_cons ht index record records with
        ⟨hcanonical, object, object', -, -, hrun⟩ | ⟨hnot, record', error', hindex, hrun, -⟩
      · rw [hrun] at h
        obtain ⟨before, offending, after, rfl, hindex, hnot, hbefore⟩ := ih h
        refine ⟨record :: before, offending, after, rfl, ?_, hnot, fun other hother => ?_⟩
        · rw [hindex, List.length_cons]
          omega
        · rcases List.mem_cons.1 hother with rfl | hother
          · exact hcanonical
          · exact hbefore other hother
      · rw [hrun] at h
        cases h
        exact ⟨[], record, records, rfl, by simpa using hindex, hnot,
          fun other hother => absurd hother List.not_mem_nil⟩

/-- What the run returns, without what it leaves behind. -/
theorem canonicalizeRecords_eq (t : ScalarText) (index : ℕ) (records : List Json) :
    canonicalizeRecords t index records =
      (canonicalizeInPlace t index records).2.map
        fun _ => (canonicalizeInPlace t index records).1 := by
  induction records generalizing index with
  | nil => rfl
  | cons record records ih =>
      cases record with
      | obj object =>
          rw [canonicalizeRecords, foldlM_canonicalizeIdentity, ih, canonicalizeInPlace]
          rcases canonicalizeFields t index object preparedIdentityFields with
            ⟨object', error | done⟩
          · rfl
          · rcases canonicalizeInPlace t (index + 1) records with ⟨rest, error | done'⟩
            · rfl
            · rfl
      | _ => rfl

/-- `canonicalize_prepared_metadata_identities` returns what the run in place returns. -/
theorem canonicalizePreparedMetadataIdentities_eq (t : ScalarText) (metadata : List Json) :
    canonicalizePreparedMetadataIdentities t metadata =
      (canonicalizePreparedMetadataInPlace t metadata).2.map
        fun _ => (canonicalizePreparedMetadataInPlace t metadata).1 :=
  canonicalizeRecords_eq t 0 metadata

end Batch

/-! ### Groups -/

/-- A record is in the group of its own key. -/
theorem groupKeyOf_eq_some {item : Json} {groupKey : String} (h : groupKeyOf item = some groupKey) :
    item.get "group_key" = some (.str groupKey) := by
  obtain ⟨hread, -⟩ := Option.filter_eq_some_iff.1 h
  obtain ⟨value, hvalue, htext⟩ := Option.bind_eq_some_iff.1 hread
  cases value with
  | str text =>
      cases htext
      exact hvalue
  | _ => cases htext

/-- A canonical record has a group. -/
theorem groupKeyOf_of_canonical {object : List (String × Json)}
    (h : HasCanonical object .groupKey) : ∃ groupKey, groupKeyOf (.obj object) = some groupKey := by
  obtain ⟨text, hvalue, hcanonical⟩ := h
  simp only [IdentityField.name] at hvalue
  refine ⟨text, ?_⟩
  rw [groupKeyOf, Json.get, hvalue, Option.bind_some, Json.asStr, Option.filter_some,
    if_pos hcanonical]

/-- Records that all have a group are all keyed. -/
theorem map_snd_keyedRecords {metadata : List Json}
    (h : ∀ record ∈ metadata, ∃ groupKey, groupKeyOf record = some groupKey) :
    (keyedRecords metadata).map Prod.snd = metadata := by
  induction metadata with
  | nil => rfl
  | cons record metadata ih =>
      obtain ⟨groupKey, hkey⟩ := h record List.mem_cons_self
      have hrest := ih fun other hother => h other (List.mem_cons_of_mem _ hother)
      rw [keyedRecords, List.filterMap_cons_some (by rw [hkey]; rfl), List.map_cons]
      exact congrArg (record :: ·) hrest

/-- **The groups of records that have one lose none of them.** -/
theorem flatMap_groupMetadataByGroupKey_perm {metadata : List Json}
    (h : ∀ record ∈ metadata, ∃ groupKey, groupKeyOf record = some groupKey) :
    ((groupMetadataByGroupKey metadata).toList.flatMap Prod.snd).Perm metadata := by
  have hperm : ((groupMetadataByGroupKey metadata).toList.flatMap Prod.snd).Perm
      ((keyedRecords metadata).map Prod.snd) := by
    rw [groupMetadataByGroupKey_eq]
    refine Grouping.flatMap_toList_perm (fun _ (records : List Json) => records) Prod.snd
      fun groupKey _ => ?_
    rw [Grouping.foldl_listed, List.nil_append]
  rwa [map_snd_keyedRecords h] at hperm

/-- A group has records of its own key, all of them. -/
theorem mem_group_iff {metadata : List Json} {groupKey : String} {record : Json} :
    (∃ group, (groupMetadataByGroupKey metadata)[groupKey]? = some group ∧ record ∈ group) ↔
      record ∈ metadata ∧ groupKeyOf record = some groupKey := by
  rw [getElem?_groupMetadataByGroupKey]
  have hmem : record ∈ recordsOf groupKey metadata ↔
      record ∈ metadata ∧ groupKeyOf record = some groupKey := by
    simp [recordsOf]
  rw [← hmem]
  constructor
  · rintro ⟨group, hgroup, hrecord⟩
    split at hgroup
    · cases hgroup
    · cases hgroup
      exact hrecord
  · intro hrecord
    exact ⟨_, if_neg (List.ne_nil_of_mem hrecord), hrecord⟩

/-! ### The three together -/

/-- **Normalizing, validating and grouping agree.**  Normalizing again changes nothing and returns
the same; after a success the records are valid, differ from the given ones in their identities at
most, and are all grouped, each under its own key; an error reports the first record whose
identities cannot be made canonical. -/
theorem canonicalize_spec {t : ScalarText} (ht : t.Faithful) (metadata : List Json) :
    let result := canonicalizePreparedMetadataInPlace t metadata
    canonicalizePreparedMetadataInPlace t result.1 = result ∧
    (result.2 = .ok () →
      validatePreparedMetadataRecords result.1 = .ok () ∧
      List.Forall₂ SameButIdentities metadata result.1 ∧
      ((groupMetadataByGroupKey result.1).toList.flatMap Prod.snd).Perm result.1 ∧
      (∀ record ∈ result.1, ∃ groupKey group, record.get "group_key" = some (.str groupKey) ∧
        (groupMetadataByGroupKey result.1)[groupKey]? = some group ∧ record ∈ group) ∧
      ∀ (groupKey : String) (group : List Json),
        (groupMetadataByGroupKey result.1)[groupKey]? = some group →
          ∀ record ∈ group, record.get "group_key" = some (.str groupKey)) ∧
    ∀ error, result.2 = .error error →
      ∃ before record after, metadata = before ++ record :: after ∧
        error.index = before.length ∧ ¬ Canonicalizable record ∧
        ∀ other ∈ before, Canonicalizable other := by
  intro result
  refine ⟨canonicalizeInPlace_again ht 0 metadata, fun hok => ?_, fun error herror => ?_⟩
  · obtain ⟨hvalid, hsame⟩ := validateRecords_canonicalizeInPlace ht hok
    have hgrouped : ∀ record ∈ result.1, ∃ groupKey, groupKeyOf record = some groupKey := by
      intro record hrecord
      obtain ⟨object, rfl, hidentities⟩ := validateRecords_ok hvalid record hrecord
      exact groupKeyOf_of_canonical (hidentities .groupKey)
    refine ⟨hvalid, hsame, flatMap_groupMetadataByGroupKey_perm hgrouped, fun record hrecord => ?_,
      fun groupKey group hgroup record hrecord => ?_⟩
    · obtain ⟨groupKey, hkey⟩ := hgrouped record hrecord
      obtain ⟨group, hgroup, hmem⟩ := mem_group_iff.2 ⟨hrecord, hkey⟩
      exact ⟨groupKey, group, groupKeyOf_eq_some hkey, hgroup, hmem⟩
    · exact groupKeyOf_eq_some (mem_group_iff.1 ⟨group, hgroup, hrecord⟩).2
  · obtain ⟨before, record, after, hsplit, hindex, hnot, hbefore⟩ :=
      first_of_canonicalizeInPlace_error ht herror
    exact ⟨before, record, after, hsplit, by rw [hindex, Nat.zero_add], hnot, hbefore⟩

theorem canonicalize_spec_padded :
    let record := Json.obj [("source_identifier", .str " src "), ("group_key", .num (.int 42)),
      ("record_id", .bool true), ("band", .num (.int 2))]
    let canonical := Json.obj [("source_identifier", .str "src"), ("group_key", .str "42"),
      ("record_id", .str "true"), ("band", .num (.int 2))]
    canonicalizePreparedMetadataInPlace .plain [record] = ([canonical], .ok ()) ∧
      validatePreparedMetadataRecords [canonical] = .ok () := by
  intro record canonical
  have hresult : canonicalizePreparedMetadataInPlace .plain [record] = ([canonical], .ok ()) := by
    decide +kernel
  have hspec := (canonicalize_spec ScalarText.plain_faithful [record]).2.1
  rw [hresult] at hspec
  exact ⟨hresult, (hspec rfl).1⟩

end Beampipe
