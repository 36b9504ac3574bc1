/-
**Which staged files a record and a group are given.**

The results of the staging jobs are pairs of an id and a URL.  Those of the records are found by the
scan in their id, those of the groups by the file name in their URL, and in both cases the last
result wins.  A record takes the URLs of its scan, and the file of its checksum is compared with the
record by containment only.

Main definitions:

* `Beampipe.Staging.parseJobResults`, `Beampipe.Staging.parseEvalJobResults` — the URLs by scan and
  by file name;
* `Beampipe.Staging.bindStaged` — the URLs of the records and groups;
* `Beampipe.Staging.FaithfulUrls` — what the binding should ensure;
* `Beampipe.Staging.UnmistakableResults` — results that cannot be mistaken for one another.

Main results:

* `Beampipe.Staging.bindStaged_record`, `Beampipe.Staging.bindStaged_group` — which results a record
  and a group get;
* `Beampipe.Staging.bindStaged_congr` — only the results of the scans and file names count;
* `Beampipe.Staging.faithfulUrls_iff` — **when the binding is faithful**.
-/

import Beampipe.KeySort
import Beampipe.KnownHosts
import Beampipe.LastWrite
import Mathlib.Data.String.Basic

set_option relaxedAutoImplicit false
set_option autoImplicit false

namespace Beampipe.Staging

/-! ### Texts -/

/-- What follows the first occurrence of a text. -/
def afterText (needle : List Char) : List Char → Option (List Char)
  | [] => none
  | c :: rest =>
      if needle.isPrefixOf (c :: rest) then some ((c :: rest).drop needle.length)
      else afterText needle rest

/-- What comes before the first occurrence of a text. -/
def beforeText (needle : List Char) : List Char → List Char
  | [] => []
  | c :: rest => if needle.isPrefixOf (c :: rest) then [] else c :: beforeText needle rest

/-- `extract_scan_id`. -/
def extractScanId (obsPublisherDid : String) : Option String :=
  (afterText "scan-".toList obsPublisherDid.toList).map fun rest =>
    String.ofList ((beforeText "scan-".toList rest).takeWhile (· != '-'))

/-- `extract_visibility_scan_id`. -/
def extractVisibilityScanId (resultId : String) : Option String :=
  if "visibility-".toList.isPrefixOf resultId.toList then
    some (String.ofList ((resultId.toList.drop 11).takeWhile (· != '.')))
  else none

/-- `hex_digit`. -/
def hexDigit (value : UInt8) : Option UInt8 :=
  if 48 ≤ value ∧ value ≤ 57 then some (value - 48)
  else if 97 ≤ value ∧ value ≤ 102 then some (value - 97 + 10)
  else if 65 ≤ value ∧ value ≤ 70 then some (value - 65 + 10)
  else none

/-- The bytes of `percent_decode_path_segment`. -/
def percentDecode : List UInt8 → Option (List UInt8)
  | [] => some []
  | 37 :: high :: low :: rest => do
      let high ← hexDigit high
      let low ← hexDigit low
      (percentDecode rest).map fun decoded => ((high <<< 4) ||| low) :: decoded
  | 37 :: _ => none
  | byte :: rest => (percentDecode rest).map fun decoded => byte :: decoded

/-- `percent_decode_path_segment`. -/
def percentDecodePathSegment (value : String) : Option String :=
  (percentDecode (Ssh.asBytes value)).bind fun bytes => String.fromUTF8? ⟨bytes.toArray⟩

/-- `extract_filename_from_url`. -/
def extractFilenameFromUrl (url : String) : Option String :=
  let path := url.toList.takeWhile fun c => c != '?' && c != '#'
  let encoded := String.ofList (path.reverse.takeWhile (· != '/')).reverse
  (percentDecodePathSegment encoded).filter (!·.isEmpty)

/-- `strip_suffix` of the ending of a checksum file. -/
def stripChecksum (filename : String) : String :=
  if ".checksum".toList.isSuffixOf filename.toList then
    String.ofList (filename.toList.take (filename.toList.length - 9))
  else filename

/-! ### The results of the jobs -/

/-- A result of a job: its id and its URL. -/
abbrev JobResult := String × String

/-- A `HashMap` with URLs. -/
abbrev UrlMap := String → Option String

/-- `HashMap::insert`. -/
def UrlMap.insert (urls : UrlMap) (key url : String) : UrlMap := Function.update urls key (some url)

/-- `parse_job_results`. -/
def parseJobResults (results : List JobResult) : UrlMap × UrlMap :=
  results.foldl (fun urls result =>
    match extractVisibilityScanId result.1 with
    | none => urls
    | some scan =>
        if containsText result.1 ".checksum" then (urls.1, UrlMap.insert urls.2 scan result.2)
        else (UrlMap.insert urls.1 scan result.2, urls.2)) (fun _ => none, fun _ => none)

/-- `parse_eval_job_results`. -/
def parseEvalJobResults (results : List JobResult) : UrlMap × UrlMap :=
  results.foldl (fun urls result =>
    match extractFilenameFromUrl result.2 with
    | none => urls
    | some filename =>
        if containsText result.1 ".checksum" then
          (urls.1, UrlMap.insert urls.2 (stripChecksum filename) result.2)
        else (UrlMap.insert urls.1 filename result.2, urls.2)) (fun _ => none, fun _ => none)

/-! ### Groups -/

/-- A text of a record that is not blank. -/
def requiredText (key : String) (record : Json) : Option String :=
  ((record.get key).bind Json.asStr).filter (!isBlank ·)

/-- A value that has to be there. -/
def orError {α : Type} (value : Option α) (message : String) : Except String α :=
  match value with
  | some value => .ok value
  | none => .error message

/-- The artifact of a group: its file name and its access URL. -/
abbrev GroupInput := String × String × String

/-- What a record says about the artifact of its group. -/
def groupInput (record : Json) : Except String GroupInput := do
  let groupKey ← orError (requiredText "group_key" record) "staging metadata is missing group_key"
  let filename ← orError (requiredText "group_artifact_filename" record)
    ("group " ++ groupKey ++ " is missing group_artifact_filename")
  let accessUrl ← orError (requiredText "group_artifact_access_url" record)
    ("group " ++ groupKey ++ " is missing group_artifact_access_url")
  .ok (groupKey, filename, accessUrl)

/-- The loop of `group_artifact_staging_inputs`; `inputs` are the groups so far. -/
def collectGroupInputs : List GroupInput → List Json → Except String (List GroupInput)
  | inputs, [] => .ok inputs
  | inputs, record :: records => do
      let input ← groupInput record
      match inputs.find? fun existing => existing.1 == input.1 with
      | some existing =>
          if existing.2 ≠ input.2 then
            .error ("group " ++ input.1 ++ " has inconsistent group artifact metadata")
          else collectGroupInputs inputs records
      | none => collectGroupInputs (inputs ++ [input]) records

/-- `group_artifact_staging_inputs`, with the groups in the order of their keys. -/
def groupArtifactStagingInputs (records : List Json) : Except String (List GroupInput) := do
  let inputs ← collectGroupInputs [] records
  if inputs.isEmpty then .error "no group artifacts in staging metadata"
  else .ok (KeySort.sortByKey Prod.fst inputs)

/-- `map_group_staging_results`; `urls` are the URLs so far. -/
def mapGroupStagingResults (byFilename byFilenameChecksum : UrlMap) :
    UrlMap × UrlMap → List GroupInput → Except String (UrlMap × UrlMap)
  | urls, [] => .ok urls
  | urls, (groupKey, filename, _) :: inputs => do
      let stagedUrl ← orError (byFilename filename)
        ("CASDA staging result is missing group artifact " ++ filename ++ " for " ++ groupKey)
      let checksumUrl ← orError (byFilenameChecksum filename)
        ("CASDA staging result is missing the checksum for group artifact " ++ filename ++ " (" ++
          groupKey ++ ")")
      mapGroupStagingResults byFilename byFilenameChecksum
        (UrlMap.insert urls.1 groupKey stagedUrl, UrlMap.insert urls.2 groupKey checksumUrl) inputs

/-! ### Records -/

/-- `required_http_map_value`. -/
def requiredHttpMapValue (values : UrlMap) (key label : String) : Except String String :=
  orError
    ((values key).filter fun value =>
      "https://".toList.isPrefixOf value.toList || "http://".toList.isPrefixOf value.toList)
    ("CASDA staging result is missing HTTP(S) " ++ label ++ " URL for " ++ key)

/-- The scan of a record: its staging id, or the one of its publisher. -/
def recordScan (record : Json) : Option String :=
  (((record.get "staging_id").bind Json.asStr).map fun value =>
      (extractScanId value).getD value).or
    (((record.get "obs_publisher_did").bind Json.asStr).bind extractScanId)
    |>.filter (!isBlank ·)

/-- The body of the loop of `apply_url_maps`. -/
def applyRecord (stagedUrls checksumUrls groupUrls groupChecksumUrls : UrlMap) (record : Json) :
    Except String Json := do
  if !record.isObject then .error "CASDA staged metadata record is not an object"
  else
    let stagingId ← orError (recordScan record) "CASDA staged metadata record is missing staging_id"
    let groupKey ← orError (requiredText "group_key" record)
      "CASDA staged metadata record is missing group_key"
    let recordId ← orError (requiredText "record_id" record)
      ("CASDA staged metadata for " ++ stagingId ++ " has no record_id")
    let stagedUrl ← requiredHttpMapValue stagedUrls stagingId "record data"
    let checksumUrl ← requiredHttpMapValue checksumUrls stagingId "record checksum"
    if !containsText checksumUrl recordId then
      .error ("CASDA checksum for staging id " ++ stagingId ++ " does not match record " ++
        recordId)
    else
      let groupUrl ← requiredHttpMapValue groupUrls groupKey "group artifact"
      let groupChecksumUrl ← requiredHttpMapValue groupChecksumUrls groupKey "group checksum"
      .ok <| Json.insert "group_checksum_url" (.str groupChecksumUrl) <|
        Json.insert "group_staged_url" (.str groupUrl) <|
          Json.insert "staged_checksum_url" (.str checksumUrl) <|
            Json.insert "staged_url" (.str stagedUrl) record

/-- `apply_url_maps`. -/
def applyUrlMaps (metadata : List Json)
    (stagedUrls checksumUrls groupUrls groupChecksumUrls : UrlMap) : Except String (List Json) :=
  metadata.mapM (applyRecord stagedUrls checksumUrls groupUrls groupChecksumUrls)

/-- The id of a staged record and its URLs. -/
def stagedRecord (record : Json) : Except String (String × String × String) := do
  let recordId ← orError (requiredText "record_id" record) "staged record is missing record_id"
  let url ← orError ((record.get "staged_url").bind Json.asStr)
    ("record " ++ recordId ++ " is missing staged_url")
  let checksum ← orError ((record.get "staged_checksum_url").bind Json.asStr)
    ("record " ++ recordId ++ " is missing staged_checksum_url")
  .ok (recordId, url, checksum)

/-- `staged_record_maps`; `urls` are the URLs so far. -/
def stagedRecordMaps : UrlMap × UrlMap → List Json → Except String (UrlMap × UrlMap)
  | urls, [] => .ok urls
  | urls, record :: records => do
      let (recordId, url, checksum) ← stagedRecord record
      if (urls.1 recordId).isSome || (urls.2 recordId).isSome then
        .error ("duplicate record_id " ++ recordId ++ " in staged metadata")
      else
        stagedRecordMaps
          (UrlMap.insert urls.1 recordId url, UrlMap.insert urls.2 recordId checksum) records

/-- The results of the staging jobs, for the records of all batches and for the groups. -/
structure StagingResults where
  visibility : List JobResult
  groups : List JobResult
  deriving DecidableEq, Repr

/-- `StageOutcome`, as far as it holds URLs. -/
structure StageOutcome where
  metadata : List Json
  stagedUrlsByRecordId : UrlMap
  checksumUrlsByRecordId : UrlMap
  stagedUrlsByGroup : UrlMap
  checksumUrlsByGroup : UrlMap

/-- `stage` after the jobs: `staged` are the records of the batches that were not skipped. -/
def bindStaged (metadata staged : List Json) (results : StagingResults) :
    Except String StageOutcome := do
  let inputs ← groupArtifactStagingInputs metadata
  let byScan := parseJobResults results.visibility
  let byFilename := parseEvalJobResults results.groups
  let groupUrls ← mapGroupStagingResults byFilename.1 byFilename.2
    (fun _ => none, fun _ => none) inputs
  let records ← applyUrlMaps staged byScan.1 byScan.2 groupUrls.1 groupUrls.2
  let recordUrls ← stagedRecordMaps (fun _ => none, fun _ => none) records
  .ok
    { metadata := records
      stagedUrlsByRecordId := recordUrls.1
      checksumUrlsByRecordId := recordUrls.2
      stagedUrlsByGroup := groupUrls.1
      checksumUrlsByGroup := groupUrls.2 }

/-! ### Which results count -/

/-- The scan of a result that holds data. -/
def dataScan (result : JobResult) : Option String :=
  if containsText result.1 ".checksum" then none else extractVisibilityScanId result.1

/-- The scan of a result that holds a checksum. -/
def checksumScan (result : JobResult) : Option String :=
  if containsText result.1 ".checksum" then extractVisibilityScanId result.1 else none

/-- The file name of a result that holds the artifact of a group. -/
def dataFile (result : JobResult) : Option String :=
  if containsText result.1 ".checksum" then none else extractFilenameFromUrl result.2

/-- The file name of the artifact whose checksum a result holds. -/
def checksumFile (result : JobResult) : Option String :=
  if containsText result.1 ".checksum" then (extractFilenameFromUrl result.2).map stripChecksum
  else none

/-- The URL of the last result with a key. -/
def lastUrl (key : JobResult → Option String) (results : List JobResult) : UrlMap :=
  LastWrite.last key Prod.snd results

/-- Two tables that are filled in one loop. -/
theorem foldl_pair {dataKey checksumKey : JobResult → Option String}
    {f : UrlMap × UrlMap → JobResult → UrlMap × UrlMap}
    (hf : ∀ urls result, f urls result =
      (LastWrite.write dataKey Prod.snd urls.1 result,
        LastWrite.write checksumKey Prod.snd urls.2 result)) (results : List JobResult) :
    results.foldl f (fun _ => none, fun _ => none) =
      (lastUrl dataKey results, lastUrl checksumKey results) := by
  have hfold : ∀ urls : UrlMap × UrlMap, results.foldl f urls =
      (results.foldl (LastWrite.write dataKey Prod.snd) urls.1,
        results.foldl (LastWrite.write checksumKey Prod.snd) urls.2) := by
    induction results with
    | nil => exact fun _ => rfl
    | cons result results ih =>
        intro urls
        rw [List.foldl_cons, hf, ih]
        rfl
  rw [hfold]
  refine Prod.ext (funext fun k => ?_) (funext fun k => ?_)
  · simp [LastWrite.foldl_write, lastUrl]
  · simp [LastWrite.foldl_write, lastUrl]

theorem parseJobResults_eq (results : List JobResult) :
    parseJobResults results = (lastUrl dataScan results, lastUrl checksumScan results) := by
  refine foldl_pair (fun urls result => ?_) results
  unfold LastWrite.write dataScan checksumScan
  cases extractVisibilityScanId result.1 with
  | none => simp
  | some scan => by_cases h : containsText result.1 ".checksum" <;> simp [h, UrlMap.insert]

theorem parseEvalJobResults_eq (results : List JobResult) :
    parseEvalJobResults results = (lastUrl dataFile results, lastUrl checksumFile results) := by
  refine foldl_pair (fun urls result => ?_) results
  unfold LastWrite.write dataFile checksumFile
  cases extractFilenameFromUrl result.2 with
  | none => simp
  | some filename => by_cases h : containsText result.1 ".checksum" <;> simp [h, UrlMap.insert]

theorem orError_ok {α : Type} {value : Option α} {message : String} {a : α} :
    orError value message = .ok a ↔ value = some a := by
  cases value with
  | none => simp [orError]
  | some value => simp [orError]

/-! ### Groups -/

/-- Every record says the same about its group. -/
theorem collectGroupInputs_ok {inputs found : List GroupInput} {records : List Json}
    (h : collectGroupInputs inputs records = .ok found)
    (hkeys : (inputs.map Prod.fst).Nodup) :
    (found.map Prod.fst).Nodup ∧ (∀ input ∈ inputs, input ∈ found) ∧
      ∀ record ∈ records, ∃ input ∈ found, groupInput record = .ok input := by
  induction records generalizing inputs with
  | nil =>
      cases h
      exact ⟨hkeys, fun _ hinput => hinput, fun _ hrecord => (List.not_mem_nil hrecord).elim⟩
  | cons record records ih =>
      obtain ⟨input, hinput, h⟩ := exceptBind_ok h
      cases hfind : inputs.find? (fun existing => existing.1 == input.1) with
      | some existing =>
          simp only [hfind] at h
          split at h
          · cases h
          next hsame =>
            have hmem := List.mem_of_find?_eq_some hfind
            have hkey := List.find?_some hfind
            have hexisting : existing = input := Prod.ext (by simpa using hkey) (not_not.mp hsame)
            obtain ⟨hnodup, hold, hrecords⟩ := ih h hkeys
            refine ⟨hnodup, hold, List.forall_mem_cons.mpr ⟨?_, hrecords⟩⟩
            exact ⟨input, hold input (hexisting ▸ hmem), hinput⟩
      | none =>
          simp only [hfind] at h
          have hnew : input.1 ∉ inputs.map Prod.fst := by
            intro hmem
            obtain ⟨existing, hexisting, hkey⟩ := List.mem_map.mp hmem
            exact List.find?_eq_none.mp hfind existing hexisting (by simpa using hkey)
          have hkeys' : ((inputs ++ [input]).map Prod.fst).Nodup := by
            rw [List.map_append, List.map_singleton]
            refine List.nodup_append.mpr ⟨hkeys, List.nodup_singleton _, fun a ha b hb hab => ?_⟩
            rw [List.mem_singleton] at hb
            exact hnew (hb ▸ hab ▸ ha)
          obtain ⟨hnodup, hold, hrecords⟩ := ih h hkeys'
          refine ⟨hnodup, fun existing hmem => hold existing (List.mem_append_left _ hmem),
            List.forall_mem_cons.mpr ⟨?_, hrecords⟩⟩
          exact ⟨input, hold input (List.mem_append_right _ List.mem_cons_self), hinput⟩

theorem groupArtifactStagingInputs_ok {records : List Json} {inputs : List GroupInput}
    (h : groupArtifactStagingInputs records = .ok inputs) :
    (inputs.map Prod.fst).Nodup ∧
      ∀ record ∈ records, ∃ input ∈ inputs, groupInput record = .ok input := by
  obtain ⟨found, hfound, h⟩ := exceptBind_ok h
  split at h
  · cases h
  cases h
  obtain ⟨hnodup, -, hrecords⟩ := collectGroupInputs_ok hfound List.nodup_nil
  refine ⟨((KeySort.sortByKey_perm found).map Prod.fst).nodup_iff.mpr hnodup, ?_⟩
  intro record hrecord
  obtain ⟨input, hinput, hok⟩ := hrecords record hrecord
  exact ⟨input, KeySort.mem_sortByKey.mpr hinput, hok⟩

/-- A group gets the results with the name of its artifact. -/
theorem mapGroupStagingResults_ok {byFilename byFilenameChecksum : UrlMap}
    {urls found : UrlMap × UrlMap} {inputs : List GroupInput}
    (h : mapGroupStagingResults byFilename byFilenameChecksum urls inputs = .ok found)
    (hkeys : (inputs.map Prod.fst).Nodup) :
    (∀ k, k ∉ inputs.map Prod.fst → found.1 k = urls.1 k ∧ found.2 k = urls.2 k) ∧
      ∀ input ∈ inputs, ∃ url checksum, byFilename input.2.1 = some url ∧
        byFilenameChecksum input.2.1 = some checksum ∧ found.1 input.1 = some url ∧
        found.2 input.1 = some checksum := by
  induction inputs generalizing urls with
  | nil =>
      cases h
      exact ⟨fun _ _ => ⟨rfl, rfl⟩, fun _ hinput => (List.not_mem_nil hinput).elim⟩
  | cons input inputs ih =>
      obtain ⟨groupKey, filename, accessUrl⟩ := input
      obtain ⟨url, hurl, h⟩ := exceptBind_ok h
      obtain ⟨checksum, hchecksum, h⟩ := exceptBind_ok h
      rw [orError_ok] at hurl hchecksum
      rw [List.map_cons, List.nodup_cons] at hkeys
      obtain ⟨hother, hinputs⟩ := ih h hkeys.2
      refine ⟨fun k hk => ?_, List.forall_mem_cons.mpr ⟨?_, hinputs⟩⟩
      · rw [List.map_cons, List.mem_cons, not_or] at hk
        obtain ⟨hdata, hsum⟩ := hother k hk.2
        simp [hdata, hsum, UrlMap.insert, Function.update_of_ne hk.1]
      · obtain ⟨hdata, hsum⟩ := hother groupKey hkeys.1
        exact ⟨url, checksum, hurl, hchecksum, by simp [hdata, UrlMap.insert],
          by simp [hsum, UrlMap.insert]⟩

/-! ### Records -/

theorem requiredHttpMapValue_ok {values : UrlMap} {key label url : String}
    (h : requiredHttpMapValue values key label = .ok url) : values key = some url := by
  rw [requiredHttpMapValue, orError_ok] at h
  exact (Option.filter_eq_some_iff.mp h).1

/-- A record gets the URLs of its scan. -/
theorem applyRecord_ok {stagedUrls checksumUrls groupUrls groupChecksumUrls : UrlMap}
    {record out : Json}
    (h : applyRecord stagedUrls checksumUrls groupUrls groupChecksumUrls record = .ok out) :
    ∃ scan recordId url checksum, recordScan record = some scan ∧
      requiredText "record_id" record = some recordId ∧ stagedUrls scan = some url ∧
      checksumUrls scan = some checksum ∧ stagedRecord out = .ok (recordId, url, checksum) := by
  unfold applyRecord at h
  split at h
  · cases h
  next hobject =>
  obtain ⟨scan, hscan, h⟩ := exceptBind_ok h
  obtain ⟨groupKey, -, h⟩ := exceptBind_ok h
  obtain ⟨recordId, hid, h⟩ := exceptBind_ok h
  obtain ⟨url, hurl, h⟩ := exceptBind_ok h
  obtain ⟨checksum, hchecksum, h⟩ := exceptBind_ok h
  split at h
  · cases h
  obtain ⟨groupUrl, -, h⟩ := exceptBind_ok h
  obtain ⟨groupChecksumUrl, -, h⟩ := exceptBind_ok h
  cases h
  rw [orError_ok] at hscan hid
  refine ⟨scan, recordId, url, checksum, hscan, hid, requiredHttpMapValue_ok hurl,
    requiredHttpMapValue_ok hchecksum, ?_⟩
  cases record with
  | obj fields =>
      have hkept : ∀ value value' value'' value''' : Json, requiredText "record_id"
          (Json.insert "group_checksum_url" value <| Json.insert "group_staged_url" value' <|
            Json.insert "staged_checksum_url" value'' <|
              Json.insert "staged_url" value''' (.obj fields)) = some recordId := by
        intro value value' value'' value'''
        rw [← hid]
        unfold requiredText
        rw [Json.get_insert_ne (by decide), Json.get_insert_ne (by decide),
          Json.get_insert_ne (by decide), Json.get_insert_ne (by decide)]
      have hdata : ∀ value value' value'' : Json, (Json.insert "group_checksum_url" value <|
          Json.insert "group_staged_url" value' <| Json.insert "staged_checksum_url" value'' <|
            Json.insert "staged_url" (.str url) (.obj fields)).get "staged_url" =
          some (.str url) := by
        intro value value' value''
        rw [Json.get_insert_ne (by decide), Json.get_insert_ne (by decide),
          Json.get_insert_ne (by decide), Json.get_insert_self]
      have hsum : ∀ value value' value''' : Json, (Json.insert "group_checksum_url" value <|
          Json.insert "group_staged_url" value' <|
            Json.insert "staged_checksum_url" (.str checksum) <|
              Json.insert "staged_url" value''' (.obj fields)).get "staged_checksum_url" =
          some (.str checksum) := by
        intro value value' value'''
        rw [Json.get_insert_ne (by decide), Json.get_insert_ne (by decide)]
        exact Json.get_insert_self _ _ _
      unfold stagedRecord
      rw [hkept, hdata, hsum]
      rfl
  | null | bool | num | str | arr => simp [Json.isObject] at hobject

/-- Every record has an entry of its own, and there are no others. -/
theorem stagedRecordMaps_ok {urls found : UrlMap × UrlMap} {records : List Json}
    (h : stagedRecordMaps urls records = .ok found) :
    (∀ k, (urls.1 k).isSome ∨ (urls.2 k).isSome →
      found.1 k = urls.1 k ∧ found.2 k = urls.2 k) ∧
      (∀ record ∈ records, ∃ recordId url checksum,
        stagedRecord record = .ok (recordId, url, checksum) ∧ found.1 recordId = some url ∧
          found.2 recordId = some checksum) ∧
      ∀ k, (found.1 k).isSome ∨ (found.2 k).isSome → (urls.1 k).isSome ∨ (urls.2 k).isSome ∨
        ∃ record ∈ records, ∃ url checksum, stagedRecord record = .ok (k, url, checksum) := by
  induction records generalizing urls with
  | nil =>
      cases h
      exact ⟨fun _ _ => ⟨rfl, rfl⟩, fun _ hrecord => (List.not_mem_nil hrecord).elim,
        fun k hk => hk.elim .inl fun hk => .inr (.inl hk)⟩
  | cons record records ih =>
      obtain ⟨⟨recordId, url, checksum⟩, hrecord, h⟩ := exceptBind_ok h
      simp only at h
      split at h
      · cases h
      next hnew =>
      rw [Bool.or_eq_true] at hnew
      obtain ⟨hkept, hforth, hback⟩ := ih h
      have hself := hkept recordId (by simp [UrlMap.insert])
      refine ⟨fun k hk => ?_, List.forall_mem_cons.mpr ⟨?_, hforth⟩, fun k hk => ?_⟩
      · have hne : k ≠ recordId := by
          rintro rfl
          exact hnew hk
        have hk' := hkept k (by simpa [UrlMap.insert, Function.update_of_ne hne] using hk)
        simpa [UrlMap.insert, Function.update_of_ne hne] using hk'
      · exact ⟨recordId, url, checksum, hrecord, by simpa [UrlMap.insert] using hself.1,
          by simpa [UrlMap.insert] using hself.2⟩
      · by_cases hne : k = recordId
        · subst hne
          exact .inr (.inr ⟨record, List.mem_cons_self, url, checksum, hrecord⟩)
        · rcases hback k hk with hold | hold | ⟨record', hrecord', hstaged⟩
          · exact .inl (by simpa [UrlMap.insert, Function.update_of_ne hne] using hold)
          · exact .inr (.inl (by simpa [UrlMap.insert, Function.update_of_ne hne] using hold))
          · exact .inr (.inr ⟨record', List.mem_cons_of_mem _ hrecord', hstaged⟩)

/-! ### The whole binding -/

/-- The URLs of a record are those of its scan. -/
theorem bindStaged_record {metadata staged : List Json} {results : StagingResults}
    {outcome : StageOutcome} (h : bindStaged metadata staged results = .ok outcome) :
    (∀ record ∈ staged, ∃ scan recordId url checksum, recordScan record = some scan ∧
      requiredText "record_id" record = some recordId ∧
      lastUrl dataScan results.visibility scan = some url ∧
      lastUrl checksumScan results.visibility scan = some checksum ∧
      outcome.stagedUrlsByRecordId recordId = some url ∧
      outcome.checksumUrlsByRecordId recordId = some checksum) ∧
    ∀ id, (outcome.stagedUrlsByRecordId id).isSome ∨ (outcome.checksumUrlsByRecordId id).isSome →
      ∃ record ∈ staged, requiredText "record_id" record = some id := by
  obtain ⟨inputs, -, h⟩ := exceptBind_ok h
  obtain ⟨groupUrls, -, h⟩ := exceptBind_ok h
  obtain ⟨records, hrecords, h⟩ := exceptBind_ok h
  obtain ⟨recordUrls, hrecordUrls, h⟩ := exceptBind_ok h
  cases h
  rw [parseJobResults_eq] at hrecords
  obtain ⟨-, hforth, hback⟩ := stagedRecordMaps_ok hrecordUrls
  obtain ⟨hout, hin⟩ := exceptMapM_ok hrecords
  constructor
  · intro record hrecord
    obtain ⟨out, hmem, hok⟩ := hout record hrecord
    obtain ⟨scan, recordId, url, checksum, hscan, hid, hurl, hchecksum, hstaged⟩ :=
      applyRecord_ok hok
    obtain ⟨recordId', url', checksum', hstaged', hdata, hsum⟩ := hforth out hmem
    cases hstaged.symm.trans hstaged'
    exact ⟨scan, recordId, url, checksum, hscan, hid, hurl, hchecksum, hdata, hsum⟩
  · intro id hid
    rcases hback id hid with hnone | hnone | ⟨out, hmem, url, checksum, hstaged⟩
    · simp at hnone
    · simp at hnone
    · obtain ⟨record, hrecord, hok⟩ := hin out hmem
      obtain ⟨scan, recordId, url', checksum', -, hid', -, -, hstaged'⟩ := applyRecord_ok hok
      cases hstaged.symm.trans hstaged'
      exact ⟨record, hrecord, hid'⟩

/-- The URLs of a group are those with the name of its artifact. -/
theorem bindStaged_group {metadata staged : List Json} {results : StagingResults}
    {outcome : StageOutcome} (h : bindStaged metadata staged results = .ok outcome) :
    ∀ record ∈ metadata, ∃ input url checksum, groupInput record = .ok input ∧
      lastUrl dataFile results.groups input.2.1 = some url ∧
      lastUrl checksumFile results.groups input.2.1 = some checksum ∧
      outcome.stagedUrlsByGroup input.1 = some url ∧
      outcome.checksumUrlsByGroup input.1 = some checksum := by
  obtain ⟨inputs, hinputs, h⟩ := exceptBind_ok h
  obtain ⟨groupUrls, hgroupUrls, h⟩ := exceptBind_ok h
  obtain ⟨records, -, h⟩ := exceptBind_ok h
  obtain ⟨recordUrls, -, h⟩ := exceptBind_ok h
  cases h
  rw [parseEvalJobResults_eq] at hgroupUrls
  obtain ⟨hkeys, hrecords⟩ := groupArtifactStagingInputs_ok hinputs
  intro record hrecord
  obtain ⟨input, hinput, hok⟩ := hrecords record hrecord
  obtain ⟨url, checksum, hfound⟩ := (mapGroupStagingResults_ok hgroupUrls hkeys).2 input hinput
  exact ⟨input, url, checksum, hok, hfound⟩

/-- Every group comes from a record. -/
theorem collectGroupInputs_mem {inputs found : List GroupInput} {records : List Json}
    (h : collectGroupInputs inputs records = .ok found) {input : GroupInput}
    (hinput : input ∈ found) :
    input ∈ inputs ∨ ∃ record ∈ records, groupInput record = .ok input := by
  induction records generalizing inputs with
  | nil =>
      cases h
      exact .inl hinput
  | cons record records ih =>
      obtain ⟨new, hnew, h⟩ := exceptBind_ok h
      have hlater : ∀ {known : List GroupInput}, collectGroupInputs known records = .ok found →
          input ∈ known ∨ ∃ record' ∈ record :: records, groupInput record' = .ok input := by
        intro known hknown
        rcases ih hknown with hmem | ⟨record', hrecord', hok⟩
        · exact .inl hmem
        · exact .inr ⟨record', List.mem_cons_of_mem _ hrecord', hok⟩
      cases hfind : inputs.find? (fun existing => existing.1 == new.1) with
      | some existing =>
          simp only [hfind] at h
          split at h
          · cases h
          · exact hlater h
      | none =>
          simp only [hfind] at h
          rcases hlater h with hmem | hrecord
          · rcases List.mem_append.mp hmem with hmem | hmem
            · exact .inl hmem
            · rw [List.mem_singleton] at hmem
              exact .inr ⟨record, List.mem_cons_self, hmem ▸ hnew⟩
          · exact .inr hrecord

theorem mapGroupStagingResults_congr {byFilename byFilename' checksums checksums' : UrlMap}
    {inputs : List GroupInput} (h : ∀ input ∈ inputs,
      byFilename input.2.1 = byFilename' input.2.1 ∧ checksums input.2.1 = checksums' input.2.1)
    (urls : UrlMap × UrlMap) :
    mapGroupStagingResults byFilename checksums urls inputs =
      mapGroupStagingResults byFilename' checksums' urls inputs := by
  induction inputs generalizing urls with
  | nil => rfl
  | cons input inputs ih =>
      obtain ⟨groupKey, filename, accessUrl⟩ := input
      obtain ⟨⟨hdata, hsum⟩, hinputs⟩ := List.forall_mem_cons.mp h
      simp only [mapGroupStagingResults, hdata, hsum, ih hinputs]

theorem applyRecord_congr {urls urls' checksums checksums' groupUrls groupChecksums : UrlMap}
    {record : Json} (h : ∀ scan, recordScan record = some scan →
      urls scan = urls' scan ∧ checksums scan = checksums' scan) :
    applyRecord urls checksums groupUrls groupChecksums record =
      applyRecord urls' checksums' groupUrls groupChecksums record := by
  unfold applyRecord
  cases hscan : recordScan record with
  | none => rfl
  | some scan =>
      obtain ⟨hdata, hsum⟩ := h scan hscan
      have hvalue : ∀ {values values' : UrlMap} (label : String), values scan = values' scan →
          requiredHttpMapValue values scan label = requiredHttpMapValue values' scan label := by
        intro values values' label hvalues
        rw [requiredHttpMapValue, hvalues, requiredHttpMapValue]
      simp only [orError, bind, Except.bind, hvalue _ hdata, hvalue _ hsum]

theorem applyUrlMaps_congr {urls urls' checksums checksums' groupUrls groupChecksums : UrlMap}
    {records : List Json} (h : ∀ record ∈ records, ∀ scan, recordScan record = some scan →
      urls scan = urls' scan ∧ checksums scan = checksums' scan) :
    applyUrlMaps records urls checksums groupUrls groupChecksums =
      applyUrlMaps records urls' checksums' groupUrls groupChecksums := by
  unfold applyUrlMaps
  induction records with
  | nil => rfl
  | cons record records ih =>
      obtain ⟨hrecord, hrecords⟩ := List.forall_mem_cons.mp h
      rw [List.mapM_cons, List.mapM_cons, applyRecord_congr hrecord, ih hrecords]

/-- Only the results for the scans of the records and for the artifacts of the groups count. -/
theorem bindStaged_congr {metadata staged : List Json} {results results' : StagingResults}
    (hscans : ∀ record ∈ staged, ∀ scan, recordScan record = some scan →
      lastUrl dataScan results'.visibility scan = lastUrl dataScan results.visibility scan ∧
      lastUrl checksumScan results'.visibility scan = lastUrl checksumScan results.visibility scan)
    (hgroups : ∀ record ∈ metadata, ∀ input, groupInput record = .ok input →
      lastUrl dataFile results'.groups input.2.1 = lastUrl dataFile results.groups input.2.1 ∧
      lastUrl checksumFile results'.groups input.2.1 =
        lastUrl checksumFile results.groups input.2.1) :
    bindStaged metadata staged results' = bindStaged metadata staged results := by
  unfold bindStaged
  cases hinputs : groupArtifactStagingInputs metadata with
  | error error => rfl
  | ok inputs =>
      have hmem : ∀ input ∈ inputs, ∃ record ∈ metadata, groupInput record = .ok input := by
        intro input hinput
        obtain ⟨found, hfound, hsorted⟩ := exceptBind_ok hinputs
        split at hsorted
        · cases hsorted
        cases hsorted
        rcases collectGroupInputs_mem hfound (KeySort.mem_sortByKey.mp hinput) with hnil | hrecord
        · cases hnil
        · exact hrecord
      have hinput : ∀ input ∈ inputs,
          lastUrl dataFile results'.groups input.2.1 = lastUrl dataFile results.groups input.2.1 ∧
          lastUrl checksumFile results'.groups input.2.1 =
            lastUrl checksumFile results.groups input.2.1 := by
        intro input hinput
        obtain ⟨record, hrecord, hok⟩ := hmem input hinput
        exact hgroups record hrecord input hok
      simp only [bind, Except.bind, parseJobResults_eq, parseEvalJobResults_eq,
        mapGroupStagingResults_congr hinput, applyUrlMaps_congr hscans]

/-! ### Faithful bindings -/

/-- What the binding should ensure: distinct records do not share files, a checksum is the file for
exactly its record, groups with distinct artifacts do not share files, and the order of the results
does not matter. -/
structure FaithfulUrls (metadata staged : List Json) (results : StagingResults)
    (outcome : StageOutcome) : Prop where
  records : ∀ id id' url, id ≠ id' →
    (outcome.stagedUrlsByRecordId id = some url → outcome.stagedUrlsByRecordId id' ≠ some url) ∧
    (outcome.checksumUrlsByRecordId id = some url →
      outcome.checksumUrlsByRecordId id' ≠ some url)
  checksums : ∀ id url, outcome.checksumUrlsByRecordId id = some url →
    extractFilenameFromUrl url = some (id ++ ".checksum")
  groups : ∀ record ∈ metadata, ∀ record' ∈ metadata, ∀ input input',
    groupInput record = .ok input → groupInput record' = .ok input' →
    input.2.2 ≠ input'.2.2 → ∀ url,
      (outcome.stagedUrlsByGroup input.1 = some url →
        outcome.stagedUrlsByGroup input'.1 ≠ some url) ∧
      (outcome.checksumUrlsByGroup input.1 = some url →
        outcome.checksumUrlsByGroup input'.1 ≠ some url)
  order : ∀ results' : StagingResults, results'.visibility.Perm results.visibility →
    results'.groups.Perm results.groups → bindStaged metadata staged results' = .ok outcome

/-- The results of a scan or an artifact agree, the checksum of a scan is the file for exactly the
record of the scan, the data of different records and the artifacts of different groups differ. -/
structure UnmistakableResults (metadata staged : List Json) (results : StagingResults) :
    Prop where
  scans : ∀ record ∈ staged, ∀ scan, recordScan record = some scan →
    LastWrite.Agree dataScan Prod.snd results.visibility scan ∧
    LastWrite.Agree checksumScan Prod.snd results.visibility scan
  artifacts : ∀ record ∈ metadata, ∀ input, groupInput record = .ok input →
    LastWrite.Agree dataFile Prod.snd results.groups input.2.1 ∧
    LastWrite.Agree checksumFile Prod.snd results.groups input.2.1
  checksums : ∀ record ∈ staged, ∀ scan id, recordScan record = some scan →
    requiredText "record_id" record = some id → ∀ result ∈ results.visibility,
      checksumScan result = some scan →
      extractFilenameFromUrl result.2 = some (id ++ ".checksum")
  data : ∀ record ∈ staged, ∀ record' ∈ staged, ∀ scan scan',
    recordScan record = some scan → recordScan record' = some scan' →
    requiredText "record_id" record ≠ requiredText "record_id" record' →
    ∀ result ∈ results.visibility, ∀ result' ∈ results.visibility,
      dataScan result = some scan → dataScan result' = some scan' → result.2 ≠ result'.2
  groups : ∀ record ∈ metadata, ∀ record' ∈ metadata, ∀ input input',
    groupInput record = .ok input → groupInput record' = .ok input' →
    input.2.2 ≠ input'.2.2 → input.2.1 ≠ input'.2.1

/-- The URL of a group has the name of its artifact. -/
theorem dataFile_of_last {results : List JobResult} {filename url : String}
    (h : lastUrl dataFile results filename = some url) :
    extractFilenameFromUrl url = some filename := by
  obtain ⟨result, -, hof, rfl⟩ := LastWrite.exists_of_last _ _ h
  unfold dataFile at hof
  split at hof
  · cases hof
  · exact hof

/-- So has its checksum, but for the ending. -/
theorem checksumFile_of_last {results : List JobResult} {filename url : String}
    (h : lastUrl checksumFile results filename = some url) :
    (extractFilenameFromUrl url).map stripChecksum = some filename := by
  obtain ⟨result, -, hof, rfl⟩ := LastWrite.exists_of_last _ _ h
  unfold checksumFile at hof
  split at hof
  · exact hof
  · cases hof

/-- A result of a scan that decides the outcome in every order of the results. -/
theorem agree_of_visibility_order {metadata staged : List Json} {results : StagingResults}
    {outcome : StageOutcome} {key : JobResult → Option String} {scan : String}
    (horder : ∀ results' : StagingResults, results'.visibility.Perm results.visibility →
      results'.groups.Perm results.groups → bindStaged metadata staged results' = .ok outcome)
    (hlast : ∀ results' : StagingResults, bindStaged metadata staged results' = .ok outcome →
      lastUrl key results'.visibility scan = lastUrl key results.visibility scan) :
    LastWrite.Agree key Prod.snd results.visibility scan := by
  refine (LastWrite.agree_iff key Prod.snd).mpr fun visibility hperm => ?_
  exact hlast ⟨visibility, results.groups⟩ (horder _ hperm (List.Perm.refl _))

/-- The same for the results of the groups. -/
theorem agree_of_groups_order {metadata staged : List Json} {results : StagingResults}
    {outcome : StageOutcome} {key : JobResult → Option String} {filename : String}
    (horder : ∀ results' : StagingResults, results'.visibility.Perm results.visibility →
      results'.groups.Perm results.groups → bindStaged metadata staged results' = .ok outcome)
    (hlast : ∀ results' : StagingResults, bindStaged metadata staged results' = .ok outcome →
      lastUrl key results'.groups filename = lastUrl key results.groups filename) :
    LastWrite.Agree key Prod.snd results.groups filename := by
  refine (LastWrite.agree_iff key Prod.snd).mpr fun groups hperm => ?_
  exact hlast ⟨results.visibility, groups⟩ (horder _ (List.Perm.refl _) hperm)

/-- The URLs of a record with this scan and this id. -/
theorem bindStaged_urls_of_scan {metadata staged : List Json} {results : StagingResults}
    {outcome : StageOutcome} (h : bindStaged metadata staged results = .ok outcome)
    {record : Json} (hrecord : record ∈ staged) {scan id : String}
    (hscan : recordScan record = some scan) (hid : requiredText "record_id" record = some id) :
    ∃ url checksum, lastUrl dataScan results.visibility scan = some url ∧
      lastUrl checksumScan results.visibility scan = some checksum ∧
      outcome.stagedUrlsByRecordId id = some url ∧
      outcome.checksumUrlsByRecordId id = some checksum := by
  obtain ⟨scan', id', url, checksum, hscan', hid', hfound⟩ := (bindStaged_record h).1 record hrecord
  cases hscan.symm.trans hscan'
  cases hid.symm.trans hid'
  exact ⟨url, checksum, hfound⟩

/-- The URLs of the group of a record that says this. -/
theorem bindStaged_urls_of_group {metadata staged : List Json} {results : StagingResults}
    {outcome : StageOutcome} (h : bindStaged metadata staged results = .ok outcome)
    {record : Json} (hrecord : record ∈ metadata) {input : GroupInput}
    (hinput : groupInput record = .ok input) :
    ∃ url checksum, lastUrl dataFile results.groups input.2.1 = some url ∧
      lastUrl checksumFile results.groups input.2.1 = some checksum ∧
      outcome.stagedUrlsByGroup input.1 = some url ∧
      outcome.checksumUrlsByGroup input.1 = some checksum := by
  obtain ⟨input', url, checksum, hinput', hfound⟩ := bindStaged_group h record hrecord
  cases hinput.symm.trans hinput'
  exact ⟨url, checksum, hfound⟩

/-- The id of a record that is bound. -/
theorem exists_requiredText_of_bindStaged {metadata staged : List Json} {results : StagingResults}
    {outcome : StageOutcome} (h : bindStaged metadata staged results = .ok outcome)
    {record : Json} (hrecord : record ∈ staged) :
    ∃ id, requiredText "record_id" record = some id := by
  obtain ⟨_, id, _, _, _, hid, _⟩ := (bindStaged_record h).1 record hrecord
  exact ⟨id, hid⟩

/-- Where the order does not matter, the results of the scans agree. -/
theorem scans_agree_of_order {metadata staged : List Json} {results : StagingResults}
    {outcome : StageOutcome} (h : bindStaged metadata staged results = .ok outcome)
    (horder : ∀ results' : StagingResults, results'.visibility.Perm results.visibility →
      results'.groups.Perm results.groups → bindStaged metadata staged results' = .ok outcome) :
    ∀ record ∈ staged, ∀ scan, recordScan record = some scan →
      LastWrite.Agree dataScan Prod.snd results.visibility scan ∧
      LastWrite.Agree checksumScan Prod.snd results.visibility scan := by
  intro record hrecord scan hscan
  obtain ⟨id, hid⟩ := exists_requiredText_of_bindStaged h hrecord
  obtain ⟨url, checksum, hdata, hsum, hurl, hchecksum⟩ :=
    bindStaged_urls_of_scan h hrecord hscan hid
  constructor
  · refine agree_of_visibility_order horder fun results' h' => ?_
    obtain ⟨url', _, hdata', -, hurl', -⟩ := bindStaged_urls_of_scan h' hrecord hscan hid
    rw [hdata', hdata, ← hurl', hurl]
  · refine agree_of_visibility_order horder fun results' h' => ?_
    obtain ⟨_, checksum', -, hsum', -, hchecksum'⟩ := bindStaged_urls_of_scan h' hrecord hscan hid
    rw [hsum', hsum, ← hchecksum', hchecksum]

/-- So do those of the artifacts. -/
theorem artifacts_agree_of_order {metadata staged : List Json} {results : StagingResults}
    {outcome : StageOutcome} (h : bindStaged metadata staged results = .ok outcome)
    (horder : ∀ results' : StagingResults, results'.visibility.Perm results.visibility →
      results'.groups.Perm results.groups → bindStaged metadata staged results' = .ok outcome) :
    ∀ record ∈ metadata, ∀ input, groupInput record = .ok input →
      LastWrite.Agree dataFile Prod.snd results.groups input.2.1 ∧
      LastWrite.Agree checksumFile Prod.snd results.groups input.2.1 := by
  intro record hrecord input hinput
  obtain ⟨url, checksum, hdata, hsum, hurl, hchecksum⟩ :=
    bindStaged_urls_of_group h hrecord hinput
  constructor
  · refine agree_of_groups_order horder fun results' h' => ?_
    obtain ⟨url', _, hdata', -, hurl', -⟩ := bindStaged_urls_of_group h' hrecord hinput
    rw [hdata', hdata, ← hurl', hurl]
  · refine agree_of_groups_order horder fun results' h' => ?_
    obtain ⟨_, checksum', -, hsum', -, hchecksum'⟩ := bindStaged_urls_of_group h' hrecord hinput
    rw [hsum', hsum, ← hchecksum', hchecksum]

/-- A faithful binding is one of results that cannot be mistaken. -/
theorem FaithfulUrls.unmistakable {metadata staged : List Json} {results : StagingResults}
    {outcome : StageOutcome} (hfaithful : FaithfulUrls metadata staged results outcome)
    (h : bindStaged metadata staged results = .ok outcome) :
    UnmistakableResults metadata staged results := by
  have hscans := scans_agree_of_order h hfaithful.order
  refine ⟨hscans, artifacts_agree_of_order h hfaithful.order, ?_, ?_, ?_⟩
  · intro record hrecord scan id hscan hid result hresult hof
    obtain ⟨_, checksum, -, hsum, -, hchecksum⟩ := bindStaged_urls_of_scan h hrecord hscan hid
    cases hsum.symm.trans ((hscans record hrecord scan hscan).2.last_eq _ _ hresult hof)
    exact hfaithful.checksums id _ hchecksum
  · intro record hrecord record' hrecord' scan scan' hscan hscan' hids result hresult result'
      hresult' hof hof' hsame
    obtain ⟨id, hid⟩ := exists_requiredText_of_bindStaged h hrecord
    obtain ⟨id', hid'⟩ := exists_requiredText_of_bindStaged h hrecord'
    obtain ⟨url, _, hdata, -, hurl, -⟩ := bindStaged_urls_of_scan h hrecord hscan hid
    obtain ⟨url', _, hdata', -, hurl', -⟩ := bindStaged_urls_of_scan h hrecord' hscan' hid'
    cases hdata.symm.trans ((hscans record hrecord scan hscan).1.last_eq _ _ hresult hof)
    cases hdata'.symm.trans ((hscans record' hrecord' scan' hscan').1.last_eq _ _ hresult' hof')
    rw [hid, hid'] at hids
    exact (hfaithful.records id id' _ fun heq => hids (congrArg some heq)).1 hurl (hsame ▸ hurl')
  · intro record hrecord record' hrecord' input input' hinput hinput' haccess hname
    obtain ⟨url, _, hdata, -, hurl, -⟩ := bindStaged_urls_of_group h hrecord hinput
    obtain ⟨url', _, hdata', -, hurl', -⟩ := bindStaged_urls_of_group h hrecord' hinput'
    rw [hname] at hdata
    cases hdata.symm.trans hdata'
    have hgroups := hfaithful.groups record hrecord record' hrecord' input input' hinput hinput'
      haccess url
    exact hgroups.1 hurl hurl'

/-- The checksum of a record is the file for exactly it. -/
theorem UnmistakableResults.checksum_name {metadata staged : List Json} {results : StagingResults}
    {outcome : StageOutcome} (hresults : UnmistakableResults metadata staged results)
    (h : bindStaged metadata staged results = .ok outcome) {id url : String}
    (hurl : outcome.checksumUrlsByRecordId id = some url) :
    extractFilenameFromUrl url = some (id ++ ".checksum") := by
  obtain ⟨record, hrecord, hid⟩ := (bindStaged_record h).2 id (.inr (by simp [hurl]))
  obtain ⟨scan, id', _, checksum, hscan, hid', -, hlast, -, hchecksum⟩ :=
    (bindStaged_record h).1 record hrecord
  cases hid.symm.trans hid'
  cases hurl.symm.trans hchecksum
  obtain ⟨result, hresult, hof, rfl⟩ := LastWrite.exists_of_last _ _ hlast
  exact hresults.checksums record hrecord scan id hscan hid result hresult hof

/-- The data of a record is a result of its scan. -/
theorem exists_dataScan_of_bindStaged {metadata staged : List Json} {results : StagingResults}
    {outcome : StageOutcome} (h : bindStaged metadata staged results = .ok outcome)
    {id url : String} (hurl : outcome.stagedUrlsByRecordId id = some url) :
    ∃ record ∈ staged, requiredText "record_id" record = some id ∧
      ∃ scan, recordScan record = some scan ∧
        ∃ result ∈ results.visibility, dataScan result = some scan ∧ result.2 = url := by
  obtain ⟨record, hrecord, hid⟩ := (bindStaged_record h).2 id (.inl (by simp [hurl]))
  obtain ⟨scan, id', _, _, hscan, hid', hlast, -, hurl', -⟩ :=
    (bindStaged_record h).1 record hrecord
  cases hid.symm.trans hid'
  cases hurl.symm.trans hurl'
  exact ⟨record, hrecord, hid, scan, hscan, LastWrite.exists_of_last _ _ hlast⟩

/-- Results that cannot be mistaken are bound faithfully. -/
theorem UnmistakableResults.faithful {metadata staged : List Json} {results : StagingResults}
    {outcome : StageOutcome} (hresults : UnmistakableResults metadata staged results)
    (h : bindStaged metadata staged results = .ok outcome) :
    FaithfulUrls metadata staged results outcome := by
  constructor
  · intro id id' url hne
    constructor
    · intro hurl hurl'
      obtain ⟨record, hrecord, hid, scan, hscan, result, hresult, hof, heq⟩ :=
        exists_dataScan_of_bindStaged h hurl
      obtain ⟨record', hrecord', hid', scan', hscan', result', hresult', hof', heq'⟩ :=
        exists_dataScan_of_bindStaged h hurl'
      refine hresults.data record hrecord record' hrecord' scan scan' hscan hscan' ?_ result hresult
        result' hresult' hof hof' (heq.trans heq'.symm)
      rw [hid, hid']
      exact fun hsame => hne (Option.some.inj hsame)
    · intro hurl hurl'
      have hnames := (hresults.checksum_name h hurl).symm.trans (hresults.checksum_name h hurl')
      exact hne (String.append_left_inj _ |>.mp (Option.some.inj hnames))
  · intro id url hurl
    exact hresults.checksum_name h hurl
  · intro record hrecord record' hrecord' input input' hinput hinput' haccess url
    have hname := hresults.groups record hrecord record' hrecord' input input' hinput hinput'
      haccess
    obtain ⟨data, sum, hdata, hsum, hurl, hchecksum⟩ := bindStaged_urls_of_group h hrecord hinput
    obtain ⟨data', sum', hdata', hsum', hurl', hchecksum'⟩ :=
      bindStaged_urls_of_group h hrecord' hinput'
    constructor
    · intro hsame hsame'
      cases hurl.symm.trans hsame
      cases hurl'.symm.trans hsame'
      exact hname (Option.some.inj ((dataFile_of_last hdata).symm.trans (dataFile_of_last hdata')))
    · intro hsame hsame'
      cases hchecksum.symm.trans hsame
      cases hchecksum'.symm.trans hsame'
      exact hname (Option.some.inj
        ((checksumFile_of_last hsum).symm.trans (checksumFile_of_last hsum')))
  · intro results' hvisibility hgroups
    rw [← h]
    refine bindStaged_congr (fun record hrecord scan hscan => ?_)
      fun record hrecord input hinput => ?_
    · obtain ⟨hdata, hsum⟩ := hresults.scans record hrecord scan hscan
      exact ⟨(LastWrite.agree_iff _ _).mp hdata _ hvisibility,
        (LastWrite.agree_iff _ _).mp hsum _ hvisibility⟩
    · obtain ⟨hdata, hsum⟩ := hresults.artifacts record hrecord input hinput
      exact ⟨(LastWrite.agree_iff _ _).mp hdata _ hgroups,
        (LastWrite.agree_iff _ _).mp hsum _ hgroups⟩

/-- **When the binding is faithful.** -/
theorem faithfulUrls_iff {metadata staged : List Json} {results : StagingResults}
    {outcome : StageOutcome} (h : bindStaged metadata staged results = .ok outcome) :
    FaithfulUrls metadata staged results outcome ↔
      UnmistakableResults metadata staged results := by
  constructor
  · intro hfaithful
    exact hfaithful.unmistakable h
  · intro hresults
    exact hresults.faithful h

/-- A record of a scan, with the artifact of its group. -/
def sampleRecord (recordId : String) : Json :=
  .obj [("record_id", .str recordId), ("staging_id", .str "scan-9"), ("group_key", .str "1"),
    ("group_artifact_filename", .str "g.tar"),
    ("group_artifact_access_url", .str "https://a/datalink?g")]

/-- The results for the scan and the artifact, with a checksum of this name. -/
def sampleResults (checksum : String) : StagingResults where
  visibility := [("visibility-9", "https://a/SB1.ms.tar"),
    ("visibility-9.checksum", "https://a/" ++ checksum)]
  groups := [("evaluation-1", "https://a/g.tar"),
    ("evaluation-1.checksum", "https://a/g.tar.checksum")]

/-- Results that cannot be mistaken. -/
theorem faithfulUrls_sample :
    ∃ outcome, bindStaged [sampleRecord "SB1.ms.tar"] [sampleRecord "SB1.ms.tar"]
        (sampleResults "SB1.ms.tar.checksum") = .ok outcome ∧
      FaithfulUrls [sampleRecord "SB1.ms.tar"] [sampleRecord "SB1.ms.tar"]
        (sampleResults "SB1.ms.tar.checksum") outcome := by
  have hok : (bindStaged [sampleRecord "SB1.ms.tar"] [sampleRecord "SB1.ms.tar"]
      (sampleResults "SB1.ms.tar.checksum")).isOk = true := by decide +kernel
  have hscan : recordScan (sampleRecord "SB1.ms.tar") = some "9" := by decide +kernel
  have hid : requiredText "record_id" (sampleRecord "SB1.ms.tar") = some "SB1.ms.tar" := by
    decide +kernel
  have hinput : (groupInput (sampleRecord "SB1.ms.tar")).toOption =
      some ("1", "g.tar", "https://a/datalink?g") := by decide +kernel
  have hresults : UnmistakableResults [sampleRecord "SB1.ms.tar"] [sampleRecord "SB1.ms.tar"]
      (sampleResults "SB1.ms.tar.checksum") := by
    constructor
    · intro record hrecord scan hkey
      cases List.mem_singleton.mp hrecord
      cases hscan.symm.trans hkey
      constructor
      · unfold LastWrite.Agree
        decide +kernel
      · unfold LastWrite.Agree
        decide +kernel
    · intro record hrecord input hkey
      cases List.mem_singleton.mp hrecord
      rw [hkey] at hinput
      cases hinput
      constructor
      · unfold LastWrite.Agree
        decide +kernel
      · unfold LastWrite.Agree
        decide +kernel
    · intro record hrecord scan id hkey hid'
      cases List.mem_singleton.mp hrecord
      cases hscan.symm.trans hkey
      cases hid.symm.trans hid'
      decide +kernel
    · intro record hrecord record' hrecord' scan scan' _ _ hne
      cases List.mem_singleton.mp hrecord
      cases List.mem_singleton.mp hrecord'
      exact absurd rfl hne
    · intro record hrecord record' hrecord' input input' hkey hkey' hne
      cases List.mem_singleton.mp hrecord
      cases List.mem_singleton.mp hrecord'
      cases hkey.symm.trans hkey'
      exact absurd rfl hne
  cases h : bindStaged [sampleRecord "SB1.ms.tar"] [sampleRecord "SB1.ms.tar"]
      (sampleResults "SB1.ms.tar.checksum") with
  | error error => simp [h, Except.isOk, Except.toBool] at hok
  | ok outcome => exact ⟨outcome, rfl, (faithfulUrls_iff h).mpr hresults⟩

/-- A record is given the checksum of another one whose name contains its own. -/
theorem bindStaged_other_checksum :
    ¬ ∀ metadata staged results outcome, bindStaged metadata staged results = .ok outcome →
      FaithfulUrls metadata staged results outcome := by
  intro h
  have hurl : (bindStaged [sampleRecord "SB1"] [sampleRecord "SB1"]
      (sampleResults "SB10.ms.tar.checksum")).toOption.bind
        (·.checksumUrlsByRecordId "SB1") = some "https://a/SB10.ms.tar.checksum" := by
    decide +kernel
  cases hbind : bindStaged [sampleRecord "SB1"] [sampleRecord "SB1"]
      (sampleResults "SB10.ms.tar.checksum") with
  | error error => simp [hbind, Except.toOption] at hurl
  | ok outcome =>
      rw [hbind] at hurl
      have hname := (h _ _ _ outcome hbind).checksums "SB1" _ hurl
      exact absurd hname (by decide +kernel)

end Beampipe.Staging
