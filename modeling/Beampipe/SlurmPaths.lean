/-
From the paths of a Slurm session to the receipt of its submission.

Before `sbatch` runs, the session directory, the staging root and the cache root are derived from
the path of the job script, the configured root and the contract of the deployment profile.  After
it, the session id, the job number and the session directory are put into one composite id, taken
apart again by the worker, checked by the receipt, and later used to find the output inventory.  All
of these look at the same directory, each with a check of its own.

Main definitions:

* `Beampipe.SlurmRuntimeContractConfig`, `Beampipe.deriveSessionPaths` — the paths of a session;
* `Beampipe.UtcTime`, `Beampipe.UtcTime.beampipeSessionId` — the session id as text;
* `Beampipe.composeSchedulerJobId`, `Beampipe.outputInventoryRemotePaths` — what reads them;
* `Beampipe.slurmBackendSubmit` — what the backend returns after the submission.

Main results:

* `Beampipe.normalizedAbsolutePath_pathText` — a path that is written down is read back;
* `Beampipe.deriveSessionPaths_ok` — what is known of the paths that are accepted;
* `Beampipe.parseSchedulerJobId_compose` — the composite id is taken apart into its parts;
* `Beampipe.deriveSessionPaths_of_components` — a script in its own directory is accepted;
* `Beampipe.receipt_encodable` — **for a directory without white space at its end the whole chain
  succeeds exactly when the composite id fits its column, and otherwise says how long it is**.
-/

import Beampipe.ExecuteWorker
import Beampipe.RunRecord

set_option relaxedAutoImplicit false
set_option autoImplicit false

namespace Beampipe

/-! ### Paths -/

/-- The components of a path, each behind a `/`. -/
def pathChars : List String → List Char
  | [] => []
  | component :: components => '/' :: (component.toList ++ pathChars components)

/-- `PathBuf::from("/")` with the components pushed. -/
def pathText (components : List String) : String :=
  if components.isEmpty then "/" else String.ofList (pathChars components)

/-- `Path::is_absolute`. -/
def isAbsolutePath (path : String) : Bool := path.toList.head? == some '/'

/-- `Path::join`. -/
def joinPath (base relative : String) : String :=
  if isAbsolutePath relative then relative
  else if base.toList.getLast? == some '/' then base ++ relative
  else base ++ "/" ++ relative

/-! ### The runtime contract -/

/-- `SlurmRuntimeContractConfig`; of a required variable only its name is checked. -/
structure SlurmRuntimeContractConfig where
  requiredCommands : List String := []
  requiredPythonModules : List String := []
  requiredEnvironment : List String := []
  outputSubdirectory : String := "outputs"
  sharedStagingSubdirectory : String := "shared_staging"
  outputEnvironmentVariable : Option String := none
  sharedStagingEnvironmentVariable : Option String := none
  deriving DecidableEq, Repr

/-- `validate_relative_subdirectory`; only a first `.` is a component of its own. -/
def validateRelativeSubdirectory (value name : String) : Except String Unit :=
  let components := splitSlash value.toList
  if isBlank value || value != trim value || value.toList.any isControl ||
      value.toList.contains ',' || value.toList.contains ':' || isAbsolutePath value ||
      components.head? == some ['.'] || components.contains ['.', '.'] then
    .error (name ++ " must be a non-empty relative path without traversal components")
  else .ok ()

/-- `validate_unique_values`; `seen` are the values so far. -/
def validateUniqueValues (name : String) (valid : String → Bool) :
    List String → List String → Except String Unit
  | _, [] => .ok ()
  | seen, value :: values =>
      if !valid value then .error (name ++ " contains invalid value '" ++ value ++ "'")
      else if seen.contains value then
        .error (name ++ " contains duplicate value '" ++ value ++ "'")
      else validateUniqueValues name valid (value :: seen) values

/-- `char::is_ascii_alphabetic`. -/
def isAsciiAlphabetic (c : Char) : Bool := ('a' ≤ c && c ≤ 'z') || ('A' ≤ c && c ≤ 'Z')

/-- A letter or an underscore, followed by letters, digits and underscores. -/
def isIdentifier (chars : List Char) : Bool :=
  (chars.head?.any fun c => c == '_' || isAsciiAlphabetic c) &&
    chars.all fun c => c == '_' || isAsciiAlphabetic c || isAsciiDigit c

/-- `valid_python_module`. -/
def validPythonModule (value : String) : Bool :=
  !value.isEmpty && decide (value.utf8ByteSize ≤ 255) &&
    (splitDots value.toList).all isIdentifier

/-- The variables that Core sets. -/
def reservedSlurmRuntimeEnvironment : List String :=
  ["BEAMPIPE_SLURM_ACCOUNT", "PYTHONPATH", "BEAMPIPE_EXECUTION_ID", "BEAMPIPE_EXECUTION_ATTEMPT",
    "BEAMPIPE_OUTPUT_DESTINATION_URI", "BEAMPIPE_OUTPUT_ROOT",
    "BEAMPIPE_OUTPUT_INVENTORY_HANDOFF_PATH"]

/-- `validate_environment_name`. -/
def validateEnvironmentName (value name : String) : Except String Unit :=
  if value.isEmpty || decide (255 < value.utf8ByteSize) || !isIdentifier value.toList then
    .error (name ++ " must be a POSIX environment variable name")
  else if reservedSlurmRuntimeEnvironment.contains value then
    .error (name ++ " uses reserved Core variable '" ++ value ++ "'")
  else .ok ()

/-- The required variables; `seen` are the names so far. -/
def validateRequiredEnvironment : List String → List String → Except String Unit
  | _, [] => .ok ()
  | seen, name :: names => do
      validateEnvironmentName name "deployment.runtime_contract.required_environment.name"
      if seen.contains name then
        .error ("deployment.runtime_contract.required_environment contains duplicate variable '" ++
          name ++ "'")
      else validateRequiredEnvironment (name :: seen) names

/-- A variable that the contract exports a directory to. -/
def validateExportedVariable (required : List String) (name : String) :
    Option String → Except String Unit
  | none => .ok ()
  | some value => do
      validateEnvironmentName value name
      if required.contains value then
        .error (name ++ " must not duplicate a required environment variable")
      else .ok ()

/-- `validate_slurm_runtime_contract`. -/
def SlurmRuntimeContractConfig.validate (contract : SlurmRuntimeContractConfig) :
    Except String Unit := do
  validateRelativeSubdirectory contract.outputSubdirectory
    "deployment.runtime_contract.output_subdirectory"
  validateRelativeSubdirectory contract.sharedStagingSubdirectory
    "deployment.runtime_contract.shared_staging_subdirectory"
  if contract.outputSubdirectory = contract.sharedStagingSubdirectory then
    .error "deployment.runtime_contract output and shared staging subdirectories must differ"
  else
    validateUniqueValues "deployment.runtime_contract.required_commands"
      (fun value => !value.isEmpty && decide (value.utf8ByteSize ≤ 255) &&
        !value.toList.any isControl && !value.toList.any isWhitespace) [] contract.requiredCommands
    validateUniqueValues "deployment.runtime_contract.required_python_modules" validPythonModule []
      contract.requiredPythonModules
    validateRequiredEnvironment [] contract.requiredEnvironment
    validateExportedVariable contract.requiredEnvironment
      "deployment.runtime_contract.output_environment_variable" contract.outputEnvironmentVariable
    validateExportedVariable contract.requiredEnvironment
      "deployment.runtime_contract.shared_staging_environment_variable"
      contract.sharedStagingEnvironmentVariable
    if contract.outputEnvironmentVariable = contract.sharedStagingEnvironmentVariable ∧
        contract.outputEnvironmentVariable.isSome then
      .error ("deployment.runtime_contract output and shared staging environment variables must " ++
        "differ")
    else .ok ()

/-! ### The paths of a session -/

/-- `normalized_remote_absolute_path`, as the components of the path. -/
def normalizedRemoteAbsolutePath (rawPath label : String) : Except String (List String) :=
  if rawPath.toList.any isControl then .error (label ++ " contains control characters")
  else if rawPath.toList.contains ',' || rawPath.toList.contains ':' then
    .error (label ++ " contains a delimiter that is unsafe for container bind paths")
  else if !isAbsolutePath rawPath then .error (label ++ " must be an absolute path")
  else
    match normalizedAbsolutePath rawPath with
    | none => .error (label ++ " must not contain relative or traversal components")
    | some components => .ok components

/-- `derive_session_paths`: the session directory, the staging root and the cache root. -/
def deriveSessionPaths (jobsubPath dlgRoot : String) (contract : SlurmRuntimeContractConfig) :
    Except String (String × String × String) := do
  contract.validate
  let jobsub ← normalizedRemoteAbsolutePath jobsubPath "job submission script path"
  let root ← normalizedRemoteAbsolutePath dlgRoot "DLG_ROOT"
  if root = [] then
    .error "DLG_ROOT must be a dedicated directory, not the remote filesystem root"
  else if ¬ root <+: jobsub ∨ jobsub = root then
    .error "job submission script path must be beneath DLG_ROOT"
  else if jobsub.dropLast = root then
    .error ("job submission script path must be inside a session directory beneath " ++
      "DLG_ROOT")
  else
    let sessionDir := pathText jobsub.dropLast
    .ok (sessionDir, joinPath sessionDir contract.outputSubdirectory,
      joinPath (pathText root) contract.sharedStagingSubdirectory)

/-- `OutputInventoryRemotePaths`. -/
structure OutputInventoryRemotePaths where
  controlDirectory : String
  publicationDirectory : String
  attemptDirectory : String
  inventoryPath : String
  deriving DecidableEq, Repr

/-- `output_inventory_remote_paths`. -/
def outputInventoryRemotePaths (remoteSessionDir : String) (executionAttempt : ℤ) :
    Except String OutputInventoryRemotePaths :=
  if ¬ (0 ≤ executionAttempt ∧ executionAttempt < 2147483647) then
    .error ("output inventory execution attempt must be non-negative and leave retry headroom")
  else if remoteSessionDir.isEmpty || remoteSessionDir != trim remoteSessionDir ||
      remoteSessionDir.toList.any isControl || !isAbsolutePath remoteSessionDir then
    .error "remote DALiuGE session directory must be a normalized absolute path"
  else
    match normalizedAbsolutePath remoteSessionDir with
    | none => .error "remote DALiuGE session directory must not contain traversal components"
    | some normalized =>
        if normalized = [] ∨ pathText normalized ≠ remoteSessionDir then
          .error "remote DALiuGE session directory must be a normalized dedicated directory"
        else
          let control := normalized ++ [".beampipe"]
          let publication := control ++ ["publication"]
          let attempt := publication ++ ["attempt-" ++ toString executionAttempt]
          let inventory := attempt ++ ["beampipe-output-inventory.json"]
          if inventory.dropLast ≠ attempt ∨ ¬ publication <+: attempt ∨
              ¬ normalized <+: inventory ∨ inventory = normalized then
            .error "output inventory handoff path escaped the remote session directory"
          else .ok ⟨pathText control, pathText publication, pathText attempt, pathText inventory⟩

/-! ### The session id -/

/-- The decimal digits of a number, as many as asked for. -/
def decimalDigits : ℕ → ℕ → List Char
  | 0, _ => []
  | count + 1, n => decimalDigits count (n / 10) ++ [Nat.digitChar (n % 10)]

/-- The lower-case hexadecimal digits of a number, as many as asked for. -/
def hexDigits : ℕ → ℕ → List Char
  | 0, _ => []
  | count + 1, n => hexDigits count (n / 16) ++ [Nat.digitChar (n % 16)]

/-- The hyphenated form of a UUID. -/
def uuidText (uuid : Uuid) : String :=
  let digits := hexDigits 32 uuid
  String.ofList (digits.take 8 ++ '-' :: (digits.drop 8).take 4 ++ '-' :: (digits.drop 12).take 4 ++
    '-' :: (digits.drop 16).take 4 ++ '-' :: digits.drop 20)

/-- A `DateTime<Utc>` to the second; the years are those of the calendar library. -/
structure UtcTime where
  year : ℤ
  month : ℕ
  day : ℕ
  hour : ℕ
  minute : ℕ
  second : ℕ
  year_range : -262143 ≤ year ∧ year ≤ 262142
  deriving DecidableEq, Repr

namespace UtcTime

/-- `%Y`: four digits, or a sign and at least four. -/
def yearChars (year : ℤ) : List Char :=
  if 0 ≤ year ∧ year ≤ 9999 then decimalDigits 4 year.toNat
  else
    (if year < 0 then '-' else '+') ::
      if year.natAbs ≤ 9999 then decimalDigits 4 year.natAbs
      else if year.natAbs ≤ 99999 then decimalDigits 5 year.natAbs
      else decimalDigits 6 year.natAbs

/-- `%Y-%m-%dT%H-%M-%S`. -/
def chars (t : UtcTime) : List Char :=
  yearChars t.year ++ '-' :: decimalDigits 2 t.month ++ '-' :: decimalDigits 2 t.day ++
    'T' :: decimalDigits 2 t.hour ++ '-' :: decimalDigits 2 t.minute ++
    '-' :: decimalDigits 2 t.second

/-- `beampipe_session_id`. -/
def beampipeSessionId (createdAt : UtcTime) (executionId : Uuid) : String :=
  "BeampipeExecution-" ++ uuidText executionId ++ "-" ++ String.ofList createdAt.chars

end UtcTime

/-! ### The composite id -/

/-- `SlurmJobIdError`. -/
inductive SlurmJobIdError where
  | tooLong (length : ℕ)
  deriving DecidableEq, Repr

/-- What the error says. -/
def SlurmJobIdError.message : SlurmJobIdError → String
  | tooLong length => "scheduler_job_id exceeds max length 512: len=" ++ toString length

/-- `compose_scheduler_job_id`. -/
def composeSchedulerJobId (sessionId slurmJobId : String) (sessionDir : Option String) :
    Except SlurmJobIdError String :=
  let body :=
    match sessionDir.filter fun dir => !isBlank dir with
    | some dir => sessionId ++ ":" ++ slurmJobId ++ "|" ++ dir
    | none => sessionId ++ ":" ++ slurmJobId
  if 512 < body.utf8ByteSize then .error (.tooLong body.utf8ByteSize) else .ok body

/-! ### The submission of the backend -/

/-- `partitioned_pgt_for_dlg_deploy`, with the name that it gives to a bare graph. -/
def partitionedPgtForDlgDeploy : Json → Json
  | .arr [.str name, .arr drops] => .arr [.str name, .arr drops]
  | pgt => .arr [.str "beampipe_pgt.graph", pgt]

/-- `bind_physical_graph_to_session`. -/
def bindPhysicalGraphToSession (sessionId : String) : Json → Json
  | .arr (_ :: items) => .arr (.str (sessionId ++ ".pgt.graph") :: items)
  | pgt => pgt

/-- `record_slurm_paths`. -/
def recordSlurmPaths (manifest : Json) (sessionDir stagingRoot : Option String) : Json :=
  let path (value : Option String) := (value.filter fun text => !isBlank text).map Json.str
  match runRecordSection "slurm" (some manifest) with
  | some (.obj _) =>
      updateSection (some manifest) "slurm" fun slurm =>
        Json.insertField "paths"
          (.obj (insertSome "staging_root" (path stagingRoot)
            (insertSome "session_dir" (path sessionDir) (object (Json.lookupField "paths" slurm)))))
          slurm
  | _ => manifest

/-- What the Slurm backend returns for a job that it has submitted: `raw` is the partitioned graph
of the translator, `manifest` the manifest of the execution. -/
def slurmBackendSubmit (now sessionId composite sessionDir stagingRoot : String)
    (loginNode remoteUser : Option String) (manifest raw : Json) : BackendSubmit :=
  let parsed := parseSchedulerJobId composite
  let slurmJobId := if parsed.slurmJobId.isEmpty then composite else parsed.slurmJobId
  { schedulerName := "slurm"
    schedulerJobId := some composite
    sessionId := some sessionId
    remoteSessionDir := some sessionDir
    stagingRoot := some stagingRoot
    workflowManifest :=
      recordSlurmPaths
        (mergeSlurmSubmitIntoManifest now (some manifest) sessionId slurmJobId composite loginNode
          remoteUser) (some sessionDir) (some stagingRoot)
    physicalGraph := some (bindPhysicalGraphToSession sessionId (partitionedPgtForDlgDeploy raw))
    nextStatus := .awaitingScheduler }

/-! ### Texts -/

/-- The first separator is the one behind a text without any. -/
theorem splitOnce_append {separator : Char} {head rest : String}
    (hhead : separator ∉ head.toList) :
    splitOnce separator (head ++ String.singleton separator ++ rest) = some (head, rest) := by
  have hchars : ∀ chars : List Char, separator ∉ chars →
      splitOnceChars separator (chars ++ separator :: rest.toList) = some (chars, rest.toList) := by
    intro chars hchars
    induction chars with
    | nil => simp [splitOnceChars]
    | cons c chars ih =>
        rw [List.mem_cons, not_or] at hchars
        rw [List.cons_append, splitOnceChars, if_neg (fun h => hchars.1 h.symm), ih hchars.2]
        rfl
  have htext : (head ++ String.singleton separator ++ rest).toList =
      head.toList ++ separator :: rest.toList := by
    simp
  rw [splitOnce, htext, hchars _ hhead]
  simp

/-! ### Components -/

theorem splitSlash_append {part rest : List Char} (hpart : '/' ∉ part) :
    splitSlash (part ++ '/' :: rest) = part :: splitSlash rest := by
  induction part with
  | nil => simp [splitSlash]
  | cons c part ih =>
      rw [List.mem_cons, not_or] at hpart
      rw [List.cons_append, splitSlash, if_neg (fun h => hpart.1 h.symm), ih hpart.2]

theorem splitSlash_single {part : List Char} (hpart : '/' ∉ part) : splitSlash part = [part] := by
  induction part with
  | nil => rfl
  | cons c part ih =>
      rw [List.mem_cons, not_or] at hpart
      rw [splitSlash, if_neg (fun h => hpart.1 h.symm), ih hpart.2]

/-- The parts of a text have no separator, and only characters of the text. -/
theorem mem_splitSlash {chars part : List Char} (h : part ∈ splitSlash chars) :
    '/' ∉ part ∧ ∀ c ∈ part, c ∈ chars := by
  induction chars generalizing part with
  | nil =>
      rw [splitSlash, List.mem_singleton] at h
      subst h
      simp
  | cons c chars ih =>
      rw [splitSlash] at h
      split at h
      next hslash =>
        rcases List.mem_cons.mp h with rfl | hrest
        · simp
        · exact ⟨(ih hrest).1, fun d hd => List.mem_cons_of_mem _ ((ih hrest).2 d hd)⟩
      next hslash =>
        split at h
        · rw [List.mem_singleton] at h
          subst h
          simp [Ne.symm hslash]
        next part' parts hparts =>
          have hmem : ∀ {p}, p ∈ part' :: parts → p ∈ splitSlash chars := fun hp => hparts ▸ hp
          rcases List.mem_cons.mp h with rfl | hrest
          · obtain ⟨hno, hchars⟩ := ih (hmem List.mem_cons_self)
            refine ⟨by simp [Ne.symm hslash, hno], fun d hd => ?_⟩
            rcases List.mem_cons.mp hd with rfl | hd
            · exact List.mem_cons_self
            · exact List.mem_cons_of_mem _ (hchars d hd)
          · obtain ⟨hno, hchars⟩ := ih (hmem (List.mem_cons_of_mem _ hrest))
            exact ⟨hno, fun d hd => List.mem_cons_of_mem _ (hchars d hd)⟩

/-- A component that `Path::components` calls normal. -/
structure IsComponent (component : String) : Prop where
  ne_empty : component ≠ ""
  ne_dot : component ≠ "."
  ne_dots : component ≠ ".."
  no_slash : '/' ∉ component.toList
  no_control : ∀ c ∈ component.toList, isControl c = false

/-- A path that can be read has normal components. -/
theorem normalizedAbsolutePath_components {path : String} {components : List String}
    (h : normalizedAbsolutePath path = some components) :
    path.toList.any isControl = false ∧ ∀ component ∈ components, IsComponent component := by
  unfold normalizedAbsolutePath at h
  dsimp only at h
  split at h
  · cases h
  next hchars =>
    split at h
    · cases h
    next hdots =>
      have hcontrol : path.toList.any isControl = false := by
        rw [Bool.or_eq_true, not_or] at hchars
        exact Bool.eq_false_of_not_eq_true hchars.1
      refine ⟨hcontrol, ?_⟩
      cases h
      intro component hcomponent
      rw [List.mem_filter, Bool.and_eq_true, bne_iff_ne, bne_iff_ne] at hcomponent
      obtain ⟨hmem, hempty, hdot⟩ := hcomponent
      obtain ⟨part, hpart, rfl⟩ := List.mem_map.mp hmem
      obtain ⟨hslash, hpath⟩ := mem_splitSlash hpart
      refine ⟨hempty, hdot, ?_, by rwa [String.toList_ofList], ?_⟩
      · rintro hequal
        rw [List.contains_iff_mem, ← hequal] at hdots
        exact hdots hmem
      · intro c hc
        rw [String.toList_ofList] at hc
        rw [List.any_eq_false] at hcontrol
        exact Bool.eq_false_of_not_eq_true (hcontrol c (hpath c hc))

/-- The components behind a path. -/
theorem splitSlash_pathChars {components : List String}
    (h : ∀ component ∈ components, '/' ∉ component.toList) (rest : List Char) :
    splitSlash (pathChars components ++ '/' :: rest) =
      [] :: (components.map String.toList ++ splitSlash rest) := by
  induction components with
  | nil => simp [pathChars, splitSlash]
  | cons component components ih =>
      have hhead := h component List.mem_cons_self
      have htail := ih fun other hother => h other (List.mem_cons_of_mem _ hother)
      have hsplit : splitSlash (component.toList ++ (pathChars components ++ '/' :: rest)) =
          component.toList :: (components.map String.toList ++ splitSlash rest) := by
        cases components with
        | nil => exact splitSlash_append hhead
        | cons next components =>
            rw [pathChars, List.cons_append, splitSlash_append hhead]
            rw [pathChars, List.cons_append, splitSlash, if_pos rfl, List.cons.injEq] at htail
            rw [htail.2]
      rw [pathChars, List.cons_append, List.append_assoc, splitSlash, if_pos rfl, hsplit]
      rfl

theorem pathChars_append (a b : List String) : pathChars (a ++ b) = pathChars a ++ pathChars b := by
  induction a with
  | nil => rfl
  | cons component a ih => simp [pathChars, ih]

theorem no_control_pathChars {components : List String}
    (h : ∀ component ∈ components, IsComponent component) :
    ∀ c ∈ pathChars components, isControl c = false := by
  induction components with
  | nil => simp [pathChars]
  | cons component components ih =>
      intro c hc
      rw [pathChars, List.mem_cons, List.mem_append] at hc
      rcases hc with rfl | hc | hc
      · rfl
      · exact (h component List.mem_cons_self).no_control c hc
      · exact ih (fun other hother => h other (List.mem_cons_of_mem _ hother)) c hc

/-- The components that a text adds to a path. -/
def addedComponents (rest : List Char) : List String :=
  ((splitSlash rest).map String.ofList).filter fun component =>
    component != "" && component != "."

/-- A path with a text behind it. -/
theorem normalizedAbsolutePath_append {components : List String}
    (h : ∀ component ∈ components, IsComponent component) {rest : List Char}
    (hcontrol : ∀ c ∈ rest, isControl c = false) (hdots : ['.', '.'] ∉ splitSlash rest) :
    normalizedAbsolutePath (String.ofList (pathChars components ++ '/' :: rest)) =
      some (components ++ addedComponents rest) := by
  have hfirst : (pathChars components ++ '/' :: rest).head? = some '/' := by
    cases components <;> rfl
  have hany : (pathChars components ++ '/' :: rest).any isControl = false := by
    rw [List.any_eq_false]
    intro c hc
    rw [List.mem_append, List.mem_cons] at hc
    rw [Bool.not_eq_true]
    rcases hc with hc | rfl | hc
    · exact no_control_pathChars h c hc
    · rfl
    · exact hcontrol c hc
  have hsplit := splitSlash_pathChars (fun component hc => (h component hc).no_slash) rest
  have hparts : (splitSlash (pathChars components ++ '/' :: rest)).map String.ofList =
      "" :: (components ++ (splitSlash rest).map String.ofList) := by
    rw [hsplit, List.map_cons, List.map_append, List.map_map]
    congr 2
    exact (List.map_congr_left fun component _ => String.ofList_toList).trans (List.map_id' _)
  have hnodots : ("" :: (components ++ (splitSlash rest).map String.ofList)).contains ".." =
      false := by
    rw [← Bool.not_eq_true, List.contains_iff_mem, List.mem_cons, List.mem_append, not_or, not_or]
    refine ⟨by decide, fun hmem => (h _ hmem).ne_dots rfl, fun hmem => ?_⟩
    obtain ⟨part, hpart, htext⟩ := List.mem_map.mp hmem
    have hchars : part = ['.', '.'] := by
      rw [← String.toList_ofList (l := part), htext]
      rfl
    exact hdots (hchars ▸ hpart)
  unfold normalizedAbsolutePath
  dsimp only
  rw [String.toList_ofList, hany, hfirst, hparts, if_neg (by simp), hnodots,
    if_neg Bool.false_ne_true]
  have hkept : components.filter (fun component => component != "" && component != ".") =
      components := by
    rw [List.filter_eq_self]
    intro component hcomponent
    have hnormal := h component hcomponent
    simp [hnormal.ne_empty, hnormal.ne_dot]
  rw [List.filter_cons_of_neg (by simp), List.filter_append, hkept]
  rfl

/-- **A path that is written down is read back.** -/
theorem normalizedAbsolutePath_pathText {components : List String} (hne : components ≠ [])
    (h : ∀ component ∈ components, IsComponent component) :
    normalizedAbsolutePath (pathText components) = some components := by
  obtain ⟨init, last, rfl⟩ : ∃ init last, components = init ++ [last] :=
    ⟨components.dropLast, components.getLast hne, (List.dropLast_append_getLast hne).symm⟩
  have hlast := h last (List.mem_append_right _ List.mem_cons_self)
  have hsingle : splitSlash last.toList = [last.toList] := splitSlash_single hlast.no_slash
  have htext : pathText (init ++ [last]) =
      String.ofList (pathChars init ++ '/' :: last.toList) := by
    rw [pathText, if_neg (by simp), pathChars_append]
    simp [pathChars]
  have hadded : addedComponents last.toList = [last] := by
    rw [addedComponents, hsingle, List.map_singleton, String.ofList_toList]
    simp [hlast.ne_empty, hlast.ne_dot]
  rw [htext, normalizedAbsolutePath_append
    (fun component hc => h component (List.mem_append_left _ hc)) hlast.no_control, hadded]
  rw [hsingle, List.mem_singleton]
  intro hdots
  exact hlast.ne_dots (String.toList_inj.mp hdots.symm)

/-! ### What is known of accepted paths -/

/-- The first component of a relative path that is accepted is normal. -/
theorem validateRelativeSubdirectory_ok {value name : String}
    (h : validateRelativeSubdirectory value name = .ok ()) :
    trim value = value ∧ (∀ c ∈ value.toList, isControl c = false) ∧
      isAbsolutePath value = false ∧ ['.', '.'] ∉ splitSlash value.toList ∧
      addedComponents value.toList ≠ [] := by
  unfold validateRelativeSubdirectory at h
  dsimp only at h
  split at h
  · cases h
  next hrejected =>
    simp only [Bool.or_eq_true, not_or, Bool.not_eq_true, bne_eq_false_iff_eq] at hrejected
    obtain ⟨⟨⟨⟨⟨⟨⟨hblank, htrim⟩, hcontrol⟩, -⟩, -⟩, habsolute⟩, hdot⟩, hdots⟩ := hrejected
    rw [← Bool.not_eq_true, List.contains_iff_mem] at hdots
    refine ⟨htrim.symm, fun c hc => ?_, habsolute, hdots, ?_⟩
    · rw [List.any_eq_false] at hcontrol
      exact Bool.eq_false_of_not_eq_true (hcontrol c hc)
    · -- the first part is neither empty, for the path is not absolute, nor a dot
      obtain ⟨part, parts, hparts, hpart⟩ : ∃ part parts,
          splitSlash value.toList = part :: parts ∧ part ≠ [] := by
        cases hchars : value.toList with
        | nil => simp [isBlank, hchars] at hblank
        | cons c rest =>
            have hslash : c ≠ '/' := by
              rintro rfl
              simp [isAbsolutePath, hchars] at habsolute
            rw [splitSlash, if_neg hslash]
            split
            · exact ⟨[c], [], rfl, List.cons_ne_nil _ _⟩
            next part parts _ => exact ⟨c :: part, parts, rfl, List.cons_ne_nil _ _⟩
      rw [hparts, List.head?_cons, beq_eq_false_iff_ne] at hdot
      refine List.ne_nil_of_mem (List.mem_filter.mpr ⟨List.mem_map.mpr ⟨part, ?_, rfl⟩, ?_⟩)
      · rw [hparts]
        exact List.mem_cons_self
      · rw [Bool.and_eq_true, bne_iff_ne, bne_iff_ne]
        constructor
        · intro hempty
          exact hpart (by simpa using hempty)
        · intro hdotted
          refine hdot (congrArg some ?_)
          rw [← String.toList_ofList (l := part), hdotted]
          rfl

theorem SlurmRuntimeContractConfig.outputSubdirectory_of_validate
    {contract : SlurmRuntimeContractConfig} (h : contract.validate = .ok ()) :
    validateRelativeSubdirectory contract.outputSubdirectory
      "deployment.runtime_contract.output_subdirectory" = .ok () := by
  obtain ⟨⟨⟩, houtput, -⟩ := exceptBind_ok h
  exact houtput

theorem normalizedRemoteAbsolutePath_normalized {rawPath label : String} {components : List String}
    (h : normalizedRemoteAbsolutePath rawPath label = .ok components) :
    normalizedAbsolutePath rawPath = some components := by
  unfold normalizedRemoteAbsolutePath at h
  split at h
  · cases h
  split at h
  · cases h
  split at h
  · cases h
  split at h
  · cases h
  next hcomponents =>
    cases h
    exact hcomponents

theorem normalizedRemoteAbsolutePath_ok {rawPath label : String} {components : List String}
    (h : normalizedRemoteAbsolutePath rawPath label = .ok components) :
    ∀ component ∈ components, IsComponent component :=
  (normalizedAbsolutePath_components (normalizedRemoteAbsolutePath_normalized h)).2

/-- The text of a path ends in its last component. -/
theorem getLast_pathText {components : List String} (hne : components ≠ [])
    (h : ∀ component ∈ components, IsComponent component) :
    ∃ c, (pathText components).toList.getLast? = some c ∧ c ≠ '/' := by
  obtain ⟨init, last, rfl⟩ : ∃ init last, components = init ++ [last] :=
    ⟨components.dropLast, components.getLast hne, (List.dropLast_append_getLast hne).symm⟩
  have hlast := h last (List.mem_append_right _ List.mem_cons_self)
  have hchars : last.toList ≠ [] := fun hnil => hlast.ne_empty (by simpa using hnil)
  refine ⟨last.toList.getLast hchars, ?_, fun hslash => ?_⟩
  · rw [pathText, if_neg (by simp), String.toList_ofList, pathChars_append]
    simp [pathChars, List.getLast?_cons, List.getLast?_eq_some_getLast hchars]
  · exact hlast.no_slash (hslash ▸ List.getLast_mem hchars)

/-- What is known of a session that is accepted, as components. -/
theorem deriveSessionPaths_components
    {jobsubPath dlgRoot sessionDir outputRoot sharedRoot : String}
    {contract : SlurmRuntimeContractConfig}
    (h : deriveSessionPaths jobsubPath dlgRoot contract =
      .ok (sessionDir, outputRoot, sharedRoot)) :
    ∃ root session script, root ≠ [] ∧ session ≠ [] ∧
      normalizedAbsolutePath dlgRoot = some root ∧
      normalizedAbsolutePath jobsubPath = some (root ++ session ++ [script]) ∧
      (∀ component ∈ root ++ session, IsComponent component) ∧ contract.validate = .ok () ∧
      sessionDir = pathText (root ++ session) ∧
      outputRoot = joinPath (pathText (root ++ session)) contract.outputSubdirectory ∧
      sharedRoot = joinPath (pathText root) contract.sharedStagingSubdirectory := by
  obtain ⟨⟨⟩, hcontract, h⟩ := exceptBind_ok h
  obtain ⟨jobsub, hjobsub, h⟩ := exceptBind_ok h
  obtain ⟨root, hdlg, h⟩ := exceptBind_ok h
  split at h
  · cases h
  next hroot =>
  split at h
  · cases h
  next hbeneath =>
  split at h
  · cases h
  next hsession =>
    rw [not_or, not_not] at hbeneath
    obtain ⟨⟨rest, rfl⟩, hne⟩ := hbeneath
    have hrest : rest ≠ [] := by
      rintro rfl
      exact hne (List.append_nil root)
    rw [List.dropLast_append_of_ne_nil hrest] at hsession h
    have hdeep : rest.dropLast ≠ [] := by
      intro hnil
      rw [hnil, List.append_nil] at hsession
      exact hsession rfl
    have hcomponents : ∀ component ∈ root ++ rest.dropLast, IsComponent component := by
      intro component hcomponent
      refine normalizedRemoteAbsolutePath_ok hjobsub component ?_
      rcases List.mem_append.mp hcomponent with hmem | hmem
      · exact List.mem_append_left _ hmem
      · exact List.mem_append_right _ (List.dropLast_subset rest hmem)
    have hwhole : root ++ rest.dropLast ++ [rest.getLast hrest] = root ++ rest := by
      rw [List.append_assoc, List.dropLast_append_getLast]
    cases h
    refine ⟨root, rest.dropLast, rest.getLast hrest, hroot, hdeep,
      normalizedRemoteAbsolutePath_normalized hdlg, ?_, hcomponents, hcontract, rfl, rfl, rfl⟩
    rw [hwhole]
    exact normalizedRemoteAbsolutePath_normalized hjobsub

/-- **The paths that are accepted**: the session directory lies two levels deep, and the staging
root is the output directory of the contract beneath it. -/
theorem deriveSessionPaths_ok {jobsubPath dlgRoot sessionDir stagingRoot cacheRoot : String}
    {contract : SlurmRuntimeContractConfig}
    (h : deriveSessionPaths jobsubPath dlgRoot contract =
      .ok (sessionDir, stagingRoot, cacheRoot)) :
    ∃ session, sessionDir = pathText session ∧ 2 ≤ session.length ∧
      (∀ component ∈ session, IsComponent component) ∧
      stagingRoot = sessionDir ++ "/" ++ contract.outputSubdirectory ∧
      validateRelativeSubdirectory contract.outputSubdirectory
        "deployment.runtime_contract.output_subdirectory" = .ok () := by
  obtain ⟨root, session, script, hroot, hsession, -, -, hcomponents, hcontract, rfl, rfl, -⟩ :=
    deriveSessionPaths_components h
  have houtput := SlurmRuntimeContractConfig.outputSubdirectory_of_validate hcontract
  refine ⟨root ++ session, rfl, ?_, hcomponents, ?_, houtput⟩
  · have hone := List.length_pos_of_ne_nil hroot
    have htwo := List.length_pos_of_ne_nil hsession
    rw [List.length_append]
    omega
  · obtain ⟨c, hlast, hslash⟩ := getLast_pathText (by simp [hroot]) hcomponents
    rw [joinPath, (validateRelativeSubdirectory_ok houtput).2.2.1, if_neg Bool.false_ne_true,
      hlast, if_neg (by simpa using hslash)]

/-! ### The parts of the composite id -/

/-- A character that the composite id does not take for a separator or for white space. -/
def isPlain (c : Char) : Bool := !isWhitespace c && c != ':' && c != '|'

theorem isPlain_iff {c : Char} :
    isPlain c = true ↔ isWhitespace c = false ∧ c ≠ ':' ∧ c ≠ '|' := by
  simp [isPlain, and_assoc]

theorem isPlain_digitChar (n : ℕ) (hn : n < 16) : isPlain (Nat.digitChar n) = true := by
  have hall : ∀ d < 16, isPlain (Nat.digitChar d) = true := by decide
  exact hall n hn

theorem all_decimalDigits (count n : ℕ) : (decimalDigits count n).all isPlain = true := by
  induction count generalizing n with
  | zero => rfl
  | succ count ih =>
      rw [decimalDigits, List.all_append, ih, Bool.true_and]
      simp [isPlain_digitChar (n % 10) (by omega)]

theorem length_decimalDigits (count n : ℕ) : (decimalDigits count n).length = count := by
  induction count generalizing n with
  | zero => rfl
  | succ count ih => rw [decimalDigits, List.length_append, ih, List.length_singleton]

theorem all_hexDigits (count n : ℕ) : (hexDigits count n).all isPlain = true := by
  induction count generalizing n with
  | zero => rfl
  | succ count ih =>
      rw [hexDigits, List.all_append, ih, Bool.true_and]
      simp [isPlain_digitChar (n % 16) (by omega)]

theorem length_hexDigits (count n : ℕ) : (hexDigits count n).length = count := by
  induction count generalizing n with
  | zero => rfl
  | succ count ih => rw [hexDigits, List.length_append, ih, List.length_singleton]

theorem yearChars_plain (year : ℤ) :
    (UtcTime.yearChars year).all isPlain = true ∧ (UtcTime.yearChars year).length ≤ 7 := by
  unfold UtcTime.yearChars
  split
  · exact ⟨all_decimalDigits 4 _, by rw [length_decimalDigits]; omega⟩
  · have hsign : isPlain (if year < 0 then '-' else '+') = true := by split <;> decide
    rw [List.all_cons, hsign, Bool.true_and, List.length_cons]
    split
    · exact ⟨all_decimalDigits 4 _, by rw [length_decimalDigits]; omega⟩
    split
    · exact ⟨all_decimalDigits 5 _, by rw [length_decimalDigits]; omega⟩
    · exact ⟨all_decimalDigits 6 _, by rw [length_decimalDigits]⟩

theorem utf8ByteSize_ofList_le (chars : List Char) :
    (String.ofList chars).utf8ByteSize ≤ 4 * chars.length := by
  induction chars with
  | nil => simp
  | cons c chars ih =>
      have hsize := c.utf8Size_le_four
      rw [utf8ByteSize_ofList_cons, List.length_cons]
      omega

theorem uuidText_plain (uuid : Uuid) :
    (uuidText uuid).toList.all isPlain = true ∧ (uuidText uuid).toList.length = 36 := by
  have hall := all_hexDigits 32 uuid
  have hlength := length_hexDigits 32 uuid
  unfold uuidText
  generalize hexDigits 32 uuid = digits at hall hlength ⊢
  dsimp only
  rw [String.toList_ofList]
  have hpart : ∀ part : List Char, part.Sublist digits → part.all isPlain = true := by
    intro part hpart
    rw [List.all_eq_true]
    exact fun c hc => List.all_eq_true.mp hall c (hpart.subset hc)
  have hslice : ∀ m n, ((digits.drop m).take n).all isPlain = true := fun m n =>
    hpart _ ((List.take_sublist _ _).trans (List.drop_sublist _ _))
  have hdash : isPlain '-' = true := by decide
  constructor
  · simp only [List.all_append, List.all_cons, hdash, hslice, Bool.and_true,
      hpart _ (List.take_sublist 8 digits), hpart _ (List.drop_sublist 20 digits)]
  · simp only [List.length_append, List.length_cons, List.length_take, List.length_drop, hlength]
    omega

theorem UtcTime.chars_plain (t : UtcTime) :
    t.chars.all isPlain = true ∧ t.chars.length ≤ 22 := by
  obtain ⟨hyear, hlength⟩ := yearChars_plain t.year
  have hdash : isPlain '-' = true := by decide
  have hmark : isPlain 'T' = true := by decide
  unfold UtcTime.chars
  constructor
  · simp only [List.all_append, List.all_cons, hyear, hdash, hmark, all_decimalDigits,
      Bool.true_and]
  · simp only [List.length_append, List.length_cons, length_decimalDigits]
    omega

/-- The characters of four texts, one behind the other. -/
theorem toList_append_four (a b c : String) (l : List Char) :
    (a ++ b ++ c ++ String.ofList l).toList = a.toList ++ b.toList ++ c.toList ++ l := by
  rw [String.toList_append, String.toList_append, String.toList_append, String.toList_ofList]

/-- **A session id** has only plain characters, and a text column takes it. -/
theorem beampipeSessionId_plain (createdAt : UtcTime) (executionId : Uuid) :
    (createdAt.beampipeSessionId executionId).toList.all isPlain = true ∧
      (createdAt.beampipeSessionId executionId).utf8ByteSize ≤ 512 ∧
      (createdAt.beampipeSessionId executionId).toList.head? = some 'B' := by
  obtain ⟨htime, hlength⟩ := createdAt.chars_plain
  obtain ⟨huuid, hcount⟩ := uuidText_plain executionId
  have htext : (createdAt.beampipeSessionId executionId).toList =
      "BeampipeExecution-".toList ++ (uuidText executionId).toList ++ "-".toList ++
        createdAt.chars :=
    toList_append_four "BeampipeExecution-" (uuidText executionId) "-" createdAt.chars
  have hfixed : "BeampipeExecution-".toList.all isPlain = true ∧ "-".toList.all isPlain = true ∧
      "BeampipeExecution-".toList.length = 18 ∧ "-".toList.length = 1 := by decide +kernel
  refine ⟨?_, ?_, ?_⟩
  · rw [htext]
    simp only [List.all_append, hfixed.1, hfixed.2.1, huuid, htime, Bool.and_self]
  · have hsize := utf8ByteSize_ofList_le (createdAt.beampipeSessionId executionId).toList
    rw [String.ofList_toList, htext] at hsize
    simp only [List.length_append, hfixed.2.2.1, hfixed.2.2.2, hcount] at hsize
    omega
  · rw [htext, List.append_assoc, List.append_assoc]
    rfl

/-- A job number has only plain characters. -/
theorem isAsciiDigits_plain {text : String} (h : isAsciiDigits text = true) :
    text.toList ≠ [] ∧ ∀ c ∈ text.toList, isPlain c = true := by
  rw [isAsciiDigits, Bool.and_eq_true, List.all_eq_true] at h
  refine ⟨fun hnil => ?_, fun c hc => ?_⟩
  · have hempty : text = "" := by simpa using hnil
    rw [hempty] at h
    exact absurd h.1 (by decide)
  · have hdigit := h.2 c hc
    rw [isAsciiDigit, Bool.and_eq_true, decide_eq_true_eq, decide_eq_true_eq] at hdigit
    have hlow : 48 ≤ c.toNat := hdigit.1
    have hhigh : c.toNat ≤ 57 := hdigit.2
    refine isPlain_iff.mpr ⟨?_, ?_, ?_⟩
    · simp only [isWhitespace, Bool.or_eq_false_iff, Bool.and_eq_false_iff, decide_eq_false_iff_not,
        beq_eq_false_iff_ne]
      omega
    · rintro rfl
      exact absurd hhigh (by decide)
    · rintro rfl
      exact absurd hhigh (by decide)

theorem toList_ne_nil_of_head {text : String} {c : Char} (h : text.toList.head? = some c) :
    text.toList ≠ [] := by
  intro hnil
  rw [hnil] at h
  cases h

/-- **The composite id is taken apart into its parts.** -/
theorem parseSchedulerJobId_compose {sessionId jobId dir : String}
    (hsession : sessionId.toList.all isPlain = true) (hnonempty : sessionId.toList ≠ [])
    (hjob : isAsciiDigits jobId = true) (htrim : trim dir = dir) (hdir : dir.toList ≠ []) :
    parseSchedulerJobId (sessionId ++ ":" ++ jobId ++ "|" ++ dir) =
      ⟨sessionId, jobId, some dir⟩ := by
  obtain ⟨hjobne, hjobplain⟩ := isAsciiDigits_plain hjob
  have hplain : ∀ c ∈ sessionId.toList, isPlain c = true := List.all_eq_true.mp hsession
  have hhead : ∀ c ∈ sessionId.toList.head?, isWhitespace c = false := fun c hc =>
    (isPlain_iff.mp (hplain c (List.mem_of_mem_head? hc))).1
  have hbody : (sessionId ++ ":" ++ jobId ++ "|" ++ dir).toList =
      sessionId.toList ++ ':' :: (jobId.toList ++ '|' :: dir.toList) := by
    simp
  -- the ends of the composite id are those of the session id and of the directory
  have htrimbody : trim (sessionId ++ ":" ++ jobId ++ "|" ++ dir) =
      sessionId ++ ":" ++ jobId ++ "|" ++ dir := by
    rw [trim_eq_self_iff, hbody]
    apply trimChars_eq_self
    · rwa [List.head?_append_of_ne_nil _ hnonempty]
    · have hlast : (sessionId.toList ++ ':' :: (jobId.toList ++ '|' :: dir.toList)).getLast? =
          dir.toList.getLast? := by
        rw [List.append_cons, ← List.append_assoc, List.append_cons,
          List.getLast?_append_of_ne_nil _ hdir]
      rw [hlast]
      exact getLast_of_trimChars_eq_self (trim_eq_self_iff.mp htrim)
  have htrimjob : trim jobId = jobId := by
    rw [trim_eq_self_iff]
    apply trimChars_eq_self
    · exact fun c hc => (isPlain_iff.mp (hjobplain c (List.mem_of_mem_head? hc))).1
    · exact fun c hc => (isPlain_iff.mp (hjobplain c (List.mem_of_mem_getLast? hc))).1
  have hbar : splitOnce '|' (sessionId ++ ":" ++ jobId ++ "|" ++ dir) =
      some (sessionId ++ ":" ++ jobId, dir) := by
    have hno : '|' ∉ (sessionId ++ ":" ++ jobId).toList := by
      simp only [String.toList_append, List.mem_append, not_or]
      refine ⟨⟨fun h => ?_, by decide⟩, fun h => ?_⟩
      · exact (isPlain_iff.mp (hplain _ h)).2.2 rfl
      · exact (isPlain_iff.mp (hjobplain _ h)).2.2 rfl
    exact splitOnce_append hno
  have hcolon : splitOnce ':' (sessionId ++ ":" ++ jobId) = some (sessionId, jobId) := by
    have hno : ':' ∉ sessionId.toList := fun h => (isPlain_iff.mp (hplain _ h)).2.1 rfl
    exact splitOnce_append hno
  have hnotempty : dir.isEmpty = false := by
    rw [Bool.eq_false_iff]
    intro hempty
    exact hdir (by simpa using hempty)
  unfold parseSchedulerJobId
  dsimp only
  rw [htrimbody, hbar]
  dsimp only
  rw [htrim, hnotempty, if_neg Bool.false_ne_true, hcolon]
  dsimp only
  rw [htrimjob]

/-! ### What reads the directory -/

/-- What is known of the two paths that a submission hands on. -/
structure SessionPaths (sessionDir stagingRoot : String) : Prop where
  session : ∃ components, sessionDir = pathText components ∧ 2 ≤ components.length ∧
    ∀ component ∈ components, IsComponent component
  staging : ∃ subdirectory name, stagingRoot = sessionDir ++ "/" ++ subdirectory ∧
    validateRelativeSubdirectory subdirectory name = .ok ()

theorem pathText_of_ne_nil {components : List String} (h : components ≠ []) :
    pathText components = String.ofList (pathChars components) := by
  rw [pathText, if_neg (by simpa using h)]

theorem head_pathText {components : List String} (h : components ≠ []) :
    (pathText components).toList.head? = some '/' := by
  rw [pathText_of_ne_nil h, String.toList_ofList]
  cases components with
  | nil => exact absurd rfl h
  | cons component components => rfl

/-- The staging root lies beneath the session directory. -/
theorem stagingRootIsScopedToSession_of_paths {sessionDir stagingRoot : String}
    (h : SessionPaths sessionDir stagingRoot) :
    stagingRootIsScopedToSession sessionDir stagingRoot = true := by
  obtain ⟨components, rfl, hlength, hcomponents⟩ := h.session
  obtain ⟨subdirectory, name, rfl, hvalid⟩ := h.staging
  obtain ⟨-, hcontrol, -, hdots, hadded⟩ := validateRelativeSubdirectory_ok hvalid
  have hne : components ≠ [] := List.ne_nil_of_length_pos (by omega)
  have htext : pathText components ++ "/" ++ subdirectory =
      String.ofList (pathChars components ++ '/' :: subdirectory.toList) := by
    rw [pathText_of_ne_nil hne, ← String.toList_inj]
    simp
  have hstaging := normalizedAbsolutePath_append hcomponents hcontrol hdots
  rw [stagingRootIsScopedToSession, normalizedAbsolutePath_pathText hne hcomponents, htext,
    hstaging]
  have hother : (components ++ addedComponents subdirectory.toList != components) = true := by
    simpa using hadded
  have hprefix : components.isPrefixOf (components ++ addedComponents subdirectory.toList) =
      true := by simp
  simp only [hother, hprefix, hlength, decide_true, Bool.and_self]

/-- The inventory of an attempt has its place beneath the session directory. -/
theorem outputInventoryRemotePaths_isOk {sessionDir stagingRoot : String}
    (h : SessionPaths sessionDir stagingRoot) (htrim : trim sessionDir = sessionDir) {attempt : ℤ}
    (hattempt : 0 ≤ attempt ∧ attempt < 2147483647) :
    (outputInventoryRemotePaths sessionDir attempt).isOk = true := by
  obtain ⟨components, rfl, hlength, hcomponents⟩ := h.session
  have hne : components ≠ [] := List.ne_nil_of_length_pos (by omega)
  have hnormalized := normalizedAbsolutePath_pathText hne hcomponents
  have hempty : (pathText components).isEmpty = false := by
    rw [Bool.eq_false_iff]
    intro hempty
    exact toList_ne_nil_of_head (head_pathText hne) (by simpa using hempty)
  have habsolute : isAbsolutePath (pathText components) = true := by
    rw [isAbsolutePath, head_pathText hne]
    rfl
  have hcontrol := (normalizedAbsolutePath_components hnormalized).1
  unfold outputInventoryRemotePaths
  dsimp only
  rw [if_neg (not_not.mpr hattempt), hempty, htrim, hcontrol, habsolute, hnormalized,
    if_neg (by simp)]
  dsimp only
  rw [if_neg (by simp [hne]), if_neg]
  · rfl
  · simp

/-- The manifest that the backend returns is an object. -/
theorem isObject_slurmBackendSubmit (now sessionId composite sessionDir stagingRoot : String)
    (loginNode remoteUser : Option String) (manifest raw : Json) :
    (slurmBackendSubmit now sessionId composite sessionDir stagingRoot loginNode remoteUser manifest
      raw).workflowManifest.isObject = true := by
  unfold slurmBackendSubmit recordSlurmPaths
  dsimp only
  split <;> rfl

/-- The graph that the backend returns is a list. -/
theorem bindPhysicalGraphToSession_ne_null (sessionId : String) (raw : Json) :
    bindPhysicalGraphToSession sessionId (partitionedPgtForDlgDeploy raw) ≠ .null := by
  unfold partitionedPgtForDlgDeploy
  split <;> exact Json.noConfusion

theorem receiptNonempty_of_trim {text : String} (htrim : trim text = text)
    (hne : text.toList ≠ []) : receiptNonempty (some text) = some text := by
  have hempty : text.isEmpty = false := by
    rw [Bool.eq_false_iff]
    intro hempty
    exact hne (by simpa using hempty)
  simp [receiptNonempty, htrim, hempty]

theorem receiptNonempty_plain {text : String} (hplain : ∀ c ∈ text.toList, isPlain c = true)
    (hne : text.toList ≠ []) : receiptNonempty (some text) = some text := by
  refine receiptNonempty_of_trim (trim_eq_self_iff.mpr (trimChars_eq_self ?_ ?_)) hne
  · exact fun c hc => (isPlain_iff.mp (hplain c (List.mem_of_mem_head? hc))).1
  · exact fun c hc => (isPlain_iff.mp (hplain c (List.mem_of_mem_getLast? hc))).1

/-- A staging root has no white space at its ends. -/
theorem trim_stagingRoot {sessionDir stagingRoot : String}
    (h : SessionPaths sessionDir stagingRoot) :
    trim stagingRoot = stagingRoot ∧ stagingRoot.toList ≠ [] := by
  obtain ⟨components, rfl, hlength, hcomponents⟩ := h.session
  obtain ⟨subdirectory, name, rfl, hvalid⟩ := h.staging
  have hne : components ≠ [] := List.ne_nil_of_length_pos (by omega)
  obtain ⟨htrim, -, -, -, hadded⟩ := validateRelativeSubdirectory_ok hvalid
  have hsub : subdirectory.toList ≠ [] := by
    intro hnil
    rw [hnil] at hadded
    exact hadded rfl
  have htext : (pathText components ++ "/" ++ subdirectory).toList =
      (pathText components ++ "/").toList ++ subdirectory.toList := String.toList_append
  have hhead : (pathText components ++ "/" ++ subdirectory).toList.head? = some '/' := by
    rw [String.append_assoc, String.toList_append,
      List.head?_append_of_ne_nil _ (toList_ne_nil_of_head (head_pathText hne)), head_pathText hne]
  refine ⟨trim_eq_self_iff.mpr (trimChars_eq_self ?_ ?_), toList_ne_nil_of_head hhead⟩
  · rw [hhead]
    rintro c ⟨⟩
    rfl
  · rw [htext, List.getLast?_append_of_ne_nil _ hsub]
    exact getLast_of_trimChars_eq_self (trim_eq_self_iff.mp htrim)

/-- **The receipt is accepted.** -/
theorem slurmBackendSubmit_receipt {sessionDir stagingRoot sessionId composite slurmJobId : String}
    (h : SessionPaths sessionDir stagingRoot) (htrim : trim sessionDir = sessionDir)
    (hsession : sessionId.toList.all isPlain = true) (hnonempty : sessionId.toList ≠ [])
    (hsize : sessionId.utf8ByteSize ≤ 512) (hjob : isAsciiDigits slurmJobId = true)
    (hparsed : parseSchedulerJobId composite = ⟨sessionId, slurmJobId, some sessionDir⟩)
    (now : String) (loginNode remoteUser : Option String) (manifest raw : Json) (executionId : Uuid)
    (useReal : Bool) (workerPool : String) {physicalGraph : Json}
    (hgraph : (slurmBackendSubmit now sessionId composite sessionDir stagingRoot loginNode
      remoteUser manifest raw).physicalGraph = some physicalGraph) :
    ((slurmBackendSubmit now sessionId composite sessionDir stagingRoot loginNode remoteUser
      manifest raw).receipt executionId useReal workerPool physicalGraph).error = none := by
  obtain ⟨hjobne, hjobplain⟩ := isAsciiDigits_plain hjob
  have hobject := isObject_slurmBackendSubmit now sessionId composite sessionDir stagingRoot
    loginNode remoteUser manifest raw
  have hnull : physicalGraph ≠ .null := by
    cases hgraph
    exact bindPhysicalGraphToSession_ne_null sessionId raw
  have hdirne : sessionDir.toList ≠ [] := by
    obtain ⟨components, rfl, hlength, -⟩ := h.session
    exact toList_ne_nil_of_head (head_pathText (List.ne_nil_of_length_pos (by omega)))
  obtain ⟨hstagingtrim, hstagingne⟩ := trim_stagingRoot h
  have hid := receiptNonempty_plain (List.all_eq_true.mp hsession) hnonempty
  have hjobid := receiptNonempty_plain hjobplain hjobne
  have hdir := receiptNonempty_of_trim htrim hdirne
  have hstaging := receiptNonempty_of_trim hstagingtrim hstagingne
  have hscoped := stagingRootIsScopedToSession_of_paths h
  have hjobempty : slurmJobId.isEmpty = false := by
    rw [Bool.eq_false_iff]
    intro hempty
    exact hjobne (by simpa using hempty)
  generalize hsubmitted : slurmBackendSubmit now sessionId composite sessionDir stagingRoot
    loginNode remoteUser manifest raw = submitted at hobject ⊢
  have hname : submitted.schedulerName = "slurm" := by rw [← hsubmitted]; rfl
  have hjobs : submitted.schedulerJobId = some composite := by rw [← hsubmitted]; rfl
  have hsessions : submitted.sessionId = some sessionId := by rw [← hsubmitted]; rfl
  have hdirs : submitted.remoteSessionDir = some sessionDir := by rw [← hsubmitted]; rfl
  have hroots : submitted.stagingRoot = some stagingRoot := by rw [← hsubmitted]; rfl
  have hnext : submitted.nextStatus = .awaitingScheduler := by rw [← hsubmitted]; rfl
  unfold SubmissionReceiptInput.error BackendSubmit.receipt
  simp only [hname, hjobs, hsessions, hdirs, hroots, hnext, Option.map_some, hparsed, hjobempty,
    Option.filter_some, hobject, hnull, hid, hjobid, hdir, hstaging, hscoped,
    not_true_eq_false, ne_eq, if_true, if_false, Bool.not_false, false_and, Option.isSome_none,
    Option.any_none, Bool.false_eq_true, HOrElse.hOrElse, OrElse.orElse, Option.orElse]
  rw [if_neg (by omega)]

/-! ### Paths that are accepted -/

theorem mem_pathChars {components : List String} {c : Char} (h : c ∈ pathChars components) :
    c = '/' ∨ ∃ component ∈ components, c ∈ component.toList := by
  induction components with
  | nil => cases h
  | cons component components ih =>
      rw [pathChars, List.mem_cons, List.mem_append] at h
      rcases h with hslash | hmem | hmem
      · exact .inl hslash
      · exact .inr ⟨component, List.mem_cons_self, hmem⟩
      · rcases ih hmem with hslash | ⟨other, hother, hc⟩
        · exact .inl hslash
        · exact .inr ⟨other, List.mem_cons_of_mem _ hother, hc⟩

/-- A component that can be part of a bind path. -/
structure IsBindable (component : String) : Prop extends IsComponent component where
  no_comma : ',' ∉ component.toList
  no_colon : ':' ∉ component.toList

theorem normalizedRemoteAbsolutePath_pathText {components : List String} (hne : components ≠ [])
    (h : ∀ component ∈ components, IsBindable component) (label : String) :
    normalizedRemoteAbsolutePath (pathText components) label = .ok components := by
  have hnormalized := normalizedAbsolutePath_pathText hne fun component hc =>
    (h component hc).toIsComponent
  have hcontrol := (normalizedAbsolutePath_components hnormalized).1
  have hmem : ∀ {c}, c ∈ (pathText components).toList → c ∈ pathChars components := by
    intro c hc
    rwa [pathText_of_ne_nil hne, String.toList_ofList] at hc
  have hcomma : (pathText components).toList.contains ',' = false := by
    rw [← Bool.not_eq_true, List.contains_iff_mem]
    intro hc
    rcases mem_pathChars (hmem hc) with hslash | ⟨component, hcomponent, hc⟩
    · exact absurd hslash (by decide)
    · exact (h component hcomponent).no_comma hc
  have hcolon : (pathText components).toList.contains ':' = false := by
    rw [← Bool.not_eq_true, List.contains_iff_mem]
    intro hc
    rcases mem_pathChars (hmem hc) with hslash | ⟨component, hcomponent, hc⟩
    · exact absurd hslash (by decide)
    · exact (h component hcomponent).no_colon hc
  have habsolute : isAbsolutePath (pathText components) = true := by
    rw [isAbsolutePath, head_pathText hne]
    rfl
  unfold normalizedRemoteAbsolutePath
  rw [hcontrol, hcomma, hcolon, habsolute, hnormalized]
  rfl

/-- **Every script that lies in a directory of its own beneath the root is accepted**, however long
the names are. -/
theorem deriveSessionPaths_of_components {root : List String} {session script : String}
    {contract : SlurmRuntimeContractConfig} (hcontract : contract.validate = .ok ())
    (hroot : root ≠ []) (h : ∀ component ∈ root ++ [session, script], IsBindable component) :
    deriveSessionPaths (pathText (root ++ [session, script])) (pathText root) contract =
      .ok (pathText (root ++ [session]),
        joinPath (pathText (root ++ [session])) contract.outputSubdirectory,
        joinPath (pathText root) contract.sharedStagingSubdirectory) := by
  have hjobsub := normalizedRemoteAbsolutePath_pathText (by simp) h "job submission script path"
  have hroots := normalizedRemoteAbsolutePath_pathText hroot
    (fun component hc => h component (List.mem_append_left _ hc)) "DLG_ROOT"
  have hdir : (root ++ [session, script]).dropLast = root ++ [session] := by
    rw [List.dropLast_append_of_ne_nil (by simp)]
    rfl
  unfold deriveSessionPaths
  rw [hcontract, hjobsub, hroots]
  dsimp only [bind, Except.bind]
  rw [if_neg hroot, if_neg (by simp), hdir, if_neg (by simp)]

/-! ### The chain -/

theorem composeSchedulerJobId_eq {sessionId slurmJobId dir : String}
    (hblank : isBlank dir = false) :
    composeSchedulerJobId sessionId slurmJobId (some dir) =
      if 512 < (sessionId ++ ":" ++ slurmJobId ++ "|" ++ dir).utf8ByteSize then
        .error (.tooLong (sessionId ++ ":" ++ slurmJobId ++ "|" ++ dir).utf8ByteSize)
      else .ok (sessionId ++ ":" ++ slurmJobId ++ "|" ++ dir) := by
  unfold composeSchedulerJobId
  rw [Option.filter_some, hblank]
  rfl

theorem sessionPaths_of_derive {jobsubPath dlgRoot sessionDir stagingRoot cacheRoot : String}
    {contract : SlurmRuntimeContractConfig}
    (h : deriveSessionPaths jobsubPath dlgRoot contract =
      .ok (sessionDir, stagingRoot, cacheRoot)) :
    SessionPaths sessionDir stagingRoot := by
  obtain ⟨session, hsession, hlength, hcomponents, hstaging, hvalid⟩ := deriveSessionPaths_ok h
  exact ⟨⟨session, hsession, hlength, hcomponents⟩, ⟨_, _, hstaging, hvalid⟩⟩

/-- **The chain of the receipt.**  Let the paths of a session be accepted, with a directory that has
no white space at its end.  A composite id that does not fit into its column is refused with its
length.  One that fits is taken apart into the same parts, and the receipt is accepted.  In both
cases the directory is accepted as the place of an output inventory. -/
theorem receipt_encodable {jobsubPath dlgRoot sessionDir stagingRoot cacheRoot : String}
    {contract : SlurmRuntimeContractConfig}
    (hpaths : deriveSessionPaths jobsubPath dlgRoot contract =
      .ok (sessionDir, stagingRoot, cacheRoot))
    (htrim : trim sessionDir = sessionDir) (createdAt : UtcTime) (executionId : Uuid)
    {slurmJobId : String} (hjob : isAsciiDigits slurmJobId = true) :
    let sessionId := createdAt.beampipeSessionId executionId
    let length := (sessionId ++ ":" ++ slurmJobId ++ "|" ++ sessionDir).utf8ByteSize
    (512 < length →
      composeSchedulerJobId sessionId slurmJobId (some sessionDir) = .error (.tooLong length)) ∧
    (length ≤ 512 → ∃ composite,
      composeSchedulerJobId sessionId slurmJobId (some sessionDir) = .ok composite ∧
      parseSchedulerJobId composite = ⟨sessionId, slurmJobId, some sessionDir⟩ ∧
      ∀ (now : String) (loginNode remoteUser : Option String) (manifest raw : Json)
        (useReal : Bool) (workerPool : String) (physicalGraph : Json),
        (slurmBackendSubmit now sessionId composite sessionDir stagingRoot loginNode remoteUser
          manifest raw).physicalGraph = some physicalGraph →
        ((slurmBackendSubmit now sessionId composite sessionDir stagingRoot loginNode remoteUser
          manifest raw).receipt executionId useReal workerPool physicalGraph).error = none) ∧
    ∀ attempt : ℤ, 0 ≤ attempt ∧ attempt < 2147483647 →
      (outputInventoryRemotePaths sessionDir attempt).isOk = true := by
  intro sessionId length
  have h := sessionPaths_of_derive hpaths
  obtain ⟨hplain, hsize, hhead⟩ := beampipeSessionId_plain createdAt executionId
  have hdirhead : sessionDir.toList.head? = some '/' := by
    obtain ⟨components, rfl, hlength, -⟩ := h.session
    exact head_pathText (List.ne_nil_of_length_pos (by omega))
  have hblank : isBlank sessionDir = false := by
    rw [isBlank, List.all_eq_false]
    exact ⟨'/', List.mem_of_mem_head? hdirhead, by decide⟩
  have hparsed := parseSchedulerJobId_compose hplain (toList_ne_nil_of_head hhead) hjob htrim
    (toList_ne_nil_of_head hdirhead)
  refine ⟨fun hlong => ?_, fun hfits => ⟨_, ?_, hparsed, ?_⟩, fun attempt hattempt => ?_⟩
  · rw [composeSchedulerJobId_eq hblank, if_pos hlong]
  · rw [composeSchedulerJobId_eq hblank, if_neg (Nat.not_lt.mpr hfits)]
  · intro now loginNode remoteUser manifest raw useReal workerPool physicalGraph hgraph
    exact slurmBackendSubmit_receipt h htrim hplain (toList_ne_nil_of_head hhead) hsize hjob hparsed
      now loginNode remoteUser manifest raw executionId useReal workerPool hgraph
  · exact outputInventoryRemotePaths_isOk h htrim hattempt

/-- The time of the sample session. -/
def sampleStart : UtcTime := ⟨2026, 3, 4, 5, 6, 7, by decide⟩

theorem receipt_encodable_sample :
    ∃ composite,
      composeSchedulerJobId (sampleStart.beampipeSessionId 7) "42" (some "/dlg/run") =
        .ok composite ∧
      parseSchedulerJobId composite =
        ⟨sampleStart.beampipeSessionId 7, "42", some "/dlg/run"⟩ ∧
      (outputInventoryRemotePaths "/dlg/run" 0).isOk = true := by
  have hpaths : deriveSessionPaths "/dlg/run/job.sh" "/dlg" {} =
      .ok ("/dlg/run", "/dlg/run/outputs", "/dlg/shared_staging") := by decide +kernel
  have hchain := receipt_encodable hpaths (by decide +kernel) sampleStart 7
    (show isAsciiDigits "42" = true by decide)
  obtain ⟨composite, hcomposed, hparsed, -⟩ := hchain.2.1 (by decide +kernel)
  exact ⟨composite, hcomposed, hparsed, hchain.2.2 0 (by omega)⟩

theorem length_le_utf8ByteSize (chars : List Char) :
    chars.length ≤ (String.ofList chars).utf8ByteSize := by
  induction chars with
  | nil => simp
  | cons c chars ih =>
      have hsize := c.utf8Size_pos
      rw [utf8ByteSize_ofList_cons, List.length_cons]
      omega

/-- A name made of one letter. -/
theorem isBindable_replicate {n : ℕ} (h : 2 < n) :
    IsBindable (String.ofList (List.replicate n 'a')) := by
  have hmem : ∀ c ∈ List.replicate n 'a', c = 'a' := fun c hc => List.eq_of_mem_replicate hc
  have hlength : (List.replicate n 'a').length = n := List.length_replicate
  generalize List.replicate n 'a' = chars at hmem hlength ⊢
  have hother : ∀ text : String, text.toList.length ≤ 2 → String.ofList chars ≠ text := by
    rintro text htext rfl
    rw [String.toList_ofList] at htext
    omega
  refine ⟨⟨hother _ (by decide), hother _ (by decide), hother _ (by decide), ?_, ?_⟩, ?_, ?_⟩
  all_goals rw [String.toList_ofList]
  · exact fun hc => absurd (hmem _ hc) (by decide)
  · intro c hc
    rw [hmem c hc]
    decide
  · exact fun hc => absurd (hmem _ hc) (by decide)
  · exact fun hc => absurd (hmem _ hc) (by decide)

theorem no_control_of_any {text : String} (h : text.toList.any isControl = false) :
    ∀ c ∈ text.toList, isControl c = false := by
  intro c hc
  simpa using List.any_eq_false.mp h c hc

theorem isBindable_dlg : IsBindable "dlg" :=
  ⟨⟨by decide, by decide, by decide, by decide, no_control_of_any (by decide)⟩, by decide,
    by decide⟩

theorem isBindable_script : IsBindable "job.sh" :=
  ⟨⟨by decide, by decide, by decide, by decide, no_control_of_any (by decide)⟩, by decide,
    by decide⟩

/-- A directory whose name does not fit into the column of the composite id is accepted before the
submission, and refused after it. -/
theorem long_session_dir_refused {name : String} (hname : IsBindable name)
    (hlong : 512 ≤ name.utf8ByteSize) (sessionId slurmJobId : String) :
    ∃ sessionDir stagingRoot cacheRoot length,
      deriveSessionPaths (pathText ["dlg", name, "job.sh"]) (pathText ["dlg"]) {} =
        .ok (sessionDir, stagingRoot, cacheRoot) ∧
      composeSchedulerJobId sessionId slurmJobId (some sessionDir) = .error (.tooLong length) := by
  have hbindable : ∀ component ∈ ["dlg"] ++ [name, "job.sh"], IsBindable component := by
    intro component hcomponent
    simp only [List.mem_append, List.mem_cons, List.not_mem_nil, or_false] at hcomponent
    rcases hcomponent with rfl | rfl | rfl
    · exact isBindable_dlg
    · exact hname
    · exact isBindable_script
  have hcontract : SlurmRuntimeContractConfig.validate {} = .ok () := rfl
  have hpaths := deriveSessionPaths_of_components hcontract (List.cons_ne_nil _ _) hbindable
  have hhead := head_pathText (List.cons_ne_nil "dlg" [name])
  have hblank : isBlank (pathText ["dlg", name]) = false := by
    rw [isBlank, List.all_eq_false]
    exact ⟨'/', List.mem_of_mem_head? hhead, by decide⟩
  have htext : pathText ["dlg", name] = "/dlg/" ++ name := by
    rw [pathText_of_ne_nil (List.cons_ne_nil _ _), ← String.toList_inj]
    simp [pathChars]
  have hsize : 512 <
      (sessionId ++ ":" ++ slurmJobId ++ "|" ++ pathText ["dlg", name]).utf8ByteSize := by
    have hbar : "|".utf8ByteSize = 1 := by decide
    simp only [htext, String.utf8ByteSize_append]
    omega
  exact ⟨_, _, _, _, hpaths, (composeSchedulerJobId_eq hblank).trans (if_pos hsize)⟩

/-- **Two session directories that are accepted before the submission.**  With the first the
composite id is too long for its column.  The second has a space at its end: the id is composed, but
its parts are not those that went in, and no inventory can be placed beneath the directory. -/
theorem accepted_session_not_encodable :
    (∃ sessionDir stagingRoot cacheRoot length,
      deriveSessionPaths (pathText ["dlg", String.ofList (List.replicate 512 'a'), "job.sh"])
        (pathText ["dlg"]) {} = .ok (sessionDir, stagingRoot, cacheRoot) ∧
      composeSchedulerJobId (sampleStart.beampipeSessionId 7) "42" (some sessionDir) =
        .error (.tooLong length)) ∧
    deriveSessionPaths "/dlg/run /job.sh" "/dlg" {} =
      .ok ("/dlg/run ", "/dlg/run /outputs", "/dlg/shared_staging") ∧
    (∃ composite,
      composeSchedulerJobId (sampleStart.beampipeSessionId 7) "42" (some "/dlg/run ") =
        .ok composite ∧
      (parseSchedulerJobId composite).sessionDir = some "/dlg/run") ∧
    (outputInventoryRemotePaths "/dlg/run " 0).isOk = false := by
  have hlong : 512 ≤ (String.ofList (List.replicate 512 'a')).utf8ByteSize :=
    List.length_replicate.symm.le.trans (length_le_utf8ByteSize _)
  obtain ⟨sessionDir, stagingRoot, cacheRoot, length, hpaths, hrefused⟩ :=
    long_session_dir_refused (isBindable_replicate (by omega)) hlong
      (sampleStart.beampipeSessionId 7) "42"
  have hspace : composeSchedulerJobId (sampleStart.beampipeSessionId 7) "42" (some "/dlg/run ") =
      .ok (sampleStart.beampipeSessionId 7 ++ ":" ++ "42" ++ "|" ++ "/dlg/run ") :=
    (composeSchedulerJobId_eq (by decide +kernel)).trans (if_neg (by decide +kernel))
  exact ⟨⟨sessionDir, stagingRoot, cacheRoot, length, hpaths, hrefused⟩, by decide +kernel,
    ⟨_, hspace, by decide +kernel⟩, by decide +kernel⟩

end Beampipe
