/-
The directories of a Slurm deployment.

A deployment profile names the root directory of its sessions and two directories beneath: one for
the outputs of a run, inside its session directory, and one for staging that all runs share, inside
the root itself.  A profile is validated when it is saved; the paths of a session are derived from
the root and from the script path that the remote program prints, after the session has been
created there.

Main definitions:

* `Beampipe.DeploymentProfile.validate` — what a saved profile has passed;
* `Beampipe.Nested`, `Beampipe.Diverge` — paths of which one contains the other, or neither does;
* `Beampipe.StagingIsolated` — the shared staging directory is apart from a session;
* `Beampipe.LiesBeneath` — a script in a session directory beneath a root;
* `Beampipe.BindableRoot` — a root that can be part of a bind path.

Main results:

* `Beampipe.not_nested_iff` — neither path contains the other exactly when they diverge;
* `Beampipe.staging_isolated_iff` — **when the shared staging directory is apart**;
* `Beampipe.normalizedRemoteAbsolutePath_ok_iff` — which paths are accepted;
* `Beampipe.submit_path_accepts_iff` — **when a saved profile is accepted for its sessions.**
-/

import Beampipe.SlurmPaths

set_option relaxedAutoImplicit false
set_option autoImplicit false

namespace Beampipe

/-! ### Profiles -/

/-- `DaliugeTranslationConfig`, as far as it is checked. -/
structure DaliugeTranslationConfig where
  numPar : ℤ := 1
  numIslands : ℤ := 0
  deriving DecidableEq, Repr

/-- `RestRemoteDeploymentConfig`, as far as it is checked. -/
structure RestRemoteDeploymentConfig where
  dimPortForTm : Option ℤ := some 8001
  deployHost : Option String := none
  deployPort : Option ℤ := some 8001
  deriving DecidableEq, Repr

/-- `PublicationRuntimeConfig`. -/
structure PublicationRuntimeConfig where
  durableDestinationUriEnvironment : String
  deriving DecidableEq, Repr

/-- `SlurmResourceConfig`. -/
structure SlurmResourceConfig where
  partition : Option String := none
  nodes : Option ℤ := none
  tasks : Option ℤ := none
  cpusPerTask : Option ℤ := none
  memory : Option String := none
  wallTimeMinutes : Option ℤ := none
  constraint : Option String := none
  qualityOfService : Option String := none
  deriving DecidableEq, Repr

/-- `SlurmRemoteDeploymentConfig`, as far as it is checked; `islands` is the number of the manager
topology. -/
structure SlurmRemoteDeploymentConfig where
  loginNode : String
  sshPort : ℤ := 22
  sshCredential : Option String := none
  account : String
  homeDir : String
  logDir : String
  dlgRoot : String
  facility : String
  jobDurationMinutes : ℤ := 30
  numNodes : ℤ := 1
  numIslands : ℤ := 1
  resources : SlurmResourceConfig := {}
  islands : Option ℤ := none
  runtimeContract : SlurmRuntimeContractConfig
  publication : Option PublicationRuntimeConfig := none
  deriving DecidableEq, Repr

namespace SlurmRemoteDeploymentConfig

/-- `effective_nodes`. -/
def effectiveNodes (dep : SlurmRemoteDeploymentConfig) : ℤ := dep.resources.nodes.getD dep.numNodes

/-- `effective_islands`. -/
def effectiveIslands (dep : SlurmRemoteDeploymentConfig) : ℤ := dep.islands.getD dep.numIslands

/-- `effective_wall_time_minutes`. -/
def effectiveWallTimeMinutes (dep : SlurmRemoteDeploymentConfig) : ℤ :=
  dep.resources.wallTimeMinutes.getD dep.jobDurationMinutes

end SlurmRemoteDeploymentConfig

/-- `DeploymentConfig`. -/
inductive DeploymentConfig where
  | restRemote (dep : RestRemoteDeploymentConfig)
  | slurmRemote (dep : SlurmRemoteDeploymentConfig)
  deriving DecidableEq, Repr

/-- `DeploymentProfile`, as far as it is checked. -/
structure DeploymentProfile where
  name : String
  maxConcurrentExecutions : Option ℤ := none
  translation : DaliugeTranslationConfig := {}
  deployment : DeploymentConfig
  deriving DecidableEq, Repr

/-! ### Validation -/

/-- The message is an error when the check fails. -/
def rejectIf (fails : Bool) (message : String) : Except String Unit :=
  if fails then .error message else .ok ()

/-- `validate_positive`. -/
def validatePositive (value : ℤ) (name : String) : Except String Unit :=
  rejectIf (value < 1) (name ++ " must be >= 1")

/-- `validate_positive` of a value that is set. -/
def validateOptionalPositive (value : Option ℤ) (name : String) : Except String Unit :=
  match value with
  | some value => validatePositive value name
  | none => .ok ()

/-- `validate_port`. -/
def validatePort (value : Option ℤ) (name : String) : Except String Unit :=
  match value with
  | some port => rejectIf (port < 1 || 65535 < port) (name ++ " must be 1-65535")
  | none => .ok ()

/-- `validate_optional_text`. -/
def validateOptionalText (value : Option String) (name : String) : Except String Unit :=
  rejectIf (value.any isBlank) (name ++ " must not be empty when set")

/-- A text that has to be there. -/
def validateRequiredText (value name : String) : Except String Unit :=
  rejectIf (isBlank value) (name ++ " is required")

/-- An absolute path, by its first character. -/
def validateAbsolute (name path : String) : Except String Unit :=
  rejectIf (!isAbsolutePath path) (name ++ " must be an absolute remote path")

/-- A letter, a digit, or one of `.`, `_` and `-`. -/
def isNameChar (c : Char) : Bool :=
  isAsciiAlphabetic c || isAsciiDigit c || c == '.' || c == '_' || c == '-'

/-- `validate_ssh_credential_name`. -/
def validateSshCredentialName (name : String) : Except String Unit :=
  let trimmed := trim name
  rejectIf
    (trimmed.isEmpty || decide (50 < trimmed.utf8ByteSize) || containsText trimmed ".." ||
      trimmed.toList.contains '/' || trimmed.toList.contains '\\' ||
      !trimmed.toList.all isNameChar)
    "deployment.ssh_credential must be 1-50 ASCII letters, digits, '.', '_', or '-'"

/-- `validate_publication_environment_name`, and `PublicationRuntimeConfig::validate`. -/
def PublicationRuntimeConfig.validate (publication : PublicationRuntimeConfig) :
    Except String Unit :=
  let value := publication.durableDestinationUriEnvironment
  rejectIf (value.isEmpty || decide (255 < value.utf8ByteSize) || !isIdentifier value.toList)
    ("deployment.publication.durable_destination_uri_environment must be a POSIX environment " ++
      "variable name")

/-- The part of `validate` about a Slurm deployment. -/
def SlurmRemoteDeploymentConfig.validate (dep : SlurmRemoteDeploymentConfig) :
    Except String Unit := do
  validateRequiredText dep.loginNode "deployment.login_node"
  dep.sshCredential.forM validateSshCredentialName
  validatePort (some dep.sshPort) "deployment.ssh_port"
  validateRequiredText dep.dlgRoot "deployment.dlg_root"
  rejectIf ((trimChars dep.dlgRoot.toList).all (· == '/'))
    "deployment.dlg_root must be a dedicated directory, not the remote filesystem root"
  validateRequiredText dep.account "deployment.account"
  validateRequiredText dep.facility "deployment.facility"
  validateAbsolute "deployment.home_dir" dep.homeDir
  validateAbsolute "deployment.log_dir" dep.logDir
  validateAbsolute "deployment.dlg_root" dep.dlgRoot
  validatePositive dep.effectiveNodes "deployment.resources.nodes"
  validatePositive dep.effectiveIslands "deployment.manager_topology.islands"
  validatePositive dep.effectiveWallTimeMinutes "deployment.resources.wall_time_minutes"
  validateOptionalPositive dep.resources.tasks "deployment.resources.tasks"
  validateOptionalPositive dep.resources.cpusPerTask "deployment.resources.cpus_per_task"
  validateOptionalText dep.resources.partition "deployment.resources.partition"
  validateOptionalText dep.resources.memory "deployment.resources.memory"
  validateOptionalText dep.resources.constraint "deployment.resources.constraint"
  validateOptionalText dep.resources.qualityOfService "deployment.resources.quality_of_service"
  dep.runtimeContract.validate
  dep.publication.forM PublicationRuntimeConfig.validate

/-- The part of `validate` about a REST deployment. -/
def RestRemoteDeploymentConfig.validate (dep : RestRemoteDeploymentConfig) :
    Except String Unit := do
  validatePort dep.dimPortForTm "deployment.dim_port_for_tm"
  validatePort dep.deployPort "deployment.deploy_port"
  validateRequiredText (dep.deployHost.getD "") "deployment.deploy_host"

/-- `DeploymentProfile::validate`. -/
def DeploymentProfile.validate (profile : DeploymentProfile) : Except String Unit := do
  rejectIf
    (isBlank profile.name || decide (50 < profile.name.utf8ByteSize) ||
      !profile.name.toList.all isNameChar)
    "name must be 1-50 ASCII letters, digits, '.', '_', or '-'"
  validatePositive profile.translation.numPar "translation.num_par"
  rejectIf (profile.maxConcurrentExecutions.any fun limit => decide (limit < 1))
    "max_concurrent_executions must be >= 1 when set"
  rejectIf (profile.translation.numIslands < 0) "translation.num_islands must be >= 0"
  match profile.deployment with
  | .restRemote dep => dep.validate
  | .slurmRemote dep => dep.validate

theorem rejectIf_ok {fails : Bool} {message : String} (h : rejectIf fails message = .ok ()) :
    fails = false := by
  cases fails with
  | false => rfl
  | true => cases h

/-- What the submit path relies on in a Slurm deployment that was saved. -/
theorem SlurmRemoteDeploymentConfig.validate_ok {dep : SlurmRemoteDeploymentConfig}
    (h : dep.validate = .ok ()) :
    isAbsolutePath dep.dlgRoot = true ∧ dep.runtimeContract.validate = .ok () := by
  obtain ⟨⟨⟩, -, h⟩ := exceptBind_ok h
  obtain ⟨⟨⟩, -, h⟩ := exceptBind_ok h
  obtain ⟨⟨⟩, -, h⟩ := exceptBind_ok h
  obtain ⟨⟨⟩, -, h⟩ := exceptBind_ok h
  obtain ⟨⟨⟩, -, h⟩ := exceptBind_ok h
  obtain ⟨⟨⟩, -, h⟩ := exceptBind_ok h
  obtain ⟨⟨⟩, -, h⟩ := exceptBind_ok h
  obtain ⟨⟨⟩, -, h⟩ := exceptBind_ok h
  obtain ⟨⟨⟩, -, h⟩ := exceptBind_ok h
  obtain ⟨⟨⟩, habsolute, h⟩ := exceptBind_ok h
  iterate 9 obtain ⟨⟨⟩, -, h⟩ := exceptBind_ok h
  obtain ⟨⟨⟩, hcontract, -⟩ := exceptBind_ok h
  exact ⟨by simpa using rejectIf_ok habsolute, hcontract⟩

/-- What the submit path relies on in a Slurm profile that was saved. -/
theorem DeploymentProfile.validate_ok {profile : DeploymentProfile}
    {dep : SlurmRemoteDeploymentConfig} (h : profile.validate = .ok ())
    (hdep : profile.deployment = .slurmRemote dep) :
    isAbsolutePath dep.dlgRoot = true ∧ dep.runtimeContract.validate = .ok () := by
  unfold validate at h
  rw [hdep] at h
  iterate 4 obtain ⟨⟨⟩, -, h⟩ := exceptBind_ok h
  exact SlurmRemoteDeploymentConfig.validate_ok h

/-! ### Paths of which neither contains the other -/

/-- The paths are equal, or one contains the other, component by component. -/
def Nested (a b : List String) : Prop := a <+: b ∨ b <+: a

/-- The paths differ in a component that both have. -/
def Diverge (a b : List String) : Prop :=
  ∃ (i : ℕ) (x y : String), a[i]? = some x ∧ b[i]? = some y ∧ x ≠ y

/-- **Neither path contains the other exactly when they diverge.** -/
theorem not_nested_iff (a b : List String) : ¬ Nested a b ↔ Diverge a b := by
  induction a generalizing b with
  | nil =>
      refine ⟨fun h => absurd (.inl (List.nil_prefix)) h, ?_⟩
      rintro ⟨i, x, y, hx, -, -⟩
      simp at hx
  | cons x a ih =>
      cases b with
      | nil =>
          refine ⟨fun h => absurd (.inr (List.nil_prefix)) h, ?_⟩
          rintro ⟨i, u, v, -, hv, -⟩
          simp at hv
      | cons y b =>
          by_cases hxy : x = y
          · subst hxy
            have hcons : Nested (x :: a) (x :: b) ↔ Nested a b := by
              simp [Nested, List.cons_prefix_cons]
            rw [hcons, ih b]
            constructor
            · rintro ⟨i, u, v, hu, hv, hne⟩
              exact ⟨i + 1, u, v, by simpa using hu, by simpa using hv, hne⟩
            · rintro ⟨i, u, v, hu, hv, hne⟩
              cases i with
              | zero =>
                  simp only [List.getElem?_cons_zero, Option.some.injEq] at hu hv
                  exact absurd (hu.symm.trans hv) hne
              | succ i => exact ⟨i, u, v, by simpa using hu, by simpa using hv, hne⟩
          · refine ⟨fun _ => ⟨0, x, y, rfl, rfl, hxy⟩, fun _ => ?_⟩
            rintro (h | h)
            · exact hxy (List.cons_prefix_cons.mp h).1
            · exact hxy (List.cons_prefix_cons.mp h).1.symm

theorem nested_append_left (root a b : List String) :
    Nested (root ++ a) (root ++ b) ↔ Nested a b := by
  simp [Nested, List.prefix_append_right_inj]

/-- What is apart from a path is apart from everything beneath it. -/
theorem not_nested_append {a b : List String} (h : ¬ Nested a b) (c : List String) :
    ¬ Nested a (b ++ c) := by
  rintro (hle | hge)
  · rcases List.prefix_or_prefix_of_prefix hle (List.prefix_append b c) with hab | hba
    · exact h (.inl hab)
    · exact h (.inr hba)
  · exact h (.inr ((List.prefix_append b c).trans hge))

/-! ### The shared staging directory -/

/-- The components of an absolute path. -/
def remoteComponents (path : String) : List String := (normalizedAbsolutePath path).getD []

/-- The shared staging directory is neither the session directory nor the output directory, and
neither contains nor is contained in one of them. -/
def StagingIsolated (sessionDir outputRoot sharedRoot : String) : Prop :=
  ¬ Nested (remoteComponents sharedRoot) (remoteComponents sessionDir) ∧
    ¬ Nested (remoteComponents sharedRoot) (remoteComponents outputRoot)

/-- The path of the session directory beneath the root. -/
def sessionPath (jobsubPath dlgRoot : String) : List String :=
  (remoteComponents jobsubPath).dropLast.drop (remoteComponents dlgRoot).length

/-! ### Where a shared directory comes to lie -/

/-- A directory that is accepted lies beneath the path that it is joined to. -/
theorem normalizedAbsolutePath_joinPath {components : List String} (hne : components ≠ [])
    (hcomponents : ∀ component ∈ components, IsComponent component) {value name : String}
    (hvalue : validateRelativeSubdirectory value name = .ok ()) :
    normalizedAbsolutePath (joinPath (pathText components) value) =
      some (components ++ addedComponents value.toList) := by
  obtain ⟨-, hcontrol, hrelative, hdots, -⟩ := validateRelativeSubdirectory_ok hvalue
  obtain ⟨c, hlast, hslash⟩ := getLast_pathText hne hcomponents
  have htext : pathText components ++ "/" ++ value =
      String.ofList (pathChars components ++ '/' :: value.toList) := by
    rw [pathText_of_ne_nil hne, ← String.toList_inj]
    simp
  rw [joinPath, hrelative, if_neg Bool.false_ne_true, hlast, if_neg (by simpa using hslash), htext]
  exact normalizedAbsolutePath_append hcomponents hcontrol hdots

theorem SlurmRuntimeContractConfig.sharedStagingSubdirectory_of_validate
    {contract : SlurmRuntimeContractConfig} (h : contract.validate = .ok ()) :
    validateRelativeSubdirectory contract.sharedStagingSubdirectory
      "deployment.runtime_contract.shared_staging_subdirectory" = .ok () := by
  obtain ⟨⟨⟩, -, h⟩ := exceptBind_ok h
  obtain ⟨⟨⟩, hshared, -⟩ := exceptBind_ok h
  exact hshared

/-- **When the shared staging directory is apart.**  For a session that is accepted, it is neither
the session directory nor the output directory, and neither contains nor is contained in one of
them, exactly when the configured directory and the path of the session beneath the root differ in
a component that both have.  Nothing checks that: the contract only compares the configured
directory with that of the outputs, which lies beneath another base. -/
theorem staging_isolated_iff {jobsubPath dlgRoot sessionDir outputRoot sharedRoot : String}
    {contract : SlurmRuntimeContractConfig}
    (h : deriveSessionPaths jobsubPath dlgRoot contract =
      .ok (sessionDir, outputRoot, sharedRoot)) :
    StagingIsolated sessionDir outputRoot sharedRoot ↔
      Diverge (addedComponents contract.sharedStagingSubdirectory.toList)
        (sessionPath jobsubPath dlgRoot) := by
  obtain ⟨root, session, script, hroot, hsession, hdlg, hjobsub, hcomponents, hcontract, rfl, rfl,
    rfl⟩ := deriveSessionPaths_components h
  have hrootComponents : ∀ component ∈ root, IsComponent component := fun component hmem =>
    hcomponents component (List.mem_append_left _ hmem)
  have hne : root ++ session ≠ [] := by simp [hroot]
  have hdir : remoteComponents (pathText (root ++ session)) = root ++ session := by
    rw [remoteComponents, normalizedAbsolutePath_pathText hne hcomponents]
    rfl
  have houtput : remoteComponents (joinPath (pathText (root ++ session))
      contract.outputSubdirectory) =
        root ++ (session ++ addedComponents contract.outputSubdirectory.toList) := by
    rw [remoteComponents, normalizedAbsolutePath_joinPath hne hcomponents
      (SlurmRuntimeContractConfig.outputSubdirectory_of_validate hcontract)]
    exact List.append_assoc _ _ _
  have hshared : remoteComponents (joinPath (pathText root) contract.sharedStagingSubdirectory) =
      root ++ addedComponents contract.sharedStagingSubdirectory.toList := by
    rw [remoteComponents, normalizedAbsolutePath_joinPath hroot hrootComponents
      (SlurmRuntimeContractConfig.sharedStagingSubdirectory_of_validate hcontract)]
    rfl
  have hpath : sessionPath jobsubPath dlgRoot = session := by
    rw [sessionPath, remoteComponents, remoteComponents, hdlg, hjobsub]
    simp
  rw [StagingIsolated, hdir, houtput, hshared, nested_append_left, nested_append_left, hpath,
    ← not_nested_iff]
  constructor
  · exact fun hisolated => hisolated.1
  · exact fun hapart => ⟨hapart, not_nested_append hapart _⟩

/-- A session that is accepted, with the shared staging directory apart from it. -/
theorem staging_isolated_iff_sample :
    deriveSessionPaths "/dlg/session-1/job.sh" "/dlg" {} =
        .ok ("/dlg/session-1", "/dlg/session-1/outputs", "/dlg/shared_staging") ∧
      (StagingIsolated "/dlg/session-1" "/dlg/session-1/outputs" "/dlg/shared_staging" ↔
        Diverge (addedComponents "shared_staging".toList)
          (sessionPath "/dlg/session-1/job.sh" "/dlg")) := by
  have h : deriveSessionPaths "/dlg/session-1/job.sh" "/dlg" {} =
      .ok ("/dlg/session-1", "/dlg/session-1/outputs", "/dlg/shared_staging") := by
    decide +kernel
  have hisolated := staging_isolated_iff h
  exact ⟨h, hisolated⟩

/-- A contract that is accepted puts the shared staging directory above the session directory. -/
theorem shared_staging_above_session :
    deriveSessionPaths "/dlg/sessions/execution-a/job.sh" "/dlg"
        { sharedStagingSubdirectory := "sessions" } =
        .ok ("/dlg/sessions/execution-a", "/dlg/sessions/execution-a/outputs", "/dlg/sessions") ∧
      ¬ StagingIsolated "/dlg/sessions/execution-a" "/dlg/sessions/execution-a/outputs"
        "/dlg/sessions" := by
  have hderived : deriveSessionPaths "/dlg/sessions/execution-a/job.sh" "/dlg"
      { sharedStagingSubdirectory := "sessions" } =
      .ok ("/dlg/sessions/execution-a", "/dlg/sessions/execution-a/outputs", "/dlg/sessions") := by
    decide +kernel
  have hshared : remoteComponents "/dlg/sessions" = ["dlg", "sessions"] := by decide +kernel
  have hsession : remoteComponents "/dlg/sessions/execution-a" =
      ["dlg", "sessions", "execution-a"] := by decide +kernel
  refine ⟨hderived, fun hisolated => hisolated.1 (.inl ?_)⟩
  rw [hshared, hsession]
  exact ⟨["execution-a"], rfl⟩

/-! ### Which paths are accepted -/

/-- A root whose components can be part of a bind path, other than the root of the file system. -/
def BindableRoot (dlgRoot : String) : Prop :=
  addedComponents dlgRoot.toList ≠ [] ∧
    ∀ component ∈ addedComponents dlgRoot.toList, IsBindable component

/-- A script in a session directory beneath a root, the added components without control
characters, commas and colons. -/
structure LiesBeneath (dlgRoot jobsubPath : String) : Prop where
  absolute : isAbsolutePath jobsubPath = true
  beneath : ∃ session script, session ≠ [] ∧
    addedComponents jobsubPath.toList =
      addedComponents dlgRoot.toList ++ session ++ [script] ∧
    ∀ component ∈ session ++ [script], IsBindable component

/-- Every character of a path is a separator or in one of its parts. -/
theorem mem_or_mem_splitSlash {chars : List Char} {c : Char} (h : c ∈ chars) :
    c = '/' ∨ ∃ part ∈ splitSlash chars, c ∈ part := by
  induction chars with
  | nil => cases h
  | cons d chars ih =>
      rw [splitSlash]
      split
      next hslash =>
        rcases List.mem_cons.mp h with rfl | hrest
        · exact .inl hslash
        · rcases ih hrest with hc | ⟨part, hpart, hc⟩
          · exact .inl hc
          · exact .inr ⟨part, List.mem_cons_of_mem _ hpart, hc⟩
      next hslash =>
        split
        next hnone =>
          rcases List.mem_cons.mp h with rfl | hrest
          · exact .inr ⟨[c], List.mem_cons_self, List.mem_cons_self⟩
          · rcases ih hrest with hc | ⟨part, hpart, -⟩
            · exact .inl hc
            · rw [hnone] at hpart
              cases hpart
        next first parts hparts =>
          rcases List.mem_cons.mp h with rfl | hrest
          · exact .inr ⟨c :: first, List.mem_cons_self, List.mem_cons_self⟩
          · rcases ih hrest with hc | ⟨part, hpart, hc⟩
            · exact .inl hc
            · rw [hparts] at hpart
              rcases List.mem_cons.mp hpart with rfl | hpart
              · exact .inr ⟨d :: part, List.mem_cons_self, List.mem_cons_of_mem _ hc⟩
              · exact .inr ⟨part, List.mem_cons_of_mem _ hpart, hc⟩

/-- A character of a path is a separator, a dot, or in one of its components. -/
theorem mem_addedComponents {chars : List Char} {c : Char} (h : c ∈ chars) :
    c = '/' ∨ c = '.' ∨ ∃ component ∈ addedComponents chars, c ∈ component.toList := by
  rcases mem_or_mem_splitSlash h with hslash | ⟨part, hpart, hc⟩
  · exact .inl hslash
  · by_cases hdot : part = ['.']
    · rw [hdot, List.mem_singleton] at hc
      exact .inr (.inl hc)
    · refine .inr (.inr ⟨String.ofList part, ?_, by rwa [String.toList_ofList]⟩)
      rw [addedComponents, List.mem_filter, Bool.and_eq_true, bne_iff_ne, bne_iff_ne]
      refine ⟨List.mem_map.mpr ⟨part, hpart, rfl⟩, ?_, ?_⟩
      · intro hempty
        rw [← String.toList_inj, String.toList_ofList] at hempty
        rw [hempty] at hc
        cases hc
      · intro hdotted
        rw [← String.toList_inj, String.toList_ofList] at hdotted
        exact hdot hdotted

/-- The components are those of the text, none of them a step upwards. -/
theorem normalizedAbsolutePath_eq_some_iff {path : String} {components : List String} :
    normalizedAbsolutePath path = some components ↔
      isAbsolutePath path = true ∧ path.toList.any isControl = false ∧
        ".." ∉ (splitSlash path.toList).map String.ofList ∧
        components = addedComponents path.toList := by
  unfold normalizedAbsolutePath isAbsolutePath
  dsimp only
  cases hcontrol : path.toList.any isControl with
  | true => simp
  | false =>
      cases hhead : path.toList.head? == some '/' with
      | false => simp [bne, hhead]
      | true =>
          cases hdots : ((splitSlash path.toList).map String.ofList).contains ".." with
          | true =>
              rw [List.contains_iff_mem] at hdots
              rw [if_neg (by simp [bne, hhead]), if_pos rfl]
              exact ⟨nofun, fun h => absurd hdots h.2.2.1⟩
          | false =>
              rw [← Bool.not_eq_true, List.contains_iff_mem] at hdots
              rw [if_neg (by simp [bne, hhead]), if_neg Bool.false_ne_true, Option.some.injEq]
              exact ⟨fun h => ⟨rfl, rfl, hdots, h.symm⟩, fun h => h.2.2.2.symm⟩

/-- **Which paths are accepted**: those that are absolute and whose components can be part
of a bind path. -/
theorem normalizedRemoteAbsolutePath_ok_iff {rawPath label : String} {components : List String} :
    normalizedRemoteAbsolutePath rawPath label = .ok components ↔
      isAbsolutePath rawPath = true ∧ components = addedComponents rawPath.toList ∧
        ∀ component ∈ components, IsBindable component := by
  constructor
  · intro h
    have hnormal := normalizedRemoteAbsolutePath_ok h
    obtain ⟨habsolute, -, -, rfl⟩ :=
      normalizedAbsolutePath_eq_some_iff.mp (normalizedRemoteAbsolutePath_normalized h)
    have hdelimiter : (rawPath.toList.contains ',' || rawPath.toList.contains ':') = false := by
      unfold normalizedRemoteAbsolutePath at h
      split at h
      · cases h
      split at h
      · cases h
      next hdelimiter => exact Bool.eq_false_of_not_eq_true hdelimiter
    rw [Bool.or_eq_false_iff, ← Bool.not_eq_true, ← Bool.not_eq_true, List.contains_iff_mem,
      List.contains_iff_mem] at hdelimiter
    have hchars : ∀ component ∈ addedComponents rawPath.toList, ∀ c ∈ component.toList,
        c ∈ rawPath.toList := by
      intro component hcomponent c hc
      obtain ⟨part, hpart, rfl⟩ := List.mem_map.mp (List.mem_filter.mp hcomponent).1
      rw [String.toList_ofList] at hc
      exact (mem_splitSlash hpart).2 c hc
    refine ⟨habsolute, rfl, fun component hcomponent => ⟨hnormal component hcomponent, ?_, ?_⟩⟩
    · exact fun hc => hdelimiter.1 (hchars component hcomponent _ hc)
    · exact fun hc => hdelimiter.2 (hchars component hcomponent _ hc)
  · rintro ⟨habsolute, rfl, hbindable⟩
    have hcontrol : rawPath.toList.any isControl = false := by
      rw [List.any_eq_false]
      intro c hc
      rw [Bool.not_eq_true]
      rcases mem_addedComponents hc with rfl | rfl | ⟨component, hcomponent, hc⟩
      · rfl
      · rfl
      · exact (hbindable component hcomponent).no_control c hc
    have hcomma : rawPath.toList.contains ',' = false := by
      rw [← Bool.not_eq_true, List.contains_iff_mem]
      intro hc
      rcases mem_addedComponents hc with hslash | hdot | ⟨component, hcomponent, hc⟩
      · exact absurd hslash (by decide)
      · exact absurd hdot (by decide)
      · exact (hbindable component hcomponent).no_comma hc
    have hcolon : rawPath.toList.contains ':' = false := by
      rw [← Bool.not_eq_true, List.contains_iff_mem]
      intro hc
      rcases mem_addedComponents hc with hslash | hdot | ⟨component, hcomponent, hc⟩
      · exact absurd hslash (by decide)
      · exact absurd hdot (by decide)
      · exact (hbindable component hcomponent).no_colon hc
    have hdots : ".." ∉ (splitSlash rawPath.toList).map String.ofList := by
      intro hmem
      have hadded : ".." ∈ addedComponents rawPath.toList :=
        List.mem_filter.mpr ⟨hmem, by decide⟩
      exact (hbindable ".." hadded).ne_dots rfl
    have hnormalized := normalizedAbsolutePath_eq_some_iff.mpr
      ⟨habsolute, hcontrol, hdots, rfl⟩
    unfold normalizedRemoteAbsolutePath
    rw [hcontrol, hcomma, hcolon, habsolute, hnormalized]
    rfl

/-- **When a saved profile is accepted for its sessions.**  A script in a session directory beneath
the root of a saved profile is accepted exactly when the root has components, and each of them can
be part of a bind path.  Saving a profile only looks at the first character of the root, and at
whether it has anything besides separators. -/
theorem submit_path_accepts_iff {profile : DeploymentProfile} {dep : SlurmRemoteDeploymentConfig}
    {jobsubPath : String} (hprofile : profile.validate = .ok ())
    (hdep : profile.deployment = .slurmRemote dep) (hjobsub : LiesBeneath dep.dlgRoot jobsubPath) :
    (deriveSessionPaths jobsubPath dep.dlgRoot dep.runtimeContract).isOk = true ↔
      BindableRoot dep.dlgRoot := by
  obtain ⟨habsolute, hcontract⟩ := DeploymentProfile.validate_ok hprofile hdep
  obtain ⟨session, script, hsession, hadded, hbindable⟩ := hjobsub.beneath
  constructor
  · intro hok
    cases hderived : deriveSessionPaths jobsubPath dep.dlgRoot dep.runtimeContract with
    | error message =>
        rw [hderived] at hok
        cases hok
    | ok paths =>
        obtain ⟨⟨⟩, -, h⟩ := exceptBind_ok hderived
        obtain ⟨jobsub, -, h⟩ := exceptBind_ok h
        obtain ⟨root, hroot, h⟩ := exceptBind_ok h
        obtain ⟨-, rfl, hcomponents⟩ := normalizedRemoteAbsolutePath_ok_iff.mp hroot
        split at h
        · cases h
        next hne => exact ⟨hne, hcomponents⟩
  · rintro ⟨hne, hroot⟩
    have hrootOk : normalizedRemoteAbsolutePath dep.dlgRoot "DLG_ROOT" =
        .ok (addedComponents dep.dlgRoot.toList) :=
      normalizedRemoteAbsolutePath_ok_iff.mpr ⟨habsolute, rfl, hroot⟩
    have hjobsubOk : normalizedRemoteAbsolutePath jobsubPath "job submission script path" =
        .ok (addedComponents dep.dlgRoot.toList ++ session ++ [script]) := by
      refine normalizedRemoteAbsolutePath_ok_iff.mpr ⟨hjobsub.absolute, hadded.symm, ?_⟩
      intro component hcomponent
      rw [List.append_assoc, List.mem_append] at hcomponent
      rcases hcomponent with hmem | hmem
      · exact hroot component hmem
      · exact hbindable component hmem
    rw [deriveSessionPaths, hcontract, hjobsubOk, hrootOk]
    generalize addedComponents dep.dlgRoot.toList = root at hne
    show Except.isOk (if root = [] then _ else _) = true
    rw [if_neg hne, if_neg, if_neg]
    · rfl
    · simpa using hsession
    · rw [not_or, not_not]
      exact ⟨⟨session ++ [script], by rw [List.append_assoc]⟩, by simp⟩

/-- A profile for the directories of a cluster. -/
def clusterProfile (dlgRoot : String) : DeploymentProfile :=
  { name := "cluster"
    deployment := .slurmRemote
      { loginNode := "login"
        account := "project"
        homeDir := "/home/user"
        logDir := "/home/user/log"
        dlgRoot := dlgRoot
        facility := "cluster"
        runtimeContract := {} } }

theorem isBindable_session : ∀ component ∈ ["session-1"] ++ ["job.sh"], IsBindable component := by
  intro component hcomponent
  rw [List.mem_append, List.mem_singleton, List.mem_singleton] at hcomponent
  have hcontrol : ∀ text ∈ ["session-1", "job.sh"], ∀ c ∈ text.toList, isControl c = false := by
    intro text htext c hc
    have hall : (["session-1", "job.sh"].all fun text =>
        text.toList.all fun c => !isControl c) = true := by decide +kernel
    have hplain := List.all_eq_true.mp (List.all_eq_true.mp hall text htext) c hc
    rwa [Bool.not_eq_true'] at hplain
  rcases hcomponent with rfl | rfl
  · exact ⟨⟨by decide, by decide, by decide, by decide, hcontrol _ List.mem_cons_self⟩, by decide,
      by decide⟩
  · exact ⟨⟨by decide, by decide, by decide, by decide,
      hcontrol _ (List.mem_cons_of_mem _ List.mem_cons_self)⟩, by decide, by decide⟩

/-- A saved profile that is accepted for a session. -/
theorem submit_path_accepts_iff_sample :
    (deriveSessionPaths "/dlg/session-1/job.sh" "/dlg" {}).isOk = true ↔ BindableRoot "/dlg" := by
  have hprofile : (clusterProfile "/dlg").validate = .ok () := by decide +kernel
  have hbeneath : LiesBeneath "/dlg" "/dlg/session-1/job.sh" :=
    ⟨by decide, ["session-1"], "job.sh", by decide, by decide +kernel, isBindable_session⟩
  have haccepts := submit_path_accepts_iff hprofile rfl hbeneath
  exact haccepts

/-- A profile whose root has a comma is saved, and fails after the session has been created. -/
theorem saved_root_rejected :
    (clusterProfile "/dlg,a").validate = .ok () ∧
      LiesBeneath "/dlg,a" "/dlg,a/session-1/job.sh" ∧
      deriveSessionPaths "/dlg,a/session-1/job.sh" "/dlg,a" {} =
        .error ("job submission script path contains a delimiter that is unsafe for container " ++
          "bind paths") :=
  ⟨by decide +kernel,
    ⟨by decide, ["session-1"], "job.sh", by decide, by decide +kernel, isBindable_session⟩,
    by decide +kernel⟩

end Beampipe
