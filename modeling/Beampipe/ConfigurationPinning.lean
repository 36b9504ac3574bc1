/-
The configuration an execution is pinned to.

An execution keeps the deployment profile it was created under, as a snapshot with the revision, and
the identifier of the project configuration.  Profiles are edited and deleted and configurations are
uploaded all the time, and the statements of these operations interleave: an upload reads the next
version, sets the rows it sees inactive and inserts its row, and a creation reads its profile before
its transaction begins.

An execution that was created without a profile is resolved to whatever the default profile is.

Unique indexes refuse a second version with one number, a second active row of a project and a second
default profile of one scope; foreign keys refuse the deletion of a profile that an execution refers
to, and an execution whose profile is gone.

Main definitions:

* `Beampipe.ProfileRecord`, `Beampipe.ProjectConfigRow`, `Beampipe.PinnedExecutionRow` — the rows;
* `Beampipe.createPinnedExecution`, `Beampipe.insertProjectConfig`,
  `Beampipe.editDeploymentProfile` — the operations;
* `Beampipe.ConfigTables.resolveExecutionDeployment`,
  `Beampipe.ConfigTables.resolveExecutionTranslation`,
  `Beampipe.ConfigTables.getProjectConfigForExecution` — what an execution runs with;
* `Beampipe.ConfigTables.Inv` — what the tables keep;
* `Beampipe.configSystem` — any number of operations side by side.

Main results:

* `Beampipe.ConfigTables.Inv.insertConfig` — an upload that commits has read the latest version;
* `Beampipe.active_config_is_latest` — **in every run the versions of a project are numbered without
  gaps, and the active one is the last**;
* `Beampipe.pinned_configuration_stable` — **what an execution is pinned to never changes**, and two
  executions of one revision of a profile run with the same.
-/

import Beampipe.Programs
import Beampipe.JobQueue

set_option relaxedAutoImplicit false
set_option autoImplicit false

namespace Beampipe

open Programs

/-! ### Rows -/

/-- The columns of a deployment profile that its author writes. -/
structure ProfileSpec where
  name : String
  description : Option String
  projectModule : Option String
  isDefault : Bool
  maxConcurrentExecutions : Option ℕ
  translation : Json
  deployment : Json
  deriving DecidableEq, Repr

/-- A row of `daliuge_deployment_profile`. -/
structure ProfileRecord where
  uuid : Uuid
  spec : ProfileSpec
  revision : ℕ
  specSha256 : Option String
  createdAt : ℕ
  deriving DecidableEq, Repr

/-- A row of `project_configs`. -/
structure ProjectConfigRow where
  uuid : Uuid
  projectId : String
  version : ℕ
  spec : Json
  specSha256 : String
  active : Bool
  deriving DecidableEq, Repr

/-- The columns of `batch_execution_record` that pin the configuration. -/
structure PinnedExecutionRow where
  uuid : Uuid
  projectModule : String
  deploymentProfileId : Option Uuid
  deploymentProfileRevision : Option ℕ
  deploymentProfileSnapshot : Option Json
  projectConfigId : Option Uuid
  deriving DecidableEq, Repr

/-- A nullable text in JSON. -/
def optionJson {α : Type} (value : α → Json) : Option α → Json
  | some a => value a
  | none => .null

/-- A natural number in JSON. -/
def natJson (n : ℕ) : Json := .num (.int n)

/-- The fields that `deployment_profile_spec_sha256` hashes. -/
def ProfileSpec.canonical (spec : ProfileSpec) : Json :=
  .obj [
    ("name", .str spec.name),
    ("description", optionJson .str spec.description),
    ("project_module", optionJson .str spec.projectModule),
    ("is_default", .bool spec.isDefault),
    ("max_concurrent_executions", optionJson natJson spec.maxConcurrentExecutions),
    ("translation", spec.translation),
    ("deployment", spec.deployment)]

/-- The snapshot of a profile; a missing hash is computed by `sha256`. -/
def ProfileRecord.snapshot (sha256 : Json → String) (profile : ProfileRecord) : Json :=
  .obj [
    ("id", .str (toString profile.uuid)),
    ("name", .str profile.spec.name),
    ("description", optionJson .str profile.spec.description),
    ("project_module", optionJson .str profile.spec.projectModule),
    ("is_default", .bool profile.spec.isDefault),
    ("max_concurrent_executions", optionJson natJson profile.spec.maxConcurrentExecutions),
    ("revision", natJson profile.revision),
    ("spec_sha256", .str (profile.specSha256.getD (sha256 profile.spec.canonical))),
    ("translation", profile.spec.translation),
    ("deployment", profile.spec.deployment)]

@[simp] theorem ProfileRecord.get_deployment_snapshot (sha256 : Json → String)
    (profile : ProfileRecord) :
    (profile.snapshot sha256).get "deployment" = some profile.spec.deployment := by
  simp [snapshot, Json.get, Json.lookupField]

@[simp] theorem ProfileRecord.get_translation_snapshot (sha256 : Json → String)
    (profile : ProfileRecord) :
    (profile.snapshot sha256).get "translation" = some profile.spec.translation := by
  simp [snapshot, Json.get, Json.lookupField]

/-! ### Tables -/

/-- The three tables, the next fresh identifier, and every revision of a profile that was ever
committed. -/
structure ConfigTables where
  profiles : List ProfileRecord
  configs : List ProjectConfigRow
  executions : List PinnedExecutionRow
  nextUuid : Uuid
  revisions : List ProfileRecord
  deriving DecidableEq, Repr

namespace ConfigTables

variable (t : ConfigTables)

/-- `get_deployment_profile`. -/
def getDeploymentProfile (id : Uuid) : Option ProfileRecord :=
  t.profiles.find? fun profile => profile.uuid == id

/-- `ORDER BY project_module IS NULL ASC, created_at DESC`. -/
def defaultProfileBefore (a b : ProfileRecord) : Bool :=
  (a.spec.projectModule.isSome && b.spec.projectModule.isNone) ||
    (a.spec.projectModule.isNone == b.spec.projectModule.isNone &&
      decide (b.createdAt < a.createdAt))

/-- `get_default_deployment_profile`. -/
def getDefaultDeploymentProfile (projectModule : String) : Option ProfileRecord :=
  firstInOrder defaultProfileBefore <| t.profiles.filter fun profile =>
    profile.spec.isDefault &&
      (profile.spec.projectModule == some projectModule || profile.spec.projectModule.isNone)

/-- The rows of a project. -/
def projectConfigs (projectId : String) : List ProjectConfigRow :=
  t.configs.filter fun row => row.projectId == projectId

/-- `get_active_project_config`. -/
def getActiveProjectConfig (projectId : String) : Option ProjectConfigRow :=
  t.configs.find? fun row => row.projectId == projectId && row.active

/-- `get_project_config_by_uuid`. -/
def getProjectConfigByUuid (id : Uuid) : Option ProjectConfigRow :=
  t.configs.find? fun row => row.uuid == id

/-- `SELECT COALESCE(MAX(version), 0) + 1`. -/
def nextVersion (projectId : String) : ℕ :=
  ((t.projectConfigs projectId).map ProjectConfigRow.version).foldl max 0 + 1

/-! ### What an execution runs with -/

/-- The profile that an execution without a snapshot is resolved to. -/
def fallbackProfile (execution : PinnedExecutionRow) : Option ProfileRecord :=
  match execution.deploymentProfileId with
  | some id => t.getDeploymentProfile id
  | none => t.getDefaultDeploymentProfile execution.projectModule

/-- `resolve_execution_deployment`. -/
def resolveExecutionDeployment (execution : PinnedExecutionRow) : Option Json :=
  match execution.deploymentProfileSnapshot.bind (Json.get "deployment") with
  | some deployment => some deployment
  | none => (t.fallbackProfile execution).map fun profile => profile.spec.deployment

/-- `resolve_execution_translation`. -/
def resolveExecutionTranslation (execution : PinnedExecutionRow) : Option Json :=
  match execution.deploymentProfileSnapshot.bind (Json.get "translation") with
  | some translation => some translation
  | none => (t.fallbackProfile execution).map fun profile => profile.spec.translation

/-- `get_project_config_for_execution`. -/
def getProjectConfigForExecution (execution : PinnedExecutionRow) : Option ProjectConfigRow :=
  match execution.projectConfigId.bind t.getProjectConfigByUuid with
  | some row => some row
  | none => t.getActiveProjectConfig execution.projectModule

/-! ### Statements -/

/-- The rows that the update of an upload sees; it holds them until it ends. -/
def configsToDeactivate (projectId : String) : List Uuid :=
  (t.projectConfigs projectId).map ProjectConfigRow.uuid

/-- The insertion of an upload with its commit: the rows that the update has seen are inactive, and
the unique indexes on the version and on the active row are checked. -/
def insertConfig (projectId : String) (version : ℕ) (spec : Json) (specSha256 : String)
    (deactivated : List Uuid) : Except String (ConfigTables × ProjectConfigRow) :=
  if t.configs.any fun row => row.projectId == projectId && row.version == version then
    .error "duplicate key value violates unique constraint \"uq_project_config_version\""
  else if t.configs.any fun row =>
      row.projectId == projectId && row.active && !deactivated.contains row.uuid then
    .error "duplicate key value violates unique constraint \"uq_project_config_active\""
  else
    let row : ProjectConfigRow := ⟨t.nextUuid, projectId, version, spec, specSha256, true⟩
    let inactive := t.configs.map fun row =>
      if row.projectId == projectId && deactivated.contains row.uuid then
        { row with active := false }
      else row
    .ok ({ t with configs := inactive ++ [row], nextUuid := t.nextUuid + 1 }, row)

/-- `ensure_default_profile_available`, and the unique index behind it. -/
def defaultTaken (spec : ProfileSpec) (excluding : Option Uuid) : Option String :=
  if spec.isDefault then
    (t.profiles.find? fun profile => profile.spec.isDefault &&
      profile.spec.projectModule == spec.projectModule && excluding != some profile.uuid).map
        fun profile => s!"deployment profile '{profile.spec.name}' is already the default for "
          ++ spec.projectModule.getD "the global scope"
  else none

/-- The unique name is taken by another profile. -/
def nameTaken (spec : ProfileSpec) (excluding : Option Uuid) : Bool :=
  t.profiles.any fun profile => profile.spec.name == spec.name && excluding != some profile.uuid

/-- `create_deployment_profile`. -/
def createDeploymentProfile (sha256 : Json → String) (now : ℕ) (spec : ProfileSpec) :
    Except String (ConfigTables × ProfileRecord) :=
  match t.defaultTaken spec none with
  | some error => .error error
  | none =>
      if t.nameTaken spec none then .error "duplicate key value violates unique constraint"
      else
        let row : ProfileRecord := ⟨t.nextUuid, spec, 1, some (sha256 spec.canonical), now⟩
        .ok ({ t with profiles := t.profiles ++ [row], nextUuid := t.nextUuid + 1,
                      revisions := row :: t.revisions }, row)

/-- `update_deployment_profile`. -/
def updateDeploymentProfile (sha256 : Json → String) (id : Uuid) (spec : ProfileSpec) :
    Except String (ConfigTables × Option ProfileRecord) :=
  match t.getDeploymentProfile id with
  | none => .ok (t, none)
  | some profile =>
      match t.defaultTaken spec (some id) with
      | some error => .error error
      | none =>
          if t.nameTaken spec (some id) then .error "duplicate key value violates unique constraint"
          else
            let row := { profile with
              spec := spec
              revision := profile.revision + 1
              specSha256 := some (sha256 spec.canonical) }
            .ok ({ t with
              profiles := t.profiles.map fun profile => if profile.uuid == id then row else profile
              revisions := row :: t.revisions }, some row)

/-- `delete_deployment_profile`. -/
def deleteDeploymentProfile (id : Uuid) : Except String (ConfigTables × Bool) :=
  if t.executions.any fun execution => execution.deploymentProfileId == some id then
    .error "update or delete on table violates foreign key constraint"
  else
    .ok ({ t with profiles := t.profiles.filter fun profile => profile.uuid != id },
      t.profiles.any fun profile => profile.uuid == id)

/-- The insertion of an execution under a profile that was read before. -/
def insertExecution (sha256 : Json → String) (projectModule : String)
    (profile : Option ProfileRecord) (projectConfigId : Option Uuid) :
    Except String (ConfigTables × PinnedExecutionRow) :=
  if (profile.any fun profile => (t.getDeploymentProfile profile.uuid).isNone) ||
      projectConfigId.any fun id => (t.getProjectConfigByUuid id).isNone then
    .error "insert or update on table violates foreign key constraint"
  else
    let row : PinnedExecutionRow :=
      { uuid := t.nextUuid
        projectModule := projectModule
        deploymentProfileId := profile.map ProfileRecord.uuid
        deploymentProfileRevision := profile.map ProfileRecord.revision
        deploymentProfileSnapshot := profile.map (ProfileRecord.snapshot sha256)
        projectConfigId := projectConfigId }
    .ok ({ t with executions := t.executions ++ [row], nextUuid := t.nextUuid + 1 }, row)

end ConfigTables

/-! ### Operations -/

/-- What an operation asks for. -/
inductive ConfigRequest where
  | getDeploymentProfile (id : Uuid)
  | getDefaultDeploymentProfile (projectModule : String)
  | getProjectConfigByUuid (id : Uuid)
  | insertExecution (projectModule : String) (profile : Option ProfileRecord)
      (projectConfigId : Option Uuid)
  | nextVersion (projectId : String)
  | deactivate (projectId : String)
  | insertConfig (projectId : String) (version : ℕ) (spec : Json) (specSha256 : String)
      (deactivated : List Uuid)
  | createDeploymentProfile (spec : ProfileSpec)
  | updateDeploymentProfile (id : Uuid) (spec : ProfileSpec)
  | deleteDeploymentProfile (id : Uuid)
  deriving DecidableEq, Repr

/-- What a request is answered with. -/
abbrev ConfigRequest.Answer : ConfigRequest → Type
  | .getDeploymentProfile _ | .getDefaultDeploymentProfile _ => Option ProfileRecord
  | .getProjectConfigByUuid _ => Option ProjectConfigRow
  | .insertExecution _ _ _ => PinnedExecutionRow
  | .nextVersion _ => ℕ
  | .deactivate _ => List Uuid
  | .insertConfig _ _ _ _ _ => ProjectConfigRow
  | .createDeploymentProfile _ => ProfileRecord
  | .updateDeploymentProfile _ _ => Option ProfileRecord
  | .deleteDeploymentProfile _ => Bool

/-- An operation, or a part of it. -/
abbrev ConfigProg (α : Type) : Type :=
  Prog ConfigRequest (fun r => Except String r.Answer) String α

/-- A request whose error ends the operation. -/
def ConfigProg.ask (r : ConfigRequest) : ConfigProg r.Answer := Prog.ask r

/-- The profile that a creation names, or else the default of the project. -/
def ConfigProg.requestedProfile (projectModule : String) :
    Option Uuid → ConfigProg (Option ProfileRecord)
  | some id => ConfigProg.ask (.getDeploymentProfile id)
  | none => ConfigProg.ask (.getDefaultDeploymentProfile projectModule)

/-- `create_execution_internal`, as far as it reads and writes the pins; `specError` says why the
pinned configuration is refused. -/
def createPinnedExecution (specError : Json → Option String) (projectModule : String)
    (deploymentProfileId projectConfigId : Option Uuid) : ConfigProg PinnedExecutionRow := do
  let profile ← ConfigProg.requestedProfile projectModule deploymentProfileId
  if deploymentProfileId.isSome && profile.isNone then
    .throw "deployment profile does not exist"
  else
    match projectConfigId with
    | none => ConfigProg.ask (.insertExecution projectModule profile none)
    | some id =>
        match ← ConfigProg.ask (.getProjectConfigByUuid id) with
        | none => .throw "project config does not exist"
        | some row =>
            match specError row.spec with
            | some error => .throw error
            | none => ConfigProg.ask (.insertExecution projectModule profile (some id))

/-- `insert_project_config`. -/
def insertProjectConfig (projectId : String) (spec : Json) (specSha256 : String) :
    ConfigProg ProjectConfigRow := do
  let version ← ConfigProg.ask (.nextVersion projectId)
  let deactivated ← ConfigProg.ask (.deactivate projectId)
  ConfigProg.ask (.insertConfig projectId version spec specSha256 deactivated)

/-- What can be started. -/
inductive ConfigCall where
  | createExecution (projectModule : String) (deploymentProfileId projectConfigId : Option Uuid)
  | insertProjectConfig (projectId : String) (spec : Json) (specSha256 : String)
  | createDeploymentProfile (spec : ProfileSpec)
  | updateDeploymentProfile (id : Uuid) (spec : ProfileSpec)
  | deleteDeploymentProfile (id : Uuid)
  deriving DecidableEq, Repr

/-- The edits of a profile are one transaction each, under a lock on its row or on its scope. -/
def editDeploymentProfile (r : ConfigRequest) : ConfigProg Unit := do
  let _ ← ConfigProg.ask r
  pure ()

/-- The program of an operation. -/
def ConfigCall.program (specError : Json → Option String) : ConfigCall → ConfigProg Unit
  | .createExecution projectModule deploymentProfileId projectConfigId => do
      let _ ← createPinnedExecution specError projectModule deploymentProfileId projectConfigId
      pure ()
  | .insertProjectConfig projectId spec specSha256 => do
      let _ ← Beampipe.insertProjectConfig projectId spec specSha256
      pure ()
  | .createDeploymentProfile spec => editDeploymentProfile (.createDeploymentProfile spec)
  | .updateDeploymentProfile id spec => editDeploymentProfile (.updateDeploymentProfile id spec)
  | .deleteDeploymentProfile id => editDeploymentProfile (.deleteDeploymentProfile id)

/-- What neither the tables nor a request determine: whether a statement fails, and whether it was
carried out before its answer was lost; and the time. -/
structure ConfigChoice where
  failure : Option (String × Bool) := none
  now : ℕ := 0
  deriving DecidableEq, Repr

/-- The outcome of a transaction: its error leaves the tables. -/
def ConfigTables.outcome {α : Type} (t : ConfigTables) (result : Except String (ConfigTables × α)) :
    Except String α × ConfigTables :=
  match result with
  | .error error => (.error error, t)
  | .ok (after, a) => (.ok a, after)

/-- One statement on the tables. -/
def ConfigRequest.transaction (sha256 : Json → String) (i : ConfigChoice) (t : ConfigTables) :
    (r : ConfigRequest) → Except String r.Answer × ConfigTables
  | .getDeploymentProfile id => (.ok (t.getDeploymentProfile id), t)
  | .getDefaultDeploymentProfile projectModule =>
      (.ok (t.getDefaultDeploymentProfile projectModule), t)
  | .getProjectConfigByUuid id => (.ok (t.getProjectConfigByUuid id), t)
  | .insertExecution projectModule profile projectConfigId =>
      t.outcome (t.insertExecution sha256 projectModule profile projectConfigId)
  | .nextVersion projectId => (.ok (t.nextVersion projectId), t)
  | .deactivate projectId => (.ok (t.configsToDeactivate projectId), t)
  | .insertConfig projectId version spec specSha256 deactivated =>
      t.outcome (t.insertConfig projectId version spec specSha256 deactivated)
  | .createDeploymentProfile spec => t.outcome (t.createDeploymentProfile sha256 i.now spec)
  | .updateDeploymentProfile id spec => t.outcome (t.updateDeploymentProfile sha256 id spec)
  | .deleteDeploymentProfile id => t.outcome (t.deleteDeploymentProfile id)

/-- A statement as it happens: it may fail. -/
def ConfigRequest.perform (sha256 : Json → String) (r : ConfigRequest) (i : ConfigChoice)
    (t : ConfigTables) : Except String r.Answer × ConfigTables :=
  Prog.fallible i.failure t (r.transaction sha256 i t)

/-! ### What an operation knows -/

/-- What an operation has read: profiles, and next versions of projects. -/
structure ConfigBooks where
  profiles : List ProfileRecord := []
  versions : List (String × ℕ) := []
  deriving DecidableEq, Repr

/-- What an answer adds. -/
def ConfigBooks.learn (books : ConfigBooks) :
    (r : ConfigRequest) → Except String r.Answer → ConfigBooks
  | .getDeploymentProfile _, .ok profile =>
      { books with profiles := profile.toList ++ books.profiles }
  | .getDefaultDeploymentProfile _, .ok profile =>
      { books with profiles := profile.toList ++ books.profiles }
  | .nextVersion projectId, .ok version =>
      { books with versions := (projectId, version) :: books.versions }
  | _, _ => books

/-- A request fits: it inserts under what was read. -/
def ConfigBooks.Fits (books : ConfigBooks) : ConfigRequest → Prop
  | .insertExecution _ profile _ => ∀ p, profile = some p → p ∈ books.profiles
  | .insertConfig projectId version _ _ _ => (projectId, version) ∈ books.versions
  | _ => True

/-- Any number of operations side by side. -/
def configSystem (sha256 : Json → String) (specError : Json → Option String) :
    System ConfigRequest (fun r => Except String r.Answer) String Unit ConfigTables ConfigBooks
      ConfigChoice ConfigCall Empty where
  perform := fun _ r i books t =>
    let outcome := r.perform sha256 i t
    (outcome.1, books.learn r outcome.1, outcome.2)
  code := ConfigCall.program specError
  loc := {}
  environment := fun _ t => t

section Wp

variable {specError : Json → Option String}

/-- The requests of a program fit what it has read. -/
abbrev ConfigProg.Wp {α : Type} (Q : α → ConfigBooks → Prop) (p : ConfigProg α)
    (books : ConfigBooks) : Prop :=
  p.wp ConfigBooks.learn ConfigBooks.Fits Q (fun _ _ => True) books

theorem ConfigProg.wp_ask {r : ConfigRequest} {Q : r.Answer → ConfigBooks → Prop}
    {books : ConfigBooks} (hfits : books.Fits r)
    (hQ : ∀ answer, Q answer (books.learn r (.ok answer))) :
    ConfigProg.Wp Q (ConfigProg.ask r) books :=
  Prog.wp_ask hfits hQ fun _ => trivial

/-- A creation inserts an execution under the profile it has read. -/
theorem createPinnedExecution_wp {projectModule : String}
    {deploymentProfileId projectConfigId : Option Uuid} {books : ConfigBooks} :
    ConfigProg.Wp (fun _ _ => True)
      (createPinnedExecution specError projectModule deploymentProfileId projectConfigId) books := by
  have hinsert : ∀ (profile : Option ProfileRecord) (id : Option Uuid) (books : ConfigBooks),
      (∀ p, profile = some p → p ∈ books.profiles) →
      ConfigProg.Wp (fun _ _ => True)
        (ConfigProg.ask (.insertExecution projectModule profile id)) books :=
    fun profile id books hread => ConfigProg.wp_ask hread fun _ => trivial
  have hread : ConfigProg.Wp
      (fun profile books' => ∀ p : ProfileRecord, profile = some p → p ∈ books'.profiles)
      (ConfigProg.requestedProfile projectModule deploymentProfileId) books := by
    cases deploymentProfileId with
    | some id =>
        refine ConfigProg.wp_ask (r := .getDeploymentProfile id) trivial fun profile p hp => ?_
        subst hp
        exact List.mem_cons_self
    | none =>
        refine ConfigProg.wp_ask (r := .getDefaultDeploymentProfile projectModule) trivial
          fun profile p hp => ?_
        subst hp
        exact List.mem_cons_self
  refine Prog.wp_bind hread fun profile books' hprofile => ?_
  by_cases hmissing : (deploymentProfileId.isSome && profile.isNone) = true
  · simp only [hmissing, if_true]
    trivial
  · simp only [hmissing]
    cases projectConfigId with
    | none => exact hinsert profile none books' hprofile
    | some id =>
        refine Prog.wp_bind (R := fun _ books'' => books''.profiles = books'.profiles)
          (ConfigProg.wp_ask trivial fun _ => rfl) fun row books'' hbooks => ?_
        cases row with
        | none => trivial
        | some row =>
            dsimp only
            cases specError row.spec with
            | some error => trivial
            | none => exact hinsert profile (some id) books'' (hbooks ▸ hprofile)

/-- An upload inserts under the version it has read. -/
theorem insertProjectConfig_wp {projectId : String} {spec : Json} {specSha256 : String}
    {books : ConfigBooks} :
    ConfigProg.Wp (fun _ _ => True) (insertProjectConfig projectId spec specSha256) books := by
  refine Prog.wp_bind (R := fun version books' => (projectId, version) ∈ books'.versions)
    (ConfigProg.wp_ask trivial fun _ => List.mem_cons_self) fun version books' hversion => ?_
  refine Prog.wp_bind (R := fun _ books'' => (projectId, version) ∈ books''.versions)
    (ConfigProg.wp_ask trivial fun _ => hversion) fun deactivated books'' hversion => ?_
  exact ConfigProg.wp_ask hversion fun _ => trivial

/-- The requests of an operation fit what it has read. -/
theorem configCall_wp {call : ConfigCall} {books : ConfigBooks} :
    ConfigProg.Wp (fun _ _ => True) (call.program specError) books := by
  have hedit : ∀ r : ConfigRequest, (∀ books : ConfigBooks, books.Fits r) →
      ConfigProg.Wp (fun _ _ => True) (editDeploymentProfile r) books := fun r hfits =>
    Prog.wp_bind (R := fun _ _ => True) (ConfigProg.wp_ask (hfits books) fun _ => trivial)
      fun _ _ _ => trivial
  cases call with
  | createExecution projectModule deploymentProfileId projectConfigId =>
      exact Prog.wp_bind createPinnedExecution_wp fun _ _ _ => trivial
  | insertProjectConfig projectId spec specSha256 =>
      exact Prog.wp_bind insertProjectConfig_wp fun _ _ _ => trivial
  | createDeploymentProfile spec => exact hedit _ fun _ => trivial
  | updateDeploymentProfile id spec => exact hedit _ fun _ => trivial
  | deleteDeploymentProfile id => exact hedit _ fun _ => trivial

end Wp

/-! ### What the tables keep -/

/-- The pins of an execution: its snapshot is of the revision it names, and its configuration is
there. -/
structure PinnedExecutionRow.PinnedIn (sha256 : Json → String) (t : ConfigTables)
    (execution : PinnedExecutionRow) : Prop where
  snapshot : ∀ snapshot, execution.deploymentProfileSnapshot = some snapshot →
    ∃ profile ∈ t.revisions, execution.deploymentProfileId = some profile.uuid ∧
      execution.deploymentProfileRevision = some profile.revision ∧
      snapshot = profile.snapshot sha256
  complete : execution.deploymentProfileSnapshot = none → execution.deploymentProfileId = none
  config : ∀ id, execution.projectConfigId = some id → ∃ row ∈ t.configs, row.uuid = id

namespace ConfigTables

/-- The versions of a project are numbered from one without gaps, and the last one is active; a
profile is the last of its revisions, and a revision has one content; executions are pinned. -/
structure Inv (sha256 : Json → String) (t : ConfigTables) : Prop where
  versions : ∀ projectId, (t.projectConfigs projectId).map ProjectConfigRow.version =
    List.range' 1 (t.projectConfigs projectId).length
  active : ∀ row ∈ t.configs,
    row.active = decide (row.version = (t.projectConfigs row.projectId).length)
  configKeys : (t.configs.map ProjectConfigRow.uuid).Nodup
  configFresh : ∀ row ∈ t.configs, row.uuid < t.nextUuid
  known : ∀ profile ∈ t.profiles, profile ∈ t.revisions
  newest : ∀ profile ∈ t.profiles, ∀ revision ∈ t.revisions, revision.uuid = profile.uuid →
    revision.revision ≤ profile.revision
  revisionFresh : ∀ revision ∈ t.revisions, revision.uuid < t.nextUuid
  oneContent : ∀ a ∈ t.revisions, ∀ b ∈ t.revisions, a.uuid = b.uuid →
    a.revision = b.revision → a = b
  pinned : ∀ execution ∈ t.executions, execution.PinnedIn sha256 t

theorem getDeploymentProfile_some {t : ConfigTables} {id : Uuid} {profile : ProfileRecord}
    (h : t.getDeploymentProfile id = some profile) :
    profile ∈ t.profiles ∧ profile.uuid = id := by
  unfold getDeploymentProfile at h
  exact ⟨List.mem_of_find?_eq_some h, by simpa using List.find?_some h⟩

theorem getProjectConfigByUuid_some {t : ConfigTables} {id : Uuid} {row : ProjectConfigRow}
    (h : t.getProjectConfigByUuid id = some row) : row ∈ t.configs ∧ row.uuid = id := by
  unfold getProjectConfigByUuid at h
  exact ⟨List.mem_of_find?_eq_some h, by simpa using List.find?_some h⟩

theorem getActiveProjectConfig_some {t : ConfigTables} {projectId : String} {row : ProjectConfigRow}
    (h : t.getActiveProjectConfig projectId = some row) :
    row ∈ t.projectConfigs projectId ∧ row.active = true := by
  unfold getActiveProjectConfig at h
  have hrow := List.find?_some h
  rw [Bool.and_eq_true] at hrow
  exact ⟨List.mem_filter.mpr ⟨List.mem_of_find?_eq_some h, hrow.1⟩, hrow.2⟩

/-- Rows stay, a configuration but for its flag; versions are only added. -/
structure Keeps (t t' : ConfigTables) : Prop where
  config : ∀ row ∈ t.configs, ∃ row' ∈ t'.configs, row'.uuid = row.uuid ∧
    row'.projectId = row.projectId ∧ row'.version = row.version ∧ row'.spec = row.spec
  count : ∀ projectId, (t.projectConfigs projectId).length ≤ (t'.projectConfigs projectId).length
  execution : ∀ execution ∈ t.executions, execution ∈ t'.executions
  revision : ∀ revision ∈ t.revisions, revision ∈ t'.revisions

theorem Keeps.refl (t : ConfigTables) : t.Keeps t where
  config := fun row hrow => ⟨row, hrow, rfl, rfl, rfl, rfl⟩
  count := fun _ => Nat.le_refl _
  execution := fun _ h => h
  revision := fun _ h => h

theorem Keeps.trans {t t' t'' : ConfigTables} (h : t.Keeps t') (h' : t'.Keeps t'') :
    t.Keeps t'' where
  config := fun row hrow => by
    obtain ⟨row', hrow', huuid, hproject, hversion, hspec⟩ := h.config row hrow
    obtain ⟨row'', hrow'', huuid', hproject', hversion', hspec'⟩ := h'.config row' hrow'
    exact ⟨row'', hrow'', huuid'.trans huuid, hproject'.trans hproject, hversion'.trans hversion,
      hspec'.trans hspec⟩
  count := fun projectId => Nat.le_trans (h.count projectId) (h'.count projectId)
  execution := fun execution hmem => h'.execution execution (h.execution execution hmem)
  revision := fun revision hmem => h'.revision revision (h.revision revision hmem)

/-- The pins hold as long as the rows stay. -/
theorem Keeps.pinnedIn {sha256 : Json → String} {t t' : ConfigTables} (h : t.Keeps t')
    {execution : PinnedExecutionRow} (hpinned : execution.PinnedIn sha256 t) :
    execution.PinnedIn sha256 t' where
  snapshot := fun snapshot hsnapshot => by
    obtain ⟨profile, hprofile, hpins⟩ := hpinned.snapshot snapshot hsnapshot
    exact ⟨profile, h.revision profile hprofile, hpins⟩
  complete := hpinned.complete
  config := fun id hid => by
    obtain ⟨row, hrow, rfl⟩ := hpinned.config id hid
    obtain ⟨row', hrow', huuid, -⟩ := h.config row hrow
    exact ⟨row', hrow', huuid⟩

/-- The rows without those that the update of an upload has seen. -/
def deactivate (projectId : String) (deactivated : List Uuid) (row : ProjectConfigRow) :
    ProjectConfigRow :=
  if row.projectId == projectId && deactivated.contains row.uuid then { row with active := false }
  else row

section Deactivate

variable (projectId : String) (deactivated : List Uuid) (row : ProjectConfigRow)

@[simp] theorem uuid_deactivate : (deactivate projectId deactivated row).uuid = row.uuid := by
  unfold deactivate
  split <;> rfl

@[simp] theorem projectId_deactivate :
    (deactivate projectId deactivated row).projectId = row.projectId := by
  unfold deactivate
  split <;> rfl

@[simp] theorem version_deactivate :
    (deactivate projectId deactivated row).version = row.version := by
  unfold deactivate
  split <;> rfl

@[simp] theorem spec_deactivate : (deactivate projectId deactivated row).spec = row.spec := by
  unfold deactivate
  split <;> rfl

end Deactivate

/-- What an upload that commits has found, and what it leaves. -/
theorem insertConfig_cases {t t' : ConfigTables} {projectId : String} {version : ℕ} {spec : Json}
    {specSha256 : String} {deactivated : List Uuid} {row : ProjectConfigRow}
    (h : t.insertConfig projectId version spec specSha256 deactivated = .ok (t', row)) :
    (∀ old ∈ t.configs, old.projectId = projectId → old.version ≠ version) ∧
      (∀ old ∈ t.configs, old.projectId = projectId → old.active = true →
        old.uuid ∈ deactivated) ∧
      row = ⟨t.nextUuid, projectId, version, spec, specSha256, true⟩ ∧
      t' = { t with configs := t.configs.map (deactivate projectId deactivated) ++ [row],
                    nextUuid := t.nextUuid + 1 } := by
  unfold insertConfig at h
  split at h
  · cases h
  next hversion =>
    split at h
    · cases h
    next hactive =>
      cases h
      refine ⟨fun old hold hproject heq => ?_, fun old hold hproject hon => ?_, rfl, rfl⟩
      · exact hversion (List.any_eq_true.mpr ⟨old, hold, by simp [hproject, heq]⟩)
      · by_contra hmissing
        exact hactive (List.any_eq_true.mpr ⟨old, hold, by simp [hproject, hon, hmissing]⟩)

/-- The rows of a project after an upload. -/
theorem projectConfigs_insertConfig {t : ConfigTables} {projectId other : String}
    {deactivated : List Uuid} {row : ProjectConfigRow} (hrow : row.projectId = projectId)
    (nextUuid : Uuid) :
    ConfigTables.projectConfigs
        { t with configs := t.configs.map (deactivate projectId deactivated) ++ [row],
                 nextUuid := nextUuid } other =
      (t.projectConfigs other).map (deactivate projectId deactivated) ++
        if projectId = other then [row] else [] := by
  unfold projectConfigs
  rw [List.filter_append, List.filter_map]
  congr 1
  · congr 1
    refine List.filter_congr fun old _ => ?_
    rw [Function.comp_apply, projectId_deactivate]
  · by_cases hother : projectId = other
    · simp [hrow, hother]
    · simp [hrow, hother]

/-- An upload keeps the rows. -/
theorem Keeps.insertConfig {t t' : ConfigTables} {projectId : String} {version : ℕ} {spec : Json}
    {specSha256 : String} {deactivated : List Uuid} {row : ProjectConfigRow}
    (h : t.insertConfig projectId version spec specSha256 deactivated = .ok (t', row)) :
    t.Keeps t' := by
  obtain ⟨-, -, hrow, rfl⟩ := insertConfig_cases h
  refine ⟨fun old hold => ?_, fun other => ?_, fun _ h => h, fun _ h => h⟩
  · exact ⟨deactivate projectId deactivated old,
      List.mem_append_left _ (List.mem_map_of_mem hold), by simp⟩
  · rw [projectConfigs_insertConfig (by rw [hrow]), List.length_append, List.length_map]
    exact Nat.le_add_right _ _

/-- The version of a row of a project is one of the first numbers. -/
theorem Inv.version_mem {sha256 : Json → String} {t : ConfigTables} (h : t.Inv sha256)
    {row : ProjectConfigRow} (hrow : row ∈ t.configs) :
    1 ≤ row.version ∧ row.version ≤ (t.projectConfigs row.projectId).length := by
  have hmem : row.version ∈ (t.projectConfigs row.projectId).map ProjectConfigRow.version :=
    List.mem_map_of_mem (List.mem_filter.mpr ⟨hrow, by simp⟩)
  rw [h.versions row.projectId, List.mem_range'_1] at hmem
  omega

/-- The next version is the number of versions and one. -/
theorem Inv.nextVersion {sha256 : Json → String} {t : ConfigTables} (h : t.Inv sha256)
    (projectId : String) :
    t.nextVersion projectId = (t.projectConfigs projectId).length + 1 := by
  have hmax : ∀ n, (List.range' 1 n).foldl max 0 = n := by
    intro n
    induction n with
    | zero => rfl
    | succ n ih =>
        rw [List.range'_1_concat, List.foldl_append, ih, List.foldl_cons, List.foldl_nil]
        omega
  rw [ConfigTables.nextVersion, h.versions projectId, hmax]

/-- **An upload that commits has read the latest version.**  Every earlier number is taken, so the
number it has read is the next one still; and it has seen the active row, so that row is not active
any more. -/
theorem Inv.insertConfig {sha256 : Json → String} {t t' : ConfigTables} (h : t.Inv sha256)
    {projectId : String} {version : ℕ} {spec : Json} {specSha256 : String}
    {deactivated : List Uuid} {row : ProjectConfigRow}
    (hinsert : t.insertConfig projectId version spec specSha256 deactivated = .ok (t', row))
    (hpositive : 1 ≤ version) (hread : version ≤ (t.projectConfigs projectId).length + 1) :
    t'.Inv sha256 := by
  have hkeeps := Keeps.insertConfig hinsert
  obtain ⟨hversion, hactive, hrow, ht'⟩ := insertConfig_cases hinsert
  have hrowProject : row.projectId = projectId := by rw [hrow]
  have hrowVersion : row.version = version := by rw [hrow]
  have hlatest : version = (t.projectConfigs projectId).length + 1 := by
    by_contra hne
    have htaken : version ∈ (t.projectConfigs projectId).map ProjectConfigRow.version := by
      rw [h.versions projectId, List.mem_range'_1]
      omega
    obtain ⟨old, hold, heq⟩ := List.mem_map.mp htaken
    obtain ⟨hold, hproject⟩ := List.mem_filter.mp hold
    exact hversion old hold (eq_of_beq hproject) heq
  have hrows : ∀ other, t'.projectConfigs other =
      (t.projectConfigs other).map (deactivate projectId deactivated) ++
        if projectId = other then [row] else [] := fun other => by
    rw [ht']
    exact projectConfigs_insertConfig hrowProject _
  have hsame : (t'.projectConfigs projectId).length = (t.projectConfigs projectId).length + 1 := by
    rw [hrows]
    simp
  have hother : ∀ other, projectId ≠ other →
      (t'.projectConfigs other).length = (t.projectConfigs other).length := fun other hne => by
    rw [hrows]
    simp [hne]
  have hconfigs : t'.configs = t.configs.map (deactivate projectId deactivated) ++ [row] := by
    rw [ht']
  have hrevisions : t'.revisions = t.revisions := by rw [ht']
  have hprofiles : t'.profiles = t.profiles := by rw [ht']
  have hnext : t'.nextUuid = t.nextUuid + 1 := by rw [ht']
  have hexecutions : t'.executions = t.executions := by rw [ht']
  refine ⟨fun other => ?_, fun old hold => ?_, ?_, fun old hold => ?_, ?_, ?_, ?_, ?_, ?_⟩
  · have hmap : ((t.projectConfigs other).map (deactivate projectId deactivated)).map
        ProjectConfigRow.version = (t.projectConfigs other).map ProjectConfigRow.version := by
      rw [List.map_map]
      exact List.map_congr_left fun old _ => version_deactivate projectId deactivated old
    by_cases heq : projectId = other
    · subst heq
      rw [hsame, hrows, List.map_append, hmap, h.versions projectId, if_pos rfl, List.map_singleton,
        hrowVersion, List.range'_1_concat, hlatest, Nat.add_comm 1]
    · rw [hother other heq, hrows, List.map_append, hmap, if_neg heq, List.map_nil,
        List.append_nil, h.versions other]
  · rw [hconfigs] at hold
    rcases List.mem_append.mp hold with hold | hold
    · obtain ⟨before, hbefore, rfl⟩ := List.mem_map.mp hold
      rw [projectId_deactivate, version_deactivate]
      by_cases heq : before.projectId = projectId
      · -- the rows of the project are inactive now, and none has the new number
        have hle := (h.version_mem hbefore).2
        have hoff : (deactivate projectId deactivated before).active = false := by
          unfold deactivate
          by_cases hseen : before.uuid ∈ deactivated
          · simp [heq, hseen]
          · simpa [hseen] using fun hon => hseen (hactive before hbefore heq hon)
        rw [heq] at hle
        have hearlier : before.version ≠ (t.projectConfigs projectId).length + 1 := by omega
        rw [hoff, heq, hsame]
        exact (decide_eq_false hearlier).symm
      · have hkept : deactivate projectId deactivated before = before := by
          simp [deactivate, heq]
        rw [hkept, hother _ (Ne.symm heq)]
        exact h.active before hbefore
    · obtain rfl := List.mem_singleton.mp hold
      rw [hrowProject, hsame, hrowVersion, hrow]
      exact (decide_eq_true hlatest).symm
  · rw [hconfigs, List.map_append, List.map_map]
    have huuids : t.configs.map (ProjectConfigRow.uuid ∘ deactivate projectId deactivated) =
        t.configs.map ProjectConfigRow.uuid :=
      List.map_congr_left fun old _ => uuid_deactivate projectId deactivated old
    rw [huuids, List.map_singleton, hrow]
    refine List.nodup_append.mpr ⟨h.configKeys, List.nodup_singleton _, ?_⟩
    rintro id hid _ hnew rfl
    obtain rfl := List.mem_singleton.mp hnew
    obtain ⟨old, hold, hid⟩ := List.mem_map.mp hid
    exact absurd hid (Nat.ne_of_lt (h.configFresh old hold))
  · rw [hnext]
    rw [hconfigs] at hold
    rcases List.mem_append.mp hold with hold | hold
    · obtain ⟨before, hbefore, rfl⟩ := List.mem_map.mp hold
      rw [uuid_deactivate]
      exact Nat.lt_succ_of_lt (h.configFresh before hbefore)
    · obtain rfl := List.mem_singleton.mp hold
      rw [hrow]
      exact Nat.lt_succ_self _
  · rw [hprofiles, hrevisions]
    exact h.known
  · rw [hprofiles, hrevisions]
    exact h.newest
  · rw [hrevisions, hnext]
    exact fun revision hmem => Nat.lt_succ_of_lt (h.revisionFresh revision hmem)
  · rw [hrevisions]
    exact h.oneContent
  · rw [hexecutions]
    exact fun execution hmem => hkeeps.pinnedIn (h.pinned execution hmem)

/-- A profile that is added or edited is the newest revision, with its number used for the first
time. -/
theorem Inv.profiles {sha256 : Json → String} {t : ConfigTables} (h : t.Inv sha256)
    (row : ProfileRecord) {profiles : List ProfileRecord} {nextUuid : Uuid}
    (hnext : t.nextUuid ≤ nextUuid) (hfresh : row.uuid < nextUuid)
    (hnumber : ∀ revision ∈ t.revisions, revision.uuid = row.uuid →
      revision.revision < row.revision)
    (hprofiles : ∀ profile ∈ profiles, profile = row ∨
      (profile ∈ t.profiles ∧ profile.uuid ≠ row.uuid)) :
    ConfigTables.Inv sha256 { t with profiles := profiles, nextUuid := nextUuid,
                                     revisions := row :: t.revisions } where
  versions := h.versions
  active := h.active
  configKeys := h.configKeys
  configFresh := fun old hold => Nat.lt_of_lt_of_le (h.configFresh old hold) hnext
  known := fun profile hprofile => by
    rcases hprofiles profile hprofile with rfl | ⟨hold, -⟩
    · exact List.mem_cons_self
    · exact List.mem_cons_of_mem _ (h.known profile hold)
  newest := fun profile hprofile revision hrevision huuid => by
    rcases hprofiles profile hprofile with rfl | ⟨hold, hne⟩
    · rcases List.mem_cons.mp hrevision with rfl | hrevision
      · exact Nat.le_refl _
      · exact Nat.le_of_lt (hnumber revision hrevision huuid)
    · rcases List.mem_cons.mp hrevision with rfl | hrevision
      · exact absurd huuid.symm hne
      · exact h.newest profile hold revision hrevision huuid
  revisionFresh := fun revision hrevision => by
    rcases List.mem_cons.mp hrevision with rfl | hrevision
    · exact hfresh
    · exact Nat.lt_of_lt_of_le (h.revisionFresh revision hrevision) hnext
  oneContent := fun a ha b hb huuid hrevision => by
    rcases List.mem_cons.mp ha with hanew | haold
    · rcases List.mem_cons.mp hb with hbnew | hbold
      · rw [hanew, hbnew]
      · rw [hanew] at huuid hrevision
        exact absurd hrevision (Nat.ne_of_gt (hnumber b hbold huuid.symm))
    · rcases List.mem_cons.mp hb with hbnew | hbold
      · rw [hbnew] at huuid hrevision
        exact absurd hrevision (Nat.ne_of_lt (hnumber a haold huuid))
      · exact h.oneContent a haold b hbold huuid hrevision
  pinned := fun execution hmem =>
    { snapshot := fun snapshot hsnapshot => by
        obtain ⟨profile, hprofile, hpins⟩ := (h.pinned execution hmem).snapshot snapshot hsnapshot
        exact ⟨profile, List.mem_cons_of_mem _ hprofile, hpins⟩
      complete := (h.pinned execution hmem).complete
      config := (h.pinned execution hmem).config }

theorem Inv.createDeploymentProfile {sha256 : Json → String} {t t' : ConfigTables}
    (h : t.Inv sha256) {now : ℕ} {spec : ProfileSpec} {row : ProfileRecord}
    (hcreate : t.createDeploymentProfile sha256 now spec = .ok (t', row)) : t'.Inv sha256 := by
  unfold ConfigTables.createDeploymentProfile at hcreate
  split at hcreate
  · cases hcreate
  split at hcreate
  · cases hcreate
  cases hcreate
  have hunused : ∀ revision ∈ t.revisions, revision.uuid ≠ t.nextUuid := fun revision hmem =>
    Nat.ne_of_lt (h.revisionFresh revision hmem)
  refine h.profiles ⟨t.nextUuid, spec, 1, some (sha256 spec.canonical), now⟩
    (Nat.le_succ _) (Nat.lt_succ_self _)
    (fun revision hmem huuid => absurd huuid (hunused revision hmem)) fun profile hprofile => ?_
  rcases List.mem_append.mp hprofile with hold | hnew
  · exact .inr ⟨hold, hunused profile (h.known profile hold)⟩
  · exact .inl (List.mem_singleton.mp hnew)

theorem Inv.updateDeploymentProfile {sha256 : Json → String} {t t' : ConfigTables}
    (h : t.Inv sha256) {id : Uuid} {spec : ProfileSpec} {row : Option ProfileRecord}
    (hupdate : t.updateDeploymentProfile sha256 id spec = .ok (t', row)) : t'.Inv sha256 := by
  unfold ConfigTables.updateDeploymentProfile at hupdate
  split at hupdate
  · cases hupdate
    exact h
  next old hold =>
    obtain ⟨hmem, hid⟩ := getDeploymentProfile_some hold
    split at hupdate
    · cases hupdate
    split at hupdate
    · cases hupdate
    cases hupdate
    refine h.profiles { old with
      spec := spec, revision := old.revision + 1, specSha256 := some (sha256 spec.canonical) }
      (Nat.le_refl _) (h.revisionFresh old (h.known old hmem))
      (fun revision hrevision huuid =>
        Nat.lt_succ_of_le (h.newest old hmem revision hrevision huuid)) fun profile hprofile => ?_
    obtain ⟨before, hbefore, rfl⟩ := List.mem_map.mp hprofile
    by_cases hsame : before.uuid = id
    · simp [hsame]
    · refine .inr ?_
      simp [hsame, hbefore, hid]

/-- A deletion leaves the revisions on record. -/
theorem Inv.deleteDeploymentProfile {sha256 : Json → String} {t t' : ConfigTables}
    (h : t.Inv sha256) {id : Uuid} {deleted : Bool}
    (hdelete : t.deleteDeploymentProfile id = .ok (t', deleted)) : t'.Inv sha256 := by
  unfold ConfigTables.deleteDeploymentProfile at hdelete
  split at hdelete
  · cases hdelete
  cases hdelete
  exact ⟨h.versions, h.active, h.configKeys, h.configFresh,
    fun profile hprofile => h.known profile (List.mem_of_mem_filter hprofile),
    fun profile hprofile => h.newest profile (List.mem_of_mem_filter hprofile),
    h.revisionFresh, h.oneContent,
    fun execution hmem => ⟨(h.pinned execution hmem).snapshot, (h.pinned execution hmem).complete,
      (h.pinned execution hmem).config⟩⟩

/-- An execution is pinned to the revision that was read. -/
theorem Inv.insertExecution {sha256 : Json → String} {t t' : ConfigTables} (h : t.Inv sha256)
    {projectModule : String} {profile : Option ProfileRecord} {projectConfigId : Option Uuid}
    {row : PinnedExecutionRow}
    (hinsert : t.insertExecution sha256 projectModule profile projectConfigId = .ok (t', row))
    (hread : ∀ p, profile = some p → p ∈ t.revisions) : t'.Inv sha256 := by
  unfold ConfigTables.insertExecution at hinsert
  split at hinsert
  · cases hinsert
  next hkeys =>
    cases hinsert
    rw [Bool.not_eq_true, Bool.or_eq_false_iff] at hkeys
    refine ⟨h.versions, h.active, h.configKeys,
      fun row hrow => Nat.lt_succ_of_lt (h.configFresh row hrow), h.known, h.newest,
      fun revision hmem => Nat.lt_succ_of_lt (h.revisionFresh revision hmem), h.oneContent,
      fun execution hmem => ?_⟩
    rcases List.mem_append.mp hmem with hold | hnew
    · exact ⟨(h.pinned execution hold).snapshot, (h.pinned execution hold).complete,
        (h.pinned execution hold).config⟩
    · obtain rfl := List.mem_singleton.mp hnew
      refine ⟨fun snapshot hsnapshot => ?_, fun hnone => ?_, fun id hid => ?_⟩
      · obtain ⟨p, rfl, rfl⟩ := Option.map_eq_some_iff.mp hsnapshot
        exact ⟨p, hread p rfl, rfl, rfl, rfl⟩
      · rw [Option.map_eq_none_iff.mp hnone]
        rfl
      · subst hid
        have hthere := hkeys.2
        rw [Option.any_some, Option.isNone_eq_false_iff] at hthere
        obtain ⟨row, hrow⟩ := Option.isSome_iff_exists.mp hthere
        exact ⟨row, getProjectConfigByUuid_some hrow⟩

/-- Every transaction keeps the rows. -/
theorem Keeps.transaction (sha256 : Json → String) (r : ConfigRequest) (i : ConfigChoice)
    (t : ConfigTables) : t.Keeps (r.transaction sha256 i t).2 := by
  have houtcome : ∀ {α : Type} (result : Except String (ConfigTables × α)),
      (∀ t' a, result = .ok (t', a) → t.Keeps t') → t.Keeps (t.outcome result).2 := by
    intro α result h
    cases result with
    | error error => exact .refl t
    | ok after => exact h after.1 after.2 rfl
  cases r with
  | getDeploymentProfile id => exact .refl t
  | getDefaultDeploymentProfile projectModule => exact .refl t
  | getProjectConfigByUuid id => exact .refl t
  | nextVersion projectId => exact .refl t
  | deactivate projectId => exact .refl t
  | insertConfig projectId version spec specSha256 deactivated =>
      exact houtcome _ fun _ _ hinsert => Keeps.insertConfig hinsert
  | insertExecution projectModule profile projectConfigId =>
      refine houtcome _ fun t' row hinsert => ?_
      unfold ConfigTables.insertExecution at hinsert
      split at hinsert
      · cases hinsert
      · cases hinsert
        exact ⟨(Keeps.refl t).config, (Keeps.refl t).count,
          fun _ hmem => List.mem_append_left _ hmem, fun _ hmem => hmem⟩
  | createDeploymentProfile spec =>
      refine houtcome _ fun t' row hcreate => ?_
      unfold ConfigTables.createDeploymentProfile at hcreate
      split at hcreate
      · cases hcreate
      split at hcreate
      · cases hcreate
      · cases hcreate
        exact ⟨(Keeps.refl t).config, (Keeps.refl t).count, fun _ hmem => hmem,
          fun _ hmem => List.mem_cons_of_mem _ hmem⟩
  | updateDeploymentProfile id spec =>
      refine houtcome _ fun t' row hupdate => ?_
      unfold ConfigTables.updateDeploymentProfile at hupdate
      split at hupdate
      · cases hupdate
        exact .refl t
      split at hupdate
      · cases hupdate
      split at hupdate
      · cases hupdate
      · cases hupdate
        exact ⟨(Keeps.refl t).config, (Keeps.refl t).count, fun _ hmem => hmem,
          fun _ hmem => List.mem_cons_of_mem _ hmem⟩
  | deleteDeploymentProfile id =>
      refine houtcome _ fun t' deleted hdelete => ?_
      unfold ConfigTables.deleteDeploymentProfile at hdelete
      split at hdelete
      · cases hdelete
      · cases hdelete
        exact ⟨(Keeps.refl t).config, (Keeps.refl t).count, fun _ hmem => hmem,
          fun _ hmem => hmem⟩

theorem Keeps.perform (sha256 : Json → String) (r : ConfigRequest) (i : ConfigChoice)
    (t : ConfigTables) : t.Keeps (r.perform sha256 i t).2 :=
  Prog.fallible_state (P := t.Keeps) (.refl t) (.transaction sha256 r i t)

/-- What an operation has read is so still: the profiles were revisions, and the versions it has read
are not above the next ones. -/
structure Known (t : ConfigTables) (books : ConfigBooks) : Prop where
  profiles : ∀ profile ∈ books.profiles, profile ∈ t.revisions
  versions : ∀ read ∈ books.versions, 1 ≤ read.2 ∧ read.2 ≤ (t.projectConfigs read.1).length + 1

theorem Known.mono {t t' : ConfigTables} {books : ConfigBooks} (h : t.Known books)
    (hkeeps : t.Keeps t') : t'.Known books where
  profiles := fun profile hmem => hkeeps.revision profile (h.profiles profile hmem)
  versions := fun read hmem => by
    have hread := h.versions read hmem
    have hcount := hkeeps.count read.1
    omega

/-- A transaction that fits what its operation has read keeps the invariant. -/
theorem Inv.transaction {sha256 : Json → String} {t : ConfigTables} (h : t.Inv sha256)
    {books : ConfigBooks} (hknown : t.Known books) {r : ConfigRequest} (hfits : books.Fits r)
    (i : ConfigChoice) : (r.transaction sha256 i t).2.Inv sha256 := by
  have houtcome : ∀ {α : Type} (result : Except String (ConfigTables × α)),
      (∀ t' a, result = .ok (t', a) → t'.Inv sha256) → (t.outcome result).2.Inv sha256 := by
    intro α result hresult
    cases result with
    | error error => exact h
    | ok after => exact hresult after.1 after.2 rfl
  cases r with
  | getDeploymentProfile id => exact h
  | getDefaultDeploymentProfile projectModule => exact h
  | getProjectConfigByUuid id => exact h
  | nextVersion projectId => exact h
  | deactivate projectId => exact h
  | insertConfig projectId version spec specSha256 deactivated =>
      obtain ⟨hpositive, hread⟩ := hknown.versions _ hfits
      exact houtcome _ fun _ _ hinsert => h.insertConfig hinsert hpositive hread
  | insertExecution projectModule profile projectConfigId =>
      exact houtcome _ fun _ _ hinsert =>
        h.insertExecution hinsert fun p hp => hknown.profiles p (hfits p hp)
  | createDeploymentProfile spec =>
      exact houtcome _ fun _ _ hcreate => h.createDeploymentProfile hcreate
  | updateDeploymentProfile id spec =>
      exact houtcome _ fun _ _ hupdate => h.updateDeploymentProfile hupdate
  | deleteDeploymentProfile id =>
      exact houtcome _ fun _ _ hdelete => h.deleteDeploymentProfile hdelete

/-- A profile that is found is a revision. -/
theorem Inv.firstInOrder {sha256 : Json → String} {t : ConfigTables} (h : t.Inv sha256)
    {projectModule : String} {profile : ProfileRecord}
    (hread : t.getDefaultDeploymentProfile projectModule = some profile) :
    profile ∈ t.revisions := by
  unfold getDefaultDeploymentProfile at hread
  exact h.known profile (List.mem_of_mem_filter (firstInOrder_mem hread))

/-- The books stay true with an answer. -/
theorem Known.learn {sha256 : Json → String} {t : ConfigTables} {books : ConfigBooks}
    (hinv : t.Inv sha256) (h : t.Known books) (r : ConfigRequest) (i : ConfigChoice) :
    (r.perform sha256 i t).2.Known (books.learn r (r.perform sha256 i t).1) := by
  have hkept : (r.perform sha256 i t).2.Known books := h.mono (.perform sha256 r i t)
  cases hanswer : (r.perform sha256 i t).1 with
  | error error => cases r <;> exact hkept
  | ok answer =>
      have hperform : r.perform sha256 i t = r.transaction sha256 i t := Prog.fallible_ok hanswer
      rw [hperform] at hanswer
      have hread : ∀ profile : Option ProfileRecord,
          (∀ p, profile = some p → p ∈ (r.perform sha256 i t).2.revisions) →
          (r.perform sha256 i t).2.Known
            { books with profiles := profile.toList ++ books.profiles } := by
        intro profile hprofile
        refine ⟨fun p hp => ?_, hkept.versions⟩
        rcases List.mem_append.mp hp with hnew | hold
        · exact hprofile p (Option.mem_toList.mp hnew)
        · exact hkept.profiles p hold
      cases r with
      | getDeploymentProfile id =>
          refine hread answer fun p hp => ?_
          rw [hperform]
          exact hinv.known p (getDeploymentProfile_some ((Except.ok.inj hanswer).trans hp)).1
      | getDefaultDeploymentProfile projectModule =>
          refine hread answer fun p hp => ?_
          rw [hperform]
          exact hinv.firstInOrder ((Except.ok.inj hanswer).trans hp)
      | nextVersion projectId =>
          refine ⟨hkept.profiles, fun read hmem => ?_⟩
          rcases List.mem_cons.mp hmem with rfl | hold
          · rw [hperform, ← Except.ok.inj hanswer, hinv.nextVersion]
            exact ⟨Nat.succ_pos _, Nat.le_refl _⟩
          · exact hkept.versions read hold
      | getProjectConfigByUuid id => exact hkept
      | deactivate projectId => exact hkept
      | insertConfig projectId version spec specSha256 deactivated => exact hkept
      | insertExecution projectModule profile projectConfigId => exact hkept
      | createDeploymentProfile spec => exact hkept
      | updateDeploymentProfile id spec => exact hkept
      | deleteDeploymentProfile id => exact hkept

end ConfigTables

/-! ### Runs -/

/-- The tables before the first operation. -/
def ConfigTables.empty : ConfigTables := ⟨[], [], [], 0, []⟩

theorem ConfigTables.inv_empty (sha256 : Json → String) : empty.Inv sha256 where
  versions := fun _ => rfl
  active := fun _ hrow => (List.not_mem_nil hrow).elim
  configKeys := List.nodup_nil
  configFresh := fun _ hrow => (List.not_mem_nil hrow).elim
  known := fun _ hprofile => (List.not_mem_nil hprofile).elim
  newest := fun _ hprofile => (List.not_mem_nil hprofile).elim
  revisionFresh := fun _ hrevision => (List.not_mem_nil hrevision).elim
  oneContent := fun _ ha => (List.not_mem_nil ha).elim
  pinned := fun _ hexecution => (List.not_mem_nil hexecution).elim

/-- What the operations side by side are made of. -/
abbrev ConfigRun : Type :=
  Config ConfigRequest (fun r => Except String r.Answer) String Unit ConfigTables ConfigBooks

/-- A step of the operations. -/
abbrev ConfigLabel : Type := Label ConfigChoice ConfigCall Empty

section Runs

variable (sha256 : Json → String) (specError : Json → Option String)

/-- The invariant holds in every run. -/
theorem config_inv {t : ConfigTables} (ht : t.Inv sha256) (labels : List ConfigLabel) :
    (Runs.exec (configSystem sha256 specError).step (System.init t) labels).shared.Inv sha256 :=
  (System.exec_known (m := configSystem sha256 specError) (I := fun t => t.Inv sha256)
    (K := fun books t => t.Known books) id (fun _ _ _ _ _ => rfl) (fun _ => configCall_wp)
    (fun _ _ i _ _ hinv hknown hfits =>
      Prog.fallible_state hinv (hinv.transaction hknown hfits i))
    (fun e => e.elim) (fun _ _ => ⟨fun _ hmem => (by cases hmem), fun _ hmem => (by cases hmem)⟩)
    (fun _ r i _ _ hinv hknown _ => hknown.learn hinv r i)
    (fun _ r i _ t _ _ _ hknown => hknown.mono (.perform sha256 r i t)) (fun e => e.elim) ht
    labels).1

/-- The rows stay in every run. -/
theorem config_keeps (c : ConfigRun) (labels : List ConfigLabel) :
    c.shared.Keeps (Runs.exec (configSystem sha256 specError).step c labels).shared :=
  System.exec_shared .refl (fun h h' => h.trans h') (fun _ r i _ t => .perform sha256 r i t)
    (fun e => e.elim) c labels

/-- **The active configuration is the latest one.**  In every run of any number of uploads and other
operations side by side, whatever fails in it: the versions of a project are numbered from one without
gaps, in the order of their commits, at most the last one is active, and it is what
`get_active_project_config` answers. -/
theorem active_config_is_latest (t : ConfigTables) (ht : t.Inv sha256) (labels : List ConfigLabel)
    (projectId : String) :
    let after := (Runs.exec (configSystem sha256 specError).step (System.init t) labels).shared
    let latest := (after.projectConfigs projectId).length
    (after.projectConfigs projectId).map ProjectConfigRow.version = List.range' 1 latest ∧
      (∀ row ∈ after.projectConfigs projectId, row.active = true ↔ row.version = latest) ∧
      (after.getActiveProjectConfig projectId).map ProjectConfigRow.version =
        if latest = 0 then none else some latest := by
  intro after latest
  have hinv : after.Inv sha256 := config_inv sha256 specError ht labels
  have hactive : ∀ row ∈ after.projectConfigs projectId,
      row.active = true ↔ row.version = latest := by
    intro row hrow
    obtain ⟨hmem, hproject⟩ := List.mem_filter.mp hrow
    rw [hinv.active row hmem, decide_eq_true_iff, eq_of_beq hproject]
  refine ⟨hinv.versions projectId, hactive, ?_⟩
  cases hfind : after.getActiveProjectConfig projectId with
  | none =>
      -- the last version would be found
      rw [if_pos, Option.map_none]
      by_contra hsome
      have hlast : latest ∈ (after.projectConfigs projectId).map ProjectConfigRow.version := by
        rw [hinv.versions projectId, List.mem_range'_1]
        omega
      obtain ⟨row, hrow, hversion⟩ := List.mem_map.mp hlast
      obtain ⟨hmem, hproject⟩ := List.mem_filter.mp hrow
      refine absurd ?_ (List.find?_eq_none.mp hfind row hmem)
      rw [hproject, (hactive row hrow).mpr hversion]
      rfl
  | some row =>
      obtain ⟨hmem, hon⟩ := ConfigTables.getActiveProjectConfig_some hfind
      have hversion := (hactive row hmem).mp hon
      have hpositive : 1 ≤ latest := List.length_pos_of_mem hmem
      rw [Option.map_some, hversion, if_neg (by omega)]

namespace ConfigTables

variable {sha256} {t : ConfigTables}

/-- An execution with a snapshot runs with the revision it names, whatever the tables are. -/
theorem Inv.resolve (h : t.Inv sha256) {execution : PinnedExecutionRow}
    (hmem : execution ∈ t.executions) {snapshot : Json}
    (hsnapshot : execution.deploymentProfileSnapshot = some snapshot) :
    ∃ profile ∈ t.revisions, execution.deploymentProfileId = some profile.uuid ∧
      execution.deploymentProfileRevision = some profile.revision ∧
      ∀ t' : ConfigTables,
        t'.resolveExecutionDeployment execution = some profile.spec.deployment ∧
        t'.resolveExecutionTranslation execution = some profile.spec.translation := by
  obtain ⟨profile, hprofile, hid, hrevision, rfl⟩ :=
    (h.pinned execution hmem).snapshot snapshot hsnapshot
  refine ⟨profile, hprofile, hid, hrevision, fun t' => ⟨?_, ?_⟩⟩
  · simp [resolveExecutionDeployment, hsnapshot]
  · simp [resolveExecutionTranslation, hsnapshot]

/-- The configuration that an execution names is found. -/
theorem Inv.pinnedConfig (h : t.Inv sha256) {execution : PinnedExecutionRow}
    (hmem : execution ∈ t.executions) {id : Uuid} (hid : execution.projectConfigId = some id) :
    ∃ row ∈ t.configs, row.uuid = id ∧ t.getProjectConfigForExecution execution = some row := by
  obtain ⟨row, hrow, huuid⟩ := (h.pinned execution hmem).config id hid
  obtain ⟨found, hfound⟩ : ∃ found, t.getProjectConfigByUuid id = some found :=
    Option.isSome_iff_exists.mp (List.find?_isSome.mpr ⟨row, hrow, beq_iff_eq.mpr huuid⟩)
  obtain ⟨hmem, huuid⟩ := getProjectConfigByUuid_some hfound
  refine ⟨found, hmem, huuid, ?_⟩
  simp [getProjectConfigForExecution, hid, hfound]

/-- Two rows of one identifier are one. -/
theorem Inv.config_eq (h : t.Inv sha256) {a b : ProjectConfigRow} (ha : a ∈ t.configs)
    (hb : b ∈ t.configs) (huuid : a.uuid = b.uuid) : a = b :=
  List.inj_on_of_nodup_map h.configKeys ha hb huuid

end ConfigTables

/-- **What an execution is pinned to never changes.**  In every run of any number of creations, uploads
and edits of profiles side by side, whatever fails in it: an execution stays; when it was created under
a profile, it is resolved ever after to the deployment and the translation of one revision, the one
its row names, and so is every execution that names this revision; and when it names a project
configuration, it is resolved ever after to the version and the text of that one, whether it is active
or not. -/
theorem pinned_configuration_stable (t : ConfigTables) (ht : t.Inv sha256)
    (labels more : List ConfigLabel) (execution : PinnedExecutionRow)
    (hmem : execution ∈ (Runs.exec (configSystem sha256 specError).step (System.init t)
      labels).shared.executions) :
    let before := (Runs.exec (configSystem sha256 specError).step (System.init t) labels).shared
    let after := (Runs.exec (configSystem sha256 specError).step (System.init t)
      (labels ++ more)).shared
    execution ∈ after.executions ∧
      (execution.deploymentProfileSnapshot.isSome = true → ∃ profile ∈ before.revisions,
        ∀ other ∈ after.executions,
          other.deploymentProfileId = execution.deploymentProfileId →
          other.deploymentProfileRevision = execution.deploymentProfileRevision →
          other.deploymentProfileId = some profile.uuid ∧
          other.deploymentProfileRevision = some profile.revision ∧
          after.resolveExecutionDeployment other = some profile.spec.deployment ∧
          after.resolveExecutionTranslation other = some profile.spec.translation) ∧
      (execution.projectConfigId.isSome = true → ∃ row row',
        before.getProjectConfigForExecution execution = some row ∧
        after.getProjectConfigForExecution execution = some row' ∧
        execution.projectConfigId = some row'.uuid ∧ row'.version = row.version ∧
        row'.spec = row.spec) := by
  intro before after
  have hbefore : before.Inv sha256 := config_inv sha256 specError ht labels
  have hafter : after.Inv sha256 := config_inv sha256 specError ht (labels ++ more)
  have hkeeps : before.Keeps after := by
    have hrun := config_keeps sha256 specError
      (Runs.exec (configSystem sha256 specError).step (System.init t) labels) more
    rw [← Runs.exec_append] at hrun
    exact hrun
  have hstays : execution ∈ after.executions := hkeeps.execution execution hmem
  refine ⟨hstays, fun hsnapshot => ?_, fun hconfig => ?_⟩
  · obtain ⟨snapshot, hsnapshot⟩ := Option.isSome_iff_exists.mp hsnapshot
    obtain ⟨profile, hprofile, hid, hrevision, -⟩ := hbefore.resolve hmem hsnapshot
    refine ⟨profile, hprofile, fun other hother hsameId hsameRevision => ?_⟩
    rw [hsameId, hsameRevision]
    -- the other execution has a snapshot of some revision with the same number, so of this one
    cases hothers : other.deploymentProfileSnapshot with
    | none =>
        rw [(hafter.pinned other hother).complete hothers, hid] at hsameId
        cases hsameId
    | some snapshot' =>
        obtain ⟨profile', hprofile', hid', hrevision', hresolve⟩ := hafter.resolve hother hothers
        have heq : profile' = profile := by
          refine hafter.oneContent profile' hprofile' profile (hkeeps.revision profile hprofile)
            ?_ ?_
          · exact Option.some.inj (hid'.symm.trans (hsameId.trans hid))
          · exact Option.some.inj (hrevision'.symm.trans (hsameRevision.trans hrevision))
        rw [← heq]
        exact ⟨heq ▸ hid, heq ▸ hrevision, hresolve after⟩
  · obtain ⟨id, hid⟩ := Option.isSome_iff_exists.mp hconfig
    obtain ⟨row, hrow, huuid, hresolve⟩ := hbefore.pinnedConfig hmem hid
    obtain ⟨row', hrow', huuid', hresolve'⟩ := hafter.pinnedConfig hstays hid
    obtain ⟨kept, hkept, hkeptUuid, -, hversion, hspec⟩ := hkeeps.config row hrow
    have heq : kept = row' :=
      hafter.config_eq hkept hrow' (hkeptUuid.trans (huuid.trans huuid'.symm))
    subst heq
    exact ⟨row, kept, hresolve, hresolve', hid.trans (by rw [huuid']), hversion, hspec⟩

end Runs

/-! ### Two uploads, and an execution that is pinned between them -/

/-- Every text has one hash here. -/
def oneHash : Json → String := fun _ => "h"

/-- Two uploads of one project read the same version; the second one fails, and is tried again. -/
def racingUploads : List ConfigLabel :=
  [.start 0 (.insertProjectConfig "m" (.str "one") "1"), .run 0 {},
    .start 1 (.insertProjectConfig "m" (.str "two") "2"), .run 1 {}, .run 0 {}, .run 0 {},
    .run 1 {}, .run 1 {},
    .start 2 (.insertProjectConfig "m" (.str "two") "2"), .run 2 {}, .run 2 {}, .run 2 {}]

/-- The second version is there, and active. -/
theorem active_config_is_latest_racing :
    let after := (Runs.exec (configSystem oneHash fun _ => none).step
      (System.init ConfigTables.empty) racingUploads).shared
    (after.projectConfigs "m").length = 2 ∧
      (after.getActiveProjectConfig "m").map ProjectConfigRow.version = some 2 := by
  obtain ⟨-, -, hactive⟩ := active_config_is_latest oneHash (fun _ => none) ConfigTables.empty
    (ConfigTables.inv_empty oneHash) racingUploads "m"
  have hlatest : ((Runs.exec (configSystem oneHash fun _ => none).step
      (System.init ConfigTables.empty) racingUploads).shared.projectConfigs "m").length = 2 := by
    decide +kernel
  exact ⟨hlatest, hactive.trans (by rw [hlatest]; rfl)⟩

/-- A profile that is the default of every project. -/
def globalProfile (deployment : String) : ProfileSpec :=
  ⟨"p", none, none, true, none, .str "translation", .str deployment⟩

/-- A profile and a configuration, and an execution under both. -/
def pinnedExecution : List ConfigLabel :=
  [.start 0 (.createDeploymentProfile (globalProfile "first")), .run 0 {},
    .start 1 (.insertProjectConfig "m" (.str "one") "1"), .run 1 {}, .run 1 {}, .run 1 {},
    .start 2 (.createExecution "m" none (some 1)), .run 2 {}, .run 2 {}, .run 2 {}]

/-- The profile is edited, and another configuration is active. -/
def editedLater : List ConfigLabel :=
  [.start 3 (.updateDeploymentProfile 0 (globalProfile "second")), .run 3 {},
    .start 4 (.insertProjectConfig "m" (.str "two") "2"), .run 4 {}, .run 4 {}, .run 4 {}]

/-- The row of the execution. -/
def pinnedRow : PinnedExecutionRow where
  uuid := 2
  projectModule := "m"
  deploymentProfileId := some 0
  deploymentProfileRevision := some 1
  deploymentProfileSnapshot :=
    some (ProfileRecord.snapshot oneHash ⟨0, globalProfile "first", 1, some "h", 0⟩)
  projectConfigId := some 1

/-- The execution still runs with the first version of its configuration. -/
theorem pinned_configuration_stable_edited :
    let before := (Runs.exec (configSystem oneHash fun _ => none).step
      (System.init ConfigTables.empty) pinnedExecution).shared
    let after := (Runs.exec (configSystem oneHash fun _ => none).step
      (System.init ConfigTables.empty) (pinnedExecution ++ editedLater)).shared
    pinnedRow ∈ after.executions ∧ ∃ row row',
      before.getProjectConfigForExecution pinnedRow = some row ∧
      after.getProjectConfigForExecution pinnedRow = some row' ∧ row'.version = row.version ∧
      row'.spec = row.spec := by
  obtain ⟨hstays, -, hconfig⟩ := pinned_configuration_stable oneHash (fun _ => none)
    ConfigTables.empty (ConfigTables.inv_empty oneHash) pinnedExecution editedLater pinnedRow
    (by decide +kernel)
  obtain ⟨row, row', hbefore, hafter, -, hversion, hspec⟩ := hconfig rfl
  exact ⟨hstays, row, row', hbefore, hafter, hversion, hspec⟩

end Beampipe
