/-
Executions under deployment profiles.

Every execution is created under a deployment profile, and a profile may limit how many of its
executions are under way.  The creation is one transaction of several statements: it takes an
advisory lock for its idempotency key, takes another one for the profile and counts, and then
inserts the row, while other transactions commit between two statements.  The other operations of
the repository run on one execution of the table each, and none of them counts.

Main definitions:

* `Beampipe.DeploymentProfileRow`, `Beampipe.ExecutionEntry`, `Beampipe.ExecutionTables` — the
  tables;
* `Beampipe.ExecutionTables.resolveProfile`, `Beampipe.ExecutionTables.replayedExecution`,
  `Beampipe.ExecutionTables.profileAdmits`, `Beampipe.ExecutionTables.insertExecution` — the
  statements of `create_execution_internal`;
* `Beampipe.AdmissionSystem`, `Beampipe.AdmissionStep` — any number of creators beside all other
  transactions;
* `Beampipe.AdmissionSystem.reenters`, `Beampipe.AdmissionSystem.admits` — the steps that count one
  execution more.

Main results:

* `Beampipe.Store.isInFlight_of_reenters`, `Beampipe.Store.isInFlight_of_step` — which transactions
  bring a finished execution back;
* `Beampipe.AdmissionSystem.step_move` — everything a step can do;
* `Beampipe.AdmissionHistory.Inv.of_move` — what the lock of a profile guards;
* `Beampipe.profile_limit_iff` — **when the limit of a profile holds in every state**.
-/

import Beampipe.Runs
import Beampipe.LedgerRuns

set_option relaxedAutoImplicit false
set_option autoImplicit false

namespace Beampipe

/-! ### Tables -/

/-- A row of `daliuge_deployment_profile`, as far as a creation reads it; `specSha256` is the stored
hash, or else computed.  A limit is positive (`ck_deployment_profile_concurrency`). -/
structure DeploymentProfileRow where
  uuid : Uuid
  name : String
  projectModule : Option String
  isDefault : Bool
  maxConcurrentExecutions : Option ℕ
  specSha256 : String
  createdAt : ℕ
  deriving DecidableEq, Repr

/-- A row of `batch_execution_record` with the columns that only a creation writes, and what is
stored for the execution. -/
structure ExecutionEntry where
  deploymentProfileId : Option Uuid
  createdById : Option ℕ
  createIdempotencyKey : Option String
  createRequestSha256 : Option String
  row : ExecutionRow
  artifacts : List ExecutionArtifactRow
  observations : List ExecutionObservationRow
  deriving DecidableEq, Repr

/-- The profiles and the executions, with the registry and the queue that all of them share. -/
structure ExecutionTables where
  profiles : List DeploymentProfileRow
  executions : List ExecutionEntry
  registry : SourceRegistry
  queue : JobQueue
  deriving DecidableEq, Repr

/-- `status IN ('pending', 'running', 'retrying', 'awaiting_scheduler')`. -/
def ExecutionStatus.isInFlight : ExecutionStatus → Bool
  | .pending | .running | .retrying | .awaitingScheduler => true
  | .completed | .failed | .cancelled | .notSubmitted => false

/-- What is in flight is what is not terminal. -/
theorem ExecutionStatus.isInFlight_eq (status : ExecutionStatus) :
    status.isInFlight = !status.isTerminal := by
  cases status <;> rfl

/-- `deployment_profile_id = $1 AND status IN (…)`. -/
def ExecutionEntry.countsFor (profileId : Uuid) (entry : ExecutionEntry) : Bool :=
  entry.deploymentProfileId == some profileId && entry.row.status.isInFlight

/-- The two executions were created by one user under one key
(`uq_execution_create_idempotency`). -/
def ExecutionEntry.sharesKey (a b : ExecutionEntry) : Bool :=
  a.createdById.isSome && a.createIdempotencyKey.isSome &&
    a.createdById == b.createdById && a.createIdempotencyKey == b.createIdempotencyKey

/-! ### The statements of a creation -/

/-- `AutomatedExecutionEnqueue`. -/
structure AutomatedExecutionEnqueue where
  schedulerManifest : Json
  jobPayload : Json
  workerPool : String
  deriving DecidableEq, Repr

/-- The arguments of `create_execution_internal`.  The pinned project configuration says whether
verified outputs are required, or why it is refused; with the pinned deployment it determines the
capabilities of an execute job. -/
structure CreateRequest where
  projectModule : String
  sources : List SourceSelection
  deploymentProfileId : Option Uuid
  createdById : Option ℕ
  idempotencyKey : Option String
  requestSha256 : Option String
  outputVerificationRequired : Except String Bool
  automation : Option AutomatedExecutionEnqueue
  requiredCapabilities : Bool → Bool → Except String (List String)

/-- The user and the key that an idempotent request locks. -/
def CreateRequest.key (request : CreateRequest) : Option (ℕ × String) :=
  match request.createdById, request.idempotencyKey, request.requestSha256 with
  | some user, some key, some _ => some (user, key)
  | _, _, _ => none

/-- The profile, when it has a limit. -/
def DeploymentProfileRow.limit (profile : DeploymentProfileRow) : Option (Uuid × ℕ) :=
  profile.maxConcurrentExecutions.map fun limit => (profile.uuid, limit)

namespace ExecutionTables

/-- `get_deployment_profile`. -/
def getDeploymentProfile (t : ExecutionTables) (id : Uuid) : Option DeploymentProfileRow :=
  t.profiles.find? fun profile => profile.uuid == id

/-- `ORDER BY project_module IS NULL ASC, created_at DESC`. -/
def defaultBefore (a b : DeploymentProfileRow) : Bool :=
  (a.projectModule.isSome && b.projectModule.isNone) ||
    (a.projectModule.isNone == b.projectModule.isNone && decide (b.createdAt < a.createdAt))

/-- `get_default_deployment_profile`. -/
def getDefaultDeploymentProfile (t : ExecutionTables) (projectModule : String) :
    Option DeploymentProfileRow :=
  firstInOrder defaultBefore <| t.profiles.filter fun profile =>
    profile.isDefault &&
      (profile.projectModule == some projectModule || profile.projectModule.isNone)

/-- The profile that a request names, or else the default of its project. -/
def requestedProfile (t : ExecutionTables) (request : CreateRequest) :
    Option DeploymentProfileRow :=
  match request.deploymentProfileId with
  | some id => t.getDeploymentProfile id
  | none => t.getDefaultDeploymentProfile request.projectModule

/-- What happens before the transaction: the arguments are checked and the profile is read. -/
def resolveProfile (t : ExecutionTables) (request : CreateRequest) :
    Except String (Option DeploymentProfileRow) :=
  if request.idempotencyKey.isSome ≠ request.requestSha256.isSome ∨
      request.idempotencyKey.isSome ≠ request.createdById.isSome then
    .error "execution idempotency requires a user, key, and request hash"
  else if request.deploymentProfileId.isSome ∧ (t.requestedProfile request).isNone then
    .error "deployment profile does not exist"
  else
    match request.outputVerificationRequired with
    | .error error => .error error
    | .ok _ => .ok (t.requestedProfile request)

/-- The execution that an earlier request has created under the key; another request under the same
key is refused. -/
def replayedExecution (t : ExecutionTables) (request : CreateRequest) :
    Except String (Option ExecutionEntry) :=
  match request.key with
  | none => .ok none
  | some (user, key) =>
      match t.executions.find? fun entry =>
          entry.createdById == some user && entry.createIdempotencyKey == some key with
      | none => .ok none
      | some existing =>
          if existing.createRequestSha256 = request.requestSha256 then .ok (some existing)
          else .error "execution idempotency key was already used for a different request"

/-- The executions of a profile that are under way. -/
def inFlight (t : ExecutionTables) (profileId : Uuid) : ℕ :=
  t.executions.countP (ExecutionEntry.countsFor profileId)

/-- The count against the limit of the profile. -/
def profileAdmits (t : ExecutionTables) (profile : DeploymentProfileRow) : Except String Unit :=
  match profile.limit with
  | none => .ok ()
  | some (id, limit) =>
      if limit ≤ t.inFlight id then
        .error (s!"deployment profile '{profile.name}' concurrency limit reached "
          ++ s!"({t.inFlight id}/{limit})")
      else .ok ()

/-- The inserted row. -/
def createdRow (t : ExecutionTables) (id : Uuid) (request : CreateRequest)
    (profile : Option DeploymentProfileRow) (outputVerificationRequired : Bool) : ExecutionRow :=
  { uuid := id
    projectModule := request.projectModule
    sources := request.sources
    deploymentProfileSpecSha256 := profile.map (·.specSha256)
    discoverySignature :=
      match t.registry.currentSignatures request.projectModule
          (request.sources.map (·.sourceIdentifier)) with
      | [] => none
      | signatures => some (signatures.map fun entry => (entry.1, entry.2.getD ""))
    workflowManifest := request.automation.map (·.schedulerManifest)
    manifestSha256 := none
    sourceGraphSha256 := none
    patchedGraphSha256 := none
    physicalGraphSha256 := none
    executionPhase := none
    controlPhase := .discovered
    submissionState := .notStarted
    submissionDeadlineAt := none
    submissionAbandonedAt := none
    schedulerName := request.automation.map fun _ => "workflow_auto"
    schedulerJobId := none
    schedulerState := .notSubmitted
    daliugeSessionId := none
    daliugeManagerUrl := none
    daliugeState := .notCreated
    outputState := if outputVerificationRequired then .pending else .notStarted
    outputVerificationRequired := outputVerificationRequired
    remoteSessionDir := none
    terminalOutcome := none
    failureClass := none
    lastError := none
    status := .pending
    retryCount := 0
    createdAt := t.queue.now
    startedAt := none
    completedAt := none }

/-- The execute job of an automated execution. -/
def automatedJob (t : ExecutionTables) (jobId executionId : Uuid) (request : CreateRequest)
    (enqueue : AutomatedExecutionEnqueue) : Except String NewJob :=
  if enqueue.jobPayload.isObject then
    let payload := Json.insert "execution_id" (.str (toString executionId)) enqueue.jobPayload
    let doStage := ((payload.get "do_stage").bind Json.asBool).getD true
    let doSubmit := ((payload.get "do_submit").bind Json.asBool).getD true
    (request.requiredCapabilities doStage doSubmit).map fun requiredCapabilities =>
      { uuid := jobId
        kind := .execute
        payload := payload
        executionId := some executionId
        idempotencyKey := some (executeKey executionId)
        nextRunAt := t.queue.now
        maxAttempts := 3
        pool := enqueue.workerPool
        requiredCapabilities := requiredCapabilities
        requiredLabels := []
        priority := 0 }
  else .error "automated execute job payload must be a JSON object"

/-- The rest of the transaction: the row, and the job of an automated execution. -/
def insertExecution (t : ExecutionTables) (id jobId : Uuid) (request : CreateRequest)
    (profile : Option DeploymentProfileRow) :
    Except String (ExecutionTables × ExecutionEntry × Option NewJob) :=
  match request.outputVerificationRequired with
  | .error error => .error error
  | .ok required =>
      let entry : ExecutionEntry :=
        { deploymentProfileId := profile.map (·.uuid)
          createdById := request.createdById
          createIdempotencyKey := request.idempotencyKey
          createRequestSha256 := request.requestSha256
          row := t.createdRow id request profile required
          artifacts := []
          observations := [] }
      if t.executions.any fun other => other.row.uuid == id || entry.sharesKey other then
        .error "duplicate key value violates unique constraint"
      else
        let inserted := { t with executions := t.executions ++ [entry] }
        match request.automation with
        | none => .ok (inserted, entry, none)
        | some enqueue =>
            match t.automatedJob jobId id request enqueue with
            | .error error => .error error
            | .ok job =>
                match t.queue.insertNewJob job with
                | none => .error "duplicate key value violates unique constraint"
                | some queue => .ok ({ inserted with queue := queue }, entry, some job)

/-- A creation that commits has added its row to the table. -/
theorem insertExecution_cases {t t' : ExecutionTables} {id jobId : Uuid} {request : CreateRequest}
    {profile : Option DeploymentProfileRow} {entry : ExecutionEntry} {job : Option NewJob}
    (h : t.insertExecution id jobId request profile = .ok (t', entry, job)) :
    t'.profiles = t.profiles ∧ t'.executions = t.executions ++ [entry] ∧
      entry.deploymentProfileId = profile.map (·.uuid) ∧ entry.row.status = .pending ∧
      entry.createdById = request.createdById ∧
      entry.createIdempotencyKey = request.idempotencyKey ∧
      entry.createRequestSha256 = request.requestSha256 := by
  unfold insertExecution at h
  split at h
  · cases h
  simp only at h
  split at h
  · cases h
  split at h
  · cases h
    exact ⟨rfl, rfl, rfl, rfl, rfl, rfl, rfl⟩
  split at h
  · cases h
  split at h
  · cases h
  · cases h
    exact ⟨rfl, rfl, rfl, rfl, rfl, rfl, rfl⟩

/-- What a creation inserts is a created row. -/
theorem createdRow_created (t : ExecutionTables) (id : Uuid) (request : CreateRequest)
    (profile : Option DeploymentProfileRow) (required : Bool) :
    Store.CreatedRow (t.createdRow id request profile required) := by
  constructor <;> try rfl
  · cases hauto : request.automation with
    | none => exact .inl (by simp [createdRow, hauto])
    | some enqueue => exact .inr (by simp [createdRow, hauto])
  · exact ⟨rfl, rfl, rfl, rfl⟩

/-! ### The other transactions -/

/-- One execution as the transactions on it see it. -/
def store (t : ExecutionTables) (entry : ExecutionEntry) : Store :=
  { row := entry.row
    artifacts := entry.artifacts
    observations := entry.observations
    registry := t.registry
    queue := t.queue }

/-- A transaction on the execution at a place of the table; rows are never deleted. -/
def call (t : ExecutionTables) (place : ℕ) (ids : FreshIds) (locked : List Uuid)
    (transaction : Tx) : ExecutionTables :=
  match t.executions[place]? with
  | none => t
  | some entry =>
      let s := (t.store entry).step (.call ids locked transaction)
      { t with
        executions :=
          t.executions.set place
            { entry with row := s.row, artifacts := s.artifacts, observations := s.observations }
        registry := s.registry
        queue := s.queue }

end ExecutionTables

/-! ### What brings a finished execution back -/

/-- The transaction brings the execution back after it has finished: a retry that is accepted, or a
ledger patch that takes a failed or not submitted execution up again. -/
def Store.reenters (s : Store) (ids : FreshIds) : Tx → Bool
  | .retryExecution reason requiredCapabilities =>
      (s.retryExecution ids.first reason requiredCapabilities).isOk
  | .applyExecutionPatch patch => decide (s.row.LeavesTerminal patch)
  | _ => false

/-- A receipt brings no execution back. -/
theorem ExecutionRow.recordReceipt_isInFlight {row : ExecutionRow} {input : SubmissionReceiptInput}
    (h : (row.recordReceipt input).status.isInFlight) : row.status.isInFlight := by
  rw [ExecutionStatus.isInFlight_eq] at h ⊢
  cases hterminal : row.status.isTerminal with
  | false => rfl
  | true => simp [recordReceipt, hterminal] at h

/-- A ledger patch brings a finished execution back exactly when it leaves a terminal status. -/
theorem ExecutionRow.applyPatch_isInFlight_iff {row row' : ExecutionRow} {patch : LedgerPatch}
    {now : ℕ} (h : row.applyPatch patch now = .ok row')
    (hfinished : row.status.isInFlight = false) :
    row'.status.isInFlight ↔ row.LeavesTerminal patch := by
  obtain ⟨next, hnext, rfl, -⟩ := applyPatch_cases h
  rw [patched_status]
  unfold LeavesTerminal
  rcases effectiveStatus_cases hnext with ⟨rfl, hnone | hlocked⟩ | ⟨rfl, status, hstatus, hallowed⟩
  · simp [hfinished, hnone]
  · -- a locked status is neither failed nor not submitted
    cases hrow : row.status <;>
      simp_all [ExecutionStatus.isInFlight, ExecutionStatus.isLockedTerminal]
  · cases hrow : row.status <;> cases status <;>
      simp_all [ExecutionStatus.isInFlight, ExecutionStatus.allows]

/-- A ledger patch that leaves a terminal status is accepted. -/
theorem ExecutionRow.applyPatch_of_leavesTerminal {row : ExecutionRow} {patch : LedgerPatch}
    (h : row.LeavesTerminal patch) (now : ℕ) : ∃ row', row.applyPatch patch now = .ok row' := by
  have hnext : row.effectiveStatus patch = .ok patch.status := by
    unfold effectiveStatus
    rcases h with ⟨hrow, hpatch | hpatch⟩ | ⟨hrow, hpatch⟩ <;> rw [hpatch, hrow] <;> decide
  have hstatus : patch.status.getD row.status ≠ .completed := by
    rcases h with ⟨-, hpatch | hpatch⟩ | ⟨-, hpatch⟩ <;> simp [hpatch]
  exact ⟨row.patched patch now patch.status, by simp [applyPatch, hnext, completionGate, hstatus]⟩

/-- A transaction that is neither a retry nor a ledger patch brings no execution back. -/
theorem RowStep.isInFlight {s : Store} {t : Tx} {row' : ExecutionRow} (h : RowStep s t row')
    (hretry : ∀ reason requiredCapabilities, t ≠ .retryExecution reason requiredCapabilities)
    (hpatch : ∀ patch, t ≠ .applyExecutionPatch patch) (hafter : row'.status.isInFlight) :
    s.row.status.isInFlight := by
  have hlive : s.row.status.isTerminal = false → s.row.status.isInFlight := fun hlive => by
    rw [ExecutionStatus.isInFlight_eq, hlive]
    rfl
  cases h with
  | kept hsame => rwa [← hsame.status]
  | patched h => exact absurd rfl (hpatch _)
  | retried h => exact absurd rfl (hretry _ _)
  | reconciled h => exact hlive h
  | received hallowed hgate => exact ExecutionRow.recordReceipt_isInFlight hafter
  | verified haccepted h => exact hlive h
  | cancelled h => cases hafter
  | abandoned h => exact hlive h

/-- What brings a finished execution back has found it finished. -/
theorem Store.isInFlight_of_reenters {s : Store} {ids : FreshIds} {t : Tx}
    (h : s.reenters ids t) (locked : List Uuid) :
    s.row.status.isInFlight = false ∧
      (s.step (.call ids locked t)).row.status.isInFlight := by
  cases t with
  | retryExecution reason requiredCapabilities =>
      cases hretry : s.retryExecution ids.first reason requiredCapabilities with
      | error error => simp [reenters, hretry, Except.isOk, Except.toBool] at h
      | ok outcome =>
          obtain ⟨s', row⟩ := outcome
          have hstep :
              s.step (.call ids locked (.retryExecution reason requiredCapabilities)) = s' := by
            simp only [step, Tx.run, hretry]
          obtain ⟨plan, capabilities, queue, hplan, -, -, rfl, rfl⟩ := retryExecution_cases hretry
          have hfailed : s.row.status = .failed := (planExecutionRetry_ok hplan).1
          rw [hstep, hfailed]
          exact ⟨rfl, rfl⟩
  | applyExecutionPatch patch =>
      have hleaves : s.row.LeavesTerminal patch := of_decide_eq_true h
      have hfinished : s.row.status.isInFlight = false := by
        rcases hleaves with ⟨hrow, -⟩ | ⟨hrow, -⟩ <;> rw [hrow] <;> rfl
      obtain ⟨row', hpatch⟩ := ExecutionRow.applyPatch_of_leavesTerminal hleaves s.now
      have hstep : (s.step (.call ids locked (.applyExecutionPatch patch))).row = row' := by
        simp only [step, Tx.run, applyExecutionPatch, hpatch, Except.map]
      rw [hstep]
      exact ⟨hfinished, (ExecutionRow.applyPatch_isInFlight_iff hpatch hfinished).mpr hleaves⟩
  | _ => cases h

/-- **No other transaction does.** -/
theorem Store.isInFlight_of_step {s : Store} {ids : FreshIds} {locked : List Uuid} {t : Tx}
    (h : s.reenters ids t = false) (hafter : (s.step (.call ids locked t)).row.status.isInFlight) :
    s.row.status.isInFlight := by
  rcases s.step_call ids locked t with hsame | ⟨result, hrun⟩
  · rwa [hsame] at hafter
  by_cases hretry : ∃ reason requiredCapabilities, t = .retryExecution reason requiredCapabilities
  · obtain ⟨reason, requiredCapabilities, rfl⟩ := hretry
    have hok := Tx.run_retryExecution hrun
    simp [reenters, hok, Except.isOk, Except.toBool] at h
  by_cases hpatch : ∃ patch, t = .applyExecutionPatch patch
  · obtain ⟨patch, rfl⟩ := hpatch
    by_contra hfinished
    rw [Bool.not_eq_true] at hfinished
    obtain ⟨hrow, hs'⟩ := applyExecutionPatch_cases (Tx.run_applyExecutionPatch hrun)
    rw [hs'] at hafter
    exact of_decide_eq_false h ((ExecutionRow.applyPatch_isInFlight_iff hrow hfinished).mp hafter)
  · push Not at hretry hpatch
    exact (Tx.run_rowStep hrun).isInFlight hretry hpatch hafter

/-! ### Creators beside everything else -/

/-- How far a process is with a creation. -/
inductive CreatePhase where
  /-- no creation is under way -/
  | idle
  /-- the arguments are checked and the profile is read -/
  | resolved (request : CreateRequest) (profile : Option DeploymentProfileRow)
  /-- the transaction has begun and found no execution under its key -/
  | keyed (request : CreateRequest) (profile : Option DeploymentProfileRow)
  /-- the profile has room -/
  | admitted (request : CreateRequest) (profile : Option DeploymentProfileRow)

namespace CreatePhase

/-- The profile of the creation. -/
def profile : CreatePhase → Option DeploymentProfileRow
  | .idle => none
  | .resolved _ profile | .keyed _ profile | .admitted _ profile => profile

/-- The advisory lock on an idempotency key. -/
def keyLock : CreatePhase → Option (ℕ × String)
  | .keyed request _ | .admitted request _ => request.key
  | .idle | .resolved _ _ => none

/-- The advisory lock on a profile with a limit. -/
def profileLock : CreatePhase → Option Uuid
  | .admitted _ (some profile) => profile.limit.map Prod.fst
  | _ => none

end CreatePhase

/-- The tables and the processes that create executions. -/
structure AdmissionSystem where
  tables : ExecutionTables
  creators : List CreatePhase

/-- A statement of a creation, any other transaction, or what the rest of the program does to the
registry, the queue and the profiles. -/
inductive AdmissionStep where
  | resolve (creator : ℕ) (request : CreateRequest)
  | lockKey (creator : ℕ)
  | countProfile (creator : ℕ)
  | insert (creator : ℕ) (id jobId : Uuid)
  | rollback (creator : ℕ)
  | call (place : ℕ) (ids : FreshIds) (locked : List Uuid) (transaction : Tx)
  | outside (registry : SourceRegistry) (queue : JobQueue)
  | updateProfiles (profiles : List DeploymentProfileRow)

namespace AdmissionSystem

/-- The creator is in another phase. -/
def enter (s : AdmissionSystem) (creator : ℕ) (phase : CreatePhase) : AdmissionSystem :=
  { s with creators := s.creators.set creator phase }

/-- A creation holds the lock of the profile. -/
def profileLocked (s : AdmissionSystem) (profileId : Uuid) : Bool :=
  s.creators.any fun phase => phase.profileLock == some profileId

/-- One step; a statement that waits for a lock does nothing yet, and an error or a replay ends the
creation. -/
def step (s : AdmissionSystem) : AdmissionStep → AdmissionSystem
  | .resolve creator request =>
      match s.creators[creator]? with
      | some .idle =>
          match s.tables.resolveProfile request with
          | .error _ => s
          | .ok profile => s.enter creator (.resolved request profile)
      | _ => s
  | .lockKey creator =>
      match s.creators[creator]? with
      | some (.resolved request profile) =>
          if request.key.isSome && s.creators.any fun phase => phase.keyLock == request.key then s
          else
            match s.tables.replayedExecution request with
            | .ok none => s.enter creator (.keyed request profile)
            | _ => s.enter creator .idle
      | _ => s
  | .countProfile creator =>
      match s.creators[creator]? with
      | some (.keyed request none) => s.enter creator (.admitted request none)
      | some (.keyed request (some profile)) =>
          if profile.limit.any fun limit => s.profileLocked limit.1 then s
          else
            match s.tables.profileAdmits profile with
            | .error _ => s.enter creator .idle
            | .ok _ => s.enter creator (.admitted request (some profile))
      | _ => s
  | .insert creator id jobId =>
      match s.creators[creator]? with
      | some (.admitted request profile) =>
          match s.tables.insertExecution id jobId request profile with
          | .error _ => s.enter creator .idle
          | .ok (tables, _, _) => { s.enter creator .idle with tables := tables }
      | _ => s
  | .rollback creator => s.enter creator .idle
  | .call place ids locked transaction =>
      { s with tables := s.tables.call place ids locked transaction }
  | .outside registry queue =>
      { s with tables := { s.tables with registry := registry, queue := queue } }
  | .updateProfiles profiles => { s with tables := { s.tables with profiles := profiles } }

/-! ### The steps that count one execution more -/

/-- The step commits a creation under the profile. -/
def admits (s : AdmissionSystem) (profileId : Uuid) : AdmissionStep → Bool
  | .insert creator id jobId =>
      match s.creators[creator]? with
      | some (.admitted request (some profile)) =>
          profile.uuid == profileId &&
            (s.tables.insertExecution id jobId request (some profile)).isOk
      | _ => false
  | _ => false

/-- The step brings a finished execution of the profile back. -/
def reenters (s : AdmissionSystem) (profileId : Uuid) : AdmissionStep → Bool
  | .call place ids _ transaction =>
      s.tables.executions[place]?.any fun entry =>
        entry.deploymentProfileId == some profileId &&
          (s.tables.store entry).reenters ids transaction
  | _ => false

end AdmissionSystem

/-! ### How the count of a profile moves -/

namespace ExecutionTables

/-- A transaction counts one execution more exactly when it brings one back. -/
theorem call_inFlight (t : ExecutionTables) (creators : List CreatePhase) (profileId : Uuid)
    (place : ℕ) (ids : FreshIds) (locked : List Uuid) (transaction : Tx) :
    let reenters :=
      AdmissionSystem.reenters ⟨t, creators⟩ profileId (.call place ids locked transaction)
    let after := (t.call place ids locked transaction).inFlight profileId
    (reenters → after = t.inFlight profileId + 1) ∧
      (reenters = false → after ≤ t.inFlight profileId) := by
  intro reenters after
  cases hentry : t.executions[place]? with
  | none =>
      have hsame : after = t.inFlight profileId := by simp only [after, call, hentry]
      simp [reenters, AdmissionSystem.reenters, hentry, hsame]
  | some entry =>
      obtain ⟨hplace, hget⟩ := List.getElem?_eq_some_iff.mp hentry
      have hreenters : reenters = (entry.deploymentProfileId == some profileId &&
          (t.store entry).reenters ids transaction) := by
        simp [reenters, AdmissionSystem.reenters, hentry]
      have hafter : after = t.inFlight profileId -
          (if entry.countsFor profileId then 1 else 0) +
            (if entry.deploymentProfileId == some profileId &&
                ((t.store entry).step (.call ids locked transaction)).row.status.isInFlight then 1
              else 0) := by
        simp only [after, call, hentry, inFlight, List.countP_set hplace, hget]
        rfl
      have hcounted : (if entry.countsFor profileId then 1 else 0) ≤ t.inFlight profileId := by
        rw [← hget]
        exact List.boole_getElem_le_countP hplace
      rw [hreenters]
      unfold ExecutionEntry.countsFor at hafter hcounted
      cases hprofile : entry.deploymentProfileId == some profileId with
      | false =>
          simp only [hprofile, Bool.false_and, Bool.false_eq_true, if_false] at hafter
          refine ⟨fun h => ?_, fun _ => by omega⟩
          cases h
      | true =>
          simp only [hprofile, Bool.true_and] at hafter hcounted ⊢
          constructor
          · intro hback
            obtain ⟨hbefore, hnow⟩ := Store.isInFlight_of_reenters hback locked
            have hbefore' : entry.row.status.isInFlight = false := hbefore
            simp only [hbefore', hnow, Bool.false_eq_true, if_false, if_true] at hafter
            omega
          · intro hnot
            have hkept :
                ((t.store entry).step (.call ids locked transaction)).row.status.isInFlight →
                  entry.row.status.isInFlight := Store.isInFlight_of_step hnot
            split at hafter <;> split at hafter <;> simp_all

/-- A creation that commits counts for its own profile. -/
theorem insertExecution_inFlight {t t' : ExecutionTables} {id jobId : Uuid}
    {request : CreateRequest} {profile : Option DeploymentProfileRow} {entry : ExecutionEntry}
    {job : Option NewJob}
    (h : t.insertExecution id jobId request profile = .ok (t', entry, job)) (profileId : Uuid) :
    t'.inFlight profileId =
      t.inFlight profileId + if profile.map (·.uuid) = some profileId then 1 else 0 := by
  obtain ⟨-, hexecutions, hprofile, hstatus, -⟩ := insertExecution_cases h
  have hcounts : entry.countsFor profileId = (profile.map (·.uuid) == some profileId) := by
    simp [ExecutionEntry.countsFor, hprofile, hstatus, ExecutionStatus.isInFlight]
  rw [inFlight, hexecutions, List.countP_append, List.countP_singleton, hcounts]
  simp only [beq_iff_eq]
  rfl

/-- The profile of a creation is one of the table. -/
theorem resolveProfile_mem {t : ExecutionTables} {request : CreateRequest}
    {profile : DeploymentProfileRow} (h : t.resolveProfile request = .ok (some profile)) :
    profile ∈ t.profiles := by
  unfold resolveProfile at h
  split at h
  · cases h
  split at h
  · cases h
  split at h
  · cases h
  simp only [Except.ok.injEq] at h
  unfold requestedProfile at h
  split at h
  · exact List.mem_of_find?_eq_some h
  · exact (List.mem_filter.mp (firstInOrder_mem h)).1

/-- A profile that admits has room below its limit. -/
theorem inFlight_lt_of_profileAdmits {t : ExecutionTables} {profile : DeploymentProfileRow}
    {admitted : Unit} (h : t.profileAdmits profile = .ok admitted) {limit : ℕ}
    (hlimit : profile.maxConcurrentExecutions = some limit) : t.inFlight profile.uuid < limit := by
  unfold profileAdmits DeploymentProfileRow.limit at h
  simp only [hlimit, Option.map_some] at h
  split at h
  · cases h
  next hroom => exact Nat.lt_of_not_le hroom

end ExecutionTables

/-! ### What a step does -/

namespace AdmissionSystem

/-- Everything a step can do. -/
inductive Move (s : AdmissionSystem) : AdmissionStep → AdmissionSystem → Prop where
  /-- nothing: a lock is waited for, or the step does not apply -/
  | waits {i}
      (hcount : ∀ profileId, s.admits profileId i = false ∧ s.reenters profileId i = false) :
      Move s i s
  /-- a creation goes on without a lock on a profile -/
  | enters {i creator phase}
      (hcount : ∀ profileId, s.admits profileId i = false ∧ s.reenters profileId i = false)
      (hread : ∀ profile, phase.profile = some profile → profile ∈ s.tables.profiles ∨
        ∃ before, s.creators[creator]? = some before ∧ before.profile = some profile)
      (hlock : phase.profileLock = none) : Move s i (s.enter creator phase)
  /-- a creation takes the lock of its profile and has found room -/
  | locks {creator request profile limit}
      (hphase : s.creators[creator]? = some (.keyed request (some profile)))
      (hlimit : profile.maxConcurrentExecutions = some limit)
      (hfree : s.profileLocked profile.uuid = false)
      (hroom : s.tables.inFlight profile.uuid < limit) :
      Move s (.countProfile creator) (s.enter creator (.admitted request (some profile)))
  /-- a creation commits -/
  | inserts {creator id jobId request profile tables entry job}
      (hphase : s.creators[creator]? = some (.admitted request profile))
      (hinsert : s.tables.insertExecution id jobId request profile = .ok (tables, entry, job)) :
      Move s (.insert creator id jobId) { s.enter creator .idle with tables := tables }
  /-- another transaction commits or fails -/
  | calls {place ids locked transaction} :
      Move s (.call place ids locked transaction)
        { s with tables := s.tables.call place ids locked transaction }
  /-- the rest of the program goes on -/
  | goesOn {registry queue} :
      Move s (.outside registry queue)
        { s with tables := { s.tables with registry := registry, queue := queue } }
  | updates {profiles} :
      Move s (.updateProfiles profiles) { s with tables := { s.tables with profiles := profiles } }

theorem step_move (s : AdmissionSystem) (i : AdmissionStep) : s.Move i (s.step i) := by
  cases i with
  | resolve creator request =>
      simp only [step]
      split
      next hphase =>
        split
        · exact .waits fun _ => ⟨rfl, rfl⟩
        next profile hprofile =>
          refine .enters (fun _ => ⟨rfl, rfl⟩) ?_ rfl
          rintro row rfl
          exact .inl (ExecutionTables.resolveProfile_mem hprofile)
      · exact .waits fun _ => ⟨rfl, rfl⟩
  | lockKey creator =>
      simp only [step]
      split
      next request profile hphase =>
        split
        · exact .waits fun _ => ⟨rfl, rfl⟩
        split
        · refine .enters (fun _ => ⟨rfl, rfl⟩) ?_ rfl
          rintro row rfl
          exact .inr ⟨_, hphase, rfl⟩
        · exact .enters (fun _ => ⟨rfl, rfl⟩) (fun _ h => by cases h) rfl
      · exact .waits fun _ => ⟨rfl, rfl⟩
  | countProfile creator =>
      simp only [step]
      split
      next request hphase => exact .enters (fun _ => ⟨rfl, rfl⟩) (fun _ h => by cases h) rfl
      next request profile hphase =>
        split
        · exact .waits fun _ => ⟨rfl, rfl⟩
        next hfree =>
          split
          · exact .enters (fun _ => ⟨rfl, rfl⟩) (fun _ h => by cases h) rfl
          next admitted hadmits =>
            cases hlimit : profile.maxConcurrentExecutions with
            | none =>
                refine .enters (fun _ => ⟨rfl, rfl⟩) ?_ ?_
                · rintro row ⟨⟩
                  exact .inr ⟨_, hphase, rfl⟩
                · simp [CreatePhase.profileLock, DeploymentProfileRow.limit, hlimit]
            | some limit =>
                refine .locks hphase hlimit ?_
                  (ExecutionTables.inFlight_lt_of_profileAdmits hadmits hlimit)
                simpa [DeploymentProfileRow.limit, hlimit] using hfree
      · exact .waits fun _ => ⟨rfl, rfl⟩
  | insert creator id jobId =>
      simp only [step]
      split
      next request profile hphase =>
        split
        next error hinsert =>
          refine .enters (fun profileId => ⟨?_, rfl⟩) (fun _ h => by cases h) rfl
          cases profile with
          | none => simp [admits, hphase]
          | some row => simp [admits, hphase, hinsert, Except.isOk, Except.toBool]
        next tables entry job hinsert => exact .inserts hphase hinsert
      next hphase =>
        refine .waits fun profileId => ⟨?_, rfl⟩
        simp only [admits]
        split
        next request profile hphase' => exact absurd hphase' (hphase request (some profile))
        · rfl
  | rollback creator => exact .enters (fun _ => ⟨rfl, rfl⟩) (fun _ h => by cases h) rfl
  | call place ids locked transaction => exact .calls
  | outside registry queue => exact .goesOn
  | updateProfiles profiles => exact .updates

end AdmissionSystem

/-! ### The lock of a profile -/

/-- The system, and whether an execution of the profile has come back since the creation that holds
the lock of the profile has counted. -/
structure AdmissionHistory where
  system : AdmissionSystem
  reentered : Bool

/-- The step leaves the limit of the profile. -/
def AdmissionStep.KeepsProfile (profileId : Uuid) (limit : ℕ) : AdmissionStep → Prop
  | .updateProfiles profiles => ∀ profile ∈ profiles, profile.uuid = profileId →
      profile.maxConcurrentExecutions = some limit
  | _ => True

namespace AdmissionHistory

/-- One step, recorded. -/
def step (profileId : Uuid) (h : AdmissionHistory) (i : AdmissionStep) : AdmissionHistory :=
  { system := h.system.step i
    reentered :=
      h.system.reenters profileId i || (h.reentered && h.system.profileLocked profileId) }

/-- What comes back finds the profile below its limit, and after that so does the creation that has
counted before. -/
def KeepsLimit (profileId : Uuid) (limit : ℕ) (h : AdmissionHistory) (i : AdmissionStep) : Prop :=
  (h.system.reenters profileId i → h.system.tables.inFlight profileId < limit) ∧
    (h.system.admits profileId i → h.reentered → h.system.tables.inFlight profileId < limit)

instance (profileId : Uuid) (limit : ℕ) (h : AdmissionHistory) (i : AdmissionStep) :
    Decidable (h.KeepsLimit profileId limit i) := inferInstanceAs (Decidable (_ ∧ _))

/-- The limit of the profile is what it was, in the table and wherever a creation has read it; at
most one creation has counted under it, and what it has counted is still free. -/
structure Inv (profileId : Uuid) (limit : ℕ) (h : AdmissionHistory) : Prop where
  profiles : ∀ profile ∈ h.system.tables.profiles, profile.uuid = profileId →
    profile.maxConcurrentExecutions = some limit
  read : ∀ (creator : ℕ) phase, h.system.creators[creator]? = some phase →
    ∀ profile, phase.profile = some profile → profile.uuid = profileId →
      profile.maxConcurrentExecutions = some limit
  exclusive : ∀ (creator creator' : ℕ) phase phase', h.system.creators[creator]? = some phase →
    h.system.creators[creator']? = some phase' → phase.profileLock = some profileId →
      phase'.profileLock = some profileId → creator = creator'
  room : h.reentered = false → h.system.profileLocked profileId →
    h.system.tables.inFlight profileId < limit

end AdmissionHistory

namespace AdmissionSystem

/-- Only one creator is in another phase. -/
theorem phase_of_enter {s : AdmissionSystem} {creator other : ℕ} {phase phase' : CreatePhase}
    (h : (s.enter creator phase).creators[other]? = some phase') :
    other = creator ∧ phase' = phase ∨ s.creators[other]? = some phase' := by
  simp only [enter, List.getElem?_set] at h
  split at h
  next hsame =>
    split at h
    · cases h
      exact .inl ⟨hsame.symm, rfl⟩
    · cases h
  next => exact .inr h

/-- Whoever holds the lock of the profile. -/
theorem profileLocked_iff {s : AdmissionSystem} {profileId : Uuid} :
    s.profileLocked profileId ↔ ∃ (creator : ℕ) (phase : CreatePhase),
      s.creators[creator]? = some phase ∧ phase.profileLock = some profileId := by
  unfold profileLocked
  rw [List.any_eq_true]
  constructor
  · rintro ⟨phase, hphase, hlock⟩
    obtain ⟨creator, hcreator⟩ := List.mem_iff_getElem?.mp hphase
    exact ⟨creator, phase, hcreator, beq_iff_eq.mp hlock⟩
  · rintro ⟨creator, phase, hcreator, hlock⟩
    exact ⟨phase, List.mem_of_getElem? hcreator, beq_iff_eq.mpr hlock⟩

/-- A creator that enters a phase without the lock leaves whoever holds it. -/
theorem profileLocked_of_enter {s : AdmissionSystem} {creator : ℕ} {phase : CreatePhase}
    {profileId : Uuid} (hlock : phase.profileLock ≠ some profileId)
    (h : (s.enter creator phase).profileLocked profileId) : s.profileLocked profileId := by
  obtain ⟨other, phase', hother, hlock'⟩ := profileLocked_iff.mp h
  rcases phase_of_enter hother with ⟨-, rfl⟩ | hold
  · exact absurd hlock' hlock
  · exact profileLocked_iff.mpr ⟨other, phase', hold, hlock'⟩

end AdmissionSystem

namespace AdmissionHistory

namespace Inv

variable {profileId : Uuid} {limit : ℕ} {h : AdmissionHistory}

/-- A creator that enters a phase without the lock. -/
theorem enter (hinv : h.Inv profileId limit) (creator : ℕ) {phase : CreatePhase}
    (hread : ∀ profile, phase.profile = some profile → profile.uuid = profileId →
      profile.maxConcurrentExecutions = some limit)
    (hlock : phase.profileLock ≠ some profileId) {reentered : Bool}
    (hreentered : h.system.profileLocked profileId → h.reentered = reentered) :
    Inv profileId limit ⟨h.system.enter creator phase, reentered⟩ where
  profiles := hinv.profiles
  read other phase' hphase' := by
    rcases AdmissionSystem.phase_of_enter hphase' with ⟨-, rfl⟩ | hold
    · exact hread
    · exact hinv.read other phase' hold
  exclusive other other' phase₁ phase₂ hphase₁ hphase₂ hlock₁ hlock₂ := by
    rcases AdmissionSystem.phase_of_enter hphase₁ with ⟨-, rfl⟩ | hold₁
    · exact absurd hlock₁ hlock
    rcases AdmissionSystem.phase_of_enter hphase₂ with ⟨-, rfl⟩ | hold₂
    · exact absurd hlock₂ hlock
    exact hinv.exclusive other other' phase₁ phase₂ hold₁ hold₂ hlock₁ hlock₂
  room hnot hlocked := by
    have hbefore := AdmissionSystem.profileLocked_of_enter hlock hlocked
    exact hinv.room ((hreentered hbefore).trans hnot) hbefore

/-- A creator that takes the lock after it has found room. -/
theorem lock (hinv : h.Inv profileId limit) (creator : ℕ) {phase : CreatePhase}
    (hread : ∀ profile, phase.profile = some profile → profile.uuid = profileId →
      profile.maxConcurrentExecutions = some limit)
    (hfree : h.system.profileLocked profileId = false)
    (hroom : h.system.tables.inFlight profileId < limit) (reentered : Bool) :
    Inv profileId limit ⟨h.system.enter creator phase, reentered⟩ where
  profiles := hinv.profiles
  read other phase' hphase' := by
    rcases AdmissionSystem.phase_of_enter hphase' with ⟨-, rfl⟩ | hold
    · exact hread
    · exact hinv.read other phase' hold
  exclusive other other' phase₁ phase₂ hphase₁ hphase₂ hlock₁ hlock₂ := by
    -- nobody has held the lock
    have hnone : ∀ (c : ℕ) p, h.system.creators[c]? = some p → p.profileLock ≠ some profileId := by
      intro c p hc hp
      rw [AdmissionSystem.profileLocked_iff.mpr ⟨c, p, hc, hp⟩] at hfree
      cases hfree
    rcases AdmissionSystem.phase_of_enter hphase₁ with ⟨rfl, -⟩ | hold₁
    · rcases AdmissionSystem.phase_of_enter hphase₂ with ⟨rfl, -⟩ | hold₂
      · rfl
      · exact absurd hlock₂ (hnone _ _ hold₂)
    · exact absurd hlock₁ (hnone _ _ hold₁)
  room _ _ := hroom

/-- Other tables in which the profile does not count more. -/
theorem withTables (hinv : h.Inv profileId limit) (tables : ExecutionTables)
    (hprofiles : ∀ profile ∈ tables.profiles, profile.uuid = profileId →
      profile.maxConcurrentExecutions = some limit)
    {reentered : Bool} (hcount : reentered = false → h.system.profileLocked profileId →
      h.reentered = false ∧ tables.inFlight profileId ≤ h.system.tables.inFlight profileId) :
    Inv profileId limit ⟨{ h.system with tables := tables }, reentered⟩ where
  profiles := hprofiles
  read := hinv.read
  exclusive := hinv.exclusive
  room hnot hlocked := by
    obtain ⟨hbefore, hle⟩ := hcount hnot hlocked
    exact lt_of_le_of_lt hle (hinv.room hbefore hlocked)

/-- A creator that holds the lock of the profile is the only one. -/
theorem unlocked (hinv : h.Inv profileId limit) {creator : ℕ} {phase : CreatePhase}
    (hphase : h.system.creators[creator]? = some phase)
    (hlock : phase.profileLock = some profileId) :
    (h.system.enter creator .idle).profileLocked profileId = false := by
  rw [← Bool.not_eq_true, AdmissionSystem.profileLocked_iff]
  rintro ⟨other, phase', hother, hlock'⟩
  have hsame : other = creator := by
    rcases AdmissionSystem.phase_of_enter hother with ⟨rfl, -⟩ | hold
    · rfl
    · exact hinv.exclusive other creator phase' phase hold hphase hlock' hlock
  subst hsame
  simp only [AdmissionSystem.enter, List.getElem?_set] at hother
  split at hother
  · split at hother
    · cases hother
      cases hlock'
    · cases hother
  next hne => exact hne trivial

/-- A creation that may commit under the profile holds its lock. -/
theorem lock_of_admitted (hinv : h.Inv profileId limit) {creator : ℕ} {request : CreateRequest}
    {profile : DeploymentProfileRow}
    (hphase : h.system.creators[creator]? = some (.admitted request (some profile)))
    (huuid : profile.uuid = profileId) :
    (CreatePhase.admitted request (some profile)).profileLock = some profileId := by
  have hlimit := hinv.read creator _ hphase profile rfl huuid
  simp [CreatePhase.profileLock, DeploymentProfileRow.limit, hlimit, huuid]

/-- **Every step keeps what the lock of the profile guards.** -/
theorem of_move (hinv : h.Inv profileId limit) {i : AdmissionStep} {next : AdmissionSystem}
    (hmove : h.system.Move i next) (hi : i.KeepsProfile profileId limit) :
    Inv profileId limit
      ⟨next,
        h.system.reenters profileId i || (h.reentered && h.system.profileLocked profileId)⟩ := by
  -- while the lock is held, a step that brings nothing back leaves the record as it is
  have hkept : h.system.reenters profileId i = false → h.system.profileLocked profileId →
      h.reentered =
        (h.system.reenters profileId i || (h.reentered && h.system.profileLocked profileId)) := by
    intro hreenters hlocked
    simp [hreenters, hlocked]
  cases hmove with
  | waits hcount =>
      refine hinv.withTables _ hinv.profiles fun hnot hlocked => ⟨?_, le_rfl⟩
      exact (hkept (hcount profileId).2 hlocked).trans hnot
  | enters hcount hread hlock =>
      refine hinv.enter _ (fun profile hprofile huuid => ?_) (by simp [hlock])
        (hkept (hcount profileId).2)
      rcases hread profile hprofile with hmem | ⟨before, hbefore, hprofile'⟩
      · exact hinv.profiles profile hmem huuid
      · exact hinv.read _ before hbefore profile hprofile' huuid
  | @locks creator request profile limit' hphase hlimit hfree hroom =>
      have hread : ∀ row, (CreatePhase.admitted request (some profile)).profile = some row →
          row.uuid = profileId → row.maxConcurrentExecutions = some limit := by
        rintro row ⟨⟩ huuid
        exact hinv.read creator _ hphase profile rfl huuid
      by_cases huuid : profile.uuid = profileId
      · rw [hread profile rfl huuid] at hlimit
        cases hlimit
        rw [huuid] at hfree hroom
        exact hinv.lock creator hread hfree hroom _
      · refine hinv.enter creator hread ?_ (hkept rfl)
        simp [CreatePhase.profileLock, DeploymentProfileRow.limit, hlimit, huuid]
  | @inserts creator id jobId request profile tables entry job hphase hinsert =>
      have hidle : Inv profileId limit ⟨h.system.enter creator .idle, _⟩ :=
        hinv.enter creator (fun _ h => by cases h) (by simp [CreatePhase.profileLock]) (hkept rfl)
      have hprofiles := (ExecutionTables.insertExecution_cases hinsert).1
      refine hidle.withTables tables (hprofiles ▸ hinv.profiles) fun hnot hlocked => ⟨hnot, ?_⟩
      rw [ExecutionTables.insertExecution_inFlight hinsert profileId]
      split
      next huuid =>
        -- the creation has held the lock until now, and nobody has taken it since
        obtain ⟨row, rfl, hrow⟩ := Option.map_eq_some_iff.mp huuid
        rw [hinv.unlocked hphase (hinv.lock_of_admitted hphase hrow)] at hlocked
        cases hlocked
      · exact le_rfl
  | @calls place ids locked transaction =>
      have hprofiles : (h.system.tables.call place ids locked transaction).profiles =
          h.system.tables.profiles := by
        unfold ExecutionTables.call
        split <;> rfl
      refine hinv.withTables _ (hprofiles ▸ hinv.profiles) fun hnot hlocked => ?_
      rw [Bool.or_eq_false_iff] at hnot
      exact ⟨by simpa [hlocked] using hnot.2,
        (h.system.tables.call_inFlight h.system.creators _ _ _ _ _).2 hnot.1⟩
  | @goesOn registry queue =>
      refine hinv.withTables { h.system.tables with registry := registry, queue := queue }
        hinv.profiles fun hnot hlocked => ⟨?_, le_rfl⟩
      exact (hkept rfl hlocked).trans hnot
  | @updates profiles =>
      refine hinv.withTables { h.system.tables with profiles := profiles } hi
        fun hnot hlocked => ⟨?_, le_rfl⟩
      exact (hkept rfl hlocked).trans hnot

end Inv

/-- Every step keeps the invariant. -/
theorem Inv.step {profileId : Uuid} {limit : ℕ} {h : AdmissionHistory}
    (hinv : h.Inv profileId limit) {i : AdmissionStep} (hi : i.KeepsProfile profileId limit) :
    Inv profileId limit (h.step profileId i) :=
  hinv.of_move (h.system.step_move i) hi

/-- **One step**: from a state within the limit it stays within it exactly when it keeps it. -/
theorem inFlight_step_le_iff {profileId : Uuid} {limit : ℕ} {h : AdmissionHistory}
    (hinv : h.Inv profileId limit) (hle : h.system.tables.inFlight profileId ≤ limit)
    (i : AdmissionStep) :
    (h.step profileId i).system.tables.inFlight profileId ≤ limit ↔
      h.KeepsLimit profileId limit i := by
  have hmove := h.system.step_move i
  unfold KeepsLimit AdmissionHistory.step
  simp only
  generalize h.system.step i = next at hmove
  have hquiet : h.system.admits profileId i = false → h.system.reenters profileId i = false →
      next.tables.inFlight profileId ≤ h.system.tables.inFlight profileId →
      (next.tables.inFlight profileId ≤ limit ↔
        (h.system.reenters profileId i → h.system.tables.inFlight profileId < limit) ∧
          (h.system.admits profileId i → h.reentered →
            h.system.tables.inFlight profileId < limit)) := by
    intro hadmits hreenters hcount
    simp [hadmits, hreenters, hcount.trans hle]
  cases hmove with
  | waits hcount => exact hquiet (hcount profileId).1 (hcount profileId).2 le_rfl
  | enters hcount hread hlock => exact hquiet (hcount profileId).1 (hcount profileId).2 le_rfl
  | locks hphase hlimit hfree hroom => exact hquiet rfl rfl le_rfl
  | goesOn => exact hquiet rfl rfl le_rfl
  | updates => exact hquiet rfl rfl le_rfl
  | @calls place ids locked transaction =>
      obtain ⟨hback, hother⟩ := h.system.tables.call_inFlight h.system.creators profileId place ids
        locked transaction
      cases hreenters : h.system.reenters profileId (.call place ids locked transaction) with
      | false =>
          rw [← hreenters]
          exact hquiet rfl hreenters (hother hreenters)
      | true =>
          have hcount := hback hreenters
          simp only [AdmissionSystem.admits, Bool.false_eq_true, false_implies, and_true,
            forall_const, hcount]
          exact Nat.succ_le_iff
  | @inserts creator id jobId request profile tables entry job hphase hinsert =>
      have hcount := ExecutionTables.insertExecution_inFlight hinsert profileId
      by_cases huuid : profile.map (·.uuid) = some profileId
      · obtain ⟨row, rfl, hrow⟩ := Option.map_eq_some_iff.mp huuid
        rw [if_pos huuid] at hcount
        have hadmits : h.system.admits profileId (.insert creator id jobId) = true := by
          simp [AdmissionSystem.admits, hphase, hrow, hinsert, Except.isOk, Except.toBool]
        have hlocked : h.system.profileLocked profileId = true :=
          AdmissionSystem.profileLocked_iff.mpr
            ⟨creator, _, hphase, hinv.lock_of_admitted hphase hrow⟩
        -- unless something came back, the room that was counted is still there
        have hroom : h.reentered = false → h.system.tables.inFlight profileId < limit :=
          fun hnot => hinv.room hnot hlocked
        rw [hcount, hadmits]
        simp only [AdmissionSystem.reenters, Bool.false_eq_true, false_implies, true_and,
          forall_const]
        cases hreentered : h.reentered with
        | false => simpa [Nat.succ_le_iff] using hroom hreentered
        | true =>
            refine ⟨fun hmore _ => Nat.succ_le_iff.mp hmore, fun hless => ?_⟩
            exact Nat.succ_le_iff.mpr (hless rfl)
      · rw [if_neg huuid, Nat.add_zero] at hcount
        refine hquiet ?_ rfl hcount.le
        cases profile with
        | none => simp [AdmissionSystem.admits, hphase]
        | some row =>
            have hne : row.uuid ≠ profileId := fun hrow => huuid (congrArg some hrow)
            simp [AdmissionSystem.admits, hphase, hne]

end AdmissionHistory

/-! ### The limit over runs -/

/-- **When the limit of a profile holds in every state.**  While the limit is left alone, it holds
throughout a run exactly when each execution that comes back finds the profile below its limit, and
so does each creation that had counted before. -/
theorem profile_limit_iff {profileId : Uuid} {limit : ℕ} {s : AdmissionSystem}
    (hidle : ∀ phase ∈ s.creators, phase = .idle)
    (hprofiles : ∀ profile ∈ s.tables.profiles, profile.uuid = profileId →
      profile.maxConcurrentExecutions = some limit)
    (hle : s.tables.inFlight profileId ≤ limit) {steps : List AdmissionStep}
    (hunchanged : ∀ i ∈ steps, i.KeepsProfile profileId limit) :
    Runs.Meets AdmissionSystem.step (fun s i => (s.step i).tables.inFlight profileId ≤ limit) s
        steps ↔
      Runs.Meets (AdmissionHistory.step profileId)
        (fun h i => h.KeepsLimit profileId limit i) ⟨s, false⟩ steps := by
  have hstart : AdmissionHistory.Inv profileId limit ⟨s, false⟩ := by
    refine ⟨hprofiles, fun creator phase hphase profile hprofile _ => ?_,
      fun creator creator' phase phase' hphase _ hlock => ?_, fun _ hlocked => ?_⟩
    · rw [hidle phase (List.mem_of_getElem? hphase)] at hprofile
      cases hprofile
    · rw [hidle phase (List.mem_of_getElem? hphase)] at hlock
      cases hlock
    · obtain ⟨creator, phase, hphase, hlock⟩ := AdmissionSystem.profileLocked_iff.mp hlocked
      rw [hidle phase (List.mem_of_getElem? hphase)] at hlock
      cases hlock
  calc Runs.Meets AdmissionSystem.step (fun s i => (s.step i).tables.inFlight profileId ≤ limit) s
        steps
      ↔ Runs.Meets (AdmissionHistory.step profileId)
          (fun h i => (h.system.step i).tables.inFlight profileId ≤ limit) ⟨s, false⟩ steps :=
        (Runs.meets_map (s := ⟨s, false⟩) AdmissionHistory.system (fun _ _ => rfl)
          (D := fun s i => (s.step i).tables.inFlight profileId ≤ limit)).symm
    _ ↔ Runs.Meets (AdmissionHistory.step profileId)
          (fun h i => h.KeepsLimit profileId limit i) ⟨s, false⟩ steps :=
        Runs.meets_reached_iff_of_meets (AdmissionHistory.Inv profileId limit)
          (A := fun _ i => i.KeepsProfile profileId limit)
          (P := fun h => h.system.tables.inFlight profileId ≤ limit)
          (fun _ _ hinv hi => hinv.step hi)
          (fun _ i hinv _ hle => AdmissionHistory.inFlight_step_le_iff hinv hle i) hstart
          (Runs.meets_of_forall hunchanged) hle

/-! ### A retry over the limit -/

/-- A request under the default profile. -/
def sampleRequest : CreateRequest :=
  { projectModule := "survey"
    sources := [⟨"S1", none⟩]
    deploymentProfileId := none
    createdById := none
    idempotencyKey := none
    requestSha256 := none
    outputVerificationRequired := .ok false
    automation := none
    requiredCapabilities := fun _ _ => .ok [] }

/-- One profile for one execution at a time, and one creator. -/
def limitedSystem : AdmissionSystem :=
  { tables :=
      { profiles := [⟨5, "dlg-dim", none, true, some 1, "sha", 0⟩]
        executions := []
        registry := sampleStore.registry
        queue := { sampleStore.queue with jobs := [] } }
    creators := [.idle] }

/-- The statements of one creation. -/
def creation (id jobId : Uuid) : List AdmissionStep :=
  [.resolve 0 sampleRequest, .lockKey 0, .countProfile 0, .insert 0 id jobId]

/-- The first execution fails. -/
def failing : AdmissionStep := .call 0 {} [] (.applyExecutionPatch { status := some .failed })

/-- The first execution is retried. -/
def retrying : AdmissionStep :=
  .call 0 ⟨13, 0, 0⟩ [] (.retryExecution "again" fun _ => .ok [])

/-- A retry that finds the profile idle keeps its limit. -/
theorem profile_limit_retried :
    Runs.Meets AdmissionSystem.step (fun s i => (s.step i).tables.inFlight 5 ≤ 1) limitedSystem
      (creation 1 11 ++ [failing, retrying]) := by
  refine (profile_limit_iff (by simp [limitedSystem]) (by decide) (by decide) ?_).mpr
    (by decide +kernel)
  simp [creation, failing, retrying, AdmissionStep.KeepsProfile]

/-- When a second execution has taken the place of the first one, the retry exceeds the limit: it
does not count. -/
theorem retry_exceeds_limit :
    (∀ i ∈ creation 1 11 ++ failing :: creation 2 12 ++ [retrying], i.KeepsProfile 5 1) ∧
      ¬Runs.Meets AdmissionSystem.step (fun s i => (s.step i).tables.inFlight 5 ≤ 1) limitedSystem
        (creation 1 11 ++ failing :: creation 2 12 ++ [retrying]) := by
  refine ⟨?_, by decide +kernel⟩
  simp [creation, failing, retrying, AdmissionStep.KeepsProfile]

end Beampipe
