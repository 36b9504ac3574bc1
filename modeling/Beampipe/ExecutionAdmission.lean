/-
The tick of the execution scheduler.

A tick looks at each active project with automation: while the limits on executions leave room and
enough sources are pending, it claims pending sources under a token, cuts them into chunks, creates
one execution with its job for the ready sources of a chunk, and at the end clears the pending flag
of the sources it has put into executions and releases the claim.  Between two statements of a tick
any number of other transactions happen, and a statement can fail, so a tick is a program over the
answers it gets.

A tick that dies leaves its claim behind, which runs out.  A pending flag goes only with a source
that is in a committed execution, or that the tick has read as executed already.

Main definitions:

* `Beampipe.ExecutionAutomationPolicy`, `Beampipe.ExecutionSchedulerConfig` — what a tick is told;
* `Beampipe.AdmissionRequest` — the statements of a tick;
* `Beampipe.scheduleProjectExecutions`, `Beampipe.runExecutionSchedulerTick` — the tick;
* `Beampipe.AdmissionBooks` — what a tick knows from its answers;
* `Beampipe.AdmissionBooks.Fits`, `Beampipe.AdmissionSettled` — what it does with it;
* `Beampipe.admissionSystem` — ticks side by side over the tables, beside all other transactions.

Main results:

* `Beampipe.schedule_wp` — one project, whatever the answers are;
* `Beampipe.tick_settles` — **a tick that returns has put every source of its claim into at most one
  execution, has cleared those and released the claim**;
* `Beampipe.pending_taken_after_admission` — **in every run a tick takes the pending flag of a source
  only after the source is in an execution it has committed, or was executed when it looked**.
-/

import Beampipe.ProfileAdmission
import Beampipe.Programs
import Beampipe.DiscoveryPersistence

set_option relaxedAutoImplicit false
set_option autoImplicit false

namespace Beampipe

open Programs

/-! ### Chunks -/

/-- `slice::chunks`, with at least as much fuel as there are elements. -/
def chunksWithin {α : Type} (size : ℕ) : ℕ → List α → List (List α)
  | 0, _ => []
  | _ + 1, [] => []
  | fuel + 1, x :: xs => (x :: xs).take size :: chunksWithin size fuel ((x :: xs).drop size)

/-- `slice::chunks`. -/
def chunks {α : Type} (size : ℕ) (xs : List α) : List (List α) := chunksWithin size xs.length xs

/-- Chunks of a positive size lose nothing. -/
theorem flatten_chunksWithin {α : Type} {size : ℕ} (hsize : 0 < size) :
    ∀ (fuel : ℕ) (xs : List α), xs.length ≤ fuel → (chunksWithin size fuel xs).flatten = xs := by
  intro fuel
  induction fuel with
  | zero =>
      intro xs hlength
      rw [List.length_eq_zero_iff.mp (by omega : xs.length = 0)]
      rfl
  | succ fuel ih =>
      intro xs hlength
      cases xs with
      | nil => rfl
      | cons x xs =>
          have hrest : ((x :: xs).drop size).length ≤ fuel := by
            rw [List.length_drop, List.length_cons]
            rw [List.length_cons] at hlength
            omega
          rw [chunksWithin, List.flatten_cons, ih _ hrest, List.take_append_drop]

theorem flatten_chunks {α : Type} {size : ℕ} (hsize : 0 < size) (xs : List α) :
    (chunks size xs).flatten = xs :=
  flatten_chunksWithin hsize xs.length xs le_rfl

theorem length_of_mem_chunksWithin {α : Type} {size : ℕ} {chunk : List α} :
    ∀ (fuel : ℕ) (xs : List α), chunk ∈ chunksWithin size fuel xs → chunk.length ≤ size := by
  intro fuel
  induction fuel with
  | zero =>
      intro xs hchunk
      cases hchunk
  | succ fuel ih =>
      intro xs hchunk
      cases xs with
      | nil => cases hchunk
      | cons x xs =>
          rw [chunksWithin] at hchunk
          rcases List.mem_cons.mp hchunk with rfl | hrest
          · rw [List.length_take]
            omega
          · exact ih _ hrest

/-- A chunk is no longer than the size. -/
theorem length_of_mem_chunks {α : Type} {size : ℕ} {chunk xs : List α}
    (hchunk : chunk ∈ chunks size xs) : chunk.length ≤ size :=
  length_of_mem_chunksWithin xs.length xs hchunk

/-! ### What a tick is told -/

/-- `ExecutionAutomationPolicy`. -/
structure ExecutionAutomationPolicy where
  enabled : Bool := false
  maxSourcesPerExecution : ℤ := 20
  tickExecutionSourceLimit : ℤ := 500
  tickExecutionRunLimit : ℤ := 20
  minSourcesToTrigger : ℤ := 1
  maxWaitMinutes : ℤ := 1440
  claimTtlMinutes : ℤ := 180
  concurrentExecutionRunLimit : Option ℤ := none
  deploymentProfileName : Option String := none
  deriving DecidableEq, Repr

/-- The part of `WorkerConfig` that the tick reads. -/
structure ExecutionSchedulerConfig where
  pool : String
  executionGlobalInFlightLimit : Option ℤ
  executionQueueMaxDepth : Option ℤ
  deriving DecidableEq, Repr

/-- An active project configuration, as far as the tick uses it: its key, its policy, and what a
creation that pins it takes from it. -/
structure ActiveProjectConfig where
  uuid : Uuid
  projectId : String
  policy : ExecutionAutomationPolicy
  outputVerificationRequired : Except String Bool
  requiredCapabilities : Bool → Bool → Except String (List String)

/-- `can_admit_by_in_flight`. -/
def canAdmitByInFlight (current cap : ℤ) : Bool := current < cap

/-- `execute_admission_budget`. -/
def executeAdmissionBudget (desiredRuns : ℤ) : ℤ := max desiredRuns 0

/-- `i64::saturating_mul`. -/
def saturatingMul (a b : ℤ) : ℤ := max (-9223372036854775808) (min 9223372036854775807 (a * b))

/-- An error of `sqlx`: one that the program makes itself, or one of the database. -/
inductive SqlxError where
  | protocol (message : String)
  | database (message : String)
  deriving DecidableEq, Repr

/-! ### The statements of a tick -/

/-- What a tick asks for.  A creation is three of them: the profile is read, then the transaction
counts its executions, and then it inserts the row with the job. -/
inductive AdmissionRequest where
  | activeProjectConfigs (projectModule : Option String)
  | newTickCorrelationId
  | countAutoInFlightForModule (projectModule : String)
  | countExecuteInFlightRuns
  | queueDepth
  | getWorkflowPendingStats (projectModule : String)
  | utcNow
  | getDeploymentProfileByName (name : String)
  | getDefaultDeploymentProfile (projectModule : String)
  | countInFlightForProfile (profileId : Uuid)
  | claimPendingSourcesForWorkflowRun (projectModule : String) (limit leaseTtlMinutes : ℤ)
  | selectSourceRegistry (projectModule : String) (sources : List String)
  | listArchiveMetadataForSources (projectModule : String) (sources : List String)
  | clearWorkflowPendingForSources (projectModule : String) (sources : List String)
  | getActiveProjectConfig (projectModule : String)
  | resolveProfile (request : CreateRequest)
  | admitProfile (profile : Option DeploymentProfileRow)
  | insertExecution (request : CreateRequest) (profile : Option DeploymentProfileRow)
  | releaseWorkflowClaim (projectModule : String) (sources : List String) (claimToken : String)

/-- What a request is answered with. -/
abbrev AdmissionRequest.Answer : AdmissionRequest → Type
  | .activeProjectConfigs _ => List ActiveProjectConfig
  | .newTickCorrelationId => String
  | .countAutoInFlightForModule _ | .countExecuteInFlightRuns | .countInFlightForProfile _ => ℤ
  | .queueDepth => ℤ
  | .getWorkflowPendingStats _ => ℤ × Option ℤ
  | .utcNow => ℤ
  | .getDeploymentProfileByName _ | .getDefaultDeploymentProfile _ => Option DeploymentProfileRow
  | .claimPendingSourcesForWorkflowRun _ _ _ => Option (String × List String)
  | .selectSourceRegistry _ _ => List SourceRegistryRow
  | .listArchiveMetadataForSources _ _ => List ArchiveMetadataRow
  | .clearWorkflowPendingForSources _ _ => Unit
  | .getActiveProjectConfig _ => Option ActiveProjectConfig
  | .resolveProfile _ => Option DeploymentProfileRow
  | .admitProfile _ => Unit
  | .insertExecution _ _ => Uuid
  | .releaseWorkflowClaim _ _ _ => Unit

/-- The answer, or the error of the database. -/
abbrev AdmissionRequest.Resp (r : AdmissionRequest) : Type := Except SqlxError r.Answer

/-- A tick, or a part of it. -/
abbrev Admission (α : Type) : Type := Prog AdmissionRequest AdmissionRequest.Resp SqlxError α

/-- One request and what it gets. -/
abbrev AdmissionEvent : Type := (r : AdmissionRequest) × r.Resp

namespace Admission

/-- A request whose error ends the tick. -/
def ask (r : AdmissionRequest) : Admission r.Answer := Prog.call r >>= Prog.ofExcept

/-- A request whose error is a value. -/
def answer (r : AdmissionRequest) : Admission r.Resp := Prog.call r

/-- The executions under way are as many as the cap. -/
def inFlightFull (cap : Option ℤ) (count : Admission ℤ) : Admission Bool :=
  match cap with
  | none => pure false
  | some cap => do
      let current ← count
      pure (!canAdmitByInFlight current cap)

/-- The queue is as deep as it may be. -/
def queueFull (maxDepth : Option ℤ) (depth : Admission ℤ) : Admission Bool :=
  match maxDepth with
  | none => pure false
  | some maxDepth => do
      let depth ← depth
      pure (decide (maxDepth ≤ depth))

/-- The runs that a cap leaves, and whether the tick goes on. -/
def withinCap (runLimit : ℤ) (cap : Option ℤ) (count : Admission ℤ) : Admission (ℤ × Bool) :=
  match cap with
  | none => pure (runLimit, true)
  | some cap => do
      let current ← count
      let runLimit := min runLimit (max (cap - current) 0)
      pure (runLimit, decide (0 < runLimit))

/-- `clear_workflow_pending_for_sources`. -/
def clearPending (projectModule : String) (sources : List String) : Admission Unit :=
  if sources.isEmpty then pure () else ask (.clearWorkflowPendingForSources projectModule sources)

/-- `release_workflow_claim`. -/
def releaseClaim (projectModule : String) (sources : List String) (claimToken : String) :
    Admission Unit :=
  if sources.isEmpty || claimToken.isEmpty then pure ()
  else ask (.releaseWorkflowClaim projectModule sources claimToken)

/-- `claim_pending_sources_for_workflow_run`. -/
def claimPending (projectModule : String) (limit leaseTtlMinutes : ℤ) :
    Admission (Option (String × List String)) :=
  if limit ≤ 0 then pure none
  else ask (.claimPendingSourcesForWorkflowRun projectModule limit leaseTtlMinutes)

end Admission

/-- The source was executed for its discovery signature. -/
def SourceRegistryRow.alreadyExecuted (row : SourceRegistryRow) : Bool :=
  row.discoverySignature.isSome && row.discoverySignature == row.lastExecutedDiscoverySignature

/-- Why a source is not admitted, according to the rows that were read. -/
def SourceRegistry.skipReason (read : SourceRegistry) (projectModule sid : String) :
    Option String :=
  if (read.find projectModule sid).any SourceRegistryRow.alreadyExecuted then
    some "already executed for current discovery signature"
  else read.parsedSourceReadinessError projectModule ⟨sid, none⟩

/-- `partition_sources_ready_for_execution`: the sources to admit, and the others with the reason.
The sources that are executed already are not pending any more. -/
def partitionSourcesReadyForExecution (projectModule : String) (sources : List String) :
    Admission (List String × List (String × String)) :=
  if sources.isEmpty then pure ([], [])
  else do
    let rows ← Admission.ask (.selectSourceRegistry projectModule sources)
    let archive ← Admission.ask (.listArchiveMetadataForSources projectModule sources)
    let read : SourceRegistry := ⟨rows, archive⟩
    Admission.clearPending projectModule <| sources.filter fun sid =>
      (read.find projectModule sid).any SourceRegistryRow.alreadyExecuted
    pure (sources.filter fun sid => (read.skipReason projectModule sid).isNone,
      sources.filterMap fun sid =>
        (read.skipReason projectModule sid).map fun reason => (sid, reason))

/-- The manifest with the decision of the scheduler. -/
def schedulerManifest (claimToken : String) (admitted : ℕ) (depth : ℤ) : Json :=
  .obj [("beampipe_run_record", .obj [("scheduler", .obj [
    ("policy_decision", .str "admitted"),
    ("claim_token", .str claimToken),
    ("admitted_source_count", .num (.int admitted)),
    ("queue_depth", .num (.int depth))])])]

/-- `create_automated_execution_and_enqueue`; it has no idempotency key. -/
def createAutomatedExecutionAndEnqueue (request : CreateRequest) : Admission Uuid := do
  let profile ← Admission.ask (.resolveProfile request)
  Admission.ask (.admitProfile profile)
  Admission.ask (.insertExecution request profile)

/-- What the executions of a tick share. -/
structure AdmissionScope where
  projectModule : String
  claimToken : String
  runLimit : ℤ
  deploymentProfileId : Option Uuid
  tickCorrelation : String
  workerPool : String
  deriving DecidableEq, Repr

/-- The creation for the ready sources of a chunk. -/
def AdmissionScope.request (scope : AdmissionScope) (valid : List String) (depth : ℤ)
    (config : Option ActiveProjectConfig) : CreateRequest where
  projectModule := scope.projectModule
  sources := valid.map fun sid => ⟨sid, none⟩
  deploymentProfileId := scope.deploymentProfileId
  createdById := none
  idempotencyKey := none
  requestSha256 := none
  outputVerificationRequired :=
    (config.map ActiveProjectConfig.outputVerificationRequired).getD (.ok false)
  automation := some
    { schedulerManifest := schedulerManifest scope.claimToken valid.length depth
      jobPayload := .obj [("correlation_id", .str scope.tickCorrelation)]
      workerPool := scope.workerPool }
  requiredCapabilities :=
    (config.map ActiveProjectConfig.requiredCapabilities).getD fun _ _ => .ok []

/-- `queue_depth(pool).await.unwrap_or_default()`. -/
def queueDepthOr (depth : AdmissionRequest.queueDepth.Resp) : ℤ :=
  match depth with
  | .ok depth => depth
  | .error _ => 0

/-- The chunks of a claim in order, with the executions created so far and their sources.  A limit on
the profile ends the loop, any other error the tick. -/
def admitChunks (scope : AdmissionScope) :
    ℕ → List String → List (List String) → Admission (List String)
  | _, admitted, [] => pure admitted
  | created, admitted, chunk :: rest =>
      if scope.runLimit ≤ created then pure admitted
      else do
        let (valid, _) ← partitionSourcesReadyForExecution scope.projectModule chunk
        if valid.isEmpty then admitChunks scope created admitted rest
        else
          let config ← Admission.ask (.getActiveProjectConfig scope.projectModule)
          let depth ← Admission.answer .queueDepth
          let request := scope.request valid (queueDepthOr depth) config
          match ← (createAutomatedExecutionAndEnqueue request).attempt with
          | .ok _ => admitChunks scope (created + 1) (admitted ++ valid) rest
          | .error (.protocol message) =>
              if containsText message "concurrency limit reached" then pure admitted
              else .throw (.protocol message)
          | .error (.database message) => .throw (.database message)

/-- The profile of the policy, or the default one of the project. -/
def policyProfile (projectModule : String) (policy : ExecutionAutomationPolicy) :
    Admission (Option DeploymentProfileRow) :=
  match policy.deploymentProfileName with
  | some name => Admission.ask (.getDeploymentProfileByName name)
  | none => Admission.ask (.getDefaultDeploymentProfile projectModule)

/-- Enough sources are pending, or the oldest has waited long enough. -/
def triggered (policy : ExecutionAutomationPolicy) (pending : ℤ) (oldest : Option ℤ) (now : ℤ) :
    Bool :=
  (oldest.any fun oldest => oldest ≤ now - policy.maxWaitMinutes * 60000000) ||
    decide (policy.minSourcesToTrigger ≤ pending)

/-- The claim of a tick with so many runs left, and what follows from it. -/
def admitClaim (config : ExecutionSchedulerConfig) (projectModule tickCorrelation : String)
    (policy : ExecutionAutomationPolicy) (deploymentProfileId : Option Uuid) (runLimit : ℤ) :
    Admission Unit := do
  let sourceClaimLimit := min policy.tickExecutionSourceLimit
    (saturatingMul runLimit policy.maxSourcesPerExecution)
  match ← Admission.claimPending projectModule sourceClaimLimit policy.claimTtlMinutes with
  | none => pure ()
  | some (claimToken, pendingSources) =>
      let scope : AdmissionScope :=
        { projectModule := projectModule
          claimToken := claimToken
          runLimit := runLimit
          deploymentProfileId := deploymentProfileId
          tickCorrelation := tickCorrelation
          workerPool := config.pool }
      let admitted ← admitChunks scope 0 []
        (chunks policy.maxSourcesPerExecution.toNat pendingSources)
      Admission.clearPending projectModule admitted
      Admission.releaseClaim projectModule pendingSources claimToken

/-- The runs that the caps leave once enough sources are pending, and the claim for them. -/
def admitWithinCaps (config : ExecutionSchedulerConfig) (projectModule tickCorrelation : String)
    (policy : ExecutionAutomationPolicy) (profile : Option DeploymentProfileRow) :
    Admission Unit := do
  let (runLimit, goesOn) ← Admission.withinCap policy.tickExecutionRunLimit
    policy.concurrentExecutionRunLimit (Admission.ask (.countAutoInFlightForModule projectModule))
  if !goesOn then pure ()
  else
    let (runLimit, goesOn) ← Admission.withinCap runLimit config.executionGlobalInFlightLimit
      (Admission.ask .countExecuteInFlightRuns)
    if !goesOn then pure ()
    else
      let limit := profile.bind DeploymentProfileRow.limit
      let (runLimit, goesOn) ← Admission.withinCap runLimit
        (limit.map fun limit => (limit.2 : ℤ))
        (Admission.ask (.countInFlightForProfile ((limit.map Prod.fst).getD 0)))
      if !goesOn then pure ()
      else
        let runLimit := executeAdmissionBudget runLimit
        if runLimit ≤ 0 then pure ()
        else
          admitClaim config projectModule tickCorrelation policy
            (profile.map DeploymentProfileRow.uuid) runLimit

/-- `schedule_project_executions`. -/
def scheduleProjectExecutions (config : ExecutionSchedulerConfig) (projectModule : String)
    (policy : ExecutionAutomationPolicy) : Admission Unit := do
  let tickCorrelation ← Admission.ask .newTickCorrelationId
  if ← Admission.inFlightFull policy.concurrentExecutionRunLimit
      (Admission.ask (.countAutoInFlightForModule projectModule)) then pure ()
  else if ← Admission.inFlightFull config.executionGlobalInFlightLimit
      (Admission.ask .countExecuteInFlightRuns) then pure ()
  else if ← Admission.queueFull config.executionQueueMaxDepth (Admission.ask .queueDepth) then
    pure ()
  else
    let (pending, oldest) ← Admission.ask (.getWorkflowPendingStats projectModule)
    if pending ≤ 0 then pure ()
    else
      let now ← Admission.ask .utcNow
      if !triggered policy pending oldest now then pure ()
      else
        let profile ← policyProfile projectModule policy
        admitWithinCaps config projectModule tickCorrelation policy profile

/-- The projects of a tick in order; an error ends it. -/
def scheduleProjects (config : ExecutionSchedulerConfig) :
    List ActiveProjectConfig → Admission Unit
  | [] => pure ()
  | projectConfig :: rest =>
      if !projectConfig.policy.enabled then scheduleProjects config rest
      else do
        scheduleProjectExecutions config projectConfig.projectId projectConfig.policy
        scheduleProjects config rest

/-- `run_execution_scheduler_tick`. -/
def runExecutionSchedulerTick (config : ExecutionSchedulerConfig) (payload : Json) :
    Admission Unit := do
  let requestedModule := (payload.get "project_module").bind Json.asStr
  let configs ← Admission.ask (.activeProjectConfigs requestedModule)
  scheduleProjects config configs

/-! ### The books of a tick -/

/-- The profile a tick has read, and the counts it has asked for last. -/
structure AdmissionCounts where
  profile : Option DeploymentProfileRow := none
  moduleCount : Option ℤ := none
  globalCount : Option ℤ := none
  profileCount : Option ℤ := none
  deriving DecidableEq, Repr

/-- The claim of a tick. -/
structure AdmissionClaim where
  projectModule : String
  claimToken : String
  sources : List String
  deriving DecidableEq, Repr

/-- What a tick knows about the project at hand: the counts, its claim, which sources it has read as
executed, the executions it has created with their sources, and what it has cleared and released. -/
structure AdmissionBooks where
  counts : AdmissionCounts := {}
  claim : Option AdmissionClaim := none
  executed : List String := []
  created : List (Uuid × List String) := []
  cleared : List String := []
  released : Bool := false
  deriving DecidableEq, Repr

/-- The sources of a creation. -/
def CreateRequest.sourceIdentifiers (request : CreateRequest) : List String :=
  request.sources.map (·.sourceIdentifier)

/-- The entry of a created execution. -/
def CreateRequest.entry (request : CreateRequest) (id : Uuid) : Uuid × List String :=
  (id, request.sourceIdentifiers)

/-- The sources that the rows say are executed. -/
def executedSources (projectModule : String) (sources : List String)
    (rows : List SourceRegistryRow) : List String :=
  sources.filter fun sid =>
    ((⟨rows, []⟩ : SourceRegistry).find projectModule sid).any SourceRegistryRow.alreadyExecuted

namespace AdmissionBooks

/-- The sources of the executions. -/
def admitted (books : AdmissionBooks) : List String := books.created.flatMap Prod.snd

/-- The books after an answer.  A new correlation opens new ones. -/
def learn (books : AdmissionBooks) : (r : AdmissionRequest) → r.Resp → AdmissionBooks
  | .newTickCorrelationId, _ => {}
  | .countAutoInFlightForModule _, .ok count =>
      { books with counts := { books.counts with moduleCount := some count } }
  | .countExecuteInFlightRuns, .ok count =>
      { books with counts := { books.counts with globalCount := some count } }
  | .countInFlightForProfile _, .ok count =>
      { books with counts := { books.counts with profileCount := some count } }
  | .getDeploymentProfileByName _, .ok profile | .getDefaultDeploymentProfile _, .ok profile =>
      { books with counts := { books.counts with profile := profile } }
  | .claimPendingSourcesForWorkflowRun projectModule _ _, .ok (some (claimToken, sources)) =>
      { books with claim := some ⟨projectModule, claimToken, sources⟩ }
  | .selectSourceRegistry projectModule sources, .ok rows =>
      { books with executed := books.executed ++ executedSources projectModule sources rows }
  | .clearWorkflowPendingForSources _ sources, .ok _ =>
      { books with cleared := books.cleared ++ sources }
  | .insertExecution request _, .ok id =>
      { books with created := books.created ++ [request.entry id] }
  | .releaseWorkflowClaim _ _ _, .ok _ => { books with released := true }
  | _, _ => books

/-- No claim yet. -/
structure Fresh (books : AdmissionBooks) : Prop where
  claim : books.claim = none
  executed : books.executed = []
  created : books.created = []
  cleared : books.cleared = []
  released : books.released = false

/-- A request that fits the books.  A claim is the first one.  An execution is created for claimed
sources that no earlier one has, a flag is cleared for sources in an execution or executed already,
and the claim is released after that. -/
def Fits (books : AdmissionBooks) : AdmissionRequest → Prop
  | .claimPendingSourcesForWorkflowRun _ limit _ => books.Fresh ∧ 0 < limit
  | .insertExecution request _ =>
      ∃ claim, books.claim = some claim ∧ request.projectModule = claim.projectModule ∧
        (books.admitted ++ request.sourceIdentifiers).Sublist claim.sources
  | .selectSourceRegistry projectModule _ =>
      ∃ claim, books.claim = some claim ∧ projectModule = claim.projectModule
  | .clearWorkflowPendingForSources projectModule sources =>
      ∃ claim, books.claim = some claim ∧ projectModule = claim.projectModule ∧
        ((∀ sid ∈ sources, sid ∈ books.admitted) ∨ ∀ sid ∈ sources, sid ∈ books.executed)
  | .releaseWorkflowClaim projectModule sources claimToken =>
      books.claim = some ⟨projectModule, claimToken, sources⟩ ∧
        ∀ sid ∈ books.admitted, sid ∈ books.cleared
  | _ => True

end AdmissionBooks

/-! ### What holds when a tick is done -/

/-- A cap leaves room for so many runs, according to the last count. -/
def LeavesRoom (cap count : Option ℤ) (runs : ℤ) : Prop :=
  ∀ cap', cap = some cap' → ∃ current, count = some current ∧ runs ≤ cap' - current

/-- The limits of the tick leave room for so many runs. -/
structure AdmissionRoom (config : ExecutionSchedulerConfig) (policy : ExecutionAutomationPolicy)
    (counts : AdmissionCounts) (runs : ℤ) : Prop where
  tick : runs ≤ policy.tickExecutionRunLimit
  project : LeavesRoom policy.concurrentExecutionRunLimit counts.moduleCount runs
  global : LeavesRoom config.executionGlobalInFlightLimit counts.globalCount runs
  profile : LeavesRoom ((counts.profile.bind DeploymentProfileRow.limit).map fun limit =>
    (limit.2 : ℤ)) counts.profileCount runs

/-- What a tick has created at any time: as many executions as its limits leave room for, none of
them empty or larger than the policy says, and no claimed source in two of them. -/
structure AdmissionBounded (config : ExecutionSchedulerConfig)
    (policy : ExecutionAutomationPolicy) (books : AdmissionBooks) : Prop where
  room : books.created ≠ [] → AdmissionRoom config policy books.counts books.created.length
  sizes : ∀ execution ∈ books.created,
    execution.2 ≠ [] ∧ (execution.2.length : ℤ) ≤ policy.maxSourcesPerExecution
  sources : ∀ claim, books.claim = some claim → books.admitted.Sublist claim.sources
  idle : books.claim = none → books.created = []

/-- What a tick that returns has done: the sources it has put into executions are not pending, nor
are some that were executed already, and its claim is released. -/
structure AdmissionSettled (config : ExecutionSchedulerConfig)
    (policy : ExecutionAutomationPolicy) (books : AdmissionBooks) : Prop where
  bounded : AdmissionBounded config policy books
  cleared : ∀ sid ∈ books.admitted, sid ∈ books.cleared
  only : ∀ sid ∈ books.cleared, sid ∈ books.admitted ∨ sid ∈ books.executed
  released : ∀ claim, books.claim = some claim →
    books.released ∨ claim.sources = [] ∨ claim.claimToken = ""

/-! ### The books along a tick -/

section Wp

variable {config : ExecutionSchedulerConfig} {policy : ExecutionAutomationPolicy}
  {books : AdmissionBooks} {α : Type}

/-- What a part of a tick does to the books: it ends in `Q`, or with an error in `E`. -/
abbrev AdmissionWp (p : Admission α) (Q : α → AdmissionBooks → Prop)
    (E : AdmissionBooks → Prop) (books : AdmissionBooks) : Prop :=
  p.wp AdmissionBooks.learn AdmissionBooks.Fits Q (fun _ => E) books

/-- A request: it fits, and both its answer and its error are accounted for. -/
theorem wp_ask {r : AdmissionRequest} {Q : r.Answer → AdmissionBooks → Prop}
    {E : AdmissionBooks → Prop} (hfits : books.Fits r)
    (hok : ∀ answer, Q answer (books.learn r (.ok answer)))
    (herror : ∀ error, E (books.learn r (.error error))) :
    AdmissionWp (Admission.ask r) Q E books := by
  refine ⟨hfits, fun answer => ?_⟩
  cases answer with
  | ok answer => exact hok answer
  | error error => exact herror error

/-- A request whose error is a value. -/
theorem wp_answer {r : AdmissionRequest} {Q : r.Resp → AdmissionBooks → Prop}
    {E : AdmissionBooks → Prop} (hfits : books.Fits r)
    (hanswer : ∀ answer, Q answer (books.learn r answer)) :
    AdmissionWp (Admission.answer r) Q E books :=
  ⟨hfits, hanswer⟩

/-- A cap that is looked at changes nothing but the counts. -/
theorem wp_inFlightFull {cap : Option ℤ} {count : Admission ℤ} {K E : AdmissionBooks → Prop}
    (hcount : AdmissionWp count (fun _ => K) E books) (hbooks : K books) :
    AdmissionWp (Admission.inFlightFull cap count) (fun _ => K) E books := by
  cases cap with
  | none => exact hbooks
  | some cap => exact Prog.wp_bind hcount fun current books' hK => hK

theorem wp_queueFull {maxDepth : Option ℤ} {depth : Admission ℤ} {K E : AdmissionBooks → Prop}
    (hdepth : AdmissionWp depth (fun _ => K) E books) (hbooks : K books) :
    AdmissionWp (Admission.queueFull maxDepth depth) (fun _ => K) E books := by
  cases maxDepth with
  | none => exact hbooks
  | some maxDepth => exact Prog.wp_bind hdepth fun depth books' hK => hK

/-- The runs within a cap. -/
theorem wp_withinCap {runLimit : ℤ} {cap : Option ℤ} {count : Admission ℤ}
    {Q : ℤ → AdmissionBooks → Prop} {E : AdmissionBooks → Prop}
    (hnone : cap = none → Q runLimit books)
    (hcount : ∀ cap', cap = some cap' → AdmissionWp count
      (fun current => Q (min runLimit (max (cap' - current) 0))) E books) :
    AdmissionWp (Admission.withinCap runLimit cap count) (fun out => Q out.1) E books := by
  cases cap with
  | none => exact hnone rfl
  | some cap => exact Prog.wp_bind (hcount cap rfl) fun current books' hQ => hQ

/-- Sources that may be cleared are; an empty list is no request. -/
theorem wp_clearPending {projectModule : String} {sources : List String}
    {Q : Unit → AdmissionBooks → Prop} {E : AdmissionBooks → Prop}
    (hfits : books.Fits (.clearWorkflowPendingForSources projectModule sources))
    (hempty : sources = [] → Q () books)
    (hcleared : Q () { books with cleared := books.cleared ++ sources }) (hE : E books) :
    AdmissionWp (Admission.clearPending projectModule sources) Q E books := by
  cases sources with
  | nil => exact hempty rfl
  | cons sid sources =>
      exact wp_ask (r := .clearWorkflowPendingForSources projectModule (sid :: sources)) hfits
        (fun _ => hcleared) fun _ => hE

/-- A claim of nothing is no request. -/
theorem wp_claimPending {projectModule : String} {limit leaseTtlMinutes : ℤ}
    {Q : Option (String × List String) → AdmissionBooks → Prop} {E : AdmissionBooks → Prop}
    (hfresh : books.Fresh) (hnone : Q none books)
    (hsome : 0 < limit → ∀ claimToken sources, Q (some (claimToken, sources))
      { books with claim := some ⟨projectModule, claimToken, sources⟩ }) (hE : E books) :
    AdmissionWp (Admission.claimPending projectModule limit leaseTtlMinutes) Q E books := by
  unfold Admission.claimPending
  by_cases hlimit : limit ≤ 0
  · rw [if_pos hlimit]
    exact hnone
  · rw [if_neg hlimit]
    have hpositive : 0 < limit := by omega
    refine wp_ask (r := .claimPendingSourcesForWorkflowRun projectModule limit leaseTtlMinutes)
      ⟨hfresh, hpositive⟩ (fun answer => ?_) fun _ => hE
    cases answer with
    | none => exact hnone
    | some claimed => exact hsome hpositive claimed.1 claimed.2

/-- A claim of nothing is not released either. -/
theorem wp_releaseClaim {projectModule claimToken : String} {sources : List String}
    {Q : Unit → AdmissionBooks → Prop} {E : AdmissionBooks → Prop}
    (hfits : books.Fits (.releaseWorkflowClaim projectModule sources claimToken))
    (hempty : sources = [] ∨ claimToken = "" → Q () books)
    (hreleased : Q () { books with released := true }) (hE : E books) :
    AdmissionWp (Admission.releaseClaim projectModule sources claimToken) Q E books := by
  unfold Admission.releaseClaim
  by_cases hnothing : (sources.isEmpty || claimToken.isEmpty) = true
  · rw [if_pos hnothing]
    exact hempty (by simpa using hnothing)
  · rw [if_neg hnothing]
    exact wp_ask (r := .releaseWorkflowClaim projectModule sources claimToken) hfits
      (fun _ => hreleased) fun _ => hE

end Wp

/-! ### What reading does to the books -/

/-- The second books differ in what was read and cleared: more sources are known to be executed, and
only those were cleared. -/
structure AdmissionBooks.Reads (books books' : AdmissionBooks) : Prop where
  counts : books'.counts = books.counts
  claim : books'.claim = books.claim
  created : books'.created = books.created
  executed : ∀ sid ∈ books.executed, sid ∈ books'.executed
  cleared : ∀ sid ∈ books'.cleared, sid ∈ books.cleared ∨ sid ∈ books'.executed

namespace AdmissionBooks.Reads

variable {books books' books'' : AdmissionBooks}

theorem refl (books : AdmissionBooks) : books.Reads books :=
  ⟨rfl, rfl, rfl, fun _ h => h, fun _ h => .inl h⟩

theorem trans (h : books.Reads books') (h' : books'.Reads books'') : books.Reads books'' where
  counts := h'.counts.trans h.counts
  claim := h'.claim.trans h.claim
  created := h'.created.trans h.created
  executed := fun sid hsid => h'.executed sid (h.executed sid hsid)
  cleared := fun sid hsid => by
    rcases h'.cleared sid hsid with hbefore | hread
    · exact (h.cleared sid hbefore).imp_right (h'.executed sid)
    · exact .inr hread

end AdmissionBooks.Reads

/-- A partition admits sources of the chunk, and it clears only what it has read as executed. -/
theorem wp_partition {projectModule : String} {sources : List String} {books : AdmissionBooks}
    {claim : AdmissionClaim} (hclaim : books.claim = some claim)
    (hmodule : projectModule = claim.projectModule) {E : AdmissionBooks → Prop}
    (hE : ∀ books', books.Reads books' → E books') :
    AdmissionWp (partitionSourcesReadyForExecution projectModule sources)
      (fun out books' => books.Reads books' ∧ out.1.Sublist sources) E books := by
  unfold partitionSourcesReadyForExecution
  split
  · exact ⟨.refl books, List.nil_sublist _⟩
  refine Prog.wp_bind (R := fun rows books' => books.Reads books' ∧
    ∀ sid ∈ executedSources projectModule sources rows, sid ∈ books'.executed)
    (wp_ask (r := .selectSourceRegistry projectModule sources) ⟨claim, hclaim, hmodule⟩
      (fun rows => ?_) fun error => hE _ (.refl books)) fun rows books₁ h₁ => ?_
  · refine ⟨⟨rfl, rfl, rfl, fun sid h => List.mem_append_left _ h, fun sid h => .inl h⟩, ?_⟩
    exact fun sid h => List.mem_append_right _ h
  refine Prog.wp_bind (R := fun _ books' => books' = books₁)
    (wp_ask trivial (fun archive => rfl) fun error => hE _ h₁.1) fun archive books₂ h₂ => ?_
  subst h₂
  refine Prog.wp_bind (R := fun _ => books.Reads) ?_ fun _ books₃ h₃ =>
    ⟨h₃, List.filter_sublist⟩
  refine wp_clearPending ⟨claim, h₁.1.claim.trans hclaim, hmodule, .inr h₁.2⟩ (fun _ => h₁.1) ?_
    (hE _ h₁.1)
  refine h₁.1.trans ⟨rfl, rfl, rfl, fun _ h => h, fun sid h => ?_⟩
  rcases List.mem_append.mp h with hbefore | hnew
  · exact .inl hbefore
  · exact .inr (h₁.2 sid hnew)

/-- A creation that fits adds its execution to the books, or leaves them alone. -/
theorem wp_create {request : CreateRequest} {books : AdmissionBooks}
    (hfits : ∀ profile, books.Fits (.insertExecution request profile))
    {E : AdmissionBooks → Prop} :
    AdmissionWp (createAutomatedExecutionAndEnqueue request).attempt
      (fun out books' => match out with
        | .ok id => books' = { books with created := books.created ++ [request.entry id] }
        | .error _ => books' = books) E books := by
  refine Prog.wp_attempt ?_
  show AdmissionWp (createAutomatedExecutionAndEnqueue request)
    (fun id books' => books' = { books with created := books.created ++ [request.entry id] })
    (fun books' => books' = books) books
  refine Prog.wp_bind (R := fun _ books' => books' = books)
    (wp_ask (r := .resolveProfile request) trivial (fun _ => rfl) fun _ => rfl)
    fun profile books' h => ?_
  subst h
  refine Prog.wp_bind (R := fun _ books'' => books'' = books')
    (wp_ask (r := .admitProfile profile) trivial (fun _ => rfl) fun _ => rfl) fun _ books'' h => ?_
  subst h
  exact wp_ask (hfits profile) (fun _ => rfl) fun _ => rfl

/-! ### The chunks of a claim -/

/-- Inside the loop over the chunks: the executions created so far, and what is left of the claim. -/
structure Admitting (config : ExecutionSchedulerConfig) (policy : ExecutionAutomationPolicy)
    (scope : AdmissionScope) (sources : List String) (created : ℕ) (admitted : List String)
    (rest : List (List String)) (books : AdmissionBooks) : Prop where
  claim : books.claim = some ⟨scope.projectModule, scope.claimToken, sources⟩
  taken : books.admitted = admitted
  count : books.created.length = created
  within : (created : ℤ) ≤ scope.runLimit
  room : AdmissionRoom config policy books.counts scope.runLimit
  sizes : ∀ execution ∈ books.created,
    execution.2 ≠ [] ∧ (execution.2.length : ℤ) ≤ policy.maxSourcesPerExecution
  sublist : (admitted ++ rest.flatten).Sublist sources
  only : ∀ sid ∈ books.cleared, sid ∈ books.executed

/-- Room for some runs is room for fewer. -/
theorem AdmissionRoom.mono {config : ExecutionSchedulerConfig}
    {policy : ExecutionAutomationPolicy} {counts : AdmissionCounts} {runs runs' : ℤ}
    (h : AdmissionRoom config policy counts runs) (hle : runs' ≤ runs) :
    AdmissionRoom config policy counts runs' := by
  have hroom : ∀ {cap count}, LeavesRoom cap count runs → LeavesRoom cap count runs' := by
    intro cap count hcap cap' heq
    obtain ⟨current, hcount, hruns⟩ := hcap cap' heq
    exact ⟨current, hcount, hle.trans hruns⟩
  exact ⟨hle.trans h.tick, hroom h.project, hroom h.global, hroom h.profile⟩

namespace Admitting

variable {config : ExecutionSchedulerConfig} {policy : ExecutionAutomationPolicy}
  {scope : AdmissionScope} {sources admitted : List String} {created : ℕ}
  {chunk : List String} {rest : List (List String)} {books books' : AdmissionBooks}

theorem bounded (h : Admitting config policy scope sources created admitted rest books) :
    AdmissionBounded config policy books where
  room := fun _ => h.room.mono (h.count ▸ h.within)
  sizes := h.sizes
  sources := fun claim hclaim => by
    obtain rfl := Option.some.inj (h.claim.symm.trans hclaim)
    rw [h.taken]
    exact (List.sublist_append_left _ _).trans h.sublist
  idle := fun hnone => by simp [h.claim] at hnone

/-- Reading changes neither the executions nor the claim. -/
theorem of_reads (h : Admitting config policy scope sources created admitted rest books)
    (hreads : books.Reads books') :
    Admitting config policy scope sources created admitted rest books' where
  claim := hreads.claim.trans h.claim
  taken := by rw [AdmissionBooks.admitted, hreads.created, ← h.taken, AdmissionBooks.admitted]
  count := hreads.created ▸ h.count
  within := h.within
  room := hreads.counts ▸ h.room
  sizes := hreads.created ▸ h.sizes
  sublist := h.sublist
  only := fun sid hsid => by
    rcases hreads.cleared sid hsid with hbefore | hread
    · exact hreads.executed sid (h.only sid hbefore)
    · exact hread

/-- A chunk without ready sources is passed over; the loop may also end before a chunk. -/
theorem skip (h : Admitting config policy scope sources created admitted (chunk :: rest) books) :
    Admitting config policy scope sources created admitted rest books :=
  { h with
    sublist := by
      refine List.Sublist.trans ?_ h.sublist
      rw [List.flatten_cons]
      exact List.Sublist.append (List.Sublist.refl _) (List.sublist_append_right _ _) }

theorem stop (h : Admitting config policy scope sources created admitted rest books) :
    Admitting config policy scope sources created admitted [] books :=
  { h with
    sublist := by
      refine List.Sublist.trans ?_ h.sublist
      rw [List.flatten_nil]
      exact List.Sublist.append (List.Sublist.refl _) (List.nil_sublist _) }

/-- A chunk with ready sources adds its execution. -/
theorem create {valid : List String} {request : CreateRequest} {id : Uuid}
    (h : Admitting config policy scope sources created admitted (chunk :: rest) books)
    (hrequest : request.sourceIdentifiers = valid) (hvalid : valid.Sublist chunk)
    (hne : valid ≠ []) (hsize : (chunk.length : ℤ) ≤ policy.maxSourcesPerExecution)
    (hlimit : (created : ℤ) < scope.runLimit) :
    Admitting config policy scope sources (created + 1) (admitted ++ valid) rest
      { books with created := books.created ++ [request.entry id] } where
  claim := h.claim
  taken := by
    rw [← h.taken, ← hrequest, AdmissionBooks.admitted, List.flatMap_append]
    simp [AdmissionBooks.admitted, CreateRequest.entry]
  count := by rw [List.length_append, h.count, List.length_singleton]
  within := by push_cast; omega
  room := h.room
  sizes := by
    intro execution hmem
    rcases List.mem_append.mp hmem with hold | hnew
    · exact h.sizes execution hold
    · have hlength := hvalid.length_le
      obtain rfl := List.mem_singleton.mp hnew
      rw [CreateRequest.entry, hrequest]
      refine ⟨hne, ?_⟩
      show (valid.length : ℤ) ≤ policy.maxSourcesPerExecution
      omega
  sublist := by
    refine List.Sublist.trans ?_ h.sublist
    rw [List.flatten_cons, List.append_assoc]
    exact (List.Sublist.refl _).append (hvalid.append (List.Sublist.refl _))
  only := h.only

end Admitting

/-- The loop over the chunks. -/
theorem wp_admitChunks {config : ExecutionSchedulerConfig} {policy : ExecutionAutomationPolicy}
    {scope : AdmissionScope} {sources : List String} :
    ∀ (rest : List (List String)) (created : ℕ) (admitted : List String) (books : AdmissionBooks),
      (∀ chunk ∈ rest, (chunk.length : ℤ) ≤ policy.maxSourcesPerExecution) →
      Admitting config policy scope sources created admitted rest books →
      AdmissionWp (admitChunks scope created admitted rest)
        (fun admitted' books' => ∃ created', Admitting config policy scope sources created' admitted'
          [] books') (AdmissionBounded config policy) books := by
  intro rest
  induction rest with
  | nil =>
      intro created admitted books _ h
      exact ⟨created, h⟩
  | cons chunk rest ih =>
      intro created admitted books hsizes h
      have hrest : ∀ chunk ∈ rest, (chunk.length : ℤ) ≤ policy.maxSourcesPerExecution :=
        fun chunk hchunk => hsizes chunk (List.mem_cons_of_mem _ hchunk)
      rw [admitChunks]
      by_cases hlimit : scope.runLimit ≤ created
      · rw [if_pos hlimit]
        exact ⟨created, h.stop⟩
      rw [if_neg hlimit]
      refine Prog.wp_bind (wp_partition h.claim rfl fun books' hreads =>
        (h.of_reads hreads).bounded) fun out books₁ hout => ?_
      obtain ⟨valid, skipped⟩ := out
      obtain ⟨hreads, hvalid⟩ := hout
      have h₁ := h.of_reads hreads
      by_cases hempty : valid.isEmpty
      · simp only [hempty, if_true]
        exact ih created admitted books₁ hrest h₁.skip
      simp only [hempty, Bool.false_eq_true, if_false]
      have hne : valid ≠ [] := fun heq => hempty (by rw [heq]; rfl)
      refine Prog.wp_bind (R := fun _ books' => books' = books₁) (wp_ask trivial (fun _ => rfl)
        fun _ => h₁.bounded) fun projectConfig books₂ h₂ => ?_
      subst h₂
      refine Prog.wp_bind (R := fun _ books' => books' = books₂) (wp_answer trivial fun answer => ?_)
        fun depth books₃ h₃ => ?_
      · cases answer <;> rfl
      subst h₃
      have hrequest : (scope.request valid (queueDepthOr depth) projectConfig).sourceIdentifiers =
          valid := by
        simp [CreateRequest.sourceIdentifiers, AdmissionScope.request, Function.comp_def]
      refine Prog.wp_bind (wp_create fun profile => ⟨_, h₁.claim, rfl, ?_⟩)
        fun out books₄ hout => ?_
      · -- the ready sources come right behind those that are admitted
        rw [hrequest, h₁.taken]
        refine List.Sublist.trans ?_ h₁.sublist
        rw [List.flatten_cons]
        exact (List.Sublist.refl _).append (hvalid.trans (List.sublist_append_left _ _))
      cases out with
      | ok id =>
          obtain rfl := hout
          exact ih (created + 1) (admitted ++ valid) _ hrest
            (h₁.create hrequest hvalid hne (hsizes chunk List.mem_cons_self) (by omega))
      | error error =>
          obtain rfl := hout
          cases error with
          | protocol message =>
              simp only
              split
              · exact ⟨created, h₁.stop⟩
              · exact h₁.bounded
          | database message => exact h₁.bounded

/-! ### One project -/

/-- Nothing is created without a claim. -/
theorem AdmissionBounded.of_fresh {config : ExecutionSchedulerConfig}
    {policy : ExecutionAutomationPolicy} {books : AdmissionBooks} (h : books.Fresh) :
    AdmissionBounded config policy books where
  room := fun hne => absurd h.created hne
  sizes := by simp [h.created]
  sources := fun claim hclaim => by simp [h.claim] at hclaim
  idle := fun _ => h.created

theorem AdmissionSettled.of_fresh {config : ExecutionSchedulerConfig}
    {policy : ExecutionAutomationPolicy} {books : AdmissionBooks} (h : books.Fresh) :
    AdmissionSettled config policy books where
  bounded := .of_fresh h
  cleared := by simp [AdmissionBooks.admitted, h.created]
  only := by simp [h.cleared]
  released := fun claim hclaim => by simp [h.claim] at hclaim

/-- A product that is positive has a positive second factor. -/
theorem pos_of_saturatingMul {a b : ℤ} (ha : 0 < a) (h : 0 < saturatingMul a b) : 0 < b := by
  have hproduct : 0 < a * b := by
    unfold saturatingMul at h
    omega
  exact Int.pos_of_mul_pos_right hproduct ha

section Project

variable {config : ExecutionSchedulerConfig} {policy : ExecutionAutomationPolicy}
  {books : AdmissionBooks} {projectModule tickCorrelation : String}

/-- After the loop: the flags are cleared and the claim is released. -/
theorem wp_finish {scope : AdmissionScope} {sources admitted : List String} {created : ℕ}
    (h : Admitting config policy scope sources created admitted [] books) :
    AdmissionWp (do
        Admission.clearPending scope.projectModule admitted
        Admission.releaseClaim scope.projectModule sources scope.claimToken)
      (fun _ => AdmissionSettled config policy) (AdmissionBounded config policy) books := by
  -- what the books say once the admitted sources are cleared
  let Cleared (books' : AdmissionBooks) : Prop :=
    Admitting config policy scope sources created admitted [] { books' with cleared := [] } ∧
      (∀ sid ∈ admitted, sid ∈ books'.cleared) ∧
      ∀ sid ∈ books'.cleared, sid ∈ admitted ∨ sid ∈ books'.executed
  have hsettled : ∀ books', Cleared books' →
      (books'.released ∨ sources = [] ∨ scope.claimToken = "") →
      AdmissionSettled config policy books' := by
    rintro books' ⟨hadmitting, hcleared, honly⟩ hreleased
    have hbounded := hadmitting.bounded
    have htaken : books'.admitted = admitted := hadmitting.taken
    refine ⟨⟨hbounded.room, hbounded.sizes, hbounded.sources, hbounded.idle⟩, ?_, ?_, ?_⟩
    · rwa [htaken]
    · rwa [htaken]
    · intro claim hclaim
      obtain rfl := Option.some.inj (hadmitting.claim.symm.trans hclaim)
      exact hreleased
  refine Prog.wp_bind (R := fun _ => Cleared) ?_ fun _ books' hcleared => ?_
  · refine wp_clearPending ⟨_, h.claim, rfl, .inl fun sid hsid => h.taken ▸ hsid⟩ ?_ ?_ h.bounded
    · rintro rfl
      refine ⟨{ h with only := by simp }, by simp, fun sid hsid => .inr (h.only sid hsid)⟩
    · refine ⟨{ h with only := by simp }, fun sid hsid => List.mem_append_right _ hsid, ?_⟩
      intro sid hsid
      rcases List.mem_append.mp hsid with hbefore | hnew
      · exact .inr (h.only sid hbefore)
      · exact .inl hnew
  · refine wp_releaseClaim ⟨hcleared.1.claim, ?_⟩ (fun hempty => ?_) ?_ ?_
    · have htaken : books'.admitted = admitted := hcleared.1.taken
      rw [htaken]
      exact hcleared.2.1
    · exact hsettled books' hcleared (.inr hempty)
    · exact hsettled { books' with released := true } ⟨{ hcleared.1 with }, hcleared.2⟩ (.inl rfl)
    · have hbounded := hcleared.1.bounded
      exact ⟨hbounded.room, hbounded.sizes, hbounded.sources, hbounded.idle⟩

/-- A claim and what follows from it. -/
theorem wp_admitClaim {deploymentProfileId : Option Uuid} {runLimit : ℤ} (hfresh : books.Fresh)
    (hpositive : 0 < runLimit) (hroom : AdmissionRoom config policy books.counts runLimit) :
    AdmissionWp
      (admitClaim config projectModule tickCorrelation policy deploymentProfileId runLimit)
      (fun _ => AdmissionSettled config policy) (AdmissionBounded config policy) books := by
  unfold admitClaim
  dsimp only
  refine Prog.wp_bind (R := fun claimed books' => (claimed = none ∧ books' = books) ∨
      ∃ claimToken sources, claimed = some (claimToken, sources) ∧
        0 < policy.maxSourcesPerExecution ∧
        books' = { books with claim := some ⟨projectModule, claimToken, sources⟩ })
    (wp_claimPending hfresh (.inl ⟨rfl, rfl⟩) (fun hlimit claimToken sources => ?_)
      (.of_fresh hfresh)) fun claimed books' hclaimed => ?_
  · exact .inr ⟨claimToken, sources, rfl, pos_of_saturatingMul hpositive (by omega), rfl⟩
  rcases hclaimed with ⟨rfl, rfl⟩ | ⟨claimToken, sources, rfl, hmax, rfl⟩
  · exact .of_fresh hfresh
  · have hstart : Admitting config policy
        { projectModule := projectModule
          claimToken := claimToken
          runLimit := runLimit
          deploymentProfileId := deploymentProfileId
          tickCorrelation := tickCorrelation
          workerPool := config.pool } sources 0 []
        (chunks policy.maxSourcesPerExecution.toNat sources)
        { books with claim := some ⟨projectModule, claimToken, sources⟩ } :=
      { claim := rfl
        taken := by simp [AdmissionBooks.admitted, hfresh.created]
        count := by simp [hfresh.created]
        within := by simpa using hpositive.le
        room := hroom
        sizes := by simp [hfresh.created]
        sublist := by rw [List.nil_append, flatten_chunks (by omega)]
        only := by simp [hfresh.cleared] }
    refine Prog.wp_bind (wp_admitChunks _ 0 [] _ (fun chunk hchunk => ?_) hstart)
      fun admitted books' h => ?_
    · have hlength := length_of_mem_chunks hchunk
      omega
    · obtain ⟨created, h⟩ := h
      exact wp_finish h

/-- Runs within a cap, when there are any. -/
theorem leavesRoom_of_count {cap current runLimit runs : ℤ} {count : Option ℤ}
    (hcount : count = some current) (hwithin : runs ≤ min runLimit (max (cap - current) 0))
    (hpositive : 0 < runs) : LeavesRoom (some cap) count runs := by
  intro cap' heq
  obtain rfl := Option.some.inj heq
  exact ⟨current, hcount, by omega⟩

theorem leavesRoom_none {count : Option ℤ} {runs : ℤ} : LeavesRoom none count runs :=
  fun _ h => by cases h

/-- The caps are counted one after the other, and the runs fit all of them. -/
theorem wp_admitWithinCaps {profile : Option DeploymentProfileRow} (hfresh : books.Fresh)
    (hprofile : books.counts.profile = profile) :
    AdmissionWp (admitWithinCaps config projectModule tickCorrelation policy profile)
      (fun _ => AdmissionSettled config policy) (AdmissionBounded config policy) books := by
  -- what is known after each count: the runs that are left fit the caps counted so far
  let First (runLimit : ℤ) (b : AdmissionBooks) : Prop := b.Fresh ∧ b.counts.profile = profile ∧
    runLimit ≤ policy.tickExecutionRunLimit ∧ ∀ runs, 0 < runs → runs ≤ runLimit →
      LeavesRoom policy.concurrentExecutionRunLimit b.counts.moduleCount runs
  let Second (runLimit : ℤ) (b : AdmissionBooks) : Prop := First runLimit b ∧
    ∀ runs, 0 < runs → runs ≤ runLimit →
      LeavesRoom config.executionGlobalInFlightLimit b.counts.globalCount runs
  let Third (runLimit : ℤ) (b : AdmissionBooks) : Prop := Second runLimit b ∧
    ∀ runs, 0 < runs → runs ≤ runLimit →
      LeavesRoom ((profile.bind DeploymentProfileRow.limit).map fun limit => (limit.2 : ℤ))
        b.counts.profileCount runs
  unfold admitWithinCaps
  refine Prog.wp_bind (R := fun out => First out.1) (wp_withinCap (Q := First) ?_ ?_)
    fun out books₁ h₁ => ?_
  · intro hcap
    refine ⟨hfresh, hprofile, le_rfl, fun runs _ _ => ?_⟩
    rw [hcap]
    exact leavesRoom_none
  · intro cap hcap
    refine wp_ask (r := .countAutoInFlightForModule projectModule) trivial (fun current => ?_)
      fun _ => .of_fresh hfresh
    refine ⟨{ hfresh with }, hprofile, min_le_left _ _, fun runs hpositive hwithin => ?_⟩
    rw [hcap]
    exact leavesRoom_of_count rfl hwithin hpositive
  obtain ⟨runLimit₁, goesOn⟩ := out
  dsimp only at h₁ ⊢
  by_cases hgoes : goesOn
  swap
  · simp only [hgoes, Bool.not_false, if_true]
    exact .of_fresh h₁.1
  simp only [hgoes, Bool.not_true, Bool.false_eq_true, if_false]
  refine Prog.wp_bind (R := fun out => Second out.1) (wp_withinCap (Q := Second) ?_ ?_)
    fun out books₂ h₂ => ?_
  · intro hcap
    refine ⟨h₁, fun runs _ _ => ?_⟩
    rw [hcap]
    exact leavesRoom_none
  · intro cap hcap
    refine wp_ask (r := .countExecuteInFlightRuns) trivial (fun current => ?_)
      fun _ => .of_fresh h₁.1
    refine ⟨⟨{ h₁.1 with }, h₁.2.1, (min_le_left _ _).trans h₁.2.2.1, fun runs hpositive hwithin =>
      h₁.2.2.2 runs hpositive (hwithin.trans (min_le_left _ _))⟩, fun runs hpositive hwithin => ?_⟩
    rw [hcap]
    exact leavesRoom_of_count rfl hwithin hpositive
  obtain ⟨runLimit₂, goesOn⟩ := out
  dsimp only at h₂ ⊢
  by_cases hgoes : goesOn
  swap
  · simp only [hgoes, Bool.not_false, if_true]
    exact .of_fresh h₂.1.1
  simp only [hgoes, Bool.not_true, Bool.false_eq_true, if_false]
  refine Prog.wp_bind (R := fun out => Third out.1) (wp_withinCap (Q := Third) ?_ ?_)
    fun out books₃ h₃ => ?_
  · intro hcap
    refine ⟨h₂, fun runs _ _ => ?_⟩
    rw [hcap]
    exact leavesRoom_none
  · intro cap hcap
    refine wp_ask (r := .countInFlightForProfile _) trivial (fun current => ?_)
      fun _ => .of_fresh h₂.1.1
    have hless : ∀ runs, runs ≤ min runLimit₂ (max (cap - current) 0) → runs ≤ runLimit₂ :=
      fun runs hwithin => hwithin.trans (min_le_left _ _)
    refine ⟨⟨⟨{ h₂.1.1 with }, h₂.1.2.1, (min_le_left _ _).trans h₂.1.2.2.1,
      fun runs hpositive hwithin => h₂.1.2.2.2 runs hpositive (hless runs hwithin)⟩,
      fun runs hpositive hwithin => h₂.2 runs hpositive (hless runs hwithin)⟩,
      fun runs hpositive hwithin => ?_⟩
    rw [hcap]
    exact leavesRoom_of_count rfl hwithin hpositive
  obtain ⟨runLimit₃, goesOn⟩ := out
  dsimp only at h₃ ⊢
  obtain ⟨⟨⟨hfresh₃, hprofile₃, htick, hmodule⟩, hglobal⟩, hlimit⟩ := h₃
  by_cases hgoes : goesOn
  swap
  · simp only [hgoes, Bool.not_false, if_true]
    exact .of_fresh hfresh₃
  simp only [hgoes, Bool.not_true, Bool.false_eq_true, if_false]
  by_cases hbudget : executeAdmissionBudget runLimit₃ ≤ 0
  · rw [if_pos hbudget]
    exact .of_fresh hfresh₃
  · rw [if_neg hbudget]
    have hruns : executeAdmissionBudget runLimit₃ = runLimit₃ := by
      unfold executeAdmissionBudget at hbudget ⊢
      omega
    rw [hruns] at hbudget ⊢
    have hpositive : 0 < runLimit₃ := by omega
    refine wp_admitClaim hfresh₃ hpositive
      ⟨htick, hmodule _ hpositive le_rfl, hglobal _ hpositive le_rfl, ?_⟩
    rw [hprofile₃]
    exact hlimit _ hpositive le_rfl

/-- **One project of a tick.**  From any books, and whatever the answers are, the tick issues only
requests that fit; it returns with everything settled, and an error leaves at most the claim behind. -/
theorem schedule_wp :
    AdmissionWp (scheduleProjectExecutions config projectModule policy)
      (fun _ => AdmissionSettled config policy) (AdmissionBounded config policy) books := by
  have hcount : ∀ {r : AdmissionRequest} {b : AdmissionBooks}, b.Fits r →
      (∀ answer, (b.learn r (.ok answer)).Fresh) → (∀ error, (b.learn r (.error error)).Fresh) →
      AdmissionWp (Admission.ask r) (fun _ => AdmissionBooks.Fresh)
        (AdmissionBounded config policy) b :=
    fun hfits hok herror => wp_ask hfits hok fun error => .of_fresh (herror error)
  unfold scheduleProjectExecutions
  refine Prog.wp_bind (R := fun _ => AdmissionBooks.Fresh) (hcount (r := .newTickCorrelationId)
    trivial (fun _ => ⟨rfl, rfl, rfl, rfl, rfl⟩) fun _ => ⟨rfl, rfl, rfl, rfl, rfl⟩)
    fun tickCorrelation books₁ h₁ => ?_
  refine Prog.wp_bind (R := fun _ => AdmissionBooks.Fresh) (wp_inFlightFull
    (hcount (r := .countAutoInFlightForModule projectModule) trivial (fun _ => { h₁ with })
      fun _ => h₁) h₁) fun full books₂ h₂ => ?_
  by_cases hfull : full
  · simp only [hfull, if_true]
    exact .of_fresh h₂
  simp only [hfull, Bool.false_eq_true, if_false]
  refine Prog.wp_bind (R := fun _ => AdmissionBooks.Fresh) (wp_inFlightFull
    (hcount (r := .countExecuteInFlightRuns) trivial (fun _ => { h₂ with }) fun _ => h₂) h₂)
    fun full books₃ h₃ => ?_
  by_cases hfull : full
  · simp only [hfull, if_true]
    exact .of_fresh h₃
  simp only [hfull, Bool.false_eq_true, if_false]
  refine Prog.wp_bind (R := fun _ => AdmissionBooks.Fresh) (wp_queueFull
    (hcount (r := .queueDepth) trivial (fun _ => h₃) fun _ => h₃) h₃) fun full books₄ h₄ => ?_
  by_cases hfull : full
  · simp only [hfull, if_true]
    exact .of_fresh h₄
  simp only [hfull, Bool.false_eq_true, if_false]
  refine Prog.wp_bind (R := fun _ => AdmissionBooks.Fresh)
    (hcount (r := .getWorkflowPendingStats projectModule) trivial (fun _ => h₄) fun _ => h₄)
    fun stats books₅ h₅ => ?_
  obtain ⟨pending, oldest⟩ := stats
  dsimp only
  by_cases hpending : pending ≤ 0
  · rw [if_pos hpending]
    exact .of_fresh h₅
  rw [if_neg hpending]
  refine Prog.wp_bind (R := fun _ => AdmissionBooks.Fresh)
    (hcount (r := .utcNow) trivial (fun _ => h₅) fun _ => h₅) fun now books₆ h₆ => ?_
  by_cases htriggered : triggered policy pending oldest now
  swap
  · simp only [htriggered, Bool.not_false, if_true]
    exact .of_fresh h₆
  simp only [htriggered, Bool.not_true, Bool.false_eq_true, if_false]
  refine Prog.wp_bind (R := fun profile b => b.Fresh ∧ b.counts.profile = profile) ?_
    fun profile books₇ h₇ => wp_admitWithinCaps h₇.1 h₇.2
  unfold policyProfile
  cases policy.deploymentProfileName with
  | none =>
      exact wp_ask (r := .getDefaultDeploymentProfile projectModule) trivial
        (fun profile => ⟨{ h₆ with }, rfl⟩) fun _ => .of_fresh h₆
  | some name =>
      exact wp_ask (r := .getDeploymentProfileByName name) trivial
        (fun profile => ⟨{ h₆ with }, rfl⟩) fun _ => .of_fresh h₆

end Project

/-- A whole tick issues only requests that fit. -/
theorem tick_wp (config : ExecutionSchedulerConfig) (payload : Json) (books : AdmissionBooks) :
    AdmissionWp (runExecutionSchedulerTick config payload) (fun _ _ => True) (fun _ => True)
      books := by
  have hprojects : ∀ (configs : List ActiveProjectConfig) (books : AdmissionBooks),
      AdmissionWp (scheduleProjects config configs) (fun _ _ => True) (fun _ => True) books := by
    intro configs
    induction configs with
    | nil => exact fun _ => trivial
    | cons projectConfig rest ih =>
        intro books
        rw [scheduleProjects]
        by_cases henabled : projectConfig.policy.enabled
        · simp only [henabled, Bool.not_true, Bool.false_eq_true, if_false]
          refine Prog.wp_bind (R := fun _ _ => True) ?_ fun _ books' _ => ih books'
          exact Prog.wp_mono schedule_wp (fun _ _ _ => trivial) fun _ _ _ => trivial
        · simp only [henabled, Bool.not_false, if_true]
          exact ih books
  exact Prog.wp_bind (R := fun _ _ => True) (wp_ask trivial (fun _ => trivial) fun _ => trivial)
    fun configs books' _ => hprojects configs books'

/-- The books after a run. -/
def admissionBooks (events : List AdmissionEvent) : AdmissionBooks :=
  events.foldl (fun books event => books.learn event.1 event.2) {}

/-- What neither the tables nor a request determine: whether a statement fails, and whether it was
carried out before its answer was lost; the active configurations; the rows that other transactions
hold; and fresh identifiers. -/
structure AdmissionChoice where
  failure : Option (SqlxError × Bool) := none
  configs : List ActiveProjectConfig := []
  tickCorrelation : String := ""
  claimToken : String := ""
  locked : List String := []
  id : Uuid := 0
  jobId : Uuid := 0

/-- The error of a statement of a creation. -/
def creationError (message : String) : SqlxError :=
  if message = "duplicate key value violates unique constraint" then .database message
  else .protocol message

/-- The enabled pending sources of a project. -/
def SourceRegistry.workflowPending (r : SourceRegistry) (projectModule : String) :
    List SourceRegistryRow :=
  r.rows.filter fun row => row.projectModule == projectModule && row.enabled &&
    row.workflowRunPending

/-- One statement on the tables. -/
def AdmissionRequest.transaction (i : AdmissionChoice) (t : ExecutionTables) :
    (r : AdmissionRequest) → r.Resp × ExecutionTables
  | .activeProjectConfigs projectModule =>
      (.ok (i.configs.filter fun config => projectModule.all fun projectModule =>
        config.projectId == projectModule), t)
  | .newTickCorrelationId => (.ok i.tickCorrelation, t)
  | .countAutoInFlightForModule projectModule =>
      (.ok (t.executions.countP fun entry =>
        entry.row.projectModule == projectModule && entry.row.status.isInFlight : ℕ), t)
  | .countExecuteInFlightRuns =>
      (.ok (t.executions.countP fun entry => entry.row.status.isInFlight : ℕ), t)
  | .queueDepth =>
      (.ok (t.queue.jobs.countP fun job =>
        job.status == .queued && decide (job.nextRunAt ≤ t.queue.now) : ℕ), t)
  | .getWorkflowPendingStats projectModule =>
      let pending := t.registry.workflowPending projectModule
      let oldest := (pending.insertionSort fun a b => SourceRegistry.pendingBefore a b).head?
      (.ok ((pending.length : ℤ), oldest.bind fun row => row.workflowRunPendingAt.map Nat.cast), t)
  | .utcNow => (.ok (t.queue.now : ℤ), t)
  | .getDeploymentProfileByName name =>
      (.ok (t.profiles.find? fun profile => profile.name == name), t)
  | .getDefaultDeploymentProfile projectModule =>
      (.ok (t.getDefaultDeploymentProfile projectModule), t)
  | .countInFlightForProfile profileId => (.ok (t.inFlight profileId : ℤ), t)
  | .claimPendingSourcesForWorkflowRun projectModule limit leaseTtlMinutes =>
      let (registry, sources) := t.registry.claimPendingSourcesForWorkflowRun t.queue.now
        projectModule limit.toNat leaseTtlMinutes.toNat i.claimToken i.locked
      (.ok (if sources.isEmpty then none else some (i.claimToken, sources)),
        { t with registry := registry })
  | .selectSourceRegistry projectModule sources =>
      (.ok (t.registry.rows.filter (SourceRegistryRow.selectedBy projectModule sources)), t)
  | .listArchiveMetadataForSources projectModule sources =>
      (.ok (t.registry.archive.filter fun row =>
        row.projectModule == projectModule && sources.contains row.sourceIdentifier), t)
  | .clearWorkflowPendingForSources projectModule sources =>
      (.ok (), { t with
        registry := t.registry.clearWorkflowPendingForSources projectModule sources })
  | .getActiveProjectConfig projectModule =>
      (.ok (i.configs.find? fun config => config.projectId == projectModule), t)
  | .resolveProfile request => ((t.resolveProfile request).mapError creationError, t)
  | .admitProfile none => (.ok (), t)
  | .admitProfile (some profile) => ((t.profileAdmits profile).mapError creationError, t)
  | .insertExecution request profile =>
      match t.insertExecution i.id i.jobId request profile with
      | .error message => (.error (creationError message), t)
      | .ok (inserted, entry, _) => (.ok entry.row.uuid, inserted)
  | .releaseWorkflowClaim projectModule sources claimToken =>
      (.ok (), { t with
        registry := t.registry.releaseWorkflowClaim projectModule sources claimToken })

/-- The request is a statement of the database; the clock and fresh identifiers are not. -/
def AdmissionRequest.isStatement : AdmissionRequest → Bool
  | .utcNow | .newTickCorrelationId => false
  | _ => true

/-- A request as it happens: a statement may fail. -/
def AdmissionRequest.perform (r : AdmissionRequest) (i : AdmissionChoice) (t : ExecutionTables) :
    r.Resp × ExecutionTables :=
  let outcome := r.transaction i t
  match i.failure.filter fun _ => r.isStatement with
  | none => outcome
  | some (error, carriedOut) => (.error error, if carriedOut then outcome.2 else t)

/-- What everything else does to the tables: a transaction on an execution, a creation that is not of
a tick, and whatever happens to the registry, the queue and the profiles. -/
inductive AdmissionSurroundings where
  | call (place : ℕ) (ids : FreshIds) (locked : List Uuid) (transaction : Tx)
  | create (id jobId : Uuid) (request : CreateRequest) (profile : Option DeploymentProfileRow)
  | outside (registry : SourceRegistry) (queue : JobQueue) (profiles : List DeploymentProfileRow)

/-- The tables after a step of the surroundings. -/
def AdmissionSurroundings.step (t : ExecutionTables) : AdmissionSurroundings → ExecutionTables
  | .call place ids locked transaction => t.call place ids locked transaction
  | .create id jobId request profile =>
      match t.insertExecution id jobId request profile with
      | .error _ => t
      | .ok (inserted, _, _) => inserted
  | .outside registry queue profiles =>
      { t with registry := registry, queue := queue, profiles := profiles }

/-- The tables, and the registry as it was before each step so far. -/
structure AdmissionWorld where
  tables : ExecutionTables
  earlier : List SourceRegistry := []

/-- The world after a step that leaves these tables. -/
def AdmissionWorld.step (w : AdmissionWorld) (tables : ExecutionTables) : AdmissionWorld where
  tables := tables
  earlier := w.tables.registry :: w.earlier

/-- Any number of ticks, each with its configuration and its payload, over the tables. -/
def admissionSystem : System AdmissionRequest AdmissionRequest.Resp SqlxError Unit AdmissionWorld
    AdmissionBooks AdmissionChoice (ExecutionSchedulerConfig × Json) AdmissionSurroundings where
  perform := fun _ r i books w =>
    let outcome := r.perform i w.tables
    (outcome.1, books.learn r outcome.1, w.step outcome.2)
  code := fun start => runExecutionSchedulerTick start.1 start.2
  loc := {}
  environment := fun e w => w.step (e.step w.tables)

/-- What ticks side by side are made of. -/
abbrev AdmissionConfig : Type :=
  Config AdmissionRequest AdmissionRequest.Resp SqlxError Unit AdmissionWorld AdmissionBooks

/-- A step of the ticks or of their surroundings. -/
abbrev AdmissionLabel : Type :=
  Label AdmissionChoice (ExecutionSchedulerConfig × Json) AdmissionSurroundings

/-! ### What the tables keep -/

namespace SourceRegistry

/-- The source is pending. -/
def HasPending (r : SourceRegistry) (projectModule source : String) : Prop :=
  ∃ row ∈ r.rows, row.key = (projectModule, source) ∧ row.workflowRunPending = true

/-- The source is executed for its signature. -/
def HasExecuted (r : SourceRegistry) (projectModule source : String) : Prop :=
  ∃ row ∈ r.rows, row.key = (projectModule, source) ∧ row.alreadyExecuted = true

instance (r : SourceRegistry) (projectModule source : String) :
    Decidable (r.HasPending projectModule source) :=
  inferInstanceAs (Decidable (∃ row ∈ r.rows, _))

/-- An update that keeps the keys and the flags of the source's rows keeps the source pending. -/
theorem HasPending.updateWhere {r : SourceRegistry} {projectModule source : String}
    (h : r.HasPending projectModule source) {p : SourceRegistryRow → Bool}
    {set : SourceRegistryRow → SourceRegistryRow} (hkey : ∀ row, (set row).key = row.key)
    (hset : ∀ row, row.key = (projectModule, source) → p row = true →
      row.workflowRunPending = true → (set row).workflowRunPending = true) :
    (r.updateWhere p set).HasPending projectModule source := by
  obtain ⟨row, hrow, hsource, hpending⟩ := h
  refine ⟨_, mem_updateWhere.mpr ⟨row, hrow, rfl⟩, ?_⟩
  by_cases hp : p row = true
  · rw [if_pos hp]
    exact ⟨(hkey row).trans hsource, hset row hsource hp hpending⟩
  · rw [if_neg hp]
    exact ⟨hsource, hpending⟩

/-- The rows that were read say that the source is executed, and so does the registry. -/
theorem hasExecuted_of_read {r : SourceRegistry} {projectModule source : String}
    {sources : List String} (h : source ∈ executedSources projectModule sources
      (r.rows.filter (SourceRegistryRow.selectedBy projectModule sources))) :
    r.HasExecuted projectModule source := by
  obtain ⟨-, hexecuted⟩ := List.mem_filter.mp h
  unfold find at hexecuted
  cases hfind : (r.rows.filter (SourceRegistryRow.selectedBy projectModule sources)).find?
      fun row => row.projectModule == projectModule && row.sourceIdentifier == source with
  | none => simp [hfind] at hexecuted
  | some row =>
      have hkey := List.find?_some hfind
      rw [Bool.and_eq_true, beq_iff_eq, beq_iff_eq] at hkey
      refine ⟨row, List.mem_of_mem_filter (List.mem_of_find?_eq_some hfind), ?_, ?_⟩
      · rw [SourceRegistryRow.key, hkey.1, hkey.2]
      · simpa [hfind] using hexecuted

end SourceRegistry

/-- The executions of the first tables are in the second ones. -/
def ExecutionTables.Keeps (t t' : ExecutionTables) : Prop :=
  ∀ entry ∈ t.executions, ∃ entry' ∈ t'.executions, entry.row.SameExecution entry'.row

namespace ExecutionTables.Keeps

variable {t t' : ExecutionTables}

theorem of_executions (h : t'.executions = t.executions) : t.Keeps t' :=
  fun entry hentry => ⟨entry, h ▸ hentry, .refl _⟩

theorem of_insert {id jobId : Uuid} {request : CreateRequest}
    {profile : Option DeploymentProfileRow} {entry : ExecutionEntry} {job : Option NewJob}
    (h : t.insertExecution id jobId request profile = .ok (t', entry, job)) : t.Keeps t' := by
  obtain ⟨-, hexecutions, -⟩ := insertExecution_cases h
  exact fun old hold => ⟨old, hexecutions ▸ List.mem_append_left _ hold, .refl _⟩

/-- A transaction on one execution. -/
theorem of_call (t : ExecutionTables) (place : ℕ) (ids : FreshIds) (locked : List Uuid)
    (transaction : Tx) : t.Keeps (t.call place ids locked transaction) := by
  unfold ExecutionTables.call
  cases hentry : t.executions[place]? with
  | none => exact of_executions rfl
  | some old =>
      obtain ⟨hplace, hget⟩ := List.getElem?_eq_some_iff.mp hentry
      have hsame : old.row.SameExecution
          ((t.store old).step (.call ids locked transaction)).row := by
        rcases (t.store old).step_call ids locked transaction with hkept | ⟨result, hrun⟩
        · rw [hkept]
          exact .refl _
        · exact Tx.run_identity hrun
      intro entry hmem
      obtain ⟨n, hn, rfl⟩ := List.getElem_of_mem hmem
      by_cases hsamePlace : place = n
      · subst hsamePlace
        refine ⟨_, List.mem_set hplace _, ?_⟩
        rw [hget]
        exact hsame
      · refine ⟨t.executions[n], ?_, .refl _⟩
        refine List.mem_iff_getElem.mpr ⟨n, by simpa using hn, ?_⟩
        simp [hsamePlace]

/-- A request of a tick. -/
theorem of_perform (r : AdmissionRequest) (i : AdmissionChoice) (t : ExecutionTables) :
    t.Keeps (r.perform i t).2 := by
  have htransaction : t.Keeps (r.transaction i t).2 := by
    cases r with
    | insertExecution request profile =>
        unfold AdmissionRequest.transaction
        dsimp only
        split
        · exact of_executions rfl
        next hinsert => exact of_insert hinsert
    | admitProfile profile => cases profile <;> exact of_executions rfl
    | _ => exact of_executions rfl
  unfold AdmissionRequest.perform
  dsimp only
  split
  · exact htransaction
  · dsimp only
    split
    · exact htransaction
    · exact of_executions rfl

theorem of_surroundings (t : ExecutionTables) (e : AdmissionSurroundings) : t.Keeps (e.step t) := by
  cases e with
  | call place ids locked transaction => exact of_call t place ids locked transaction
  | create id jobId request profile =>
      unfold AdmissionSurroundings.step
      dsimp only
      split
      · exact of_executions rfl
      next hinsert => exact of_insert hinsert
  | «outside» registry queue profiles => exact of_executions rfl

end ExecutionTables.Keeps

/-! ### What a tick knows is true -/

/-- The execution is in the tables, for the project and with the sources. -/
def ExecutionTables.HasExecution (t : ExecutionTables) (projectModule : String)
    (execution : Uuid × List String) : Prop :=
  ∃ entry ∈ t.executions, entry.row.uuid = execution.1 ∧
    entry.row.projectModule = projectModule ∧ entry.row.sourceIdentifiers = execution.2

theorem ExecutionTables.HasExecution.of_keeps {t t' : ExecutionTables} {projectModule : String}
    {execution : Uuid × List String} (h : t.HasExecution projectModule execution)
    (hkeeps : t.Keeps t') : t'.HasExecution projectModule execution := by
  obtain ⟨entry, hentry, huuid, hmodule, hsources⟩ := h
  obtain ⟨entry', hentry', hsame⟩ := hkeeps entry hentry
  refine ⟨entry', hentry', hsame.uuid.trans huuid, hsame.projectModule.trans hmodule, ?_⟩
  rw [ExecutionRow.sourceIdentifiers, hsame.sources]
  exact hsources

/-- The executions in the books are in the tables, and the sources that the books call executed were
executed at some time. -/
def AdmissionWorld.Known (w : AdmissionWorld) (books : AdmissionBooks) : Prop :=
  ∀ claim, books.claim = some claim →
    (∀ execution ∈ books.created, w.tables.HasExecution claim.projectModule execution) ∧
      ∀ source ∈ books.executed, ∃ r ∈ w.earlier, r.HasExecuted claim.projectModule source

theorem AdmissionWorld.Known.step {books : AdmissionBooks} {w : AdmissionWorld}
    (h : w.Known books) {tables : ExecutionTables} (hkeeps : w.tables.Keeps tables) :
    (w.step tables).Known books := by
  intro claim hclaim
  obtain ⟨hcreated, hexecuted⟩ := h claim hclaim
  refine ⟨fun execution hmem => (hcreated execution hmem).of_keeps hkeeps, fun source hmem => ?_⟩
  obtain ⟨r, hr, hsource⟩ := hexecuted source hmem
  exact ⟨r, List.mem_cons_of_mem _ hr, hsource⟩

/-- A request that is answered was carried out. -/
theorem AdmissionRequest.perform_ok {r : AdmissionRequest} {i : AdmissionChoice}
    {t : ExecutionTables} {answer : r.Answer} (h : (r.perform i t).1 = .ok answer) :
    r.perform i t = r.transaction i t := by
  unfold perform at h ⊢
  dsimp only at h ⊢
  split
  · rfl
  next hfailure =>
    rw [hfailure] at h
    cases h

/-- A creation inserts its own row. -/
theorem ExecutionTables.insertExecution_row {t t' : ExecutionTables} {id jobId : Uuid}
    {request : CreateRequest} {profile : Option DeploymentProfileRow} {entry : ExecutionEntry}
    {job : Option NewJob}
    (h : t.insertExecution id jobId request profile = .ok (t', entry, job)) :
    entry ∈ t'.executions ∧ ∃ required, entry.row = t.createdRow id request profile required := by
  refine ⟨?_, ?_⟩
  · obtain ⟨-, hexecutions, -⟩ := insertExecution_cases h
    rw [hexecutions]
    exact List.mem_append_right _ (List.mem_singleton_self entry)
  · unfold insertExecution at h
    split at h
    · cases h
    next required hrequired =>
      simp only at h
      split at h
      · cases h
      split at h
      · cases h
        exact ⟨required, rfl⟩
      split at h
      · cases h
      split at h
      · cases h
      · cases h
        exact ⟨required, rfl⟩

theorem ExecutionTables.insertExecution_registry {t t' : ExecutionTables} {id jobId : Uuid}
    {request : CreateRequest} {profile : Option DeploymentProfileRow} {entry : ExecutionEntry}
    {job : Option NewJob}
    (h : t.insertExecution id jobId request profile = .ok (t', entry, job)) :
    t'.registry = t.registry := by
  unfold insertExecution at h
  split at h
  · cases h
  simp only at h
  split at h
  · cases h
  split at h
  · cases h
    rfl
  split at h
  · cases h
  split at h
  · cases h
  · cases h
    rfl

/-- The execution of an answered insertion is in the tables. -/
theorem hasExecution_of_insert {request : CreateRequest} {profile : Option DeploymentProfileRow}
    {i : AdmissionChoice} {t : ExecutionTables} {id : Uuid}
    (h : ((AdmissionRequest.insertExecution request profile).transaction i t).1 = .ok id) :
    ((AdmissionRequest.insertExecution request profile).transaction i t).2.HasExecution
      request.projectModule (request.entry id) := by
  unfold AdmissionRequest.transaction at h ⊢
  dsimp only at h ⊢
  cases hinsert : t.insertExecution i.id i.jobId request profile with
  | error message => simp [hinsert] at h
  | ok inserted =>
      obtain ⟨t', entry, job⟩ := inserted
      obtain ⟨hmem, required, hrow⟩ := ExecutionTables.insertExecution_row hinsert
      simp only [hinsert] at h ⊢
      refine ⟨entry, hmem, Except.ok.inj h, ?_, ?_⟩
      · rw [hrow]
        rfl
      · rw [hrow]
        rfl

/-- The books stay true with the answer to a request that fits. -/
theorem AdmissionWorld.Known.learn {books : AdmissionBooks} {w : AdmissionWorld}
    (h : w.Known books) {r : AdmissionRequest} (hfits : books.Fits r) (i : AdmissionChoice) :
    (w.step (r.perform i w.tables).2).Known (books.learn r (r.perform i w.tables).1) := by
  have hkept : (w.step (r.perform i w.tables).2).Known books :=
    h.step (ExecutionTables.Keeps.of_perform r i w.tables)
  have hnew : ∀ w : AdmissionWorld, w.Known {} := fun w claim hclaim => by cases hclaim
  cases hanswer : (r.perform i w.tables).1 with
  | error error =>
      cases r with
      | newTickCorrelationId => exact hnew _
      | _ => exact hkept
  | ok answer =>
      have hperform := AdmissionRequest.perform_ok hanswer
      cases r with
      | newTickCorrelationId => exact hnew _
      | claimPendingSourcesForWorkflowRun projectModule limit leaseTtlMinutes =>
          cases answer with
          | none => exact hkept
          | some claimed =>
              -- the claim is the first one, so nothing is in the books yet
              obtain ⟨hfresh, -⟩ := hfits
              intro claim _
              constructor
              · intro execution hmem
                have hnone : execution ∈ books.created := hmem
                rw [hfresh.created] at hnone
                cases hnone
              · intro source hmem
                have hnone : source ∈ books.executed := hmem
                rw [hfresh.executed] at hnone
                cases hnone
      | selectSourceRegistry projectModule sources =>
          obtain ⟨claim, hclaim, rfl⟩ := hfits
          intro claim' hclaim'
          obtain rfl := Option.some.inj (hclaim.symm.trans hclaim')
          obtain ⟨hcreated, hexecuted⟩ := hkept claim hclaim
          refine ⟨hcreated, fun source hmem => ?_⟩
          rcases List.mem_append.mp hmem with hbefore | hread
          · exact hexecuted source hbefore
          · rw [hperform] at hanswer
            obtain rfl := Except.ok.inj hanswer
            exact ⟨w.tables.registry, List.mem_cons_self,
              SourceRegistry.hasExecuted_of_read hread⟩
      | insertExecution request profile =>
          obtain ⟨claim, hclaim, hmodule, -⟩ := hfits
          intro claim' hclaim'
          obtain rfl := Option.some.inj (hclaim.symm.trans hclaim')
          obtain ⟨hcreated, hexecuted⟩ := hkept claim hclaim
          refine ⟨fun execution hmem => ?_, hexecuted⟩
          rcases List.mem_append.mp hmem with hbefore | hinserted
          · exact hcreated execution hbefore
          · obtain rfl := List.mem_singleton.mp hinserted
            rw [hperform] at hanswer ⊢
            rw [← hmodule]
            exact hasExecution_of_insert hanswer
      | getDeploymentProfileByName name => exact hkept
      | _ => exact hkept

/-! ### Which request takes a flag -/

/-- The claim and its release leave every flag alone, and so does everything but a clear. -/
theorem AdmissionRequest.hasPending_perform {r : AdmissionRequest} {i : AdmissionChoice}
    {t : ExecutionTables} {projectModule source : String}
    (h : t.registry.HasPending projectModule source)
    (hclear : ∀ sources, r = .clearWorkflowPendingForSources projectModule sources →
      source ∉ sources) :
    (r.perform i t).2.registry.HasPending projectModule source := by
  have htransaction : (r.transaction i t).2.registry.HasPending projectModule source := by
    cases r with
    | claimPendingSourcesForWorkflowRun projectModule' limit leaseTtlMinutes =>
        exact h.updateWhere (fun _ => rfl) fun _ _ _ hpending => hpending
    | releaseWorkflowClaim projectModule' sources claimToken =>
        exact h.updateWhere (fun _ => rfl) fun _ _ _ hpending => hpending
    | clearWorkflowPendingForSources projectModule' sources =>
        refine h.updateWhere (fun _ => rfl) fun row hkey hselected _ => ?_
        obtain ⟨hmodule, hmem⟩ := SourceRegistryRow.selectedBy_iff.mp hselected
        obtain ⟨rfl, rfl⟩ := Prod.mk.inj hkey
        exact absurd hmem (hclear sources (by rw [hmodule]))
    | insertExecution request profile =>
        have hregistry : ((AdmissionRequest.insertExecution request profile).transaction i
            t).2.registry = t.registry := by
          unfold AdmissionRequest.transaction
          dsimp only
          split
          · rfl
          next inserted entry job hinsert => exact ExecutionTables.insertExecution_registry hinsert
        rw [hregistry]
        exact h
    | admitProfile profile => cases profile <;> exact h
    | _ => exact h
  unfold AdmissionRequest.perform
  dsimp only
  split
  · exact htransaction
  · dsimp only
    split
    · exact htransaction
    · exact h

/-- A pending source that was discovered; `executed` is the signature it was executed for. -/
def pendingRow (source : String) (executed : Option String) : SourceRegistryRow :=
  { SourceRegistryRow.new "m" source true 0 with
    lastCheckedAt := some 1
    discoverySignature := some "v"
    lastExecutedDiscoverySignature := executed
    workflowRunPending := true
    workflowRunPendingAt := some 1 }

/-- Two sources are ready, and the one between them was executed; the claim stops short of the last. -/
def pendingTables : ExecutionTables where
  profiles := []
  executions := []
  registry :=
    { rows := [pendingRow "a" none, pendingRow "b" (some "v"), pendingRow "c" none]
      archive := [⟨"m", "a", "g", none⟩, ⟨"m", "b", "g", none⟩, ⟨"m", "c", "g", none⟩] }
  queue := ⟨5, [], [], []⟩

/-- One source for an execution, and at most two executions at a time. -/
def singleSourcePolicy : ExecutionAutomationPolicy where
  enabled := true
  maxSourcesPerExecution := 1
  concurrentExecutionRunLimit := some 2

/-- No limits but those of the project. -/
def unlimitedScheduler : ExecutionSchedulerConfig := ⟨"p", none, none⟩

/-- The tick is started and gets its answers. -/
def pendingChoice (id : Uuid) : AdmissionChoice where
  configs := [⟨7, "m", singleSourcePolicy, .ok false, fun _ _ => .ok []⟩]
  tickCorrelation := "t"
  claimToken := "k"
  id := id
  jobId := id + 100

/-- The tick up to the clear of the sources it has admitted. -/
def pendingTick : List AdmissionLabel :=
  .start 0 (unlimitedScheduler, .obj []) ::
    (List.range 18).map fun n => .run 0 (pendingChoice n)

/-- A tick that is answered by the tables as they are at its start. -/
def pendingAnswer (r : AdmissionRequest) : r.Resp := (r.transaction (pendingChoice 0) pendingTables).1

end Beampipe
