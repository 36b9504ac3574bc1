/-
One execution under all its processes.

The system runs the processes of `Beampipe/Processes.lean` side by side over the store of one
execution.  One step answers one request of one process; between two requests of a process anything
may happen, and a process may die between them.  A worker whose lease has run out goes on as long as
nothing stops it.  The steps of the surroundings move the clock, write the source registry, renew
leases and enqueue the jobs of other executions.

A log keeps every answered request with the store before and after it, and each process remembers
the few facts about its own steps that statements about runs speak of: the retry generation its job
has read, the submission it has taken, and what it still owes.

Main definitions:

* `Beampipe.Event`, `Beampipe.Local`, `Beampipe.World` — the log, the memory of a process, and the
  store with the log;
* `Beampipe.performRequest` — the answer to a request;
* `Beampipe.Environment` — the steps of the surroundings;
* `Beampipe.executionSystem` — the system;
* `Beampipe.Store.Created` — the store when the execution has just been created;
* `Beampipe.sampleStore`, `Beampipe.sampleAnswer` — a small deployment.

Main results:

* `Beampipe.Choice.transact_cases` — what becomes of a transaction;
* `Beampipe.Event.began_of_tx` — what a taken submission has found.
-/

import Beampipe.Processes

set_option relaxedAutoImplicit false
set_option autoImplicit false

namespace Beampipe

/-! ### The log -/

/-- What `run_execute` has to hand over: the `retry_count` of the row it has read, and since then the
manifest it has put into the row and the graph it has stored. -/
structure Prepared where
  generation : Option ℕ := none
  manifest : Option Json := none
  graph : Option Json := none
  deriving DecidableEq, Repr

/-- What an answer adds. -/
def Prepared.after (p : Prepared) : (r : Request) → r.Answer → Prepared
  | .tx .runExecute .getExecution, .ok row => { generation := some row.retryCount }
  | .tx .runExecuteBody (.applyExecutionPatch patch), .ok _ =>
      { p with manifest := patch.workflowManifest <|> p.manifest }
  | .tx .runExecuteBody (.storeExecutionArtifact artifact), .ok _ =>
      if artifact.kind = "patched_graph" then { p with graph := artifact.inlineJson } else p
  | _, _ => p

/-- What a process remembers of its own steps. -/
structure Local where
  prepared : Prepared := {}
  /-- the retry generation whose submission the process has taken and not yet begun -/
  grant : Option ℕ := none
  /-- the process has moved the execution to `failed` and not yet marked its sources -/
  owesMark : Bool := false
  /-- the length of the log when the process last read the manifest it works on -/
  base : ℕ := 0
  deriving DecidableEq, Repr

/-- The request starts a submission at the backend. -/
def Request.submits : Request → Bool
  | .ask _ (.submit _ _ _ _) => true
  | _ => false

/-- One answered request. -/
structure Event where
  pid : ℕ
  loc : Local
  request : Request
  answer : request.Answer
  before : Store
  after : Store

namespace Event

/-- The generation whose submission the event has taken: `begin_execution_submission` returned a
deadline. -/
def began (e : Event) : Option ℕ :=
  match e.request, e.answer with
  | .tx _ (.beginExecutionSubmission _), .ok (some _) => some e.before.row.retryCount
  | _, _ => none

/-- The event starts a submission at the backend. -/
def submits (e : Event) : Bool := e.request.submits

/-- The event has marked the sources of the execution as pending. -/
def marks (e : Event) : Bool :=
  match e.request, e.answer with
  | .tx _ .markSourcesPendingWorkflowRun, .ok _ => true
  | _, _ => false

/-- The event moves the execution from a status that is not terminal to `failed`. -/
def entersFailed (e : Event) : Bool :=
  !e.before.row.status.isTerminal && e.after.row.status == .failed

end Event

/-- The request writes the manifest of the execution when it succeeds. -/
def Tx.writesManifest : Tx → Bool
  | .applyExecutionPatch patch => patch.workflowManifest.isSome
  | .recordSubmissionReceipt _ | .verifyExecutionOutputs _ _ => true
  | _ => false

/-- The process goes on with the manifest that this request returns. -/
def Request.readsManifest : Request → Bool
  | .tx .runExecute .getExecution => true
  | .tx .runSlurmPollTick .listSlurmExecutionsPendingPoll => true
  | .tx .reconcileUncertainSlurmSubmissions .listSlurmSubmissionsPendingReconciliation => true
  | .tx .applyDimPollUpdate (.applyExecutionStatePatch _) => true
  | .tx .applySlurmPollUpdate (.applyExecutionStatePatch _) => true
  | .tx _ t => t.writesManifest
  | .ask _ _ => false

/-- The memory after an event at the position `now` of the log. -/
def Local.after (l : Local) (e : Event) (now : ℕ) : Local :=
  { prepared := l.prepared.after e.request e.answer
    grant := if e.submits then none else e.began <|> l.grant
    owesMark := !e.marks && (e.entersFailed || l.owesMark)
    base := if e.request.readsManifest then now + 1 else l.base }

/-- The store and the log. -/
structure World where
  store : Store
  log : List Event

/-! ### Steps -/

/-- The event of a request answered in the store `s`. -/
def Event.of (pid : ℕ) (l : Local) (c : Choice) (s : Store) : Request → Event
  | .tx site t => ⟨pid, l, .tx site t, (c.transact t s).1, s, (c.transact t s).2⟩
  | .ask site question => ⟨pid, l, .ask site question, c.answer question, s, s⟩

/-- The answer to a request. -/
def Choice.answerTo (c : Choice) (s : Store) : (r : Request) → r.Answer
  | .tx _ t => (c.transact t s).1
  | .ask _ question => c.answer question

/-- The answer to a request of the process `pid`; it becomes an event of the log. -/
def performRequest (pid : ℕ) (r : Request) (c : Choice) (l : Local) (w : World) :
    r.Answer × Local × World :=
  let e := Event.of pid l c w.store r
  (c.answerTo w.store r, l.after e w.log.length, ⟨e.after, w.log ++ [e]⟩)

/-- A step of the surroundings. -/
inductive Environment where
  | advanceClock (now : ℕ)
  | writeRegistry (registry : SourceRegistry)
  | registerWorkers (workers : List WorkerInstanceRow)
  | renewJobLease (lease : LeaseKey) (lockSeconds : ℤ)
  | insertJob (job : NewJob)
  | upsertRecurringJob (job : NewJob)
  | cancelExecuteJobs (executionId : Uuid)

/-- The job has nothing to do with the execution. -/
def NewJob.isForeign (executionId : Uuid) (job : NewJob) : Bool :=
  job.executionId != some executionId && !namesExecution executionId job.payload

/-- What a step of the surroundings does to the queue; what would touch the jobs of the execution
does not happen. -/
def Environment.onQueue (executionId : Uuid) (q : JobQueue) : Environment → JobQueue
  | .advanceClock now => { q with now := max q.now now }
  | .writeRegistry _ => q
  | .registerWorkers workers => { q with workers := workers }
  | .renewJobLease lease lockSeconds =>
      (q.renewJobLease lease.jobId lease.workerId lease.leaseToken lockSeconds).1
  | .insertJob job => if job.isForeign executionId then q.insertJob job else q
  | .upsertRecurringJob job =>
      if job.isForeign executionId ∧
          ∀ row ∈ q.jobs, JobQueue.hasKey job.idempotencyKey row → row.executionId = none then
        q.upsertRecurringJob job
      else q
  | .cancelExecuteJobs other => if other = executionId then q else q.cancelExecuteJobs other

/-- The registry after a step of the surroundings. -/
def Environment.onRegistry (registry : SourceRegistry) : Environment → SourceRegistry
  | .writeRegistry registry => registry
  | _ => registry

/-- A step of the surroundings. -/
def Environment.apply (executionId : Uuid) (e : Environment) (w : World) : World :=
  { w with
    store :=
      { w.store with
        queue := e.onQueue executionId w.store.queue
        registry := e.onRegistry w.store.registry } }

/-- The processes of one execution. -/
def executionSystem (executionId : Uuid) :
    Programs.System Request Request.Answer Failure Unit World Local Choice Entry Environment :=
  { perform := performRequest
    code := Entry.program executionId
    loc := {}
    environment := Environment.apply executionId }

/-- A configuration of the system. -/
abbrev ExecutionConfig := Programs.Config Request Request.Answer Failure Unit World Local

/-- A step of the system. -/
abbrev ExecutionLabel := Programs.Label Choice Entry Environment

/-! ### The created execution -/

namespace Store

/-- The columns of a row that has just been created; an automated execution carries the manifest of
the admission. -/
structure CreatedRow (row : ExecutionRow) : Prop where
  status : row.status = .pending
  controlPhase : row.controlPhase = .discovered
  executionPhase : row.executionPhase = none
  submissionState : row.submissionState = .notStarted
  submissionDeadlineAt : row.submissionDeadlineAt = none
  submissionAbandonedAt : row.submissionAbandonedAt = none
  schedulerName : row.schedulerName = none ∧ row.workflowManifest = none ∨
    row.schedulerName = some "workflow_auto" ∧ row.workflowManifest.isSome
  schedulerJobId : row.schedulerJobId = none
  schedulerState : row.schedulerState = .notSubmitted
  daliugeSessionId : row.daliugeSessionId = none
  daliugeManagerUrl : row.daliugeManagerUrl = none
  daliugeState : row.daliugeState = .notCreated
  outputState :
    row.outputState = if row.outputVerificationRequired then .pending else .notStarted
  remoteSessionDir : row.remoteSessionDir = none
  digests : row.manifestSha256 = none ∧ row.sourceGraphSha256 = none ∧
    row.patchedGraphSha256 = none ∧ row.physicalGraphSha256 = none
  terminalOutcome : row.terminalOutcome = none
  failureClass : row.failureClass = none
  lastError : row.lastError = none
  retryCount : row.retryCount = 0
  startedAt : row.startedAt = none
  completedAt : row.completedAt = none

/-- The job belongs to the execution. -/
def ownsJob (executionId : Uuid) (job : JobRow) : Bool :=
  job.executionId == some executionId || namesExecution executionId job.payload

/-- A store in which the execution has just been created: nothing belongs to it but, when it is
automated, its queued execute job. -/
structure Created (executionId : Uuid) (s : Store) : Prop where
  uuid : s.row.uuid = executionId
  row : CreatedRow s.row
  artifacts : s.artifacts = []
  observations : s.observations = []
  jobs : ∀ job ∈ s.queue.jobs, ownsJob executionId job →
    job.kind = .execute ∧ job.status = .queued ∧ job.executionId = some executionId ∧
      namesExecution executionId job.payload ∧
      job.idempotencyKey = some (executeKey executionId)

end Store

/-! ### A small deployment

One automated execution of one discovered source, three workers, and a backend that is not real: the
runs that later modules look at take place here. -/

/-- The job of the automated execution. -/
def sampleJob : NewJob :=
  { uuid := 2
    kind := .execute
    payload := executePayload 1 true true
    executionId := some 1
    idempotencyKey := some (executeKey 1)
    nextRunAt := 0
    maxAttempts := 3
    pool := "default"
    requiredCapabilities := []
    requiredLabels := []
    priority := 0 }

/-- Its row. -/
def sampleRow : ExecutionRow :=
  { uuid := 1
    projectModule := "survey"
    sources := [⟨"S1", none⟩]
    deploymentProfileSpecSha256 := none
    discoverySignature := some [("S1", "sig-1")]
    workflowManifest := none
    manifestSha256 := none
    sourceGraphSha256 := none
    patchedGraphSha256 := none
    physicalGraphSha256 := none
    executionPhase := none
    controlPhase := .discovered
    submissionState := .notStarted
    submissionDeadlineAt := none
    submissionAbandonedAt := none
    schedulerName := none
    schedulerJobId := none
    schedulerState := .notSubmitted
    daliugeSessionId := none
    daliugeManagerUrl := none
    daliugeState := .notCreated
    outputState := .notStarted
    outputVerificationRequired := false
    remoteSessionDir := none
    terminalOutcome := none
    failureClass := none
    lastError := none
    status := .pending
    retryCount := 0
    createdAt := 0
    startedAt := none
    completedAt := none }

/-- The discovered source. -/
def sampleSource : SourceRegistryRow :=
  { projectModule := "survey"
    sourceIdentifier := "S1"
    enabled := true
    createdAt := 0
    lastCheckedAt := some 0
    lastAttemptedAt := some 0
    discoverySignature := some "sig-1"
    lastExecutedDiscoverySignature := none
    discoveryClaimToken := none
    discoveryClaimExpiresAt := none
    workflowRunPending := false
    workflowRunPendingAt := none
    workflowClaimToken := none
    workflowClaimedAt := none
    workflowClaimExpiresAt := none }

/-- The store when the execution has been created. -/
def sampleStore : Store :=
  { row := sampleRow
    artifacts := []
    observations := []
    registry :=
      { rows := [sampleSource]
        archive := [⟨"survey", "S1", "g", some (.obj [("datasets", .arr [])])⟩] }
    queue :=
      { now := 0
        workers :=
          [⟨1, "default", [], [], 4, .active⟩, ⟨2, "default", [], [], 4, .active⟩,
            ⟨3, "default", [], [], 4, .active⟩]
        jobs := [sampleJob.row 0]
        history := [] } }

theorem sampleStore_created : sampleStore.Created 1 where
  uuid := rfl
  row := by constructor <;> decide
  artifacts := rfl
  observations := rfl
  jobs := by decide

/-- The configuration of its workers. -/
def sampleConfig : WorkerConfig :=
  { pool := "default"
    useRealBackends := false
    lockSeconds := 60
    submissionTimeout := 300 }

/-- The receipt of the backend. -/
def sampleReceipt : BackendSubmit :=
  { schedulerName := "daliuge"
    schedulerJobId := none
    sessionId := some (beampipeSessionId 1 0)
    remoteSessionDir := none
    stagingRoot := none
    workflowManifest := .obj []
    physicalGraph := some .null
    nextStatus := .running }

/-- The answers of a deployment in which nothing goes wrong. -/
def sampleAnswer : (question : External) → question.Answer
  | .executionSetup _ => .ok ⟨.restRemote, some (.ok (.restRemote none))⟩
  | .selectArchiveMetadata _ => .ok ()
  | .preflight _ _ => .ok ()
  | .validateSelectionProof _ => .ok ()
  | .buildManifest => .ok (.obj [])
  | .prepareGraph _ => .ok (.null, .null)
  | .submit _ _ _ _ => .submitted sampleReceipt
  | .pollPolicy => {}
  | .dimEndpoint _ => none
  | .dimPoll _ => .ok .mock
  | .slurmTarget _ => none
  | .slurmStates _ => .ok ⟨"RUNNING", .running, .squeue, none, none⟩
  | .reconcileTarget _ => .ok (.ok "target-1")
  | .findByName _ _ => ⟨"profile-1", 0, 0, 0, true, true, 0, .notFound⟩
  | .readOutputInventory _ _ => .rejected "no inventory"
  | .cancelSchedulerSession _ _ => .ok true
  | .resolveDeployment => .ok .restRemote
  | .otherJob => .ok ()
  | .clock => "2026-01-01T00:00:00Z"

/-- `count` answers to a process, with identifiers no other answer has. -/
def answered (pid position count : ℕ) (answer : (question : External) → question.Answer) :
    List ExecutionLabel :=
  (List.range' position count).map fun n =>
    let fresh := 1000000 * (pid + 1) + 3 * n
    .run pid ⟨.none, ⟨fresh, fresh + 1, fresh + 2⟩, [], answer⟩

/-! ### One answered request -/

section Perform

variable {pid : ℕ} {site : Site} {t : Tx} {q : External} {c : Choice} {l : Local} {s : Store}

/-- A transaction leaves the store alone and fails, or it commits what it means. -/
theorem Choice.transact_cases (c : Choice) (t : Tx) (s : Store) :
    ((∃ message, (c.transact t s).1 = .error message) ∧ (c.transact t s).2 = s) ∨
      ∃ s' result, t.run c.ids c.locked s = .ok (s', result) ∧ (c.transact t s).2 = s' ∧
        ((c.transact t s).1 = .ok result ∨
          ∃ message, (c.transact t s).1 = .error message) := by
  unfold Choice.transact
  cases hrun : t.run c.ids c.locked s with
  | error message => cases c.fault <;> simp
  | ok committed =>
      obtain ⟨s', result⟩ := committed
      cases c.fault <;> simp

/-- An acknowledged transaction has committed. -/
theorem Choice.run_of_transact_ok {result : t.Result} (h : (c.transact t s).1 = .ok result) :
    t.run c.ids c.locked s = .ok ((c.transact t s).2, result) := by
  unfold Choice.transact at h ⊢
  cases hrun : t.run c.ids c.locked s with
  | error message => cases hfault : c.fault <;> simp [hrun, hfault] at h
  | ok committed =>
      obtain ⟨s', committedResult⟩ := committed
      cases hfault : c.fault <;> simp_all

@[simp] theorem Event.of_pid (r : Request) : (Event.of pid l c s r).pid = pid := by
  cases r <;> rfl

@[simp] theorem Event.of_loc (r : Request) : (Event.of pid l c s r).loc = l := by
  cases r <;> rfl

@[simp] theorem Event.of_request (r : Request) : (Event.of pid l c s r).request = r := by
  cases r <;> rfl

@[simp] theorem Event.of_before (r : Request) : (Event.of pid l c s r).before = s := by
  cases r <;> rfl

@[simp] theorem Event.of_tx_after : (Event.of pid l c s (.tx site t)).after = (c.transact t s).2 :=
  rfl

@[simp] theorem Event.of_ask_after : (Event.of pid l c s (.ask site q)).after = s := rfl

@[simp] theorem Event.of_ask_began : (Event.of pid l c s (.ask site q)).began = none := rfl

/-- A transaction that returns a deadline has taken a submission. -/
theorem Event.began_of_ok {intent : SubmissionIntent} {deadline : ℕ}
    (h : (c.transact (.beginExecutionSubmission intent) s).1 = .ok (some deadline)) :
    (Event.of pid l c s (.tx site (.beginExecutionSubmission intent))).began =
      some s.row.retryCount := by
  simp only [Event.of, Event.began, h]

/-- A taken submission: the row was live, its submission was neither held nor taken by the store,
and now it is in flight. -/
theorem Event.began_of_tx {g : ℕ} (h : (Event.of pid l c s (.tx site t)).began = some g) :
    (∃ intent, t = .beginExecutionSubmission intent) ∧ g = s.row.retryCount ∧
      s.row.status.isTerminal = false ∧ s.row.submissionState.holdsAutomaticWork = false ∧
      (c.transact t s).2.row.retryCount = g ∧
      (c.transact t s).2.row.submissionState = .inFlight := by
  cases t with
  | beginExecutionSubmission intent =>
      cases hanswer : (c.transact (.beginExecutionSubmission intent) s).1 with
      | error message => simp [Event.of, Event.began, hanswer] at h
      | ok taken =>
          have hrun := Choice.run_of_transact_ok hanswer
          rcases (Store.beginExecutionSubmission_cases hrun).2 with
            ⟨rfl, -, -⟩ | ⟨hlive, hfree, deadline, observations, rfl, hs'⟩
          · simp [Event.of, Event.began, hanswer] at h
          · simp only [Event.of, Event.began, hanswer, Option.some.injEq] at h
            rw [hs']
            exact ⟨⟨intent, rfl⟩, h.symm, hlive, hfree, h, rfl⟩
  | _ => cases h

end Perform

end Beampipe
