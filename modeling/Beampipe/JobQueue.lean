/-
The job queue: rows of `jobs`, registered workers, and the lease operations on them.

Workers share one table of jobs.  A claim takes a due row, or a running row whose lease has run
out, and gives it a fresh lease token; the holder of the token renews the lease while it works and
closes it with one of four operations, each of which writes one event to `job_claim_history`.
Every operation is one transaction, so it is a function of the queue; the wall clock is a column
of the queue and `now()` reads it.

Main definitions:

* `Beampipe.JobRow`, `Beampipe.WorkerInstanceRow`, `Beampipe.ClaimEvent` — the rows;
* `Beampipe.JobQueue` — the three tables and the clock;
* `Beampipe.JobQueue.claimNextJobForWorker`, `Beampipe.JobQueue.renewJobLease` — taking and
  keeping a lease;
* `Beampipe.JobQueue.completeJobWithLease`, `Beampipe.JobQueue.rescheduleRecurringJobWithLease`,
  `Beampipe.JobQueue.failJobPermanentlyWithLease`, `Beampipe.JobQueue.failOrRetryJobWithLease` —
  the four ways to close one, all instances of `Beampipe.JobQueue.closeLease`;
* `Beampipe.JobQueue.insertJob`, `Beampipe.JobQueue.upsertRecurringJob`,
  `Beampipe.JobQueue.cancelExecuteJobs` — the other writers of the table.

Main results:

* `Beampipe.JobQueue.claimNextJobForWorker_cases`, `Beampipe.JobQueue.renewJobLease_cases`,
  `Beampipe.JobQueue.closeLease_cases` — everything the lease operations can do.
-/

import Beampipe.Json
import Mathlib.Data.List.Nodup
import Mathlib.Tactic.Basic

set_option relaxedAutoImplicit false
set_option autoImplicit false

namespace Beampipe

/-- A UUID, as a number. -/
abbrev Uuid := ℕ

/-- `(n || ' seconds')::INTERVAL` for a non-negative `n`; times are microseconds of the database
clock. -/
def seconds (n : ℤ) : ℕ := n.toNat * 1000000

/-- `jobs.kind`. -/
inductive JobKind where
  | execute
  | dimPoll
  | dimPollTick
  | slurmPollTick
  | schedulerTick
  | discoverBatch
  | executionSchedulerTick
  | other (name : String)
  deriving DecidableEq, Repr

/-- `jobs.status`, as `ck_job_status` restricts it. -/
inductive JobStatus where
  | queued
  | running
  | completed
  | failed
  | deadLetter
  | cancelled
  deriving DecidableEq, Repr

/-- The text of a status column. -/
def JobStatus.asStr : JobStatus → String
  | .queued => "queued"
  | .running => "running"
  | .completed => "completed"
  | .failed => "failed"
  | .deadLetter => "dead_letter"
  | .cancelled => "cancelled"

/-- The statuses an upsert of a recurring job puts back into the queue. -/
def JobStatus.isFinished : JobStatus → Bool
  | .completed | .failed | .deadLetter => true
  | .queued | .running | .cancelled => false

/-- A row of `jobs`. -/
structure JobRow where
  uuid : Uuid
  kind : JobKind
  payload : Json
  status : JobStatus
  executionId : Option Uuid
  attempts : ℕ
  maxAttempts : ℤ
  nextRunAt : ℕ
  lockedUntil : Option ℕ
  leaseOwner : Option Uuid
  leaseToken : Option Uuid
  leaseExpiresAt : Option ℕ
  heartbeatAt : Option ℕ
  pool : String
  requiredCapabilities : List String
  requiredLabels : List (String × String)
  priority : ℤ
  idempotencyKey : Option String
  lastError : Option String
  failureClass : Option String
  deadLetteredAt : Option ℕ
  deadLetterReason : Option String
  createdAt : ℕ
  updatedAt : Option ℕ
  deriving DecidableEq, Repr

/-- The columns an insert into `jobs` supplies. -/
structure NewJob where
  uuid : Uuid
  kind : JobKind
  payload : Json
  executionId : Option Uuid
  idempotencyKey : Option String
  nextRunAt : ℕ
  maxAttempts : ℤ
  pool : String
  requiredCapabilities : List String
  requiredLabels : List (String × String)
  priority : ℤ
  deriving DecidableEq, Repr

/-- The row an insert creates: the other columns take their defaults. -/
def NewJob.row (now : ℕ) (job : NewJob) : JobRow :=
  { uuid := job.uuid
    kind := job.kind
    payload := job.payload
    status := .queued
    executionId := job.executionId
    attempts := 0
    maxAttempts := job.maxAttempts
    nextRunAt := job.nextRunAt
    lockedUntil := none
    leaseOwner := none
    leaseToken := none
    leaseExpiresAt := none
    heartbeatAt := none
    pool := job.pool
    requiredCapabilities := job.requiredCapabilities
    requiredLabels := job.requiredLabels
    priority := job.priority
    idempotencyKey := job.idempotencyKey
    lastError := none
    failureClass := none
    deadLetteredAt := none
    deadLetterReason := none
    createdAt := now
    updatedAt := none }

/-- `worker_instances.status`. -/
inductive WorkerStatus where
  | active
  | draining
  | stopped
  | unhealthy
  deriving DecidableEq, Repr

/-- The columns of `worker_instances` that a claim reads. -/
structure WorkerInstanceRow where
  uuid : Uuid
  pool : String
  capabilities : List String
  labels : List (String × String)
  concurrencyLimit : ℤ
  status : WorkerStatus
  deriving DecidableEq, Repr

/-- `job_claim_history.event`, for the events this program writes. -/
inductive ClaimEventKind where
  | claimed
  | recovered
  | completed
  | requeued
  | failed
  | deadLettered
  | released
  deriving DecidableEq, Repr

/-- The event closes the lease whose token it carries. -/
def ClaimEventKind.isTerminal : ClaimEventKind → Bool
  | .claimed | .recovered => false
  | .completed | .requeued | .failed | .deadLettered | .released => true

/-- A row of `job_claim_history`. -/
structure ClaimEvent where
  jobId : Uuid
  workerId : Uuid
  leaseToken : Uuid
  event : ClaimEventKind
  details : Json
  deriving DecidableEq, Repr

/-- The event closes the lease with token `t`. -/
def ClaimEvent.closes (t : Uuid) (e : ClaimEvent) : Bool :=
  e.event.isTerminal && e.leaseToken == t

/-- The job tables and the clock. -/
structure JobQueue where
  now : ℕ
  workers : List WorkerInstanceRow
  jobs : List JobRow
  history : List ClaimEvent
  deriving DecidableEq, Repr

namespace JobRow

/-- The end of the lease: `COALESCE(lease_expires_at, locked_until)`. -/
def leaseDeadline (job : JobRow) : Option ℕ := job.leaseExpiresAt <|> job.lockedUntil

/-- `COALESCE(lease_expires_at, locked_until, '-infinity') > now()`. -/
def leaseUnexpired (now : ℕ) (job : JobRow) : Bool :=
  match job.leaseDeadline with
  | some deadline => now < deadline
  | none => false

/-- A nullable deadline column that has passed: `column IS NULL OR column <= now()`. -/
def pastOrNull (now : ℕ) : Option ℕ → Bool
  | some deadline => deadline ≤ now
  | none => true

/-- `status = 'running' AND lease_owner = $2 AND lease_token = $3` on the row `uuid = $1`. -/
def heldBy (jobId workerId leaseToken : Uuid) (job : JobRow) : Bool :=
  job.uuid == jobId && job.status == .running && job.leaseOwner == some workerId &&
    job.leaseToken == some leaseToken

/-- The candidate condition of a claim, apart from pool, capabilities and labels: a due queued
row without a live lock, or a running row whose lease has run out. -/
def claimable (now : ℕ) (job : JobRow) : Bool :=
  (job.status == .queued && decide (job.nextRunAt ≤ now) && pastOrNull now job.leaseExpiresAt &&
      pastOrNull now job.lockedUntil) ||
    (job.status == .running && !job.leaseUnexpired now)

/-- `priority + LEAST(1000, FLOOR(age / 300 s))`. -/
def agedPriority (now : ℕ) (job : JobRow) : ℤ :=
  job.priority + min 1000 (((now : ℤ) - job.createdAt) / 300000000)

/-- `ORDER BY aged priority DESC, next_run_at ASC, created_at ASC`: `a` comes before `b`. -/
def claimedBefore (now : ℕ) (a b : JobRow) : Bool :=
  decide (b.agedPriority now < a.agedPriority now) ||
    (a.agedPriority now == b.agedPriority now &&
      (decide (a.nextRunAt < b.nextRunAt) ||
        (a.nextRunAt == b.nextRunAt && decide (a.createdAt < b.createdAt))))

/-- The lease columns set to NULL. -/
def clearLease (job : JobRow) : JobRow :=
  { job with lockedUntil := none, leaseOwner := none, leaseToken := none, leaseExpiresAt := none,
             heartbeatAt := none }

/-- The columns a claim writes. -/
def takeLease (now : ℕ) (workerId leaseToken : Uuid) (lockSeconds : ℤ) (job : JobRow) :
    JobRow :=
  { job with
    status := .running
    attempts := job.attempts + 1
    leaseOwner := some workerId
    leaseToken := some leaseToken
    leaseExpiresAt := some (now + seconds (max lockSeconds 1))
    lockedUntil := some (now + seconds (max lockSeconds 1))
    heartbeatAt := some now
    updatedAt := some now }

/-- The columns a renewal writes. -/
def extendLease (now : ℕ) (lockSeconds : ℤ) (job : JobRow) : JobRow :=
  { job with
    leaseExpiresAt := some (now + seconds (max lockSeconds 1))
    lockedUntil := some (now + seconds (max lockSeconds 1))
    heartbeatAt := some now
    updatedAt := some now }

@[simp] theorem heldBy_iff {jobId workerId leaseToken : Uuid} {job : JobRow} :
    job.heldBy jobId workerId leaseToken = true ↔
      job.uuid = jobId ∧ job.status = .running ∧ job.leaseOwner = some workerId ∧
        job.leaseToken = some leaseToken := by
  simp [heldBy, and_assoc]

end JobRow

/-- The first row of `ORDER BY … LIMIT 1`; rows that tie come in table order. -/
def firstInOrder {α : Type*} (before : α → α → Bool) : List α → Option α
  | [] => none
  | a :: rest =>
      match firstInOrder before rest with
      | none => some a
      | some b => if before b a then some b else some a

theorem firstInOrder_mem {α : Type*} {before : α → α → Bool} {rows : List α} {a : α}
    (h : firstInOrder before rows = some a) : a ∈ rows := by
  induction rows generalizing a with
  | nil => simp [firstInOrder] at h
  | cons b rest ih =>
      rw [firstInOrder] at h
      split at h
      next => simp_all
      next c hc =>
        split at h
        · exact List.mem_cons_of_mem b (ih (hc.trans h))
        · simp_all

namespace JobQueue

/-- `UPDATE jobs SET … WHERE …`. -/
def updateWhere (q : JobQueue) (p : JobRow → Bool) (set : JobRow → JobRow) : JobQueue :=
  { q with jobs := q.jobs.map fun job => if p job then set job else job }

@[simp] theorem updateWhere_now (q : JobQueue) (p : JobRow → Bool) (set : JobRow → JobRow) :
    (q.updateWhere p set).now = q.now := rfl

@[simp] theorem updateWhere_history (q : JobQueue) (p : JobRow → Bool) (set : JobRow → JobRow) :
    (q.updateWhere p set).history = q.history := rfl

@[simp] theorem updateWhere_workers (q : JobQueue) (p : JobRow → Bool) (set : JobRow → JobRow) :
    (q.updateWhere p set).workers = q.workers := rfl

theorem mem_updateWhere {q : JobQueue} {p : JobRow → Bool} {set : JobRow → JobRow}
    {job : JobRow} :
    job ∈ (q.updateWhere p set).jobs ↔
      ∃ old ∈ q.jobs, job = if p old then set old else old := by
  rw [updateWhere, List.mem_map]
  constructor
  · rintro ⟨old, hold, rfl⟩
    exact ⟨old, hold, rfl⟩
  · rintro ⟨old, hold, rfl⟩
    exact ⟨old, hold, rfl⟩

/-- An update that no row matches changes nothing. -/
theorem updateWhere_of_forall_not {q : JobQueue} {p : JobRow → Bool} {set : JobRow → JobRow}
    (h : ∀ job ∈ q.jobs, ¬p job) : q.updateWhere p set = q := by
  have hjobs : (q.jobs.map fun job => if p job then set job else job) = q.jobs := by
    refine (List.map_congr_left fun job hjob => ?_).trans (List.map_id q.jobs)
    simp [h job hjob]
  rw [updateWhere, hjobs]

/-! ### Claiming -/

/-- The unexpired leases of one worker. -/
def workerActiveLeases (q : JobQueue) (workerId : Uuid) : ℕ :=
  q.jobs.countP fun job =>
    job.status == .running && job.leaseOwner == some workerId && job.leaseUnexpired q.now

/-- The unexpired leases in one pool. -/
def poolActiveLeases (q : JobQueue) (pool : String) : ℕ :=
  q.jobs.countP fun job => job.pool == pool && job.status == .running && job.leaseUnexpired q.now

/-- The summed concurrency limits of the active workers of a pool. -/
def poolConcurrencyLimit (q : JobQueue) (pool : String) : ℤ :=
  (q.workers.filter fun w => w.pool == pool && w.status == .active).foldl
    (fun total w => total + w.concurrencyLimit) 0

/-- The candidate row of a claim.  Rows in `locked` are skipped (`SKIP LOCKED`): another
transaction holds them. -/
def nextCandidate (q : JobQueue) (worker : WorkerInstanceRow) (locked : List Uuid) :
    Option JobRow :=
  firstInOrder (JobRow.claimedBefore q.now) <| q.jobs.filter fun job =>
    job.pool == worker.pool && job.requiredCapabilities.all worker.capabilities.contains &&
      job.requiredLabels.all worker.labels.contains && job.claimable q.now &&
      !locked.contains job.uuid

/-- A nullable identifier in an event's details. -/
def uuidJson : Option Uuid → Json
  | some id => .num (.int id)
  | none => .null

/-- `claim_next_job_for_worker`.  The caller supplies the fresh lease token. -/
def claimNextJobForWorker (q : JobQueue) (workerId : Uuid) (workerPool : String)
    (lockSeconds : ℤ) (leaseToken : Uuid) (locked : List Uuid) : JobQueue × Option JobRow :=
  match q.workers.find? fun w =>
      w.uuid == workerId && w.status == .active && w.pool == workerPool with
  | none => (q, none)
  | some worker =>
      if worker.concurrencyLimit ≤ q.workerActiveLeases workerId then (q, none)
      else if q.poolConcurrencyLimit workerPool < 1 ∨
          q.poolConcurrencyLimit workerPool ≤ q.poolActiveLeases workerPool then (q, none)
      else
        match q.nextCandidate worker locked with
        | none => (q, none)
        | some job =>
            let event : ClaimEvent :=
              { jobId := job.uuid
                workerId := workerId
                leaseToken := leaseToken
                event := if job.status = .running then .recovered else .claimed
                details := .obj
                  [("previous_status", .str job.status.asStr),
                   ("previous_owner", uuidJson job.leaseOwner),
                   ("previous_lease_token", uuidJson job.leaseToken)] }
            let claim := JobRow.takeLease q.now workerId leaseToken lockSeconds
            let claimed := q.updateWhere (fun row => row.uuid == job.uuid) claim
            ({ claimed with history := q.history ++ [event] }, some (claim job))

/-- `renew_job_lease`. -/
def renewJobLease (q : JobQueue) (jobId workerId leaseToken : Uuid) (lockSeconds : ℤ) :
    JobQueue × Bool :=
  let renewable := fun job : JobRow =>
    job.heldBy jobId workerId leaseToken &&
      job.leaseExpiresAt.any fun deadline => decide (q.now < deadline)
  (q.updateWhere renewable (JobRow.extendLease q.now lockSeconds), q.jobs.any renewable)

/-! ### Closing a lease -/

/-- The shape the four closing operations share: the row held under the presented owner and token
is written by `set`, loses its lease, and `record_claim_terminal_event` adds one event. -/
def closeLease (q : JobQueue) (jobId workerId leaseToken : Uuid) (set : JobRow → JobRow)
    (event : JobRow → ClaimEventKind) (details : Json) : JobQueue × Bool :=
  match q.jobs.find? (JobRow.heldBy jobId workerId leaseToken) with
  | none => (q, false)
  | some job =>
      let closed := q.updateWhere (JobRow.heldBy jobId workerId leaseToken) fun row =>
        { (set row).clearLease with updatedAt := some q.now }
      let terminal : ClaimEvent :=
        { jobId := jobId, workerId := workerId, leaseToken := leaseToken, event := event job,
          details := details }
      ({ closed with history := q.history ++ [terminal] }, true)

/-- `complete_job_with_lease`. -/
def completeJobWithLease (q : JobQueue) (jobId workerId leaseToken : Uuid) : JobQueue × Bool :=
  q.closeLease jobId workerId leaseToken (fun job => { job with status := .completed })
    (fun _ => .completed) (.obj [])

/-- `reschedule_recurring_job_with_lease`. -/
def rescheduleRecurringJobWithLease (q : JobQueue) (jobId workerId leaseToken : Uuid)
    (delaySecs : ℤ) : JobQueue × Bool :=
  q.closeLease jobId workerId leaseToken
    (fun job =>
      { job with
        status := .queued
        nextRunAt := q.now + seconds (max delaySecs 1)
        attempts := 0
        lastError := none
        failureClass := none })
    (fun _ => .requeued)
    (.obj [("delay_seconds", .num (.int (max delaySecs 1))), ("recurring", .bool true)])

/-- `fail_job_permanently_with_lease`. -/
def failJobPermanentlyWithLease (q : JobQueue) (jobId workerId leaseToken : Uuid)
    (error failureClass : String) : JobQueue × Bool :=
  q.closeLease jobId workerId leaseToken
    (fun job =>
      { job with status := .failed, lastError := some error, failureClass := some failureClass })
    (fun _ => .failed) (.obj [("failure_class", .str failureClass)])

/-- `attempts >= max_attempts`: the next failure dead-letters the job. -/
def attemptsExhausted (job : JobRow) : Bool := job.maxAttempts ≤ job.attempts

/-- `fail_or_retry_job_with_lease`. -/
def failOrRetryJobWithLease (q : JobQueue) (jobId workerId leaseToken : Uuid)
    (error failureClass : String) (retryDelaySeconds : ℤ) : JobQueue × Bool :=
  q.closeLease jobId workerId leaseToken
    (fun job =>
      { job with
        status := if attemptsExhausted job then .deadLetter else .queued
        nextRunAt := q.now + seconds (max retryDelaySeconds 1)
        lastError := some error
        failureClass := some failureClass
        deadLetteredAt := if attemptsExhausted job then some q.now else none
        deadLetterReason := if attemptsExhausted job then some error else none })
    (fun job => if attemptsExhausted job then .deadLettered else .requeued)
    (.obj [("failure_class", .str failureClass),
           ("retry_delay_seconds", .num (.int (max retryDelaySeconds 1)))])

/-! ### The other writers of `jobs` -/

/-- The partial unique index `uq_jobs_idempotency_key`: the row already holds the key. -/
def hasKey (key : Option String) (job : JobRow) : Bool :=
  key.isSome && job.idempotencyKey == key

/-- `INSERT INTO jobs … ON CONFLICT (idempotency_key) DO UPDATE SET updated_at = now()`.  A second
row under one primary key aborts the statement, which leaves the table as it was. -/
def insertJob (q : JobQueue) (job : NewJob) : JobQueue :=
  if q.jobs.any (hasKey job.idempotencyKey) then
    q.updateWhere (hasKey job.idempotencyKey) fun row => { row with updatedAt := some q.now }
  else if q.jobs.any (fun row => row.uuid == job.uuid) then q
  else { q with jobs := q.jobs ++ [job.row q.now] }

/-- The conflict branch of `enqueue_recurring_job_with_options` on one row. -/
def refreshRecurringJob (now : ℕ) (job : NewJob) (row : JobRow) : JobRow :=
  let updated : JobRow :=
    { row with
      payload := job.payload
      pool := job.pool
      requiredCapabilities := job.requiredCapabilities
      requiredLabels := job.requiredLabels
      priority := job.priority
      updatedAt := some now }
  if row.status.isFinished then
    { updated.clearLease with
      status := .queued
      nextRunAt := now
      attempts := 0
      lastError := none
      failureClass := none
      deadLetteredAt := none
      deadLetterReason := none }
  else updated

/-- `enqueue_recurring_job_with_options`: as an insert, but a conflicting row takes the new
payload and requirements, and a finished one goes back into the queue without a lease. -/
def upsertRecurringJob (q : JobQueue) (job : NewJob) : JobQueue :=
  if q.jobs.any (hasKey job.idempotencyKey) then
    q.updateWhere (hasKey job.idempotencyKey) (refreshRecurringJob q.now job)
  else if q.jobs.any (fun row => row.uuid == job.uuid) then q
  else { q with jobs := q.jobs ++ [job.row q.now] }

/-- The execute jobs of an execution that a cancellation or an abandonment takes out of work. -/
def isOpenExecuteJob (executionId : Uuid) (job : JobRow) : Bool :=
  job.executionId == some executionId && job.kind == .execute &&
    (job.status == .queued || job.status == .running)

/-- The job update of a cancellation: open execute jobs become `cancelled` without a lease. -/
def cancelExecuteJobs (q : JobQueue) (executionId : Uuid) : JobQueue :=
  q.updateWhere (isOpenExecuteJob executionId) fun job =>
    { job.clearLease with
      status := .cancelled, lastError := none, failureClass := none, updatedAt := some q.now }

/-! ### What the lease operations can do -/

/-- A claim either takes nothing and changes nothing, or takes one claimable row. -/
theorem claimNextJobForWorker_cases (q : JobQueue) (workerId : Uuid) (workerPool : String)
    (lockSeconds : ℤ) (leaseToken : Uuid) (locked : List Uuid) :
    q.claimNextJobForWorker workerId workerPool lockSeconds leaseToken locked = (q, none) ∨
      ∃ job ∈ q.jobs, ∃ event : ClaimEvent,
        job.claimable q.now ∧ event.leaseToken = leaseToken ∧ event.event.isTerminal = false ∧
        q.claimNextJobForWorker workerId workerPool lockSeconds leaseToken locked =
          ({ q.updateWhere (fun row => row.uuid == job.uuid)
                (JobRow.takeLease q.now workerId leaseToken lockSeconds) with
              history := q.history ++ [event] },
            some (JobRow.takeLease q.now workerId leaseToken lockSeconds job)) := by
  rw [claimNextJobForWorker]
  split
  next => exact Or.inl rfl
  next worker _ =>
    split
    · exact Or.inl rfl
    split
    · exact Or.inl rfl
    split
    next => exact Or.inl rfl
    next job hjob =>
      have hmem := List.mem_filter.mp (firstInOrder_mem hjob)
      refine Or.inr ⟨job, hmem.1, _, ?_, rfl, ?_, rfl⟩
      · have hclaim := hmem.2
        simp only [Bool.and_eq_true] at hclaim
        exact hclaim.1.2
      · by_cases hrun : job.status = .running <;> simp [hrun, ClaimEventKind.isTerminal]

/-- A renewal either finds no live lease under the presented pair and changes nothing, or extends
that lease. -/
theorem renewJobLease_cases (q : JobQueue) (jobId workerId leaseToken : Uuid) (lockSeconds : ℤ) :
    q.renewJobLease jobId workerId leaseToken lockSeconds = (q, false) ∨
      (∃ job ∈ q.jobs, ∃ deadline, job.heldBy jobId workerId leaseToken ∧
        job.leaseExpiresAt = some deadline ∧ q.now < deadline) ∧
      q.renewJobLease jobId workerId leaseToken lockSeconds =
        (q.updateWhere
          (fun job => job.heldBy jobId workerId leaseToken &&
            job.leaseExpiresAt.any fun deadline => decide (q.now < deadline))
          (JobRow.extendLease q.now lockSeconds), true) := by
  by_cases h : ∃ job ∈ q.jobs, ∃ deadline, job.heldBy jobId workerId leaseToken ∧
      job.leaseExpiresAt = some deadline ∧ q.now < deadline
  · refine Or.inr ⟨h, ?_⟩
    obtain ⟨job, hjob, deadline, hheld, hdeadline, hlt⟩ := h
    have hany : q.jobs.any (fun job => job.heldBy jobId workerId leaseToken &&
        job.leaseExpiresAt.any fun deadline => decide (q.now < deadline)) = true :=
      List.any_eq_true.mpr ⟨job, hjob, by simp [hheld, hdeadline, hlt]⟩
    simp only [renewJobLease, hany]
  · have hnone : ∀ job ∈ q.jobs, ¬(job.heldBy jobId workerId leaseToken &&
        job.leaseExpiresAt.any fun deadline => decide (q.now < deadline)) := by
      intro job hjob hp
      simp only [Bool.and_eq_true, Option.any_eq_true, decide_eq_true_eq] at hp
      obtain ⟨hheld, deadline, hdeadline, hlt⟩ := hp
      exact h ⟨job, hjob, deadline, hheld, hdeadline, hlt⟩
    refine Or.inl ?_
    simp only [renewJobLease, updateWhere_of_forall_not hnone, Prod.mk.injEq, true_and]
    simpa using hnone

/-- Closing a lease either finds no running row under the presented pair and changes nothing, or
writes that row and one event that closes the presented token. -/
theorem closeLease_cases (q : JobQueue) (jobId workerId leaseToken : Uuid)
    (set : JobRow → JobRow) (event : JobRow → ClaimEventKind) (details : Json) :
    q.closeLease jobId workerId leaseToken set event details = (q, false) ∧
        (∀ job ∈ q.jobs, ¬job.heldBy jobId workerId leaseToken) ∨
      ∃ job ∈ q.jobs, job.heldBy jobId workerId leaseToken ∧
        q.closeLease jobId workerId leaseToken set event details =
          ({ q.updateWhere (JobRow.heldBy jobId workerId leaseToken) (fun row =>
                { (set row).clearLease with updatedAt := some q.now }) with
              history := q.history ++
                [⟨jobId, workerId, leaseToken, event job, details⟩] }, true) := by
  cases hfind : q.jobs.find? (JobRow.heldBy jobId workerId leaseToken) with
  | none =>
      refine Or.inl ⟨by simp [closeLease, hfind], ?_⟩
      exact List.find?_eq_none.mp hfind
  | some job =>
      refine Or.inr ⟨job, List.mem_of_find?_eq_some hfind, List.find?_some hfind, ?_⟩
      simp [closeLease, hfind]

end JobQueue

end Beampipe
