/-
Workers at work: a job is dispatched by one consumer at a time.

A worker process runs several consumers.  Each of them claims a job, dispatches it to its handler
while a timer renews the lease every third of its length, and closes the lease by the outcome; a
renewal that finds the lease gone drops the handler where it stands.  Nothing but the length of the
lease keeps a second consumer away in the meantime, so what follows is about time: as long as every
consumer acts on its timer within a delay that fits between the renewals and the end of the lease,
its job cannot be claimed by anybody else, and a cancelled job is left within one period of the
timer.

The clock of the database and the timers of the workers are one clock.

Main definitions:

* `Beampipe.ConsumerPhase`, `Beampipe.Consumer` — a consumer on its way through `tick_for_worker`;
* `Beampipe.WorkerSystem` — the lease system together with any number of consumers;
* `Beampipe.WorkerSystem.step` — one step of a consumer, of another writer of the tables, or of the
  clock;
* `Beampipe.WorkerSystem.Prompt` — timers are acted upon in time.

Main results:

* `Beampipe.WorkerSystem.Inv.step` — what every prompt step keeps;
* `Beampipe.dispatch_exclusive` — **no two consumers work on one job, and no claim takes a job that
  is being worked on**;
* `Beampipe.cancelled_job_left` — **a cancelled job is left within one renewal period**.
-/

import Beampipe.JobAttempts
import Beampipe.Processes

set_option relaxedAutoImplicit false
set_option autoImplicit false

namespace Beampipe

/-! ### Consumers -/

/-- The period of the renewals, `config.lock_seconds / 3` but at least one second. -/
def renewalSeconds (lockSeconds : ℤ) : ℤ := max (lockSeconds.tdiv 3) 1

/-- The part of the worker's configuration that its consumers use on a lease. -/
structure ConsumerConfig where
  workerId : Uuid
  pool : String
  lockSeconds : ℤ
  deriving DecidableEq, Repr

namespace ConsumerConfig

/-- The time between two renewals. -/
def renewalPeriod (config : ConsumerConfig) : ℕ := seconds (renewalSeconds config.lockSeconds)

/-- The time a claim or a renewal grants. -/
def leasePeriod (config : ConsumerConfig) : ℕ := seconds (max config.lockSeconds 1)

end ConsumerConfig

/-- Where a consumer stands in `tick_for_worker`. -/
inductive ConsumerPhase where
  | polling
  /-- The claim has answered, the handler has not been started. -/
  | claimed (job : JobRow) (leaseToken : Uuid) (since : ℕ)
  /-- Inside `dispatch_with_lease`: the handler runs and the timer is set. -/
  | dispatching (job : JobRow) (leaseToken : Uuid) (nextRenewal : ℕ)
  /-- The handler has answered, the lease has not been closed. -/
  | dispatched (job : JobRow) (leaseToken : Uuid) (result : Except String Unit)

/-- One of the parallel consumers of a worker. -/
structure Consumer where
  config : ConsumerConfig
  phase : ConsumerPhase

namespace Consumer

/-- The job the consumer is working on. -/
def worksOn (c : Consumer) : Option JobRow :=
  match c.phase with
  | .claimed job _ _ | .dispatching job _ _ => some job
  | .polling | .dispatched _ _ _ => none

/-- The token the consumer will present. -/
def token (c : Consumer) : Option Uuid :=
  match c.phase with
  | .claimed _ leaseToken _ | .dispatching _ leaseToken _ | .dispatched _ leaseToken _ =>
      some leaseToken
  | .polling => none

/-- When the consumer has to act next to keep its lease. -/
def due (c : Consumer) : Option ℕ :=
  match c.phase with
  | .claimed _ _ since => some since
  | .dispatching _ _ nextRenewal => some nextRenewal
  | .polling | .dispatched _ _ _ => none

end Consumer

/-- The operation by which a consumer closes the lease of a job. -/
def closingOp (job : JobRow) (workerId leaseToken : Uuid) : Except String Unit → QueueOp
  | .ok () =>
      if job.kind = .slurmPollTick ∨ job.kind = .dimPollTick then
        .reschedule job.uuid workerId leaseToken
          (((job.payload.get "interval_secs").bind Json.asI64).getD
            (if job.kind = .dimPollTick then 3 else 30))
      else .complete job.uuid workerId leaseToken
  | .error error =>
      if isNonRetryableJobError job.kind error then
        .failPermanently job.uuid workerId leaseToken error (classifyJobFailure job.kind error)
      else
        .failOrRetry job.uuid workerId leaseToken error (classifyJobFailure job.kind error)
          (retryDelaySeconds job)

/-! ### The system -/

/-- The tables with the granted leases, and the consumers of all workers. -/
structure WorkerSystem where
  leases : LeaseSystem
  consumers : List Consumer

/-- One step.  `replyLost` is a transaction that was carried out although its caller sees a
database error. -/
inductive WorkerStep where
  | spawn (config : ConsumerConfig)
  | claim (i : ℕ) (leaseToken : Uuid) (locked : List Uuid) (replyLost : Bool)
  | begin (i : ℕ)
  | renew (i : ℕ) (replyLost : Bool)
  | finish (i : ℕ) (result : Except String Unit)
  | close (i : ℕ)
  /-- A database error without effect, an aborted task, a process that dies. -/
  | drop (i : ℕ)
  /-- Another writer of the tables, or the clock. -/
  | queue (op : QueueOp)

namespace WorkerSystem

/-- The time. -/
def now (s : WorkerSystem) : ℕ := s.leases.queue.now

/-- The rows of `jobs`. -/
def jobs (s : WorkerSystem) : List JobRow := s.leases.queue.jobs

/-- Empty tables and no worker at time `now`. -/
def initial (now : ℕ) : WorkerSystem := ⟨LeaseSystem.initial now, []⟩

/-- The consumer `i` moves on. -/
def moveTo (s : WorkerSystem) (i : ℕ) (c : Consumer) (phase : ConsumerPhase) : WorkerSystem :=
  { s with consumers := s.consumers.set i { c with phase := phase } }

/-- A transaction on the tables. -/
def transact (s : WorkerSystem) (op : QueueOp) : WorkerSystem :=
  { s with leases := s.leases.step op }

/-- The phase after the answer of a claim. -/
def afterClaim (now : ℕ) (answer : Option JobRow) : ConsumerPhase :=
  match answer with
  | none => .polling
  | some job =>
      match job.leaseToken with
      | none => .polling
      | some leaseToken => .claimed job leaseToken now

/-- `claim_next_job_for_worker`, called by the consumer `c` that is polling. -/
def claimBy (s : WorkerSystem) (i : ℕ) (c : Consumer) (leaseToken : Uuid) (locked : List Uuid)
    (replyLost : Bool) : WorkerSystem :=
  let answer := (s.leases.queue.claimNextJobForWorker c.config.workerId c.config.pool
    c.config.lockSeconds leaseToken locked).2
  (s.transact (.claim c.config.workerId c.config.pool c.config.lockSeconds leaseToken
      locked)).moveTo i c (if replyLost then .polling else afterClaim s.now answer)

/-- The branch of `dispatch_with_lease` that the timer takes, on the lease of `job`.  A timer that
was late is next due as if it had not been. -/
def renewBy (s : WorkerSystem) (i : ℕ) (c : Consumer) (job : JobRow) (leaseToken : Uuid)
    (nextRenewal : ℕ) (replyLost : Bool) : WorkerSystem :=
  let answer := (s.leases.queue.renewJobLease job.uuid c.config.workerId leaseToken
    c.config.lockSeconds).2
  (s.transact (.renew job.uuid c.config.workerId leaseToken c.config.lockSeconds)).moveTo i c
    (if answer && !replyLost then
      .dispatching job leaseToken (nextRenewal + c.config.renewalPeriod)
    else .polling)

/-- One step of the consumer `c`, the one with index `i`. -/
def consumerStep (s : WorkerSystem) (i : ℕ) (c : Consumer) : WorkerStep → WorkerSystem
  | .claim _ leaseToken locked replyLost =>
      match c.phase with
      | .polling => s.claimBy i c leaseToken locked replyLost
      | _ => s
  | .begin _ =>
      match c.phase with
      | .claimed job leaseToken _ =>
          s.moveTo i c (.dispatching job leaseToken (s.now + c.config.renewalPeriod))
      | _ => s
  | .renew _ replyLost =>
      match c.phase with
      | .dispatching job leaseToken nextRenewal =>
          if nextRenewal ≤ s.now then s.renewBy i c job leaseToken nextRenewal replyLost else s
      | _ => s
  | .finish _ result =>
      match c.phase with
      | .dispatching job leaseToken _ => s.moveTo i c (.dispatched job leaseToken result)
      | _ => s
  | .close _ =>
      match c.phase with
      | .dispatched job leaseToken result =>
          (s.transact (closingOp job c.config.workerId leaseToken result)).moveTo i c .polling
      | _ => s
  | .drop _ => s.moveTo i c .polling
  | .spawn _ | .queue _ => s

end WorkerSystem

/-- The operation belongs to a consumer: it claims, or it presents a lease. -/
def QueueOp.byConsumer (op : QueueOp) : Bool := op.presents.isSome || op.freshToken.isSome

namespace WorkerSystem

/-- One step of the system. -/
def step (s : WorkerSystem) (w : WorkerStep) : WorkerSystem :=
  match w with
  | .spawn config => { s with consumers := s.consumers ++ [⟨config, .polling⟩] }
  | .queue op => if op.byConsumer then s else s.transact op
  | .claim i _ _ _ | .begin i | .renew i _ | .finish i _ | .close i | .drop i =>
      match s.consumers[i]? with
      | none => s
      | some c => s.consumerStep i c w

end WorkerSystem

/-- The fresh token a step brings. -/
def WorkerStep.freshToken : WorkerStep → Option Uuid
  | .claim _ leaseToken _ _ => some leaseToken
  | _ => none

/-- The tokens that the claims of a run bring. -/
def workerTokens (steps : List WorkerStep) : List Uuid := steps.filterMap WorkerStep.freshToken

namespace WorkerSystem

/-- The system after `steps` from empty tables at time `now`. -/
def run (now : ℕ) (steps : List WorkerStep) : WorkerSystem := Runs.exec step (initial now) steps

/-- A claim brings a token that was never issued before. -/
def Fresh (s : WorkerSystem) (w : WorkerStep) : Prop := ∀ t ∈ w.freshToken, t ∉ s.leases.issued

/-- A consumer acts at most `delay` after its time, and leaves room for that in its lease. -/
def Prompt (delay : ℕ) (s : WorkerSystem) : WorkerStep → Prop
  | .spawn config => config.renewalPeriod + 2 * delay < config.leasePeriod
  | .queue (.advance elapsed) =>
      ∀ c ∈ s.consumers, ∀ due ∈ c.due, s.now + elapsed ≤ due + delay
  | _ => True

instance (delay : ℕ) (s : WorkerSystem) (w : WorkerStep) : Decidable (Prompt delay s w) := by
  unfold Prompt
  split <;> infer_instance

end WorkerSystem

/-! ### What a transaction leaves alone -/

/-- How far an operation moves the clock. -/
def QueueOp.elapsed : QueueOp → ℕ
  | .advance elapsed => elapsed
  | _ => 0

namespace JobQueue

theorem closeLease_now (q : JobQueue) (jobId workerId leaseToken : Uuid) (set : JobRow → JobRow)
    (event : JobRow → ClaimEventKind) (details : Json) :
    (q.closeLease jobId workerId leaseToken set event details).1.now = q.now := by
  rcases q.closeLease_cases jobId workerId leaseToken set event details with
    ⟨hsame, -⟩ | ⟨job, -, -, hclosed⟩
  · rw [hsame]
  · rw [hclosed]
    rfl

/-- Only `advance` moves the clock. -/
theorem step_now (q : JobQueue) (op : QueueOp) : (q.step op).now = q.now + op.elapsed := by
  cases op with
  | claim workerId workerPool lockSeconds leaseToken locked =>
      rcases q.claimNextJobForWorker_cases workerId workerPool lockSeconds leaseToken locked with
        hnone | ⟨job, -, event, -, -, -, hsome⟩
      · simp only [step, hnone, QueueOp.elapsed, Nat.add_zero]
      · simp only [step, hsome, QueueOp.elapsed, Nat.add_zero, updateWhere_now]
  | renew jobId workerId leaseToken lockSeconds => rfl
  | complete jobId workerId leaseToken => exact closeLease_now q _ _ _ _ _ _
  | reschedule jobId workerId leaseToken delaySecs => exact closeLease_now q _ _ _ _ _ _
  | failPermanently jobId workerId leaseToken error failureClass =>
      exact closeLease_now q _ _ _ _ _ _
  | failOrRetry jobId workerId leaseToken error failureClass retryDelaySeconds =>
      exact closeLease_now q _ _ _ _ _ _
  | enqueue job =>
      simp only [step, insertJob, QueueOp.elapsed, Nat.add_zero]
      split_ifs <;> rfl
  | enqueueRecurring job =>
      simp only [step, upsertRecurringJob, QueueOp.elapsed, Nat.add_zero]
      split_ifs <;> rfl
  | cancelExecute executionId => rfl
  | registerWorkers workers => rfl
  | advance elapsed => rfl

/-- The job has been cancelled. -/
def Cancelled (q : JobQueue) (jobId : Uuid) : Prop :=
  ∃ job ∈ q.jobs, job.uuid = jobId ∧ job.status = .cancelled

theorem cancelled_updateWhere {q : JobQueue} {jobId : Uuid} (h : q.Cancelled jobId)
    {p : JobRow → Bool} {set : JobRow → JobRow}
    (hset : ∀ job ∈ q.jobs, job.uuid = jobId → job.status = .cancelled → p job →
      (set job).uuid = jobId ∧ (set job).status = .cancelled) :
    (q.updateWhere p set).Cancelled jobId := by
  obtain ⟨job, hjob, huuid, hstatus⟩ := h
  refine ⟨_, mem_updateWhere.mpr ⟨job, hjob, rfl⟩, ?_⟩
  by_cases hp : p job
  · rw [if_pos hp]
    exact hset job hjob huuid hstatus hp
  · rw [if_neg hp]
    exact ⟨huuid, hstatus⟩

theorem cancelled_of_jobs_eq {q q' : JobQueue} {jobId : Uuid} (h : q.Cancelled jobId)
    (hjobs : q'.jobs = q.jobs) : q'.Cancelled jobId := by
  unfold Cancelled
  rw [hjobs]
  exact h

/-- A cancelled row is not held by anybody. -/
theorem not_heldBy_of_cancelled {job : JobRow} (h : job.status = .cancelled)
    {jobId workerId leaseToken : Uuid} : ¬job.heldBy jobId workerId leaseToken := by
  intro hheld
  have hrunning := (JobRow.heldBy_iff.mp hheld).2.1
  rw [h] at hrunning
  cases hrunning

theorem cancelled_closeLease {q : JobQueue} {jobId : Uuid} (h : q.Cancelled jobId)
    (id workerId leaseToken : Uuid) (set : JobRow → JobRow) (event : JobRow → ClaimEventKind)
    (details : Json) : (q.closeLease id workerId leaseToken set event details).1.Cancelled jobId := by
  rcases q.closeLease_cases id workerId leaseToken set event details with
    ⟨hsame, -⟩ | ⟨job, -, -, hclosed⟩
  · rwa [hsame]
  · rw [hclosed]
    exact cancelled_updateWhere h fun row _ _ hstatus hheld =>
      absurd hheld (not_heldBy_of_cancelled hstatus)

theorem cancelled_append {q : JobQueue} {jobId : Uuid} (h : q.Cancelled jobId) (jobs : List JobRow) :
    Cancelled { q with jobs := q.jobs ++ jobs } jobId := by
  obtain ⟨job, hjob, hrow⟩ := h
  exact ⟨job, List.mem_append_left _ hjob, hrow⟩

/-- **A cancelled job stays cancelled.** -/
theorem cancelled_step {q : JobQueue} (hkeys : q.Keyed) {jobId : Uuid} (h : q.Cancelled jobId)
    (op : QueueOp) : (q.step op).Cancelled jobId := by
  cases op with
  | claim workerId workerPool lockSeconds leaseToken locked =>
      simp only [step]
      rcases q.claimNextJobForWorker_cases workerId workerPool lockSeconds leaseToken locked with
        hnone | ⟨job, hjob, event, hclaim, -, -, hsome⟩
      · rwa [hnone]
      · rw [hsome]
        -- the row that is taken is claimable, so it is another one
        refine cancelled_updateWhere h fun row hrow huuid hstatus hp => ?_
        obtain rfl := LeaseSystem.mem_eq_of_uuid hkeys hrow hjob (beq_iff_eq.mp hp)
        simp [JobRow.claimable, hstatus] at hclaim
  | renew id workerId leaseToken lockSeconds =>
      refine cancelled_updateWhere h fun row _ _ hstatus hp => ?_
      exact absurd (Bool.and_eq_true_iff.mp hp).1 (not_heldBy_of_cancelled hstatus)
  | complete id workerId leaseToken => exact cancelled_closeLease h _ _ _ _ _ _
  | reschedule id workerId leaseToken delaySecs => exact cancelled_closeLease h _ _ _ _ _ _
  | failPermanently id workerId leaseToken error failureClass =>
      exact cancelled_closeLease h _ _ _ _ _ _
  | failOrRetry id workerId leaseToken error failureClass retryDelaySeconds =>
      exact cancelled_closeLease h _ _ _ _ _ _
  | enqueue job =>
      simp only [step, insertJob]
      split_ifs
      · exact cancelled_updateWhere h fun row _ huuid hstatus _ => ⟨huuid, hstatus⟩
      · exact h
      · exact cancelled_append h _
  | enqueueRecurring job =>
      simp only [step, upsertRecurringJob]
      split_ifs
      · refine cancelled_updateWhere h fun row _ huuid hstatus _ => ?_
        rw [refreshRecurringJob, if_neg (by simp [hstatus, JobStatus.isFinished])]
        exact ⟨huuid, hstatus⟩
      · exact h
      · exact cancelled_append h _
  | cancelExecute executionId =>
      exact cancelled_updateWhere h fun row _ huuid _ _ => ⟨huuid, rfl⟩
  | registerWorkers workers => exact cancelled_of_jobs_eq h rfl
  | advance elapsed => exact cancelled_of_jobs_eq h rfl

end JobQueue

namespace LeaseSystem

theorem mem_afterClose {s : LeaseSystem} {l : Lease} (hl : l ∈ s.leases) {leaseToken : Uuid}
    (hne : leaseToken ≠ l.leaseToken) (result : JobQueue × Bool) :
    l ∈ (s.afterClose leaseToken result).leases := by
  rw [afterClose]
  cases result.2 with
  | false => exact hl
  | true =>
      refine List.mem_filter.mpr ⟨hl, ?_⟩
      simpa using fun h => hne h.symm

/-- A lease stays as it is while others present theirs. -/
theorem mem_leases_step {s : LeaseSystem} {l : Lease} (hl : l ∈ s.leases) {op : QueueOp}
    (hop : ∀ p, op.presents = some p → p.2.2 ≠ l.leaseToken) : l ∈ (s.step op).leases := by
  cases op with
  | claim workerId workerPool lockSeconds leaseToken locked => exact List.mem_append_right _ hl
  | renew jobId workerId leaseToken lockSeconds =>
      have hne : leaseToken ≠ l.leaseToken := hop _ rfl
      simp only [step]
      split_ifs
      · exact List.mem_map.mpr ⟨l, hl, if_neg fun h => hne h.symm⟩
      · exact hl
  | complete jobId workerId leaseToken => exact mem_afterClose hl (hop _ rfl) _
  | reschedule jobId workerId leaseToken delaySecs => exact mem_afterClose hl (hop _ rfl) _
  | failPermanently jobId workerId leaseToken error failureClass =>
      exact mem_afterClose hl (hop _ rfl) _
  | failOrRetry jobId workerId leaseToken error failureClass retryDelaySeconds =>
      exact mem_afterClose hl (hop _ rfl) _
  | enqueue job => exact hl
  | enqueueRecurring job => exact hl
  | cancelExecute executionId => exact hl
  | registerWorkers workers => exact hl
  | advance elapsed => exact hl

end LeaseSystem

/-! ### The invariant -/

/-- The time that may have passed between the grant of a lease and the next act of its holder. -/
def Consumer.slack (delay : ℕ) (c : Consumer) : ℕ :=
  match c.phase with
  | .dispatching _ _ _ => c.config.renewalPeriod + delay
  | .polling | .claimed _ _ _ | .dispatched _ _ _ => 0

/-- The lease that the consumer works under, and what is left of it. -/
structure Lease.Covers (delay now : ℕ) (l : Lease) (c : Consumer) : Prop where
  job : ∀ job, c.worksOn = some job → l.jobId = job.uuid
  worker : l.workerId = c.config.workerId
  token : c.token = some l.leaseToken
  due : ∃ due, c.due = some due ∧ due ≤ now + c.slack delay ∧ now ≤ due + delay ∧
    due + c.config.leasePeriod ≤ l.expiresAt + c.slack delay

namespace WorkerSystem

/-- A consumer at work is covered by a lease. -/
def Covered (delay : ℕ) (leases : LeaseSystem) (c : Consumer) : Prop :=
  c.worksOn.isSome → ∃ l ∈ leases.leases, l.Covers delay leases.queue.now c

/-- What every run keeps. -/
structure Inv (delay : ℕ) (s : WorkerSystem) : Prop where
  leases : s.leases.Inv
  /-- The lease is longer than what a renewal may take. -/
  room : ∀ c ∈ s.consumers, c.config.renewalPeriod + 2 * delay < c.config.leasePeriod
  issued : ∀ c ∈ s.consumers, ∀ t, c.token = some t → t ∈ s.leases.issued
  /-- No two consumers present one token. -/
  distinct : ∀ (i j : ℕ) (c d : Consumer) (t : Uuid), s.consumers[i]? = some c →
    s.consumers[j]? = some d → c.token = some t → d.token = some t → i = j
  covered : ∀ c ∈ s.consumers, Covered delay s.leases c

end WorkerSystem

/-- A consumer in time is within its lease. -/
theorem Lease.Covers.unexpired {delay now : ℕ} {l : Lease} {c : Consumer}
    (h : l.Covers delay now c)
    (hroom : c.config.renewalPeriod + 2 * delay < c.config.leasePeriod) : now < l.expiresAt := by
  obtain ⟨due, -, -, hlate, houtlasts⟩ := h.due
  have hslack : c.slack delay ≤ c.config.renewalPeriod + delay := by
    unfold Consumer.slack
    split <;> omega
  omega

/-- A consumer at work has a token. -/
theorem Consumer.token_of_worksOn {c : Consumer} (h : c.worksOn.isSome) : ∃ t, c.token = some t := by
  unfold Consumer.worksOn at h
  unfold Consumer.token
  split at h
  next hphase => exact ⟨_, by rw [hphase]⟩
  next hphase => exact ⟨_, by rw [hphase]⟩
  next => simp at h
  next => simp at h

namespace WorkerSystem

variable {delay : ℕ} {s : WorkerSystem}

theorem inv_initial (delay now : ℕ) : Inv delay (initial now) where
  leases := LeaseSystem.inv_initial now
  room := fun c hc => by cases hc
  issued := fun c hc => by cases hc
  distinct := fun i j c d t hi => by cases hi
  covered := fun c hc => by cases hc

/-! ### Transactions of others -/

/-- A consumer stays covered while others present their leases and the clock stands still. -/
theorem covered_step {leases : LeaseSystem} {c : Consumer} (h : Covered delay leases c)
    {op : QueueOp} (hop : ∀ p, op.presents = some p → c.token ≠ some p.2.2)
    (helapsed : op.elapsed = 0) : Covered delay (leases.step op) c := by
  intro hworks
  obtain ⟨l, hl, hcovers⟩ := h hworks
  have hnow : (leases.step op).queue.now = leases.queue.now := by
    rw [LeaseSystem.step_queue, JobQueue.step_now, helapsed, Nat.add_zero]
  refine ⟨l, LeaseSystem.mem_leases_step hl fun p hp heq => ?_, by rwa [hnow]⟩
  exact hop p hp (by rw [hcovers.token, heq])

/-- The clock moves while every consumer has time. -/
theorem covered_advance {leases : LeaseSystem} {c : Consumer} (h : Covered delay leases c)
    {elapsed : ℕ} (hprompt : ∀ due ∈ c.due, leases.queue.now + elapsed ≤ due + delay) :
    Covered delay (leases.step (.advance elapsed)) c := by
  intro hworks
  obtain ⟨l, hl, hcovers⟩ := h hworks
  refine ⟨l, hl, hcovers.job, hcovers.worker, hcovers.token, ?_⟩
  obtain ⟨due, hdue, hearly, -, houtlasts⟩ := hcovers.due
  have hlate := hprompt due hdue
  refine ⟨due, hdue, ?_, hlate, houtlasts⟩
  change due ≤ leases.queue.now + elapsed + c.slack delay
  omega

/-- The invariant on the leases, and the tokens that were issued. -/
theorem leases_step {leases : LeaseSystem} (hs : leases.Inv) (op : QueueOp)
    (hfresh : ∀ t ∈ op.freshToken, t ∉ leases.issued) :
    (leases.step op).Inv ∧ ∀ t ∈ leases.issued, t ∈ (leases.step op).issued := by
  refine ⟨hs.step hfresh, fun t ht => ?_⟩
  rw [LeaseSystem.step_issued]
  exact List.mem_append_right _ ht

/-! ### Steps of one consumer -/

theorem getElem?_set {consumers : List Consumer} {i k : ℕ} {c d : Consumer}
    (h : (consumers.set i c)[k]? = some d) : k = i ∧ d = c ∨ k ≠ i ∧ consumers[k]? = some d := by
  rw [List.getElem?_set] at h
  split_ifs at h with hik hlength
  · exact .inl ⟨hik.symm, (Option.some.inj h).symm⟩
  · exact .inr ⟨fun hki => hik hki.symm, h⟩

/-- One consumer moves to another phase, with a transaction or without. -/
theorem Inv.moved (hs : s.Inv delay) {leases : LeaseSystem} {i : ℕ} {c : Consumer}
    {phase : ConsumerPhase} (hc : s.consumers[i]? = some c) (hleases : leases.Inv)
    (hissued : ∀ t ∈ s.leases.issued, t ∈ leases.issued)
    (hothers : ∀ (k : ℕ) (d : Consumer), k ≠ i → s.consumers[k]? = some d →
      Covered delay leases d)
    (htoken : ∀ t, Consumer.token { c with phase := phase } = some t → t ∈ leases.issued ∧
      ∀ (k : ℕ) (d : Consumer), k ≠ i → s.consumers[k]? = some d → d.token ≠ some t)
    (hcovered : Covered delay leases { c with phase := phase }) :
    Inv delay (WorkerSystem.moveTo { s with leases := leases } i c phase) where
  leases := hleases
  room := by
    intro d hd
    rcases List.mem_or_eq_of_mem_set hd with hd | rfl
    · exact hs.room d hd
    · exact hs.room c (List.mem_of_getElem? hc)
  issued := by
    intro d hd t ht
    rcases List.mem_or_eq_of_mem_set hd with hd | rfl
    · exact hissued t (hs.issued d hd t ht)
    · exact (htoken t ht).1
  distinct := by
    intro j k a b t hj hk ha hb
    rcases getElem?_set hj with ⟨rfl, rfl⟩ | ⟨hji, hja⟩
    · rcases getElem?_set hk with ⟨rfl, rfl⟩ | ⟨hki, hkb⟩
      · rfl
      · exact absurd hb ((htoken t ha).2 k b hki hkb)
    · rcases getElem?_set hk with ⟨rfl, rfl⟩ | ⟨hki, hkb⟩
      · exact absurd ha ((htoken t hb).2 j a hji hja)
      · exact hs.distinct j k a b t hja hkb ha hb
  covered := by
    intro d hd
    obtain ⟨k, hk⟩ := List.mem_iff_getElem?.mp hd
    rcases getElem?_set hk with ⟨rfl, rfl⟩ | ⟨hki, hk⟩
    · exact hcovered
    · exact hothers k d hki hk

/-- The token of one consumer is not the token of another. -/
theorem Inv.token_ne (hs : s.Inv delay) {i k : ℕ} {c d : Consumer} {t : Uuid}
    (hc : s.consumers[i]? = some c) (ht : c.token = some t) (hki : k ≠ i)
    (hd : s.consumers[k]? = some d) : d.token ≠ some t :=
  fun hdt => hki (hs.distinct k i d c t hd hc hdt ht)

/-- The consumer leaves its job, or goes on with the token that it has, without a transaction. -/
theorem Inv.moved_alone (hs : s.Inv delay) {i : ℕ} {c : Consumer} {phase : ConsumerPhase}
    (hc : s.consumers[i]? = some c)
    (htoken : ∀ t, Consumer.token { c with phase := phase } = some t → c.token = some t)
    (hcovered : Covered delay s.leases { c with phase := phase }) :
    Inv delay (s.moveTo i c phase) := by
  have hmem := List.mem_of_getElem? hc
  refine hs.moved hc hs.leases (fun t ht => ht) (fun k d _ hd => ?_) (fun t ht => ?_) hcovered
  · exact hs.covered d (List.mem_of_getElem? hd)
  · exact ⟨hs.issued c hmem t (htoken t ht),
      fun k d hki hd => hs.token_ne hc (htoken t ht) hki hd⟩

/-- The handler is started: the timer is set, and the rest of the lease still covers it. -/
theorem Inv.begin (hs : s.Inv delay) {i : ℕ} {c : Consumer} {job : JobRow} {leaseToken since : ℕ}
    (hc : s.consumers[i]? = some c) (hphase : c.phase = .claimed job leaseToken since) :
    Inv delay (s.moveTo i c (.dispatching job leaseToken (s.now + c.config.renewalPeriod))) := by
  have hworks : c.worksOn = some job := by rw [Consumer.worksOn, hphase]
  have hctoken : c.token = some leaseToken := by rw [Consumer.token, hphase]
  obtain ⟨l, hl, hcovers⟩ := hs.covered c (List.mem_of_getElem? hc) (by rw [hworks]; rfl)
  refine hs.moved_alone hc (fun t ht => hctoken.trans ht) fun _ => ⟨l, hl, ?_, hcovers.worker, ?_, ?_⟩
  · intro job' hjob'
    exact hcovers.job job' (hworks.trans hjob')
  · exact hctoken.symm.trans hcovers.token
  · obtain ⟨due, hdue, -, hlate, houtlasts⟩ := hcovers.due
    obtain rfl : since = due := by
      simpa [Consumer.due, hphase] using hdue
    have hslack : c.slack delay = 0 := by rw [Consumer.slack, hphase]
    refine ⟨_, rfl, ?_, ?_, ?_⟩
    · change s.now + c.config.renewalPeriod ≤ s.now + (c.config.renewalPeriod + delay)
      omega
    · change s.now ≤ s.now + c.config.renewalPeriod + delay
      omega
    · change s.now + c.config.renewalPeriod + c.config.leasePeriod ≤
        l.expiresAt + (c.config.renewalPeriod + delay)
      change s.now ≤ since + delay at hlate
      omega

/-- A consumer that goes back to polling, after a transaction that presents its token at most. -/
theorem Inv.polls (hs : s.Inv delay) {leases : LeaseSystem} {i : ℕ} {c : Consumer}
    (hc : s.consumers[i]? = some c) (hleases : leases.Inv)
    (hissued : ∀ t ∈ s.leases.issued, t ∈ leases.issued)
    (hothers : ∀ (k : ℕ) (d : Consumer), k ≠ i → s.consumers[k]? = some d →
      Covered delay leases d) :
    Inv delay (WorkerSystem.moveTo { s with leases := leases } i c .polling) :=
  hs.moved hc hleases hissued hothers (fun t ht => by cases ht) fun hworks => by cases hworks

/-- A claim covers the consumer from now on. -/
theorem Inv.claimBy (hs : s.Inv delay) {i : ℕ} {c : Consumer} (hc : s.consumers[i]? = some c)
    (leaseToken : Uuid) (hfresh : leaseToken ∉ s.leases.issued) (locked : List Uuid)
    (replyLost : Bool) : Inv delay (s.claimBy i c leaseToken locked replyLost) := by
  obtain ⟨hinv, hissued⟩ := leases_step hs.leases (.claim c.config.workerId c.config.pool
    c.config.lockSeconds leaseToken locked) fun t ht => by
      obtain rfl : leaseToken = t := Option.some.inj ht
      exact hfresh
  have hothers : ∀ (k : ℕ) (d : Consumer), k ≠ i → s.consumers[k]? = some d →
      Covered delay (s.leases.step (.claim c.config.workerId c.config.pool c.config.lockSeconds
        leaseToken locked)) d := fun k d _ hd =>
    covered_step (hs.covered d (List.mem_of_getElem? hd)) (fun p hp => by cases hp) rfl
  rw [WorkerSystem.claimBy]
  cases replyLost with
  | true => exact hs.polls hc hinv hissued hothers
  | false =>
      rcases s.leases.queue.claimNextJobForWorker_cases c.config.workerId c.config.pool
          c.config.lockSeconds leaseToken locked with
        hnone | ⟨job, -, event, -, -, -, hsome⟩
      · rw [hnone]
        exact hs.polls hc hinv hissued hothers
      · have hanswer : (if false = true then ConsumerPhase.polling else afterClaim s.now
            (s.leases.queue.claimNextJobForWorker c.config.workerId c.config.pool
              c.config.lockSeconds leaseToken locked).2) =
            .claimed (JobRow.takeLease s.now c.config.workerId leaseToken c.config.lockSeconds job)
              leaseToken s.now := by
          rw [hsome]
          rfl
        simp only [hanswer]
        refine hs.moved hc hinv hissued hothers (fun t ht => ?_) fun _ => ?_
        · obtain rfl : leaseToken = t := Option.some.inj ht
          refine ⟨?_, fun k d _ hd hdt => hfresh (hs.issued d (List.mem_of_getElem? hd) _ hdt)⟩
          rw [LeaseSystem.step_issued]
          exact List.mem_append_left _ (by simp [QueueOp.freshToken])
        · -- the lease that the claim has granted
          refine ⟨⟨job.uuid, c.config.workerId, leaseToken, s.now + c.config.leasePeriod⟩, ?_, ?_⟩
          · simp only [LeaseSystem.step, hsome, Option.bind_some]
            exact List.mem_append_left _ (by simp [Lease.ofRow, JobRow.takeLease]; rfl)
          · have hnow : (s.leases.step (.claim c.config.workerId c.config.pool
                c.config.lockSeconds leaseToken locked)).queue.now = s.now := by
              rw [LeaseSystem.step_queue, JobQueue.step_now]
              rfl
            rw [hnow]
            refine ⟨fun job' hjob' => ?_, rfl, rfl, s.now, rfl, ?_, ?_, ?_⟩
            · rw [← Option.some.inj hjob']
              rfl
            · exact Nat.le_add_right _ _
            · exact Nat.le_add_right _ _
            · exact Nat.le_add_right _ _

/-- A renewal covers the consumer anew, or stops its handler. -/
theorem Inv.renewBy (hs : s.Inv delay) {i : ℕ} {c : Consumer} (hc : s.consumers[i]? = some c)
    {job : JobRow} {leaseToken nextRenewal : ℕ}
    (hphase : c.phase = .dispatching job leaseToken nextRenewal) (hdue : nextRenewal ≤ s.now)
    (replyLost : Bool) : Inv delay (s.renewBy i c job leaseToken nextRenewal replyLost) := by
  have hworks : c.worksOn = some job := by rw [Consumer.worksOn, hphase]
  have hctoken : c.token = some leaseToken := by rw [Consumer.token, hphase]
  obtain ⟨hinv, hissued⟩ := leases_step hs.leases
    (.renew job.uuid c.config.workerId leaseToken c.config.lockSeconds) fun t ht => by
      cases ht
  have hothers : ∀ (k : ℕ) (d : Consumer), k ≠ i → s.consumers[k]? = some d →
      Covered delay
        (s.leases.step (.renew job.uuid c.config.workerId leaseToken c.config.lockSeconds)) d := by
    intro k d hki hd
    refine covered_step (hs.covered d (List.mem_of_getElem? hd)) (fun p hp => ?_) rfl
    rw [← Option.some.inj hp]
    exact hs.token_ne hc hctoken hki hd
  rw [WorkerSystem.renewBy]
  rcases s.leases.queue.renewJobLease_cases job.uuid c.config.workerId leaseToken
      c.config.lockSeconds with hnone | ⟨-, hsome⟩
  · rw [hnone]
    exact hs.polls hc hinv hissued hothers
  cases replyLost with
  | true =>
      simp only [Bool.not_true, Bool.and_false]
      exact hs.polls hc hinv hissued hothers
  | false =>
      obtain ⟨l, hl, hcovers⟩ := hs.covered c (List.mem_of_getElem? hc) (by rw [hworks]; rfl)
      have hltoken : l.leaseToken = leaseToken :=
        Option.some.inj (hcovers.token.symm.trans hctoken)
      simp only [hsome, Bool.not_false, Bool.and_self, if_true]
      refine hs.moved hc hinv hissued hothers (fun t ht => ?_) fun _ => ?_
      · obtain rfl : leaseToken = t := Option.some.inj ht
        exact ⟨hissued _ (hs.issued c (List.mem_of_getElem? hc) _ hctoken),
          fun k d hki hd => hs.token_ne hc hctoken hki hd⟩
      · refine ⟨{ l with expiresAt := s.now + c.config.leasePeriod }, ?_, ?_, hcovers.worker, ?_,
          nextRenewal + c.config.renewalPeriod, rfl, ?_, ?_, ?_⟩
        · simp only [LeaseSystem.step, hsome, if_true]
          refine List.mem_map.mpr ⟨l, hl, ?_⟩
          rw [if_pos hltoken]
          rfl
        · intro job' hjob'
          exact hcovers.job job' (hworks.trans hjob')
        · rw [hltoken]
          rfl
        · change nextRenewal + c.config.renewalPeriod ≤
            s.now + (c.config.renewalPeriod + delay)
          omega
        · obtain ⟨due, hduel, -, hlate, -⟩ := hcovers.due
          obtain rfl : nextRenewal = due := by
            simpa [Consumer.due, hphase] using hduel
          change s.now ≤ nextRenewal + c.config.renewalPeriod + delay
          change s.now ≤ nextRenewal + delay at hlate
          omega
        · change nextRenewal + c.config.renewalPeriod + c.config.leasePeriod ≤
            s.now + c.config.leasePeriod + (c.config.renewalPeriod + delay)
          omega

/-- The operation that closes a lease presents its token. -/
theorem closingOp_spec (job : JobRow) (workerId leaseToken : Uuid) (result : Except String Unit) :
    (closingOp job workerId leaseToken result).presents = some (job.uuid, workerId, leaseToken) ∧
      (closingOp job workerId leaseToken result).freshToken = none ∧
      (closingOp job workerId leaseToken result).elapsed = 0 := by
  cases result with
  | ok _ =>
      rw [closingOp]
      split_ifs <;> exact ⟨rfl, rfl, rfl⟩
  | error error =>
      rw [closingOp]
      split_ifs <;> exact ⟨rfl, rfl, rfl⟩

/-- A consumer closes its lease. -/
theorem Inv.closeBy (hs : s.Inv delay) {i : ℕ} {c : Consumer} (hc : s.consumers[i]? = some c)
    {job : JobRow} {leaseToken : ℕ} {result : Except String Unit}
    (hphase : c.phase = .dispatched job leaseToken result) :
    Inv delay
      ((s.transact (closingOp job c.config.workerId leaseToken result)).moveTo i c .polling) := by
  have hctoken : c.token = some leaseToken := by rw [Consumer.token, hphase]
  obtain ⟨hpresents, hfresh, helapsed⟩ := closingOp_spec job c.config.workerId leaseToken result
  obtain ⟨hinv, hissued⟩ := leases_step hs.leases
    (closingOp job c.config.workerId leaseToken result) fun t ht => by
      rw [hfresh] at ht
      cases ht
  refine hs.polls hc hinv hissued fun k d hki hd => ?_
  refine covered_step (hs.covered d (List.mem_of_getElem? hd)) (fun p hp => ?_) helapsed
  rw [hpresents] at hp
  rw [← Option.some.inj hp]
  exact hs.token_ne hc hctoken hki hd

/-- One step of one consumer. -/
theorem Inv.consumerStep (hs : s.Inv delay) {i : ℕ} {c : Consumer} (hc : s.consumers[i]? = some c)
    {w : WorkerStep} (hfresh : s.Fresh w) : Inv delay (s.consumerStep i c w) := by
  cases w with
  | spawn config => exact hs
  | queue op => exact hs
  | claim _ leaseToken locked replyLost =>
      simp only [WorkerSystem.consumerStep]
      split
      · exact hs.claimBy hc leaseToken (hfresh leaseToken rfl) locked replyLost
      · exact hs
  | begin _ =>
      simp only [WorkerSystem.consumerStep]
      split
      next hphase => exact hs.begin hc hphase
      next => exact hs
  | renew _ replyLost =>
      simp only [WorkerSystem.consumerStep]
      split
      next hphase =>
        split_ifs with hdue
        · exact hs.renewBy hc hphase hdue replyLost
        · exact hs
      next => exact hs
  | finish _ result =>
      simp only [WorkerSystem.consumerStep]
      split
      next job leaseToken nextRenewal hphase =>
        refine hs.moved_alone hc (fun t ht => ?_) fun hworks => by cases hworks
        rw [Consumer.token, hphase]
        exact ht
      next => exact hs
  | close _ =>
      simp only [WorkerSystem.consumerStep]
      split
      next hphase => exact hs.closeBy hc hphase
      next => exact hs
  | drop _ => exact hs.moved_alone hc (fun t ht => by cases ht) fun hworks => by cases hworks

/-- **Every prompt step keeps the invariant**, as long as claims bring fresh tokens. -/
theorem Inv.step (hs : s.Inv delay) {w : WorkerStep} (hfresh : s.Fresh w)
    (hprompt : s.Prompt delay w) : Inv delay (s.step w) := by
  have hconsumer : ∀ i : ℕ, Inv delay (match s.consumers[i]? with
      | none => s
      | some c => s.consumerStep i c w) := by
    intro i
    split
    · exact hs
    next c hc => exact hs.consumerStep hc hfresh
  cases w with
  | spawn config =>
      have hcases : ∀ {k : ℕ} {d : Consumer}, (s.consumers ++ [⟨config, .polling⟩])[k]? = some d →
          s.consumers[k]? = some d ∨ d = ⟨config, .polling⟩ := by
        intro k d hd
        rw [List.getElem?_append] at hd
        split_ifs at hd
        · exact .inl hd
        · exact .inr (List.mem_singleton.mp (List.mem_of_getElem? hd))
      refine ⟨hs.leases, ?_, ?_, ?_, ?_⟩
      · intro c hc
        rcases List.mem_append.mp hc with hc | hc
        · exact hs.room c hc
        · rw [List.mem_singleton.mp hc]
          exact hprompt
      · intro c hc t ht
        rcases List.mem_append.mp hc with hc | hc
        · exact hs.issued c hc t ht
        · rw [List.mem_singleton.mp hc] at ht
          cases ht
      · intro i j c d t hi hj hct hdt
        rcases hcases hi with hi | rfl
        · rcases hcases hj with hj | rfl
          · exact hs.distinct i j c d t hi hj hct hdt
          · cases hdt
        · cases hct
      · intro c hc
        rcases List.mem_append.mp hc with hc | hc
        · exact hs.covered c hc
        · rw [List.mem_singleton.mp hc]
          exact fun hworks => by cases hworks
  | queue op =>
      simp only [WorkerSystem.step]
      split_ifs with hby
      · exact hs
      · simp only [QueueOp.byConsumer, Bool.or_eq_true, Option.isSome_iff_ne_none, ne_eq,
          not_or, not_not] at hby
        obtain ⟨hinv, hissued⟩ := leases_step hs.leases op fun t ht => by
          rw [hby.2] at ht
          cases ht
        refine ⟨hinv, hs.room, fun c hc t ht => hissued t (hs.issued c hc t ht), hs.distinct, ?_⟩
        intro c hc
        cases op with
        | advance elapsed => exact covered_advance (hs.covered c hc) (hprompt c hc)
        | _ =>
            refine covered_step (hs.covered c hc) (fun p hp => ?_) rfl
            rw [hby.1] at hp
            cases hp
  | claim i leaseToken locked replyLost => exact hconsumer i
  | begin i => exact hconsumer i
  | renew i replyLost => exact hconsumer i
  | finish i result => exact hconsumer i
  | close i => exact hconsumer i
  | drop i => exact hconsumer i

/-! ### Whole runs -/

/-- A step changes the leases by one transaction at most, which brings no token of its own. -/
theorem step_leases (s : WorkerSystem) (w : WorkerStep) :
    (s.step w).leases = s.leases ∨
      ∃ op, (s.step w).leases = s.leases.step op ∧ ∀ t ∈ op.freshToken, t ∈ w.freshToken := by
  have hconsumer : ∀ (i : ℕ) (c : Consumer), (s.consumerStep i c w).leases = s.leases ∨
      ∃ op, (s.consumerStep i c w).leases = s.leases.step op ∧
        ∀ t ∈ op.freshToken, t ∈ w.freshToken := by
    intro i c
    cases w with
    | claim _ leaseToken locked replyLost =>
        simp only [consumerStep]
        split
        · exact .inr ⟨.claim c.config.workerId c.config.pool c.config.lockSeconds leaseToken
            locked, rfl, fun t ht => ht⟩
        · exact .inl rfl
    | renew _ replyLost =>
        simp only [consumerStep]
        split
        next job leaseToken nextRenewal _ =>
          split_ifs
          · exact .inr ⟨.renew job.uuid c.config.workerId leaseToken c.config.lockSeconds, rfl,
              fun t ht => by cases ht⟩
          · exact .inl rfl
        next => exact .inl rfl
    | close _ =>
        simp only [consumerStep]
        split
        next job leaseToken result _ =>
          refine .inr ⟨_, rfl, fun t ht => ?_⟩
          rw [(closingOp_spec job c.config.workerId leaseToken result).2.1] at ht
          cases ht
        next => exact .inl rfl
    | begin _ =>
        simp only [consumerStep]
        split <;> exact .inl rfl
    | finish _ result =>
        simp only [consumerStep]
        split <;> exact .inl rfl
    | drop _ => exact .inl rfl
    | spawn config => exact .inl rfl
    | queue op => exact .inl rfl
  cases w with
  | spawn config => exact .inl rfl
  | queue op =>
      simp only [step]
      split_ifs with hby
      · exact .inl rfl
      · refine .inr ⟨op, rfl, fun t ht => ?_⟩
        simp [QueueOp.byConsumer, Option.mem_def.mp ht] at hby
  | _ =>
      simp only [step]
      split
      · exact .inl rfl
      · exact hconsumer _ _

theorem step_seen (s : WorkerSystem) (w : WorkerStep) {t : Uuid}
    (ht : t ∈ (s.step w).leases.issued) : t ∈ w.freshToken ∨ t ∈ s.leases.issued := by
  rcases s.step_leases w with hsame | ⟨op, hop, hfresh⟩
  · rw [hsame] at ht
    exact .inr ht
  · rw [hop, LeaseSystem.step_issued] at ht
    rcases List.mem_append.mp ht with ht | ht
    · exact .inl (hfresh t (by simpa using ht))
    · exact .inr ht

/-- Every step of a run whose claims bring distinct tokens is fresh, and prompt by assumption. -/
theorem meets_fresh_prompt {delay now : ℕ} {steps : List WorkerStep}
    (hfresh : (workerTokens steps).Nodup)
    (hprompt : Runs.Meets step (Prompt delay) (initial now) steps) :
    Runs.Meets step (fun s w => s.Fresh w ∧ s.Prompt delay w) (initial now) steps := by
  have hmeets : Runs.Meets step Fresh (initial now) steps :=
    Runs.meets_unseen (fun s : WorkerSystem => s.leases.issued) WorkerStep.freshToken
      (fun s w _ => s.step_seen w) hfresh fun _ _ h => by cases h
  exact hmeets.and hprompt

theorem inv_run {delay now : ℕ} {steps : List WorkerStep} (hfresh : (workerTokens steps).Nodup)
    (hprompt : Runs.Meets step (Prompt delay) (initial now) steps) : (run now steps).Inv delay :=
  Runs.exec_invariant (Inv delay) (fun _ _ hs h => hs.step h.1 h.2) (inv_initial delay now)
    (meets_fresh_prompt hfresh hprompt)

/-- The lease of a consumer at work has not run out. -/
theorem Inv.lease_of_worksOn (hs : s.Inv delay) {c : Consumer} (hc : c ∈ s.consumers)
    {job : JobRow} (hworks : c.worksOn = some job) :
    ∃ l ∈ s.leases.leases, l.Covers delay s.now c ∧ l.jobId = job.uuid ∧ s.now < l.expiresAt := by
  obtain ⟨l, hl, hcovers⟩ := hs.covered c hc (by rw [hworks]; rfl)
  exact ⟨l, hl, hcovers, hcovers.job job hworks, hcovers.unexpired (hs.room c hc)⟩

end WorkerSystem

/-- The row is running under the lease of the consumer, which has not run out. -/
def Consumer.Holds (c : Consumer) (now : ℕ) (row : JobRow) : Prop :=
  row.status = .running ∧ row.leaseOwner = some c.config.workerId ∧ row.leaseToken = c.token ∧
    row.leaseUnexpired now

open WorkerSystem in
/-- **One consumer per job.**  In every run in which the claims bring distinct tokens and the
consumers act on their timers in time, whatever is lost, dropped or cancelled on the way: two
consumers never work on one job; the row of a job that is being worked on is running under the
unexpired lease of its consumer, or cancelled; and no claim takes it. -/
theorem dispatch_exclusive (now delay : ℕ) (steps : List WorkerStep)
    (hfresh : (workerTokens steps).Nodup)
    (hprompt : Runs.Meets step (Prompt delay) (initial now) steps) :
    (∀ (i j : ℕ) (c d : Consumer) (job job' : JobRow), (run now steps).consumers[i]? = some c →
      (run now steps).consumers[j]? = some d → c.worksOn = some job → d.worksOn = some job' →
        job.uuid = job'.uuid → i = j) ∧
    (∀ c ∈ (run now steps).consumers, ∀ job, c.worksOn = some job →
      ∃ row ∈ (run now steps).jobs, row.uuid = job.uuid ∧
        (c.Holds (run now steps).now row ∨ row.status = .cancelled)) ∧
    ∀ c ∈ (run now steps).consumers, ∀ job, c.worksOn = some job →
      ∀ (workerId leaseToken : Uuid) (workerPool : String) (lockSeconds : ℤ) (locked : List Uuid),
        ∀ taken ∈ ((run now steps).leases.queue.claimNextJobForWorker workerId workerPool
          lockSeconds leaseToken locked).2, taken.uuid ≠ job.uuid := by
  have hinv := inv_run hfresh hprompt
  refine ⟨?_, ?_, ?_⟩
  · intro i j c d job job' hi hj hworks hworks' huuid
    obtain ⟨l, hl, hcovers, hid, hlate⟩ := hinv.lease_of_worksOn (List.mem_of_getElem? hi) hworks
    obtain ⟨l', hl', hcovers', hid', hlate'⟩ :=
      hinv.lease_of_worksOn (List.mem_of_getElem? hj) hworks'
    -- one job has one unexpired lease, and one lease has one token
    have heq : l = l' := hinv.leases.exclusive l hl l' hl'
      (hid.trans (huuid.trans hid'.symm)) hlate hlate'
    subst heq
    exact hinv.distinct i j c d _ hi hj hcovers.token hcovers'.token
  · intro c hc job hworks
    obtain ⟨l, hl, hcovers, hid, hlate⟩ := hinv.lease_of_worksOn hc hworks
    obtain ⟨row, hrow, hrec | ⟨huuid, hcancelled⟩⟩ := hinv.leases.live l hl hlate
    · refine ⟨row, hrow, hrec.uuid.trans hid, .inl ⟨hrec.status, ?_, ?_, ?_⟩⟩
      · rw [hrec.owner, hcovers.worker]
      · rw [hrec.token, hcovers.token]
      · simp [JobRow.leaseUnexpired, JobRow.leaseDeadline, hrec.expires, hlate]
    · exact ⟨row, hrow, huuid.trans hid, .inr hcancelled⟩
  · intro c hc job hworks workerId leaseToken workerPool lockSeconds locked taken htaken huuid
    obtain ⟨l, hl, -, hid, hlate⟩ := hinv.lease_of_worksOn hc hworks
    rcases (run now steps).leases.queue.claimNextJobForWorker_cases workerId workerPool lockSeconds
        leaseToken locked with hnone | ⟨row, hrow, event, hclaim, -, -, hsome⟩
    · rw [hnone] at htaken
      cases htaken
    · rw [hsome] at htaken
      obtain rfl : JobRow.takeLease _ workerId leaseToken lockSeconds row = taken :=
        Option.some.inj htaken
      have hexpired := hinv.leases.expired_of_claimable hrow hclaim hl (hid.trans huuid.symm)
      exact absurd hlate (Nat.not_lt.mpr hexpired)

/-- Two workers and two jobs: the first consumer is still at work, under its second renewal, when
the second one claims after the end of the first lease. -/
def renewedSteps : List WorkerStep :=
  [.queue (.registerWorkers
      [⟨1, "default", [], [], 2, .active⟩, ⟨2, "default", [], [], 2, .active⟩]),
   .queue (.enqueue ⟨7, .execute, .null, some 5, none, 0, 3, "default", [], [], 0⟩),
   .spawn ⟨1, "default", 30⟩, .spawn ⟨2, "default", 30⟩,
   .claim 0 100 [] false, .begin 0, .queue (.advance 11000000), .renew 0 false,
   .queue (.advance 11000000), .renew 0 false,
   .queue (.enqueue ⟨8, .execute, .null, some 6, none, 0, 3, "default", [], [], 0⟩),
   .queue (.advance 9000000), .claim 1 101 [] false, .begin 1]

open WorkerSystem in
/-- In that run the second consumer gets the other job, and each works under its own lease. -/
theorem dispatch_exclusive_renewed :
    (run 0 renewedSteps).consumers.map (fun c => c.worksOn.map JobRow.uuid) = [some 7, some 8] ∧
      ∀ c ∈ (run 0 renewedSteps).consumers, ∀ job, c.worksOn = some job →
        ∃ row ∈ (run 0 renewedSteps).jobs, row.uuid = job.uuid ∧
          (c.Holds (run 0 renewedSteps).now row ∨ row.status = .cancelled) :=
  ⟨by decide, (dispatch_exclusive 0 2000000 renewedSteps (by decide) (by decide)).2.1⟩

/-! ### Cancelled jobs -/

namespace WorkerSystem

/-- The job was cancelled by time `since`: who still works on it was due to act soon after. -/
structure Leaving (delay since : ℕ) (jobId : Uuid) (s : WorkerSystem) : Prop where
  inv : s.Inv delay
  cancelled : s.leases.queue.Cancelled jobId
  leaving : ∀ c ∈ s.consumers, ∀ job, c.worksOn = some job → job.uuid = jobId →
    ∃ due, c.due = some due ∧ due ≤ since + c.slack delay

variable {delay since : ℕ} {jobId : Uuid} {s : WorkerSystem}

theorem Leaving.of_inv (hs : s.Inv delay) (hcancelled : s.leases.queue.Cancelled jobId) :
    Leaving delay s.now jobId s where
  inv := hs
  cancelled := hcancelled
  leaving := by
    intro c hc job hworks _
    obtain ⟨l, -, hcovers, -, -⟩ := hs.lease_of_worksOn hc hworks
    obtain ⟨due, hdue, hearly, -, -⟩ := hcovers.due
    exact ⟨due, hdue, hearly⟩

/-- What holds of the consumer that moves and of the others holds of all. -/
theorem leaving_moveTo {P : Consumer → Prop} {leases : LeaseSystem} {i : ℕ} {c : Consumer}
    {phase : ConsumerPhase} (hs : ∀ d ∈ s.consumers, P d) (hnew : P { c with phase := phase }) :
    ∀ d ∈ (moveTo { s with leases := leases } i c phase).consumers, P d := by
  intro d hd
  rcases List.mem_or_eq_of_mem_set hd with hd | rfl
  · exact hs d hd
  · exact hnew

/-- The answers that the consumers of a cancelled job get. -/
theorem Leaving.not_renewed (hs : Leaving delay since jobId s) {workerId leaseToken : Uuid}
    {lockSeconds : ℤ} :
    (s.leases.queue.renewJobLease jobId workerId leaseToken lockSeconds).2 = false := by
  rcases s.leases.queue.renewJobLease_cases jobId workerId leaseToken lockSeconds with
    hnone | ⟨⟨row, hrow, deadline, hheld, -, -⟩, -⟩
  · rw [hnone]
  · obtain ⟨job, hjob, huuid, hstatus⟩ := hs.cancelled
    obtain rfl := LeaseSystem.mem_eq_of_uuid hs.inv.leases.keys hrow hjob
      ((JobRow.heldBy_iff.mp hheld).1.trans huuid.symm)
    exact absurd hheld (JobQueue.not_heldBy_of_cancelled hstatus)

theorem Leaving.not_claimed (hs : Leaving delay since jobId s) {workerId leaseToken : Uuid}
    {workerPool : String} {lockSeconds : ℤ} {locked : List Uuid} {taken : JobRow}
    (htaken : (s.leases.queue.claimNextJobForWorker workerId workerPool lockSeconds leaseToken
      locked).2 = some taken) : taken.uuid ≠ jobId := by
  rcases s.leases.queue.claimNextJobForWorker_cases workerId workerPool lockSeconds leaseToken
      locked with hnone | ⟨row, hrow, event, hclaim, -, -, hsome⟩
  · rw [hnone] at htaken
    cases htaken
  · rw [hsome] at htaken
    rw [← Option.some.inj htaken]
    intro huuid
    obtain ⟨job, hjob, huuid', hstatus⟩ := hs.cancelled
    obtain rfl := LeaseSystem.mem_eq_of_uuid hs.inv.leases.keys hrow hjob
      (huuid.trans huuid'.symm)
    simp [JobRow.claimable, hstatus] at hclaim

/-- A consumer that works after a claim works on what the claim has answered. -/
theorem worksOn_afterClaim {c : Consumer} {now : ℕ} {answer : Option JobRow} {job : JobRow}
    (h : Consumer.worksOn { c with phase := afterClaim now answer } = some job) :
    answer = some job := by
  unfold afterClaim at h
  cases answer with
  | none => cases h
  | some row =>
      cases htoken : row.leaseToken with
      | none =>
          simp only [htoken] at h
          cases h
      | some leaseToken =>
          simp only [htoken] at h
          exact congrArg some (Option.some.inj h)

/-- One step of one consumer brings nobody back to the cancelled job. -/
theorem Leaving.consumerStep (hs : Leaving delay since jobId s) {i : ℕ} {c : Consumer}
    (hc : c ∈ s.consumers) (w : WorkerStep) :
    ∀ d ∈ (s.consumerStep i c w).consumers, ∀ job, d.worksOn = some job → job.uuid = jobId →
      ∃ due, d.due = some due ∧ due ≤ since + d.slack delay := by
  cases w with
  | spawn config => exact hs.leaving
  | queue op => exact hs.leaving
  | claim _ leaseToken locked replyLost =>
      simp only [WorkerSystem.consumerStep]
      split
      · refine leaving_moveTo hs.leaving fun job hworks huuid => ?_
        cases replyLost with
        | true => cases hworks
        | false => exact absurd huuid (hs.not_claimed (worksOn_afterClaim hworks))
      · exact hs.leaving
  | begin _ =>
      simp only [WorkerSystem.consumerStep]
      split
      next job leaseToken claimedAt hphase =>
        refine leaving_moveTo hs.leaving fun job' hworks huuid => ?_
        obtain rfl : job = job' := Option.some.inj hworks
        have hold : c.worksOn = some job := by rw [Consumer.worksOn, hphase]
        have hslack : c.slack delay = 0 := by rw [Consumer.slack, hphase]
        obtain ⟨due, hdue, hearly⟩ := hs.leaving c hc job hold huuid
        obtain ⟨l, -, hcovers, -, -⟩ := hs.inv.lease_of_worksOn hc hold
        obtain ⟨due', hdue', -, hlate, -⟩ := hcovers.due
        obtain rfl : due = due' := Option.some.inj (hdue.symm.trans hdue')
        refine ⟨_, rfl, ?_⟩
        change s.now + c.config.renewalPeriod ≤ since + (c.config.renewalPeriod + delay)
        omega
      next => exact hs.leaving
  | renew _ replyLost =>
      simp only [WorkerSystem.consumerStep]
      split
      next job leaseToken nextRenewal _ =>
        split_ifs
        · refine leaving_moveTo hs.leaving fun job' hworks huuid => ?_
          split_ifs at hworks with hanswer
          · obtain rfl : job = job' := Option.some.inj hworks
            rw [huuid, hs.not_renewed] at hanswer
            cases hanswer
          · cases hworks
        · exact hs.leaving
      next => exact hs.leaving
  | finish _ result =>
      simp only [WorkerSystem.consumerStep]
      split
      · exact leaving_moveTo hs.leaving fun job hworks => by cases hworks
      · exact hs.leaving
  | close _ =>
      simp only [WorkerSystem.consumerStep]
      split
      · exact leaving_moveTo hs.leaving fun job hworks => by cases hworks
      · exact hs.leaving
  | drop _ => exact leaving_moveTo hs.leaving fun job hworks => by cases hworks

theorem Leaving.step (hs : Leaving delay since jobId s) {w : WorkerStep} (hfresh : s.Fresh w)
    (hprompt : s.Prompt delay w) : Leaving delay since jobId (s.step w) where
  inv := hs.inv.step hfresh hprompt
  cancelled := by
    rcases s.step_leases w with hsame | ⟨op, hop, -⟩
    · rw [hsame]
      exact hs.cancelled
    · rw [hop, LeaseSystem.step_queue]
      exact JobQueue.cancelled_step hs.inv.leases.keys hs.cancelled op
  leaving := by
    cases w with
    | spawn config =>
        intro c hc job hworks huuid
        rcases List.mem_append.mp hc with hc | hc
        · exact hs.leaving c hc job hworks huuid
        · rw [List.mem_singleton.mp hc] at hworks
          cases hworks
    | queue op =>
        simp only [WorkerSystem.step]
        split_ifs <;> exact hs.leaving
    | _ =>
        simp only [WorkerSystem.step]
        split
        next => exact hs.leaving
        next c hc => exact hs.consumerStep (List.mem_of_getElem? hc) _

end WorkerSystem

open WorkerSystem in
/-- **A cancelled job is left.**  In every such run, once a job has been cancelled it stays
cancelled, and no consumer works on it any longer than one renewal period and twice the delay. -/
theorem cancelled_job_left (now delay : ℕ) (steps later : List WorkerStep)
    (hfresh : (workerTokens (steps ++ later)).Nodup)
    (hprompt : Runs.Meets step (Prompt delay) (initial now) (steps ++ later)) (jobId : Uuid)
    (hcancelled : (run now steps).leases.queue.Cancelled jobId) :
    (run now (steps ++ later)).leases.queue.Cancelled jobId ∧
      ∀ c ∈ (run now (steps ++ later)).consumers, ∀ job, c.worksOn = some job →
        job.uuid = jobId → (run now (steps ++ later)).now ≤
          (run now steps).now + c.config.renewalPeriod + 2 * delay := by
  have hmeets := meets_fresh_prompt hfresh hprompt
  rw [Runs.meets_append] at hmeets
  have hinv : (run now steps).Inv delay :=
    Runs.exec_invariant (Inv delay) (fun _ _ hs h => hs.step h.1 h.2) (inv_initial delay now)
      hmeets.1
  have hleaving : Leaving delay (run now steps).now jobId (run now (steps ++ later)) := by
    have happend : run now (steps ++ later) = Runs.exec step (run now steps) later :=
      Runs.exec_append (initial now) steps later
    rw [happend]
    exact Runs.exec_invariant (Leaving delay (run now steps).now jobId)
      (fun _ _ hs h => hs.step h.1 h.2) (Leaving.of_inv hinv hcancelled) hmeets.2
  refine ⟨hleaving.cancelled, fun c hc job hworks huuid => ?_⟩
  obtain ⟨due, hdue, hearly⟩ := hleaving.leaving c hc job hworks huuid
  obtain ⟨l, -, hcovers, -, -⟩ := hleaving.inv.lease_of_worksOn hc hworks
  obtain ⟨due', hdue', -, hlate, -⟩ := hcovers.due
  obtain rfl : due = due' := Option.some.inj (hdue.symm.trans hdue')
  have hslack : c.slack delay ≤ c.config.renewalPeriod + delay := by
    unfold Consumer.slack
    split <;> omega
  omega


/-- The execution of the first job is cancelled in that run, and the next renewal is due. -/
def cancelledSteps : List WorkerStep :=
  renewedSteps ++ [.queue (.cancelExecute 5), .queue (.advance 1000000)]

open WorkerSystem in
/-- The consumer of the cancelled job goes on until then, and the renewal stops it. -/
theorem cancelled_job_left_renewal :
    (run 0 cancelledSteps).consumers.map (fun c => c.worksOn.map JobRow.uuid) = [some 7, some 8] ∧
      (run 0 (cancelledSteps ++ [.renew 0 false])).leases.queue.Cancelled 7 ∧
      (run 0 (cancelledSteps ++ [.renew 0 false])).consumers.map
        (fun c => c.worksOn.map JobRow.uuid) = [none, some 8] :=
  ⟨by decide,
    (cancelled_job_left 0 2000000 cancelledSteps [.renew 0 false] (by decide) (by decide) 7
      (by unfold JobQueue.Cancelled; decide)).1,
    by decide⟩

end Beampipe
