/-
A claim, statement by statement.

`Beampipe.JobQueue.claimNextJobForWorker` is the whole transaction.  In the database it is a
sequence of statements: it reads the worker, waits for the advisory lock of the pool, counts leases,
sums limits, selects a candidate and updates it, and between two of them other transactions commit.
The capacity that it has counted is still there when it commits, because nobody else claims in the
pool, its row is locked, and no other operation makes a lease live that was not: a renewal extends
what has not run out, and everything else ends leases or creates jobs without one.

`now()` is the start of the transaction, before the lock is waited for.  A statement that is a
transaction of its own runs at the clock.

Main definitions:

* `Beampipe.ClaimTx`, `Beampipe.ClaimPhase` — a transaction and how far it is;
* `Beampipe.ClaimSystem`, `Beampipe.ClaimStep` — the tables under any number of replicas;
* `Beampipe.ClaimPhase.Holds` — what is known at each point of a claim.

Main results:

* `Beampipe.ClaimSystem.Inv.step` — no step disturbs what another replica knows;
* `Beampipe.ClaimSystem.exec_alone` — without other transactions the statements are the claim;
* `Beampipe.claim_within_capacity` — **a claim that commits stays within both capacities** and has
  matched the worker.
-/

import Beampipe.JobAttempts

set_option relaxedAutoImplicit false
set_option autoImplicit false

namespace Beampipe

/-! ### Transactions and replicas -/

/-- The transaction of a claim after its first statement; `now()` is `startedAt` in all of it. -/
structure ClaimTx where
  worker : WorkerInstanceRow
  lockSeconds : ℤ
  startedAt : ℕ
  deriving DecidableEq, Repr

/-- How far a replica is with a claim. -/
inductive ClaimPhase where
  /-- no claim is under way -/
  | idle
  /-- the worker is registered in the pool -/
  | registered (tx : ClaimTx)
  /-- the advisory lock of the pool is held -/
  | locked (tx : ClaimTx)
  /-- the worker has a lease left -/
  | counted (tx : ClaimTx)
  /-- the limits of the pool are summed -/
  | limited (tx : ClaimTx) (poolLimit : ℤ)
  /-- the pool has a lease left -/
  | roomy (tx : ClaimTx)
  /-- the candidate is selected, and locked -/
  | selected (tx : ClaimTx) (job : JobRow)
  deriving DecidableEq, Repr

namespace ClaimPhase

/-- The transaction that holds the advisory lock of its pool. -/
def holder : ClaimPhase → Option ClaimTx
  | .idle | .registered _ => none
  | .locked tx | .counted tx | .limited tx _ | .roomy tx | .selected tx _ => some tx

/-- `pg_advisory_xact_lock`: the pool whose lock is held. -/
def poolLock (phase : ClaimPhase) : Option String := phase.holder.map (·.worker.pool)

/-- `FOR UPDATE`: the job whose row is locked. -/
def rowLock : ClaimPhase → Option Uuid
  | .selected _ job => some job.uuid
  | _ => none

end ClaimPhase

namespace JobQueue

/-- The tables as a transaction that started at `now` sees the clock. -/
def asOf (q : JobQueue) (now : ℕ) : JobQueue := { q with now := now }

/-- The last two statements of a claim: the update of the candidate and its event. -/
def commitClaim (q : JobQueue) (tx : ClaimTx) (job : JobRow) (leaseToken : Uuid) : JobQueue :=
  let event : ClaimEvent :=
    { jobId := job.uuid
      workerId := tx.worker.uuid
      leaseToken := leaseToken
      event := if job.status = .running then .recovered else .claimed
      details := .obj
        [("previous_status", .str job.status.asStr),
         ("previous_owner", uuidJson job.leaseOwner),
         ("previous_lease_token", uuidJson job.leaseToken)] }
  let claim := JobRow.takeLease tx.startedAt tx.worker.uuid leaseToken tx.lockSeconds
  { q.updateWhere (fun row => row.uuid == job.uuid) claim with history := q.history ++ [event] }

end JobQueue

/-- The tables and the replicas that claim from them. -/
structure ClaimSystem where
  queue : JobQueue
  replicas : List ClaimPhase
  deriving DecidableEq, Repr

/-- A statement of one replica's claim, or another transaction.  `elapsed` is the time since the
claim has begun, and `locked` are rows that transactions other than claims hold. -/
inductive ClaimStep where
  | selectWorker (replica : ℕ) (workerId : Uuid) (workerPool : String) (lockSeconds : ℤ)
      (elapsed : ℕ)
  | lockPool (replica : ℕ)
  | countWorker (replica : ℕ)
  | sumLimits (replica : ℕ)
  | countPool (replica : ℕ)
  | selectCandidate (replica : ℕ) (locked : List Uuid)
  | commit (replica : ℕ) (leaseToken : Uuid)
  | rollback (replica : ℕ)
  | other (op : QueueOp)

/-- The operations that may run beside claims while registrations are fixed.  The upsert of a
recurring job is left out: it may move a running job into another pool. -/
def QueueOp.runsBeside : QueueOp → Bool
  | .claim _ _ _ _ _ | .registerWorkers _ | .enqueueRecurring _ => false
  | _ => true

namespace ClaimSystem

/-- The replica is in another phase. -/
def enter (s : ClaimSystem) (replica : ℕ) (phase : ClaimPhase) : ClaimSystem :=
  { s with replicas := s.replicas.set replica phase }

/-- The rows that claims have locked. -/
def lockedRows (s : ClaimSystem) : List Uuid := s.replicas.filterMap ClaimPhase.rowLock

/-- The operation would write a row that a claim has locked, so it waits. -/
def waits (s : ClaimSystem) (op : QueueOp) : Bool :=
  s.queue.jobs.any fun job =>
    s.lockedRows.contains job.uuid && !(s.queue.step op).jobs.contains job

/-- One step; a statement that waits does nothing yet. -/
def step (s : ClaimSystem) : ClaimStep → ClaimSystem
  | .selectWorker replica workerId workerPool lockSeconds elapsed =>
      match s.replicas[replica]? with
      | some .idle =>
          match s.queue.workers.find? fun w =>
              w.uuid == workerId && w.status == .active && w.pool == workerPool with
          | none => s
          | some worker =>
              s.enter replica (.registered ⟨worker, lockSeconds, s.queue.now - elapsed⟩)
      | _ => s
  | .lockPool replica =>
      match s.replicas[replica]? with
      | some (.registered tx) =>
          if s.replicas.any fun phase => phase.poolLock == some tx.worker.pool then s
          else s.enter replica (.locked tx)
      | _ => s
  | .countWorker replica =>
      match s.replicas[replica]? with
      | some (.locked tx) =>
          if tx.worker.concurrencyLimit ≤
              (s.queue.asOf tx.startedAt).workerActiveLeases tx.worker.uuid then
            s.enter replica .idle
          else s.enter replica (.counted tx)
      | _ => s
  | .sumLimits replica =>
      match s.replicas[replica]? with
      | some (.counted tx) =>
          s.enter replica (.limited tx (s.queue.poolConcurrencyLimit tx.worker.pool))
      | _ => s
  | .countPool replica =>
      match s.replicas[replica]? with
      | some (.limited tx poolLimit) =>
          if poolLimit < 1 ∨
              poolLimit ≤ (s.queue.asOf tx.startedAt).poolActiveLeases tx.worker.pool then
            s.enter replica .idle
          else s.enter replica (.roomy tx)
      | _ => s
  | .selectCandidate replica locked =>
      match s.replicas[replica]? with
      | some (.roomy tx) =>
          match (s.queue.asOf tx.startedAt).nextCandidate tx.worker (s.lockedRows ++ locked) with
          | none => s.enter replica .idle
          | some job => s.enter replica (.selected tx job)
      | _ => s
  | .commit replica leaseToken =>
      match s.replicas[replica]? with
      | some (.selected tx job) =>
          { s.enter replica .idle with queue := s.queue.commitClaim tx job leaseToken }
      | _ => s
  | .rollback replica => s.enter replica .idle
  | .other op =>
      if op.runsBeside && !s.waits op then { s with queue := s.queue.step op } else s

end ClaimSystem

/-! ### Leases that are live -/

/-- The lease of the job is live for a transaction that started at `now`. -/
def JobRow.Active (now : ℕ) (job : JobRow) : Prop :=
  job.status = .running ∧ job.leaseUnexpired now

/-- A lease that is live later was live before. -/
theorem JobRow.leaseUnexpired_of_le {now later : ℕ} (hle : now ≤ later) {job : JobRow}
    (h : job.leaseUnexpired later) : job.leaseUnexpired now := by
  unfold leaseUnexpired at h ⊢
  cases hdeadline : job.leaseDeadline with
  | none => simp [hdeadline] at h
  | some deadline =>
      simp only [hdeadline, decide_eq_true_eq] at h ⊢
      omega

/-- What is live afterwards was live before, with the same owner and in the same pool. -/
def JobRow.Subsides (now : ℕ) (job job' : JobRow) : Prop :=
  job'.Active now → job.Active now ∧ job'.leaseOwner = job.leaseOwner ∧ job'.pool = job.pool

theorem JobRow.Subsides.refl (now : ℕ) (job : JobRow) : job.Subsides now job :=
  fun h => ⟨h, rfl, rfl⟩

namespace JobQueue

/-- No lease of the tables is newly live. -/
def Subsides (now : ℕ) (q q' : JobQueue) : Prop :=
  ∃ (change : JobRow → JobRow) (new : List JobRow), q'.jobs = q.jobs.map change ++ new ∧
    (∀ job ∈ q.jobs, job.Subsides now (change job)) ∧ ∀ job ∈ new, ¬job.Active now

theorem Subsides.of_jobs_eq {now : ℕ} {q q' : JobQueue} (h : q'.jobs = q.jobs) :
    q.Subsides now q' :=
  ⟨id, [], by simp [h], fun job _ => .refl now job, by simp⟩

theorem subsides_updateWhere {now : ℕ} {q : JobQueue} {p : JobRow → Bool} {set : JobRow → JobRow}
    (hset : ∀ job, p job → job.Subsides now (set job)) : q.Subsides now (q.updateWhere p set) := by
  refine ⟨fun job => if p job then set job else job, [], by simp [updateWhere], ?_, by simp⟩
  intro job _
  simp only
  split
  next hp => exact hset job hp
  · exact .refl now job

theorem subsides_closeLease {now : ℕ} {q : JobQueue} {jobId workerId leaseToken : Uuid}
    {set : JobRow → JobRow} {event : JobRow → ClaimEventKind} {details : Json}
    (hset : ∀ job, (set job).status ≠ .running) :
    q.Subsides now (q.closeLease jobId workerId leaseToken set event details).1 := by
  rcases q.closeLease_cases jobId workerId leaseToken set event details with
    ⟨hsame, -⟩ | ⟨job, -, -, hclosed⟩
  · rw [hsame]
    exact .of_jobs_eq rfl
  · rw [hclosed]
    exact subsides_updateWhere fun job _ hactive => absurd hactive.1 (hset job)

/-- **No operation beside the claims makes a lease live.** -/
theorem subsides_step {now : ℕ} {q : JobQueue} (hnow : now ≤ q.now) {op : QueueOp}
    (hop : op.runsBeside) : q.Subsides now (q.step op) := by
  cases op with
  | claim workerId workerPool lockSeconds leaseToken locked => cases hop
  | registerWorkers workers => cases hop
  | enqueueRecurring job => cases hop
  | renew jobId workerId leaseToken lockSeconds =>
      refine subsides_updateWhere fun job hrenewed _ => ⟨?_, rfl, rfl⟩
      -- a renewed lease has not run out at the clock, so it had not run out at `now`
      simp only [Bool.and_eq_true, Option.any_eq_true, decide_eq_true_eq] at hrenewed
      obtain ⟨hheld, deadline, hdeadline, hlate⟩ := hrenewed
      refine ⟨(JobRow.heldBy_iff.mp hheld).2.1, JobRow.leaseUnexpired_of_le hnow ?_⟩
      simp [JobRow.leaseUnexpired, JobRow.leaseDeadline, hdeadline, hlate]
  | complete jobId workerId leaseToken => exact subsides_closeLease fun _ h => by cases h
  | reschedule jobId workerId leaseToken delaySecs =>
      exact subsides_closeLease fun _ h => by cases h
  | failPermanently jobId workerId leaseToken error failureClass =>
      exact subsides_closeLease fun _ h => by cases h
  | failOrRetry jobId workerId leaseToken error failureClass retryDelaySeconds =>
      refine subsides_closeLease fun job h => ?_
      cases hexhausted : attemptsExhausted job <;> simp [hexhausted] at h
  | enqueue job =>
      simp only [step, insertJob]
      split
      · exact subsides_updateWhere fun row _ h => ⟨h, rfl, rfl⟩
      split
      · exact .of_jobs_eq rfl
      · refine ⟨id, [job.row q.now], by simp, fun row _ => .refl now row, fun row hrow h => ?_⟩
        rw [List.mem_singleton.mp hrow] at h
        cases h.1
  | cancelExecute executionId =>
      refine subsides_updateWhere fun row _ h => ?_
      cases h.1
  | advance elapsed => exact .of_jobs_eq rfl

/-- What counts live leases by owner and pool does not count more. -/
theorem countP_le_of_subsides {now : ℕ} {q q' : JobQueue} (h : q.Subsides now q')
    {counted : JobRow → Bool} (hactive : ∀ job, counted job → job.Active now)
    (hcounted : ∀ job job' : JobRow, counted job' → job.Active now →
      job'.leaseOwner = job.leaseOwner → job'.pool = job.pool → counted job) :
    q'.jobs.countP counted ≤ q.jobs.countP counted := by
  obtain ⟨change, new, hjobs, hchange, hnew⟩ := h
  have hnone : new.countP counted = 0 := by
    rw [List.countP_eq_zero]
    exact fun job hjob hcount => hnew job hjob (hactive job hcount)
  rw [hjobs, List.countP_append, hnone, List.countP_map, Nat.add_zero]
  refine List.countP_mono_left fun job hjob hcount => ?_
  obtain ⟨hbefore, howner, hpool⟩ := hchange job hjob (hactive _ hcount)
  exact hcounted job (change job) hcount hbefore howner hpool

/-- Rows that do not count once they are updated. -/
theorem countP_updateWhere_le {q : JobQueue} {p : JobRow → Bool} {set : JobRow → JobRow}
    {counted : JobRow → Bool} (h : ∀ job ∈ q.jobs, p job → ¬counted (set job)) :
    (q.updateWhere p set).jobs.countP counted ≤ q.jobs.countP counted := by
  simp only [updateWhere, List.countP_map]
  refine List.countP_mono_left fun job hjob hcount => ?_
  simp only [Function.comp] at hcount
  split at hcount
  next hp => exact absurd hcount (h job hjob hp)
  · exact hcount

/-- An update of one row makes a count larger by one at most. -/
theorem countP_updateWhere_uuid {q : JobQueue} (hkeys : q.Keyed) (id : Uuid)
    (set : JobRow → JobRow) (counted : JobRow → Bool) :
    (q.updateWhere (fun row => row.uuid == id) set).jobs.countP counted ≤
      q.jobs.countP counted + 1 := by
  unfold Keyed at hkeys
  simp only [updateWhere]
  generalize q.jobs = jobs at hkeys ⊢
  induction jobs with
  | nil => simp
  | cons job rest ih =>
      rw [List.map_cons, List.nodup_cons] at hkeys
      rw [List.map_cons, List.countP_cons, List.countP_cons]
      by_cases hid : job.uuid = id
      · -- the other rows have other keys
        have hrest : rest.map (fun row => if row.uuid == id then set row else row) = rest := by
          refine (List.map_congr_left fun row hrow => ?_).trans (List.map_id rest)
          rw [if_neg]
          · rfl
          · rw [beq_iff_eq]
            intro hrowId
            exact hkeys.1 (List.mem_map.mpr ⟨row, hrow, hrowId.trans hid.symm⟩)
        rw [hrest]
        split <;> split <;> omega
      · have hsame : (if (job.uuid == id) = true then set job else job) = job := by simp [hid]
        rw [hsame]
        have := ih hkeys.2
        omega

section Counts

variable {now : ℕ} {q q' : JobQueue}

theorem workerActiveLeases_le_of_subsides (h : q.Subsides now q') (workerId : Uuid) :
    (q'.asOf now).workerActiveLeases workerId ≤ (q.asOf now).workerActiveLeases workerId := by
  refine countP_le_of_subsides h (fun job hcount => ?_)
    fun job job' hcount hactive howner hpool => ?_
  all_goals simp only [Bool.and_eq_true, beq_iff_eq] at hcount ⊢
  · exact ⟨hcount.1.1, hcount.2⟩
  · exact ⟨⟨hactive.1, howner.symm.trans hcount.1.2⟩, hactive.2⟩

theorem poolActiveLeases_le_of_subsides (h : q.Subsides now q') (pool : String) :
    (q'.asOf now).poolActiveLeases pool ≤ (q.asOf now).poolActiveLeases pool := by
  refine countP_le_of_subsides h (fun job hcount => ?_)
    fun job job' hcount hactive howner hpool => ?_
  all_goals simp only [Bool.and_eq_true, beq_iff_eq] at hcount ⊢
  · exact ⟨hcount.1.2, hcount.2⟩
  · exact ⟨⟨hpool.symm.trans hcount.1.1, hactive.1⟩, hactive.2⟩

/-- Later fewer leases are live. -/
theorem workerActiveLeases_le_of_le (hle : now ≤ q.now) (workerId : Uuid) :
    q.workerActiveLeases workerId ≤ (q.asOf now).workerActiveLeases workerId := by
  refine List.countP_mono_left fun job _ hcount => ?_
  simp only [Bool.and_eq_true] at hcount ⊢
  exact ⟨hcount.1, JobRow.leaseUnexpired_of_le hle hcount.2⟩

theorem poolActiveLeases_le_of_le (hle : now ≤ q.now) (pool : String) :
    q.poolActiveLeases pool ≤ (q.asOf now).poolActiveLeases pool := by
  refine List.countP_mono_left fun job _ hcount => ?_
  simp only [Bool.and_eq_true] at hcount ⊢
  exact ⟨hcount.1, JobRow.leaseUnexpired_of_le hle hcount.2⟩

end Counts

end JobQueue

/-! ### What a claim knows -/

/-- The first statement has read a registered worker, and the transaction has begun. -/
structure ClaimTx.Registered (q : JobQueue) (tx : ClaimTx) : Prop where
  worker : tx.worker ∈ q.workers
  active : tx.worker.status = .active
  started : tx.startedAt ≤ q.now

/-- The worker has a lease left. -/
def ClaimTx.WorkerRoom (q : JobQueue) (tx : ClaimTx) : Prop :=
  ((q.asOf tx.startedAt).workerActiveLeases tx.worker.uuid : ℤ) < tx.worker.concurrencyLimit

/-- The pool has a lease left. -/
def ClaimTx.PoolRoom (q : JobQueue) (tx : ClaimTx) : Prop :=
  ((q.asOf tx.startedAt).poolActiveLeases tx.worker.pool : ℤ) <
    q.poolConcurrencyLimit tx.worker.pool

/-- The selected row is in the pool of the worker and asks for nothing that the worker has not. -/
structure ClaimTx.Matches (q : JobQueue) (tx : ClaimTx) (job : JobRow) : Prop where
  mem : job ∈ q.jobs
  pool : job.pool = tx.worker.pool
  capabilities : job.requiredCapabilities.all tx.worker.capabilities.contains
  labels : job.requiredLabels.all tx.worker.labels.contains

/-- What is known at each point of a claim. -/
def ClaimPhase.Holds (q : JobQueue) : ClaimPhase → Prop
  | .idle => True
  | .registered tx => tx.Registered q
  | .locked tx => tx.Registered q
  | .counted tx => tx.Registered q ∧ tx.WorkerRoom q
  | .limited tx poolLimit =>
      tx.Registered q ∧ tx.WorkerRoom q ∧ poolLimit = q.poolConcurrencyLimit tx.worker.pool
  | .roomy tx => tx.Registered q ∧ tx.WorkerRoom q ∧ tx.PoolRoom q
  | .selected tx job => tx.Registered q ∧ tx.WorkerRoom q ∧ tx.PoolRoom q ∧ tx.Matches q job

/-- Whoever holds a lock has read a registered worker. -/
theorem ClaimPhase.Holds.registered {q : JobQueue} {phase : ClaimPhase} (h : phase.Holds q)
    {tx : ClaimTx} (htx : phase.holder = some tx) : tx.Registered q := by
  cases phase with
  | idle => cases htx
  | registered tx' => cases htx
  | locked tx' =>
      cases htx
      exact h
  | _ =>
      cases htx
      exact h.1

/-- The tables change without disturbing a claim: whoever holds the lock of a pool finds no more
live leases there, and the locked row is still the same. -/
structure ClaimPhase.Undisturbed (phase : ClaimPhase) (q q' : JobQueue) : Prop where
  workers : q'.workers = q.workers
  now : q.now ≤ q'.now
  workerLeases : ∀ tx, phase.holder = some tx →
    (q'.asOf tx.startedAt).workerActiveLeases tx.worker.uuid ≤
      (q.asOf tx.startedAt).workerActiveLeases tx.worker.uuid
  poolLeases : ∀ tx, phase.holder = some tx →
    (q'.asOf tx.startedAt).poolActiveLeases tx.worker.pool ≤
      (q.asOf tx.startedAt).poolActiveLeases tx.worker.pool
  row : ∀ tx job, phase = .selected tx job → job ∈ q.jobs → job ∈ q'.jobs

/-- What is known survives such a change. -/
theorem ClaimPhase.Holds.of_undisturbed {q q' : JobQueue} {phase : ClaimPhase} (h : phase.Holds q)
    (hsame : phase.Undisturbed q q') : phase.Holds q' := by
  have hregistered : ∀ tx : ClaimTx, tx.Registered q → tx.Registered q' := fun tx hreg =>
    ⟨hsame.workers ▸ hreg.worker, hreg.active, hreg.started.trans hsame.now⟩
  have hlimit : ∀ pool, q'.poolConcurrencyLimit pool = q.poolConcurrencyLimit pool := fun pool => by
    simp only [JobQueue.poolConcurrencyLimit, hsame.workers]
  have hworker : ∀ tx : ClaimTx, phase.holder = some tx → tx.WorkerRoom q → tx.WorkerRoom q' := by
    intro tx htx hroom
    have := hsame.workerLeases tx htx
    unfold ClaimTx.WorkerRoom at hroom ⊢
    omega
  have hpool : ∀ tx : ClaimTx, phase.holder = some tx → tx.PoolRoom q → tx.PoolRoom q' := by
    intro tx htx hroom
    have := hsame.poolLeases tx htx
    unfold ClaimTx.PoolRoom at hroom ⊢
    rw [hlimit]
    omega
  cases phase with
  | idle => trivial
  | registered tx => exact hregistered tx h
  | locked tx => exact hregistered tx h
  | counted tx => exact ⟨hregistered tx h.1, hworker tx rfl h.2⟩
  | limited tx poolLimit =>
      exact ⟨hregistered tx h.1, hworker tx rfl h.2.1, h.2.2.trans (hlimit _).symm⟩
  | roomy tx => exact ⟨hregistered tx h.1, hworker tx rfl h.2.1, hpool tx rfl h.2.2⟩
  | selected tx job =>
      obtain ⟨hreg, hroom, hroom', hmatches⟩ := h
      exact ⟨hregistered tx hreg, hworker tx rfl hroom, hpool tx rfl hroom',
        hsame.row tx job rfl hmatches.mem, hmatches.pool, hmatches.capabilities, hmatches.labels⟩

/-! ### The invariant -/

namespace ClaimSystem

/-- The keys are unique, every replica is where what it knows holds, and no pool is locked twice. -/
structure Inv (s : ClaimSystem) : Prop where
  keys : s.queue.Keyed
  workers : (s.queue.workers.map WorkerInstanceRow.uuid).Nodup
  holds : ∀ (replica : ℕ) (phase : ClaimPhase), s.replicas[replica]? = some phase →
    phase.Holds s.queue
  exclusive : ∀ (replica replica' : ℕ) (phase phase' : ClaimPhase) (pool : String),
    s.replicas[replica]? = some phase → s.replicas[replica']? = some phase' →
      phase.poolLock = some pool → phase'.poolLock = some pool → replica = replica'

/-- The phase of a replica after another phase is entered. -/
theorem getElem?_enter {s : ClaimSystem} {replica other : ℕ} {phase phase' : ClaimPhase}
    (h : (s.enter replica phase).replicas[other]? = some phase') :
    other = replica ∧ phase' = phase ∨ other ≠ replica ∧ s.replicas[other]? = some phase' := by
  simp only [enter, List.getElem?_set] at h
  split at h
  next hsame =>
    split at h
    · cases h
      exact .inl ⟨hsame.symm, rfl⟩
    · cases h
  next hne => exact .inr ⟨fun heq => hne heq.symm, h⟩

/-- A replica enters a phase in which what it knows holds, and locks no pool that it had not
locked before. -/
theorem Inv.enter {s : ClaimSystem} (hs : s.Inv) {replica : ℕ} {before phase : ClaimPhase}
    (hbefore : s.replicas[replica]? = some before) (hholds : phase.Holds s.queue)
    (hlock : ∀ pool, phase.poolLock = some pool →
      before.poolLock = some pool ∨ ∀ other ∈ s.replicas, other.poolLock ≠ some pool) :
    (s.enter replica phase).Inv where
  keys := hs.keys
  workers := hs.workers
  holds other phase' hphase' := by
    rcases getElem?_enter hphase' with ⟨-, rfl⟩ | ⟨-, hother⟩
    · exact hholds
    · exact hs.holds other phase' hother
  exclusive i j p p' pool hp hp' hpool hpool' := by
    rcases getElem?_enter hp with ⟨rfl, rfl⟩ | ⟨hi, hpi⟩ <;>
      rcases getElem?_enter hp' with ⟨rfl, rfl⟩ | ⟨hj, hpj⟩
    · rfl
    · rcases hlock pool hpool with hheld | hfree
      · exact hs.exclusive _ _ _ _ pool hbefore hpj hheld hpool'
      · exact absurd hpool' (hfree _ (List.mem_of_getElem? hpj))
    · rcases hlock pool hpool' with hheld | hfree
      · exact hs.exclusive _ _ _ _ pool hpi hbefore hpool hheld
      · exact absurd hpool (hfree _ (List.mem_of_getElem? hpi))
    · exact hs.exclusive _ _ _ _ pool hpi hpj hpool hpool'

/-- The tables change and disturb no claim. -/
theorem Inv.of_undisturbed {s : ClaimSystem} (hs : s.Inv) {q : JobQueue} (hkeys : q.Keyed)
    (hworkers : q.workers = s.queue.workers)
    (hsame : ∀ (replica : ℕ) (phase : ClaimPhase), s.replicas[replica]? = some phase →
      phase.Undisturbed s.queue q) :
    Inv { s with queue := q } where
  keys := hkeys
  workers := hworkers ▸ hs.workers
  holds replica phase hphase :=
    (hs.holds replica phase hphase).of_undisturbed (hsame replica phase hphase)
  exclusive := hs.exclusive

/-- Registrations and the clock under the operations beside claims. -/
theorem step_workers {q : JobQueue} {op : QueueOp} (hop : op.runsBeside) :
    (q.step op).workers = q.workers ∧ q.now ≤ (q.step op).now := by
  have hclose : ∀ (jobId workerId leaseToken : Uuid) (set : JobRow → JobRow)
      (event : JobRow → ClaimEventKind) (details : Json),
      (q.closeLease jobId workerId leaseToken set event details).1.workers = q.workers ∧
        q.now ≤ (q.closeLease jobId workerId leaseToken set event details).1.now := by
    intro jobId workerId leaseToken set event details
    rcases q.closeLease_cases jobId workerId leaseToken set event details with
      ⟨hsame, -⟩ | ⟨job, -, -, hclosed⟩
    · rw [hsame]
      exact ⟨rfl, Nat.le_refl _⟩
    · rw [hclosed]
      exact ⟨rfl, Nat.le_refl _⟩
  cases op with
  | claim workerId workerPool lockSeconds leaseToken locked => cases hop
  | registerWorkers workers => cases hop
  | enqueueRecurring job => cases hop
  | renew jobId workerId leaseToken lockSeconds => exact ⟨rfl, Nat.le_refl _⟩
  | complete jobId workerId leaseToken => exact hclose _ _ _ _ _ _
  | reschedule jobId workerId leaseToken delaySecs => exact hclose _ _ _ _ _ _
  | failPermanently jobId workerId leaseToken error failureClass => exact hclose _ _ _ _ _ _
  | failOrRetry jobId workerId leaseToken error failureClass retryDelaySeconds =>
      exact hclose _ _ _ _ _ _
  | enqueue job =>
      simp only [JobQueue.step, JobQueue.insertJob]
      split
      · exact ⟨rfl, Nat.le_refl _⟩
      split <;> exact ⟨rfl, Nat.le_refl _⟩
  | cancelExecute executionId => exact ⟨rfl, Nat.le_refl _⟩
  | advance elapsed => exact ⟨rfl, Nat.le_add_right _ _⟩

/-- An operation that does not wait disturbs no claim. -/
theorem undisturbed_step {s : ClaimSystem} {replica : ℕ} {phase : ClaimPhase}
    (hs : s.Inv) (hphase : s.replicas[replica]? = some phase) {op : QueueOp} (hop : op.runsBeside)
    (hwaits : s.waits op = false) : phase.Undisturbed s.queue (s.queue.step op) := by
  have hstarted : ∀ tx, phase.holder = some tx → tx.startedAt ≤ s.queue.now := fun tx htx =>
    ((hs.holds replica phase hphase).registered htx).started
  refine ⟨(step_workers hop).1, (step_workers hop).2, fun tx htx => ?_, fun tx htx => ?_, ?_⟩
  · exact JobQueue.workerActiveLeases_le_of_subsides
      (JobQueue.subsides_step (hstarted tx htx) hop) _
  · exact JobQueue.poolActiveLeases_le_of_subsides
      (JobQueue.subsides_step (hstarted tx htx) hop) _
  · rintro tx job rfl hjob
    -- the row is locked, so the operation has left it as it was
    have hlocked : s.lockedRows.contains job.uuid := by
      rw [List.contains_iff_mem]
      exact List.mem_filterMap.mpr ⟨_, List.mem_of_getElem? hphase, rfl⟩
    unfold waits at hwaits
    rw [List.any_eq_false] at hwaits
    have hrow := hwaits job hjob
    rw [hlocked] at hrow
    simpa using hrow

/-- A claim that commits disturbs no other: whoever else holds a lock holds that of another pool. -/
theorem undisturbed_commit {s : ClaimSystem} (hs : s.Inv) {replica other : ℕ}
    (hne : other ≠ replica) {tx : ClaimTx} {job : JobRow} {phase : ClaimPhase}
    (hselected : s.replicas[replica]? = some (.selected tx job))
    (hphase : s.replicas[other]? = some phase) (leaseToken : Uuid) :
    phase.Undisturbed s.queue (s.queue.commitClaim tx job leaseToken) := by
  obtain ⟨hregistered, -, -, hmatches⟩ := hs.holds replica _ hselected
  have hpools : ∀ tx', phase.holder = some tx' → tx'.worker.pool ≠ tx.worker.pool := by
    intro tx' htx' hpool
    refine hne (hs.exclusive other replica phase _ tx.worker.pool hphase hselected ?_ rfl)
    simp [ClaimPhase.poolLock, htx', hpool]
  have hjob : ∀ row ∈ s.queue.jobs, row.uuid = job.uuid → row = job := fun row hrow huuid =>
    LeaseSystem.mem_eq_of_uuid hs.keys hrow hmatches.mem huuid
  refine ⟨rfl, Nat.le_refl _, fun tx' htx' => ?_, fun tx' htx' => ?_, ?_⟩
  · -- the new lease is one of another worker
    have hworkers : tx.worker.uuid ≠ tx'.worker.uuid := by
      intro huuid
      have hregistered' := (hs.holds other phase hphase).registered htx'
      have hsame := List.inj_on_of_nodup_map hs.workers hregistered.worker hregistered'.worker huuid
      exact hpools tx' htx' (congrArg WorkerInstanceRow.pool hsame.symm)
    refine JobQueue.countP_updateWhere_le fun row hrow huuid hcount => ?_
    simp only [Bool.and_eq_true, beq_iff_eq, JobRow.takeLease, Option.some.injEq] at hcount
    exact hworkers hcount.1.2
  · refine JobQueue.countP_updateWhere_le fun row hrow huuid hcount => ?_
    simp only [Bool.and_eq_true, beq_iff_eq, JobRow.takeLease] at hcount
    rw [hjob row hrow (beq_iff_eq.mp huuid), hmatches.pool] at hcount
    exact hpools tx' htx' hcount.1.1.symm
  · rintro tx' job' rfl hjob'
    -- the two locked rows are in different pools
    obtain ⟨-, -, -, hmatches'⟩ := hs.holds other _ hphase
    have huuid : job'.uuid ≠ job.uuid := by
      intro huuid
      rw [hjob job' hjob' huuid] at hmatches'
      exact hpools tx' rfl (hmatches'.pool.symm.trans hmatches.pool)
    exact JobQueue.mem_updateWhere.mpr ⟨job', hjob', by simp [huuid]⟩

/-- **Every step keeps the invariant.** -/
theorem Inv.step {s : ClaimSystem} (hs : s.Inv) (i : ClaimStep) : (s.step i).Inv := by
  cases i with
  | selectWorker replica workerId workerPool lockSeconds elapsed =>
      simp only [ClaimSystem.step]
      split
      next hphase =>
        split
        · exact hs
        next worker hworker =>
          have hkey := List.find?_some hworker
          simp only [Bool.and_eq_true, beq_iff_eq] at hkey
          refine hs.enter hphase ?_ fun pool hpool => by cases hpool
          exact ⟨List.mem_of_find?_eq_some hworker, hkey.1.2, Nat.sub_le _ _⟩
      · exact hs
  | lockPool replica =>
      simp only [ClaimSystem.step]
      split
      next tx hphase =>
        split
        · exact hs
        next hfree =>
          have hregistered : tx.Registered s.queue := hs.holds replica _ hphase
          refine hs.enter hphase hregistered fun pool hpool => .inr ?_
          intro other hother hlocked
          obtain rfl : tx.worker.pool = pool := Option.some.inj hpool
          refine hfree (List.any_eq_true.mpr ⟨other, hother, ?_⟩)
          exact beq_iff_eq.mpr hlocked
      · exact hs
  | countWorker replica =>
      simp only [ClaimSystem.step]
      split
      next tx hphase =>
        split
        · exact hs.enter hphase trivial fun pool hpool => by cases hpool
        next hroom =>
          refine hs.enter hphase ⟨hs.holds replica _ hphase, ?_⟩ fun pool hpool => .inl hpool
          unfold ClaimTx.WorkerRoom
          omega
      · exact hs
  | sumLimits replica =>
      simp only [ClaimSystem.step]
      split
      next tx hphase =>
        obtain ⟨hregistered, hroom⟩ := hs.holds replica _ hphase
        exact hs.enter hphase ⟨hregistered, hroom, rfl⟩ fun pool hpool => .inl hpool
      · exact hs
  | countPool replica =>
      simp only [ClaimSystem.step]
      split
      next tx poolLimit hphase =>
        obtain ⟨hregistered, hroom, rfl⟩ := hs.holds replica _ hphase
        split
        · exact hs.enter hphase trivial fun pool hpool => by cases hpool
        next hpool =>
          refine hs.enter hphase ⟨hregistered, hroom, ?_⟩ fun pool hpool => .inl hpool
          unfold ClaimTx.PoolRoom
          omega
      · exact hs
  | selectCandidate replica locked =>
      simp only [ClaimSystem.step]
      split
      next tx hphase =>
        obtain ⟨hregistered, hroom, hroom'⟩ := hs.holds replica _ hphase
        split
        · exact hs.enter hphase trivial fun pool hpool => by cases hpool
        next job hcandidate =>
          obtain ⟨hmem, hpool, hcapabilities, hlabels, -, -⟩ :=
            JobQueue.nextCandidate_some hcandidate
          exact hs.enter hphase
            ⟨hregistered, hroom, hroom', hmem, hpool, hcapabilities, hlabels⟩
            fun pool hpool => .inl hpool
      · exact hs
  | commit replica leaseToken =>
      simp only [ClaimSystem.step]
      split
      next tx job hphase =>
        have hidle : (s.enter replica .idle).Inv :=
          hs.enter hphase trivial fun pool hpool => by cases hpool
        refine hidle.of_undisturbed (JobQueue.keyed_updateWhere hs.keys fun _ => rfl) rfl ?_
        intro other phase hother
        rcases getElem?_enter hother with ⟨-, rfl⟩ | ⟨hne, hother⟩
        · refine ⟨rfl, Nat.le_refl _, ?_, ?_, ?_⟩
          · rintro tx' ⟨⟩
          · rintro tx' ⟨⟩
          · rintro tx' job' ⟨⟩
        · exact undisturbed_commit hs hne hphase hother leaseToken
      · exact hs
  | rollback replica =>
      cases hphase : s.replicas[replica]? with
      | none =>
          have hsame : s.replicas.set replica .idle = s.replicas :=
            List.set_eq_of_length_le (List.getElem?_eq_none_iff.mp hphase)
          simpa only [ClaimSystem.step, ClaimSystem.enter, hsame] using hs
      | some phase => exact hs.enter hphase trivial fun pool hpool => by cases hpool
  | other op =>
      simp only [ClaimSystem.step]
      split
      next hruns =>
        simp only [Bool.and_eq_true, Bool.not_eq_true'] at hruns
        exact hs.of_undisturbed (JobQueue.keyed_step hs.keys op) (step_workers hruns.1).1
          fun replica phase hphase => undisturbed_step hs hphase hruns.1 hruns.2
      · exact hs

/-! ### A claim without other transactions -/

theorem filterMap_set_of_eq {α β : Type*} {f : α → Option β} {l : List α} {i : ℕ} {a b : α}
    (h : l[i]? = some b) (hf : f a = f b) : (l.set i a).filterMap f = l.filterMap f := by
  induction l generalizing i with
  | nil => rfl
  | cons c rest ih =>
      cases i with
      | zero =>
          obtain rfl : c = b := by simpa using h
          simp only [List.set_cons_zero, List.filterMap_cons, hf]
      | succ i => simp only [List.set_cons_succ, List.filterMap_cons, ih (by simpa using h)]

/-- **Without other transactions the statements are the claim.** -/
theorem exec_alone {s : ClaimSystem} {replica : ℕ} (hidle : s.replicas[replica]? = some .idle)
    {workerPool : String} (hfree : ∀ phase ∈ s.replicas, phase.poolLock ≠ some workerPool)
    (workerId : Uuid) (lockSeconds : ℤ) (locked : List Uuid) (leaseToken : Uuid) :
    Runs.exec step s
        [.selectWorker replica workerId workerPool lockSeconds 0, .lockPool replica,
          .countWorker replica, .sumLimits replica, .countPool replica,
          .selectCandidate replica locked, .commit replica leaseToken] =
      { s with
        queue := (s.queue.claimNextJobForWorker workerId workerPool lockSeconds leaseToken
          (s.lockedRows ++ locked)).1 } := by
  have hget : ∀ phase, (s.enter replica phase).replicas[replica]? = some phase := by
    intro phase
    have hlt := (List.getElem?_eq_some_iff.mp hidle).1
    simp [enter, hlt]
  have hset : ∀ phase phase', (s.enter replica phase).enter replica phase' =
      s.enter replica phase' := fun phase phase' => by simp [enter]
  have hback : s.enter replica .idle = s := by
    have hsame : s.replicas.set replica .idle = s.replicas := by
      refine List.ext_getElem? fun i => ?_
      rcases eq_or_ne replica i with rfl | hne
      · rw [hidle]
        exact hget .idle
      · simp [hne]
    simp only [enter, hsame]
  have hrows : ∀ tx, (s.enter replica (.roomy tx)).lockedRows = s.lockedRows :=
    fun tx => filterMap_set_of_eq hidle rfl
  simp only [Runs.exec_cons, Runs.exec_nil, JobQueue.claimNextJobForWorker]
  -- each refusal ends the transaction, and the later statements find the replica idle
  cases hworker : s.queue.workers.find? fun w =>
      w.uuid == workerId && w.status == .active && w.pool == workerPool with
  | none => simp only [step, hidle, hworker]
  | some worker =>
      have hkey := List.find?_some hworker
      simp only [Bool.and_eq_true, beq_iff_eq] at hkey
      obtain ⟨⟨rfl, -⟩, rfl⟩ := hkey
      simp only
      let tx : ClaimTx := ⟨worker, lockSeconds, s.queue.now⟩
      have hregistered : s.step (.selectWorker replica worker.uuid worker.pool lockSeconds 0) =
          s.enter replica (.registered tx) := by
        simp only [step, hidle, hworker]
        rfl
      have hlocked : (s.enter replica (.registered tx)).step (.lockPool replica) =
          s.enter replica (.locked tx) := by
        simp only [step, hget]
        rw [if_neg, hset]
        rw [List.any_eq_true]
        rintro ⟨phase, hphase, hlock⟩
        rcases List.mem_or_eq_of_mem_set hphase with hphase | rfl
        · exact hfree phase hphase (beq_iff_eq.mp hlock)
        · cases hlock
      have hsums : s.step (.sumLimits replica) = s := by simp only [step, hidle]
      have hcounts : s.step (.countPool replica) = s := by simp only [step, hidle]
      have hselects : s.step (.selectCandidate replica locked) = s := by simp only [step, hidle]
      have hcommits : s.step (.commit replica leaseToken) = s := by simp only [step, hidle]
      rw [hregistered, hlocked]
      by_cases hroom : worker.concurrencyLimit ≤ s.queue.workerActiveLeases worker.uuid
      · have hfull : (s.enter replica (.locked tx)).step (.countWorker replica) = s := by
          simp only [step, hget]
          exact (if_pos hroom).trans ((hset _ _).trans hback)
        rw [hfull, hsums, hcounts, hselects, hcommits, if_pos hroom]
      have hcounted : (s.enter replica (.locked tx)).step (.countWorker replica) =
          s.enter replica (.counted tx) := by
        simp only [step, hget]
        exact (if_neg hroom).trans (hset _ _)
      have hlimited : (s.enter replica (.counted tx)).step (.sumLimits replica) =
          s.enter replica (.limited tx (s.queue.poolConcurrencyLimit worker.pool)) := by
        simp only [step, hget]
        exact hset _ _
      rw [hcounted, hlimited, if_neg hroom]
      by_cases hpool : s.queue.poolConcurrencyLimit worker.pool < 1 ∨
          s.queue.poolConcurrencyLimit worker.pool ≤ s.queue.poolActiveLeases worker.pool
      · have hfull : (s.enter replica (.limited tx (s.queue.poolConcurrencyLimit worker.pool))).step
            (.countPool replica) = s := by
          simp only [step, hget]
          exact (if_pos hpool).trans ((hset _ _).trans hback)
        rw [hfull, hselects, hcommits, if_pos hpool]
      have hroomy : (s.enter replica (.limited tx (s.queue.poolConcurrencyLimit worker.pool))).step
          (.countPool replica) = s.enter replica (.roomy tx) := by
        simp only [step, hget]
        exact (if_neg hpool).trans (hset _ _)
      rw [hroomy, if_neg hpool]
      have hcandidate : (s.enter replica (.roomy tx)).step (.selectCandidate replica locked) =
          match s.queue.nextCandidate worker (s.lockedRows ++ locked) with
          | none => s
          | some job => s.enter replica (.selected tx job) := by
        simp only [step, hget, hrows]
        change (match s.queue.nextCandidate worker (s.lockedRows ++ locked) with
          | none => (s.enter replica (.roomy tx)).enter replica .idle
          | some job => (s.enter replica (.roomy tx)).enter replica (.selected tx job)) = _
        simp only [hset, hback]
      rw [hcandidate]
      cases s.queue.nextCandidate worker (s.lockedRows ++ locked) with
      | none => exact hcommits
      | some job =>
          simp only [step, hget, hset, hback]
          rfl

end ClaimSystem

/-! ### Capacity -/

section Capacity

variable {s : ClaimSystem}

/-- Registrations are fixed. -/
theorem ClaimSystem.exec_workers (steps : List ClaimStep) :
    (Runs.exec ClaimSystem.step s steps).queue.workers = s.queue.workers := by
  induction steps generalizing s with
  | nil => rfl
  | cons i steps ih =>
      rw [Runs.exec_cons, ih]
      cases i <;> simp only [ClaimSystem.step]
      case other op =>
        split
        next hruns =>
          simp only [Bool.and_eq_true] at hruns
          exact (ClaimSystem.step_workers hruns.1).1
        · rfl
      all_goals repeat' first | rfl | split

/-- **A claim stays within both capacities.**  Replicas without a claim start from tables whose keys
are unique, and then any number of them claim, in any order of their statements, while other
transactions renew and close leases, create and cancel jobs, and the clock moves.  Whenever a claim
commits, its worker is registered, the leases of the worker that have not run out are at most its
concurrency limit, those of the pool are at most the limits of its active workers, and the job asks
for no capability and no label that the worker has not. -/
theorem claim_within_capacity (hkeys : (s.queue.jobs.map JobRow.uuid).Nodup)
    (hworkers : (s.queue.workers.map WorkerInstanceRow.uuid).Nodup)
    (hidle : ∀ phase ∈ s.replicas, phase = .idle) (steps : List ClaimStep) (replica : ℕ)
    (leaseToken : Uuid) {tx : ClaimTx} {job : JobRow}
    (hselected : (Runs.exec ClaimSystem.step s steps).replicas[replica]? =
      some (.selected tx job)) :
    let after := ((Runs.exec ClaimSystem.step s steps).step (.commit replica leaseToken)).queue
    after.workers = s.queue.workers ∧ tx.worker ∈ after.workers ∧ tx.worker.status = .active ∧
      (∃ claimed ∈ after.jobs, claimed.uuid = job.uuid ∧ claimed.status = .running ∧
        claimed.leaseOwner = some tx.worker.uuid ∧ claimed.leaseToken = some leaseToken ∧
        claimed.pool = tx.worker.pool ∧
        claimed.requiredCapabilities ⊆ tx.worker.capabilities ∧
        claimed.requiredLabels ⊆ tx.worker.labels) ∧
      (after.workerActiveLeases tx.worker.uuid : ℤ) ≤ tx.worker.concurrencyLimit ∧
      (after.poolActiveLeases tx.worker.pool : ℤ) ≤ after.poolConcurrencyLimit tx.worker.pool := by
  have hstart : s.Inv := by
    refine ⟨hkeys, hworkers, fun replica phase hphase => ?_,
      fun replica replica' phase phase' pool hphase hphase' hpool => ?_⟩
    · rw [hidle phase (List.mem_of_getElem? hphase)]
      trivial
    · rw [hidle phase (List.mem_of_getElem? hphase)] at hpool
      cases hpool
  have hinv := Runs.exec_invariant (C := fun _ _ => True) ClaimSystem.Inv
    (fun _ i h _ => h.step i) hstart (Runs.meets_true steps)
  have hfixed := ClaimSystem.exec_workers (s := s) steps
  generalize Runs.exec ClaimSystem.step s steps = t at hinv hselected hfixed
  obtain ⟨hregistered, hroom, hroom', hmatches⟩ := hinv.holds replica _ hselected
  intro after
  have hafter : after = t.queue.commitClaim tx job leaseToken := by
    simp only [after, ClaimSystem.step, hselected]
  rw [hafter]
  refine ⟨hfixed, hregistered.worker, hregistered.active, ?_, ?_, ?_⟩
  · refine ⟨JobRow.takeLease tx.startedAt tx.worker.uuid leaseToken tx.lockSeconds job,
      JobQueue.mem_updateWhere.mpr ⟨job, hmatches.mem, by simp⟩, rfl, rfl, rfl, rfl,
      hmatches.pool, fun capability hcapability => ?_, fun label hlabel => ?_⟩
    · simpa using List.all_eq_true.mp hmatches.capabilities capability hcapability
    · simpa using List.all_eq_true.mp hmatches.labels label hlabel
  · -- one more than the claim has counted, and fewer of them are live now
    have hnow := JobQueue.workerActiveLeases_le_of_le
      (q := t.queue.commitClaim tx job leaseToken) hregistered.started tx.worker.uuid
    have hone := JobQueue.countP_updateWhere_uuid hinv.keys job.uuid
      (JobRow.takeLease tx.startedAt tx.worker.uuid leaseToken tx.lockSeconds) fun row =>
        row.status == .running && row.leaseOwner == some tx.worker.uuid &&
          row.leaseUnexpired tx.startedAt
    have hcount : ((t.queue.commitClaim tx job leaseToken).asOf tx.startedAt).workerActiveLeases
        tx.worker.uuid ≤ (t.queue.asOf tx.startedAt).workerActiveLeases tx.worker.uuid + 1 := hone
    unfold ClaimTx.WorkerRoom at hroom
    omega
  · have hnow := JobQueue.poolActiveLeases_le_of_le
      (q := t.queue.commitClaim tx job leaseToken) hregistered.started tx.worker.pool
    have hone := JobQueue.countP_updateWhere_uuid hinv.keys job.uuid
      (JobRow.takeLease tx.startedAt tx.worker.uuid leaseToken tx.lockSeconds) fun row =>
        row.pool == tx.worker.pool && row.status == .running && row.leaseUnexpired tx.startedAt
    have hcount : ((t.queue.commitClaim tx job leaseToken).asOf tx.startedAt).poolActiveLeases
        tx.worker.pool ≤ (t.queue.asOf tx.startedAt).poolActiveLeases tx.worker.pool + 1 := hone
    have hlimit : (t.queue.commitClaim tx job leaseToken).poolConcurrencyLimit tx.worker.pool =
        t.queue.poolConcurrencyLimit tx.worker.pool := rfl
    unfold ClaimTx.PoolRoom at hroom'
    omega

end Capacity

/-- Two workers with one lease each, two jobs and three replicas. -/
def raceSystem : ClaimSystem :=
  { queue :=
      { now := 5
        workers :=
          [⟨1, "default", ["gpu"], [("site", "a")], 1, .active⟩, ⟨2, "default", [], [], 1, .active⟩]
        jobs :=
          [NewJob.row 0
            { uuid := 10
              kind := .execute
              payload := .null
              executionId := none
              idempotencyKey := none
              nextRunAt := 0
              maxAttempts := 3
              pool := "default"
              requiredCapabilities := ["gpu"]
              requiredLabels := [("site", "a")]
              priority := 0 },
            NewJob.row 0
            { uuid := 11
              kind := .execute
              payload := .null
              executionId := none
              idempotencyKey := none
              nextRunAt := 0
              maxAttempts := 3
              pool := "default"
              requiredCapabilities := []
              requiredLabels := []
              priority := 0 }]
        history := [] }
    replicas := [.idle, .idle, .idle] }

/-- Two claims of one worker and one of the other begin together; the lock of the pool lets one of
them count. -/
def raceSteps : List ClaimStep :=
  [.selectWorker 0 1 "default" 60 0, .selectWorker 1 1 "default" 60 0,
    .selectWorker 2 2 "default" 60 0, .lockPool 0, .lockPool 1, .countWorker 0, .countWorker 1,
    .sumLimits 0, .other (.advance 7), .lockPool 2, .countPool 0, .selectCandidate 0 []]

/-- The claim that holds the lock commits within the capacity of its worker. -/
theorem claim_within_capacity_race :
    ((((Runs.exec ClaimSystem.step raceSystem raceSteps).step
      (.commit 0 20)).queue.workerActiveLeases 1 : ℕ) : ℤ) ≤ 1 := by
  obtain ⟨tx, job, hselected, hworker⟩ : ∃ tx job,
      (Runs.exec ClaimSystem.step raceSystem raceSteps).replicas[0]? = some (.selected tx job) ∧
        tx.worker = ⟨1, "default", ["gpu"], [("site", "a")], 1, .active⟩ :=
    ⟨⟨⟨1, "default", ["gpu"], [("site", "a")], 1, .active⟩, 60, 5⟩, _, rfl, rfl⟩
  have hwithin := (claim_within_capacity (s := raceSystem) (by decide) (by decide) (by decide)
    raceSteps 0 20 hselected).2.2.2.2.1
  rwa [hworker] at hwithin

end Beampipe
