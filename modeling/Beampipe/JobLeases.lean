/-
Lease fencing of the job queue.

`Beampipe/JobQueue.lean` models the operations on `jobs`.  Here any number of workers apply them in
any order while the clock advances, and the leases are followed as their holders know them: a
claim grants one, a renewal moves its end, a closing operation that reports success gives it up.
The invariant ties the two views together: a row that carries a token carries the end of the lease
its holder knows, and a lease that has not run out is still the one in its row unless the job was
cancelled.

Main definitions:

* `Beampipe.QueueOp` — one transaction on the job tables, or a move of the clock;
* `Beampipe.Lease`, `Beampipe.LeaseSystem` — granted leases, and the queue together with them;
* `Beampipe.LeaseSystem.Inv` — the invariant.

Main results:

* `Beampipe.LeaseSystem.Inv.step` — every transaction keeps the invariant;
* `Beampipe.LeaseSystem.lease_fencing` — **fencing**: a job has at most one unexpired lease, a
  stale owner and token change nothing, an expired lease stays expired, and each token is closed
  by at most one terminal event.
-/

import Beampipe.Runs
import Beampipe.JobQueue
import Mathlib.Data.List.Count

set_option relaxedAutoImplicit false
set_option autoImplicit false

namespace Beampipe

/-! ### Transactions -/

/-- One transaction on the job tables, or a move of the clock. -/
inductive QueueOp where
  | claim (workerId : Uuid) (workerPool : String) (lockSeconds : ℤ) (leaseToken : Uuid)
      (locked : List Uuid)
  | renew (jobId workerId leaseToken : Uuid) (lockSeconds : ℤ)
  | complete (jobId workerId leaseToken : Uuid)
  | reschedule (jobId workerId leaseToken : Uuid) (delaySecs : ℤ)
  | failPermanently (jobId workerId leaseToken : Uuid) (error failureClass : String)
  | failOrRetry (jobId workerId leaseToken : Uuid) (error failureClass : String)
      (retryDelaySeconds : ℤ)
  | enqueue (job : NewJob)
  | enqueueRecurring (job : NewJob)
  | cancelExecute (executionId : Uuid)
  | registerWorkers (workers : List WorkerInstanceRow)
  | advance (elapsed : ℕ)
  deriving DecidableEq, Repr

/-- The job, owner and token an operation presents. -/
def QueueOp.presents : QueueOp → Option (Uuid × Uuid × Uuid)
  | .renew jobId workerId leaseToken _ => some (jobId, workerId, leaseToken)
  | .complete jobId workerId leaseToken => some (jobId, workerId, leaseToken)
  | .reschedule jobId workerId leaseToken _ => some (jobId, workerId, leaseToken)
  | .failPermanently jobId workerId leaseToken _ _ => some (jobId, workerId, leaseToken)
  | .failOrRetry jobId workerId leaseToken _ _ _ => some (jobId, workerId, leaseToken)
  | _ => none

/-- The fresh token a claim brings. -/
def QueueOp.freshToken : QueueOp → Option Uuid
  | .claim _ _ _ leaseToken _ => some leaseToken
  | _ => none

/-- The tokens that the claims of a run bring. -/
def claimTokens (ops : List QueueOp) : List Uuid := ops.filterMap QueueOp.freshToken

/-- The owner and token are the current ones of the job. -/
def JobQueue.IsCurrentLease (q : JobQueue) (jobId workerId leaseToken : Uuid) : Prop :=
  ∃ job ∈ q.jobs,
    job.uuid = jobId ∧ job.leaseOwner = some workerId ∧ job.leaseToken = some leaseToken

/-! ### Leases as their holders know them -/

/-- A granted lease and the end its holder was told. -/
structure Lease where
  jobId : Uuid
  workerId : Uuid
  leaseToken : Uuid
  expiresAt : ℕ
  deriving DecidableEq, Repr

/-- The lease a claim hands out with the row it returns. -/
def Lease.ofRow (job : JobRow) : Option Lease :=
  match job.leaseOwner, job.leaseToken, job.leaseExpiresAt with
  | some workerId, some leaseToken, some expiresAt => some ⟨job.uuid, workerId, leaseToken, expiresAt⟩
  | _, _, _ => none

/-- The row carries exactly this lease. -/
structure Lease.RecordedIn (l : Lease) (job : JobRow) : Prop where
  uuid : job.uuid = l.jobId
  status : job.status = .running
  owner : job.leaseOwner = some l.workerId
  token : job.leaseToken = some l.leaseToken
  expires : job.leaseExpiresAt = some l.expiresAt

/-- The queue, the leases granted and not given up, and the tokens issued so far. -/
structure LeaseSystem where
  queue : JobQueue
  leases : List Lease
  issued : List Uuid
  deriving DecidableEq, Repr

namespace LeaseSystem

/-- Before the first job: empty tables at time `now`. -/
def initial (now : ℕ) : LeaseSystem :=
  { queue := { now := now, workers := [], jobs := [], history := [] }, leases := [], issued := [] }

/-- The holder of a closed lease gives it up when the operation reports success. -/
def afterClose (s : LeaseSystem) (leaseToken : Uuid) (result : JobQueue × Bool) : LeaseSystem :=
  { s with
    queue := result.1
    leases :=
      if result.2 then s.leases.filter fun l => l.leaseToken != leaseToken else s.leases }

/-- One transaction, with its effect on the leases as their holders know them. -/
def step (s : LeaseSystem) : QueueOp → LeaseSystem
  | .claim workerId workerPool lockSeconds leaseToken locked =>
      let result := s.queue.claimNextJobForWorker workerId workerPool lockSeconds leaseToken locked
      { queue := result.1
        leases := (result.2.bind Lease.ofRow).toList ++ s.leases
        issued := leaseToken :: s.issued }
  | .renew jobId workerId leaseToken lockSeconds =>
      let result := s.queue.renewJobLease jobId workerId leaseToken lockSeconds
      { s with
        queue := result.1
        leases :=
          if result.2 then
            s.leases.map fun l =>
              if l.leaseToken = leaseToken then
                { l with expiresAt := s.queue.now + seconds (max lockSeconds 1) }
              else l
          else s.leases }
  | .complete jobId workerId leaseToken =>
      s.afterClose leaseToken (s.queue.completeJobWithLease jobId workerId leaseToken)
  | .reschedule jobId workerId leaseToken delaySecs =>
      s.afterClose leaseToken
        (s.queue.rescheduleRecurringJobWithLease jobId workerId leaseToken delaySecs)
  | .failPermanently jobId workerId leaseToken error failureClass =>
      s.afterClose leaseToken
        (s.queue.failJobPermanentlyWithLease jobId workerId leaseToken error failureClass)
  | .failOrRetry jobId workerId leaseToken error failureClass retryDelaySeconds =>
      s.afterClose leaseToken
        (s.queue.failOrRetryJobWithLease jobId workerId leaseToken error failureClass
          retryDelaySeconds)
  | .enqueue job => { s with queue := s.queue.insertJob job }
  | .enqueueRecurring job => { s with queue := s.queue.upsertRecurringJob job }
  | .cancelExecute executionId => { s with queue := s.queue.cancelExecuteJobs executionId }
  | .registerWorkers workers => { s with queue := { s.queue with workers := workers } }
  | .advance elapsed => { s with queue := { s.queue with now := s.queue.now + elapsed } }

/-- The system after the transactions `ops` from empty tables at time `now`. -/
def run (now : ℕ) (ops : List QueueOp) : LeaseSystem := Runs.exec step (initial now) ops

/-- A claim brings a token that was never issued before. -/
def Fresh (s : LeaseSystem) (op : QueueOp) : Prop := ∀ t ∈ op.freshToken, t ∉ s.issued

/-! ### The invariant -/

/-- What every run keeps: the rows and the holders agree on the leases, and history closes no
lease twice. -/
structure Inv (s : LeaseSystem) : Prop where
  /-- `uuid` is the primary key of `jobs`. -/
  keys : (s.queue.jobs.map JobRow.uuid).Nodup
  /-- A row with a token carries a granted lease. -/
  recorded : ∀ job ∈ s.queue.jobs, ∀ t, job.leaseToken = some t →
    ∃ l ∈ s.leases, l.RecordedIn job
  /-- A lease that has not run out is in its row, or its job was cancelled. -/
  live : ∀ l ∈ s.leases, s.queue.now < l.expiresAt → ∃ job ∈ s.queue.jobs,
    l.RecordedIn job ∨ job.uuid = l.jobId ∧ job.status = .cancelled
  /-- A job has at most one lease that has not run out. -/
  exclusive : ∀ l₁ ∈ s.leases, ∀ l₂ ∈ s.leases, l₁.jobId = l₂.jobId →
    s.queue.now < l₁.expiresAt → s.queue.now < l₂.expiresAt → l₁ = l₂
  /-- Different leases have different tokens. -/
  tokens : (s.leases.map Lease.leaseToken).Nodup
  /-- The token of a lease was issued. -/
  leaseIssued : ∀ l ∈ s.leases, l.leaseToken ∈ s.issued
  /-- The token of an event was issued. -/
  eventIssued : ∀ e ∈ s.queue.history, e.leaseToken ∈ s.issued
  /-- No terminal event closes a lease that is not given up. -/
  openLease : ∀ l ∈ s.leases, s.queue.history.countP (ClaimEvent.closes l.leaseToken) = 0
  /-- No token is closed twice. -/
  closedOnce : ∀ t, s.queue.history.countP (ClaimEvent.closes t) ≤ 1

theorem inv_initial (now : ℕ) : Inv (initial now) := by
  constructor <;> simp [initial]

theorem mem_eq_of_uuid {jobs : List JobRow} (hkeys : (jobs.map JobRow.uuid).Nodup) {a b : JobRow}
    (ha : a ∈ jobs) (hb : b ∈ jobs) (h : a.uuid = b.uuid) : a = b :=
  List.inj_on_of_nodup_map hkeys ha hb h

theorem lease_eq_of_token {s : LeaseSystem} (hs : s.Inv) {l₁ l₂ : Lease} (h₁ : l₁ ∈ s.leases)
    (h₂ : l₂ ∈ s.leases) (h : l₁.leaseToken = l₂.leaseToken) : l₁ = l₂ :=
  List.inj_on_of_nodup_map hs.tokens h₁ h₂ h

/-- A token that was never issued is closed by no event. -/
theorem Inv.count_of_not_issued {s : LeaseSystem} (hs : s.Inv) {t : Uuid} (ht : t ∉ s.issued) :
    s.queue.history.countP (ClaimEvent.closes t) = 0 := by
  rw [List.countP_eq_zero]
  intro e he hcloses
  simp only [ClaimEvent.closes, Bool.and_eq_true, beq_iff_eq] at hcloses
  exact ht (hcloses.2 ▸ hs.eventIssued e he)

/-- No lease on a claimable row is unexpired. -/
theorem Inv.expired_of_claimable {s : LeaseSystem} (hs : s.Inv) {job : JobRow}
    (hjob : job ∈ s.queue.jobs) (hclaim : job.claimable s.queue.now) {l : Lease}
    (hl : l ∈ s.leases) (hid : l.jobId = job.uuid) : l.expiresAt ≤ s.queue.now := by
  by_contra hlt
  obtain ⟨row, hrow, hrec | ⟨huuid, hcancelled⟩⟩ := hs.live l hl (by omega)
  · have : row = job := mem_eq_of_uuid hs.keys hrow hjob (hrec.uuid.trans hid)
    subst this
    have hexpires := hrec.expires
    have hlate : s.queue.now < l.expiresAt := by omega
    simp [JobRow.claimable, hrec.status, JobRow.leaseUnexpired, JobRow.leaseDeadline, hexpires,
      hlate] at hclaim
  · have : row = job := mem_eq_of_uuid hs.keys hrow hjob (huuid.trans hid)
    subst this
    simp [JobRow.claimable, hcancelled] at hclaim

/-- The lease of a row that is held under the presented pair. -/
theorem Inv.lease_of_heldBy {s : LeaseSystem} (hs : s.Inv) {job : JobRow}
    (hjob : job ∈ s.queue.jobs) {jobId workerId leaseToken : Uuid}
    (hheld : job.heldBy jobId workerId leaseToken) :
    ∃ l ∈ s.leases, l.RecordedIn job ∧ l.jobId = jobId ∧ l.leaseToken = leaseToken := by
  obtain ⟨huuid, -, -, htoken⟩ := JobRow.heldBy_iff.mp hheld
  obtain ⟨l, hl, hrec⟩ := hs.recorded job hjob leaseToken htoken
  refine ⟨l, hl, hrec, hrec.uuid.symm.trans huuid, ?_⟩
  exact Option.some.inj (hrec.token.symm.trans htoken)

/-! ### Preservation, operation by operation -/

/-- An update that writes no primary key keeps the keys distinct. -/
theorem nodup_updateWhere {q : JobQueue} {p : JobRow → Bool} {set : JobRow → JobRow}
    (hset : ∀ job, (set job).uuid = job.uuid) (hkeys : (q.jobs.map JobRow.uuid).Nodup) :
    ((q.updateWhere p set).jobs.map JobRow.uuid).Nodup := by
  have hmap : (q.updateWhere p set).jobs.map JobRow.uuid = q.jobs.map JobRow.uuid := by
    simp only [JobQueue.updateWhere, List.map_map]
    refine List.map_congr_left fun job _ => ?_
    by_cases h : p job <;> simp [h, hset]
  rw [hmap]
  exact hkeys

theorem Inv.claim {s : LeaseSystem} (hs : s.Inv) (workerId : Uuid) (workerPool : String)
    (lockSeconds : ℤ) {leaseToken : Uuid} (locked : List Uuid) (hfresh : leaseToken ∉ s.issued) :
    (s.step (.claim workerId workerPool lockSeconds leaseToken locked)).Inv := by
  rcases s.queue.claimNextJobForWorker_cases workerId workerPool lockSeconds leaseToken locked with
    hnone | ⟨job, hjob, event, hclaim, htoken, hevent, hsome⟩
  · simp only [step, hnone]
    refine { hs with leaseIssued := ?_, eventIssued := ?_ }
    · exact fun l hl => List.mem_cons_of_mem _ (hs.leaseIssued l hl)
    · exact fun e he => List.mem_cons_of_mem _ (hs.eventIssued e he)
  · simp only [step, hsome, Option.bind_some, Lease.ofRow, JobRow.takeLease, Option.toList_some,
      List.singleton_append]
    have hexpired : ∀ l ∈ s.leases, l.jobId = job.uuid → l.expiresAt ≤ s.queue.now :=
      fun l hl hid => hs.expired_of_claimable hjob hclaim hl hid
    have hnever : ∀ t, (ClaimEvent.closes t event) = false := by simp [ClaimEvent.closes, hevent]
    constructor
    case keys => exact nodup_updateWhere (fun _ => rfl) hs.keys
    case recorded =>
      intro row hrow t ht
      obtain ⟨old, hold, rfl⟩ := JobQueue.mem_updateWhere.mp hrow
      by_cases hid : old.uuid = job.uuid
      · refine ⟨_, List.mem_cons_self, ?_⟩
        constructor <;> simp [hid, JobRow.takeLease]
      · simp only [beq_iff_eq, hid, if_false] at ht ⊢
        obtain ⟨l, hl, hrec⟩ := hs.recorded old hold t ht
        exact ⟨l, List.mem_cons_of_mem _ hl, hrec⟩
    case live =>
      intro l hl hlate
      rcases List.mem_cons.mp hl with rfl | hl
      · refine ⟨_, JobQueue.mem_updateWhere.mpr ⟨job, hjob, rfl⟩, Or.inl ?_⟩
        constructor <;> simp [JobRow.takeLease]
      · obtain ⟨row, hrow, hrec⟩ := hs.live l hl hlate
        refine ⟨_, JobQueue.mem_updateWhere.mpr ⟨row, hrow, rfl⟩, ?_⟩
        have hid : row.uuid ≠ job.uuid := by
          intro hid
          have huuid : row.uuid = l.jobId := hrec.elim (fun h => h.uuid) fun h => h.1
          have := hexpired l hl (huuid.symm.trans hid)
          change s.queue.now < l.expiresAt at hlate
          omega
        simpa [hid] using hrec
    case exclusive =>
      intro l₁ h₁ l₂ h₂ hid hlate₁ hlate₂
      change s.queue.now < l₁.expiresAt at hlate₁
      change s.queue.now < l₂.expiresAt at hlate₂
      rcases List.mem_cons.mp h₁ with rfl | h₁ <;> rcases List.mem_cons.mp h₂ with rfl | h₂
      · rfl
      · have := hexpired l₂ h₂ hid.symm
        omega
      · have := hexpired l₁ h₁ hid
        omega
      · exact hs.exclusive l₁ h₁ l₂ h₂ hid hlate₁ hlate₂
    case tokens =>
      rw [List.map_cons, List.nodup_cons]
      refine ⟨fun hmem => ?_, hs.tokens⟩
      obtain ⟨l, hl, heq⟩ := List.mem_map.mp hmem
      have hissued := hs.leaseIssued l hl
      rw [heq] at hissued
      exact hfresh hissued
    case leaseIssued =>
      intro l hl
      rcases List.mem_cons.mp hl with rfl | hl
      · exact List.mem_cons_self
      · exact List.mem_cons_of_mem _ (hs.leaseIssued l hl)
    case eventIssued =>
      intro e he
      rcases List.mem_append.mp he with he | he
      · exact List.mem_cons_of_mem _ (hs.eventIssued e he)
      · rw [List.mem_singleton.mp he, htoken]
        exact List.mem_cons_self
    case openLease =>
      intro l hl
      simp only [List.countP_append, List.countP_singleton, hnever]
      rcases List.mem_cons.mp hl with rfl | hl
      · simpa using hs.count_of_not_issued hfresh
      · simpa using hs.openLease l hl
    case closedOnce =>
      intro t
      simpa [List.countP_append, List.countP_singleton, hnever] using hs.closedOnce t

theorem Inv.renew {s : LeaseSystem} (hs : s.Inv) (jobId workerId leaseToken : Uuid)
    (lockSeconds : ℤ) : (s.step (.renew jobId workerId leaseToken lockSeconds)).Inv := by
  rcases s.queue.renewJobLease_cases jobId workerId leaseToken lockSeconds with
    hnone | ⟨⟨job, hjob, deadline, hheld, hdeadline, hlate⟩, hsome⟩
  · simp only [step, hnone]
    exact hs
  · simp only [step, hsome, if_true]
    obtain ⟨granted, hgranted, hrec, hid, htoken⟩ := hs.lease_of_heldBy hjob hheld
    have hend : granted.expiresAt = deadline :=
      Option.some.inj (hrec.expires.symm.trans hdeadline)
    -- the renewed lease is the only one with this token, and it had not run out
    have honly : ∀ l ∈ s.leases, l.leaseToken = leaseToken → l = granted :=
      fun l hl ht => lease_eq_of_token hs hl hgranted (ht.trans htoken.symm)
    have hwas : ∀ l ∈ s.leases, s.queue.now < (if l.leaseToken = leaseToken then
        { l with expiresAt := s.queue.now + seconds (max lockSeconds 1) } else l).expiresAt →
        s.queue.now < l.expiresAt := by
      intro l hl hlater
      by_cases ht : l.leaseToken = leaseToken
      · rw [honly l hl ht]
        omega
      · simpa [ht] using hlater
    have hsame : ∀ row ∈ s.queue.jobs, row.leaseToken = some leaseToken → row = job := by
      intro row hrow ht
      obtain ⟨l, hl, hrow'⟩ := hs.recorded row hrow leaseToken ht
      have hlt : l.leaseToken = leaseToken := Option.some.inj (hrow'.token.symm.trans ht)
      refine mem_eq_of_uuid hs.keys hrow hjob ?_
      rw [hrow'.uuid, honly l hl hlt, ← hrec.uuid]
    have hrenewable : ∀ row ∈ s.queue.jobs, (row.heldBy jobId workerId leaseToken &&
        row.leaseExpiresAt.any fun d => decide (s.queue.now < d)) =
        decide (row.leaseToken = some leaseToken) := by
      intro row hrow
      by_cases ht : row.leaseToken = some leaseToken
      · have := hsame row hrow ht
        subst this
        simp [hheld, hdeadline, hlate, ht]
      · simp [JobRow.heldBy, ht]
    constructor
    case keys => exact nodup_updateWhere (fun _ => rfl) hs.keys
    case recorded =>
      intro row hrow t ht
      obtain ⟨old, hold, rfl⟩ := JobQueue.mem_updateWhere.mp hrow
      rw [hrenewable old hold] at ht ⊢
      by_cases hcur : old.leaseToken = some leaseToken
      · have := hsame old hold hcur
        subst this
        refine ⟨_, List.mem_map_of_mem hgranted, ?_⟩
        constructor <;>
          simp [hcur, htoken, JobRow.extendLease, hrec.uuid, hrec.status, hrec.owner]
      · simp only [hcur, decide_false, Bool.false_eq_true, if_false] at ht ⊢
        obtain ⟨l, hl, hl'⟩ := hs.recorded old hold t ht
        refine ⟨_, List.mem_map_of_mem hl, ?_⟩
        have hne : l.leaseToken ≠ leaseToken := fun h => hcur (hl'.token.trans (h ▸ rfl))
        simpa [hne] using hl'
    case live =>
      intro l hl hlater
      obtain ⟨l, hmem, rfl⟩ := List.mem_map.mp hl
      obtain ⟨row, hrow, hrow'⟩ := hs.live l hmem (hwas l hmem hlater)
      refine ⟨_, JobQueue.mem_updateWhere.mpr ⟨row, hrow, rfl⟩, ?_⟩
      rw [hrenewable row hrow]
      by_cases ht : l.leaseToken = leaseToken
      · have hl' := honly l hmem ht
        subst hl'
        have hrow_eq : row = job := by
          refine mem_eq_of_uuid hs.keys hrow hjob ?_
          rw [hrec.uuid]
          exact hrow'.elim (fun h => h.uuid) fun h => h.1
        subst hrow_eq
        refine Or.inl ?_
        constructor <;>
          simp [ht, JobRow.extendLease, hrec.uuid, hrec.status, hrec.owner, hrec.token]
      · rcases hrow' with hrow' | ⟨huuid, hcancelled⟩
        · have hne : row.leaseToken ≠ some leaseToken := by
            rw [hrow'.token]
            exact fun h => ht (Option.some.inj h)
          simpa [ht, hne] using Or.inl hrow'
        · refine Or.inr ?_
          by_cases hcur : row.leaseToken = some leaseToken <;>
            simp [ht, hcur, huuid, hcancelled, JobRow.extendLease]
    case exclusive =>
      intro l₁ h₁ l₂ h₂ hjobs hlate₁ hlate₂
      obtain ⟨l₁, hmem₁, rfl⟩ := List.mem_map.mp h₁
      obtain ⟨l₂, hmem₂, rfl⟩ := List.mem_map.mp h₂
      have hjobs' : l₁.jobId = l₂.jobId := by
        split_ifs at hjobs <;> exact hjobs
      have heq := hs.exclusive l₁ hmem₁ l₂ hmem₂ hjobs' (hwas l₁ hmem₁ hlate₁)
        (hwas l₂ hmem₂ hlate₂)
      rw [heq]
    case tokens =>
      have hmap : (s.leases.map fun l => if l.leaseToken = leaseToken then
          { l with expiresAt := s.queue.now + seconds (max lockSeconds 1) } else l).map
            Lease.leaseToken = s.leases.map Lease.leaseToken := by
        rw [List.map_map]
        refine List.map_congr_left fun l _ => ?_
        by_cases ht : l.leaseToken = leaseToken <;> simp [ht]
      exact hmap ▸ hs.tokens
    case leaseIssued =>
      intro l hl
      obtain ⟨l, hmem, rfl⟩ := List.mem_map.mp hl
      have := hs.leaseIssued l hmem
      split_ifs <;> exact this
    case eventIssued => exact hs.eventIssued
    case openLease =>
      intro l hl
      obtain ⟨l, hmem, rfl⟩ := List.mem_map.mp hl
      have := hs.openLease l hmem
      split_ifs <;> exact this
    case closedOnce => exact hs.closedOnce

/-- The closing operations keep the invariant, whatever columns they set besides the lease. -/
theorem Inv.afterClose {s : LeaseSystem} (hs : s.Inv) (jobId workerId leaseToken : Uuid)
    {set : JobRow → JobRow} (hset : ∀ job, (set job).uuid = job.uuid)
    (event : JobRow → ClaimEventKind) (details : Json) :
    (s.afterClose leaseToken
      (s.queue.closeLease jobId workerId leaseToken set event details)).Inv := by
  rcases s.queue.closeLease_cases jobId workerId leaseToken set event details with
    ⟨hnone, -⟩ | ⟨job, hjob, hheld, hsome⟩
  · simp only [LeaseSystem.afterClose, hnone]
    exact hs
  · simp only [LeaseSystem.afterClose, hsome, if_true]
    obtain ⟨granted, hgranted, hrec, hid, htoken⟩ := hs.lease_of_heldBy hjob hheld
    have hkept : ∀ l, l ∈ s.leases.filter (fun l => l.leaseToken != leaseToken) →
        l ∈ s.leases ∧ l.leaseToken ≠ leaseToken := by
      intro l hl
      simpa using List.mem_filter.mp hl
    have hcloses : ∀ t, t ≠ leaseToken →
        ClaimEvent.closes t ⟨jobId, workerId, leaseToken, event job, details⟩ = false := by
      intro t ht
      simp [ClaimEvent.closes, ht.symm]
    have hkeys : ∀ row, ({ (set row).clearLease with updatedAt := some s.queue.now } : JobRow).uuid
        = row.uuid := fun row => hset row
    constructor
    case keys => exact nodup_updateWhere hkeys hs.keys
    case recorded =>
      intro row hrow t ht
      obtain ⟨old, hold, rfl⟩ := JobQueue.mem_updateWhere.mp hrow
      by_cases hp : old.heldBy jobId workerId leaseToken
      · simp [hp, JobRow.clearLease] at ht
      · simp only [hp, if_false, Bool.false_eq_true] at ht ⊢
        obtain ⟨l, hl, hl'⟩ := hs.recorded old hold t ht
        refine ⟨l, List.mem_filter.mpr ⟨hl, ?_⟩, hl'⟩
        -- a row that carries the closed token would be the held row
        have hne : l.leaseToken ≠ leaseToken := by
          intro h
          have heq := lease_eq_of_token hs hl hgranted (h.trans htoken.symm)
          subst heq
          exact hp (JobRow.heldBy_iff.mpr ⟨hl'.uuid.trans hid, hl'.status,
            hl'.owner.trans (hrec.owner.symm.trans (JobRow.heldBy_iff.mp hheld).2.2.1),
            hl'.token.trans (h ▸ rfl)⟩)
        simpa using hne
    case live =>
      intro l hl hlate
      obtain ⟨hmem, hne⟩ := hkept l hl
      obtain ⟨row, hrow, hrow'⟩ := hs.live l hmem hlate
      refine ⟨_, JobQueue.mem_updateWhere.mpr ⟨row, hrow, rfl⟩, ?_⟩
      have hp : row.heldBy jobId workerId leaseToken = false := by
        rcases hrow' with hrow' | ⟨-, hcancelled⟩
        · simp [JobRow.heldBy, hrow'.token, hne]
        · simp [JobRow.heldBy, hcancelled]
      simpa [hp] using hrow'
    case exclusive =>
      intro l₁ h₁ l₂ h₂
      exact hs.exclusive l₁ (hkept l₁ h₁).1 l₂ (hkept l₂ h₂).1
    case tokens => exact hs.tokens.sublist (List.filter_sublist.map _)
    case leaseIssued => exact fun l hl => hs.leaseIssued l (hkept l hl).1
    case eventIssued =>
      intro e he
      rcases List.mem_append.mp he with he | he
      · exact hs.eventIssued e he
      · rw [List.mem_singleton.mp he]
        exact htoken ▸ hs.leaseIssued granted hgranted
    case openLease =>
      intro l hl
      obtain ⟨hmem, hne⟩ := hkept l hl
      simp [List.countP_append, hcloses _ hne, hs.openLease l hmem]
    case closedOnce =>
      intro t
      rw [List.countP_append]
      by_cases ht : t = leaseToken
      · rw [ht, ← htoken, hs.openLease granted hgranted, List.countP_singleton]
        split_ifs <;> omega
      · simpa [hcloses t ht] using hs.closedOnce t

/-- Two versions of a row that agree on the columns the lease operations decide by. -/
structure SameLease (old job : JobRow) : Prop where
  uuid : job.uuid = old.uuid
  status : job.status = old.status
  owner : job.leaseOwner = old.leaseOwner
  token : job.leaseToken = old.leaseToken
  expires : job.leaseExpiresAt = old.leaseExpiresAt

theorem SameLease.recordedIn {old job : JobRow} (h : SameLease old job) {l : Lease}
    (hl : l.RecordedIn old) : l.RecordedIn job where
  uuid := h.uuid.trans hl.uuid
  status := h.status.trans hl.status
  owner := h.owner.trans hl.owner
  token := h.token.trans hl.token
  expires := h.expires.trans hl.expires

/-- Writes of other columns keep the invariant: a row either carries no lease or has the lease
columns of an old row, and a running or cancelled row keeps them or is cancelled. -/
theorem Inv.of_rows {s : LeaseSystem} (hs : s.Inv) {queue : JobQueue}
    (hnow : s.queue.now ≤ queue.now) (hhistory : queue.history = s.queue.history)
    (hkeys : (queue.jobs.map JobRow.uuid).Nodup)
    (hback : ∀ job ∈ queue.jobs,
      job.leaseToken = none ∨ ∃ old ∈ s.queue.jobs, SameLease old job)
    (hforth : ∀ old ∈ s.queue.jobs, old.status = .running ∨ old.status = .cancelled →
      ∃ job ∈ queue.jobs,
        SameLease old job ∨ job.uuid = old.uuid ∧ job.status = .cancelled) :
    Inv { s with queue := queue } := by
  have hlater : ∀ l : Lease, queue.now < l.expiresAt → s.queue.now < l.expiresAt :=
    fun l hl => Nat.lt_of_le_of_lt hnow hl
  constructor
  case keys => exact hkeys
  case recorded =>
    intro job hjob t ht
    rcases hback job hjob with hnone | ⟨old, hold, hsame⟩
    · simp [hnone] at ht
    · obtain ⟨l, hl, hrec⟩ := hs.recorded old hold t (hsame.token.symm.trans ht)
      exact ⟨l, hl, hsame.recordedIn hrec⟩
  case live =>
    intro l hl hlate
    obtain ⟨old, hold, hrec⟩ := hs.live l hl (hlater l hlate)
    have hstatus : old.status = .running ∨ old.status = .cancelled :=
      hrec.imp (fun h => h.status) fun h => h.2
    obtain ⟨job, hjob, hsame | ⟨huuid, hcancelled⟩⟩ := hforth old hold hstatus
    · refine ⟨job, hjob, hrec.imp hsame.recordedIn fun h => ?_⟩
      exact ⟨hsame.uuid.trans h.1, hsame.status.trans h.2⟩
    · refine ⟨job, hjob, Or.inr ⟨huuid.trans ?_, hcancelled⟩⟩
      exact hrec.elim (fun h => h.uuid) fun h => h.1
  case exclusive =>
    intro l₁ h₁ l₂ h₂ hid hlate₁ hlate₂
    exact hs.exclusive l₁ h₁ l₂ h₂ hid (hlater l₁ hlate₁) (hlater l₂ hlate₂)
  case tokens => exact hs.tokens
  case leaseIssued => exact hs.leaseIssued
  case eventIssued => exact fun e he => hs.eventIssued e (hhistory ▸ he)
  case openLease => exact fun l hl => hhistory ▸ hs.openLease l hl
  case closedOnce => exact fun t => hhistory ▸ hs.closedOnce t

/-- An update that matches no row with a lease, or leaves its lease columns alone, or cancels it,
keeps the invariant. -/
theorem Inv.updateWhere {s : LeaseSystem} (hs : s.Inv) {p : JobRow → Bool}
    {set : JobRow → JobRow} (huuid : ∀ job, (set job).uuid = job.uuid)
    (hset : ∀ job, SameLease job (set job) ∨ (set job).leaseToken = none ∧
      ((set job).status = .cancelled ∨ job.status ≠ .running ∧ job.status ≠ .cancelled)) :
    Inv { s with queue := s.queue.updateWhere p set } := by
  refine hs.of_rows (Nat.le_refl _) rfl (nodup_updateWhere huuid hs.keys) ?_ ?_
  · intro job hjob
    obtain ⟨old, hold, rfl⟩ := JobQueue.mem_updateWhere.mp hjob
    by_cases hp : p old
    · rw [if_pos hp]
      exact (hset old).symm.imp (fun h => h.1) fun h => ⟨old, hold, h⟩
    · rw [if_neg hp]
      exact Or.inr ⟨old, hold, rfl, rfl, rfl, rfl, rfl⟩
  · intro old hold hstatus
    refine ⟨_, JobQueue.mem_updateWhere.mpr ⟨old, hold, rfl⟩, ?_⟩
    by_cases hp : p old
    · rw [if_pos hp]
      rcases hset old with h | ⟨-, h | ⟨hrun, hcancelled⟩⟩
      · exact Or.inl h
      · exact Or.inr ⟨huuid old, h⟩
      · exact absurd hstatus (by simp [hrun, hcancelled])
    · rw [if_neg hp]
      exact Or.inl ⟨rfl, rfl, rfl, rfl, rfl⟩

/-- A new row under a fresh key keeps the invariant. -/
theorem Inv.append {s : LeaseSystem} (hs : s.Inv) (job : NewJob)
    (hkey : ¬s.queue.jobs.any fun row => row.uuid == job.uuid) :
    Inv { s with
      queue := { s.queue with jobs := s.queue.jobs ++ [job.row s.queue.now] } } := by
  refine hs.of_rows (Nat.le_refl _) rfl ?_ ?_ ?_
  · rw [List.map_append, List.nodup_append]
    refine ⟨hs.keys, by simp, ?_⟩
    intro a ha b hb
    obtain ⟨row, hrow, rfl⟩ := List.mem_map.mp ha
    simp only [List.map_cons, List.map_nil, List.mem_singleton] at hb
    subst hb
    simp only [List.any_eq_true, beq_iff_eq, not_exists, not_and] at hkey
    exact hkey row hrow
  · intro row hrow
    rcases List.mem_append.mp hrow with hrow | hrow
    · exact Or.inr ⟨row, hrow, rfl, rfl, rfl, rfl, rfl⟩
    · rw [List.mem_singleton.mp hrow]
      exact Or.inl rfl
  · intro old hold _
    exact ⟨old, List.mem_append_left _ hold, Or.inl ⟨rfl, rfl, rfl, rfl, rfl⟩⟩

/-- **Every transaction keeps the invariant**, as long as claims bring fresh tokens. -/
theorem Inv.step {s : LeaseSystem} {op : QueueOp} (hs : s.Inv) (hfresh : s.Fresh op) :
    (s.step op).Inv := by
  cases op with
  | claim workerId workerPool lockSeconds leaseToken locked =>
      exact hs.claim workerId workerPool lockSeconds locked (hfresh leaseToken rfl)
  | renew jobId workerId leaseToken lockSeconds =>
      exact hs.renew jobId workerId leaseToken lockSeconds
  | complete jobId workerId leaseToken =>
      refine hs.afterClose jobId workerId leaseToken (fun _ => ?_) _ _
      rfl
  | reschedule jobId workerId leaseToken delaySecs =>
      refine hs.afterClose jobId workerId leaseToken (fun _ => ?_) _ _
      rfl
  | failPermanently jobId workerId leaseToken error failureClass =>
      refine hs.afterClose jobId workerId leaseToken (fun _ => ?_) _ _
      rfl
  | failOrRetry jobId workerId leaseToken error failureClass retryDelaySeconds =>
      refine hs.afterClose jobId workerId leaseToken (fun _ => ?_) _ _
      rfl
  | enqueue job =>
      simp only [LeaseSystem.step, JobQueue.insertJob]
      split_ifs with hconflict hkey
      · exact hs.updateWhere (fun _ => rfl) fun _ => Or.inl ⟨rfl, rfl, rfl, rfl, rfl⟩
      · exact hs
      · exact hs.append job hkey
  | enqueueRecurring job =>
      simp only [LeaseSystem.step, JobQueue.upsertRecurringJob]
      split_ifs with hconflict hkey
      · refine hs.updateWhere (fun row => ?_) fun row => ?_
        · rw [JobQueue.refreshRecurringJob]
          split_ifs <;> rfl
        · rw [JobQueue.refreshRecurringJob]
          split_ifs with hfinished
          · refine Or.inr ⟨rfl, Or.inr ⟨fun h => ?_, fun h => ?_⟩⟩ <;>
              simp [h, JobStatus.isFinished] at hfinished
          · exact Or.inl ⟨rfl, rfl, rfl, rfl, rfl⟩
      · exact hs
      · exact hs.append job hkey
  | cancelExecute executionId =>
      exact hs.updateWhere (fun _ => rfl) fun _ => Or.inr ⟨rfl, Or.inl rfl⟩
  | registerWorkers workers =>
      exact hs.of_rows (Nat.le_refl _) rfl hs.keys
        (fun job hjob => Or.inr ⟨job, hjob, rfl, rfl, rfl, rfl, rfl⟩)
        (fun job hjob _ => ⟨job, hjob, Or.inl ⟨rfl, rfl, rfl, rfl, rfl⟩⟩)
  | advance elapsed =>
      exact hs.of_rows (Nat.le_add_right _ _) rfl hs.keys
        (fun job hjob => Or.inr ⟨job, hjob, rfl, rfl, rfl, rfl, rfl⟩)
        (fun job hjob _ => ⟨job, hjob, Or.inl ⟨rfl, rfl, rfl, rfl, rfl⟩⟩)

/-! ### Stale owners, expired leases, and whole runs -/

/-- A presented pair that is not the current one of the job changes nothing. -/
theorem step_stale {s : LeaseSystem} {op : QueueOp} {jobId workerId leaseToken : Uuid}
    (hop : op.presents = some (jobId, workerId, leaseToken))
    (hstale : ¬s.queue.IsCurrentLease jobId workerId leaseToken) :
    (s.step op).queue = s.queue := by
  have hnone : ∀ job ∈ s.queue.jobs, ¬job.heldBy jobId workerId leaseToken := by
    intro job hjob hheld
    obtain ⟨huuid, -, howner, htoken⟩ := JobRow.heldBy_iff.mp hheld
    exact hstale ⟨job, hjob, huuid, howner, htoken⟩
  have hclose : ∀ (set : JobRow → JobRow) (event : JobRow → ClaimEventKind) (details : Json),
      (s.queue.closeLease jobId workerId leaseToken set event details).1 = s.queue := by
    intro set event details
    rcases s.queue.closeLease_cases jobId workerId leaseToken set event details with
      ⟨hsame, -⟩ | ⟨job, hjob, hheld, -⟩
    · rw [hsame]
    · exact absurd hheld (hnone job hjob)
  cases op with
  | renew j w t lockSeconds =>
      simp only [QueueOp.presents, Option.some.injEq, Prod.mk.injEq] at hop
      obtain ⟨rfl, rfl, rfl⟩ := hop
      rcases s.queue.renewJobLease_cases j w t lockSeconds with
        hsame | ⟨⟨job, hjob, _, hheld, -⟩, -⟩
      · simp only [step, hsame]
      · exact absurd hheld (hnone job hjob)
  | complete j w t =>
      simp only [QueueOp.presents, Option.some.injEq, Prod.mk.injEq] at hop
      obtain ⟨rfl, rfl, rfl⟩ := hop
      exact hclose _ _ _
  | reschedule j w t delaySecs =>
      simp only [QueueOp.presents, Option.some.injEq, Prod.mk.injEq] at hop
      obtain ⟨rfl, rfl, rfl⟩ := hop
      exact hclose _ _ _
  | failPermanently j w t error failureClass =>
      simp only [QueueOp.presents, Option.some.injEq, Prod.mk.injEq] at hop
      obtain ⟨rfl, rfl, rfl⟩ := hop
      exact hclose _ _ _
  | failOrRetry j w t error failureClass retryDelaySeconds =>
      simp only [QueueOp.presents, Option.some.injEq, Prod.mk.injEq] at hop
      obtain ⟨rfl, rfl, rfl⟩ := hop
      exact hclose _ _ _
  | _ => simp [QueueOp.presents] at hop

/-- The token was issued, and no unexpired lease carries it. -/
def Spent (s : LeaseSystem) (t : Uuid) : Prop :=
  t ∈ s.issued ∧ ∀ l ∈ s.leases, l.leaseToken = t → l.expiresAt ≤ s.queue.now

theorem Spent.of_leases {s s' : LeaseSystem} {t : Uuid} (h : s.Spent t)
    (hissued : s'.issued = s.issued) (hleases : ∀ l ∈ s'.leases, l ∈ s.leases)
    (hnow : s.queue.now ≤ s'.queue.now) : s'.Spent t := by
  refine ⟨hissued ▸ h.1, fun l hl ht => ?_⟩
  exact Nat.le_trans (h.2 l (hleases l hl) ht) hnow

theorem Spent.afterClose {s : LeaseSystem} {t : Uuid} (h : s.Spent t)
    (jobId workerId leaseToken : Uuid) (set : JobRow → JobRow) (event : JobRow → ClaimEventKind)
    (details : Json) :
    (s.afterClose leaseToken
      (s.queue.closeLease jobId workerId leaseToken set event details)).Spent t := by
  refine h.of_leases rfl (fun l hl => ?_) ?_
  · simp only [LeaseSystem.afterClose] at hl
    split_ifs at hl
    · exact List.mem_of_mem_filter hl
    · exact hl
  · rcases s.queue.closeLease_cases jobId workerId leaseToken set event details with
      ⟨hsame, -⟩ | ⟨job, -, -, hsome⟩
    · simp [LeaseSystem.afterClose, hsame]
    · simp [LeaseSystem.afterClose, hsome]

/-- No transaction revives an expired lease. -/
theorem Spent.step {s : LeaseSystem} {op : QueueOp} {t : Uuid} (hs : s.Inv) (hfresh : s.Fresh op)
    (h : s.Spent t) : (s.step op).Spent t := by
  cases op with
  | claim workerId workerPool lockSeconds leaseToken locked =>
      have hne : leaseToken ≠ t := fun heq => hfresh leaseToken rfl (heq ▸ h.1)
      refine ⟨List.mem_cons_of_mem _ h.1, ?_⟩
      rcases s.queue.claimNextJobForWorker_cases workerId workerPool lockSeconds leaseToken locked
        with hnone | ⟨job, -, event, -, -, -, hsome⟩
      · rw [LeaseSystem.step, hnone]
        exact h.2
      · simp only [LeaseSystem.step, hsome, Option.bind_some, Lease.ofRow, JobRow.takeLease,
          Option.toList_some, List.singleton_append, List.forall_mem_cons]
        exact ⟨fun heq => absurd heq hne, h.2⟩
  | renew jobId workerId leaseToken lockSeconds =>
      rcases s.queue.renewJobLease_cases jobId workerId leaseToken lockSeconds with
        hnone | ⟨⟨job, hjob, deadline, hheld, hdeadline, hlate⟩, hsome⟩
      · rw [LeaseSystem.step, hnone]
        exact h
      · simp only [LeaseSystem.step, hsome, if_true]
        obtain ⟨granted, hgranted, hrec, -, htoken⟩ := hs.lease_of_heldBy hjob hheld
        have hend : granted.expiresAt = deadline :=
          Option.some.inj (hrec.expires.symm.trans hdeadline)
        -- the renewed lease had not run out, so it is not the spent one
        have hne : leaseToken ≠ t := by
          intro heq
          have := h.2 granted hgranted (htoken.trans heq)
          omega
        refine ⟨h.1, fun l hl ht => ?_⟩
        obtain ⟨l, hmem, rfl⟩ := List.mem_map.mp hl
        by_cases hl' : l.leaseToken = leaseToken
        · simp only [hl', if_true] at ht
          exact absurd ht hne
        · simp only [hl', if_false] at ht ⊢
          exact h.2 l hmem ht
  | complete jobId workerId leaseToken => exact h.afterClose jobId workerId leaseToken _ _ _
  | reschedule jobId workerId leaseToken delaySecs =>
      exact h.afterClose jobId workerId leaseToken _ _ _
  | failPermanently jobId workerId leaseToken error failureClass =>
      exact h.afterClose jobId workerId leaseToken _ _ _
  | failOrRetry jobId workerId leaseToken error failureClass retryDelaySeconds =>
      exact h.afterClose jobId workerId leaseToken _ _ _
  | enqueue job =>
      refine h.of_leases rfl (fun _ hl => hl) ?_
      simp only [LeaseSystem.step, JobQueue.insertJob]
      split_ifs <;> exact Nat.le_refl _
  | enqueueRecurring job =>
      refine h.of_leases rfl (fun _ hl => hl) ?_
      simp only [LeaseSystem.step, JobQueue.upsertRecurringJob]
      split_ifs <;> exact Nat.le_refl _
  | cancelExecute executionId => exact h.of_leases rfl (fun _ hl => hl) (Nat.le_refl _)
  | registerWorkers workers => exact h.of_leases rfl (fun _ hl => hl) (Nat.le_refl _)
  | advance elapsed => exact h.of_leases rfl (fun _ hl => hl) (Nat.le_add_right _ _)

/-- The tokens issued after a step are the fresh one and the old ones. -/
theorem step_issued (s : LeaseSystem) (op : QueueOp) :
    (s.step op).issued = op.freshToken.toList ++ s.issued := by
  cases op <;> rfl

/-- Distinct tokens, none of them issued before, keep every claim of the run fresh. -/
theorem meets_fresh {s : LeaseSystem} {ops : List QueueOp} (hnodup : (claimTokens ops).Nodup)
    (hnew : ∀ t ∈ claimTokens ops, t ∉ s.issued) : Runs.Meets step Fresh s ops := by
  induction ops generalizing s with
  | nil => trivial
  | cons op ops ih =>
      rw [Runs.meets_cons]
      cases htoken : op.freshToken with
      | none =>
          simp only [claimTokens, List.filterMap_cons, htoken] at hnodup hnew
          refine ⟨by simp [Fresh, htoken], ih hnodup fun t ht => ?_⟩
          simpa [step_issued, htoken] using hnew t ht
      | some leaseToken =>
          simp only [claimTokens, List.filterMap_cons, htoken, List.nodup_cons,
            List.forall_mem_cons] at hnodup hnew
          refine ⟨by simpa [Fresh, htoken] using hnew.1, ih hnodup.2 fun t ht => ?_⟩
          have hne : t ≠ leaseToken := fun heq => hnodup.1 (heq ▸ ht)
          simpa [step_issued, htoken, hne] using hnew.2 t ht

theorem inv_run (now : ℕ) {ops : List QueueOp} (hfresh : (claimTokens ops).Nodup) :
    (run now ops).Inv :=
  Runs.exec_invariant Inv (fun _ _ hs h => hs.step h) (inv_initial now)
    (meets_fresh hfresh (by simp [initial]))

/-- **Lease fencing.**  After every run of transactions whose claims bring distinct tokens: a job
has at most one unexpired lease; an operation that presents an owner and a token which are not the
current ones leaves all rows and the history as they are; a lease that has run out stays so
whatever follows; and at most one terminal event closes any token. -/
theorem lease_fencing (now : ℕ) (ops : List QueueOp) (hfresh : (claimTokens ops).Nodup) :
    (∀ l₁ ∈ (run now ops).leases, ∀ l₂ ∈ (run now ops).leases, l₁.jobId = l₂.jobId →
      (run now ops).queue.now < l₁.expiresAt → (run now ops).queue.now < l₂.expiresAt →
        l₁ = l₂) ∧
    (∀ op jobId workerId leaseToken, op.presents = some (jobId, workerId, leaseToken) →
      ¬(run now ops).queue.IsCurrentLease jobId workerId leaseToken →
        ((run now ops).step op).queue = (run now ops).queue) ∧
    (∀ later, (claimTokens (ops ++ later)).Nodup → ∀ l ∈ (run now ops).leases,
      l.expiresAt ≤ (run now ops).queue.now → ∀ l' ∈ (run now (ops ++ later)).leases,
        l'.leaseToken = l.leaseToken → l'.expiresAt ≤ (run now (ops ++ later)).queue.now) ∧
    ∀ t, (run now ops).queue.history.countP (ClaimEvent.closes t) ≤ 1 := by
  have hinv := inv_run now hfresh
  refine ⟨hinv.exclusive, fun op _ _ _ => step_stale, ?_, hinv.closedOnce⟩
  intro later hlater l hl hexpired l' hl' htoken
  have hmeets := meets_fresh (s := initial now) hlater (by simp [initial])
  rw [Runs.meets_append] at hmeets
  have hspent : (run now ops).Spent l.leaseToken := by
    refine ⟨hinv.leaseIssued l hl, fun m hm ht => ?_⟩
    rw [lease_eq_of_token hinv hm hl ht]
    exact hexpired
  have hboth : (run now (ops ++ later)).Inv ∧ (run now (ops ++ later)).Spent l.leaseToken := by
    rw [run, Runs.exec_append]
    exact Runs.exec_invariant (fun s => s.Inv ∧ s.Spent l.leaseToken)
      (fun _ _ hs h => ⟨hs.1.step h, hs.2.step hs.1 h⟩) ⟨hinv, hspent⟩ hmeets.2
  exact hboth.2.2 l' hl' htoken

/-- A crashed worker's job is recovered under a second token and completed by the new holder. -/
def recoveredRun : List QueueOp :=
  [.registerWorkers [⟨1, "default", [], [], 2, .active⟩, ⟨2, "default", [], [], 2, .active⟩],
   .enqueue ⟨7, .execute, .null, some 5, none, 0, 3, "default", [], [], 0⟩,
   .claim 1 "default" 30 100 [], .advance 30000000, .claim 2 "default" 30 101 [],
   .complete 7 1 100, .complete 7 2 101]

/-- The stale completion of that run changes nothing, and each of its tokens is closed at most
once. -/
theorem lease_fencing_recovered :
    (run 0 recoveredRun).queue.history.map ClaimEvent.event = [.claimed, .recovered, .completed] ∧
      (∀ l₁ ∈ (run 0 recoveredRun).leases, ∀ l₂ ∈ (run 0 recoveredRun).leases,
        l₁.jobId = l₂.jobId → (run 0 recoveredRun).queue.now < l₁.expiresAt →
          (run 0 recoveredRun).queue.now < l₂.expiresAt → l₁ = l₂) ∧
      ((run 0 (recoveredRun.take 5)).step (.complete 7 1 100)).queue =
        (run 0 (recoveredRun.take 5)).queue ∧
      ∀ t, (run 0 recoveredRun).queue.history.countP (ClaimEvent.closes t) ≤ 1 := by
  have hrun := lease_fencing 0 recoveredRun (by decide)
  have hprefix := lease_fencing 0 (recoveredRun.take 5) (by decide)
  refine ⟨by decide, hrun.1, hprefix.2.1 _ 7 1 100 rfl ?_, hrun.2.2.2⟩
  unfold JobQueue.IsCurrentLease
  decide

end LeaseSystem

end Beampipe
