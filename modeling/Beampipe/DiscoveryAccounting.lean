/-
What becomes of the sources that a discovery tick claims.

A tick of the discovery scheduler claims sources under a new token, groups them by project module,
and enqueues one `discover_batch` job for each module, until one of its limits stops it.  The job
discovers its sources, one task for each, and `persist_discovery_results` releases them.  Between
two requests of a tick any number of other transactions happen, so a tick is a program over the
answers it gets.

The limit of batches is looked at inside the loop over the modules of one claim.  When it is reached
there, the sources of the module at hand are released and the loop is left: the modules behind it
are neither enqueued nor released.  The job releases the sources its results name; the result of a
task that panics names none.

Main definitions:

* `Beampipe.runSchedulerTick` — the tick, a program over `Beampipe.TickRequest`;
* `Beampipe.runDiscoverBatch` — the job, from its payload to the released claims;
* `Beampipe.TickAccounted` — every claimed source is in one enqueued job or was released;
* `Beampipe.BatchReleased` — no source of the payload is claimed under its token any more.

Main results:

* `Beampipe.returns_runSchedulerTick` — a tick that returns consists of rounds, each of them one
  claim with the jobs and the release that follow from it;
* `Beampipe.discovery_accounting_iff` — **a tick accounts for its sources exactly when its claims
  span at most one module more than its limit of batches, and a job releases its sources exactly
  when the task of every claimed one has finished**.
-/

import Beampipe.DiscoveryIsolation
import Beampipe.Grouping
import Beampipe.Programs

set_option relaxedAutoImplicit false
set_option autoImplicit false

namespace Beampipe

open Programs

/-! ### Jobs of a tick -/

/-- A row of `jobs`, as far as a tick writes it. -/
structure QueuedJob where
  kind : String
  payload : Json
  idempotencyKey : Option String
  pool : String
  deriving DecidableEq, Repr

/-- `INSERT INTO jobs … ON CONFLICT (idempotency_key) … RETURNING *`: a job with the key stays as it
is. -/
def insertJob (jobs : List QueuedJob) (job : QueuedJob) : List QueuedJob :=
  if job.idempotencyKey.isSome &&
      jobs.any (fun old => old.idempotencyKey == job.idempotencyKey) then jobs
  else jobs ++ [job]

/-- What `run_discover_batch` reads of its payload. -/
structure DiscoverBatchArgs where
  projectModule : String
  claimToken : String
  sourceIdentifiers : List String
  deriving DecidableEq, Repr

/-- The members of the payload of a `discover_batch` job. -/
def discoverBatchArgs (payload : Json) : Except String DiscoverBatchArgs :=
  match (payload.get "project_module").bind Json.asStr with
  | none => .error "discover_batch missing project_module"
  | some projectModule =>
      match (payload.get "claim_token").bind Json.asStr with
      | none => .error "discover_batch missing claim_token"
      | some claimToken =>
          match payload.get "source_identifiers" with
          | some (.arr items) =>
              .ok ⟨projectModule, claimToken, items.filterMap Json.asStr⟩
          | _ => .error "discover_batch missing source_identifiers"

/-- The job discovers the source under the token. -/
def QueuedJob.carries (job : QueuedJob) (projectModule claimToken source : String) : Bool :=
  job.kind == "discover_batch" &&
    match discoverBatchArgs job.payload with
    | .ok args =>
        args.projectModule == projectModule && args.claimToken == claimToken &&
          args.sourceIdentifiers.contains source
    | .error _ => false

/-- A text that is there and not empty. -/
def nonemptyText (payload : Json) (field : String) : Option String :=
  ((payload.get field).bind Json.asStr).filter fun text => !text.isEmpty

/-- `trace_context_from_payload` and `inject_into_payload`: the members that a job inherits. -/
def traceFields (payload : Json) (fallbackCorrelationId : String) : List (String × Json) :=
  ("correlation_id", .str ((nonemptyText payload "correlation_id").getD fallbackCorrelationId)) ::
    ((nonemptyText payload "traceparent").map fun text => ("traceparent", Json.str text)).toList

/-- `discover:{module}:{claim_token}`. -/
def discoverKey (projectModule claimToken : String) : String :=
  "discover:" ++ projectModule ++ ":" ++ claimToken

/-- The job for the sources of one module. -/
def discoverBatchJob (pool : String) (payload : Json) (claimToken : String)
    (batch : String × List String) : QueuedJob where
  kind := "discover_batch"
  payload :=
    .obj ([("project_module", .str batch.1), ("source_identifiers", .arr (batch.2.map .str)),
      ("claim_token", .str claimToken),
      ("scheduler", .obj [("policy_decision", .str "admitted"),
        ("admitted_source_count", .num (.int batch.2.length))])] ++ traceFields payload claimToken)
  idempotencyKey := some (discoverKey batch.1 claimToken)
  pool := pool

/-! ### The tick -/

/-- The part of `WorkerConfig` that discovery reads. -/
structure DiscoveryWorkerConfig where
  pool : String
  executionQueueMaxDepth : Option ℤ
  discoveryBatchSize : ℤ
  discoveryStaleHours : ℤ
  discoveryClaimTtlMinutes : ℤ
  discoveryMaxInFlightBatches : Option ℤ
  discoveryMaxBatchesPerTick : ℤ
  discoveryTapHealthCheckEnabled : Bool
  discoverySourceConcurrency : ℕ
  deriving DecidableEq, Repr

/-- What a tick asks for.  `tapHealthBlocks` stands for the active project configuration and the
probes of its endpoints. -/
inductive TickRequest where
  | tapHealthBlocks (projectModule : String)
  | queueDepth
  | countDiscoveryInFlightBatches
  | countDiscoveryInFlightForModule (projectModule : String)
  | claimSourceRowsForDiscovery (projectModule : Option String)
      (staleAfterHours limit leaseTtlMinutes : ℤ)
  | releaseDiscoveryClaim (projectModule : String) (sourceIdentifiers : List String)
      (claimToken : String)
  | enqueueJob (job : QueuedJob)
  deriving DecidableEq, Repr

/-- What a request is answered with. -/
def TickRequest.Answer : TickRequest → Type
  | .tapHealthBlocks _ => Bool
  | .queueDepth | .countDiscoveryInFlightBatches | .countDiscoveryInFlightForModule _ => ℤ
  | .claimSourceRowsForDiscovery _ _ _ _ => Option String × List (String × String)
  | .releaseDiscoveryClaim _ _ _ => ℕ
  | .enqueueJob _ => Unit

/-- The answer, or the error of the database. -/
abbrev TickRequest.Resp (r : TickRequest) : Type := Except String r.Answer

/-- A tick, or a part of it. -/
abbrev Tick (α : Type) : Type := Prog TickRequest TickRequest.Resp String α

/-- One request and what it gets. -/
abbrev TickEvent : Type := (r : TickRequest) × r.Resp

namespace Tick

/-- A request whose error ends the tick. -/
def ask (r : TickRequest) : Tick r.Answer := Prog.call r >>= Prog.ofExcept

/-- The health of the endpoints keeps the tick from running, when it is looked at. -/
def healthBlocks (checked : Bool) (projectModule : String) : Tick Bool :=
  if checked then ask (.tapHealthBlocks projectModule) else pure false

/-- The queue is as deep as it may be. -/
def queueFull : Option ℤ → Tick Bool
  | none => pure false
  | some maxDepth => do
      let depth : ℤ ← ask .queueDepth
      pure (decide (maxDepth ≤ depth))

/-- `can_admit_by_in_flight` says no. -/
def inFlightFull : Option ℤ → Tick Bool
  | none => pure false
  | some cap => do
      let inFlight : ℤ ← ask .countDiscoveryInFlightBatches
      pure (!decide (inFlight < cap))

/-- The same for the batches of one module. -/
def moduleInFlightFull (projectModule : String) : Option ℤ → Tick Bool
  | none => pure false
  | some cap => do
      let inFlight : ℤ ← ask (.countDiscoveryInFlightForModule projectModule)
      pure (!decide (inFlight < cap))

end Tick

/-- `.filter(|v| *v > 0).unwrap_or(default)`. -/
def positiveField (payload : Json) (field : String) (default : ℤ) : ℤ :=
  (((payload.get field).bind Json.asI64).filter fun v => 0 < v).getD default

/-- `i32::try_from` of a member. -/
def i32Field (payload : Json) (field : String) (default : ℤ) : ℤ :=
  (((payload.get field).bind Json.asI64).filter fun v =>
    -2147483648 ≤ v ∧ v ≤ 2147483647).getD default

/-- What the payload and the configuration say about a tick. -/
structure TickPolicy where
  moduleFilter : Option String
  maxDepth : Option ℤ
  inFlightCap : Option ℤ
  batchSize : ℤ
  staleAfterHours : ℤ
  claimTtlMinutes : ℤ
  maxBatchesPerTick : ℤ
  pool : String
  payload : Json
  deriving DecidableEq, Repr

/-- The project module of the payload, or the empty text. -/
def tickModule (payload : Json) : String :=
  ((payload.get "project_module").bind Json.asStr).getD ""

/-- The policy of a tick. -/
def tickPolicy (config : DiscoveryWorkerConfig) (payload : Json) : TickPolicy where
  moduleFilter := if (tickModule payload).isEmpty then none else some (tickModule payload)
  maxDepth := ((payload.get "queue_max_depth").bind Json.asI64).or config.executionQueueMaxDepth
  inFlightCap := config.discoveryMaxInFlightBatches
  batchSize := positiveField payload "batch_size" config.discoveryBatchSize
  staleAfterHours := i32Field payload "stale_after_hours" config.discoveryStaleHours
  claimTtlMinutes := positiveField payload "claim_ttl_minutes" config.discoveryClaimTtlMinutes
  maxBatchesPerTick :=
    positiveField payload "tick_discovery_batch_limit" config.discoveryMaxBatchesPerTick
  pool := config.pool
  payload := payload

/-- A source joins the sources of its module, at the end. -/
def pushSource (grouped : BTreeMap (List String)) (row : String × String) :
    BTreeMap (List String) :=
  grouped.alter row.1 fun sources => some (sources.getD [] ++ [row.2])

/-- `by_module`. -/
def byModule (rows : List (String × String)) : BTreeMap (List String) :=
  rows.foldl pushSource ∅

/-- The modules of a claim in order, with the batches of the tick so far: the batches after it, and
whether a job was enqueued. -/
def enqueueModules (policy : TickPolicy) (claimToken : String) (allSources : List String) :
    ℕ → Bool → List (String × List String) → Tick (ℕ × Bool)
  | batches, enqueuedAny, [] => pure (batches, enqueuedAny)
  | batches, enqueuedAny, batch :: rest =>
      if policy.maxBatchesPerTick ≤ batches then do
        let _ ← Tick.ask (.releaseDiscoveryClaim batch.1 allSources claimToken)
        pure (batches, enqueuedAny)
      else do
        let _ ← Tick.ask
          (.enqueueJob (discoverBatchJob policy.pool policy.payload claimToken batch))
        enqueueModules policy claimToken allSources (batches + 1) true rest

/-- The rounds of a tick.  Each round that goes on has claimed a source, so `remaining` rounds are
enough. -/
def tickRounds (policy : TickPolicy) : ℕ → ℤ → ℕ → Tick Unit
  | 0, _, _ => pure ()
  | fuel + 1, remaining, batches =>
      if 0 < remaining ∧ (batches : ℤ) < policy.maxBatchesPerTick then do
        if ← Tick.queueFull policy.maxDepth then pure ()
        else if ← Tick.inFlightFull policy.inFlightCap then pure ()
        else
          let (claimToken, rows) ← Tick.ask (.claimSourceRowsForDiscovery policy.moduleFilter
            policy.staleAfterHours (min policy.batchSize remaining) policy.claimTtlMinutes)
          match claimToken, rows with
          | none, _ => pure ()
          | some _, [] => pure ()
          | some claimToken, row :: rows =>
              let allSources := (row :: rows).map Prod.snd
              let (batches, enqueuedAny) ← enqueueModules policy claimToken allSources batches false
                (byModule (row :: rows)).toList
              if enqueuedAny then
                tickRounds policy fuel (remaining - (row :: rows).length) batches
              else do
                let _ ← Tick.ask (.releaseDiscoveryClaim row.1 allSources claimToken)
                pure ()
      else pure ()

/-- `run_scheduler_tick`. -/
def runSchedulerTick (config : DiscoveryWorkerConfig) (payload : Json) : Tick Unit := do
  let policy := tickPolicy config payload
  if ← Tick.healthBlocks (config.discoveryTapHealthCheckEnabled && policy.moduleFilter.isSome)
      (tickModule payload) then pure ()
  else if ← Tick.queueFull policy.maxDepth then pure ()
  else if ← Tick.inFlightFull policy.inFlightCap then pure ()
  else if ← Tick.moduleInFlightFull (tickModule payload)
      (policy.moduleFilter.bind fun _ =>
        (payload.get "concurrent_discovery_batch_limit").bind Json.asI64) then pure ()
  else
    let remaining := max (max
      (positiveField payload "tick_discovery_source_limit" policy.batchSize) policy.batchSize) 0
    tickRounds policy remaining.toNat remaining 0
/-! ### The books of a tick -/

/-- A claim with the sources it got. -/
structure DiscoveryClaim where
  token : String
  rows : List (String × String)
  deriving DecidableEq, Repr

/-- A release. -/
structure DiscoveryRelease where
  projectModule : String
  sourceIdentifiers : List String
  claimToken : String
  deriving DecidableEq, Repr

namespace TickEvent

/-- The claim of an event that got a source. -/
def claim? : TickEvent → Option DiscoveryClaim
  | ⟨.claimSourceRowsForDiscovery _ _ _ _, .ok (some token, row :: rows)⟩ =>
      some ⟨token, row :: rows⟩
  | _ => none

/-- The job of an event. -/
def job? : TickEvent → Option QueuedJob
  | ⟨.enqueueJob job, .ok _⟩ => some job
  | _ => none

/-- The release of an event. -/
def release? : TickEvent → Option DiscoveryRelease
  | ⟨.releaseDiscoveryClaim projectModule sources token, .ok _⟩ =>
      some ⟨projectModule, sources, token⟩
  | _ => none

end TickEvent

/-- What a tick has claimed, enqueued and released. -/
structure TickBooks where
  claims : List DiscoveryClaim
  jobs : List QueuedJob
  releases : List DiscoveryRelease
  deriving DecidableEq, Repr

/-- The books of a run. -/
def booksOf (events : List TickEvent) : TickBooks where
  claims := events.filterMap TickEvent.claim?
  jobs := events.filterMap TickEvent.job?
  releases := events.filterMap TickEvent.release?

/-- One after the other. -/
def TickBooks.append (a b : TickBooks) : TickBooks where
  claims := a.claims ++ b.claims
  jobs := a.jobs ++ b.jobs
  releases := a.releases ++ b.releases

theorem booksOf_append (a b : List TickEvent) :
    booksOf (a ++ b) = (booksOf a).append (booksOf b) := by
  simp [booksOf, TickBooks.append]

@[simp] theorem TickBooks.nil_append (b : TickBooks) : TickBooks.append ⟨[], [], []⟩ b = b := rfl

@[simp] theorem booksOf_nil : booksOf [] = ⟨[], [], []⟩ := rfl

/-- The jobs that the tick finds, and those it adds. -/
def TickBooks.jobsAfter (books : TickBooks) (jobs : List QueuedJob) : List QueuedJob :=
  books.jobs.foldl insertJob jobs

/-- **Every source that the tick has claimed is in the payload of exactly one job under the token of
its claim, or it was released.** -/
def TickAccounted (jobs : List QueuedJob) (books : TickBooks) : Prop :=
  ∀ claim ∈ books.claims, ∀ row ∈ claim.rows,
    (books.jobsAfter jobs).countP (·.carries row.1 claim.token row.2) = 1 ∨
      ∃ release ∈ books.releases, release.projectModule = row.1 ∧
        row.2 ∈ release.sourceIdentifiers ∧ release.claimToken = claim.token

/-- What a UUID that was just made grants: the tokens of the tick differ, no text of theirs has a
colon, and no job of others carries one. -/
structure FreshTokens (jobs : List QueuedJob) (claims : List DiscoveryClaim) : Prop where
  distinct : (claims.map DiscoveryClaim.token).Nodup
  separator : ∀ claim ∈ claims, ':' ∉ claim.token.toList
  unused : ∀ claim ∈ claims, ∀ job ∈ jobs, ∀ projectModule,
    job.idempotencyKey ≠ some (discoverKey projectModule claim.token) ∧
      ∀ source, job.carries projectModule claim.token source = false

/-- The modules of the claims, counted for each claim anew. -/
def modulesSpanned : List DiscoveryClaim → ℕ
  | [] => 0
  | claim :: claims => (byModule claim.rows).toList.length + modulesSpanned claims

/-! ### The modules of a claim -/

/-- The sources of a module, in the order they were claimed. -/
def sourcesOf (projectModule : String) (rows : List (String × String)) : List String :=
  (rows.filter fun row => row.1 = projectModule).map Prod.snd

theorem mem_sourcesOf {projectModule source : String} {rows : List (String × String)} :
    source ∈ sourcesOf projectModule rows ↔ (projectModule, source) ∈ rows := by
  rw [sourcesOf, List.mem_map]
  constructor
  · rintro ⟨⟨m, s⟩, hrow, rfl⟩
    rw [List.mem_filter, decide_eq_true_eq] at hrow
    exact hrow.2 ▸ hrow.1
  · intro hrow
    exact ⟨(projectModule, source), List.mem_filter.mpr ⟨hrow, by simp⟩, rfl⟩

/-- A module has the sources of its rows, in order. -/
theorem getElem?_byModule (rows : List (String × String)) (projectModule : String) :
    (byModule rows)[projectModule]? =
      if sourcesOf projectModule rows = [] then none else some (sourcesOf projectModule rows) :=
  Grouping.getElem?_accumulate_listed Prod.snd rows projectModule

/-- The batches of a claim: its modules, each with its sources. -/
theorem mem_byModule {rows : List (String × String)} {batch : String × List String} :
    batch ∈ (byModule rows).toList ↔ batch.2 = sourcesOf batch.1 rows ∧ batch.2 ≠ [] := by
  obtain ⟨projectModule, sources⟩ := batch
  rw [Std.ExtTreeMap.mem_toList_iff_getElem?_eq_some, getElem?_byModule]
  constructor
  · intro h
    split at h
    · cases h
    next hne =>
      cases h
      exact ⟨rfl, hne⟩
  · rintro ⟨hsources, hne⟩
    obtain rfl : sources = sourcesOf projectModule rows := hsources
    exact if_neg hne

theorem pairwise_byModule (rows : List (String × String)) :
    (byModule rows).toList.Pairwise fun a b => a.1 ≠ b.1 := by
  refine Std.ExtTreeMap.distinct_keys_toList.imp fun hne => ?_
  simpa using hne

theorem byModule_ne_nil {rows : List (String × String)} (hrows : rows ≠ []) :
    (byModule rows).toList ≠ [] := by
  obtain ⟨⟨m, s⟩, rest, rfl⟩ := List.exists_cons_of_ne_nil hrows
  have hmem : s ∈ sourcesOf m ((m, s) :: rest) := mem_sourcesOf.mpr List.mem_cons_self
  have hbatch : (m, sourcesOf m ((m, s) :: rest)) ∈ (byModule ((m, s) :: rest)).toList :=
    mem_byModule.mpr ⟨rfl, List.ne_nil_of_mem hmem⟩
  exact List.ne_nil_of_mem hbatch
/-! ### Rounds -/

/-- One round of a tick: a claim, and the batches that were left when it was made. -/
structure TickRound where
  token : String
  rows : List (String × String)
  left : ℕ
  deriving DecidableEq, Repr

namespace TickRound

variable (round : TickRound) (policy : TickPolicy)

/-- The claim of the round. -/
def claim : DiscoveryClaim := ⟨round.token, round.rows⟩

/-- Its modules, each with its sources. -/
def modules : List (String × List String) := (byModule round.rows).toList

/-- Its jobs: the modules for which a batch was left. -/
def jobs : List QueuedJob :=
  (round.modules.take round.left).map (discoverBatchJob policy.pool policy.payload round.token)

/-- Its release: the first module for which none was left. -/
def releases : List DiscoveryRelease :=
  (round.modules.drop round.left).head?.toList.map fun batch =>
    ⟨batch.1, round.rows.map Prod.snd, round.token⟩

end TickRound

/-- The rounds of a tick with so many batches left. -/
inductive Rounds : ℕ → List TickRound → Prop where
  | nil (left : ℕ) : Rounds left []
  | cons {round : TickRound} {rounds : List TickRound} (hleft : 0 < round.left)
      (hrows : round.rows ≠ []) (h : Rounds (round.left - round.modules.length) rounds) :
      Rounds round.left (round :: rounds)

/-- The books of the rounds. -/
def roundBooks (policy : TickPolicy) (rounds : List TickRound) : TickBooks where
  claims := rounds.map TickRound.claim
  jobs := rounds.flatMap fun round => round.jobs policy
  releases := rounds.flatMap TickRound.releases

section Returns

variable {policy : TickPolicy} {events : List TickEvent}

theorem returns_ask {r : TickRequest} {v : r.Answer} :
    (Tick.ask r).Returns events v ↔ events = [⟨r, .ok v⟩] := by
  constructor
  · rintro ⟨answer, rest, rfl, h⟩
    cases answer with
    | error e => exact h.elim
    | ok w =>
        obtain ⟨rfl, rfl⟩ := h
        rfl
  · rintro rfl
    exact ⟨.ok v, [], rfl, rfl, rfl⟩

/-- What is asked about the endpoints and the queue is not in the books. -/
theorem books_healthBlocks {checked blocked : Bool} {projectModule : String}
    (h : (Tick.healthBlocks checked projectModule).Returns events blocked) :
    booksOf events = ⟨[], [], []⟩ := by
  cases checked with
  | false =>
      obtain ⟨rfl, -⟩ := h
      rfl
  | true =>
      rw [returns_ask.mp h]
      rfl

/-- A number that is only compared with a limit is not in the books either. -/
theorem books_compared {r : TickRequest} {f : r.Answer → Bool} {full : Bool}
    (hr : ∀ v : r.Answer, booksOf [⟨r, .ok v⟩] = ⟨[], [], []⟩)
    (h : (Tick.ask r >>= fun v => pure (f v)).Returns events full) :
    booksOf events = ⟨[], [], []⟩ := by
  obtain ⟨before, after, v, rfl, hask, rfl, -⟩ := Prog.returns_bind.mp h
  rw [returns_ask.mp hask, List.append_nil]
  exact hr v

theorem books_queueFull {maxDepth : Option ℤ} {full : Bool}
    (h : (Tick.queueFull maxDepth).Returns events full) : booksOf events = ⟨[], [], []⟩ := by
  cases maxDepth with
  | none =>
      obtain ⟨rfl, -⟩ := h
      rfl
  | some depth => exact books_compared (fun _ => rfl) h

theorem books_inFlightFull {cap : Option ℤ} {full : Bool}
    (h : (Tick.inFlightFull cap).Returns events full) : booksOf events = ⟨[], [], []⟩ := by
  cases cap with
  | none =>
      obtain ⟨rfl, -⟩ := h
      rfl
  | some cap => exact books_compared (fun _ => rfl) h

theorem books_moduleInFlightFull {projectModule : String} {cap : Option ℤ} {full : Bool}
    (h : (Tick.moduleInFlightFull projectModule cap).Returns events full) :
    booksOf events = ⟨[], [], []⟩ := by
  cases cap with
  | none =>
      obtain ⟨rfl, -⟩ := h
      rfl
  | some cap => exact books_compared (fun _ => rfl) h

/-- The modules of a claim: jobs while batches are left, and one release after them. -/
theorem returns_enqueueModules {claimToken : String} {allSources : List String}
    {modules : List (String × List String)} {batches left batches' : ℕ}
    {enqueuedAny enqueuedAny' : Bool} (hleft : (batches : ℤ) + left = policy.maxBatchesPerTick)
    (h : (enqueueModules policy claimToken allSources batches enqueuedAny modules).Returns events
      (batches', enqueuedAny')) :
    booksOf events =
        ⟨[], (modules.take left).map (discoverBatchJob policy.pool policy.payload claimToken),
          (modules.drop left).head?.toList.map fun batch => ⟨batch.1, allSources, claimToken⟩⟩ ∧
      batches' = batches + min left modules.length ∧
      enqueuedAny' = (enqueuedAny || decide (0 < left ∧ modules ≠ [])) := by
  induction modules generalizing batches left enqueuedAny events with
  | nil =>
      obtain ⟨rfl, hresult⟩ := h
      cases hresult
      simp
  | cons batch rest ih =>
      rw [enqueueModules] at h
      cases left with
      | zero =>
          -- the limit is reached: the sources of this module are released
          rw [if_pos (by omega)] at h
          obtain ⟨before, after, v, rfl, hask, rfl, hresult⟩ := Prog.returns_bind.mp h
          rw [returns_ask.mp hask]
          cases hresult
          simp [booksOf, TickEvent.claim?, TickEvent.job?, TickEvent.release?]
      | succ left =>
          have hrest : ((batches + 1 : ℕ) : ℤ) + left = policy.maxBatchesPerTick := by
            push_cast at hleft ⊢
            omega
          rw [if_neg (by push_cast at hrest; omega)] at h
          obtain ⟨before, after, v, rfl, hask, h⟩ := Prog.returns_bind.mp h
          obtain ⟨hbooks, hbatches, hany⟩ := ih hrest h
          rw [returns_ask.mp hask, booksOf_append, hbooks, hbatches, hany]
          refine ⟨rfl, ?_, by simp⟩
          rw [List.length_cons]
          omega

/-- **The rounds of a tick.** -/
theorem returns_tickRounds {fuel batches left : ℕ} {remaining : ℤ}
    (hleft : left = (policy.maxBatchesPerTick - batches).toNat)
    (h : (tickRounds policy fuel remaining batches).Returns events ()) :
    ∃ rounds, Rounds left rounds ∧ booksOf events = roundBooks policy rounds := by
  induction fuel generalizing batches left remaining events with
  | zero =>
      obtain ⟨rfl, -⟩ := h
      exact ⟨[], .nil left, rfl⟩
  | succ fuel ih =>
      rw [tickRounds] at h
      split at h
      next hgoes =>
        obtain ⟨depth, after, full, rfl, hdepth, h⟩ := Prog.returns_bind.mp h
        rw [booksOf_append, books_queueFull hdepth, TickBooks.nil_append]
        split at h
        · obtain ⟨rfl, -⟩ := h
          exact ⟨[], .nil left, rfl⟩
        obtain ⟨inFlight, after, full, rfl, hinFlight, h⟩ := Prog.returns_bind.mp h
        rw [booksOf_append, books_inFlightFull hinFlight, TickBooks.nil_append]
        split at h
        · obtain ⟨rfl, -⟩ := h
          exact ⟨[], .nil left, rfl⟩
        obtain ⟨asked, after, ⟨claimToken, rows⟩, rfl, hclaim, h⟩ := Prog.returns_bind.mp h
        rw [booksOf_append, returns_ask.mp hclaim]
        cases claimToken with
        | none =>
            obtain ⟨rfl, -⟩ := h
            exact ⟨[], .nil left, rfl⟩
        | some claimToken =>
            cases rows with
            | nil =>
                obtain ⟨rfl, -⟩ := h
                exact ⟨[], .nil left, rfl⟩
            | cons row rows =>
                obtain ⟨enqueued, after, ⟨batches', enqueuedAny⟩, rfl, henqueue, h⟩ :=
                  Prog.returns_bind.mp h
                have hlimit : (batches : ℤ) + left = policy.maxBatchesPerTick := by omega
                obtain ⟨hbooks, hbatches, hany⟩ := returns_enqueueModules hlimit henqueue
                have hmodules := byModule_ne_nil (List.cons_ne_nil row rows)
                have hopen : 0 < left := by omega
                have henqueued : enqueuedAny = true := by
                  rw [hany]
                  simpa [hmodules] using hopen
                subst henqueued
                have hnext : left - (byModule (row :: rows)).toList.length =
                    (policy.maxBatchesPerTick - batches').toNat := by
                  rw [hbatches]
                  omega
                obtain ⟨rounds, hrounds, hrest⟩ := ih hnext h
                let round : TickRound := ⟨claimToken, row :: rows, left⟩
                refine ⟨round :: rounds, ?_, ?_⟩
                · exact .cons (show 0 < round.left from hopen) (List.cons_ne_nil row rows) hrounds
                · rw [booksOf_append, hbooks, hrest]
                  rfl
      next hstops =>
        obtain ⟨rfl, -⟩ := h
        exact ⟨[], .nil left, rfl⟩

end Returns
/-! ### Jobs under their keys -/

theorem discoverBatchArgs_job (pool : String) (payload : Json) (claimToken : String)
    (batch : String × List String) :
    discoverBatchArgs (discoverBatchJob pool payload claimToken batch).payload =
      .ok ⟨batch.1, claimToken, batch.2⟩ := by
  have hsources : (batch.2.map Json.str).filterMap Json.asStr = batch.2 := by
    rw [List.filterMap_map]
    exact List.filterMap_some
  have hmodule : (discoverBatchJob pool payload claimToken batch).payload.get "project_module" =
      some (.str batch.1) := rfl
  have htoken : (discoverBatchJob pool payload claimToken batch).payload.get "claim_token" =
      some (.str claimToken) := rfl
  have hitems : (discoverBatchJob pool payload claimToken batch).payload.get "source_identifiers" =
      some (.arr (batch.2.map .str)) := rfl
  unfold discoverBatchArgs
  rw [hmodule, htoken, hitems]
  dsimp only [Option.bind_some, Json.asStr]
  rw [hsources]

/-- What a job of a tick discovers. -/
theorem carries_job {pool : String} {payload : Json} {token : String}
    {batch : String × List String} {projectModule claimToken source : String} :
    (discoverBatchJob pool payload token batch).carries projectModule claimToken source = true ↔
      batch.1 = projectModule ∧ token = claimToken ∧ source ∈ batch.2 := by
  unfold QueuedJob.carries
  rw [discoverBatchArgs_job]
  simp [discoverBatchJob, and_assoc]

/-- The text behind the last colon of a key is its token. -/
theorem discoverKey_inj {m m' token token' : String} (htoken : ':' ∉ token.toList)
    (htoken' : ':' ∉ token'.toList) (h : discoverKey m token = discoverKey m' token') :
    m = m' ∧ token = token' := by
  have hchars : m.toList ++ ':' :: token.toList = m'.toList ++ ':' :: token'.toList := by
    have hkey := congrArg String.toList h
    simp only [discoverKey, String.toList_append, List.append_assoc] at hkey
    exact List.append_cancel_left hkey
  -- behind the shorter of two modules there would be a colon in the other token
  rcases List.append_eq_append_iff.mp hchars with ⟨rest, hm, hrest⟩ | ⟨rest, hm, hrest⟩
  · cases rest with
    | nil =>
        rw [List.append_nil] at hm
        rw [List.nil_append, List.cons.injEq] at hrest
        exact ⟨String.toList_inj.mp hm.symm, String.toList_inj.mp hrest.2⟩
    | cons c rest =>
        rw [List.cons_append, List.cons.injEq] at hrest
        exact absurd (hrest.2 ▸ List.mem_append_right rest List.mem_cons_self) htoken
  · cases rest with
    | nil =>
        rw [List.append_nil] at hm
        rw [List.nil_append, List.cons.injEq] at hrest
        exact ⟨String.toList_inj.mp hm, String.toList_inj.mp hrest.2.symm⟩
    | cons c rest =>
        rw [List.cons_append, List.cons.injEq] at hrest
        exact absurd (hrest.2 ▸ List.mem_append_right rest List.mem_cons_self) htoken'

/-- Jobs with keys of their own are all added. -/
theorem jobsAfter_eq_append {jobs added : List QueuedJob}
    (hnew : ∀ job ∈ added, ∀ old ∈ jobs, old.idempotencyKey ≠ job.idempotencyKey)
    (hdistinct : added.Pairwise fun a b => a.idempotencyKey ≠ b.idempotencyKey) :
    added.foldl insertJob jobs = jobs ++ added := by
  induction added generalizing jobs with
  | nil => simp
  | cons job added ih =>
      rw [List.pairwise_cons] at hdistinct
      have hinsert : insertJob jobs job = jobs ++ [job] := by
        have hno : jobs.any (fun old => old.idempotencyKey == job.idempotencyKey) = false := by
          rw [List.any_eq_false]
          intro old hold
          simpa using hnew job List.mem_cons_self old hold
        simp [insertJob, hno]
      rw [List.foldl_cons, hinsert, ih ?_ hdistinct.2, List.append_assoc, List.singleton_append]
      intro other hother old hold
      rcases List.mem_append.mp hold with hold | hold
      · exact hnew other (List.mem_cons_of_mem _ hother) old hold
      · rw [List.mem_singleton.mp hold]
        exact hdistinct.1 other hother

/-- Of jobs no two of which satisfy `p`, one does when there is one. -/
theorem countP_eq_one_iff {α : Type} {p : α → Bool} {l : List α}
    (h : l.Pairwise fun a b => ¬ (p a = true ∧ p b = true)) :
    l.countP p = 1 ↔ ∃ a ∈ l, p a = true := by
  induction l with
  | nil => simp
  | cons a l ih =>
      rw [List.pairwise_cons] at h
      rw [List.countP_cons, List.exists_mem_cons_iff]
      cases ha : p a with
      | true =>
          have hrest : l.countP p = 0 :=
            List.countP_eq_zero.mpr fun b hb hpb => h.1 b hb ⟨ha, hpb⟩
          simp [hrest]
      | false => simpa using ih h.2
/-! ### The accounts of a round -/

section Accounts

variable {policy : TickPolicy} {rounds : List TickRound} {left : ℕ}

/-- Within one round: every source is in a job or in the release exactly when at most one module
got no batch. -/
theorem TickRound.accounted_iff (round : TickRound) :
    (∀ row ∈ round.rows,
        (∃ batch ∈ round.modules.take round.left, batch.1 = row.1 ∧ row.2 ∈ batch.2) ∨
          ∃ batch, (round.modules.drop round.left).head? = some batch ∧ batch.1 = row.1) ↔
      round.modules.length ≤ round.left + 1 := by
  have hkeys : round.modules.Pairwise fun a b => a.1 ≠ b.1 := pairwise_byModule round.rows
  constructor
  · intro h
    by_contra hlong
    have hlast : round.left + 1 < round.modules.length := by omega
    have hother : round.left < round.modules.length := by omega
    -- the second module without a batch has a source
    obtain ⟨hsources, hne⟩ := mem_byModule.mp
      (show round.modules[round.left + 1] ∈ (byModule round.rows).toList from
        List.getElem_mem hlast)
    obtain ⟨source, hsource⟩ := List.exists_mem_of_ne_nil _ hne
    rw [hsources] at hsource
    rcases h _ (mem_sourcesOf.mp hsource) with ⟨batch, hbatch, hmodule, -⟩ | ⟨batch, hhead, hmodule⟩
    · obtain ⟨i, hi, rfl⟩ := List.mem_take_iff_getElem.mp hbatch
      exact List.pairwise_iff_getElem.mp hkeys i (round.left + 1) (by omega) hlast (by omega)
        hmodule
    · rw [List.head?_drop, List.getElem?_eq_getElem hother, Option.some.injEq] at hhead
      subst hhead
      exact List.pairwise_iff_getElem.mp hkeys round.left (round.left + 1) hother hlast
        (by omega) hmodule
  · intro hshort row hrow
    have hsource := mem_sourcesOf.mpr hrow
    have hbatch : (row.1, sourcesOf row.1 round.rows) ∈ round.modules :=
      mem_byModule.mpr ⟨rfl, List.ne_nil_of_mem hsource⟩
    rw [← List.take_append_drop round.left round.modules, List.mem_append] at hbatch
    rcases hbatch with htaken | hdropped
    · exact .inl ⟨_, htaken, rfl, hsource⟩
    · refine .inr ⟨(row.1, sourcesOf row.1 round.rows), ?_, rfl⟩
      have hlength : (round.modules.drop round.left).length ≤ 1 := by
        rw [List.length_drop]
        omega
      cases hrest : round.modules.drop round.left with
      | nil => simp [hrest] at hdropped
      | cons head tail =>
          rw [hrest, List.length_cons] at hlength
          have htail : tail = [] := List.length_eq_zero_iff.mp (by omega)
          rw [hrest, htail, List.mem_singleton] at hdropped
          rw [hdropped, List.head?_cons]

/-- A round that is followed by another one gave a batch to each of its modules. -/
theorem Rounds.short_iff (h : Rounds left rounds) :
    (∀ round ∈ rounds, round.modules.length ≤ round.left + 1) ↔
      modulesSpanned (rounds.map TickRound.claim) ≤ left + 1 := by
  induction h with
  | nil left => simp [modulesSpanned]
  | @cons round rounds hleft hrows hrounds ih =>
      rw [List.forall_mem_cons, ih, List.map_cons, modulesSpanned]
      have hmodules : (byModule round.claim.rows).toList.length = round.modules.length := rfl
      rw [hmodules]
      generalize hnext : round.left - round.modules.length = next at hrounds ih
      cases hrounds with
      | nil => simp [modulesSpanned]
      | cons hnext => omega

/-- The jobs of the rounds have different keys. -/
theorem pairwise_jobs (hdistinct : (rounds.map TickRound.token).Nodup)
    (hseparator : ∀ round ∈ rounds, ':' ∉ round.token.toList) :
    (rounds.flatMap fun round => round.jobs policy).Pairwise
      fun a b => a.idempotencyKey ≠ b.idempotencyKey := by
  rw [List.pairwise_flatMap]
  refine ⟨fun round hround => ?_, ?_⟩
  · have hkeys := (pairwise_byModule round.rows).take (i := round.left)
    refine List.pairwise_map.mpr (hkeys.imp fun {a b} hne hkey => hne ?_)
    have hsep := hseparator round hround
    exact (discoverKey_inj hsep hsep (Option.some.inj hkey)).1
  · refine (List.pairwise_map.mp hdistinct).imp_of_mem ?_
    intro a b ha hb hne x hx y hy hkey
    obtain ⟨batch, -, rfl⟩ := List.mem_map.mp hx
    obtain ⟨batch', -, rfl⟩ := List.mem_map.mp hy
    exact hne (discoverKey_inj (hseparator a ha) (hseparator b hb) (Option.some.inj hkey)).2

end Accounts
section Tick

variable {config : DiscoveryWorkerConfig} {payload : Json} {policy : TickPolicy}
  {events : List TickEvent} {jobs : List QueuedJob} {rounds : List TickRound} {left : ℕ}

/-- **A tick that returns consists of rounds**, within its limit of batches. -/
theorem returns_runSchedulerTick (h : (runSchedulerTick config payload).Returns events ()) :
    ∃ rounds, Rounds (tickPolicy config payload).maxBatchesPerTick.toNat rounds ∧
      booksOf events = roundBooks (tickPolicy config payload) rounds := by
  unfold runSchedulerTick at h
  obtain ⟨health, after, blocked, rfl, hhealth, h⟩ := Prog.returns_bind.mp h
  rw [booksOf_append, books_healthBlocks hhealth, TickBooks.nil_append]
  split at h
  · obtain ⟨rfl, -⟩ := h
    exact ⟨[], .nil _, rfl⟩
  obtain ⟨depth, after, full, rfl, hdepth, h⟩ := Prog.returns_bind.mp h
  rw [booksOf_append, books_queueFull hdepth, TickBooks.nil_append]
  split at h
  · obtain ⟨rfl, -⟩ := h
    exact ⟨[], .nil _, rfl⟩
  obtain ⟨inFlight, after, full, rfl, hinFlight, h⟩ := Prog.returns_bind.mp h
  rw [booksOf_append, books_inFlightFull hinFlight, TickBooks.nil_append]
  split at h
  · obtain ⟨rfl, -⟩ := h
    exact ⟨[], .nil _, rfl⟩
  obtain ⟨inModule, after, full, rfl, hinModule, h⟩ := Prog.returns_bind.mp h
  rw [booksOf_append, books_moduleInFlightFull hinModule, TickBooks.nil_append]
  split at h
  · obtain ⟨rfl, -⟩ := h
    exact ⟨[], .nil _, rfl⟩
  · exact returns_tickRounds (by simp) h

/-- The rounds with the token of a round are the round itself. -/
theorem round_eq_of_token (hdistinct : (rounds.map TickRound.token).Nodup) {a b : TickRound}
    (ha : a ∈ rounds) (hb : b ∈ rounds) (h : a.token = b.token) : a = b :=
  List.inj_on_of_nodup_map hdistinct ha hb h

/-- A source of a round is in one job exactly when its module got a batch. -/
theorem countP_jobs (hfresh : FreshTokens jobs (roundBooks policy rounds).claims)
    {round : TickRound} (hround : round ∈ rounds) (row : String × String) :
    ((roundBooks policy rounds).jobsAfter jobs).countP (·.carries row.1 round.token row.2) = 1 ↔
      ∃ batch ∈ round.modules.take round.left, batch.1 = row.1 ∧ row.2 ∈ batch.2 := by
  have hdistinct : (rounds.map TickRound.token).Nodup := by
    have h := hfresh.distinct
    rwa [roundBooks, List.map_map] at h
  have hclaim : ∀ {round : TickRound}, round ∈ rounds →
      round.claim ∈ (roundBooks policy rounds).claims := fun h => List.mem_map_of_mem h
  have hseparator : ∀ round ∈ rounds, ':' ∉ round.token.toList :=
    fun round h => hfresh.separator round.claim (hclaim h)
  have hkeys : (roundBooks policy rounds).jobs.Pairwise
      fun a b => a.idempotencyKey ≠ b.idempotencyKey := pairwise_jobs hdistinct hseparator
  have hadded : (roundBooks policy rounds).jobsAfter jobs =
      jobs ++ (roundBooks policy rounds).jobs := by
    refine jobsAfter_eq_append ?_ hkeys
    intro job hjob old hold
    obtain ⟨other, hother, hjob⟩ := List.mem_flatMap.mp hjob
    obtain ⟨batch, -, rfl⟩ := List.mem_map.mp hjob
    exact (hfresh.unused other.claim (hclaim hother) old hold batch.1).1
  have hold : jobs.countP (·.carries row.1 round.token row.2) = 0 := by
    rw [List.countP_eq_zero]
    intro job hjob
    rw [Bool.not_eq_true]
    exact (hfresh.unused round.claim (hclaim hround) job hjob row.1).2 row.2
  rw [hadded, List.countP_append, hold, Nat.zero_add, countP_eq_one_iff]
  · constructor
    · rintro ⟨job, hjob, hcarries⟩
      obtain ⟨other, hother, hjob⟩ := List.mem_flatMap.mp hjob
      obtain ⟨batch, hbatch, rfl⟩ := List.mem_map.mp hjob
      obtain ⟨hmodule, htoken, hsource⟩ := carries_job.mp hcarries
      obtain rfl := round_eq_of_token hdistinct hother hround htoken
      exact ⟨batch, hbatch, hmodule, hsource⟩
    · rintro ⟨batch, hbatch, hmodule, hsource⟩
      refine ⟨discoverBatchJob policy.pool policy.payload round.token batch, ?_,
        carries_job.mpr ⟨hmodule, rfl, hsource⟩⟩
      exact List.mem_flatMap.mpr ⟨round, hround, List.mem_map_of_mem hbatch⟩
  · -- two jobs that carry the source would have the same key
    refine hkeys.imp_of_mem ?_
    intro a b ha hb hne hboth
    obtain ⟨other, -, ha⟩ := List.mem_flatMap.mp ha
    obtain ⟨batch, -, rfl⟩ := List.mem_map.mp ha
    obtain ⟨other', -, hb⟩ := List.mem_flatMap.mp hb
    obtain ⟨batch', -, rfl⟩ := List.mem_map.mp hb
    obtain ⟨hmodule, htoken, -⟩ := carries_job.mp hboth.1
    obtain ⟨hmodule', htoken', -⟩ := carries_job.mp hboth.2
    refine hne (congrArg some ?_)
    rw [hmodule, hmodule', htoken, htoken']

/-- A source of a round is released exactly when its module is the first without a batch. -/
theorem released_iff (hdistinct : (rounds.map TickRound.token).Nodup) {round : TickRound}
    (hround : round ∈ rounds) {row : String × String} (hrow : row ∈ round.rows) :
    (∃ release ∈ (roundBooks policy rounds).releases, release.projectModule = row.1 ∧
        row.2 ∈ release.sourceIdentifiers ∧ release.claimToken = round.token) ↔
      ∃ batch, (round.modules.drop round.left).head? = some batch ∧ batch.1 = row.1 := by
  constructor
  · rintro ⟨release, hrelease, hmodule, -, htoken⟩
    obtain ⟨other, hother, hrelease⟩ := List.mem_flatMap.mp hrelease
    obtain ⟨batch, hbatch, rfl⟩ := List.mem_map.mp hrelease
    obtain rfl := round_eq_of_token hdistinct hother hround htoken
    exact ⟨batch, Option.mem_toList.mp hbatch, hmodule⟩
  · rintro ⟨batch, hbatch, hmodule⟩
    refine ⟨⟨batch.1, round.rows.map Prod.snd, round.token⟩, ?_, hmodule,
      List.mem_map_of_mem hrow, rfl⟩
    refine List.mem_flatMap.mpr ⟨round, hround, ?_⟩
    exact List.mem_map.mpr ⟨batch, Option.mem_toList.mpr hbatch, rfl⟩

/-- **A tick accounts for its sources exactly when its claims span at most one module more than its
limit of batches.** -/
theorem tickAccounted_iff (h : (runSchedulerTick config payload).Returns events ())
    (hfresh : FreshTokens jobs (booksOf events).claims) :
    TickAccounted jobs (booksOf events) ↔ modulesSpanned (booksOf events).claims ≤
      (tickPolicy config payload).maxBatchesPerTick.toNat + 1 := by
  obtain ⟨rounds, hrounds, hbooks⟩ := returns_runSchedulerTick h
  rw [hbooks] at hfresh ⊢
  have hdistinct : (rounds.map TickRound.token).Nodup := by
    have h := hfresh.distinct
    rwa [roundBooks, List.map_map] at h
  have hclaims : (roundBooks (tickPolicy config payload) rounds).claims =
      rounds.map TickRound.claim := rfl
  rw [hclaims, ← hrounds.short_iff]
  unfold TickAccounted
  rw [hclaims, List.forall_mem_map]
  refine forall₂_congr fun round hround => ?_
  rw [← round.accounted_iff]
  refine forall₂_congr fun row hrow => ?_
  exact or_congr (countP_jobs hfresh hround row) (released_iff hdistinct hround hrow)

end Tick
/-! ### The job of a batch -/

/-- How the discovery of a source ends: with an answer of the archive, for the rows it has read, or
not at all. -/
inductive SourceTask where
  | finished (registry : SourceRegistry) (readable : Bool) (answer : ArchiveAnswer)
  | panicked (error : String)
  deriving DecidableEq, Repr

namespace SourceTask

/-- The task has finished. -/
def finishes : SourceTask → Bool
  | .finished _ _ _ => true
  | .panicked _ => false

variable (env : DiscoveryEnv) (projectConfig : Option DiscoveryConfig) (projectModule : String)

/-- The result of a source discovered in place. -/
def result? (source : String) : SourceTask → Option DiscoverySourceResult
  | .finished registry readable answer =>
      some (registry.discoverSource env projectConfig projectModule source readable answer)
  | .panicked _ => none

/-- The result of a source discovered in a task of its own; a task that panicked does not say which
source it had. -/
def joined (source : String) : SourceTask → DiscoverySourceResult
  | .finished registry readable answer =>
      registry.discoverSource env projectConfig projectModule source readable answer
  | .panicked error => .error "" ("discover task join failed: " ++ error)

end SourceTask

section Job

variable (env : DiscoveryEnv)

/-- `discover_sources_parallel`; a panic in place ends the job. -/
def discoverSourcesParallel (projectConfig : Option DiscoveryConfig) (projectModule : String)
    (concurrency : ℕ) (tasks : List (String × SourceTask)) : Option (List DiscoverySourceResult) :=
  if max concurrency 1 = 1 then
    tasks.mapM fun task => task.2.result? env projectConfig projectModule task.1
  else some (tasks.map fun task => task.2.joined env projectConfig projectModule task.1)

/-- Why a job does not return. -/
inductive DiscoverBatchError where
  | protocol (message : String)
  | panicked
  | persist (error : PersistError)
  deriving DecidableEq, Repr

/-- `run_discover_batch`; `outcome` are the tasks of the sources, in order, and `r` is the registry
when the results are persisted. -/
def runDiscoverBatch (r : SourceRegistry) (now : ℕ) (clock : ℕ → ℕ) (concurrency : ℕ)
    (projectConfig : Option DiscoveryConfig) (payload : Json) (outcome : ℕ → SourceTask) :
    SourceRegistry × Except DiscoverBatchError DiscoveryBatchStats :=
  match discoverBatchArgs payload with
  | .error message => (r, .error (.protocol message))
  | .ok args =>
      match discoverSourcesParallel env projectConfig args.projectModule concurrency
          (args.sourceIdentifiers.zipIdx.map fun source => (source.1, outcome source.2)) with
      | none => (r, .error .panicked)
      | some results =>
          match r.persistDiscoveryResults env now clock args.projectModule args.claimToken results
              (projectConfig.bind DiscoveryConfig.signature) with
          | (r', .error error) => (r', .error (.persist error))
          | (r', .ok batch) => (r', .ok batch.stats)

end Job

/-- **No source of the payload is claimed under its token.** -/
def BatchReleased (r : SourceRegistry) (payload : Json) : Prop :=
  ∀ args, discoverBatchArgs payload = .ok args → ∀ source ∈ args.sourceIdentifiers,
    ¬ r.Claims args.projectModule args.claimToken source

/-- Every source of the payload that is claimed has a task that finishes.  The empty text is named
by every task that does not. -/
def TasksFinish (r : SourceRegistry) (payload : Json) (outcome : ℕ → SourceTask) : Prop :=
  ∀ args, discoverBatchArgs payload = .ok args → ∀ source ∈ args.sourceIdentifiers,
    r.Claims args.projectModule args.claimToken source →
      (∃ i, args.sourceIdentifiers[i]? = some source ∧ (outcome i).finishes = true) ∨
        source = "" ∧ ∃ i < args.sourceIdentifiers.length, (outcome i).finishes = false

section Job

variable {env : DiscoveryEnv} {projectConfig : Option DiscoveryConfig} {projectModule : String}
  {concurrency : ℕ}

/-- Without a panic it makes no difference where the sources are discovered. -/
theorem discoverSourcesParallel_eq {tasks : List (String × SourceTask)}
    {results : List DiscoverySourceResult}
    (h : discoverSourcesParallel env projectConfig projectModule concurrency tasks = some results) :
    results = tasks.map fun task => task.2.joined env projectConfig projectModule task.1 := by
  unfold discoverSourcesParallel at h
  split at h
  · induction tasks generalizing results with
    | nil =>
        cases h
        rfl
    | cons task tasks ih =>
        obtain ⟨source, task⟩ := task
        rw [List.mapM_cons] at h
        cases task with
        | panicked error => cases h
        | finished registry readable answer =>
            obtain ⟨result, hresult, hrest⟩ := Option.bind_eq_some_iff.mp h
            obtain ⟨rest, hmap, hcons⟩ := Option.bind_eq_some_iff.mp hrest
            cases hresult
            cases hcons
            rw [ih hmap]
            rfl
  · exact (Option.some.inj h).symm

theorem sourceIdentifier_joined (source : String) (task : SourceTask) :
    (task.joined env projectConfig projectModule source).sourceIdentifier =
      if task.finishes then source else "" := by
  cases task with
  | panicked error => rfl
  | finished registry readable answer =>
      cases projectConfig with
      | none => rfl
      | some config => exact SourceRegistry.discoverSource_sourceIdentifier readable

/-- The sources that the results name. -/
theorem mem_results_iff {sources : List String} {outcome : ℕ → SourceTask}
    {results : List DiscoverySourceResult}
    (h : discoverSourcesParallel env projectConfig projectModule concurrency
      (sources.zipIdx.map fun source => (source.1, outcome source.2)) = some results)
    (source : String) :
    source ∈ results.map DiscoverySourceResult.sourceIdentifier ↔
      (∃ i, sources[i]? = some source ∧ (outcome i).finishes = true) ∨
        source = "" ∧ ∃ i < sources.length, (outcome i).finishes = false := by
  rw [discoverSourcesParallel_eq h, List.map_map, List.map_map, List.mem_map]
  constructor
  · rintro ⟨⟨own, i⟩, hmem, hsource⟩
    have hown : sources[i]? = some own := List.mem_zipIdx_iff_getElem?.mp hmem
    rw [Function.comp_apply, Function.comp_apply, sourceIdentifier_joined] at hsource
    cases hfinishes : (outcome i).finishes with
    | true =>
        rw [hfinishes, if_pos rfl] at hsource
        exact .inl ⟨i, hsource ▸ hown, hfinishes⟩
    | false =>
        rw [hfinishes, if_neg Bool.false_ne_true] at hsource
        exact .inr ⟨hsource.symm, i, (List.getElem?_eq_some_iff.mp hown).1, hfinishes⟩
  · rintro (⟨i, hown, hfinishes⟩ | ⟨rfl, i, hi, hpanicked⟩)
    · refine ⟨(source, i), List.mem_zipIdx_iff_getElem?.mpr hown, ?_⟩
      rw [Function.comp_apply, Function.comp_apply, sourceIdentifier_joined, hfinishes, if_pos rfl]
    · refine ⟨(sources[i], i), List.mem_zipIdx_iff_getElem?.mpr (List.getElem?_eq_getElem hi), ?_⟩
      rw [Function.comp_apply, Function.comp_apply, sourceIdentifier_joined, hpanicked,
        if_neg Bool.false_ne_true]

/-- **A job releases its sources exactly when the task of every claimed one has finished.** -/
theorem batchReleased_iff {r r' : SourceRegistry} {now : ℕ} {clock : ℕ → ℕ} {payload : Json}
    {outcome : ℕ → SourceTask} {stats : DiscoveryBatchStats}
    (hissued : ∀ row ∈ r.rows, row.discoveryClaimToken ≠ some "")
    (h : runDiscoverBatch env r now clock concurrency projectConfig payload outcome =
      (r', .ok stats)) : BatchReleased r' payload ↔ TasksFinish r payload outcome := by
  unfold runDiscoverBatch at h
  cases hargs : discoverBatchArgs payload with
  | error message => simp [hargs] at h
  | ok args =>
      simp only [hargs] at h
      split at h
      · cases h
      next results hresults =>
        cases hrun : r.persistDiscoveryResults env now clock args.projectModule args.claimToken
            results (projectConfig.bind DiscoveryConfig.signature) with
        | mk final persisted =>
          rw [hrun] at h
          cases persisted with
          | error error => cases h
          | ok batch =>
              obtain ⟨rfl, -⟩ := Prod.mk.inj h
              have hargs' : ∀ other, discoverBatchArgs payload = .ok other → other = args := by
                intro other hother
                exact Except.ok.inj (hother.symm.trans hargs)
              unfold BatchReleased TasksFinish
              refine forall_congr' fun other => forall_congr' fun hother => ?_
              obtain rfl := hargs' other hother
              refine forall₂_congr fun source hsource => ?_
              rw [SourceRegistry.claims_persistDiscoveryResults hrun, ← mem_results_iff hresults]
              -- a source that is claimed is claimed under a token
              have htoken : r.Claims other.projectModule other.claimToken source →
                  other.claimToken ≠ "" := by
                rintro ⟨row, hrow, hclaimed⟩ hempty
                simp only [SourceRegistryRow.discoveryClaimedBy, Bool.and_eq_true, beq_iff_eq]
                  at hclaimed
                exact hissued row hrow (hempty ▸ hclaimed.2)
              constructor
              · intro hnot hclaimed
                by_contra hmissed
                exact hnot ⟨hclaimed, .inr hmissed⟩
              · rintro hnamed ⟨hclaimed, hempty | hmissed⟩
                · exact htoken hclaimed hempty
                · exact hmissed (hnamed hclaimed)

end Job
/-! ### Accounting -/

section Accounting

variable {config : DiscoveryWorkerConfig} {payload : Json} {events : List TickEvent}
  {jobs : List QueuedJob} {env : DiscoveryEnv} {projectConfig : Option DiscoveryConfig}
  {concurrency now : ℕ} {clock : ℕ → ℕ} {r r' : SourceRegistry} {batchPayload : Json}
  {outcome : ℕ → SourceTask} {stats : DiscoveryBatchStats}

/-- **The sources of a tick are accounted for exactly when its claims span at most one module more
than its limit of batches; those of a job are released exactly when the task of every claimed one
has finished.**  `hfresh` and `hissued` are what the UUIDs grant under which claims are issued. -/
theorem discovery_accounting_iff (htick : (runSchedulerTick config payload).Returns events ())
    (hfresh : FreshTokens jobs (booksOf events).claims)
    (hissued : ∀ row ∈ r.rows, row.discoveryClaimToken ≠ some "")
    (hbatch : runDiscoverBatch env r now clock concurrency projectConfig batchPayload outcome =
      (r', .ok stats)) :
    (TickAccounted jobs (booksOf events) ↔ modulesSpanned (booksOf events).claims ≤
        (tickPolicy config payload).maxBatchesPerTick.toNat + 1) ∧
      (BatchReleased r' batchPayload ↔ TasksFinish r batchPayload outcome) :=
  ⟨tickAccounted_iff htick hfresh, batchReleased_iff hissued hbatch⟩

end Accounting

/-! ### A tick over three modules, and a task that panics -/

/-- A worker that enqueues one batch in a tick. -/
def singleBatchWorker : DiscoveryWorkerConfig where
  pool := "default"
  executionQueueMaxDepth := none
  discoveryBatchSize := 50
  discoveryStaleHours := 24
  discoveryClaimTtlMinutes := 180
  discoveryMaxInFlightBatches := none
  discoveryMaxBatchesPerTick := 1
  discoveryTapHealthCheckEnabled := false
  discoverySourceConcurrency := 5

/-- The database claims these sources. -/
def answerWith (rows : List (String × String)) : (r : TickRequest) → r.Resp
  | .tapHealthBlocks _ => .ok false
  | .queueDepth => .ok (0 : ℤ)
  | .countDiscoveryInFlightBatches => .ok (0 : ℤ)
  | .countDiscoveryInFlightForModule _ => .ok (0 : ℤ)
  | .claimSourceRowsForDiscovery _ _ _ _ => .ok (some "token", rows)
  | .releaseDiscoveryClaim _ _ _ => .ok (0 : ℕ)
  | .enqueueJob _ => .ok ()

/-- The run of a tick that claims these sources. -/
def tickEvents (rows : List (String × String)) : List TickEvent :=
  ((runSchedulerTick singleBatchWorker (.obj [])).run (answerWith rows)).1

/-- One token that nobody else has. -/
theorem freshTokens_single (rows : List (String × String)) : FreshTokens [] [⟨"token", rows⟩] := by
  refine ⟨by simp, ?_, by simp⟩
  intro claim hclaim
  rw [List.mem_singleton.mp hclaim]
  show ':' ∉ "token".toList
  decide

/-- The job for the two sources that are claimed. -/
def pairPayload : Json :=
  (discoverBatchJob "default" (.obj []) "first" ("survey", ["101", "102"])).payload

/-- The archive has no records of the first source; the second is discovered like this. -/
def pairOutcome (second : SourceTask) : ℕ → SourceTask
  | 0 => .finished SourceRegistry.claimPair true .noRecords
  | _ + 1 => second

/-- Sources of three modules. -/
def threeModules : List (String × String) :=
  [("casda", "1"), ("survey", "2"), ("wallaby", "3")]

/-- The job, when the discovery of the second source ends like this. -/
def runPair (second : SourceTask) :
    SourceRegistry × Except DiscoverBatchError DiscoveryBatchStats :=
  runDiscoverBatch SourceRegistry.sampleEnv SourceRegistry.claimPair 4 (fun _ => 3) 5
    (some SourceRegistry.sampleConfig) pairPayload (pairOutcome second)

theorem discovery_accounting_iff_sample : ∃ stats,
    (TickAccounted [] (booksOf (tickEvents (threeModules.take 2))) ↔
      modulesSpanned (booksOf (tickEvents (threeModules.take 2))).claims ≤ 2) ∧
    runPair (.finished SourceRegistry.claimPair true .timeout) =
      ((runPair (.finished SourceRegistry.claimPair true .timeout)).1, .ok stats) ∧
    (BatchReleased (runPair (.finished SourceRegistry.claimPair true .timeout)).1 pairPayload ↔
      TasksFinish SourceRegistry.claimPair pairPayload
        (pairOutcome (.finished SourceRegistry.claimPair true .timeout))) := by
  have htick : (runSchedulerTick singleBatchWorker (.obj [])).Returns
      (tickEvents (threeModules.take 2)) () := Prog.returns_run (by decide +kernel)
  have hfresh : FreshTokens [] (booksOf (tickEvents (threeModules.take 2))).claims := by
    have hclaims : (booksOf (tickEvents (threeModules.take 2))).claims =
        [⟨"token", threeModules.take 2⟩] := by decide +kernel
    rw [hclaims]
    exact freshTokens_single _
  have hissued : ∀ row ∈ SourceRegistry.claimPair.rows, row.discoveryClaimToken ≠ some "" := by
    decide +kernel
  have hisOk : (runPair (.finished SourceRegistry.claimPair true .timeout)).2.isOk = true := by
    decide +kernel
  cases hstats : (runPair (.finished SourceRegistry.claimPair true .timeout)).2 with
  | error error =>
      rw [hstats] at hisOk
      cases hisOk
  | ok stats =>
      have hrun : runPair (.finished SourceRegistry.claimPair true .timeout) =
          ((runPair (.finished SourceRegistry.claimPair true .timeout)).1, .ok stats) :=
        Prod.ext rfl hstats
      obtain ⟨haccounted, hreleased⟩ := discovery_accounting_iff htick hfresh hissued hrun
      exact ⟨stats, haccounted, hrun, hreleased⟩

/-- The source of the third module is in no job and not released; the source whose task panics keeps
its claim. -/
theorem tick_and_batch_leak :
    ((runSchedulerTick singleBatchWorker (.obj [])).Returns (tickEvents threeModules) () ∧
      FreshTokens [] (booksOf (tickEvents threeModules)).claims ∧
      ¬ TickAccounted [] (booksOf (tickEvents threeModules))) ∧
    (runPair (.panicked "index out of bounds")).2.isOk = true ∧
      ¬ BatchReleased (runPair (.panicked "index out of bounds")).1 pairPayload := by
  refine ⟨⟨Prog.returns_run (by decide +kernel), ?_, ?_⟩, by decide +kernel, ?_⟩
  · have hclaims : (booksOf (tickEvents threeModules)).claims = [⟨"token", threeModules⟩] := by
      decide +kernel
    rw [hclaims]
    exact freshTokens_single _
  · unfold TickAccounted
    decide +kernel
  · intro h
    refine h _ (discoverBatchArgs_job _ _ _ _) "102" (by decide) ?_
    unfold SourceRegistry.Claims
    decide +kernel

end Beampipe
