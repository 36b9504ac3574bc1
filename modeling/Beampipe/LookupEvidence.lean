/-
The evidence of a lookup by name.

The reconciler of uncertain Slurm submissions asks the queue and the accounting of the cluster for
the jobs of a session, and turns whatever comes back (jobs, nothing, an error, no answer in time)
into one record of evidence.  The repository checks the record against the latest intent and the
pinned profile before it writes it, and an error there ends the whole tick.

Main definitions:

* `Beampipe.SchedulerAdapterError`, `Beampipe.parseNamedJobs`, `Beampipe.findByName` — the client;
* `Beampipe.NameLookupAnswer.evidence` — the record of evidence, as the reconciler builds it;
* `Beampipe.Store.acceptsLookup` — the repository and its columns take the record;
* `Beampipe.Store.EvidenceMatches` — what the record and the store have to agree on.

Main results:

* `Beampipe.parseNamedJobs_digits` — a job that is found has a job id of digits;
* `Beampipe.Store.lookupFits_iff` — only an exact match can bring a text that does not fit;
* `Beampipe.lookup_accepted_iff` — **when the evidence of a lookup is accepted.**
-/

import Beampipe.Pollers
import Beampipe.AbandonmentEvidence

set_option relaxedAutoImplicit false
set_option autoImplicit false

namespace Beampipe

/-! ### Errors of the client -/

/-- `SchedulerErrorKind`. -/
inductive SchedulerErrorKind where
  | configuration
  | connectivity
  | authentication
  | hostVerification
  | timeout
  | command
  | invalidResponse
  | internal
  deriving DecidableEq, Repr

/-- The `{:?}` form of the kind, in lower case. -/
def SchedulerErrorKind.code : SchedulerErrorKind → String
  | .configuration => "configuration"
  | .connectivity => "connectivity"
  | .authentication => "authentication"
  | .hostVerification => "hostverification"
  | .timeout => "timeout"
  | .command => "command"
  | .invalidResponse => "invalidresponse"
  | .internal => "internal"

/-- `SchedulerAdapterError`, as far as its text and its kind go. -/
structure SchedulerAdapterError where
  operation : String
  kind : SchedulerErrorKind
  message : String
  retryable : Bool
  deriving DecidableEq, Repr

namespace SchedulerAdapterError

/-- `SchedulerAdapterError::configuration`. -/
def configuration (operation message : String) : SchedulerAdapterError :=
  ⟨operation, .configuration, message, false⟩

/-- `bounded_detail`. -/
def boundedDetail (value : String) : String := String.ofList (value.toList.take 2048)

/-- `SchedulerAdapterError::backend`, from the text of any error. -/
def backend (operation error : String) : SchedulerAdapterError :=
  let lower := toAsciiLowercase (boundedDetail error)
  if containsText lower "host key" || containsText lower "known_hosts" then
    ⟨operation, .hostVerification, "SSH host verification failed", false⟩
  else if containsText lower "auth" || containsText lower "credential" then
    ⟨operation, .authentication, "scheduler authentication failed", false⟩
  else if containsText lower "timed out" || containsText lower "timeout" then
    ⟨operation, .timeout, "scheduler operation timed out", true⟩
  else if containsText lower "connect" || containsText lower "unreachable" then
    ⟨operation, .connectivity, "scheduler connection failed", true⟩
  else if containsText lower "command failed" || containsText lower "ssh exec" then
    ⟨operation, .command, "scheduler command failed", false⟩
  else ⟨operation, .internal, "scheduler operation failed", false⟩

/-- `SchedulerAdapterError::invalid_response`. -/
def invalidResponse (operation : String) : SchedulerAdapterError :=
  ⟨operation, .invalidResponse, "scheduler returned an invalid response", false⟩

/-- The error as a text. -/
def text (error : SchedulerAdapterError) : String :=
  "SlurmRemote " ++ error.operation ++ " failed: " ++ error.message

end SchedulerAdapterError

/-! ### The jobs of a name -/

/-- `validate_job_name`. -/
def validJobName (value : String) : Bool :=
  !value.isEmpty && decide (value.utf8ByteSize ≤ 128) &&
    value.toList.all fun c =>
      isAsciiDigit c || ('a' ≤ c && c ≤ 'z') || ('A' ≤ c && c ≤ 'Z') || c == '.' || c == '_' ||
        c == '-'

/-- `SchedulerState::from_normalized`. -/
def SchedulerState.fromNormalized (raw : String) : SchedulerState :=
  match String.ofList ((trim raw).toList.map Char.toUpper) with
  | "PENDING" => .pending
  | "RUNNING" => .running
  | "COMPLETED" | "SUCCEEDED" => .succeeded
  | "FAILED" => .failed
  | "CANCELLED" | "CANCELED" => .cancelled
  | "TIMEOUT" | "TIMED_OUT" => .timedOut
  | "NOT_SUBMITTED" => .notSubmitted
  | _ => .unknown

/-- `SchedulerJobObservation`, as far as a lookup uses it. -/
structure NamedJob where
  externalJobId : String
  state : SchedulerState
  rawState : String
  reason : Option String
  source : String
  deriving DecidableEq, Repr

/-- The first word of a text. -/
def firstWord (chars : List Char) : Option String :=
  match (chars.dropWhile isWhitespace).takeWhile fun c => !isWhitespace c with
  | [] => none
  | word => some (String.ofList word)

/-- One line of `parse_named_jobs`; a line of another job is left out. -/
def parseNamedJob (expectedName source : String) (lineNumber : ℕ) (line : List Char) :
    Except String (Option NamedJob) :=
  let failure := fun message => .error (s!"{source} line {lineNumber}: " ++ message)
  match trimChars line with
  | [] => .ok none
  | line =>
      match line.splitOn '|' with
      | [id, name, state, reason] =>
          let returnedName := String.ofList (trimChars name)
          if returnedName.isEmpty then failure "job name is empty"
          else if returnedName ≠ expectedName then .ok none
          else
            let externalJobId := String.ofList (trimChars id)
            if ¬isAsciiDigits externalJobId then
              failure "exact-name row contains an invalid allocation job ID"
            else
              match firstWord state with
              | none => failure "exact-name row contains an empty state"
              | some rawState =>
                  let reason := String.ofList (trimChars reason)
                  .ok (some
                    { externalJobId := externalJobId
                      state := .fromNormalized rawState
                      rawState := rawState
                      reason := if reason.isEmpty ∨ reason = "None" then none else some reason
                      source := source })
      | fields =>
          failure ("expected 4 pipe-delimited fields, received " ++ toString fields.length)

/-- `parse_named_jobs`. -/
def parseNamedJobs (output expectedName source : String) : Except String (List NamedJob) :=
  ((output.toList.splitOnP fun c => c.toNat == 10).zipIdx.mapM fun line =>
    parseNamedJob expectedName source (line.2 + 1) line.1).map (List.filterMap id)

/-- `BTreeMap::insert` under the job id. -/
def insertNamedJob (job : NamedJob) : List NamedJob → List NamedJob
  | [] => [job]
  | other :: rest =>
      if job.externalJobId < other.externalJobId then job :: other :: rest
      else if job.externalJobId = other.externalJobId then job :: rest
      else other :: insertNamedJob job rest

/-- `merge_named_job_observations`: the live queue replaces what accounting says. -/
def mergeNamedJobs (squeue sacct : List NamedJob) : List NamedJob :=
  (sacct ++ squeue).foldl (fun jobs job => insertNamedJob job jobs) []

/-- `SchedulerNameLookup`. -/
structure SchedulerNameLookup where
  accountingNotBefore : ℕ
  queryStartedAt : ℕ
  queryCompletedAt : ℕ
  squeueCompleted : Bool
  sacctCompleted : Bool
  jobs : List NamedJob
  deriving DecidableEq, Repr

/-- What the cluster answers to the two queries: their outputs or the text of an error, and the
clock before and after. -/
structure SlurmOutputs where
  outputs : Except String (String × String)
  queryStartedAt : ℕ
  queryCompletedAt : ℕ

/-- `find_by_name`. -/
def findByName (jobName : String) (notBefore : ℕ) (cluster : SlurmOutputs) :
    Except SchedulerAdapterError SchedulerNameLookup :=
  if ¬validJobName jobName then
    .error (.configuration "job_name" "scheduler job name contains unsupported characters")
  else
    match cluster.outputs with
    | .error error => .error (.backend "find_by_name" error)
    | .ok (squeue, sacct) =>
        match parseNamedJobs squeue jobName "squeue", parseNamedJobs sacct jobName "sacct" with
        | .ok squeue, .ok sacct =>
            .ok
              { accountingNotBefore := wholeSeconds notBefore
                queryStartedAt := cluster.queryStartedAt
                queryCompletedAt := cluster.queryCompletedAt
                squeueCompleted := true
                sacctCompleted := true
                jobs := mergeNamedJobs squeue sacct }
        | _, _ => .error (.invalidResponse "find_by_name")

/-! ### The record of evidence -/

/-- `redact_after_marker`: a value runs to the next separator; `fuel` bounds the characters. -/
def redactAfterMarker (marker : List Char) : ℕ → List Char → List Char
  | 0, chars => chars
  | _, [] => []
  | fuel + 1, c :: chars =>
      if marker.isPrefixOf ((c :: chars).map Char.toLower) then
        (c :: chars).take marker.length ++ "[REDACTED]".toList ++
          redactAfterMarker marker fuel
            (((c :: chars).drop marker.length).dropWhile fun c =>
              !(c == '&' || isWhitespace c || c.toNat == 34 || c.toNat == 39))
      else c :: redactAfterMarker marker fuel chars

/-- `redact_string`. -/
def redactString (input : String) : String :=
  String.ofList <|
    ["password=", "passphrase=", "passcode=", "token=", "access_token=", "id_token=", "secret=",
      "apikey=", "api_key=", "authorization="].foldl
        (fun chars marker => redactAfterMarker marker.toList chars.length chars) input.toList

/-- What becomes of the client within the wall-clock limit; without an answer the reconciler reads
the clock itself. -/
inductive NameLookupAnswer where
  | timedOut
  | answered (cluster : SlurmOutputs)

/-- The outcome of the jobs that were found. -/
def SchedulerNameLookup.outcome (lookup : SchedulerNameLookup) : SlurmNameLookupOutcome :=
  match lookup.jobs with
  | [] => .notFound
  | [job] => .exact job.externalJobId job.state job.rawState job.reason job.source
  | jobs => .ambiguous (jobs.map (·.externalJobId))

namespace NameLookupAnswer

/-- The client's side of the lookup; `startedAt` and `completedAt` are the reconciler's clock before
and after it. -/
def nameLookup (answer : NameLookupAnswer) (sessionId profileSha256 : String) (notBefore : ℕ)
    (lookupId : Uuid) (startedAt completedAt : ℕ) : NameLookup :=
  let failed := fun (outcome : SlurmNameLookupOutcome) =>
    { profileSha256 := profileSha256
      accountingNotBefore := notBefore
      queryStartedAt := startedAt
      queryCompletedAt := completedAt
      squeueComplete := false
      sacctComplete := false
      lookupId := lookupId
      outcome := outcome : NameLookup }
  match answer with
  | .timedOut =>
      failed (.error "find_by_name_timeout"
        "Slurm submission reconciliation exceeded the 60 second wall-clock limit" true)
  | .answered cluster =>
      match findByName sessionId notBefore cluster with
      | .error error =>
          failed (.error ("scheduler_" ++ error.kind.code) (redactString error.text)
            error.retryable)
      | .ok lookup =>
          { profileSha256 := profileSha256
            accountingNotBefore := lookup.accountingNotBefore
            queryStartedAt := lookup.queryStartedAt
            queryCompletedAt := lookup.queryCompletedAt
            squeueComplete := lookup.squeueCompleted
            sacctComplete := lookup.sacctCompleted
            lookupId := lookupId
            outcome := lookup.outcome }

/-- The record that the reconciler builds for the intent it has read. -/
def evidence (answer : NameLookupAnswer) (intent : ExecutionObservationRow)
    (sessionId profileSha256 targetFingerprint : String) (lookupId : Uuid)
    (startedAt completedAt : ℕ) : SlurmNameLookupRecordInput :=
  (answer.nameLookup sessionId profileSha256 intent.observedAt lookupId startedAt
    completedAt).recordInput intent sessionId targetFingerprint

/-- The lookup brings no answer: the client fails, or not in time. -/
def fails (answer : NameLookupAnswer) (sessionId : String) (notBefore : ℕ) : Bool :=
  match answer with
  | .timedOut => true
  | .answered cluster => !(findByName sessionId notBefore cluster).isOk

/-- The clock of the record. -/
def clock (answer : NameLookupAnswer) (sessionId : String) (notBefore startedAt completedAt : ℕ) :
    ℕ × ℕ :=
  match answer with
  | .timedOut => (startedAt, completedAt)
  | .answered cluster =>
      if (findByName sessionId notBefore cluster).isOk then
        (cluster.queryStartedAt, cluster.queryCompletedAt)
      else (startedAt, completedAt)

/-- The job of an exact match. -/
def exactJob (answer : NameLookupAnswer) (sessionId : String) (notBefore : ℕ) : Option NamedJob :=
  match answer with
  | .timedOut => none
  | .answered cluster =>
      match findByName sessionId notBefore cluster with
      | .ok lookup =>
          match lookup.jobs with
          | [job] => some job
          | _ => none
      | .error _ => none

end NameLookupAnswer

/-! ### Acceptance -/

/-- The database stores no NUL character in a text. -/
def storableText (text : String) : Bool := text.toList.all fun c => c.toNat != 0

namespace Store

/-- The columns of the observation and of the row take the texts of the lookup: `raw_state` is a
`VARCHAR(128)` and a job id that is written a `VARCHAR(512)`. -/
def lookupFits (s : Store) (input : SlurmNameLookupRecordInput) : Bool :=
  decide (input.outcome.rawState.length ≤ 128) && storableText input.outcome.rawState &&
    input.outcome.reason.all storableText &&
    (s.row.schedulerJobId.isSome ||
      (s.lookupRow input.outcome).schedulerJobId.all fun id => decide (id.length ≤ 512))

/-- `record_slurm_name_lookup` accepts the record, and the database stores it. -/
def acceptsLookup (s : Store) (input : SlurmNameLookupRecordInput) : Bool :=
  (s.recordSlurmNameLookup input).isOk && s.lookupFits input

/-- The texts of an exact match fit their columns. -/
def jobFits (s : Store) (job : NamedJob) : Bool :=
  decide (job.rawState.length ≤ 128) && storableText job.rawState && job.reason.all storableText &&
    (s.row.schedulerJobId.isSome || !(s.lookupMayMutate || s.row.submissionAbandonedAt.isSome) ||
      decide (job.externalJobId.length ≤ 512))

/-- What the record and the store have to agree on: the submission is still the one that was read,
its identity is complete, the clock has not gone back, a failed lookup finds the intent at a whole
second, and the texts of an exact match fit. -/
structure EvidenceMatches (s : Store) (answer : NameLookupAnswer)
    (intent : ExecutionObservationRow) (sessionId profileSha256 targetFingerprint : String)
    (startedAt completedAt : ℕ) : Prop where
  identified : ¬isBlank sessionId ∧ ¬isBlank profileSha256 ∧ ¬isBlank targetFingerprint
  stands : s.row.schedulerName = some "slurm" ∧ s.row.daliugeSessionId = some sessionId ∧
    s.latestSubmissionIntentObservation = some intent
  pinned : ∀ value, s.row.deploymentProfileSpecSha256 = some value → value = profileSha256
  forward : (answer.clock sessionId intent.observedAt startedAt completedAt).1 ≤
    (answer.clock sessionId intent.observedAt startedAt completedAt).2
  wholeSecond : answer.fails sessionId intent.observedAt → intent.observedAt % 1000000 = 0
  texts : ∀ job, answer.exactJob sessionId intent.observedAt = some job → s.jobFits job

end Store

/-! ### What the client finds -/

/-- A job that is found on a line has a job id of digits. -/
theorem parseNamedJob_digits {expectedName source : String} {lineNumber : ℕ} {line : List Char}
    {job : NamedJob} (h : parseNamedJob expectedName source lineNumber line = .ok (some job)) :
    isAsciiDigits job.externalJobId := by
  unfold parseNamedJob at h
  simp only at h
  split at h
  · cases h
  split at h
  · split at h
    · cases h
    split at h
    · cases h
    split at h
    · cases h
    next hdigits =>
      split at h
      · cases h
      · cases h
        exact not_not.mp hdigits
  · cases h

/-- **A job that is found has a job id of digits.** -/
theorem parseNamedJobs_digits {output expectedName source : String} {jobs : List NamedJob}
    (h : parseNamedJobs output expectedName source = .ok jobs) {job : NamedJob}
    (hjob : job ∈ jobs) : isAsciiDigits job.externalJobId := by
  unfold parseNamedJobs at h
  cases hlines : (output.toList.splitOnP fun c => c.toNat == 10).zipIdx.mapM fun line =>
      parseNamedJob expectedName source (line.2 + 1) line.1 with
  | error error =>
      rw [hlines] at h
      cases h
  | ok parsed =>
      rw [hlines] at h
      cases h
      obtain ⟨found, hfound, hsome⟩ := List.mem_filterMap.mp hjob
      obtain ⟨line, -, hline⟩ := (exceptMapM_ok hlines).2 found hfound
      simp only [id_eq] at hsome
      rw [hsome] at hline
      exact parseNamedJob_digits hline

theorem mem_insertNamedJob {job other : NamedJob} {jobs : List NamedJob}
    (h : other ∈ insertNamedJob job jobs) : other = job ∨ other ∈ jobs := by
  induction jobs with
  | nil => exact .inl (List.mem_singleton.mp h)
  | cons head rest ih =>
      unfold insertNamedJob at h
      split at h
      · exact List.mem_cons.mp h
      split at h
      · rcases List.mem_cons.mp h with heq | hrest
        · exact .inl heq
        · exact .inr (List.mem_cons_of_mem head hrest)
      · rcases List.mem_cons.mp h with rfl | hrest
        · exact .inr List.mem_cons_self
        · rcases ih hrest with heq | hmem
          · exact .inl heq
          · exact .inr (List.mem_cons_of_mem head hmem)

/-- The merged jobs come from the two queries. -/
theorem mem_mergeNamedJobs {squeue sacct : List NamedJob} {job : NamedJob}
    (h : job ∈ mergeNamedJobs squeue sacct) : job ∈ sacct ++ squeue := by
  have hfold : ∀ (jobs found : List NamedJob),
      job ∈ jobs.foldl (fun found job => insertNamedJob job found) found →
        job ∈ found ∨ job ∈ jobs := by
    intro jobs
    induction jobs with
    | nil => exact fun found h => .inl h
    | cons head rest ih =>
        intro found h
        rcases ih _ h with hmem | hrest
        · rcases mem_insertNamedJob hmem with rfl | hfound
          · exact .inr List.mem_cons_self
          · exact .inl hfound
        · exact .inr (List.mem_cons_of_mem head hrest)
  rcases hfold _ _ h with hnil | hmem
  · cases hnil
  · exact hmem

/-- What a lookup that succeeds has found. -/
theorem findByName_ok {jobName : String} {notBefore : ℕ} {cluster : SlurmOutputs}
    {lookup : SchedulerNameLookup} (h : findByName jobName notBefore cluster = .ok lookup) :
    lookup.accountingNotBefore = wholeSeconds notBefore ∧
      lookup.queryStartedAt = cluster.queryStartedAt ∧
      lookup.queryCompletedAt = cluster.queryCompletedAt ∧
      ∀ job ∈ lookup.jobs, isAsciiDigits job.externalJobId := by
  unfold findByName at h
  split at h
  · cases h
  split at h
  · cases h
  split at h
  next squeue sacct hsqueue hsacct =>
    cases h
    refine ⟨rfl, rfl, rfl, fun job hjob => ?_⟩
    rcases List.mem_append.mp (mem_mergeNamedJobs hjob) with hmem | hmem
    · exact parseNamedJobs_digits hsacct hmem
    · exact parseNamedJobs_digits hsqueue hmem
  · cases h

/-- The errors of a lookup by name, whatever the text behind them. -/
def nameLookupErrors : List SchedulerAdapterError :=
  [.configuration "job_name" "scheduler job name contains unsupported characters",
    ⟨"find_by_name", .hostVerification, "SSH host verification failed", false⟩,
    ⟨"find_by_name", .authentication, "scheduler authentication failed", false⟩,
    ⟨"find_by_name", .timeout, "scheduler operation timed out", true⟩,
    ⟨"find_by_name", .connectivity, "scheduler connection failed", true⟩,
    ⟨"find_by_name", .command, "scheduler command failed", false⟩,
    ⟨"find_by_name", .internal, "scheduler operation failed", false⟩,
    .invalidResponse "find_by_name"]

/-- A lookup that fails has one of these errors. -/
theorem findByName_error {jobName : String} {notBefore : ℕ} {cluster : SlurmOutputs}
    {error : SchedulerAdapterError} (h : findByName jobName notBefore cluster = .error error) :
    error ∈ nameLookupErrors := by
  have hbackend : ∀ text, SchedulerAdapterError.backend "find_by_name" text ∈ nameLookupErrors := by
    intro text
    unfold SchedulerAdapterError.backend
    generalize toAsciiLowercase (SchedulerAdapterError.boundedDetail text) = lower
    simp only
    split
    · exact List.mem_of_getElem? (i := 1) rfl
    split
    · exact List.mem_of_getElem? (i := 2) rfl
    split
    · exact List.mem_of_getElem? (i := 3) rfl
    split
    · exact List.mem_of_getElem? (i := 4) rfl
    split
    · exact List.mem_of_getElem? (i := 5) rfl
    · exact List.mem_of_getElem? (i := 6) rfl
  unfold findByName at h
  split at h
  · cases h
    exact List.mem_cons_self
  split at h
  · rw [← Except.error.inj h]
    exact hbackend _
  split at h
  · cases h
  · rw [← Except.error.inj h]
    exact List.mem_of_getElem? (i := 7) rfl

/-! ### The texts of the record -/

/-- Redaction brings in no other characters than those of its own mark. -/
theorem forall_mem_redactAfterMarker {P : Char → Prop} (hmark : ∀ c ∈ "[REDACTED]".toList, P c)
    {marker chars : List Char} {fuel : ℕ} (h : ∀ c ∈ chars, P c) :
    ∀ c ∈ redactAfterMarker marker fuel chars, P c := by
  induction fuel generalizing chars with
  | zero => exact h
  | succ fuel ih =>
      cases chars with
      | nil => exact h
      | cons head rest =>
          unfold redactAfterMarker
          split
          · intro c hc
            rw [List.mem_append, List.mem_append] at hc
            rcases hc with (hkept | hmarked) | hlater
            · exact h c (List.mem_of_mem_take hkept)
            · exact hmark c hmarked
            · refine ih (fun c hc => h c ?_) c hlater
              exact List.mem_of_mem_drop ((List.dropWhile_sublist _).mem hc)
          · intro c hc
            rcases List.mem_cons.mp hc with rfl | hlater
            · exact h c List.mem_cons_self
            · exact ih (fun c hc => h c (List.mem_cons_of_mem head hc)) c hlater

/-- A text that can be stored can be stored redacted. -/
theorem storableText_redactString {text : String} (h : storableText text) :
    storableText (redactString text) := by
  have hmark : ∀ c ∈ "[REDACTED]".toList, (c.toNat != 0) = true :=
    List.all_eq_true.mp (by decide +kernel)
  have hfold : ∀ (markers : List String) (chars : List Char),
      (∀ c ∈ chars, (c.toNat != 0) = true) →
        ∀ c ∈ markers.foldl (fun chars marker =>
          redactAfterMarker marker.toList chars.length chars) chars, (c.toNat != 0) = true := by
    intro markers
    induction markers with
    | nil => exact fun chars h => h
    | cons marker rest ih => exact fun chars h => ih _ (forall_mem_redactAfterMarker hmark h)
  unfold storableText redactString at *
  rw [String.toList_ofList, List.all_eq_true]
  exact hfold _ _ (List.all_eq_true.mp h)

/-- The texts of a failed lookup fit their columns. -/
theorem texts_of_error {error : SchedulerAdapterError} (h : error ∈ nameLookupErrors) :
    ("scheduler_" ++ error.kind.code).length ≤ 128 ∧
      storableText ("scheduler_" ++ error.kind.code) ∧ storableText (redactString error.text) := by
  have hall : ∀ error ∈ nameLookupErrors, ("scheduler_" ++ error.kind.code).length ≤ 128 ∧
      storableText ("scheduler_" ++ error.kind.code) ∧ storableText error.text := by
    decide +kernel
  obtain ⟨hlength, hcode, htext⟩ := hall error h
  exact ⟨hlength, hcode, storableText_redactString htext⟩

/-- A character of joined texts comes from the separator or from one of them. -/
theorem mem_intercalate {separator : List Char} {texts : List (List Char)} {c : Char}
    (h : c ∈ separator.intercalate texts) : c ∈ separator ∨ ∃ text ∈ texts, c ∈ text := by
  induction texts with
  | nil => cases h
  | cons text rest ih =>
      cases rest with
      | nil =>
          rw [List.intercalate_singleton] at h
          exact .inr ⟨text, List.mem_cons_self, h⟩
      | cons next rest =>
          rw [List.intercalate_cons_cons, List.append_assoc, List.mem_append, List.mem_append] at h
          rcases h with htext | hseparator | hrest
          · exact .inr ⟨text, List.mem_cons_self, htext⟩
          · exact .inl hseparator
          · rcases ih hrest with hseparator | ⟨other, hother, hc⟩
            · exact .inl hseparator
            · exact .inr ⟨other, List.mem_cons_of_mem text hother, hc⟩

/-- Texts of digits, put together, are stored. -/
theorem storableText_ambiguous {ids : List String} (h : ∀ id ∈ ids, isAsciiDigits id) :
    storableText ("multiple scheduler jobs match the exact DALiuGE session name: "
      ++ String.intercalate ", " ids) := by
  unfold storableText
  rw [String.toList_append, List.all_append, Bool.and_eq_true]
  refine ⟨by decide, ?_⟩
  rw [String.toList_intercalate, List.all_eq_true]
  intro c hc
  rcases mem_intercalate hc with hseparator | ⟨text, htext, hmem⟩
  · have hall : (", ").toList.all (fun c => c.toNat != 0) := by decide
    exact List.all_eq_true.mp hall c hseparator
  · obtain ⟨id, hid, rfl⟩ := List.mem_map.mp htext
    have hdigits := h id hid
    simp only [isAsciiDigits, Bool.and_eq_true, List.all_eq_true] at hdigits
    have hdigit := hdigits.2 c hmem
    simp only [isAsciiDigit, Bool.and_eq_true, decide_eq_true_eq] at hdigit
    have hzero : ('0' : Char).toNat ≤ c.toNat := hdigit.1
    have hpositive : 0 < ('0' : Char).toNat := by decide
    rw [bne_iff_ne]
    omega

/-! ### What the repository checks -/

/-- The record is well formed: its identity is complete, its clock has not gone back, and an exact
match has a job id of digits. -/
theorem NameLookup.recordInput_error_iff (lookup : NameLookup) (intent : ExecutionObservationRow)
    (sessionId targetFingerprint : String) :
    (lookup.recordInput intent sessionId targetFingerprint).error = none ↔
      (¬isBlank sessionId ∧ ¬isBlank lookup.profileSha256 ∧ ¬isBlank targetFingerprint) ∧
        lookup.queryStartedAt ≤ lookup.queryCompletedAt ∧
        ∀ id state rawState reason source,
          lookup.outcome = .exact id state rawState reason source → isAsciiDigits id := by
  unfold SlurmNameLookupRecordInput.error recordInput
  simp only
  split
  next hblank =>
    constructor
    · intro h
      cases h
    · rintro ⟨⟨hsession, hprofile, htarget⟩, -⟩
      rcases hblank with h | h | h
      · exact absurd h hsession
      · exact absurd h hprofile
      · exact absurd h htarget
  next hblank =>
    simp only [not_or] at hblank
    split
    next hback =>
      constructor
      · intro h
        cases h
      · rintro ⟨-, hforward, -⟩
        omega
    next hback =>
      have hforward : lookup.queryStartedAt ≤ lookup.queryCompletedAt := by omega
      cases houtcome : lookup.outcome with
      | exact id state rawState reason source =>
          simp only
          split
          next hdigits =>
            refine ⟨fun _ => ⟨hblank, hforward, ?_⟩, fun _ => rfl⟩
            rintro _ _ _ _ _ ⟨⟩
            exact hdigits
          next hdigits =>
            constructor
            · intro h
              cases h
            · rintro ⟨-, -, hexact⟩
              exact absurd (hexact _ _ _ _ _ rfl) hdigits
      | _ =>
          refine ⟨fun _ => ⟨hblank, hforward, ?_⟩, fun _ => rfl⟩
          rintro _ _ _ _ _ ⟨⟩

/-- The record is bound to the submission: the row is still the Slurm submission of the session
under its pinned profile, the intent is still the latest one, and the time is that of the intent in
whole seconds. -/
theorem NameLookup.recordInput_binding_iff {s : Store} (lookup : NameLookup)
    {intent : ExecutionObservationRow} {sessionId targetFingerprint : String}
    (hread : ∀ observation ∈ s.observations, observation.uuid = intent.uuid → observation = intent)
    (htarget : (((intent.payload.get "target_fingerprint").bind Json.asStr).filter
      fun value => !value.isEmpty) = some targetFingerprint) :
    s.lookupBindingError (lookup.recordInput intent sessionId targetFingerprint) = none ↔
      (s.row.schedulerName = some "slurm" ∧ s.row.daliugeSessionId = some sessionId ∧
          s.latestSubmissionIntentObservation = some intent) ∧
        (∀ value, s.row.deploymentProfileSpecSha256 = some value → value = lookup.profileSha256) ∧
        (lookup.recordInput intent sessionId targetFingerprint).accountingNotBefore =
          wholeSeconds intent.observedAt := by
  set input := lookup.recordInput intent sessionId targetFingerprint with hinput
  have hpinned : s.row.deploymentProfileSpecSha256.any (· != lookup.profileSha256) = false ↔
      ∀ value, s.row.deploymentProfileSpecSha256 = some value → value = lookup.profileSha256 := by
    cases s.row.deploymentProfileSpecSha256 <;> simp
  have hprofile : input.profileSha256 = lookup.profileSha256 := rfl
  have hsession : input.daliugeSessionId = sessionId := rfl
  have huuid : input.intentObservationId = intent.uuid := rfl
  have hfingerprint : input.targetFingerprint = targetFingerprint := rfl
  unfold Store.lookupBindingError
  rw [hprofile, hsession, huuid, hfingerprint, ← hpinned]
  split
  next hrow =>
    constructor
    · intro h
      cases h
    · rintro ⟨⟨hname, hid, -⟩, -⟩
      rcases hrow with h | h
      · exact absurd hname h
      · exact absurd hid h
  next hrow =>
    simp only [not_or, not_not] at hrow
    split
    next hother =>
      constructor
      · intro h
        cases h
      · rintro ⟨-, hpin, -⟩
        rw [hother] at hpin
        cases hpin
    next hpin =>
      rw [Bool.not_eq_true] at hpin
      cases hlatest : s.latestSubmissionIntentObservation with
      | none => simp
      | some latest =>
          simp only [Option.some.injEq]
          constructor
          · intro h
            split at h
            · cases h
            next hbound =>
              simp only [not_or, not_not] at hbound
              have hmem : latest ∈ s.observations :=
                (List.mem_filter.mp (firstInOrder_mem hlatest)).1
              have hsame := hread latest hmem hbound.1
              rw [hsame] at hbound
              exact ⟨⟨hrow.1, hrow.2, hsame⟩, hpin, hbound.2.1⟩
          · rintro ⟨⟨-, -, rfl⟩, -, htime⟩
            rw [if_neg]
            simp only [not_or, not_not]
            exact ⟨trivial, htime, htarget⟩

/-! ### The record against the answer -/

namespace NameLookupAnswer

variable (answer : NameLookupAnswer) (sessionId profileSha256 : String) (notBefore : ℕ)
  (lookupId : Uuid) (startedAt completedAt : ℕ)

/-- The lookup fails with texts that fit, or it brings what the client has found. -/
theorem nameLookup_cases :
    (answer.fails sessionId notBefore = true ∧ answer.exactJob sessionId notBefore = none ∧
        answer.clock sessionId notBefore startedAt completedAt = (startedAt, completedAt) ∧
        ∃ code message retryable,
          (code.length ≤ 128 ∧ storableText code ∧ storableText message) ∧
            answer.nameLookup sessionId profileSha256 notBefore lookupId startedAt completedAt =
              ⟨profileSha256, notBefore, startedAt, completedAt, false, false, lookupId,
                .error code message retryable⟩) ∨
      ∃ cluster found, answer = .answered cluster ∧
        findByName sessionId notBefore cluster = .ok found := by
  have hlate : ("find_by_name_timeout").length ≤ 128 ∧ storableText "find_by_name_timeout" ∧
      storableText
        "Slurm submission reconciliation exceeded the 60 second wall-clock limit" := by
    decide +kernel
  cases answer with
  | timedOut => exact .inl ⟨rfl, rfl, rfl, _, _, _, hlate, rfl⟩
  | answered cluster =>
      cases hfind : findByName sessionId notBefore cluster with
      | ok found => exact .inr ⟨cluster, found, rfl, hfind⟩
      | error error =>
          refine .inl ⟨?_, ?_, ?_, _, _, error.retryable,
            texts_of_error (findByName_error hfind), ?_⟩
          · simp only [fails, hfind]
            rfl
          · simp only [exactJob, hfind]
          · simp [clock, hfind, Except.isOk, Except.toBool]
          · simp only [nameLookup, hfind]

/-- The outcome of the jobs that were found, and what fits their columns. -/
theorem outcome_cases (s : Store) {found : SchedulerNameLookup}
    (hdigits : ∀ job ∈ found.jobs, isAsciiDigits job.externalJobId) :
    (∃ job, found.jobs = [job] ∧
        found.outcome = .exact job.externalJobId job.state job.rawState job.reason job.source) ∨
      (∀ job, found.jobs ≠ [job]) ∧ (∀ id state rawState reason source,
          found.outcome ≠ .exact id state rawState reason source) ∧
        found.outcome.rawState.length ≤ 128 ∧ storableText found.outcome.rawState ∧
        found.outcome.reason.all storableText ∧
        (s.lookupRow found.outcome).schedulerJobId = s.row.schedulerJobId := by
  unfold SchedulerNameLookup.outcome
  split
  next hnil =>
    refine .inr ⟨by simp [hnil], by simp, by decide, by decide, by decide +kernel, ?_⟩
    simp only [Store.lookupRow]
    split <;> rfl
  next job hone => exact .inl ⟨job, hone, rfl⟩
  next jobs hnil hmany =>
    have hraw : ("ambiguous_name_match").length ≤ 128 ∧ storableText "ambiguous_name_match" := by
      decide
    refine .inr ⟨hmany, by simp, hraw.1, hraw.2, ?_, ?_⟩
    · refine storableText_ambiguous fun id hid => ?_
      obtain ⟨job, hjob, rfl⟩ := List.mem_map.mp hid
      exact hdigits job hjob
    · simp only [Store.lookupRow]
      split <;> rfl

end NameLookupAnswer

/-- What was found fits exactly when the texts of an exact match do. -/
theorem Store.lookupFits_iff (s : Store) {found : SchedulerNameLookup}
    (hdigits : ∀ job ∈ found.jobs, isAsciiDigits job.externalJobId)
    {input : SlurmNameLookupRecordInput} (houtcome : input.outcome = found.outcome) :
    s.lookupFits input ↔ ∀ job, found.jobs = [job] → s.jobFits job := by
  unfold lookupFits
  rw [houtcome]
  rcases NameLookupAnswer.outcome_cases s hdigits with
    ⟨job, hone, hjob⟩ | ⟨hnone, -, hlength, hraw, hreason, hkept⟩
  · have hrow : (s.row.schedulerJobId.isSome ||
        (s.lookupRow found.outcome).schedulerJobId.all fun id => decide (id.length ≤ 512)) =
          (s.row.schedulerJobId.isSome ||
            !(s.lookupMayMutate || s.row.submissionAbandonedAt.isSome) ||
            decide (job.externalJobId.length ≤ 512)) := by
      cases hid : s.row.schedulerJobId with
      | some id => rfl
      | none =>
          -- the job id is written when the submission is unresolved or given up
          cases hmutate : s.lookupMayMutate || s.row.submissionAbandonedAt.isSome <;>
            simp_all [lookupRow]
    simp only [hone, List.cons.injEq, and_true, forall_eq']
    rw [hrow, hjob]
    rfl
  · have hrow : (s.row.schedulerJobId.isSome ||
        (s.lookupRow found.outcome).schedulerJobId.all fun id => decide (id.length ≤ 512)) := by
      rw [hkept]
      cases s.row.schedulerJobId <;> rfl
    simp [hlength, hraw, hreason, hrow, hnone]

/-- A time is its own whole second. -/
theorem eq_wholeSeconds_iff (time : ℕ) : time = wholeSeconds time ↔ time % 1000000 = 0 := by
  unfold wholeSeconds
  omega

/-- A record is taken when it is well formed and bound to the submission. -/
theorem Store.recordSlurmNameLookup_isOk_iff (s : Store) (input : SlurmNameLookupRecordInput) :
    (s.recordSlurmNameLookup input).isOk ↔
      input.error = none ∧ s.lookupBindingError input = none := by
  unfold recordSlurmNameLookup
  cases input.error with
  | some error => simp [Except.isOk, Except.toBool]
  | none =>
      cases s.lookupBindingError input with
      | some error => simp [Except.isOk, Except.toBool]
      | none => simp [Except.isOk, Except.toBool]

/-- **When the evidence of a lookup is accepted.** -/
theorem lookup_accepted_iff {s : Store} {intent : ExecutionObservationRow}
    {targetFingerprint : String}
    (hread : ∀ observation ∈ s.observations, observation.uuid = intent.uuid → observation = intent)
    (htarget : (((intent.payload.get "target_fingerprint").bind Json.asStr).filter
      fun value => !value.isEmpty) = some targetFingerprint)
    (answer : NameLookupAnswer) (sessionId profileSha256 : String) (lookupId : Uuid)
    (startedAt completedAt : ℕ) :
    s.acceptsLookup (answer.evidence intent sessionId profileSha256 targetFingerprint lookupId
        startedAt completedAt) ↔
      s.EvidenceMatches answer intent sessionId profileSha256 targetFingerprint startedAt
        completedAt := by
  unfold Store.acceptsLookup NameLookupAnswer.evidence
  rw [Bool.and_eq_true, Store.recordSlurmNameLookup_isOk_iff, NameLookup.recordInput_error_iff,
    NameLookup.recordInput_binding_iff _ hread htarget]
  rcases answer.nameLookup_cases sessionId profileSha256 intent.observedAt lookupId startedAt
      completedAt with
    ⟨hfails, hjob, hclock, code, message, retryable, hfit, hlookup⟩ | ⟨cluster, found, rfl, hfind⟩
  · -- a failed lookup carries the time of the intent itself
    rw [hlookup]
    have htime := eq_wholeSeconds_iff intent.observedAt
    have hfits : s.lookupFits (NameLookup.recordInput
        ⟨profileSha256, intent.observedAt, startedAt, completedAt, false, false, lookupId,
          .error code message retryable⟩ intent sessionId targetFingerprint) := by
      cases hid : s.row.schedulerJobId <;>
        simp [Store.lookupFits, NameLookup.recordInput, SlurmNameLookupOutcome.rawState,
          SlurmNameLookupOutcome.reason, Store.lookupRow, hfit, hid]
    constructor
    · rintro ⟨⟨⟨hidentified, hforward, -⟩, hstands, hpinned, hsame⟩, -⟩
      refine ⟨hidentified, hstands, hpinned, ?_, fun _ => htime.mp hsame, ?_⟩
      · rw [hclock]
        exact hforward
      · rw [hjob]
        rintro job ⟨⟩
    · intro h
      have hforward := h.forward
      rw [hclock] at hforward
      refine ⟨⟨⟨h.identified, hforward, ?_⟩, h.stands, h.pinned,
        htime.mpr (h.wholeSecond hfails)⟩, hfits⟩
      rintro id state rawState reason source ⟨⟩
  · obtain ⟨htime, hstarted, hcompleted, hdigits⟩ := findByName_ok hfind
    have hlookup : NameLookupAnswer.nameLookup (.answered cluster) sessionId profileSha256
        intent.observedAt lookupId startedAt completedAt =
          ⟨profileSha256, found.accountingNotBefore, found.queryStartedAt, found.queryCompletedAt,
            found.squeueCompleted, found.sacctCompleted, lookupId, found.outcome⟩ := by
      simp only [NameLookupAnswer.nameLookup, hfind]
    have hclock : NameLookupAnswer.clock (.answered cluster) sessionId intent.observedAt startedAt
        completedAt = (found.queryStartedAt, found.queryCompletedAt) := by
      simp [NameLookupAnswer.clock, hfind, Except.isOk, Except.toBool, hstarted, hcompleted]
    have hfails :
        NameLookupAnswer.fails (.answered cluster) sessionId intent.observedAt = false := by
      simp [NameLookupAnswer.fails, hfind, Except.isOk, Except.toBool]
    have hjob : ∀ job, NameLookupAnswer.exactJob (.answered cluster) sessionId
        intent.observedAt = some job ↔ found.jobs = [job] := by
      intro job
      simp only [NameLookupAnswer.exactJob, hfind]
      match found.jobs with
      | [] => simp
      | [_] => simp
      | _ :: _ :: _ => simp
    rw [hlookup]
    have haccounting : (NameLookup.recordInput
        ⟨profileSha256, found.accountingNotBefore, found.queryStartedAt, found.queryCompletedAt,
          found.squeueCompleted, found.sacctCompleted, lookupId, found.outcome⟩ intent sessionId
            targetFingerprint).accountingNotBefore = wholeSeconds intent.observedAt := by
      unfold NameLookup.recordInput SchedulerNameLookup.outcome
      rw [← htime]
      match found.jobs with
      | [] => rfl
      | [_] => rfl
      | _ :: _ :: _ => rfl
    have hexact : ∀ id state rawState reason source,
        found.outcome = .exact id state rawState reason source → isAsciiDigits id := by
      intro id state rawState reason source houtcome
      rcases NameLookupAnswer.outcome_cases s hdigits with ⟨job, hone, hjob'⟩ | ⟨-, hnot, -⟩
      · rw [hjob'] at houtcome
        cases houtcome
        exact hdigits job (by rw [hone]; exact List.mem_singleton_self job)
      · exact absurd houtcome (hnot id state rawState reason source)
    have hfits : s.lookupFits (NameLookup.recordInput
        ⟨profileSha256, found.accountingNotBefore, found.queryStartedAt, found.queryCompletedAt,
          found.squeueCompleted, found.sacctCompleted, lookupId, found.outcome⟩ intent sessionId
            targetFingerprint) ↔
        ∀ job, NameLookupAnswer.exactJob (.answered cluster) sessionId intent.observedAt =
          some job → s.jobFits job := by
      rw [s.lookupFits_iff hdigits rfl]
      exact forall_congr' fun job => imp_congr_left (hjob job).symm
    constructor
    · rintro ⟨⟨⟨hidentified, hforward, -⟩, hstands, hpinned, -⟩, htexts⟩
      refine ⟨hidentified, hstands, hpinned, ?_, ?_, hfits.mp htexts⟩
      · rw [hclock]
        exact hforward
      · rw [hfails]
        intro h
        cases h
    · intro h
      have hforward := h.forward
      rw [hclock] at hforward
      exact ⟨⟨⟨h.identified, hforward, hexact⟩, h.stands, h.pinned, haccounting⟩,
        hfits.mpr h.texts⟩

/-! ### A lookup that is not answered in time -/

/-- The intent of the sample submission, recorded at the time. -/
def intentAt (time : ℕ) : ExecutionObservationRow :=
  (Store.intentObservation ⟨"slurm", "session-1", none, 300, some "target"⟩ 300).row 8 time

/-- The sample submission with this intent. -/
def submittedAt (time : ℕ) : Store := { submittingStore with observations := [intentAt time] }

/-- The queue shows the job of the session, and accounting nothing yet. -/
def queuedAnswer : NameLookupAnswer :=
  .answered ⟨.ok ("42|session-1|RUNNING|None\n43|other|PENDING|Priority\n", ""), 3000000, 4000000⟩

/-- A job that is found is accepted at any time within a second. -/
theorem lookup_accepted_queued :
    (submittedAt 1500000).acceptsLookup
      (queuedAnswer.evidence (intentAt 1500000) "session-1" "sha" "target" 9 2000000 5000000) :=
  (lookup_accepted_iff (by simp [submittedAt]) (by decide) _ _ _ _ _ _).mpr
    { identified := by decide
      stands := by decide +kernel
      pinned := by
        rintro _ ⟨⟩
        rfl
      forward := by decide +kernel
      wholeSecond := by decide +kernel
      texts := by
        have hjob : queuedAnswer.exactJob "session-1" (intentAt 1500000).observedAt =
            some ⟨"42", .running, "RUNNING", none, "squeue"⟩ := by decide +kernel
        rw [hjob]
        rintro _ ⟨⟩
        decide +kernel }

/-- A lookup that is not answered in time is refused: the intent was recorded half a second past a
whole one. -/
theorem timeout_refused :
    (submittedAt 1500000).slurmReconciliationPending = true ∧
      (submittedAt 1500000).acceptsLookup (NameLookupAnswer.timedOut.evidence (intentAt 1500000)
        "session-1" "sha" "target" 9 2000000 62000000) = false := by
  decide +kernel

end Beampipe
