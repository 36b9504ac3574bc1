/-
The state of a Slurm job, as three readers take it.

A job is read from the live queue and from accounting by the batch poller, which first brings the
text of a state to one of seven tokens, and by the lookup by name, which recovers a submission
whose receipt was lost and reads the first word of the text as it stands.

Main definitions:

* `Beampipe.normalizeState` — the poller's token of a state text;
* `Beampipe.parseSqueueBatch`, `Beampipe.parseSacctBatch` — the poller's answers;
* `Beampipe.lookupState`, `Beampipe.sacctState`, `Beampipe.squeueState` — the state each reader
  assigns to a state text;
* `Beampipe.SpelledAlike` — the texts that the readers take alike.

Main results:

* `Beampipe.parseNamedJob_state`, `Beampipe.parseSacctBatch_state`,
  `Beampipe.parseSqueueBatch_state` — what the parsers report is one of the three states;
* `Beampipe.normalizeState_iff` — the token is the one of the highest rank;
* `Beampipe.scheduler_states_agree_iff` — **when the three readers agree.**
-/

import Mathlib.Data.List.TakeWhile
import Beampipe.LookupEvidence

set_option relaxedAutoImplicit false
set_option autoImplicit false

namespace Beampipe

/-! ### Upper case -/

/-- The upper case of a character.  Only the characters with an ASCII letter in their upper case
are listed; the others stand for themselves, which no comparison below can tell. -/
def upperChar (c : Char) : List Char :=
  match c.toNat with
  | 0xDF => ['S', 'S']
  | 0x131 => ['I']
  | 0x149 => ['ʼ', 'N']
  | 0x17F => ['S']
  | 0x1F0 => ['J', Char.ofNat 0x30C]
  | 0x1E96 => ['H', Char.ofNat 0x331]
  | 0x1E97 => ['T', Char.ofNat 0x308]
  | 0x1E98 => ['W', Char.ofNat 0x30A]
  | 0x1E99 => ['Y', Char.ofNat 0x30A]
  | 0x1E9A => ['A', 'ʾ']
  | 0xFB00 => ['F', 'F']
  | 0xFB01 => ['F', 'I']
  | 0xFB02 => ['F', 'L']
  | 0xFB03 => ['F', 'F', 'I']
  | 0xFB04 => ['F', 'F', 'L']
  | 0xFB05 => ['S', 'T']
  | 0xFB06 => ['S', 'T']
  | _ => [c.toUpper]

/-- `str::to_uppercase`. -/
def toUppercase (chars : List Char) : List Char := chars.flatMap upperChar

/-! ### The poller's tokens -/

/-- `state_rank`. -/
def stateRank : String → ℕ
  | "UNKNOWN" => 0
  | "PENDING" => 1
  | "RUNNING" => 2
  | "COMPLETED" => 3
  | "CANCELLED" => 4
  | "TIMEOUT" => 5
  | "FAILED" => 6
  | _ => 0

/-- `normalize_one_token`. -/
def normalizeOneToken (chars : List Char) : String :=
  let u := trimChars chars
  if u.isEmpty then "UNKNOWN"
  else if ("CANCELLED".toList).isPrefixOf u then "CANCELLED"
  else
    match String.ofList u with
    | "COMPLETED" => "COMPLETED"
    | "PENDING" => "PENDING"
    | "RUNNING" => "RUNNING"
    | "BOOT_FAIL" | "DEADLINE" | "FAILED" | "LAUNCH_FAILED" | "NODE_FAIL" | "OUT_OF_MEMORY"
    | "PREEMPTED" | "RECONFIG_FAIL" => "FAILED"
    | "TIMEOUT" => "TIMEOUT"
    | "CANCELLED" | "REVOKED" => "CANCELLED"
    | "COMPLETING" | "CONFIGURING" | "EXPEDITING" | "POWER_UP_NODE" | "REQUEUED"
    | "REQUEUE_FED" | "RESIZING" | "SIGNALING" | "STAGE_OUT" | "UPDATE_DB" => "RUNNING"
    | "RESV_DEL_HOLD" | "REQUEUE_HOLD" | "SPECIAL_EXIT" | "STOPPED" | "SUSPENDED" => "PENDING"
    | _ => "UNKNOWN"

/-- `max_by_key` under `state_rank`: the last of the highest tokens. -/
def highestState : List String → Option String
  | [] => none
  | token :: tokens =>
      match highestState tokens with
      | none => some token
      | some best => some (if stateRank best < stateRank token then token else best)

/-- `normalize_state`. -/
def normalizeState (raw : String) : String :=
  let raw := trimChars raw.toList
  if raw.isEmpty then "UNKNOWN"
  else
    let u := toUppercase raw
    let parts := ((u.splitOn '+').map trimChars).filter fun part => !part.isEmpty
    if u.contains '+' && 1 < parts.length then
      (highestState (parts.map normalizeOneToken)).getD "UNKNOWN"
    else normalizeOneToken (((firstWord u).map String.toList).getD u)

/-- `parse_sacct_exit_code`: the text before the first colon, as a 32-bit integer. -/
def parseSacctExitCode (raw : String) : Option ℤ :=
  let raw := trimChars raw.toList
  if raw.isEmpty then none
  else
    let head := trimChars (raw.takeWhile (· != ':'))
    let (sign, digits) : ℤ × List Char :=
      match head with
      | '-' :: digits => (-1, digits)
      | '+' :: digits => (1, digits)
      | digits => (1, digits)
    if isAsciiDigits (String.ofList digits) then
      let value := sign * (digits.foldl (fun n c => 10 * n + (c.toNat - 48)) 0 : ℕ)
      if -2147483648 ≤ value ∧ value ≤ 2147483647 then some value else none
    else none

/-! ### The poller's answers -/

/-- The poller's results by job id, `HashMap<String, SlurmJobPollResult>`. -/
abbrev PollResults : Type := String → Option SlurmJobPollResult

/-- The lines of an output, each cut at `|` into trimmed fields; blank lines are left out. -/
def outputRows (stdout : String) : List (List Char × List String) :=
  (((stdout.toList.splitOnP fun c => c.toNat == 10).map trimChars).filter
    fun line => !line.isEmpty).map fun line =>
      (line, (line.splitOn '|').map fun field => String.ofList (trimChars field))

/-- One row of `parse_squeue_rows` as it is reported; a row without a job id or a state is left
out. -/
def squeueRow : List String → Option (String × SlurmJobPollResult)
  | jobId :: state :: rest =>
      if jobId.isEmpty || state.isEmpty then none
      else
        some (jobId,
          { rawState := state
            state := .fromNormalized (normalizeState state)
            source := .squeue
            exitCode := none
            rawLine := some
              (match rest.head? with
              | some reason => if reason.isEmpty then state else state ++ "|" ++ reason
              | none => state) })
  | _ => none

/-- `parse_squeue_batch`: the last row of a job counts. -/
def parseSqueueBatch (stdout : String) : PollResults :=
  ((outputRows stdout).filterMap fun row => squeueRow row.2).foldl
    (fun results row => Function.update results row.1 (some row.2)) fun _ => none

/-- `sacct_base_job_id`. -/
def sacctBaseJobId (jobId : String) : String := String.ofList (jobId.toList.takeWhile (· != '.'))

/-- One row of `parse_sacct_batch`: the job id, the rank of the state and the candidate. -/
def sacctRow (line : List Char) (fields : List String) :
    Option (String × ℕ × SlurmJobPollResult) :=
  match fields with
  | [jobId, state] | [jobId, state, _] =>
      match firstWord state.toList with
      | none => none
      | some token =>
          if jobId.isEmpty then none
          else
            some (jobId, stateRank (normalizeState token),
              { rawState := token
                state := .fromNormalized (normalizeState token)
                source := .sacct
                exitCode := parseSacctExitCode ((fields.drop 2).headD "")
                rawLine := some (String.ofList line) })
  | _ => none

/-- `SacctJobRows`: the best rows of a job, with their ranks. -/
structure SacctJobRows where
  root : Option (ℕ × SlurmJobPollResult)
  steps : Option (ℕ × SlurmJobPollResult)

/-- A candidate takes a slot that is empty or holds a lower rank. -/
def offer (slot : Option (ℕ × SlurmJobPollResult)) (rank : ℕ) (candidate : SlurmJobPollResult) :
    Option (ℕ × SlurmJobPollResult) :=
  match slot with
  | none => some (rank, candidate)
  | some best => if best.1 < rank then some (rank, candidate) else some best

/-- A row of accounting is offered to the root or to the steps of its job. -/
def SacctJobRows.add (rows : SacctJobRows) (jobId : String) (rank : ℕ)
    (candidate : SlurmJobPollResult) : SacctJobRows :=
  if jobId = sacctBaseJobId jobId then { rows with root := offer rows.root rank candidate }
  else { rows with steps := offer rows.steps rank candidate }

/-- The rows of every job. -/
def sacctJobRows (stdout : String) : String → SacctJobRows :=
  ((outputRows stdout).filterMap fun row => sacctRow row.1 row.2).foldl
    (fun jobs row =>
      Function.update jobs (sacctBaseJobId row.1)
        ((jobs (sacctBaseJobId row.1)).add row.1 row.2.1 row.2.2))
    fun _ => ⟨none, none⟩

/-- `parse_sacct_batch`: the root row of a job, else the highest of its steps. -/
def parseSacctBatch (stdout : String) : PollResults := fun id =>
  let rows := sacctJobRows stdout id
  (rows.root.or rows.steps).map (·.2)

/-! ### The three readers -/

/-- The state a lookup by name assigns to a state text; a blank text is an error there. -/
def lookupState (raw : String) : Option SchedulerState :=
  (firstWord raw.toList).map SchedulerState.fromNormalized

/-- The state the poller assigns to a state text of accounting; a row with a blank one is left
out. -/
def sacctState (raw : String) : Option SchedulerState :=
  (firstWord raw.toList).map fun word => .fromNormalized (normalizeState word)

/-- The state the poller assigns to a state text of the queue. -/
def squeueState (raw : String) : Option SchedulerState :=
  if (trim raw).isEmpty then none else some (.fromNormalized (normalizeState (trim raw)))

/-! ### What the parsers report -/

/-- A job that the lookup finds has the state of its state field. -/
theorem parseNamedJob_state {expectedName source : String} {lineNumber : ℕ} {line : List Char}
    {job : NamedJob} (h : parseNamedJob expectedName source lineNumber line = .ok (some job)) :
    ∃ id name state reason, (trimChars line).splitOn '|' = [id, name, state, reason] ∧
      lookupState (String.ofList state) = some job.state := by
  unfold parseNamedJob at h
  simp only at h
  split at h
  · cases h
  split at h
  next id name state reason hfields =>
    refine ⟨id, name, state, reason, hfields, ?_⟩
    split at h
    · cases h
    split at h
    · cases h
    split at h
    · cases h
    split at h
    · cases h
    next word hword =>
      simp only [Except.ok.injEq, Option.some.injEq] at h
      simp only [← h, lookupState, String.toList_ofList, hword, Option.map_some]
  · cases h

/-- What a fold of updates leaves under a key was there or comes from an entry. -/
theorem foldl_update_cases {α : Type} (rows : List (String × α)) (init : String → Option α)
    {id : String} {value : α}
    (h : rows.foldl (fun (results : String → Option α) row =>
      Function.update results row.1 (some row.2)) init id = some value) :
    init id = some value ∨ (id, value) ∈ rows := by
  induction rows generalizing init with
  | nil => exact .inl h
  | cons row rows ih =>
      rcases ih _ h with hinit | hmem
      · by_cases hid : id = row.1
        · subst hid
          simp only [Function.update_self] at hinit
          cases hinit
          exact .inr List.mem_cons_self
        · simp only [Function.update_of_ne hid] at hinit
          exact .inl hinit
      · exact .inr (List.mem_cons_of_mem _ hmem)

/-- A result of the queue has the state of its row. -/
theorem parseSqueueBatch_state {stdout id : String} {result : SlurmJobPollResult}
    (h : parseSqueueBatch stdout id = some result) :
    ∃ row ∈ outputRows stdout, ∃ state ∈ row.2, squeueState state = some result.state := by
  rcases foldl_update_cases _ _ h with hinit | hmem
  · cases hinit
  obtain ⟨⟨line, fields⟩, hrow, hsqueue⟩ := List.mem_filterMap.mp hmem
  refine ⟨_, hrow, ?_⟩
  obtain ⟨raw, -, hraw⟩ := List.mem_map.mp hrow
  cases hraw
  unfold squeueRow at hsqueue
  split at hsqueue
  next jobId state rest hfields =>
    split at hsqueue
    · cases hsqueue
    next hfull =>
      have hcells : (List.splitOn '|' line).map (fun field => String.ofList (trimChars field)) =
          jobId :: state :: rest := hfields
      have hstate : state ∈
          (List.splitOn '|' line).map fun field => String.ofList (trimChars field) := by
        rw [hcells]
        exact List.mem_cons_of_mem _ List.mem_cons_self
      refine ⟨state, hstate, ?_⟩
      obtain ⟨field, -, rfl⟩ := List.mem_map.mp hstate
      simp only [Option.some.injEq, Prod.mk.injEq] at hsqueue
      have htrim : trim (String.ofList (trimChars field)) = String.ofList (trimChars field) := by
        rw [trim, String.toList_ofList, trimChars_trimChars]
      simp only [Bool.or_eq_true, not_or] at hfull
      rw [squeueState, htrim, if_neg hfull.2, ← hsqueue.2]
  · cases hsqueue

/-- The candidates of a job, of its root and of its steps. -/
def SacctJobRows.candidates (rows : SacctJobRows) : List SlurmJobPollResult :=
  (rows.root.toList ++ rows.steps.toList).map (·.2)

/-- Offering a row adds no other candidate. -/
theorem SacctJobRows.candidates_add {rows : SacctJobRows} {jobId : String} {rank : ℕ}
    {candidate result : SlurmJobPollResult}
    (h : result ∈ (rows.add jobId rank candidate).candidates) :
    result ∈ rows.candidates ∨ result = candidate := by
  have hoffer : ∀ slot : Option (ℕ × SlurmJobPollResult), ∀ entry,
      offer slot rank candidate = some entry → slot = some entry ∨ entry = (rank, candidate) := by
    intro slot entry hentry
    unfold offer at hentry
    split at hentry
    · cases hentry
      exact .inr rfl
    · split at hentry
      · cases hentry
        exact .inr rfl
      · exact .inl hentry
  obtain ⟨entry, hentry, rfl⟩ := List.mem_map.mp h
  unfold add at hentry
  split at hentry
  · rcases List.mem_append.mp hentry with hroot | hsteps
    · rcases hoffer _ _ (Option.mem_toList.mp hroot) with hold | rfl
      · exact .inl (List.mem_map_of_mem
          (List.mem_append_left _ (Option.mem_toList.mpr hold)))
      · exact .inr rfl
    · exact .inl (List.mem_map_of_mem (List.mem_append_right _ hsteps))
  · rcases List.mem_append.mp hentry with hroot | hsteps
    · exact .inl (List.mem_map_of_mem (List.mem_append_left _ hroot))
    · rcases hoffer _ _ (Option.mem_toList.mp hsteps) with hold | rfl
      · exact .inl (List.mem_map_of_mem
          (List.mem_append_right _ (Option.mem_toList.mpr hold)))
      · exact .inr rfl

/-- The candidates of a job come from rows of accounting. -/
theorem candidates_foldl (rows : List (String × ℕ × SlurmJobPollResult))
    (jobs : String → SacctJobRows) {id : String} {result : SlurmJobPollResult}
    (h : result ∈ (rows.foldl
      (fun jobs row =>
        Function.update jobs (sacctBaseJobId row.1)
          ((jobs (sacctBaseJobId row.1)).add row.1 row.2.1 row.2.2)) jobs id).candidates) :
    result ∈ (jobs id).candidates ∨ ∃ row ∈ rows, row.2.2 = result := by
  induction rows generalizing jobs with
  | nil => exact .inl h
  | cons row rows ih =>
      rcases ih _ h with hold | ⟨other, hmem, hother⟩
      · by_cases hid : id = sacctBaseJobId row.1
        · subst hid
          simp only [Function.update_self] at hold
          rcases SacctJobRows.candidates_add hold with hjob | rfl
          · exact .inl hjob
          · exact .inr ⟨row, List.mem_cons_self, rfl⟩
        · simp only [Function.update_of_ne hid] at hold
          exact .inl hold
      · exact .inr ⟨other, List.mem_cons_of_mem _ hmem, hother⟩

/-- A row of accounting has the state and the rank of the first word of its state text. -/
theorem sacctRow_eq_some {line : List Char} {fields : List String}
    {row : String × ℕ × SlurmJobPollResult} (h : sacctRow line fields = some row) :
    ∃ jobId state rest token, fields = jobId :: state :: rest ∧
      firstWord state.toList = some token ∧
      row.2.2.state = .fromNormalized (normalizeState token) ∧
      row.2.1 = stateRank (normalizeState token) := by
  -- rows with and without an exit code are read alike
  have hread : ∃ jobId state rest, fields = jobId :: state :: rest ∧
      ∃ token, firstWord state.toList = some token ∧
        row = (jobId, stateRank (normalizeState token),
          { rawState := token
            state := .fromNormalized (normalizeState token)
            source := .sacct
            exitCode := parseSacctExitCode (rest.headD "")
            rawLine := some (String.ofList line) }) := by
    unfold sacctRow at h
    split at h
    next jobId state =>
      refine ⟨jobId, state, [], rfl, ?_⟩
      split at h
      next => cases h
      next token htoken =>
        obtain ⟨-, hrow⟩ := Option.ite_none_left_eq_some.1 h
        exact ⟨token, htoken, (Option.some.inj hrow).symm⟩
    next jobId state exit =>
      refine ⟨jobId, state, [exit], rfl, ?_⟩
      split at h
      next => cases h
      next token htoken =>
        obtain ⟨-, hrow⟩ := Option.ite_none_left_eq_some.1 h
        exact ⟨token, htoken, (Option.some.inj hrow).symm⟩
    next => cases h
  obtain ⟨jobId, state, rest, hfields, token, htoken, hrow⟩ := hread
  exact ⟨jobId, state, rest, token, hfields, htoken, by rw [hrow], by rw [hrow]⟩

/-- A result of accounting has the state of its row. -/
theorem parseSacctBatch_state {stdout id : String} {result : SlurmJobPollResult}
    (h : parseSacctBatch stdout id = some result) :
    ∃ row ∈ outputRows stdout, ∃ state ∈ row.2, sacctState state = some result.state := by
  have hcandidate : result ∈ (sacctJobRows stdout id).candidates := by
    obtain ⟨entry, hentry, rfl⟩ := Option.map_eq_some_iff.mp h
    refine List.mem_map_of_mem (List.mem_append.mpr ?_)
    rcases Option.or_eq_some_iff.mp hentry with hroot | ⟨-, hsteps⟩
    · exact .inl (Option.mem_toList.mpr hroot)
    · exact .inr (Option.mem_toList.mpr hsteps)
  rcases candidates_foldl _ _ hcandidate with hnone | ⟨entry, hentry, rfl⟩
  · cases hnone
  obtain ⟨⟨line, fields⟩, hrow, hsacct⟩ := List.mem_filterMap.mp hentry
  refine ⟨_, hrow, ?_⟩
  obtain ⟨jobId, state, rest, token, rfl, htoken, hstate, -⟩ := sacctRow_eq_some hsacct
  refine ⟨state, by simp, ?_⟩
  rw [sacctState, htoken, Option.map_some, hstate]

/-! ### How states are spelled -/

/-- The words the poller takes for a state, in upper case. -/
def pollerSpellings : SchedulerState → List String
  | .pending =>
      ["PENDING", "RESV_DEL_HOLD", "REQUEUE_HOLD", "SPECIAL_EXIT", "STOPPED", "SUSPENDED"]
  | .running =>
      ["RUNNING", "COMPLETING", "CONFIGURING", "EXPEDITING", "POWER_UP_NODE", "REQUEUED",
        "REQUEUE_FED", "RESIZING", "SIGNALING", "STAGE_OUT", "UPDATE_DB"]
  | .succeeded => ["COMPLETED"]
  | .failed =>
      ["FAILED", "BOOT_FAIL", "DEADLINE", "LAUNCH_FAILED", "NODE_FAIL", "OUT_OF_MEMORY",
        "PREEMPTED", "RECONFIG_FAIL"]
  | .cancelled => ["REVOKED"]
  | .timedOut => ["TIMEOUT"]
  | .unknown | .notSubmitted => []

/-- A word the poller takes for the state; whatever follows `CANCELLED` is no matter to it. -/
def SpelledAs (token : List Char) (state : SchedulerState) : Prop :=
  String.ofList token ∈ pollerSpellings state ∨
    state = .cancelled ∧ "CANCELLED".toList <+: token

/-- The words that mean the same state to every reader, in upper case. -/
def plainSpellings : List (String × SchedulerState) :=
  [("PENDING", .pending), ("RUNNING", .running), ("COMPLETED", .succeeded), ("FAILED", .failed),
    ("CANCELLED", .cancelled), ("TIMEOUT", .timedOut)]

/-- The words only the lookup knows, in upper case. -/
def lookupOnlySpellings : List String := ["SUCCEEDED", "CANCELED", "TIMED_OUT", "NOT_SUBMITTED"]

/-- A word in ASCII upper case. -/
def upperWord (word : String) : String := String.ofList (word.toList.map Char.toUpper)

/-- The words the poller reads in a state text: the parts between plus signs when there are two of
them at least, else the first word. -/
def stateTokens (raw : String) : List (List Char) :=
  let raw := trimChars raw.toList
  if raw.isEmpty then []
  else
    let u := toUppercase raw
    let parts := ((u.splitOn '+').map trimChars).filter fun part => !part.isEmpty
    (if u.contains '+' && 1 < parts.length then parts
      else [((firstWord u).map String.toList).getD u]).map trimChars

/-- A state text that all readers take alike: its first word is one of the plain ones, and the
poller finds that state and none of a higher rank among its own words, or no reader knows any of
its words. -/
def SpelledAlike (raw : String) : Prop :=
  ∀ word, firstWord raw.toList = some word →
    (∃ state, (upperWord word, state) ∈ plainSpellings ∧
        (∃ token ∈ stateTokens raw, SpelledAs token state) ∧
        ∀ token ∈ stateTokens raw, ∀ other, SpelledAs token other →
          stateRank other.token ≤ stateRank state.token) ∨
      (∀ state, (upperWord word, state) ∉ plainSpellings) ∧
        upperWord word ∉ lookupOnlySpellings ∧
        ∀ token ∈ stateTokens word ++ stateTokens raw, ∀ state, ¬ SpelledAs token state

/-! ### The poller's token -/

theorem SchedulerState.fromNormalized_token (state : SchedulerState) :
    SchedulerState.fromNormalized state.token = state := by
  cases state <;> decide +kernel

theorem normalizeOneToken_trimChars (chars : List Char) :
    normalizeOneToken (trimChars chars) = normalizeOneToken chars := by
  unfold normalizeOneToken
  rw [trimChars_trimChars]

/-- A word that is spelled as a state has the token of the state. -/
theorem normalizeOneToken_of_spelledAs {token : List Char} {state : SchedulerState}
    (htrim : trimChars token = token) (h : SpelledAs token state) :
    normalizeOneToken token = state.token := by
  rcases h with hlisted | ⟨rfl, hprefix⟩
  · have hall : ∀ state, ∀ word ∈ pollerSpellings state,
        normalizeOneToken word.toList = SchedulerState.token state := by
      intro state
      cases state <;> decide +kernel
    have htoken := hall state _ hlisted
    rwa [String.toList_ofList] at htoken
  · unfold normalizeOneToken
    rw [htrim]
    simp only
    have hne : token.isEmpty = false := by
      cases token with
      | nil => simp at hprefix
      | cons c rest => rfl
    rw [if_neg (by simp [hne]), if_pos (List.isPrefixOf_iff_prefix.mpr hprefix)]
    rfl

/-- A word that is spelled as no state is unknown. -/
theorem normalizeOneToken_cases {token : List Char} (htrim : trimChars token = token) :
    normalizeOneToken token = "UNKNOWN" ∨ ∃ state, SpelledAs token state := by
  unfold normalizeOneToken
  rw [htrim]
  simp only
  split
  · exact .inl rfl
  split
  next hcancelled =>
    exact .inr ⟨.cancelled, .inr ⟨rfl, List.isPrefixOf_iff_prefix.mp hcancelled⟩⟩
  next hother =>
    split
    all_goals first
      | exact .inl rfl
      | (next hword => exact .inr ⟨.running, .inl (by rw [hword]; decide)⟩)
      | (next hword => exact .inr ⟨.failed, .inl (by rw [hword]; decide)⟩)
      | (next hword => exact .inr ⟨.pending, .inl (by rw [hword]; decide)⟩)
      | (next hword => exact .inr ⟨.succeeded, .inl (by rw [hword]; decide)⟩)
      | (next hword => exact .inr ⟨.timedOut, .inl (by rw [hword]; decide)⟩)
      | (next hword => exact .inr ⟨.cancelled, .inl (by rw [hword]; decide)⟩)
      | (next hword =>
          exact .inr ⟨.cancelled, .inr ⟨rfl, [], by
            rw [List.append_nil, ← hword, String.toList_ofList]⟩⟩)

/-- The tokens of a state text are its words, one for each. -/
theorem normalizeState_eq (raw : String) :
    normalizeState raw =
      (highestState ((stateTokens raw).map normalizeOneToken)).getD "UNKNOWN" := by
  unfold normalizeState stateTokens
  simp only
  split
  · rfl
  have hmap : ∀ tokens : List (List Char),
      (tokens.map trimChars).map normalizeOneToken = tokens.map normalizeOneToken := by
    intro tokens
    rw [List.map_map]
    exact List.map_congr_left fun token _ => normalizeOneToken_trimChars token
  rw [hmap]
  split
  · rfl
  · simp only [List.map_cons, List.map_nil, highestState, Option.getD_some]

theorem trimChars_of_mem_stateTokens {raw : String} {token : List Char}
    (h : token ∈ stateTokens raw) : trimChars token = token := by
  unfold stateTokens at h
  simp only at h
  split at h
  · cases h
  · obtain ⟨word, -, rfl⟩ := List.mem_map.mp h
    exact trimChars_trimChars word

/-- The best token is one of the tokens, and no other ranks higher. -/
theorem highestState_some {tokens : List String} {best : String}
    (h : highestState tokens = some best) :
    best ∈ tokens ∧ ∀ token ∈ tokens, stateRank token ≤ stateRank best := by
  induction tokens generalizing best with
  | nil => cases h
  | cons first tokens ih =>
      unfold highestState at h
      cases hrest : highestState tokens with
      | none =>
          rw [hrest] at h
          cases h
          cases tokens with
          | nil => simp
          | cons second tokens =>
              unfold highestState at hrest
              split at hrest <;> cases hrest
      | some other =>
          rw [hrest] at h
          obtain ⟨hmem, hall⟩ := ih hrest
          simp only [Option.some.injEq] at h
          split at h
          next hlt =>
            subst h
            refine ⟨List.mem_cons_self, fun token htoken => ?_⟩
            rcases List.mem_cons.mp htoken with rfl | hin
            · exact Nat.le_refl _
            · exact Nat.le_trans (hall token hin) (Nat.le_of_lt hlt)
          next hge =>
            subst h
            refine ⟨List.mem_cons_of_mem _ hmem, fun token htoken => ?_⟩
            rcases List.mem_cons.mp htoken with rfl | hin
            · exact Nat.not_lt.mp hge
            · exact hall token hin

theorem highestState_none {tokens : List String} (h : highestState tokens = none) :
    tokens = [] := by
  cases tokens with
  | nil => rfl
  | cons first tokens =>
      unfold highestState at h
      split at h <;> cases h

/-- The states that are spelled have a rank, and each its own. -/
theorem SpelledAs.rank_pos {token : List Char} {state : SchedulerState}
    (h : SpelledAs token state) : 0 < stateRank state.token := by
  rcases h with hlisted | ⟨rfl, -⟩
  · cases state with
    | unknown => cases hlisted
    | notSubmitted => cases hlisted
    | _ => decide
  · decide

theorem SchedulerState.eq_of_stateRank {state other : SchedulerState}
    (hpos : 0 < stateRank state.token) (h : stateRank state.token = stateRank other.token) :
    state = other := by
  revert hpos h
  cases state <;> cases other <;> decide

/-- **The token of a state text**: the poller knows none of its words, or takes the state of the
highest rank among them. -/
theorem normalizeState_cases (raw : String) :
    (normalizeState raw = "UNKNOWN" ∧
        ∀ token ∈ stateTokens raw, ∀ state, ¬ SpelledAs token state) ∨
      ∃ state, normalizeState raw = state.token ∧
        (∃ token ∈ stateTokens raw, SpelledAs token state) ∧
        ∀ token ∈ stateTokens raw, ∀ other, SpelledAs token other →
          stateRank other.token ≤ stateRank state.token := by
  rw [normalizeState_eq]
  cases hbest : highestState ((stateTokens raw).map normalizeOneToken) with
  | none =>
      have hnil := List.map_eq_nil_iff.mp (highestState_none hbest)
      refine .inl ⟨rfl, fun token htoken => ?_⟩
      rw [hnil] at htoken
      cases htoken
  | some best =>
      obtain ⟨hmem, hall⟩ := highestState_some hbest
      obtain ⟨token, htoken, rfl⟩ := List.mem_map.mp hmem
      have hle : ∀ other ∈ stateTokens raw, ∀ state, SpelledAs other state →
          stateRank state.token ≤ stateRank (normalizeOneToken token) := by
        intro other hother state hspelled
        have hrank := hall _ (List.mem_map_of_mem hother)
        rwa [normalizeOneToken_of_spelledAs (trimChars_of_mem_stateTokens hother) hspelled]
          at hrank
      rcases normalizeOneToken_cases (trimChars_of_mem_stateTokens htoken) with
        hunknown | ⟨state, hspelled⟩
      · refine .inl ⟨hunknown, fun other hother state hspelled => ?_⟩
        have hrank := hle other hother state hspelled
        rw [hunknown] at hrank
        have hpos := hspelled.rank_pos
        have hzero : stateRank "UNKNOWN" = 0 := rfl
        omega
      · have heq := normalizeOneToken_of_spelledAs (trimChars_of_mem_stateTokens htoken) hspelled
        refine .inr ⟨state, heq, ⟨token, htoken, hspelled⟩, fun other hother state' h => ?_⟩
        rw [← heq]
        exact hle other hother state' h

/-- The token is the one of a state exactly when some word is spelled as the state and none as a
higher one. -/
theorem normalizeState_iff (raw : String) {state : SchedulerState}
    (hpos : 0 < stateRank state.token) :
    SchedulerState.fromNormalized (normalizeState raw) = state ↔
      (∃ token ∈ stateTokens raw, SpelledAs token state) ∧
        ∀ token ∈ stateTokens raw, ∀ other, SpelledAs token other →
          stateRank other.token ≤ stateRank state.token := by
  constructor
  · intro h
    rcases normalizeState_cases raw with ⟨hunknown, -⟩ | ⟨found, hfound, hspelled, hall⟩
    · rw [hunknown] at h
      rw [← h] at hpos
      exact absurd hpos (by decide +kernel)
    · rw [hfound, SchedulerState.fromNormalized_token] at h
      subst h
      exact ⟨hspelled, hall⟩
  · rintro ⟨⟨token, htoken, hspelled⟩, hall⟩
    rcases normalizeState_cases raw with ⟨-, hnone⟩ | ⟨found, hfound, ⟨other, hother, hown⟩, hmax⟩
    · exact absurd hspelled (hnone token htoken state)
    · rw [hfound, SchedulerState.fromNormalized_token]
      exact SchedulerState.eq_of_stateRank hown.rank_pos
        (Nat.le_antisymm (hall other hother found hown) (hmax token htoken state hspelled))

/-- The token is unknown exactly when the poller knows none of the words. -/
theorem normalizeState_unknown_iff (raw : String) :
    SchedulerState.fromNormalized (normalizeState raw) = .unknown ↔
      ∀ token ∈ stateTokens raw, ∀ state, ¬ SpelledAs token state := by
  rcases normalizeState_cases raw with ⟨hunknown, hnone⟩ | ⟨found, hfound, ⟨token, htoken, hown⟩, -⟩
  · rw [hunknown]
    exact ⟨fun _ => hnone, fun _ => SchedulerState.fromNormalized_token .unknown⟩
  · rw [hfound, SchedulerState.fromNormalized_token]
    constructor
    · rintro rfl
      exact absurd hown.rank_pos (by decide)
    · intro hnone
      exact absurd hown (hnone token htoken found)

/-! ### The lookup's state -/

/-- A first word is not empty and has no white space. -/
theorem firstWord_some {chars : List Char} {word : String} (h : firstWord chars = some word) :
    word.toList ≠ [] ∧ (∀ c ∈ word.toList, isWhitespace c = false) ∧
      chars.dropWhile isWhitespace ≠ [] := by
  unfold firstWord at h
  split at h
  · cases h
  next word' hne =>
    cases h
    rw [String.toList_ofList]
    refine ⟨fun hnil => hne hnil, fun c hc => ?_, fun hnil => ?_⟩
    · have hall := List.all_eq_true.mp List.all_takeWhile c hc
      simpa using hall
    · rw [hnil] at hne
      exact hne rfl

theorem firstWord_none {chars : List Char} (h : firstWord chars = none) :
    trimChars chars = [] := by
  unfold firstWord at h
  split at h
  next hnil =>
    cases hrest : chars.dropWhile isWhitespace with
    | nil => simp [trimChars, hrest]
    | cons c rest =>
        have hnot := List.head?_dropWhile_not isWhitespace chars
        rw [hrest] at hnil hnot
        have hc : isWhitespace c = false := hnot
        simp [hc] at hnil
  · cases h

/-- A word without white space is its own first word. -/
theorem firstWord_self {word : String} (hne : word.toList ≠ [])
    (hplain : ∀ c ∈ word.toList, isWhitespace c = false) :
    trimChars word.toList = word.toList ∧ firstWord word.toList = some word := by
  constructor
  · exact trimChars_eq_self
      (fun c hc => hplain c (List.mem_of_mem_head? hc))
      (fun c hc => hplain c (List.mem_of_mem_getLast? hc))
  · have hdrop : word.toList.dropWhile isWhitespace = word.toList := by
      refine List.dropWhile_eq_self_iff.mpr fun hpos => ?_
      rw [hplain _ (List.getElem_mem hpos)]
      exact Bool.false_ne_true
    have htake : word.toList.takeWhile (fun c => !isWhitespace c) = word.toList := by
      refine List.takeWhile_eq_self_iff.mpr fun c hc => ?_
      rw [hplain c hc]
      rfl
    unfold firstWord
    rw [hdrop, htake]
    split
    next hnil => exact absurd hnil hne
    · rw [String.ofList_toList]

theorem toUpper_of_not_ascii {c : Char} (h : 128 ≤ c.toNat) : c.toUpper = c := by
  unfold Char.toUpper
  refine dif_neg fun hletter => ?_
  have hle : c.toNat ≤ 122 := hletter.2
  omega

/-- The upper case of a character is an ASCII one only where its ASCII upper case is. -/
theorem upperChar_of_ascii {c : Char} (h : c.toUpper.toNat < 128) : upperChar c = [c.toUpper] := by
  have hascii : c.toNat < 128 := by
    by_contra hbig
    rw [toUpper_of_not_ascii (by omega)] at h
    omega
  unfold upperChar
  split
  all_goals first
    | rfl
    | omega

theorem toUpper_toUpper (c : Char) : c.toUpper.toUpper = c.toUpper := by
  by_cases h : 128 ≤ c.toNat
  · rw [toUpper_of_not_ascii h, toUpper_of_not_ascii h]
  · have hall : ∀ n < 128, (Char.ofNat n).toUpper.toUpper = (Char.ofNat n).toUpper := by
      decide +kernel
    have hascii := hall c.toNat (by omega)
    rwa [Char.ofNat_toNat] at hascii

theorem toUppercase_of_ascii {chars : List Char}
    (h : ∀ c ∈ chars.map Char.toUpper, c.toNat < 128) :
    toUppercase chars = chars.map Char.toUpper := by
  induction chars with
  | nil => rfl
  | cons c chars ih =>
      rw [List.map_cons] at h ⊢
      have hrest := ih fun d hd => h d (List.mem_cons_of_mem _ hd)
      rw [toUppercase, List.flatMap_cons, upperChar_of_ascii (h _ List.mem_cons_self)]
      exact congrArg _ hrest

/-- A word in ASCII has the poller's token of its upper case. -/
theorem normalizeState_upperWord {word : String} (hne : word.toList ≠ [])
    (hplain : ∀ c ∈ word.toList, isWhitespace c = false)
    (hascii : (upperWord word).toList.all fun c => decide (c.toNat < 128) && !isWhitespace c) :
    normalizeState word = normalizeState (upperWord word) := by
  simp only [List.all_eq_true, Bool.and_eq_true, decide_eq_true_eq, Bool.not_eq_true'] at hascii
  have hupper : toUppercase word.toList = (upperWord word).toList := by
    rw [upperWord, String.toList_ofList] at hascii ⊢
    exact toUppercase_of_ascii fun c hc => (hascii c hc).1
  have hself : toUppercase (upperWord word).toList = (upperWord word).toList := by
    have hmap : (upperWord word).toList.map Char.toUpper = (upperWord word).toList := by
      rw [upperWord, String.toList_ofList, List.map_map]
      exact List.map_congr_left fun c _ => toUpper_toUpper c
    rw [toUppercase_of_ascii, hmap]
    rw [hmap]
    exact fun c hc => (hascii c hc).1
  have hne' : (upperWord word).toList ≠ [] := by
    rw [upperWord, String.toList_ofList]
    exact fun hnil => hne (List.map_eq_nil_iff.mp hnil)
  have htrim := (firstWord_self hne hplain).1
  have htrim' := (firstWord_self hne' fun c hc => (hascii c hc).2).1
  have hfull : word.toList.isEmpty = (upperWord word).toList.isEmpty := by
    rw [List.isEmpty_eq_false_iff.mpr hne, List.isEmpty_eq_false_iff.mpr hne']
  unfold normalizeState
  simp only [htrim, htrim', hupper, hself, hfull]

/-- The lookup's state of a word: one of the plain words, one of its own, or unknown. -/
theorem fromNormalized_cases {word : String} (htrim : trim word = word) :
    (∃ state, (upperWord word, state) ∈ plainSpellings ∧
        SchedulerState.fromNormalized word = state) ∨
      (upperWord word ∈ lookupOnlySpellings ∧ SchedulerState.fromNormalized word ≠ .unknown) ∨
      (∀ state, (upperWord word, state) ∉ plainSpellings) ∧
        upperWord word ∉ lookupOnlySpellings ∧ SchedulerState.fromNormalized word = .unknown := by
  have hword : String.ofList ((trim word).toList.map Char.toUpper) = upperWord word := by
    rw [htrim, upperWord]
  unfold SchedulerState.fromNormalized
  rw [hword]
  generalize upperWord word = upper
  split
  · exact .inl ⟨.pending, by decide, rfl⟩
  · exact .inl ⟨.running, by decide, rfl⟩
  · exact .inl ⟨.succeeded, by decide, rfl⟩
  · exact .inr (.inl ⟨by decide, by decide⟩)
  · exact .inl ⟨.failed, by decide, rfl⟩
  · exact .inl ⟨.cancelled, by decide, rfl⟩
  · exact .inr (.inl ⟨by decide, by decide⟩)
  · exact .inl ⟨.timedOut, by decide, rfl⟩
  · exact .inr (.inl ⟨by decide, by decide⟩)
  · exact .inr (.inl ⟨by decide, by decide⟩)
  · refine .inr (.inr ⟨?_, ?_, rfl⟩)
    · intro state hplain
      simp_all [plainSpellings]
    · simp_all [lookupOnlySpellings]

/-! ### When the readers agree -/

/-- The poller reads a plain word as the lookup does. -/
theorem normalizeState_of_plain {word : String} (hne : word.toList ≠ [])
    (hplain : ∀ c ∈ word.toList, isWhitespace c = false) {state : SchedulerState}
    (h : (upperWord word, state) ∈ plainSpellings) :
    SchedulerState.fromNormalized (normalizeState word) = state ∧
      0 < stateRank state.token := by
  have hall : ∀ entry ∈ plainSpellings,
      ((entry.1.toList.all fun c => decide (c.toNat < 128) && !isWhitespace c) &&
        decide (SchedulerState.fromNormalized (normalizeState entry.1) = entry.2) &&
        decide (0 < stateRank entry.2.token)) = true := by
    decide +kernel
  have hentry := hall _ h
  simp only [Bool.and_eq_true, decide_eq_true_eq] at hentry
  rw [normalizeState_upperWord hne hplain hentry.1.1]
  exact ⟨hentry.1.2, hentry.2⟩

/-- The poller does not know the words of the lookup's own. -/
theorem normalizeState_of_lookupOnly {word : String} (hne : word.toList ≠ [])
    (hplain : ∀ c ∈ word.toList, isWhitespace c = false)
    (h : upperWord word ∈ lookupOnlySpellings) :
    SchedulerState.fromNormalized (normalizeState word) = .unknown := by
  have hall : ∀ upper ∈ lookupOnlySpellings,
      ((upper.toList.all fun c => decide (c.toNat < 128) && !isWhitespace c) &&
        decide (SchedulerState.fromNormalized (normalizeState upper) = .unknown)) = true := by
    decide +kernel
  have hupper := hall _ h
  simp only [Bool.and_eq_true, decide_eq_true_eq] at hupper
  rw [normalizeState_upperWord hne hplain hupper.1]
  exact hupper.2

theorem normalizeState_trim (raw : String) : normalizeState (trim raw) = normalizeState raw := by
  unfold normalizeState
  rw [trim, String.toList_ofList, trimChars_trimChars]

/-- **When the three readers agree** on a state text: it is spelled alike for them. -/
theorem scheduler_states_agree_iff (raw : String) :
    (lookupState raw = sacctState raw ∧ lookupState raw = squeueState raw) ↔
      SpelledAlike raw := by
  cases hfirst : firstWord raw.toList with
  | none =>
      -- a blank state is left out by the poller and refused by the lookup
      have hblank : (trim raw).isEmpty = true := by
        rw [trim, firstWord_none hfirst]
        rfl
      constructor
      · intro _ word hword
        rw [hfirst] at hword
        cases hword
      · intro _
        simp only [lookupState, sacctState, squeueState, hfirst, hblank, Option.map_none, if_true,
          and_self]
  | some word =>
      obtain ⟨hne, hplain, hrest⟩ := firstWord_some hfirst
      have hlookup : lookupState raw = some (SchedulerState.fromNormalized word) := by
        rw [lookupState, hfirst, Option.map_some]
      have hsacct : sacctState raw =
          some (SchedulerState.fromNormalized (normalizeState word)) := by
        rw [sacctState, hfirst, Option.map_some]
      have hsqueue : squeueState raw =
          some (SchedulerState.fromNormalized (normalizeState raw)) := by
        have hfull : ¬ (trim raw).isEmpty = true := by
          rw [String.isEmpty_iff]
          intro hempty
          have hnil := congrArg String.toList hempty
          rw [trim, String.toList_ofList] at hnil
          have hback : (raw.toList.dropWhile isWhitespace).reverse.dropWhile isWhitespace = [] :=
            List.reverse_eq_nil_iff.mp hnil
          cases hchars : raw.toList.dropWhile isWhitespace with
          | nil => exact hrest hchars
          | cons c rest =>
              have hnot := List.head?_dropWhile_not isWhitespace raw.toList
              rw [hchars] at hnot hback
              have hc : isWhitespace c = false := hnot
              have hall := List.dropWhile_eq_nil_iff.mp hback c
                (List.mem_reverse.mpr List.mem_cons_self)
              rw [hc] at hall
              cases hall
        rw [squeueState, if_neg hfull, normalizeState_trim]
      have htrim : trim word = word := trim_eq_self_iff.mpr (firstWord_self hne hplain).1
      have hspelled : SpelledAlike raw ↔
          (∃ state, (upperWord word, state) ∈ plainSpellings ∧
            SchedulerState.fromNormalized (normalizeState raw) = state) ∨
          (∀ state, (upperWord word, state) ∉ plainSpellings) ∧
            upperWord word ∉ lookupOnlySpellings ∧
            SchedulerState.fromNormalized (normalizeState word) = .unknown ∧
            SchedulerState.fromNormalized (normalizeState raw) = .unknown := by
        have htokens : (∀ token ∈ stateTokens word ++ stateTokens raw, ∀ state,
            ¬ SpelledAs token state) ↔
              SchedulerState.fromNormalized (normalizeState word) = .unknown ∧
                SchedulerState.fromNormalized (normalizeState raw) = .unknown := by
          rw [normalizeState_unknown_iff, normalizeState_unknown_iff]
          simp only [List.mem_append, or_imp, forall_and]
        unfold SpelledAlike
        rw [hfirst]
        simp only [Option.some.injEq, forall_eq', htokens]
        refine or_congr (exists_congr fun state => and_congr_right fun hstate => ?_) Iff.rfl
        exact (normalizeState_iff raw (normalizeState_of_plain hne hplain hstate).2).symm
      rw [hlookup, hsacct, hsqueue, hspelled]
      simp only [Option.some.injEq]
      rcases fromNormalized_cases htrim with
        ⟨state, hstate, hown⟩ | ⟨honly, hknown⟩ | ⟨hnone, hnot, hunknown⟩
      · have hword := (normalizeState_of_plain hne hplain hstate).1
        rw [hown, hword]
        constructor
        · rintro ⟨-, hraw⟩
          exact .inl ⟨state, hstate, hraw.symm⟩
        · rintro (⟨other, hother, hraw⟩ | ⟨hnone, -⟩)
          · have hsame := (normalizeState_of_plain hne hplain hother).1
            exact ⟨rfl, by rw [hraw, ← hsame, hword]⟩
          · exact absurd hstate (hnone state)
      · have hword := normalizeState_of_lookupOnly hne hplain honly
        constructor
        · rintro ⟨hsame, -⟩
          exact absurd (hsame.trans hword) hknown
        · rintro (⟨other, hother, -⟩ | ⟨-, hnot, -⟩)
          · have hsame := normalizeState_of_plain hne hplain hother
            rw [hword] at hsame
            rw [← hsame.1] at hsame
            exact absurd hsame.2 (by decide)
          · exact absurd honly hnot
      · rw [hunknown]
        constructor
        · rintro ⟨hword, hraw⟩
          exact .inr ⟨hnone, hnot, hword.symm, hraw.symm⟩
        · rintro (⟨other, hother, -⟩ | ⟨-, -, hword, hraw⟩)
          · exact absurd hother (hnone other)
          · exact ⟨hword.symm, hraw.symm⟩

/-- A job whose node has failed has an unknown state for the lookup and a failed one for the
poller. -/
theorem node_failure_by_name :
    ((parseNamedJobs "42|session-1|NODE_FAIL|None\n" "session-1" "sacct").toOption.map
        (·.map (·.state)) = some [.unknown] ∧
      (parseSacctBatch "42|NODE_FAIL|1:0\n" "42").map (·.state) = some .failed) ∧
      ¬ (lookupState "NODE_FAIL" = sacctState "NODE_FAIL" ∧
        lookupState "NODE_FAIL" = squeueState "NODE_FAIL") := by
  decide +kernel

/-- A state that is plain is taken alike also with what accounting writes behind it. -/
example : lookupState "CANCELLED by 123" = some .cancelled ∧
    sacctState "CANCELLED by 123" = some .cancelled := by
  decide +kernel

end Beampipe
