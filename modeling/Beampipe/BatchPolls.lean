/-
The batch of polled jobs.

Accounting lists the allocation and the steps of many jobs in one text.  They are folded into one
result for each job, and the results fill in for the jobs that the live queue no longer lists.

Main definitions:

* `Beampipe.mergeSqueueSacctBatch` — the queue's results, accounting's where the queue has none;
* `Beampipe.rootRows`, `Beampipe.stepRows` — the rows of one job in the text of accounting;
* `Beampipe.HighestRow` — a row whose state no other outranks.

Main results:

* `Beampipe.parseSacctBatch_eq` — a job's result is the best of its own rows;
* `Beampipe.parseSacctBatch_perm` — its state does not depend on the order of the lines;
* `Beampipe.batchPolls_spec` — **what is reported for every requested job.**
-/

import Beampipe.SlurmStates
import Mathlib.Data.List.Induction

set_option relaxedAutoImplicit false
set_option autoImplicit false

namespace Beampipe

/-! ### The merge -/

/-- What is reported for a job that neither source lists. -/
def unlistedPollResult : SlurmJobPollResult where
  rawState := ""
  state := .fromNormalized "UNKNOWN"
  source := .unavailable
  exitCode := none
  rawLine := none

/-- `merge_squeue_sacct_batch`. -/
def mergeSqueueSacctBatch (jobIds : List String) (squeue sacct : PollResults) : PollResults :=
  jobIds.foldl
    (fun out id =>
      match squeue id with
      | some result => Function.update out id (some result)
      | none =>
          match sacct id with
          | some result => Function.update out id (some result)
          | none => Function.update out id (some unlistedPollResult))
    fun _ => none

/-- The result of a requested job. -/
def mergedResult (squeue sacct : PollResults) (id : String) : SlurmJobPollResult :=
  ((squeue id).or (sacct id)).getD unlistedPollResult

/-- A requested job has its result, and no other job has one. -/
theorem mergeSqueueSacctBatch_eq (jobIds : List String) (squeue sacct : PollResults)
    (id : String) :
    mergeSqueueSacctBatch jobIds squeue sacct id =
      if id ∈ jobIds then some (mergedResult squeue sacct id) else none := by
  have hstep : ∀ (out : PollResults) jobId,
      (match squeue jobId with
        | some result => Function.update out jobId (some result)
        | none =>
            match sacct jobId with
            | some result => Function.update out jobId (some result)
            | none => Function.update out jobId (some unlistedPollResult)) =
        Function.update out jobId (some (mergedResult squeue sacct jobId)) := by
    intro out jobId
    unfold mergedResult
    cases squeue jobId with
    | some result => rfl
    | none =>
        cases sacct jobId with
        | some result => rfl
        | none => rfl
  have hfold : ∀ (jobIds : List String) (out : PollResults),
      jobIds.foldl (fun out jobId =>
          Function.update out jobId (some (mergedResult squeue sacct jobId))) out id =
        if id ∈ jobIds then some (mergedResult squeue sacct id) else out id := by
    intro jobIds
    induction jobIds with
    | nil => exact fun out => rfl
    | cons jobId jobIds ih =>
        intro out
        rw [List.foldl_cons, ih]
        by_cases hmem : id ∈ jobIds
        · rw [if_pos hmem, if_pos (List.mem_cons_of_mem _ hmem)]
        · rw [if_neg hmem]
          by_cases hid : id = jobId
          · subst hid
            rw [Function.update_self, if_pos List.mem_cons_self]
          · rw [Function.update_of_ne hid, if_neg fun h => (List.mem_cons.mp h).elim hid hmem]
  unfold mergeSqueueSacctBatch
  simp only [hstep]
  exact hfold jobIds _

/-! ### The rows of one job -/

/-- The rows of the queue. -/
def squeueRows (stdout : String) : List (String × SlurmJobPollResult) :=
  (outputRows stdout).filterMap fun row => squeueRow row.2

/-- The rows of accounting: the job id, the rank of the state and the candidate. -/
def sacctRows (stdout : String) : List (String × ℕ × SlurmJobPollResult) :=
  (outputRows stdout).filterMap fun row => sacctRow row.1 row.2

/-- The rows of a job, of its root and of its steps. -/
def ownRows (stdout id : String) : List (String × ℕ × SlurmJobPollResult) :=
  (sacctRows stdout).filter fun row => sacctBaseJobId row.1 == id

/-- The rows of the allocation of a job. -/
def rootRows (stdout id : String) : List (String × ℕ × SlurmJobPollResult) :=
  (ownRows stdout id).filter fun row => row.1 == id

/-- The rows of the steps of a job. -/
def stepRows (stdout id : String) : List (String × ℕ × SlurmJobPollResult) :=
  (ownRows stdout id).filter fun row => row.1 != id

/-- One of the rows has the result, and none has a state of a higher rank. -/
def HighestRow (rows : List (String × ℕ × SlurmJobPollResult)) (result : SlurmJobPollResult) :
    Prop :=
  (∃ row ∈ rows, row.2.2 = result) ∧
    ∀ row ∈ rows, stateRank row.2.2.state.token ≤ stateRank result.state.token

/-- The row that is left in a slot when all of them have been offered. -/
def bestRow (rows : List (String × ℕ × SlurmJobPollResult)) : Option (ℕ × SlurmJobPollResult) :=
  rows.foldl (fun slot row => offer slot row.2.1 row.2.2) none

/-- A slot keeps the highest of the rows that it is offered. -/
theorem bestRow_cases (rows : List (String × ℕ × SlurmJobPollResult)) :
    rows = [] ∧ bestRow rows = none ∨
      ∃ row ∈ rows, bestRow rows = some row.2 ∧ ∀ other ∈ rows, other.2.1 ≤ row.2.1 := by
  -- the last row is offered to what the rows before it have left
  induction rows using List.reverseRecOn with
  | nil => exact .inl ⟨rfl, rfl⟩
  | append_singleton rows last ih =>
      refine .inr ?_
      have hbest : bestRow (rows ++ [last]) = offer (bestRow rows) last.2.1 last.2.2 := by
        unfold bestRow
        rw [List.foldl_append]
        rfl
      rcases ih with ⟨rfl, hnone⟩ | ⟨row, hmem, hrow, hall⟩
      · refine ⟨last, List.mem_cons_self, ?_, fun other hother => ?_⟩
        · rw [hbest, hnone]
          rfl
        · rw [List.mem_singleton.mp hother]
      · rw [hbest, hrow]
        by_cases hlt : row.2.1 < last.2.1
        · refine ⟨last, List.mem_append_right _ List.mem_cons_self, if_pos hlt,
            fun other hother => ?_⟩
          rcases List.mem_append.mp hother with hold | hnew
          · exact (hall other hold).trans hlt.le
          · rw [List.mem_singleton.mp hnew]
        · refine ⟨row, List.mem_append_left _ hmem, if_neg hlt, fun other hother => ?_⟩
          rcases List.mem_append.mp hother with hold | hnew
          · exact hall other hold
          · rw [List.mem_singleton.mp hnew]
            exact not_lt.mp hlt

/-- The rows of a job are offered to its own slots. -/
theorem foldl_jobs_eq (rows : List (String × ℕ × SlurmJobPollResult))
    (jobs : String → SacctJobRows) (id : String) :
    rows.foldl
      (fun jobs row =>
        Function.update jobs (sacctBaseJobId row.1)
          ((jobs (sacctBaseJobId row.1)).add row.1 row.2.1 row.2.2)) jobs id =
      (rows.filter fun row => sacctBaseJobId row.1 == id).foldl
        (fun slots row => slots.add row.1 row.2.1 row.2.2) (jobs id) := by
  induction rows generalizing jobs with
  | nil => rfl
  | cons row rows ih =>
      rw [List.foldl_cons, ih]
      by_cases hid : sacctBaseJobId row.1 = id
      · rw [List.filter_cons_of_pos (by simpa using hid), List.foldl_cons, hid,
          Function.update_self]
      · rw [List.filter_cons_of_neg (by simpa using hid), Function.update_of_ne (Ne.symm hid)]

/-- The root rows of a job go to one slot, the others to the other. -/
theorem foldl_add_eq {rows : List (String × ℕ × SlurmJobPollResult)} {id : String}
    (hown : ∀ row ∈ rows, sacctBaseJobId row.1 = id) (slots : SacctJobRows) :
    rows.foldl (fun slots row => slots.add row.1 row.2.1 row.2.2) slots =
      ⟨(rows.filter fun row => row.1 == id).foldl
          (fun slot row => offer slot row.2.1 row.2.2) slots.root,
        (rows.filter fun row => row.1 != id).foldl
          (fun slot row => offer slot row.2.1 row.2.2) slots.steps⟩ := by
  induction rows generalizing slots with
  | nil => rfl
  | cons row rows ih =>
      have hbase := hown row List.mem_cons_self
      rw [List.foldl_cons, ih fun other hmem => hown other (List.mem_cons_of_mem _ hmem)]
      unfold SacctJobRows.add
      rw [hbase]
      by_cases hid : row.1 = id
      · rw [if_pos hid, List.filter_cons_of_pos (by simpa using hid),
          List.filter_cons_of_neg (by simpa using hid), List.foldl_cons]
      · rw [if_neg hid, List.filter_cons_of_neg (by simpa using hid),
          List.filter_cons_of_pos (by simpa using hid), List.foldl_cons]

/-- **A job's result is the best of its own rows**, of its root rows if it has any. -/
theorem parseSacctBatch_eq (stdout id : String) :
    parseSacctBatch stdout id =
      ((bestRow (rootRows stdout id)).or (bestRow (stepRows stdout id))).map (·.2) := by
  have hown : ∀ row ∈ ownRows stdout id, sacctBaseJobId row.1 = id := by
    intro row hmem
    simpa using (List.mem_filter.mp hmem).2
  have hslots : sacctJobRows stdout id =
      ⟨bestRow (rootRows stdout id), bestRow (stepRows stdout id)⟩ := by
    unfold sacctJobRows
    rw [foldl_jobs_eq]
    exact foldl_add_eq hown ⟨none, none⟩
  unfold parseSacctBatch
  rw [hslots]

/-! ### Ranks -/

/-- The token of a state text is the token of its state. -/
theorem fromNormalized_normalizeState_token (raw : String) :
    (SchedulerState.fromNormalized (normalizeState raw)).token = normalizeState raw := by
  rcases normalizeState_cases raw with ⟨hunknown, -⟩ | ⟨state, hstate, -⟩
  · rw [hunknown]
    decide +kernel
  · rw [hstate, SchedulerState.fromNormalized_token]

/-- Two state texts of one rank mean one state. -/
theorem normalizeState_eq_of_rank {raw raw' : String}
    (h : stateRank (normalizeState raw) = stateRank (normalizeState raw')) :
    normalizeState raw = normalizeState raw' := by
  have hzero : ∀ token, token = "UNKNOWN" → stateRank token = 0 := fun _ heq => heq ▸ rfl
  -- an unknown state has rank 0, and every state that is known has a positive rank of its own
  rcases normalizeState_cases raw with ⟨hnone, -⟩ | ⟨state, hstate, ⟨token, -, hspelled⟩, -⟩
  · rcases normalizeState_cases raw' with ⟨hnone', -⟩ | ⟨state', hstate', ⟨token', -, hspelled'⟩, -⟩
    · rw [hnone, hnone']
    · have hpos := hspelled'.rank_pos
      rw [← hstate', ← h, hzero _ hnone] at hpos
      exact absurd hpos (Nat.lt_irrefl 0)
  · have hpos := hspelled.rank_pos
    rcases normalizeState_cases raw' with ⟨hnone', -⟩ | ⟨state', hstate', -⟩
    · rw [← hstate, h, hzero _ hnone'] at hpos
      exact absurd hpos (Nat.lt_irrefl 0)
    · rw [hstate, hstate'] at h
      rw [hstate, hstate', SchedulerState.eq_of_stateRank hpos h]

theorem mem_sacctRows_of_mem_ownRows {stdout id : String} {row : String × ℕ × SlurmJobPollResult}
    (h : row ∈ ownRows stdout id) : row ∈ sacctRows stdout :=
  (List.mem_filter.mp h).1

/-- The rank of a row is the rank of its state. -/
theorem rank_eq {stdout : String} {row : String × ℕ × SlurmJobPollResult}
    (h : row ∈ sacctRows stdout) : row.2.1 = stateRank row.2.2.state.token := by
  obtain ⟨line, -, hrow⟩ := List.mem_filterMap.mp h
  obtain ⟨-, -, -, token, -, -, hstate, hrank⟩ := sacctRow_eq_some hrow
  rw [hstate, fromNormalized_normalizeState_token, hrank]

/-- Rows of one rank have one state. -/
theorem state_eq_of_rank {stdout stdout' : String} {row row' : String × ℕ × SlurmJobPollResult}
    (h : row ∈ sacctRows stdout) (h' : row' ∈ sacctRows stdout') (hrank : row.2.1 = row'.2.1) :
    row.2.2.state = row'.2.2.state := by
  obtain ⟨line, -, hrow⟩ := List.mem_filterMap.mp h
  obtain ⟨line', -, hrow'⟩ := List.mem_filterMap.mp h'
  obtain ⟨-, -, -, token, -, -, hstate, hrow⟩ := sacctRow_eq_some hrow
  obtain ⟨-, -, -, token', -, -, hstate', hrow'⟩ := sacctRow_eq_some hrow'
  rw [hrow, hrow'] at hrank
  rw [hstate, hstate', normalizeState_eq_of_rank hrank]

/-- The best of some rows of accounting is a highest one. -/
theorem bestRow_highest {stdout : String} {rows : List (String × ℕ × SlurmJobPollResult)}
    (hrows : ∀ row ∈ rows, row ∈ sacctRows stdout) (hne : rows ≠ []) :
    ∃ entry, bestRow rows = some entry ∧ HighestRow rows entry.2 := by
  rcases bestRow_cases rows with ⟨hnil, -⟩ | ⟨row, hmem, hbest, hall⟩
  · exact absurd hnil hne
  · refine ⟨row.2, hbest, ⟨row, hmem, rfl⟩, fun other hother => ?_⟩
    rw [← rank_eq (hrows other hother), ← rank_eq (hrows row hmem)]
    exact hall other hother

/-- The state of the best row does not depend on the order of the rows. -/
theorem bestRow_perm {stdout stdout' : String} {rows rows' : List (String × ℕ × SlurmJobPollResult)}
    (hrows : ∀ row ∈ rows, row ∈ sacctRows stdout) (hrows' : ∀ row ∈ rows', row ∈ sacctRows stdout')
    (h : rows.Perm rows') :
    (bestRow rows).map (·.2.state) = (bestRow rows').map (·.2.state) := by
  rcases bestRow_cases rows with ⟨rfl, hbest⟩ | ⟨row, hmem, hbest, hall⟩
  · rw [List.nil_perm.mp h]
  · rcases bestRow_cases rows' with ⟨rfl, -⟩ | ⟨row', hmem', hbest', hall'⟩
    · rw [List.perm_nil.mp h] at hmem
      cases hmem
    · have hrank : row.2.1 = row'.2.1 :=
        Nat.le_antisymm (hall' row (h.mem_iff.mp hmem)) (hall row' (h.mem_iff.mpr hmem'))
      rw [hbest, hbest', Option.map_some, Option.map_some,
        state_eq_of_rank (hrows row hmem) (hrows' row' hmem') hrank]

/-! ### What is reported -/

theorem mem_sacctRows_of_mem_rootRows {stdout id : String}
    {row : String × ℕ × SlurmJobPollResult} (h : row ∈ rootRows stdout id) :
    row ∈ sacctRows stdout :=
  mem_sacctRows_of_mem_ownRows (List.mem_filter.mp h).1

theorem mem_sacctRows_of_mem_stepRows {stdout id : String}
    {row : String × ℕ × SlurmJobPollResult} (h : row ∈ stepRows stdout id) :
    row ∈ sacctRows stdout :=
  mem_sacctRows_of_mem_ownRows (List.mem_filter.mp h).1

/-- **The state of a job does not depend on the order of the lines.** -/
theorem parseSacctBatch_perm {stdout stdout' : String}
    (h : (outputRows stdout).Perm (outputRows stdout')) (id : String) :
    (parseSacctBatch stdout id).map (·.state) = (parseSacctBatch stdout' id).map (·.state) := by
  have hown : (ownRows stdout id).Perm (ownRows stdout' id) := (h.filterMap _).filter _
  have hroot : (rootRows stdout id).Perm (rootRows stdout' id) := hown.filter _
  have hsteps : (stepRows stdout id).Perm (stepRows stdout' id) := hown.filter _
  have hrootState := bestRow_perm (fun _ => mem_sacctRows_of_mem_rootRows)
    (fun _ => mem_sacctRows_of_mem_rootRows) hroot
  have hstepState := bestRow_perm (fun _ => mem_sacctRows_of_mem_stepRows)
    (fun _ => mem_sacctRows_of_mem_stepRows) hsteps
  -- the states of the slots decide which slot the result is taken from
  have hor : ∀ slot other : Option (ℕ × SlurmJobPollResult),
      ((slot.or other).map (·.2)).map (·.state) =
        (slot.map (·.2.state)).or (other.map (·.2.state)) := by
    intro slot other
    cases slot <;> simp [Option.map_map, Function.comp_def]
  rw [parseSacctBatch_eq, parseSacctBatch_eq, hor, hor, hrootState, hstepState]

/-- The state of a requested job does not depend on the order of the lines, either. -/
theorem mergedResult_perm {squeue : PollResults} {stdout stdout' : String}
    (h : (outputRows stdout).Perm (outputRows stdout')) (id : String) :
    (mergedResult squeue (parseSacctBatch stdout) id).state =
      (mergedResult squeue (parseSacctBatch stdout') id).state := by
  have hstate := parseSacctBatch_perm h id
  unfold mergedResult
  cases squeue id with
  | some result => rfl
  | none =>
      cases hsacct : parseSacctBatch stdout id with
      | none =>
          rw [hsacct] at hstate
          rw [Option.map_eq_none_iff.mp hstate.symm]
      | some result =>
          rw [hsacct] at hstate
          obtain ⟨result', hsacct', heq⟩ := Option.map_eq_some_iff.mp hstate.symm
          rw [hsacct']
          exact heq.symm

/-- Rows of other jobs leave the result of a job. -/
theorem foldl_update_of_notMem {rows : List (String × SlurmJobPollResult)} {id : String}
    (hid : id ∉ rows.map (·.1)) (init : PollResults) :
    rows.foldl (fun (results : PollResults) row =>
      Function.update results row.1 (some row.2)) init id = init id := by
  induction rows generalizing init with
  | nil => rfl
  | cons row rows ih =>
      rw [List.map_cons, List.mem_cons, not_or] at hid
      rw [List.foldl_cons, ih hid.2, Function.update_of_ne hid.1]

theorem foldl_update_of_mem {rows : List (String × SlurmJobPollResult)} {id : String}
    {result : SlurmJobPollResult} (hnodup : (rows.map (·.1)).Nodup) (hmem : (id, result) ∈ rows)
    (init : PollResults) :
    rows.foldl (fun (results : PollResults) row =>
      Function.update results row.1 (some row.2)) init id = some result := by
  induction rows generalizing init with
  | nil => cases hmem
  | cons row rows ih =>
      rw [List.map_cons, List.nodup_cons] at hnodup
      rw [List.foldl_cons]
      rcases List.mem_cons.mp hmem with rfl | hrest
      · rw [foldl_update_of_notMem hnodup.1, Function.update_self]
      · exact ih hnodup.2 hrest _

/-- The queue's result of a job is that of its row, if it is the only one. -/
theorem parseSqueueBatch_eq_some_iff {stdout id : String} {result : SlurmJobPollResult}
    (hrows : ((squeueRows stdout).map (·.1)).Nodup) :
    parseSqueueBatch stdout id = some result ↔ (id, result) ∈ squeueRows stdout := by
  refine ⟨fun h => ?_, fun h => foldl_update_of_mem hrows h _⟩
  rcases foldl_update_cases _ _ h with hinit | hmem
  · cases hinit
  · exact hmem

/-- **What is reported for every requested job.** -/
theorem batchPolls_spec (jobIds : List String) (squeue sacct : String)
    (hsqueue : ((squeueRows squeue).map (·.1)).Nodup) :
    let merged := mergeSqueueSacctBatch jobIds (parseSqueueBatch squeue) (parseSacctBatch sacct)
    (∀ id, (merged id).isSome ↔ id ∈ jobIds) ∧
      (∀ id ∈ jobIds, ∀ result, (id, result) ∈ squeueRows squeue → merged id = some result) ∧
      (∀ id ∈ jobIds, (∀ result, (id, result) ∉ squeueRows squeue) →
        merged id = some ((parseSacctBatch sacct id).getD unlistedPollResult)) ∧
      (∀ id,
        (rootRows sacct id ≠ [] →
          ∃ result, parseSacctBatch sacct id = some result ∧
            HighestRow (rootRows sacct id) result) ∧
        (rootRows sacct id = [] → stepRows sacct id ≠ [] →
          ∃ result, parseSacctBatch sacct id = some result ∧
            HighestRow (stepRows sacct id) result) ∧
        (rootRows sacct id = [] → stepRows sacct id = [] → parseSacctBatch sacct id = none)) ∧
      (∀ sacct' id, ownRows sacct' id = ownRows sacct id →
        parseSacctBatch sacct' id = parseSacctBatch sacct id) ∧
      ∀ sacct', (outputRows sacct).Perm (outputRows sacct') → ∀ id,
        (parseSacctBatch sacct' id).map (·.state) = (parseSacctBatch sacct id).map (·.state) ∧
          (mergeSqueueSacctBatch jobIds (parseSqueueBatch squeue) (parseSacctBatch sacct')
            id).map (·.state) = (merged id).map (·.state) := by
  intro merged
  have hmerged : ∀ id ∈ jobIds,
      merged id = some (mergedResult (parseSqueueBatch squeue) (parseSacctBatch sacct) id) :=
    fun id hid => (mergeSqueueSacctBatch_eq jobIds _ _ id).trans (if_pos hid)
  have hother : ∀ id, id ∉ jobIds → merged id = none :=
    fun id hid => (mergeSqueueSacctBatch_eq jobIds _ _ id).trans (if_neg hid)
  refine ⟨fun id => ?_, fun id hid result hmem => ?_, fun id hid hnone => ?_, fun id =>
    ⟨fun hroot => ?_, fun hroot hsteps => ?_, fun hroot hsteps => ?_⟩, fun sacct' id hown => ?_,
    fun sacct' hperm id => ⟨parseSacctBatch_perm hperm.symm id, ?_⟩⟩
  · by_cases hid : id ∈ jobIds
    · exact iff_of_true (hmerged id hid ▸ rfl) hid
    · exact iff_of_false (hother id hid ▸ Bool.false_ne_true) hid
  · rw [hmerged id hid, mergedResult, (parseSqueueBatch_eq_some_iff hsqueue).mpr hmem]
    rfl
  · have hsqueue' : parseSqueueBatch squeue id = none := by
      rw [Option.eq_none_iff_forall_ne_some]
      exact fun result h => hnone result ((parseSqueueBatch_eq_some_iff hsqueue).mp h)
    rw [hmerged id hid, mergedResult, hsqueue', Option.none_or]
  · obtain ⟨entry, hentry, hhighest⟩ :=
      bestRow_highest (fun _ => mem_sacctRows_of_mem_rootRows) hroot
    exact ⟨entry.2, by rw [parseSacctBatch_eq, hentry]; rfl, hhighest⟩
  · obtain ⟨entry, hentry, hhighest⟩ :=
      bestRow_highest (fun _ => mem_sacctRows_of_mem_stepRows) hsteps
    exact ⟨entry.2, by rw [parseSacctBatch_eq, hroot, hentry]; rfl, hhighest⟩
  · rw [parseSacctBatch_eq, hroot, hsteps]
    rfl
  · rw [parseSacctBatch_eq, parseSacctBatch_eq, rootRows, stepRows, hown]
    rfl
  · rw [mergeSqueueSacctBatch_eq]
    by_cases hid : id ∈ jobIds
    · rw [if_pos hid, hmerged id hid, Option.map_some, Option.map_some, mergedResult_perm hperm]
    · rw [if_neg hid, hother id hid]

/-- A running allocation with finished steps, next to a job whose id starts with its id. -/
theorem batchPolls_spec_sample :
    mergeSqueueSacctBatch ["42"] (parseSqueueBatch "421|RUNNING|None\n")
        (parseSacctBatch "42.batch|COMPLETED|0:0\n421|FAILED|1:0\n42|RUNNING|0:0\n") "42" =
      some ((parseSacctBatch "42.batch|COMPLETED|0:0\n421|FAILED|1:0\n42|RUNNING|0:0\n"
        "42").getD unlistedPollResult) := by
  have h := batchPolls_spec ["42"] "421|RUNNING|None\n"
    "42.batch|COMPLETED|0:0\n421|FAILED|1:0\n42|RUNNING|0:0\n" (by decide +kernel)
  refine h.2.2.1 "42" List.mem_cons_self fun result hmem => ?_
  have hrows : (squeueRows "421|RUNNING|None\n").all (fun row => row.1 != "42") := by
    decide +kernel
  exact absurd rfl (bne_iff_ne.mp (List.all_eq_true.mp hrows _ hmem))

end Beampipe
