/-
The complete lookup of a job name.

The outputs of the queue and of accounting are read line by line.  A line that is not a row of four
fields with a name, and a row of the job without a job id and a state, makes the lookup fail, so
that an output that is cut off or garbled is never taken for the absence of the job.

Main definitions:

* `Beampipe.completeNamedJobLookup` — the lookup, as the source computes it;
* `Beampipe.AdmittedLine` — a line that the lookup understands;
* `Beampipe.RowOf` — a line that is a row of the job, and what it says.

Main results:

* `Beampipe.parseNamedJobs_ok_iff`, `Beampipe.mem_parseNamedJobs` — when an output is understood,
  and which jobs it lists;
* `Beampipe.mergeNamedJobs_spec` — the queue's observation replaces accounting's;
* `Beampipe.completeNamedJobLookup_spec` — **the lookup fails closed.**
-/

import Beampipe.SlurmStates
import Mathlib.Data.String.Basic

set_option relaxedAutoImplicit false
set_option autoImplicit false

namespace Beampipe

/-! ### The lookup -/

/-- `complete_named_job_lookup`. -/
def completeNamedJobLookup (jobName : String)
    (accountingNotBefore queryStartedAt queryCompletedAt : ℕ) (squeueOutput sacctOutput : String) :
    Except String SchedulerNameLookup := do
  let squeue ← parseNamedJobs squeueOutput jobName "squeue"
  let sacct ← parseNamedJobs sacctOutput jobName "sacct"
  .ok
    { accountingNotBefore := accountingNotBefore
      queryStartedAt := queryStartedAt
      queryCompletedAt := queryCompletedAt
      squeueCompleted := true
      sacctCompleted := true
      jobs := mergeNamedJobs squeue sacct }

/-! ### What a line says -/

/-- The lines of an output. -/
def outputLines (output : String) : List (List Char) :=
  output.toList.splitOnP fun c => c.toNat == 10

/-- The line is blank, or it is a row of four fields with a name; a row of the job has a job id and
a state. -/
def AdmittedLine (jobName : String) (line : List Char) : Prop :=
  trimChars line = [] ∨ ∃ id name state reason,
    (trimChars line).splitOn '|' = [id, name, state, reason] ∧ trimChars name ≠ [] ∧
      (String.ofList (trimChars name) = jobName →
        isAsciiDigits (String.ofList (trimChars id)) = true ∧ trimChars state ≠ [])

/-- What a row says about its job. -/
def rowJob (source : String) (id reason : List Char) (rawState : String) : NamedJob where
  externalJobId := String.ofList (trimChars id)
  state := .fromNormalized rawState
  rawState := rawState
  reason :=
    let text := String.ofList (trimChars reason)
    if text.isEmpty ∨ text = "None" then none else some text
  source := source

/-- The line is a row of the job, and this is what it says. -/
def RowOf (jobName source : String) (line : List Char) (job : NamedJob) : Prop :=
  ∃ id name state reason rawState,
    (trimChars line).splitOn '|' = [id, name, state, reason] ∧
      String.ofList (trimChars name) = jobName ∧ firstWord state = some rawState ∧
      job = rowJob source id reason rawState

/-- A text has no first word just when it is blank. -/
theorem firstWord_eq_none_iff {chars : List Char} :
    firstWord chars = none ↔ trimChars chars = [] := by
  refine ⟨firstWord_none, fun hblank => ?_⟩
  cases hword : firstWord chars with
  | none => rfl
  | some word =>
      obtain ⟨-, -, hrest⟩ := firstWord_some hword
      have hspace : ∀ c ∈ chars.dropWhile isWhitespace, isWhitespace c = true := by
        rw [trimChars, List.reverse_eq_nil_iff, List.dropWhile_eq_nil_iff] at hblank
        exact fun c hc => hblank c (List.mem_reverse.mpr hc)
      obtain ⟨c, rest, hcons⟩ := List.exists_cons_of_ne_nil hrest
      have hhead := List.head?_dropWhile_not isWhitespace chars
      rw [hcons] at hspace hhead
      exact absurd ((hspace c List.mem_cons_self).symm.trans hhead) Bool.true_eq_false.mp

/-- What a row of four fields says. -/
theorem rowOf_iff {jobName source : String} {line id name state reason : List Char} {job : NamedJob}
    (hfields : (trimChars line).splitOn '|' = [id, name, state, reason]) :
    RowOf jobName source line job ↔ String.ofList (trimChars name) = jobName ∧
      ∃ rawState, firstWord state = some rawState ∧ job = rowJob source id reason rawState := by
  constructor
  · rintro ⟨id', name', state', reason', rawState, hfields', hname, hstate, hjob⟩
    have hsame := hfields.symm.trans hfields'
    simp only [List.cons.injEq, and_true] at hsame
    obtain ⟨rfl, rfl, rfl, rfl⟩ := hsame
    exact ⟨hname, rawState, hstate, hjob⟩
  · rintro ⟨hname, rawState, hstate, hjob⟩
    exact ⟨id, name, state, reason, rawState, hfields, hname, hstate, hjob⟩

/-- A line that is understood is admitted, and lists the job that it is a row of. -/
theorem admitted_of_parseNamedJob {jobName source : String} {lineNumber : ℕ} {line : List Char}
    {found : Option NamedJob}
    (h : parseNamedJob jobName source lineNumber line = .ok found) :
    AdmittedLine jobName line ∧ ∀ job, found = some job ↔ RowOf jobName source line job := by
  unfold parseNamedJob at h
  simp only at h
  split at h
  next hblank =>
    cases h
    refine ⟨.inl hblank, fun job => iff_of_false (fun h => nomatch h) ?_⟩
    rintro ⟨id, name, state, reason, rawState, hfields, -⟩
    rw [hblank] at hfields
    simp at hfields
  split at h
  next id name state reason hfields =>
    split at h
    · cases h
    next hname =>
      have hname' : trimChars name ≠ [] := fun hnil => hname (hnil ▸ rfl)
      split at h
      next hother =>
        cases h
        exact ⟨.inr ⟨id, name, state, reason, hfields, hname', fun heq => absurd heq hother⟩,
          fun job => iff_of_false (fun h => nomatch h) fun h => hother ((rowOf_iff hfields).mp h).1⟩
      next hsame =>
        split at h
        · cases h
        next hdigits =>
          split at h
          · cases h
          next rawState hstate =>
            have hstate' : trimChars state ≠ [] := by
              rw [Ne, ← firstWord_eq_none_iff, hstate]
              exact fun h => nomatch h
            refine ⟨.inr ⟨id, name, state, reason, hfields, hname', fun _ =>
              ⟨not_not.mp hdigits, hstate'⟩⟩, fun job => ?_⟩
            rw [rowOf_iff hfields, hstate, ← Except.ok.inj h]
            constructor
            · intro heq
              exact ⟨not_not.mp hsame, rawState, rfl, (Option.some.inj heq).symm⟩
            · rintro ⟨-, rawState', hraw, rfl⟩
              obtain rfl := Option.some.inj hraw
              rfl
  · cases h

/-- An admitted line is understood. -/
theorem parseNamedJob_of_admitted {jobName : String} {line : List Char}
    (h : AdmittedLine jobName line) (source : String) (lineNumber : ℕ) :
    ∃ found, parseNamedJob jobName source lineNumber line = .ok found := by
  unfold parseNamedJob
  simp only
  split
  · exact ⟨_, rfl⟩
  next hblank =>
    rcases h with hnil | ⟨id, name, state, reason, hfields, hname, hown⟩
    · exact absurd hnil hblank
    · rw [hfields]
      have hname' : (String.ofList (trimChars name)).isEmpty = false := by
        rw [← Bool.not_eq_true, String.isEmpty_iff]
        intro hempty
        rw [← String.toList_ofList (l := trimChars name), hempty] at hname
        exact hname rfl
      simp only [hname', Bool.false_eq_true, if_false]
      by_cases hsame : String.ofList (trimChars name) = jobName
      · obtain ⟨hdigits, hstate⟩ := hown hsame
        rw [if_neg (not_not.mpr hsame), if_neg (not_not.mpr hdigits)]
        cases hword : firstWord state with
        | none => exact absurd (firstWord_eq_none_iff.mp hword) hstate
        | some rawState => exact ⟨_, rfl⟩
      · exact ⟨none, if_pos hsame⟩

/-! ### What an output says -/

/-- A computation that succeeds on every item succeeds. -/
theorem exists_mapM_ok {ε α β : Type} {f : α → Except ε β} {xs : List α}
    (h : ∀ x ∈ xs, ∃ y, f x = .ok y) : ∃ ys, xs.mapM f = .ok ys := by
  induction xs with
  | nil => exact ⟨[], rfl⟩
  | cons x xs ih =>
      obtain ⟨y, hy⟩ := h x List.mem_cons_self
      obtain ⟨ys, hys⟩ := ih fun x' hx' => h x' (List.mem_cons_of_mem x hx')
      refine ⟨y :: ys, ?_⟩
      rw [List.mapM_cons, hy, hys]
      rfl

/-- The lines with their numbers are the lines. -/
theorem exists_mem_zipIdx_iff {α : Type} {xs : List α} {x : α} :
    (∃ entry ∈ xs.zipIdx, entry.1 = x) ↔ x ∈ xs := by
  rw [← List.mem_map, List.zipIdx_map_fst]

/-- What is parsed are the jobs of the lines. -/
theorem parseNamedJobs_ok {output jobName source : String} {jobs : List NamedJob}
    (h : parseNamedJobs output jobName source = .ok jobs) :
    ∃ parsed, (outputLines output).zipIdx.mapM (fun line =>
        parseNamedJob jobName source (line.2 + 1) line.1) = .ok parsed ∧
      jobs = parsed.filterMap id := by
  unfold parseNamedJobs at h
  unfold outputLines
  cases hparsed : (output.toList.splitOnP fun c => c.toNat == 10).zipIdx.mapM fun line =>
      parseNamedJob jobName source (line.2 + 1) line.1 with
  | error error =>
      rw [hparsed] at h
      cases h
  | ok parsed =>
      rw [hparsed] at h
      exact ⟨parsed, rfl, (Except.ok.inj h).symm⟩

/-- **An output is understood just when its lines are.** -/
theorem parseNamedJobs_ok_iff {output jobName source : String} :
    (∃ jobs, parseNamedJobs output jobName source = .ok jobs) ↔
      ∀ line ∈ outputLines output, AdmittedLine jobName line := by
  constructor
  · rintro ⟨jobs, h⟩ line hline
    obtain ⟨parsed, hparsed, -⟩ := parseNamedJobs_ok h
    obtain ⟨entry, hentry, rfl⟩ := exists_mem_zipIdx_iff.mpr hline
    obtain ⟨found, -, hfound⟩ := (exceptMapM_ok hparsed).1 entry hentry
    exact (admitted_of_parseNamedJob hfound).1
  · intro h
    obtain ⟨parsed, hparsed⟩ := @exists_mapM_ok _ _ _
      (fun line => parseNamedJob jobName source (line.2 + 1) line.1) (outputLines output).zipIdx
      fun entry hentry =>
        parseNamedJob_of_admitted (h entry.1 (exists_mem_zipIdx_iff.mp ⟨entry, hentry, rfl⟩)) _ _
    unfold outputLines at hparsed
    unfold parseNamedJobs
    rw [hparsed]
    exact ⟨_, rfl⟩

/-- **An output lists the jobs that its lines are rows of.** -/
theorem mem_parseNamedJobs {output jobName source : String} {jobs : List NamedJob}
    (h : parseNamedJobs output jobName source = .ok jobs) {job : NamedJob} :
    job ∈ jobs ↔ ∃ line ∈ outputLines output, RowOf jobName source line job := by
  obtain ⟨parsed, hparsed, rfl⟩ := parseNamedJobs_ok h
  rw [List.mem_filterMap]
  constructor
  · rintro ⟨found, hfound, hjob⟩
    obtain ⟨entry, hentry, hline⟩ := (exceptMapM_ok hparsed).2 found hfound
    exact ⟨entry.1, exists_mem_zipIdx_iff.mp ⟨entry, hentry, rfl⟩,
      ((admitted_of_parseNamedJob hline).2 job).mp hjob⟩
  · rintro ⟨line, hline, hrow⟩
    obtain ⟨entry, hentry, rfl⟩ := exists_mem_zipIdx_iff.mpr hline
    obtain ⟨found, hfound, hparse⟩ := (exceptMapM_ok hparsed).1 entry hentry
    exact ⟨found, hfound, ((admitted_of_parseNamedJob hparse).2 job).mpr hrow⟩

/-! ### The merge -/

/-- The jobs are in the order of their ids, without repetition. -/
def SortedJobs (jobs : List NamedJob) : Prop :=
  jobs.Pairwise fun job other => job.externalJobId < other.externalJobId

/-- The job ids of a list. -/
def jobIds (jobs : List NamedJob) : List String := jobs.map (·.externalJobId)

/-- An insertion adds the id of the job. -/
theorem mem_jobIds_insertNamedJob {job : NamedJob} {jobs : List NamedJob} {id : String} :
    id ∈ jobIds (insertNamedJob job jobs) ↔ id = job.externalJobId ∨ id ∈ jobIds jobs := by
  induction jobs with
  | nil => simp [insertNamedJob, jobIds]
  | cons other rest ih =>
      unfold insertNamedJob
      split
      · simp [jobIds]
      split
      next hsame => simp [jobIds, hsame]
      · simp only [jobIds, List.map_cons, List.mem_cons] at ih ⊢
        rw [ih]
        tauto

/-- An insertion keeps the order. -/
theorem SortedJobs.insertNamedJob {job : NamedJob} {jobs : List NamedJob} (h : SortedJobs jobs) :
    SortedJobs (insertNamedJob job jobs) := by
  induction jobs with
  | nil => exact List.pairwise_singleton _ _
  | cons other rest ih =>
      obtain ⟨hfirst, hrest⟩ := List.pairwise_cons.mp h
      unfold Beampipe.insertNamedJob
      split
      next hlt =>
        refine List.pairwise_cons.mpr ⟨fun next hnext => ?_, h⟩
        rcases List.mem_cons.mp hnext with rfl | hmem
        · exact hlt
        · exact lt_trans hlt (hfirst next hmem)
      next hge =>
        split
        next hsame =>
          exact List.pairwise_cons.mpr ⟨fun next hnext => hsame ▸ hfirst next hnext, hrest⟩
        next hne =>
          refine List.pairwise_cons.mpr ⟨fun next hnext => ?_, ih hrest⟩
          rcases mem_insertNamedJob hnext with rfl | hmem
          · exact lt_of_le_of_ne (not_lt.mp hge) (Ne.symm hne)
          · exact hfirst next hmem

theorem mem_insertNamedJob_self (job : NamedJob) (jobs : List NamedJob) :
    job ∈ insertNamedJob job jobs := by
  induction jobs with
  | nil => exact List.mem_cons_self
  | cons other rest ih =>
      unfold insertNamedJob
      split
      · exact List.mem_cons_self
      split
      · exact List.mem_cons_self
      · exact List.mem_cons_of_mem other ih

/-- Jobs in order have distinct ids. -/
theorem SortedJobs.nodup {jobs : List NamedJob} (h : SortedJobs jobs) : (jobIds jobs).Nodup :=
  List.pairwise_map.mpr (h.imp fun hlt => hlt.ne)

/-- A job that stays has another id than the inserted one. -/
theorem mem_insertNamedJob_cases {job other : NamedJob} {jobs : List NamedJob} (h : SortedJobs jobs)
    (hmem : other ∈ insertNamedJob job jobs) :
    other = job ∨ other ∈ jobs ∧ other.externalJobId ≠ job.externalJobId := by
  by_cases hid : other.externalJobId = job.externalJobId
  -- the ids are distinct, so a job with the id of the inserted one is that job
  · exact .inl (List.inj_on_of_nodup_map h.insertNamedJob.nodup hmem
      (mem_insertNamedJob_self job jobs) hid)
  · rcases mem_insertNamedJob hmem with heq | hold
    · exact .inl heq
    · exact .inr ⟨hold, hid⟩

/-- Jobs that are inserted one after the other replace those with their ids. -/
theorem foldl_insertNamedJob {entries jobs : List NamedJob} (h : SortedJobs jobs) :
    let merged := entries.foldl (fun jobs job => insertNamedJob job jobs) jobs
    SortedJobs merged ∧ (∀ id, id ∈ jobIds merged ↔ id ∈ jobIds jobs ∨ id ∈ jobIds entries) ∧
      ∀ job ∈ merged, job ∈ entries ∨ job ∈ jobs ∧ job.externalJobId ∉ jobIds entries := by
  induction entries generalizing jobs with
  | nil =>
      exact ⟨h, fun id => by simp [jobIds], fun job hmem => .inr ⟨hmem, List.not_mem_nil⟩⟩
  | cons entry entries ih =>
      obtain ⟨hsorted, hids, hcases⟩ := @ih (insertNamedJob entry jobs) h.insertNamedJob
      refine ⟨hsorted, fun id => ?_, fun job hmem => ?_⟩
      -- an id of the merge is that of the first entry or of what it is inserted into
      · rw [List.foldl_cons, hids, mem_jobIds_insertNamedJob]
        simp only [jobIds, List.map_cons, List.mem_cons]
        tauto
      · rcases hcases job hmem with hentry | ⟨hjob, hnot⟩
        · exact .inl (List.mem_cons_of_mem entry hentry)
        · rcases mem_insertNamedJob_cases h hjob with rfl | ⟨hold, hne⟩
          · exact .inl List.mem_cons_self
          · refine .inr ⟨hold, ?_⟩
            simp only [jobIds, List.map_cons, List.mem_cons, not_or] at hnot ⊢
            exact ⟨hne, hnot⟩

/-- **The queue's observation replaces accounting's**: each id is listed once, with what the queue
says about it if it lists it. -/
theorem mergeNamedJobs_spec (squeue sacct : List NamedJob) :
    (jobIds (mergeNamedJobs squeue sacct)).Nodup ∧
      (∀ id, id ∈ jobIds (mergeNamedJobs squeue sacct) ↔ id ∈ jobIds squeue ∨ id ∈ jobIds sacct) ∧
      ∀ job ∈ mergeNamedJobs squeue sacct,
        job ∈ squeue ∨ job ∈ sacct ∧ job.externalJobId ∉ jobIds squeue := by
  unfold mergeNamedJobs
  -- accounting is inserted first, and the queue replaces what has the same id
  rw [List.foldl_append]
  obtain ⟨hsorted, hids, hcases⟩ :=
    @foldl_insertNamedJob sacct [] List.Pairwise.nil
  obtain ⟨hsorted', hids', hcases'⟩ := @foldl_insertNamedJob squeue _ hsorted
  refine ⟨hsorted'.nodup, fun id => ?_, fun job hmem => ?_⟩
  · rw [hids', hids]
    simp only [jobIds, List.map_nil, List.not_mem_nil, false_or]
    tauto
  · rcases hcases' job hmem with hqueue | ⟨hold, hnot⟩
    · exact .inl hqueue
    · rcases hcases job hold with haccounting | ⟨hnone, -⟩
      · exact .inr ⟨haccounting, hnot⟩
      · cases hnone

/-! ### The complete lookup -/

/-- An output lists a job id in a row of the job name. -/
def ListsId (jobName source output id : String) : Prop :=
  ∃ line ∈ outputLines output, ∃ job, RowOf jobName source line job ∧ job.externalJobId = id

theorem mem_jobIds_iff {output jobName source : String} {jobs : List NamedJob}
    (h : parseNamedJobs output jobName source = .ok jobs) {id : String} :
    id ∈ jobIds jobs ↔ ListsId jobName source output id := by
  rw [jobIds, List.mem_map]
  constructor
  · rintro ⟨job, hjob, hid⟩
    obtain ⟨line, hline, hrow⟩ := (mem_parseNamedJobs h).mp hjob
    exact ⟨line, hline, job, hrow, hid⟩
  · rintro ⟨line, hline, job, hrow, hid⟩
    exact ⟨job, (mem_parseNamedJobs h).mpr ⟨line, hline, hrow⟩, hid⟩

/-- **The lookup fails closed**: it succeeds just when every line of both outputs is blank or a row
of four fields with a name, and every row of the job has a job id and a state.  The jobs are then
those of the rows of the job name, one for each id, as the queue has it where it lists the id. -/
theorem completeNamedJobLookup_spec (jobName : String)
    (accountingNotBefore queryStartedAt queryCompletedAt : ℕ) (squeueOutput sacctOutput : String) :
    ((∃ lookup, completeNamedJobLookup jobName accountingNotBefore queryStartedAt queryCompletedAt
        squeueOutput sacctOutput = .ok lookup) ↔
      (∀ line ∈ outputLines squeueOutput, AdmittedLine jobName line) ∧
        ∀ line ∈ outputLines sacctOutput, AdmittedLine jobName line) ∧
    ∀ lookup, completeNamedJobLookup jobName accountingNotBefore queryStartedAt queryCompletedAt
        squeueOutput sacctOutput = .ok lookup →
      lookup.squeueCompleted = true ∧ lookup.sacctCompleted = true ∧
      (lookup.jobs.map (·.externalJobId)).Nodup ∧
      (∀ id, id ∈ lookup.jobs.map (·.externalJobId) ↔
        ListsId jobName "squeue" squeueOutput id ∨ ListsId jobName "sacct" sacctOutput id) ∧
      ∀ job ∈ lookup.jobs,
        (∃ line ∈ outputLines squeueOutput, RowOf jobName "squeue" line job) ∨
          (∃ line ∈ outputLines sacctOutput, RowOf jobName "sacct" line job) ∧
            ¬ ListsId jobName "squeue" squeueOutput job.externalJobId := by
  rw [← @parseNamedJobs_ok_iff squeueOutput jobName "squeue",
    ← @parseNamedJobs_ok_iff sacctOutput jobName "sacct"]
  unfold completeNamedJobLookup
  constructor
  · constructor
    · rintro ⟨lookup, h⟩
      obtain ⟨squeue, hsqueue, h⟩ := exceptBind_ok h
      obtain ⟨sacct, hsacct, -⟩ := exceptBind_ok h
      exact ⟨⟨squeue, hsqueue⟩, sacct, hsacct⟩
    · rintro ⟨⟨squeue, hsqueue⟩, sacct, hsacct⟩
      rw [hsqueue, hsacct]
      exact ⟨_, rfl⟩
  · intro lookup h
    obtain ⟨squeue, hsqueue, h⟩ := exceptBind_ok h
    obtain ⟨sacct, hsacct, h⟩ := exceptBind_ok h
    cases h
    obtain ⟨hnodup, hids, hcases⟩ := mergeNamedJobs_spec squeue sacct
    refine ⟨rfl, rfl, hnodup, fun id => ?_, fun job hjob => ?_⟩
    · rw [← mem_jobIds_iff hsqueue, ← mem_jobIds_iff hsacct]
      exact hids id
    · rw [← mem_parseNamedJobs hsqueue, ← mem_parseNamedJobs hsacct, ← mem_jobIds_iff hsqueue]
      exact hcases job hjob

end Beampipe
