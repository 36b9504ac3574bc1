/-
The merges of the run record as one step function.

A manifest is rewritten by any sequence of merges, each with a payload of its own and the clock of
its caller.  A merge that panics returns nothing, and the caller has nothing to store: the manifest
stays.  Every merge rewrites one section of the run record; what it leaves in that section is said
here once for each backend, so that the invariants of runs need not look into the merges again.

Main definitions:

* `Beampipe.Merge` — a call of one of the merges;
* `Beampipe.Merge.apply`, `Beampipe.Merge.step` — what it returns, and what is then stored;
* `Beampipe.Merge.target` — the section that it writes.

Main results:

* `Beampipe.apply_frame` — **a merge keeps the other sections and the other keys of the manifest**;
* `Beampipe.mergeSlurmPoll_eq`, `Beampipe.mergeDimPoll_eq` — a poll as one function on its section;
* `Beampipe.lookup_slurmPolled_terminal`, `Beampipe.lookup_dimPolled_terminal` — the terminal
  section after a poll.
-/

import Beampipe.RunRecord
import Beampipe.Runs

set_option relaxedAutoImplicit false
set_option autoImplicit false

namespace Beampipe

/-- A call of one of the merges, with its payload. -/
inductive Merge where
  | slurmSubmit (sessionId slurmJobId compositeSchedulerJobId : String)
      (loginNode remoteUser : Option String)
  | schedulerTimeout (error : String)
  | slurmPoll (compositeSchedulerJobId slurmJobId state source : String) (rawLine : Option String)
      (recordTerminal : Bool) (terminalLedgerStatus : Option String) (opts : SlurmPollManifestOpts)
  | dimDeploy (sessionId dimRestBase : String) (verifySsl : Bool)
      (operatorUrls : Option (List (String × String)))
  | dimPoll (sessionId sessionState : String) (recordTerminal : Bool)
      (terminalLedgerStatus error : Option String) (errorDropsCount : Option ℤ)
  | outputVerification (artifactId inventorySha256 reportSha256 : String)
      (destinationUri : Option String)
  | slurmPollTickRound (round : ℤ)
  | dimPollTickRound (round : ℤ)
  | dimPollSummary (summary : Json)
  deriving DecidableEq, Repr

namespace Merge

/-- The manifest that a merge returns; without a value where it panics. -/
def apply (now : String) (existing : Option Json) : Merge → Option Json
  | slurmSubmit sessionId slurmJobId compositeSchedulerJobId loginNode remoteUser =>
      some (mergeSlurmSubmitIntoManifest now existing sessionId slurmJobId compositeSchedulerJobId
        loginNode remoteUser)
  | schedulerTimeout error => mergeSchedulerTimeoutIntoManifest now existing error
  | slurmPoll compositeSchedulerJobId slurmJobId state source rawLine recordTerminal
      terminalLedgerStatus opts =>
      mergeSlurmPollIntoManifest now existing compositeSchedulerJobId slurmJobId state source
        rawLine recordTerminal terminalLedgerStatus opts
  | dimDeploy sessionId dimRestBase verifySsl operatorUrls =>
      some (mergeDimDeployIntoManifest now existing sessionId dimRestBase verifySsl operatorUrls)
  | dimPoll sessionId sessionState recordTerminal terminalLedgerStatus error errorDropsCount =>
      mergeDimPollIntoManifest now existing sessionId sessionState recordTerminal
        terminalLedgerStatus error errorDropsCount
  | outputVerification artifactId inventorySha256 reportSha256 destinationUri =>
      some (mergeOutputVerificationIntoManifest now existing artifactId inventorySha256
        reportSha256 destinationUri)
  | slurmPollTickRound round => some (mergeSlurmPollTickRound now existing round)
  | dimPollTickRound round => some (mergeDimPollTickRound now existing round)
  | dimPollSummary summary => some (mergePollSummary existing "dim_poll" summary)

/-- The stored manifest after a merge at some time; a merge that panics stores nothing. -/
def step (manifest : Option Json) (call : String × Merge) : Option Json :=
  (call.2.apply call.1 manifest).or manifest

/-- The section of the run record that a merge writes. -/
def target : Merge → String
  | slurmSubmit .. => "slurm"
  | schedulerTimeout .. => "scheduler"
  | slurmPoll .. => "slurm"
  | dimDeploy .. => "dim"
  | dimPoll .. => "dim"
  | outputVerification .. => "output_verification"
  | slurmPollTickRound .. => "slurm_poll"
  | dimPollTickRound .. => "dim_poll"
  | dimPollSummary .. => "dim_poll"

end Merge

/-! ### What is left alone -/

/-- The other keys of the manifest, and the sections of the run record but one, are what they
were. -/
structure Frames (target : String) (existing : Option Json) (written : Json) : Prop where
  isObject : written.isObject = true
  outside : ∀ key, key ≠ runRecordKey →
    Json.lookupField key (object (some written)) = Json.lookupField key (object existing)
  sections : ∀ name, name ≠ target →
    runRecordSection name (some written) = runRecordSection name existing

/-- The members of a section of the run record. -/
def sectionFields (name : String) (manifest : Option Json) : Fields :=
  object (runRecordSection name manifest)

theorem Frames.sectionFields {target name : String} {existing : Option Json} {written : Json}
    (h : Frames target existing written) (hname : name ≠ target) :
    sectionFields name (some written) = sectionFields name existing := by
  rw [Beampipe.sectionFields, Beampipe.sectionFields, h.sections name hname]

theorem sectionFields_updateSection (existing : Option Json) (name : String)
    (f : Fields → Fields) :
    sectionFields name (some (updateSection existing name f)) =
      f (sectionFields name existing) := by
  rw [sectionFields, section_updateSection_self]
  rfl

theorem frames_withRunRecord {target : String} {existing : Option Json} {record : Fields}
    (h : ∀ name, name ≠ target →
      Json.lookupField name record = Json.lookupField name (runRecord existing)) :
    Frames target existing (withRunRecord existing record) where
  isObject := rfl
  outside key hkey := Json.lookupField_insertField_ne hkey _ _
  sections name hname := by
    rw [runRecordSection, runRecord_withRunRecord]
    exact h name hname

theorem frames_updateSection (existing : Option Json) (name : String) (f : Fields → Fields) :
    Frames name existing (updateSection existing name f) :=
  frames_withRunRecord fun _ hother => Json.lookupField_insertField_ne hother _ _

/-- What a section that may panic is rewritten to. -/
theorem tryUpdateSection_eq_some {existing : Option Json} {name : String}
    {f : Fields → Option Fields} {written : Json} :
    tryUpdateSection existing name f = some written ↔
      ∃ fields, f (object (runRecordSection name existing)) = some fields ∧
        updateSection existing name (fun _ => fields) = written := by
  simp [tryUpdateSection, Option.map_eq_some_iff]

/-- The summary of a poll is written, unless the run record is there and not an object. -/
theorem mergePollSummary_cases (existing : Option Json) (name : String) (summary : Json) :
    mergePollSummary existing name summary =
      withRunRecord existing (Json.insertField name summary (runRecord existing)) ∨
    mergePollSummary existing name summary = .obj (object existing) := by
  cases existing with
  | none => exact .inl rfl
  | some base =>
      cases base with
      | obj fields =>
          cases hrecord : Json.lookupField runRecordKey fields with
          | none =>
              exact .inl (by simp [mergePollSummary, withRunRecord, runRecord, object, hrecord])
          | some record =>
              cases record with
              | obj members =>
                  exact .inl (by simp [mergePollSummary, withRunRecord, runRecord, object, hrecord])
              | _ => exact .inr (by simp [mergePollSummary, object, hrecord])
      | _ => exact .inl rfl

theorem frames_pollSummary (existing : Option Json) (name : String) (summary : Json) :
    Frames name existing (mergePollSummary existing name summary) := by
  rcases mergePollSummary_cases existing name summary with heq | heq
  · rw [heq]
    exact frames_withRunRecord fun other hother => Json.lookupField_insertField_ne hother _ _
  · rw [heq]
    exact ⟨rfl, fun _ _ => rfl, fun _ _ => rfl⟩

theorem frames_outputVerification (now : String) (existing : Option Json)
    (artifactId inventorySha256 reportSha256 : String) (destinationUri : Option String) :
    Frames "output_verification" existing (mergeOutputVerificationIntoManifest now existing
      artifactId inventorySha256 reportSha256 destinationUri) := by
  simp only [mergeOutputVerificationIntoManifest]
  split
  · exact frames_withRunRecord fun _ _ => rfl
  · exact frames_withRunRecord fun _ hother => Json.lookupField_insertField_ne hother _ _

theorem frames_pollTickRound (key now : String) (existing : Option Json) (round : ℤ) :
    Frames key existing (mergePollTickRound key now existing round) :=
  frames_updateSection existing key _

/-- **A merge keeps the other sections and the other keys of the manifest.** -/
theorem apply_frame {merge : Merge} {now : String} {existing : Option Json} {written : Json}
    (h : merge.apply now existing = some written) : Frames merge.target existing written := by
  cases merge with
  | slurmSubmit =>
      cases h
      exact frames_updateSection existing "slurm" _
  | schedulerTimeout =>
      obtain ⟨excerpt, -, rfl⟩ := Option.map_eq_some_iff.1 h
      exact frames_updateSection existing "scheduler" _
  | slurmPoll =>
      obtain ⟨raw, -, rfl⟩ := Option.map_eq_some_iff.1 h
      exact frames_updateSection existing "slurm" _
  | dimDeploy =>
      cases h
      exact frames_updateSection existing "dim" _
  | dimPoll =>
      simp only [Merge.apply, mergeDimPollIntoManifest] at h
      obtain ⟨fields, -, rfl⟩ := tryUpdateSection_eq_some.1 h
      exact frames_updateSection existing "dim" _
  | outputVerification =>
      cases h
      exact frames_outputVerification ..
  | slurmPollTickRound =>
      cases h
      exact frames_pollTickRound "slurm_poll" now existing _
  | dimPollTickRound =>
      cases h
      exact frames_pollTickRound "dim_poll" now existing _
  | dimPollSummary =>
      cases h
      exact frames_pollSummary existing "dim_poll" _

/-- What holds of a manifest and of all that a merge can make of it holds after a step. -/
theorem step_induction {P : Option Json → Prop} {manifest : Option Json} {call : String × Merge}
    (hstays : P manifest)
    (hwrites : ∀ written, call.2.apply call.1 manifest = some written → P (some written)) :
    P (Merge.step manifest call) := by
  unfold Merge.step
  cases happly : call.2.apply call.1 manifest with
  | none => exact hstays
  | some written => exact hwrites written happly

/-! ### Polls -/

theorem asStr_eq_some {value : Json} {text : String} :
    value.asStr = some text ↔ value = .str text := by
  cases value <;> simp [Json.asStr]

/-- A terminal section is kept if it is an object that names the same job or session. -/
theorem frozenTerminal_eq_some {key identity : String} {terminal : Option Json} {fields : Fields} :
    frozenTerminal key identity terminal = some fields ↔
      terminal = some (.obj fields) ∧ Json.lookupField key fields = some (.str identity) := by
  unfold frozenTerminal
  split
  next members =>
    simp only [Option.ite_none_right_eq_some, Option.bind_eq_some_iff, asStr_eq_some,
      Option.some.injEq, Json.obj.injEq]
    constructor
    · rintro ⟨⟨value, hvalue, rfl⟩, rfl⟩
      exact ⟨rfl, hvalue⟩
    · rintro ⟨rfl, hvalue⟩
      exact ⟨⟨_, hvalue, rfl⟩, rfl⟩
  next hother =>
    constructor
    · intro h
      cases h
    · rintro ⟨rfl, -⟩
      exact absurd rfl (hother fields)

/-- The ledger status is added to a terminal section that has none. -/
def LedgerAdded (terminal terminal' : Fields) : Prop :=
  terminal' = terminal ∨ Json.lookupField "ledger_status" terminal = none ∧
    ∃ status : String, terminal' = Json.insertField "ledger_status" (.str status) terminal

theorem ledgerAdded_withLedgerStatus (status : Option String) (terminal : Fields) :
    LedgerAdded terminal (withLedgerStatus status terminal) := by
  unfold withLedgerStatus
  cases status with
  | none => exact .inl rfl
  | some status =>
      cases hledger : Json.lookupField "ledger_status" terminal with
      | none => exact .inr ⟨hledger, status, by simp⟩
      | some value => exact .inl (by simp)

/-- A ledger status that is there stays, and so does everything else. -/
theorem LedgerAdded.lookup {terminal terminal' : Fields} (h : LedgerAdded terminal terminal')
    {key : String} (hkey : key ≠ "ledger_status" ∨ Json.lookupField key terminal ≠ none) :
    Json.lookupField key terminal' = Json.lookupField key terminal := by
  rcases h with rfl | ⟨hnone, status, rfl⟩
  · rfl
  · refine Json.lookupField_insertField_ne ?_ _ _
    rcases hkey with hne | hsome
    · exact hne
    · rintro rfl
      exact hsome hnone

theorem LedgerAdded.trans {first second third : Fields} (h : LedgerAdded first second)
    (h' : LedgerAdded second third) : LedgerAdded first third := by
  rcases h with rfl | ⟨hnone, status, rfl⟩
  · exact h'
  · rcases h' with rfl | ⟨hnone', -⟩
    · exact .inr ⟨hnone, status, rfl⟩
    · rw [Json.lookupField_insertField_self] at hnone'
      cases hnone'

/-- The observation of a Slurm poll. -/
def slurmObservation (now state source : String) (exitCode : Option ℤ) (raw : Option String) :
    Fields :=
  insertSome "raw" (raw.map .str) <|
    insertSome "exit_code" (exitCode.map fun code => .num (.int code)) <|
      [("state", .str state), ("source", .str source), ("observed_at", .str now)]

/-- The Slurm section with an observation, before the terminal section. -/
def slurmObserved (composite slurmJobId : String) (remoteSessionDir : Option String)
    (observation slurm : Fields) : Fields :=
  let identified :=
    Json.insertField "composite_scheduler_job_id" (.str composite) <|
      Json.insertField "slurm_job_id" (.str slurmJobId) <| Json.removeField "observations" slurm
  Json.insertField "last_observation" (.obj observation)
    (match remoteSessionDir.filter fun dir => !isBlank dir with
    | some dir =>
        Json.insertField "paths"
          (.obj (Json.insertField "session_dir" (.str (trim dir))
            (object (Json.lookupField "paths" identified)))) identified
    | none => identified)

section SlurmPoll

variable (composite slurmJobId : String) (remoteSessionDir : Option String)
  (observation slurm : Fields)

@[simp] theorem lookup_slurmObserved_composite :
    Json.lookupField "composite_scheduler_job_id"
      (slurmObserved composite slurmJobId remoteSessionDir observation slurm) =
        some (.str composite) := by
  simp only [slurmObserved]
  rw [Json.lookupField_insertField_ne (by decide)]
  split
  · rw [Json.lookupField_insertField_ne (by decide), Json.lookupField_insertField_self]
  · rw [Json.lookupField_insertField_self]

@[simp] theorem lookup_slurmObserved_observation :
    Json.lookupField "last_observation"
      (slurmObserved composite slurmJobId remoteSessionDir observation slurm) =
        some (.obj observation) :=
  Json.lookupField_insertField_self ..

/-- Everything that a poll does not name is kept in the section. -/
theorem lookup_slurmObserved_of_notMem {key : String}
    (h : key ∉ ["observations", "slurm_job_id", "composite_scheduler_job_id", "paths",
      "last_observation"]) :
    Json.lookupField key (slurmObserved composite slurmJobId remoteSessionDir observation slurm) =
      Json.lookupField key slurm := by
  simp only [List.mem_cons, List.not_mem_nil, or_false, not_or] at h
  obtain ⟨hobservations, hnumber, hcomposite, hpaths, hlast⟩ := h
  have hidentified : Json.lookupField key
      (Json.insertField "composite_scheduler_job_id" (.str composite) <|
        Json.insertField "slurm_job_id" (.str slurmJobId) <|
          Json.removeField "observations" slurm) = Json.lookupField key slurm := by
    rw [Json.lookupField_insertField_ne hcomposite, Json.lookupField_insertField_ne hnumber,
      Json.lookupField_removeField_ne hobservations]
  simp only [slurmObserved]
  rw [Json.lookupField_insertField_ne hlast]
  split
  · rw [Json.lookupField_insertField_ne hpaths, hidentified]
  · exact hidentified

end SlurmPoll

/-- The terminal section that a poll writes where none is kept. -/
def newSlurmTerminal (composite slurmJobId : String) (opts : SlurmPollManifestOpts)
    (observation : Fields) : Fields :=
  insertSome "diagnostics" (opts.diagnostics.filter Json.isObject) <|
    insertSome "reason" ((opts.reason.filter fun r => !r.isEmpty).map .str) <|
      Json.insertField "slurm_job_id_ref" (.str slurmJobId) <|
        Json.insertField "composite_scheduler_job_id" (.str composite) observation

theorem lookup_newSlurmTerminal_composite (composite slurmJobId : String)
    (opts : SlurmPollManifestOpts) (observation : Fields) :
    Json.lookupField "composite_scheduler_job_id"
      (newSlurmTerminal composite slurmJobId opts observation) = some (.str composite) := by
  rw [newSlurmTerminal, lookup_insertSome, if_neg (by decide), lookup_insertSome,
    if_neg (by decide), Json.lookupField_insertField_ne (by decide),
    Json.lookupField_insertField_self]

/-- The terminal section after a terminal poll. -/
def slurmTerminal (composite slurmJobId : String) (opts : SlurmPollManifestOpts)
    (observation slurm : Fields) : Fields :=
  match frozenTerminal "composite_scheduler_job_id" composite
      (Json.lookupField "terminal" slurm) with
  | some fields => fields
  | none => newSlurmTerminal composite slurmJobId opts observation

/-- The Slurm section after a poll. -/
def slurmPolled (now job slurmJobId state source : String) (raw : Option String)
    (recordTerminal : Bool) (status : Option String) (opts : SlurmPollManifestOpts)
    (slurm : Fields) : Fields :=
  let composite := pinnedCompositeJobId slurm job
  let observation := slurmObservation now state source opts.exitCode raw
  let observed := slurmObserved composite slurmJobId opts.remoteSessionDir observation slurm
  if recordTerminal then
    Json.insertField "terminal"
      (.obj (withLedgerStatus status (slurmTerminal composite slurmJobId opts observation slurm)))
      observed
  else observed

/-- A poll rewrites the Slurm section, unless its raw line cannot be cut. -/
theorem mergeSlurmPoll_eq (now job slurmJobId state source : String) (rawLine : Option String)
    (recordTerminal : Bool) (status : Option String) (opts : SlurmPollManifestOpts)
    (existing : Option Json) :
    mergeSlurmPollIntoManifest now existing job slurmJobId state source rawLine recordTerminal
        status opts =
      (trimRaw rawLine).map fun raw => updateSection existing "slurm"
        (slurmPolled now job slurmJobId state source raw recordTerminal status opts) := by
  refine congrArg (fun f => (trimRaw rawLine).map f) (funext fun raw =>
    congrArg (updateSection existing "slurm") (funext fun slurm => ?_))
  -- the terminal section is read after the observation, which leaves it alone
  have hkept : Json.lookupField "terminal"
      (slurmObserved (pinnedCompositeJobId slurm job) slurmJobId opts.remoteSessionDir
        (slurmObservation now state source opts.exitCode raw) slurm) =
      Json.lookupField "terminal" slurm :=
    lookup_slurmObserved_of_notMem _ _ _ _ _ (by decide)
  simp only [slurmPolled, slurmTerminal]
  rw [← hkept]
  cases recordTerminal with
  | false => rfl
  | true => rfl

section SlurmPolled

variable (now job slurmJobId state source : String) (raw : Option String) (recordTerminal : Bool)
  (status : Option String) (opts : SlurmPollManifestOpts) (slurm : Fields)

theorem lookup_slurmPolled_composite :
    Json.lookupField "composite_scheduler_job_id"
      (slurmPolled now job slurmJobId state source raw recordTerminal status opts slurm) =
        some (.str (pinnedCompositeJobId slurm job)) := by
  simp only [slurmPolled]
  split
  · rw [Json.lookupField_insertField_ne (by decide), lookup_slurmObserved_composite]
  · rw [lookup_slurmObserved_composite]

theorem lookup_slurmPolled_observation :
    Json.lookupField "last_observation"
      (slurmPolled now job slurmJobId state source raw recordTerminal status opts slurm) =
        some (.obj (slurmObservation now state source opts.exitCode raw)) := by
  simp only [slurmPolled]
  split
  · rw [Json.lookupField_insertField_ne (by decide), lookup_slurmObserved_observation]
  · rw [lookup_slurmObserved_observation]

/-- A poll writes a terminal section only when it is told to, and keeps the one of its job. -/
theorem lookup_slurmPolled_terminal :
    Json.lookupField "terminal"
      (slurmPolled now job slurmJobId state source raw recordTerminal status opts slurm) =
      if recordTerminal then
        some (.obj (withLedgerStatus status
          (slurmTerminal (pinnedCompositeJobId slurm job) slurmJobId opts
            (slurmObservation now state source opts.exitCode raw) slurm)))
      else Json.lookupField "terminal" slurm := by
  simp only [slurmPolled]
  split
  · rw [Json.lookupField_insertField_self]
  · exact lookup_slurmObserved_of_notMem _ _ _ _ _ (by decide)

end SlurmPolled

/-- The observation of a DIM poll. -/
def dimObservation (now sessionState : String) : Fields :=
  [("session_state", .str sessionState), ("observed_at", .str now)]

/-- The DIM section with an observation, before the terminal section. -/
def dimObserved (sessionId : String) (observation dim : Fields) : Fields :=
  Json.insertField "last_observation" (.obj observation)
    (Json.insertField "session_id" (.str sessionId) (Json.removeField "observations" dim))

/-- The terminal section that a poll writes where none is kept. -/
def newDimTerminal (sessionId : String) (errorDropsCount : Option ℤ) (observation : Fields)
    (excerpt : Option String) : Fields :=
  insertSome "error_drops_count" (errorDropsCount.map fun n => .num (.int n)) <|
    insertSome "error" (excerpt.map .str) <|
      Json.insertField "session_id" (.str sessionId) observation

/-- The terminal section after a terminal poll. -/
def dimTerminal (now sessionId sessionState : String) (error : Option String)
    (errorDropsCount : Option ℤ) (dim : Fields) : Option Fields :=
  match frozenTerminal "session_id" sessionId (Json.lookupField "terminal" dim) with
  | some fields => some fields
  | none =>
      (trimRaw error).map
        (newDimTerminal sessionId errorDropsCount (dimObservation now sessionState))

/-- The DIM section after a poll. -/
def dimPolled (now sessionId sessionState : String) (recordTerminal : Bool)
    (status error : Option String) (errorDropsCount : Option ℤ) (dim : Fields) : Option Fields :=
  let observed := dimObserved sessionId (dimObservation now sessionState) dim
  if recordTerminal then
    (dimTerminal now sessionId sessionState error errorDropsCount dim).map fun term =>
      Json.insertField "terminal" (.obj (withLedgerStatus status term)) observed
  else some observed

/-- The Slurm section after a poll that returned. -/
theorem sectionFields_of_slurmPoll {now job slurmJobId state source : String}
    {rawLine : Option String} {recordTerminal : Bool} {status : Option String}
    {opts : SlurmPollManifestOpts} {existing : Option Json} {written : Json}
    (h : (Merge.slurmPoll job slurmJobId state source rawLine recordTerminal status opts).apply now
      existing = some written) :
    ∃ raw, sectionFields "slurm" (some written) =
      slurmPolled now job slurmJobId state source raw recordTerminal status opts
        (sectionFields "slurm" existing) := by
  simp only [Merge.apply, mergeSlurmPoll_eq] at h
  obtain ⟨raw, -, rfl⟩ := Option.map_eq_some_iff.1 h
  exact ⟨raw, sectionFields_updateSection ..⟩

theorem lookup_dimObserved_terminal (sessionId : String) (observation dim : Fields) :
    Json.lookupField "terminal" (dimObserved sessionId observation dim) =
      Json.lookupField "terminal" dim := by
  rw [dimObserved, Json.lookupField_insertField_ne (by decide),
    Json.lookupField_insertField_ne (by decide), Json.lookupField_removeField_ne (by decide)]

/-- A poll rewrites the DIM section, unless it writes an error that cannot be cut. -/
theorem mergeDimPoll_eq (now sessionId sessionState : String) (recordTerminal : Bool)
    (status error : Option String) (errorDropsCount : Option ℤ) (existing : Option Json) :
    mergeDimPollIntoManifest now existing sessionId sessionState recordTerminal status error
        errorDropsCount =
      tryUpdateSection existing "dim"
        (dimPolled now sessionId sessionState recordTerminal status error errorDropsCount) := by
  refine congrArg (tryUpdateSection existing "dim") (funext fun dim => ?_)
  simp only [dimPolled, dimTerminal]
  rw [← lookup_dimObserved_terminal sessionId (dimObservation now sessionState) dim]
  cases recordTerminal with
  | false => rfl
  | true => rfl

/-- The DIM section after a poll that returned. -/
theorem sectionFields_of_dimPoll {now sessionId sessionState : String} {recordTerminal : Bool}
    {status error : Option String} {errorDropsCount : Option ℤ} {existing : Option Json}
    {written : Json}
    (h : (Merge.dimPoll sessionId sessionState recordTerminal status error errorDropsCount).apply now
      existing = some written) :
    dimPolled now sessionId sessionState recordTerminal status error errorDropsCount
      (sectionFields "dim" existing) = some (sectionFields "dim" (some written)) := by
  simp only [Merge.apply, mergeDimPoll_eq] at h
  obtain ⟨polled, hpolled, rfl⟩ := tryUpdateSection_eq_some.1 h
  rw [sectionFields_updateSection, sectionFields, hpolled]

/-- A poll writes a terminal section only when it is told to. -/
theorem lookup_dimPolled_terminal {now sessionId sessionState : String} {recordTerminal : Bool}
    {status error : Option String} {errorDropsCount : Option ℤ} {dim polled : Fields}
    (h : dimPolled now sessionId sessionState recordTerminal status error errorDropsCount dim =
      some polled) :
    Json.lookupField "terminal" polled =
      if recordTerminal then
        (dimTerminal now sessionId sessionState error errorDropsCount dim).map fun term =>
          .obj (withLedgerStatus status term)
      else Json.lookupField "terminal" dim := by
  simp only [dimPolled] at h
  split at h
  next hrecord =>
    obtain ⟨term, hterm, rfl⟩ := Option.map_eq_some_iff.1 h
    rw [if_pos hrecord, hterm, Json.lookupField_insertField_self]
    rfl
  next hrecord =>
    cases h
    rw [if_neg hrecord, lookup_dimObserved_terminal]

end Beampipe
