/-
What a backend has reported as its end is never rewritten.

A terminal section names the job or the session that it is about.  Later merges for the same one
keep it, whatever they carry and in whatever order they come; the only thing that may still be
added is the ledger status, once.  A verification of the outputs is kept for its artifact in the
same way, and no merge touches the manifest outside the run record.

Main definitions:

* `Beampipe.Terminal` — a terminal section that names its job or session;
* `Beampipe.Merge.slurmTerminalJob`, `Beampipe.Merge.dimTerminalSession` — what a terminal poll is
  recorded for;
* `Beampipe.Verified` — a recorded verification of an artifact.

Main results:

* `Beampipe.slurmTerminal_step`, `Beampipe.dimTerminal_step`, `Beampipe.verified_step` — what one
  merge keeps;
* `Beampipe.terminal_run` — what every step keeps, a run keeps;
* `Beampipe.runRecord_frozen` — **the freeze over every sequence of merges.**
-/

import Beampipe.RecordMerges

set_option relaxedAutoImplicit false
set_option autoImplicit false

namespace Beampipe

/-! ### Jobs, sessions and artifacts of a merge -/

/-- The job that a terminal Slurm poll is recorded for: the one that the section names already, if
it names one. -/
def Merge.slurmTerminalJob (manifest : Option Json) : Merge → Option String
  | .slurmPoll job _ _ _ _ true _ _ =>
      some (pinnedCompositeJobId (sectionFields "slurm" manifest) job)
  | _ => none

/-- The job that a submission or a poll of Slurm carries in its payload. -/
def Merge.namedSlurmJob : Merge → Option String
  | .slurmSubmit _ _ job _ _ => some job
  | .slurmPoll job _ _ _ _ _ _ _ => some job
  | _ => none

/-- The session that a terminal DIM poll is recorded for. -/
def Merge.dimTerminalSession : Merge → Option String
  | .dimPoll sessionId _ true _ _ _ => some sessionId
  | _ => none

/-- The artifact that a verification is about. -/
def Merge.verifiedArtifact : Merge → Option String
  | .outputVerification artifactId _ _ _ => some artifactId
  | _ => none

/-- The section of a backend has the terminal section `terminal`, which is one of `identity`. -/
structure Terminal (backend key identity : String) (terminal : Fields) (manifest : Option Json) :
    Prop where
  recorded : Json.lookupField "terminal" (sectionFields backend manifest) = some (.obj terminal)
  identified : Json.lookupField key terminal = some (.str identity)

/-- The terminal section of a Slurm job. -/
abbrev SlurmTerminal : String → Fields → Option Json → Prop :=
  Terminal "slurm" "composite_scheduler_job_id"

/-- The terminal section of a DIM session. -/
abbrev DimTerminal : String → Fields → Option Json → Prop := Terminal "dim" "session_id"

/-- The run record has the verification `verification` of an artifact. -/
structure Verified (artifactId : String) (verification : Fields) (manifest : Option Json) :
    Prop where
  recorded : runRecordSection "output_verification" manifest = some (.obj verification)
  identified : Json.lookupField "artifact_id" verification = some (.str artifactId)

/-! ### One merge -/

section Step

variable {backend key identity : String} {terminal : Fields} {existing : Option Json}
  {written : Json}

/-- A terminal section of its own job or session is the frozen one. -/
theorem Terminal.frozen (h : Terminal backend key identity terminal existing) :
    frozenTerminal key identity (Json.lookupField "terminal" (sectionFields backend existing)) =
      some terminal :=
  frozenTerminal_eq_some.2 ⟨h.recorded, h.identified⟩

/-- A section that keeps the terminal member keeps the terminal section. -/
theorem Terminal.keep (h : Terminal backend key identity terminal existing)
    (hkept : Json.lookupField "terminal" (sectionFields backend (some written)) =
      Json.lookupField "terminal" (sectionFields backend existing)) :
    Terminal backend key identity terminal (some written) :=
  ⟨hkept.trans h.recorded, h.identified⟩

/-- A merge of another section keeps the terminal section. -/
theorem Terminal.other {call : String × Merge} (h : Terminal backend key identity terminal existing)
    (hother : call.2.target ≠ backend) (hwritten : call.2.apply call.1 existing = some written) :
    ∃ terminal', Terminal backend key identity terminal' (some written) ∧
      LedgerAdded terminal terminal' :=
  ⟨terminal, h.keep (by rw [(apply_frame hwritten).sectionFields hother.symm]), .inl rfl⟩

/-- The ledger status is not what identifies a terminal section. -/
theorem Terminal.withLedgerStatus (hkey : key ≠ "ledger_status") {status : Option String}
    (hidentified : Json.lookupField key terminal = some (.str identity))
    (hwritten : Json.lookupField "terminal" (sectionFields backend (some written)) =
      some (.obj (withLedgerStatus status terminal))) :
    Terminal backend key identity (withLedgerStatus status terminal) (some written) :=
  ⟨hwritten, by
    rw [(ledgerAdded_withLedgerStatus status terminal).lookup (.inl hkey), hidentified]⟩

/-- The terminal section that a terminal poll leaves is one of its job. -/
theorem lookup_slurmTerminal_job (composite slurmJobId : String) (opts : SlurmPollManifestOpts)
    (observation slurm : Fields) :
    Json.lookupField "composite_scheduler_job_id"
      (slurmTerminal composite slurmJobId opts observation slurm) = some (.str composite) := by
  unfold slurmTerminal
  split
  next fields hfrozen => exact (frozenTerminal_eq_some.1 hfrozen).2
  next => exact lookup_newSlurmTerminal_composite composite slurmJobId opts observation

theorem lookup_dimTerminal_session {now sessionId sessionState : String} {error : Option String}
    {errorDropsCount : Option ℤ} {dim term : Fields}
    (h : dimTerminal now sessionId sessionState error errorDropsCount dim = some term) :
    Json.lookupField "session_id" term = some (.str sessionId) := by
  unfold dimTerminal at h
  split at h
  next fields hfrozen =>
    cases h
    exact (frozenTerminal_eq_some.1 hfrozen).2
  next =>
    obtain ⟨excerpt, -, rfl⟩ := Option.map_eq_some_iff.1 h
    rw [newDimTerminal, lookup_insertSome, if_neg (by decide), lookup_insertSome,
      if_neg (by decide), Json.lookupField_insertField_self]

/-- A submission keeps the terminal section. -/
theorem lookup_submitted_terminal (now : String) (existing : Option Json)
    (sessionId slurmJobId job : String) (loginNode remoteUser : Option String) :
    Json.lookupField "terminal" (sectionFields "slurm"
      (some (mergeSlurmSubmitIntoManifest now existing sessionId slurmJobId job loginNode
        remoteUser))) =
      Json.lookupField "terminal" (sectionFields "slurm" existing) := by
  rw [mergeSlurmSubmitIntoManifest, sectionFields_updateSection]
  rw [lookup_insertSome, if_neg (by decide), lookup_insertSome, if_neg (by decide),
    Json.lookupField_insertField_ne (by decide), Json.lookupField_insertField_ne (by decide),
    Json.lookupField_insertField_ne (by decide), Json.lookupField_insertField_ne (by decide),
    Json.lookupField_removeField_ne (by decide)]

/-- A deployment keeps the terminal section. -/
theorem lookup_deployed_terminal (now : String) (existing : Option Json)
    (sessionId dimRestBase : String) (verifySsl : Bool)
    (operatorUrls : Option (List (String × String))) :
    Json.lookupField "terminal" (sectionFields "dim"
      (some (mergeDimDeployIntoManifest now existing sessionId dimRestBase verifySsl
        operatorUrls))) =
      Json.lookupField "terminal" (sectionFields "dim" existing) := by
  rw [mergeDimDeployIntoManifest, sectionFields_updateSection]
  simp only
  rw [Json.lookupField_insertField_ne (by decide), Json.lookupField_insertField_ne (by decide),
    Json.lookupField_removeField_ne (by decide)]

/-- **A merge keeps the terminal section of a Slurm job**, unless it is a terminal poll of another
one. -/
theorem slurmTerminal_step {job : String} {call : String × Merge}
    (h : SlurmTerminal job terminal existing)
    (hjob : ∀ id ∈ call.2.slurmTerminalJob existing, id = job)
    (hwritten : call.2.apply call.1 existing = some written) :
    ∃ terminal', SlurmTerminal job terminal' (some written) ∧ LedgerAdded terminal terminal' := by
  obtain ⟨now, merge⟩ := call
  cases merge with
  | slurmSubmit sessionId slurmJobId id loginNode remoteUser =>
      cases hwritten
      exact ⟨terminal, h.keep (lookup_submitted_terminal ..), .inl rfl⟩
  | slurmPoll id slurmJobId state source rawLine recordTerminal status opts =>
      obtain ⟨raw, hsection⟩ := sectionFields_of_slurmPoll hwritten
      have hterminal := lookup_slurmPolled_terminal now id slurmJobId state source raw
        recordTerminal status opts (sectionFields "slurm" existing)
      rw [← hsection] at hterminal
      cases recordTerminal with
      | false => exact ⟨terminal, h.keep hterminal, .inl rfl⟩
      | true =>
          -- the job that the poll is recorded for is the one of the terminal section
          have hpinned := hjob _ rfl
          rw [if_pos rfl, hpinned, slurmTerminal, h.frozen] at hterminal
          exact ⟨_, .withLedgerStatus (by decide) h.identified hterminal,
            ledgerAdded_withLedgerStatus status terminal⟩
  | _ => exact h.other (by simp [Merge.target]) hwritten

/-- **A merge keeps the terminal section of a DIM session**, unless it is a terminal poll of another
one. -/
theorem dimTerminal_step {session : String} {call : String × Merge}
    (h : DimTerminal session terminal existing)
    (hsession : ∀ id ∈ call.2.dimTerminalSession, id = session)
    (hwritten : call.2.apply call.1 existing = some written) :
    ∃ terminal', DimTerminal session terminal' (some written) ∧
      LedgerAdded terminal terminal' := by
  obtain ⟨now, merge⟩ := call
  cases merge with
  | dimDeploy sessionId dimRestBase verifySsl operatorUrls =>
      cases hwritten
      exact ⟨terminal, h.keep (lookup_deployed_terminal ..), .inl rfl⟩
  | dimPoll sessionId sessionState recordTerminal status error errorDropsCount =>
      have hterminal := lookup_dimPolled_terminal (sectionFields_of_dimPoll hwritten)
      cases recordTerminal with
      | false => exact ⟨terminal, h.keep hterminal, .inl rfl⟩
      | true =>
          have hnamed := hsession _ rfl
          subst hnamed
          rw [if_pos rfl, dimTerminal, h.frozen, Option.map_some] at hterminal
          exact ⟨_, .withLedgerStatus (by decide) h.identified hterminal,
            ledgerAdded_withLedgerStatus status terminal⟩
  | _ => exact h.other (by simp [Merge.target]) hwritten

/-- **A merge keeps a recorded verification**, unless it verifies another artifact. -/
theorem verified_step {artifact : String} {verification : Fields} {call : String × Merge}
    (h : Verified artifact verification existing)
    (hartifact : ∀ id ∈ call.2.verifiedArtifact, id = artifact)
    (hwritten : call.2.apply call.1 existing = some written) :
    Verified artifact verification (some written) := by
  obtain ⟨now, merge⟩ := call
  have hother : merge.target ≠ "output_verification" →
      Verified artifact verification (some written) := by
    intro hne
    exact ⟨((apply_frame hwritten).sections _ hne.symm).trans h.recorded, h.identified⟩
  cases merge with
  | outputVerification artifactId inventorySha256 reportSha256 destinationUri =>
      have hnamed := hartifact _ rfl
      subst hnamed
      cases hwritten
      have hfrozen : frozenTerminal "artifact_id" artifactId
          (Json.lookupField "output_verification" (runRecord existing)) = some verification :=
        frozenTerminal_eq_some.2 ⟨h.recorded, h.identified⟩
      refine ⟨?_, h.identified⟩
      simp only [mergeOutputVerificationIntoManifest, hfrozen]
      rw [runRecordSection, runRecord_withRunRecord]
      exact h.recorded
  | _ => exact hother (by simp [Merge.target])

/-- A terminal poll leaves a terminal section of the job that it is recorded for. -/
theorem slurmTerminal_written {job : String} {call : String × Merge}
    (hjob : call.2.slurmTerminalJob existing = some job)
    (hwritten : call.2.apply call.1 existing = some written) :
    ∃ terminal, SlurmTerminal job terminal (some written) := by
  obtain ⟨now, merge⟩ := call
  cases merge with
  | slurmPoll id slurmJobId state source rawLine recordTerminal status opts =>
      cases recordTerminal with
      | false => cases hjob
      | true =>
          cases hjob
          obtain ⟨raw, hsection⟩ := sectionFields_of_slurmPoll hwritten
          have hterminal := lookup_slurmPolled_terminal now id slurmJobId state source raw true
            status opts (sectionFields "slurm" existing)
          rw [if_pos rfl, ← hsection] at hterminal
          exact ⟨_, .withLedgerStatus (by decide) (lookup_slurmTerminal_job ..) hterminal⟩
  | _ => cases hjob

theorem dimTerminal_written {session : String} {call : String × Merge}
    (hsession : call.2.dimTerminalSession = some session)
    (hwritten : call.2.apply call.1 existing = some written) :
    ∃ terminal, DimTerminal session terminal (some written) := by
  obtain ⟨now, merge⟩ := call
  cases merge with
  | dimPoll sessionId sessionState recordTerminal status error errorDropsCount =>
      cases recordTerminal with
      | false => cases hsession
      | true =>
          cases hsession
          have hpolled := sectionFields_of_dimPoll hwritten
          have hterminal := lookup_dimPolled_terminal hpolled
          simp only [dimPolled, if_true] at hpolled
          obtain ⟨term, hterm, -⟩ := Option.map_eq_some_iff.1 hpolled
          rw [if_pos rfl, hterm, Option.map_some] at hterminal
          exact ⟨_, .withLedgerStatus (by decide) (lookup_dimTerminal_session hterm) hterminal⟩
  | _ => cases hsession

theorem verified_written {artifact : String} {call : String × Merge}
    (hartifact : call.2.verifiedArtifact = some artifact)
    (hwritten : call.2.apply call.1 existing = some written) :
    ∃ verification, Verified artifact verification (some written) := by
  obtain ⟨now, merge⟩ := call
  cases merge with
  | outputVerification artifactId inventorySha256 reportSha256 destinationUri =>
      cases hartifact
      cases hwritten
      simp only [mergeOutputVerificationIntoManifest]
      split
      next fields hfrozen =>
        obtain ⟨hrecorded, hidentified⟩ := frozenTerminal_eq_some.1 hfrozen
        exact ⟨fields, by rw [runRecordSection, runRecord_withRunRecord, hrecorded], hidentified⟩
      next =>
        exact ⟨_, by rw [runRecordSection, runRecord_withRunRecord,
          Json.lookupField_insertField_self], by simp [Json.lookupField]⟩
  | _ => cases hartifact

/-- A section of the job `job` names no other. -/
theorem pinned_of_composite {job : String} {slurm : Fields}
    (h : Json.lookupField "composite_scheduler_job_id" slurm = some (.str job)) :
    pinnedCompositeJobId slurm job = job := by
  simp only [pinnedCompositeJobId, h, Option.bind_some, Json.asStr]
  cases hblank : isBlank job with
  | true => rw [Option.filter_some, if_neg (by simp [hblank]), Option.getD_none]
  | false => rw [Option.filter_some, if_pos (by simp [hblank]), Option.getD_some]

/-- A terminal poll leaves a section that names the job that it is recorded for. -/
theorem pinned_written {job : String} {call : String × Merge}
    (hjob : call.2.slurmTerminalJob existing = some job)
    (hwritten : call.2.apply call.1 existing = some written) :
    pinnedCompositeJobId (sectionFields "slurm" (some written)) job = job := by
  obtain ⟨now, merge⟩ := call
  cases merge with
  | slurmPoll id slurmJobId state source rawLine recordTerminal status opts =>
      cases recordTerminal with
      | false => cases hjob
      | true =>
          cases hjob
          obtain ⟨raw, hsection⟩ := sectionFields_of_slurmPoll hwritten
          refine pinned_of_composite ?_
          rw [hsection, lookup_slurmPolled_composite]
  | _ => cases hjob

/-- A section that names no job but `job`: a submission or a poll that carries `job` keeps it so. -/
theorem pinned_step {job : String} {call : String × Merge}
    (h : pinnedCompositeJobId (sectionFields "slurm" existing) job = job)
    (hjob : ∀ id ∈ call.2.namedSlurmJob, id = job)
    (hwritten : call.2.apply call.1 existing = some written) :
    pinnedCompositeJobId (sectionFields "slurm" (some written)) job = job := by
  obtain ⟨now, merge⟩ := call
  have hother : merge.target ≠ "slurm" →
      pinnedCompositeJobId (sectionFields "slurm" (some written)) job = job := by
    intro hne
    rw [(apply_frame hwritten).sectionFields hne.symm, h]
  cases merge with
  | slurmSubmit sessionId slurmJobId id loginNode remoteUser =>
      have hid := hjob _ rfl
      subst hid
      cases hwritten
      refine pinned_of_composite ?_
      rw [mergeSlurmSubmitIntoManifest, sectionFields_updateSection, lookup_insertSome,
        if_neg (by decide), lookup_insertSome, if_neg (by decide),
        Json.lookupField_insertField_ne (by decide), Json.lookupField_insertField_self]
  | slurmPoll id slurmJobId state source rawLine recordTerminal status opts =>
      have hid := hjob _ rfl
      subst hid
      obtain ⟨raw, hsection⟩ := sectionFields_of_slurmPoll hwritten
      refine pinned_of_composite ?_
      rw [hsection, lookup_slurmPolled_composite, h]
  | _ => exact hother (by simp [Merge.target])

end Step

/-! ### Runs -/

section Runs

variable {terminal : Fields} {manifest : Option Json} {later : List (String × Merge)}

/-- A terminal section that every step keeps survives every run. -/
theorem terminal_run {backend key identity : String} {meets : Option Json → String × Merge → Prop}
    (hstep : ∀ {terminal : Fields} {m : Option Json} {call : String × Merge} {written : Json},
      Terminal backend key identity terminal m → meets m call →
      call.2.apply call.1 m = some written →
      ∃ terminal', Terminal backend key identity terminal' (some written) ∧
        LedgerAdded terminal terminal')
    (h : Terminal backend key identity terminal manifest)
    (hlater : Runs.Meets Merge.step meets manifest later) :
    ∃ terminal', Terminal backend key identity terminal' (Runs.exec Merge.step manifest later) ∧
      LedgerAdded terminal terminal' := by
  refine Runs.exec_invariant
    (fun m => ∃ terminal', Terminal backend key identity terminal' m ∧
      LedgerAdded terminal terminal')
    (fun m call => ?_) ⟨terminal, h, .inl rfl⟩ hlater
  rintro ⟨terminal', hterminal, hadded⟩ hmeets
  refine step_induction
    (P := fun m => ∃ terminal', Terminal backend key identity terminal' m ∧
      LedgerAdded terminal terminal')
    ⟨terminal', hterminal, hadded⟩ fun written hwritten => ?_
  obtain ⟨terminal'', hterminal', hadded'⟩ := hstep hterminal hmeets hwritten
  exact ⟨terminal'', hterminal', hadded.trans hadded'⟩

/-- A terminal section of a job survives every run whose terminal polls are recorded for it. -/
theorem slurmTerminal_run {job : String} (h : SlurmTerminal job terminal manifest)
    (hjobs : Runs.Meets Merge.step (fun m call => ∀ id ∈ call.2.slurmTerminalJob m, id = job)
      manifest later) :
    ∃ terminal', SlurmTerminal job terminal' (Runs.exec Merge.step manifest later) ∧
      LedgerAdded terminal terminal' :=
  terminal_run slurmTerminal_step h hjobs

/-- A terminal section of a session survives every run whose terminal polls are of it. -/
theorem dimTerminal_run {session : String} (h : DimTerminal session terminal manifest)
    (hsessions : ∀ call ∈ later, ∀ id ∈ call.2.dimTerminalSession, id = session) :
    ∃ terminal', DimTerminal session terminal' (Runs.exec Merge.step manifest later) ∧
      LedgerAdded terminal terminal' :=
  terminal_run dimTerminal_step h (Runs.meets_of_forall hsessions)

/-- A verification survives every run whose verifications are of its artifact. -/
theorem verified_run {artifact : String} {verification : Fields}
    (h : Verified artifact verification manifest)
    (hartifacts : ∀ call ∈ later, ∀ id ∈ call.2.verifiedArtifact, id = artifact) :
    Verified artifact verification (Runs.exec Merge.step manifest later) := by
  refine Runs.exec_invariant (Verified artifact verification) (fun m call hm hartifact => ?_) h
    (Runs.meets_of_forall hartifacts)
  exact step_induction hm fun written hwritten => verified_step hm hartifact hwritten

/-- Merges that carry one job in their payloads are recorded for it, where no other is named. -/
theorem meets_of_named {job : String}
    (h : pinnedCompositeJobId (sectionFields "slurm" manifest) job = job)
    (hjobs : ∀ call ∈ later, ∀ id ∈ call.2.namedSlurmJob, id = job) :
    Runs.Meets Merge.step (fun m call => ∀ id ∈ call.2.slurmTerminalJob m, id = job) manifest
      later := by
  refine Runs.Meets.mono (fun m => pinnedCompositeJobId (sectionFields "slurm" m) job = job)
    (fun m call hm hjob => ?_) (fun m call hm hjob id hid => ?_) h (Runs.meets_of_forall hjobs)
  · exact step_induction
      (P := fun m => pinnedCompositeJobId (sectionFields "slurm" m) job = job) hm
      fun written hwritten => pinned_step hm hjob hwritten
  · obtain ⟨now, merge⟩ := call
    cases merge with
    | slurmPoll named slurmJobId state source rawLine recordTerminal status opts =>
        have hnamed := hjob _ rfl
        subst hnamed
        cases recordTerminal with
        | false => cases hid
        | true =>
            cases hid
            exact hm
    | _ => cases hid

/-- No merge touches the keys of an object manifest outside the run record. -/
theorem outside_run {fields : Fields} (h : manifest = some (.obj fields)) :
    ∃ fields', Runs.exec Merge.step manifest later = some (.obj fields') ∧
      ∀ key, key ≠ runRecordKey → Json.lookupField key fields' = Json.lookupField key fields := by
  refine Runs.exec_invariant
    (fun m : Option Json => ∃ fields', m = some (.obj fields') ∧
      ∀ key, key ≠ runRecordKey → Json.lookupField key fields' = Json.lookupField key fields)
    (fun m call => ?_) ⟨fields, h, fun _ _ => rfl⟩ (Runs.meets_true later)
  rintro ⟨fields', rfl, hsame⟩ -
  refine step_induction
    (P := fun m : Option Json => ∃ fields'', m = some (.obj fields'') ∧
      ∀ key, key ≠ runRecordKey → Json.lookupField key fields'' = Json.lookupField key fields)
    ⟨fields', rfl, hsame⟩ fun written hwritten => ?_
  have hframe := apply_frame hwritten
  cases written with
  | obj members =>
      refine ⟨members, rfl, fun key hkey => ?_⟩
      rw [← hsame key hkey]
      exact hframe.outside key hkey
  | _ => exact absurd hframe.isObject (by simp [Json.isObject])

end Runs

/-- **What a backend has reported as its end is never rewritten.**  From any manifest on, over any
sequence of merges: a terminal section of a Slurm job stays as long as no terminal poll is recorded
for another job, and in particular after it has been written and as long as no submission or poll
carries another job; one of a DIM session stays as long as no terminal poll is of another session;
all that is ever added is a ledger status where there is none.  A verification stays as long as no
other artifact is verified, and the manifest outside the run record stays in any case. -/
theorem runRecord_frozen (manifest : Option Json) (later : List (String × Merge)) :
    (∀ job terminal, SlurmTerminal job terminal manifest →
      Runs.Meets Merge.step (fun m call => ∀ id ∈ call.2.slurmTerminalJob m, id = job) manifest
        later →
      ∃ terminal', SlurmTerminal job terminal' (Runs.exec Merge.step manifest later) ∧
        LedgerAdded terminal terminal') ∧
    (∀ (call : String × Merge) job written, call.2.slurmTerminalJob manifest = some job →
      call.2.apply call.1 manifest = some written →
      ∃ terminal, SlurmTerminal job terminal (some written) ∧
        ((∀ other ∈ later, ∀ id ∈ other.2.namedSlurmJob, id = job) →
          ∃ terminal', SlurmTerminal job terminal'
            (Runs.exec Merge.step (some written) later) ∧ LedgerAdded terminal terminal')) ∧
    (∀ session terminal, DimTerminal session terminal manifest →
      (∀ call ∈ later, ∀ id ∈ call.2.dimTerminalSession, id = session) →
      ∃ terminal', DimTerminal session terminal' (Runs.exec Merge.step manifest later) ∧
        LedgerAdded terminal terminal') ∧
    (∀ (call : String × Merge) session written, call.2.dimTerminalSession = some session →
      call.2.apply call.1 manifest = some written →
      ∃ terminal, DimTerminal session terminal (some written)) ∧
    (∀ artifact verification, Verified artifact verification manifest →
      (∀ call ∈ later, ∀ id ∈ call.2.verifiedArtifact, id = artifact) →
      Verified artifact verification (Runs.exec Merge.step manifest later)) ∧
    (∀ (call : String × Merge) artifact written, call.2.verifiedArtifact = some artifact →
      call.2.apply call.1 manifest = some written →
      ∃ verification, Verified artifact verification (some written)) ∧
    (∀ fields, manifest = some (.obj fields) →
      ∃ fields', Runs.exec Merge.step manifest later = some (.obj fields') ∧
        ∀ key, key ≠ runRecordKey →
          Json.lookupField key fields' = Json.lookupField key fields) := by
  refine ⟨fun job terminal h hjobs => slurmTerminal_run h hjobs, fun call job written hjob hwritten
    => ?_, fun session terminal h hsessions => dimTerminal_run h hsessions,
    fun call session written hsession hwritten => dimTerminal_written hsession hwritten,
    fun artifact verification h hartifacts => verified_run h hartifacts,
    fun call artifact written hartifact hwritten => verified_written hartifact hwritten,
    fun fields h => outside_run h⟩
  obtain ⟨terminal, hterminal⟩ := slurmTerminal_written hjob hwritten
  exact ⟨terminal, hterminal, fun hjobs =>
    slurmTerminal_run hterminal (meets_of_named (pinned_written hjob hwritten) hjobs)⟩

end Beampipe
