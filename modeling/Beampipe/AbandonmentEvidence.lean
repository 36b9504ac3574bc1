/-
The evidence for giving a submission up.

An operator may abandon a Slurm submission whose job is unknown, once repeated lookups by name have
found nothing.  The evidence is read back from the log of lookups: the newest 500 of them since the
end of the quiet time are parsed, and a fold looks for a sighting and for three negative lookups far
enough apart.  A sighting that more than 500 lookups have followed is not among them.

Main definitions:

* `Beampipe.parseSlurmLookupEvidence`, `Beampipe.validateSlurmAbandonmentEvidence`,
  `Beampipe.slurmAbandonmentEvidence` — the evidence as the source computes it;
* `Beampipe.NegativesSpan`, `Beampipe.Store.AbandonmentSafe` — what the log has to show;
* `Beampipe.Store.SightingsExamined` — the sightings are among the lookups that are examined.

Main results:

* `Beampipe.Store.parse_lookupObservation` — what a recorded lookup is parsed to;
* `Beampipe.validateSlurmAbandonmentEvidence_eq_ok_iff` — the checks without their order;
* `Beampipe.validateSlurmAbandonmentEvidence_ok` — what accepted evidence shows;
* `Beampipe.Store.abandonment_safe_iff` — **when an abandonment is safe.**
-/

import Beampipe.SubmissionReceipts

set_option relaxedAutoImplicit false
set_option autoImplicit false

namespace Beampipe

/-! ### Attempts -/

/-- `SlurmLookupEvidenceAttempt`. -/
structure SlurmLookupEvidenceAttempt where
  observationId : Uuid
  lookupId : Uuid
  observedAt : ℕ
  daliugeSessionId : String
  intentObservationId : Uuid
  profileSha256 : String
  targetFingerprint : String
  accountingNotBefore : ℕ
  queryCompletedAt : ℕ
  squeueComplete : Bool
  sacctComplete : Bool
  result : String
  eligibleForAbandonment : Bool
  deriving DecidableEq, Repr

/-- A field of the payload, or the error that names it. -/
def evidenceField {α : Type} (row : ExecutionObservationRow) (field : String) :
    Option α → Except String α
  | some value => .ok value
  | none =>
      .error ("submission_abandonment_evidence_invalid: "
        ++ s!"Slurm lookup observation {row.uuid} has invalid or missing " ++ field)

/-- `parse_slurm_lookup_evidence`. -/
def parseSlurmLookupEvidence (row : ExecutionObservationRow) :
    Except String SlurmLookupEvidenceAttempt := do
  let payload := row.payload
  -- identifiers and times are numbers in the payload of a lookup
  let number := fun field => evidenceField row field ((payload.get field).bind Json.asU64)
  let string := fun field =>
    evidenceField row field
      (((payload.get field).bind Json.asStr).filter fun value => !value.isEmpty)
  let complete := fun source =>
    (((payload.get "sources").bind (Json.get source)).bind Json.asBool)
  if (payload.get "schema").bind Json.asStr ≠ some slurmNameLookupSchema then
    evidenceField row "schema" none
  else
    let lookupId ← number "lookup_id"
    let daliugeSessionId ← string "daliuge_session_id"
    let intentObservationId ← number "intent_observation_id"
    let profileSha256 ← string "profile_sha256"
    let targetFingerprint ← string "target_fingerprint"
    let accountingNotBefore ← number "accounting_not_before"
    let queryCompletedAt ← number "query_completed_at"
    let squeueComplete ← evidenceField row "sources.squeue" (complete "squeue")
    let sacctComplete ← evidenceField row "sources.sacct" (complete "sacct")
    let result ← string "result"
    let eligibleForAbandonment ←
      evidenceField row "eligible_for_abandonment"
        ((payload.get "eligible_for_abandonment").bind Json.asBool)
    .ok
      { observationId := row.uuid
        lookupId := lookupId
        observedAt := row.observedAt
        daliugeSessionId := daliugeSessionId
        intentObservationId := intentObservationId
        profileSha256 := profileSha256
        targetFingerprint := targetFingerprint
        accountingNotBefore := accountingNotBefore
        queryCompletedAt := queryCompletedAt
        squeueComplete := squeueComplete
        sacctComplete := sacctComplete
        result := result
        eligibleForAbandonment := eligibleForAbandonment }

namespace SlurmLookupEvidenceAttempt

/-- `matches!(attempt.result, "exact" | "exact_conflict" | "ambiguous")`. -/
def sighted (attempt : SlurmLookupEvidenceAttempt) : Bool :=
  ["exact", "exact_conflict", "ambiguous"].contains attempt.result

/-- A complete negative lookup. -/
def completeNegative (attempt : SlurmLookupEvidenceAttempt) : Bool :=
  attempt.result == "not_found" && attempt.squeueComplete && attempt.sacctComplete &&
    attempt.eligibleForAbandonment

/-- `Reverse(query_completed_at)`. -/
def completedLater (a b : SlurmLookupEvidenceAttempt) : Prop :=
  b.queryCompletedAt ≤ a.queryCompletedAt

instance : DecidableRel completedLater := fun a b =>
  inferInstanceAs (Decidable (b.queryCompletedAt ≤ a.queryCompletedAt))

/-- The whole seconds from one attempt to a later time. -/
def secondsUntil (attempt : SlurmLookupEvidenceAttempt) (time : ℕ) : ℤ :=
  ((time : ℤ) - attempt.queryCompletedAt).tdiv 1000000

end SlurmLookupEvidenceAttempt

/-- `matches_attempt`. -/
def SlurmAbandonmentEvidenceExpectation.matchesAttempt
    (expected : SlurmAbandonmentEvidenceExpectation) (attempt : SlurmLookupEvidenceAttempt) :
    Bool :=
  decide (expected.quietEligibleAt ≤ attempt.observedAt) &&
    decide (expected.quietEligibleAt ≤ attempt.queryCompletedAt) &&
    attempt.daliugeSessionId == expected.sessionId &&
    attempt.intentObservationId == expected.intentId &&
    attempt.profileSha256 == expected.profileSha256 &&
    attempt.targetFingerprint == expected.targetFingerprint &&
    attempt.accountingNotBefore == wholeSeconds expected.intentObservedAt

/-! ### The evidence -/

/-- `SUBMISSION_ABANDONMENT_NEGATIVE_COUNT`. -/
def submissionAbandonmentNegativeCount : ℕ := 3

/-- `SUBMISSION_ABANDONMENT_NEGATIVE_SPAN_SECONDS`. -/
def submissionAbandonmentNegativeSpanSeconds : ℤ := 10 * 60

/-- `SUBMISSION_ABANDONMENT_EVIDENCE_FRESHNESS_SECONDS`. -/
def submissionAbandonmentEvidenceFreshnessSeconds : ℤ := 10 * 60

/-- `validate_slurm_abandonment_evidence`: the newest, a middle and the oldest negative lookup. -/
def validateSlurmAbandonmentEvidence (attemptsNewestFirst : List SlurmLookupEvidenceAttempt)
    (expected : SlurmAbandonmentEvidenceExpectation) : Except String (List Uuid) :=
  let relevant := (attemptsNewestFirst.filter expected.matchesAttempt).insertionSort
    SlurmLookupEvidenceAttempt.completedLater
  if relevant.any (·.sighted) then
    .error ("submission_abandonment_scheduler_match_observed: a scheduler match or ambiguous match "
      ++ "was observed after the quiet grace; resolve the external job identity instead of "
      ++ "abandoning the submission")
  else if ¬relevant.head?.any (·.completeNegative) then
    .error ("submission_abandonment_latest_evidence_not_negative: the latest scheduler lookup "
      ++ "after the quiet grace must be complete and negative")
  else
    let eligible := (attemptsNewestFirst.filter fun attempt =>
      attempt.completeNegative && expected.matchesAttempt attempt).insertionSort
        SlurmLookupEvidenceAttempt.completedLater
    let insufficient :=
      "submission_abandonment_negative_evidence_insufficient: at least "
        ++ s!"{submissionAbandonmentNegativeCount} complete negative Slurm lookups are required "
        ++ "after the quiet grace"
    match eligible with
    | [] => .error insufficient
    | newest :: _ =>
        if eligible.length < submissionAbandonmentNegativeCount then .error insufficient
        else
          if submissionAbandonmentEvidenceFreshnessSeconds < newest.secondsUntil expected.now ∨
              expected.now < newest.queryCompletedAt then
            .error ("submission_abandonment_evidence_stale: the latest complete negative Slurm "
              ++ "lookup must be no more than ten minutes old")
          else
            match eligible.find? fun attempt =>
                attempt.lookupId != newest.lookupId &&
                  attempt.targetFingerprint == newest.targetFingerprint &&
                  decide (submissionAbandonmentNegativeSpanSeconds ≤
                    attempt.secondsUntil newest.queryCompletedAt) with
            | none =>
                .error ("submission_abandonment_evidence_span_too_short: complete negative Slurm "
                  ++ "lookups must span at least ten minutes")
            | some oldest =>
                match eligible.find? fun attempt =>
                    attempt.lookupId != newest.lookupId && attempt.lookupId != oldest.lookupId &&
                      attempt.targetFingerprint == newest.targetFingerprint with
                | none =>
                    .error ("submission_abandonment_distinct_evidence_insufficient: three distinct "
                      ++ "complete negative Slurm lookups are required")
                | some middle =>
                    .ok [newest.observationId, middle.observationId, oldest.observationId]

/-- The evidence of an abandonment, from the rows of the log. -/
def slurmAbandonmentEvidence (rows : List ExecutionObservationRow)
    (expected : SlurmAbandonmentEvidenceExpectation) : Except String (List Uuid) := do
  let attempts ← rows.mapM parseSlurmLookupEvidence
  validateSlurmAbandonmentEvidence attempts expected

/-! ### What a recorded lookup is parsed to -/

/-- The attempt of a lookup. -/
def Store.lookupAttempt (s : Store) (input : SlurmNameLookupRecordInput) :
    SlurmLookupEvidenceAttempt :=
  let result := input.outcome.result s.row.schedulerJobId
  { observationId := input.lookupId
    lookupId := input.lookupId
    observedAt := input.queryCompletedAt
    daliugeSessionId := input.daliugeSessionId
    intentObservationId := input.intentObservationId
    profileSha256 := input.profileSha256
    targetFingerprint := input.targetFingerprint
    accountingNotBefore := input.accountingNotBefore
    queryCompletedAt := input.queryCompletedAt
    squeueComplete := input.squeueComplete
    sacctComplete := input.sacctComplete
    result := result
    eligibleForAbandonment :=
      result == "not_found" && input.squeueComplete && input.sacctComplete && s.lookupMayMutate &&
        s.row.deploymentProfileSpecSha256.isSome }

/-- A text that is not blank is not empty. -/
theorem isEmpty_of_not_isBlank {value : String} (h : ¬isBlank value) : value.isEmpty = false := by
  rw [← Bool.not_eq_true, String.isEmpty_iff]
  rintro rfl
  exact h rfl

/-- A lookup has a result. -/
theorem SlurmNameLookupOutcome.isEmpty_result (outcome : SlurmNameLookupOutcome)
    (persisted : Option String) : (outcome.result persisted).isEmpty = false := by
  have hnonempty : ∀ value ∈ ["not_found", "exact", "exact_conflict", "ambiguous", "error"],
      value.isEmpty = false := by decide
  refine hnonempty _ ?_
  cases outcome with
  | exact schedulerJobId state rawState reason source =>
      cases hconflict : persisted.any (· != schedulerJobId) <;> simp [result, hconflict]
  | _ => simp [result]

/-- **The observation of a well-formed lookup is parsed to its attempt.** -/
theorem Store.parse_lookupObservation (s : Store) {input : SlurmNameLookupRecordInput}
    (h : input.error = none) :
    parseSlurmLookupEvidence (s.lookupObservation input) = .ok (s.lookupAttempt input) := by
  unfold SlurmNameLookupRecordInput.error at h
  split_ifs at h with hbinding
  simp only [not_or] at hbinding
  obtain ⟨hsession, hprofile, htarget⟩ := hbinding
  set payload := (s.lookupObservation input).payload with hpayload
  have hschema : payload.get "schema" = some (.str slurmNameLookupSchema) := rfl
  have hlookup : payload.get "lookup_id" = some (.num (.int input.lookupId)) := rfl
  have hsession' : payload.get "daliuge_session_id" = some (.str input.daliugeSessionId) := rfl
  have hintent : payload.get "intent_observation_id" =
      some (.num (.int input.intentObservationId)) := rfl
  have hprofile' : payload.get "profile_sha256" = some (.str input.profileSha256) := rfl
  have htarget' : payload.get "target_fingerprint" = some (.str input.targetFingerprint) := rfl
  have haccounting : payload.get "accounting_not_before" =
      some (.num (.int input.accountingNotBefore)) := rfl
  have hcompleted : payload.get "query_completed_at" =
      some (.num (.int input.queryCompletedAt)) := rfl
  have hsources : payload.get "sources" = some (.obj [("squeue", .bool input.squeueComplete),
      ("sacct", .bool input.sacctComplete)]) := rfl
  have hresult : payload.get "result" =
      some (.str (input.outcome.result s.row.schedulerJobId)) := rfl
  have heligible : payload.get "eligible_for_abandonment" =
      some (.bool (s.lookupAttempt input).eligibleForAbandonment) := rfl
  unfold parseSlurmLookupEvidence
  simp only [← hpayload, hschema, hlookup, hsession', hintent, hprofile', htarget', haccounting,
    hcompleted, hsources, hresult, heligible, Option.bind_some, Json.asStr, Json.asU64, Json.asBool,
    Option.filter_some, isEmpty_of_not_isBlank hsession, isEmpty_of_not_isBlank hprofile,
    isEmpty_of_not_isBlank htarget, input.outcome.isEmpty_result]
  rfl

/-! ### The checks -/

/-- The attempts with a property, sorted. -/
def newestFirst (p : SlurmLookupEvidenceAttempt → Bool)
    (attempts : List SlurmLookupEvidenceAttempt) : List SlurmLookupEvidenceAttempt :=
  (attempts.filter p).insertionSort SlurmLookupEvidenceAttempt.completedLater

@[simp] theorem mem_newestFirst {p : SlurmLookupEvidenceAttempt → Bool}
    {attempts : List SlurmLookupEvidenceAttempt} {attempt : SlurmLookupEvidenceAttempt} :
    attempt ∈ newestFirst p attempts ↔ attempt ∈ attempts ∧ p attempt := by
  rw [newestFirst, (List.perm_insertionSort _ _).mem_iff, List.mem_filter]

/-- The attempts that belong to the submission. -/
def relevantAttempts (attempts : List SlurmLookupEvidenceAttempt)
    (expected : SlurmAbandonmentEvidenceExpectation) : List SlurmLookupEvidenceAttempt :=
  newestFirst expected.matchesAttempt attempts

/-- The negative ones among them. -/
def eligibleAttempts (attempts : List SlurmLookupEvidenceAttempt)
    (expected : SlurmAbandonmentEvidenceExpectation) : List SlurmLookupEvidenceAttempt :=
  newestFirst (fun attempt => attempt.completeNegative && expected.matchesAttempt attempt) attempts

/-- An attempt far enough from the newest one. -/
def isOldest (newest attempt : SlurmLookupEvidenceAttempt) : Bool :=
  attempt.lookupId != newest.lookupId && attempt.targetFingerprint == newest.targetFingerprint &&
    decide (submissionAbandonmentNegativeSpanSeconds ≤
      attempt.secondsUntil newest.queryCompletedAt)

/-- An attempt other than these two. -/
def isMiddle (newest oldest attempt : SlurmLookupEvidenceAttempt) : Bool :=
  attempt.lookupId != newest.lookupId && attempt.lookupId != oldest.lookupId &&
    attempt.targetFingerprint == newest.targetFingerprint

/-- The checks of the evidence without their order. -/
theorem validateSlurmAbandonmentEvidence_eq_ok_iff {attempts : List SlurmLookupEvidenceAttempt}
    {expected : SlurmAbandonmentEvidenceExpectation} {ids : List Uuid} :
    validateSlurmAbandonmentEvidence attempts expected = .ok ids ↔
      (∀ attempt ∈ relevantAttempts attempts expected, attempt.sighted = false) ∧
      (relevantAttempts attempts expected).head?.any (·.completeNegative) = true ∧
      ∃ newest rest oldest middle, eligibleAttempts attempts expected = newest :: rest ∧
        submissionAbandonmentNegativeCount ≤ (newest :: rest).length ∧
        newest.secondsUntil expected.now ≤ submissionAbandonmentEvidenceFreshnessSeconds ∧
        newest.queryCompletedAt ≤ expected.now ∧
        (newest :: rest).find? (isOldest newest) = some oldest ∧
        (newest :: rest).find? (isMiddle newest oldest) = some middle ∧
        ids = [newest.observationId, middle.observationId, oldest.observationId] := by
  constructor
  · intro h
    unfold validateSlurmAbandonmentEvidence at h
    simp only at h
    split at h
    · cases h
    next hsighted =>
      split at h
      · cases h
      next hlatest =>
        split at h
        · cases h
        next newest rest heligible =>
          split at h
          · cases h
          next hcount =>
            split at h
            · cases h
            next hfresh =>
              split at h
              · cases h
              next oldest holdest =>
                split at h
                · cases h
                next middle hmiddle =>
                  rw [Bool.not_eq_true, List.any_eq_false] at hsighted
                  rw [not_or, not_lt, not_lt] at hfresh
                  rw [heligible] at holdest hmiddle hcount
                  refine ⟨fun attempt hmem => by simpa using hsighted attempt hmem,
                    not_not.mp hlatest, newest, rest, oldest, middle, heligible, not_lt.mp hcount,
                    hfresh.1, hfresh.2, holdest, hmiddle, (Except.ok.inj h).symm⟩
  · rintro ⟨hsighted, hlatest, newest, rest, oldest, middle, heligible, hcount, hfresh, hpast,
      holdest, hmiddle, rfl⟩
    have hnone : (relevantAttempts attempts expected).any (·.sighted) = false := by
      rw [List.any_eq_false]
      exact fun attempt hmem => Bool.not_eq_true _ ▸ hsighted attempt hmem
    unfold relevantAttempts newestFirst at hnone hlatest
    unfold eligibleAttempts newestFirst at heligible
    unfold validateSlurmAbandonmentEvidence
    simp only
    rw [hnone, if_neg Bool.false_ne_true, if_neg (not_not.mpr hlatest), heligible]
    simp only
    rw [if_neg (not_lt.mpr hcount), if_neg (not_or.mpr ⟨not_lt.mpr hfresh, not_lt.mpr hpast⟩)]
    unfold isOldest at holdest
    unfold isMiddle at hmiddle
    rw [holdest]
    simp only
    rw [hmiddle]

/-! ### What accepted evidence shows -/

/-- Three complete negative lookups of the submission, the newest of them fresh, spanning the
required time. -/
structure NegativesSpan (recorded : SlurmLookupEvidenceAttempt → Prop)
    (expected : SlurmAbandonmentEvidenceExpectation)
    (newest middle oldest : SlurmLookupEvidenceAttempt) : Prop where
  recorded : ∀ attempt ∈ [newest, middle, oldest], recorded attempt
  negative : ∀ attempt ∈ [newest, middle, oldest],
    attempt.completeNegative ∧ expected.matchesAttempt attempt
  distinct : [newest.lookupId, middle.lookupId, oldest.lookupId].Nodup
  span : submissionAbandonmentNegativeSpanSeconds ≤ oldest.secondsUntil newest.queryCompletedAt
  fresh : newest.queryCompletedAt ≤ expected.now ∧
    newest.secondsUntil expected.now ≤ submissionAbandonmentEvidenceFreshnessSeconds

theorem validateSlurmAbandonmentEvidence_ok {attempts : List SlurmLookupEvidenceAttempt}
    {expected : SlurmAbandonmentEvidenceExpectation} {ids : List Uuid}
    (h : validateSlurmAbandonmentEvidence attempts expected = .ok ids) :
    (∀ attempt ∈ attempts, expected.matchesAttempt attempt → attempt.sighted = false) ∧
      ∃ newest middle oldest, NegativesSpan (· ∈ attempts) expected newest middle oldest ∧
        ids = [newest.observationId, middle.observationId, oldest.observationId] := by
  obtain ⟨hsighted, -, newest, rest, oldest, middle, heligible, -, hfresh, hpast, holdest, hmiddle,
    rfl⟩ := validateSlurmAbandonmentEvidence_eq_ok_iff.mp h
  have hmem : ∀ attempt ∈ newest :: rest, attempt ∈ attempts ∧
      attempt.completeNegative ∧ expected.matchesAttempt attempt := by
    intro attempt hattempt
    rw [← heligible, eligibleAttempts, mem_newestFirst, Bool.and_eq_true] at hattempt
    exact hattempt
  have hold := hmem oldest (List.mem_of_find?_eq_some holdest)
  have hmid := hmem middle (List.mem_of_find?_eq_some hmiddle)
  have hnew := hmem newest List.mem_cons_self
  have hspan := List.find?_some holdest
  have hdistinct := List.find?_some hmiddle
  simp only [isOldest, isMiddle, Bool.and_eq_true, bne_iff_ne, decide_eq_true_eq]
    at hspan hdistinct
  refine ⟨fun attempt hattempt hmatches => ?_, newest, middle, oldest, ?_, rfl⟩
  · exact hsighted attempt (mem_newestFirst.mpr ⟨hattempt, hmatches⟩)
  · exact
      { recorded := by simp [hnew.1, hmid.1, hold.1]
        negative := by simp [hnew.2, hmid.2, hold.2]
        distinct := by
          have h₁ := hspan.1.1.symm
          have h₂ := hdistinct.1.1.symm
          have h₃ := hdistinct.1.2
          simp [h₁, h₂, h₃]
        span := hspan.2
        fresh := ⟨hpast, hfresh⟩ }

/-! ### Abandonment against the log -/

/-- The row is a lookup by name since the time. -/
def ExecutionObservationRow.lookupSince (quietEligibleAt : ℕ) (row : ExecutionObservationRow) :
    Bool :=
  row.kind == "scheduler" && row.sourceVersion == some slurmNameLookupSchema &&
    decide (quietEligibleAt ≤ row.observedAt)

namespace Store

/-- The lookup is in the log, since the time. -/
def Recorded (s : Store) (quietEligibleAt : ℕ) (attempt : SlurmLookupEvidenceAttempt) : Prop :=
  ∃ row ∈ s.observations, row.lookupSince quietEligibleAt ∧
    parseSlurmLookupEvidence row = .ok attempt

/-- A lookup that is accepted is in the log from then on. -/
theorem recorded_of_recordSlurmNameLookup {s s' : Store} {input : SlurmNameLookupRecordInput}
    {result : SlurmNameLookupRecordResult} (h : s.recordSlurmNameLookup input = .ok (s', result))
    {quietEligibleAt : ℕ} (hquiet : quietEligibleAt ≤ input.queryCompletedAt) :
    s'.Recorded quietEligibleAt (s.lookupAttempt input) := by
  unfold recordSlurmNameLookup at h
  split at h
  · cases h
  next hinput =>
    split at h
    · cases h
    · cases h
      refine ⟨s.lookupObservation input, List.mem_append_right _ (List.mem_singleton_self _), ?_,
        s.parse_lookupObservation hinput⟩
      simp [ExecutionObservationRow.lookupSince, lookupObservation, hquiet]

/-- The submission that an operator abandons: its profile, its latest intent with the target, and
the end of the quiet time. -/
def abandonmentExpected (s : Store) (input : AbandonSlurmSubmissionInput) :
    Option SlurmAbandonmentEvidenceExpectation :=
  match s.row.deploymentProfileSpecSha256.filter fun value => !value.isEmpty,
      s.latestSubmissionIntentObservation with
  | some profileSha256, some intent =>
      (((intent.payload.get "target_fingerprint").bind Json.asStr).filter
        fun value => !value.isEmpty).map (s.abandonmentExpectation input intent profileSha256)
  | _, _ => none

/-- Since the quiet time no lookup of the target has seen a job, and three negative ones that are
far enough apart are recorded. -/
structure AbandonmentSafe (s : Store) (expected : SlurmAbandonmentEvidenceExpectation) : Prop where
  unsighted : ∀ attempt, s.Recorded expected.quietEligibleAt attempt →
    attempt.targetFingerprint = expected.targetFingerprint → attempt.sighted = false
  negatives : ∃ newest middle oldest,
    NegativesSpan (s.Recorded expected.quietEligibleAt) expected newest middle oldest

/-- Each lookup of the target that has seen a job since the quiet time is among the newest ones that
are examined, and belongs to the submission under its current intent and profile. -/
def SightingsExamined (s : Store) (expected : SlurmAbandonmentEvidenceExpectation) : Prop :=
  ∀ row ∈ s.observations, row.lookupSince expected.quietEligibleAt →
    ∀ attempt, parseSlurmLookupEvidence row = .ok attempt →
      attempt.targetFingerprint = expected.targetFingerprint → attempt.sighted →
        row ∈ s.lookupRows expected.quietEligibleAt ∧ expected.matchesAttempt attempt

/-- What is examined is in the log. -/
theorem mem_lookupRows {s : Store} {quietEligibleAt : ℕ} {row : ExecutionObservationRow}
    (h : row ∈ s.lookupRows quietEligibleAt) :
    row ∈ s.observations ∧ row.lookupSince quietEligibleAt := by
  have hsorted := List.mem_of_mem_take h
  rw [(List.perm_insertionSort _ _).mem_iff, List.mem_filter] at hsorted
  exact hsorted

/-- An abandonment that commits has accepted the evidence of its submission. -/
theorem abandonSlurmSubmission_evidence {s s' : Store} {observationId : Uuid}
    {input : AbandonSlurmSubmissionInput}
    {evidence : List ExecutionObservationRow → SlurmAbandonmentEvidenceExpectation →
      Except String (List Uuid)} {row : ExecutionRow}
    (h : s.abandonSlurmSubmission observationId input evidence = .ok (s', row)) :
    ∃ expected ids, s.abandonmentExpected input = some expected ∧
      evidence (s.lookupRows expected.quietEligibleAt) expected = .ok ids := by
  unfold abandonSlurmSubmission at h
  split at h
  · cases h
  split at h
  · cases h
  · cases h
  next profileSha256 intent hprofile hintent =>
    split at h
    · cases h
    next targetFingerprint htarget =>
      split at h
      · cases h
      split at h
      · cases h
      next ids hids =>
        refine ⟨s.abandonmentExpectation input intent profileSha256 targetFingerprint, ids, ?_,
          hids⟩
        unfold abandonmentExpected
        rw [hprofile, hintent]
        simp only [htarget, Option.map_some]

end Store

/-- **When an abandonment is safe.**  An abandonment that commits has three negative lookups of its
submission, and the log shows no sighting of the target since the quiet time exactly when no
sighting lies beyond the lookups that are examined, or under another intent or profile. -/
theorem abandonment_safe_iff {s s' : Store} {observationId : Uuid}
    {input : AbandonSlurmSubmissionInput} {row : ExecutionRow}
    (h : s.abandonSlurmSubmission observationId input slurmAbandonmentEvidence = .ok (s', row)) :
    ∃ expected, s.abandonmentExpected input = some expected ∧
      (s.AbandonmentSafe expected ↔ s.SightingsExamined expected) := by
  obtain ⟨expected, ids, hexpected, hevidence⟩ := Store.abandonSlurmSubmission_evidence h
  obtain ⟨attempts, hattempts, hvalid⟩ := exceptBind_ok hevidence
  obtain ⟨hparsed, hrows⟩ := exceptMapM_ok hattempts
  obtain ⟨hunsighted, newest, middle, oldest, hspan, -⟩ :=
    validateSlurmAbandonmentEvidence_ok hvalid
  refine ⟨expected, hexpected, fun hsafe row hrow hsince attempt hparse htarget hsighted => ?_,
    fun hexamined => ⟨fun attempt hrecorded htarget => ?_, newest, middle, oldest, ?_⟩⟩
  · rw [hsafe.unsighted attempt ⟨row, hrow, hsince, hparse⟩ htarget] at hsighted
    cases hsighted
  · obtain ⟨row, hrow, hsince, hparse⟩ := hrecorded
    rw [← Bool.not_eq_true]
    intro hsighted
    -- a sighting that is examined would have been found
    obtain ⟨hmem, hmatches⟩ := hexamined row hrow hsince attempt hparse htarget hsighted
    obtain ⟨attempt', hattempt', hparse'⟩ := hparsed row hmem
    rw [hparse] at hparse'
    cases hparse'
    rw [hunsighted attempt hattempt' hmatches] at hsighted
    cases hsighted
  · refine ⟨fun attempt hattempt => ?_, hspan.negative, hspan.distinct, hspan.span, hspan.fresh⟩
    obtain ⟨row, hrow, hparse⟩ := hrows attempt (hspan.recorded attempt hattempt)
    obtain ⟨hmem, hsince⟩ := Store.mem_lookupRows hrow
    exact ⟨row, hmem, hsince, hparse⟩

/-! ### A sighting that is forgotten -/

namespace Store

/-- The evidence of lookups is the evidence of their attempts. -/
theorem slurmAbandonmentEvidence_lookups (s : Store) {inputs : List SlurmNameLookupRecordInput}
    (h : ∀ input ∈ inputs, input.error = none) (expected : SlurmAbandonmentEvidenceExpectation) :
    slurmAbandonmentEvidence (inputs.map s.lookupObservation) expected =
      validateSlurmAbandonmentEvidence (inputs.map s.lookupAttempt) expected := by
  have hparsed : (inputs.map s.lookupObservation).mapM parseSlurmLookupEvidence =
      .ok (inputs.map s.lookupAttempt) := by
    induction inputs with
    | nil => rfl
    | cons input inputs ih =>
        rw [List.map_cons, List.mapM_cons, s.parse_lookupObservation (h input List.mem_cons_self),
          ih fun other hother => h other (List.mem_cons_of_mem input hother)]
        rfl
  unfold slurmAbandonmentEvidence
  rw [hparsed]
  rfl

/-- The newest lookups are examined, however many there are. -/
theorem lookupRows_eq {s : Store} {quietEligibleAt : ℕ} {rows others : List ExecutionObservationRow}
    (hlog : s.observations = rows ++ others) (hrows : ∀ row ∈ rows, row.lookupSince quietEligibleAt)
    (hothers : ∀ row ∈ others, row.lookupSince quietEligibleAt = false)
    (hsorted : rows.Pairwise fun a b => observedLater a b) :
    s.lookupRows quietEligibleAt = rows.take 500 := by
  have hfilter : s.observations.filter (ExecutionObservationRow.lookupSince quietEligibleAt) =
      rows := by
    rw [hlog, List.filter_append, List.filter_eq_self.mpr hrows, List.filter_eq_nil_iff.mpr]
    · exact List.append_nil rows
    · intro row hrow
      rw [hothers row hrow]
      exact Bool.false_ne_true
  have hlookups : s.lookupRows quietEligibleAt =
      ((s.observations.filter (ExecutionObservationRow.lookupSince quietEligibleAt)).insertionSort
        fun a b => observedLater a b).take 500 := rfl
  rw [hlookups, hfilter, hsorted.insertionSort_eq]

/-- An abandonment commits when its submission is the reviewed one, the quiet time is over, and the
evidence is accepted. -/
theorem abandonSlurmSubmission_ok {s : Store} {input : AbandonSlurmSubmissionInput}
    {evidence : List ExecutionObservationRow → SlurmAbandonmentEvidenceExpectation →
      Except String (List Uuid)} {expected : SlurmAbandonmentEvidenceExpectation} {ids : List Uuid}
    (hinput : input.error = none) (hrow : s.abandonmentRowError input = none)
    (hexpected : s.abandonmentExpected input = some expected)
    (hquiet : expected.quietEligibleAt ≤ s.now)
    (hevidence : evidence (s.lookupRows expected.quietEligibleAt) expected = .ok ids)
    (observationId : Uuid) :
    ∃ s' row, s.abandonSlurmSubmission observationId input evidence = .ok (s', row) := by
  unfold abandonmentExpected at hexpected
  split at hexpected
  next profileSha256 intent hprofile hintent =>
    obtain ⟨target, htarget, rfl⟩ := Option.map_eq_some_iff.mp hexpected
    have hnot : ¬s.now < s.quietEligibleAt input := Nat.not_lt.mpr hquiet
    have hevidence' : evidence (s.lookupRows (s.quietEligibleAt input))
        (s.abandonmentExpectation input intent profileSha256 target) = .ok ids := hevidence
    unfold abandonSlurmSubmission
    simp only [hinput, hrow, hprofile, hintent, htarget, hnot, hevidence', if_false]
    exact ⟨_, _, rfl⟩
  · cases hexpected

end Store

/-- A lookup of the sample submission. -/
def lookupOf (id completedAt : ℕ) (outcome : SlurmNameLookupOutcome) : SlurmNameLookupRecordInput :=
  { slurmLookup with lookupId := id, queryCompletedAt := completedAt, outcome := outcome }

/-- The sample submission after these lookups. -/
def lookedUpStore (inputs : List SlurmNameLookupRecordInput) : Store :=
  { submittingStore with
    row := { submittingStore.row with submissionDeadlineAt := some 300 }
    observations := inputs.map submittingStore.lookupObservation ++ submittingStore.observations
    queue := { submittingStore.queue with now := 1000000000 } }

/-- The operator's request. -/
def abandonRequest : AbandonSlurmSubmissionInput :=
  { reason := "the job is gone"
    expectedSubmissionState := .inFlight
    expectedDaliugeSessionId := "session-1"
    expectedSubmissionDeadlineAt := 300
    acknowledgeExternalJobMayExist := true
    allowEarlyAfterExecuteFenced := true }

/-- Three negative lookups, five minutes apart. -/
def quietLookups : List SlurmNameLookupRecordInput :=
  [lookupOf 102 900000000 .notFound, lookupOf 101 600000000 .notFound,
    lookupOf 100 300000000 .notFound]

/-- A negative lookup every two seconds. -/
def negativeLookups : List SlurmNameLookupRecordInput :=
  (List.range 500).map fun n => lookupOf (100 + n) (2000000 * (500 - n)) .notFound

/-- Two jobs under the name of the session. -/
def ambiguousLookup : SlurmNameLookupRecordInput := lookupOf 9 1 (.ambiguous ["41", "42"])

/-- An abandonment after three negative lookups is safe. -/
theorem abandonment_safe_quiet :
    ∃ expected, (lookedUpStore quietLookups).abandonmentExpected abandonRequest = some expected ∧
      ((lookedUpStore quietLookups).AbandonmentSafe expected ↔
        (lookedUpStore quietLookups).SightingsExamined expected) := by
  have hcommits : ((lookedUpStore quietLookups).abandonSlurmSubmission 1 abandonRequest
      slurmAbandonmentEvidence).isOk := by decide +kernel
  cases h : (lookedUpStore quietLookups).abandonSlurmSubmission 1 abandonRequest
      slurmAbandonmentEvidence with
  | error error =>
      rw [h] at hcommits
      cases hcommits
  | ok outcome =>
      obtain ⟨s', row⟩ := outcome
      exact abandonment_safe_iff h

/-- What the abandonment of the sample submission is compared with. -/
def sampleExpectation : SlurmAbandonmentEvidenceExpectation :=
  { sessionId := "session-1"
    intentId := 8
    intentObservedAt := 0
    profileSha256 := "sha"
    targetFingerprint := "target"
    quietEligibleAt := 0
    now := 1000000000 }

/-- The ambiguous lookup is not among the newest five hundred. -/
theorem lookupRows_sighted :
    (lookedUpStore (negativeLookups ++ [ambiguousLookup])).lookupRows 0 =
      negativeLookups.map submittingStore.lookupObservation := by
  have hlength : (negativeLookups.map submittingStore.lookupObservation).length = 500 := by
    simp [negativeLookups]
  have hlog : (lookedUpStore (negativeLookups ++ [ambiguousLookup])).observations =
      (negativeLookups ++ [ambiguousLookup]).map submittingStore.lookupObservation ++
        submittingStore.observations := by
    simp only [lookedUpStore]
  rw [Store.lookupRows_eq hlog ?_ (by decide) ?_, List.map_append,
    List.take_append_of_le_length hlength.ge, List.take_of_length_le hlength.le]
  · intro row hrow
    obtain ⟨input, -, rfl⟩ := List.mem_map.mp hrow
    simp [ExecutionObservationRow.lookupSince, Store.lookupObservation]
  · rw [List.pairwise_map, List.pairwise_append]
    refine ⟨?_, List.pairwise_singleton _ _, fun input hinput other hother => ?_⟩
    · rw [negativeLookups, List.pairwise_map]
      refine List.pairwise_lt_range.imp_of_mem fun {a b} ha hb hlt => ?_
      have hb' := List.mem_range.mp hb
      have hlater : 2000000 * (500 - b) < 2000000 * (500 - a) := by omega
      simp [Store.observedLater, Store.lookupObservation, lookupOf, hlater]
    · obtain ⟨n, hn, rfl⟩ := List.mem_map.mp hinput
      have hn' := List.mem_range.mp hn
      rw [List.mem_singleton] at hother
      subst hother
      have hlater : 1 < 2000000 * (500 - n) := by omega
      simp [Store.observedLater, Store.lookupObservation, lookupOf, ambiguousLookup, hlater]

/-- Two jobs have been seen, and five hundred lookups later the submission is abandoned. -/
theorem sighting_forgotten :
    let s := lookedUpStore (negativeLookups ++ [ambiguousLookup])
    (∃ s' row, s.abandonSlurmSubmission 1 abandonRequest slurmAbandonmentEvidence =
        .ok (s', row)) ∧
      s.abandonmentExpected abandonRequest = some sampleExpectation ∧
      ¬s.AbandonmentSafe sampleExpectation := by
  intro s
  have hexpected : s.abandonmentExpected abandonRequest = some sampleExpectation := by
    decide +kernel
  have hwellFormed : ∀ input ∈ negativeLookups, input.error = none := by
    intro input hinput
    obtain ⟨n, -, rfl⟩ := List.mem_map.mp hinput
    have hbound : (lookupOf (100 + n) (2000000 * (500 - n)) .notFound).error =
        (lookupOf 0 0 .notFound).error := by
      simp [SlurmNameLookupRecordInput.error, lookupOf, slurmLookup]
    rw [hbound]
    decide
  have haccepted : (slurmAbandonmentEvidence (s.lookupRows sampleExpectation.quietEligibleAt)
      sampleExpectation).isOk := by
    rw [show sampleExpectation.quietEligibleAt = 0 from rfl, lookupRows_sighted,
      Store.slurmAbandonmentEvidence_lookups _ hwellFormed]
    decide +kernel
  refine ⟨?_, hexpected, fun hsafe => ?_⟩
  · cases hevidence : slurmAbandonmentEvidence
        (s.lookupRows sampleExpectation.quietEligibleAt) sampleExpectation with
    | error error =>
        rw [hevidence] at haccepted
        cases haccepted
    | ok ids =>
        exact Store.abandonSlurmSubmission_ok (by decide) (by decide +kernel) hexpected
          (by decide) hevidence 1
  · have hrecorded : s.Recorded 0 (submittingStore.lookupAttempt ambiguousLookup) := by
      refine ⟨submittingStore.lookupObservation ambiguousLookup, ?_, by decide,
        submittingStore.parse_lookupObservation (by decide)⟩
      simp [s, lookedUpStore]
    have hunsighted := hsafe.unsighted _ hrecorded rfl
    revert hunsighted
    decide

end Beampipe
