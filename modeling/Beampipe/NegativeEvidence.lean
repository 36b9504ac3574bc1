/-
When negative lookups suffice.

The evidence for an abandonment is sorted by the time at which a lookup completed, and searched for
a newest, an oldest and a middle negative lookup.  When the lookups have distinct identifiers and
times, what is found is a matter of the set of lookups alone.

Main definitions:

* `Beampipe.SlurmAbandonmentEvidenceExpectation.Matches` — a lookup of the submission;
* `Beampipe.Negative` — a lookup of the submission that is complete and has found nothing;
* `Beampipe.SufficientEvidence` — what the lookups have to show.

Main results:

* `Beampipe.validateSlurmAbandonmentEvidence_perm` — the order of the lookups does not matter;
* `Beampipe.abandonmentEvidence_iff` — **when the lookups suffice.**
-/

import Beampipe.AbandonmentEvidence
import Mathlib.Data.Finset.Max
import Mathlib.Data.List.Perm.Subperm

set_option relaxedAutoImplicit false
set_option autoImplicit false

namespace Beampipe

/-! ### What the lookups have to show -/

/-- A lookup of the submission under its intent and profile, since the end of the quiet time. -/
structure SlurmAbandonmentEvidenceExpectation.Matches
    (expected : SlurmAbandonmentEvidenceExpectation) (attempt : SlurmLookupEvidenceAttempt) :
    Prop where
  session : attempt.daliugeSessionId = expected.sessionId
  intent : attempt.intentObservationId = expected.intentId
  profile : attempt.profileSha256 = expected.profileSha256
  target : attempt.targetFingerprint = expected.targetFingerprint
  accounting : attempt.accountingNotBefore = wholeSeconds expected.intentObservedAt
  observed : expected.quietEligibleAt ≤ attempt.observedAt
  completed : expected.quietEligibleAt ≤ attempt.queryCompletedAt

/-- One of the attempts, an eligible one, has asked both sources and found nothing. -/
structure Negative (attempts : List SlurmLookupEvidenceAttempt)
    (expected : SlurmAbandonmentEvidenceExpectation) (attempt : SlurmLookupEvidenceAttempt) :
    Prop where
  mem : attempt ∈ attempts
  expected : expected.Matches attempt
  result : attempt.result = "not_found"
  squeue : attempt.squeueComplete = true
  sacct : attempt.sacctComplete = true
  eligible : attempt.eligibleForAbandonment = true

/-- Whole seconds between two times. -/
def secondsBetween (start stop : ℕ) : ℤ := ((stop - start) / 1000000 : ℕ)

/-- No lookup has seen a job, the last one is negative and fresh, and there are three negative ones
that span the required time. -/
structure SufficientEvidence (attempts : List SlurmLookupEvidenceAttempt)
    (expected : SlurmAbandonmentEvidenceExpectation) : Prop where
  unsighted : ∀ attempt ∈ attempts, expected.Matches attempt →
    attempt.result ≠ "exact" ∧ attempt.result ≠ "exact_conflict" ∧ attempt.result ≠ "ambiguous"
  latest : ∃ latest, Negative attempts expected latest ∧
    (∀ attempt ∈ attempts, expected.Matches attempt →
      attempt.queryCompletedAt ≤ latest.queryCompletedAt) ∧
    latest.queryCompletedAt ≤ expected.now ∧
    secondsBetween latest.queryCompletedAt expected.now ≤
      submissionAbandonmentEvidenceFreshnessSeconds
  three : ∃ negatives : List SlurmLookupEvidenceAttempt, negatives.Nodup ∧
    submissionAbandonmentNegativeCount ≤ negatives.length ∧
    ∀ negative ∈ negatives, Negative attempts expected negative
  span : ∃ first last, Negative attempts expected first ∧ Negative attempts expected last ∧
    (∀ negative, Negative attempts expected negative →
      first.queryCompletedAt ≤ negative.queryCompletedAt ∧
        negative.queryCompletedAt ≤ last.queryCompletedAt) ∧
    submissionAbandonmentNegativeSpanSeconds ≤
      secondsBetween first.queryCompletedAt last.queryCompletedAt

/-! ### The attempts, newest first -/

section Sorted

variable {p : SlurmLookupEvidenceAttempt → Bool} {attempts : List SlurmLookupEvidenceAttempt}

instance : Std.Total SlurmLookupEvidenceAttempt.completedLater :=
  ⟨fun a b => Nat.le_total b.queryCompletedAt a.queryCompletedAt⟩

instance : IsTrans SlurmLookupEvidenceAttempt SlurmLookupEvidenceAttempt.completedLater :=
  ⟨fun _ _ _ hab hbc => Nat.le_trans hbc hab⟩

theorem pairwise_newestFirst :
    (newestFirst p attempts).Pairwise SlurmLookupEvidenceAttempt.completedLater :=
  List.pairwise_insertionSort _ _

/-- The first one has completed last. -/
theorem le_head_newestFirst {newest attempt : SlurmLookupEvidenceAttempt}
    {rest : List SlurmLookupEvidenceAttempt} (h : newestFirst p attempts = newest :: rest)
    (hmem : attempt ∈ attempts) (hp : p attempt) :
    attempt.queryCompletedAt ≤ newest.queryCompletedAt := by
  have hsorted : (newest :: rest).Pairwise SlurmLookupEvidenceAttempt.completedLater :=
    h ▸ pairwise_newestFirst
  have hattempt : attempt ∈ newest :: rest := h ▸ mem_newestFirst.mpr ⟨hmem, hp⟩
  rcases List.mem_cons.mp hattempt with rfl | hrest
  · exact le_rfl
  · exact (List.pairwise_cons.mp hsorted).1 attempt hrest

/-- The one that has completed last is the first. -/
theorem exists_newestFirst_eq_cons (htimes : (attempts.map (·.queryCompletedAt)).Nodup)
    {latest : SlurmLookupEvidenceAttempt} (hmem : latest ∈ attempts) (hp : p latest)
    (hmax : ∀ attempt ∈ attempts, p attempt →
      attempt.queryCompletedAt ≤ latest.queryCompletedAt) :
    ∃ rest, newestFirst p attempts = latest :: rest := by
  cases hsorted : newestFirst p attempts with
  | nil =>
      have hmem' : latest ∈ newestFirst p attempts := mem_newestFirst.mpr ⟨hmem, hp⟩
      rw [hsorted] at hmem'
      cases hmem'
  | cons newest rest =>
      obtain ⟨hnewest, hp'⟩ := mem_newestFirst.mp (hsorted ▸ List.mem_cons_self)
      have hle := le_head_newestFirst hsorted hmem hp
      obtain rfl : newest = latest := List.inj_on_of_nodup_map htimes hnewest hmem
        (Nat.le_antisymm (hmax newest hnewest hp') hle)
      exact ⟨rest, rfl⟩

/-- Attempts that complete at distinct times are sorted in one way. -/
theorem newestFirst_perm {attempts' : List SlurmLookupEvidenceAttempt}
    (htimes : (attempts.map (·.queryCompletedAt)).Nodup) (h : attempts.Perm attempts') :
    newestFirst p attempts = newestFirst p attempts' := by
  have hperm : (newestFirst p attempts).Perm (newestFirst p attempts') :=
    (List.perm_insertionSort _ _).trans
      ((h.filter p).trans (List.perm_insertionSort _ _).symm)
  refine hperm.eq_of_pairwise (fun a b ha hb hab hba => ?_) pairwise_newestFirst
    pairwise_newestFirst
  have ha := (mem_newestFirst.mp ha).1
  have hb := h.mem_iff.mpr (mem_newestFirst.mp hb).1
  exact List.inj_on_of_nodup_map htimes ha hb (Nat.le_antisymm hba hab)

end Sorted

/-- **The order of the lookups does not matter**, when they complete at distinct times. -/
theorem validateSlurmAbandonmentEvidence_perm {attempts attempts' : List SlurmLookupEvidenceAttempt}
    (htimes : (attempts.map (·.queryCompletedAt)).Nodup) (h : attempts.Perm attempts')
    (expected : SlurmAbandonmentEvidenceExpectation) :
    validateSlurmAbandonmentEvidence attempts expected =
      validateSlurmAbandonmentEvidence attempts' expected := by
  have hrelevant := @newestFirst_perm expected.matchesAttempt attempts attempts' htimes h
  have heligible := @newestFirst_perm
    (fun attempt => attempt.completeNegative && expected.matchesAttempt attempt) attempts attempts'
    htimes h
  unfold newestFirst at hrelevant heligible
  unfold validateSlurmAbandonmentEvidence
  rw [hrelevant, heligible]

/-! ### The words of the criterion -/

section Criterion

variable {attempts : List SlurmLookupEvidenceAttempt}
  {expected : SlurmAbandonmentEvidenceExpectation}

theorem matchesAttempt_iff {attempt : SlurmLookupEvidenceAttempt} :
    expected.matchesAttempt attempt = true ↔ expected.Matches attempt := by
  unfold SlurmAbandonmentEvidenceExpectation.matchesAttempt
  simp only [Bool.and_eq_true, decide_eq_true_eq, beq_iff_eq]
  constructor
  · rintro ⟨⟨⟨⟨⟨⟨hobserved, hcompleted⟩, hsession⟩, hintent⟩, hprofile⟩, htarget⟩, haccounting⟩
    exact ⟨hsession, hintent, hprofile, htarget, haccounting, hobserved, hcompleted⟩
  · intro h
    exact ⟨⟨⟨⟨⟨⟨h.observed, h.completed⟩, h.session⟩, h.intent⟩, h.profile⟩, h.target⟩,
      h.accounting⟩

theorem completeNegative_iff {attempt : SlurmLookupEvidenceAttempt} :
    attempt.completeNegative = true ↔ attempt.result = "not_found" ∧
      attempt.squeueComplete = true ∧ attempt.sacctComplete = true ∧
        attempt.eligibleForAbandonment = true := by
  unfold SlurmLookupEvidenceAttempt.completeNegative
  simp only [Bool.and_eq_true, beq_iff_eq, and_assoc]

theorem sighted_eq_false_iff {attempt : SlurmLookupEvidenceAttempt} :
    attempt.sighted = false ↔ attempt.result ≠ "exact" ∧ attempt.result ≠ "exact_conflict" ∧
      attempt.result ≠ "ambiguous" := by
  simp [SlurmLookupEvidenceAttempt.sighted]

theorem mem_relevantAttempts {attempt : SlurmLookupEvidenceAttempt} :
    attempt ∈ relevantAttempts attempts expected ↔
      attempt ∈ attempts ∧ expected.Matches attempt := by
  rw [relevantAttempts, mem_newestFirst, matchesAttempt_iff]

theorem mem_eligibleAttempts {attempt : SlurmLookupEvidenceAttempt} :
    attempt ∈ eligibleAttempts attempts expected ↔ Negative attempts expected attempt := by
  rw [eligibleAttempts, mem_newestFirst, Bool.and_eq_true, completeNegative_iff, matchesAttempt_iff]
  constructor
  · rintro ⟨hmem, ⟨hresult, hsqueue, hsacct, heligible⟩, hmatches⟩
    exact ⟨hmem, hmatches, hresult, hsqueue, hsacct, heligible⟩
  · intro h
    exact ⟨h.mem, ⟨h.result, h.squeue, h.sacct, h.eligible⟩, h.expected⟩

/-- A negative attempt is one that is complete. -/
theorem Negative.completeNegative {attempt : SlurmLookupEvidenceAttempt}
    (h : Negative attempts expected attempt) : attempt.completeNegative = true :=
  completeNegative_iff.mpr ⟨h.result, h.squeue, h.sacct, h.eligible⟩

/-- The seconds until a later time. -/
theorem secondsUntil_eq {attempt : SlurmLookupEvidenceAttempt} {time : ℕ}
    (h : attempt.queryCompletedAt ≤ time) :
    attempt.secondsUntil time = secondsBetween attempt.queryCompletedAt time := by
  unfold SlurmLookupEvidenceAttempt.secondsUntil secondsBetween
  rw [← Int.ofNat_sub h, Int.ofNat_tdiv]
  rfl

theorem secondsBetween_mono {start start' stop stop' : ℕ} (hstart : start' ≤ start)
    (hstop : stop ≤ stop') : secondsBetween start stop ≤ secondsBetween start' stop' := by
  unfold secondsBetween
  have hsub : stop - start ≤ stop' - start' := by omega
  exact Int.ofNat_le.mpr (Nat.div_le_div_right hsub)

/-- The attempts that are found are three negative ones, the newest of them the last. -/
structure Accepted (attempts : List SlurmLookupEvidenceAttempt)
    (expected : SlurmAbandonmentEvidenceExpectation)
    (newest middle oldest : SlurmLookupEvidenceAttempt) : Prop where
  negative : ∀ attempt ∈ [newest, middle, oldest], Negative attempts expected attempt
  distinct : [newest.lookupId, middle.lookupId, oldest.lookupId].Nodup
  last : ∀ negative, Negative attempts expected negative →
    negative.queryCompletedAt ≤ newest.queryCompletedAt
  span : submissionAbandonmentNegativeSpanSeconds ≤
    secondsBetween oldest.queryCompletedAt newest.queryCompletedAt

/-- What is found in the negative attempts. -/
theorem accepted_of_found {newest middle oldest : SlurmLookupEvidenceAttempt}
    {rest : List SlurmLookupEvidenceAttempt}
    (heligible : eligibleAttempts attempts expected = newest :: rest)
    (holdest : (newest :: rest).find? (isOldest newest) = some oldest)
    (hmiddle : (newest :: rest).find? (isMiddle newest oldest) = some middle) :
    Accepted attempts expected newest middle oldest := by
  have hnegative : ∀ attempt ∈ newest :: rest, Negative attempts expected attempt :=
    fun attempt hmem => mem_eligibleAttempts.mp (heligible ▸ hmem)
  have hlast : ∀ negative, Negative attempts expected negative →
      negative.queryCompletedAt ≤ newest.queryCompletedAt := by
    intro negative h
    refine le_head_newestFirst heligible h.mem ?_
    rw [Bool.and_eq_true]
    exact ⟨h.completeNegative, matchesAttempt_iff.mpr h.expected⟩
  have hnew := hnegative newest List.mem_cons_self
  have hold := hnegative oldest (List.mem_of_find?_eq_some holdest)
  have hmid := hnegative middle (List.mem_of_find?_eq_some hmiddle)
  have hspan := List.find?_some holdest
  have hother := List.find?_some hmiddle
  unfold isOldest at hspan
  unfold isMiddle at hother
  simp only [Bool.and_eq_true, bne_iff_ne, decide_eq_true_eq] at hspan hother
  refine { negative := by simp [hnew, hmid, hold], distinct := ?_, last := hlast, span := ?_ }
  · have hne₁ := hother.1.1.symm
    have hne₂ := hspan.1.1.symm
    have hne₃ := hother.1.2
    simp [hne₁, hne₂, hne₃]
  · rw [← secondsUntil_eq (hlast oldest hold)]
    exact hspan.2

/-- The evidence that is accepted suffices. -/
theorem sufficient_of_ok (hlookups : (attempts.map (·.lookupId)).Nodup) {ids : List Uuid}
    (h : validateSlurmAbandonmentEvidence attempts expected = .ok ids) :
    SufficientEvidence attempts expected := by
  obtain ⟨hsighted, hlatest, newest, rest, oldest, middle, heligible, hcount, hfresh, hpast,
    holdest, hmiddle, -⟩ := validateSlurmAbandonmentEvidence_eq_ok_iff.mp h
  have haccepted := accepted_of_found heligible holdest hmiddle
  have hnew : Negative attempts expected newest := haccepted.negative newest (by simp)
  have hold : Negative attempts expected oldest := haccepted.negative oldest (by simp)
  refine ⟨fun attempt hmem hmatches => sighted_eq_false_iff.mp
    (hsighted attempt (mem_relevantAttempts.mpr ⟨hmem, hmatches⟩)), ?_, ?_, ?_⟩
  · -- the first of the relevant attempts is negative, so the newest negative one is as late
    refine ⟨newest, hnew, fun attempt hmem hmatches => ?_, hpast, secondsUntil_eq hpast ▸ hfresh⟩
    obtain ⟨latest, hhead, hnegative⟩ := (Option.any_eq_true _ _).mp hlatest
    obtain ⟨others, hrelevant⟩ := List.head?_eq_some_iff.mp hhead
    have hle : attempt.queryCompletedAt ≤ latest.queryCompletedAt :=
      le_head_newestFirst hrelevant hmem (matchesAttempt_iff.mpr hmatches)
    obtain ⟨hmem', hmatches'⟩ := mem_relevantAttempts.mp (hrelevant ▸ List.mem_cons_self)
    obtain ⟨hresult, hsqueue, hsacct, heligible'⟩ := completeNegative_iff.mp hnegative
    exact hle.trans (haccepted.last latest ⟨hmem', hmatches', hresult, hsqueue, hsacct, heligible'⟩)
  · refine ⟨eligibleAttempts attempts expected, ?_, heligible ▸ hcount,
      fun negative hmem => mem_eligibleAttempts.mp hmem⟩
    exact (List.perm_insertionSort _ _).nodup_iff.mpr ((hlookups.of_map _).filter _)
  · obtain ⟨first, hfirst, hmin⟩ := Finset.exists_min_image
      (eligibleAttempts attempts expected).toFinset (·.queryCompletedAt)
      ⟨newest, List.mem_toFinset.mpr (mem_eligibleAttempts.mpr hnew)⟩
    have hmin' : ∀ negative, Negative attempts expected negative →
        first.queryCompletedAt ≤ negative.queryCompletedAt :=
      fun negative hneg => hmin negative (List.mem_toFinset.mpr (mem_eligibleAttempts.mpr hneg))
    refine ⟨first, newest, mem_eligibleAttempts.mp (List.mem_toFinset.mp hfirst), hnew,
      fun negative hneg => ⟨hmin' negative hneg, haccepted.last negative hneg⟩, ?_⟩
    exact haccepted.span.trans (secondsBetween_mono (hmin' oldest hold) le_rfl)

/-- Evidence that suffices is accepted. -/
theorem ok_of_sufficient (hlookups : (attempts.map (·.lookupId)).Nodup)
    (htimes : (attempts.map (·.queryCompletedAt)).Nodup)
    (h : SufficientEvidence attempts expected) :
    ∃ ids, validateSlurmAbandonmentEvidence attempts expected = .ok ids := by
  obtain ⟨latest, hlatest, hmax, hpast, hfresh⟩ := h.latest
  obtain ⟨negatives, hnodup, hcount, hnegatives⟩ := h.three
  obtain ⟨first, last, hfirst, hlast, hbounds, hspan⟩ := h.span
  have hunique : ∀ attempt ∈ attempts, ∀ other ∈ attempts,
      attempt.lookupId = other.lookupId → attempt = other :=
    fun attempt hmem other hmem' heq => List.inj_on_of_nodup_map hlookups hmem hmem' heq
  -- the first one of both sorted lists is the one completed last
  obtain ⟨others, hrelevant⟩ := exists_newestFirst_eq_cons htimes hlatest.mem
    (matchesAttempt_iff.mpr hlatest.expected)
    fun attempt hmem hmatches => hmax attempt hmem (matchesAttempt_iff.mp hmatches)
  have hnegative : (latest.completeNegative && expected.matchesAttempt latest) = true := by
    rw [hlatest.completeNegative, matchesAttempt_iff.mpr hlatest.expected, Bool.and_self]
  obtain ⟨rest, heligible⟩ := @exists_newestFirst_eq_cons
    (fun attempt => attempt.completeNegative && expected.matchesAttempt attempt) attempts htimes
    latest hlatest.mem hnegative fun attempt hmem h =>
      hmax attempt hmem (matchesAttempt_iff.mp (Bool.and_eq_true _ _ ▸ h).2)
  rw [← eligibleAttempts] at heligible
  rw [← relevantAttempts] at hrelevant
  have hmem : ∀ attempt, Negative attempts expected attempt → attempt ∈ latest :: rest :=
    fun attempt hneg => heligible ▸ mem_eligibleAttempts.mpr hneg
  have htarget : ∀ attempt, Negative attempts expected attempt →
      attempt.targetFingerprint = latest.targetFingerprint :=
    fun attempt hneg => hneg.expected.target.trans hlatest.expected.target.symm
  have hspan' : submissionAbandonmentNegativeSpanSeconds ≤
      first.secondsUntil latest.queryCompletedAt := by
    rw [secondsUntil_eq (hbounds latest hlatest).1]
    exact hspan.trans (secondsBetween_mono le_rfl (hmax last hlast.mem hlast.expected))
  have hfirst' : first.lookupId ≠ latest.lookupId := by
    intro heq
    obtain rfl := hunique first hfirst.mem latest hlatest.mem heq
    rw [SlurmLookupEvidenceAttempt.secondsUntil, Int.sub_self] at hspan'
    exact absurd hspan' (by decide)
  obtain ⟨oldest, holdest⟩ : ∃ oldest, (latest :: rest).find? (isOldest latest) = some oldest := by
    refine Option.isSome_iff_exists.mp (List.find?_isSome.mpr ⟨first, hmem first hfirst, ?_⟩)
    simp [isOldest, hfirst', htarget first hfirst, hspan']
  have hold : Negative attempts expected oldest :=
    mem_eligibleAttempts.mp (heligible ▸ List.mem_of_find?_eq_some holdest)
  obtain ⟨other, hother, hne, hne'⟩ : ∃ other ∈ negatives, other ≠ latest ∧ other ≠ oldest := by
    by_contra hnone
    push Not at hnone
    have hsub : negatives ⊆ [latest, oldest] := by
      intro negative hneg
      by_cases heq : negative = latest
      · simp [heq]
      · simp [hnone negative hneg heq]
    have hle := (hnodup.subperm hsub).length_le
    exact absurd (hcount.trans hle) (by simp [submissionAbandonmentNegativeCount])
  have hotherNeg := hnegatives other hother
  obtain ⟨middle, hmiddle⟩ :
      ∃ middle, (latest :: rest).find? (isMiddle latest oldest) = some middle := by
    refine Option.isSome_iff_exists.mp (List.find?_isSome.mpr ⟨other, hmem other hotherNeg, ?_⟩)
    have hid : other.lookupId ≠ latest.lookupId :=
      fun heq => hne (hunique other hotherNeg.mem latest hlatest.mem heq)
    have hid' : other.lookupId ≠ oldest.lookupId :=
      fun heq => hne' (hunique other hotherNeg.mem oldest hold.mem heq)
    simp [isMiddle, hid, hid', htarget other hotherNeg]
  refine ⟨_, validateSlurmAbandonmentEvidence_eq_ok_iff.mpr ⟨fun attempt hattempt => ?_, ?_, latest,
    rest, oldest, middle, heligible, ?_, secondsUntil_eq hpast ▸ hfresh, hpast, holdest, hmiddle,
    rfl⟩⟩
  · obtain ⟨hattempt, hmatches⟩ := mem_relevantAttempts.mp hattempt
    exact sighted_eq_false_iff.mpr (h.unsighted attempt hattempt hmatches)
  · rw [hrelevant]
    exact hlatest.completeNegative
  · exact hcount.trans (hnodup.subperm fun negative hneg =>
      hmem negative (hnegatives negative hneg)).length_le

end Criterion

/-- **When the lookups suffice**: for lookups with distinct identifiers and times the evidence is
accepted just when no lookup has seen a job, the last one is negative and fresh, and there are three
negative ones that span the required time.  What is returned are three of them, whatever the order
in which they are read. -/
theorem abandonmentEvidence_iff (attempts : List SlurmLookupEvidenceAttempt)
    (expected : SlurmAbandonmentEvidenceExpectation)
    (hlookups : (attempts.map (·.lookupId)).Nodup)
    (hobservations : (attempts.map (·.observationId)).Nodup)
    (htimes : (attempts.map (·.queryCompletedAt)).Nodup) :
    ((∃ ids, validateSlurmAbandonmentEvidence attempts expected = .ok ids) ↔
        SufficientEvidence attempts expected) ∧
      (∀ ids, validateSlurmAbandonmentEvidence attempts expected = .ok ids →
        ids.Nodup ∧ ∃ negatives : List SlurmLookupEvidenceAttempt, negatives.length = 3 ∧
          (∀ negative ∈ negatives, Negative attempts expected negative) ∧
          ids = negatives.map (·.observationId)) ∧
      ∀ attempts', attempts.Perm attempts' →
        validateSlurmAbandonmentEvidence attempts' expected =
          validateSlurmAbandonmentEvidence attempts expected := by
  refine ⟨⟨fun ⟨_, h⟩ => sufficient_of_ok hlookups h, ok_of_sufficient hlookups htimes⟩,
    fun ids h => ?_,
    fun attempts' hperm => (validateSlurmAbandonmentEvidence_perm htimes hperm expected).symm⟩
  obtain ⟨-, -, newest, rest, oldest, middle, heligible, -, -, -, holdest, hmiddle, rfl⟩ :=
    validateSlurmAbandonmentEvidence_eq_ok_iff.mp h
  have haccepted := accepted_of_found heligible holdest hmiddle
  refine ⟨?_, [newest, middle, oldest], rfl, haccepted.negative, rfl⟩
  have hdistinct : [newest, middle, oldest].Nodup := by
    refine List.Nodup.of_map (·.lookupId) ?_
    exact haccepted.distinct
  refine hdistinct.map_on (f := (·.observationId)) fun attempt hmem other hmem' heq => ?_
  exact List.inj_on_of_nodup_map hobservations (haccepted.negative attempt hmem).mem
    (haccepted.negative other hmem').mem heq

/-- A lookup of the submission under intent `1` that has found nothing. -/
def negativeLookup (id queryCompletedAt : ℕ) : SlurmLookupEvidenceAttempt where
  observationId := id
  lookupId := id + 100
  observedAt := queryCompletedAt
  daliugeSessionId := "session"
  intentObservationId := 1
  profileSha256 := "profile"
  targetFingerprint := "target"
  accountingNotBefore := 1000000
  queryCompletedAt := queryCompletedAt
  squeueComplete := true
  sacctComplete := true
  result := "not_found"
  eligibleForAbandonment := true

/-- Three lookups over ten minutes suffice, in any order. -/
theorem abandonmentEvidence_iff_three :
    SufficientEvidence
      [negativeLookup 2 302500000, negativeLookup 3 602500000, negativeLookup 1 2500000]
      ⟨"session", 1, 1500000, "profile", "target", 2000000, 700000000⟩ := by
  have h := abandonmentEvidence_iff
    [negativeLookup 2 302500000, negativeLookup 3 602500000, negativeLookup 1 2500000]
    ⟨"session", 1, 1500000, "profile", "target", 2000000, 700000000⟩
    (by decide) (by decide) (by decide)
  exact h.1.mp ⟨[3, 2, 1], by decide⟩

end Beampipe
