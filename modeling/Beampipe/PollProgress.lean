/-
The progress of the Slurm poller over whole runs.

The round of the poller and the escalation to an operator live in one section of the run record, a
JSON document that the other merges rewrite between two polls.  A poll reads the round, and later
advances it in the manifest that it has by then.  Seen from outside this is a counter that stops at
the largest `i64` and a flag that is raised once; the counter and the flag are stated on their own
first, and the runs over manifests are shown to be runs of them.

Main definitions:

* `Beampipe.roundReports` — the abstract counter and its flag;
* `Beampipe.InOrder` — what its reports are like;
* `Beampipe.Polling.step`, `Beampipe.Polling.reports` — the polls and the merges of a manifest, and
  what the polls report.

Main results:

* `Beampipe.inOrder_roundReports` — the rounds of the counter, and when it escalates;
* `Beampipe.Polling.reports_eq` — **a run over a manifest is a run of the counter**;
* `Beampipe.slurmPollProgress_run` — the progress over every run.
-/

import Beampipe.RecordMerges

set_option relaxedAutoImplicit false
set_option autoImplicit false

namespace Beampipe

/-! ### The counter -/

/-- The largest `i64`. -/
def i64Max : ℤ := 9223372036854775807

/-- What a poll reports of its round. -/
structure RoundReport where
  nextRound : ℤ
  maxRounds : ℤ
  operatorEscalated : Bool
  deriving DecidableEq, Repr

/-- The round has reached a positive limit. -/
def RoundReport.Reached (report : RoundReport) : Prop :=
  0 < report.maxRounds ∧ report.maxRounds ≤ report.nextRound

/-- The reports of a counter that starts at `round`, for the limits of its rounds; `escalated` tells
whether its flag is raised already. -/
def roundReports (round : ℤ) (escalated : Bool) : List ℤ → List RoundReport
  | [] => []
  | maxRounds :: limits =>
      let next := nextRound round
      let escalates := slurmActivePollBudgetReached next maxRounds && !escalated
      ⟨next, maxRounds, escalates⟩ :: roundReports next (escalated || escalates) limits

theorem reached_iff {next maxRounds : ℤ} {escalates : Bool} :
    RoundReport.Reached ⟨next, maxRounds, escalates⟩ ↔
      slurmActivePollBudgetReached next maxRounds = true := by
  simp [RoundReport.Reached, slurmActivePollBudgetReached]

/-- **The rounds go up by one until they saturate.** -/
theorem nextRound_roundReports {round : ℤ} {escalated : Bool} {limits : List ℤ} {i : ℕ}
    {report : RoundReport} (h : (roundReports round escalated limits)[i]? = some report) :
    report.nextRound = min (round + (i + 1)) i64Max := by
  induction limits generalizing round escalated i with
  | nil => cases h
  | cons maxRounds limits ih =>
      rw [roundReports] at h
      cases i with
      | zero =>
          rw [List.getElem?_cons_zero] at h
          cases h
          rfl
      | succ i =>
          rw [List.getElem?_cons_succ] at h
          rw [ih h, nextRound, i64Max]
          push_cast
          omega

/-- What holds of no entry before the last of a list holds of its head and before the last of the
rest. -/
theorem forall_lt_succ_cons {α : Type} {P : α → Prop} {a : α} {rest : List α} {i : ℕ} :
    (∀ j < i + 1, ∀ b, (a :: rest)[j]? = some b → ¬ P b) ↔
      ¬ P a ∧ ∀ j < i, ∀ b, rest[j]? = some b → ¬ P b := by
  constructor
  · intro h
    exact ⟨h 0 (Nat.succ_pos i) a rfl, fun j hj b hb => h (j + 1) (Nat.succ_lt_succ hj) b hb⟩
  · rintro ⟨hhead, hrest⟩ j hj b hb
    cases j with
    | zero =>
        cases hb
        exact hhead
    | succ j => exact hrest j (Nat.lt_of_succ_lt_succ hj) b hb

/-- **The flag is raised at the first round that reaches a positive limit**, unless it was raised
before. -/
theorem escalated_roundReports {round : ℤ} {escalated : Bool} {limits : List ℤ} {i : ℕ}
    {report : RoundReport} (h : (roundReports round escalated limits)[i]? = some report) :
    report.operatorEscalated = true ↔ escalated = false ∧ report.Reached ∧
      ∀ j < i, ∀ earlier, (roundReports round escalated limits)[j]? = some earlier →
        ¬ earlier.Reached := by
  induction limits generalizing round escalated i with
  | nil => cases h
  | cons maxRounds limits ih =>
      rw [roundReports] at h ⊢
      cases i with
      | zero =>
          rw [List.getElem?_cons_zero] at h
          cases h
          rw [reached_iff, Bool.and_eq_true, Bool.not_eq_true']
          constructor
          · rintro ⟨hreached, hfirst⟩
            exact ⟨hfirst, hreached, fun j hj => absurd hj (Nat.not_lt_zero j)⟩
          · rintro ⟨hfirst, hreached, -⟩
            exact ⟨hreached, hfirst⟩
      | succ i =>
          rw [List.getElem?_cons_succ] at h
          rw [ih h, forall_lt_succ_cons, Bool.or_eq_false_iff]
          cases escalated with
          | true => simp
          | false =>
              simp only [Bool.not_false, Bool.and_true]
              constructor
              · rintro ⟨⟨-, hhead⟩, hreached, hrest⟩
                exact ⟨trivial, hreached, by rw [reached_iff, hhead]; simp, hrest⟩
              · rintro ⟨-, hreached, hhead, hrest⟩
                rw [reached_iff, Bool.not_eq_true] at hhead
                exact ⟨⟨trivial, hhead⟩, hreached, hrest⟩

/-- The reports of a counter that starts at `round`: each round is one more than the last until the
largest `i64`, and the first that reaches a positive limit escalates, unless the flag `escalated` is
raised from the start; no other does. -/
structure InOrder (round : ℤ) (escalated : Bool) (reports : List RoundReport) : Prop where
  counts : ∀ (i : ℕ) report, reports[i]? = some report →
    report.nextRound = min (round + (i + 1)) i64Max
  increases : ∀ (i j : ℕ) earlier later, i < j → reports[i]? = some earlier →
    reports[j]? = some later →
    earlier.nextRound < later.nextRound ∨ earlier.nextRound = i64Max
  escalates : ∀ (i : ℕ) report, reports[i]? = some report →
    (report.operatorEscalated = true ↔ escalated = false ∧ report.Reached ∧
      ∀ j < i, ∀ earlier, reports[j]? = some earlier → ¬ earlier.Reached)
  once : ∀ (i j : ℕ) report report', reports[i]? = some report → reports[j]? = some report' →
    report.operatorEscalated = true → report'.operatorEscalated = true → i = j

/-- **The counter reports in order.** -/
theorem inOrder_roundReports (round : ℤ) (escalated : Bool) (limits : List ℤ) :
    InOrder round escalated (roundReports round escalated limits) where
  counts _ _ h := nextRound_roundReports h
  increases i j earlier later hij hearlier hlater := by
    rw [nextRound_roundReports hearlier, nextRound_roundReports hlater]
    omega
  escalates _ _ h := escalated_roundReports h
  once i j report report' h h' hflag hflag' := by
    obtain ⟨-, hreached, hbefore⟩ := (escalated_roundReports h).1 hflag
    obtain ⟨-, hreached', hbefore'⟩ := (escalated_roundReports h').1 hflag'
    rcases Nat.lt_trichotomy i j with hlt | heq | hgt
    · exact absurd hreached (hbefore' i hlt report h)
    · exact heq
    · exact absurd hreached' (hbefore j hgt report' h')

/-! ### The section of the poller -/

theorem bind_get (key : String) (value : Option Json) :
    value.bind (Json.get key) = Json.lookupField key (object value) := by
  cases value with
  | none => rfl
  | some value => cases value <;> rfl

/-- A member of a section is read alike with and without repairing the manifest. -/
theorem get_section (name key : String) (manifest : Option Json) :
    ((manifest.bind (Json.get runRecordKey)).bind (Json.get name)).bind (Json.get key) =
      Json.lookupField key (sectionFields name manifest) := by
  rw [bind_get, bind_get, bind_get]
  rfl

theorem slurmPollRound_eq (manifest : Option Json) :
    slurmPollRoundFromManifest manifest =
      ((Json.lookupField "round" (sectionFields "slurm_poll" manifest)).bind Json.asI64).getD 0 := by
  rw [slurmPollRoundFromManifest, pollRoundFromManifest, get_section]

theorem slurmPollOperatorEscalated_eq (manifest : Option Json) :
    slurmPollOperatorEscalated manifest =
      (Json.lookupField "operator_escalation" (sectionFields "slurm_poll" manifest)).isSome := by
  rw [slurmPollOperatorEscalated, get_section]

/-- A round that is read is an `i64`. -/
theorem slurmPollRound_range (manifest : Option Json) :
    -9223372036854775808 ≤ slurmPollRoundFromManifest manifest ∧
      slurmPollRoundFromManifest manifest ≤ i64Max := by
  have hi64 : ∀ value : Json, ∀ n ∈ value.asI64, -9223372036854775808 ≤ n ∧ n ≤ i64Max := by
    intro value n hn
    unfold Json.asI64 at hn
    split at hn
    · split at hn
      next hrange =>
        cases hn
        exact hrange
      next => cases hn
    · cases hn
  rw [slurmPollRound_eq]
  cases hround : (Json.lookupField "round" (sectionFields "slurm_poll" manifest)).bind
      Json.asI64 with
  | none => exact ⟨by decide, by decide⟩
  | some n =>
      obtain ⟨value, -, hn⟩ := Option.bind_eq_some_iff.1 hround
      exact hi64 value n hn

section Advance

variable {now : String} {manifest : Option Json} {pollRound maxRounds : ℤ} {reason : String}

/-- An advance that escalates adds the escalation to the section of the poller. -/
theorem sectionFields_advance_of_escalated
    (h : (advanceSlurmPollProgress now manifest pollRound maxRounds reason).operatorEscalated =
      true) :
    ∃ escalation, sectionFields "slurm_poll"
        (some (advanceSlurmPollProgress now manifest pollRound maxRounds reason).manifest) =
      Json.insertField "operator_escalation" escalation
        (sectionFields "slurm_poll"
          (some (mergeSlurmPollTickRound now manifest (nextRound pollRound)))) := by
  simp only [advanceSlurmPollProgress] at h ⊢
  rw [if_pos h, sectionFields_updateSection]
  exact ⟨_, rfl⟩

/-- Any other advance stores the round and nothing else. -/
theorem sectionFields_advance_of_silent
    (h : (advanceSlurmPollProgress now manifest pollRound maxRounds reason).operatorEscalated =
      false) :
    sectionFields "slurm_poll"
        (some (advanceSlurmPollProgress now manifest pollRound maxRounds reason).manifest) =
      sectionFields "slurm_poll"
        (some (mergeSlurmPollTickRound now manifest (nextRound pollRound))) := by
  simp only [advanceSlurmPollProgress] at h ⊢
  rw [if_neg (by rw [h]; simp)]

theorem lookup_tickRound (round : ℤ) :
    Json.lookupField "round"
        (sectionFields "slurm_poll" (some (mergeSlurmPollTickRound now manifest round))) =
      some (.num (.int round)) ∧
    Json.lookupField "operator_escalation"
        (sectionFields "slurm_poll" (some (mergeSlurmPollTickRound now manifest round))) =
      Json.lookupField "operator_escalation" (sectionFields "slurm_poll" manifest) := by
  simp only [mergeSlurmPollTickRound, mergePollTickRound, sectionFields_updateSection]
  split
  · exact ⟨Json.lookupField_insertField_self .., Json.lookupField_insertField_ne (by decide) _ _⟩
  · exact ⟨by rw [Json.lookupField_insertField_ne (by decide), Json.lookupField_insertField_self],
      by rw [Json.lookupField_insertField_ne (by decide),
        Json.lookupField_insertField_ne (by decide)]⟩

/-- **An advance stores the next round**, which the next poll reads. -/
theorem slurmPollRound_advance (h : -9223372036854775808 ≤ pollRound) :
    slurmPollRoundFromManifest
      (some (advanceSlurmPollProgress now manifest pollRound maxRounds reason).manifest) =
        nextRound pollRound := by
  have hrange : -9223372036854775808 ≤ nextRound pollRound ∧
      nextRound pollRound ≤ 9223372036854775807 := by
    rw [nextRound]
    omega
  have hstored : Json.lookupField "round" (sectionFields "slurm_poll"
      (some (advanceSlurmPollProgress now manifest pollRound maxRounds reason).manifest)) =
      some (.num (.int (nextRound pollRound))) := by
    cases hescalated : (advanceSlurmPollProgress now manifest pollRound maxRounds
        reason).operatorEscalated with
    | true =>
        obtain ⟨escalation, hsection⟩ := sectionFields_advance_of_escalated hescalated
        rw [hsection, Json.lookupField_insertField_ne (by decide), (lookup_tickRound _).1]
    | false => rw [sectionFields_advance_of_silent hescalated, (lookup_tickRound _).1]
  rw [slurmPollRound_eq, hstored, Option.bind_some, Json.asI64, if_pos hrange, Option.getD_some]

/-- **An advance keeps an escalation, and stores the one that it reports.** -/
theorem slurmPollOperatorEscalated_advance :
    slurmPollOperatorEscalated
      (some (advanceSlurmPollProgress now manifest pollRound maxRounds reason).manifest) =
        (slurmPollOperatorEscalated manifest ||
          (advanceSlurmPollProgress now manifest pollRound maxRounds reason).operatorEscalated) := by
  rw [slurmPollOperatorEscalated_eq, slurmPollOperatorEscalated_eq]
  cases hescalated : (advanceSlurmPollProgress now manifest pollRound maxRounds
      reason).operatorEscalated with
  | true =>
      obtain ⟨escalation, hsection⟩ := sectionFields_advance_of_escalated hescalated
      rw [hsection, Json.lookupField_insertField_self, Bool.or_true, Option.isSome_some]
  | false =>
      rw [sectionFields_advance_of_silent hescalated, (lookup_tickRound _).2, Bool.or_false]

end Advance

/-- **No other merge touches the progress.** -/
theorem progress_apply {merge : Merge} {now : String} {manifest : Option Json} {written : Json}
    (hother : merge.target ≠ "slurm_poll") (h : merge.apply now manifest = some written) :
    slurmPollRoundFromManifest (some written) = slurmPollRoundFromManifest manifest ∧
      slurmPollOperatorEscalated (some written) = slurmPollOperatorEscalated manifest := by
  have hsection := (apply_frame h).sectionFields hother.symm
  rw [slurmPollRound_eq, slurmPollRound_eq, slurmPollOperatorEscalated_eq,
    slurmPollOperatorEscalated_eq, hsection]
  exact ⟨rfl, rfl⟩

/-! ### Runs -/

/-- A stored manifest, and the round that a poll has read from it and not used yet. -/
structure Polling where
  manifest : Option Json
  held : Option ℤ

/-- What happens to a manifest: a poll reads its round, a poll advances it, or another merge than
that of the round writes it. -/
inductive PollingStep where
  | read
  | advance (now : String) (maxRounds : ℤ) (escalationReason : String)
  | merge (now : String) (merge : Merge) (other : merge.target ≠ "slurm_poll")

namespace Polling

/-- A step; a poll that has read no round does not advance. -/
def step (s : Polling) : PollingStep → Polling
  | .read => { s with held := some (slurmPollRoundFromManifest s.manifest) }
  | .advance now maxRounds escalationReason =>
      match s.held with
      | none => s
      | some pollRound =>
          { manifest :=
              some (advanceSlurmPollProgress now s.manifest pollRound maxRounds
                escalationReason).manifest
            held := none }
  | .merge now merge _ => { s with manifest := Merge.step s.manifest (now, merge) }

/-- What an advance reports. -/
def report (s : Polling) : PollingStep → Option RoundReport
  | .advance now maxRounds escalationReason =>
      s.held.map fun pollRound =>
        let progress :=
          advanceSlurmPollProgress now s.manifest pollRound maxRounds escalationReason
        ⟨progress.nextRound, maxRounds, progress.operatorEscalated⟩
  | _ => none

/-- What is reported along a run. -/
def reports (s : Polling) : List PollingStep → List RoundReport
  | [] => []
  | i :: rest => (s.report i).toList ++ reports (s.step i) rest

/-- The round that a poll holds is the one that is stored. -/
def Fresh (s : Polling) : Prop := ∀ round ∈ s.held, round = slurmPollRoundFromManifest s.manifest

/-- The counter that a manifest stores. -/
def round (s : Polling) : ℤ := slurmPollRoundFromManifest s.manifest

/-- The flag that a manifest stores. -/
def escalated (s : Polling) : Bool := slurmPollOperatorEscalated s.manifest

/-- **One step is a step of the counter, or leaves it alone.** -/
theorem step_spec {s : Polling} (h : s.Fresh) (i : PollingStep) :
    (s.step i).Fresh ∧
      ((s.report i = none ∧ (s.step i).round = s.round ∧ (s.step i).escalated = s.escalated) ∨
        ∃ maxRounds, s.report i = some ⟨nextRound s.round, maxRounds,
            slurmActivePollBudgetReached (nextRound s.round) maxRounds && !s.escalated⟩ ∧
          (s.step i).round = nextRound s.round ∧
          (s.step i).escalated = (s.escalated ||
            (slurmActivePollBudgetReached (nextRound s.round) maxRounds && !s.escalated))) := by
  obtain ⟨manifest, held⟩ := s
  cases i with
  | read =>
      refine ⟨fun round hround => ?_, .inl ⟨rfl, rfl, rfl⟩⟩
      cases hround
      rfl
  | advance now maxRounds reason =>
      cases held with
      | none => exact ⟨h, .inl ⟨rfl, rfl, rfl⟩⟩
      | some pollRound =>
          have hread : pollRound = slurmPollRoundFromManifest manifest := h pollRound rfl
          subst hread
          refine ⟨fun round hround => ?_, .inr ⟨maxRounds, rfl, ?_, ?_⟩⟩
          · cases hround
          · exact slurmPollRound_advance (slurmPollRound_range manifest).1
          · exact slurmPollOperatorEscalated_advance
  | merge now merge hother =>
      have hkept : slurmPollRoundFromManifest (Merge.step manifest (now, merge)) =
            slurmPollRoundFromManifest manifest ∧
          slurmPollOperatorEscalated (Merge.step manifest (now, merge)) =
            slurmPollOperatorEscalated manifest :=
        step_induction
          (P := fun m => slurmPollRoundFromManifest m = slurmPollRoundFromManifest manifest ∧
            slurmPollOperatorEscalated m = slurmPollOperatorEscalated manifest) ⟨rfl, rfl⟩
          fun written hwritten => progress_apply hother hwritten
      refine ⟨fun round hround => ?_, .inl ⟨rfl, hkept.1, hkept.2⟩⟩
      rw [step, hkept.1]
      exact h round hround

/-- **A run over a manifest is a run of the counter** that the manifest stores. -/
theorem reports_eq {s : Polling} (h : s.Fresh) (steps : List PollingStep) :
    s.reports steps =
      roundReports s.round s.escalated ((s.reports steps).map RoundReport.maxRounds) := by
  induction steps generalizing s with
  | nil => rfl
  | cons i rest ih =>
      obtain ⟨hfresh, hstep⟩ := step_spec h i
      rw [reports]
      rcases hstep with ⟨hsilent, hround, hescalated⟩ | ⟨maxRounds, hreport, hround, hescalated⟩
      · have hrest := ih hfresh
        rw [hround, hescalated] at hrest
        rw [hsilent]
        exact hrest
      · have hrest := ih hfresh
        rw [hround, hescalated] at hrest
        rw [hreport, Option.toList_some, List.singleton_append, List.map_cons, roundReports]
        exact congrArg _ hrest

/-- **What is stored at the end of a run**: the round after all advances, and an escalation if one
was stored at the start or reported since. -/
theorem exec_spec {s : Polling} (h : s.Fresh) (steps : List PollingStep) :
    (Runs.exec step s steps).round = min (s.round + (s.reports steps).length) i64Max ∧
      (Runs.exec step s steps).escalated =
        (s.escalated || (s.reports steps).any RoundReport.operatorEscalated) := by
  induction steps generalizing s with
  | nil =>
      refine ⟨?_, by simp [reports]⟩
      have hrange : s.round ≤ i64Max := (slurmPollRound_range s.manifest).2
      rw [i64Max] at hrange
      rw [Runs.exec_nil, reports, List.length_nil, i64Max]
      omega
  | cons i rest ih =>
      obtain ⟨hfresh, hstep⟩ := step_spec h i
      obtain ⟨hlater, hlater'⟩ := ih hfresh
      rw [Runs.exec_cons, reports, hlater, hlater']
      rcases hstep with ⟨hsilent, hround, hescalated⟩ | ⟨maxRounds, hreport, hround, hescalated⟩
      · rw [hsilent, hround, hescalated]
        exact ⟨rfl, rfl⟩
      · rw [hreport, hround, hescalated, Option.toList_some, List.singleton_append,
          List.length_cons, List.any_cons, Bool.or_assoc]
        refine ⟨?_, rfl⟩
        rw [nextRound, i64Max]
        push_cast
        omega

end Polling

/-- **The progress of the Slurm poller over every run** of reads, advances and other merges, from
any manifest.  The rounds and escalations that its advances report are in order, the manifest has
the last round, what has been escalated stays stored, and the other merges touch neither. -/
theorem slurmPollProgress_run (manifest : Option Json) (steps : List PollingStep) :
    let start : Polling := ⟨manifest, none⟩
    let after := (Runs.exec Polling.step start steps).manifest
    InOrder (slurmPollRoundFromManifest manifest) (slurmPollOperatorEscalated manifest)
      (start.reports steps) ∧
    slurmPollRoundFromManifest after =
      min (slurmPollRoundFromManifest manifest + (start.reports steps).length) i64Max ∧
    slurmPollOperatorEscalated after =
      (slurmPollOperatorEscalated manifest ||
        (start.reports steps).any RoundReport.operatorEscalated) ∧
    (∀ now (merge : Merge) written, merge.target ≠ "slurm_poll" →
      merge.apply now after = some written →
      slurmPollRoundFromManifest (some written) = slurmPollRoundFromManifest after ∧
        slurmPollOperatorEscalated (some written) = slurmPollOperatorEscalated after) := by
  intro start after
  have hfresh : start.Fresh := fun round hround => by cases hround
  obtain ⟨hround, hescalated⟩ := Polling.exec_spec hfresh steps
  refine ⟨?_, hround, hescalated,
    fun now merge written hother hwritten => progress_apply hother hwritten⟩
  rw [Polling.reports_eq hfresh steps]
  exact inOrder_roundReports _ _ _

end Beampipe
