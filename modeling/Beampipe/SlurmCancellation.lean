/-
Confirming the cancellation of a Slurm job.

A job whose cancellation the scheduler has accepted may still complete, fail or run on, so it is
polled until an observation decides: an error of the poll, or a terminal state.  Only the state
`cancelled` confirms.  The poller is a value that every poll replaces by its next state, so a run of
the loop depends on the sequence of the observations alone; the pause between two polls changes
none of them and is left out.

Main definitions:

* `Beampipe.SlurmCancellation.confirmSlurmCancellation` — the loop over the polls;
* `Beampipe.SlurmCancellation.SshCancellationPoller.poll` — the poller over a session.

Main results:

* `Beampipe.SlurmCancellation.pollLoop_spec` — the first decisive observation decides;
* `Beampipe.SlurmCancellation.cancelled_iff_first_decisive` — **a cancellation is reported exactly
  when the first decisive observation is one**;
* `Beampipe.SlurmCancellation.ssh_cancelled` — over a session, it is a job in state `CANCELLED`.
-/

import Beampipe.Json
import Beampipe.SlurmStates
import Mathlib.Order.Bounds.Basic

set_option relaxedAutoImplicit false
set_option autoImplicit false

namespace Beampipe.SlurmCancellation

/-! ### Observations -/

/-- `OrchestrationError`; the error of the DALiuGE client is kept as its text. -/
inductive OrchestrationError where
  | graphNotObject
  | noUsableRecords
  | graphPatchNodeNotFound (node : String)
  | graphPatchFieldNotFound (node field : String)
  | backend (message : String)
  | submissionUncertain (message : String)
  | outputInventoryNotReady
  | outputInventoryRejected (message : String)
  | daliuge (message : String)
  deriving DecidableEq, Repr

/-- The text of an error. -/
def OrchestrationError.message : OrchestrationError → String
  | .graphNotObject => "graph is not a JSON object"
  | .noUsableRecords => "manifest has no usable records"
  | .graphPatchNodeNotFound node => s!"graph patch target node not found: {node}"
  | .graphPatchFieldNotFound node field => s!"graph patch field not found on node {node}: {field}"
  | .backend message => s!"backend error: {message}"
  | .submissionUncertain message => s!"submission outcome is uncertain: {message}"
  | .outputInventoryNotReady => "remote output inventory is not ready"
  | .outputInventoryRejected message => s!"remote output inventory was rejected: {message}"
  | .daliuge message => message

/-- `BackendPoll`. -/
structure BackendPoll where
  status : ExecutionStatus
  pollSummary : Json
  deriving DecidableEq, Repr

/-- The state that an observation is reported by. -/
def BackendPoll.reportedState (observation : BackendPoll) : String :=
  ((observation.pollSummary.get "normalized_state").bind Json.asStr).getD
    observation.status.asStr

/-- The answer to a poll. -/
abbrev Observation : Type := Except OrchestrationError BackendPoll

/-- `SlurmCancellationPoller::poll`: the answer, and the poller after it. -/
abbrev Poll (σ : Type) : Type := String → σ → Observation × σ

/-! ### The loop -/

/-- `CancelResult`. -/
structure CancelResult where
  cancelled : Bool
  reason : Option String
  deriving DecidableEq, Repr

/-- `unconfirmed`. -/
def unconfirmed (reason : String) : CancelResult := ⟨false, some reason⟩

/-- `SlurmCancelPollPolicy`, without the pause between two polls. -/
structure SlurmCancelPollPolicy where
  maxPolls : ℕ

section Loop

variable {σ : Type} (poll : Poll σ) (schedulerJobId : String)

/-- The polls that are left, after one that reported `lastStatus`. -/
def pollLoop (maxPolls : ℕ) : ℕ → String → σ → CancelResult × σ
  | 0, lastStatus, poller =>
      (unconfirmed (s!"slurm cancellation remained unconfirmed after {maxPolls} polls; " ++
        s!"last status was {lastStatus}"), poller)
  | remaining + 1, _, poller =>
      match poll schedulerJobId poller with
      | (.error error, poller) =>
          (unconfirmed ("slurm cancellation was accepted but confirmation polling failed: " ++
            error.message), poller)
      | (.ok observation, poller) =>
          if observation.status = .cancelled then (⟨true, none⟩, poller)
          else if observation.status.isTerminal then
            (unconfirmed (s!"slurm job reached terminal state {observation.status.asStr} " ++
              "before cancellation was confirmed"), poller)
          else pollLoop maxPolls remaining observation.reportedState poller

/-- `confirm_slurm_cancellation`. -/
def confirmSlurmCancellation (poller : σ) (policy : SlurmCancelPollPolicy) : CancelResult × σ :=
  let maxPolls := max policy.maxPolls 1
  pollLoop poll schedulerJobId maxPolls maxPolls "unobserved" poller

/-! ### The sequence of the observations -/

/-- The poller after `n` polls. -/
def pollerAfter : ℕ → σ → σ
  | 0, poller => poller
  | n + 1, poller => pollerAfter n (poll schedulerJobId poller).2

/-- The answer to the poll after `n` others. -/
def observed (poller : σ) (n : ℕ) : Observation :=
  (poll schedulerJobId (pollerAfter poll schedulerJobId n poller)).1

/-- An observation ends the loop: an error or a terminal state. -/
def Decisive : Observation → Prop
  | .error _ => True
  | .ok observation => observation.status.isTerminal = true

/-- The job was seen as cancelled. -/
def IsCancelled (answer : Observation) : Prop :=
  ∃ observation, answer = .ok observation ∧ observation.status = .cancelled

/-- The result that a decisive observation gives. -/
def resultOf : Observation → CancelResult
  | .error error =>
      unconfirmed ("slurm cancellation was accepted but confirmation polling failed: " ++
        error.message)
  | .ok observation =>
      if observation.status = .cancelled then ⟨true, none⟩
      else
        unconfirmed (s!"slurm job reached terminal state {observation.status.asStr} " ++
          "before cancellation was confirmed")

/-- The first number with a property, counted on from one that does not have it. -/
theorem isLeast_succ {p : ℕ → Prop} {n : ℕ} (hzero : ¬ p 0)
    (h : IsLeast {m | p (m + 1)} n) : IsLeast {m | p m} (n + 1) := by
  refine ⟨h.1, fun m hm => ?_⟩
  cases m with
  | zero => exact absurd hm hzero
  | succ m => exact Nat.succ_le_succ (h.2 hm)

theorem resultOf_cancelled (answer : Observation) :
    (resultOf answer).cancelled = true ↔ IsCancelled answer := by
  cases answer with
  | error error => simp [resultOf, unconfirmed, IsCancelled]
  | ok observation =>
      by_cases hstatus : observation.status = .cancelled
      · simp [resultOf, IsCancelled, hstatus]
      · simp [resultOf, unconfirmed, IsCancelled, hstatus]

theorem IsCancelled.decisive {answer : Observation} (h : IsCancelled answer) : Decisive answer := by
  obtain ⟨observation, rfl, hstatus⟩ := h
  show observation.status.isTerminal = true
  rw [hstatus]
  rfl

/-- One turn of the loop: a decisive observation ends it. -/
theorem pollLoop_succ_of_decisive {maxPolls remaining : ℕ} {lastStatus : String} {poller : σ}
    (h : Decisive (observed poll schedulerJobId poller 0)) :
    pollLoop poll schedulerJobId maxPolls (remaining + 1) lastStatus poller =
      (resultOf (observed poll schedulerJobId poller 0),
        pollerAfter poll schedulerJobId 1 poller) := by
  obtain ⟨answer, after, hpoll⟩ : ∃ answer after, poll schedulerJobId poller = (answer, after) :=
    ⟨_, _, rfl⟩
  simp only [observed, pollerAfter, hpoll] at h ⊢
  rw [pollLoop, hpoll]
  cases answer with
  | error error => rfl
  | ok observation =>
      have hterminal : observation.status.isTerminal = true := h
      simp only [resultOf, hterminal, if_true]
      split <;> rfl

/-- One turn of the loop: any other observation is followed by the next poll. -/
theorem pollLoop_succ_of_not_decisive (maxPolls remaining : ℕ) (lastStatus : String) {poller : σ}
    (h : ¬ Decisive (observed poll schedulerJobId poller 0)) :
    ∃ status, pollLoop poll schedulerJobId maxPolls (remaining + 1) lastStatus poller =
      pollLoop poll schedulerJobId maxPolls remaining status
        (pollerAfter poll schedulerJobId 1 poller) := by
  obtain ⟨answer, after, hpoll⟩ : ∃ answer after, poll schedulerJobId poller = (answer, after) :=
    ⟨_, _, rfl⟩
  simp only [observed, pollerAfter, hpoll] at h ⊢
  rw [pollLoop, hpoll]
  cases answer with
  | error error => exact absurd trivial h
  | ok observation =>
      have hterminal : observation.status.isTerminal = false := by simpa [Decisive] using h
      have hcancelled : observation.status ≠ .cancelled := by
        intro hstatus
        rw [hstatus] at hterminal
        cases hterminal
      exact ⟨observation.reportedState, by simp [hcancelled, hterminal]⟩

/-- **The first decisive observation decides**, and no poll is made after it; without one all polls
are made and the cancellation is unconfirmed. -/
theorem pollLoop_spec (maxPolls remaining : ℕ) (lastStatus : String) (poller : σ) :
    (∃ n < remaining, IsLeast {m | Decisive (observed poll schedulerJobId poller m)} n ∧
      pollLoop poll schedulerJobId maxPolls remaining lastStatus poller =
        (resultOf (observed poll schedulerJobId poller n),
          pollerAfter poll schedulerJobId (n + 1) poller)) ∨
    (∀ n < remaining, ¬ Decisive (observed poll schedulerJobId poller n)) ∧
      ∃ reason, pollLoop poll schedulerJobId maxPolls remaining lastStatus poller =
        (unconfirmed reason, pollerAfter poll schedulerJobId remaining poller) := by
  -- the observations of the poller after one poll are the later ones
  induction remaining generalizing lastStatus poller with
  | zero => exact .inr ⟨fun n hn => absurd hn (Nat.not_lt_zero n), _, rfl⟩
  | succ remaining ih =>
      by_cases hzero : Decisive (observed poll schedulerJobId poller 0)
      · exact .inl ⟨0, Nat.succ_pos remaining, ⟨hzero, fun m _ => Nat.zero_le m⟩,
          pollLoop_succ_of_decisive poll schedulerJobId hzero⟩
      · obtain ⟨status, hloop⟩ := pollLoop_succ_of_not_decisive poll schedulerJobId
          maxPolls remaining lastStatus hzero
        rw [hloop]
        rcases ih status (pollerAfter poll schedulerJobId 1 poller) with
          ⟨n, hn, hfirst, hresult⟩ | ⟨hnone, reason, hresult⟩
        · exact .inl ⟨n + 1, Nat.succ_lt_succ hn, isLeast_succ hzero hfirst, hresult⟩
        · refine .inr ⟨fun n hn => ?_, reason, hresult⟩
          cases n with
          | zero => exact hzero
          | succ n => exact hnone n (Nat.lt_of_succ_lt_succ hn)

/-- A confirmation is the first decisive observation, within the bound. -/
theorem cancelled_iff (poller : σ) (policy : SlurmCancelPollPolicy) :
    (confirmSlurmCancellation poll schedulerJobId poller policy).1.cancelled = true ↔
      ∃ n < max policy.maxPolls 1,
        IsLeast {m | Decisive (observed poll schedulerJobId poller m)} n ∧
          IsCancelled (observed poll schedulerJobId poller n) := by
  have hspec := pollLoop_spec poll schedulerJobId (max policy.maxPolls 1) (max policy.maxPolls 1)
    "unobserved" poller
  unfold confirmSlurmCancellation
  rcases hspec with ⟨n, hn, hfirst, hresult⟩ | ⟨hnone, reason, hresult⟩
  · simp only [hresult]
    constructor
    · intro hcancelled
      exact ⟨n, hn, hfirst, (resultOf_cancelled _).1 hcancelled⟩
    · rintro ⟨m, -, hm, hcancelled⟩
      rw [hm.unique hfirst] at hcancelled
      exact (resultOf_cancelled _).2 hcancelled
  · simp only [hresult]
    constructor
    · intro hcancelled
      cases hcancelled
    · rintro ⟨n, hn, -, hcancelled⟩
      exact absurd hcancelled.decisive (hnone n hn)

end Loop

/-! ### The poller over a session -/

/-- The status of a normalized state. -/
def statusOfNormalized (normalized : String) : ExecutionStatus :=
  match normalized with
  | "COMPLETED" => .completed
  | "FAILED" => .failed
  | "TIMEOUT" => .failed
  | "CANCELLED" => .cancelled
  | "RUNNING" => .running
  | "PENDING" => .awaitingScheduler
  | _ => .awaitingScheduler

/-- The observation of a job of which the scheduler has answered. -/
def cancellationPoll (schedulerJobId slurmId : String) (result : SlurmJobPollResult) :
    BackendPoll where
  status := statusOfNormalized result.state.token
  pollSummary :=
    .obj [("scheduler_job_id", .str schedulerJobId),
          ("normalized_state", .str result.state.token), ("raw_state", .str result.rawState),
          ("slurm_job_id", .str slurmId), ("source", .str result.source.asStr),
          ("exit_code", (result.exitCode.map fun code => Json.num (.int code)).getD .null)]

/-- `SshCancellationPoller`: a session, the job of the caller and its number. -/
structure SshCancellationPoller (τ : Type) where
  session : τ
  schedulerJobId : String
  slurmId : String

section Ssh

variable {τ : Type}

/-- `SshCancellationPoller::poll`; `query` is `query_slurm_states_batch` over the session. -/
def SshCancellationPoller.poll (query : τ → List String → Except OrchestrationError PollResults × τ)
    (schedulerJobId : String) (poller : SshCancellationPoller τ) :
    Observation × SshCancellationPoller τ :=
  if schedulerJobId ≠ poller.schedulerJobId then
    (.error (.backend "cancellation poll job identifier changed"), poller)
  else
    match query poller.session [poller.slurmId] with
    | (.error error, session) => (.error error, { poller with session })
    | (.ok results, session) =>
        match results poller.slurmId with
        | none =>
            (.error (.backend s!"no cancellation poll result for slurm job {poller.slurmId}"),
              { poller with session })
        | some result =>
            (.ok (cancellationPoll schedulerJobId poller.slurmId result), { poller with session })

variable (query : τ → List String → Except OrchestrationError PollResults × τ)
  (schedulerJobId : String)

/-- A poll is about the job of the poller, which stays what it was. -/
theorem poll_cases (poller : SshCancellationPoller τ) :
    ((∃ error, (SshCancellationPoller.poll query schedulerJobId poller).1 = .error error) ∨
      ∃ result, (SshCancellationPoller.poll query schedulerJobId poller).1 =
        .ok (cancellationPoll schedulerJobId poller.slurmId result)) ∧
    (SshCancellationPoller.poll query schedulerJobId poller).2.slurmId = poller.slurmId := by
  unfold SshCancellationPoller.poll
  split
  · exact ⟨.inl ⟨_, rfl⟩, rfl⟩
  · split
    · exact ⟨.inl ⟨_, rfl⟩, rfl⟩
    · split
      · exact ⟨.inl ⟨_, rfl⟩, rfl⟩
      · exact ⟨.inr ⟨_, rfl⟩, rfl⟩

/-- Every observation is an error or about the job of the poller. -/
theorem observed_ssh (n : ℕ) (poller : SshCancellationPoller τ) :
    (∃ error, observed (SshCancellationPoller.poll query) schedulerJobId poller n =
      .error error) ∨
    ∃ result, observed (SshCancellationPoller.poll query) schedulerJobId poller n =
      .ok (cancellationPoll schedulerJobId poller.slurmId result) := by
  induction n generalizing poller with
  | zero => exact (poll_cases query schedulerJobId poller).1
  | succ n ih =>
      have hlater := ih (SshCancellationPoller.poll query schedulerJobId poller).2
      rw [(poll_cases query schedulerJobId poller).2] at hlater
      exact hlater

/-- The states of a job that is over. -/
def IsOver (state : SchedulerState) : Prop :=
  state = .succeeded ∨ state = .failed ∨ state = .timedOut ∨ state = .cancelled

theorem decisive_cancellationPoll (slurmId : String) (result : SlurmJobPollResult) :
    Decisive (.ok (cancellationPoll schedulerJobId slurmId result)) ↔ IsOver result.state := by
  unfold Decisive cancellationPoll IsOver
  cases result.state <;> simp [SchedulerState.token, statusOfNormalized,
    ExecutionStatus.isTerminal]

theorem isCancelled_cancellationPoll (slurmId : String) (result : SlurmJobPollResult) :
    IsCancelled (.ok (cancellationPoll schedulerJobId slurmId result)) ↔
      result.state = .cancelled := by
  unfold IsCancelled cancellationPoll
  cases result.state <;> simp [SchedulerState.token, statusOfNormalized]

/-- **Over a session a confirmation is a job in state `CANCELLED`**, which was seen in no other
state that ends a job before. -/
theorem ssh_cancelled {poller : SshCancellationPoller τ} {policy : SlurmCancelPollPolicy}
    (h : (confirmSlurmCancellation (SshCancellationPoller.poll query) schedulerJobId poller
      policy).1.cancelled = true) :
    ∃ n < max policy.maxPolls 1,
      (∃ result, observed (SshCancellationPoller.poll query) schedulerJobId poller n =
        .ok (cancellationPoll schedulerJobId poller.slurmId result) ∧
          result.state = .cancelled) ∧
      ∀ m < n, ∃ result, observed (SshCancellationPoller.poll query) schedulerJobId poller m =
        .ok (cancellationPoll schedulerJobId poller.slurmId result) ∧ ¬ IsOver result.state := by
  obtain ⟨n, hn, hfirst, hcancelled⟩ := (cancelled_iff _ schedulerJobId poller policy).1 h
  refine ⟨n, hn, ?_, fun m hm => ?_⟩
  · rcases observed_ssh query schedulerJobId n poller with ⟨error, herror⟩ | ⟨result, hresult⟩
    · rw [herror] at hcancelled
      obtain ⟨observation, hok, -⟩ := hcancelled
      cases hok
    · rw [hresult] at hcancelled
      exact ⟨result, hresult,
        (isCancelled_cancellationPoll schedulerJobId poller.slurmId result).1 hcancelled⟩
  · have hearlier : ¬ Decisive (observed (SshCancellationPoller.poll query) schedulerJobId poller
        m) := fun hdecisive => absurd (hfirst.2 hdecisive) (Nat.not_le.2 hm)
    rcases observed_ssh query schedulerJobId m poller with ⟨error, herror⟩ | ⟨result, hresult⟩
    · rw [herror] at hearlier
      exact absurd trivial hearlier
    · rw [hresult, decisive_cancellationPoll] at hearlier
      exact ⟨result, hresult, hearlier⟩

end Ssh

/-- **A cancellation is reported exactly when the first decisive observation within the bound is
one.**  A job that was never seen as cancelled is not reported as cancelled, nor is one whose first
decisive observation is an error or another terminal state; over a session no earlier answer was
that of a job that completed, failed or timed out. -/
theorem cancelled_iff_first_decisive {σ : Type} (poll : Poll σ) (schedulerJobId : String)
    (poller : σ) (policy : SlurmCancelPollPolicy) :
    ((confirmSlurmCancellation poll schedulerJobId poller policy).1.cancelled = true ↔
      ∃ n < max policy.maxPolls 1,
        IsLeast {m | Decisive (observed poll schedulerJobId poller m)} n ∧
          IsCancelled (observed poll schedulerJobId poller n)) ∧
    ((∀ n < max policy.maxPolls 1, ¬ IsCancelled (observed poll schedulerJobId poller n)) →
      (confirmSlurmCancellation poll schedulerJobId poller policy).1.cancelled = false) ∧
    (∀ n < max policy.maxPolls 1,
      IsLeast {m | Decisive (observed poll schedulerJobId poller m)} n →
      ¬ IsCancelled (observed poll schedulerJobId poller n) →
      (confirmSlurmCancellation poll schedulerJobId poller policy).1.cancelled = false) ∧
    ∀ (τ : Type) (query : τ → List String → Except OrchestrationError PollResults × τ)
      (ssh : SshCancellationPoller τ),
      (confirmSlurmCancellation (SshCancellationPoller.poll query) schedulerJobId ssh
        policy).1.cancelled = true →
      ∃ n < max policy.maxPolls 1,
        (∃ result, observed (SshCancellationPoller.poll query) schedulerJobId ssh n =
          .ok (cancellationPoll schedulerJobId ssh.slurmId result) ∧
            result.state = .cancelled) ∧
        ∀ m < n, ∃ result, observed (SshCancellationPoller.poll query) schedulerJobId ssh m =
          .ok (cancellationPoll schedulerJobId ssh.slurmId result) ∧ ¬ IsOver result.state := by
  have hiff := cancelled_iff poll schedulerJobId poller policy
  refine ⟨hiff, fun hnever => ?_, fun n _ hfirst hother => ?_, fun τ query ssh h => ?_⟩
  · refine Bool.eq_false_iff.2 fun hcancelled => ?_
    obtain ⟨n, hn, -, hseen⟩ := hiff.1 hcancelled
    exact hnever n hn hseen
  · refine Bool.eq_false_iff.2 fun hcancelled => ?_
    obtain ⟨m, -, hm, hseen⟩ := hiff.1 hcancelled
    rw [hm.unique hfirst] at hseen
    exact hother hseen
  · exact ssh_cancelled query schedulerJobId h

end Beampipe.SlurmCancellation
