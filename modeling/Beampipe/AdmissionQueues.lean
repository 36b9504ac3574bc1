/-
The order in which sources are admitted.

Two queues stand in the registry.  A tick of the discovery scheduler claims sources that are due, in
the order of their registration; a tick of the execution scheduler claims pending sources, in the
order in which they became pending.  Both take a limited number from the front, and the claims are
given back when the work has failed or was not begun.

A source keeps its place until something moves it.  One that is still due after its discovery, or
still pending after the tick, is claimed again before the sources behind it; one that has left the
queue of pending sources comes back behind those that have waited.

Main definitions:

* `Beampipe.AdmissionQueue` — the two queues;
* `Beampipe.SourceRegistry.taken` — the sources that a transaction claims;
* `Beampipe.SourceRegistry.Overtakes` — a source is claimed twice while another one waits;
* `Beampipe.SourceRegistry.GivesWay` — a source is behind the other one at the second claim;
* `Beampipe.SourceRegistry.PendingChange` — what a transaction does to the place of a source.

Main results:

* `Beampipe.SourceRegistry.taken_of_ahead` — a claim takes what is ahead of what it takes;
* `Beampipe.SourceRegistry.mem_rows_step` — the places after a transaction;
* `Beampipe.SourceRegistry.not_overtakes_of_givesWay` — **a source that gives way does not
  overtake**, in every run.
-/

import Beampipe.DiscoveryPersistence

set_option relaxedAutoImplicit false
set_option autoImplicit false

namespace Beampipe

/-! ### Queues -/

/-- The front of a sorted list has everything that is ahead of one of its members. -/
theorem mem_take_of_ahead {α : Type} {le : α → α → Prop} [DecidableRel le] [Std.Total le]
    [IsTrans α le] {entries : List α} {n : ℕ} {a b : α}
    (ha : a ∈ (entries.insertionSort le).take n) (hb : b ∈ entries) (hahead : ¬ le a b) :
    b ∈ (entries.insertionSort le).take n := by
  have hsorted := List.pairwise_insertionSort le entries
  rw [← List.take_append_drop n (entries.insertionSort le), List.pairwise_append] at hsorted
  have hmem : b ∈ (entries.insertionSort le).take n ++ (entries.insertionSort le).drop n := by
    rw [List.take_append_drop]
    exact (List.perm_insertionSort le entries).mem_iff.mpr hb
  rcases List.mem_append.mp hmem with hfront | hback
  · exact hfront
  · exact absurd (hsorted.2.2 a ha b hback) hahead

/-- The queue of sources that are due for discovery, and that of sources that are pending. -/
inductive AdmissionQueue where
  | discovery
  | workflow
  deriving DecidableEq, Repr

/-- The transaction claims from the queue. -/
def AdmissionQueue.claims : AdmissionQueue → RegistryOp → Bool
  | .discovery, .claimSourceRowsForDiscovery .. => true
  | .workflow, .claimPendingSourcesForWorkflowRun .. => true
  | _, _ => false

/-- The source of `a` is ahead of that of `b`: registered before it, or pending for longer. -/
def AdmissionQueue.Ahead : AdmissionQueue → SourceRegistryRow → SourceRegistryRow → Prop
  | .discovery, a, b => a.createdAt < b.createdAt
  | .workflow, a, b => SourceRegistry.pendingBefore b a = false

namespace SourceRegistry

/-- The sources that a transaction claims. -/
def taken (r : SourceRegistry) (label : ℕ × RegistryOp) : List (String × String) :=
  match label.2 with
  | .claimSourceRowsForDiscovery projectModule staleAfterHours limit leaseTtlMinutes claimToken
      locked =>
      (r.claimSourceRowsForDiscovery label.1 projectModule staleAfterHours limit leaseTtlMinutes
        claimToken locked).2
  | .claimPendingSourcesForWorkflowRun projectModule limit leaseTtlMinutes claimToken locked =>
      (r.claimPendingSourcesForWorkflowRun label.1 projectModule limit leaseTtlMinutes claimToken
        locked).2.map fun source => (projectModule, source)
  | _ => []

/-- A row that a claim may take: enabled, unclaimed, and due or pending. -/
def eligible (label : ℕ × RegistryOp) (row : SourceRegistryRow) : Bool :=
  match label.2 with
  | .claimSourceRowsForDiscovery _ staleAfterHours _ _ _ _ =>
      row.enabled && (row.discoveryClaimExpiresAt.all fun expiresAt => expiresAt ≤ label.1) &&
        row.lastCheckedAt.all fun checkedAt => checkedAt + staleAfterHours * 3600000000 ≤ label.1
  | .claimPendingSourcesForWorkflowRun .. =>
      row.enabled && row.workflowRunPending && row.workflowClaimFree label.1
  | _ => false

/-- The row is held by another transaction while the claim is made. -/
def isLocked (label : ℕ × RegistryOp) (key : String × String) : Bool :=
  match label.2 with
  | .claimSourceRowsForDiscovery _ _ _ _ _ locked => locked.contains key
  | .claimPendingSourcesForWorkflowRun _ _ _ _ locked => locked.contains key.2
  | _ => false

/-! ### One claim -/

theorem pendingBefore_total (a b : SourceRegistryRow) :
    pendingBefore a b = true ∨ pendingBefore b a = true := by
  unfold pendingBefore
  cases a.workflowRunPendingAt <;> cases b.workflowRunPendingAt <;> simp <;> omega

theorem pendingBefore_trans {a b c : SourceRegistryRow} (hab : pendingBefore a b = true)
    (hbc : pendingBefore b c = true) : pendingBefore a c = true := by
  unfold pendingBefore at hab hbc ⊢
  cases ha : a.workflowRunPendingAt <;> cases hb : b.workflowRunPendingAt <;>
    cases hc : c.workflowRunPendingAt <;>
    simp only [ha, hb, hc, Bool.or_eq_true, Bool.and_eq_true, decide_eq_true_eq, beq_iff_eq,
      Bool.false_eq_true] at hab hbc ⊢ <;> omega

instance : Std.Total fun a b : SourceRegistryRow => pendingBefore a b = true :=
  ⟨pendingBefore_total⟩

instance : IsTrans SourceRegistryRow fun a b => pendingBefore a b = true :=
  ⟨fun _ _ _ => pendingBefore_trans⟩

instance : Std.Total fun a b : SourceRegistryRow => a.createdAt ≤ b.createdAt :=
  ⟨fun a b => le_total a.createdAt b.createdAt⟩

instance : IsTrans SourceRegistryRow fun a b => a.createdAt ≤ b.createdAt :=
  ⟨fun _ _ _ => le_trans⟩

/-- **A claim takes what is ahead of what it takes**: every eligible source of the project that no
other transaction holds. -/
theorem taken_of_ahead {queue : AdmissionQueue} {r : SourceRegistry} {label : ℕ × RegistryOp}
    (hclaims : queue.claims label.2 = true) {source : String × String}
    (hsource : source ∈ r.taken label) {row : SourceRegistryRow} (hrow : row ∈ r.rows)
    (heligible : eligible label row = true) (hlocked : isLocked label row.key = false)
    (hproject : row.projectModule = source.1)
    (hahead : ∀ other ∈ r.rows, other.key = source → eligible label other = true →
      queue.Ahead row other) : row.key ∈ r.taken label := by
  obtain ⟨now, op⟩ := label
  cases queue with
  | discovery =>
      cases op with
      | claimSourceRowsForDiscovery projectModule staleAfterHours limit leaseTtlMinutes claimToken
          locked =>
          obtain ⟨other, hother, rfl⟩ := List.mem_map.mp hsource
          have hmem := List.mem_of_mem_take hother
          rw [discoveryCandidates, List.mem_insertionSort, List.mem_filter] at hmem
          refine List.mem_map_of_mem (mem_take_of_ahead hother ?_ ?_)
          · rw [List.mem_filter]
            refine ⟨hrow, ?_⟩
            simp only [eligible, isLocked, Bool.and_eq_true] at heligible hlocked hmem ⊢
            refine ⟨⟨⟨⟨heligible.1.1, heligible.1.2⟩, heligible.2⟩, ?_⟩, ?_⟩
            · have hfilter := hmem.2.1.2
              rwa [show row.projectModule = other.projectModule from hproject]
            · rw [hlocked]
              rfl
          · have hother : eligible (now, .claimSourceRowsForDiscovery projectModule staleAfterHours
                limit leaseTtlMinutes claimToken locked) other = true := by
              simp only [eligible, Bool.and_eq_true] at hmem ⊢
              exact hmem.2.1.1
            have hbefore : row.createdAt < other.createdAt := hahead other hmem.1 rfl hother
            omega
      | _ => cases hclaims
  | workflow =>
      cases op with
      | claimPendingSourcesForWorkflowRun projectModule limit leaseTtlMinutes claimToken locked =>
          obtain ⟨sid, hsid, rfl⟩ := List.mem_map.mp hsource
          obtain ⟨other, hother, rfl⟩ := List.mem_map.mp hsid
          have hmem := List.mem_of_mem_take hother
          rw [claimCandidates, List.mem_insertionSort, List.mem_filter] at hmem
          simp only [Bool.and_eq_true, beq_iff_eq] at hmem
          have hkey : other.key = (projectModule, other.sourceIdentifier) := by
            rw [SourceRegistryRow.key, hmem.2.1.1.1.1]
          refine List.mem_map.mpr ⟨row.sourceIdentifier, List.mem_map_of_mem
            (mem_take_of_ahead hother ?_ ?_), ?_⟩
          · rw [List.mem_filter]
            refine ⟨hrow, ?_⟩
            simp only [eligible, isLocked, Bool.and_eq_true, beq_iff_eq] at heligible hlocked ⊢
            refine ⟨⟨⟨⟨hproject, heligible.1.1⟩, heligible.1.2⟩, heligible.2⟩, ?_⟩
            rw [show row.key.2 = row.sourceIdentifier from rfl] at hlocked
            rw [hlocked]
            rfl
          · have hother : eligible (now, .claimPendingSourcesForWorkflowRun projectModule limit
                leaseTtlMinutes claimToken locked) other = true := by
              simp only [eligible, Bool.and_eq_true]
              exact ⟨⟨hmem.2.1.1.1.2, hmem.2.1.1.2⟩, hmem.2.1.2⟩
            have hbefore : pendingBefore other row = false := hahead other hmem.1 hkey hother
            rw [hbefore]
            exact Bool.false_ne_true
          · rw [SourceRegistryRow.key, hproject]
      | _ => cases hclaims

/-! ### The places after a transaction -/

/-- What a transaction does to the place of a source among the pending ones: the place is kept; the
source leaves the queue; it joins the queue at the end; or it is put back, at the end if it had no
place. -/
inductive PendingChange (now : ℕ) (old new : SourceRegistryRow) : Prop where
  | kept (hpending : new.workflowRunPending = old.workflowRunPending)
      (hsince : new.workflowRunPendingAt = old.workflowRunPendingAt)
  | left (hpending : new.workflowRunPending = false) (hsince : new.workflowRunPendingAt = none)
  | joined (hpending : new.workflowRunPending = true) (hsince : new.workflowRunPendingAt = some now)
  | returned (hpending : new.workflowRunPending = true)
      (hsince : new.workflowRunPendingAt = (old.workflowRunPendingAt <|> some now))

section Step

variable {env : DiscoveryEnv} {r : SourceRegistry} {now : ℕ} {row : SourceRegistryRow}

/-- The row was there, and has been changed in its place alone. -/
def Follows (now : ℕ) (r : SourceRegistry) (row : SourceRegistryRow) : Prop :=
  ∃ old ∈ r.rows, row.key = old.key ∧ PendingChange now old row

theorem follows_of_mem (h : row ∈ r.rows) : Follows now r row :=
  ⟨row, h, rfl, .kept rfl rfl⟩

theorem follows_updateWhere {p : SourceRegistryRow → Bool}
    {set : SourceRegistryRow → SourceRegistryRow} (h : row ∈ (r.updateWhere p set).rows)
    (hset : ∀ old, (set old).key = old.key ∧ PendingChange now old (set old)) :
    Follows now r row := by
  obtain ⟨old, hold, rfl⟩ := mem_updateWhere.mp h
  split
  · exact ⟨old, hold, hset old⟩
  · exact follows_of_mem hold

theorem follows_updateIfClaimed {projectModule claimToken : String} {sources : List String}
    {set : SourceRegistryRow → SourceRegistryRow}
    (h : row ∈ (r.updateIfClaimed projectModule sources claimToken set).rows)
    (hset : ∀ old, (set old).key = old.key ∧ PendingChange now old (set old)) :
    Follows now r row := by
  unfold updateIfClaimed at h
  split at h
  · exact follows_of_mem h
  · exact follows_updateWhere h hset

theorem follows_persistChangedOrUnchanged {r' : SourceRegistry}
    {projectModule source claimToken : String} {batch : MetadataBatch} {outcome : PersistOutcome}
    (hpersist : r.persistChangedOrUnchanged env now projectModule source claimToken batch =
      .ok (r', outcome)) (h : row ∈ r'.rows) : Follows now r row := by
  unfold persistChangedOrUnchanged at hpersist
  split at hpersist
  · cases hpersist
  dsimp only at hpersist
  split at hpersist
  · cases hpersist
    exact follows_of_mem h
  split at hpersist
  · cases hpersist
  split at hpersist
  · cases hpersist
    exact follows_updateWhere h fun old => ⟨rfl, .kept rfl rfl⟩
  · cases hpersist
    exact follows_updateWhere h fun old => ⟨rfl, .joined rfl rfl⟩

theorem follows_persistNoRecords {projectModule source claimToken : String}
    (h : row ∈ (r.persistNoRecords env now projectModule source claimToken).1.rows) :
    Follows now r row := by
  unfold persistNoRecords at h
  dsimp only at h
  split at h
  · exact follows_of_mem h
  split at h
  · exact follows_updateWhere h fun old => ⟨rfl, .kept rfl rfl⟩
  · obtain ⟨old, hold, hrow⟩ := mem_updateWhere.mp h
    rw [hrow]
    split
    · exact ⟨old, hold, rfl, .kept rfl rfl⟩
    · exact follows_of_mem hold

/-- **The rows after a transaction**: a new one, which is not pending, or one that was there. -/
theorem mem_rows_step {op : RegistryOp} (h : row ∈ (r.step env (now, op)).rows) :
    (∃ projectModule source enabled, row = .new projectModule source enabled now) ∨
      Follows now r row := by
  unfold step at h
  dsimp only at h
  cases op with
  | upsertSource projectModule source enabled =>
      dsimp only at h
      unfold upsertSource at h
      split at h
      · exact .inr (follows_updateWhere h fun old => ⟨rfl, .kept rfl rfl⟩)
      · rcases List.mem_append.mp h with hold | hnew
        · exact .inr (follows_of_mem hold)
        · exact .inl ⟨projectModule, source, enabled, List.mem_singleton.mp hnew⟩
  | deleteSource projectModule source => exact .inr (follows_of_mem (List.mem_of_mem_filter h))
  | persistChangedOrUnchanged projectModule source claimToken batch =>
      dsimp only at h
      split at h
      next hpersist => exact .inr (follows_persistChangedOrUnchanged hpersist h)
      next => exact .inr (follows_of_mem h)
  | persistNoRecords projectModule source claimToken => exact .inr (follows_persistNoRecords h)
  | releaseDiscoveryClaim projectModule sources claimToken
  | markSourcesCheckedIfClaimed projectModule sources claimToken
  | markSourcesAttemptedIfClaimed projectModule sources claimToken =>
      dsimp only at h
      exact .inr (follows_updateIfClaimed h fun old => ⟨rfl, .kept rfl rfl⟩)
  | clearWorkflowPendingForSources projectModule sources =>
      exact .inr (follows_updateWhere h fun old => ⟨rfl, .left rfl rfl⟩)
  | markSourcesPendingWorkflowRun projectModule sources =>
      exact .inr (follows_updateWhere h fun old => ⟨rfl, .joined rfl rfl⟩)
  | finalizeSuccessfulSources projectModule sources admitted =>
      dsimp only at h
      unfold finalizeSuccessfulSources at h
      split at h
      · exact .inr (follows_of_mem h)
      split at h
      · exact .inr (follows_updateWhere h fun old => ⟨rfl, .left rfl rfl⟩)
      · exact .inr (follows_updateWhere h fun old => ⟨rfl, .returned rfl rfl⟩)
  | _ => exact .inr (follows_updateWhere h fun old => ⟨rfl, .kept rfl rfl⟩)

end Step

/-! ### Places along a run -/

section Run

variable {env : DiscoveryEnv}

/-- A source that is not pending has no place in the queue. -/
def PendingStamped (r : SourceRegistry) : Prop :=
  ∀ row ∈ r.rows, row.workflowRunPending = false → row.workflowRunPendingAt = none

/-- The source is not pending, or has been pending since later than `since`. -/
def PendingAfter (source : String × String) (since : ℕ) (r : SourceRegistry) : Prop :=
  ∀ row ∈ r.rows, row.key = source → row.workflowRunPending = true →
    ∃ pendingAt, row.workflowRunPendingAt = some pendingAt ∧ since < pendingAt

theorem PendingStamped.step {r : SourceRegistry} (h : r.PendingStamped)
    (label : ℕ × RegistryOp) : (r.step env label).PendingStamped := by
  intro row hrow hpending
  rcases mem_rows_step hrow with ⟨projectModule, source, enabled, rfl⟩ | ⟨old, hold, -, hchange⟩
  · rfl
  cases hchange with
  | kept hsame hsince =>
      rw [hsince]
      exact h old hold (hsame.symm.trans hpending)
  | left _ hsince => exact hsince
  | joined htrue _ | returned htrue _ =>
      rw [htrue] at hpending
      cases hpending

/-- A transaction that begins later puts the source behind, if it puts the source anywhere. -/
theorem PendingAfter.step {r : SourceRegistry} {source : String × String} {since : ℕ}
    (h : PendingAfter source since r) (hstamped : r.PendingStamped) {label : ℕ × RegistryOp}
    (hlater : since < label.1) : PendingAfter source since (r.step env label) := by
  intro row hrow hkey hpending
  rcases mem_rows_step hrow with
    ⟨projectModule, source, enabled, rfl⟩ | ⟨old, hold, hold_key, hchange⟩
  · cases hpending
  have hkey' : old.key = source := hold_key.symm.trans hkey
  cases hchange with
  | kept hsame hsince =>
      rw [hsince]
      exact h old hold hkey' (hsame.symm.trans hpending)
  | left hfalse _ =>
      rw [hfalse] at hpending
      cases hpending
  | joined _ hsince => exact ⟨label.1, hsince, hlater⟩
  | returned _ hsince =>
      cases hold_pending : old.workflowRunPending with
      | true =>
          obtain ⟨pendingAt, hat, hafter⟩ := h old hold hkey' hold_pending
          rw [hat] at hsince
          exact ⟨pendingAt, hsince, hafter⟩
      | false =>
          rw [hstamped old hold hold_pending] at hsince
          exact ⟨label.1, hsince, hlater⟩

/-- A source that has left the queue stays behind those that have waited. -/
theorem pendingAfter_exec {r : SourceRegistry} {source : String × String} {since : ℕ}
    (hstamped : r.PendingStamped) {labels : List (ℕ × RegistryOp)}
    (hlater : ∀ label ∈ labels, since < label.1)
    (hleft : ∀ row ∈ r.rows, row.key = source → row.workflowRunPending = false) :
    PendingAfter source since (Runs.exec (SourceRegistry.step env) r labels) := by
  have hstart : r.PendingStamped ∧ PendingAfter source since r := by
    refine ⟨hstamped, fun row hrow hkey hpending => ?_⟩
    rw [hleft row hrow hkey] at hpending
    cases hpending
  exact (Runs.exec_invariant (fun r => r.PendingStamped ∧ PendingAfter source since r)
    (fun r label h hlater => ⟨h.1.step label, h.2.step h.1 hlater⟩) hstart
    (Runs.meets_of_forall (A := fun label : ℕ × RegistryOp => since < label.1) hlater)).2

theorem pendingStamped_exec {r : SourceRegistry} (h : r.PendingStamped)
    (labels : List (ℕ × RegistryOp)) :
    (Runs.exec (SourceRegistry.step env) r labels).PendingStamped :=
  Runs.exec_invariant PendingStamped (fun _ label h _ => h.step label) h (Runs.meets_true labels)

end Run

/-! ### Overtaking -/

section Overtaking

variable (env : DiscoveryEnv)

/-- **A source overtakes another one** of its project between two claims of a queue: both claims
take it, the other one is eligible at both, and no claim from the first to the second takes the
other one. -/
structure Overtakes (queue : AdmissionQueue) (r : SourceRegistry) (first : ℕ × RegistryOp)
    (mid : List (ℕ × RegistryOp)) (second : ℕ × RegistryOp) (source other : String × String) :
    Prop where
  first_claims : queue.claims first.2 = true
  second_claims : queue.claims second.2 = true
  ne : other ≠ source
  project : other.1 = source.1
  first_takes : source ∈ r.taken first
  second_takes : source ∈ (Runs.exec (step env) r (first :: mid)).taken second
  first_eligible : ∃ row ∈ r.rows, row.key = other ∧ eligible first row = true
  second_eligible : ∃ row ∈ (Runs.exec (step env) r (first :: mid)).rows,
    row.key = other ∧ eligible second row = true
  waits : Runs.Meets (step env)
    (fun r label => queue.claims label.2 = true → other ∉ r.taken label) r
    (first :: mid ++ [second])

/-- In no run a source overtakes another one. -/
def NoOvertaking (queue : AdmissionQueue) : Prop :=
  ∀ before first mid second source other,
    ¬ Overtakes env queue (Runs.exec (step env) ⟨[], []⟩ before) first mid second source other

/-- **A source gives way to another one** at the second claim, where `r` are the tables after the
first: the other one is ahead; or the source has been checked recently; or it has left the queue of
pending sources since the first claim, and all later transactions have begun after the other one
became pending. -/
inductive GivesWay (r : SourceRegistry) (mid : List (ℕ × RegistryOp)) (second : ℕ × RegistryOp)
    (source other : String × String) : AdmissionQueue → Prop where
  | ahead {queue : AdmissionQueue}
      (hahead : ∀ row ∈ (Runs.exec (step env) r mid).rows,
        ∀ row' ∈ (Runs.exec (step env) r mid).rows, row.key = other → row'.key = source →
          queue.Ahead row row') : GivesWay r mid second source other queue
  | checked {projectModule : Option String} {staleAfterHours limit leaseTtlMinutes : ℕ}
      {claimToken : String} {locked : List (String × String)}
      (hsecond : second.2 = .claimSourceRowsForDiscovery projectModule staleAfterHours limit
        leaseTtlMinutes claimToken locked)
      (hchecked : ∀ row ∈ (Runs.exec (step env) r mid).rows, row.key = source →
        ∃ checkedAt, row.lastCheckedAt = some checkedAt ∧
          second.1 < checkedAt + staleAfterHours * 3600000000) :
      GivesWay r mid second source other .discovery
  | left {before after : List (ℕ × RegistryOp)} {since : ℕ} (hmid : mid = before ++ after)
      (hleft : ∀ row ∈ (Runs.exec (step env) r before).rows, row.key = source →
        row.workflowRunPending = false)
      (hlater : ∀ label ∈ after, since < label.1)
      (hsince : ∀ row ∈ (Runs.exec (step env) r mid).rows, row.key = other →
        row.workflowRunPendingAt = some since) :
      GivesWay r mid second source other .workflow

end Overtaking

section Order

variable {env : DiscoveryEnv}

/-- What a claim takes is eligible. -/
theorem eligible_of_taken {queue : AdmissionQueue} {r : SourceRegistry} {label : ℕ × RegistryOp}
    (hclaims : queue.claims label.2 = true) {source : String × String}
    (hsource : source ∈ r.taken label) :
    ∃ row ∈ r.rows, row.key = source ∧ eligible label row = true := by
  obtain ⟨now, op⟩ := label
  cases op with
  | claimSourceRowsForDiscovery projectModule staleAfterHours limit leaseTtlMinutes claimToken
      locked =>
      obtain ⟨row, hrow, rfl⟩ := List.mem_map.mp hsource
      have hmem := List.mem_of_mem_take hrow
      rw [discoveryCandidates, List.mem_insertionSort, List.mem_filter] at hmem
      refine ⟨row, hmem.1, rfl, ?_⟩
      simp only [eligible, Bool.and_eq_true] at hmem ⊢
      exact hmem.2.1.1
  | claimPendingSourcesForWorkflowRun projectModule limit leaseTtlMinutes claimToken locked =>
      obtain ⟨sid, hsid, rfl⟩ := List.mem_map.mp hsource
      obtain ⟨row, hrow, rfl⟩ := List.mem_map.mp hsid
      have hmem := List.mem_of_mem_take hrow
      rw [claimCandidates, List.mem_insertionSort, List.mem_filter] at hmem
      simp only [Bool.and_eq_true, beq_iff_eq] at hmem
      refine ⟨row, hmem.1, ?_, ?_⟩
      · rw [SourceRegistryRow.key, hmem.2.1.1.1.1]
      · simp only [eligible, Bool.and_eq_true]
        exact ⟨⟨hmem.2.1.1.1.2, hmem.2.1.1.2⟩, hmem.2.1.2⟩
  | _ => cases queue <;> cases hclaims

/-- Who became pending earlier is ahead. -/
theorem ahead_of_since {a b : SourceRegistryRow} {since since' : ℕ}
    (ha : a.workflowRunPendingAt = some since) (hb : b.workflowRunPendingAt = some since')
    (hlt : since < since') : AdmissionQueue.Ahead .workflow a b := by
  show pendingBefore b a = false
  unfold pendingBefore
  rw [ha, hb]
  simp only [Bool.or_eq_false_iff, decide_eq_false_iff_not, Bool.and_eq_false_imp, beq_iff_eq]
  omega

/-- Who has been checked recently is not due. -/
theorem not_eligible_of_checked {label : ℕ × RegistryOp} {projectModule : Option String}
    {staleAfterHours limit leaseTtlMinutes checkedAt : ℕ} {claimToken : String}
    {locked : List (String × String)} {row : SourceRegistryRow}
    (hlabel : label.2 = .claimSourceRowsForDiscovery projectModule staleAfterHours limit
      leaseTtlMinutes claimToken locked)
    (hchecked : row.lastCheckedAt = some checkedAt)
    (hrecent : label.1 < checkedAt + staleAfterHours * 3600000000) :
    eligible label row = false := by
  have hdue : decide (checkedAt + staleAfterHours * 3600000000 ≤ label.1) = false :=
    decide_eq_false (Nat.not_le.mpr hrecent)
  unfold eligible
  rw [hlabel]
  dsimp only
  rw [hchecked, Option.all_some, hdue, Bool.and_false]

/-- **A source that gives way does not overtake.**  In every run, no source is claimed twice while
another one of its project, eligible at both claims and not held by another transaction at the
second, has not been claimed in between, if the source gives way to it. -/
theorem not_overtakes_of_givesWay {queue : AdmissionQueue} {before : List (ℕ × RegistryOp)}
    {first : ℕ × RegistryOp} {mid : List (ℕ × RegistryOp)} {second : ℕ × RegistryOp}
    {source other : String × String} (hunlocked : isLocked second other = false)
    (hway : GivesWay env (Runs.exec (step env) ⟨[], []⟩ (before ++ [first])) mid second source other
      queue) :
    ¬ Overtakes env queue (Runs.exec (step env) ⟨[], []⟩ before) first mid second source other := by
  intro h
  have hreached : Runs.exec (step env) (Runs.exec (step env) ⟨[], []⟩ before) (first :: mid) =
      Runs.exec (step env) (Runs.exec (step env) ⟨[], []⟩ (before ++ [first])) mid := by
    rw [Runs.exec_append, Runs.exec_cons, Runs.exec_cons, Runs.exec_nil]
  have hsecond := h.second_takes
  obtain ⟨row, hrow, hkey, heligible⟩ := h.second_eligible
  have hwaits := ((Runs.meets_append _ _ _).mp h.waits).2.1 h.second_claims
  rw [hreached] at hsecond hrow hwaits
  have hstamped : (Runs.exec (step env) ⟨[], []⟩ (before ++ [first])).PendingStamped :=
    pendingStamped_exec (fun row hrow => (List.not_mem_nil hrow).elim) _
  -- the claim would have taken a row that is ahead
  have hnotAhead : ¬ ∀ row' ∈ (Runs.exec (step env)
      (Runs.exec (step env) ⟨[], []⟩ (before ++ [first])) mid).rows, row'.key = source →
        eligible second row' = true → queue.Ahead row row' := by
    intro hahead
    refine hwaits (hkey ▸ taken_of_ahead h.second_claims hsecond hrow heligible ?_ ?_ hahead)
    · rw [hkey]
      exact hunlocked
    · rw [← h.project, ← hkey]
      rfl
  cases hway with
  | ahead hahead =>
      exact hnotAhead fun row' hrow' hkey' _ => hahead row hrow row' hrow' hkey hkey'
  | checked hop hchecked =>
      obtain ⟨taken, htaken, htakenKey, htakenEligible⟩ := eligible_of_taken h.second_claims hsecond
      obtain ⟨checkedAt, hat, hrecent⟩ := hchecked taken htaken htakenKey
      rw [not_eligible_of_checked hop hat hrecent] at htakenEligible
      cases htakenEligible
  | @left begun rest since hmid hleft hlater hsince =>
      refine hnotAhead fun row' hrow' hkey' heligible' => ?_
      -- the source can only be pending again since a later time
      have hafter : PendingAfter source since (Runs.exec (step env)
          (Runs.exec (step env) ⟨[], []⟩ (before ++ [first])) mid) := by
        rw [hmid, Runs.exec_append]
        exact pendingAfter_exec (pendingStamped_exec hstamped _) hlater hleft
      have hpending : row'.workflowRunPending = true := by
        have hclaims := h.second_claims
        obtain ⟨now, op⟩ := second
        cases op with
        | claimPendingSourcesForWorkflowRun projectModule limit leaseTtlMinutes claimToken
            locked =>
            simp only [eligible, Bool.and_eq_true] at heligible'
            exact heligible'.1.2
        | _ => cases hclaims
      obtain ⟨pendingAt, hat, hlt⟩ := hafter row' hrow' hkey' hpending
      exact ahead_of_since (hsince row hrow hkey) hat hlt

end Order

/-! ### Two sources and room for one -/

/-- Two sources are registered, `a` before `b`. -/
def twoSources : List (ℕ × RegistryOp) :=
  [(1, .upsertSource "survey" "a" true), (2, .upsertSource "survey" "b" true)]

/-- One record of a source, with a flag. -/
def flaggedBatch (source : String) (ready : Bool) : MetadataBatch :=
  ⟨[.obj [("source_identifier", .str source), ("group_key", .str "g"), ("record_id", .str "r")]],
    .obj [("ready", .bool ready)], {}⟩

/-- Both are discovered, and pending since the times 4 and 5. -/
def twoPending (ready : Bool) : List (ℕ × RegistryOp) :=
  twoSources ++
    [(3, .claimSourceRowsForDiscovery (some "survey") 24 10 180 "first" []),
      (4, .persistChangedOrUnchanged "survey" "a" "first" (flaggedBatch "a" ready)),
      (5, .persistChangedOrUnchanged "survey" "b" "first" (flaggedBatch "b" true)),
      (6, .releaseDiscoveryClaim "survey" ["a", "b"] "first")]

/-- A tick that admits one source. -/
def admitOne (now : ℕ) (claimToken : String) : ℕ × RegistryOp :=
  (now, .claimPendingSourcesForWorkflowRun "survey" 1 180 claimToken [])

/-- A tick that discovers one source. -/
def discoverOne (now : ℕ) (claimToken : String) : ℕ × RegistryOp :=
  (now, .claimSourceRowsForDiscovery (some "survey") 24 1 180 claimToken [])

/-- `a` is admitted and comes back after its execution has failed; it gives way to `b`. -/
theorem not_overtakes_of_givesWay_sample :
    ¬ Overtakes sampleEnv .workflow (sampleRegistry (twoPending true)) (admitOne 7 "second")
      [(8, .clearWorkflowPendingForSources "survey" ["a"]),
        (9, .markSourcesPendingWorkflowRun "survey" ["a"])]
      (admitOne 10 "third") ("survey", "a") ("survey", "b") := by
  refine not_overtakes_of_givesWay (by decide) (@GivesWay.left sampleEnv _ _ _ _ _
    [(8, .clearWorkflowPendingForSources "survey" ["a"])] _ 5 rfl ?_ ?_ ?_)
  · decide +kernel
  · decide
  · decide +kernel

/-- **Sources overtake others in both queues**: `a`, whose discovery has failed, is claimed again
before `b` is claimed at all; and so is `a` when its flags have not passed, so that it is not ready
for an execution and stays pending. -/
theorem head_of_queue_overtakes :
    ¬ NoOvertaking sampleEnv .discovery ∧ ¬ NoOvertaking sampleEnv .workflow ∧
      ((sampleRegistry (twoPending false)).parsedSourceReadinessError "survey"
        ⟨"a", none⟩).isSome := by
  refine ⟨fun h => ?_, fun h => ?_, by decide +kernel⟩
  · refine h twoSources (discoverOne 3 "first")
      [(4, .markSourcesAttemptedIfClaimed "survey" ["a"] "first"),
        (5, .releaseDiscoveryClaim "survey" ["a"] "first")]
      (discoverOne 6 "second") ("survey", "a") ("survey", "b") ?_
    exact ⟨rfl, rfl, by decide, rfl, by decide +kernel, by decide +kernel, by decide +kernel,
      by decide +kernel, by decide +kernel⟩
  · refine h (twoPending false) (admitOne 7 "second")
      [(8, .releaseWorkflowClaim "survey" ["a"] "second")] (admitOne 9 "third") ("survey", "a")
      ("survey", "b") ?_
    exact ⟨rfl, rfl, by decide, rfl, by decide +kernel, by decide +kernel, by decide +kernel,
      by decide +kernel, by decide +kernel⟩

end SourceRegistry

end Beampipe
