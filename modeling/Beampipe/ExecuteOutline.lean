/-
The way of an execute job through an outline.

Results about runs attach an assertion to the requests that matter to them and keep one property of
the job everywhere else.  Where the job passes is always the same, so it is followed once here: from
a property `F` that every request on the way to the submission keeps, and from triples for the parts
that a result looks into, the rules below build the triple of `run_execute_body`.

Main definitions:

* `Beampipe.ExecutionOutline` — an outline for the system of `Beampipe/ExecutionSystem.lean`;
* `Beampipe.Guarded` — the condition on runs that speaks about the request a process issues.

Main results:

* `Beampipe.triple_runSubmitPhase`, `Beampipe.triple_prepareAndSubmit`,
  `Beampipe.triple_runExecuteBody` — the way to the submission, and the submission;
* `Beampipe.triple_forEach`, `Beampipe.triple_onlyIf`, `Beampipe.triple_orFail` — the rules of the
  small programs.
-/

import Beampipe.IssuedRequests

set_option relaxedAutoImplicit false
set_option autoImplicit false

namespace Beampipe

/-- An outline for the processes of an execution. -/
abbrev ExecutionOutline := Programs.Outline Request Request.Answer World Local Choice

/-- The request that a step answers, if it answers one, meets `G`. -/
def Guarded (G : ExecutionConfig → ℕ → Request → Choice → Local → Prop) (c : ExecutionConfig) :
    ExecutionLabel → Prop
  | .run pid i =>
      match c.threads pid with
      | some ⟨l, .req r _⟩ => G c pid r i l
      | _ => True
  | _ => True

theorem Guarded.answered {G : ExecutionConfig → ℕ → Request → Choice → Local → Prop}
    {c : ExecutionConfig} {pid : ℕ} {i : Choice} {l : Local} {r : Request}
    {k : r.Answer → Exec Unit} (h : Guarded G c (.run pid i))
    (hthread : c.threads pid = some ⟨l, .req r k⟩) : G c pid r i l := by
  simpa only [Guarded, hthread] using h

instance Guarded.decidable {G : ExecutionConfig → ℕ → Request → Choice → Local → Prop}
    [∀ c pid r i l, Decidable (G c pid r i l)] (c : ExecutionConfig) (lab : ExecutionLabel) :
    Decidable (Guarded G c lab) :=
  match lab with
  | .run pid i =>
      match h : c.threads pid with
      | some ⟨l, .req r _⟩ => decidable_of_iff (G c pid r i l) (by simp only [Guarded, h])
      | some ⟨_, .ret _⟩ => isTrue (by simp only [Guarded, h])
      | some ⟨_, .throw _⟩ => isTrue (by simp only [Guarded, h])
      | none => isTrue (by simp only [Guarded, h])
  | .start _ _ => isTrue trivial
  | .crash _ => isTrue trivial
  | .environment _ => isTrue trivial

section Rules

variable {o : ExecutionOutline} {pid : ℕ} {α : Type} {F : Local → World → Prop}

theorem triple_orFail (x : Except String α) {E : Failure → Local → World → Prop}
    (hE : ∀ error l w, o.inv w → F l w → E (.error error) l w) :
    o.Triple pid F (orFail x) (fun a l w => x = .ok a ∧ F l w) E := by
  cases x with
  | ok a => exact Programs.Outline.triple_ret fun l w _ h => ⟨rfl, h⟩
  | error message => exact Programs.Outline.triple_throw fun l w hinv h => hE message l w hinv h

theorem triple_onlyIf {condition : Bool} {program : Exec Unit} {P : Local → World → Prop}
    {Q : Unit → Local → World → Prop} {E : Failure → Local → World → Prop}
    (hprogram : condition → o.Triple pid P program Q E)
    (hskip : condition = false → ∀ l w, o.inv w → P l w → Q () l w) :
    o.Triple pid P (onlyIf condition program) Q E := by
  cases condition with
  | true => exact hprogram rfl
  | false => exact Programs.Outline.triple_ret fun l w hinv h => hskip rfl l w hinv h

theorem triple_forEach {items : List α} {body : α → Exec Unit}
    {E : Failure → Local → World → Prop}
    (h : ∀ a ∈ items, o.Triple pid F (body a) (fun _ => F) E) :
    o.Triple pid F (forEach items body) (fun _ => F) E := by
  induction items with
  | nil => exact Programs.Outline.triple_ret fun _ _ _ h => h
  | cons a rest ih =>
      refine Programs.Outline.triple_bind (h a List.mem_cons_self) fun _ => ?_
      exact ih fun b hb => h b (List.mem_cons_of_mem a hb)

/-- One transaction whose error ends the program: its assertion holds, and what it returns, or that
it failed, establishes the postcondition. -/
theorem triple_tx {site : Site} {t : Tx} {P : Local → World → Prop}
    {Q : t.Result → Local → World → Prop} {E : Failure → Local → World → Prop}
    (hentry : ∀ l w, o.inv w → P l w → o.assertion pid (.tx site t) l w)
    (hok : ∀ i l w result, o.inv w → o.assertion pid (.tx site t) l w →
      o.guard pid (.tx site t) i l w → o.inv (o.perform pid (.tx site t) i l w).2.2 →
      (o.perform pid (.tx site t) i l w).1 = .ok result →
      Q result (o.perform pid (.tx site t) i l w).2.1 (o.perform pid (.tx site t) i l w).2.2)
    (herror : ∀ i l w message, o.inv w → o.assertion pid (.tx site t) l w →
      o.guard pid (.tx site t) i l w → o.inv (o.perform pid (.tx site t) i l w).2.2 →
      (o.perform pid (.tx site t) i l w).1 = .error message →
      E (.error message) (o.perform pid (.tx site t) i l w).2.1
        (o.perform pid (.tx site t) i l w).2.2) :
    o.Triple pid P (tx site t) Q E := by
  refine ⟨⟨fun i l w hinv hassert hguard hinv' => ?_, fun answer => ?_⟩, hentry⟩
  · cases hanswer : (o.perform pid (.tx site t) i l w).1 with
    | ok result => exact hok i l w result hinv hassert hguard hinv' hanswer
    | error message => exact herror i l w message hinv hassert hguard hinv' hanswer
  · cases answer <;> trivial

/-- One question to the outside. -/
theorem triple_ask {site : Site} {question : External} {P : Local → World → Prop}
    {Q : question.Answer → Local → World → Prop} {E : Failure → Local → World → Prop}
    (hentry : ∀ l w, o.inv w → P l w → o.assertion pid (.ask site question) l w)
    (hstep : ∀ i l w, o.inv w → o.assertion pid (.ask site question) l w →
      o.guard pid (.ask site question) i l w →
      o.inv (o.perform pid (.ask site question) i l w).2.2 →
      Q (o.perform pid (.ask site question) i l w).1
        (o.perform pid (.ask site question) i l w).2.1
        (o.perform pid (.ask site question) i l w).2.2) :
    o.Triple pid P (ask site question) Q E :=
  Programs.Outline.triple_call hentry hstep

end Rules

/-! ### The execute job -/

section Execute

variable {o : ExecutionOutline} {pid : ℕ} {F Q : Local → World → Prop}
variable (config : WorkerConfig) (execution : ExecutionRow)

/-- The submission: `G` holds once it is taken, and `R` of its outcome once it has ended. -/
theorem triple_runSubmitPhase {G : Local → World → Prop}
    {R : SubmitOutcome → Local → World → Prop} (setup : ExecutionSetup) (useReal : Bool)
    (manifest graph : Json)
    (hfingerprint : o.Triple pid F (orFail (setup.targetFingerprint useReal)) (fun _ => F) fun _ => F)
    (hbegin : ∀ fingerprint, o.Triple pid F
      (tx .runSubmitPhase
        (.beginExecutionSubmission (submissionIntent config execution setup fingerprint)))
      (fun taken l w => (taken = none → Q l w) ∧ (taken.isSome → G l w)) fun _ => F)
    (hsubmit : ∀ attempt deadline, o.Triple pid G
      (ask .runSubmitPhase (.submit attempt manifest graph deadline)) R fun _ => F)
    (hreceipt : ∀ receipt, o.Triple pid (R (.submitted receipt))
      (applySubmitResult execution.uuid receipt useReal config.pool) (fun _ => Q) fun _ => F)
    (hfailed : ∀ error, o.Triple pid (R (.failed error))
      (tx .submitFailed
        (.applyExecutionStatePatch
          { submissionState := some .failed
            failureClass := some .dependencyUnavailable
            lastError := some error })) (fun _ => F) fun _ => F)
    (huncertain : ∀ outcome failureClass error,
      (outcome = .uncertain error ∨ outcome = .timedOut error) → o.Triple pid (R outcome)
        (tx .runSubmitPhase
          (.applyExecutionStatePatch
            { submissionState := some .uncertain
              failureClass := some failureClass
              lastError := some error })) (fun _ => F) fun _ => F) :
    o.Triple pid F (runSubmitPhase config execution setup useReal manifest graph) (fun _ => Q)
      fun _ => F := by
  unfold runSubmitPhase
  refine Programs.Outline.triple_bind hfingerprint fun fingerprint => ?_
  refine Programs.Outline.triple_bind (hbegin fingerprint) fun taken => ?_
  cases taken with
  | none => exact Programs.Outline.triple_ret fun l w _ h => h.1 rfl
  | some deadline =>
      refine Programs.Outline.Triple.strengthen (F := G) ?_ fun l w _ h => h.2 rfl
      refine Programs.Outline.triple_bind (hsubmit _ deadline) fun outcome => ?_
      have hthrow : ∀ error, o.Triple pid F (.throw (.error error) : Exec Unit) (fun _ => Q)
          fun _ => F := fun error => Programs.Outline.triple_throw fun _ _ _ h => h
      cases outcome with
      | submitted receipt => exact hreceipt receipt
      | failed error => exact Programs.Outline.triple_bind (hfailed error) fun _ => hthrow error
      | uncertain error =>
          exact Programs.Outline.triple_bind (huncertain _ _ error (.inl rfl)) fun _ => hthrow error
      | timedOut error =>
          exact Programs.Outline.triple_bind (huncertain _ _ error (.inr rfl)) fun _ => hthrow error

/-- The part after admission, from its requests before the submission, from the submission and from
the end of a job that does not submit. -/
theorem triple_prepareAndSubmit (setup : ExecutionSetup) (payload : ExecutePayload)
    (replayManifest : Bool)
    (hbody : ∀ {α : Type} (p : Exec α), p.Requests (Request.IssuedIn [.runExecuteBody]) →
      o.Triple pid F p (fun _ => F) fun _ => F)
    (hsubmit : ∀ useReal manifest graph, o.Triple pid F
      (runSubmitPhase config execution setup useReal manifest graph) (fun _ => Q) fun _ => F)
    (hfinish : ∀ manifest, o.Triple pid F (finishNotSubmitted manifest) (fun _ => Q) fun _ => F) :
    o.Triple pid F (prepareAndSubmit config execution setup payload replayManifest) (fun _ => Q)
      fun _ => F := by
  unfold prepareAndSubmit
  refine Programs.Outline.triple_bind
    (hbody _ (requests_executeManifest execution replayManifest)) fun manifest => ?_
  refine Programs.Outline.triple_bind (hbody _ (by simp [Request.Issued])) fun answer => ?_
  refine Programs.Outline.triple_bind (hbody _ (requests_orFail answer)) fun graphs => ?_
  refine Programs.Outline.triple_bind
    (hbody _ (requests_persistExecutionArtifacts execution manifest graphs)) fun _ => ?_
  refine Programs.Outline.triple_bind
    (hbody _ (by simp [Tx.IssuedAt, ExecutionStatePatch.IssuedAt])) fun _ => ?_
  split
  · refine Programs.Outline.triple_bind
      (hbody _ (by simp [Tx.IssuedAt, LedgerPatch.IssuedAt])) fun _ => ?_
    refine Programs.Outline.triple_bind
      (hbody _ (requests_ensureExecutionActive false)) fun _ => ?_
    exact hsubmit payload.useReal manifest graphs.2
  · exact hfinish manifest

/-- The whole of `run_execute_body`; a snapshot whose submission is held ends it at once. -/
theorem triple_runExecuteBody (payload : ExecutePayload)
    (hbody : ∀ {α : Type} (p : Exec α), p.Requests (Request.IssuedIn [.runExecuteBody]) →
      o.Triple pid F p (fun _ => F) fun _ => F)
    (hsubmit : ∀ setup useReal manifest graph, o.Triple pid F
      (runSubmitPhase config execution setup useReal manifest graph) (fun _ => Q) fun _ => F)
    (hfinish : ∀ manifest, o.Triple pid F (finishNotSubmitted manifest) (fun _ => Q) fun _ => F) :
    o.Triple pid
      (fun l w => F l w ∧ (execution.submissionState.holdsAutomaticWork → Q l w))
      (runExecuteBody config execution payload) (fun _ => Q) fun _ => F := by
  unfold runExecuteBody
  split
  next hheld => exact Programs.Outline.triple_ret fun l w _ h => h.2 hheld
  next =>
    refine Programs.Outline.Triple.strengthen (F := F) ?_ fun l w _ h => h.1
    refine Programs.Outline.triple_bind (hbody _ (by simp [Request.Issued])) fun answer => ?_
    refine Programs.Outline.triple_bind (hbody _ (requests_orFail answer)) fun setup => ?_
    refine Programs.Outline.triple_bind (hbody _ (requests_orFail _)) fun _ => ?_
    refine Programs.Outline.triple_bind
      (hbody _ (requests_ensureExecutionActive true)) fun _ => ?_
    refine Programs.Outline.triple_bind (hbody _ (by simp [Tx.IssuedAt])) fun archive => ?_
    refine Programs.Outline.triple_bind (hbody _ (by simp [Request.Issued])) fun answer => ?_
    refine Programs.Outline.triple_bind (hbody _ (requests_orFail answer)) fun _ => ?_
    refine Programs.Outline.triple_bind (hbody _ (by simp [Request.Issued])) fun answer => ?_
    refine Programs.Outline.triple_bind (hbody _ (requests_orFail answer)) fun _ => ?_
    refine Programs.Outline.triple_bind
      (hbody _ (requests_admitExecution execution _)) fun _ => ?_
    exact triple_prepareAndSubmit config execution setup payload _ hbody (hsubmit setup) hfinish

/-- `run_execute`: `F` holds until the row is read, `S row` from then on, and the error arm starts
from it. -/
theorem triple_runExecute {E : Failure → Local → World → Prop}
    {S : ExecutionRow → Local → World → Prop} (payload : ExecutePayload)
    (hsnapshot : o.Triple pid F (tx .runExecute .getExecution)
      (fun row l w => S row l w ∧ (row.status.isTerminal → Q l w) ∧
        (row.submissionState.holdsAutomaticWork → Q l w)) E)
    (hbody : ∀ row, o.Triple pid
      (fun l w => S row l w ∧ (row.submissionState.holdsAutomaticWork → Q l w))
      (runExecuteBody config row payload) (fun _ => Q) fun _ => S row)
    (harm : ∀ row error, o.Triple pid (S row) (executeErrorArm error) (fun _ => Q) E)
    (hpanic : ∀ row l w, o.inv w → S row l w → E .panic l w) :
    o.Triple pid F (runExecute config payload) (fun _ => Q) E := by
  unfold runExecute
  refine Programs.Outline.triple_bind hsnapshot fun row => ?_
  split
  next hterminal => exact Programs.Outline.triple_ret fun l w _ h => h.2.1 hterminal
  next =>
    refine Programs.Outline.triple_bind (R := fun outcome l w => match outcome with
      | .ok () => Q l w
      | .error _ => S row l w) ?_ fun outcome => ?_
    · refine Programs.Outline.triple_attempt ?_
      exact (hbody row).conseq (fun l w _ h => ⟨h.1, h.2.2⟩) (fun _ _ _ _ h => h)
        fun _ _ _ _ h => h
    · cases outcome with
      | ok _ => exact Programs.Outline.triple_ret fun _ _ _ h => h
      | error failure =>
          cases failure with
          | error message => exact harm row message
          | panic => exact Programs.Outline.triple_throw fun l w hinv h => hpanic row l w hinv h

end Execute

/-! ### The worker -/

section Worker

variable {o : ExecutionOutline} {pid : ℕ} {F : Local → World → Prop}
variable (config : WorkerConfig) (executionId workerId : Uuid)

/-- One job of a worker: the claim, the job under its lease, and the end its outcome calls for. -/
theorem triple_tickForWorker {Q E : JobRow → Local → World → Prop}
    {J : JobRow → Local → World → Prop}
    (hclaim : o.Triple pid F
      (tx .tickForWorker (.claimNextJobForWorker workerId config.pool config.lockSeconds))
      (fun claimed l w => ∀ job, claimed = some job → J job l w) fun _ _ _ => True)
    (hdispatch : ∀ job, o.Triple pid (J job) (dispatch config executionId job)
      (fun _ => Q job) fun _ => E job)
    (hsucceeded : ∀ job lease, o.Triple pid (Q job) (closeSucceeded ⟨job.uuid, workerId, lease⟩ job)
      (fun _ _ _ => True) fun _ _ _ => True)
    (hfailed : ∀ job lease error, o.Triple pid (E job)
      (closeFailed ⟨job.uuid, workerId, lease⟩ job error) (fun _ _ _ => True) fun _ _ _ => True) :
    o.Triple pid F (tickForWorker config executionId workerId) (fun _ _ _ => True)
      fun _ _ _ => True := by
  unfold tickForWorker
  refine Programs.Outline.triple_bind hclaim fun claimed => ?_
  split
  · exact Programs.Outline.triple_ret fun _ _ _ _ => trivial
  next job =>
    refine Programs.Outline.Triple.strengthen (F := J job) ?_ fun l w _ h => h job rfl
    unfold runClaimedJob
    split
    · exact Programs.Outline.triple_throw fun _ _ _ _ => trivial
    next lease _ =>
      refine Programs.Outline.triple_bind (R := fun outcome l w => match outcome with
        | .ok () => Q job l w
        | .error _ => E job l w) (Programs.Outline.triple_attempt (hdispatch job)) fun outcome => ?_
      cases outcome with
      | ok _ => exact hsucceeded job lease
      | error failure =>
          cases failure with
          | error message => exact hfailed job lease message
          | panic => exact Programs.Outline.triple_throw fun _ _ _ _ => trivial

/-- The dispatch of a job, from the two kinds of jobs a result looks into and from all the
others. -/
theorem triple_dispatch {job : JobRow} {Q : Local → World → Prop}
    {E : Failure → Local → World → Prop}
    (hexecute : ∀ payload, o.Triple pid F (runExecute config payload) (fun _ => Q) E)
    (hdimPoll : o.Triple pid F (runDimPoll config job.payload) (fun _ => Q) E)
    (hdimPollTick : o.Triple pid F (runDimPollTick config) (fun _ => Q) E)
    (hslurmPollTick : o.Triple pid F (runSlurmPollTick config) (fun _ => Q) E)
    (hother : o.Triple pid F otherJob (fun _ => Q) E) :
    o.Triple pid F (dispatch config executionId job) (fun _ => Q) E := by
  unfold dispatch
  split
  · split
    · exact hexecute _
    · exact hother
  · split
    · exact hdimPoll
    · exact hother
  · exact hdimPollTick
  · exact hslurmPollTick
  all_goals exact hother

/-- Any process, when only the execute job needs a triple of its own: `F` holds of every process that
has not run one, and `G` until its job is closed. -/
theorem triple_program {φ : Request → Prop} {G : Local → World → Prop}
    (hkeep : ∀ {α : Type} (p : Exec α), p.Requests φ → o.Triple pid F p (fun _ => F) fun _ => F)
    (hclose : ∀ p : Exec Unit, p.Requests (fun r => r.closesJob) →
      o.Triple pid G p (fun _ => G) fun _ => G)
    (hsites : ∀ r : Request, r.Issued → r.site ∉ executeSites → r.closesJob = false → φ r)
    (hF : ∀ l w, o.inv w → F l w → G l w)
    (hexecute : ∀ config payload,
      o.Triple pid F (runExecute config payload) (fun _ => G) fun _ => G) (e : Entry) :
    o.Triple pid F (e.program executionId) (fun _ _ _ => True) fun _ _ _ => True := by
  have houtside : ∀ {α : Type} (p : Exec α) (sites : List Site),
      p.Requests (Request.IssuedIn sites) →
      (∀ site ∈ sites, site ∉ .tickForWorker :: executeSites) →
      o.Triple pid F p (fun _ => F) fun _ => F := by
    refine fun p sites hp hout => hkeep p (hp.mono fun r hr => hsites r hr.1 ?_ ?_)
    · exact fun h => hout r.site hr.2 (List.mem_cons_of_mem _ h)
    · cases hcloses : r.closesJob with
      | false => rfl
      | true =>
          have hsite := (Request.site_of_closesJob hcloses).2
          exact absurd (hsite ▸ List.mem_cons_self) (hout r.site hr.2)
  have hweaken : ∀ {p : Exec Unit}, o.Triple pid F p (fun _ => F) (fun _ => F) →
      o.Triple pid F p (fun _ => G) fun _ => G :=
    fun h => h.conseq (fun _ _ _ h => h) (fun _ l w hinv h => hF l w hinv h)
      fun _ l w hinv h => hF l w hinv h
  have hdone : ∀ {P : Local → World → Prop} {p : Exec Unit},
      o.Triple pid P p (fun _ => P) (fun _ => P) →
      o.Triple pid P p (fun _ _ _ => True) fun _ _ _ => True :=
    fun h => h.conseq (fun _ _ _ h => h) (fun _ _ _ _ _ => trivial) fun _ _ _ _ _ => trivial
  cases e with
  | tickForWorker config workerId =>
      refine triple_tickForWorker (Q := fun _ => G) (E := fun _ => G) (J := fun _ => F) config
        executionId workerId ?_ (fun job => triple_dispatch config executionId (hexecute config)
          ?_ ?_ ?_ ?_) (fun job lease => hdone (hclose _ (requests_closeSucceeded job _)))
        fun job lease error => hdone (hclose _ (requests_closeFailed job _ error))
      · have hclaim := hsites (.tx .tickForWorker
          (.claimNextJobForWorker workerId config.pool config.lockSeconds)) (by simp) (by simp; decide)
          rfl
        exact (hkeep _ (requests_tx.2 hclaim)).conseq (fun _ _ _ h => h)
          (fun _ _ _ _ h _ _ => h) fun _ _ _ _ _ => trivial
      · exact hweaken (houtside _ _ (requests_runDimPoll config job.payload) (by decide))
      · exact hweaken (houtside _ _ (requests_runDimPollTick config) (by decide))
      · exact hweaken (houtside _ _ (requests_runSlurmPollTick config) (by decide))
      · refine hweaken (hkeep _ (requests_otherJob.mono fun r hr => hsites r hr.1 ?_ hr.2.2))
        rw [hr.2.1]
        decide
  | _ =>
      exact hdone (houtside _ _ (requests_command executionId fun _ _ => by simp) (by decide))

end Worker

end Beampipe
