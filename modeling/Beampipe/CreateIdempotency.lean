/-
Creations under one idempotency key.

A user may send the same creation again under the same key.  The transaction of a creation takes
the advisory lock of its key, looks the key up, and only then counts and inserts, so the creations
under one key insert one after another; the unique index on user and key stands behind the lock.
What comes before the transaction is not repeated for a replay: the profile and the pinned project
configuration are resolved first, and a replay whose profile is gone is refused although its
execution exists.

Main definitions:

* `Beampipe.AdmissionSystem.answer` — what a creation answers, in the step that ends it;
* `Beampipe.Idempotent` — the step keeps one execution under the key, and answers with it;
* `Beampipe.ReplayResolves` — a replay that begins has a profile and a configuration.

Main results:

* `Beampipe.AdmissionSystem.KeyInv.step` — what the lock of a key guards;
* `Beampipe.idempotent_step_iff` — one step;
* `Beampipe.create_idempotent_iff` — **when the creations under one key are idempotent.**
-/

import Beampipe.ProfileAdmission

set_option relaxedAutoImplicit false
set_option autoImplicit false

namespace Beampipe

/-! ### The executions under a key -/

/-- `created_by_id = $1 AND create_idempotency_key = $2`. -/
def ExecutionEntry.hasKey (user : ℕ) (key : String) (entry : ExecutionEntry) : Bool :=
  entry.createdById == some user && entry.createIdempotencyKey == some key

/-- The argument check of a creation: a user, a key and a hash, or none of them. -/
def CreateRequest.KeyComplete (request : CreateRequest) : Prop :=
  request.idempotencyKey.isSome = request.requestSha256.isSome ∧
    request.idempotencyKey.isSome = request.createdById.isSome

/-- A request with a complete key has the user and the key of the executions it creates. -/
theorem CreateRequest.key_eq_iff {request : CreateRequest} (h : request.KeyComplete) {user : ℕ}
    {key : String} :
    request.key = some (user, key) ↔
      request.createdById = some user ∧ request.idempotencyKey = some key := by
  obtain ⟨hhash, huser⟩ := h
  unfold CreateRequest.key
  cases hu : request.createdById <;> cases hk : request.idempotencyKey <;>
    cases hs : request.requestSha256 <;> simp_all

namespace ExecutionTables

/-- The executions under a key. -/
def withKey (t : ExecutionTables) (user : ℕ) (key : String) : ℕ :=
  t.executions.countP (ExecutionEntry.hasKey user key)

/-- A request that passes the argument check has a complete key. -/
theorem keyComplete_of_resolveProfile {t : ExecutionTables} {request : CreateRequest}
    {profile : Option DeploymentProfileRow} (h : t.resolveProfile request = .ok profile) :
    request.KeyComplete := by
  unfold resolveProfile at h
  split at h
  · cases h
  next hcomplete =>
    push Not at hcomplete
    exact hcomplete

/-- The lookup under the key of a request. -/
theorem replayedExecution_eq {t : ExecutionTables} {request : CreateRequest} {user : ℕ}
    {key : String} (hkey : request.key = some (user, key)) :
    t.replayedExecution request =
      match t.executions.find? (ExecutionEntry.hasKey user key) with
      | none => .ok none
      | some existing =>
          if existing.createRequestSha256 = request.requestSha256 then .ok (some existing)
          else .error "execution idempotency key was already used for a different request" := by
  unfold replayedExecution
  rw [hkey]
  rfl

/-- Where at most one execution is under the key, the lookup finds it. -/
theorem find_hasKey {t : ExecutionTables} {user : ℕ} {key : String}
    (hunique : t.withKey user key ≤ 1) {entry : ExecutionEntry} (hmem : entry ∈ t.executions)
    (hentry : entry.hasKey user key) :
    t.executions.find? (ExecutionEntry.hasKey user key) = some entry := by
  have hfilter : entry ∈ t.executions.filter (ExecutionEntry.hasKey user key) :=
    List.mem_filter.mpr ⟨hmem, hentry⟩
  have hlength : (t.executions.filter (ExecutionEntry.hasKey user key)).length ≤ 1 := by
    rwa [← List.countP_eq_length_filter]
  rw [← List.head?_filter]
  match hlist : t.executions.filter (ExecutionEntry.hasKey user key) with
  | [] =>
      rw [hlist] at hfilter
      cases hfilter
  | [only] =>
      rw [hlist, List.mem_singleton] at hfilter
      rw [hfilter]
      rfl
  | _ :: _ :: _ =>
      rw [hlist] at hlength
      simp at hlength

/-- What a creation inserts is under its key. -/
theorem insertExecution_withKey {t t' : ExecutionTables} {id jobId : Uuid} {request : CreateRequest}
    {profile : Option DeploymentProfileRow} {entry : ExecutionEntry} {job : Option NewJob}
    (h : t.insertExecution id jobId request profile = .ok (t', entry, job))
    (hcomplete : request.KeyComplete) (user : ℕ) (key : String) :
    t'.withKey user key =
      t.withKey user key + if request.key = some (user, key) then 1 else 0 := by
  obtain ⟨-, hexecutions, -, -, huser, hkey, -⟩ := insertExecution_cases h
  have hentry : entry.hasKey user key = decide (request.key = some (user, key)) := by
    rw [Bool.eq_iff_iff, decide_eq_true_iff, CreateRequest.key_eq_iff hcomplete]
    simp [ExecutionEntry.hasKey, huser, hkey]
  rw [withKey, hexecutions, List.countP_append, List.countP_singleton, hentry]
  simp only [decide_eq_true_eq]
  rfl

/-- No other transaction adds an execution or gives one another key. -/
theorem call_withKey (t : ExecutionTables) (place : ℕ) (ids : FreshIds) (locked : List Uuid)
    (transaction : Tx) (user : ℕ) (key : String) :
    (t.call place ids locked transaction).withKey user key = t.withKey user key := by
  unfold call
  split
  · rfl
  next entry hentry =>
    obtain ⟨hplace, hget⟩ := List.getElem?_eq_some_iff.mp hentry
    set s := (t.store entry).step (.call ids locked transaction)
    have hkept : ExecutionEntry.hasKey user key
        { entry with row := s.row, artifacts := s.artifacts, observations := s.observations } =
          entry.hasKey user key := rfl
    have hcounted := List.boole_getElem_le_countP (p := ExecutionEntry.hasKey user key) hplace
    simp only [withKey, List.countP_set hplace, hkept]
    rw [hget] at hcounted ⊢
    omega

end ExecutionTables

/-! ### Answers -/

namespace CreatePhase

/-- The request of the creation. -/
def request : CreatePhase → Option CreateRequest
  | .idle => none
  | .resolved request _ | .keyed request _ | .admitted request _ => some request

end CreatePhase

namespace AdmissionSystem

/-- Another creation holds the lock of the request's key. -/
def waitsForKey (s : AdmissionSystem) (request : CreateRequest) : Bool :=
  request.key.isSome && s.creators.any fun phase => phase.keyLock == request.key

/-- What a creation answers in the step that ends it: an error, or the execution.  A creation that
is rolled back has lost its connection and does not answer. -/
def answer (s : AdmissionSystem) :
    AdmissionStep → Option (CreateRequest × Except String ExecutionEntry)
  | .resolve creator request =>
      match s.creators[creator]? with
      | some .idle =>
          match s.tables.resolveProfile request with
          | .error error => some (request, .error error)
          | .ok _ => none
      | _ => none
  | .lockKey creator =>
      match s.creators[creator]? with
      | some (.resolved request _) =>
          if s.waitsForKey request then none
          else
            match s.tables.replayedExecution request with
            | .error error => some (request, .error error)
            | .ok none => none
            | .ok (some existing) => some (request, .ok existing)
      | _ => none
  | .countProfile creator =>
      match s.creators[creator]? with
      | some (.keyed request (some profile)) =>
          if profile.limit.any fun limit => s.profileLocked limit.1 then none
          else
            match s.tables.profileAdmits profile with
            | .error error => some (request, .error error)
            | .ok _ => none
      | _ => none
  | .insert creator id jobId =>
      match s.creators[creator]? with
      | some (.admitted request profile) =>
          match s.tables.insertExecution id jobId request profile with
          | .error error => some (request, .error error)
          | .ok (_, entry, _) => some (request, .ok entry)
      | _ => none
  | .rollback _ | .call _ _ _ _ | .outside _ _ | .updateProfiles _ => none

end AdmissionSystem

/-- The step is a statement of a creation. -/
def AdmissionStep.isCreation : AdmissionStep → Bool
  | .resolve _ _ | .lockKey _ | .countProfile _ | .insert _ _ _ | .rollback _ => true
  | .call _ _ _ _ | .outside _ _ | .updateProfiles _ => false

/-- The step keeps one execution under the key.  A creation under the key answers with it when it
has the hash of the request, and with an error when it has another one; a creation changes nothing
unless it answers with an execution. -/
structure Idempotent (user : ℕ) (key : String) (s : AdmissionSystem) (i : AdmissionStep) :
    Prop where
  unique : (s.step i).tables.withKey user key ≤ 1
  answered : ∀ request entry, s.answer i = some (request, .ok entry) →
    request.key = some (user, key) →
      entry ∈ (s.step i).tables.executions ∧ entry.hasKey user key ∧
        entry.createRequestSha256 = request.requestSha256
  replayed : ∀ request answer, s.answer i = some (request, answer) →
    request.key = some (user, key) → ∀ existing ∈ s.tables.executions, existing.hasKey user key →
      if existing.createRequestSha256 = request.requestSha256 then answer = .ok existing
      else ∃ error, answer = .error error
  unchanged : i.isCreation → (∀ request entry, s.answer i ≠ some (request, .ok entry)) →
    (s.step i).tables = s.tables

/-- A creation that begins under the key with the hash of the execution that is there finds its
profile, and its project configuration is supported. -/
def ReplayResolves (user : ℕ) (key : String) (s : AdmissionSystem) : AdmissionStep → Prop
  | .resolve creator request =>
      s.creators[creator]?.any (fun phase => phase.request.isNone) →
        request.key = some (user, key) → ∀ existing ∈ s.tables.executions,
          existing.hasKey user key → existing.createRequestSha256 = request.requestSha256 →
            (s.tables.resolveProfile request).isOk
  | _ => True

instance (user : ℕ) (key : String) (s : AdmissionSystem) (i : AdmissionStep) :
    Decidable (ReplayResolves user key s i) :=
  match i with
  | .resolve _ _ => inferInstanceAs (Decidable (_ → _ → ∀ _ ∈ _, _ → _ → _))
  | .lockKey _ | .countProfile _ | .insert _ _ _ | .rollback _ | .call _ _ _ _ | .outside _ _
  | .updateProfiles _ => isTrue trivial

/-! ### What the lock of a key guards -/

namespace AdmissionSystem

/-- At most one execution is under the key.  The lock of the key is held by one creation at most,
and while it is held, no execution is under the key: the creation has looked it up. -/
structure KeyInv (user : ℕ) (key : String) (s : AdmissionSystem) : Prop where
  unique : s.tables.withKey user key ≤ 1
  complete : ∀ (creator : ℕ) phase, s.creators[creator]? = some phase →
    ∀ request, phase.request = some request → request.KeyComplete
  exclusive : ∀ (creator creator' : ℕ) phase phase', s.creators[creator]? = some phase →
    s.creators[creator']? = some phase' → phase.keyLock = some (user, key) →
      phase'.keyLock = some (user, key) → creator = creator'
  absent : ∀ (creator : ℕ) phase, s.creators[creator]? = some phase →
    phase.keyLock = some (user, key) → s.tables.withKey user key = 0

namespace KeyInv

variable {user : ℕ} {key : String} {s : AdmissionSystem}

/-- A creator that enters a phase without taking the lock. -/
theorem enter (hinv : s.KeyInv user key) {creator : ℕ} {before phase : CreatePhase}
    (hbefore : s.creators[creator]? = some before)
    (hcomplete : ∀ request, phase.request = some request → request.KeyComplete)
    (hlock : phase.keyLock = some (user, key) → before.keyLock = some (user, key)) :
    (s.enter creator phase).KeyInv user key where
  unique := hinv.unique
  complete other phase' hphase' := by
    rcases phase_of_enter hphase' with ⟨-, rfl⟩ | hold
    · exact hcomplete
    · exact hinv.complete other phase' hold
  exclusive other other' phase₁ phase₂ hphase₁ hphase₂ hlock₁ hlock₂ := by
    rcases phase_of_enter hphase₁ with ⟨rfl, rfl⟩ | hold₁
    · rcases phase_of_enter hphase₂ with ⟨rfl, rfl⟩ | hold₂
      · rfl
      · exact hinv.exclusive _ _ _ _ hbefore hold₂ (hlock hlock₁) hlock₂
    · rcases phase_of_enter hphase₂ with ⟨rfl, rfl⟩ | hold₂
      · exact hinv.exclusive _ _ _ _ hold₁ hbefore hlock₁ (hlock hlock₂)
      · exact hinv.exclusive _ _ _ _ hold₁ hold₂ hlock₁ hlock₂
  absent other phase' hphase' hlock' := by
    rcases phase_of_enter hphase' with ⟨rfl, rfl⟩ | hold
    · exact hinv.absent _ _ hbefore (hlock hlock')
    · exact hinv.absent _ _ hold hlock'

/-- A creator that leaves the lock, if it has held it. -/
theorem idle (hinv : s.KeyInv user key) (creator : ℕ) :
    (s.enter creator .idle).KeyInv user key := by
  match hbefore : s.creators[creator]? with
  | some before => exact hinv.enter hbefore (fun _ h => by cases h) (fun h => by cases h)
  | none =>
      have hsame : s.enter creator .idle = s := by
        have hlength : s.creators.length ≤ creator := List.getElem?_eq_none_iff.mp hbefore
        simp [AdmissionSystem.enter, List.set_eq_of_length_le hlength]
      rwa [hsame]

/-- A creator that takes the lock when nobody holds it and finds no execution. -/
theorem lock (hinv : s.KeyInv user key) {creator : ℕ} {phase : CreatePhase}
    (hcomplete : ∀ request, phase.request = some request → request.KeyComplete)
    (hfree : ∀ other ∈ s.creators, other.keyLock ≠ some (user, key))
    (habsent : s.tables.withKey user key = 0) : (s.enter creator phase).KeyInv user key where
  unique := hinv.unique
  complete other phase' hphase' := by
    rcases phase_of_enter hphase' with ⟨-, rfl⟩ | hold
    · exact hcomplete
    · exact hinv.complete other phase' hold
  exclusive other other' phase₁ phase₂ hphase₁ hphase₂ hlock₁ hlock₂ := by
    rcases phase_of_enter hphase₁ with ⟨rfl, -⟩ | hold₁
    · rcases phase_of_enter hphase₂ with ⟨rfl, -⟩ | hold₂
      · rfl
      · exact absurd hlock₂ (hfree _ (List.mem_of_getElem? hold₂))
    · exact absurd hlock₁ (hfree _ (List.mem_of_getElem? hold₁))
  absent _ _ _ _ := habsent

/-- Other tables with the same executions under the key. -/
theorem withTables (hinv : s.KeyInv user key) {tables : ExecutionTables}
    (hsame : tables.withKey user key = s.tables.withKey user key) :
    AdmissionSystem.KeyInv user key { s with tables := tables } where
  unique := hsame ▸ hinv.unique
  complete := hinv.complete
  exclusive := hinv.exclusive
  absent creator phase hphase hlock := hsame ▸ hinv.absent creator phase hphase hlock

/-- A creation commits: it has held the lock of its own key. -/
theorem insert (hinv : s.KeyInv user key) {creator : ℕ} {id jobId : Uuid} {request : CreateRequest}
    {profile : Option DeploymentProfileRow} {tables : ExecutionTables} {entry : ExecutionEntry}
    {job : Option NewJob} (hphase : s.creators[creator]? = some (.admitted request profile))
    (hinsert : s.tables.insertExecution id jobId request profile = .ok (tables, entry, job)) :
    AdmissionSystem.KeyInv user key { s.enter creator .idle with tables := tables } := by
  have hcount := ExecutionTables.insertExecution_withKey hinsert
    (hinv.complete creator _ hphase request rfl) user key
  have hidle := hinv.idle creator
  by_cases hkey : request.key = some (user, key)
  · -- the lock was held, so nothing was there, and nobody holds it now
    have habsent := hinv.absent creator _ hphase hkey
    rw [if_pos hkey, habsent] at hcount
    refine ⟨hcount.le, hidle.complete, hidle.exclusive, fun other phase hother hlock => ?_⟩
    have hother' : (s.enter creator .idle).creators[other]? = some phase := hother
    rcases phase_of_enter hother' with ⟨-, rfl⟩ | hold
    · cases hlock
    · have hsame := hinv.exclusive other creator _ _ hold hphase hlock hkey
      subst hsame
      have hplace : other < s.creators.length := (List.getElem?_eq_some_iff.mp hphase).1
      simp only [AdmissionSystem.enter, List.getElem?_set_self hplace, Option.some.injEq] at hother'
      subst hother'
      cases hlock
  · rw [if_neg hkey, Nat.add_zero] at hcount
    exact hidle.withTables hcount

/-- Nobody holds the lock of a request that need not wait. -/
theorem free_of_not_waits {request : CreateRequest} (hwaits : s.waitsForKey request = false)
    (hkey : request.key = some (user, key)) :
    ∀ other ∈ s.creators, other.keyLock ≠ some (user, key) := by
  intro other hother hlock
  simp only [waitsForKey, hkey, Option.isSome_some, Bool.true_and, List.any_eq_false] at hwaits
  exact hwaits other hother (beq_iff_eq.mpr hlock)

/-- **Every step keeps what the lock of a key guards.** -/
theorem step (hinv : s.KeyInv user key) (i : AdmissionStep) : (s.step i).KeyInv user key := by
  cases i with
  | resolve creator request =>
      simp only [AdmissionSystem.step]
      split
      next hphase =>
        split
        · exact hinv
        next profile hprofile =>
          refine hinv.enter hphase ?_ fun h => by cases h
          rintro _ ⟨⟩
          exact ExecutionTables.keyComplete_of_resolveProfile hprofile
      · exact hinv
  | lockKey creator =>
      simp only [AdmissionSystem.step]
      split
      next request profile hphase =>
        have hcomplete := hinv.complete creator _ hphase
        split
        · exact hinv
        next hwaits =>
          split
          next hlookup =>
            by_cases hkey : request.key = some (user, key)
            · refine hinv.lock hcomplete
                (free_of_not_waits (Bool.eq_false_iff.mpr hwaits) hkey) ?_
              rw [ExecutionTables.replayedExecution_eq hkey] at hlookup
              split at hlookup
              next hnone =>
                rw [ExecutionTables.withKey, List.countP_eq_zero]
                exact List.find?_eq_none.mp hnone
              · split at hlookup <;> cases hlookup
            · exact hinv.enter hphase hcomplete fun h => absurd h hkey
          · exact hinv.idle creator
      · exact hinv
  | countProfile creator =>
      simp only [AdmissionSystem.step]
      split
      next request hphase =>
        have hcomplete := hinv.complete creator _ hphase
        exact hinv.enter hphase hcomplete id
      next request profile hphase =>
        have hcomplete := hinv.complete creator _ hphase
        split
        · exact hinv
        split
        · exact hinv.idle creator
        · exact hinv.enter hphase hcomplete id
      · exact hinv
  | insert creator id jobId =>
      simp only [AdmissionSystem.step]
      split
      next request profile hphase =>
        split
        · exact hinv.idle creator
        next hinsert => exact hinv.insert hphase hinsert
      · exact hinv
  | rollback creator => exact hinv.idle creator
  | call place ids locked transaction =>
      exact hinv.withTables (s.tables.call_withKey place ids locked transaction user key)
  | outside registry queue => exact hinv.withTables rfl
  | updateProfiles profiles => exact hinv.withTables rfl

end KeyInv

end AdmissionSystem

/-! ### One step -/

namespace AdmissionSystem

/-- Everything a creation can answer. -/
inductive Answers (s : AdmissionSystem) :
    AdmissionStep → CreateRequest → Except String ExecutionEntry → Prop where
  /-- the arguments are refused, or the profile is missing -/
  | refuses {creator request error} (hphase : s.creators[creator]? = some .idle)
      (hresolve : s.tables.resolveProfile request = .error error) :
      Answers s (.resolve creator request) request (.error error)
  /-- the lookup has found an execution -/
  | looksUp {creator request profile answer}
      (hphase : s.creators[creator]? = some (.resolved request profile))
      (hlookup : s.tables.replayedExecution request = answer.map some) :
      Answers s (.lockKey creator) request answer
  /-- the profile is full, or the insertion fails -/
  | fails {i request error} {creator : ℕ} {phase : CreatePhase}
      (hphase : s.creators[creator]? = some phase) (hlock : phase.keyLock = request.key) :
      Answers s i request (.error error)
  | creates {creator id jobId request profile tables entry job}
      (hphase : s.creators[creator]? = some (.admitted request profile))
      (hinsert : s.tables.insertExecution id jobId request profile = .ok (tables, entry, job)) :
      Answers s (.insert creator id jobId) request (.ok entry)

theorem answer_answers {s : AdmissionSystem} {i : AdmissionStep} {request : CreateRequest}
    {answer : Except String ExecutionEntry} (h : s.answer i = some (request, answer)) :
    s.Answers i request answer := by
  cases i with
  | resolve creator request =>
      simp only [AdmissionSystem.answer] at h
      split at h
      next hphase =>
        split at h
        next hresolve =>
          cases h
          exact .refuses hphase hresolve
        · cases h
      · cases h
  | lockKey creator =>
      simp only [AdmissionSystem.answer] at h
      split at h
      next hphase =>
        split at h
        · cases h
        split at h
        next hlookup =>
          cases h
          exact .looksUp hphase hlookup
        · cases h
        next hlookup =>
          cases h
          exact .looksUp hphase hlookup
      · cases h
  | countProfile creator =>
      simp only [AdmissionSystem.answer] at h
      split at h
      next hphase =>
        split at h
        · cases h
        split at h
        · cases h
          exact .fails hphase rfl
        · cases h
      · cases h
  | insert creator id jobId =>
      simp only [AdmissionSystem.answer] at h
      split at h
      next hphase =>
        split at h
        · cases h
          exact .fails hphase rfl
        next hinsert =>
          cases h
          exact .creates hphase hinsert
      · cases h
  | rollback creator => cases h
  | call place ids locked transaction => cases h
  | outside registry queue => cases h
  | updateProfiles profiles => cases h

/-- A statement of a creation leaves the tables, unless it is an insertion that commits. -/
theorem step_tables {s : AdmissionSystem} {i : AdmissionStep} (hi : i.isCreation) :
    (s.step i).tables = s.tables ∨ ∃ creator id jobId request profile tables entry job,
      i = .insert creator id jobId ∧ s.creators[creator]? = some (.admitted request profile) ∧
        s.tables.insertExecution id jobId request profile = .ok (tables, entry, job) ∧
        (s.step i).tables = tables := by
  cases i with
  | resolve creator request =>
      left
      simp only [step]
      split
      · split <;> rfl
      · rfl
  | lockKey creator =>
      left
      simp only [step]
      split
      · split
        · rfl
        · split <;> rfl
      · rfl
  | countProfile creator =>
      left
      simp only [step]
      split
      · rfl
      · split
        · rfl
        · split <;> rfl
      · rfl
  | insert creator id jobId =>
      simp only [step]
      split
      next request profile hphase =>
        split
        · exact .inl rfl
        next tables entry job hinsert =>
          exact .inr ⟨creator, id, jobId, request, profile, tables, entry, job, rfl, hphase,
            hinsert, rfl⟩
      · exact .inl rfl
  | rollback creator => exact .inl rfl
  | call place ids locked transaction => cases hi
  | outside registry queue => cases hi
  | updateProfiles profiles => cases hi

/-- An insertion that commits answers with its row. -/
theorem answer_insert {s : AdmissionSystem} {creator : ℕ} {id jobId : Uuid}
    {request : CreateRequest} {profile : Option DeploymentProfileRow} {tables : ExecutionTables}
    {entry : ExecutionEntry} {job : Option NewJob}
    (hphase : s.creators[creator]? = some (.admitted request profile))
    (hinsert : s.tables.insertExecution id jobId request profile = .ok (tables, entry, job)) :
    s.answer (.insert creator id jobId) = some (request, .ok entry) ∧
      (s.step (.insert creator id jobId)).tables = tables := by
  constructor
  · simp only [answer, hphase, hinsert]
  · simp only [step, hphase, hinsert]

end AdmissionSystem

section Step

variable {user : ℕ} {key : String} {s : AdmissionSystem}

/-- What a creation under the key answers with is in the table afterwards. -/
theorem answered_of_keyInv (hinv : s.KeyInv user key) {i : AdmissionStep} {request : CreateRequest}
    {entry : ExecutionEntry} (hanswer : s.answer i = some (request, .ok entry))
    (hkey : request.key = some (user, key)) :
    entry ∈ (s.step i).tables.executions ∧ entry.hasKey user key ∧
      entry.createRequestSha256 = request.requestSha256 := by
  generalize hanswer' : Except.ok entry = answer at hanswer
  cases AdmissionSystem.answer_answers hanswer with
  | refuses hphase hresolve => cases hanswer'
  | fails hphase hlock => cases hanswer'
  | @looksUp creator request profile answer hphase hlookup =>
      subst hanswer'
      have hsame : (s.step (.lockKey creator)).tables = s.tables := by
        have hcreation : (AdmissionStep.lockKey creator).isCreation := rfl
        rcases AdmissionSystem.step_tables (s := s) hcreation with
          hsame | ⟨_, _, _, _, _, _, _, _, h, -⟩
        · exact hsame
        · cases h
      rw [ExecutionTables.replayedExecution_eq hkey] at hlookup
      split at hlookup
      · cases hlookup
      next existing hfind =>
        split at hlookup
        next hhash =>
          cases hlookup
          have hentry := List.find?_some hfind
          exact ⟨hsame ▸ List.mem_of_find?_eq_some hfind, hentry, hhash⟩
        · cases hlookup
  | @creates creator id jobId request profile tables row job hphase hinsert =>
      cases hanswer'
      obtain ⟨-, hexecutions, -, -, huser, hkey', hhash⟩ :=
        ExecutionTables.insertExecution_cases hinsert
      rw [(AdmissionSystem.answer_insert hphase hinsert).2, hexecutions]
      have hcomplete := hinv.complete creator _ hphase request rfl
      obtain ⟨huser', hkey''⟩ := (CreateRequest.key_eq_iff hcomplete).mp hkey
      refine ⟨List.mem_append_right _ (List.mem_singleton_self _), ?_, hhash⟩
      simp [ExecutionEntry.hasKey, huser, huser', hkey', hkey'']

/-- What a creation answers that finds an execution under its key. -/
theorem replayed_of_keyInv (hinv : s.KeyInv user key) {i : AdmissionStep} {request : CreateRequest}
    {answer : Except String ExecutionEntry} (hanswer : s.answer i = some (request, answer))
    (hkey : request.key = some (user, key)) {existing : ExecutionEntry}
    (hmem : existing ∈ s.tables.executions) (hexisting : existing.hasKey user key)
    (hresolves : ReplayResolves user key s i) :
    if existing.createRequestSha256 = request.requestSha256 then answer = .ok existing
    else ∃ error, answer = .error error := by
  -- whoever holds the lock has found nothing
  have habsent : ∀ (creator : ℕ) phase, s.creators[creator]? = some phase →
      phase.keyLock = request.key → False := by
    intro creator phase hphase hlock
    have hzero := hinv.absent creator phase hphase (hlock.trans hkey)
    exact List.countP_eq_zero.mp hzero existing hmem hexisting
  cases AdmissionSystem.answer_answers hanswer with
  | @refuses creator request error hphase hresolve =>
      split
      next hhash =>
        have hok := hresolves (by rw [hphase]; rfl) hkey existing hmem hexisting hhash
        rw [hresolve] at hok
        cases hok
      · exact ⟨error, rfl⟩
  | looksUp hphase hlookup =>
      rw [ExecutionTables.replayedExecution_eq hkey,
        ExecutionTables.find_hasKey hinv.unique hmem hexisting] at hlookup
      simp only at hlookup
      split
      next hhash =>
        rw [if_pos hhash] at hlookup
        cases answer <;> cases hlookup
        rfl
      next hhash =>
        rw [if_neg hhash] at hlookup
        cases answer <;> cases hlookup
        exact ⟨_, rfl⟩
  | fails hphase hlock => exact absurd hlock fun hlock => habsent _ _ hphase hlock
  | creates hphase hinsert => exact absurd rfl fun hlock => habsent _ _ hphase hlock

/-- A step that is idempotent is no replay whose profile or configuration fails. -/
theorem replayResolves_of_idempotent {i : AdmissionStep} (h : Idempotent user key s i) :
    ReplayResolves user key s i := by
  cases i with
  | resolve creator request =>
      intro hidle hkey existing hmem hexisting hhash
      obtain ⟨phase, hphase, hnone⟩ := (Option.any_eq_true _ _).mp hidle
      cases phase with
      | idle =>
          cases hresolve : s.tables.resolveProfile request with
          | ok profile => rfl
          | error error =>
              have hanswer :
                  s.answer (.resolve creator request) = some (request, .error error) := by
                simp only [AdmissionSystem.answer, hphase, hresolve]
              have hreplayed := h.replayed request _ hanswer hkey existing hmem hexisting
              rw [if_pos hhash] at hreplayed
              cases hreplayed
      | resolved request profile => cases hnone
      | keyed request profile => cases hnone
      | admitted request profile => cases hnone
  | _ => trivial

/-- **One step**: it is idempotent under the key exactly when it is no replay whose profile or
configuration fails. -/
theorem idempotent_step_iff (hinv : s.KeyInv user key) (i : AdmissionStep) :
    Idempotent user key s i ↔ ReplayResolves user key s i := by
  refine ⟨replayResolves_of_idempotent, fun hresolves => ?_⟩
  exact
    { unique := (hinv.step i).unique
      answered := fun request entry hanswer hkey => answered_of_keyInv hinv hanswer hkey
      replayed := fun request answer hanswer hkey existing hmem hexisting =>
        replayed_of_keyInv hinv hanswer hkey hmem hexisting hresolves
      unchanged := fun hcreation hanswer => by
        rcases AdmissionSystem.step_tables hcreation with
          hsame |
            ⟨creator, id, jobId, request, profile, tables, entry, job, rfl, hphase, hinsert, -⟩
        · exact hsame
        · exact absurd (AdmissionSystem.answer_insert hphase hinsert).1 (hanswer request entry) }

end Step

/-! ### Idempotent creations over runs -/

/-- **When the creations under one key are idempotent.**  Throughout a run there is at most one
execution under the key, a creation that sends the same request answers with it, and one that sends
another request is refused and changes nothing, exactly when no replay comes to a missing profile or
an unsupported project configuration before it comes to the lookup. -/
theorem create_idempotent_iff {user : ℕ} {key : String} {s : AdmissionSystem}
    (hidle : ∀ phase ∈ s.creators, phase = .idle) (hunique : s.tables.withKey user key ≤ 1)
    (steps : List AdmissionStep) :
    Runs.Meets AdmissionSystem.step (Idempotent user key) s steps ↔
      Runs.Meets AdmissionSystem.step (ReplayResolves user key) s steps := by
  have hstart : s.KeyInv user key := by
    refine ⟨hunique, fun creator phase hphase request hrequest => ?_,
      fun creator creator' phase phase' hphase _ hlock => ?_, fun creator phase hphase hlock => ?_⟩
    · rw [hidle phase (List.mem_of_getElem? hphase)] at hrequest
      cases hrequest
    · rw [hidle phase (List.mem_of_getElem? hphase)] at hlock
      cases hlock
    · rw [hidle phase (List.mem_of_getElem? hphase)] at hlock
      cases hlock
  exact Runs.meets_congr (AdmissionSystem.KeyInv user key) (fun _ i hinv => hinv.step i)
    (fun _ i hinv => idempotent_step_iff hinv i) hstart

/-! ### A replay whose profile is gone -/

/-- A request under a key, for a profile that the caller has looked up by its name. -/
def keyedRequest (profileId : Uuid) (hash : String) : CreateRequest :=
  { sampleRequest with
    deploymentProfileId := some profileId
    createdById := some 1
    idempotencyKey := some "retry-1"
    requestSha256 := some hash }

/-- Two creators, and a profile that is about to be replaced by another one of its name. -/
def keyedSystem : AdmissionSystem :=
  { tables := { limitedSystem.tables with profiles := [⟨6, "dlg", none, false, none, "sha", 0⟩] }
    creators := [.idle, .idle] }

/-- The second creator sends a request while the first one creates. -/
def racing (second : CreateRequest) : List AdmissionStep :=
  [.resolve 0 (keyedRequest 6 "a"), .resolve 1 second, .lockKey 0, .lockKey 1, .countProfile 0,
    .insert 0 1 11, .lockKey 1]

/-- The caller of the second creation has read the profile before it was replaced. -/
def replacedProfile : List AdmissionStep :=
  [.updateProfiles [⟨5, "dlg", none, false, none, "sha", 0⟩], .resolve 0 (keyedRequest 5 "a"),
    .lockKey 0, .countProfile 0, .insert 0 1 11, .resolve 1 (keyedRequest 6 "a")]

/-- Creations that race for the key are idempotent, whether they send one request or two. -/
theorem create_idempotent_racing :
    Runs.Meets AdmissionSystem.step (Idempotent 1 "retry-1") keyedSystem
      (racing (keyedRequest 6 "a") ++ racing (keyedRequest 6 "b")) :=
  (create_idempotent_iff (by simp [keyedSystem]) (by decide +kernel) _).mpr (by decide +kernel)

/-- The replay is refused although the execution of the very same request exists: the profile that
was read under its name is gone. -/
theorem replay_refused :
    ¬Runs.Meets AdmissionSystem.step (Idempotent 1 "retry-1") keyedSystem replacedProfile := by
  intro h
  have hlast := replayResolves_of_idempotent h.2.2.2.2.2.1
  revert hlast
  decide +kernel

end Beampipe
