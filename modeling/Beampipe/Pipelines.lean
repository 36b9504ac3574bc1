/-
Named pipelines that refer to each other.

A table gives every name a body: a leaf, which is a partial function of values, or a chain, which is
a list of names whose bodies are applied one behind the other and which gives nothing as soon as one
of them gives nothing.  Names may refer to names that come later and to themselves, so evaluation
takes fuel; the answer `none` means that the fuel has run out, `some none` that the pipeline gives
nothing.

Main definitions:

* `Pipelines.Body` — leaves and chains;
* `Pipelines.runSteps`, `Pipelines.eval` — evaluation of a list of names, and of one name;
* `Pipelines.References` — a name occurs in the chain of another;
* `Pipelines.PassesOn` — a chain hands every value on to one of its steps.

Main results:

* `Pipelines.eval_mono`, `Pipelines.eval_unique` — more fuel changes no answer;
* `Pipelines.exists_fuel_of_acyclic` — **without cycles one amount of fuel is enough** for every
  name and every value;
* `Pipelines.eval_of_passesOn_cycle` — **a cycle along which values are handed on never ends.**
-/

import Mathlib.Data.Fintype.Card
import Mathlib.Data.Set.Finite.Basic
import Mathlib.Logic.Relation

set_option relaxedAutoImplicit false
set_option autoImplicit false

namespace Pipelines

variable {ν α : Type*}

/-! ### Evaluation -/

/-- What a name stands for. -/
inductive Body (ν α : Type*) where
  | leaf (f : α → Option α)
  | chain (steps : List ν)

/-- The steps, one behind the other. -/
def runSteps (apply : ν → α → Option (Option α)) : List ν → α → Option (Option α)
  | [], value => some (some value)
  | step :: steps, value =>
      match apply step value with
      | none => none
      | some none => some none
      | some (some next) => runSteps apply steps next

/-- The value that a name gives. -/
def eval (body : ν → Body ν α) : ℕ → ν → α → Option (Option α)
  | 0, _, _ => none
  | fuel + 1, name, value =>
      match body name with
      | .leaf f => some (f value)
      | .chain steps => runSteps (eval body fuel) steps value

/-! ### More fuel -/

section Mono

variable {apply apply' : ν → α → Option (Option α)}

theorem runSteps_mono
    (h : ∀ name value answer, apply name value = some answer → apply' name value = some answer)
    {steps : List ν} {value : α} {answer : Option α}
    (hrun : runSteps apply steps value = some answer) :
    runSteps apply' steps value = some answer := by
  induction steps generalizing value with
  | nil => exact hrun
  | cons step steps ih =>
      rw [runSteps] at hrun ⊢
      cases hstep : apply step value with
      | none =>
          rw [hstep] at hrun
          cases hrun
      | some result =>
          rw [hstep] at hrun
          rw [h step value result hstep]
          cases result with
          | none => exact hrun
          | some next => exact ih hrun

theorem runSteps_isSome {steps : List ν}
    (h : ∀ step ∈ steps, ∀ value, (apply step value).isSome = true) (value : α) :
    (runSteps apply steps value).isSome = true := by
  induction steps generalizing value with
  | nil => rfl
  | cons step steps ih =>
      have hstep := h step List.mem_cons_self value
      rw [runSteps]
      cases hanswer : apply step value with
      | none =>
          rw [hanswer] at hstep
          cases hstep
      | some answer =>
          cases answer with
          | none => rfl
          | some next => exact ih (fun other hother => h other (List.mem_cons_of_mem _ hother)) next

/-- The steps behind the first ones are applied to what these give. -/
theorem runSteps_append (pre post : List ν) (value : α) :
    runSteps apply (pre ++ post) value =
      match runSteps apply pre value with
      | none => none
      | some none => some none
      | some (some next) => runSteps apply post next := by
  induction pre generalizing value with
  | nil => rfl
  | cons step pre ih =>
      rw [List.cons_append, runSteps, runSteps]
      cases apply step value with
      | none => rfl
      | some answer =>
          cases answer with
          | none => rfl
          | some next => exact ih next

end Mono

variable {body : ν → Body ν α}

theorem eval_succ {fuel : ℕ} {name : ν} {value : α} {answer : Option α}
    (h : eval body fuel name value = some answer) :
    eval body (fuel + 1) name value = some answer := by
  induction fuel generalizing name value answer with
  | zero => cases h
  | succ fuel ih =>
      rw [eval] at h ⊢
      cases hbody : body name with
      | leaf f => rwa [hbody] at h
      | chain steps =>
          rw [hbody] at h
          exact runSteps_mono (fun name value answer hanswer => ih hanswer) h

/-- **More fuel changes no answer.** -/
theorem eval_mono {fuel fuel' : ℕ} (hle : fuel ≤ fuel') {name : ν} {value : α}
    {answer : Option α} (h : eval body fuel name value = some answer) :
    eval body fuel' name value = some answer := by
  induction hle with
  | refl => exact h
  | step _ ih => exact eval_succ ih

/-- Two amounts of fuel that are enough give one answer. -/
theorem eval_unique {fuel fuel' : ℕ} {name : ν} {value : α} {answer answer' : Option α}
    (h : eval body fuel name value = some answer)
    (h' : eval body fuel' name value = some answer') : answer = answer' := by
  have hmax := eval_mono (le_max_left fuel fuel') h
  rw [eval_mono (le_max_right fuel fuel') h', Option.some.injEq] at hmax
  exact hmax.symm

theorem isSome_eval_mono {fuel fuel' : ℕ} (hle : fuel ≤ fuel') {name : ν} {value : α}
    (h : (eval body fuel name value).isSome = true) :
    (eval body fuel' name value).isSome = true := by
  obtain ⟨answer, hanswer⟩ := Option.isSome_iff_exists.mp h
  rw [eval_mono hle hanswer]
  rfl

/-! ### Tables without cycles -/

variable (body) in
/-- A name occurs in the chain of another. -/
def References (name step : ν) : Prop := ∃ steps, body name = .chain steps ∧ step ∈ steps

/-- A bound for each of finitely many names is a bound for all of them. -/
theorem exists_common_fuel {P : ℕ → ν → Prop}
    (hmono : ∀ {fuel fuel' : ℕ} {name : ν}, fuel ≤ fuel' → P fuel name → P fuel' name)
    {names : List ν} (h : ∀ name ∈ names, ∃ fuel, P fuel name) :
    ∃ fuel, ∀ name ∈ names, P fuel name := by
  induction names with
  | nil => exact ⟨0, fun name hname => (List.not_mem_nil hname).elim⟩
  | cons first names ih =>
      obtain ⟨fuel, hfuel⟩ := ih fun name hname => h name (List.mem_cons_of_mem _ hname)
      obtain ⟨fuel', hfirst⟩ := h first List.mem_cons_self
      refine ⟨max fuel fuel', fun name hname => ?_⟩
      rcases List.mem_cons.mp hname with rfl | hrest
      · exact hmono (le_max_right fuel fuel') hfirst
      · exact hmono (le_max_left fuel fuel') (hfuel name hrest)

/-- From a name that only finitely deep references go out of, evaluation ends. -/
theorem exists_fuel_of_acc {name : ν} (h : Acc (fun step name => References body name step) name) :
    ∃ fuel, ∀ value, (eval body fuel name value).isSome = true := by
  induction h with
  | intro name _ ih =>
      cases hbody : body name with
      | leaf f =>
          refine ⟨1, fun value => ?_⟩
          rw [eval, hbody]
          rfl
      | chain steps =>
          obtain ⟨fuel, hfuel⟩ : ∃ fuel, ∀ step ∈ steps, ∀ value,
              (eval body fuel step value).isSome = true :=
            exists_common_fuel (fun hle hstep value => isSome_eval_mono hle (hstep value))
              fun step hstep => ih step ⟨steps, hbody, hstep⟩
          refine ⟨fuel + 1, fun value => ?_⟩
          rw [eval, hbody]
          exact runSteps_isSome hfuel value

/-- Finitely many chains without a cycle are only finitely deep. -/
theorem acc_of_acyclic {names : List ν}
    (hnames : ∀ name steps, body name = .chain steps → name ∈ names)
    (hacyclic : ∀ name, ¬ Relation.TransGen (References body) name name) (name : ν) :
    Acc (fun step name => References body name step) name := by
  let below (a b : {name // name ∈ names}) : Prop :=
    Relation.TransGen (References body) b.1 a.1
  have htrans : IsTrans {name // name ∈ names} below := ⟨fun a b c hab hbc => hbc.trans hab⟩
  have hirrefl : Std.Irrefl below := ⟨fun a => hacyclic a.1⟩
  have hfinite : Finite {name // name ∈ names} := (List.finite_toSet names).to_subtype
  have hfounded : WellFounded below := Finite.wellFounded_of_trans_of_irrefl below
  have hlisted : ∀ a : {name // name ∈ names},
      Acc (fun step name => References body name step) a.1 := by
    intro a
    induction a using hfounded.induction with
    | _ a ih =>
        refine ⟨_, fun step hstep => ?_⟩
        by_cases hmem : step ∈ names
        · exact ih ⟨step, hmem⟩ (Relation.TransGen.single hstep)
        · refine ⟨_, fun other hother => ?_⟩
          obtain ⟨steps, hbody, -⟩ := hother
          exact absurd (hnames step steps hbody) hmem
  by_cases hmem : name ∈ names
  · exact hlisted ⟨name, hmem⟩
  · refine ⟨_, fun step hstep => ?_⟩
    obtain ⟨steps, hbody, -⟩ := hstep
    exact absurd (hnames name steps hbody) hmem

/-- **Without cycles one amount of fuel is enough**, for every name and every value. -/
theorem exists_fuel_of_acyclic {names : List ν}
    (hnames : ∀ name steps, body name = .chain steps → name ∈ names)
    (hacyclic : ∀ name, ¬ Relation.TransGen (References body) name name) :
    ∃ fuel, ∀ name value, (eval body fuel name value).isSome = true := by
  obtain ⟨fuel, hfuel⟩ : ∃ fuel, ∀ name ∈ names, ∀ value,
      (eval body fuel name value).isSome = true :=
    exists_common_fuel (fun hle hname value => isSome_eval_mono hle (hname value))
      fun name _ => exists_fuel_of_acc (acc_of_acyclic hnames hacyclic name)
  refine ⟨fuel + 1, fun name value => ?_⟩
  cases hbody : body name with
  | leaf f =>
      rw [eval, hbody]
      rfl
  | chain steps =>
      exact isSome_eval_mono (Nat.le_succ fuel) (hfuel name (hnames name steps hbody) value)

/-! ### Tables with cycles -/

variable (body) in
/-- Whatever value comes in, a value comes out. -/
def AlwaysGives (name : ν) : Prop :=
  ∀ value, ∃ fuel next, eval body fuel name value = some (some next)

variable (body) in
/-- The chain of a name hands every value on to one of its steps. -/
def PassesOn (name step : ν) : Prop :=
  ∃ pre post, body name = .chain (pre ++ step :: post) ∧ ∀ first ∈ pre, AlwaysGives body first

/-- Steps that always give a value do not end the chain. -/
theorem runSteps_of_alwaysGives {steps : List ν} (h : ∀ step ∈ steps, AlwaysGives body step)
    (fuel : ℕ) (value : α) :
    runSteps (eval body fuel) steps value = none ∨
      ∃ next, runSteps (eval body fuel) steps value = some (some next) := by
  induction steps generalizing value with
  | nil => exact .inr ⟨value, rfl⟩
  | cons step steps ih =>
      rw [runSteps]
      cases hstep : eval body fuel step value with
      | none => exact .inl rfl
      | some answer =>
          obtain ⟨fuel', next, hnext⟩ := h step List.mem_cons_self value
          cases eval_unique hstep hnext
          exact ih (fun other hother => h other (List.mem_cons_of_mem _ hother)) next

/-- **A cycle along which values are handed on never ends**, whatever the value is. -/
theorem eval_of_passesOn_cycle {name : ν} (hcycle : Relation.TransGen (PassesOn body) name name)
    (fuel : ℕ) (value : α) : eval body fuel name value = none := by
  -- every name on the way to the cycle hands its value on to the next one
  have hway : ∀ fuel other, Relation.ReflTransGen (PassesOn body) other name → ∀ value,
      eval body fuel other value = none := by
    intro fuel
    induction fuel with
    | zero => exact fun other _ value => rfl
    | succ fuel ih =>
        intro other hother value
        obtain ⟨step, hpass, hrest⟩ : ∃ step, PassesOn body other step ∧
            Relation.ReflTransGen (PassesOn body) step name := by
          rcases Relation.ReflTransGen.cases_head hother with rfl | hstep
          · exact Relation.TransGen.head'_iff.mp hcycle
          · exact hstep
        obtain ⟨pre, post, hbody, hpre⟩ := hpass
        rw [eval, hbody]
        dsimp only
        rw [runSteps_append]
        rcases runSteps_of_alwaysGives hpre fuel value with hnone | ⟨next, hnext⟩
        · rw [hnone]
        · rw [hnext]
          dsimp only
          rw [runSteps, ih step hrest next]
  exact hway fuel name Relation.ReflTransGen.refl value

end Pipelines
