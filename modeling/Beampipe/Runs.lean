/-
Runs of a step function, and the rules that carry a property along them.

A system is a function `step : σ → ι → σ`: the state after one atomic step, where the input `ι`
names the step and carries every choice that the state does not determine (who moves, what the
clock shows, what an external service answers).  A run is a list of inputs, so a statement about
every interleaving is a statement about every list.  Some properties hold only along runs whose
steps avoid a particular situation; `Runs.Meets` says that every step of a run meets a condition
in the state in which it is taken.

Main definitions:

* `Runs.exec` — the state after a list of steps;
* `Runs.Meets` — every step of the run meets a condition.

Main results:

* `Runs.exec_invariant` — **the invariant rule**: what holds initially and is kept by every step
  that meets the condition holds after every run whose steps meet it;
* `Runs.meets_reached_iff` — a property that holds in every state reached exactly when every step
  meets the condition;
* `Runs.meets_map` — a system that records more has the runs of the system without the record;
* `Runs.exec_rel` — a reflexive and transitive relation between the states before and after a
  step relates the two ends of a run;
* `Runs.eq_of_nodup_filterMap` — a record of a history that has no duplicate has one entry.
-/

import Mathlib.Order.Basic
import Mathlib.Data.List.Nodup

set_option relaxedAutoImplicit false
set_option autoImplicit false

namespace Runs

variable {σ ι : Type*}

/-- The state after the steps `is` from `s`. -/
def exec (step : σ → ι → σ) (s : σ) : List ι → σ
  | [] => s
  | i :: is => exec step (step s i) is

/-- Every step of the run meets `C` in the state in which it is taken. -/
def Meets (step : σ → ι → σ) (C : σ → ι → Prop) (s : σ) : List ι → Prop
  | [] => True
  | i :: is => C s i ∧ Meets step C (step s i) is

instance decidableMeets (step : σ → ι → σ) (C : σ → ι → Prop) [∀ s i, Decidable (C s i)] (s : σ)
    (is : List ι) : Decidable (Meets step C s is) :=
  match is with
  | [] => isTrue trivial
  | i :: rest =>
      have := decidableMeets step C (step s i) rest
      inferInstanceAs (Decidable (C s i ∧ Meets step C (step s i) rest))

section Rules

variable {step : σ → ι → σ} {C : σ → ι → Prop}

@[simp] theorem exec_nil (s : σ) : exec step s [] = s := rfl

@[simp] theorem exec_cons (s : σ) (i : ι) (is : List ι) :
    exec step s (i :: is) = exec step (step s i) is := rfl

theorem exec_append (s : σ) (is js : List ι) :
    exec step s (is ++ js) = exec step (exec step s is) js := by
  induction is generalizing s with
  | nil => rfl
  | cons i is ih => exact ih (step s i)

@[simp] theorem meets_nil (s : σ) : Meets step C s [] := trivial

@[simp] theorem meets_cons (s : σ) (i : ι) (is : List ι) :
    Meets step C s (i :: is) ↔ C s i ∧ Meets step C (step s i) is := Iff.rfl

theorem meets_true {s : σ} (is : List ι) : Meets step (fun _ _ => True) s is := by
  induction is generalizing s with
  | nil => trivial
  | cons i is ih => exact ⟨trivial, ih⟩

theorem Meets.and {D : σ → ι → Prop} {s : σ} {is : List ι} (hC : Meets step C s is)
    (hD : Meets step D s is) : Meets step (fun s i => C s i ∧ D s i) s is := by
  induction is generalizing s with
  | nil => trivial
  | cons i is ih => exact ⟨⟨hC.1, hD.1⟩, ih hC.2 hD.2⟩

theorem meets_append (s : σ) (is js : List ι) :
    Meets step C s (is ++ js) ↔ Meets step C s is ∧ Meets step C (exec step s is) js := by
  induction is generalizing s with
  | nil => simp
  | cons i is ih => simp [ih, and_assoc]

/-- Conditions that agree wherever an invariant holds are met by the same runs. -/
theorem meets_congr (Inv : σ → Prop) {D : σ → ι → Prop} (hinv : ∀ s i, Inv s → Inv (step s i))
    (h : ∀ s i, Inv s → (C s i ↔ D s i)) {s : σ} {is : List ι} (hs : Inv s) :
    Meets step C s is ↔ Meets step D s is := by
  induction is generalizing s with
  | nil => rfl
  | cons i is ih => rw [meets_cons, meets_cons, h s i hs, ih (hinv s i hs)]

/-- A run that meets a condition meets what follows from it under an invariant. -/
theorem Meets.mono (Inv : σ → Prop) {D : σ → ι → Prop}
    (hinv : ∀ s i, Inv s → C s i → Inv (step s i)) (h : ∀ s i, Inv s → C s i → D s i) {s : σ}
    {is : List ι} (hs : Inv s) (hmeets : Meets step C s is) : Meets step D s is := by
  induction is generalizing s with
  | nil => trivial
  | cons i is ih => exact ⟨h s i hs hmeets.1, ih (hinv s i hs hmeets.1) hmeets.2⟩

/-- **The invariant rule.**  A property that holds at the start and is kept by every step that
meets the condition holds after every run whose steps all meet it. -/
theorem exec_invariant (Inv : σ → Prop) (hstep : ∀ s i, Inv s → C s i → Inv (step s i)) {s : σ}
    {is : List ι} (hs : Inv s) (hmeets : Meets step C s is) : Inv (exec step s is) := by
  induction is generalizing s with
  | nil => exact hs
  | cons i is ih => exact ih (hstep s i hs hmeets.1) hmeets.2

/-- A preorder that every step respects relates the two ends of a run, as long as an invariant
supports the step. -/
theorem exec_rel {Inv : σ → Prop} {R : σ → σ → Prop} (hrefl : ∀ s, R s s)
    (htrans : ∀ {a b c}, R a b → R b c → R a c)
    (hinv : ∀ s i, Inv s → C s i → Inv (step s i)) (hstep : ∀ s i, Inv s → C s i → R s (step s i))
    {s : σ} {is : List ι} (hs : Inv s) (hmeets : Meets step C s is) :
    R s (exec step s is) := by
  induction is generalizing s with
  | nil => exact hrefl s
  | cons i is ih =>
      exact htrans (hstep s i hs hmeets.1) (ih (hinv s i hs hmeets.1) hmeets.2)

/-- What a step keeps exactly when it meets the condition holds in every state that a run reaches
exactly when every step of the run meets it.  The steps may all be assumed to meet `A`. -/
theorem meets_reached_iff_of_meets (Inv : σ → Prop) {A : σ → ι → Prop} {P : σ → Prop}
    (hinv : ∀ s i, Inv s → A s i → Inv (step s i))
    (h : ∀ s i, Inv s → A s i → P s → (P (step s i) ↔ C s i)) {s : σ} {is : List ι} (hs : Inv s)
    (hA : Meets step A s is) (hP : P s) :
    Meets step (fun s i => P (step s i)) s is ↔ Meets step C s is := by
  induction is generalizing s with
  | nil => rfl
  | cons i is ih =>
      rw [meets_cons, meets_cons, ← h s i hs hA.1 hP]
      exact and_congr_right fun hstep => ih (hinv s i hs hA.1) hA.2 hstep

/-- The same without an assumption on the steps. -/
theorem meets_reached_iff (Inv : σ → Prop) {P : σ → Prop}
    (hinv : ∀ s i, Inv s → Inv (step s i))
    (h : ∀ s i, Inv s → P s → (P (step s i) ↔ C s i)) {s : σ} {is : List ι} (hs : Inv s)
    (hP : P s) : Meets step (fun s i => P (step s i)) s is ↔ Meets step C s is :=
  meets_reached_iff_of_meets Inv (fun s i hs _ => hinv s i hs) (fun s i hs _ => h s i hs) hs
    (meets_true is) hP

/-- Steps that bring distinct tokens, none of them seen before, bring a token that is new in the
state in which they are taken. -/
theorem meets_unseen {α : Type*} (seen : σ → List α) (brings : ι → Option α)
    (hseen : ∀ s i, ∀ t ∈ seen (step s i), t ∈ brings i ∨ t ∈ seen s) {s : σ} {is : List ι}
    (hnodup : (is.filterMap brings).Nodup) (hnew : ∀ t ∈ is.filterMap brings, t ∉ seen s) :
    Meets step (fun s i => ∀ t ∈ brings i, t ∉ seen s) s is := by
  induction is generalizing s with
  | nil => trivial
  | cons i is ih =>
      have hrest : ∀ t ∈ is.filterMap brings, t ∈ (i :: is).filterMap brings := fun t ht =>
        (List.sublist_cons_self i is).filterMap brings |>.subset ht
      refine ⟨fun t ht => hnew t ?_, ih ?_ fun t ht hs => ?_⟩
      · exact List.mem_filterMap.mpr ⟨i, List.mem_cons_self, ht⟩
      · exact hnodup.sublist ((List.sublist_cons_self i is).filterMap brings)
      · rcases hseen s i t hs with hi | hs
        · rw [List.filterMap_cons, Option.mem_def.mp hi, List.nodup_cons] at hnodup
          exact hnodup.1 ht
        · exact hnew t (hrest t ht) hs

/-- A condition on the steps alone is met wherever they are taken. -/
theorem meets_of_forall {A : ι → Prop} {s : σ} {is : List ι} (h : ∀ i ∈ is, A i) :
    Meets step (fun _ i => A i) s is := by
  induction is generalizing s with
  | nil => trivial
  | cons i is ih =>
      exact ⟨h i List.mem_cons_self, ih fun j hj => h j (List.mem_cons_of_mem i hj)⟩

/-- A system that only records more meets what the system without the record meets. -/
theorem meets_map {τ : Type*} {step' : τ → ι → τ} (f : σ → τ)
    (hf : ∀ s i, f (step s i) = step' (f s) i) {D : τ → ι → Prop} {s : σ} {is : List ι} :
    Meets step (fun s i => D (f s) i) s is ↔ Meets step' D (f s) is := by
  induction is generalizing s with
  | nil => rfl
  | cons i is ih => rw [meets_cons, meets_cons, ih, hf]

end Rules

/-- In a history in which nothing is recorded twice, each record has one entry. -/
theorem eq_of_nodup_filterMap {α β : Type*} {record : α → Option β} {history : List α}
    (h : (history.filterMap record).Nodup) {a a' : α} {b : β} (ha : a ∈ history)
    (ha' : a' ∈ history) (hb : record a = some b) (hb' : record a' = some b) : a = a' := by
  induction history with
  | nil => cases ha
  | cons c rest ih =>
      have hrest : (rest.filterMap record).Nodup :=
        h.sublist ((List.sublist_cons_self c rest).filterMap record)
      -- an entry that the head repeats would be recorded twice
      have hnew : ∀ d ∈ rest, record d = some b → record c ≠ some b := by
        intro d hd hdb hcb
        rw [List.filterMap_cons_some hcb] at h
        exact (List.nodup_cons.mp h).1 (List.mem_filterMap.mpr ⟨d, hd, hdb⟩)
      rcases List.mem_cons.mp ha with rfl | hrest_a
      · rcases List.mem_cons.mp ha' with rfl | hrest_a'
        · rfl
        · exact absurd hb (hnew a' hrest_a' hb')
      · rcases List.mem_cons.mp ha' with rfl | hrest_a'
        · exact absurd hb' (hnew a hrest_a hb)
        · exact ih hrest hrest_a hrest_a'

/-- What one more entry records is added at the end. -/
theorem filterMap_concat {α β : Type*} (record : α → Option β) (history : List α) (a : α) :
    (history ++ [a]).filterMap record = history.filterMap record ++ (record a).toList := by
  cases hrecord : record a <;> simp [hrecord]

/-- A history stays without duplicates as long as each record is new. -/
theorem nodup_record {β : Type*} {records : List β} (h : records.Nodup) {new : Option β}
    (hnew : ∀ b, new = some b → b ∉ records) : (records ++ new.toList).Nodup := by
  cases new with
  | none => simpa using h
  | some b => simpa using List.Nodup.concat (hnew b rfl) h

end Runs
