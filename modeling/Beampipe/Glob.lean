/-
**Patterns with `*` and `?`.**

A pattern is a list of parts: one that stands for any run of letters, one that stands for any
single letter, and the letters themselves, compared by a relation of the caller's choice.  The
declarative relation `Glob.Matches` says when a pattern matches the whole of a text; the
backtracking matcher `Glob.run` decides it.

Main definitions:

* `Glob.Part`, `Glob.Matches` — patterns, and what they match;
* `Glob.run` — the backtracking matcher.

Main results:

* `Glob.matches_many_iff`, `Glob.matches_any_iff`, `Glob.matches_one_iff` — what a first part
  does;
* `Glob.run_eq_true_iff` — the matcher decides the relation.
-/

import Mathlib.Logic.Basic

set_option relaxedAutoImplicit false
set_option autoImplicit false

namespace Glob

/-- One part of a pattern. -/
inductive Part (α : Type) where
  | many
  | any
  | one (letter : α)
  deriving DecidableEq, Repr

variable {α β : Type}

/-- The pattern matches the whole text. -/
inductive Matches (same : α → β → Prop) : List (Part α) → List β → Prop
  | nil : Matches same [] []
  | many {parts : List (Part α)} {rest : List β} (skipped : List β)
      (hrest : Matches same parts rest) : Matches same (.many :: parts) (skipped ++ rest)
  | any {parts : List (Part α)} {rest : List β} (letter : β)
      (hrest : Matches same parts rest) : Matches same (.any :: parts) (letter :: rest)
  | one {parts : List (Part α)} {rest : List β} {letter : α} {other : β}
      (hsame : same letter other) (hrest : Matches same parts rest) :
      Matches same (.one letter :: parts) (other :: rest)

section Parts

variable {same : α → β → Prop} {parts : List (Part α)} {text : List β}

theorem matches_nil_iff : Matches same [] text ↔ text = [] := by
  constructor
  · intro h
    cases h
    rfl
  · rintro rfl
    exact .nil

theorem matches_many_iff :
    Matches same (.many :: parts) text ↔
      ∃ skipped rest, text = skipped ++ rest ∧ Matches same parts rest := by
  constructor
  · intro h
    cases h with
    | many skipped hrest => exact ⟨skipped, _, rfl, hrest⟩
  · rintro ⟨skipped, rest, rfl, hrest⟩
    exact .many skipped hrest

theorem matches_any_iff :
    Matches same (.any :: parts) text ↔
      ∃ letter rest, text = letter :: rest ∧ Matches same parts rest := by
  constructor
  · intro h
    cases h with
    | any letter hrest => exact ⟨letter, _, rfl, hrest⟩
  · rintro ⟨letter, rest, rfl, hrest⟩
    exact .any letter hrest

theorem matches_one_iff {letter : α} :
    Matches same (.one letter :: parts) text ↔
      ∃ other rest, text = other :: rest ∧ same letter other ∧ Matches same parts rest := by
  constructor
  · intro h
    cases h with
    | one hsame hrest => exact ⟨_, _, rfl, hsame, hrest⟩
  · rintro ⟨other, rest, rfl, hsame, hrest⟩
    exact .one hsame hrest

end Parts

/-! ### The matcher -/

/-- The rest of a pattern at every place of a text. -/
def skip (rest : List β → Bool) : List β → Bool
  | [] => rest []
  | letter :: text => rest (letter :: text) || skip rest text

/-- The backtracking matcher. -/
def run (same : α → β → Bool) : List (Part α) → List β → Bool
  | [], text => text.isEmpty
  | .many :: parts, text => skip (run same parts) text
  | .any :: _, [] => false
  | .any :: parts, _ :: text => run same parts text
  | .one _ :: _, [] => false
  | .one letter :: parts, other :: text => same letter other && run same parts text

theorem skip_eq_true_iff {rest : List β → Bool} {text : List β} :
    skip rest text = true ↔ ∃ skipped left, text = skipped ++ left ∧ rest left = true := by
  induction text with
  | nil =>
      constructor
      · intro h
        exact ⟨[], [], rfl, h⟩
      · rintro ⟨skipped, left, htext, h⟩
        obtain ⟨-, rfl⟩ := List.append_eq_nil_iff.mp htext.symm
        exact h
  | cons letter text ih =>
      rw [skip, Bool.or_eq_true, ih]
      constructor
      · rintro (h | ⟨skipped, left, rfl, h⟩)
        · exact ⟨[], letter :: text, rfl, h⟩
        · exact ⟨letter :: skipped, left, rfl, h⟩
      · rintro ⟨skipped, left, htext, h⟩
        cases skipped with
        | nil => exact Or.inl (htext ▸ h)
        | cons first skipped =>
            rw [List.cons_append, List.cons.injEq] at htext
            exact Or.inr ⟨skipped, left, htext.2, h⟩

/-- The matcher decides what a pattern matches. -/
theorem run_eq_true_iff {same : α → β → Bool} {parts : List (Part α)} {text : List β} :
    run same parts text = true ↔ Matches (fun a b => same a b = true) parts text := by
  induction parts generalizing text with
  | nil => rw [run, matches_nil_iff, List.isEmpty_iff]
  | cons part parts ih =>
      cases part with
      | many => simp only [run, skip_eq_true_iff, matches_many_iff, ih]
      | any =>
          rw [matches_any_iff]
          cases text with
          | nil => simp [run]
          | cons letter text =>
              rw [run, ih]
              constructor
              · intro h
                exact ⟨letter, text, rfl, h⟩
              · rintro ⟨letter', rest, heq, h⟩
                cases heq
                exact h
      | one letter =>
          rw [matches_one_iff]
          cases text with
          | nil => simp [run]
          | cons other text =>
              rw [run, Bool.and_eq_true, ih]
              constructor
              · intro h
                exact ⟨other, text, rfl, h⟩
              · rintro ⟨other', rest, heq, h⟩
                cases heq
                exact h

end Glob
