/-
**Where the output inventory of an attempt lies, and which staging roots a receipt may name.**

The inventory has a fixed place beneath the session directory, one for each attempt, and the
session directory is taken only in its normal form, so the path of an inventory tells the session
directory and the attempt.  A staging root must lie strictly beneath the session directory of its
receipt, by components and not by the text; besides, the session directory must not stand directly
beneath `/`, and neither path may climb with `..`.

Main definitions:

* `Beampipe.StrictlyBeneath` — one path lies beneath another by components;
* `Beampipe.IsChild`, `Beampipe.HandoffPaths` — the place of the inventory of an attempt.

Main results:

* `Beampipe.outputInventoryRemotePaths_eq_ok` — what is accepted, and what it gives;
* `Beampipe.HandoffPaths.inj` — inventories of different attempts or sessions have
  different paths;
* `Beampipe.stagingRootIsScopedToSession_iff` — the staging roots that are accepted;
* `Beampipe.remotePaths_scoped` — all of this together.
-/

import Beampipe.SlurmPaths

set_option relaxedAutoImplicit false
set_option autoImplicit false

namespace Beampipe

/-! ### Components -/

/-- The path lies strictly beneath the directory, by components. -/
def StrictlyBeneath (directory path : String) : Prop :=
  ∃ outer inner, normalizedAbsolutePath directory = some outer ∧
    normalizedAbsolutePath path = some inner ∧ outer <+: inner ∧ outer ≠ inner

/-- The path is the entry of the name in the directory, both in their normal form. -/
def IsChild (directory name path : String) : Prop :=
  ∃ components, components ≠ [] ∧ (∀ component ∈ components ++ [name], IsComponent component) ∧
    directory = pathText components ∧ path = pathText (components ++ [name])

/-- The paths of an attempt, one in the other beneath the session directory. -/
structure HandoffPaths (sessionDir : String) (attempt : ℤ) (paths : OutputInventoryRemotePaths) :
    Prop where
  control : IsChild sessionDir ".beampipe" paths.controlDirectory
  publication : IsChild paths.controlDirectory "publication" paths.publicationDirectory
  attempt : IsChild paths.publicationDirectory ("attempt-" ++ toString attempt)
    paths.attemptDirectory
  inventory : IsChild paths.attemptDirectory "beampipe-output-inventory.json" paths.inventoryPath

theorem StrictlyBeneath.trans {a b c : String} (hab : StrictlyBeneath a b)
    (hbc : StrictlyBeneath b c) : StrictlyBeneath a c := by
  obtain ⟨outer, middle, houter, hmiddle, hbeneath, hne⟩ := hab
  obtain ⟨middle', inner, hmiddle', hinner, hbeneath', -⟩ := hbc
  rw [hmiddle] at hmiddle'
  cases hmiddle'
  refine ⟨outer, inner, houter, hinner, hbeneath.trans hbeneath', ?_⟩
  rintro rfl
  exact hne (hbeneath.eq_of_length_le hbeneath'.length_le)

theorem IsChild.strictlyBeneath {directory name path : String} (h : IsChild directory name path) :
    StrictlyBeneath directory path := by
  obtain ⟨components, hne, hcomponents, rfl, rfl⟩ := h
  refine ⟨components, components ++ [name], ?_, ?_, List.prefix_append .., ?_⟩
  · refine normalizedAbsolutePath_pathText hne fun component hcomponent => ?_
    exact hcomponents component (List.mem_append_left _ hcomponent)
  · exact normalizedAbsolutePath_pathText (by simp) hcomponents
  · simp

/-- An entry is an absolute path of normal components. -/
theorem IsChild.isAbsolute {directory name path : String} (h : IsChild directory name path) :
    isAbsolutePath path = true ∧ ∃ components, path = pathText components ∧
      ∀ component ∈ components, IsComponent component := by
  obtain ⟨components, -, hcomponents, -, rfl⟩ := h
  refine ⟨?_, components ++ [name], rfl, hcomponents⟩
  rw [isAbsolutePath, head_pathText (by simp)]
  rfl

/-- A path in normal form tells its components. -/
theorem pathText_inj {a b : List String} (ha : a ≠ []) (hb : b ≠ [])
    (hcomponents : ∀ component ∈ a, IsComponent component)
    (hcomponents' : ∀ component ∈ b, IsComponent component) (h : pathText a = pathText b) :
    a = b := by
  have hread := normalizedAbsolutePath_pathText ha hcomponents
  rw [h, normalizedAbsolutePath_pathText hb hcomponents'] at hread
  exact (Option.some.inj hread).symm

theorem IsChild.inj {directory directory' name name' path : String}
    (h : IsChild directory name path) (h' : IsChild directory' name' path) :
    directory = directory' ∧ name = name' := by
  obtain ⟨components, -, hcomponents, rfl, rfl⟩ := h
  obtain ⟨components', -, hcomponents', rfl, hpath⟩ := h'
  have heq := pathText_inj (by simp) (by simp) hcomponents hcomponents' hpath
  obtain ⟨rfl, hname⟩ := List.append_inj' heq rfl
  exact ⟨rfl, List.singleton_inj.mp hname⟩

/-! ### The inventory -/

theorem toString_of_nonneg {n : ℤ} (h : 0 ≤ n) :
    (toString n).toList = Nat.toDigits 10 n.toNat := by
  obtain ⟨k, rfl⟩ := Int.eq_ofNat_of_zero_le h
  change (Nat.repr k).toList = Nat.toDigits 10 k
  simp

/-- The directory of an attempt has a normal name. -/
theorem isComponent_attempt {attempt : ℤ} (h : 0 ≤ attempt) :
    IsComponent ("attempt-" ++ toString attempt) := by
  have htext : ("attempt-" ++ toString attempt).toList =
      "attempt-".toList ++ Nat.toDigits 10 attempt.toNat := by
    rw [String.toList_append, toString_of_nonneg h]
  have hchars : ∀ c ∈ ("attempt-" ++ toString attempt).toList, c ≠ '/' ∧ isControl c = false := by
    rw [htext]
    intro c hc
    rcases List.mem_append.mp hc with hc | hc
    · have hall : ∀ c ∈ ['a', 't', 't', 'e', 'm', 'p', 't', '-'],
          c ≠ '/' ∧ isControl c = false := by
        simp [isControl]
      exact hall c (by simpa using hc)
    · have hdigit := Nat.isDigit_of_mem_toDigits (by decide) (by decide) hc
      simp only [Char.isDigit, Bool.and_eq_true, decide_eq_true_eq] at hdigit
      have hlow : 48 ≤ c.toNat := hdigit.1
      have hhigh : c.toNat ≤ 57 := hdigit.2
      refine ⟨?_, ?_⟩
      · rintro rfl
        exact absurd hlow (by decide)
      · simp only [isControl, Bool.or_eq_false_iff, Bool.and_eq_false_iff, decide_eq_false_iff_not]
        omega
  have hother : ∀ other : String, other.toList.head? ≠ some 'a' →
      "attempt-" ++ toString attempt ≠ other := by
    rintro _ hhead rfl
    rw [htext] at hhead
    exact hhead rfl
  refine ⟨hother _ (by decide), hother _ (by decide), hother _ (by decide), ?_, ?_⟩
  · intro hslash
    exact (hchars '/' hslash).1 rfl
  · intro c hc
    exact (hchars c hc).2

theorem isComponent_of_plain {name : String}
    (h : (name != "" && name != "." && name != ".." && !name.toList.contains '/' &&
      !name.toList.any isControl) = true) : IsComponent name := by
  simp only [Bool.and_eq_true, bne_iff_ne, Bool.not_eq_true', List.contains_eq_mem,
    decide_eq_false_iff_not, List.any_eq_false, Bool.not_eq_true] at h
  obtain ⟨⟨⟨⟨hempty, hdot⟩, hdots⟩, hslash⟩, hcontrol⟩ := h
  exact ⟨hempty, hdot, hdots, hslash, hcontrol⟩

theorem isComponent_beampipe : IsComponent ".beampipe" := isComponent_of_plain (by decide)

theorem isComponent_publication : IsComponent "publication" := isComponent_of_plain (by decide)

theorem isComponent_inventory : IsComponent "beampipe-output-inventory.json" :=
  isComponent_of_plain (by decide +kernel)

/-- One more component of a path in normal form. -/
theorem isChild_pathText {components : List String} {name : String} (hne : components ≠ [])
    (hcomponents : ∀ component ∈ components, IsComponent component) (hname : IsComponent name) :
    IsChild (pathText components) name (pathText (components ++ [name])) := by
  refine ⟨components, hne, ?_, rfl, rfl⟩
  rw [List.forall_mem_append, List.forall_mem_singleton]
  exact ⟨hcomponents, hname⟩

theorem outputInventoryRemotePaths_eq_ok {sessionDir : String} {attempt : ℤ}
    {paths : OutputInventoryRemotePaths}
    (h : outputInventoryRemotePaths sessionDir attempt = .ok paths) :
    (0 ≤ attempt ∧ attempt < 2147483647) ∧ HandoffPaths sessionDir attempt paths := by
  unfold outputInventoryRemotePaths at h
  split at h
  · cases h
  next hattempt =>
    split at h
    · cases h
    next =>
      split at h
      · cases h
      next normalized hnormalized =>
        split at h
        · cases h
        next hnormal =>
          dsimp only at h
          split at h
          · cases h
          next =>
            cases h
            rw [not_or, not_not] at hnormal
            obtain ⟨hne, htext⟩ := hnormal
            have hsession := (normalizedAbsolutePath_components hnormalized).2
            have hadd : ∀ {components : List String} {name : String}, IsComponent name →
                (∀ component ∈ components, IsComponent component) →
                ∀ component ∈ components ++ [name], IsComponent component := by
              intro components name hname hcomponents
              rw [List.forall_mem_append, List.forall_mem_singleton]
              exact ⟨hcomponents, hname⟩
            have hcontrol := hadd isComponent_beampipe hsession
            have hpublication := hadd isComponent_publication hcontrol
            rw [not_not] at hattempt
            have hdirectory := hadd (isComponent_attempt hattempt.1) hpublication
            refine ⟨hattempt, ?_, ?_, ?_, ?_⟩
            · have hchild := isChild_pathText hne hsession isComponent_beampipe
              rwa [htext] at hchild
            · exact isChild_pathText (by simp) hcontrol isComponent_publication
            · exact isChild_pathText (by simp) hpublication (isComponent_attempt hattempt.1)
            · exact isChild_pathText (by simp) hdirectory isComponent_inventory

/-- Inventories of different sessions or attempts have different paths. -/
theorem HandoffPaths.inj {sessionDir sessionDir' : String} {attempt attempt' : ℤ}
    {paths paths' : OutputInventoryRemotePaths} (h : HandoffPaths sessionDir attempt paths)
    (h' : HandoffPaths sessionDir' attempt' paths') (hattempt : 0 ≤ attempt)
    (hattempt' : 0 ≤ attempt') (hpath : paths.inventoryPath = paths'.inventoryPath) :
    sessionDir = sessionDir' ∧ attempt = attempt' := by
  have hinventory := h.inventory
  rw [hpath] at hinventory
  obtain ⟨hdirectory, -⟩ := hinventory.inj h'.inventory
  have hattempts := h.attempt
  rw [hdirectory] at hattempts
  obtain ⟨hpublication, hname⟩ := hattempts.inj h'.attempt
  have hpublications := h.publication
  rw [hpublication] at hpublications
  have hcontrols := h.control
  rw [(hpublications.inj h'.publication).1] at hcontrols
  refine ⟨(hcontrols.inj h'.control).1, ?_⟩
  have hdigits := congrArg String.toList (String.append_right_inj _ |>.mp hname)
  rw [toString_of_nonneg hattempt, toString_of_nonneg hattempt'] at hdigits
  have hnat : attempt.toNat = attempt'.toNat := by
    simpa using congrArg (Nat.ofDigitChars 10 · 0) hdigits
  omega

/-! ### Staging roots -/

/-- A staging root is accepted when it lies strictly beneath the session directory and this not
directly beneath `/`. -/
theorem stagingRootIsScopedToSession_iff (sessionDir stagingRoot : String) :
    stagingRootIsScopedToSession sessionDir stagingRoot = true ↔
      StrictlyBeneath sessionDir stagingRoot ∧
        ∀ components, normalizedAbsolutePath sessionDir = some components →
          2 ≤ components.length := by
  unfold stagingRootIsScopedToSession StrictlyBeneath
  cases hsession : normalizedAbsolutePath sessionDir with
  | none => simp
  | some session =>
      cases hstaging : normalizedAbsolutePath stagingRoot with
      | none => simp
      | some staging =>
          simp only [Bool.and_eq_true, decide_eq_true_eq, bne_iff_ne, List.isPrefixOf_iff_prefix,
            Option.some.injEq, exists_and_left, exists_eq_left', forall_eq']
          constructor
          · rintro ⟨⟨hlength, hne⟩, hbeneath⟩
            exact ⟨⟨hbeneath, Ne.symm hne⟩, hlength⟩
          · rintro ⟨⟨hbeneath, hne⟩, hlength⟩
            exact ⟨⟨hlength, Ne.symm hne⟩, hbeneath⟩

/-- The paths of an attempt lie one in the other beneath the session directory, the path of the
inventory tells the session directory and the attempt, and a staging root is accepted when it lies
strictly beneath a session directory that is not directly beneath `/`. -/
theorem remotePaths_scoped :
    (∀ sessionDir attempt paths, outputInventoryRemotePaths sessionDir attempt = .ok paths →
      HandoffPaths sessionDir attempt paths ∧
        ∀ path ∈ [paths.controlDirectory, paths.publicationDirectory, paths.attemptDirectory,
            paths.inventoryPath],
          StrictlyBeneath sessionDir path ∧ isAbsolutePath path = true ∧
            ∃ components, path = pathText components ∧
              ∀ component ∈ components, IsComponent component) ∧
    (∀ sessionDir sessionDir' attempt attempt' paths paths',
      outputInventoryRemotePaths sessionDir attempt = .ok paths →
      outputInventoryRemotePaths sessionDir' attempt' = .ok paths' →
      paths.inventoryPath = paths'.inventoryPath →
        normalizedAbsolutePath sessionDir = normalizedAbsolutePath sessionDir' ∧
          attempt = attempt') ∧
    ∀ sessionDir stagingRoot, stagingRootIsScopedToSession sessionDir stagingRoot = true ↔
      StrictlyBeneath sessionDir stagingRoot ∧
        ∀ components, normalizedAbsolutePath sessionDir = some components →
          2 ≤ components.length := by
  refine ⟨?_, ?_, stagingRootIsScopedToSession_iff⟩
  · intro sessionDir attempt paths h
    obtain ⟨-, hpaths⟩ := outputInventoryRemotePaths_eq_ok h
    have hcontrol := hpaths.control.strictlyBeneath
    have hpublication := hcontrol.trans hpaths.publication.strictlyBeneath
    have hattempt := hpublication.trans hpaths.attempt.strictlyBeneath
    have hinventory := hattempt.trans hpaths.inventory.strictlyBeneath
    refine ⟨hpaths, ?_⟩
    simp only [List.forall_mem_cons, List.not_mem_nil, false_imp_iff, implies_true, and_true]
    exact ⟨⟨hcontrol, hpaths.control.isAbsolute⟩, ⟨hpublication, hpaths.publication.isAbsolute⟩,
      ⟨hattempt, hpaths.attempt.isAbsolute⟩, ⟨hinventory, hpaths.inventory.isAbsolute⟩⟩
  · intro sessionDir sessionDir' attempt attempt' paths paths' h h' hpath
    obtain ⟨⟨hattempt, -⟩, hpaths⟩ := outputInventoryRemotePaths_eq_ok h
    obtain ⟨⟨hattempt', -⟩, hpaths'⟩ := outputInventoryRemotePaths_eq_ok h'
    obtain ⟨rfl, rfl⟩ := hpaths.inj hpaths' hattempt hattempt' hpath
    exact ⟨rfl, rfl⟩

/-- The third attempt of a session, and a staging root beneath its directory. -/
theorem remotePaths_scoped_sample :
    HandoffPaths "/dlg/run-a" 2
        ⟨"/dlg/run-a/.beampipe", "/dlg/run-a/.beampipe/publication",
          "/dlg/run-a/.beampipe/publication/attempt-2",
          "/dlg/run-a/.beampipe/publication/attempt-2/beampipe-output-inventory.json"⟩ ∧
      StrictlyBeneath "/dlg/run-a" "/dlg//run-a/./products" :=
  ⟨(remotePaths_scoped.1 "/dlg/run-a" 2 _ (by decide +kernel)).1,
    ((remotePaths_scoped.2.2 "/dlg/run-a" "/dlg//run-a/./products").mp (by decide +kernel)).1⟩

/-- A session directory directly beneath `/` has no staging root, though paths lie beneath it. -/
theorem stagingRoot_of_shallow_session :
    ¬ ∀ sessionDir stagingRoot, stagingRootIsScopedToSession sessionDir stagingRoot = true ↔
      StrictlyBeneath sessionDir stagingRoot := by
  intro h
  have hbeneath : StrictlyBeneath "/execution-a" "/execution-a/science-products" :=
    ⟨["execution-a"], ["execution-a", "science-products"], by decide +kernel, by decide +kernel,
      by decide, by decide⟩
  have hscoped := (h _ _).mpr hbeneath
  exact absurd hscoped (by decide +kernel)

end Beampipe
