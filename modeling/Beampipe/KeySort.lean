/-
Sorting by a key.

A list that is sorted by a key is determined by the multiset of its elements, as far as the key can
tell them apart.  This is what makes a document canonical whose parts arrive in any order: sort the
parts by a key and write them one after the other.  Nothing here knows what the keys are.

Main definitions:

* `KeySort.sortByKey` — the stable sort by a key.

Main results:

* `KeySort.map_eq_of_sorted` — **lists sorted by a key agree** in everything the key determines, when
  they are permutations of one another in it;
* `KeySort.map_sortByKey_eq` — so sorting forgets the order of its input;
* `KeySort.map_sortByKey_map_eq_iff` — sorting before a map agrees with sorting after it exactly when
  the map reverses no pair of keys.
-/

import Mathlib.Data.List.Sort
import Mathlib.Data.List.Perm.Basic
import Mathlib.Data.List.Nodup

set_option relaxedAutoImplicit false
set_option autoImplicit false

namespace KeySort

variable {α β κ : Type*}

section Factor

/-- What `f` tells apart, `key` tells apart: then equal keys in a row give equal values in a row. -/
theorem map_eq_map_of_factor {f : α → β} {key : α → κ} {xs ys : List α}
    (hkey : ∀ a ∈ xs, ∀ b ∈ ys, key a = key b → f a = f b) (h : xs.map key = ys.map key) :
    xs.map f = ys.map f := by
  induction xs generalizing ys with
  | nil =>
      cases ys with
      | nil => rfl
      | cons y ys => simp at h
  | cons x xs ih =>
      cases ys with
      | nil => simp at h
      | cons y ys =>
          simp only [List.map_cons, List.cons.injEq] at h ⊢
          refine ⟨hkey x (by simp) y (by simp) h.1, ih (fun a ha b hb => ?_) h.2⟩
          exact hkey a (by simp [ha]) b (by simp [hb])

/-- The same for permutations. -/
theorem perm_map_of_factor {f : α → β} {key : α → κ} {xs ys : List α}
    (hkey : ∀ a ∈ xs, ∀ b ∈ ys, key a = key b → f a = f b)
    (h : (xs.map key).Perm (ys.map key)) : (xs.map f).Perm (ys.map f) := by
  induction xs generalizing ys with
  | nil =>
      have hys : ys = [] := by simpa using h.symm.eq_nil
      simp [hys]
  | cons x xs ih =>
      -- an element with the key of the head is taken out of the other list
      have hx : key x ∈ ys.map key := h.subset (by simp)
      obtain ⟨y, hy, hxy⟩ := List.mem_map.mp hx
      obtain ⟨before, after, rfl⟩ := List.append_of_mem hy
      have hmiddle : (before ++ y :: after).Perm (y :: (before ++ after)) := List.perm_middle
      have hrest : (xs.map key).Perm ((before ++ after).map key) := by
        have hcons := h.trans (hmiddle.map key)
        simp only [List.map_cons, hxy] at hcons
        exact hcons.cons_inv
      have ih' := ih (fun a ha b hb => hkey a (by simp [ha]) b (hmiddle.symm.subset (by simp [hb])))
        hrest
      have hfx : f x = f y := hkey x (by simp) y (by simp) hxy.symm
      have hhead : ((x :: xs).map f).Perm (f y :: (before ++ after).map f) := by
        rw [List.map_cons, hfx]
        exact ih'.cons (f y)
      exact hhead.trans (hmiddle.map f).symm

end Factor

variable [LinearOrder κ]

/-- The stable sort by a key. -/
def sortByKey (key : α → κ) (l : List α) : List α :=
  l.insertionSort fun a b => key a ≤ key b

variable {key : α → κ}

theorem sortByKey_perm (l : List α) : (sortByKey key l).Perm l := List.perm_insertionSort _ l

@[simp] theorem mem_sortByKey {l : List α} {a : α} : a ∈ sortByKey key l ↔ a ∈ l :=
  (sortByKey_perm l).mem_iff

@[simp] theorem sortByKey_eq_nil_iff {l : List α} : sortByKey key l = [] ↔ l = [] := by
  rw [← List.length_eq_zero_iff, (sortByKey_perm l).length_eq, List.length_eq_zero_iff]

/-- Lists that are sorted to the same list have the same elements. -/
theorem perm_of_sortByKey_eq {xs ys : List α} (h : sortByKey key xs = sortByKey key ys) :
    xs.Perm ys := by
  have hxs : (sortByKey key xs).Perm ys := h ▸ sortByKey_perm ys
  exact (sortByKey_perm xs).symm.trans hxs

theorem sortByKey_sorted (l : List α) : ((sortByKey key l).map key).Pairwise (· ≤ ·) := by
  rw [List.pairwise_map]
  have : Std.Total fun a b : α => key a ≤ key b := ⟨fun a b => le_total (key a) (key b)⟩
  have : IsTrans α fun a b => key a ≤ key b := ⟨fun a b c => le_trans⟩
  exact List.pairwise_insertionSort _ l

/-- Sorting comes before or after a map that keeps the keys. -/
theorem map_sortByKey {κ' : Type*} [LinearOrder κ'] {key' : β → κ'} {f : α → β} {l : List α}
    (h : ∀ a ∈ l, ∀ b ∈ l, key a ≤ key b ↔ key' (f a) ≤ key' (f b)) :
    (sortByKey key l).map f = sortByKey key' (l.map f) :=
  List.map_insertionSort _ _ f l h

/-- **Lists sorted by a key agree.**  Two sorted lists whose values under `f` are permutations of one
another have these values in the same order, when the key and `f` tell the same elements apart. -/
theorem map_eq_of_sorted {f : α → β} {xs ys : List α} (hx : (xs.map key).Pairwise (· ≤ ·))
    (hy : (ys.map key).Pairwise (· ≤ ·)) (hperm : (xs.map f).Perm (ys.map f))
    (hkey : ∀ a ∈ xs, ∀ b ∈ ys, key a = key b ↔ f a = f b) : xs.map f = ys.map f := by
  have hkeys : (xs.map key).Perm (ys.map key) :=
    perm_map_of_factor (fun a ha b hb h => (hkey a ha b hb).mpr h) hperm
  exact map_eq_map_of_factor (fun a ha b hb h => (hkey a ha b hb).mp h)
    (hkeys.eq_of_pairwise' hx hy)

/-- Sorting forgets the order of its input. -/
theorem map_sortByKey_eq {f : α → β} {xs ys : List α} (hperm : (xs.map f).Perm (ys.map f))
    (hkey : ∀ a ∈ xs, ∀ b ∈ ys, key a = key b ↔ f a = f b) :
    (sortByKey key xs).map f = (sortByKey key ys).map f := by
  refine map_eq_of_sorted (sortByKey_sorted xs) (sortByKey_sorted ys) ?_ fun a ha b hb =>
    hkey a (by simpa using ha) b (by simpa using hb)
  exact ((sortByKey_perm xs).map f).trans (hperm.trans ((sortByKey_perm ys).map f).symm)

/-- A list without two elements of one key is sorted in one way only. -/
theorem sortByKey_eq_of_perm {xs ys : List α} (hperm : xs.Perm ys) (hkeys : (xs.map key).Nodup) :
    sortByKey key xs = sortByKey key ys := by
  have hmap : (sortByKey key xs).map id = (sortByKey key ys).map id := by
    refine map_sortByKey_eq (by simpa using hperm) fun a ha b hb => ⟨fun h => ?_, fun h => ?_⟩
    · exact List.inj_on_of_nodup_map hkeys ha (hperm.symm.subset hb) h
    · rw [show a = b from h]
  simpa using hmap

/-! ### Sorting before and after a map -/

section Map

variable {κ' γ : Type*} [LinearOrder κ'] {key' : β → κ'} {f : α → β} {g : β → γ}

/-- The values of a list sorted by one key are sorted by another, when no pair of keys is
reversed. -/
theorem sorted_map_iff {xs : List α} (hsorted : (xs.map key).Pairwise (· ≤ ·))
    (hkey : ∀ a ∈ xs, ∀ b ∈ xs, key a = key b → key' (f a) = key' (f b)) :
    ((xs.map f).map key').Pairwise (· ≤ ·) ↔
      ∀ a ∈ xs, ∀ b ∈ xs, key a < key b → key' (f a) ≤ key' (f b) := by
  rw [List.pairwise_map] at hsorted
  rw [List.map_map, List.pairwise_map]
  constructor
  · intro h
    have hahead : xs.Pairwise fun a b => key a < key b → key' (f a) ≤ key' (f b) := by
      refine h.imp ?_
      intro a b hle _
      exact hle
    have hbehind : xs.Pairwise (flip fun a b => key a < key b → key' (f a) ≤ key' (f b)) := by
      refine hsorted.imp ?_
      intro a b hle hlt
      exact absurd hle (not_le_of_gt hlt)
    exact List.Pairwise.forall_of_forall_of_flip (fun a _ hlt => absurd hlt (lt_irrefl _)) hahead
      hbehind
  · intro h
    refine hsorted.imp_of_mem fun {a b} ha hb hle => ?_
    rcases hle.lt_or_eq with hlt | heq
    · exact h a ha b hb hlt
    · exact (hkey a ha b hb heq).le

/-- **Sorting before a map agrees with sorting after it** exactly when the map reverses no pair of
keys. -/
theorem map_sortByKey_map_eq_iff {l : List α}
    (hg : ∀ a ∈ l, ∀ b ∈ l, key' (f a) = key' (f b) ↔ g (f a) = g (f b))
    (hkey : ∀ a ∈ l, ∀ b ∈ l, key a = key b → key' (f a) = key' (f b)) :
    ((sortByKey key l).map f).map g = (sortByKey key' (l.map f)).map g ↔
      ∀ a ∈ l, ∀ b ∈ l, key a < key b → key' (f a) ≤ key' (f b) := by
  have hperm : ((sortByKey key l).map f).Perm (sortByKey key' (l.map f)) :=
    ((sortByKey_perm l).map f).trans (sortByKey_perm _).symm
  have hg' : ∀ x ∈ (sortByKey key l).map f, ∀ y ∈ sortByKey key' (l.map f),
      key' x = key' y ↔ g x = g y := by
    intro x hx y hy
    obtain ⟨a, ha, rfl⟩ := List.mem_map.mp hx
    obtain ⟨b, hb, rfl⟩ := List.mem_map.mp (mem_sortByKey.mp hy)
    exact hg a (mem_sortByKey.mp ha) b hb
  have hsorted := @sorted_map_iff _ _ _ _ key _ _ key' f _ (sortByKey_sorted l)
    fun a ha b hb => hkey a (mem_sortByKey.mp ha) b (mem_sortByKey.mp hb)
  simp only [mem_sortByKey] at hsorted
  rw [← hsorted]
  constructor
  · intro h
    rw [map_eq_map_of_factor (fun x hx y hy hxy => (hg' x hx y hy).mpr hxy) h]
    exact sortByKey_sorted _
  · exact fun h => map_eq_of_sorted h (sortByKey_sorted _) (hperm.map g) hg'

end Map

end KeySort
