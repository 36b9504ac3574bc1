/-
Accumulation by keys.

The elements of a list are folded one after the other into a map: an element is added to the entry
of its key, and a missing entry starts out empty.  Groups are the case in which an entry is the list
of its elements, and groups within groups the case in which an entry is such a map again.  An entry
depends on the elements of its key only, and going through all entries meets every element once.

Main definitions:

* `Grouping.addTo`, `Grouping.accumulate` — one element, and a list of them, added to the entries;
* `Grouping.ofKey` — the elements of a key, in order.

Main results:

* `Grouping.getElem?_accumulate` — **an entry is the fold over the elements of its key**;
* `Grouping.getElem?_accumulate_listed` — groups list the elements of their key;
* `Grouping.flatMap_ofKey_perm` — the elements of all keys are all elements;
* `Grouping.flatMap_toList_perm` — **what the entries show of their elements, all entries show of
  all elements, each once**.
-/

import Mathlib.Data.List.Perm.Basic
import Mathlib.Data.List.Nodup

set_option relaxedAutoImplicit false
set_option autoImplicit false

namespace Grouping

variable {α β γ κ : Type} {cmp : κ → κ → Ordering} [Std.TransCmp cmp] [Std.LawfulEqCmp cmp]

/-- An element is added to the entry of its key. -/
def addTo (key : α → κ) (step : β → α → β) (empty : β) (entries : Std.ExtTreeMap κ β cmp) (a : α) :
    Std.ExtTreeMap κ β cmp :=
  entries.alter (key a) fun entry => some (step (entry.getD empty) a)

/-- The elements of a list are added one after the other. -/
def accumulate (key : α → κ) (step : β → α → β) (empty : β) (xs : List α) :
    Std.ExtTreeMap κ β cmp :=
  xs.foldl (addTo key step empty) ∅

variable [DecidableEq κ]

/-- The elements of a key, in order. -/
def ofKey (key : α → κ) (k : κ) (xs : List α) : List α := xs.filter fun a => key a = k

theorem ofKey_cons_self {key : α → κ} {k : κ} {a : α} (h : key a = k) (xs : List α) :
    ofKey key k (a :: xs) = a :: ofKey key k xs := by
  simp [ofKey, h]

theorem ofKey_cons_of_ne {key : α → κ} {k : κ} {a : α} (h : key a ≠ k) (xs : List α) :
    ofKey key k (a :: xs) = ofKey key k xs := by
  simp [ofKey, h]

theorem mem_ofKey {key : α → κ} {k : κ} {xs : List α} {a : α} :
    a ∈ ofKey key k xs ↔ a ∈ xs ∧ key a = k := by
  simp [ofKey]

variable {key : α → κ} {step : β → α → β} {empty : β}

theorem getElem?_addTo (entries : Std.ExtTreeMap κ β cmp) (a : α) (k : κ) :
    (addTo key step empty entries a)[k]? =
      if key a = k then some (step (entries[k]?.getD empty) a) else entries[k]? := by
  unfold addTo
  simp only [Std.ExtTreeMap.getElem?_alter, Std.LawfulEqCmp.compare_eq_iff_eq]
  split
  · next h => rw [h]
  · rfl

/-- **An entry is the fold over the elements of its key.** -/
theorem getElem?_accumulate (xs : List α) (k : κ) :
    (accumulate key step empty xs : Std.ExtTreeMap κ β cmp)[k]? =
      if ofKey key k xs = [] then none else some ((ofKey key k xs).foldl step empty) := by
  -- over the elements added so far
  suffices h : ∀ (entries : Std.ExtTreeMap κ β cmp) (xs : List α),
      (xs.foldl (addTo key step empty) entries)[k]? =
        if ofKey key k xs = [] then entries[k]?
        else some ((ofKey key k xs).foldl step (entries[k]?.getD empty)) by
    have hall := h ∅ xs
    simpa [accumulate] using hall
  intro entries xs
  induction xs generalizing entries with
  | nil => rfl
  | cons a xs ih =>
      rw [List.foldl_cons, ih, getElem?_addTo]
      by_cases ha : key a = k
      · rw [ofKey_cons_self ha, if_pos ha, if_neg (List.cons_ne_nil _ _), List.foldl_cons,
          Option.getD_some]
        split
        · next hnil => rw [hnil, List.foldl_nil]
        · rfl
      · rw [ofKey_cons_of_ne ha, if_neg ha]

/-- An entry that lists its elements. -/
theorem foldl_listed (f : α → γ) (listed : List γ) (xs : List α) :
    xs.foldl (fun listed a => listed ++ [f a]) listed = listed ++ xs.map f := by
  induction xs generalizing listed with
  | nil => simp
  | cons a xs ih => rw [List.foldl_cons, ih, List.map_cons, List.append_assoc, List.singleton_append]

/-- Groups: an entry lists the elements of its key, in order. -/
theorem getElem?_accumulate_listed (f : α → γ) (xs : List α) (k : κ) :
    (accumulate key (fun listed a => listed ++ [f a]) [] xs : Std.ExtTreeMap κ (List γ) cmp)[k]? =
      if (ofKey key k xs).map f = [] then none else some ((ofKey key k xs).map f) := by
  rw [getElem?_accumulate, foldl_listed, List.nil_append]
  simp only [List.map_eq_nil_iff]

/-- The entries, each with its key. -/
theorem mem_toList_accumulate {xs : List α} {entry : κ × β} :
    entry ∈ (accumulate key step empty xs : Std.ExtTreeMap κ β cmp).toList ↔
      ofKey key entry.1 xs ≠ [] ∧ entry.2 = (ofKey key entry.1 xs).foldl step empty := by
  rw [Std.ExtTreeMap.mem_toList_iff_getElem?_eq_some, getElem?_accumulate]
  split
  · next hnil => simp [hnil]
  · next hne =>
    rw [Option.some.injEq]
    exact ⟨fun h => ⟨hne, h.symm⟩, fun h => h.2.symm⟩

/-- The elements of all keys are all elements. -/
theorem flatMap_ofKey_perm {ks : List κ} (hnodup : ks.Nodup) {xs : List α}
    (hkeys : ∀ a ∈ xs, key a ∈ ks) : (ks.flatMap fun k => ofKey key k xs).Perm xs := by
  induction xs with
  | nil => simp [ofKey]
  | cons a xs ih =>
      have htail := ih fun b hb => hkeys b (List.mem_cons_of_mem _ hb)
      obtain ⟨before, after, rfl⟩ := List.append_of_mem (hkeys a List.mem_cons_self)
      rw [List.nodup_append] at hnodup
      obtain ⟨-, hafter, hdisjoint⟩ := hnodup
      have hbefore : ∀ k ∈ before, key a ≠ k := fun k hk hak =>
        hdisjoint k hk (key a) List.mem_cons_self hak.symm
      have hrest : ∀ k ∈ after, key a ≠ k := by
        rintro k hk rfl
        exact (List.nodup_cons.mp hafter).1 hk
      have hskip : ∀ ks : List κ, (∀ k ∈ ks, key a ≠ k) →
          (ks.flatMap fun k => ofKey key k (a :: xs)) = ks.flatMap fun k => ofKey key k xs :=
        fun ks hks => List.flatMap_congr fun k hk => ofKey_cons_of_ne (hks k hk) xs
      rw [List.flatMap_append, List.flatMap_cons, hskip before hbefore, hskip after hrest,
        ofKey_cons_self rfl]
      rw [List.flatMap_append, List.flatMap_cons] at htail
      exact List.perm_middle.trans (htail.cons a)

/-- **What the entries show of their elements, all entries show of all elements.** -/
theorem flatMap_toList_perm {xs : List α} (F : κ → β → List γ) (G : α → γ)
    (hF : ∀ k, ofKey key k xs ≠ [] →
      (F k ((ofKey key k xs).foldl step empty)).Perm ((ofKey key k xs).map G)) :
    ((accumulate key step empty xs : Std.ExtTreeMap κ β cmp).toList.flatMap fun entry =>
      F entry.1 entry.2).Perm (xs.map G) := by
  generalize hentries : (accumulate key step empty xs : Std.ExtTreeMap κ β cmp) = entries
  have hmem : ∀ entry ∈ entries.toList, ofKey key entry.1 xs ≠ [] ∧
      entry.2 = (ofKey key entry.1 xs).foldl step empty := by
    intro entry hentry
    rw [← hentries] at hentry
    exact mem_toList_accumulate.mp hentry
  have hnodup : (entries.toList.map Prod.fst).Nodup := by
    rw [List.nodup_iff_pairwise_ne, List.pairwise_map]
    refine Std.ExtTreeMap.distinct_keys_toList.imp fun hne heq => hne ?_
    exact Std.LawfulEqCmp.compare_eq_iff_eq.mpr heq
  have hkeys : ∀ a ∈ xs, key a ∈ entries.toList.map Prod.fst := by
    intro a ha
    have hne : ofKey key (key a) xs ≠ [] := List.ne_nil_of_mem (mem_ofKey.mpr ⟨ha, rfl⟩)
    refine List.mem_map.mpr ⟨(key a, (ofKey key (key a) xs).foldl step empty), ?_, rfl⟩
    rw [← hentries]
    exact mem_toList_accumulate.mpr ⟨hne, rfl⟩
  have hentries : (entries.toList.flatMap fun entry => F entry.1 entry.2).Perm
      (entries.toList.flatMap fun entry => (ofKey key entry.1 xs).map G) := by
    refine List.Perm.flatMap_left _ fun entry hentry => ?_
    obtain ⟨hne, hvalue⟩ := hmem entry hentry
    rw [hvalue]
    exact hF entry.1 hne
  have hkeyed : (entries.toList.flatMap fun entry => (ofKey key entry.1 xs).map G) =
      ((entries.toList.map Prod.fst).flatMap fun k => ofKey key k xs).map G := by
    rw [List.flatMap_map, List.map_flatMap]
  exact hentries.trans (hkeyed ▸ (flatMap_ofKey_perm hnodup hkeys).map G)

end Grouping
