/-
**The last write to a key.**

A table is filled by writes, one after the other, and a later write to a key replaces an earlier
one.  What a key holds in the end is the value of its last write.  The order of the writes does not
matter to a key exactly when all its writes have the same value.

Main definitions:

* `LastWrite.write` — the table after a write;
* `LastWrite.last` — the value of the last write to a key;
* `LastWrite.Agree` — all writes to a key have the same value.

Main results:

* `LastWrite.foldl_write` — a table holds the last writes;
* `LastWrite.agree_iff` — **when the order of the writes does not matter** to a key.
-/

import Mathlib.Data.List.Perm.Basic
import Mathlib.Logic.Function.Basic

set_option relaxedAutoImplicit false
set_option autoImplicit false

namespace LastWrite

variable {α κ β : Type} [DecidableEq κ] (key : α → Option κ) (value : α → β)

/-- The table after a write; one without a key leaves it as it is. -/
def write (table : κ → Option β) (w : α) : κ → Option β :=
  match key w with
  | none => table
  | some k => Function.update table k (some (value w))

/-- The value of the last write to a key. -/
def last : List α → κ → Option β
  | [], _ => none
  | w :: writes, k => (last writes k).or (if key w = some k then some (value w) else none)

/-- All writes to the key have the same value. -/
def Agree (writes : List α) (k : κ) : Prop :=
  ∀ w ∈ writes, ∀ w' ∈ writes, key w = some k → key w' = some k → value w = value w'

theorem write_apply (table : κ → Option β) (w : α) (k : κ) :
    write key value table w k = if key w = some k then some (value w) else table k := by
  unfold write
  cases hkey : key w with
  | none => simp
  | some k' =>
      by_cases hk : k' = k
      · subst hk
        simp
      · simp [hk, Function.update_of_ne (Ne.symm hk)]

/-- A table holds the last writes, and elsewhere what it held before. -/
theorem foldl_write (table : κ → Option β) (writes : List α) (k : κ) :
    writes.foldl (write key value) table k = (last key value writes k).or (table k) := by
  induction writes generalizing table with
  | nil => rfl
  | cons w writes ih =>
      rw [List.foldl_cons, ih, write_apply, last, Option.or_assoc]
      by_cases hkey : key w = some k
      · simp [hkey]
      · simp [hkey]

theorem last_append (a b : List α) (k : κ) :
    last key value (a ++ b) k = (last key value b k).or (last key value a k) := by
  induction a with
  | nil => simp [last]
  | cons w a ih => rw [List.cons_append, last, ih, last, Option.or_assoc]

/-- What a key holds was written to it. -/
theorem exists_of_last {writes : List α} {k : κ} {v : β} (h : last key value writes k = some v) :
    ∃ w ∈ writes, key w = some k ∧ value w = v := by
  induction writes with
  | nil => cases h
  | cons w writes ih =>
      rw [last, Option.or_eq_some_iff] at h
      rcases h with h | ⟨-, h⟩
      · obtain ⟨w', hw', hkey⟩ := ih h
        exact ⟨w', List.mem_cons_of_mem _ hw', hkey⟩
      · by_cases hkey : key w = some k
        · rw [if_pos hkey] at h
          exact ⟨w, List.mem_cons_self, hkey, Option.some.inj h⟩
        · rw [if_neg hkey] at h
          cases h

/-- A key that was written to holds something. -/
theorem last_ne_none {writes : List α} {k : κ} {w : α} (hw : w ∈ writes) (hkey : key w = some k) :
    last key value writes k ≠ none := by
  induction writes with
  | nil => cases hw
  | cons w' writes ih =>
      rw [last, ne_eq, Option.or_eq_none_iff, not_and_or]
      rcases List.mem_cons.mp hw with rfl | hw
      · exact .inr (by simp [hkey])
      · exact .inl (ih hw)

/-- With one value for a key, that is what it holds. -/
theorem Agree.last_eq {writes : List α} {k : κ} (h : Agree key value writes k) {w : α}
    (hw : w ∈ writes) (hkey : key w = some k) : last key value writes k = some (value w) := by
  obtain ⟨v, hv⟩ := Option.ne_none_iff_exists'.mp (last_ne_none key value hw hkey)
  obtain ⟨w', hw', hkey', rfl⟩ := exists_of_last key value hv
  rw [hv, h w' hw' w hw hkey' hkey]

/-- Any write can be the last one. -/
theorem exists_perm_last {writes : List α} {k : κ} {w : α} (hw : w ∈ writes)
    (hkey : key w = some k) :
    ∃ writes', writes'.Perm writes ∧ last key value writes' k = some (value w) := by
  obtain ⟨before, after, rfl⟩ := List.append_of_mem hw
  refine ⟨before ++ after ++ [w], ?_, ?_⟩
  · rw [List.append_assoc]
    exact (List.perm_append_comm.append_left before)
  · simp [last_append, last, hkey]

/-- **The order of the writes does not matter to a key exactly when they all have the same
value.** -/
theorem agree_iff {writes : List α} {k : κ} :
    Agree key value writes k ↔
      ∀ writes', writes'.Perm writes → last key value writes' k = last key value writes k := by
  constructor
  · intro h writes' hperm
    by_cases hany : ∃ w ∈ writes, key w = some k
    · obtain ⟨w, hw, hkey⟩ := hany
      have h' : Agree key value writes' k := fun a ha b hb =>
        h a (hperm.mem_iff.mp ha) b (hperm.mem_iff.mp hb)
      rw [h.last_eq key value hw hkey, h'.last_eq key value (hperm.mem_iff.mpr hw) hkey]
    · have hnone : ∀ others : List α, (∀ w ∈ others, w ∈ writes) →
          last key value others k = none := by
        intro others hothers
        by_contra hsome
        obtain ⟨v, hv⟩ := Option.ne_none_iff_exists'.mp hsome
        obtain ⟨w, hw, hkey, -⟩ := exists_of_last key value hv
        exact hany ⟨w, hothers w hw, hkey⟩
      rw [hnone writes' fun w hw => hperm.mem_iff.mp hw, hnone writes fun _ hw => hw]
  · intro h w hw w' hw' hkey hkey'
    obtain ⟨first, hfirst, hlast⟩ := exists_perm_last key value hw hkey
    obtain ⟨second, hsecond, hlast'⟩ := exists_perm_last key value hw' hkey'
    rw [h first hfirst, ← h second hsecond, hlast'] at hlast
    exact (Option.some.inj hlast).symm

end LastWrite
