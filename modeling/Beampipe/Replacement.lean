/-
Successive replacement and simultaneous substitution.

A template is a list of symbols in which some names occur as placeholders.  Filling it in by one
replacement after the other works on a text that grows: a placeholder may be found in what an
earlier replacement has put there, or across its border.  Substituting all names at once looks at
the template alone.

To tell the two apart every symbol carries its origin: its place in the template, or nothing when it
comes from a value.  A placeholder that is found is the template's own when its symbols come from
consecutive places.

Main definitions:

* `Replacement.Cell`, `Replacement.replace`, `Replacement.run` — symbols with origins, one
  replacement, and one after the other;
* `Replacement.FindsOwn`, `Replacement.NeverAgain` — the placeholders that are found are the
  template's own, in one replacement and in all of them;
* `Replacement.Piece`, `Replacement.read`, `Replacement.fill` — the template as symbols and slots,
  and the slots filled in at once;
* `Replacement.Complete`, `Replacement.Apart` — every placeholder of the template is a slot, and no
  two of them overlap.

Main results:

* `Replacement.complete_read_iff` — the placeholders can all be slots exactly when none overlap;
* `Replacement.replace_fill` — a replacement that finds the template's own placeholders fills its
  slots;
* `Replacement.run_eq_fill` — so do all of them, one after the other;
* `Replacement.neverAgain_iff` — **what the replacements have to find**;
* `Replacement.Delimited.findsOwn_fill` — without delimiters in the values nothing else is found.
-/

import Mathlib.Data.List.Induction
import Mathlib.Data.List.Nodup
import Mathlib.Data.List.Perm.Basic
import Mathlib.Logic.Function.Basic

set_option relaxedAutoImplicit false
set_option autoImplicit false

namespace Replacement

variable {α κ : Type}

/-! ### Symbols with origins -/

/-- A symbol, and its place in the template unless it comes from a value. -/
structure Cell (α : Type) where
  symbol : α
  origin : Option ℕ
  deriving DecidableEq, Repr

/-- The text of cells. -/
def symbols (cells : List (Cell α)) : List α := cells.map Cell.symbol

/-- The text of a value. -/
def inserted (value : List α) : List (Cell α) := value.map fun a => ⟨a, none⟩

/-- Text of the template, from a place on. -/
def place : ℕ → List α → List (Cell α)
  | _, [] => []
  | o, a :: as => ⟨a, some o⟩ :: place (o + 1) as

@[simp] theorem symbols_append (xs ys : List (Cell α)) :
    symbols (xs ++ ys) = symbols xs ++ symbols ys := List.map_append

@[simp] theorem symbols_inserted (value : List α) : symbols (inserted value) = value := by
  rw [symbols, inserted, List.map_map]
  exact List.map_id value

@[simp] theorem symbols_place (o : ℕ) (as : List α) : symbols (place o as) = as := by
  induction as generalizing o with
  | nil => rfl
  | cons a as ih => simpa [symbols, place] using ih (o + 1)

@[simp] theorem length_place (o : ℕ) (as : List α) : (place o as).length = as.length := by
  simpa [symbols] using congrArg List.length (symbols_place o as)

theorem place_append (o : ℕ) (as bs : List α) :
    place o (as ++ bs) = place o as ++ place (o + as.length) bs := by
  induction as generalizing o with
  | nil => rfl
  | cons a as ih =>
      rw [List.cons_append, place, ih, place, List.length_cons, List.cons_append,
        Nat.add_right_comm, Nat.add_assoc]

/-- What a cell of the template knows. -/
theorem mem_place {o q : ℕ} {as : List α} {a : α} (h : (⟨a, some q⟩ : Cell α) ∈ place o as) :
    o ≤ q ∧ as[q - o]? = some a := by
  induction as generalizing o with
  | nil => cases h
  | cons b as ih =>
      rcases List.mem_cons.mp h with hhead | htail
      · obtain ⟨rfl, hq⟩ := Cell.mk.inj hhead
        obtain rfl := Option.some.inj hq
        simp
      · obtain ⟨hle, hget⟩ := ih htail
        refine ⟨by omega, ?_⟩
        rw [show q - o = q - (o + 1) + 1 by omega]
        exact hget

/-! ### Pieces -/

/-- A symbol of the template, or a slot for a name. -/
inductive Piece (α κ : Type) where
  | lit (a : α)
  | slot (key : κ)
  deriving DecidableEq, Repr

section Pieces

variable (needle : κ → List α)

/-- The text of a piece: a slot reads as its placeholder. -/
def Piece.text : Piece α κ → List α
  | .lit a => [a]
  | .slot key => needle key

/-- The text of pieces. -/
def flat (pieces : List (Piece α κ)) : List α := pieces.flatMap (Piece.text needle)

/-- A piece whose slot is filled in if there is a value; `o` is its place in the template. -/
def Piece.cells (values : κ → Option (List α)) (o : ℕ) : Piece α κ → List (Cell α)
  | .lit a => [⟨a, some o⟩]
  | .slot key =>
      match values key with
      | some value => inserted value
      | none => place o (needle key)

/-- The slots filled in at once. -/
def fill (values : κ → Option (List α)) : ℕ → List (Piece α κ) → List (Cell α)
  | _, [] => []
  | o, piece :: pieces =>
      piece.cells needle values o ++ fill values (o + (piece.text needle).length) pieces

/-- The placeholder occurs in the text at a place. -/
def OccursAt (text : List α) (key : κ) (p : ℕ) : Prop := needle key <+: text.drop p

/-- Every placeholder that occurs is a slot. -/
def Complete (keys : List κ) (pieces : List (Piece α κ)) : Prop :=
  ∀ key ∈ keys, ∀ p, OccursAt needle (flat needle pieces) key p →
    ∃ before after, pieces = before ++ .slot key :: after ∧ (flat needle before).length = p

/-- No two placeholders overlap. -/
def Apart (keys : List κ) (text : List α) : Prop :=
  ∀ key ∈ keys, ∀ key' ∈ keys, ∀ p p', OccursAt needle text key p → OccursAt needle text key' p' →
    p ≤ p' → p = p' ∧ key = key' ∨ p + (needle key).length ≤ p'

variable {needle}

/-- Without values the pieces read as the template. -/
theorem fill_none (o : ℕ) (pieces : List (Piece α κ)) :
    fill needle (fun _ => none) o pieces = place o (flat needle pieces) := by
  induction pieces generalizing o with
  | nil => rfl
  | cons piece pieces ih =>
      have hcells : piece.cells needle (fun _ => none) o = place o (piece.text needle) := by
        cases piece <;> rfl
      rw [fill, ih, hcells, ← place_append]
      rfl

/-- A cell of the template stands in the text of its piece. -/
theorem Piece.mem_cells {values : κ → Option (List α)} {o q : ℕ} {piece : Piece α κ} {a : α}
    (h : ⟨a, some q⟩ ∈ piece.cells needle values o) :
    o ≤ q ∧ (piece.text needle)[q - o]? = some a := by
  cases piece with
  | lit b => exact mem_place h
  | slot key =>
      rw [cells] at h
      split at h
      next value _ =>
        obtain ⟨b, -, hcell⟩ := List.mem_map.mp h
        cases hcell
      next => exact mem_place h

/-- A cell of the template stands in the template. -/
theorem mem_fill {values : κ → Option (List α)} {o q : ℕ} {pieces : List (Piece α κ)} {a : α}
    (h : ⟨a, some q⟩ ∈ fill needle values o pieces) :
    o ≤ q ∧ (flat needle pieces)[q - o]? = some a := by
  induction pieces generalizing o with
  | nil => cases h
  | cons piece pieces ih =>
      have hflat : flat needle (piece :: pieces) = piece.text needle ++ flat needle pieces := rfl
      rw [hflat]
      rcases List.mem_append.mp h with hhead | htail
      · obtain ⟨hle, hget⟩ := Piece.mem_cells hhead
        refine ⟨hle, ?_⟩
        obtain ⟨hlt, -⟩ := List.getElem?_eq_some_iff.mp hget
        rwa [List.getElem?_append_left hlt]
      · obtain ⟨hle, hget⟩ := ih htail
        refine ⟨by omega, ?_⟩
        rw [List.getElem?_append_right (by omega)]
        rwa [Nat.sub_sub]

/-- A window of the template's own cells occurs in the template. -/
theorem prefix_of_place {text window : List α} {o q : ℕ} (hne : window ≠ [])
    (h : ∀ a p, (⟨a, some p⟩ : Cell α) ∈ place q window → o ≤ p ∧ text[p - o]? = some a) :
    o ≤ q ∧ window <+: text.drop (q - o) := by
  have hplace : ∀ (i : ℕ) (hi : i < window.length),
      (⟨window[i], some (q + i)⟩ : Cell α) ∈ place q window := by
    clear h hne
    induction window generalizing q with
    | nil => simp
    | cons a window ih =>
        intro i hi
        cases i with
        | zero => exact List.mem_cons_self
        | succ i =>
            have hmem := ih (q := q + 1) i (Nat.lt_of_succ_lt_succ hi)
            rw [Nat.add_right_comm, Nat.add_assoc] at hmem
            exact List.mem_cons_of_mem _ hmem
  have hpos : 0 < window.length := List.length_pos_iff.mpr hne
  have hle : o ≤ q := by simpa using (h _ _ (hplace 0 hpos)).1
  refine ⟨hle, List.prefix_iff_getElem?.mpr fun i hi => ?_⟩
  have hget := (h _ _ (hplace i hi)).2
  rw [List.getElem?_drop, ← hget]
  congr 1
  omega

theorem occursAt_drop {as : List α} {key : κ} {n p : ℕ} :
    OccursAt needle (as.drop n) key p ↔ OccursAt needle as key (n + p) := by
  unfold OccursAt
  rw [List.drop_drop]

/-- Placeholders that are apart stay so in the rest of the text. -/
theorem Apart.drop {keys : List κ} {as : List α} (h : Apart needle keys as) (n : ℕ) :
    Apart needle keys (as.drop n) := by
  intro key hkey key' hkey' p p' hoccurs hoccurs' hle
  rw [occursAt_drop] at hoccurs hoccurs'
  rcases h key hkey key' hkey' _ _ hoccurs hoccurs' (by omega) with ⟨heq, hsame⟩ | hbehind
  · exact .inl ⟨by omega, hsame⟩
  · exact .inr (by omega)

theorem flat_cons (piece : Piece α κ) (pieces : List (Piece α κ)) :
    flat needle (piece :: pieces) = piece.text needle ++ flat needle pieces := rfl

theorem flat_append (before after : List (Piece α κ)) :
    flat needle (before ++ after) = flat needle before ++ flat needle after := List.flatMap_append

/-- A placeholder of a complete reading is its first piece or stands behind it. -/
theorem Complete.cases_of_occursAt {keys : List κ} {piece : Piece α κ} {pieces : List (Piece α κ)}
    (h : Complete needle keys (piece :: pieces)) {key : κ} (hkey : key ∈ keys) {p : ℕ}
    (hoccurs : OccursAt needle (flat needle (piece :: pieces)) key p) :
    piece = .slot key ∧ p = 0 ∨ ∃ before after, pieces = before ++ .slot key :: after ∧
      p = (piece.text needle).length + (flat needle before).length := by
  obtain ⟨before, after, hpieces, hlength⟩ := h key hkey p hoccurs
  cases before with
  | nil => exact .inl ⟨(List.cons.inj hpieces).1, hlength.symm⟩
  | cons first before =>
      obtain ⟨rfl, hrest⟩ := List.cons.inj hpieces
      refine .inr ⟨before, after, hrest, ?_⟩
      rw [← hlength, flat_cons, List.length_append]

/-- What is complete stays so without its first piece. -/
theorem Complete.tail {keys : List κ} {piece : Piece α κ} {pieces : List (Piece α κ)}
    (hpiece : piece.text needle ≠ []) (h : Complete needle keys (piece :: pieces)) :
    Complete needle keys pieces := by
  intro key hkey p hoccurs
  have hoccurs' : OccursAt needle (flat needle (piece :: pieces)) key
      ((piece.text needle).length + p) := by
    unfold OccursAt at hoccurs ⊢
    rwa [flat_cons, List.drop_length_add_append]
  have hpos : 0 < (piece.text needle).length := List.length_pos_iff.mpr hpiece
  rcases h.cases_of_occursAt hkey hoccurs' with ⟨-, hzero⟩ | ⟨before, after, hpieces, hlength⟩
  · omega
  · exact ⟨before, after, hpieces, by omega⟩

end Pieces

/-! ### Delimited placeholders -/

/-- Placeholders are names between two delimiters that occur in no name. -/
structure Delimited (needle : κ → List α) (keys : List κ) (left right : α) (name : κ → List α) :
    Prop where
  needle_eq : ∀ key, needle key = left :: (name key ++ [right])
  left_ne_right : left ≠ right
  left_notMem : ∀ key ∈ keys, left ∉ name key
  right_notMem : ∀ key ∈ keys, right ∉ name key
  injective : Function.Injective name

/-- What stands before the first `c` of a text is determined. -/
theorem eq_of_append_cons {c : α} {xs ys rest rest' : List α} (hxs : c ∉ xs) (hys : c ∉ ys)
    (h : xs ++ c :: rest = ys ++ c :: rest') : xs = ys := by
  rcases List.append_eq_append_iff.mp h with ⟨between, rfl, hbetween⟩ | ⟨between, rfl, hbetween⟩
  all_goals
    cases between with
    | nil => simp
    | cons d between =>
        obtain ⟨rfl, -⟩ := List.cons.inj hbetween
        simp at hxs hys

section Delimited

variable {needle : κ → List α} {keys : List κ} {left right : α} {name : κ → List α}

theorem Delimited.ne_nil (h : Delimited needle keys left right name) (key : κ) :
    needle key ≠ [] := by
  rw [h.needle_eq]
  exact List.cons_ne_nil _ _

/-- Two placeholders at one place are one. -/
theorem Delimited.eq_of_prefix (h : Delimited needle keys left right name) {key key' : κ}
    (hkey : key ∈ keys) (hkey' : key' ∈ keys) {text : List α} (hstarts : needle key <+: text)
    (hstarts' : needle key' <+: text) : key = key' := by
  obtain ⟨rest, rfl⟩ := hstarts
  obtain ⟨rest', hrest'⟩ := hstarts'
  rw [h.needle_eq, h.needle_eq, List.cons_append, List.cons_append, List.append_assoc,
    List.append_assoc] at hrest'
  exact (h.injective (eq_of_append_cons (h.right_notMem key' hkey') (h.right_notMem key hkey)
    (List.cons.inj hrest').2)).symm

/-- A placeholder starts only where its left delimiter stands. -/
theorem Delimited.head_eq (h : Delimited needle keys left right name) {key : κ} {a : α}
    {text : List α} (hstarts : needle key <+: a :: text) : a = left := by
  rw [h.needle_eq] at hstarts
  obtain ⟨rest, hrest⟩ := hstarts
  exact (List.cons.inj hrest).1.symm

/-- Behind its first symbol no placeholder starts. -/
theorem Delimited.not_prefix_of_suffix (h : Delimited needle keys left right name) {key key' : κ}
    (hkey : key ∈ keys) {a b rest : List α} (hsplit : needle key = a ++ b) (ha : a ≠ [])
    (hb : b ≠ []) : ¬needle key' <+: b ++ rest := by
  intro hstarts
  obtain ⟨c, b, rfl⟩ := List.exists_cons_of_ne_nil hb
  obtain ⟨d, a, rfl⟩ := List.exists_cons_of_ne_nil ha
  obtain rfl := h.head_eq hstarts
  rw [h.needle_eq] at hsplit
  have hmem : c ∈ name key ++ [right] := by
    rw [(List.cons.inj hsplit).2]
    simp
  rcases List.mem_append.mp hmem with hname | hright
  · exact h.left_notMem key hkey hname
  · exact h.left_ne_right (List.mem_singleton.mp hright)

/-- Delimited placeholders do not overlap. -/
theorem Delimited.apart (h : Delimited needle keys left right name) (text : List α) :
    Apart needle keys text := by
  intro key hkey key' hkey' p p' hoccurs hoccurs' hle
  by_cases heq : p = p'
  · subst heq
    exact .inl ⟨rfl, h.eq_of_prefix hkey hkey' hoccurs hoccurs'⟩
  refine .inr (Nat.le_of_not_lt fun hlt => ?_)
  obtain ⟨rest, hrest⟩ := hoccurs
  have hdrop : text.drop p' = (needle key).drop (p' - p) ++ rest := by
    rw [show p' = p + (p' - p) by omega, ← List.drop_drop, ← hrest,
      List.drop_append_of_le_length (by omega), Nat.add_sub_cancel_left]
  unfold OccursAt at hoccurs'
  rw [hdrop] at hoccurs'
  refine h.not_prefix_of_suffix hkey (List.take_append_drop (p' - p) (needle key)).symm ?_ ?_
    hoccurs'
  · rw [ne_eq, ← List.length_eq_zero_iff, List.length_take]
    omega
  · rw [ne_eq, ← List.length_eq_zero_iff, List.length_drop]
    omega

end Delimited

/-! ### Replacement -/

variable [DecidableEq α]

/-- Every occurrence of the needle from left to right; the number counts the cells that still belong
to the last one. -/
def replace (needle : List α) (replacement : List (Cell α)) : ℕ → List (Cell α) → List (Cell α)
  | _, [] => []
  | 0, cell :: rest =>
      if needle.isPrefixOf (symbols (cell :: rest)) then
        replacement ++ replace needle replacement (needle.length - 1) rest
      else cell :: replace needle replacement 0 rest
  | skipped + 1, _ :: rest => replace needle replacement skipped rest

/-- The cells stand side by side in the template. -/
def Own (cells : List (Cell α)) : Prop := ∃ p, cells = place p (symbols cells)

/-- Every occurrence that the replacement finds is the template's own. -/
def FindsOwn (needle : List α) : ℕ → List (Cell α) → Prop
  | _, [] => True
  | 0, cell :: rest =>
      if needle.isPrefixOf (symbols (cell :: rest)) then
        Own ((cell :: rest).take needle.length) ∧ FindsOwn needle (needle.length - 1) rest
      else FindsOwn needle 0 rest
  | skipped + 1, _ :: rest => FindsOwn needle skipped rest

section Scan

variable {needle : List α} {replacement xs ys : List (Cell α)}

/-- The cells of an occurrence are passed over. -/
theorem replace_skip (xs ys : List (Cell α)) :
    replace needle replacement xs.length (xs ++ ys) = replace needle replacement 0 ys := by
  induction xs with
  | nil => rfl
  | cons cell xs ih => exact ih

theorem findsOwn_skip (xs ys : List (Cell α)) :
    FindsOwn needle xs.length (xs ++ ys) ↔ FindsOwn needle 0 ys := by
  induction xs with
  | nil => rfl
  | cons cell xs ih => exact ih

/-- An occurrence at the front is replaced. -/
theorem replace_of_occurrence (hne : needle ≠ []) (hxs : symbols xs = needle) :
    replace needle replacement 0 (xs ++ ys) = replacement ++ replace needle replacement 0 ys := by
  obtain _ | ⟨cell, xs⟩ := xs
  · exact absurd hxs.symm hne
  have hstarts : needle.isPrefixOf (symbols (cell :: (xs ++ ys))) := by
    rw [List.isPrefixOf_iff_prefix, ← hxs, ← List.cons_append, symbols_append]
    exact List.prefix_append _ _
  have hlength : needle.length - 1 = xs.length := by
    rw [← hxs]
    simp [symbols]
  rw [List.cons_append, replace, if_pos hstarts, hlength, replace_skip]

/-- An occurrence at the front is the template's own when the scan finds only such. -/
theorem findsOwn_of_occurrence (hne : needle ≠ []) (hxs : symbols xs = needle) :
    FindsOwn needle 0 (xs ++ ys) ↔ Own xs ∧ FindsOwn needle 0 ys := by
  obtain _ | ⟨cell, xs⟩ := xs
  · exact absurd hxs.symm hne
  have hstarts : needle.isPrefixOf (symbols (cell :: (xs ++ ys))) := by
    rw [List.isPrefixOf_iff_prefix, ← hxs, ← List.cons_append, symbols_append]
    exact List.prefix_append _ _
  have hlength : needle.length = (cell :: xs).length := by
    rw [← hxs]
    simp [symbols]
  have htake : (cell :: (xs ++ ys)).take needle.length = cell :: xs := by
    rw [hlength, ← List.cons_append]
    exact List.take_left
  rw [List.cons_append, FindsOwn, if_pos hstarts, htake,
    show needle.length - 1 = xs.length by rw [hlength]; rfl, findsOwn_skip]

/-- Cells at which nothing is found are passed over. -/
theorem findsOwn_append (h : ∀ a b, xs = a ++ b → b ≠ [] → ¬needle <+: symbols (b ++ ys))
    (hys : FindsOwn needle 0 ys) : FindsOwn needle 0 (xs ++ ys) := by
  induction xs with
  | nil => exact hys
  | cons cell xs ih =>
      have hnot : ¬needle.isPrefixOf (symbols (cell :: (xs ++ ys))) := by
        rw [List.isPrefixOf_iff_prefix]
        exact h [] (cell :: xs) rfl (by simp)
      rw [List.cons_append, FindsOwn, if_neg hnot]
      exact ih fun a b hxs => h (cell :: a) b (by rw [hxs]; rfl)

/-- Cells at which none of the template's own placeholders starts are passed over. -/
theorem scan_append (h : ∀ a b, xs = a ++ b → b ≠ [] →
      needle.isPrefixOf (symbols (b ++ ys)) → ¬Own ((b ++ ys).take needle.length))
    (hown : FindsOwn needle 0 (xs ++ ys)) :
    replace needle replacement 0 (xs ++ ys) = xs ++ replace needle replacement 0 ys ∧
      FindsOwn needle 0 ys := by
  induction xs with
  | nil => exact ⟨rfl, hown⟩
  | cons cell xs ih =>
      have hnot : ¬needle.isPrefixOf (symbols (cell :: (xs ++ ys))) := by
        intro hstarts
        rw [List.cons_append, FindsOwn, if_pos hstarts] at hown
        exact h [] (cell :: xs) rfl (by simp) hstarts hown.1
      rw [List.cons_append, FindsOwn, if_neg hnot] at hown
      obtain ⟨hreplace, hrest⟩ := ih (fun a b hxs => h (cell :: a) b (by rw [hxs]; rfl)) hown
      refine ⟨?_, hrest⟩
      rw [List.cons_append, replace, if_neg hnot, hreplace]
      rfl

end Scan

/-! ### One after the other -/

section Run

variable (needle : κ → List α)

/-- The replacements one after the other. -/
def run (cells : List (Cell α)) (assignments : List (κ × List α)) : List (Cell α) :=
  assignments.foldl (fun cells entry => replace (needle entry.1) (inserted entry.2) 0 cells) cells

/-- None of the replacements finds anything but the template's own placeholders. -/
def NeverAgain : List (Cell α) → List (κ × List α) → Prop
  | _, [] => True
  | cells, entry :: rest =>
      FindsOwn (needle entry.1) 0 cells ∧
        NeverAgain (replace (needle entry.1) (inserted entry.2) 0 cells) rest

theorem neverAgain_append (cells : List (Cell α)) (before after : List (κ × List α)) :
    NeverAgain needle cells (before ++ after) ↔
      NeverAgain needle cells before ∧ NeverAgain needle (run needle cells before) after := by
  induction before generalizing cells with
  | nil => simp [NeverAgain, run]
  | cons entry before ih =>
      rw [List.cons_append, NeverAgain, NeverAgain, ih, and_assoc]
      rfl

end Run

section Values

variable [DecidableEq κ]

/-- The values of some names. -/
def assigned (assignments : List (κ × List α)) : κ → Option (List α) :=
  assignments.foldl (fun values entry => Function.update values entry.1 (some entry.2))
    fun _ => none

end Values

/-! ### Replacing and filling in -/

section Fill

variable {needle : κ → List α}

/-- The cells of an occurrence that is the template's own. -/
theorem Own.eq_place {needle : List α} {cells : List (Cell α)}
    (hstarts : needle.isPrefixOf (symbols cells)) (h : Own (cells.take needle.length)) :
    ∃ q, cells.take needle.length = place q needle := by
  obtain ⟨q, hwindow⟩ := h
  have hsymbols : symbols (cells.take needle.length) = needle := by
    rw [symbols, List.map_take]
    exact (List.prefix_iff_eq_take.mp (List.isPrefixOf_iff_prefix.mp hstarts)).symm
  rw [hsymbols] at hwindow
  exact ⟨q, hwindow⟩

/-- No placeholder of a name starts in another piece of a complete reading. -/
theorem Complete.not_own {keys : List κ} {key : κ} (hkey : key ∈ keys) (hneedle : needle key ≠ [])
    {values : κ → Option (List α)} {o : ℕ} {piece : Piece α κ} {pieces : List (Piece α κ)}
    (hcomplete : Complete needle keys (piece :: pieces)) (hslot : piece ≠ .slot key)
    {a b ys : List (Cell α)} (hab : piece.cells needle values o = a ++ b) (hb : b ≠ [])
    (hys : ys = fill needle values (o + (piece.text needle).length) pieces)
    (hstarts : (needle key).isPrefixOf (symbols (b ++ ys))) :
    ¬Own ((b ++ ys).take (needle key).length) := by
  intro hown
  obtain ⟨q, hwindow⟩ := hown.eq_place hstarts
  -- the occurrence stands in the template, behind the piece
  have hmem : ∀ cell ∈ place q (needle key), cell ∈ fill needle values o (piece :: pieces) := by
    intro cell hcell
    rw [← hwindow] at hcell
    rw [fill, hab, ← hys, List.append_assoc]
    exact List.mem_append_right _ (List.mem_of_mem_take hcell)
  obtain ⟨hle, hoccurs⟩ := prefix_of_place (o := o) hneedle fun c p hcell => mem_fill (hmem _ hcell)
  have hbehind : (piece.text needle).length ≤ q - o := by
    rcases hcomplete.cases_of_occursAt hkey hoccurs with ⟨heq, -⟩ | ⟨before, after, -, hlength⟩
    · exact absurd heq hslot
    · omega
  -- but it starts in the piece
  obtain ⟨first, b, rfl⟩ := List.exists_cons_of_ne_nil hb
  obtain ⟨symbol, rest, hsymbol⟩ := List.exists_cons_of_ne_nil hneedle
  rw [hsymbol, place, List.length_cons, List.cons_append, List.take_succ_cons] at hwindow
  obtain ⟨rfl, -⟩ := List.cons.inj hwindow
  have hfirst : (⟨symbol, some q⟩ : Cell α) ∈ piece.cells needle values o := by
    rw [hab]
    exact List.mem_append_right _ List.mem_cons_self
  obtain ⟨hlt, -⟩ := List.getElem?_eq_some_iff.mp (Piece.mem_cells hfirst).2
  omega

variable [DecidableEq κ]

/-- A replacement that finds the template's own placeholders fills the slots of its name. -/
theorem replace_fill (hneedle : ∀ key, needle key ≠ []) {keys : List κ} {key : κ}
    (hkey : key ∈ keys) {values : κ → Option (List α)} (hvalues : values key = none)
    (value : List α) {o : ℕ}
    {pieces : List (Piece α κ)} (hcomplete : Complete needle keys pieces)
    (hown : FindsOwn (needle key) 0 (fill needle values o pieces)) :
    replace (needle key) (inserted value) 0 (fill needle values o pieces) =
      fill needle (Function.update values key (some value)) o pieces := by
  induction pieces generalizing o with
  | nil => rfl
  | cons piece pieces ih =>
      have hpiece : piece.text needle ≠ [] := by
        cases piece with
        | lit a => simp [Piece.text]
        | slot other => exact hneedle other
      have htail := hcomplete.tail hpiece
      rw [fill] at hown ⊢
      by_cases hslot : piece = .slot key
      · -- the placeholder is found and replaced
        subst hslot
        have hcells : Piece.cells needle values o (.slot key) = place o (needle key) := by
          rw [Piece.cells, hvalues]
        have hfilled : Piece.cells needle (Function.update values key (some value)) o (.slot key) =
            inserted value := by
          rw [Piece.cells, Function.update_self]
        rw [hcells] at hown ⊢
        obtain ⟨-, hrest⟩ := (findsOwn_of_occurrence (hneedle key) (symbols_place o _)).mp hown
        rw [replace_of_occurrence (hneedle key) (symbols_place o _), fill, hfilled]
        exact congrArg _ (ih htail hrest)
      · -- no placeholder of the name starts in the piece
        have hcells : piece.cells needle (Function.update values key (some value)) o =
            piece.cells needle values o := by
          cases piece with
          | lit a => rfl
          | slot other =>
              have hne : other ≠ key := fun heq => hslot (by rw [heq])
              rw [Piece.cells, Piece.cells, Function.update_of_ne hne]
        obtain ⟨hreplace, hrest⟩ := scan_append
          (fun a b hab hb hstarts =>
            hcomplete.not_own hkey (hneedle key) hslot hab hb rfl hstarts) hown
        rw [hreplace, fill, hcells]
        exact congrArg _ (ih htail hrest)

/-- Replacements that find the template's own placeholders fill the slots of their names. -/
theorem run_fill (hneedle : ∀ key, needle key ≠ []) {keys : List κ} {pieces : List (Piece α κ)}
    (hcomplete : Complete needle keys pieces) {o : ℕ} {assignments : List (κ × List α)}
    (hkeys : ∀ entry ∈ assignments, entry.1 ∈ keys) (hnodup : (assignments.map Prod.fst).Nodup)
    {values : κ → Option (List α)} (hvalues : ∀ entry ∈ assignments, values entry.1 = none)
    (hown : NeverAgain needle (fill needle values o pieces) assignments) :
    run needle (fill needle values o pieces) assignments =
      fill needle (assignments.foldl (fun values entry =>
        Function.update values entry.1 (some entry.2)) values) o pieces := by
  induction assignments generalizing values with
  | nil => rfl
  | cons entry assignments ih =>
      rw [List.map_cons, List.nodup_cons] at hnodup
      have hstep := replace_fill hneedle (hkeys entry List.mem_cons_self)
        (hvalues entry List.mem_cons_self) entry.2 hcomplete hown.1
      obtain ⟨-, hrest⟩ := hown
      rw [hstep] at hrest
      have hrun := ih (fun other hother => hkeys other (List.mem_cons_of_mem _ hother)) hnodup.2
        (fun other hother => by
          have hne : other.1 ≠ entry.1 := fun heq =>
            hnodup.1 (List.mem_map.mpr ⟨other, hother, heq⟩)
          rw [Function.update_of_ne hne]
          exact hvalues other (List.mem_cons_of_mem _ hother)) hrest
      rw [List.foldl_cons, ← hrun, ← hstep]
      rfl

end Fill

/-! ### Reading a template -/

section Read

variable (needle : κ → List α)

/-- The pieces of a text from left to right; the number counts the symbols that still belong to the
last placeholder. -/
def read (keys : List κ) : ℕ → List α → List (Piece α κ)
  | _, [] => []
  | 0, a :: rest =>
      match keys.find? fun key => (needle key).isPrefixOf (a :: rest) with
      | some key => .slot key :: read keys ((needle key).length - 1) rest
      | none => .lit a :: read keys 0 rest
  | skipped + 1, _ :: rest => read keys skipped rest

variable {needle} {keys : List κ}

/-- The symbols of a placeholder are passed over. -/
theorem read_skip (n : ℕ) (as : List α) :
    read needle keys n as = read needle keys 0 (as.drop n) := by
  induction n generalizing as with
  | zero => rfl
  | succ n ih =>
      cases as with
      | nil => rfl
      | cons a as => exact ih as

/-- A text starts with a placeholder, or with a symbol at which none starts. -/
theorem read_cases (hneedle : ∀ key, needle key ≠ []) (a : α) (rest : List α) :
    (∃ key ∈ keys, needle key <+: a :: rest ∧ read needle keys 0 (a :: rest) =
        .slot key :: read needle keys 0 ((a :: rest).drop (needle key).length)) ∨
      (∀ key ∈ keys, ¬needle key <+: a :: rest) ∧
        read needle keys 0 (a :: rest) = .lit a :: read needle keys 0 rest := by
  cases hfind : keys.find? fun key => (needle key).isPrefixOf (a :: rest) with
  | none =>
      refine .inr ⟨fun key hkey hstarts => ?_, by rw [read, hfind]⟩
      exact List.find?_eq_none.mp hfind key hkey (List.isPrefixOf_iff_prefix.mpr hstarts)
  | some key =>
      refine .inl ⟨key, List.mem_of_find?_eq_some hfind,
        List.isPrefixOf_iff_prefix.mp (List.find?_some (p := fun key =>
          (needle key).isPrefixOf (a :: rest)) hfind), ?_⟩
      have hpos : 0 < (needle key).length := List.length_pos_iff.mpr (hneedle key)
      have hdrop : (a :: rest).drop (needle key).length = rest.drop ((needle key).length - 1) := by
        conv_lhs => rw [show (needle key).length = (needle key).length - 1 + 1 by omega]
        exact List.drop_succ_cons
      rw [read, hfind, hdrop, ← read_skip]

/-- The slots of a text are for the names it is read with. -/
theorem mem_keys_of_slot_mem (n : ℕ) {key : κ} {as : List α}
    (h : .slot key ∈ read needle keys n as) : key ∈ keys := by
  induction as generalizing n with
  | nil => cases n <;> cases h
  | cons a rest ih =>
      cases n with
      | succ n => exact ih n h
      | zero =>
          rw [read] at h
          split at h
          next other hfind =>
            rcases List.mem_cons.mp h with heq | hmem
            · rw [Piece.slot.inj heq]
              exact List.mem_of_find?_eq_some hfind
            · exact ih _ hmem
          next =>
            rcases List.mem_cons.mp h with heq | hmem
            · cases heq
            · exact ih _ hmem

/-- The pieces of a text make up the text. -/
theorem flat_read (hneedle : ∀ key, needle key ≠ []) (as : List α) :
    flat needle (read needle keys 0 as) = as := by
  induction hlength : as.length using Nat.strongRecOn generalizing as with
  | ind n ih =>
      cases as with
      | nil => rfl
      | cons a rest =>
          rcases @read_cases _ _ _ needle keys hneedle a rest with
            ⟨key, -, hstarts, hread⟩ | ⟨-, hread⟩
          · have hpos : 0 < (needle key).length := List.length_pos_iff.mpr (hneedle key)
            have hlt : ((a :: rest).drop (needle key).length).length < n := by
              rw [List.length_drop, hlength]
              have := @List.length_cons _ a rest
              omega
            rw [hread, flat_cons, ih _ hlt _ rfl]
            obtain ⟨tail, htail⟩ := hstarts
            rw [← htail, List.drop_left]
            rfl
          · have hlt : rest.length < n := by
              rw [← hlength]
              exact Nat.lt_succ_self _
            rw [hread, flat_cons, ih _ hlt _ rfl]
            rfl

/-- Placeholders that are apart are all read. -/
theorem Apart.complete_read (hneedle : ∀ key, needle key ≠ []) {as : List α}
    (h : Apart needle keys as) : Complete needle keys (read needle keys 0 as) := by
  induction hlength : as.length using Nat.strongRecOn generalizing as with
  | ind n ih =>
      intro key' hkey' p hoccurs
      rw [flat_read hneedle] at hoccurs
      cases as with
      | nil => exact absurd (List.prefix_nil.mp (List.drop_nil ▸ hoccurs)) (hneedle key')
      | cons a rest =>
          rcases @read_cases _ _ _ needle keys hneedle a rest with
            ⟨key, hkey, hstarts, hread⟩ | ⟨hnone, hread⟩
          · have hpos : 0 < (needle key).length := List.length_pos_iff.mpr (hneedle key)
            rcases h key hkey key' hkey' 0 p hstarts hoccurs (Nat.zero_le p) with
              ⟨rfl, rfl⟩ | hbehind
            · exact ⟨[], _, hread, rfl⟩
            · rw [Nat.zero_add] at hbehind
              have hlt : ((a :: rest).drop (needle key).length).length < n := by
                rw [List.length_drop, hlength]
                have := @List.length_cons _ a rest
                omega
              have hrest : OccursAt needle ((a :: rest).drop (needle key).length) key'
                  (p - (needle key).length) := by
                rw [occursAt_drop]
                rwa [Nat.add_sub_cancel' hbehind]
              obtain ⟨before, after, hpieces, hplace⟩ :=
                ih _ hlt (h.drop _) rfl key' hkey' _ (by rwa [flat_read hneedle])
              refine ⟨.slot key :: before, after, by rw [hread, hpieces]; rfl, ?_⟩
              rw [flat_cons, List.length_append, hplace]
              exact Nat.add_sub_cancel' hbehind
          · cases p with
            | zero => exact absurd hoccurs (hnone key' hkey')
            | succ p =>
                have hlt : rest.length < n := by
                  rw [← hlength]
                  exact Nat.lt_succ_self _
                have hapart : Apart needle keys rest := h.drop 1
                obtain ⟨before, after, hpieces, hplace⟩ :=
                  ih _ hlt hapart rfl key' hkey' p (by rwa [flat_read hneedle])
                refine ⟨.lit a :: before, after, by rw [hread, hpieces]; rfl, ?_⟩
                rw [flat_cons, List.length_append, hplace, Nat.add_comm]
                rfl

/-- The placeholders of a text can all be slots exactly when no two of them overlap. -/
theorem complete_read_iff (hneedle : ∀ key, needle key ≠ []) {as : List α} :
    Complete needle keys (read needle keys 0 as) ↔ Apart needle keys as := by
  refine ⟨fun h key hkey key' hkey' p p' hoccurs hoccurs' hle => ?_,
    fun h => h.complete_read hneedle⟩
  obtain ⟨before, after, hpieces, hplace⟩ := h key hkey p (by rwa [flat_read hneedle])
  obtain ⟨before', after', hpieces', hplace'⟩ := h key' hkey' p' (by rwa [flat_read hneedle])
  have hsplit := hpieces.symm.trans hpieces'
  rcases List.append_eq_append_iff.mp hsplit with ⟨between, hbefore', hslot⟩ |
    ⟨between, hbefore, hslot⟩
  · cases between with
    | nil =>
        obtain ⟨hpiece, -⟩ := List.cons.inj hslot
        rw [List.append_nil] at hbefore'
        exact .inl ⟨by rw [← hplace, ← hplace', hbefore'], Piece.slot.inj hpiece⟩
    | cons piece between =>
        obtain ⟨rfl, -⟩ := List.cons.inj hslot
        rw [hbefore', flat_append, flat_cons, List.length_append, List.length_append, hplace]
          at hplace'
        exact .inr (by rw [← hplace']; exact Nat.add_le_add_left (Nat.le_add_right _ _) p)
  · cases between with
    | nil =>
        obtain ⟨hpiece, -⟩ := List.cons.inj hslot
        rw [List.append_nil] at hbefore
        exact .inl ⟨by rw [← hplace, ← hplace', hbefore], (Piece.slot.inj hpiece).symm⟩
    | cons piece between =>
        obtain ⟨rfl, -⟩ := List.cons.inj hslot
        rw [hbefore, flat_append, flat_cons, List.length_append, List.length_append, hplace']
          at hplace
        have hpos : 0 < (needle key').length := List.length_pos_iff.mpr (hneedle key')
        change p' + ((needle key').length + _) = p at hplace
        omega

end Read

/-! ### Every order -/

section Orders

variable [DecidableEq κ] {needle : κ → List α} {keys : List κ} {pieces : List (Piece α κ)}
variable {assignments : List (κ × List α)}

omit [DecidableEq α] in
/-- Different names may be assigned in any order. -/
theorem assigned_perm {order : List (κ × List α)} (hperm : order.Perm assignments)
    (hnodup : (assignments.map Prod.fst).Nodup) : assigned order = assigned assignments := by
  refine hperm.foldl_eq' (fun entry hentry other hother values => ?_) _
  by_cases hkey : entry.1 = other.1
  · have hnodup' : (order.map Prod.fst).Nodup := (hperm.map Prod.fst).nodup_iff.mpr hnodup
    rw [List.inj_on_of_nodup_map hnodup' hentry hother hkey]
  · exact Function.update_comm hkey _ _ _

omit [DecidableEq α] in
/-- An assigned value is one of the given ones. -/
theorem mem_of_assigned {key : κ} {value : List α} (h : assigned assignments key = some value) :
    (key, value) ∈ assignments := by
  induction assignments using List.reverseRecOn with
  | nil => cases h
  | append_singleton assignments last ih =>
      rw [assigned, List.foldl_append] at h
      by_cases hkey : key = last.1
      · subst hkey
        obtain rfl : last.2 = value := by simpa using h
        simp
      · refine List.mem_append_left _ (ih ?_)
        rwa [List.foldl_cons, List.foldl_nil, Function.update_of_ne hkey] at h

/-- Replacements that find nothing but the template's own placeholders come to the same as filling
in the slots at once. -/
theorem run_eq_fill (hneedle : ∀ key, needle key ≠ []) (hcomplete : Complete needle keys pieces)
    (hkeys : ∀ entry ∈ assignments, entry.1 ∈ keys) (hnodup : (assignments.map Prod.fst).Nodup)
    (hown : NeverAgain needle (place 0 (flat needle pieces)) assignments) :
    run needle (place 0 (flat needle pieces)) assignments =
      fill needle (assigned assignments) 0 pieces := by
  rw [← fill_none] at hown ⊢
  exact run_fill hneedle hcomplete hkeys hnodup (fun _ _ => rfl) hown

/-- **What the replacements have to find**: when the names before it have been filled in, every name
is found only where the template has it. -/
theorem neverAgain_iff (hneedle : ∀ key, needle key ≠ []) (hcomplete : Complete needle keys pieces)
    (hkeys : ∀ entry ∈ assignments, entry.1 ∈ keys) (hnodup : (assignments.map Prod.fst).Nodup) :
    NeverAgain needle (place 0 (flat needle pieces)) assignments ↔
      ∀ before entry after, assignments = before ++ entry :: after →
        FindsOwn (needle entry.1) 0 (fill needle (assigned before) 0 pieces) := by
  constructor
  · rintro hnever before entry after rfl
    rw [List.map_append] at hnodup
    obtain ⟨hbefore, hrest⟩ := (neverAgain_append needle _ _ _).mp hnever
    rw [run_eq_fill hneedle hcomplete
      (fun other hother => hkeys other (List.mem_append_left _ hother)) hnodup.of_append_left
      hbefore] at hrest
    exact hrest.1
  · intro hfinds
    induction assignments using List.reverseRecOn with
    | nil => trivial
    | append_singleton assignments last ih =>
        rw [List.map_append] at hnodup
        have hkeys' : ∀ entry ∈ assignments, entry.1 ∈ keys :=
          fun entry hentry => hkeys entry (List.mem_append_left _ hentry)
        have hbefore := ih hkeys' hnodup.of_append_left fun before entry after hsplit => by
          refine hfinds before entry (after ++ [last]) ?_
          rw [hsplit, List.append_assoc]
          rfl
        rw [neverAgain_append,
          run_eq_fill hneedle hcomplete hkeys' hnodup.of_append_left hbefore]
        exact ⟨hbefore, hfinds assignments last [] rfl, trivial⟩

end Orders

/-! ### Values without delimiters -/

/-- Delimited placeholders are found only in the template, when the left delimiter stands in no
value and in the template only before a name. -/
theorem Delimited.findsOwn_fill {needle : κ → List α} {keys : List κ} {left right : α}
    {name : κ → List α} (h : Delimited needle keys left right name) {key : κ} (hkey : key ∈ keys)
    {values : κ → Option (List α)}
    (hvalues : ∀ other value, values other = some value → left ∉ value)
    {pieces : List (Piece α κ)} (hlits : ∀ a, .lit a ∈ pieces → a ≠ left)
    (hslots : ∀ other, .slot other ∈ pieces → other ∈ keys) {o : ℕ} :
    FindsOwn (needle key) 0 (fill needle values o pieces) := by
  induction pieces generalizing o with
  | nil => trivial
  | cons piece pieces ih =>
      have hrest := ih (o := o + (piece.text needle).length)
        (fun a ha => hlits a (List.mem_cons_of_mem _ ha))
        fun other hother => hslots other (List.mem_cons_of_mem _ hother)
      rw [fill]
      generalize fill needle values (o + (piece.text needle).length) pieces = ys at hrest ⊢
      -- a text without the left delimiter is passed over
      have hpass : ∀ xs : List (Cell α), left ∉ symbols xs →
          FindsOwn (needle key) 0 (xs ++ ys) := by
        intro xs hxs
        refine findsOwn_append (fun a b hab hb hstarts => hxs ?_) hrest
        obtain ⟨cell, b, rfl⟩ := List.exists_cons_of_ne_nil hb
        have hcell : cell.symbol = left := h.head_eq hstarts
        rw [hab, ← hcell]
        simp [symbols]
      cases piece with
      | lit a =>
          exact hpass [⟨a, some o⟩] fun hmem =>
            hlits a List.mem_cons_self (List.mem_singleton.mp hmem).symm
      | slot other =>
          rw [Piece.cells]
          cases hvalue : values other with
          | some value =>
              refine hpass (inserted value) ?_
              rw [symbols_inserted]
              exact hvalues other value hvalue
          | none =>
              by_cases hsame : other = key
              · subst hsame
                refine (findsOwn_of_occurrence (h.ne_nil other) (symbols_place o _)).mpr
                  ⟨⟨o, ?_⟩, hrest⟩
                rw [symbols_place]
              · have hother := hslots other List.mem_cons_self
                refine findsOwn_append (fun a b hab hb hstarts => ?_) hrest
                rw [symbols_append] at hstarts
                have hsymbols : needle other = symbols a ++ symbols b := by
                  rw [← symbols_append, ← hab, symbols_place]
                by_cases ha : symbols a = []
                · rw [ha, List.nil_append] at hsymbols
                  rw [← hsymbols] at hstarts
                  exact hsame (h.eq_of_prefix hother hkey (List.prefix_append _ _) hstarts)
                · refine h.not_prefix_of_suffix hother hsymbols ha ?_ hstarts
                  simpa [symbols] using hb

end Replacement
