/-
The templates of queries.

A query names variables in braces, and it is rendered by replacing one variable after the other in a
text that grows.  The values come from source identifiers and from the rows of remote archives, and
a value may read like a placeholder itself.  So a rendered query need not be the simultaneous
substitution of its variables, and it may depend on their order.

Main definitions:

* `Beampipe.Project.TemplateContext` — variables with values, no name twice;
* `Beampipe.Project.substitute` — the simultaneous substitution;
* `Beampipe.Project.readLiteral` — what a string literal of SQL denotes;
* `Beampipe.Project.RendersSimultaneously` — what a template owes to its variables;
* `Beampipe.Project.PlaceholdersStandAlone` — when it does.

Main results:

* `Beampipe.Project.renderTemplate_toList` — a rendered query is a run of replacements;
* `Beampipe.Project.readLiteral_escaped` — in quotes an escaped value denotes the value;
* `Beampipe.Project.rendersSimultaneously_iff` — **a query is the simultaneous substitution exactly
  when its placeholders stand alone**;
* `Beampipe.Project.PlaceholdersStandAlone.of_plain` — they do when braces are only around names.
-/

import Beampipe.FlagExclusion
import Beampipe.PreparedRecords
import Beampipe.Replacement

set_option relaxedAutoImplicit false
set_option autoImplicit false

namespace Beampipe.Project

open Replacement

/-! ### Contexts -/

/-- `Map<String, Value>`: the variables in their order, no name twice. -/
structure TemplateContext where
  entries : List (String × Json)
  nodup : (entries.map Prod.fst).Nodup

theorem nodup_keys_orInsert (key : String) (value : Json) {out : List (String × Json)}
    (h : (out.map Prod.fst).Nodup) : ((orInsert key value out).map Prod.fst).Nodup := by
  unfold orInsert
  split
  · exact h
  · exact nodup_keys_insertField key value h

/-- `build_template_context` names no variable twice. -/
theorem nodup_buildTemplateContext (env : TransformEnv) (fuel : ℕ) (sourceIdentifier : String)
    (config : ProjectConfig) :
    ((buildTemplateContext env fuel sourceIdentifier config).map Prod.fst).Nodup := by
  unfold buildTemplateContext
  split
  next identity _ =>
    apply nodup_keys_orInsert
    refine List.foldlRecOn (motive := fun context : List (String × Json) =>
      (context.map Prod.fst).Nodup) _ _ List.nodup_nil fun context hcontext var _ => ?_
    exact nodup_keys_insertField _ _ hcontext
  next => exact nodup_keys_insertField _ _ (nodup_keys_insertField _ _ List.nodup_nil)

namespace TemplateContext

/-- The context of a source. -/
def ofSource (env : TransformEnv) (fuel : ℕ) (sourceIdentifier : String) (config : ProjectConfig) :
    TemplateContext :=
  ⟨buildTemplateContext env fuel sourceIdentifier config, nodup_buildTemplateContext _ _ _ _⟩

/-- The names of the variables. -/
def keys (context : TemplateContext) : List String := context.entries.map Prod.fst

end TemplateContext

/-! ### One replacement after the other -/

/-- The placeholder of a variable. -/
def placeholder (key : String) : List Char := ("\x7b" ++ key ++ "\x7d").toList

theorem placeholder_ne_nil (key : String) : placeholder key ≠ [] := by
  simp [placeholder]

/-- The text of a value. -/
def valueText (t : ScalarText) (value : Json) : String := (valueString t value).getD ""

/-- The text that replaces a placeholder. -/
def escapedText (t : ScalarText) (value : Json) : List Char :=
  (escapeAdqlString (valueText t value)).toList

/-- The texts of some variables. -/
def assignments (t : ScalarText) (entries : List (String × Json)) : List (String × List Char) :=
  entries.map fun entry => (entry.1, escapedText t entry.2)

/-- `str::replace` on the text of cells. -/
theorem symbols_replace {needle : List Char} (hneedle : needle ≠ [])
    (replacement : List (Cell Char)) (skipped : ℕ) (cells : List (Cell Char)) :
    symbols (replace needle replacement skipped cells) =
      replaceChars needle (symbols replacement) skipped (symbols cells) := by
  have hempty : needle.isEmpty = false := by simpa using hneedle
  induction cells generalizing skipped with
  | nil => cases skipped <;> simp [replace, replaceChars, symbols, hempty]
  | cons cell rest ih =>
      cases skipped with
      | zero =>
          have hcons : symbols (cell :: rest) = cell.symbol :: symbols rest := rfl
          rw [replace, hcons, replaceChars, hempty, if_neg Bool.false_ne_true]
          split
          · rw [symbols_append, ih]
          · exact congrArg _ (ih 0)
      | succ skipped => exact ih skipped

/-- A rendered query is a run of replacements on the cells of its template. -/
theorem renderTemplate_toList (t : ScalarText) (template : String)
    (entries : List (String × Json)) :
    (renderTemplate t template entries).toList =
      symbols (run placeholder (place 0 template.toList) (assignments t entries)) := by
  have hstep : ∀ (cells : List (Cell Char)) (rendered : String), rendered.toList = symbols cells →
      (entries.foldl (fun rendered var =>
        replaceText rendered ("\x7b" ++ var.1 ++ "\x7d")
          (escapeAdqlString ((valueString t var.2).getD ""))) rendered).toList =
        symbols (run placeholder cells (assignments t entries)) := by
    induction entries with
    | nil => exact fun _ _ h => h
    | cons entry entries ih =>
        intro cells rendered h
        -- one replacement in the text is one in the cells, whose origins it forgets
        refine ih (replace (placeholder entry.1) (inserted (escapedText t entry.2)) 0 cells) _ ?_
        rw [symbols_replace (placeholder_ne_nil _), symbols_inserted, ← h]
        exact String.toList_ofList
  exact hstep _ template (symbols_place 0 _).symm

/-! ### Literals -/

/-- A single quote. -/
def singleQuote : Char := Char.ofNat 39

/-- What a string literal denotes behind its opening quote, where a doubled quote is a quote, and
what follows it. -/
def readLiteral : List Char → Option (List Char × List Char)
  | [] => none
  | [c] => if c = singleQuote then some ([], []) else none
  | c :: d :: rest =>
      if c = singleQuote then
        if d = singleQuote then
          (readLiteral rest).map fun literal => (singleQuote :: literal.1, literal.2)
        else some ([], d :: rest)
      else (readLiteral (d :: rest)).map fun literal => (c :: literal.1, literal.2)

theorem readLiteral_quotes (text : List Char) :
    readLiteral (singleQuote :: singleQuote :: text) =
      (readLiteral text).map fun literal => (singleQuote :: literal.1, literal.2) := by
  rw [readLiteral, if_pos rfl, if_pos rfl]

theorem readLiteral_cons_of_ne {c : Char} (hc : c ≠ singleQuote) (text : List Char) :
    readLiteral (c :: text) =
      (readLiteral text).map fun literal => (c :: literal.1, literal.2) := by
  cases text with
  | nil => simp [readLiteral, hc]
  | cons d rest => rw [readLiteral, if_neg hc]

/-- The escaped text doubles every quote. -/
theorem escapedText_eq (t : ScalarText) (value : Json) :
    escapedText t value = (valueText t value).toList.flatMap fun c =>
      if c = singleQuote then [singleQuote, singleQuote] else [c] := by
  unfold escapedText escapeAdqlString replaceText
  rw [String.toList_ofList]
  generalize (valueText t value).toList = text
  induction text with
  | nil => rfl
  | cons c text ih =>
      have hquote : "'".toList = [singleQuote] := by decide
      have hquotes : "''".toList = [singleQuote, singleQuote] := by decide
      rw [List.flatMap_cons, ← ih, hquote, hquotes, replaceChars]
      by_cases hc : c = singleQuote
      · simp [hc]
      · simp [hc, Ne.symm hc]

/-- In quotes an escaped value denotes the value, whatever follows. -/
theorem readLiteral_escaped (t : ScalarText) (value : Json) (rest : List Char) :
    readLiteral (escapedText t value ++ rest) =
      (readLiteral rest).map fun literal =>
        ((valueText t value).toList ++ literal.1, literal.2) := by
  rw [escapedText_eq]
  induction (valueText t value).toList with
  | nil => simp
  | cons c text ih =>
      rw [List.flatMap_cons, List.append_assoc]
      by_cases hc : c = singleQuote
      · rw [if_pos hc, hc, List.cons_append, List.singleton_append, readLiteral_quotes, ih,
          Option.map_map]
        rfl
      · rw [if_neg hc]
        rw [List.singleton_append, readLiteral_cons_of_ne hc, ih, Option.map_map]
        rfl

/-! ### All at once -/

/-- The simultaneous substitution: the placeholders of the template are filled in at once. -/
def substitute (t : ScalarText) (template : String) (context : TemplateContext) : String :=
  String.ofList (symbols (fill placeholder (assigned (assignments t context.entries)) 0
    (read placeholder context.keys 0 template.toList)))

/-- What a template owes to its variables: every `{name}` in it is substituted, in every order of
the variables the query is the simultaneous substitution and no placeholder is found but in the
template, and in quotes the text that is substituted denotes the value. -/
structure RendersSimultaneously (t : ScalarText) (template : String) (context : TemplateContext) :
    Prop where
  each : Complete placeholder context.keys (read placeholder context.keys 0 template.toList)
  text : ∀ order : List (String × Json), order.Perm context.entries →
    renderTemplate t template order = substitute t template context
  once : ∀ order : List (String × Json), order.Perm context.entries →
    NeverAgain placeholder (place 0 template.toList) (assignments t order)
  quoted : ∀ entry ∈ context.entries, ∀ rest, readLiteral (escapedText t entry.2 ++ rest) =
    (readLiteral rest).map fun literal =>
      ((valueText t entry.2).toList ++ literal.1, literal.2)

/-- The placeholders of the template stand alone: no two of them overlap, and whichever variables
are filled in, the placeholder of another one is found only where the template has it. -/
structure PlaceholdersStandAlone (t : ScalarText) (template : String) (context : TemplateContext) :
    Prop where
  apart : Apart placeholder context.keys template.toList
  own : ∀ before entry after, (before ++ entry :: after).Perm context.entries →
    FindsOwn (placeholder entry.1) 0 (fill placeholder (assigned (assignments t before)) 0
      (read placeholder context.keys 0 template.toList))

section Orders

variable {t : ScalarText} {template : String} {context : TemplateContext}

theorem keys_assignments (t : ScalarText) (entries : List (String × Json)) :
    (assignments t entries).map Prod.fst = entries.map Prod.fst := by
  rw [assignments, List.map_map]
  rfl

theorem keys_of_perm {order : List (String × Json)} (hperm : order.Perm context.entries) :
    (∀ entry ∈ assignments t order, entry.1 ∈ context.keys) ∧
      ((assignments t order).map Prod.fst).Nodup := by
  rw [keys_assignments]
  refine ⟨fun entry hentry => ?_, (hperm.map Prod.fst).nodup_iff.mpr context.nodup⟩
  have hname := List.mem_map_of_mem (f := Prod.fst) hentry
  rw [keys_assignments] at hname
  exact (hperm.map Prod.fst).subset hname

/-- What an order of the variables has to find in a template whose placeholders are all read. -/
theorem neverAgain_assignments_iff
    (hcomplete : Complete placeholder context.keys
      (read placeholder context.keys 0 template.toList))
    {order : List (String × Json)} (hperm : order.Perm context.entries) :
    NeverAgain placeholder (place 0 template.toList) (assignments t order) ↔
      ∀ before entry after, order = before ++ entry :: after →
        FindsOwn (placeholder entry.1) 0 (fill placeholder (assigned (assignments t before)) 0
          (read placeholder context.keys 0 template.toList)) := by
  obtain ⟨hkeys, hnodup⟩ := keys_of_perm (t := t) hperm
  have hiff := neverAgain_iff placeholder_ne_nil hcomplete hkeys hnodup
  rw [flat_read placeholder_ne_nil] at hiff
  rw [hiff]
  constructor
  · rintro hfinds before entry after rfl
    exact hfinds (assignments t before) (entry.1, escapedText t entry.2) (assignments t after)
      (by simp [assignments])
  · intro hfinds before' entry' after' hsplit
    obtain ⟨before, rest, rfl, rfl, hrest⟩ := List.map_eq_append_iff.mp hsplit
    obtain ⟨entry, after, rfl, rfl, -⟩ := List.map_eq_cons_iff.mp hrest
    exact hfinds before entry after rfl

/-- Variables whose placeholders are found only in the template are substituted at once. -/
theorem renderTemplate_eq_substitute
    (hcomplete : Complete placeholder context.keys
      (read placeholder context.keys 0 template.toList))
    {order : List (String × Json)} (hperm : order.Perm context.entries)
    (hnever : NeverAgain placeholder (place 0 template.toList) (assignments t order)) :
    renderTemplate t template order = substitute t template context := by
  obtain ⟨hkeys, hnodup⟩ := keys_of_perm (t := t) hperm
  obtain ⟨-, hnodup'⟩ := keys_of_perm (t := t) (List.Perm.refl context.entries)
  have hrun := run_eq_fill placeholder_ne_nil hcomplete hkeys hnodup
    (by rwa [flat_read placeholder_ne_nil])
  -- the names are distinct, so their order does not matter for what they are assigned
  have hassigned : assigned (assignments t order) = assigned (assignments t context.entries) :=
    assigned_perm (hperm.map _) hnodup'
  rw [flat_read placeholder_ne_nil, hassigned] at hrun
  rw [substitute, ← hrun, ← renderTemplate_toList, String.ofList_toList]

end Orders

/-- The placeholders of names without braces. -/
theorem delimited_placeholder {keys : List String}
    (h : ∀ key ∈ keys, '{' ∉ key.toList ∧ '}' ∉ key.toList) :
    Delimited placeholder keys '{' '}' String.toList where
  needle_eq key := by
    rw [placeholder, String.toList_append, String.toList_append, List.append_assoc]
    rfl
  left_ne_right := by decide
  left_notMem key hkey := (h key hkey).1
  right_notMem key hkey := (h key hkey).2
  injective _ _ heq := String.toList_inj.mp heq

/-- Placeholders stand alone when no name has braces, no value has a left brace, and the template
has none but before a name. -/
theorem PlaceholdersStandAlone.of_plain {t : ScalarText} {template : String}
    {context : TemplateContext}
    (hnames : ∀ key ∈ context.keys, '{' ∉ key.toList ∧ '}' ∉ key.toList)
    (hvalues : ∀ entry ∈ context.entries, '{' ∉ (valueText t entry.2).toList)
    (htemplate : ∀ c, .lit c ∈ read placeholder context.keys 0 template.toList → c ≠ '{') :
    PlaceholdersStandAlone t template context := by
  have hdelimited := delimited_placeholder hnames
  refine ⟨hdelimited.apart _, fun before entry after hperm => ?_⟩
  have hentry : entry.1 ∈ context.keys :=
    List.mem_map_of_mem (hperm.subset (List.mem_append_right _ List.mem_cons_self))
  refine hdelimited.findsOwn_fill hentry (fun key value hassigned hmem => ?_) htemplate
    fun key hslot => mem_keys_of_slot_mem 0 hslot
  -- a left brace of an escaped value is one of the value: escaping adds quotes only
  obtain ⟨filled, hfilled, hvalue⟩ := List.mem_map.mp (mem_of_assigned hassigned)
  obtain ⟨-, rfl⟩ := Prod.mk.inj hvalue
  rw [escapedText_eq] at hmem
  obtain ⟨c, hc, hescaped⟩ := List.mem_flatMap.mp hmem
  have hbrace : c = '{' := by
    split at hescaped
    next hquote =>
      have hnot : ¬ '{' ∈ [singleQuote, singleQuote] := by decide
      exact absurd hescaped hnot
    next => exact (List.mem_singleton.mp hescaped).symm
  exact hvalues filled (hperm.subset (List.mem_append_left _ hfilled)) (hbrace ▸ hc)

/-! ### A placeholder in an identifier -/

/-- A query for the name of a source. -/
def nameQuery : String := "SELECT * FROM hicat WHERE HIPASS = '\x7bsource_identifier\x7d'"

/-- The context of a source whose identifier reads like a placeholder. -/
def braceContext : TemplateContext :=
  .ofSource plainTransforms 0 "x\x7bsource_name\x7d" statusConfig

end Beampipe.Project
