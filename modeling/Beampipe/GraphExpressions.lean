/-
**The expressions of graph patches.**

A project may give a field of the graph the number of elements a path selects in the manifest,
`$count(path)`, or the sum of these, `$sum(path)`.  The validation of a project and the evaluation
recognise an expression by rules that differ, a path is followed through nested arrays with sums
that wrap at 64 bits, the numbers it ends at are read as whole numbers without a sign, and what it
is followed in is the first source of the manifest.

Main definitions:

* `Beampipe.Project.evaluateExpression`, `Beampipe.Project.applyProjectGraphPatches` — the
  evaluation as the code has it;
* `Beampipe.Project.selected` — the elements a path selects;
* `Beampipe.Project.ExactSum`, `Beampipe.Project.CoversSources`,
  `Beampipe.Project.ExpressionsAgree` — an exact sum, values for all the sources, and a validation
  that agrees with the evaluation.

Main results:

* `Beampipe.Project.foldAt_eq` — a path is followed to the elements it selects, each counted once;
* `Beampipe.Project.exactSum_evaluateExpression_iff` — a sum is exact when its numbers are whole,
  not negative and together below `2 ^ 64`;
* `Beampipe.Project.coversSources_applyProjectGraphPatches_iff` — the values are for all the
  sources when those after the first have nothing to add;
* `Beampipe.Project.expressionsAgree_iff` — the validation agrees with the evaluation when no
  text has white space before an expression or a parenthesis inside of one.
-/

import Beampipe.Binary64
import Beampipe.Manifest
import Beampipe.ProjectConfig
import Mathlib.Algebra.BigOperators.Ring.Finset

set_option relaxedAutoImplicit false
set_option autoImplicit false

namespace Beampipe.Project

/-! ### Paths -/

/-- `Value::as_array`. -/
def asArray : Json → Option (List Json)
  | .arr items => some items
  | _ => none

/-- `strip_suffix("[]")`. -/
def stripArray (part : List Char) : Option (List Char) :=
  match part.reverse with
  | ']' :: '[' :: rest => some rest.reverse
  | _ => none

/-- The array a part of a path with the ending `[]` stands for. -/
def arrayAt (key : List Char) (value : Json) : Option (List Json) :=
  if key.isEmpty then asArray value else (value.get (String.ofList key)).bind asArray

/-- `Iterator::sum` of 64-bit numbers. -/
def sumU64 (terms : List ℕ) : ℕ := terms.foldl (fun total n => (total + n) % 2 ^ 64) 0

/-- The recursion of `count_at` and `sum_at`, with the number the end of the path gives. -/
def foldAt (leaf : Json → ℕ) : List (List Char) → Json → ℕ
  | [], value => leaf value
  | part :: parts, value =>
      match stripArray part with
      | some key =>
          match arrayAt key value with
          | some items => sumU64 (items.map (foldAt leaf parts))
          | none => 0
      | none =>
          match value.get (String.ofList part) with
          | some next => foldAt leaf parts next
          | none => 0

/-- `value.as_f64().map(|v| v as u64)`; of the integers only those that `as_u64` does not give
come here. -/
def f64AsU64 : Json → Option ℕ
  | .num (.float bits) => some (Binary64.toU64 bits)
  | .num (.int n) => some (min n.toNat (2 ^ 64 - 1))
  | _ => none

/-- `numeric_value`. -/
def numericValue (value : Json) : ℕ :=
  ((value.asU64.filter (· < 2 ^ 64) <|>
    value.asI64.bind fun v => if 0 ≤ v then some v.toNat else none) <|> f64AsU64 value).getD 0

/-- `count_at`. -/
def countAt (parts : List (List Char)) (value : Json) : ℕ := foldAt (fun _ => 1) parts value

/-- `sum_at`. -/
def sumAt (parts : List (List Char)) (value : Json) : ℕ := foldAt numericValue parts value

/-- `count_path`. -/
def countPath (manifest : Json) (path : List Char) : ℕ := countAt (splitDots path) manifest

/-- `sum_path`. -/
def sumPath (manifest : Json) (path : List Char) : ℕ := sumAt (splitDots path) manifest

/-! ### Expressions -/

/-- The text between an opening such as `$count(` and a closing parenthesis at the end. -/
def stripCall (opening : String) (text : List Char) : Option (List Char) :=
  if opening.toList.isPrefixOf text then
    let rest := text.drop opening.toList.length
    if rest.getLast? = some ')' then some rest.dropLast else none
  else none

/-- `evaluate_expression`. -/
def evaluateExpression (expr : String) (manifest : Json) : Option Json :=
  let trimmed := trimChars expr.toList
  match stripCall "$count(" trimmed with
  | some inner => some (.num (.int (countPath manifest (trimChars inner))))
  | none =>
      match stripCall "$sum(" trimmed with
      | some inner => some (.num (.int (sumPath manifest (trimChars inner))))
      | none => none

/-- `graph_patch_expression_context`. -/
def graphPatchExpressionContext (manifest : Json) : Json :=
  match ((manifest.get "sources").bind asArray).bind List.head? with
  | some source => source
  | none => manifest

/-- The value a patch gives a field. -/
def patchValue (exprCtx rawValue : Json) : Json :=
  match rawValue.asStr with
  | some s => (evaluateExpression s exprCtx).getD rawValue
  | none => rawValue

/-- A patch as the manifest has it, with its fields' values. -/
def patchJson (value : Json → Json) (patch : GraphPatch) : Json :=
  .obj [("fields", .arr (patch.fields.toList.map fun field =>
      .obj [("name", .str field.1), ("value", value field.2)])),
    ("match", .obj [("equals", .str patch.matchEquals)])]

/-- The patches of a project, but for those without a target. -/
def targetedPatches (config : ProjectConfig) : List GraphPatch :=
  config.graphPatches.filter fun patch => !isBlank patch.matchEquals

/-- `manifest["graph_overrides"] = …` with the patches, if there are any; what is neither an
object nor `null` panics. -/
def withOverrides (manifest : Json) (patches : List Json) : Option Json :=
  if patches.isEmpty then some manifest
  else
    match manifest with
    | .obj fields =>
        some (.obj (Json.insertField "graph_overrides" (.obj [("patches", .arr patches)]) fields))
    | .null => some (.obj [("graph_overrides", .obj [("patches", .arr patches)])])
    | _ => none

/-- `apply_project_graph_patches`. -/
def applyProjectGraphPatches (manifest : Json) (config : ProjectConfig) : Option Json :=
  let exprCtx := graphPatchExpressionContext manifest
  withOverrides manifest ((targetedPatches config).map (patchJson (patchValue exprCtx)))

/-! ### The elements a path selects -/

/-- The elements a path selects in a value, in their order. -/
def selected : List (List Char) → Json → List Json
  | [], value => [value]
  | part :: parts, value =>
      match stripArray part with
      | some key => ((arrayAt key value).getD []).flatMap (selected parts)
      | none => (value.get (String.ofList part)).toList.flatMap (selected parts)

theorem sumU64_eq (terms : List ℕ) : sumU64 terms = terms.sum % 2 ^ 64 := by
  have hfold : ∀ (terms : List ℕ) (total : ℕ), total < 2 ^ 64 →
      terms.foldl (fun total n => (total + n) % 2 ^ 64) total = (total + terms.sum) % 2 ^ 64 := by
    intro terms
    induction terms with
    | nil =>
        intro total htotal
        rw [List.foldl_nil, List.sum_nil, Nat.add_zero, Nat.mod_eq_of_lt htotal]
    | cons n terms ih =>
        intro total _
        rw [List.foldl_cons, ih _ (Nat.mod_lt _ (by decide)), List.sum_cons]
        omega
  rw [sumU64, hfold terms 0 (by decide), Nat.zero_add]

/-- A path is followed to the elements it selects, and each of them counts once. -/
theorem foldAt_eq {leaf : Json → ℕ} (hleaf : ∀ value, leaf value < 2 ^ 64)
    (parts : List (List Char)) (value : Json) :
    foldAt leaf parts value = ((selected parts value).map leaf).sum % 2 ^ 64 := by
  have hitems : ∀ (parts : List (List Char)) (items : List Json),
      (∀ item, foldAt leaf parts item = ((selected parts item).map leaf).sum % 2 ^ 64) →
        (items.map (foldAt leaf parts)).sum % 2 ^ 64 =
          ((items.flatMap (selected parts)).map leaf).sum % 2 ^ 64 := by
    intro parts items hstep
    induction items with
    | nil => rfl
    | cons item items ih =>
        rw [List.map_cons, List.sum_cons, hstep, List.flatMap_cons, List.map_append,
          List.sum_append]
        omega
  induction parts generalizing value with
  | nil =>
      rw [foldAt, selected, List.map_singleton, List.sum_singleton,
        Nat.mod_eq_of_lt (hleaf value)]
  | cons part parts ih =>
      rw [foldAt, selected]
      cases stripArray part with
      | some key =>
          dsimp only
          cases arrayAt key value with
          | some items => exact (sumU64_eq _).trans (hitems parts items ih)
          | none => rfl
      | none =>
          dsimp only
          cases value.get (String.ofList part) with
          | some next =>
              rw [Option.toList_some, List.flatMap_singleton]
              exact ih next
          | none => rfl

/-! ### Which texts are expressions -/

/-- The two functions of expressions. -/
inductive Call where
  | count
  | sum
  deriving DecidableEq, Repr

/-- The text before the path of an expression. -/
def Call.opening : Call → String
  | .count => "$count("
  | .sum => "$sum("

/-- What an element counts for. -/
def Call.weight : Call → Json → ℕ
  | .count, _ => 1
  | .sum, leaf => numericValue leaf

/-- The text is an expression with this function and path. -/
def IsCall (text : List Char) (call : Call) (path : List Char) : Prop :=
  text = call.opening.toList ++ path ++ [')']

theorem stripCall_eq_some_iff {opening : String} {text inner : List Char} :
    stripCall opening text = some inner ↔ text = opening.toList ++ inner ++ [')'] := by
  unfold stripCall
  by_cases hopening : opening.toList.isPrefixOf text = true
  · rw [if_pos hopening]
    obtain ⟨rest, rfl⟩ := List.isPrefixOf_iff_prefix.mp hopening
    rw [List.drop_left, List.append_assoc, List.append_cancel_left_eq]
    dsimp only
    by_cases hclosing : rest.getLast? = some ')'
    · rw [if_pos hclosing, Option.some.injEq]
      obtain ⟨init, rfl⟩ := List.getLast?_eq_some_iff.mp hclosing
      rw [List.dropLast_concat, List.append_cancel_right_eq]
    · rw [if_neg hclosing]
      refine iff_of_false (fun h => by cases h) ?_
      rintro rfl
      exact hclosing List.getLast?_concat
  · rw [if_neg hopening]
    refine iff_of_false (fun h => by cases h) ?_
    rintro rfl
    exact hopening (List.isPrefixOf_iff_prefix.mpr ⟨inner ++ [')'], (List.append_assoc ..).symm⟩)

/-- The function and the path of an expression. -/
def readCall (text : List Char) : Option (Call × List Char) :=
  match stripCall "$count(" text with
  | some inner => some (.count, inner)
  | none => (stripCall "$sum(" text).map fun inner => (.sum, inner)

theorem readCall_eq_some_iff {text path : List Char} {call : Call} :
    readCall text = some (call, path) ↔ IsCall text call path := by
  unfold readCall IsCall
  cases hcount : stripCall "$count(" text with
  | some inner =>
      have htext := stripCall_eq_some_iff.mp hcount
      constructor
      · intro h
        cases h
        exact htext
      · intro h
        cases call with
        | count =>
            have hread : stripCall "$count(" text = some path := stripCall_eq_some_iff.mpr h
            rw [hcount] at hread
            cases hread
            rfl
        | sum =>
            -- the two openings differ in their second letter
            rw [htext] at h
            cases h
  | none =>
      dsimp only
      rw [Option.map_eq_some_iff]
      constructor
      · rintro ⟨inner, hsum, heq⟩
        cases heq
        exact stripCall_eq_some_iff.mp hsum
      · intro h
        cases call with
        | count =>
            have hread : stripCall "$count(" text = some path := stripCall_eq_some_iff.mpr h
            rw [hcount] at hread
            cases hread
        | sum => exact ⟨path, stripCall_eq_some_iff.mpr h, rfl⟩

/-- What an expression with a function and a path gives in a value. -/
def callValue (value : Json) (call : Call × List Char) : Json :=
  .num (.int (foldAt call.1.weight (splitDots (trimChars call.2)) value))

theorem evaluateExpression_eq (expr : String) (manifest : Json) :
    evaluateExpression expr manifest =
      (readCall (trimChars expr.toList)).map (callValue manifest) := by
  cases hcount : stripCall "$count(" (trimChars expr.toList) with
  | some inner =>
      simp only [evaluateExpression, readCall, hcount]
      rfl
  | none =>
      cases hsum : stripCall "$sum(" (trimChars expr.toList) with
      | some inner =>
          simp only [evaluateExpression, readCall, hcount, hsum]
          rfl
      | none =>
          simp only [evaluateExpression, readCall, hcount, hsum]
          rfl

theorem numericValue_int (n : ℤ) :
    numericValue (.num (.int n)) = min n.toNat (2 ^ 64 - 1) := by
  unfold numericValue Json.asU64 Json.asI64 f64AsU64
  by_cases hsign : 0 ≤ n
  · by_cases hfits : n.toNat < 2 ^ 64
    · simp only [if_pos hsign, Option.filter_some, decide_eq_true hfits, if_true]
      change n.toNat = _
      omega
    · have hlarge : ¬ (-9223372036854775808 ≤ n ∧ n ≤ 9223372036854775807) := by omega
      simp only [if_pos hsign, Option.filter_some, decide_eq_false hfits, if_neg hlarge,
        Bool.false_eq_true, if_false]
      rfl
  · by_cases hrange : -9223372036854775808 ≤ n ∧ n ≤ 9223372036854775807
    · simp only [if_neg hsign, if_pos hrange, Option.bind_some]
      rfl
    · simp only [if_neg hsign, if_neg hrange]
      rfl

theorem numericValue_float (bits : UInt64) :
    numericValue (.num (.float bits)) = Binary64.toU64 bits := rfl

theorem numericValue_lt (value : Json) : numericValue value < 2 ^ 64 := by
  have hzero : 0 < 2 ^ 64 := by decide
  cases value with
  | num number =>
      cases number with
      | int n =>
          rw [numericValue_int]
          omega
      | float bits => exact Binary64.toU64_lt bits
  | _ => exact hzero

theorem weight_lt (call : Call) (leaf : Json) : call.weight leaf < 2 ^ 64 := by
  cases call with
  | count =>
      rw [Call.weight]
      decide
  | sum => exact numericValue_lt leaf

/-- What an expression gives: the weights of the elements it selects, together. -/
theorem foldAt_weight (call : Call) (parts : List (List Char)) (value : Json) :
    foldAt call.weight parts value =
      ((selected parts value).map call.weight).sum % 2 ^ 64 :=
  foldAt_eq (weight_lt call) parts value

/-- An expression has one function and one path. -/
theorem IsCall.unique {text : List Char} {call call' : Call} {path path' : List Char}
    (h : IsCall text call path) (h' : IsCall text call' path') : call = call' ∧ path = path' := by
  have hread := readCall_eq_some_iff.mpr h
  rw [readCall_eq_some_iff.mpr h'] at hread
  cases hread
  exact ⟨rfl, rfl⟩

/-- An expression begins with `$` and ends with a parenthesis. -/
theorem IsCall.trimChars_eq {text path : List Char} {call : Call} (h : IsCall text call path) :
    trimChars text = text := by
  refine trimChars_eq_self ?_ ?_
  · intro c hc
    rw [h] at hc
    cases call <;> cases hc <;> decide
  · intro c hc
    rw [h, List.getLast?_concat] at hc
    cases hc
    decide

/-! ### Exact sums -/

/-- The value of a number. -/
def leafValue : Json → Option ℚ
  | .num (.int n) => some n
  | .num (.float bits) => Binary64.value bits
  | _ => none

/-- Some number of a JSON document has the value. -/
def IsRepresentable (q : ℚ) : Prop :=
  ∃ number : JsonNumber, leafValue (.num number) = some q ∧
    ∀ n, number = .int n → -(2 ^ 63) ≤ n ∧ n < 2 ^ 64

/-- The result is the sum of the selected elements, each counted at its value and none of the
additions wrapped; or there is none, because some element is not a number or the sum is not
representable. -/
def ExactSum (leaves : List Json) : Option Json → Prop
  | some result =>
      (∃ values : List ℚ, leaves.map leafValue = values.map some ∧
        leafValue result = some values.sum) ∧
      (∀ leaf ∈ leaves, leafValue leaf = some (numericValue leaf : ℚ)) ∧
      (leaves.map numericValue).sum < 2 ^ 64
  | none =>
      ∀ values : List ℚ, leaves.map leafValue = values.map some → ¬ IsRepresentable values.sum

/-- The selected elements are whole numbers that are not negative, and together below
`2 ^ 64`. -/
def WholeLeaves (leaves : List Json) : Prop :=
  ∃ numbers : List ℕ, leaves.map leafValue = numbers.map (fun n : ℕ => some (n : ℚ)) ∧
    numbers.sum < 2 ^ 64

/-- A whole number that is not negative is counted at its value. -/
theorem numericValue_of_leafValue {leaf : Json} {n : ℕ} (h : leafValue leaf = some (n : ℚ))
    (hn : n < 2 ^ 64) : numericValue leaf = n := by
  cases leaf with
  | num number =>
      cases number with
      | int k =>
          have hk : (k : ℚ) = ((n : ℤ) : ℚ) := Option.some.inj h
          rw [numericValue_int, Int.cast_injective hk, Int.toNat_natCast]
          omega
      | float bits =>
          rw [numericValue_float]
          exact Binary64.toU64_of_value h hn
  | _ => cases h

/-- So are several of them, each of which is below the bound with their sum. -/
theorem map_numericValue_of_leafValue {leaves : List Json} {numbers : List ℕ}
    (h : leaves.map leafValue = numbers.map fun n : ℕ => some (n : ℚ))
    (hsum : numbers.sum < 2 ^ 64) : leaves.map numericValue = numbers := by
  induction leaves generalizing numbers with
  | nil =>
      cases numbers with
      | nil => rfl
      | cons n numbers => cases h
  | cons leaf leaves ih =>
      cases numbers with
      | nil => cases h
      | cons n numbers =>
          rw [List.map_cons, List.map_cons, List.cons.injEq] at h
          rw [List.sum_cons] at hsum
          rw [List.map_cons, numericValue_of_leafValue h.1 (by omega), ih h.2 (by omega)]

/-- A sum is exact exactly when its numbers are whole, not negative and together below
`2 ^ 64`. -/
theorem exactSum_evaluateExpression_iff (value : Json) (path : String) :
    ExactSum (selected (splitDots (trimChars path.toList)) value)
        (evaluateExpression ("$sum(" ++ path ++ ")") value) ↔
      WholeLeaves (selected (splitDots (trimChars path.toList)) value) := by
  have hcall : IsCall ("$sum(" ++ path ++ ")").toList .sum path.toList := by
    simp only [IsCall, String.toList_append]
    rfl
  rw [evaluateExpression_eq, hcall.trimChars_eq, readCall_eq_some_iff.mpr hcall, Option.map_some,
    callValue, foldAt_weight]
  generalize selected (splitDots (trimChars path.toList)) value = leaves
  constructor
  · rintro ⟨-, hcounted, hsum⟩
    refine ⟨leaves.map numericValue, ?_, hsum⟩
    rw [List.map_map]
    exact List.map_congr_left hcounted
  · rintro ⟨numbers, hnumbers, hsum⟩
    obtain rfl := map_numericValue_of_leafValue hnumbers hsum
    have hvalues : ∀ leaf ∈ leaves, leafValue leaf = some (numericValue leaf : ℚ) := by
      rw [List.map_map] at hnumbers
      exact List.map_inj_left.mp hnumbers
    have hweights : leaves.map (Call.weight .sum) = leaves.map numericValue := rfl
    refine ⟨⟨(leaves.map numericValue).map Nat.cast, ?_, ?_⟩, hvalues, hsum⟩
    · rw [List.map_map, List.map_map]
      exact List.map_congr_left hvalues
    · rw [hweights, Nat.mod_eq_of_lt hsum, leafValue, ← Nat.cast_list_sum, Int.cast_natCast]

/-- The path of a number of beams in every observation of a source. -/
def beamCounts : List (List Char) := splitDots "sbids[].beam_count".toList

/-- An observation with a negative number of beams is added as if it had none. -/
theorem evaluateExpression_negative_leaf :
    ¬ ExactSum
        (selected beamCounts (.obj [("sbids", .arr [.obj [("beam_count", .num (.int (-1)))],
          .obj [("beam_count", .num (.int 3))]])]))
        (evaluateExpression "$sum(sbids[].beam_count)"
          (.obj [("sbids", .arr [.obj [("beam_count", .num (.int (-1)))],
            .obj [("beam_count", .num (.int 3))]])])) := by
  have hselected : selected beamCounts
      (.obj [("sbids", .arr [.obj [("beam_count", .num (.int (-1)))],
        .obj [("beam_count", .num (.int 3))]])]) = [.num (.int (-1)), .num (.int 3)] := by
    decide +kernel
  have hresult : evaluateExpression "$sum(sbids[].beam_count)"
      (.obj [("sbids", .arr [.obj [("beam_count", .num (.int (-1)))],
        .obj [("beam_count", .num (.int 3))]])]) = some (.num (.int 3)) := by
    decide +kernel
  rw [hselected, hresult]
  rintro ⟨-, hcounted, -⟩
  have hleaf := Option.some.inj (hcounted (.num (.int (-1))) List.mem_cons_self)
  have hzero : numericValue (.num (.int (-1))) = 0 := by decide +kernel
  rw [hzero] at hleaf
  norm_num at hleaf

/-! ### All the sources -/

/-- The sources of a manifest. -/
def emittedSources (manifest : Json) : List Json :=
  ((manifest.get "sources").bind asArray).getD []

/-- The weights of the elements an expression selects in some sources, together. -/
def totalOver (sources : List Json) (call : Call × List Char) : ℕ :=
  ((sources.flatMap (selected (splitDots (trimChars call.2)))).map call.1.weight).sum

/-- The value of a field for all the sources: an expression is the total over them, and anything
else stands for itself. -/
def sourcesValue (manifest rawValue : Json) : Json :=
  match rawValue.asStr with
  | some s =>
      match readCall (trimChars s.toList) with
      | some call => .num (.int (totalOver (emittedSources manifest) call))
      | none => rawValue
  | none => rawValue

/-- The result is the manifest with the patches of the project, whose expressions are evaluated
over all the sources. -/
def CoversSources (manifest : Json) (config : ProjectConfig) (result : Option Json) : Prop :=
  result = withOverrides manifest ((targetedPatches config).map (patchJson (sourcesValue manifest)))

/-- The first source has all that an expression counts, and its total fits; without sources the
expression finds nothing in the manifest either. -/
def FirstHasAll (manifest : Json) (call : Call × List Char) : Prop :=
  match emittedSources manifest with
  | [] => ((selected (splitDots (trimChars call.2)) manifest).map call.1.weight).sum % 2 ^ 64 = 0
  | first :: later =>
      ((selected (splitDots (trimChars call.2)) first).map call.1.weight).sum < 2 ^ 64 ∧
        ∀ source ∈ later, ∀ leaf ∈ selected (splitDots (trimChars call.2)) source,
          call.1.weight leaf = 0

/-- The expressions of a project's patches. -/
def patchCalls (config : ProjectConfig) : List (Call × List Char) :=
  (targetedPatches config).flatMap fun patch => patch.fields.toList.filterMap fun field =>
    field.2.asStr.bind fun s => readCall (trimChars s.toList)

theorem context_eq (manifest : Json) :
    graphPatchExpressionContext manifest = (emittedSources manifest).head?.getD manifest := by
  unfold graphPatchExpressionContext emittedSources
  cases (manifest.get "sources").bind asArray with
  | none => rfl
  | some sources => cases sources <;> rfl

/-- An expression gives the total over all the sources exactly when the first has it all. -/
theorem callValue_context_iff (manifest : Json) (call : Call × List Char) :
    callValue (graphPatchExpressionContext manifest) call =
        .num (.int (totalOver (emittedSources manifest) call)) ↔ FirstHasAll manifest call := by
  have hnat : ∀ a b : ℕ, Json.num (.int a) = .num (.int b) ↔ a = b := by
    intro a b
    rw [Json.num.injEq, JsonNumber.int.injEq, Nat.cast_inj]
  rw [callValue, hnat, foldAt_weight, context_eq, FirstHasAll, totalOver]
  generalize splitDots (trimChars call.2) = parts
  cases emittedSources manifest with
  | nil => simp
  | cons first later =>
      rw [List.head?_cons, Option.getD_some, List.flatMap_cons, List.map_append, List.sum_append]
      have hlater : ((later.flatMap (selected parts)).map call.1.weight).sum = 0 ↔
          ∀ source ∈ later, ∀ leaf ∈ selected parts source, call.1.weight leaf = 0 := by
        rw [List.sum_eq_zero_iff_forall_eq_nat]
        constructor
        · intro h source hsource leaf hleaf
          exact h _ (List.mem_map_of_mem (List.mem_flatMap.mpr ⟨source, hsource, hleaf⟩))
        · intro h n hn
          obtain ⟨leaf, hleaf, rfl⟩ := List.mem_map.mp hn
          obtain ⟨source, hsource, hleaf⟩ := List.mem_flatMap.mp hleaf
          exact h source hsource leaf hleaf
      dsimp only
      rw [← hlater]
      omega

theorem patchJson_eq_iff {value value' : Json → Json} {patch : GraphPatch} :
    patchJson value patch = patchJson value' patch ↔
      ∀ field ∈ patch.fields.toList, value field.2 = value' field.2 := by
  simp [patchJson, List.map_inj_left]

theorem patchValue_eq_iff (manifest rawValue : Json) :
    patchValue (graphPatchExpressionContext manifest) rawValue = sourcesValue manifest rawValue ↔
      ∀ call, (rawValue.asStr.bind fun s => readCall (trimChars s.toList)) = some call →
        FirstHasAll manifest call := by
  unfold patchValue sourcesValue
  cases rawValue.asStr with
  | none => simp
  | some s =>
      simp only [evaluateExpression_eq, Option.bind_some]
      cases readCall (trimChars s.toList) with
      | none => simp
      | some call => simp [callValue_context_iff]

theorem withOverrides_obj_inj {fields : List (String × Json)} {patches patches' : List Json}
    (hlength : patches.length = patches'.length) :
    withOverrides (.obj fields) patches = withOverrides (.obj fields) patches' ↔
      patches = patches' := by
  constructor
  · intro h
    cases patches with
    | nil => exact (List.length_eq_zero_iff.mp hlength.symm).symm
    | cons patch patches =>
        cases patches' with
        | nil => cases hlength
        | cons patch' patches' =>
            have hget := congrArg (fun json : Option Json => json.bind (Json.get "graph_overrides")) h
            simpa [withOverrides, Json.get, Json.lookupField_insertField_self] using hget
  · intro h
    rw [h]

/-- In `null` every expression finds nothing. -/
theorem firstHasAll_null (call : Call × List Char) : FirstHasAll .null call := by
  have hselected : ∀ parts : List (List Char), parts ≠ [] → selected parts .null = [] := by
    intro parts hparts
    cases parts with
    | nil => exact (hparts rfl).elim
    | cons part parts =>
        rw [selected]
        cases stripArray part with
        | none => rfl
        | some key => cases key <;> rfl
  have hnone : emittedSources .null = [] := rfl
  rw [FirstHasAll, hnone]
  dsimp only
  rw [hselected _ (splitDots_ne_nil _)]
  rfl

/-- A manifest that is neither an object nor `null` cannot be given patches, whatever they are. -/
theorem withOverrides_of_not_object {manifest : Json} (hobject : manifest.isObject = false)
    (hnull : manifest ≠ .null) {patches patches' : List Json}
    (hlength : patches.length = patches'.length) :
    withOverrides manifest patches = withOverrides manifest patches' := by
  have hempty : patches.isEmpty = patches'.isEmpty := by
    rw [Bool.eq_iff_iff, List.isEmpty_iff_length_eq_zero, List.isEmpty_iff_length_eq_zero, hlength]
  cases manifest with
  | obj fields => cases hobject
  | null => exact (hnull rfl).elim
  | _ => simp only [withOverrides, hempty]

/-- The values written are those for all the sources exactly when the first source has all that
the expressions count. -/
theorem coversSources_applyProjectGraphPatches_iff (manifest : Json) (config : ProjectConfig) :
    CoversSources manifest config (applyProjectGraphPatches manifest config) ↔
      (manifest.isObject = true → ∀ call ∈ patchCalls config, FirstHasAll manifest call) := by
  have hvalues : (targetedPatches config).map
        (patchJson (patchValue (graphPatchExpressionContext manifest))) =
      (targetedPatches config).map (patchJson (sourcesValue manifest)) ↔
        ∀ call ∈ patchCalls config, FirstHasAll manifest call := by
    rw [List.map_inj_left]
    simp only [patchJson_eq_iff, patchValue_eq_iff, patchCalls, List.mem_flatMap,
      List.mem_filterMap]
    constructor
    · rintro h call ⟨patch, hpatch, field, hfield, hcall⟩
      exact h patch hpatch field hfield call hcall
    · intro h patch hpatch field hfield call hcall
      exact h call ⟨patch, hpatch, field, hfield, hcall⟩
  rw [CoversSources, applyProjectGraphPatches]
  cases hmanifest : manifest with
  | obj fields =>
      rw [← hmanifest, ← hvalues]
      subst hmanifest
      rw [withOverrides_obj_inj (by simp)]
      exact ⟨fun h _ => h, fun h => h rfl⟩
  | null =>
      subst hmanifest
      refine iff_of_true ?_ fun h => by cases h
      rw [hvalues.mpr fun call _ => firstHasAll_null call]
  | _ =>
      refine iff_of_true ?_ fun h => by cases h
      exact withOverrides_of_not_object rfl (by simp) (by simp)

/-- A manifest of two sources, with a record in each. -/
def twoSources : Json :=
  .obj [("sources", .arr [.obj [("records", .arr [.str "r1"])],
    .obj [("records", .arr [.str "r2"])]])]

/-- A project that counts the records. -/
def countingProject : ProjectConfig where
  metadataId := "survey"
  graphPatches :=
    [{ matchKind := .nodeName
       matchEquals := "Scatter"
       fields := Std.ExtTreeMap.ofList [("num_of_copies", Json.str "$count(records[])")] }]

/-- The record of the second source is not counted. -/
theorem applyProjectGraphPatches_two_sources :
    ¬ CoversSources twoSources countingProject
        (applyProjectGraphPatches twoSources countingProject) := by
  have hwritten : ∀ value : Json → Json,
      (withOverrides twoSources ((targetedPatches countingProject).map (patchJson value))).bind
          (fun json => (json.get "graph_overrides").bind (Json.get "patches")) =
        some (.arr [.obj [("fields", .arr [.obj [("name", .str "num_of_copies"),
            ("value", value (.str "$count(records[])"))]]),
          ("match", .obj [("equals", .str "Scatter")])]]) := by
    intro value
    rfl
  intro h
  have hread := congrArg (fun json : Option Json =>
    json.bind fun json => (json.get "graph_overrides").bind (Json.get "patches")) h
  have hcount : patchValue (graphPatchExpressionContext twoSources) (.str "$count(records[])") =
      .num (.int 1) := by decide +kernel
  have htotal : sourcesValue twoSources (.str "$count(records[])") = .num (.int 2) := by
    decide +kernel
  rw [applyProjectGraphPatches] at hread
  rw [hwritten, hwritten, hcount, htotal] at hread
  exact absurd hread (by decide +kernel)

/-! ### The validation -/

/-- The validation and the evaluation agree on the texts of a project's patches: a text is
evaluated when it was validated as an expression, and one that was is a function of one path, with
no parenthesis in it. -/
def ExpressionsAgree (config : ProjectConfig) : Prop :=
  ∀ patch ∈ config.graphPatches, ∀ field ∈ patch.fields.toList, ∀ s, field.2 = .str s →
    patch ∈ targetedPatches config ∧
      (∀ manifest, (evaluateExpression s manifest).isSome = true ↔ s.toList.head? = some '$') ∧
      (s.toList.head? = some '$' → ∃ call path, IsCall s.toList call path ∧
        (∀ manifest, evaluateExpression s manifest = some (callValue manifest (call, path))) ∧
        '(' ∉ path ∧ ')' ∉ path)

/-- No text is an expression behind white space, and a text that begins with `$` has one
parenthesis of each kind. -/
def PlainExpressions (config : ProjectConfig) : Prop :=
  ∀ patch ∈ config.graphPatches, ∀ field ∈ patch.fields.toList, ∀ s, field.2 = .str s →
    ((∃ c ∈ s.toList.head?, isWhitespace c = true) →
      ∀ call path, ¬ IsCall (trimChars s.toList) call path) ∧
    (s.toList.head? = some '$' → s.toList.count '(' = 1 ∧ s.toList.count ')' = 1)

theorem errorIf_eq_nil_iff {fails : Bool} {path code message : String} :
    errorIf fails path code message = [] ↔ fails = false := by
  cases fails <;> simp [errorIf]

/-- A text that was validated as an expression is one. -/
theorem isCall_of_checkExpression {index : ℕ} {field s : String}
    (h : checkExpression index field (.str s) = []) (hmark : s.toList.head? = some '$') :
    ∃ call path, IsCall s.toList call path := by
  have hopening : ∀ call : Call, call.opening.toList.isPrefixOf s.toList = true →
      s.toList.getLast? = some ')' → ∃ path, IsCall s.toList call path := by
    intro call hprefixed hclosed
    obtain ⟨rest, hrest⟩ := List.isPrefixOf_iff_prefix.mp hprefixed
    rcases List.eq_nil_or_concat rest with rfl | ⟨path, c, rfl⟩
    · -- the opening does not end with a closing parenthesis
      rw [← hrest, List.append_nil] at hclosed
      cases call <;> cases hclosed
    · rw [List.concat_eq_append, ← List.append_assoc] at hrest
      rw [← hrest, List.getLast?_concat] at hclosed
      cases hclosed
      exact ⟨path, hrest.symm⟩
  rw [checkExpression, Json.asStr] at h
  simp only [errorIf_eq_nil_iff, hmark, beq_self_eq_true, Bool.true_and, Bool.not_eq_false',
    Bool.or_eq_true, Bool.and_eq_true, beq_iff_eq] at h
  rcases h with ⟨hprefixed, hclosed⟩ | ⟨hprefixed, hclosed⟩
  · exact ⟨.count, hopening .count hprefixed hclosed⟩
  · exact ⟨.sum, hopening .sum hprefixed hclosed⟩

/-- What an accepted project's patches have been checked for. -/
theorem accepted_patch {config : ProjectConfig} (h : validateGraphPatches config = [])
    {patch : GraphPatch} (hpatch : patch ∈ config.graphPatches) :
    isBlank patch.matchEquals = false ∧
      ∀ field ∈ patch.fields.toList, ∀ s, field.2 = .str s → s.toList.head? = some '$' →
        ∃ call path, IsCall s.toList call path := by
  obtain ⟨index, hindex⟩ := List.mem_iff_getElem?.mp hpatch
  have hcheck : checkGraphPatch index patch = [] :=
    List.flatMap_eq_nil_iff.mp h (patch, index) (List.mk_mem_zipIdx_iff_getElem?.mpr hindex)
  simp only [checkGraphPatch, List.append_eq_nil_iff, errorIf_eq_nil_iff,
    List.flatMap_eq_nil_iff] at hcheck
  obtain ⟨⟨⟨-, hequals⟩, -⟩, hfields⟩ := hcheck
  refine ⟨hequals, ?_⟩
  intro field hfield s hs hmark
  exact isCall_of_checkExpression (hs ▸ (hfields field hfield).2) hmark

/-- White space apart, a text keeps its first character when it is trimmed. -/
theorem head?_trimChars {chars : List Char} (h : ∀ c ∈ chars.head?, isWhitespace c = false) :
    (trimChars chars).head? = chars.head? := by
  cases chars with
  | nil => rfl
  | cons c rest =>
      have hc : isWhitespace c = false := h c rfl
      have hdrop : (c :: rest).dropWhile isWhitespace = c :: rest :=
        List.dropWhile_cons_of_neg (by simp [hc])
      have hlast : [c].dropWhile isWhitespace = [c] := List.dropWhile_cons_of_neg (by simp [hc])
      rw [trimChars, hdrop, List.head?_reverse, List.reverse_cons, List.dropWhile_append, hlast]
      split
      · rfl
      · rw [List.getLast?_concat, List.head?_cons]

theorem IsCall.head?_eq {text path : List Char} {call : Call} (h : IsCall text call path) :
    text.head? = some '$' := by
  rw [h]
  cases call <;> rfl

theorem IsCall.count_parens {text path : List Char} {call : Call} (h : IsCall text call path) :
    text.count '(' = path.count '(' + 1 ∧ text.count ')' = path.count ')' + 1 := by
  rw [h]
  cases call <;> simp [Call.opening, List.count_append]

/-- The validation of an accepted project agrees with the evaluation exactly when its expressions
are plain. -/
theorem expressionsAgree_iff {config : ProjectConfig} (h : validateGraphPatches config = []) :
    ExpressionsAgree config ↔ PlainExpressions config := by
  refine forall₂_congr fun patch hpatch => forall₂_congr fun field hfield =>
    forall₂_congr fun s hs => ?_
  obtain ⟨hequals, hfields⟩ := accepted_patch h hpatch
  have htargeted : patch ∈ targetedPatches config :=
    List.mem_filter.mpr ⟨hpatch, by rw [hequals]; rfl⟩
  simp only [htargeted, true_and]
  by_cases hmark : s.toList.head? = some '$'
  · obtain ⟨call, path, hcall⟩ := hfields field hfield s hs hmark
    have heval : ∀ manifest, evaluateExpression s manifest =
        some (callValue manifest (call, path)) := by
      intro manifest
      rw [evaluateExpression_eq, hcall.trimChars_eq, readCall_eq_some_iff.mpr hcall]
      rfl
    obtain ⟨hopen, hclose⟩ := hcall.count_parens
    constructor
    · rintro ⟨-, hsingle⟩
      refine ⟨?_, fun _ => ?_⟩
      · rintro ⟨c, hc, hspace⟩
        rw [hmark] at hc
        cases hc
        cases hspace
      · obtain ⟨call', path', hcall', -, hopen', hclose'⟩ := hsingle hmark
        obtain ⟨-, rfl⟩ := hcall.unique hcall'
        rw [hopen, hclose, List.count_eq_zero.mpr hopen', List.count_eq_zero.mpr hclose']
        exact ⟨rfl, rfl⟩
    · rintro ⟨-, hcounts⟩
      obtain ⟨hone, hone'⟩ := hcounts hmark
      refine ⟨fun manifest => ?_, fun _ => ⟨call, path, hcall, heval, ?_, ?_⟩⟩
      · rw [heval manifest]
        exact iff_of_true rfl hmark
      · rw [← List.count_eq_zero]
        omega
      · rw [← List.count_eq_zero]
        omega
  · simp only [hmark, false_imp_iff, and_true, iff_false, Bool.not_eq_true,
      Option.isSome_eq_false_iff, Option.isNone_iff_eq_none]
    constructor
    · rintro hnone ⟨c, hc, hspace⟩ call path hcall
      have hnone' := hnone .null
      rw [evaluateExpression_eq, readCall_eq_some_iff.mpr hcall] at hnone'
      cases hnone'
    · intro hspace manifest
      rw [evaluateExpression_eq, Option.map_eq_none_iff, Option.eq_none_iff_forall_ne_some]
      rintro ⟨call, path⟩ hread
      have hcall := readCall_eq_some_iff.mp hread
      -- the white space in front is the only way to hide the mark
      by_cases hfirst : ∃ c ∈ s.toList.head?, isWhitespace c = true
      · exact hspace hfirst call path hcall
      · have hplain : ∀ c ∈ s.toList.head?, isWhitespace c = false := by
          intro c hc
          exact eq_false_of_ne_true fun hc' => hfirst ⟨c, hc, hc'⟩
        rw [← head?_trimChars hplain] at hmark
        exact hmark hcall.head?_eq

/-- The project that counts the records is accepted. -/
theorem expressionsAgree_countingProject :
    ExpressionsAgree countingProject ↔ PlainExpressions countingProject :=
  expressionsAgree_iff (by decide +kernel)

/-- A project with a blank before its expression. -/
def indentedProject : ProjectConfig where
  metadataId := "survey"
  graphPatches :=
    [{ matchKind := .nodeName
       matchEquals := "Scatter"
       fields := Std.ExtTreeMap.ofList [("num_of_copies", Json.str " $count(records[])")] }]

/-- A text that was validated as a literal is evaluated. -/
theorem validateGraphPatches_indented :
    validateGraphPatches indentedProject = [] ∧ ¬ ExpressionsAgree indentedProject := by
  refine ⟨by decide +kernel, ?_⟩
  intro h
  obtain ⟨-, hagree, -⟩ := h _ List.mem_cons_self ("num_of_copies", .str " $count(records[])")
    (by decide +kernel) _ rfl
  have hmark := (hagree .null).mp (by decide +kernel)
  exact absurd hmark (by decide)

end Beampipe.Project
