/-
When an inventory of outputs is valid.

The checks of a report run one after the other over its products and patterns, with the paths and
the size so far.  Together they are a conjunction: what the report has to be, whatever the order.

Main definitions:

* `Beampipe.SafeRelativePath` — a relative path that stays where it is;
* `Beampipe.ValidInventory` — what the report, the policy and the attempt have to agree on.

Main results:

* `Beampipe.validateProducts_ok_iff` — the products are safe, distinct and not too large together;
* `Beampipe.validateOutputVerificationRequestAt_ok_iff` — **when a report is valid, and for which
  total**.
-/

import Mathlib.Algebra.GroupWithZero.Nat
import Beampipe.OutputInventory
import Mathlib.Data.List.Perm.Subperm

set_option relaxedAutoImplicit false
set_option autoImplicit false

namespace Beampipe

/-! ### What a report has to be -/

/-- A relative path without empty, `.` and `..` components. -/
structure SafeRelativePath (path : String) : Prop where
  nonempty : path ≠ ""
  length : path.utf8ByteSize ≤ 4096
  relative : path.toList.head? ≠ some '/'
  noBackslash : '\\' ∉ path.toList
  noNul : Char.ofNat 0 ∉ path.toList
  components : ∀ component ∈ splitSlash path.toList,
    component ≠ [] ∧ component ≠ ['.'] ∧ component ≠ ['.', '.']

/-- The destination is an object store or a host, or an absolute file, without credentials, a query
and a fragment. -/
structure ValidDestination (url : Url) : Prop where
  bare : url.query = none ∧ url.fragment = none ∧ url.username = "" ∧ url.password = none
  admitted : (url.scheme = "s3" ∨ url.scheme = "gs" ∨ url.scheme = "https") ∧ url.hostStr.isSome ∨
    url.scheme = "file" ∧ url.path.toList.head? = some '/' ∧ 1 < url.path.utf8ByteSize

/-- A name of the acknowledgement has an admitted length. -/
def AdmittedName (value : String) : Prop := isBlank value = false ∧ value.utf8ByteSize ≤ 256

/-- The size of the products together. -/
def totalProductBytes (products : List OutputInventoryProduct) : ℕ := (products.map (·.bytes)).sum

/-- The report is valid for the attempt under the policy; `safe` is what is asked of the path of a
product. -/
structure ValidInventory (env : InventoryEnv) (safe : String → Prop)
    (request : ExecutionOutputVerificationRequest) (required : Bool) (policy : Json)
    (executionId : Uuid) (attempt now : ℤ) : Prop where
  required : required = true
  execution : request.executionId = executionId
  attempt : request.executionAttempt = attempt
  schema : policy.get "inventory_schema" = some (.str request.schema)
  supported : (outputInventoryMediaType request.schema).isSome
  patterns : expectedPatterns policy = some request.patterns
  nonempty : request.patterns ≠ []
  unique : request.patterns.Nodup
  counted : ∀ pattern, pattern ∈ request.patternCounts ↔ pattern ∈ request.patterns
  counts : ∀ pattern ∈ request.patterns, ∃ isMatch, compileOutputGlob env pattern = some isMatch ∧
    0 < (request.products.filter fun product => isMatch product.path).length ∧
      request.patternCounts[pattern]? =
        some (request.products.filter fun product => isMatch product.path).length
  products : 1 ≤ request.products.length ∧ request.products.length ≤ maxOutputProducts
  safePaths : ∀ product ∈ request.products, safe product.path
  distinct : (request.products.map (·.path)).Nodup
  sizes : ∀ product ∈ request.products, product.bytes ≠ 0
  digests : ∀ product ∈ request.products, validSha256 product.sha256
  fits : totalProductBytes request.products < 18446744073709551616
  inventory : validSha256 request.inventorySha256 ∧
    request.inventorySha256 = canonicalProductsSha256 env request.products
  destination : ∃ url, env.parseUrl request.durableDestinationUri = some url ∧ ValidDestination url
  acknowledged : request.publication.acknowledged = true
  publisher : AdmittedName request.publication.publisher
  receiptId : AdmittedName request.publication.receiptId
  published : request.publication.publishedAt ≤ now + 300000000000

/-! ### The checks, one by one -/

theorem ensure_eq_ok_iff {passes : Bool} {error : OutputInventoryValidationError} :
    ensure passes error = .ok () ↔ passes = true := by
  cases passes with
  | false => exact iff_of_false (fun h => nomatch h) (by decide)
  | true => exact iff_of_true rfl rfl

/-- What is checked before has succeeded. -/
theorem unit_bind_eq_ok_iff {β : Type} {x : Except OutputInventoryValidationError Unit}
    {f : Unit → Except OutputInventoryValidationError β} {b : β} :
    x >>= f = .ok b ↔ x = .ok () ∧ f () = .ok b := by
  rw [exceptBind_eq_ok_iff]
  exact ⟨fun ⟨(), h⟩ => h, fun h => ⟨(), h⟩⟩

/-- A check of every item. -/
theorem forM_eq_ok_iff {α : Type} {f : α → Except OutputInventoryValidationError Unit}
    {items : List α} : items.forM f = .ok () ↔ ∀ item ∈ items, f item = .ok () := by
  induction items with
  | nil => exact iff_of_true rfl fun item h => (List.not_mem_nil h).elim
  | cons item items ih =>
      rw [List.forM_eq_forM, List.forM_cons, unit_bind_eq_ok_iff, ← List.forM_eq_forM, ih,
        List.forall_mem_cons]

/-- The path of a product, without white space at its ends, is safe. -/
theorem isUnsafePath_eq_false_iff (productPath : String) :
    isUnsafePath productPath = false ↔ SafeRelativePath (trim productPath) := by
  unfold isUnsafePath isUnsafeComponent
  simp only [Bool.or_eq_false_iff, decide_eq_false_iff_not, not_lt, List.isEmpty_eq_false_iff,
    beq_eq_false_iff_ne, List.contains_eq_mem, List.any_eq_false, Bool.or_eq_true,
    List.isEmpty_iff, beq_iff_eq, not_or]
  constructor
  · rintro ⟨⟨⟨⟨⟨hne, hlength⟩, hrelative⟩, hbackslash⟩, hnul⟩, hcomponents⟩
    refine ⟨fun h => hne (by rw [h]; rfl), hlength, hrelative, hbackslash, hnul, ?_⟩
    exact fun component h => ⟨(hcomponents component h).1.1, (hcomponents component h).1.2,
      (hcomponents component h).2⟩
  · intro h
    refine ⟨⟨⟨⟨⟨fun hnil => h.nonempty ?_, h.length⟩, h.relative⟩, h.noBackslash⟩, h.noNul⟩, ?_⟩
    · exact String.toList_eq_nil_iff.mp hnil
    · exact fun component hmem => ⟨⟨(h.components component hmem).1,
        (h.components component hmem).2.1⟩, (h.components component hmem).2.2⟩

/-- **The products are safe, distinct and not too large together**, and the total is their size. -/
theorem validateProducts_ok_iff {paths : List String} {before total : ℕ}
    {products : List OutputInventoryProduct} (hbefore : before < 18446744073709551616) :
    validateProducts paths before products = .ok total ↔
      (∀ product ∈ products, SafeRelativePath (trim product.path) ∧ product.bytes ≠ 0 ∧
        validSha256 product.sha256) ∧
      (products.map (·.path)).Nodup ∧ (∀ product ∈ products, product.path ∉ paths) ∧
      before + totalProductBytes products < 18446744073709551616 ∧
      total = before + totalProductBytes products := by
  induction products generalizing paths before with
  | nil =>
      constructor
      · intro h
        obtain rfl := Except.ok.inj h
        exact ⟨fun _ h => (List.not_mem_nil h).elim, List.nodup_nil,
          fun _ h => (List.not_mem_nil h).elim, hbefore, rfl⟩
      · rintro ⟨-, -, -, -, rfl⟩
        rfl
  | cons product products ih =>
      rw [validateProducts]
      simp only [unit_bind_eq_ok_iff, ensure_eq_ok_iff, Bool.not_eq_true',
        isUnsafePath_eq_false_iff, bne_iff_ne, decide_eq_true_eq, List.contains_eq_mem,
        decide_eq_false_iff_not, List.forall_mem_cons, List.map_cons, List.nodup_cons]
      have htotal : totalProductBytes (product :: products) =
          product.bytes + totalProductBytes products := by
        simp [totalProductBytes]
      rw [htotal, ← Nat.add_assoc]
      constructor
      · rintro ⟨hsafe, hsize, hnew, hdigest, hfits, hrest⟩
        obtain ⟨hall, hdistinct, hfresh, hfits', rfl⟩ := (ih hfits).mp hrest
        refine ⟨⟨⟨hsafe, hsize, hdigest⟩, hall⟩, ⟨?_, hdistinct⟩, ⟨hnew, ?_⟩, hfits', rfl⟩
        · intro hmem
          obtain ⟨other, hother, heq⟩ := List.mem_map.mp hmem
          exact hfresh other hother (heq ▸ List.mem_cons_self)
        · exact fun other hother hmem => hfresh other hother (List.mem_cons_of_mem _ hmem)
      · rintro ⟨⟨⟨hsafe, hsize, hdigest⟩, hall⟩, ⟨hnotMem, hdistinct⟩, ⟨hnew, hfresh⟩, hfits, rfl⟩
        -- the sum does not overflow at this product, for it does not with the later ones
        have hstep : before + product.bytes < 18446744073709551616 := by omega
        refine ⟨hsafe, hsize, hnew, hdigest, hstep, (ih hstep).mpr
          ⟨hall, hdistinct, fun other hother hmem => ?_, hfits, rfl⟩⟩
        rcases List.mem_cons.mp hmem with heq | hmem
        · exact hnotMem (List.mem_map.mpr ⟨other, hother, heq⟩)
        · exact hfresh other hother hmem

/-- What follows the products is about their size together. -/
theorem validateProducts_bind_eq_ok_iff {products : List OutputInventoryProduct} {β : Type}
    {f : ℕ → Except OutputInventoryValidationError β} {b : β} :
    validateProducts [] 0 products >>= f = .ok b ↔
      ((∀ product ∈ products, SafeRelativePath (trim product.path) ∧ product.bytes ≠ 0 ∧
        validSha256 product.sha256) ∧
      (products.map (·.path)).Nodup ∧ totalProductBytes products < 18446744073709551616) ∧
      f (totalProductBytes products) = .ok b := by
  have hzero : 0 < 18446744073709551616 := Nat.zero_lt_succ _
  constructor
  · intro h
    cases hproducts : validateProducts [] 0 products with
    | error error =>
        rw [hproducts] at h
        cases h
    | ok total =>
        obtain ⟨hall, hnodup, -, hfits, rfl⟩ := (validateProducts_ok_iff hzero).mp hproducts
        rw [hproducts] at h
        rw [Nat.zero_add] at hfits h
        exact ⟨⟨hall, hnodup, hfits⟩, h⟩
  · rintro ⟨⟨hall, hnodup, hfits⟩, h⟩
    have hproducts : validateProducts [] 0 products = .ok (totalProductBytes products) :=
      (validateProducts_ok_iff hzero).mpr ⟨hall, hnodup, fun _ _ => List.not_mem_nil,
        (Nat.zero_add _).symm ▸ hfits, (Nat.zero_add _).symm⟩
    rw [hproducts]
    exact h

section Env

variable {env : InventoryEnv}

/-- The schema that a policy names. -/
theorem bind_asStr_eq_some_iff {value : Option Json} {text : String} :
    value.bind Json.asStr = some text ↔ value = some (.str text) := by
  rcases value with - | (- | b | n | raw | items | fields) <;>
    simp [Json.asStr]

/-- The count of a pattern is the positive number of products it matches. -/
theorem validatePatternCount_ok_iff {request : ExecutionOutputVerificationRequest}
    {pattern : String} :
    validatePatternCount env request pattern = .ok () ↔
      ∃ isMatch, compileOutputGlob env pattern = some isMatch ∧
        0 < (request.products.filter fun product => isMatch product.path).length ∧
        request.patternCounts[pattern]?.getD 0 =
          (request.products.filter fun product => isMatch product.path).length := by
  unfold validatePatternCount
  cases hcompile : compileOutputGlob env pattern with
  | none => exact iff_of_false (fun h => nomatch h) fun ⟨_, h, _⟩ => nomatch h
  | some isMatch =>
      simp only [ensure_eq_ok_iff, Bool.and_eq_true, bne_iff_ne, beq_iff_eq, Option.some.injEq,
        exists_eq_left', Nat.pos_iff_ne_zero]

/-- A publisher and a receipt have an admitted length. -/
theorem validatePublicationField_ok_iff {field value : String} :
    validatePublicationField field value = .ok () ↔ AdmittedName value := by
  rw [validatePublicationField, ensure_eq_ok_iff, Bool.and_eq_true, Bool.not_eq_true',
    decide_eq_true_iff, AdmittedName]

/-- The scheme of a destination is admitted. -/
theorem admitted_destination_iff (url : Url) :
    (match url.scheme with
      | "s3" | "gs" | "https" => url.hostStr.isSome
      | "file" => url.path.toList.head? == some '/' && decide (1 < url.path.utf8ByteSize)
      | _ => false) = true ↔
      (url.scheme = "s3" ∨ url.scheme = "gs" ∨ url.scheme = "https") ∧ url.hostStr.isSome ∨
        url.scheme = "file" ∧ url.path.toList.head? = some '/' ∧ 1 < url.path.utf8ByteSize := by
  split
  next heq => simp [heq]
  next heq => simp [heq]
  next heq => simp [heq]
  next heq => simp [heq]
  next hs3 hgs hhttps hfile =>
      refine iff_of_false Bool.false_ne_true ?_
      rintro (⟨h | h | h, -⟩ | ⟨h, -⟩)
      · exact hs3 h
      · exact hgs h
      · exact hhttps h
      · exact hfile h

theorem validateDurableDestinationUri_ok_iff {value : String} :
    validateDurableDestinationUri env value = .ok () ↔
      ∃ url, env.parseUrl value = some url ∧ ValidDestination url := by
  unfold validateDurableDestinationUri
  cases hparse : env.parseUrl value with
  | none => exact iff_of_false (fun h => nomatch h) fun ⟨_, h, _⟩ => nomatch h
  | some url =>
      simp only [unit_bind_eq_ok_iff, ensure_eq_ok_iff, Bool.and_eq_true,
        Option.isNone_iff_eq_none, String.isEmpty_iff, Option.some.injEq, exists_eq_left']
      constructor
      · rintro ⟨⟨⟨⟨hquery, hfragment⟩, husername⟩, hpassword⟩, hadmitted⟩
        exact ⟨⟨hquery, hfragment, husername, hpassword⟩,
          (admitted_destination_iff url).mp hadmitted⟩
      · rintro ⟨⟨hquery, hfragment, husername, hpassword⟩, hadmitted⟩
        exact ⟨⟨⟨⟨hquery, hfragment⟩, husername⟩, hpassword⟩,
          (admitted_destination_iff url).mpr hadmitted⟩

/-- Counts for all patterns, as many as there are patterns, are counts for the patterns. -/
theorem counted_of_size {patterns : List String} {counts : BTreeMap ℕ} (hnodup : patterns.Nodup)
    (hsize : counts.size = patterns.length) (hall : ∀ pattern ∈ patterns, pattern ∈ counts) :
    ∀ pattern, pattern ∈ counts ↔ pattern ∈ patterns := by
  have hkeys : ∀ pattern, pattern ∈ counts.keys ↔ pattern ∈ counts :=
    fun pattern => Std.ExtTreeMap.mem_keys
  -- as many distinct patterns as keys, and all of them keys, are the keys
  have hsub : patterns ⊆ counts.keys := fun pattern h => (hkeys pattern).mpr (hall pattern h)
  have hperm : patterns.Perm counts.keys :=
    (hnodup.subperm hsub).perm_of_length_le (by rw [Std.ExtTreeMap.length_keys, hsize])
  intro pattern
  rw [← hkeys, hperm.mem_iff]

theorem size_of_counted {patterns : List String} {counts : BTreeMap ℕ} (hnodup : patterns.Nodup)
    (hcounted : ∀ pattern, pattern ∈ counts ↔ pattern ∈ patterns) :
    counts.size = patterns.length := by
  have hperm : patterns.Perm counts.keys := by
    rw [List.perm_ext_iff_of_nodup hnodup Std.ExtTreeMap.nodup_keys]
    exact fun pattern => (hcounted pattern).symm.trans Std.ExtTreeMap.mem_keys.symm
  rw [← Std.ExtTreeMap.length_keys, hperm.length_eq]

/-- The patterns are distinct and each of them has one positive count. -/
theorem counts_iff {request : ExecutionOutputVerificationRequest} :
    ((request.patterns.Nodup ∧ request.patternCounts.size = request.patterns.length) ∧
        (request.patterns.all fun pattern => request.patternCounts.contains pattern &&
          (compileOutputGlob env pattern).isSome) = true) ∧
        (request.patternCounts.toList.all fun entry => entry.2 != 0) = true ↔
      request.patterns.Nodup ∧
        (∀ pattern, pattern ∈ request.patternCounts ↔ pattern ∈ request.patterns) ∧
        (∀ pattern ∈ request.patterns, (compileOutputGlob env pattern).isSome) ∧
        ∀ (pattern : String) (count : ℕ), request.patternCounts[pattern]? = some count →
          count ≠ 0 := by
  simp only [Bool.and_eq_true, List.all_eq_true, Std.ExtTreeMap.contains_iff_mem, bne_iff_ne]
  constructor
  · rintro ⟨⟨⟨hnodup, hsize⟩, hall⟩, hpositive⟩
    refine ⟨hnodup, counted_of_size hnodup hsize fun pattern h => (hall pattern h).1,
      fun pattern h => (hall pattern h).2, fun pattern count h => ?_⟩
    exact hpositive (pattern, count) (Std.ExtTreeMap.mem_toList_iff_getElem?_eq_some.mpr h)
  · rintro ⟨hnodup, hcounted, hcompile, hpositive⟩
    refine ⟨⟨⟨hnodup, size_of_counted hnodup hcounted⟩, fun pattern h =>
      ⟨(hcounted pattern).mpr h, hcompile pattern h⟩⟩, fun entry h => ?_⟩
    exact hpositive entry.1 entry.2 (Std.ExtTreeMap.mem_toList_iff_getElem?_eq_some.mp h)

section Valid

variable {safe : String → Prop} {request : ExecutionOutputVerificationRequest} {required : Bool}
  {policy : Json} {executionId : Uuid} {attempt now : ℤ}

/-- The patterns of a valid report are globs. -/
theorem ValidInventory.compiles
    (h : ValidInventory env safe request required policy executionId attempt now) :
    ∀ pattern ∈ request.patterns, (compileOutputGlob env pattern).isSome := by
  intro pattern hmem
  obtain ⟨isMatch, hcompile, -⟩ := h.counts pattern hmem
  exact Option.isSome_iff_exists.mpr ⟨isMatch, hcompile⟩

/-- The counts of a valid report are positive. -/
theorem ValidInventory.positive
    (h : ValidInventory env safe request required policy executionId attempt now) :
    ∀ (pattern : String) (count : ℕ), request.patternCounts[pattern]? = some count →
      count ≠ 0 := by
  intro pattern count hcount
  have hmem : pattern ∈ request.patternCounts :=
    Std.ExtTreeMap.mem_iff_isSome_getElem?.mpr (Option.isSome_iff_exists.mpr ⟨count, hcount⟩)
  obtain ⟨isMatch, -, hpositive, hentry⟩ := h.counts pattern ((h.counted pattern).mp hmem)
  obtain rfl := Option.some.inj (hcount.symm.trans hentry)
  exact Nat.pos_iff_ne_zero.mp hpositive

end Valid

/-- **When a report is valid**: the checks in their order are the conjunction of what they ask, and
the total is the size of the products together. -/
theorem validateOutputVerificationRequestAt_ok_iff (env : InventoryEnv)
    (request : ExecutionOutputVerificationRequest) (required : Bool) (policy : Json)
    (executionId : Uuid) (attempt now : ℤ) (total : ℕ) :
    validateOutputVerificationRequestAt env request required policy executionId attempt now =
        .ok total ↔
      ValidInventory env (fun path => SafeRelativePath (trim path)) request required policy
          executionId attempt now ∧
        total = totalProductBytes request.products := by
  unfold validateOutputVerificationRequestAt
  cases hschema : (policy.get "inventory_schema").bind Json.asStr with
  | none =>
      refine iff_of_false ?_ fun h => ?_
      · simp only [unit_bind_eq_ok_iff]
        exact fun h => nomatch h.2.2.2
      · rw [bind_asStr_eq_some_iff.mpr h.1.schema] at hschema
        cases hschema
  | some expectedSchema =>
      cases hpatterns : expectedPatterns policy with
      | none =>
          refine iff_of_false ?_ fun h => ?_
          · simp only [unit_bind_eq_ok_iff]
            exact fun h => nomatch h.2.2.2.2.2
          · rw [h.1.patterns] at hpatterns
            cases hpatterns
      | some patterns =>
          simp only [unit_bind_eq_ok_iff, validateProducts_bind_eq_ok_iff, ensure_eq_ok_iff,
            forM_eq_ok_iff, validatePatternCount_ok_iff, validatePublicationField_ok_iff,
            validateDurableDestinationUri_ok_iff, beq_iff_eq, Bool.and_eq_true, decide_eq_true_eq,
            Bool.not_eq_true', List.isEmpty_eq_false_iff]
          constructor
          · rintro ⟨hrequired, hexecution, hattempt, rfl, hsupported, hnonempty, rfl, hcounts,
              hlength, ⟨hall, hdistinct, hfits⟩, hmatches, hdigest, hinventory, hdestination,
              hacknowledged, hpublisher, hreceipt, hpublished, htotal⟩
            obtain ⟨hunique, hcounted, -, -⟩ := counts_iff.mp hcounts
            refine ⟨?_, (Except.ok.inj htotal).symm⟩
            refine { required := hrequired, execution := hexecution, attempt := hattempt,
                     schema := bind_asStr_eq_some_iff.mp hschema, supported := hsupported,
                     patterns := hpatterns, nonempty := hnonempty, unique := hunique,
                     counted := hcounted, counts := fun pattern hmem => ?_,
                     products := ⟨List.length_pos_iff.mpr hlength.1, hlength.2⟩,
                     safePaths := fun product h => (hall product h).1, distinct := hdistinct,
                     sizes := fun product h => (hall product h).2.1,
                     digests := fun product h => (hall product h).2.2, fits := hfits,
                     inventory := ⟨hdigest, hinventory⟩, destination := hdestination,
                     acknowledged := hacknowledged, publisher := hpublisher,
                     receiptId := hreceipt, published := hpublished }
            -- a missing count is read as 0, but every pattern has one
            obtain ⟨isMatch, hcompile, hpositive, hcount⟩ := hmatches pattern hmem
            refine ⟨isMatch, hcompile, hpositive, ?_⟩
            have hentry : request.patternCounts[pattern]?.isSome :=
              Std.ExtTreeMap.mem_iff_isSome_getElem?.mp ((hcounted pattern).mpr hmem)
            obtain ⟨count, hentry⟩ := Option.isSome_iff_exists.mp hentry
            rw [← hcount, hentry, Option.getD_some]
          · rintro ⟨h, rfl⟩
            obtain rfl : expectedSchema = request.schema :=
              Option.some.inj (hschema.symm.trans (bind_asStr_eq_some_iff.mpr h.schema))
            obtain rfl : patterns = request.patterns :=
              Option.some.inj (hpatterns.symm.trans h.patterns)
            have hcounts := counts_iff.mpr ⟨h.unique, h.counted, h.compiles, h.positive⟩
            refine ⟨h.required, h.execution, h.attempt, rfl, h.supported, h.nonempty, rfl, hcounts,
              ⟨List.length_pos_iff.mp h.products.1, h.products.2⟩,
              ⟨fun product hmem => ⟨h.safePaths product hmem, h.sizes product hmem,
                h.digests product hmem⟩, h.distinct, h.fits⟩,
              fun pattern hmem => ?_, h.inventory.1, h.inventory.2, h.destination,
              h.acknowledged, h.publisher, h.receiptId, h.published, rfl⟩
            obtain ⟨isMatch, hcompile, hpositive, hcount⟩ := h.counts pattern hmem
            exact ⟨isMatch, hcompile, hpositive, by rw [hcount, Option.getD_some]⟩

end Env

/-! ### White space around a path -/

/-- What the report of this section is checked with. -/
def spacedEnv : InventoryEnv :=
  { text := .plain
    digest := fun _ => "216a265d46b77ea2ba992d4c11ccdf04a1ae5676bcd7c670076f956bc0ac2f79"
    uuidText := fun _ => "00000000-0000-0000-0000-000000000001"
    timeText := fun _ => "1970-01-01T00:00:00Z"
    fromValue := fun _ => .error "missing field"
    buildGlob := fun _ => some fun path => !path.toList.contains '/'
    parseUrl := fun _ => some ⟨"s3", "", none, some "archive", "/1", none, none⟩ }

/-- The report of a product whose name starts with white space. -/
def spacedReport : ExecutionOutputVerificationRequest where
  executionId := 1
  executionAttempt := 0
  schema := beampipeOutputInventorySchema
  patterns := ["*"]
  patternCounts := Std.ExtTreeMap.ofList [("*", 1)] compare
  products := [⟨" .", 4, "0123456789abcdef0123456789abcdef0123456789abcdef0123456789abcdef"⟩]
  inventorySha256 := "216a265d46b77ea2ba992d4c11ccdf04a1ae5676bcd7c670076f956bc0ac2f79"
  durableDestinationUri := "s3://archive/1"
  publication := ⟨true, "archive", "receipt", 0⟩

/-- The policy under which it is checked. -/
def spacedPolicy : Json :=
  .obj [("inventory_schema", .str beampipeOutputInventorySchema),
    ("expected_patterns", .arr [.str "*"])]

/-- A path that is safe as it stands is refused when it is not safe without white space at its
ends. -/
theorem spaced_path_refused :
    ValidInventory spacedEnv SafeRelativePath spacedReport true spacedPolicy 1 0 0 ∧
      ∀ total, validateOutputVerificationRequestAt spacedEnv spacedReport true spacedPolicy 1 0 0 ≠
        .ok total := by
  have hsafe : SafeRelativePath " ." :=
    ⟨by decide, by decide, by decide, by decide, by decide, by decide +kernel⟩
  have hrefused : (validateOutputVerificationRequestAt spacedEnv spacedReport true spacedPolicy 1 0
      0).toOption = none := by decide +kernel
  have hkeys : ∀ pattern, pattern ∈ spacedReport.patternCounts ↔
      pattern ∈ spacedReport.patterns := by
    intro pattern
    rw [← Std.ExtTreeMap.mem_keys, show spacedReport.patternCounts.keys = ["*"] by decide +kernel]
    rfl
  refine ⟨?_, fun total htotal => ?_⟩
  · refine { required := rfl, execution := rfl, attempt := rfl, schema := by decide,
             supported := by decide, patterns := by decide, nonempty := by decide,
             unique := by decide, counted := hkeys, counts := ?_, products := by decide,
             safePaths := ?_, distinct := by decide, sizes := by decide,
             digests := by decide +kernel, fits := by decide, inventory := by decide +kernel,
             destination := ?_, acknowledged := rfl, publisher := ⟨by decide +kernel, by decide⟩,
             receiptId := ⟨by decide +kernel, by decide⟩, published := by decide }
    · rintro pattern hmem
      obtain rfl := List.mem_singleton.mp hmem
      have hcompile : compileOutputGlob spacedEnv "*" =
          some fun path => !path.toList.contains '/' := if_pos (by decide +kernel)
      exact ⟨_, hcompile, by decide +kernel, by decide +kernel⟩
    · intro product hmem
      obtain rfl := List.mem_singleton.mp hmem
      exact hsafe
    · exact ⟨_, rfl, ⟨rfl, rfl, rfl, rfl⟩, .inl ⟨.inl rfl, rfl⟩⟩
  · rw [htotal] at hrefused
    cases hrefused

end Beampipe
