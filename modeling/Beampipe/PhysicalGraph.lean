/-
The physical graph that is handed to the drop manager.

The translator answers with a list of drops and a reproducibility record.  Before a session is
deployed the drops are completed with the members that the manager's display reads, and the drops
that nothing leads into are triggered as roots.  Edges are declared at either end, and their links
are written in several ways.

Main definitions:

* `Beampipe.links`, `Beampipe.getRoots` — the links as they are read, and the roots;
* `Beampipe.preparePhysicalGraph`, `Beampipe.normalizeDropForDim` — the completed graph;
* `Beampipe.LinksTo`, `Beampipe.DeclaresEdge` — the edges that a graph declares;
* `Beampipe.Completes` — what may differ between a drop and the completed one.

Main results:

* `Beampipe.mem_getRoots` — the roots are the drops that are not read as the end of an edge;
* `Beampipe.getRoots_iff` — **when the roots are the drops without a declared edge**;
* `Beampipe.preparePhysicalGraph_spec` — **completing a graph is idempotent, keeps its drops and its
  roots, and changes nothing that was there**.
-/

import Beampipe.StableJson
import Mathlib.Data.List.Dedup

set_option relaxedAutoImplicit false
set_option autoImplicit false

namespace Beampipe

/-! ### Values -/

namespace Json

/-- `Value::is_null`. -/
def isNull : Json → Bool
  | .null => true
  | _ => false

/-- The string under a key, empty when there is none. -/
def textAt (key : String) (value : Json) : String := ((value.get key).bind asStr).getD ""

end Json

/-! ### Drops -/

/-- The oid of a drop; other items have none. -/
def dropOid (item : Json) : Option String := (item.get "oid").bind Json.asStr

/-- The category of a drop, its type where it has no category. -/
def dropCategory (drop : Json) : String :=
  (((drop.get "categoryType").or (drop.get "type")).bind Json.asStr).getD ""

/-! ### Completing a graph -/

/-- The type that stands for a category. -/
def typeOfCategory : String → Option String
  | "Application" | "app" => some "app"
  | "Data" | "data" | "plain" => some "plain"
  | "Socket" | "socket" => some "socket"
  | "Container" | "container" => some "container"
  | _ => none

/-- The type of a drop, from its category. -/
def fillType (drop : Json) : Json :=
  if (drop.textAt "type").isEmpty then
    match typeOfCategory (drop.textAt "categoryType") with
    | some mapped => Json.insert "type" (.str mapped) drop
    | none => drop
  else drop

/-- The application of a drop of type `app`, from its class. -/
def fillApp (drop : Json) : Json :=
  if drop.textAt "type" = "app" ∧ (drop.textAt "app").isEmpty ∧
      ¬(drop.textAt "dropclass").isEmpty then
    Json.insert "app" (.str (drop.textAt "dropclass")) drop
  else drop

/-- The instance id of a drop, as it is displayed. -/
def instanceText (t : ScalarText) (drop : Json) : String :=
  match drop.get "iid" with
  | none => "0"
  | some (.str iid) => iid
  | some iid => String.ofList (iid.toText t)

/-- The name that is displayed. -/
def fillHumanReadableKey (t : ScalarText) (humanIndex : ℕ) (drop : Json) : Json :=
  if (drop.get "humanReadableKey").all Json.isNull then
    Json.insert "humanReadableKey" (.str (toString humanIndex ++ "_" ++ instanceText t drop)) drop
  else drop

/-- `normalize_drop_for_dim`. -/
def normalizeDropForDim (t : ScalarText) (drop : Json) (humanIndex : ℕ) : Json :=
  fillHumanReadableKey t humanIndex (fillApp (fillType drop))

/-- The item is a reproducibility record: an object with a mode and without an oid. -/
def isReproRecord (item : Json) : Bool := (dropOid item).isNone && (item.get "rmode").isSome

/-- `prepare_physical_graph`: the last reproducibility record follows the drops. -/
def preparePhysicalGraph (t : ScalarText) (pgSpec : List Json) : List Json :=
  let drops := pgSpec.filter fun item => (dropOid item).isSome
  (drops.zipIdx.map fun drop => normalizeDropForDim t drop.1 (drop.2 + 1)) ++
    (pgSpec.filter isReproRecord).getLast?.toList

/-! ### The roots -/

/-- The links of one item of a list. -/
def itemLinks (t : ScalarText) : Json → List String
  | .obj fields => fields.map Prod.fst
  | .arr inner => inner.filterMap Json.asStr
  | item => [String.ofList (item.toText t)]

/-- `links`. -/
def links (t : ScalarText) : Json → List String
  | .arr items => items.flatMap (itemLinks t)
  | .obj fields => fields.map Prod.fst
  | _ => []

/-- The members of a drop that declare an edge into it, and those that list where its edges lead:
of an application or socket drop, of a data drop, of another one. -/
def edgeMembers : String → List String × List String
  | "Application" | "app" | "Socket" | "socket" => (["inputs", "streamingInputs"], ["outputs"])
  | "Data" | "data" | "plain" => (["producers"], ["consumers", "streamingConsumers"])
  | _ => ([], [])

/-- What one drop adds to `nonroots`. -/
def nonrootsOf (t : ScalarText) (item : Json) : List String :=
  match dropOid item with
  | none => []
  | some oid =>
      let members := edgeMembers (dropCategory item)
      (if members.1.any fun key => (item.get key).isSome then [oid] else []) ++
        members.2.flatMap fun key => ((item.get key).map (links t)).getD []

/-- `get_roots`. -/
def getRoots (t : ScalarText) (pgSpec : List Json) : List String :=
  let nonroots := pgSpec.flatMap (nonrootsOf t)
  ((pgSpec.filterMap dropOid).filter fun oid => !nonroots.contains oid).dedup.insertionSort
    (· ≤ ·)

/-! ### The edges a graph declares -/

/-- The value is a list or an object with something in it. -/
def Json.isFilled : Json → Bool
  | .arr (_ :: _) | .obj (_ :: _) => true
  | _ => false

/-- An item of a list of links that is not a plain oid names the oid: the object has it as its only
key, or the array has it among its strings. -/
inductive ItemNames : Json → String → Prop
  | key (oid : String) (value : Json) : ItemNames (.obj [(oid, value)]) oid
  | oids {inner : List Json} {oid : String} (h : .str oid ∈ inner) : ItemNames (.arr inner) oid

/-- Links name the oid otherwise than as a plain oid in a list. -/
inductive LinksName : Json → String → Prop
  | list {items : List Json} {item : Json} {oid : String} (hitem : item ∈ items)
      (h : ItemNames item oid) : LinksName (.arr items) oid
  | keyed {fields : List (String × Json)} {oid : String} (h : oid ∈ fields.map Prod.fst) :
      LinksName (.obj fields) oid

/-- Links name the oid as a plain oid in a list. -/
inductive LinksListOid : Json → String → Prop
  | list {items : List Json} {oid : String} (h : .str oid ∈ items) : LinksListOid (.arr items) oid

/-- Links lead to the oid, in one of their encodings. -/
def LinksTo (value : Json) (oid : String) : Prop := LinksName value oid ∨ LinksListOid value oid

/-- The drop has the oid, and one of the members that declare an edge into it with this value. -/
def OwnMember (drop : Json) (oid : String) (value : Json) : Prop :=
  dropOid drop = some oid ∧ ∃ key ∈ (edgeMembers (dropCategory drop)).1, drop.get key = some value

/-- The drop lists where its edges lead in this value. -/
def LinkMember (drop value : Json) : Prop :=
  (dropOid drop).isSome ∧ ∃ key ∈ (edgeMembers (dropCategory drop)).2, drop.get key = some value

/-- **The drop declares an edge into the oid**: by its own inputs or producers, which are not empty,
or by the links of its outputs or consumers. -/
def DeclaresEdge (drop : Json) (oid : String) : Prop :=
  (∃ value, OwnMember drop oid value ∧ value.isFilled) ∨
    ∃ value, LinkMember drop value ∧ LinksTo value oid

/-- An item of a list of links is no link to the oid, and is read as one: an object with several
keys, or a value whose text is the oid. -/
inductive ItemMisread (t : ScalarText) : Json → String → Prop
  | keys {fields : List (String × Json)} {oid : String} (h : oid ∈ fields.map Prod.fst)
      (hseveral : fields.length ≠ 1) : ItemMisread t (.obj fields) oid
  | text {item : Json} (hitem : ∀ fields, item ≠ .obj fields)
      (hitem' : ∀ inner, item ≠ .arr inner) :
      ItemMisread t item (String.ofList (item.toText t))

/-- The drop declares an edge into the oid that is read as one. -/
def DeclaresReadEdge (drop : Json) (oid : String) : Prop :=
  (∃ value, OwnMember drop oid value ∧ value.isFilled) ∨
    ∃ value, LinkMember drop value ∧ LinksName value oid

/-- The drop names the oid as a plain oid in a list of links, which is read with its quotation
marks. -/
def ListsOid (drop : Json) (oid : String) : Prop :=
  ∃ value, LinkMember drop value ∧ LinksListOid value oid

/-- The drop is read as declaring an edge into the oid by something that is none: inputs or
producers that are empty, or an item of a list of links that is no link. -/
def MisreadEdge (t : ScalarText) (drop : Json) (oid : String) : Prop :=
  (∃ value, OwnMember drop oid value ∧ value.isFilled = false) ∨
    ∃ items, LinkMember drop (.arr items) ∧ ∃ item ∈ items, ItemMisread t item oid

theorem declaresEdge_iff {drop : Json} {oid : String} :
    DeclaresEdge drop oid ↔ DeclaresReadEdge drop oid ∨ ListsOid drop oid := by
  constructor
  · rintro (hown | ⟨value, hmember, hnames | hlists⟩)
    · exact .inl (.inl hown)
    · exact .inl (.inr ⟨value, hmember, hnames⟩)
    · exact .inr ⟨value, hmember, hlists⟩
  · rintro ((hown | ⟨value, hmember, hnames⟩) | ⟨value, hmember, hlists⟩)
    · exact .inl hown
    · exact .inr ⟨value, hmember, .inl hnames⟩
    · exact .inr ⟨value, hmember, .inr hlists⟩

/-! ### What is read as an edge -/

section Reading

variable {t : ScalarText}

theorem mem_itemLinks {item : Json} {oid : String} :
    oid ∈ itemLinks t item ↔ ItemNames item oid ∨ ItemMisread t item oid := by
  cases item with
  | obj fields =>
      constructor
      · intro h
        by_cases hone : fields.length = 1
        · obtain ⟨⟨key, value⟩, rfl⟩ := List.length_eq_one_iff.mp hone
          obtain rfl : oid = key := by simpa [itemLinks] using h
          exact .inl (.key oid value)
        · exact .inr (.keys h hone)
      · rintro (hnames | hmisread)
        · cases hnames
          exact List.mem_cons_self
        · cases hmisread with
          | keys h hseveral => exact h
          | text hitem => exact absurd rfl (hitem fields)
  | arr inner =>
      constructor
      · intro h
        obtain ⟨value, hvalue, hstr⟩ := List.mem_filterMap.mp h
        cases value with
        | str s =>
            obtain rfl := Option.some.inj hstr
            exact .inl (.oids hvalue)
        | _ => cases hstr
      · rintro (hnames | hmisread)
        · cases hnames with
          | oids h => exact List.mem_filterMap.mpr ⟨_, h, rfl⟩
        · cases hmisread with
          | text hitem hitem' => exact absurd rfl (hitem' inner)
  | null | bool _ | num _ | str _ =>
      constructor
      · intro h
        obtain rfl := List.mem_singleton.mp h
        exact .inr (.text (fun fields heq => nomatch heq) fun inner heq => nomatch heq)
      · rintro (hnames | hmisread)
        · cases hnames
        · cases hmisread
          exact List.mem_singleton_self _

theorem mem_links {value : Json} {oid : String} :
    oid ∈ links t value ↔ LinksName value oid ∨
      ∃ items, value = .arr items ∧ ∃ item ∈ items, ItemMisread t item oid := by
  cases value with
  | arr items =>
      rw [links, List.mem_flatMap]
      constructor
      · rintro ⟨item, hitem, hoid⟩
        rcases mem_itemLinks.mp hoid with hnames | hmisread
        · exact .inl (.list hitem hnames)
        · exact .inr ⟨items, rfl, item, hitem, hmisread⟩
      · rintro (hnames | ⟨items', heq, item, hitem, hmisread⟩)
        · cases hnames with
          | list hitem hnames => exact ⟨_, hitem, mem_itemLinks.mpr (.inl hnames)⟩
        · cases heq
          exact ⟨item, hitem, mem_itemLinks.mpr (.inr hmisread)⟩
  | obj fields =>
      constructor
      · exact fun h => .inl (.keyed h)
      · rintro (hnames | ⟨items, heq, -⟩)
        · cases hnames with
          | keyed h => exact h
        · cases heq
  | null | bool _ | num _ | str _ =>
      constructor
      · exact fun h => (List.not_mem_nil h).elim
      · rintro (hnames | ⟨items, heq, -⟩)
        · cases hnames
        · cases heq

theorem mem_nonrootsOf {item : Json} {oid : String} :
    oid ∈ nonrootsOf t item ↔
      (∃ value, OwnMember item oid value) ∨
        ∃ value, LinkMember item value ∧ oid ∈ links t value := by
  unfold nonrootsOf OwnMember LinkMember
  cases hoid : dropOid item with
  | none => simp
  | some own =>
      simp only [List.mem_append, List.mem_flatMap, Option.isSome_some, true_and, Option.some.injEq]
      refine or_congr ?_ ?_
      · constructor
        · intro h
          split at h
          next hany =>
            obtain ⟨key, hkey, hsome⟩ := List.any_eq_true.mp hany
            obtain ⟨value, hvalue⟩ := Option.isSome_iff_exists.mp hsome
            exact ⟨value, (List.mem_singleton.mp h).symm, key, hkey, hvalue⟩
          · cases h
        · rintro ⟨value, rfl, key, hkey, hvalue⟩
          have hany : ((edgeMembers (dropCategory item)).1.any fun key =>
              (item.get key).isSome) = true :=
            List.any_eq_true.mpr ⟨key, hkey, by rw [hvalue]; rfl⟩
          rw [if_pos hany]
          exact List.mem_singleton_self _
      · constructor
        · rintro ⟨key, hkey, hmem⟩
          cases hvalue : item.get key with
          | none =>
              rw [hvalue] at hmem
              cases hmem
          | some value =>
              rw [hvalue] at hmem
              exact ⟨value, ⟨key, hkey, hvalue⟩, hmem⟩
        · rintro ⟨value, ⟨key, hkey, hvalue⟩, hmem⟩
          refine ⟨key, hkey, ?_⟩
          rw [hvalue]
          exact hmem

/-- What is read as an edge into an oid: an edge that is declared otherwise than in a list of plain
oids, or something that is none. -/
theorem mem_nonrootsOf_iff {item : Json} {oid : String} :
    oid ∈ nonrootsOf t item ↔ DeclaresReadEdge item oid ∨ MisreadEdge t item oid := by
  rw [mem_nonrootsOf]
  constructor
  -- an own member is an edge when it is filled, and misread when it is not
  · rintro (⟨value, hown⟩ | ⟨value, hmember, hlink⟩)
    · cases hfilled : value.isFilled with
      | true => exact .inl (.inl ⟨value, hown, hfilled⟩)
      | false => exact .inr (.inl ⟨value, hown, hfilled⟩)
    · rcases mem_links.mp hlink with hnames | ⟨items, rfl, item, hitem, hmisread⟩
      · exact .inl (.inr ⟨value, hmember, hnames⟩)
      · exact .inr (.inr ⟨items, hmember, item, hitem, hmisread⟩)
  · rintro ((⟨value, hown, -⟩ | ⟨value, hmember, hnames⟩) |
      (⟨value, hown, -⟩ | ⟨items, hmember, item, hitem, hmisread⟩))
    · exact .inl ⟨value, hown⟩
    · exact .inr ⟨value, hmember, mem_links.mpr (.inl hnames)⟩
    · exact .inl ⟨value, hown⟩
    · exact .inr ⟨_, hmember, mem_links.mpr (.inr ⟨items, rfl, item, hitem, hmisread⟩)⟩

/-- **The roots are the drops that are not read as the end of an edge.** -/
theorem mem_getRoots {pgSpec : List Json} {oid : String} :
    oid ∈ getRoots t pgSpec ↔ oid ∈ pgSpec.filterMap dropOid ∧
      ∀ drop ∈ pgSpec, ¬(DeclaresReadEdge drop oid ∨ MisreadEdge t drop oid) := by
  unfold getRoots
  rw [(List.perm_insertionSort _ _).mem_iff, List.mem_dedup, List.mem_filter, Bool.not_eq_true',
    List.contains_eq_mem, decide_eq_false_iff_not, List.mem_flatMap]
  refine and_congr_right fun _ => ?_
  simp only [mem_nonrootsOf_iff, not_exists, not_and]

/-- The roots are in order, each of them once. -/
theorem getRoots_sorted (pgSpec : List Json) : (getRoots t pgSpec).Pairwise (· < ·) := by
  unfold getRoots
  set roots := ((pgSpec.filterMap dropOid).filter fun oid =>
    !(pgSpec.flatMap (nonrootsOf t)).contains oid).dedup with hroots
  have hsorted := List.pairwise_insertionSort (· ≤ ·) roots
  have hnodup : (roots.insertionSort (· ≤ ·)).Nodup :=
    (List.perm_insertionSort _ _).nodup_iff.mpr (List.nodup_dedup _)
  exact (hsorted.and hnodup).imp fun h => lt_of_le_of_ne h.1 h.2

/-- **When the roots are right.**  The roots of a graph, which are in order and listed once, are the
drops into which no drop declares an edge, exactly when each drop that no other edge leads into is
listed as a plain oid just where something that is no edge is read as one into it. -/
theorem getRoots_iff (pgSpec : List Json) :
    ((getRoots t pgSpec).Pairwise (· < ·) ∧ ∀ oid, oid ∈ getRoots t pgSpec ↔
        oid ∈ pgSpec.filterMap dropOid ∧ ∀ drop ∈ pgSpec, ¬DeclaresEdge drop oid) ↔
      ∀ oid ∈ pgSpec.filterMap dropOid, (∀ drop ∈ pgSpec, ¬DeclaresReadEdge drop oid) →
        ((∃ drop ∈ pgSpec, ListsOid drop oid) ↔ ∃ drop ∈ pgSpec, MisreadEdge t drop oid) := by
  -- without an edge that is read, what is read is misread and what is declared is a plain oid
  have hread : ∀ oid, (∀ drop ∈ pgSpec, ¬DeclaresReadEdge drop oid) →
      ((∀ drop ∈ pgSpec, ¬(DeclaresReadEdge drop oid ∨ MisreadEdge t drop oid)) ↔
        ¬∃ drop ∈ pgSpec, MisreadEdge t drop oid) := by
    intro oid hnone
    constructor
    · rintro h ⟨drop, hdrop, hmisread⟩
      exact h drop hdrop (.inr hmisread)
    · rintro h drop hdrop (hedge | hmisread)
      · exact hnone drop hdrop hedge
      · exact h ⟨drop, hdrop, hmisread⟩
  have hdeclared : ∀ oid, (∀ drop ∈ pgSpec, ¬DeclaresReadEdge drop oid) →
      ((∀ drop ∈ pgSpec, ¬DeclaresEdge drop oid) ↔ ¬∃ drop ∈ pgSpec, ListsOid drop oid) := by
    intro oid hnone
    constructor
    · rintro h ⟨drop, hdrop, hlists⟩
      exact h drop hdrop (declaresEdge_iff.mpr (.inr hlists))
    · intro h drop hdrop hedge
      rcases declaresEdge_iff.mp hedge with hedge | hlists
      · exact hnone drop hdrop hedge
      · exact h ⟨drop, hdrop, hlists⟩
  constructor
  · rintro ⟨-, hroots⟩ oid hoid hnone
    have hsame := hroots oid
    rw [mem_getRoots, hread oid hnone, hdeclared oid hnone] at hsame
    have hiff := (and_congr_right_iff.mp hsame) hoid
    exact (not_iff_not.mp hiff).symm
  · refine fun h => ⟨getRoots_sorted pgSpec, fun oid => ?_⟩
    rw [mem_getRoots]
    refine and_congr_right fun hoid => ?_
    by_cases hnone : ∀ drop ∈ pgSpec, ¬DeclaresReadEdge drop oid
    · rw [hread oid hnone, hdeclared oid hnone, h oid hoid hnone]
    · -- an edge that is read keeps the drop out on both sides
      push Not at hnone
      obtain ⟨drop, hdrop, hedge⟩ := hnone
      exact iff_of_false (fun hall => hall drop hdrop (.inl hedge))
        fun hall => hall drop hdrop (declaresEdge_iff.mpr (.inl hedge))

end Reading

/-- A graph whose only edge is listed as a plain oid. -/
def plainGraph : List Json :=
  [.obj [("oid", .str "ingest"), ("categoryType", .str "Application"),
      ("outputs", .arr [.str "image"])],
    .obj [("oid", .str "image"), ("categoryType", .str "Data")]]

/-- The data drop at the end of a plain link is triggered at once. -/
theorem plain_link_not_read :
    ¬((getRoots ScalarText.plain plainGraph).Pairwise (· < ·) ∧
      ∀ oid, oid ∈ getRoots ScalarText.plain plainGraph ↔
        oid ∈ plainGraph.filterMap dropOid ∧ ∀ drop ∈ plainGraph, ¬DeclaresEdge drop oid) := by
  rintro ⟨-, hroots⟩
  have hroot : "image" ∈ getRoots ScalarText.plain plainGraph := by decide +kernel
  refine ((hroots "image").mp hroot).2 _ List.mem_cons_self (.inr ⟨.arr [.str "image"], ?_, ?_⟩)
  · exact ⟨rfl, "outputs", by decide, by decide⟩
  · exact .inr (.list List.mem_cons_self)

/-! ### What completing a drop changes -/

/-- The completed drop has the members of the drop, but for a type or an application that was not a
non-empty string and a name that was absent or null. -/
structure Completes (drop drop' : Json) : Prop where
  kept : ∀ key, key ≠ "type" → key ≠ "app" → key ≠ "humanReadableKey" → drop'.get key = drop.get key
  typed : drop.textAt "type" ≠ "" → drop'.get "type" = drop.get "type"
  app : drop.textAt "app" ≠ "" → drop'.get "app" = drop.get "app"
  named : (drop.get "humanReadableKey").all Json.isNull = false →
    drop'.get "humanReadableKey" = drop.get "humanReadableKey"

section Completing

variable {t : ScalarText} {drop : Json} {humanIndex : ℕ}

theorem Json.textAt_congr {key : String} {v w : Json} (h : v.get key = w.get key) :
    v.textAt key = w.textAt key := by
  rw [textAt, textAt, h]

theorem Json.get_insert_of_isObject {key : String} {value v : Json} (h : v.isObject) :
    (Json.insert key value v).get key = some value := by
  cases v with
  | obj fields => exact get_insert_self key value fields
  | _ => cases h

theorem Json.isObject_insert {key : String} {value v : Json} (h : v.isObject) :
    (Json.insert key value v).isObject := by
  cases v with
  | obj fields => rfl
  | _ => cases h

theorem isObject_of_dropOid {item : Json} (h : (dropOid item).isSome) : item.isObject := by
  cases item with
  | obj fields => rfl
  | _ => cases h

theorem get_fillType {key : String} (h : key ≠ "type") :
    (fillType drop).get key = drop.get key := by
  unfold fillType
  split
  · split
    · exact Json.get_insert_ne h _ _
    · rfl
  · rfl

theorem get_fillApp {key : String} (h : key ≠ "app") : (fillApp drop).get key = drop.get key := by
  unfold fillApp
  split
  · exact Json.get_insert_ne h _ _
  · rfl

theorem get_fillHumanReadableKey {key : String} (h : key ≠ "humanReadableKey") :
    (fillHumanReadableKey t humanIndex drop).get key = drop.get key := by
  unfold fillHumanReadableKey
  split
  · exact Json.get_insert_ne h _ _
  · rfl

theorem fillType_of_ne (h : drop.textAt "type" ≠ "") : fillType drop = drop := by
  rw [fillType, if_neg (by rwa [String.isEmpty_iff])]

theorem fillApp_of_ne (h : drop.textAt "app" ≠ "") : fillApp drop = drop := by
  rw [fillApp, if_neg]
  rintro ⟨-, hempty, -⟩
  exact h (String.isEmpty_iff.mp hempty)

/-- Apart from the three members a completed drop is as it was. -/
theorem get_normalizeDropForDim {key : String} (htype : key ≠ "type") (happ : key ≠ "app")
    (hname : key ≠ "humanReadableKey") :
    (normalizeDropForDim t drop humanIndex).get key = drop.get key := by
  rw [normalizeDropForDim, get_fillHumanReadableKey hname, get_fillApp happ, get_fillType htype]

theorem completes_normalizeDropForDim : Completes drop (normalizeDropForDim t drop humanIndex) where
  kept key htype happ hname := get_normalizeDropForDim htype happ hname
  typed h := by
    rw [normalizeDropForDim, get_fillHumanReadableKey (by decide), get_fillApp (by decide),
      fillType_of_ne h]
  app h := by
    have hsame : (fillType drop).get "app" = drop.get "app" := get_fillType (by decide)
    rw [normalizeDropForDim, get_fillHumanReadableKey (by decide), fillApp_of_ne, hsame]
    rwa [Json.textAt_congr hsame]
  named h := by
    have hsame :
        (fillApp (fillType drop)).get "humanReadableKey" = drop.get "humanReadableKey" := by
      rw [get_fillApp (by decide), get_fillType (by decide)]
    rw [normalizeDropForDim, fillHumanReadableKey, hsame, if_neg (by rw [h]; decide), hsame]

/-! ### Completing twice -/

theorem isObject_fillType (h : drop.isObject) : (fillType drop).isObject := by
  unfold fillType
  split
  · split
    · exact Json.isObject_insert h
    · exact h
  · exact h

theorem isObject_fillApp (h : drop.isObject) : (fillApp drop).isObject := by
  unfold fillApp
  split
  · exact Json.isObject_insert h
  · exact h

/-- The types that stand for a category are not empty. -/
theorem typeOfCategory_ne_empty {category mapped : String}
    (h : typeOfCategory category = some mapped) : mapped ≠ "" := by
  unfold typeOfCategory at h
  split at h
  all_goals first | (rw [← Option.some.inj h]; decide) | cases h

/-- A completed type stays as it is. -/
theorem fillType_idem (hobject : drop.isObject) {drop' : Json}
    (htype : drop'.get "type" = (fillType drop).get "type")
    (hcategory : drop'.get "categoryType" = drop.get "categoryType") : fillType drop' = drop' := by
  by_cases hempty : drop'.textAt "type" = ""
  · -- then the drop had no type that could be completed
    have hcompleted : (fillType drop).textAt "type" = "" := by
      rw [← hempty, Json.textAt_congr htype]
    have hnone : typeOfCategory (drop.textAt "categoryType") = none := by
      by_contra hsome
      obtain ⟨mapped, hmapped⟩ := Option.ne_none_iff_exists'.mp hsome
      unfold fillType at hcompleted
      split at hcompleted
      · rw [hmapped] at hcompleted
        simp only [Json.textAt, Json.get_insert_of_isObject hobject, Option.bind_some, Json.asStr,
          Option.getD_some] at hcompleted
        exact typeOfCategory_ne_empty hmapped hcompleted
      next hfull => exact hfull (String.isEmpty_iff.mpr hcompleted)
    rw [fillType, if_pos (String.isEmpty_iff.mpr hempty), Json.textAt_congr hcategory, hnone]
  · exact fillType_of_ne hempty

/-- A completed application stays as it is. -/
theorem fillApp_idem (hobject : drop.isObject) {drop' : Json}
    (happ : drop'.get "app" = (fillApp drop).get "app")
    (htype : drop'.get "type" = drop.get "type")
    (hclass : drop'.get "dropclass" = drop.get "dropclass") : fillApp drop' = drop' := by
  rw [fillApp, if_neg]
  rintro ⟨hisApp, hempty, hfull⟩
  rw [Json.textAt_congr htype] at hisApp
  rw [Json.textAt_congr hclass] at hfull
  rw [Json.textAt_congr happ] at hempty
  by_cases happEmpty : (drop.textAt "app").isEmpty
  · rw [fillApp, if_pos ⟨hisApp, happEmpty, hfull⟩, Json.textAt,
      Json.get_insert_of_isObject hobject] at hempty
    exact hfull hempty
  · rw [fillApp, if_neg fun h => happEmpty h.2.1] at hempty
    exact happEmpty hempty

/-- A completed name stays as it is. -/
theorem fillHumanReadableKey_idem (hobject : drop.isObject) :
    fillHumanReadableKey t humanIndex (fillHumanReadableKey t humanIndex drop) =
      fillHumanReadableKey t humanIndex drop := by
  by_cases hnull : (drop.get "humanReadableKey").all Json.isNull
  · have hname : ((fillHumanReadableKey t humanIndex drop).get "humanReadableKey").all
        Json.isNull = false := by
      rw [fillHumanReadableKey, if_pos hnull, Json.get_insert_of_isObject hobject]
      rfl
    rw [fillHumanReadableKey, if_neg (by rw [hname]; decide)]
  · rw [fillHumanReadableKey.eq_def t humanIndex drop, if_neg hnull, fillHumanReadableKey,
      if_neg hnull]

/-- **Completing a drop twice is completing it once.** -/
theorem normalizeDropForDim_idem (hobject : drop.isObject) :
    normalizeDropForDim t (normalizeDropForDim t drop humanIndex) humanIndex =
      normalizeDropForDim t drop humanIndex := by
  have htype : fillType (normalizeDropForDim t drop humanIndex) =
      normalizeDropForDim t drop humanIndex := by
    refine fillType_idem hobject ?_ (get_normalizeDropForDim (by decide) (by decide) (by decide))
    rw [normalizeDropForDim, get_fillHumanReadableKey (by decide), get_fillApp (by decide)]
  have happ : fillApp (normalizeDropForDim t drop humanIndex) =
      normalizeDropForDim t drop humanIndex := by
    refine fillApp_idem (isObject_fillType hobject) ?_ ?_ ?_
    · rw [normalizeDropForDim, get_fillHumanReadableKey (by decide)]
    · rw [normalizeDropForDim, get_fillHumanReadableKey (by decide), get_fillApp (by decide)]
    · rw [get_normalizeDropForDim (by decide) (by decide) (by decide), get_fillType (by decide)]
  rw [normalizeDropForDim, htype, happ, normalizeDropForDim,
    fillHumanReadableKey_idem (isObject_fillApp (isObject_fillType hobject))]

/-! ### The completed graph -/

@[simp] theorem dropOid_normalizeDropForDim :
    dropOid (normalizeDropForDim t drop humanIndex) = dropOid drop := by
  rw [dropOid, dropOid, get_normalizeDropForDim (by decide) (by decide) (by decide)]

/-- A completed drop keeps its category: a type is only added where there is a category. -/
theorem dropCategory_normalizeDropForDim :
    dropCategory (normalizeDropForDim t drop humanIndex) = dropCategory drop := by
  have hcategory : (normalizeDropForDim t drop humanIndex).get "categoryType" =
      drop.get "categoryType" := get_normalizeDropForDim (by decide) (by decide) (by decide)
  unfold dropCategory
  rw [hcategory]
  cases hnone : drop.get "categoryType" with
  | some category => rfl
  | none =>
      -- without a category no type is completed, and the category is the type
      have hfill : fillType drop = drop := by
        rw [fillType, Json.textAt.eq_def "categoryType", hnone]
        split <;> rfl
      rw [Option.none_or, Option.none_or, normalizeDropForDim,
        get_fillHumanReadableKey (by decide), get_fillApp (by decide), hfill]

/-- A category is one of applications and sockets, one of data, or another one. -/
theorem edgeMembers_cases (category : String) :
    edgeMembers category = (["inputs", "streamingInputs"], ["outputs"]) ∨
      edgeMembers category = (["producers"], ["consumers", "streamingConsumers"]) ∨
      edgeMembers category = ([], []) := by
  unfold edgeMembers
  split <;> simp

/-- The members that declare edges are none of those that are completed. -/
theorem edgeMember_ne {category key : String}
    (h : key ∈ (edgeMembers category).1 ++ (edgeMembers category).2) :
    key ≠ "type" ∧ key ≠ "app" ∧ key ≠ "humanReadableKey" := by
  revert h
  rcases edgeMembers_cases category with heq | heq | heq
  · rw [heq]
    revert key
    decide
  · rw [heq]
    revert key
    decide
  · rw [heq]
    exact fun h => (List.not_mem_nil h).elim

/-- A completed drop declares the edges of the drop. -/
theorem nonrootsOf_normalizeDropForDim :
    nonrootsOf t (normalizeDropForDim t drop humanIndex) = nonrootsOf t drop := by
  have hget : ∀ key ∈ (edgeMembers (dropCategory drop)).1 ++ (edgeMembers (dropCategory drop)).2,
      (normalizeDropForDim t drop humanIndex).get key = drop.get key := by
    intro key hkey
    obtain ⟨htype, happ, hname⟩ := edgeMember_ne hkey
    exact get_normalizeDropForDim htype happ hname
  have hown : ((edgeMembers (dropCategory drop)).1.any fun key =>
      ((normalizeDropForDim t drop humanIndex).get key).isSome) =
        (edgeMembers (dropCategory drop)).1.any fun key => (drop.get key).isSome := by
    rw [Bool.eq_iff_iff, List.any_eq_true, List.any_eq_true]
    refine exists_congr fun key => and_congr_right fun hkey => ?_
    rw [hget key (List.mem_append_left _ hkey)]
  have hlinks : ((edgeMembers (dropCategory drop)).2.flatMap fun key =>
      (((normalizeDropForDim t drop humanIndex).get key).map (links t)).getD []) =
        (edgeMembers (dropCategory drop)).2.flatMap fun key =>
          ((drop.get key).map (links t)).getD [] :=
    List.flatMap_congr fun key hkey => by rw [hget key (List.mem_append_right _ hkey)]
  unfold nonrootsOf
  rw [dropOid_normalizeDropForDim]
  cases dropOid drop with
  | none => rfl
  | some oid =>
      simp only [dropCategory_normalizeDropForDim]
      rw [hown, hlinks]

/-- The drops from a position on, completed. -/
def completedFrom (t : ScalarText) (index : ℕ) (drops : List Json) : List Json :=
  (drops.zipIdx index).map fun drop => normalizeDropForDim t drop.1 (drop.2 + 1)

theorem completedFrom_cons (index : ℕ) (drops : List Json) :
    completedFrom t index (drop :: drops) =
      normalizeDropForDim t drop (index + 1) :: completedFrom t (index + 1) drops := by
  rw [completedFrom, List.zipIdx_cons, List.map_cons, completedFrom]

variable {drops : List Json}

theorem completedFrom_idem (hdrops : ∀ drop ∈ drops, (dropOid drop).isSome) (index : ℕ) :
    completedFrom t index (completedFrom t index drops) = completedFrom t index drops := by
  induction drops generalizing index with
  | nil => rfl
  | cons drop drops ih =>
      have hobject := isObject_of_dropOid (hdrops drop List.mem_cons_self)
      rw [completedFrom_cons, completedFrom_cons, normalizeDropForDim_idem hobject,
        ih (fun other hother => hdrops other (List.mem_cons_of_mem _ hother))]

theorem completes_completedFrom (index : ℕ) :
    List.Forall₂ Completes drops (completedFrom t index drops) := by
  induction drops generalizing index with
  | nil => exact .nil
  | cons drop drops ih =>
      rw [completedFrom_cons]
      exact .cons completes_normalizeDropForDim (ih (index + 1))

theorem filterMap_dropOid_completedFrom (index : ℕ) :
    (completedFrom t index drops).filterMap dropOid = drops.filterMap dropOid := by
  induction drops generalizing index with
  | nil => rfl
  | cons drop drops ih =>
      rw [completedFrom_cons, List.filterMap_cons, List.filterMap_cons,
        dropOid_normalizeDropForDim, ih]

theorem flatMap_nonrootsOf_completedFrom (index : ℕ) :
    (completedFrom t index drops).flatMap (nonrootsOf t) = drops.flatMap (nonrootsOf t) := by
  induction drops generalizing index with
  | nil => rfl
  | cons drop drops ih =>
      rw [completedFrom_cons, List.flatMap_cons, List.flatMap_cons,
        nonrootsOf_normalizeDropForDim, ih]

theorem isSome_dropOid_of_mem_completedFrom (hdrops : ∀ drop ∈ drops, (dropOid drop).isSome)
    {index : ℕ} : ∀ drop ∈ completedFrom t index drops, (dropOid drop).isSome := by
  intro drop hdrop
  obtain ⟨entry, hentry, rfl⟩ := List.mem_map.mp hdrop
  rw [dropOid_normalizeDropForDim]
  exact hdrops _ (List.fst_mem_of_mem_zipIdx hentry)

/-- Items without an oid do not count for the roots. -/
theorem getRoots_congr {pgSpec pgSpec' : List Json}
    (hoids : pgSpec.filterMap dropOid = pgSpec'.filterMap dropOid)
    (hnonroots : pgSpec.flatMap (nonrootsOf t) = pgSpec'.flatMap (nonrootsOf t)) :
    getRoots t pgSpec = getRoots t pgSpec' := by
  unfold getRoots
  rw [hoids, hnonroots]

theorem filterMap_dropOid_filter (pgSpec : List Json) :
    (pgSpec.filter fun item => (dropOid item).isSome).filterMap dropOid =
      pgSpec.filterMap dropOid := by
  rw [List.filterMap_filter]
  refine List.filterMap_congr fun item _ => ?_
  cases dropOid item <;> rfl

theorem flatMap_nonrootsOf_filter (pgSpec : List Json) :
    (pgSpec.filter fun item => (dropOid item).isSome).flatMap (nonrootsOf t) =
      pgSpec.flatMap (nonrootsOf t) := by
  induction pgSpec with
  | nil => rfl
  | cons item pgSpec ih =>
      rw [List.filter_cons, List.flatMap_cons]
      split
      · rw [List.flatMap_cons, ih]
      next hnone =>
        have hnil : nonrootsOf t item = [] := by
          rw [Option.not_isSome_iff_eq_none] at hnone
          rw [nonrootsOf, hnone]
        rw [hnil, List.nil_append, ih]

/-- **What completing a graph does**: it is idempotent, it keeps the drops in order, each of them
once and changed only where a member was missing, followed by one reproducibility record at most,
and it keeps the roots. -/
theorem preparePhysicalGraph_spec (t : ScalarText) (pgSpec : List Json) :
    preparePhysicalGraph t (preparePhysicalGraph t pgSpec) = preparePhysicalGraph t pgSpec ∧
      (∃ drops record, preparePhysicalGraph t pgSpec = drops ++ Option.toList record ∧
        List.Forall₂ Completes (pgSpec.filter fun item => (dropOid item).isSome) drops ∧
        ∀ item ∈ record, item ∈ pgSpec ∧ isReproRecord item) ∧
      getRoots t (preparePhysicalGraph t pgSpec) = getRoots t pgSpec := by
  set drops := pgSpec.filter fun item => (dropOid item).isSome with hdrops
  set record := (pgSpec.filter isReproRecord).getLast? with hrecord
  have hprepared : preparePhysicalGraph t pgSpec = completedFrom t 0 drops ++ record.toList := rfl
  have hoid : ∀ drop ∈ drops, (dropOid drop).isSome := fun drop h => (List.mem_filter.mp h).2
  have hrepro : ∀ item ∈ record, item ∈ pgSpec ∧ isReproRecord item :=
    fun item h => List.mem_filter.mp (List.mem_of_getLast? h)
  -- the record has no oid, so it is neither completed nor read as a drop
  have hnone : ∀ item ∈ record.toList, dropOid item = none := by
    intro item hitem
    have hmode := (hrepro item (Option.mem_toList.mp hitem)).2
    rw [isReproRecord, Bool.and_eq_true, Option.isNone_iff_eq_none] at hmode
    exact hmode.1
  refine ⟨?_, ⟨completedFrom t 0 drops, record, hprepared, completes_completedFrom 0, hrepro⟩, ?_⟩
  · have hkeep : (completedFrom t 0 drops ++ record.toList).filter
        (fun item => (dropOid item).isSome) = completedFrom t 0 drops := by
      rw [List.filter_append, List.filter_eq_self.mpr (isSome_dropOid_of_mem_completedFrom hoid),
        List.filter_eq_nil_iff.mpr fun item hitem => by rw [hnone item hitem]; decide,
        List.append_nil]
    have hlast : ((completedFrom t 0 drops ++ record.toList).filter isReproRecord).getLast? =
        record := by
      have hdrop : ∀ drop ∈ completedFrom t 0 drops, ¬isReproRecord drop := by
        intro drop hdrop hmode
        rw [isReproRecord, Bool.and_eq_true, Option.isNone_iff_eq_none] at hmode
        have hsome := isSome_dropOid_of_mem_completedFrom hoid drop hdrop
        rw [hmode.1] at hsome
        cases hsome
      rw [List.filter_append, List.filter_eq_nil_iff.mpr hdrop, List.nil_append,
        List.filter_eq_self.mpr fun item hitem => (hrepro item (Option.mem_toList.mp hitem)).2]
      cases record <;> rfl
    rw [hprepared]
    change completedFrom t 0 _ ++ Option.toList _ = _
    rw [hkeep, hlast, completedFrom_idem hoid]
  · rw [hprepared]
    refine getRoots_congr ?_ ?_
    · rw [List.filterMap_append, filterMap_dropOid_completedFrom, filterMap_dropOid_filter,
        List.filterMap_eq_nil_iff.mpr hnone, List.append_nil]
    · have hlast : record.toList.flatMap (nonrootsOf t) = [] :=
        List.flatMap_eq_nil_iff.mpr fun item hitem => by rw [nonrootsOf, hnone item hitem]
      rw [List.flatMap_append, flatMap_nonrootsOf_completedFrom, flatMap_nonrootsOf_filter, hlast,
        List.append_nil]

end Completing

end Beampipe
