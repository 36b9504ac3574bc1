/-
**The rows of a JSON answer of a table service.**

A table service may answer with an array of rows, with an object that wraps such an array under
one of four keys, or with an object that is itself a row; the columnar form, an object with the
keys `metadata` and `data`, is not supported.  `rows_from_json` looks for the wrapped array by
*removing* each of the four keys from the object in turn, so what it removed on the way is gone
when none of them holds an array: a column named `rows`, `data`, `results` or `items` is lost
from the row, and the test for the columnar form, made after the removals, never sees `data`.

Main definitions:

* `Beampipe.Project.rowsFromJson` — the decoder as the code has it;
* `Beampipe.Project.FaithfulRows` — the rows a document stands for;
* `Beampipe.Project.KeepsColumns` — the documents the removals do no harm to.

Main results:

* `Beampipe.Project.rowsFromArray_eq_ok_iff` — an array is read item by item, or not at all;
* `Beampipe.Project.rowsFromKeys_eq` — the removals find the first wrapped array, and otherwise
  leave the object without the four columns;
* `Beampipe.Project.faithfulRows_rowsFromJson_iff` — the decoder gives the rows of a document
  exactly on the documents that keep their columns.
-/

import Mathlib.Data.List.Nodup
import Beampipe.PreparedRecords

set_option relaxedAutoImplicit false
set_option autoImplicit false

namespace Beampipe.Project

/-! ### The decoder -/

/-- `AdapterError`, as far as the decoding of an answer raises it. -/
inductive AdapterError where
  | invalidRowShape (message : String)
  deriving DecidableEq, Repr

/-- An item of an array of rows. -/
def rowFromItem : Json → Except AdapterError TapRow
  | .obj fields => .ok fields
  | _ => .error (.invalidRowShape "array item is not an object")

/-- `rows_from_json` on an array. -/
def rowsFromArray (items : List Json) : Except AdapterError (List TapRow) :=
  items.mapM rowFromItem

/-- What `rows_from_json` makes of an object after its removals. -/
def rowsFromRest (obj : TapRow) : Except AdapterError (List TapRow) :=
  if (Json.lookupField "metadata" obj).isSome && (Json.lookupField "data" obj).isSome then
    .error (.invalidRowShape "table metadata/data object shape is unsupported")
  else .ok [obj]

/-- The loop of `rows_from_json` over the keys that may wrap the rows. -/
def rowsFromKeys : List String → TapRow → Except AdapterError (List TapRow)
  | [], obj => rowsFromRest obj
  | key :: keys, obj =>
      match Json.lookupField key obj with
      | some (.arr items) => rowsFromArray items
      | _ => rowsFromKeys keys (Json.removeField key obj)

/-- The keys that may wrap the rows. -/
def rowKeys : List String := ["rows", "data", "results", "items"]

/-- `rows_from_json`. -/
def rowsFromJson : Json → Except AdapterError (List TapRow)
  | .arr items => rowsFromArray items
  | .obj obj => rowsFromKeys rowKeys obj
  | _ => .error (.invalidRowShape "TAP response must be an object or array")

/-! ### The rows of a document -/

/-- The first of some keys that holds an array, as that array. -/
def firstArray : List String → TapRow → Option (List Json)
  | [], _ => none
  | key :: keys, obj =>
      match Json.lookupField key obj with
      | some (.arr items) => some items
      | _ => firstArray keys obj

/-- An array of objects is read as these objects in their order, and any other is refused. -/
def FaithfulArray (items : List Json) (result : Except AdapterError (List TapRow)) : Prop :=
  (∃ rows : List TapRow, items = rows.map Json.obj ∧ result = .ok rows) ∨
    (∃ item ∈ items, item.isObject = false) ∧ ∃ error, result = .error error

/-- The object has the columnar form. -/
def IsColumnar (obj : TapRow) : Prop :=
  Json.lookupField "metadata" obj ≠ none ∧ Json.lookupField "data" obj ≠ none

instance (obj : TapRow) : Decidable (IsColumnar obj) :=
  inferInstanceAs (Decidable (_ ∧ _))

/-- A result that keeps every row and every column of a document. -/
def FaithfulRows (result : Except AdapterError (List TapRow)) : Json → Prop
  | .arr items => FaithfulArray items result
  | .obj obj =>
      if IsColumnar obj then ∃ error, result = .error error
      else
        match firstArray rowKeys obj with
        | some items => FaithfulArray items result
        | none => result = .ok [obj]
  | _ => ∃ error, result = .error error

/-- The documents the removals do no harm to: an object in the columnar form is refused for an
item of the array it is taken to wrap, and an object that wraps no array has none of the four
columns. -/
def KeepsColumns : Json → Prop
  | .obj obj =>
      if IsColumnar obj then
        ∃ items, firstArray rowKeys obj = some items ∧ ∃ item ∈ items, item.isObject = false
      else firstArray rowKeys obj = none → ∀ key ∈ rowKeys, Json.lookupField key obj = none
  | _ => True

/-! ### Arrays -/

theorem rowFromItem_eq_ok_iff {item : Json} {row : TapRow} :
    rowFromItem item = .ok row ↔ item = .obj row := by
  cases item <;> simp [rowFromItem]

/-- An array is read exactly when its items are objects, and then as these in their order. -/
theorem rowsFromArray_eq_ok_iff {items : List Json} {rows : List TapRow} :
    rowsFromArray items = .ok rows ↔ items = rows.map Json.obj := by
  rw [rowsFromArray, exceptMapM_eq_ok_iff]
  induction items generalizing rows with
  | nil => cases rows <;> simp
  | cons item items ih =>
      cases rows with
      | nil => simp
      | cons row rest => simp only [List.map_cons, List.cons.injEq, rowFromItem_eq_ok_iff, ih]

theorem exists_rows_iff {items : List Json} :
    (∃ rows : List TapRow, items = rows.map Json.obj) ↔ ∀ item ∈ items, item.isObject = true := by
  induction items with
  | nil => simp
  | cons item items ih =>
      rw [List.forall_mem_cons, ← ih]
      constructor
      · rintro ⟨rows, hrows⟩
        cases rows with
        | nil => cases hrows
        | cons row rows =>
            rw [List.map_cons, List.cons.injEq] at hrows
            exact ⟨hrows.1 ▸ rfl, rows, hrows.2⟩
      · rintro ⟨hitem, rows, rfl⟩
        cases item with
        | obj row => exact ⟨row :: rows, rfl⟩
        | _ => cases hitem

theorem faithfulArray_rowsFromArray (items : List Json) :
    FaithfulArray items (rowsFromArray items) := by
  cases hrows : rowsFromArray items with
  | ok rows => exact Or.inl ⟨rows, rowsFromArray_eq_ok_iff.mp hrows, rfl⟩
  | error error =>
      refine Or.inr ⟨?_, error, rfl⟩
      by_contra hnone
      -- with no other item in it the array would have been read
      have hall : ∀ item ∈ items, item.isObject = true := by
        intro item hitem
        exact eq_true_of_ne_false fun hshape => hnone ⟨item, hitem, hshape⟩
      obtain ⟨rows, hitems⟩ := exists_rows_iff.mpr hall
      rw [rowsFromArray_eq_ok_iff.mpr hitems] at hrows
      cases hrows

/-! ### The removals -/

theorem lookupField_eq_none_iff {key : String} {fields : List (String × Json)} :
    Json.lookupField key fields = none ↔ ∀ field ∈ fields, field.1 ≠ key := by
  induction fields with
  | nil => simp [Json.lookupField]
  | cons field fields ih =>
      by_cases hk : field.1 = key
      · simp [Json.lookupField, hk]
      · simp [Json.lookupField, hk, ih]

theorem firstArray_removeField {key : String} {keys : List String} (h : key ∉ keys)
    (obj : TapRow) : firstArray keys (Json.removeField key obj) = firstArray keys obj := by
  induction keys with
  | nil => rfl
  | cons other keys ih =>
      rw [List.mem_cons, not_or] at h
      simp only [firstArray, Json.lookupField_removeField_ne (Ne.symm h.1), ih h.2]

/-- The loop reads the first array under one of its keys; when there is none it goes on with the
object without any of these columns. -/
theorem rowsFromKeys_eq {keys : List String} (hkeys : keys.Nodup) (obj : TapRow) :
    rowsFromKeys keys obj =
      match firstArray keys obj with
      | some items => rowsFromArray items
      | none => rowsFromRest (obj.filter fun field => field.1 ∉ keys) := by
  induction keys generalizing obj with
  | nil => simp [rowsFromKeys, firstArray]
  | cons key keys ih =>
      obtain ⟨hkey, hkeys⟩ := List.nodup_cons.mp hkeys
      have hrest : rowsFromKeys keys (Json.removeField key obj) =
          match firstArray keys obj with
          | some items => rowsFromArray items
          | none => rowsFromRest (obj.filter fun field => field.1 ∉ key :: keys) := by
        have hfilter : ((Json.removeField key obj).filter fun field => field.1 ∉ keys) =
            obj.filter fun field => field.1 ∉ key :: keys := by
          rw [Json.removeField, List.filter_filter]
          refine List.filter_congr fun field _ => ?_
          by_cases hfield : field.1 = key <;> simp [hfield]
        rw [ih hkeys, firstArray_removeField hkey, hfilter]
      unfold rowsFromKeys firstArray
      cases hlook : Json.lookupField key obj with
      | none => exact hrest
      | some value => cases value <;> first | rfl | exact hrest

/-- Without the column `data` no object has the columnar form. -/
theorem rowsFromRest_of_noData {obj : TapRow} (h : Json.lookupField "data" obj = none) :
    rowsFromRest obj = .ok [obj] := by
  simp [rowsFromRest, h]

theorem rowsFromJson_obj (obj : TapRow) :
    rowsFromJson (.obj obj) =
      match firstArray rowKeys obj with
      | some items => rowsFromArray items
      | none => .ok [obj.filter fun field => field.1 ∉ rowKeys] := by
  have hdata : Json.lookupField "data" (obj.filter fun field => field.1 ∉ rowKeys) = none := by
    rw [lookupField_eq_none_iff]
    intro field hfield hname
    have hmem := (List.mem_filter.mp hfield).2
    simp [hname, rowKeys] at hmem
  rw [rowsFromJson, rowsFromKeys_eq (by decide), rowsFromRest_of_noData hdata]

theorem filter_rowKeys_eq_self_iff {obj : TapRow} :
    (obj.filter fun field => field.1 ∉ rowKeys) = obj ↔
      ∀ key ∈ rowKeys, Json.lookupField key obj = none := by
  simp only [List.filter_eq_self, lookupField_eq_none_iff, decide_eq_true_eq]
  constructor
  · intro h key hkey field hfield hname
    exact h field hfield (hname ▸ hkey)
  · intro h field hfield hname
    exact h field.1 hname field hfield rfl

/-! ### The decoder and the document -/

/-- The decoder keeps every row and every column of a document exactly when the removals do it
no harm. -/
theorem faithfulRows_rowsFromJson_iff (value : Json) :
    FaithfulRows (rowsFromJson value) value ↔ KeepsColumns value := by
  cases value with
  | arr items => simp [FaithfulRows, KeepsColumns, rowsFromJson, faithfulArray_rowsFromArray]
  | obj obj =>
      rw [FaithfulRows, KeepsColumns, rowsFromJson_obj]
      by_cases hcolumns : IsColumnar obj
      · rw [if_pos hcolumns, if_pos hcolumns]
        cases firstArray rowKeys obj with
        | none => simp
        | some items =>
            simp only [Option.some.injEq, exists_eq_left']
            constructor
            · rintro ⟨error, herror⟩
              rcases faithfulArray_rowsFromArray items with ⟨rows, -, hrows⟩ | ⟨hitem, -⟩
              · rw [herror] at hrows
                cases hrows
              · exact hitem
            · rintro ⟨item, hitem, hshape⟩
              rcases faithfulArray_rowsFromArray items with ⟨rows, rfl, -⟩ | ⟨-, herror⟩
              · obtain ⟨row, -, rfl⟩ := List.mem_map.mp hitem
                cases hshape
              · exact herror
      · rw [if_neg hcolumns, if_neg hcolumns]
        cases firstArray rowKeys obj with
        | none =>
            rw [← filter_rowKeys_eq_self_iff]
            simp
        | some items => simp [faithfulArray_rowsFromArray]
  | _ => simp [FaithfulRows, KeepsColumns, rowsFromJson]

/-- A row whose column `data` is a number loses it. -/
theorem rowsFromJson_drops_column :
    ¬ FaithfulRows
        (rowsFromJson (.obj [("object_id", .str "r1"), ("data", .num (.int 5))]))
        (.obj [("object_id", .str "r1"), ("data", .num (.int 5))]) := by
  have hrows : rowsFromJson (.obj [("object_id", .str "r1"), ("data", .num (.int 5))]) =
      .ok [[("object_id", .str "r1")]] := by decide +kernel
  intro h
  have hcolumns : ¬ IsColumnar [("object_id", .str "r1"), ("data", .num (.int 5))] := by
    decide +kernel
  rw [hrows, FaithfulRows, if_neg hcolumns] at h
  cases h

end Beampipe.Project
