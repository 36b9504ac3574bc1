/-
JSON values as `serde_json::Value` has them.

Payload columns, manifests and event details are JSON documents.  Objects are insertion-ordered
association lists, arrays are lists, and a number is either an integer or a binary64 bit pattern.
The accessors follow `serde_json`: they answer on the matching shape and are `none` elsewhere, and
inserting under an existing key replaces the value in place.

Main definitions:

* `Beampipe.Json` — a JSON value;
* `Beampipe.Json.get`, `Beampipe.Json.insert` — reading and writing an object member.

Main results:

* `Beampipe.Json.get_insert_self`, `Beampipe.Json.get_insert_ne` — a member that was inserted is
  read back, and the other members are unchanged.
-/

import Mathlib.Data.Nat.Notation
import Mathlib.Data.Int.Notation

set_option relaxedAutoImplicit false
set_option autoImplicit false

namespace Beampipe

/-- A JSON number: an integer, or the bit pattern of a binary64 float. -/
inductive JsonNumber where
  | int (n : ℤ)
  | float (bits : UInt64)
  deriving DecidableEq, Repr

/-- A JSON value. -/
inductive Json where
  | null
  | bool (b : Bool)
  | num (n : JsonNumber)
  | str (s : String)
  | arr (items : List Json)
  | obj (fields : List (String × Json))
  deriving Repr

namespace Json

/-! ### Equality is decidable -/

mutual

/-- Equality of two JSON values. -/
def decEq : (a b : Json) → Decidable (a = b)
  | .null, .null => isTrue rfl
  | .bool x, .bool y => decidable_of_iff (x = y) (by simp)
  | .num x, .num y => decidable_of_iff (x = y) (by simp)
  | .str x, .str y => decidable_of_iff (x = y) (by simp)
  | .arr xs, .arr ys =>
      match decEqItems xs ys with
      | isTrue h => isTrue (by rw [h])
      | isFalse h => isFalse (by simpa using h)
  | .obj xs, .obj ys =>
      match decEqFields xs ys with
      | isTrue h => isTrue (by rw [h])
      | isFalse h => isFalse (by simpa using h)
  | .null, .bool _ | .null, .num _ | .null, .str _ | .null, .arr _ | .null, .obj _
  | .bool _, .null | .bool _, .num _ | .bool _, .str _ | .bool _, .arr _ | .bool _, .obj _
  | .num _, .null | .num _, .bool _ | .num _, .str _ | .num _, .arr _ | .num _, .obj _
  | .str _, .null | .str _, .bool _ | .str _, .num _ | .str _, .arr _ | .str _, .obj _
  | .arr _, .null | .arr _, .bool _ | .arr _, .num _ | .arr _, .str _ | .arr _, .obj _
  | .obj _, .null | .obj _, .bool _ | .obj _, .num _ | .obj _, .str _ | .obj _, .arr _ =>
      isFalse (by simp)

/-- Equality of two arrays, item by item. -/
def decEqItems : (xs ys : List Json) → Decidable (xs = ys)
  | [], [] => isTrue rfl
  | [], _ :: _ | _ :: _, [] => isFalse (by simp)
  | x :: xs, y :: ys =>
      match decEq x y, decEqItems xs ys with
      | isTrue h, isTrue h' => isTrue (by rw [h, h'])
      | isFalse h, _ => isFalse (by simp [h])
      | _, isFalse h => isFalse (by simp [h])

/-- Equality of two objects, member by member. -/
def decEqFields : (xs ys : List (String × Json)) → Decidable (xs = ys)
  | [], [] => isTrue rfl
  | [], _ :: _ | _ :: _, [] => isFalse (by simp)
  | (k, x) :: xs, (l, y) :: ys =>
      match decEq x y, decEqFields xs ys with
      | isTrue h, isTrue h' => decidable_of_iff (k = l) (by simp [h, h'])
      | isFalse h, _ => isFalse (by simp [h])
      | _, isFalse h => isFalse (by simp [h])

end

instance : DecidableEq Json := decEq

/-! ### Object members -/

/-- The value a key is bound to in an association list. -/
def lookupField (key : String) : List (String × Json) → Option Json
  | [] => none
  | (k, v) :: fields => if k = key then some v else lookupField key fields

/-- Binding a key: an existing binding is replaced where it stands, a new one is appended. -/
def insertField (key : String) (value : Json) : List (String × Json) → List (String × Json)
  | [] => [(key, value)]
  | (k, v) :: fields =>
      if k = key then (k, value) :: fields else (k, v) :: insertField key value fields

/-- Unbinding a key. -/
def removeField (key : String) (fields : List (String × Json)) : List (String × Json) :=
  fields.filter fun field => field.1 != key

/-- `Value::get` with a string key. -/
def get (key : String) : Json → Option Json
  | .obj fields => lookupField key fields
  | _ => none

/-- `Map::insert` on an object; other shapes are left alone. -/
def insert (key : String) (value : Json) : Json → Json
  | .obj fields => .obj (insertField key value fields)
  | json => json

/-- The value is an object. -/
def isObject : Json → Bool
  | .obj _ => true
  | _ => false

/-- `Value::as_str`. -/
def asStr : Json → Option String
  | .str s => some s
  | _ => none

/-- `Value::as_bool`. -/
def asBool : Json → Option Bool
  | .bool b => some b
  | _ => none

/-- `Value::as_u64`. -/
def asU64 : Json → Option ℕ
  | .num (.int n) => if 0 ≤ n then some n.toNat else none
  | _ => none

/-- `Value::as_i64`. -/
def asI64 : Json → Option ℤ
  | .num (.int n) => if -9223372036854775808 ≤ n ∧ n ≤ 9223372036854775807 then some n else none
  | _ => none

theorem lookupField_insertField_self (key : String) (value : Json)
    (fields : List (String × Json)) :
    lookupField key (insertField key value fields) = some value := by
  induction fields with
  | nil => simp [insertField, lookupField]
  | cons field fields ih =>
      by_cases h : field.1 = key
      · simp [insertField, lookupField, h]
      · simp [insertField, lookupField, h, ih]

theorem lookupField_insertField_ne {key other : String} (h : other ≠ key) (value : Json)
    (fields : List (String × Json)) :
    lookupField other (insertField key value fields) = lookupField other fields := by
  induction fields with
  | nil => simp [insertField, lookupField, h.symm]
  | cons field fields ih =>
      by_cases hk : field.1 = key
      · simp [insertField, lookupField, hk, h.symm]
      · simp [insertField, lookupField, hk, ih]

/-- Unbinding a key leaves the others as they were. -/
theorem lookupField_removeField_ne {key other : String} (h : other ≠ key)
    (fields : List (String × Json)) :
    lookupField other (removeField key fields) = lookupField other fields := by
  induction fields with
  | nil => rfl
  | cons field fields ih =>
      simp only [removeField] at ih
      by_cases hk : field.1 = key
      · simp [removeField, lookupField, hk, h.symm, ih]
      · by_cases ho : field.1 = other
        · simp [removeField, lookupField, ho, h]
        · simp [removeField, lookupField, hk, ho, ih]

/-- Inserting what is there changes nothing. -/
theorem insertField_eq_self {key : String} {value : Json} {fields : List (String × Json)}
    (h : lookupField key fields = some value) : insertField key value fields = fields := by
  induction fields with
  | nil => cases h
  | cons field fields ih =>
      obtain ⟨k, v⟩ := field
      rw [lookupField] at h
      rw [insertField]
      split at h
      next hkey =>
        cases h
        rw [if_pos hkey]
      next hkey => rw [if_neg hkey, ih h]

/-- The last insertion under a key counts. -/
theorem insertField_insertField (key : String) (value value' : Json)
    (fields : List (String × Json)) :
    insertField key value (insertField key value' fields) = insertField key value fields := by
  induction fields with
  | nil => simp [insertField]
  | cons field fields ih =>
      by_cases h : field.1 = key
      · simp [insertField, h]
      · simp [insertField, h, ih]

/-- A member that was inserted is read back. -/
@[simp] theorem get_insert_self (key : String) (value : Json) (fields : List (String × Json)) :
    (insert key value (.obj fields)).get key = some value :=
  lookupField_insertField_self key value fields

/-- Inserting a member leaves the others as they were. -/
theorem get_insert_ne {key other : String} (h : other ≠ key) (value json : Json) :
    (insert key value json).get other = json.get other := by
  cases json with
  | obj fields => exact lookupField_insertField_ne h value fields
  | _ => rfl

end Json

/-- What a sequence of checks that succeeds has computed. -/
theorem exceptBind_ok {ε α β : Type} {x : Except ε α} {f : α → Except ε β} {b : β}
    (h : x >>= f = .ok b) : ∃ a, x = .ok a ∧ f a = .ok b := by
  cases x with
  | error error => cases h
  | ok a => exact ⟨a, rfl, h⟩

/-- What follows a computation succeeds after it. -/
theorem exceptBind_eq_ok_iff {ε α β : Type} {x : Except ε α} {f : α → Except ε β} {b : β} :
    x >>= f = .ok b ↔ ∃ a, x = .ok a ∧ f a = .ok b := by
  refine ⟨exceptBind_ok, ?_⟩
  rintro ⟨a, rfl, h⟩
  exact h

/-- A computation on every item computes a value for each of them, in their order, where what a
sequence of computations computes is computed step by step. -/
theorem mapM_eq_pure_iff {m : Type → Type} [Monad m] [LawfulMonad m]
    (hpure : ∀ {α : Type} {a b : α}, (pure a : m α) = pure b ↔ a = b)
    (hbind : ∀ {α β : Type} {x : m α} {f : α → m β} {b : β},
      x >>= f = pure b ↔ ∃ a, x = pure a ∧ f a = pure b)
    {α β : Type} {f : α → m β} {xs : List α} {ys : List β} :
    xs.mapM f = pure ys ↔ xs.map f = ys.map pure := by
  induction xs generalizing ys with
  | nil =>
      rw [List.mapM_nil, hpure]
      cases ys <;> simp
  | cons x xs ih =>
      rw [List.mapM_cons, hbind]
      constructor
      · rintro ⟨y, hy, hrest⟩
        obtain ⟨rest, hxs, heq⟩ := hbind.mp hrest
        obtain rfl := hpure.mp heq
        rw [List.map_cons, List.map_cons, hy, ih.mp hxs]
      · intro h
        cases ys with
        | nil => cases h
        | cons y ys =>
            rw [List.map_cons, List.map_cons, List.cons.injEq] at h
            exact ⟨y, h.1, hbind.mpr ⟨ys, ih.mpr h.2, rfl⟩⟩

/-- A check of every item computes a value for each of them, in their order. -/
theorem exceptMapM_eq_ok_iff {ε α β : Type} {f : α → Except ε β} {xs : List α} {ys : List β} :
    xs.mapM f = .ok ys ↔ xs.map f = ys.map .ok :=
  mapM_eq_pure_iff ⟨fun h => Except.ok.inj h, fun h => congrArg Except.ok h⟩ exceptBind_eq_ok_iff

/-- A reading of every item gives a value for each of them, in their order. -/
theorem optionMapM_eq_some_iff {α β : Type} {f : α → Option β} {xs : List α} {ys : List β} :
    xs.mapM f = some ys ↔ xs.map f = ys.map some :=
  mapM_eq_pure_iff Option.some_inj Option.bind_eq_some_iff

/-- What a check of every item has computed. -/
theorem exceptMapM_ok {ε α β : Type} {f : α → Except ε β} {xs : List α} {ys : List β}
    (h : xs.mapM f = .ok ys) :
    (∀ x ∈ xs, ∃ y ∈ ys, f x = .ok y) ∧ ∀ y ∈ ys, ∃ x ∈ xs, f x = .ok y := by
  have hmap := exceptMapM_eq_ok_iff.mp h
  constructor
  · intro x hx
    have hmem : f x ∈ ys.map .ok := hmap ▸ List.mem_map_of_mem hx
    obtain ⟨y, hy, heq⟩ := List.mem_map.mp hmem
    exact ⟨y, hy, heq.symm⟩
  · intro y hy
    have hmem : .ok y ∈ xs.map f := hmap ▸ List.mem_map_of_mem hy
    exact List.mem_map.mp hmem

end Beampipe
