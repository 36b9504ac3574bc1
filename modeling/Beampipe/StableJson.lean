/-
Stable JSON: a text of a JSON value that does not depend on the order of object keys.

The text writes the members of an object in the order of their keys and nothing between the tokens.
How strings and numbers are written is left to the serializer; it writes valid JSON, so a string ends
where its text says it ends and a number consists of the characters of numbers.  On values whose
objects have no key twice, two texts are equal exactly when the values differ in nothing but the
order of object keys.

Main definitions:

* `Beampipe.ScalarText`, `Beampipe.ScalarText.Faithful` — the serializer of strings and numbers;
* `Beampipe.Json.stableJson` — the text;
* `Beampipe.Json.toText` — the text with the members of objects as they come;
* `Beampipe.Json.UniqueKeys` — no object has a key twice;
* `Beampipe.Json.Reorders` — the same value up to the order of object keys, at any depth;
* `Beampipe.Json.canonical` — the value with its keys in order.

Main results:

* `Beampipe.Json.stableJson_inj` — a text determines the canonical value, whatever follows it;
* `Beampipe.Json.reorders_iff` — reordering keys is having the same canonical value;
* `Beampipe.Json.stableJson_eq_iff` — **the text determines the value up to the order of keys**.
-/

import Beampipe.Json
import Beampipe.KeySort
import Mathlib.Data.String.Basic

set_option relaxedAutoImplicit false
set_option autoImplicit false

namespace Beampipe

/-- `BTreeMap<String, T>`. -/
abbrev BTreeMap (α : Type) : Type := Std.ExtTreeMap String α compare

/-! ### Scalars -/

/-- How the serializer writes strings and numbers. -/
structure ScalarText where
  string : String → List Char
  number : JsonNumber → List Char

/-- The characters of a JSON number. -/
def isNumberChar (c : Char) : Bool :=
  ('0' ≤ c && c ≤ '9') || c == '-' || c == '+' || c == '.' || c == 'e' || c == 'E'

/-- The separator between the parts of a sort key. -/
def unitSeparator : Char := Char.ofNat 31

/-- The serializer writes valid JSON: a string is quoted, ends where its text says so whatever
follows, and has its control characters escaped; a number is written with the characters of numbers;
both can be read back. -/
structure ScalarText.Faithful (t : ScalarText) : Prop where
  string_inj : ∀ s s' rest rest', t.string s ++ rest = t.string s' ++ rest' → s = s' ∧ rest = rest'
  string_quoted : ∀ s, ∃ text, t.string s = '"' :: text
  string_printable : ∀ s, unitSeparator ∉ t.string s
  number_inj : ∀ n n', t.number n = t.number n' → n = n'
  number_ne_nil : ∀ n, t.number n ≠ []
  number_chars : ∀ n, ∀ c ∈ t.number n, isNumberChar c

namespace Json

/-! ### The text -/

/-- The parts with commas between them. -/
def joinComma : List (List Char) → List Char
  | [] => []
  | [part] => part
  | part :: next :: parts => part ++ ',' :: joinComma (next :: parts)

/-- A member of an object. -/
def memberText (t : ScalarText) (member : String × List Char) : List Char :=
  t.string member.1 ++ ':' :: member.2

mutual

/-- `stable_json`. -/
def stableJson (t : ScalarText) : Json → List Char
  | .null => "null".toList
  | .bool b => if b then "true".toList else "false".toList
  | .num n => t.number n
  | .str s => t.string s
  | .arr items => '[' :: joinComma (stableJsonItems t items) ++ [']']
  | .obj fields =>
      '{' :: joinComma ((KeySort.sortByKey Prod.fst (stableJsonFields t fields)).map (memberText t))
        ++ ['}']

/-- The texts of the items of an array. -/
def stableJsonItems (t : ScalarText) : List Json → List (List Char)
  | [] => []
  | item :: items => stableJson t item :: stableJsonItems t items

/-- The members of an object with the texts of their values. -/
def stableJsonFields (t : ScalarText) : List (String × Json) → List (String × List Char)
  | [] => []
  | (key, value) :: fields => (key, stableJson t value) :: stableJsonFields t fields

end

mutual

/-- `Value::to_string`: the members of an object as they come. -/
def toText (t : ScalarText) : Json → List Char
  | .null => "null".toList
  | .bool b => if b then "true".toList else "false".toList
  | .num n => t.number n
  | .str s => t.string s
  | .arr items => '[' :: joinComma (itemTexts t items) ++ [']']
  | .obj fields => '{' :: joinComma (memberTexts t fields) ++ ['}']

/-- The texts of the items of an array. -/
def itemTexts (t : ScalarText) : List Json → List (List Char)
  | [] => []
  | item :: items => toText t item :: itemTexts t items

/-- The texts of the members of an object. -/
def memberTexts (t : ScalarText) : List (String × Json) → List (List Char)
  | [] => []
  | (key, value) :: fields => memberText t (key, toText t value) :: memberTexts t fields

end

mutual

/-- The value with the members of every object in the order of their keys. -/
def canonical : Json → Json
  | .arr items => .arr (canonicalItems items)
  | .obj fields => .obj (KeySort.sortByKey Prod.fst (canonicalFields fields))
  | json => json

/-- The canonical items of an array. -/
def canonicalItems : List Json → List Json
  | [] => []
  | item :: items => canonical item :: canonicalItems items

/-- The canonical members of an object. -/
def canonicalFields : List (String × Json) → List (String × Json)
  | [] => []
  | (key, value) :: fields => (key, canonical value) :: canonicalFields fields

end

/-- No object of the value has a key twice, as in `serde_json::Value`. -/
inductive UniqueKeys : Json → Prop where
  | null : UniqueKeys .null
  | bool (b : Bool) : UniqueKeys (.bool b)
  | num (n : JsonNumber) : UniqueKeys (.num n)
  | str (s : String) : UniqueKeys (.str s)
  | arr {items : List Json} (h : ∀ item ∈ items, UniqueKeys item) : UniqueKeys (.arr items)
  | obj {fields : List (String × Json)} (hkeys : (fields.map Prod.fst).Nodup)
      (h : ∀ field ∈ fields, UniqueKeys field.2) : UniqueKeys (.obj fields)

/-- The same value up to the order of object keys, at any depth. -/
inductive Reorders : Json → Json → Prop where
  | refl (v : Json) : Reorders v v
  | trans {u v w : Json} (h : Reorders u v) (h' : Reorders v w) : Reorders u w
  | keys {fields fields' : List (String × Json)} (h : fields.Perm fields') :
      Reorders (.obj fields) (.obj fields')
  | item {v w : Json} (before after : List Json) (h : Reorders v w) :
      Reorders (.arr (before ++ v :: after)) (.arr (before ++ w :: after))
  | field {v w : Json} (before after : List (String × Json)) (key : String) (h : Reorders v w) :
      Reorders (.obj (before ++ (key, v) :: after)) (.obj (before ++ (key, w) :: after))

/-! ### Recursion over a value -/

/-- Induction over a value: an array from its items, an object from the values of its members. -/
@[elab_as_elim]
theorem ind {P : Json → Prop} (hnull : P .null) (hbool : ∀ b, P (.bool b))
    (hnum : ∀ n, P (.num n)) (hstr : ∀ s, P (.str s))
    (harr : ∀ items, (∀ item ∈ items, P item) → P (.arr items))
    (hobj : ∀ fields, (∀ field ∈ fields, P field.2) → P (.obj fields)) (v : Json) : P v :=
  @Json.rec P (fun items => ∀ item ∈ items, P item) (fun fields => ∀ field ∈ fields, P field.2)
    (fun field => P field.2) hnull hbool hnum hstr harr hobj (by simp)
    (fun item items hitem hitems => by simpa using ⟨hitem, hitems⟩) (by simp)
    (fun field fields hfield hfields => by
      intro other hother
      rcases List.mem_cons.mp hother with rfl | hother
      · exact hfield
      · exact hfields other hother)
    (fun _ _ hvalue => hvalue) v

/-! ### The recursions on lists are maps -/

section Maps

variable (t : ScalarText)

theorem stableJsonItems_eq (items : List Json) :
    stableJsonItems t items = items.map (stableJson t) := by
  induction items with
  | nil => rfl
  | cons item items ih => simp [stableJsonItems, ih]

theorem stableJsonFields_eq (fields : List (String × Json)) :
    stableJsonFields t fields = fields.map fun field => (field.1, stableJson t field.2) := by
  induction fields with
  | nil => rfl
  | cons field fields ih => simp [stableJsonFields, ih]

theorem canonicalItems_eq (items : List Json) : canonicalItems items = items.map canonical := by
  induction items with
  | nil => rfl
  | cons item items ih => simp [canonicalItems, ih]

theorem canonicalFields_eq (fields : List (String × Json)) :
    canonicalFields fields = fields.map fun field => (field.1, canonical field.2) := by
  induction fields with
  | nil => rfl
  | cons field fields ih => simp [canonicalFields, ih]

/-- The members of an object in the order of their keys. -/
def sortFields (fields : List (String × Json)) : List (String × Json) :=
  KeySort.sortByKey Prod.fst fields

theorem sortFields_perm (fields : List (String × Json)) : (sortFields fields).Perm fields :=
  KeySort.sortByKey_perm fields

theorem sortFields_sorted (fields : List (String × Json)) :
    ((sortFields fields).map Prod.fst).Pairwise (· ≤ ·) := KeySort.sortByKey_sorted fields

@[simp] theorem mem_sortFields {fields : List (String × Json)} {field : String × Json} :
    field ∈ sortFields fields ↔ field ∈ fields := KeySort.mem_sortByKey

theorem stableJson_arr (items : List Json) :
    stableJson t (.arr items) = '[' :: joinComma (items.map (stableJson t)) ++ [']'] := by
  rw [stableJson, stableJsonItems_eq]

theorem toText_arr (items : List Json) :
    toText t (.arr items) = '[' :: joinComma (items.map (toText t)) ++ [']'] := by
  have hitems : ∀ items : List Json, itemTexts t items = items.map (toText t) := by
    intro items
    induction items with
    | nil => rfl
    | cons item items ih => simp [itemTexts, ih]
  rw [toText, hitems]

theorem toText_obj (fields : List (String × Json)) :
    toText t (.obj fields) =
      '{' :: joinComma (fields.map fun field => memberText t (field.1, toText t field.2)) ++
        ['}'] := by
  have hfields : ∀ fields : List (String × Json), memberTexts t fields =
      fields.map fun field => memberText t (field.1, toText t field.2) := by
    intro fields
    induction fields with
    | nil => rfl
    | cons field fields ih => simp [memberTexts, ih]
  rw [toText, hfields]

/-- The text of an object, over its members in order. -/
theorem stableJson_obj (fields : List (String × Json)) :
    stableJson t (.obj fields) =
      '{' :: joinComma ((sortFields fields).map fun field =>
        memberText t (field.1, stableJson t field.2)) ++ ['}'] := by
  have hsort : (sortFields fields).map (fun field => (field.1, stableJson t field.2)) =
      KeySort.sortByKey Prod.fst (fields.map fun field => (field.1, stableJson t field.2)) :=
    KeySort.map_sortByKey fun _ _ _ _ => Iff.rfl
  rw [stableJson, stableJsonFields_eq, ← hsort, List.map_map]
  rfl

theorem canonical_arr (items : List Json) :
    canonical (.arr items) = .arr (items.map canonical) := by
  rw [canonical, canonicalItems_eq]

theorem canonical_obj (fields : List (String × Json)) :
    canonical (.obj fields) =
      .obj ((sortFields fields).map fun field => (field.1, canonical field.2)) := by
  have hsort : (sortFields fields).map (fun field => (field.1, canonical field.2)) =
      KeySort.sortByKey Prod.fst (fields.map fun field => (field.1, canonical field.2)) :=
    KeySort.map_sortByKey fun _ _ _ _ => Iff.rfl
  rw [canonical, canonicalFields_eq, ← hsort]

end Maps

/-! ### A text ends where it says -/

/-- What follows a text of a value: nothing, or a character that no number has. -/
def Ends (rest : List Char) : Prop := ∀ c ∈ rest.head?, isNumberChar c = false

theorem ends_cons {c : Char} (hc : isNumberChar c = false) (rest : List Char) : Ends (c :: rest) := by
  intro d hd
  simp only [List.head?_cons, Option.mem_def, Option.some.injEq] at hd
  rwa [← hd]

/-- Two stretches of characters of one class end at the same place. -/
theorem append_inj_of_class {p : Char → Bool} {a a' rest rest' : List Char} (ha : ∀ c ∈ a, p c)
    (ha' : ∀ c ∈ a', p c) (hrest : ∀ c ∈ rest.head?, p c = false)
    (hrest' : ∀ c ∈ rest'.head?, p c = false) (h : a ++ rest = a' ++ rest') :
    a = a' ∧ rest = rest' := by
  induction a generalizing a' with
  | nil =>
      cases a' with
      | nil => exact ⟨rfl, h⟩
      | cons c a' =>
          rw [List.nil_append, List.cons_append] at h
          have hc := hrest c (by simp [h])
          rw [ha' c (by simp)] at hc
          cases hc
  | cons c a ih =>
      cases a' with
      | nil =>
          rw [List.nil_append, List.cons_append] at h
          have hc := hrest' c (by simp [← h])
          rw [ha c (by simp)] at hc
          cases hc
      | cons c' a' =>
          simp only [List.cons_append, List.cons.injEq] at h
          obtain ⟨rfl, h⟩ := h
          obtain ⟨rfl, hrest⟩ := ih (fun d hd => ha d (by simp [hd]))
            (fun d hd => ha' d (by simp [hd])) h
          exact ⟨rfl, hrest⟩

/-- The first character of the text of a value. -/
def leads : Json → Char → Bool
  | .null, c => c == 'n'
  | .bool true, c => c == 't'
  | .bool false, c => c == 'f'
  | .num _, c => isNumberChar c
  | .str _, c => c == '"'
  | .arr _, c => c == '['
  | .obj _, c => c == '{'

variable {t : ScalarText}

theorem exists_leads (ht : t.Faithful) (v : Json) :
    ∃ c rest, stableJson t v = c :: rest ∧ v.leads c = true := by
  cases v with
  | null => exact ⟨'n', _, rfl, rfl⟩
  | bool b =>
      cases b
      · exact ⟨'f', _, rfl, rfl⟩
      · exact ⟨'t', _, rfl, rfl⟩
  | num n =>
      cases htext : t.number n with
      | nil => exact absurd htext (ht.number_ne_nil n)
      | cons c rest =>
          exact ⟨c, rest, by rw [stableJson, htext], ht.number_chars n c (by simp [htext])⟩
  | str s =>
      obtain ⟨rest, htext⟩ := ht.string_quoted s
      exact ⟨'"', rest, by rw [stableJson, htext], rfl⟩
  | arr items => exact ⟨'[', _, by rw [stableJson_arr]; rfl, rfl⟩
  | obj fields => exact ⟨'{', _, by rw [stableJson_obj]; rfl, rfl⟩

theorem exists_leads_toText (ht : t.Faithful) (v : Json) :
    ∃ c rest, toText t v = c :: rest ∧ v.leads c = true := by
  cases v with
  | arr items => exact ⟨'[', _, by rw [toText_arr]; rfl, rfl⟩
  | obj fields => exact ⟨'{', _, by rw [toText_obj]; rfl, rfl⟩
  | null => exact exists_leads ht .null
  | bool b => exact exists_leads ht (.bool b)
  | num n => exact exists_leads ht (.num n)
  | str s => exact exists_leads ht (.str s)

/-- No text of a value starts with a closing bracket. -/
theorem ne_of_leads {v : Json} {c : Char} (h : v.leads c) : c ≠ ']' ∧ c ≠ '}' := by
  constructor
  all_goals
    rintro rfl
    cases v with
    | bool b => cases b <;> simp [leads] at h
    | num n => simp [leads, isNumberChar] at h
    | _ => simp [leads] at h

/-- The parts after the first one come with their comma. -/
theorem joinComma_cons (part : List Char) (parts : List (List Char)) :
    joinComma (part :: parts) = part ++ parts.flatMap fun next => ',' :: next := by
  induction parts generalizing part with
  | nil => simp [joinComma]
  | cons next parts ih => simp [joinComma, ih]

section Join

variable {α β : Type} {f : α → List Char} {g : α → β} {close : Char}

/-- Parts that come with their commas, up to a bracket, can be taken apart again. -/
theorem commas_inj (hclose : close ≠ ',' ∧ isNumberChar close = false) {xs ys : List α}
    (hf : ∀ x ∈ xs, ∀ y ∈ ys, ∀ rest rest', Ends rest → Ends rest' →
      f x ++ rest = f y ++ rest' → g x = g y ∧ rest = rest') {rest rest' : List Char}
    (h : ((xs.map f).flatMap fun next => ',' :: next) ++ close :: rest =
      ((ys.map f).flatMap fun next => ',' :: next) ++ close :: rest') :
    xs.map g = ys.map g ∧ rest = rest' := by
  have hends : ∀ (l : List α) (tail : List Char),
      Ends (((l.map f).flatMap fun next => ',' :: next) ++ close :: tail) := by
    intro l tail
    cases l with
    | nil => exact ends_cons hclose.2 tail
    | cons a l => exact ends_cons (by decide) _
  induction xs generalizing ys with
  | nil =>
      cases ys with
      | nil => simpa using h
      | cons y ys => simp [hclose.1] at h
  | cons x xs ih =>
      cases ys with
      | nil => simp [Ne.symm hclose.1] at h
      | cons y ys =>
          simp only [List.map_cons, List.flatMap_cons, List.cons_append, List.append_assoc,
            List.cons.injEq, true_and] at h
          obtain ⟨hg, hrest⟩ := hf x (by simp) y (by simp) _ _ (hends xs rest) (hends ys rest') h
          obtain ⟨hgs, hend⟩ := ih (fun a ha b hb => hf a (by simp [ha]) b (by simp [hb])) hrest
          exact ⟨by simp [hg, hgs], hend⟩

/-- Joined parts that end in a bracket can be taken apart again. -/
theorem joinComma_inj (hclose : close ≠ ',' ∧ isNumberChar close = false)
    (hlead : ∀ a, ∃ c rest, f a = c :: rest ∧ c ≠ close) {xs ys : List α}
    (hf : ∀ x ∈ xs, ∀ y ∈ ys, ∀ rest rest', Ends rest → Ends rest' →
      f x ++ rest = f y ++ rest' → g x = g y ∧ rest = rest') {rest rest' : List Char}
    (h : joinComma (xs.map f) ++ close :: rest = joinComma (ys.map f) ++ close :: rest') :
    xs.map g = ys.map g ∧ rest = rest' := by
  cases xs with
  | nil =>
      cases ys with
      | nil => simpa [joinComma] using h
      | cons y ys =>
          -- the bracket is not the start of a part
          obtain ⟨c, text, hy, hc⟩ := hlead y
          simp [joinComma_cons, joinComma, hy, Ne.symm hc] at h
  | cons x xs =>
      cases ys with
      | nil =>
          obtain ⟨c, text, hx, hc⟩ := hlead x
          simp [joinComma_cons, joinComma, hx, hc] at h
      | cons y ys =>
          -- the first parts go together, then each comma with its part
          simp only [List.map_cons, joinComma_cons, List.append_assoc] at h
          refine commas_inj hclose hf ?_
          simp only [List.map_cons, List.flatMap_cons, List.cons_append, List.append_assoc, h]

end Join

/-- The second value is of the kind of the first. -/
def SameKind : Json → Json → Prop
  | .null, w => w = .null
  | .bool b, w => w = .bool b
  | .num _, w => ∃ n, w = .num n
  | .str _, w => ∃ s, w = .str s
  | .arr _, w => ∃ items, w = .arr items
  | .obj _, w => ∃ fields, w = .obj fields

/-- Values that start alike are of one kind. -/
theorem sameKind_of_leads {v w : Json} {c : Char} (hv : v.leads c) (hw : w.leads c) :
    v.SameKind w := by
  have hletters : ∀ d ∈ ['n', 't', 'f', '"', '[', '{'], isNumberChar d = false := by
    simp [isNumberChar]
  rcases v with _ | (_ | _) | _ | _ | _ | _ <;> rcases w with _ | (_ | _) | _ | _ | _ | _ <;>
    simp only [leads, beq_iff_eq] at hv hw <;> simp_all [SameKind]

/-- Values whose texts start alike are of one kind. -/
theorem sameKind_of_text (ht : t.Faithful) {v w : Json} {rest rest' : List Char}
    (h : stableJson t v ++ rest = stableJson t w ++ rest') : v.SameKind w := by
  obtain ⟨c, text, hv, hvc⟩ := exists_leads ht v
  obtain ⟨c', text', hw, hwc⟩ := exists_leads ht w
  rw [hv, hw, List.cons_append, List.cons_append] at h
  obtain rfl := (List.cons.inj h).1
  exact sameKind_of_leads hvc hwc

/-- **A text determines the canonical value**, whatever follows it. -/
theorem stableJson_inj (ht : t.Faithful) (v w : Json) {rest rest' : List Char} (hrest : Ends rest)
    (hrest' : Ends rest') (h : stableJson t v ++ rest = stableJson t w ++ rest') :
    canonical v = canonical w ∧ rest = rest' := by
  have hstart : ∀ u : Json, ∃ c text, stableJson t u = c :: text ∧ c ≠ ']' := by
    intro u
    obtain ⟨c, text, hu, hc⟩ := exists_leads ht u
    exact ⟨c, text, hu, (ne_of_leads hc).1⟩
  induction v using ind generalizing w rest rest' with
  | hnull =>
      obtain rfl := sameKind_of_text ht h
      exact ⟨rfl, List.append_cancel_left h⟩
  | hbool b =>
      obtain rfl := sameKind_of_text ht h
      exact ⟨rfl, List.append_cancel_left h⟩
  | hnum n =>
      obtain ⟨m, rfl⟩ := sameKind_of_text ht h
      obtain ⟨htext, hend⟩ := append_inj_of_class (ht.number_chars n) (ht.number_chars m) hrest
        hrest' h
      exact ⟨by rw [ht.number_inj n m htext], hend⟩
  | hstr s =>
      obtain ⟨s', rfl⟩ := sameKind_of_text ht h
      obtain ⟨rfl, hend⟩ := ht.string_inj s s' rest rest' h
      exact ⟨rfl, hend⟩
  | harr items ih =>
      obtain ⟨items', rfl⟩ := sameKind_of_text ht h
      simp only [stableJson_arr, List.cons_append, List.append_assoc, List.cons.injEq, true_and,
        List.nil_append] at h
      obtain ⟨hitems, hend⟩ := joinComma_inj (by decide) hstart
        (fun x hx y _ r r' hr hr' => ih x hx y hr hr') h
      exact ⟨by rw [canonical_arr, canonical_arr, hitems], hend⟩
  | hobj fields ih =>
      obtain ⟨fields', rfl⟩ := sameKind_of_text ht h
      simp only [stableJson_obj, List.cons_append, List.append_assoc, List.cons.injEq, true_and,
        List.nil_append] at h
      have hmember : ∀ field : String × Json, ∃ c text,
          memberText t (field.1, stableJson t field.2) = c :: text ∧ c ≠ '}' := by
        intro field
        obtain ⟨text, hkey⟩ := ht.string_quoted field.1
        exact ⟨'"', text ++ ':' :: stableJson t field.2, by simp [memberText, hkey], by decide⟩
      have hparts : ∀ x ∈ sortFields fields, ∀ y ∈ sortFields fields', ∀ r r', Ends r → Ends r' →
          memberText t (x.1, stableJson t x.2) ++ r = memberText t (y.1, stableJson t y.2) ++ r' →
          (x.1, canonical x.2) = (y.1, canonical y.2) ∧ r = r' := by
        intro x hx y _ r r' hr hr' hxy
        simp only [memberText, List.append_assoc, List.cons_append] at hxy
        obtain ⟨hkey, hvalue⟩ := ht.string_inj _ _ _ _ hxy
        obtain ⟨hcanonical, hend⟩ := ih x (mem_sortFields.mp hx) y.2 hr hr' (List.cons.inj hvalue).2
        exact ⟨by rw [hkey, hcanonical], hend⟩
      obtain ⟨hfields, hend⟩ := joinComma_inj (by decide) hmember hparts h
      exact ⟨by rw [canonical_obj, canonical_obj, hfields], hend⟩

/-! ### The canonical value -/

theorem sortFields_eq_of_sorted {fields : List (String × Json)}
    (h : (fields.map Prod.fst).Pairwise (· ≤ ·)) : sortFields fields = fields :=
  (List.pairwise_map.mp h).insertionSort_eq

/-- The canonical value has the same text. -/
theorem stableJson_canonical (v : Json) : stableJson t (canonical v) = stableJson t v := by
  induction v using ind with
  | harr items ih =>
      rw [canonical_arr, stableJson_arr, stableJson_arr, List.map_map]
      congr 3
      exact List.map_congr_left ih
  | hobj fields ih =>
      -- the members of the canonical value are in order already
      have hsorted : sortFields ((sortFields fields).map fun field => (field.1, canonical field.2)) =
          (sortFields fields).map fun field => (field.1, canonical field.2) := by
        refine sortFields_eq_of_sorted ?_
        rw [List.map_map]
        exact sortFields_sorted fields
      rw [canonical_obj, stableJson_obj, stableJson_obj, hsorted, List.map_map]
      congr 3
      refine List.map_congr_left fun field hfield => ?_
      simp only [Function.comp_apply, ih field (mem_sortFields.mp hfield)]
  | _ => rfl

/-- The stable text is the text of the canonical value. -/
theorem toText_canonical (v : Json) : toText t (canonical v) = stableJson t v := by
  induction v using ind with
  | harr items ih =>
      rw [canonical_arr, toText_arr, stableJson_arr, List.map_map]
      congr 3
      exact List.map_congr_left ih
  | hobj fields ih =>
      rw [canonical_obj, toText_obj, stableJson_obj, List.map_map]
      congr 3
      refine List.map_congr_left fun field hfield => ?_
      simp only [Function.comp_apply, ih field (mem_sortFields.mp hfield)]
  | _ => rfl

namespace Reorders

theorem symm {v w : Json} (h : Reorders v w) : Reorders w v := by
  induction h with
  | refl v => exact .refl v
  | trans _ _ ih ih' => exact ih'.trans ih
  | keys h => exact .keys h.symm
  | item before after _ ih => exact .item before after ih
  | field before after key _ ih => exact .field before after key ih

/-- Reordering inside the items of an array. -/
theorem arr {xs ys : List Json} (h : List.Forall₂ Reorders xs ys) (before : List Json) :
    Reorders (.arr (before ++ xs)) (.arr (before ++ ys)) := by
  induction h generalizing before with
  | nil => exact .refl _
  | @cons x y xs ys hxy _ ih =>
      refine (item before xs hxy).trans ?_
      simpa using ih (before ++ [y])

/-- Reordering inside the values of an object. -/
theorem obj {xs ys : List (String × Json)}
    (h : List.Forall₂ (fun x y => x.1 = y.1 ∧ Reorders x.2 y.2) xs ys)
    (before : List (String × Json)) : Reorders (.obj (before ++ xs)) (.obj (before ++ ys)) := by
  induction h generalizing before with
  | nil => exact .refl _
  | @cons x y xs ys hxy _ ih =>
      have hhead : Reorders (.obj (before ++ x :: xs)) (.obj (before ++ y :: xs)) := by
        have hfield := field before xs x.1 hxy.2
        rwa [hxy.1, show (y.1, x.2) = x by rw [← hxy.1]] at hfield
      refine hhead.trans ?_
      simpa using ih (before ++ [y])

/-- A value and its canonical value differ in the order of keys only. -/
theorem canonical (v : Json) : Reorders v v.canonical := by
  induction v using ind with
  | harr items ih =>
      rw [canonical_arr]
      refine arr ?_ []
      rw [List.forall₂_map_right_iff]
      exact List.forall₂_same.mpr ih
  | hobj fields ih =>
      rw [canonical_obj]
      refine (keys (sortFields_perm fields).symm).trans (obj ?_ [])
      rw [List.forall₂_map_right_iff]
      exact List.forall₂_same.mpr fun field hfield => ⟨rfl, ih field (mem_sortFields.mp hfield)⟩
  | _ => exact .refl _

end Reorders

/-- The canonical value does not see the order of keys, when no key is there twice. -/
theorem canonical_eq_of_reorders {v w : Json} (hv : v.UniqueKeys) (h : Reorders v w) :
    w.UniqueKeys ∧ canonical v = canonical w := by
  induction h with
  | refl v => exact ⟨hv, rfl⟩
  | trans _ _ ih ih' =>
      obtain ⟨hw, heq⟩ := ih hv
      obtain ⟨hu, heq'⟩ := ih' hw
      exact ⟨hu, heq.trans heq'⟩
  | @keys fields fields' hperm =>
      cases hv with
      | obj hkeys hvalues =>
          refine ⟨.obj ((hperm.map Prod.fst).nodup_iff.mp hkeys)
            fun field hfield => hvalues field (hperm.symm.subset hfield), ?_⟩
          have hsort : sortFields fields = sortFields fields' :=
            KeySort.sortByKey_eq_of_perm hperm hkeys
          rw [canonical_obj, canonical_obj, hsort]
  | @item v w before after _ ih =>
      cases hv with
      | arr hitems =>
          obtain ⟨hw, heq⟩ := ih (hitems v (by simp))
          refine ⟨.arr fun item hitem => ?_, by simp [canonical_arr, heq]⟩
          simp only [List.mem_append, List.mem_cons] at hitem
          rcases hitem with hitem | rfl | hitem
          · exact hitems item (by simp [hitem])
          · exact hw
          · exact hitems item (by simp [hitem])
  | @field v w before after key _ ih =>
      cases hv with
      | obj hkeys hvalues =>
          obtain ⟨hw, heq⟩ := ih (hvalues (key, v) (by simp))
          refine ⟨.obj (by simpa using hkeys) fun field hfield => ?_, ?_⟩
          · simp only [List.mem_append, List.mem_cons] at hfield
            rcases hfield with hfield | rfl | hfield
            · exact hvalues field (by simp [hfield])
            · exact hw
            · exact hvalues field (by simp [hfield])
          · rw [Json.canonical, Json.canonical, canonicalFields_eq, canonicalFields_eq]
            simp [heq]

/-- Reordering keys is having the same canonical value. -/
theorem reorders_iff {v w : Json} (hv : v.UniqueKeys) :
    Reorders v w ↔ canonical v = canonical w := by
  constructor
  · exact fun h => (canonical_eq_of_reorders hv h).2
  · intro h
    have hw : Reorders (canonical v) w := h ▸ (Reorders.canonical w).symm
    exact (Reorders.canonical v).trans hw

theorem stableJson_eq_iff_canonical (ht : t.Faithful) (v w : Json) :
    stableJson t v = stableJson t w ↔ canonical v = canonical w := by
  constructor
  · intro h
    have hnil : Ends [] := by simp [Ends]
    exact (stableJson_inj ht v w hnil hnil (by rw [h])).1
  · intro h
    rw [← stableJson_canonical v, h, stableJson_canonical]

/-- **The text determines the value up to the order of keys.** -/
theorem stableJson_eq_iff (ht : t.Faithful) {v w : Json} (hv : v.UniqueKeys) :
    stableJson t v = stableJson t w ↔ Reorders v w := by
  rw [stableJson_eq_iff_canonical ht, reorders_iff hv]

/-! ### Reading a member of equal values -/

/-- A member of an object without double keys. -/
theorem lookupField_eq_some_iff {key : String} {fields : List (String × Json)} {v : Json}
    (h : (fields.map Prod.fst).Nodup) :
    lookupField key fields = some v ↔ (key, v) ∈ fields := by
  induction fields with
  | nil => simp [lookupField]
  | cons field fields ih =>
      rw [List.map_cons, List.nodup_cons] at h
      rw [lookupField, List.mem_cons]
      split
      next hkey =>
        -- the key is not there a second time
        have hnot : (key, v) ∉ fields := fun hmem =>
          h.1 (hkey ▸ List.mem_map.mpr ⟨(key, v), hmem, rfl⟩)
        constructor
        · intro hv
          exact .inl (Prod.ext hkey.symm (Option.some.inj hv).symm)
        · rintro (hfield | hmem)
          · rw [← hfield]
          · exact absurd hmem hnot
      next hkey =>
        rw [ih h.2]
        constructor
        · exact .inr
        · rintro (hfield | hmem)
          · exact absurd (congrArg Prod.fst hfield).symm hkey
          · exact hmem

/-- Members are read from the canonical value as well. -/
theorem get_canonical {v : Json} (hv : v.UniqueKeys) (key : String) :
    (canonical v).get key = (v.get key).map canonical := by
  cases hv with
  | @obj fields hkeys _ =>
      rw [canonical_obj, Json.get, Json.get]
      have hsorted : ((sortFields fields).map Prod.fst).Nodup :=
        ((sortFields_perm fields).map Prod.fst).nodup_iff.mpr hkeys
      have hcanonical : (((sortFields fields).map fun field =>
          (field.1, canonical field.2)).map Prod.fst).Nodup := by
        rw [List.map_map]
        exact hsorted
      ext w
      rw [lookupField_eq_some_iff hcanonical, Option.map_eq_some_iff]
      simp only [List.mem_map, mem_sortFields, Prod.mk.injEq, Prod.exists,
        lookupField_eq_some_iff hkeys]
      constructor
      · rintro ⟨k, u, hmem, rfl, rfl⟩
        exact ⟨u, hmem, rfl⟩
      · rintro ⟨u, hmem, rfl⟩
        exact ⟨key, u, hmem, rfl, rfl⟩
  | _ => rfl

@[simp] theorem asStr_canonical (v : Json) : (canonical v).asStr = v.asStr := by
  cases v <;> rfl

/-- Values with one text have the same text in a member. -/
theorem asStr_get_eq {v w : Json} (hv : v.UniqueKeys) (hw : w.UniqueKeys)
    (h : canonical v = canonical w) (key : String) :
    (v.get key).bind asStr = (w.get key).bind asStr := by
  have hget := congrArg (fun u : Json => (u.get key).bind asStr) h
  simpa [get_canonical hv, get_canonical hw, Option.bind_map, Function.comp_def] using hget

/-- No text of a value has the separator of sort keys. -/
theorem unitSeparator_notMem (ht : t.Faithful) (v : Json) : unitSeparator ∉ stableJson t v := by
  have hjoin : ∀ parts : List (List Char), (∀ part ∈ parts, unitSeparator ∉ part) →
      unitSeparator ∉ joinComma parts := by
    intro parts hparts
    cases parts with
    | nil => simp [joinComma]
    | cons part parts =>
        rw [joinComma_cons, List.mem_append, List.mem_flatMap]
        rintro (hmem | ⟨next, hnext, hmem⟩)
        · exact hparts part (by simp) hmem
        · rcases List.mem_cons.mp hmem with hcomma | hmem
          · exact absurd hcomma (by decide)
          · exact hparts next (by simp [hnext]) hmem
  induction v using ind with
  | hnull => rw [stableJson]; decide
  | hbool b => cases b <;> (rw [stableJson]; decide)
  | hnum n =>
      intro hmem
      exact absurd (ht.number_chars n _ hmem) (by decide)
  | hstr s => exact ht.string_printable s
  | harr items ih =>
      rw [stableJson_arr]
      have hitems := hjoin (items.map (stableJson t)) (by simpa using ih)
      simp only [List.cons_append, List.mem_cons, List.mem_append, not_or]
      exact ⟨by decide, hitems, by decide, by simp⟩
  | hobj fields ih =>
      rw [stableJson_obj]
      have hmembers := hjoin ((sortFields fields).map fun field =>
          memberText t (field.1, stableJson t field.2)) (by
        intro part hpart
        obtain ⟨field, hfield, rfl⟩ := List.mem_map.mp hpart
        simp only [memberText, List.mem_append, List.mem_cons, not_or]
        exact ⟨ht.string_printable field.1, by decide, ih field (mem_sortFields.mp hfield)⟩)
      simp only [List.cons_append, List.mem_cons, List.mem_append, not_or]
      exact ⟨by decide, hmembers, by decide, by simp⟩

end Json

/-! ### A serializer -/

/-- A character inside a quoted string; a control character is escaped with its number shifted. -/
def escapeChar (c : Char) : List Char :=
  if c = '"' ∨ c = '\\' then ['\\', c]
  else if c.toNat < 32 then ['\\', 'u', Char.ofNat (c.toNat + 64)]
  else [c]

/-- A serializer of strings and numbers that agrees with `serde_json` on strings without control
characters and on integers. -/
def ScalarText.plain : ScalarText where
  string s := '"' :: s.toList.flatMap escapeChar ++ ['"']
  number
    | .int n => (if n < 0 then ['-'] else []) ++ Nat.toDigits 10 n.natAbs
    | .float bits => 'e' :: Nat.toDigits 10 bits.toNat

/-- An escaped character ends where it says. -/
theorem escapeChar_inj {c d : Char} {rest rest' : List Char}
    (h : escapeChar c ++ rest = escapeChar d ++ rest') : c = d ∧ rest = rest' := by
  have hshift : ∀ a < 32, ∀ b < 32, Char.ofNat (a + 64) = Char.ofNat (b + 64) → a = b := by decide
  have hu : ∀ e : Char, e = '"' ∨ e = '\\' → e ≠ 'u' := by
    rintro e (rfl | rfl) <;> decide
  unfold escapeChar at h
  split_ifs at h with hc hd hd' hc' hd hd' hd hd'
  all_goals simp only [List.cons_append, List.nil_append, List.cons.injEq, true_and] at h
  · exact h
  · exact absurd h.1 (hu c hc)
  · exact absurd (.inr h.1.symm) hd
  · exact absurd h.1.symm (hu d hd)
  · obtain ⟨hchar, hrest⟩ := h
    exact ⟨Char.toNat_inj.mp (hshift _ hc' _ hd' hchar), hrest⟩
  · exact absurd (.inr h.1.symm) hd
  · exact absurd (.inr h.1) hc
  · exact absurd (.inr h.1) hc
  · exact h

theorem escapeChar_ne (c : Char) (rest rest' : List Char) : escapeChar c ++ rest ≠ '"' :: rest' := by
  intro h
  unfold escapeChar at h
  split_ifs at h with hc
  all_goals simp only [List.cons_append, List.nil_append, List.cons.injEq] at h
  · exact absurd h.1 (by decide)
  · exact absurd h.1 (by decide)
  · exact hc (.inl h.1)

theorem escapeChars_inj {cs ds rest rest' : List Char}
    (h : cs.flatMap escapeChar ++ '"' :: rest = ds.flatMap escapeChar ++ '"' :: rest') :
    cs = ds ∧ rest = rest' := by
  induction cs generalizing ds with
  | nil =>
      cases ds with
      | nil => simpa using h
      | cons d ds =>
          rw [List.flatMap_nil, List.nil_append, List.flatMap_cons, List.append_assoc] at h
          exact absurd h.symm (escapeChar_ne d _ _)
  | cons c cs ih =>
      cases ds with
      | nil =>
          rw [List.flatMap_nil, List.nil_append, List.flatMap_cons, List.append_assoc] at h
          exact absurd h (escapeChar_ne c _ _)
      | cons d ds =>
          rw [List.flatMap_cons, List.flatMap_cons, List.append_assoc, List.append_assoc] at h
          obtain ⟨rfl, htail⟩ := escapeChar_inj h
          obtain ⟨rfl, hrest⟩ := ih htail
          exact ⟨rfl, hrest⟩

theorem unitSeparator_notMem_escapeChar (c : Char) : unitSeparator ∉ escapeChar c := by
  have hshift : ∀ a < 32, unitSeparator ≠ Char.ofNat (a + 64) := by decide
  unfold escapeChar
  split_ifs with hspecial hcontrol
  · rcases hspecial with rfl | rfl <;> decide
  · simp only [List.mem_cons, List.not_mem_nil, or_false, not_or]
    exact ⟨by decide, by decide, hshift _ hcontrol⟩
  · rw [List.mem_singleton]
    rintro rfl
    exact hcontrol (by decide)

theorem toDigits_inj {n m : ℕ} (h : Nat.toDigits 10 n = Nat.toDigits 10 m) : n = m := by
  simpa using congrArg (Nat.ofDigitChars 10 · 0) h

/-- The digits of a number are characters of numbers. -/
theorem isNumberChar_of_mem_toDigits {n : ℕ} {c : Char} (h : c ∈ Nat.toDigits 10 n) :
    isNumberChar c = true ∧ c ≠ '-' ∧ c ≠ 'e' := by
  have hdigit := Nat.isDigit_of_mem_toDigits (by decide) (by decide) h
  refine ⟨?_, ?_, ?_⟩
  · simp only [Char.isDigit, Bool.and_eq_true, decide_eq_true_eq] at hdigit
    have hrange : '0' ≤ c ∧ c ≤ '9' := ⟨hdigit.1, hdigit.2⟩
    simp [isNumberChar, hrange]
  all_goals
    rintro rfl
    revert hdigit
    decide

theorem intText_inj {n n' : ℤ}
    (h : ScalarText.plain.number (.int n) = ScalarText.plain.number (.int n')) : n = n' := by
  have hminus : ∀ k : ℕ, '-' ∉ Nat.toDigits 10 k := fun k hmem =>
    (isNumberChar_of_mem_toDigits hmem).2.1 rfl
  simp only [ScalarText.plain] at h
  split_ifs at h with hn hn' hn'
  all_goals simp only [List.cons_append, List.nil_append, List.cons.injEq, true_and] at h
  · have habs := toDigits_inj h
    omega
  · exact absurd (by rw [← h]; simp) (hminus n'.natAbs)
  · exact absurd (by rw [h]; simp) (hminus n.natAbs)
  · have habs := toDigits_inj h
    omega

theorem intText_ne_float (n : ℤ) (digits : List Char) :
    ScalarText.plain.number (.int n) ≠ 'e' :: digits := by
  intro h
  have hmem : 'e' ∈ ScalarText.plain.number (.int n) := by simp [h]
  simp only [ScalarText.plain, List.mem_append] at hmem
  rcases hmem with hsign | hdigit
  · split at hsign
    · exact absurd (List.mem_singleton.mp hsign) (by decide)
    · cases hsign
  · exact (isNumberChar_of_mem_toDigits hdigit).2.2 rfl

/-- The serializer writes valid JSON. -/
theorem ScalarText.plain_faithful : ScalarText.plain.Faithful where
  string_inj s s' rest rest' h := by
    simp only [plain, List.cons_append, List.append_assoc, List.nil_append, List.cons.injEq,
      true_and] at h
    obtain ⟨hs, hrest⟩ := escapeChars_inj h
    exact ⟨String.toList_inj.mp hs, hrest⟩
  string_quoted s := ⟨_, rfl⟩
  string_printable s := by
    simp only [plain, List.cons_append, List.mem_cons, List.mem_append, List.mem_flatMap, not_or]
    refine ⟨by decide, ?_, by decide, by simp⟩
    rintro ⟨c, -, hc⟩
    exact unitSeparator_notMem_escapeChar c hc
  number_inj n n' h := by
    cases n with
    | int n =>
        cases n' with
        | int n' => rw [intText_inj h]
        | float bits' => exact absurd h (intText_ne_float n _)
    | float bits =>
        cases n' with
        | int n' => exact absurd h.symm (intText_ne_float n' _)
        | float bits' =>
            have hbits := toDigits_inj (List.cons.inj h).2
            rw [UInt64.toNat_inj.mp hbits]
  number_ne_nil n := by
    cases n <;> simp [plain, Nat.toDigits_ne_nil]
  number_chars n c hc := by
    cases n with
    | int n =>
        simp only [plain, List.mem_append] at hc
        rcases hc with hsign | hdigit
        · have hminus : c = '-' := by
            split at hsign
            · simpa using hsign
            · cases hsign
          rw [hminus]
          decide
        · exact (isNumberChar_of_mem_toDigits hdigit).1
    | float bits =>
        simp only [plain, List.mem_cons] at hc
        rcases hc with rfl | hdigit
        · decide
        · exact (isNumberChar_of_mem_toDigits hdigit).1

end Beampipe
