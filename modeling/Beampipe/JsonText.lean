/-
Reading JSON texts.

A text is read by recursive descent, with white space between the tokens, and an object keeps all
the members that it is written with.  The readers of strings and of numbers are parameters; where
they read back what a serializer writes, so does the whole parser: a canonical text is read as the
value it was written from, with the members of objects in the order of their keys.

Main definitions:

* `Beampipe.ScalarReader` — how strings and numbers are read;
* `Beampipe.parseValue`, `Beampipe.parseJson` — the parser;
* `Beampipe.ScalarReader.Reads` — the reader reads what the serializer writes;
* `Beampipe.Json.ReadableNumbers` — a value whose numbers the serializer writes readably;
* `Beampipe.Json.NumbersReadBack` — a value whose numbers are read back.

Main results:

* `Beampipe.parseValue_stableJson` — a canonical text is read up to its end;
* `Beampipe.parseJson_stableJson` — **a canonical text is read back**;
* `Beampipe.parseJson_toText_iff` — a value is read back from its text exactly when its numbers are.
-/

import Mathlib.Data.List.TakeWhile
import Beampipe.StableJson

set_option relaxedAutoImplicit false
set_option autoImplicit false

namespace Beampipe

/-! ### The parser -/

/-- How a quoted string at the head of a text, and the text of a number, are read. -/
structure ScalarReader where
  string : List Char → Option (String × List Char)
  number : List Char → Option JsonNumber

/-- White space between tokens. -/
def isJsonSpace (c : Char) : Bool :=
  c == ' ' || c.toNat == 9 || c.toNat == 10 || c.toNat == 13

/-- The text from its first token on. -/
def skipSpace (chars : List Char) : List Char := chars.dropWhile isJsonSpace

/-- The three literal names. -/
def parseWord (chars : List Char) : Option (Json × List Char) :=
  if "null".toList.isPrefixOf chars then some (.null, chars.drop 4)
  else if "true".toList.isPrefixOf chars then some (.bool true, chars.drop 4)
  else if "false".toList.isPrefixOf chars then some (.bool false, chars.drop 5)
  else none

section Parser

variable (reader : ScalarReader)

mutual

/-- A value at the head of a text, and what follows it. -/
def parseValue : ℕ → List Char → Option (Json × List Char)
  | 0, _ => none
  | fuel + 1, chars =>
      match skipSpace chars with
      | [] => none
      | c :: rest =>
          if c = '[' then
            match skipSpace rest with
            | ']' :: rest => some (.arr [], rest)
            | rest => (parseItems fuel rest).map fun items => (.arr items.1, items.2)
          else if c = '{' then
            match skipSpace rest with
            | '}' :: rest => some (.obj [], rest)
            | rest => (parseMembers fuel rest).map fun fields => (.obj fields.1, fields.2)
          else if c = '"' then
            (reader.string (c :: rest)).map fun text => (.str text.1, text.2)
          else if isNumberChar c then
            (reader.number ((c :: rest).takeWhile isNumberChar)).map fun n =>
              (.num n, (c :: rest).dropWhile isNumberChar)
          else parseWord (c :: rest)

/-- The items of an array up to its closing bracket; there is one at least. -/
def parseItems : ℕ → List Char → Option (List Json × List Char)
  | 0, _ => none
  | fuel + 1, chars =>
      match parseValue fuel chars with
      | none => none
      | some (item, rest) =>
          match skipSpace rest with
          | ',' :: rest => (parseItems fuel rest).map fun items => (item :: items.1, items.2)
          | ']' :: rest => some ([item], rest)
          | _ => none

/-- The members of an object up to its closing brace; there is one at least. -/
def parseMembers : ℕ → List Char → Option (List (String × Json) × List Char)
  | 0, _ => none
  | fuel + 1, chars =>
      match skipSpace chars with
      | [] => none
      | c :: rest =>
          if c ≠ '"' then none
          else
            match reader.string (c :: rest) with
            | none => none
            | some (key, rest) =>
                match skipSpace rest with
                | ':' :: rest =>
                    match parseValue fuel rest with
                    | none => none
                    | some (value, rest) =>
                        match skipSpace rest with
                        | ',' :: rest =>
                            (parseMembers fuel rest).map fun fields =>
                              ((key, value) :: fields.1, fields.2)
                        | '}' :: rest => some ([(key, value)], rest)
                        | _ => none
                | _ => none

end

/-- A whole text: one value, with white space around it. -/
def parseJson (chars : List Char) : Option Json :=
  match parseValue reader (2 * chars.length + 1) chars with
  | some (value, rest) => if (skipSpace rest).isEmpty then some value else none
  | none => none

end Parser

/-! ### Reading what was written -/

/-- The reader reads back the strings and the 64-bit integers that the serializer writes. -/
structure ScalarReader.Reads (reader : ScalarReader) (t : ScalarText) : Prop where
  string : ∀ s rest, reader.string (t.string s ++ rest) = some (s, rest)
  integer : ∀ n : ℤ, -9223372036854775808 ≤ n → n < 18446744073709551616 →
    reader.number (t.number (.int n)) = some (.int n)

namespace Json

/-- All numbers are 64-bit integers, signed or not. -/
inductive ReadableNumbers : Json → Prop where
  | null : ReadableNumbers .null
  | bool (b : Bool) : ReadableNumbers (.bool b)
  | int {n : ℤ} (hlower : -9223372036854775808 ≤ n) (hupper : n < 18446744073709551616) :
      ReadableNumbers (.num (.int n))
  | str (s : String) : ReadableNumbers (.str s)
  | arr {items : List Json} (h : ∀ item ∈ items, ReadableNumbers item) :
      ReadableNumbers (.arr items)
  | obj {fields : List (String × Json)} (h : ∀ field ∈ fields, ReadableNumbers field.2) :
      ReadableNumbers (.obj fields)

/-- Every number is read back from its text. -/
inductive NumbersReadBack (t : ScalarText) (reader : ScalarReader) : Json → Prop where
  | null : NumbersReadBack t reader .null
  | bool (b : Bool) : NumbersReadBack t reader (.bool b)
  | num {n : JsonNumber} (h : reader.number (t.number n) = some n) :
      NumbersReadBack t reader (.num n)
  | str (s : String) : NumbersReadBack t reader (.str s)
  | arr {items : List Json} (h : ∀ item ∈ items, NumbersReadBack t reader item) :
      NumbersReadBack t reader (.arr items)
  | obj {fields : List (String × Json)}
      (h : ∀ field ∈ fields, NumbersReadBack t reader field.2) :
      NumbersReadBack t reader (.obj fields)

/-- 64-bit integers are read back. -/
theorem ReadableNumbers.numbersReadBack {t : ScalarText} {reader : ScalarReader}
    (hr : reader.Reads t) {v : Json} (h : v.ReadableNumbers) : v.NumbersReadBack t reader := by
  induction h with
  | null => exact .null
  | bool b => exact .bool b
  | int hlower hupper => exact .num (hr.integer _ hlower hupper)
  | str s => exact .str s
  | arr _ ih => exact .arr ih
  | obj _ ih => exact .obj ih

end Json

theorem skipSpace_cons {c : Char} (h : isJsonSpace c = false) (rest : List Char) :
    skipSpace (c :: rest) = c :: rest := by
  rw [skipSpace, List.dropWhile_cons_of_neg (by simp [h])]

/-- The first character of a value is not white space. -/
theorem isJsonSpace_of_leads {v : Json} {c : Char} (h : v.leads c) : isJsonSpace c = false := by
  cases hspace : isJsonSpace c with
  | false => rfl
  | true =>
      have hspaces : ∀ d : Char, isJsonSpace d = true →
          d = ' ' ∨ d = Char.ofNat 9 ∨ d = Char.ofNat 10 ∨ d = Char.ofNat 13 := by
        intro d hd
        simp only [isJsonSpace, Bool.or_eq_true, beq_iff_eq] at hd
        rcases hd with ((hd | hd) | hd) | hd
        · exact .inl hd
        all_goals rw [← Char.ofNat_toNat d, hd]; simp
      have hnone : v.leads c = false := by
        rcases hspaces c hspace with rfl | rfl | rfl | rfl <;>
          rcases v with _ | (_ | _) | _ | _ | _ | _ <;> rfl
      rw [hnone] at h
      cases h

theorem skipSpace_of_leads {v : Json} {c : Char} (h : v.leads c) (rest : List Char) :
    skipSpace (c :: rest) = c :: rest :=
  skipSpace_cons (isJsonSpace_of_leads h) rest

section Reading

variable {t : ScalarText} {reader : ScalarReader}

/-- Joined parts: the first one, and the others with their commas. -/
theorem joinComma_cons_cons (part next : List Char) (parts : List (List Char)) :
    Json.joinComma (part :: next :: parts) = part ++ ',' :: Json.joinComma (next :: parts) := rfl

/-- The value at the head of the text of the items of an array, or of the members of an object. -/
def ReadsBack (t : ScalarText) (reader : ScalarReader) (v : Json) : Prop :=
  ∀ fuel rest, Json.Ends rest → 2 * (v.stableJson t).length + 1 ≤ fuel →
    parseValue reader fuel (v.stableJson t ++ rest) = some (v.canonical, rest)

/-- What is read of the value at the head of a text; nothing where a number cannot be read. -/
def ReadsAs (t : ScalarText) (reader : ScalarReader) (v : Json) (read : Option Json) : Prop :=
  ∀ fuel rest, Json.Ends rest → 2 * (v.toText t).length + 1 ≤ fuel →
    parseValue reader fuel (v.toText t ++ rest) = read.map fun value => (value, rest)

/-- A list every item of which is read back. -/
theorem mapM_eq_some_iff {α : Type} {f : α → Option α} {xs : List α} :
    xs.mapM f = some xs ↔ ∀ x ∈ xs, f x = some x := by
  rw [optionMapM_eq_some_iff, List.map_inj_left]

/-- The items of an array are read one by one, up to the closing bracket. -/
theorem parseItems_join {read : Json → Option Json} {item : Json} {items : List Json}
    (hitems : ∀ v ∈ item :: items, ReadsAs t reader v (read v)) {fuel : ℕ} {rest : List Char}
    (hfuel : 2 * (Json.joinComma ((item :: items).map (Json.toText t))).length + 2 ≤ fuel) :
    parseItems reader fuel
        (Json.joinComma ((item :: items).map (Json.toText t)) ++ ']' :: rest) =
      ((item :: items).mapM read).map fun values => (values, rest) := by
  induction items generalizing item fuel with
  | nil =>
      cases fuel with
      | zero => omega
      | succ fuel =>
          have hvalue := hitems item List.mem_cons_self fuel (']' :: rest)
            (Json.ends_cons (by decide) rest)
          simp only [List.map_cons, List.map_nil, Json.joinComma] at hfuel ⊢
          rw [parseItems, hvalue (by omega)]
          cases hread : read item with
          | none => simp [hread]
          | some value => simp [hread, skipSpace_cons (c := ']') (by decide) rest]
  | cons next items ih =>
      cases fuel with
      | zero => omega
      | succ fuel =>
          simp only [List.map_cons, joinComma_cons_cons, List.length_append,
            List.length_cons] at hfuel ⊢
          have hvalue := hitems item List.mem_cons_self fuel
            (',' :: (Json.joinComma ((next :: items).map (Json.toText t)) ++ ']' :: rest))
            (Json.ends_cons (by decide) _)
          have hrest := @ih next (fun v hv => hitems v (List.mem_cons_of_mem _ hv)) fuel
            (by simp only [List.map_cons]; omega)
          rw [List.append_assoc, List.cons_append, parseItems]
          simp only [List.map_cons] at hvalue hrest
          rw [hvalue (by omega), List.mapM_cons]
          cases hread : read item with
          | none => rfl
          | some value =>
              simp only [Option.map_some, skipSpace_cons (c := ',') (by decide), hrest]
              cases (next :: items).mapM read <;> rfl

/-- A member of an object, as it is written. -/
def fieldText (t : ScalarText) (field : String × Json) : List Char :=
  Json.memberText t (field.1, field.2.toText t)

/-- What is read of a member of an object. -/
def readMember (read : String × Json → Option Json) (field : String × Json) :
    Option (String × Json) :=
  (read field).map fun value => (field.1, value)

/-- The members of an object are read one by one, up to the closing brace. -/
theorem parseMembers_join (ht : t.Faithful) (hr : reader.Reads t)
    {read : String × Json → Option Json} {field : String × Json} {fields : List (String × Json)}
    (hfields : ∀ f ∈ field :: fields, ReadsAs t reader f.2 (read f))
    {fuel : ℕ} {rest : List Char}
    (hfuel : 2 * (Json.joinComma ((field :: fields).map (fieldText t))).length + 2 ≤ fuel) :
    parseMembers reader fuel
        (Json.joinComma ((field :: fields).map (fieldText t)) ++ '}' :: rest) =
      ((field :: fields).mapM (readMember read)).map fun members => (members, rest) := by
  -- a member before whatever ends its value
  have hmember : ∀ (f : String × Json) (after : List Char) (fuel : ℕ),
      ReadsAs t reader f.2 (read f) → Json.Ends after → 2 * (fieldText t f).length + 1 ≤ fuel →
      parseMembers reader (fuel + 1) (fieldText t f ++ after) =
        (readMember read f).bind fun member =>
          match skipSpace after with
          | ',' :: rest =>
              (parseMembers reader fuel rest).map fun fields => (member :: fields.1, fields.2)
          | '}' :: rest => some ([member], rest)
          | _ => none := by
    intro f after fuel hback hends hlength
    obtain ⟨text, htext⟩ := ht.string_quoted f.1
    have hquote : isJsonSpace '"' = false := by decide
    have hsplit : fieldText t f ++ after =
        '"' :: (text ++ ':' :: (f.2.toText t ++ after)) := by
      simp [fieldText, Json.memberText, htext]
    have hkey : reader.string ('"' :: (text ++ ':' :: (f.2.toText t ++ after))) =
        some (f.1, ':' :: (f.2.toText t ++ after)) := by
      have hread := hr.string f.1 (':' :: (f.2.toText t ++ after))
      rwa [htext, List.cons_append] at hread
    have hvalue := hback fuel after hends (by
      simp only [fieldText, Json.memberText, List.length_append, List.length_cons] at hlength
      omega)
    rw [hsplit, parseMembers, skipSpace_cons hquote]
    simp only [ne_eq, not_true_eq_false, if_false, hkey, skipSpace_cons (c := ':') (by decide),
      hvalue, readMember]
    cases read f <;> rfl
  induction fields generalizing field fuel with
  | nil =>
      cases fuel with
      | zero => omega
      | succ fuel =>
          simp only [List.map_cons, List.map_nil, Json.joinComma] at hfuel ⊢
          rw [hmember field ('}' :: rest) fuel (hfields field List.mem_cons_self)
            (Json.ends_cons (by decide) rest) (by omega), List.mapM_cons]
          simp only [skipSpace_cons (c := '}') (by decide) rest]
          cases readMember read field <;> rfl
  | cons next fields ih =>
      cases fuel with
      | zero => omega
      | succ fuel =>
          simp only [List.map_cons, joinComma_cons_cons, List.length_append,
            List.length_cons] at hfuel ⊢
          have hrest := @ih next (fun f hf => hfields f (List.mem_cons_of_mem _ hf)) fuel
            (by simp only [List.map_cons]; omega)
          rw [List.append_assoc, List.cons_append,
            hmember field _ fuel (hfields field List.mem_cons_self)
              (Json.ends_cons (by decide) _) (by omega), List.mapM_cons]
          simp only [List.map_cons] at hrest
          simp only [skipSpace_cons (c := ',') (by decide), hrest]
          cases readMember read field with
          | none => rfl
          | some member => cases (next :: fields).mapM (readMember read) <;> rfl

/-- A number is the run of its characters. -/
theorem takeWhile_number {text rest : List Char} (htext : ∀ c ∈ text, isNumberChar c)
    (hrest : Json.Ends rest) : (text ++ rest).takeWhile isNumberChar = text ∧
      (text ++ rest).dropWhile isNumberChar = rest := by
  induction text with
  | nil =>
      cases rest with
      | nil => exact ⟨rfl, rfl⟩
      | cons c rest =>
          have hc : isNumberChar c = false := hrest c rfl
          simp [hc]
  | cons c text ih =>
      have hc := htext c List.mem_cons_self
      obtain ⟨htake, hdrop⟩ := ih fun d hd => htext d (List.mem_cons_of_mem _ hd)
      simp [hc, htake, hdrop]

/-- A number is read up to its end. -/
theorem readsAs_num (ht : t.Faithful) (n : JsonNumber) :
    ReadsAs t reader (.num n) ((reader.number (t.number n)).map .num) := by
  intro fuel rest hrest hfuel
  have hchars := ht.number_chars n
  obtain ⟨c, text, htext, hlead⟩ := Json.exists_leads_toText ht (.num n)
  rw [Json.toText] at htext hfuel ⊢
  obtain ⟨htake, hdrop⟩ := takeWhile_number hchars hrest
  rw [htext] at htake hdrop ⊢
  have hnot : ∀ d ∈ ['[', '{', '"'], isNumberChar d = false := by
    intro d hd
    simp only [List.mem_cons, List.not_mem_nil, or_false] at hd
    rcases hd with rfl | rfl | rfl <;> rfl
  have hc : isNumberChar c = true := hlead
  have hne : ∀ d ∈ ['[', '{', '"'], c ≠ d := by
    rintro d hd rfl
    rw [hnot c hd] at hc
    cases hc
  cases fuel with
  | zero => omega
  | succ fuel =>
      rw [List.cons_append] at htake hdrop ⊢
      rw [parseValue, skipSpace_of_leads hlead]
      simp only [hne '[' (by simp), hne '{' (by simp), hne '"' (by simp), if_false, hc,
        if_true, htake, hdrop]
      cases reader.number (c :: text) <;> rfl

/-- A text is read up to its closing quote. -/
theorem readsAs_str (ht : t.Faithful) (hr : reader.Reads t) (s : String) :
    ReadsAs t reader (.str s) (some (.str s)) := by
  intro fuel rest _ hfuel
  obtain ⟨c, text, htext, hlead⟩ := Json.exists_leads_toText ht (.str s)
  have hc : c = '"' := by simpa [Json.leads] using hlead
  subst hc
  rw [Json.toText] at htext ⊢
  have hread := hr.string s rest
  rw [htext, List.cons_append] at hread ⊢
  cases fuel with
  | zero => omega
  | succ fuel =>
      rw [parseValue, skipSpace_of_leads hlead]
      simp only [Char.reduceEq, if_false, if_true, hread, Option.map_some]

/-- An array is read up to its closing bracket. -/
theorem readsAs_arr (ht : t.Faithful) {read : Json → Option Json} {items : List Json}
    (hitems : ∀ v ∈ items, ReadsAs t reader v (read v)) :
    ReadsAs t reader (.arr items) ((items.mapM read).map .arr) := by
  intro fuel rest _ hfuel
  rw [Json.toText_arr] at hfuel ⊢
  cases fuel with
  | zero => omega
  | succ fuel =>
      have hopen : isJsonSpace '[' = false := by decide
      have hclose : isJsonSpace ']' = false := by decide
      rw [List.cons_append, List.cons_append, List.append_assoc, List.singleton_append,
        parseValue, skipSpace_cons hopen]
      simp only [if_true]
      cases items with
      | nil => simp [Json.joinComma, skipSpace_cons hclose]
      | cons item items =>
          obtain ⟨c, text, htext, hlead⟩ := Json.exists_leads_toText ht item
          have hjoin : Json.joinComma ((item :: items).map (Json.toText t)) =
              c :: (text ++ (items.map (Json.toText t)).flatMap fun next => ',' :: next) := by
            rw [List.map_cons, Json.joinComma_cons, htext, List.cons_append]
          have hparse := @parseItems_join t reader read item items hitems fuel rest (by
            simp only [List.length_cons, List.length_append] at hfuel
            omega)
          rw [hjoin, List.cons_append] at hparse ⊢
          rw [skipSpace_of_leads hlead]
          split
          next heq => exact absurd (List.cons.inj heq).1 (Json.ne_of_leads hlead).1
          · rw [hparse]
            cases (item :: items).mapM read <;> rfl

/-- An object is read up to its closing brace. -/
theorem readsAs_obj (ht : t.Faithful) (hr : reader.Reads t) {read : String × Json → Option Json}
    {fields : List (String × Json)} (hfields : ∀ f ∈ fields, ReadsAs t reader f.2 (read f)) :
    ReadsAs t reader (.obj fields) ((fields.mapM (readMember read)).map .obj) := by
  intro fuel rest _ hfuel
  have hmember : (fun field : String × Json =>
      Json.memberText t (field.1, field.2.toText t)) = fieldText t := rfl
  rw [Json.toText_obj, hmember] at hfuel ⊢
  cases fuel with
  | zero => omega
  | succ fuel =>
      have hopen : isJsonSpace '{' = false := by decide
      have hclose : isJsonSpace '}' = false := by decide
      rw [List.cons_append, List.cons_append, List.append_assoc, List.singleton_append,
        parseValue, skipSpace_cons hopen]
      simp only [Char.reduceEq, if_false, if_true]
      cases fields with
      | nil => simp [Json.joinComma, skipSpace_cons hclose]
      | cons field others =>
          obtain ⟨text, htext⟩ := ht.string_quoted field.1
          have hjoin : Json.joinComma ((field :: others).map (fieldText t)) =
              '"' :: (text ++ ':' :: field.2.toText t ++
                (others.map (fieldText t)).flatMap fun next => ',' :: next) := by
            rw [List.map_cons, Json.joinComma_cons, fieldText, Json.memberText, htext]
            simp
          have hparse := @parseMembers_join t reader ht hr read field others hfields fuel rest (by
            simp only [List.length_cons, List.length_append] at hfuel
            omega)
          have hquote : isJsonSpace '"' = false := by decide
          rw [hjoin, List.cons_append] at hparse ⊢
          rw [skipSpace_cons hquote]
          split
          next heq => exact absurd (List.cons.inj heq).1 (by decide)
          · rw [hparse]
            cases (field :: others).mapM (readMember read) <;> rfl

/-- The items are read back exactly when each of them is. -/
theorem mapM_arr_eq_some_iff {read : Json → Option Json} {items : List Json}
    (hitems : ∀ v ∈ items, read v = some v ↔ v.NumbersReadBack t reader) :
    (items.mapM read).map Json.arr = some (.arr items) ↔
      (Json.arr items).NumbersReadBack t reader := by
  constructor
  · intro h
    obtain ⟨values, hvalues, harr⟩ := Option.map_eq_some_iff.mp h
    cases harr
    have hall := mapM_eq_some_iff.mp hvalues
    exact .arr fun item hitem => (hitems item hitem).mp (hall item hitem)
  · intro h
    cases h with
    | arr h =>
        rw [mapM_eq_some_iff.mpr fun item hitem => (hitems item hitem).mpr (h item hitem)]
        rfl

/-- So are the members. -/
theorem mapM_obj_eq_some_iff {read : String × Json → Option Json} {fields : List (String × Json)}
    (hfields : ∀ f ∈ fields, read f = some f.2 ↔ f.2.NumbersReadBack t reader) :
    (fields.mapM (readMember read)).map Json.obj = some (.obj fields) ↔
      (Json.obj fields).NumbersReadBack t reader := by
  constructor
  · intro h
    obtain ⟨members, hmembers, hobj⟩ := Option.map_eq_some_iff.mp h
    cases hobj
    have hall := mapM_eq_some_iff.mp hmembers
    refine .obj fun field hfield => (hfields field hfield).mp ?_
    obtain ⟨value, hvalue, hpair⟩ := Option.map_eq_some_iff.mp (hall field hfield)
    rw [hvalue, ← hpair]
  · intro h
    cases h with
    | obj h =>
        have hmembers : fields.mapM (readMember read) = some fields := by
          refine mapM_eq_some_iff.mpr fun field hfield => ?_
          rw [readMember, (hfields field hfield).mpr (h field hfield)]
          rfl
        rw [hmembers]
        rfl

/-- A value is read up to its end, and read back exactly when its numbers are; by recursion over
the value. -/
theorem parseValue_toText (ht : t.Faithful) (hr : reader.Reads t) (v : Json) :
    ∃ read, ReadsAs t reader v read ∧
      (read = some v ↔ v.NumbersReadBack t reader) := by
  induction v using Json.ind with
  | hnull =>
      refine ⟨some .null, fun fuel rest _ hfuel => ?_, iff_of_true rfl .null⟩
      cases fuel with
      | zero => omega
      | succ fuel => rfl
  | hbool b =>
      refine ⟨some (.bool b), fun fuel rest _ hfuel => ?_, iff_of_true rfl (.bool b)⟩
      cases fuel with
      | zero => omega
      | succ fuel => cases b <;> rfl
  | hnum n =>
      refine ⟨_, readsAs_num ht n, fun h => ?_, fun h => ?_⟩
      · obtain ⟨m, hm, hnum⟩ := Option.map_eq_some_iff.mp h
        cases hnum
        exact .num hm
      · cases h with
        | num h =>
            rw [h]
            rfl
  | hstr s => exact ⟨_, readsAs_str ht hr s, iff_of_true rfl (.str s)⟩
  | harr items ih =>
      choose! read hread hback using ih
      exact ⟨_, readsAs_arr ht hread, mapM_arr_eq_some_iff hback⟩
  | hobj fields ih =>
      choose! read hread hback using ih
      exact ⟨_, readsAs_obj ht hr hread, mapM_obj_eq_some_iff hback⟩

/-- A value is read back from its text exactly when its numbers are. -/
theorem parseJson_toText_iff (ht : t.Faithful) (hr : reader.Reads t) {v : Json} :
    parseJson reader (v.toText t) = some v ↔ v.NumbersReadBack t reader := by
  obtain ⟨read, hread, hback⟩ := parseValue_toText ht hr v
  have hends : Json.Ends [] := by
    rintro c ⟨⟩
  have hvalue := hread _ [] hends (Nat.le_refl _)
  rw [List.append_nil] at hvalue
  rw [← hback, parseJson, hvalue]
  cases read with
  | none => simp
  | some value => exact Iff.rfl

/-- The numbers of the canonical value. -/
theorem Json.ReadableNumbers.canonical {v : Json} (h : v.ReadableNumbers) :
    v.canonical.ReadableNumbers := by
  induction h with
  | null => exact .null
  | bool b => exact .bool b
  | int hlower hupper => exact .int hlower hupper
  | str s => exact .str s
  | @arr items _ ih =>
      rw [Json.canonical_arr]
      refine .arr fun item hitem => ?_
      obtain ⟨item', hitem', rfl⟩ := List.mem_map.mp hitem
      exact ih item' hitem'
  | @obj fields _ ih =>
      rw [Json.canonical_obj]
      refine .obj fun field hfield => ?_
      obtain ⟨field', hfield', rfl⟩ := List.mem_map.mp hfield
      exact ih field' (Json.mem_sortFields.mp hfield')

/-- **A canonical text is read up to its end** when its numbers are 64-bit integers. -/
theorem parseValue_stableJson (ht : t.Faithful) (hr : reader.Reads t) {v : Json}
    (hv : v.ReadableNumbers) : ReadsBack t reader v := by
  obtain ⟨read, hread, hback⟩ := parseValue_toText ht hr v.canonical
  have hnumbers := hv.canonical.numbersReadBack hr
  intro fuel rest hrest hfuel
  rw [← Json.toText_canonical] at hfuel ⊢
  rw [hread fuel rest hrest hfuel, hback.mpr hnumbers]
  rfl

/-- **A canonical text is read back** as the canonical value. -/
theorem parseJson_stableJson (ht : t.Faithful) (hr : reader.Reads t) {v : Json}
    (hv : v.ReadableNumbers) : parseJson reader (v.stableJson t) = some v.canonical := by
  rw [← Json.toText_canonical]
  exact (parseJson_toText_iff ht hr).mpr (hv.canonical.numbersReadBack hr)

end Reading

/-! ### A reader -/

/-- The rest of a quoted string, with its escapes resolved. -/
def readEscaped : List Char → Option (List Char × List Char)
  | [] => none
  | c :: rest =>
      if c = '"' then some ([], rest)
      else if c = '\\' then
        match rest with
        | 'u' :: e :: rest =>
            (readEscaped rest).map fun text => (Char.ofNat (e.toNat - 64) :: text.1, text.2)
        | d :: rest => (readEscaped rest).map fun text => (d :: text.1, text.2)
        | [] => none
      else (readEscaped rest).map fun text => (c :: text.1, text.2)
termination_by structural chars => chars

/-- A reader of what the plain serializer writes. -/
def ScalarReader.plain : ScalarReader where
  string
    | [] => none
    | _ :: rest => (readEscaped rest).map fun text => (String.ofList text.1, text.2)
  number
    | '-' :: digits => some (.int (-(Nat.ofDigitChars 10 digits 0 : ℕ)))
    | digits => some (.int (Nat.ofDigitChars 10 digits 0 : ℕ))

theorem readEscaped_escapeChar (c : Char) (rest : List Char) :
    readEscaped (escapeChar c ++ rest) =
      (readEscaped rest).map fun text => (c :: text.1, text.2) := by
  unfold escapeChar
  split
  next hspecial =>
    have hu : c ≠ 'u' := by
      rcases hspecial with rfl | rfl <;> decide
    rw [List.cons_append, List.singleton_append, readEscaped.eq_def]
    simp only [Char.reduceEq, if_false, if_true]
    split
    next heq => exact absurd (List.cons.inj heq).1 hu
    next heq =>
      cases heq
      rfl
    next heq => cases heq
  next hplain =>
    simp only [not_or] at hplain
    split
    next hcontrol =>
      have hvalid : (Char.ofNat (c.toNat + 64)).toNat = c.toNat + 64 := by
        have hall : ∀ n < 32, (Char.ofNat (n + 64)).toNat = n + 64 := by decide
        exact hall _ hcontrol
      rw [List.cons_append, List.cons_append, List.singleton_append, readEscaped]
      simp only [Char.reduceEq, if_false, if_true, hvalid, Nat.add_sub_cancel, Char.ofNat_toNat]
    · rw [List.singleton_append, readEscaped.eq_def]
      simp only [hplain.1, hplain.2, if_false]

theorem readEscaped_escapeChars (chars rest : List Char) :
    readEscaped (chars.flatMap escapeChar ++ '"' :: rest) = some (chars, rest) := by
  induction chars with
  | nil =>
      rw [List.flatMap_nil, List.nil_append, readEscaped.eq_def]
      simp only [if_true]
  | cons c chars ih =>
      rw [List.flatMap_cons, List.append_assoc, readEscaped_escapeChar, ih, Option.map_some]

/-- Integers are read back. -/
theorem ScalarReader.plain_integer (n : ℤ) :
    ScalarReader.plain.number (ScalarText.plain.number (.int n)) = some (.int n) := by
  have hdigits : Nat.ofDigitChars 10 (Nat.toDigits 10 n.natAbs) 0 = n.natAbs := by simp
  simp only [ScalarText.plain]
  split
  next hneg =>
    simp only [ScalarReader.plain, List.singleton_append, hdigits]
    congr 2
    omega
  next hpos =>
    have hminus : ∀ rest, Nat.toDigits 10 n.natAbs ≠ '-' :: rest := by
      intro rest heq
      have hmem : '-' ∈ Nat.toDigits 10 n.natAbs := by
        rw [heq]
        exact List.mem_cons_self
      exact (isNumberChar_of_mem_toDigits hmem).2.1 rfl
    rw [List.nil_append]
    unfold ScalarReader.plain
    simp only
    rw [hdigits]
    congr 2
    omega

/-- The reader reads what the serializer writes. -/
theorem ScalarReader.plain_reads : ScalarReader.plain.Reads ScalarText.plain where
  string s rest := by
    have hread := readEscaped_escapeChars s.toList rest
    simp only [ScalarText.plain, ScalarReader.plain, List.cons_append, List.append_assoc,
      List.nil_append, hread, Option.map_some, String.ofList_toList]
  integer n _ _ := ScalarReader.plain_integer n

end Beampipe
