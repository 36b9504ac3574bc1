/-
Text as the program reads it: white space, trimming, digits and paths.

Rust strings are sequences of Unicode scalar values, and so are Lean's; the predicates below are
the ones of the standard library that the model needs.

Main definitions:

* `Beampipe.isWhitespace`, `Beampipe.isControl`, `Beampipe.isAsciiDigit` — character classes;
* `Beampipe.trim`, `Beampipe.isBlank` — `str::trim`, and whether nothing is left;
* `Beampipe.containsText`, `Beampipe.toAsciiLowercase` — what error texts are searched with;
* `Beampipe.debugStrings` — the `{:?}` form of a list of strings;
* `Beampipe.normalizedAbsolutePath` — the components of an absolute path without `..`.
-/

import Mathlib.Data.Nat.Notation
import Mathlib.Tactic.Basic

set_option relaxedAutoImplicit false
set_option autoImplicit false

namespace Beampipe

/-- `char::is_whitespace`. -/
def isWhitespace (c : Char) : Bool :=
  let n := c.toNat
  (9 ≤ n && n ≤ 13) || n == 32 || n == 133 || n == 160 || n == 5760 ||
    (8192 ≤ n && n ≤ 8202) || n == 8232 || n == 8233 || n == 8239 || n == 8287 || n == 12288

/-- `char::is_control`. -/
def isControl (c : Char) : Bool :=
  let n := c.toNat
  n < 32 || (127 ≤ n && n ≤ 159)

/-- `u8::is_ascii_digit`. -/
def isAsciiDigit (c : Char) : Bool := '0' ≤ c && c ≤ '9'

/-- The text without white space at its ends. -/
def trimChars (chars : List Char) : List Char :=
  ((chars.dropWhile isWhitespace).reverse.dropWhile isWhitespace).reverse

/-- `str::trim`. -/
def trim (s : String) : String := String.ofList (trimChars s.toList)

/-- `str::trim` leaves nothing. -/
def isBlank (s : String) : Bool := s.toList.all isWhitespace

/-- A non-empty text of ASCII digits. -/
def isAsciiDigits (s : String) : Bool := !s.isEmpty && s.toList.all isAsciiDigit

/-- The characters of `needle` occur in a row. -/
def containsChars (needle : List Char) : List Char → Bool
  | [] => needle.isEmpty
  | c :: rest => needle.isPrefixOf (c :: rest) || containsChars needle rest

/-- `str::contains`. -/
def containsText (text needle : String) : Bool := containsChars needle.toList text.toList

/-- `str::to_ascii_lowercase`. -/
def toAsciiLowercase (s : String) : String := String.ofList (s.toList.map Char.toLower)

/-- The `{:?}` form of a list of strings. -/
def debugStrings (items : List String) : String :=
  "[" ++ String.intercalate ", " (items.map String.quote) ++ "]"

/-- A text cut at every `/`. -/
def splitSlash : List Char → List (List Char)
  | [] => [[]]
  | c :: rest =>
      if c = '/' then [] :: splitSlash rest
      else
        match splitSlash rest with
        | [] => [[c]]
        | part :: parts => (c :: part) :: parts

/-- A text cut at every `.`. -/
def splitDots : List Char → List (List Char)
  | [] => [[]]
  | c :: rest =>
      if c = '.' then [] :: splitDots rest
      else
        match splitDots rest with
        | [] => [[c]]
        | part :: parts => (c :: part) :: parts

theorem splitDots_ne_nil (text : List Char) : splitDots text ≠ [] := by
  cases text with
  | nil => simp [splitDots]
  | cons c rest =>
      rw [splitDots]
      split
      · simp
      · split <;> simp

/-- The components of an absolute path: repeated separators and `.` vanish, a control character or
`..` makes it unusable. -/
def normalizedAbsolutePath (path : String) : Option (List String) :=
  let chars := path.toList
  if chars.any isControl || chars.head? != some '/' then none
  else
    let components := (splitSlash chars).map String.ofList
    if components.contains ".." then none
    else some (components.filter fun component => component != "" && component != ".")

/-! ### Trimming -/

/-- A text whose ends are not white space is left alone. -/
theorem trimChars_eq_self {chars : List Char} (hhead : ∀ c ∈ chars.head?, isWhitespace c = false)
    (hlast : ∀ c ∈ chars.getLast?, isWhitespace c = false) : trimChars chars = chars := by
  have hdrop : ∀ l : List Char, (∀ c ∈ l.head?, isWhitespace c = false) →
      l.dropWhile isWhitespace = l := by
    intro l hl
    cases l with
    | nil => rfl
    | cons c l => rw [List.dropWhile_cons_of_neg (by simp [hl c rfl])]
  unfold trimChars
  rw [hdrop chars hhead, hdrop chars.reverse (by rwa [List.head?_reverse]), List.reverse_reverse]

/-- A trimmed text does not begin with white space. -/
theorem head_trimChars (chars : List Char) :
    ∀ c ∈ (trimChars chars).head?, isWhitespace c = false := by
  intro c hc
  have hdrop := List.head?_dropWhile_not isWhitespace chars
  obtain ⟨dropped, hdropped⟩ : ∃ dropped, chars.dropWhile isWhitespace =
      trimChars chars ++ dropped := by
    obtain ⟨dropped, hsuffix⟩ := List.dropWhile_suffix (l := (chars.dropWhile isWhitespace).reverse)
      isWhitespace
    refine ⟨dropped.reverse, ?_⟩
    rw [trimChars, ← List.reverse_append, hsuffix, List.reverse_reverse]
  cases htrim : trimChars chars with
  | nil =>
      rw [htrim] at hc
      cases hc
  | cons first rest =>
      rw [htrim] at hc
      cases hc
      rw [hdropped, htrim] at hdrop
      exact hdrop

/-- A trimmed text does not end with white space. -/
theorem getLast_trimChars (chars : List Char) :
    ∀ c ∈ (trimChars chars).getLast?, isWhitespace c = false := by
  intro c hc
  rw [trimChars, List.getLast?_reverse] at hc
  have hnot := List.head?_dropWhile_not isWhitespace (chars.dropWhile isWhitespace).reverse
  rw [Option.mem_def.mp hc] at hnot
  exact hnot

@[simp] theorem trimChars_trimChars (chars : List Char) :
    trimChars (trimChars chars) = trimChars chars :=
  trimChars_eq_self (head_trimChars chars) (getLast_trimChars chars)

/-- A text that is left alone has no white space at its end. -/
theorem getLast_of_trimChars_eq_self {chars : List Char} (h : trimChars chars = chars) :
    ∀ c ∈ chars.getLast?, isWhitespace c = false := by
  rw [← h]
  exact getLast_trimChars chars

theorem trim_eq_self_iff {text : String} :
    trim text = text ↔ trimChars text.toList = text.toList := by
  constructor
  · intro h
    have hchars := congrArg String.toList h
    rwa [trim, String.toList_ofList] at hchars
  · intro h
    rw [trim, h, String.ofList_toList]

/-! ### Bytes -/

theorem utf8ByteSize_ofList_cons (c : Char) (chars : List Char) :
    (String.ofList (c :: chars)).utf8ByteSize =
      c.utf8Size + (String.ofList chars).utf8ByteSize := by
  rw [String.ofList_cons, String.utf8ByteSize_append, String.utf8ByteSize_singleton]

end Beampipe
