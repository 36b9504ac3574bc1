/-
**How a POSIX shell reads the words of a script.**

The reading goes through the script character by character.  Blanks end a word, operators stand
for themselves, a backslash and quotes take the meaning from the characters behind or between
them, and a `#` at the beginning of a word starts a comment.  A character of a word is active when
it may still start an expansion or an assignment, which a quoted one never does.

A script with values in it is a list of pieces, some of them text and some of them slots for the
values, and a slot is filled with a quotation of its value.  Where the text leaves the slots
outside of its quotes, the script is read like its pieces: the words and operators are those of
the text, and a value is a part of one word without any active character, whatever it is.

Main definitions:

* `Shell.step`, `Shell.run`, `Shell.tokens` — the reading of a script;
* `Shell.decode` — the words of a command without operators and expansions;
* `Shell.Spells`, `Shell.Quotes` — a text adds a value to the word, and nothing else;
* `Shell.render`, `Shell.read`, `Shell.template` — the script of pieces, and the reading of the
  pieces themselves;
* `Shell.Outside` — the slots are outside of the quotes of the text.

Main results:

* `Shell.decode_intercalate` — the words of a command are the values that they spell;
* `Shell.run_fill` — filling the slots and reading on can be exchanged;
* `Shell.tokens_render` — **values stay in their words**: the reading of a script is the reading of
  its pieces, with the slots filled in.
-/

import Mathlib.Data.List.Basic
import Mathlib.Data.List.Forall2

set_option relaxedAutoImplicit false
set_option autoImplicit false

namespace Shell

/-! ### Reading -/

/-- A part of a word: a character, active or not, or the value of a slot. -/
inductive Part (ν : Type) where
  | char (c : Char) (active : Bool)
  | slot (k : ν)
  deriving DecidableEq, Repr

/-- A word or an operator; operators of several characters are read one by one. -/
inductive Token (ν : Type) where
  | word (parts : List (Part ν))
  | operator (c : Char)
  deriving DecidableEq, Repr

/-- Where the reading stands with respect to quotes. -/
inductive Mode where
  | plain
  | escaped
  | single
  | double
  | doubleEscaped
  | comment
  deriving DecidableEq, Repr

/-- The tokens so far, and the word that is being read. -/
structure State (ν : Type) where
  mode : Mode := .plain
  word : Option (List (Part ν)) := none
  tokens : List (Token ν) := []
  deriving DecidableEq, Repr

/-- A character that ends a word. -/
def isBlank (c : Char) : Bool := c == ' ' || c == '\t'

/-- A character of an operator. -/
def isOperator (c : Char) : Bool := ['\n', '|', '&', ';', '<', '>', '(', ')'].contains c

/-- A character that may start an expansion or an assignment, or stand for something else, where
it is not quoted. -/
def isActive (c : Char) : Bool :=
  ['$', '\x60', '*', '?', '[', ']', '~', '#', '=', '\x7b', '\x7d', '!', '%', '^'].contains c

variable {ν : Type}

/-- The parts of a value that is taken as it is. -/
def literal (value : String) : List (Part ν) := value.toList.map fun c => .char c false

/-- The word goes on with some parts. -/
def State.add (s : State ν) (parts : List (Part ν)) : State ν :=
  { s with word := some (s.word.getD [] ++ parts) }

/-- The word is at its end. -/
def State.close (s : State ν) : State ν :=
  match s.word with
  | none => s
  | some parts => { s with word := none, tokens := s.tokens ++ [.word parts] }

/-- An operator. -/
def State.operate (s : State ν) (c : Char) : State ν :=
  { s.close with mode := .plain, tokens := s.close.tokens ++ [.operator c] }

/-- One character outside of quotes. -/
def stepPlain (s : State ν) (c : Char) : State ν :=
  if c = '\\' then { s with mode := .escaped }
  else if c = '\'' then { s.add [] with mode := .single }
  else if c = '"' then { s.add [] with mode := .double }
  else if isBlank c then s.close
  else if isOperator c then s.operate c
  else if c = '#' ∧ s.word.isNone then { s with mode := .comment }
  else s.add [.char c (isActive c)]

/-- One character between double quotes. -/
def stepDouble (s : State ν) (c : Char) : State ν :=
  if c = '"' then { s with mode := .plain }
  else if c = '\\' then { s with mode := .doubleEscaped }
  else s.add [.char c (c == '$' || c == '\x60')]

/-- One character behind a backslash between double quotes. -/
def stepDoubleEscaped (s : State ν) (c : Char) : State ν :=
  if c = '\n' then { s with mode := .double }
  else if ['$', '\x60', '"', '\\'].contains c then { s.add [.char c false] with mode := .double }
  else { s.add [.char '\\' false, .char c false] with mode := .double }

/-- One character of a script. -/
def step (s : State ν) (c : Char) : State ν :=
  match s.mode with
  | .plain => stepPlain s c
  | .escaped =>
      if c = '\n' then { s with mode := .plain }
      else { s.add [.char c false] with mode := .plain }
  | .single => if c = '\'' then { s with mode := .plain } else s.add [.char c false]
  | .double => stepDouble s c
  | .doubleEscaped => stepDoubleEscaped s c
  | .comment => if c = '\n' then s.operate c else s

/-- The reading of a text. -/
def run (s : State ν) (text : List Char) : State ν := text.foldl step s

/-- The tokens, if the quotes are closed. -/
def State.finish (s : State ν) : Option (List (Token ν)) :=
  if s.mode = .plain ∨ s.mode = .comment then some s.close.tokens else none

/-- The tokens of a script. -/
def tokens (text : String) : Option (List (Token Empty)) := (run {} text.toList).finish

/-- The character, when it is not active. -/
def Part.inert : Part ν → Option Char
  | .char c active => if active then none else some c
  | .slot _ => none

/-- The text of a word in which nothing is active. -/
def Token.text : Token ν → Option String
  | .word parts => (parts.mapM Part.inert).map String.ofList
  | .operator _ => none

/-- The words of a command in which nothing is active. -/
def decode (text : String) : Option (List String) :=
  (tokens text).bind fun tokens => tokens.mapM Token.text

@[simp] theorem run_nil (s : State ν) : run s [] = s := rfl

@[simp] theorem run_cons (s : State ν) (c : Char) (text : List Char) :
    run s (c :: text) = run (step s c) text := rfl

theorem run_append (s : State ν) (a b : List Char) : run s (a ++ b) = run (run s a) b :=
  List.foldl_append

@[simp] theorem State.add_mode (s : State ν) (parts : List (Part ν)) :
    (s.add parts).mode = s.mode := rfl

@[simp] theorem State.add_tokens (s : State ν) (parts : List (Part ν)) :
    (s.add parts).tokens = s.tokens := rfl

@[simp] theorem State.add_word (s : State ν) (parts : List (Part ν)) :
    (s.add parts).word = some (s.word.getD [] ++ parts) := rfl

theorem State.add_add (s : State ν) (a b : List (Part ν)) : (s.add a).add b = s.add (a ++ b) := by
  simp [State.add]

@[simp] theorem State.close_mode (s : State ν) : s.close.mode = s.mode := by
  unfold State.close
  cases s.word <;> rfl

@[simp] theorem State.close_word (s : State ν) : s.close.word = none := by
  unfold State.close
  cases hword : s.word with
  | none => exact hword
  | some parts => rfl

/-! ### Words that spell values -/

/-- Outside of quotes the text adds the value to the word, and nothing else. -/
def Spells (text value : String) : Prop :=
  ∀ s : State Empty, s.mode = .plain → run s text.toList = s.add (literal value)

/-- Every value is spelled by its quotation. -/
def Quotes (quote : String → String) : Prop := ∀ value, Spells (quote value) value

/-- A character without a meaning of its own. -/
def isOrdinary (c : Char) : Bool :=
  !(c == '\\' || c == '\'' || c == '"' || c == '#' || isBlank c || isOperator c || isActive c)

/-- An ordinary character outside of quotes goes to the word. -/
theorem step_ordinary {s : State ν} {c : Char} (hs : s.mode = .plain) (hc : isOrdinary c = true) :
    step s c = s.add [.char c false] := by
  simp only [isOrdinary, Bool.not_eq_true', Bool.or_eq_false_iff, beq_eq_false_iff_ne] at hc
  obtain ⟨⟨⟨⟨⟨⟨hback, hquote⟩, hdouble⟩, hhash⟩, hblank⟩, hoperator⟩, hactive⟩ := hc
  simp [step, stepPlain, hs, hback, hquote, hdouble, hhash, hblank, hoperator, hactive]

/-- Ordinary characters outside of quotes go to the word. -/
theorem run_ordinary {s : State ν} (hs : s.mode = .plain) {text : List Char}
    (htext : ∀ c ∈ text, isOrdinary c = true) (hne : text ≠ []) :
    run s text = s.add (text.map fun c => .char c false) := by
  induction text generalizing s with
  | nil => exact (hne rfl).elim
  | cons c rest ih =>
      obtain ⟨hc, hrest⟩ := List.forall_mem_cons.mp htext
      rw [run_cons, step_ordinary hs hc]
      by_cases hlast : rest = []
      · subst hlast
        rfl
      · rw [ih (by simpa using hs) hrest hlast, State.add_add]
        rfl

/-- Ordinary characters spell themselves. -/
theorem spells_ordinary {text : String} (htext : ∀ c ∈ text.toList, isOrdinary c = true)
    (hne : text.toList ≠ []) : Spells text text :=
  fun _ hs => run_ordinary hs htext hne

theorem mapM_inert_literal (value : String) :
    (literal value : List (Part ν)).mapM Part.inert = some value.toList := by
  unfold literal
  induction value.toList with
  | nil => rfl
  | cons c rest ih => simp [List.mapM_cons, ih, Part.inert]

@[simp] theorem text_literal (value : String) :
    (Token.word (literal value) : Token ν).text = some value := by
  simp [Token.text, mapM_inert_literal]

theorem mapM_text_words (values : List String) :
    (values.map fun value => (Token.word (literal value) : Token ν)).mapM Token.text =
      some values := by
  induction values with
  | nil => rfl
  | cons value values ih => simp [List.mapM_cons, ih]

/-- A word at its end. -/
theorem Spells.close_run {text value : String} (h : Spells text value) {s : State Empty}
    (hs : s.mode = .plain) (hword : s.word = none) :
    (run s text.toList).close = { s with tokens := s.tokens ++ [.word (literal value)] } := by
  rw [h s hs]
  simp [State.add, State.close, hword]

/-- Words that spell values, one after the other. -/
theorem close_run_intercalate {texts values : List String} (h : List.Forall₂ Spells texts values)
    {s : State Empty} (hs : s.mode = .plain) (hword : s.word = none) :
    (run s (" ".intercalate texts).toList).close =
      { s with tokens := s.tokens ++ values.map fun value => .word (literal value) } := by
  rw [String.toList_intercalate]
  induction h generalizing s with
  | nil =>
      cases s
      simp_all [State.close]
  | @cons text value texts values hspells hrest ih =>
      cases hrest with
      | nil => simpa using hspells.close_run hs hword
      | @cons next nextValue texts values hnext hrest =>
          have hblank : step (run s text.toList) ' ' = (run s text.toList).close := by
            rw [hspells s hs]
            simp [step, stepPlain, hs, isBlank]
          rw [List.map_cons, List.map_cons, List.intercalate_cons_cons, run_append, run_append,
            ← List.map_cons]
          change (run (step (run s text.toList) ' ') _).close = _
          rw [hblank, hspells.close_run hs hword,
            ih (s := { s with tokens := s.tokens ++ [.word (literal value)] }) hs hword]
          simp

/-- **The words of a command are the values that they spell.** -/
theorem decode_intercalate {texts values : List String} (h : List.Forall₂ Spells texts values) :
    decode (" ".intercalate texts) = some values := by
  have hclose := close_run_intercalate h (s := {}) rfl rfl
  have hmode : (run ({} : State Empty) (" ".intercalate texts).toList).mode = .plain := by
    rw [← State.close_mode, hclose]
  rw [decode, tokens, State.finish, if_pos (.inl hmode), hclose, Option.bind_some, List.nil_append,
    mapM_text_words]

/-! ### Scripts with slots -/

/-- Text of a script, or a slot for a value. -/
inductive Piece (ν : Type) where
  | text (content : String)
  | slot (k : ν)
  deriving DecidableEq, Repr

section Slots

variable (quote : String → String) (values : ν → String)

/-- The text of a piece, with a quotation in the slot. -/
def Piece.render : Piece ν → String
  | .text content => content
  | .slot k => quote (values k)

/-- The script with the quotations in its slots. -/
def render (pieces : List (Piece ν)) : String :=
  pieces.foldr (fun piece script => piece.render quote values ++ script) ""

/-- The reading of a piece: a slot is a part of a word. -/
def Piece.read (s : State ν) : Piece ν → State ν
  | .text content => run s content.toList
  | .slot k => s.add [.slot k]

/-- The reading of pieces. -/
def read (s : State ν) (pieces : List (Piece ν)) : State ν := pieces.foldl Piece.read s

/-- The tokens of pieces. -/
def template (pieces : List (Piece ν)) : Option (List (Token ν)) := (read {} pieces).finish

/-- The text leaves the slots outside of its quotes. -/
def Outside : State ν → List (Piece ν) → Prop
  | _, [] => True
  | s, .text content :: pieces => Outside (run s content.toList) pieces
  | s, .slot k :: pieces => s.mode = .plain ∧ Outside (s.add [.slot k]) pieces

/-- A part with its slot filled in. -/
def Part.fill : Part ν → List (Part Empty)
  | .char c active => [.char c active]
  | .slot k => literal (values k)

/-- A token with its slots filled in. -/
def Token.fill : Token ν → Token Empty
  | .word parts => .word (parts.flatMap (Part.fill values))
  | .operator c => .operator c

/-- A state with its slots filled in. -/
def State.fill (s : State ν) : State Empty where
  mode := s.mode
  word := s.word.map fun parts => parts.flatMap (Part.fill values)
  tokens := s.tokens.map (Token.fill values)

@[simp] theorem State.fill_mode (s : State ν) : (s.fill values).mode = s.mode := rfl

theorem State.fill_add (s : State ν) (parts : List (Part ν)) :
    (s.add parts).fill values = (s.fill values).add (parts.flatMap (Part.fill values)) := by
  cases hword : s.word <;> simp [State.fill, State.add, hword]

theorem State.fill_close (s : State ν) : s.close.fill values = (s.fill values).close := by
  cases hword : s.word <;> simp [State.fill, State.close, hword, Token.fill]

theorem State.fill_operate (s : State ν) (c : Char) :
    (s.operate c).fill values = (s.fill values).operate c := by
  unfold State.operate
  rw [← State.fill_close]
  simp [State.fill, Token.fill]

theorem State.fill_withMode (s : State ν) (mode : Mode) :
    ({ s with mode := mode } : State ν).fill values =
      ({ s.fill values with mode := mode } : State Empty) := rfl

theorem State.fill_finish (s : State ν) :
    (s.fill values).finish = s.finish.map fun tokens => tokens.map (Token.fill values) := by
  unfold State.finish
  rw [State.fill_mode, ← State.fill_close]
  by_cases hmode : s.mode = .plain ∨ s.mode = .comment
  · rw [if_pos hmode, if_pos hmode]
    rfl
  · rw [if_neg hmode, if_neg hmode]
    rfl

theorem stepPlain_fill (s : State ν) (c : Char) :
    (stepPlain s c).fill values = stepPlain (s.fill values) c := by
  have hword : (s.fill values).word.isNone = s.word.isNone := by
    simp [State.fill]
  unfold stepPlain
  rw [hword]
  repeat' split
  all_goals simp only [State.fill_withMode, State.fill_add, State.fill_close, State.fill_operate,
    List.flatMap_cons, List.flatMap_nil, List.append_nil, Part.fill]

theorem stepDouble_fill (s : State ν) (c : Char) :
    (stepDouble s c).fill values = stepDouble (s.fill values) c := by
  unfold stepDouble
  repeat' split
  all_goals simp only [State.fill_withMode, State.fill_add, List.flatMap_cons, List.flatMap_nil,
    List.append_nil, Part.fill]

theorem stepDoubleEscaped_fill (s : State ν) (c : Char) :
    (stepDoubleEscaped s c).fill values = stepDoubleEscaped (s.fill values) c := by
  unfold stepDoubleEscaped
  repeat' split
  all_goals simp only [State.fill_withMode, State.fill_add, List.flatMap_cons, List.flatMap_nil,
    List.append_nil, Part.fill, List.cons_append, List.nil_append]

theorem step_fill (s : State ν) (c : Char) :
    (step s c).fill values = step (s.fill values) c := by
  unfold step
  rw [State.fill_mode]
  cases s.mode with
  | plain => exact stepPlain_fill values s c
  | escaped =>
      by_cases hc : c = '\n'
      · simp only [if_pos hc, State.fill_withMode]
      · simp only [if_neg hc, State.fill_withMode, State.fill_add, List.flatMap_cons,
          List.flatMap_nil, List.append_nil, Part.fill]
  | single =>
      by_cases hc : c = '\''
      · simp only [if_pos hc, State.fill_withMode]
      · simp only [if_neg hc, State.fill_add, List.flatMap_cons, List.flatMap_nil, List.append_nil,
          Part.fill]
  | double => exact stepDouble_fill values s c
  | doubleEscaped => exact stepDoubleEscaped_fill values s c
  | comment =>
      by_cases hc : c = '\n'
      · simp only [if_pos hc, State.fill_operate]
      · simp only [if_neg hc]

/-- A text is read in the same way before and after the slots are filled in. -/
theorem run_fill (s : State ν) (text : List Char) :
    (run s text).fill values = run (s.fill values) text := by
  induction text generalizing s with
  | nil => rfl
  | cons c rest ih => rw [run_cons, run_cons, ih, step_fill]

/-- The reading of a script is the reading of its pieces. -/
theorem run_render (hquote : Quotes quote) {s : State ν} {pieces : List (Piece ν)}
    (h : Outside s pieces) :
    run (s.fill values) (render quote values pieces).toList = (read s pieces).fill values := by
  induction pieces generalizing s with
  | nil => rfl
  | cons piece pieces ih =>
      change run (s.fill values) (piece.render quote values ++ render quote values pieces).toList =
        (read (Piece.read s piece) pieces).fill values
      rw [String.toList_append, run_append]
      cases piece with
      | text content =>
          refine Eq.trans ?_ (ih h)
          exact congrArg (run · _) (run_fill values s content.toList).symm
      | slot k =>
          refine Eq.trans ?_ (ih h.2)
          change run (run (s.fill values) (quote (values k)).toList) _ = _
          rw [hquote (values k) _ h.1, Piece.read, State.fill_add]
          simp [Part.fill]

/-- **Values stay in their words**: a script is read like its pieces. -/
theorem tokens_render (hquote : Quotes quote) {pieces : List (Piece ν)}
    (h : Outside ({} : State ν) pieces) :
    tokens (render quote values pieces) =
      (template pieces).map fun tokens => tokens.map (Token.fill values) := by
  have hrun := run_render quote values hquote h
  rw [tokens, template, ← State.fill_finish, ← hrun]
  rfl

end Slots

/-! ### Lines -/

/-- The lines of a script. -/
def joinLines (lines : List (List (Piece ν))) : List (Piece ν) := [.text "\n"].intercalate lines

/-- The line leaves its slots outside of its quotes, and every quote is closed at its end. -/
def Closed (line : List (Piece ν)) : Prop :=
  ∀ tokens : List (Token ν), Outside { tokens := tokens } line ∧
    ((read { tokens := tokens } line).mode = .plain ∨
      (read { tokens := tokens } line).mode = .comment)

theorem outside_append {s : State ν} {a b : List (Piece ν)} :
    Outside s (a ++ b) ↔ Outside s a ∧ Outside (read s a) b := by
  induction a generalizing s with
  | nil => exact ⟨fun h => ⟨trivial, h⟩, And.right⟩
  | cons piece a ih =>
      cases piece with
      | text content => exact ih
      | slot k => exact (and_congr_right fun _ => ih).trans and_assoc.symm

theorem read_append (s : State ν) (a b : List (Piece ν)) : read s (a ++ b) = read (read s a) b :=
  List.foldl_append

theorem step_newline {s : State ν} (hs : s.mode = .plain ∨ s.mode = .comment) :
    ∃ tokens : List (Token ν), step s '\n' = { tokens := tokens } := by
  have hoperate : ∃ tokens : List (Token ν), s.operate '\n' = { tokens := tokens } :=
    ⟨s.close.tokens ++ [.operator '\n'], by simp [State.operate]⟩
  rcases hs with hs | hs
  · rw [step, hs]
    exact hoperate
  · rw [step, hs]
    exact hoperate

/-- Every line begins outside of the quotes. -/
theorem closed_joinLines {lines : List (List (Piece ν))} (h : ∀ line ∈ lines, Closed line) :
    Closed (joinLines lines) := by
  intro tokens
  unfold joinLines
  induction lines generalizing tokens with
  | nil => exact ⟨trivial, .inl rfl⟩
  | cons line lines ih =>
      obtain ⟨hline, hlines⟩ := List.forall_mem_cons.mp h
      cases lines with
      | nil => simpa using hline tokens
      | cons next lines =>
          rw [List.intercalate_cons_cons, List.append_assoc, outside_append, read_append]
          obtain ⟨next, hnext⟩ := step_newline (hline tokens).2
          rw [and_assoc]
          refine ⟨(hline tokens).1, ?_⟩
          change Outside (step (read { tokens := tokens } line) '\n') _ ∧
            ((read (step (read { tokens := tokens } line) '\n') _).mode = _ ∨
              (read (step (read { tokens := tokens } line) '\n') _).mode = _)
          rw [hnext]
          exact ih hlines next

/-- The pieces are read to the end when every quote is closed. -/
theorem Closed.template {pieces : List (Piece ν)} (h : Closed pieces) :
    ∃ tokens, template pieces = some tokens :=
  ⟨_, if_pos (h []).2⟩

/-- Where a character leads to that starts no comment. -/
def stepMode : Mode → Char → Mode
  | .plain, c =>
      if c = '\\' then .escaped else if c = '\'' then .single else if c = '"' then .double
      else .plain
  | .escaped, _ => .plain
  | .single, c => if c = '\'' then .plain else .single
  | .double, c => if c = '"' then .plain else if c = '\\' then .doubleEscaped else .double
  | .doubleEscaped, _ => .double
  | .comment, c => if c = '\n' then .plain else .comment

theorem step_mode {s : State ν} {c : Char} (hc : c ≠ '#') :
    (step s c).mode = stepMode s.mode c := by
  cases hs : s.mode with
  | plain =>
      simp only [step, hs, stepPlain, stepMode, hc, false_and, if_false]
      repeat' split
      all_goals first | rfl | simpa using hs
  | escaped => by_cases h : c = '\n' <;> simp [step, hs, stepMode, h]
  | single => by_cases h : c = '\'' <;> simp [step, hs, stepMode, h]
  | double =>
      simp only [step, hs, stepDouble, stepMode]
      repeat' split
      all_goals first | rfl | simpa using hs
  | doubleEscaped =>
      simp only [step, hs, stepDoubleEscaped, stepMode]
      repeat' split
      all_goals rfl
  | comment => by_cases h : c = '\n' <;> simp [step, hs, stepMode, h, State.operate]

/-- Where a text leads to that has no `#`. -/
theorem run_mode {s : State ν} {text : List Char} (htext : '#' ∉ text) :
    (run s text).mode = text.foldl stepMode s.mode := by
  induction text generalizing s with
  | nil => rfl
  | cons c rest ih =>
      rw [List.mem_cons, not_or] at htext
      rw [run_cons, ih htext.2, step_mode (Ne.symm htext.1), List.foldl_cons]

/-- Where pieces without `#` lead to, with their slots outside of the quotes. -/
def modes : Mode → List (Piece ν) → Option Mode
  | mode, [] => some mode
  | mode, .text content :: pieces =>
      if '#' ∈ content.toList then none else modes (content.toList.foldl stepMode mode) pieces
  | mode, .slot _ :: pieces => if mode = .plain then modes mode pieces else none

theorem outside_of_modes {s : State ν} {pieces : List (Piece ν)} {mode : Mode}
    (h : modes s.mode pieces = some mode) :
    Outside s pieces ∧ (read s pieces).mode = mode := by
  induction pieces generalizing s with
  | nil => exact ⟨trivial, Option.some.inj h⟩
  | cons piece pieces ih =>
      cases piece with
      | text content =>
          by_cases hmem : '#' ∈ content.toList
          · simp [modes, hmem] at h
          · rw [modes, if_neg hmem, ← run_mode hmem] at h
            exact ih h
      | slot k =>
          by_cases hmode : s.mode = .plain
          · rw [modes, if_pos hmode] at h
            obtain ⟨houtside, hread⟩ := ih (s := s.add [.slot k]) h
            exact ⟨⟨hmode, houtside⟩, hread⟩
          · simp [modes, hmode] at h

theorem closed_of_modes {line : List (Piece ν)} (h : modes .plain line = some .plain) :
    Closed line := fun _ =>
  ⟨(outside_of_modes h).1, .inl (outside_of_modes h).2⟩

theorem modes_append {mode : Mode} {a b : List (Piece ν)} :
    modes mode (a ++ b) = (modes mode a).bind fun mode => modes mode b := by
  induction a generalizing mode with
  | nil => rfl
  | cons piece a ih =>
      cases piece with
      | text content =>
          by_cases hmem : '#' ∈ content.toList
          · simp [modes, hmem]
          · simpa [modes, hmem] using ih
      | slot k =>
          by_cases hmode : mode = .plain
          · simpa [modes, hmode] using ih
          · simp [modes, hmode]

/-- A text without any quotes. -/
theorem modes_text {content : String}
    (h : ∀ c ∈ content.toList, c ≠ '\\' ∧ c ≠ '\'' ∧ c ≠ '"' ∧ c ≠ '#') :
    modes .plain ([.text content] : List (Piece ν)) = some .plain := by
  have hhash : '#' ∉ content.toList := fun hmem => (h '#' hmem).2.2.2 rfl
  have hfold : ∀ chars : List Char, (∀ c ∈ chars, c ≠ '\\' ∧ c ≠ '\'' ∧ c ≠ '"' ∧ c ≠ '#') →
      chars.foldl stepMode .plain = .plain := by
    intro chars hchars
    induction chars with
    | nil => rfl
    | cons c rest ih =>
        obtain ⟨⟨hback, hquote, hdouble, -⟩, hrest⟩ := List.forall_mem_cons.mp hchars
        rw [List.foldl_cons, stepMode, if_neg hback, if_neg hquote, if_neg hdouble, ih hrest]
  simp [modes, hhash, hfold _ h]

end Shell
