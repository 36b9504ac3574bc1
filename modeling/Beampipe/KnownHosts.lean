/-
**Which host keys of a login node are trusted.**

A `known_hosts` file gives, for each key, a list of host patterns.  The list matches a login node
when one of its plain patterns does and none of those behind a `!`; a pattern in the form
`[host]:port` is for this port, any other for port 22, and `*` and `?` are matched byte by byte,
without regard to the case of ASCII letters.  For an ASCII host name this is matching character by
character, whatever characters the pattern has.

Main definitions:

* `Beampipe.Ssh.loadKnownHostEntries`, `Beampipe.Ssh.knownHostPatternsMatch`,
  `Beampipe.Ssh.wildcardMatch`, `Beampipe.Ssh.checkServerKey` — the check as the code has it;
* `Beampipe.Ssh.HostGlob`, `Beampipe.Ssh.PatternAccepts`, `Beampipe.Ssh.Trusts` — what it decides.

Main results:

* `Beampipe.Ssh.loadKnownHostEntries_plain` — a file that loads has plain entries only;
* `Beampipe.Ssh.wildcardMatch_eq_true_iff` — the matcher of bytes is a glob over characters;
* `Beampipe.Ssh.checkServerKey_eq_true_iff` — the keys that are trusted.
-/

import Beampipe.Glob
import Beampipe.PreparedRecords

set_option relaxedAutoImplicit false
set_option autoImplicit false

namespace Beampipe.Ssh

/-! ### Bytes of a text -/

/-- `str::as_bytes`. -/
def asBytes (text : String) : List UInt8 := text.toList.flatMap String.utf8EncodeChar

/-- An ASCII character is its own byte. -/
theorem utf8EncodeChar_of_ascii {c : Char} (h : c.toNat < 128) :
    String.utf8EncodeChar c = [UInt8.ofNat c.toNat] := by
  have hle : c.val.toNat ≤ 127 := Nat.le_of_lt_succ h
  simp only [String.utf8EncodeChar, hle, if_true, Char.toNat]

/-- The bytes of any other character are not ASCII. -/
theorem high_of_mem_utf8EncodeChar {c : Char} (h : 128 ≤ c.toNat) {b : UInt8}
    (hb : b ∈ String.utf8EncodeChar c) : 128 ≤ b.toNat := by
  have hnot : ¬ c.val.toNat ≤ 127 := Nat.not_le.mpr h
  simp only [String.utf8EncodeChar, hnot, if_false] at hb
  split at hb
  next hsmall =>
    simp only [List.mem_cons, List.not_mem_nil, or_false] at hb
    rcases hb with rfl | rfl <;> rw [UInt8.toNat_ofNat'] <;> omega
  next =>
    split at hb
    next =>
      simp only [List.mem_cons, List.not_mem_nil, or_false] at hb
      rcases hb with rfl | rfl | rfl <;> rw [UInt8.toNat_ofNat'] <;> omega
    next =>
      simp only [List.mem_cons, List.not_mem_nil, or_false] at hb
      rcases hb with rfl | rfl | rfl | rfl <;> rw [UInt8.toNat_ofNat'] <;> omega

/-! ### The check -/

/-- `OrchestrationError`, as far as the loading of a file raises it. -/
inductive OrchestrationError where
  | backend (message : String)
  deriving DecidableEq, Repr

/-- `known_hosts::Marker`. -/
inductive Marker where
  | certAuthority
  | revoked
  deriving DecidableEq, Repr

/-- `Marker::as_str`. -/
def Marker.asStr : Marker → String
  | .certAuthority => "@cert-authority"
  | .revoked => "@revoked"

/-- `known_hosts::HostPatterns`. -/
inductive HostPatterns where
  | patterns (patterns : List String)
  | hashedName
  deriving DecidableEq, Repr

variable {Key : Type}

/-- `known_hosts::Entry`: a line of the file. -/
structure Entry (Key : Type) where
  marker : Option Marker
  hostPatterns : HostPatterns
  publicKey : Key

/-- `KnownHostEntry`. -/
structure KnownHostEntry (Key : Type) where
  patterns : List String
  key : Key

/-- What `load_known_host_entries` makes of one line. -/
def loadEntry (path : String) (entry : Except String (Entry Key)) :
    Except OrchestrationError (List (KnownHostEntry Key)) :=
  match entry with
  | .error error => .error (.backend s!"parse known_hosts {path}: {error}")
  | .ok entry =>
      match entry.marker with
      | some marker =>
          .error (.backend ("known_hosts marker " ++ marker.asStr ++ " is not supported; revoked " ++
            "and certificate-authority entries cannot be used as direct Slurm host keys"))
      | none =>
          match entry.hostPatterns with
          | .hashedName =>
              .error (.backend ("hashed known_hosts entries are not supported; provide plain host " ++
                "patterns for Slurm login nodes"))
          | .patterns patterns =>
              .ok (if patterns.isEmpty then [] else [⟨patterns, entry.publicKey⟩])

/-- `load_known_host_entries`, from the lines of the file. -/
def loadKnownHostEntries (path : String) (lines : List (Except String (Entry Key))) :
    Except OrchestrationError (List (KnownHostEntry Key)) := do
  let entries ← lines.mapM (loadEntry path)
  if entries.flatten.isEmpty then
    .error (.backend s!"no public keys parsed from known_hosts file {path}")
  else .ok entries.flatten

/-- `u8::to_ascii_lowercase`. -/
def toAsciiLowercase (b : UInt8) : UInt8 := if 65 ≤ b ∧ b ≤ 90 then b + 32 else b

/-- `u8::eq_ignore_ascii_case`. -/
def eqIgnoreAsciiCase (a b : UInt8) : Bool := toAsciiLowercase a == toAsciiLowercase b

/-- The function inside `wildcard_match`. -/
def inner : List UInt8 → List UInt8 → Bool
  | [], value => value.isEmpty
  | p :: rest, value =>
      if p = 42 then
        inner rest value ||
          match value with
          | [] => false
          | _ :: value => inner (p :: rest) value
      else if p = 63 then
        match value with
        | [] => false
        | _ :: value => inner rest value
      else
        match value with
        | [] => false
        | c :: value => eqIgnoreAsciiCase p c && inner rest value
termination_by pattern value => pattern.length + value.length

/-- `wildcard_match`. -/
def wildcardMatch (pattern value : String) : Bool := inner (asBytes pattern) (asBytes value)

/-- `str::split_once("]:")`. -/
def splitOnce : List Char → Option (List Char × List Char)
  | [] => none
  | ']' :: ':' :: rest => some ([], rest)
  | c :: rest => (splitOnce rest).map fun parts => (c :: parts.1, parts.2)

/-- `str::parse::<u16>`. -/
def parseU16 (text : List Char) : Option ℕ :=
  let digits :=
    match text with
    | '+' :: rest => rest
    | chars => chars
  let value : ℕ := digits.foldl (fun n c => 10 * n + (c.toNat - 48)) 0
  if digits.isEmpty || !digits.all isAsciiDigit || decide (65536 ≤ value) then none else some value

/-- `parse_bracket_host_port`. -/
def parseBracketHostPort (pattern : String) : Option (String × ℕ) :=
  match pattern.toList with
  | '[' :: rest => do
      let (host, portPart) ← splitOnce rest
      let port ← parseU16 portPart
      some (String.ofList host, port)
  | _ => none

/-- `known_host_pattern_matches`. -/
def knownHostPatternMatches (pattern host : String) (port : ℕ) : Bool :=
  match parseBracketHostPort pattern with
  | some (bracketHost, bracketPort) => bracketPort == port && wildcardMatch bracketHost host
  | none => port == 22 && wildcardMatch pattern host

/-- `str::strip_prefix('!')`. -/
def stripNegation (pattern : String) : Option String :=
  match pattern.toList with
  | '!' :: rest => some (String.ofList rest)
  | _ => none

/-- `known_host_patterns_match`. -/
def knownHostPatternsMatch (patterns : List String) (host : String) (port : ℕ) : Bool :=
  let excluded := patterns.any fun pattern =>
    (stripNegation pattern).any fun pattern => knownHostPatternMatches pattern host port
  !excluded && patterns.any fun pattern =>
    (stripNegation pattern).isNone && knownHostPatternMatches pattern host port

/-- `KnownHostEntry::matches_target`. -/
def KnownHostEntry.matchesTarget (entry : KnownHostEntry Key) (host : String) (port : ℕ) : Bool :=
  knownHostPatternsMatch entry.patterns host port

/-- `SshClientHandler`. -/
structure SshClientHandler (Key : Type) where
  trusted : Option (List (KnownHostEntry Key))
  strictKnownHosts : Bool
  targetHost : String
  targetPort : ℕ

/-- `SshClientHandler::check_server_key`; `isProductionEnv` is what the environment says. -/
def checkServerKey [DecidableEq Key] (handler : SshClientHandler Key) (isProductionEnv : Bool)
    (serverPublicKey : Key) : Bool :=
  match handler.trusted with
  | some trusted =>
      trusted.any fun entry => decide (entry.key = serverPublicKey) &&
        entry.matchesTarget handler.targetHost handler.targetPort
  | none => if handler.strictKnownHosts then false else !isProductionEnv

/-! ### What the check decides -/

/-- What a character of a pattern stands for. -/
def globPart (c : Char) : Glob.Part Char :=
  if c = '*' then .many else if c = '?' then .any else .one c

/-- The characters are the same but for the case of ASCII letters. -/
def SameLetter (a b : Char) : Prop := a.toLower = b.toLower

/-- The pattern is a glob for the whole host name. -/
def HostGlob (pattern host : String) : Prop :=
  Glob.Matches SameLetter (pattern.toList.map globPart) host.toList

/-- The pattern is `[name]:port`; the name goes as far as the first `]:`. -/
def Bracketed (pattern name : String) (port : ℕ) : Prop :=
  ∃ digits, pattern.toList = '[' :: name.toList ++ ']' :: ':' :: digits ∧
    ¬ [']', ':'] <:+: name.toList ∧ parseU16 digits = some port

/-- A plain pattern accepts a host and a port: in brackets for its own port only, and else for
port 22 only. -/
def PatternAccepts (pattern host : String) (port : ℕ) : Prop :=
  (∃ name, Bracketed pattern name port ∧ HostGlob name host) ∨
    (¬ ∃ name other, Bracketed pattern name other) ∧ port = 22 ∧ HostGlob pattern host

/-- A pattern list accepts a host and a port: one of its plain patterns does, and none of those
behind a `!`. -/
def PatternsAccept (patterns : List String) (host : String) (port : ℕ) : Prop :=
  (∃ pattern ∈ patterns, pattern.toList.head? ≠ some '!' ∧ PatternAccepts pattern host port) ∧
    ∀ pattern, "!" ++ pattern ∈ patterns → ¬ PatternAccepts pattern host port

/-- The entries trust a key for a host and a port. -/
def Trusts (entries : List (KnownHostEntry Key)) (host : String) (port : ℕ) (key : Key) : Prop :=
  ∃ entry ∈ entries, entry.key = key ∧ PatternsAccept entry.patterns host port

/-! ### The matcher of bytes -/

/-- What a byte of a pattern stands for. -/
def bytePart (b : UInt8) : Glob.Part UInt8 :=
  if b = 42 then .many else if b = 63 then .any else .one b

/-- The function inside `wildcard_match` is the matcher of globs. -/
theorem inner_eq_run (pattern value : List UInt8) :
    inner pattern value = Glob.run eqIgnoreAsciiCase (pattern.map bytePart) value := by
  induction pattern generalizing value with
  | nil => rw [inner, List.map_nil, Glob.run]
  | cons p rest ih =>
      rw [List.map_cons, bytePart]
      by_cases hmany : p = 42
      · rw [if_pos hmany, Glob.run]
        induction value with
        | nil => rw [inner, if_pos hmany, ih, Glob.skip, Bool.or_false]
        | cons c value ihValue => rw [inner, if_pos hmany, ih, Glob.skip, ihValue]
      · rw [if_neg hmany]
        by_cases hany : p = 63
        · rw [if_pos hany]
          cases value with
          | nil => rw [inner, if_neg hmany, if_pos hany, Glob.run]
          | cons c value => rw [inner, if_neg hmany, if_pos hany, Glob.run, ih]
        · rw [if_neg hany]
          cases value with
          | nil => rw [inner, if_neg hmany, if_neg hany, Glob.run]
          | cons c value => rw [inner, if_neg hmany, if_neg hany, Glob.run, ih]

theorem toNat_toLower (c : Char) :
    c.toLower.toNat = if 65 ≤ c.toNat ∧ c.toNat ≤ 90 then c.toNat + 32 else c.toNat := by
  unfold Char.toLower
  split
  next h =>
    have hlow : 65 ≤ c.toNat := h.1
    have hhigh : c.toNat ≤ 90 := h.2
    rw [if_pos ⟨hlow, hhigh⟩]
    change (c.val + 32).toNat = c.val.toNat + 32
    change c.val.toNat ≤ 90 at hhigh
    have hstep : (32 : UInt32).toNat = 32 := rfl
    rw [UInt32.toNat_add, hstep]
    omega
  next h =>
    rw [if_neg]
    rintro ⟨hlow, hhigh⟩
    exact h ⟨hlow, hhigh⟩

theorem toNat_ofNat_ascii {c : Char} (h : c.toNat < 128) : (UInt8.ofNat c.toNat).toNat = c.toNat := by
  rw [UInt8.toNat_ofNat']
  omega

theorem toNat_toAsciiLowercase (b : UInt8) :
    (toAsciiLowercase b).toNat =
      if 65 ≤ b.toNat ∧ b.toNat ≤ 90 then b.toNat + 32 else b.toNat := by
  have hiff : (65 ≤ b ∧ b ≤ 90) ↔ 65 ≤ b.toNat ∧ b.toNat ≤ 90 := Iff.rfl
  unfold toAsciiLowercase
  by_cases h : 65 ≤ b ∧ b ≤ 90
  · have hstep : (32 : UInt8).toNat = 32 := rfl
    have hhigh := (hiff.mp h).2
    rw [if_pos h, if_pos (hiff.mp h), UInt8.toNat_add, hstep]
    omega
  · rw [if_neg h, if_neg (mt hiff.mpr h)]

/-- On ASCII the bytes compare as the characters do. -/
theorem eqIgnoreAsciiCase_iff {a b : Char} (ha : a.toNat < 128) (hb : b.toNat < 128) :
    eqIgnoreAsciiCase (UInt8.ofNat a.toNat) (UInt8.ofNat b.toNat) = true ↔ SameLetter a b := by
  rw [eqIgnoreAsciiCase, beq_iff_eq, ← UInt8.toNat_inj, toNat_toAsciiLowercase,
    toNat_toAsciiLowercase, toNat_ofNat_ascii ha, toNat_ofNat_ascii hb, ← toNat_toLower,
    ← toNat_toLower, SameLetter]
  constructor
  · intro h
    exact Char.toNat_inj.mp h
  · intro h
    rw [h]

/-- A byte outside ASCII is none of an ASCII text. -/
theorem eqIgnoreAsciiCase_of_high {b : UInt8} (hb : 128 ≤ b.toNat) {c : Char} (hc : c.toNat < 128) :
    eqIgnoreAsciiCase b (UInt8.ofNat c.toNat) = false := by
  rw [eqIgnoreAsciiCase, beq_eq_false_iff_ne]
  intro h
  have heq := congrArg UInt8.toNat h
  rw [toNat_toAsciiLowercase, toNat_toAsciiLowercase, toNat_ofNat_ascii hc] at heq
  split at heq <;> split at heq <;> omega

theorem not_sameLetter_of_high {a b : Char} (ha : 128 ≤ a.toNat) (hb : b.toNat < 128) :
    ¬ SameLetter a b := by
  intro h
  have heq := congrArg Char.toNat h
  rw [toNat_toLower, toNat_toLower] at heq
  split at heq <;> split at heq <;> omega

theorem flatMap_utf8EncodeChar_of_ascii {chars : List Char} (h : ∀ c ∈ chars, c.toNat < 128) :
    chars.flatMap String.utf8EncodeChar = chars.map fun c => UInt8.ofNat c.toNat := by
  induction chars with
  | nil => rfl
  | cons c chars ih =>
      obtain ⟨hc, hchars⟩ := List.forall_mem_cons.mp h
      rw [List.flatMap_cons, utf8EncodeChar_of_ascii hc, ih hchars]
      rfl

theorem bytePart_ofNat {c : Char} (h : c.toNat < 128) :
    bytePart (UInt8.ofNat c.toNat) =
      if c = '*' then .many else if c = '?' then .any else .one (UInt8.ofNat c.toNat) := by
  have hiff : ∀ d : Char, d.toNat < 128 → (UInt8.ofNat c.toNat = UInt8.ofNat d.toNat ↔ c = d) := by
    intro d hd
    rw [← UInt8.toNat_inj, toNat_ofNat_ascii h, toNat_ofNat_ascii hd, Char.toNat_inj]
  have hmany := hiff '*' (by decide)
  have hany := hiff '?' (by decide)
  simp only [bytePart]
  change (if UInt8.ofNat c.toNat = UInt8.ofNat '*'.toNat then _ else
    if UInt8.ofNat c.toNat = UInt8.ofNat '?'.toNat then _ else _) = _
  simp only [hmany, hany]

/-- A character outside ASCII is no wildcard. -/
theorem ne_wildcard_of_high {c : Char} (h : 128 ≤ c.toNat) : c ≠ '*' ∧ c ≠ '?' := by
  constructor
  · rintro rfl
    exact absurd h (by decide)
  · rintro rfl
    exact absurd h (by decide)

/-- Its encoding begins with a letter outside ASCII. -/
theorem exists_bytePart_of_high {c : Char} (h : 128 ≤ c.toNat) :
    ∃ b bytes, String.utf8EncodeChar c = b :: bytes ∧ 128 ≤ b.toNat ∧ bytePart b = .one b := by
  obtain ⟨b, bytes, hbytes⟩ := List.exists_cons_of_ne_nil (@String.utf8EncodeChar_ne_nil c)
  have hb : 128 ≤ b.toNat := high_of_mem_utf8EncodeChar h (hbytes ▸ List.mem_cons_self)
  refine ⟨b, bytes, hbytes, hb, ?_⟩
  unfold bytePart
  rw [if_neg, if_neg]
  · rintro rfl
    exact absurd hb (by decide)
  · rintro rfl
    exact absurd hb (by decide)

/-- On an ASCII text the bytes of a pattern match as its characters do. -/
theorem matches_bytes_iff (pattern : List Char) {text : List Char}
    (htext : ∀ c ∈ text, c.toNat < 128) :
    Glob.Matches (fun a b => eqIgnoreAsciiCase a b = true)
        ((pattern.flatMap String.utf8EncodeChar).map bytePart)
        (text.map fun c => UInt8.ofNat c.toNat) ↔
      Glob.Matches SameLetter (pattern.map globPart) text := by
  induction pattern generalizing text with
  | nil => simp [Glob.matches_nil_iff]
  | cons c pattern ih =>
      rw [List.flatMap_cons, List.map_append, List.map_cons, globPart]
      by_cases hc : c.toNat < 128
      · rw [utf8EncodeChar_of_ascii hc, List.map_singleton, List.singleton_append,
          bytePart_ofNat hc]
        split
        next =>
          rw [Glob.matches_many_iff, Glob.matches_many_iff]
          constructor
          · rintro ⟨skipped, rest, hsplit, hrest⟩
            obtain ⟨skipped, rest, rfl, rfl, rfl⟩ := List.map_eq_append_iff.mp hsplit
            refine ⟨skipped, rest, rfl, (ih fun c hc => ?_).mp hrest⟩
            exact htext c (List.mem_append_right _ hc)
          · rintro ⟨skipped, rest, rfl, hrest⟩
            refine ⟨_, _, List.map_append, (ih fun c hc => ?_).mpr hrest⟩
            exact htext c (List.mem_append_right _ hc)
        next =>
          split
          next =>
            rw [Glob.matches_any_iff, Glob.matches_any_iff]
            constructor
            · rintro ⟨letter, rest, hsplit, hrest⟩
              obtain ⟨c, rest, rfl, rfl, rfl⟩ := List.map_eq_cons_iff.mp hsplit
              exact ⟨c, rest, rfl, (ih (List.forall_mem_cons.mp htext).2).mp hrest⟩
            · rintro ⟨c, rest, rfl, hrest⟩
              exact ⟨_, _, List.map_cons, (ih (List.forall_mem_cons.mp htext).2).mpr hrest⟩
          next =>
            rw [Glob.matches_one_iff, Glob.matches_one_iff]
            constructor
            · rintro ⟨letter, rest, hsplit, hsame, hrest⟩
              obtain ⟨d, rest, rfl, rfl, rfl⟩ := List.map_eq_cons_iff.mp hsplit
              obtain ⟨hd, hall⟩ := List.forall_mem_cons.mp htext
              exact ⟨d, rest, rfl, (eqIgnoreAsciiCase_iff hc hd).mp hsame, (ih hall).mp hrest⟩
            · rintro ⟨d, rest, rfl, hsame, hrest⟩
              obtain ⟨hd, hall⟩ := List.forall_mem_cons.mp htext
              exact ⟨_, _, List.map_cons, (eqIgnoreAsciiCase_iff hc hd).mpr hsame,
                (ih hall).mpr hrest⟩
      · -- a character outside ASCII is a letter on both sides, and no letter of the text
        have hhigh : 128 ≤ c.toNat := Nat.le_of_not_lt hc
        obtain ⟨b, bytes, hbytes, hb, hpart⟩ := exists_bytePart_of_high hhigh
        obtain ⟨hmany, hany⟩ := ne_wildcard_of_high hhigh
        rw [hbytes, List.map_cons, List.cons_append, hpart, if_neg hmany, if_neg hany,
          Glob.matches_one_iff, Glob.matches_one_iff]
        constructor
        · rintro ⟨letter, rest, hsplit, hsame, -⟩
          obtain ⟨d, rest, rfl, rfl, -⟩ := List.map_eq_cons_iff.mp hsplit
          rw [eqIgnoreAsciiCase_of_high hb (htext d List.mem_cons_self)] at hsame
          cases hsame
        · rintro ⟨d, rest, rfl, hsame, -⟩
          exact (not_sameLetter_of_high hhigh (htext d List.mem_cons_self) hsame).elim

section Host

variable {host : String} (hhost : ∀ c ∈ host.toList, c.toNat < 128)
include hhost

/-- On an ASCII host name the matcher of bytes is a glob over characters. -/
theorem wildcardMatch_eq_true_iff (pattern : String) :
    wildcardMatch pattern host = true ↔ HostGlob pattern host := by
  rw [wildcardMatch, inner_eq_run, Glob.run_eq_true_iff, asBytes, asBytes,
    flatMap_utf8EncodeChar_of_ascii hhost, matches_bytes_iff pattern.toList hhost, HostGlob]

end Host

/-! ### Brackets -/

theorem splitOnce_cons {c : Char} {rest : List Char} (h : c ≠ ']' ∨ rest.head? ≠ some ':') :
    splitOnce (c :: rest) = (splitOnce rest).map fun parts => (c :: parts.1, parts.2) := by
  cases rest with
  | nil => simp [splitOnce]
  | cons d rest =>
      rw [splitOnce]
      intro after hc hrest
      rcases h with h | h
      · exact h hc
      · rw [hrest] at h
        exact h rfl

/-- A text is split at the first `]:`. -/
theorem splitOnce_eq_some_iff {chars before after : List Char} :
    splitOnce chars = some (before, after) ↔
      chars = before ++ ']' :: ':' :: after ∧ ¬ [']', ':'] <:+: before := by
  induction chars generalizing before with
  | nil => simp [splitOnce]
  | cons c rest ih =>
      by_cases h : c = ']' ∧ rest.head? = some ':'
      · obtain ⟨rfl, hrest⟩ := h
        obtain ⟨rest, rfl⟩ := List.head?_eq_some_iff.mp hrest
        rw [splitOnce]
        constructor
        · intro heq
          cases heq
          simp
        · rintro ⟨heq, hnone⟩
          cases before with
          | nil =>
              cases heq
              rfl
          | cons d before =>
              cases before with
              | nil => cases heq
              | cons e before =>
                  cases heq
                  exact (hnone ⟨[], before, rfl⟩).elim
      · rw [splitOnce_cons (by tauto), Option.map_eq_some_iff]
        constructor
        · rintro ⟨⟨first, rest'⟩, hsplit, heq⟩
          cases heq
          obtain ⟨rfl, hnone⟩ := ih.mp hsplit
          refine ⟨rfl, ?_⟩
          rw [List.infix_cons_iff, not_or]
          refine ⟨?_, hnone⟩
          rintro ⟨more, hmore⟩
          cases first with
          | nil => cases hmore
          | cons d first =>
              cases hmore
              exact h ⟨rfl, rfl⟩
        · rintro ⟨heq, hnone⟩
          cases before with
          | nil =>
              cases heq
              exact (h ⟨rfl, rfl⟩).elim
          | cons d before =>
              cases heq
              rw [List.infix_cons_iff, not_or] at hnone
              exact ⟨(before, after), ih.mpr ⟨rfl, hnone.2⟩, rfl⟩

theorem parseBracketHostPort_eq_some_iff {pattern name : String} {port : ℕ} :
    parseBracketHostPort pattern = some (name, port) ↔ Bracketed pattern name port := by
  unfold parseBracketHostPort Bracketed
  split
  next rest hrest =>
    rw [Option.bind_eq_bind, Option.bind_eq_some_iff]
    constructor
    · rintro ⟨⟨before, after⟩, hsplit, hport⟩
      obtain ⟨port', hport', heq⟩ := Option.bind_eq_some_iff.mp hport
      cases heq
      obtain ⟨rfl, hnone⟩ := splitOnce_eq_some_iff.mp hsplit
      refine ⟨after, ?_, ?_, hport'⟩
      · rw [hrest, String.toList_ofList]
        rfl
      · rwa [String.toList_ofList]
    · rintro ⟨digits, hpattern, hnone, hport⟩
      rw [hrest, List.cons_append, List.cons.injEq] at hpattern
      refine ⟨(name.toList, digits), splitOnce_eq_some_iff.mpr ⟨hpattern.2, hnone⟩, ?_⟩
      refine Option.bind_eq_some_iff.mpr ⟨port, hport, ?_⟩
      rw [String.ofList_toList]
  next hother =>
    refine iff_of_false (fun h => by cases h) ?_
    rintro ⟨digits, hpattern, -⟩
    exact hother _ hpattern

/-! ### Patterns and keys -/

section Host

variable {host : String} (hhost : ∀ c ∈ host.toList, c.toNat < 128)
include hhost

theorem knownHostPatternMatches_eq_true_iff (pattern : String) (port : ℕ) :
    knownHostPatternMatches pattern host port = true ↔ PatternAccepts pattern host port := by
  unfold knownHostPatternMatches PatternAccepts
  cases hbracket : parseBracketHostPort pattern with
  | none =>
      have hnone : ∀ name other, ¬ Bracketed pattern name other := by
        intro name other h
        rw [← parseBracketHostPort_eq_some_iff, hbracket] at h
        cases h
      simp only [Bool.and_eq_true, beq_iff_eq, wildcardMatch_eq_true_iff hhost]
      constructor
      · rintro ⟨hport, hglob⟩
        exact Or.inr ⟨fun ⟨name, other, h⟩ => hnone name other h, hport, hglob⟩
      · rintro (⟨name, h, -⟩ | ⟨-, hport, hglob⟩)
        · exact (hnone name port h).elim
        · exact ⟨hport, hglob⟩
  | some bracket =>
      obtain ⟨name, other⟩ := bracket
      have hpattern := parseBracketHostPort_eq_some_iff.mp hbracket
      simp only [Bool.and_eq_true, beq_iff_eq, wildcardMatch_eq_true_iff hhost]
      constructor
      · rintro ⟨rfl, hglob⟩
        exact Or.inl ⟨name, hpattern, hglob⟩
      · rintro (⟨name', h, hglob⟩ | ⟨hnone, -⟩)
        · rw [← parseBracketHostPort_eq_some_iff, hbracket] at h
          cases h
          exact ⟨rfl, hglob⟩
        · exact (hnone ⟨name, other, hpattern⟩).elim

omit hhost in
theorem stripNegation_eq_some_iff {pattern rest : String} :
    stripNegation pattern = some rest ↔ pattern = "!" ++ rest := by
  have htext : ("!" ++ rest).toList = '!' :: rest.toList := String.toList_append
  unfold stripNegation
  split
  next chars hchars =>
    rw [Option.some.injEq]
    constructor
    · rintro rfl
      rw [← String.toList_inj, htext, hchars, String.toList_ofList]
    · rintro rfl
      rw [htext, List.cons.injEq] at hchars
      rw [← hchars.2, String.ofList_toList]
  next hother =>
    refine iff_of_false (fun h => by cases h) ?_
    rintro rfl
    exact hother _ htext

omit hhost in
theorem stripNegation_eq_none_iff {pattern : String} :
    stripNegation pattern = none ↔ pattern.toList.head? ≠ some '!' := by
  unfold stripNegation
  split
  next chars hchars => simp [hchars]
  next hother =>
    refine iff_of_true rfl ?_
    intro h
    obtain ⟨rest, hrest⟩ := List.head?_eq_some_iff.mp h
    exact hother rest hrest

/-- The test of a pattern list is its meaning. -/
theorem knownHostPatternsMatch_eq_true_iff (patterns : List String) (port : ℕ) :
    knownHostPatternsMatch patterns host port = true ↔ PatternsAccept patterns host port := by
  simp only [knownHostPatternsMatch, Bool.and_eq_true, Bool.not_eq_true', List.any_eq_false,
    List.any_eq_true, Option.any_eq_true, Option.isNone_iff_eq_none, stripNegation_eq_some_iff,
    stripNegation_eq_none_iff, knownHostPatternMatches_eq_true_iff hhost]
  constructor
  · rintro ⟨hexcluded, hmatch⟩
    refine ⟨hmatch, ?_⟩
    intro pattern hmem haccepts
    exact hexcluded _ hmem ⟨pattern, rfl, haccepts⟩
  · rintro ⟨hmatch, hexcluded⟩
    refine ⟨?_, hmatch⟩
    rintro _ hmem ⟨pattern, rfl, haccepts⟩
    exact hexcluded pattern hmem haccepts

end Host

/-- A line that is loaded has neither a marker nor a hashed name. -/
theorem loadEntry_plain {path : String} {line : Except String (Entry Key)}
    {loaded : List (KnownHostEntry Key)} (h : loadEntry path line = .ok loaded) :
    ∃ patterns key, line = .ok ⟨none, .patterns patterns, key⟩ := by
  cases line with
  | error error => cases h
  | ok entry =>
      obtain ⟨marker, hostPatterns, key⟩ := entry
      cases marker with
      | some marker => cases h
      | none =>
          cases hostPatterns with
          | hashedName => cases h
          | patterns patterns => exact ⟨patterns, key, rfl⟩

/-- A file with a marker or a hashed name is refused. -/
theorem loadKnownHostEntries_plain {path : String} {lines : List (Except String (Entry Key))}
    {loaded : List (KnownHostEntry Key)} (h : loadKnownHostEntries path lines = .ok loaded) :
    ∀ line ∈ lines, ∃ patterns key, line = .ok ⟨none, .patterns patterns, key⟩ := by
  intro line hline
  obtain ⟨entries, hentries, -⟩ := exceptBind_ok h
  obtain ⟨entry, -, hentry⟩ := (exceptMapM_ok hentries).1 line hline
  exact loadEntry_plain hentry

variable [DecidableEq Key]

/-- A file that loads has plain entries only, and with entries loaded a key is trusted exactly
when one of them is for this key and its pattern list accepts the login node. -/
theorem checkServerKey_eq_true_iff {handler : SshClientHandler Key}
    {entries : List (KnownHostEntry Key)} (htrusted : handler.trusted = some entries)
    (hhost : ∀ c ∈ handler.targetHost.toList, c.toNat < 128) (isProductionEnv : Bool) (key : Key) :
    (∀ path lines, loadKnownHostEntries path lines = .ok entries →
        ∀ line ∈ lines, ∃ patterns publicKey,
          line = .ok ⟨none, .patterns patterns, publicKey⟩) ∧
      (checkServerKey handler isProductionEnv key = true ↔
        Trusts entries handler.targetHost handler.targetPort key) := by
  refine ⟨fun path lines h => loadKnownHostEntries_plain h, ?_⟩
  simp only [checkServerKey, htrusted, List.any_eq_true, Bool.and_eq_true, decide_eq_true_eq,
    KnownHostEntry.matchesTarget, knownHostPatternsMatch_eq_true_iff hhost, Trusts]

/-- A login node on a port of its own, with one host of its network excluded. -/
theorem checkServerKey_of_bracketed :
    (∀ path lines,
        loadKnownHostEntries path lines = .ok [⟨["[login?.hpc]:2222", "![login9.hpc]:2222"], 7⟩] →
        ∀ line ∈ lines, ∃ patterns publicKey,
          line = .ok ⟨none, .patterns patterns, publicKey⟩) ∧
      (checkServerKey ⟨some [⟨["[login?.hpc]:2222", "![login9.hpc]:2222"], 7⟩], true, "LOGIN1.hpc",
          2222⟩ true 7 = true ↔
        Trusts [⟨["[login?.hpc]:2222", "![login9.hpc]:2222"], 7⟩] "LOGIN1.hpc" 2222 7) :=
  checkServerKey_eq_true_iff rfl (by simp) true 7

end Beampipe.Ssh
