/-
What redaction hides.

Texts and JSON documents are redacted before they are stored or shown.  In a text, the value behind
each of ten markers is replaced up to the next separator; in a document, the values of secret keys
are replaced, and the texts elsewhere redacted.  A quotation mark is a separator, also where it
opens the value: what is hidden does not depend on an unquoted secret, but a quoted one is left
standing.

Main definitions:

* `Beampipe.isSecretKey`, `Beampipe.redactValue` — the redaction of a document;
* `Beampipe.SameButSecrets`, `Beampipe.Json.SameButSecrets` — two texts, or two documents, that
  differ in secrets only;
* `Beampipe.HasQuotedSecret`, `Beampipe.Json.HasQuotedSecret` — a quoted secret is there.

Main results:

* `Beampipe.redactChars_separator` — a text is redacted between its separators;
* `Beampipe.redactChars_unquoted` — an unquoted secret does not show;
* `Beampipe.redaction_hides_iff` — **redaction hides the secrets of a text or a document exactly
  when none of them is quoted.**
-/

import Mathlib.Data.List.TakeWhile
import Beampipe.LookupEvidence
import Beampipe.StableJson

set_option relaxedAutoImplicit false
set_option autoImplicit false

namespace Beampipe

/-! ### Documents -/

/-- `is_secret_key`. -/
def isSecretKey (key : String) : Bool :=
  ["password", "passphrase", "passcode", "token", "secret", "credential", "authorization",
    "routing_key", "private_key", "webhook", "api_key"].any fun needle =>
      containsText (toAsciiLowercase key) needle

mutual

/-- `redact_value`. -/
def redactValue : Json → Json
  | .obj fields => .obj (redactFields fields)
  | .arr items => .arr (redactItems items)
  | .str s => .str (redactString s)
  | json => json

/-- The items of an array, redacted. -/
def redactItems : List Json → List Json
  | [] => []
  | item :: items => redactValue item :: redactItems items

/-- The members of an object, redacted; the value of a secret key is replaced as a whole. -/
def redactFields : List (String × Json) → List (String × Json)
  | [] => []
  | (key, value) :: fields =>
      (key, if isSecretKey key then .str "[REDACTED]" else redactValue value) ::
        redactFields fields

end

/-! ### Secrets in a text -/

/-- The markers of `redact_string`, in its order. -/
def secretMarkers : List String :=
  ["password=", "passphrase=", "passcode=", "token=", "access_token=", "id_token=", "secret=",
    "apikey=", "api_key=", "authorization="]

/-- A quotation mark, of either kind. -/
def isQuote (c : Char) : Bool := c.toNat == 34 || c.toNat == 39

/-- What ends a value. -/
def endsValue (c : Char) : Bool := c == '&' || isWhitespace c || c.toNat == 34 || c.toNat == 39

/-- A marker in any letter case. -/
def IsMarker (chars : List Char) : Prop :=
  ∃ marker ∈ secretMarkers, chars.map Char.toLower = marker.toList

/-- Two texts that differ in secrets only: in an unquoted value behind a marker, which runs to the
next separator or to the end, or in a quoted one, which runs to its closing mark. -/
inductive SameButSecrets : List Char → List Char → Prop where
  | nil : SameButSecrets [] []
  | cons (c : Char) {a b : List Char} (h : SameButSecrets a b) : SameButSecrets (c :: a) (c :: b)
  | unquoted {marker secret secret' a b : List Char} {c : Char} (hmarker : IsMarker marker)
      (hsecret : ∀ x ∈ secret, endsValue x = false) (hsecret' : ∀ x ∈ secret', endsValue x = false)
      (hend : endsValue c = true) (h : SameButSecrets a b) :
      SameButSecrets (marker ++ secret ++ c :: a) (marker ++ secret' ++ c :: b)
  | unquotedEnd {marker secret secret' : List Char} (hmarker : IsMarker marker)
      (hsecret : ∀ x ∈ secret, endsValue x = false)
      (hsecret' : ∀ x ∈ secret', endsValue x = false) :
      SameButSecrets (marker ++ secret) (marker ++ secret')
  | quoted {marker secret secret' a b : List Char} {quote : Char} (hmarker : IsMarker marker)
      (hquote : isQuote quote = true) (hsecret : quote ∉ secret) (hsecret' : quote ∉ secret')
      (h : SameButSecrets a b) :
      SameButSecrets (marker ++ quote :: secret ++ quote :: a)
        (marker ++ quote :: secret' ++ quote :: b)

/-- A marker is followed by a quoted value. -/
def HasQuotedSecret (chars : List Char) : Prop :=
  ∃ before marker quote secret after, IsMarker marker ∧ isQuote quote = true ∧ quote ∉ secret ∧
    chars = before ++ (marker ++ quote :: secret ++ quote :: after)

theorem SameButSecrets.refl (chars : List Char) : SameButSecrets chars chars := by
  induction chars with
  | nil => exact .nil
  | cons c chars ih => exact .cons c ih

theorem SameButSecrets.append (before : List Char) {a b : List Char} (h : SameButSecrets a b) :
    SameButSecrets (before ++ a) (before ++ b) := by
  induction before with
  | nil => exact h
  | cons c before ih => exact .cons c ih

/-! ### One pass -/

/-- The text through the first occurrence of a marker. -/
def cutAfter (marker : List Char) : List Char → Option (List Char)
  | [] => none
  | c :: chars =>
      if marker.isPrefixOf ((c :: chars).map Char.toLower) then
        some ((c :: chars).take marker.length)
      else (cutAfter marker chars).map (c :: ·)

/-- A pass over a text without separators: what follows the first marker is replaced. -/
def redactSegment (marker chars : List Char) : List Char :=
  match cutAfter marker chars with
  | none => chars
  | some head => head ++ "[REDACTED]".toList

/-- The words of the markers: in lower case, ended by their only equals sign. -/
structure IsMarkerText (marker : List Char) : Prop where
  ends : ∃ name, marker = name ++ ['='] ∧ '=' ∉ name
  plain : ∀ c ∈ marker, endsValue c = false

theorem secretMarkers_text {marker : String} (h : marker ∈ secretMarkers) :
    IsMarkerText marker.toList := by
  have hall : ∀ marker ∈ secretMarkers,
      (marker.toList == marker.toList.dropLast ++ ['='] &&
        marker.toList.dropLast.all (· != '=') &&
        marker.toList.all fun c => !endsValue c) = true := by
    decide +kernel
  have hmarker := hall marker h
  simp only [Bool.and_eq_true, beq_iff_eq, List.all_eq_true, bne_iff_ne, ne_eq,
    Bool.not_eq_true'] at hmarker
  exact ⟨⟨_, hmarker.1.1, fun hmem => hmarker.1.2 _ hmem rfl⟩, hmarker.2⟩

theorem IsMarkerText.ne_nil {marker : List Char} (h : IsMarkerText marker) : marker ≠ [] := by
  obtain ⟨name, rfl, -⟩ := h.ends
  simp

/-- The letters of a text, in whatever case, are separators or not. -/
theorem endsValue_toLower (c : Char) : endsValue c.toLower = endsValue c := by
  by_cases h : 128 ≤ c.toNat
  · have hsame : c.toLower = c := by
      unfold Char.toLower
      refine dif_neg fun hletter => ?_
      have hle : c.toNat ≤ 90 := hletter.2
      omega
    rw [hsame]
  · have hall : ∀ n < 128, endsValue (Char.ofNat n).toLower = endsValue (Char.ofNat n) := by
      decide +kernel
    have hascii := hall c.toNat (by omega)
    rwa [Char.ofNat_toNat] at hascii

/-- No letter becomes an equals sign. -/
theorem eq_of_toLower_eq {c : Char} (h : c.toLower = '=') : c = '=' := by
  unfold Char.toLower at h
  split at h
  next hletter =>
    have hge : 65 ≤ c.toNat := hletter.1
    have hval := congrArg Char.toNat h
    have hle : c.toNat ≤ 90 := hletter.2
    have hall : ∀ n < 91, 65 ≤ n → (Char.ofNat n).toLower ≠ '=' := by
      decide +kernel
    refine absurd ?_ (hall c.toNat (by omega) hge)
    rw [Char.ofNat_toNat]
    unfold Char.toLower
    rw [dif_pos hletter]
    exact h
  · exact h

theorem IsMarker.plain {marker : List Char} (h : IsMarker marker) :
    ∀ c ∈ marker, endsValue c = false := by
  obtain ⟨text, htext, hlower⟩ := h
  intro c hc
  rw [← endsValue_toLower c]
  refine (secretMarkers_text htext).plain _ ?_
  rw [← hlower]
  exact List.mem_map_of_mem hc

/-! ### Prefixes -/

/-- A word without `x` is a prefix across an `x` only when it ends before it. -/
theorem prefix_append_cons_iff {α : Type} {word before after : List α} {x : α} (h : x ∉ word) :
    word <+: before ++ x :: after ↔ word <+: before := by
  induction word generalizing before with
  | nil => simp
  | cons y word ih =>
      have hy : y ≠ x := fun hyx => h (hyx ▸ List.mem_cons_self)
      have hrest : x ∉ word := fun hx => h (List.mem_cons_of_mem _ hx)
      cases before with
      | nil => simp [hy]
      | cons z before => simp [List.cons_prefix_cons, ih hrest]

/-- A word that ends with its only `x` is a prefix across an `x` only when it ends there. -/
theorem prefix_append_last_iff {α : Type} {name before after : List α} {x : α} (h : x ∉ name) :
    name ++ [x] <+: before ++ x :: after ↔ name ++ [x] <+: before ++ [x] := by
  induction name generalizing before with
  | nil =>
      cases before with
      | nil => simp
      | cons z before => simp [List.cons_prefix_cons]
  | cons y name ih =>
      have hy : y ≠ x := fun hyx => h (hyx ▸ List.mem_cons_self)
      have hrest : x ∉ name := fun hx => h (List.mem_cons_of_mem _ hx)
      cases before with
      | nil => simp [hy]
      | cons z before =>
          have hih := @ih before hrest
          simp only [List.cons_append, List.cons_prefix_cons, hih]

/-! ### A pass between separators -/

/-- `redact_after_marker` with the fuel it needs. -/
def redactPass (marker chars : List Char) : List Char :=
  redactAfterMarker marker chars.length chars

/-- `redact_string` on the characters. -/
def redactChars (chars : List Char) : List Char :=
  secretMarkers.foldl (fun chars marker => redactPass marker.toList chars) chars

theorem redactString_eq (input : String) :
    redactString input = String.ofList (redactChars input.toList) := rfl

theorem redactAfterMarker_nil (marker : List Char) (fuel : ℕ) :
    redactAfterMarker marker fuel [] = [] := by
  cases fuel <;> rfl

theorem redactAfterMarker_cons (marker : List Char) (fuel : ℕ) (c : Char) (chars : List Char) :
    redactAfterMarker marker (fuel + 1) (c :: chars) =
      if marker.isPrefixOf ((c :: chars).map Char.toLower) then
        (c :: chars).take marker.length ++ "[REDACTED]".toList ++
          redactAfterMarker marker fuel
            (((c :: chars).drop marker.length).dropWhile fun c => !endsValue c)
      else c :: redactAfterMarker marker fuel chars := rfl

/-- What is left to scan behind a marker is shorter. -/
theorem length_rest_lt {marker : List Char} (hmarker : marker ≠ []) (c : Char)
    (chars : List Char) :
    (((c :: chars).drop marker.length).dropWhile fun c => !endsValue c).length ≤ chars.length := by
  have hdrop := (List.dropWhile_suffix (l := (c :: chars).drop marker.length)
    fun c => !endsValue c).length_le
  have hpos := List.length_pos_iff.mpr hmarker
  rw [List.length_drop, List.length_cons] at hdrop
  omega

/-- The fuel does not matter once it suffices. -/
theorem redactAfterMarker_fuel {marker : List Char} (hmarker : marker ≠ []) {fuel fuel' : ℕ}
    {chars : List Char} (h : chars.length ≤ fuel) (h' : chars.length ≤ fuel') :
    redactAfterMarker marker fuel chars = redactAfterMarker marker fuel' chars := by
  induction fuel generalizing fuel' chars with
  | zero =>
      rw [List.length_eq_zero_iff.mp (Nat.le_zero.mp h), redactAfterMarker_nil,
        redactAfterMarker_nil]
  | succ fuel ih =>
      cases chars with
      | nil => rw [redactAfterMarker_nil, redactAfterMarker_nil]
      | cons c chars =>
          cases fuel' with
          | zero => simp at h'
          | succ fuel' =>
              simp only [List.length_cons, Nat.add_le_add_iff_right] at h h'
              have hrest := length_rest_lt hmarker c chars
              rw [redactAfterMarker_cons, redactAfterMarker_cons, ih h h',
                ih (Nat.le_trans hrest h) (Nat.le_trans hrest h')]

theorem redactPass_cons {marker : List Char} (hmarker : marker ≠ []) (c : Char)
    (chars : List Char) :
    redactPass marker (c :: chars) =
      if marker.isPrefixOf ((c :: chars).map Char.toLower) then
        (c :: chars).take marker.length ++ "[REDACTED]".toList ++
          redactPass marker (((c :: chars).drop marker.length).dropWhile fun c => !endsValue c)
      else c :: redactPass marker chars := by
  unfold redactPass
  rw [List.length_cons, redactAfterMarker_cons,
    redactAfterMarker_fuel hmarker (length_rest_lt hmarker c chars) (Nat.le_refl _)]

/-- A separator ends what is dropped. -/
theorem dropWhile_append_separator {before after : List Char} {c : Char}
    (hend : endsValue c = true) :
    (before ++ c :: after).dropWhile (fun c => !endsValue c) =
      before.dropWhile (fun c => !endsValue c) ++ c :: after := by
  induction before with
  | nil => simp [hend]
  | cons d before ih =>
      rw [List.cons_append, List.dropWhile_cons, List.dropWhile_cons]
      split
      · exact ih
      · rfl

/-- A pass treats what is before a separator and what is behind it apart. -/
theorem redactPass_separator {marker : List Char} (hmarker : IsMarkerText marker)
    {before after : List Char} {c : Char} (hend : endsValue c = true) :
    redactPass marker (before ++ c :: after) =
      redactPass marker before ++ c :: redactPass marker after := by
  have hne := hmarker.ne_nil
  have hc : c.toLower ∉ marker := by
    intro hmem
    have hplain := hmarker.plain _ hmem
    rw [endsValue_toLower, hend] at hplain
    cases hplain
  have hprefix : ∀ chars : List Char, marker.isPrefixOf ((chars ++ c :: after).map Char.toLower) =
      marker.isPrefixOf (chars.map Char.toLower) := by
    intro chars
    rw [Bool.eq_iff_iff, List.isPrefixOf_iff_prefix, List.isPrefixOf_iff_prefix, List.map_append,
      List.map_cons]
    exact prefix_append_cons_iff hc
  -- by the length of what is before the separator: a value is dropped in one go
  induction hlength : before.length using Nat.strong_induction_on generalizing before with
  | _ n ih =>
    cases before with
    | nil =>
        have hnil := hprefix []
        rw [List.nil_append] at hnil ⊢
        have hempty : marker.isPrefixOf (([] : List Char).map Char.toLower) = false := by
          cases marker with
          | nil => exact absurd rfl hne
          | cons d marker => rfl
        rw [redactPass_cons hne, hnil, hempty]
        rfl
    | cons d before =>
        rw [List.length_cons] at hlength
        rw [List.cons_append, redactPass_cons hne, redactPass_cons hne, ← List.cons_append,
          hprefix (d :: before)]
        split
        next hmatch =>
          have hle : marker.length ≤ (d :: before).length := by
            have hlen := (List.isPrefixOf_iff_prefix.mp hmatch).length_le
            rwa [List.length_map] at hlen
          have hshort := length_rest_lt hne d before
          rw [List.take_append_of_le_length hle, List.drop_append_of_le_length hle,
            dropWhile_append_separator hend, ih _ (by omega) rfl]
          simp only [List.append_assoc]
        next hother =>
          rw [ih _ (by omega) rfl, List.cons_append]

theorem foldl_redactPass_separator {markers : List String} (hmarkers : ∀ m ∈ markers,
    IsMarkerText m.toList) {before after : List Char} {c : Char} (hend : endsValue c = true) :
    markers.foldl (fun chars marker => redactPass marker.toList chars) (before ++ c :: after) =
      markers.foldl (fun chars marker => redactPass marker.toList chars) before ++
        c :: markers.foldl (fun chars marker => redactPass marker.toList chars) after := by
  induction markers generalizing before after with
  | nil => rfl
  | cons marker markers ih =>
      simp only [List.foldl_cons]
      rw [redactPass_separator (hmarkers marker List.mem_cons_self) hend]
      exact ih fun m hm => hmarkers m (List.mem_cons_of_mem _ hm)

/-- **A text is redacted between its separators.** -/
theorem redactChars_separator {before after : List Char} {c : Char} (hend : endsValue c = true) :
    redactChars (before ++ c :: after) = redactChars before ++ c :: redactChars after :=
  foldl_redactPass_separator (fun _ hm => secretMarkers_text hm) hend

/-! ### Between two separators -/

theorem cutAfter_cons (marker : List Char) (c : Char) (chars : List Char) :
    cutAfter marker (c :: chars) =
      if marker.isPrefixOf ((c :: chars).map Char.toLower) then
        some ((c :: chars).take marker.length)
      else (cutAfter marker chars).map (c :: ·) := rfl

theorem cutAfter_marked {marker chars head : List Char} (h : cutAfter marker chars = some head) :
    head <+: chars := by
  induction chars generalizing head with
  | nil => cases h
  | cons c chars ih =>
      unfold cutAfter at h
      split at h
      · cases h
        exact List.take_prefix _ _
      · obtain ⟨rest, hrest, rfl⟩ := Option.map_eq_some_iff.mp h
        exact List.cons_prefix_cons.mpr ⟨rfl, ih hrest⟩

/-- A text without separators has nothing left behind its first marker. -/
theorem redactPass_segment {marker : List Char} (hmarker : IsMarkerText marker)
    {chars : List Char} (hplain : ∀ c ∈ chars, endsValue c = false) :
    redactPass marker chars = redactSegment marker chars := by
  induction chars with
  | nil => rfl
  | cons c chars ih =>
      have hrest := ih fun d hd => hplain d (List.mem_cons_of_mem _ hd)
      rw [redactPass_cons hmarker.ne_nil]
      unfold redactSegment
      rw [cutAfter_cons]
      split
      next hmatch =>
        have hdropped :
            (((c :: chars).drop marker.length).dropWhile fun c => !endsValue c) = [] := by
          refine List.dropWhile_eq_nil_iff.mpr fun d hd => ?_
          rw [hplain d (List.mem_of_mem_drop hd)]
          rfl
        have hnil : redactPass marker [] = [] := rfl
        rw [hdropped, hnil, List.append_nil]
      next hother =>
        rw [hrest]
        unfold redactSegment
        cases cutAfter marker chars with
        | none => rfl
        | some head => rfl

theorem redactSegment_plain {marker chars : List Char}
    (hplain : ∀ c ∈ chars, endsValue c = false) :
    ∀ c ∈ redactSegment marker chars, endsValue c = false := by
  have hredacted : ∀ c ∈ "[REDACTED]".toList, endsValue c = false := by
    intro c hc
    have hall : ("[REDACTED]".toList.all fun c => !endsValue c) = true := by decide +kernel
    have hplain := List.all_eq_true.mp hall c hc
    rwa [Bool.not_eq_true'] at hplain
  unfold redactSegment
  cases hcut : cutAfter marker chars with
  | none => exact hplain
  | some head =>
      intro c hc
      rcases List.mem_append.mp hc with hhead | hmark
      · exact hplain c ((cutAfter_marked hcut).subset hhead)
      · exact hredacted c hmark

/-- No marker reaches across the end of another: the first one is in what ends with an equals sign,
or it is behind that. -/
theorem cutAfter_append {marker : List Char} (hmarker : IsMarkerText marker)
    (body rest : List Char) :
    cutAfter marker (body ++ '=' :: rest) =
      (cutAfter marker (body ++ ['='])).or
        ((cutAfter marker rest).map (body ++ '=' :: ·)) := by
  have hprefix : ∀ chars : List Char,
      marker.isPrefixOf ((chars ++ '=' :: rest).map Char.toLower) =
        marker.isPrefixOf ((chars ++ ['=']).map Char.toLower) := by
    intro chars
    have hlower : Char.toLower '=' = '=' := by decide
    obtain ⟨name, hname, hnot⟩ := hmarker.ends
    rw [Bool.eq_iff_iff, List.isPrefixOf_iff_prefix, List.isPrefixOf_iff_prefix, List.map_append,
      List.map_append, List.map_cons, List.map_cons, List.map_nil, hlower, hname]
    exact prefix_append_last_iff hnot
  have htake : ∀ chars : List Char,
      marker.isPrefixOf ((chars ++ ['=']).map Char.toLower) = true →
        (chars ++ '=' :: rest).take marker.length = (chars ++ ['=']).take marker.length := by
    intro chars hmatch
    have hle : marker.length ≤ (chars ++ ['=']).length := by
      have hlen := (List.isPrefixOf_iff_prefix.mp hmatch).length_le
      rwa [List.length_map] at hlen
    have hsplit : chars ++ '=' :: rest = (chars ++ ['=']) ++ rest := by simp
    rw [hsplit, List.take_append_of_le_length hle]
  induction body with
  | nil =>
      have hnil := hprefix []
      have hown := htake []
      rw [List.nil_append, List.nil_append] at hnil hown ⊢
      rw [cutAfter_cons, cutAfter_cons, hnil]
      split
      next hmatch => rw [hown hmatch, Option.some_or]
      · rfl
  | cons c body ih =>
      have hcons := hprefix (c :: body)
      have hown := htake (c :: body)
      rw [List.cons_append, List.cons_append] at hcons hown ⊢
      rw [cutAfter_cons, cutAfter_cons, hcons]
      split
      next hmatch => rw [hown hmatch, Option.some_or]
      · rw [ih]
        cases cutAfter marker (body ++ ['=']) with
        | some head => rfl
        | none =>
            simp only [Option.none_or, Option.map_none, Option.map_map]
            rfl

/-- A marker is found behind whatever stands before it. -/
theorem cutAfter_isSome {text : List Char} (htext : text ≠ []) (before : List Char)
    {marker : List Char} (hmarker : marker.map Char.toLower = text) :
    (cutAfter text (before ++ marker)).isSome := by
  induction before with
  | nil =>
      cases marker with
      | nil => exact absurd hmarker.symm htext
      | cons c marker =>
          have hown : text <+: (c :: marker).map Char.toLower :=
            ⟨[], by rw [List.append_nil, hmarker]⟩
          rw [List.nil_append, cutAfter_cons, if_pos (List.isPrefixOf_iff_prefix.mpr hown)]
          rfl
  | cons c before ih =>
      rw [List.cons_append, cutAfter_cons]
      split
      · rfl
      · rw [Option.isSome_map]
        exact ih

/-- The passes end at the same text, whatever follows a marker that is among theirs. -/
theorem foldl_redactPass_unquoted {markers : List String}
    (hmarkers : ∀ m ∈ markers, IsMarkerText m.toList) {text : String} (htext : text ∈ markers)
    {before marker : List Char} (hlower : marker.map Char.toLower = text.toList)
    {secret secret' : List Char}
    (hplain : ∀ c ∈ before ++ marker ++ secret, endsValue c = false)
    (hplain' : ∀ c ∈ before ++ marker ++ secret', endsValue c = false) :
    markers.foldl (fun chars marker => redactPass marker.toList chars)
        (before ++ marker ++ secret) =
      markers.foldl (fun chars marker => redactPass marker.toList chars)
        (before ++ marker ++ secret') := by
  obtain ⟨body, hbody⟩ : ∃ body, before ++ marker = body ++ ['='] := by
    obtain ⟨name, hname, -⟩ := (hmarkers text htext).ends
    rw [hname] at hlower
    obtain ⟨front, last, rfl, -, hlast⟩ := List.map_eq_append_iff.mp hlower
    obtain ⟨c, rfl, hc⟩ : ∃ c, last = [c] ∧ c.toLower = '=' := by
      cases last with
      | nil => simp at hlast
      | cons c rest => simpa [and_comm] using hlast
    have heq : c = '=' := eq_of_toLower_eq hc
    exact ⟨before ++ front, by rw [heq, List.append_assoc]⟩
  induction markers generalizing secret secret' with
  | nil => cases htext
  | cons m markers ih =>
      have hm := hmarkers m List.mem_cons_self
      simp only [List.foldl_cons]
      rw [redactPass_segment hm hplain, redactPass_segment hm hplain']
      have hcut : ∀ rest, cutAfter m.toList (before ++ marker ++ rest) =
          (cutAfter m.toList (before ++ marker)).or
            ((cutAfter m.toList rest).map (before ++ marker ++ ·)) := by
        intro rest
        have happend := cutAfter_append hm body rest
        have hsplit : ∀ rest, body ++ '=' :: rest = before ++ marker ++ rest := by
          intro rest
          rw [hbody]
          simp
        rw [hsplit, ← hbody] at happend
        simpa only [hsplit] using happend
      cases hfound : cutAfter m.toList (before ++ marker) with
      | some head =>
          -- the first marker is before the secret, which goes with what follows
          unfold redactSegment
          rw [hcut, hcut, hfound]
          rfl
      | none =>
          have hne : text ≠ m := by
            rintro rfl
            have hsome := cutAfter_isSome hm.ne_nil before hlower
            rw [hfound] at hsome
            cases hsome
          have hsegment : ∀ rest, redactSegment m.toList (before ++ marker ++ rest) =
              before ++ marker ++ redactSegment m.toList rest := by
            intro rest
            unfold redactSegment
            rw [hcut, hfound, Option.none_or]
            cases cutAfter m.toList rest with
            | none => rfl
            | some head => simp
          have hkept := @redactSegment_plain m.toList _ hplain
          have hkept' := @redactSegment_plain m.toList _ hplain'
          rw [hsegment] at hkept hkept' ⊢
          rw [hsegment]
          exact ih (fun m hm => hmarkers m (List.mem_cons_of_mem _ hm))
            ((List.mem_cons.mp htext).resolve_left hne) hkept hkept'

/-- **An unquoted secret does not show**: it goes up to the separator. -/
theorem redactChars_unquoted {before marker secret secret' : List Char} (hmarker : IsMarker marker)
    (hbefore : ∀ c ∈ before, endsValue c = false) (hsecret : ∀ c ∈ secret, endsValue c = false)
    (hsecret' : ∀ c ∈ secret', endsValue c = false) :
    redactChars (before ++ marker ++ secret) = redactChars (before ++ marker ++ secret') := by
  obtain ⟨text, htext, hlower⟩ := id hmarker
  have hplain : ∀ rest : List Char, (∀ c ∈ rest, endsValue c = false) →
      ∀ c ∈ before ++ marker ++ rest, endsValue c = false := by
    intro rest hrest c hc
    rcases List.mem_append.mp hc with hc | hc
    · rcases List.mem_append.mp hc with hc | hc
      · exact hbefore c hc
      · exact hmarker.plain c hc
    · exact hrest c hc
  exact foldl_redactPass_unquoted (fun m hm => secretMarkers_text hm) htext hlower
    (hplain secret hsecret) (hplain secret' hsecret')

/-! ### Texts -/

/-- A text without quoted secrets is redacted like any other that differs in secrets only; what
stands before, up to the last separator, is carried along. -/
theorem SameButSecrets.redactChars_eq {a b : List Char} (h : SameButSecrets a b)
    (hquoted : ¬ HasQuotedSecret a) {before : List Char}
    (hbefore : ∀ c ∈ before, endsValue c = false) :
    redactChars (before ++ a) = redactChars (before ++ b) := by
  have hsuffix : ∀ front {rest : List Char}, HasQuotedSecret rest →
      HasQuotedSecret (front ++ rest) := by
    rintro front rest ⟨before, marker, quote, secret, after, hmarker, hquote, hsecret, rfl⟩
    exact ⟨front ++ before, marker, quote, secret, after, hmarker, hquote, hsecret, by simp⟩
  induction h generalizing before with
  | nil => rfl
  | @cons c a b _ ih =>
      have hrest : ¬ HasQuotedSecret a := fun hq => hquoted (hsuffix [c] hq)
      cases hend : endsValue c with
      | true =>
          rw [redactChars_separator hend, redactChars_separator hend]
          have hih := @ih hrest [] (by simp)
          rw [List.nil_append, List.nil_append] at hih
          rw [hih]
      | false =>
          have hih := @ih hrest (before ++ [c]) (by
            intro d hd
            rcases List.mem_append.mp hd with hd | hd
            · exact hbefore d hd
            · rw [List.mem_singleton.mp hd]
              exact hend)
          simpa using hih
  | @unquoted marker secret secret' a b c hmarker hsecret hsecret' hend _ ih =>
      have hrest : ¬ HasQuotedSecret a := by
        intro hq
        refine hquoted ?_
        have hfront := hsuffix (marker ++ secret ++ [c]) hq
        simpa using hfront
      have hih := @ih hrest [] (by simp)
      rw [List.nil_append, List.nil_append] at hih
      have hsame := redactChars_unquoted hmarker hbefore hsecret hsecret'
      have hsplit : ∀ secret rest : List Char, before ++ (marker ++ secret ++ c :: rest) =
          (before ++ marker ++ secret) ++ c :: rest := by
        intro secret rest
        simp
      rw [hsplit, hsplit, redactChars_separator hend, redactChars_separator hend, hsame, hih]
  | @unquotedEnd marker secret secret' hmarker hsecret hsecret' =>
      have hsame := redactChars_unquoted hmarker hbefore hsecret hsecret'
      simpa using hsame
  | @quoted marker secret secret' a b quote hmarker hquote hsecret hsecret' _ _ =>
      exact absurd ⟨[], marker, quote, secret, a, hmarker, hquote, hsecret, rfl⟩ hquoted

/-- A quoted secret is redacted like a text of its own. -/
theorem redactChars_quoted {before marker secret after : List Char} {quote : Char}
    (hquote : isQuote quote = true) :
    redactChars (before ++ (marker ++ quote :: secret ++ quote :: after)) =
      redactChars (before ++ marker) ++ quote :: (redactChars secret ++ quote ::
        redactChars after) := by
  have hend : endsValue quote = true := by
    unfold isQuote at hquote
    unfold endsValue
    simp only [Bool.or_eq_true] at hquote ⊢
    tauto
  have hsplit : before ++ (marker ++ quote :: secret ++ quote :: after) =
      (before ++ marker) ++ quote :: (secret ++ quote :: after) := by
    simp
  rw [hsplit, redactChars_separator hend, redactChars_separator hend]

/-- A quoted secret shows: another one in its place is redacted to another text. -/
theorem exists_redactChars_ne {chars : List Char} (h : HasQuotedSecret chars) :
    ∃ other, SameButSecrets chars other ∧ redactChars chars ≠ redactChars other := by
  obtain ⟨before, marker, quote, secret, after, hmarker, hquote, hsecret, rfl⟩ := h
  have hother : ∀ secret', quote ∉ secret' → redactChars secret ≠ redactChars secret' →
      ∃ other, SameButSecrets (before ++ (marker ++ quote :: secret ++ quote :: after)) other ∧
        redactChars (before ++ (marker ++ quote :: secret ++ quote :: after)) ≠
          redactChars other := by
    intro secret' hsecret' hne
    refine ⟨_, .append before (.quoted hmarker hquote hsecret hsecret' (.refl after)), ?_⟩
    rw [redactChars_quoted hquote, redactChars_quoted hquote]
    intro heq
    have hinner := (List.cons.inj (List.append_cancel_left heq)).2
    exact hne (List.append_cancel_right hinner)
  have hx : redactChars ['x'] = ['x'] := by decide +kernel
  by_cases hempty : redactChars secret = []
  · refine hother ['x'] ?_ ?_
    · intro hmem
      rw [List.mem_singleton.mp hmem] at hquote
      cases hquote
    · rw [hempty, hx]
      exact fun hcons => List.cons_ne_nil _ _ hcons.symm
  · exact hother [] (List.not_mem_nil) hempty

/-- A text hides its secrets exactly when none is quoted. -/
theorem redactString_hides_iff (text : String) :
    (∀ other : String, SameButSecrets text.toList other.toList →
        redactString text = redactString other) ↔ ¬ HasQuotedSecret text.toList := by
  constructor
  · intro hhides hquoted
    obtain ⟨other, hsame, hne⟩ := exists_redactChars_ne hquoted
    have heq := hhides (String.ofList other) (by rwa [String.toList_ofList])
    rw [redactString_eq, redactString_eq, String.toList_ofList] at heq
    exact hne (String.ofList_injective heq)
  · intro hquoted other hsame
    have heq := @SameButSecrets.redactChars_eq _ _ hsame hquoted [] (by simp)
    rw [redactString_eq, redactString_eq]
    exact congrArg String.ofList heq

/-! ### Documents -/

namespace Json

mutual

/-- Two documents that differ in the values of secret keys and in the secrets of texts only. -/
def SameButSecrets : Json → Json → Prop
  | .str a, .str b => Beampipe.SameButSecrets a.toList b.toList
  | .arr xs, .arr ys => SameItems xs ys
  | .obj xs, .obj ys => SameFields xs ys
  | a, b => a = b

/-- Two arrays that differ in secrets only. -/
def SameItems : List Json → List Json → Prop
  | [], [] => True
  | x :: xs, y :: ys => SameButSecrets x y ∧ SameItems xs ys
  | _, _ => False

/-- Two objects that differ in secrets only. -/
def SameFields : List (String × Json) → List (String × Json) → Prop
  | [], [] => True
  | (k, x) :: xs, (l, y) :: ys => k = l ∧ (isSecretKey k ∨ SameButSecrets x y) ∧ SameFields xs ys
  | _, _ => False

end

/-- A text of the document, not under a secret key, has a quoted secret. -/
inductive HasQuotedSecret : Json → Prop where
  | str {s : String} (h : Beampipe.HasQuotedSecret s.toList) : HasQuotedSecret (.str s)
  | arr {items : List Json} {item : Json} (hitem : item ∈ items) (h : HasQuotedSecret item) :
      HasQuotedSecret (.arr items)
  | obj {fields : List (String × Json)} {field : String × Json} (hfield : field ∈ fields)
      (hkey : isSecretKey field.1 = false) (h : HasQuotedSecret field.2) :
      HasQuotedSecret (.obj fields)

theorem SameButSecrets.refl (v : Json) : SameButSecrets v v := by
  induction v using ind with
  | harr items ih =>
      induction items with
      | nil => trivial
      | cons item items ih' =>
          exact ⟨ih item List.mem_cons_self,
            ih' fun other hother => ih other (List.mem_cons_of_mem _ hother)⟩
  | hobj fields ih =>
      induction fields with
      | nil => trivial
      | cons field fields ih' =>
          exact ⟨rfl, .inr (ih field List.mem_cons_self),
            ih' fun other hother => ih other (List.mem_cons_of_mem _ hother)⟩
  | hstr s => exact Beampipe.SameButSecrets.refl s.toList
  | _ => rfl

/-- A document without quoted secrets is redacted like any other that differs in secrets only. -/
theorem SameButSecrets.redactValue_eq {v w : Json} (h : SameButSecrets v w)
    (hquoted : ¬ HasQuotedSecret v) : redactValue v = redactValue w := by
  induction v using ind generalizing w with
  | harr items ih =>
      cases w with
      | arr others =>
          rw [redactValue, redactValue]
          congr 1
          have hitems : ∀ item ∈ items, ¬ HasQuotedSecret item :=
            fun item hitem hq => hquoted (.arr hitem hq)
          clear hquoted
          replace h : SameItems items others := h
          induction items generalizing others with
          | nil =>
              cases others with
              | nil => rfl
              | cons other others => exact h.elim
          | cons item items ih' =>
              cases others with
              | nil => exact h.elim
              | cons other others =>
                  rw [redactItems, redactItems,
                    ih item List.mem_cons_self h.1 (hitems item List.mem_cons_self),
                    ih' (fun v hv => ih v (List.mem_cons_of_mem _ hv)) others
                      (fun v hv => hitems v (List.mem_cons_of_mem _ hv)) h.2]
      | _ => cases h
  | hobj fields ih =>
      cases w with
      | obj others =>
          rw [redactValue, redactValue]
          congr 1
          have hfields : ∀ field ∈ fields, isSecretKey field.1 = false →
              ¬ HasQuotedSecret field.2 :=
            fun field hfield hkey hq => hquoted (.obj hfield hkey hq)
          clear hquoted
          replace h : SameFields fields others := h
          induction fields generalizing others with
          | nil =>
              cases others with
              | nil => rfl
              | cons other others => exact h.elim
          | cons field fields ih' =>
              cases others with
              | nil => exact h.elim
              | cons other others =>
                  obtain ⟨key, value⟩ := field
                  obtain ⟨key', value'⟩ := other
                  obtain ⟨rfl, hvalue, hrest⟩ := h
                  rw [redactFields, redactFields,
                    ih' (fun v hv => ih v (List.mem_cons_of_mem _ hv)) others
                      (fun v hv => hfields v (List.mem_cons_of_mem _ hv)) hrest]
                  cases hkey : isSecretKey key with
                  | true => rfl
                  | false =>
                      rw [hkey] at hvalue
                      rw [ih _ List.mem_cons_self (hvalue.resolve_left Bool.false_ne_true)
                        (hfields _ List.mem_cons_self hkey)]
      | _ => cases h
  | hstr s =>
      cases w with
      | str other =>
          have hstring : ¬ Beampipe.HasQuotedSecret s.toList := fun hq => hquoted (.str hq)
          rw [redactValue, redactValue, (redactString_hides_iff s).mpr hstring other h]
      | _ => cases h
  | hnull =>
      cases w <;> cases h
      rfl
  | hbool b =>
      cases w <;> cases h
      rfl
  | hnum n =>
      cases w <;> cases h
      rfl

theorem SameItems.replace {x y : Json} (before after : List Json) (h : SameButSecrets x y) :
    SameItems (before ++ x :: after) (before ++ y :: after) := by
  induction before with
  | nil => exact ⟨h, SameButSecrets.refl (.arr after)⟩
  | cons item before ih => exact ⟨.refl item, ih⟩

theorem SameFields.replace {x y : Json} (before after : List (String × Json)) (key : String)
    (h : SameButSecrets x y) :
    SameFields (before ++ (key, x) :: after) (before ++ (key, y) :: after) := by
  induction before with
  | nil => exact ⟨rfl, .inr h, SameButSecrets.refl (.obj after)⟩
  | cons field before ih => exact ⟨rfl, .inr (.refl field.2), ih⟩

theorem redactItems_eq (items : List Json) : redactItems items = items.map redactValue := by
  induction items with
  | nil => rfl
  | cons item items ih => rw [redactItems, ih, List.map_cons]

theorem redactFields_eq (fields : List (String × Json)) :
    redactFields fields = fields.map fun field =>
      (field.1, if isSecretKey field.1 then .str "[REDACTED]" else redactValue field.2) := by
  induction fields with
  | nil => rfl
  | cons field fields ih => rw [redactFields, ih, List.map_cons]

/-- A quoted secret in a document shows. -/
theorem HasQuotedSecret.exists_ne {v : Json} (h : HasQuotedSecret v) :
    ∃ w, SameButSecrets v w ∧ redactValue v ≠ redactValue w := by
  induction h with
  | @str s hs =>
      obtain ⟨other, hsame, hne⟩ := exists_redactChars_ne hs
      refine ⟨.str (String.ofList other), ?_, fun heq => ?_⟩
      · show Beampipe.SameButSecrets s.toList (String.ofList other).toList
        rwa [String.toList_ofList]
      · rw [redactValue, redactValue, Json.str.injEq, redactString_eq, redactString_eq,
          String.toList_ofList] at heq
        exact hne (String.ofList_injective heq)
  | @arr items item hitem _ ih =>
      obtain ⟨other, hsame, hne⟩ := ih
      obtain ⟨before, after, rfl⟩ := List.append_of_mem hitem
      refine ⟨.arr (before ++ other :: after), SameItems.replace before after hsame,
        fun heq => hne ?_⟩
      simp only [redactValue, Json.arr.injEq, redactItems_eq, List.map_append, List.map_cons]
        at heq
      exact (List.cons.inj (List.append_cancel_left heq)).1
  | @obj fields field hfield hkey _ ih =>
      obtain ⟨other, hsame, hne⟩ := ih
      obtain ⟨before, after, rfl⟩ := List.append_of_mem hfield
      refine ⟨.obj (before ++ (field.1, other) :: after),
        SameFields.replace before after field.1 hsame, fun heq => hne ?_⟩
      simp only [redactValue, Json.obj.injEq, redactFields_eq, List.map_append, List.map_cons,
        hkey] at heq
      exact (Prod.mk.inj (List.cons.inj (List.append_cancel_left heq)).1).2

end Json

/-- The value of a secret key, and an unquoted one behind a marker in any case, are hidden. -/
example : redactValue (.obj [("Api_Token", .str "abc"), ("url", .str "x?Access_Token=abc&ok=1")]) =
    .obj [("Api_Token", .str "[REDACTED]"), ("url", .str "x?Access_Token=[REDACTED]&ok=1")] := by
  decide +kernel

end Beampipe
