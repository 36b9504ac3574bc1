/-
The excerpts that merges cut out of remote texts.

A raw line or an error is trimmed and, if it is longer than 512 bytes, cut after 512 bytes and
marked by an ellipsis.  The cut is a slice by bytes: it has a value only where it does not go
through a character, and the merge panics otherwise.  Everything else that a merge does has a value
for every manifest and every payload.

Main definitions:

* `Beampipe.Cuttable` — a text whose excerpt has a value;
* `Beampipe.IsExcerpt` — what an excerpt may be;
* `Beampipe.Merge.cutText`, `Beampipe.Merge.excerpts` — the text that a merge cuts, and what it
  stores of it.

Main results:

* `Beampipe.takeBytes_eq_some_iff` — a slice has a value exactly at a character boundary;
* `Beampipe.apply_isSome_iff` — a merge returns exactly when the text that it cuts can be cut;
* `Beampipe.merge_safe_iff` — **it then stores the trimmed text or a marked prefix of it.**
-/

import Beampipe.RecordMerges
import Mathlib.Algebra.GroupWithZero.Nat

set_option relaxedAutoImplicit false
set_option autoImplicit false

namespace Beampipe

/-! ### Cutting -/

theorem utf8ByteSize_ofList (chars : List Char) :
    (String.ofList chars).utf8ByteSize = (chars.map Char.utf8Size).sum := by
  induction chars with
  | nil => rfl
  | cons c chars ih => rw [utf8ByteSize_ofList_cons, ih, List.map_cons, List.sum_cons]

/-- A text has no bytes only if it has no characters. -/
theorem utf8ByteSize_ofList_eq_zero {chars : List Char} :
    (String.ofList chars).utf8ByteSize = 0 ↔ chars = [] := by
  cases chars with
  | nil => simp
  | cons c chars =>
      rw [utf8ByteSize_ofList_cons]
      have hpos := c.utf8Size_pos
      simp only [reduceCtorEq, iff_false]
      omega

/-- **A slice has a value exactly at a character boundary.** -/
theorem takeBytes_eq_some_iff {n : ℕ} {chars kept : List Char} :
    takeBytes n chars = some kept ↔ kept <+: chars ∧ (String.ofList kept).utf8ByteSize = n := by
  induction n, chars using takeBytes.induct generalizing kept with
  | case1 chars =>
      rw [takeBytes, utf8ByteSize_ofList_eq_zero]
      constructor
      · intro h
        cases h
        exact ⟨List.nil_prefix, rfl⟩
      · rintro ⟨-, rfl⟩
        rfl
  | case2 n =>
      rw [takeBytes]
      constructor
      · intro h
        cases h
      · rintro ⟨hpre, hsize⟩
        rw [List.prefix_nil.1 hpre] at hsize
        simp at hsize
  | case3 n c rest hfits ih =>
      rw [takeBytes, if_pos hfits, Option.map_eq_some_iff]
      constructor
      · rintro ⟨tail, htail, rfl⟩
        obtain ⟨hpre, hsize⟩ := ih.1 htail
        refine ⟨List.cons_prefix_cons.2 ⟨rfl, hpre⟩, ?_⟩
        rw [utf8ByteSize_ofList_cons]
        omega
      · rintro ⟨hpre, hsize⟩
        cases kept with
        | nil => simp at hsize
        | cons d tail =>
            obtain ⟨rfl, htail⟩ := List.cons_prefix_cons.1 hpre
            rw [utf8ByteSize_ofList_cons] at hsize
            exact ⟨tail, ih.2 ⟨htail, by omega⟩, rfl⟩
  | case4 n c rest hcrosses =>
      rw [takeBytes, if_neg hcrosses]
      constructor
      · intro h
        cases h
      · rintro ⟨hpre, hsize⟩
        cases kept with
        | nil => simp at hsize
        | cons d tail =>
            obtain ⟨rfl, -⟩ := List.cons_prefix_cons.1 hpre
            rw [utf8ByteSize_ofList_cons] at hsize
            omega

/-- The excerpt of a text has a value: the trimmed text has at most 512 bytes, or byte 512 begins a
character of it. -/
def Cuttable (text : String) : Prop :=
  (trim text).utf8ByteSize ≤ rawLineMax ∨
    ∃ head rest : String, trim text = head ++ rest ∧ head.utf8ByteSize = rawLineMax

/-- An excerpt is the trimmed text, or a prefix of it of at most 512 bytes and an ellipsis. -/
def IsExcerpt (text stored : String) : Prop :=
  stored = trim text ∨
    ∃ head rest : String, trim text = head ++ rest ∧ head.utf8ByteSize ≤ rawLineMax ∧
      stored = head ++ "..."

/-- The slice of a text at a byte. -/
theorem exists_takeBytes_iff {n : ℕ} {text : String} :
    (∃ kept, takeBytes n text.toList = some kept) ↔
      ∃ head rest : String, text = head ++ rest ∧ head.utf8ByteSize = n := by
  constructor
  · rintro ⟨kept, hkept⟩
    obtain ⟨⟨rest, hrest⟩, hsize⟩ := takeBytes_eq_some_iff.1 hkept
    refine ⟨String.ofList kept, String.ofList rest, ?_, hsize⟩
    rw [← String.ofList_append, hrest, String.ofList_toList]
  · rintro ⟨head, rest, rfl, hsize⟩
    refine ⟨head.toList, takeBytes_eq_some_iff.2 ⟨?_, ?_⟩⟩
    · rw [String.toList_append]
      exact List.prefix_append _ _
    · rw [String.ofList_toList, hsize]

/-- **What is made of a text that can be cut**; nothing is made of a blank one. -/
theorem trimRaw_of_cuttable {text : String} (h : Cuttable text) :
    ∃ stored, trimRaw (some text) = some stored ∧ IsExcerpt text (stored.getD "") := by
  simp only [trimRaw]
  split
  next hempty => exact ⟨none, rfl, .inl (String.isEmpty_iff.1 hempty).symm⟩
  next =>
    split
    next hshort => exact ⟨_, rfl, .inl rfl⟩
    next hlong =>
      obtain ⟨kept, hkept⟩ := exists_takeBytes_iff.2 (h.resolve_left hlong)
      obtain ⟨⟨rest, hrest⟩, hsize⟩ := takeBytes_eq_some_iff.1 hkept
      refine ⟨_, by rw [hkept]; rfl, .inr ⟨String.ofList kept, String.ofList rest, ?_,
        Nat.le_of_eq hsize, rfl⟩⟩
      rw [← String.ofList_append, hrest, String.ofList_toList]

/-- A text that cannot be cut stops the function. -/
theorem trimRaw_of_not_cuttable {text : String} (h : ¬ Cuttable text) :
    trimRaw (some text) = none := by
  unfold Cuttable at h
  rw [not_or, ← exists_takeBytes_iff] at h
  simp only [trimRaw]
  rw [if_neg, if_neg h.1]
  · cases htake : takeBytes rawLineMax (trim text).toList with
    | none => rfl
    | some kept => exact absurd ⟨kept, htake⟩ h.2
  · intro hempty
    rw [String.isEmpty_iff] at hempty
    rw [hempty] at h
    exact h.1 (by decide)

theorem trimRaw_isSome_iff {raw : Option String} :
    (∃ stored, trimRaw raw = some stored) ↔ ∀ text ∈ raw, Cuttable text := by
  cases raw with
  | none =>
      constructor
      · intro _ text htext
        cases htext
      · intro _
        exact ⟨none, rfl⟩
  | some text =>
      constructor
      · rintro ⟨stored, hstored⟩ other hother
        cases hother
        by_contra hcut
        rw [trimRaw_of_not_cuttable hcut] at hstored
        cases hstored
      · intro h
        obtain ⟨stored, hstored, -⟩ := trimRaw_of_cuttable (h text rfl)
        exact ⟨stored, hstored⟩

/-! ### The merges -/

/-- A terminal DIM poll keeps the terminal section that is there. -/
def keepsDimTerminal (sessionId : String) (existing : Option Json) : Bool :=
  (frozenTerminal "session_id" sessionId
    (Json.lookupField "terminal" (sectionFields "dim" existing))).isSome

/-- The text that a merge cuts, if it cuts one. -/
def Merge.cutText (existing : Option Json) : Merge → Option String
  | .schedulerTimeout error => some error
  | .slurmPoll _ _ _ _ rawLine _ _ _ => rawLine
  | .dimPoll sessionId _ recordTerminal _ error _ =>
      if recordTerminal && !keepsDimTerminal sessionId existing then error else none
  | _ => none

/-- A member of a member of a section. -/
def sectionMember (name member key : String) (manifest : Option Json) : Option Json :=
  (Json.lookupField member (sectionFields name manifest)).bind (Json.get key)

/-- The excerpts that a merge has stored. -/
def Merge.excerpts (existing : Option Json) (written : Json) : Merge → List Json
  | .schedulerTimeout _ =>
      (sectionMember "scheduler" "slurm_completion" "error" (some written)).toList
  | .slurmPoll job _ _ _ _ recordTerminal _ _ =>
      (sectionMember "slurm" "last_observation" "raw" (some written)).toList ++
        if recordTerminal && (frozenTerminal "composite_scheduler_job_id"
            (pinnedCompositeJobId (sectionFields "slurm" existing) job)
            (Json.lookupField "terminal" (sectionFields "slurm" existing))).isNone then
          (sectionMember "slurm" "terminal" "raw" (some written)).toList
        else []
  | .dimPoll sessionId _ recordTerminal _ _ _ =>
      if recordTerminal && !keepsDimTerminal sessionId existing then
        (sectionMember "dim" "terminal" "error" (some written)).toList
      else []
  | _ => []

theorem dimTerminal_of_kept {sessionId : String} {existing : Option Json}
    (h : keepsDimTerminal sessionId existing = true) (now sessionState : String)
    (error : Option String) (errorDropsCount : Option ℤ) :
    ∃ fields, dimTerminal now sessionId sessionState error errorDropsCount
      (sectionFields "dim" existing) = some fields := by
  obtain ⟨fields, hfields⟩ := Option.isSome_iff_exists.1 h
  exact ⟨fields, by rw [dimTerminal, hfields]⟩

theorem dimTerminal_of_not_kept {sessionId : String} {existing : Option Json}
    (h : keepsDimTerminal sessionId existing = false) (now sessionState : String)
    (error : Option String) (errorDropsCount : Option ℤ) :
    dimTerminal now sessionId sessionState error errorDropsCount (sectionFields "dim" existing) =
      (trimRaw error).map
        (newDimTerminal sessionId errorDropsCount (dimObservation now sessionState)) := by
  rw [keepsDimTerminal, Option.isSome_eq_false_iff, Option.isNone_iff_eq_none] at h
  rw [dimTerminal, h]

/-- A DIM poll returns exactly when the error that it writes can be cut. -/
theorem dimPolled_isSome_iff (now sessionId sessionState : String) (recordTerminal : Bool)
    (status error : Option String) (errorDropsCount : Option ℤ) (existing : Option Json) :
    (∃ polled, dimPolled now sessionId sessionState recordTerminal status error errorDropsCount
        (sectionFields "dim" existing) = some polled) ↔
      ∀ text ∈ (if recordTerminal && !keepsDimTerminal sessionId existing then error else none),
        Cuttable text := by
  simp only [dimPolled]
  cases recordTerminal with
  | false => simp
  | true =>
      cases hkept : keepsDimTerminal sessionId existing with
      | true =>
          obtain ⟨fields, hfields⟩ :=
            dimTerminal_of_kept hkept now sessionState error errorDropsCount
          simp [hfields]
      | false =>
          simp only [if_true, Bool.not_false, Bool.and_self, dimTerminal_of_not_kept hkept,
            Option.map_map]
          rw [← trimRaw_isSome_iff]
          constructor
          · rintro ⟨polled, hpolled⟩
            obtain ⟨stored, hstored, -⟩ := Option.map_eq_some_iff.1 hpolled
            exact ⟨stored, hstored⟩
          · rintro ⟨stored, hstored⟩
            rw [hstored]
            exact ⟨_, rfl⟩

/-- **A merge returns exactly when the text that it cuts can be cut.** -/
theorem apply_isSome_iff (now : String) (merge : Merge) (existing : Option Json) :
    (∃ written, merge.apply now existing = some written) ↔
      ∀ text ∈ merge.cutText existing, Cuttable text := by
  cases merge with
  | schedulerTimeout error =>
      rw [Merge.cutText, ← trimRaw_isSome_iff]
      simp only [Merge.apply, mergeSchedulerTimeoutIntoManifest, Option.map_eq_some_iff]
      constructor
      · rintro ⟨written, stored, hstored, -⟩
        exact ⟨stored, hstored⟩
      · rintro ⟨stored, hstored⟩
        exact ⟨_, stored, hstored, rfl⟩
  | slurmPoll job slurmJobId state source rawLine recordTerminal status opts =>
      rw [Merge.cutText, ← trimRaw_isSome_iff]
      simp only [Merge.apply, mergeSlurmPoll_eq, Option.map_eq_some_iff]
      constructor
      · rintro ⟨written, stored, hstored, -⟩
        exact ⟨stored, hstored⟩
      · rintro ⟨stored, hstored⟩
        exact ⟨_, stored, hstored, rfl⟩
  | dimPoll sessionId sessionState recordTerminal status error errorDropsCount =>
      rw [Merge.cutText,
        ← dimPolled_isSome_iff now sessionId sessionState _ status _ errorDropsCount]
      simp only [Merge.apply, mergeDimPoll_eq, tryUpdateSection_eq_some]
      constructor
      · rintro ⟨written, polled, hpolled, -⟩
        exact ⟨polled, hpolled⟩
      · rintro ⟨polled, hpolled⟩
        exact ⟨_, polled, hpolled, rfl⟩
  | _ => simp [Merge.apply, Merge.cutText]

/-! ### What is stored -/

theorem lookup_slurmObservation_raw (now state source : String) (exitCode : Option ℤ)
    (raw : Option String) :
    Json.lookupField "raw" (slurmObservation now state source exitCode raw) =
      raw.map Json.str := by
  rw [slurmObservation, lookup_insertSome, if_pos rfl, lookup_insertSome, if_neg (by decide)]
  simp [Json.lookupField]

theorem lookup_newSlurmTerminal_raw (composite slurmJobId : String) (opts : SlurmPollManifestOpts)
    (observation : Fields) :
    Json.lookupField "raw" (newSlurmTerminal composite slurmJobId opts observation) =
      Json.lookupField "raw" observation := by
  rw [newSlurmTerminal, lookup_insertSome, if_neg (by decide), lookup_insertSome,
    if_neg (by decide), Json.lookupField_insertField_ne (by decide),
    Json.lookupField_insertField_ne (by decide)]

theorem lookup_newDimTerminal_error (now sessionId sessionState : String)
    (errorDropsCount : Option ℤ) (excerpt : Option String) :
    Json.lookupField "error"
      (newDimTerminal sessionId errorDropsCount (dimObservation now sessionState) excerpt) =
      excerpt.map Json.str := by
  rw [newDimTerminal, lookup_insertSome, if_neg (by decide), lookup_insertSome, if_pos rfl,
    Json.lookupField_insertField_ne (by decide)]
  simp [dimObservation, Json.lookupField]

/-- An excerpt that is there is what was made of the text. -/
theorem isExcerpt_of_mem {text : String} {raw : Option String} {stored : Json}
    (hexcerpt : IsExcerpt text (raw.getD "")) (hstored : stored ∈ (raw.map Json.str).toList) :
    ∃ excerpt, stored = .str excerpt ∧ IsExcerpt text excerpt := by
  cases raw with
  | none => cases hstored
  | some excerpt => exact ⟨excerpt, by simpa using hstored, hexcerpt⟩

/-- **What a merge stores of the text that it cuts is an excerpt of it.** -/
theorem isExcerpt_of_apply {now : String} {merge : Merge} {existing : Option Json} {written : Json}
    (h : merge.apply now existing = some written) {text : String}
    (htext : text ∈ merge.cutText existing) {stored : Json}
    (hstored : stored ∈ merge.excerpts existing written) :
    ∃ excerpt, stored = .str excerpt ∧ IsExcerpt text excerpt := by
  obtain ⟨raw, hraw, hexcerpt⟩ := trimRaw_of_cuttable
    ((apply_isSome_iff now merge existing).1 ⟨written, h⟩ text htext)
  cases merge with
  | schedulerTimeout error =>
      cases htext
      simp only [Merge.apply, mergeSchedulerTimeoutIntoManifest, hraw, Option.map_some,
        Option.some.injEq] at h
      subst h
      simp only [Merge.excerpts, sectionMember, sectionFields_updateSection,
        Json.lookupField_insertField_self] at hstored
      exact ⟨raw.getD "", by simpa [Json.get, Json.lookupField] using hstored, hexcerpt⟩
  | slurmPoll job slurmJobId state source rawLine recordTerminal status opts =>
      cases htext
      simp only [Merge.apply, mergeSlurmPoll_eq, hraw, Option.map_some, Option.some.injEq] at h
      subst h
      simp only [Merge.excerpts, sectionMember, sectionFields_updateSection,
        lookup_slurmPolled_observation, lookup_slurmPolled_terminal, List.mem_append] at hstored
      rcases hstored with hobserved | hterminal
      · refine isExcerpt_of_mem hexcerpt ?_
        rw [← lookup_slurmObservation_raw now state source opts.exitCode raw]
        exact hobserved
      · split at hterminal
        next hnew =>
          obtain ⟨hrecord, hnone⟩ := (Bool.and_eq_true _ _).mp hnew
          refine isExcerpt_of_mem hexcerpt ?_
          rw [← lookup_slurmObservation_raw now state source opts.exitCode raw]
          rw [if_pos hrecord, slurmTerminal, Option.isNone_iff_eq_none.1 hnone] at hterminal
          simp only [Option.bind_some, Json.get] at hterminal
          rw [(ledgerAdded_withLedgerStatus status _).lookup (.inl (by decide)),
            lookup_newSlurmTerminal_raw] at hterminal
          exact hterminal
        next => cases hterminal
  | dimPoll sessionId sessionState recordTerminal status error errorDropsCount =>
      simp only [Merge.cutText, Merge.excerpts] at htext hstored
      split at htext
      next hnew =>
        cases htext
        rw [if_pos hnew] at hstored
        obtain ⟨hrecord, hkept⟩ := (Bool.and_eq_true _ _).mp hnew
        simp only [Merge.apply, mergeDimPoll_eq] at h
        obtain ⟨polled, hpolled, rfl⟩ := tryUpdateSection_eq_some.1 h
        simp only [sectionMember, sectionFields_updateSection,
          lookup_dimPolled_terminal hpolled] at hstored
        rw [if_pos hrecord, ← sectionFields, dimTerminal_of_not_kept (by simpa using hkept), hraw]
          at hstored
        refine isExcerpt_of_mem hexcerpt ?_
        rw [← lookup_newDimTerminal_error now sessionId sessionState errorDropsCount raw]
        simp only [Option.map_some, Option.bind_some, Json.get] at hstored
        rw [(ledgerAdded_withLedgerStatus status _).lookup (.inl (by decide))] at hstored
        exact hstored
      next => cases htext
  | _ => cases htext

/-- **A merge returns and stores the trimmed text or a marked prefix of it**, exactly when the text
that it cuts can be cut: the raw line of a Slurm poll, the error of a timeout, and the error of a
DIM poll that writes a new terminal section. -/
theorem merge_safe_iff (now : String) (merge : Merge) (existing : Option Json) :
    (∃ written, merge.apply now existing = some written ∧
      ∀ text ∈ merge.cutText existing, ∀ stored ∈ merge.excerpts existing written,
        ∃ excerpt, stored = .str excerpt ∧ IsExcerpt text excerpt) ↔
      ∀ text ∈ merge.cutText existing, Cuttable text := by
  rw [← apply_isSome_iff now]
  constructor
  · rintro ⟨written, hwritten, -⟩
    exact ⟨written, hwritten⟩
  · rintro ⟨written, hwritten⟩
    exact ⟨written, hwritten, fun text htext stored hstored =>
      isExcerpt_of_apply hwritten htext hstored⟩

/-- 511 letters, a character of two bytes and two more. -/
def crossedChars : List Char := List.replicate 511 'a' ++ ['é', '|', 'b']

/-- A raw line that byte 512 cuts inside a character. -/
def crossedLine : String := String.ofList crossedChars

theorem not_cuttable_crossedLine : ¬ Cuttable crossedLine := by
  have htrim : trim crossedLine = crossedLine := by
    have hchars : trimChars crossedChars = crossedChars := by decide +kernel
    rw [crossedLine, trim, String.toList_ofList, hchars]
  have htake : takeBytes rawLineMax crossedChars = none := by decide +kernel
  have hlong : ¬ (crossedChars.map Char.utf8Size).sum ≤ rawLineMax := by decide +kernel
  unfold Cuttable
  rw [htrim, not_or, ← exists_takeBytes_iff, crossedLine, String.toList_ofList, htake,
    utf8ByteSize_ofList]
  exact ⟨hlong, by simp⟩

/-- A poll with such a raw line panics. -/
theorem slurmPoll_crossed_panics :
    ¬ ∀ (now : String) (merge : Merge) (existing : Option Json),
      ∃ written, merge.apply now existing = some written ∧
        ∀ text ∈ merge.cutText existing, ∀ stored ∈ merge.excerpts existing written,
          ∃ excerpt, stored = .str excerpt ∧ IsExcerpt text excerpt := by
  intro h
  obtain ⟨written, hwritten, -⟩ := h "2026-08-22T03:23:43.555Z"
    (.slurmPoll "s:42" "42" "RUNNING" "squeue" (some crossedLine) false none {}) none
  have hpoll := mergeSlurmPoll_eq "2026-08-22T03:23:43.555Z" "s:42" "42" "RUNNING" "squeue"
    (some crossedLine) false none {} none
  rw [trimRaw_of_not_cuttable not_cuttable_crossedLine, Option.map_none] at hpoll
  rw [Merge.apply, hpoll] at hwritten
  cases hwritten

end Beampipe
