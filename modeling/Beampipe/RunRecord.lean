/-
The run record: what pollers and backends write into a workflow manifest.

The manifest of an execution is a JSON document of the project; under the key
`beampipe_run_record` it carries one section for each contributor.  A merge takes the manifest that
its caller has read, rewrites one section and returns the whole document, which the caller then
stores.  The clock of the caller is a parameter (`now`, the text of `now_iso_z`), and a merge that
would slice a string inside a character has no value: the function panics there.

Main definitions:

* `Beampipe.trimRaw` — the bounded excerpt of a raw observation;
* `Beampipe.updateSection`, `Beampipe.tryUpdateSection` — rewriting one section of the run record;
* `Beampipe.mergeSlurmSubmitIntoManifest`, `Beampipe.mergeSlurmPollIntoManifest`,
  `Beampipe.mergeDimDeployIntoManifest`, `Beampipe.mergeDimPollIntoManifest`,
  `Beampipe.mergeSchedulerTimeoutIntoManifest`, `Beampipe.mergeOutputVerificationIntoManifest` — the
  merges;
* `Beampipe.advanceSlurmPollProgress` — the round counter of the Slurm poller.

Main results:

* `Beampipe.section_updateSection_self`, `Beampipe.section_updateSection_of_ne` — a merge writes
  its own section and keeps the others.
-/

import Beampipe.Json
import Beampipe.Text

set_option relaxedAutoImplicit false
set_option autoImplicit false

namespace Beampipe

/-- The members of a JSON object. -/
abbrev Fields := List (String × Json)

/-! ### Excerpts -/

/-- The first `n` bytes of a text, if they end at a character boundary. -/
def takeBytes : ℕ → List Char → Option (List Char)
  | 0, _ => some []
  | _ + 1, [] => none
  | n + 1, c :: rest =>
      if c.utf8Size ≤ n + 1 then (takeBytes (n + 1 - c.utf8Size) rest).map (c :: ·) else none

/-- `RAW_LINE_MAX`. -/
def rawLineMax : ℕ := 512

/-- `trim_raw`; without a value where the slice is not at a character boundary. -/
def trimRaw (raw : Option String) : Option (Option String) :=
  match raw with
  | none => some none
  | some raw =>
      let text := trim raw
      if text.isEmpty then some none
      else if text.utf8ByteSize ≤ rawLineMax then some (some text)
      else (takeBytes rawLineMax text.toList).map fun chars => some (String.ofList chars ++ "...")

/-! ### Sections of the run record -/

/-- `BEAMPIPE_RUN_RECORD_KEY`. -/
def runRecordKey : String := "beampipe_run_record"

/-- `object`: the members of an object, none of anything else. -/
def object : Option Json → Fields
  | some (.obj fields) => fields
  | _ => []

/-- The run record of a manifest. -/
def runRecord (manifest : Option Json) : Fields :=
  object (Json.lookupField runRecordKey (object manifest))

/-- A section of the run record. -/
def runRecordSection (name : String) (manifest : Option Json) : Option Json :=
  Json.lookupField name (runRecord manifest)

/-- The manifest with the run record `record`. -/
def withRunRecord (existing : Option Json) (record : Fields) : Json :=
  .obj (Json.insertField runRecordKey (.obj record) (object existing))

/-- The manifest with one section of its run record rewritten. -/
def updateSection (existing : Option Json) (name : String) (f : Fields → Fields) : Json :=
  let record := runRecord existing
  withRunRecord existing
    (Json.insertField name (.obj (f (object (Json.lookupField name record)))) record)

@[simp] theorem runRecord_withRunRecord (existing : Option Json) (record : Fields) :
    runRecord (some (withRunRecord existing record)) = record := by
  simp [runRecord, withRunRecord, object, Json.lookupField_insertField_self]

/-- A merge writes its own section. -/
theorem section_updateSection_self (existing : Option Json) (name : String) (f : Fields → Fields) :
    runRecordSection name (some (updateSection existing name f)) =
      some (.obj (f (object (runRecordSection name existing)))) := by
  simp [runRecordSection, updateSection, Json.lookupField_insertField_self]

/-- A merge keeps the other sections. -/
theorem section_updateSection_of_ne {name other : String} (h : other ≠ name)
    (existing : Option Json) (f : Fields → Fields) :
    runRecordSection other (some (updateSection existing name f)) =
      runRecordSection other existing := by
  simp [runRecordSection, updateSection, Json.lookupField_insertField_ne h]

/-- The manifest with one section of its run record rewritten, unless the rewriting panics. -/
def tryUpdateSection (existing : Option Json) (name : String) (f : Fields → Option Fields) :
    Option Json :=
  (f (object (runRecordSection name existing))).map fun fields =>
    updateSection existing name fun _ => fields

/-- The member `key` bound to `value`, when there is one. -/
def insertSome (key : String) (value : Option Json) (fields : Fields) : Fields :=
  match value with
  | some value => Json.insertField key value fields
  | none => fields

theorem lookup_insertSome (key other : String) (value : Option Json) (out : List (String × Json)) :
    Json.lookupField other (insertSome key value out) =
      if other = key then value.or (Json.lookupField key out) else Json.lookupField other out := by
  by_cases hkey : other = key
  · rw [if_pos hkey, hkey]
    cases value with
    | none => rfl
    | some value => exact Json.lookupField_insertField_self key value out
  · rw [if_neg hkey]
    cases value with
    | none => rfl
    | some value => exact Json.lookupField_insertField_ne hkey value out

/-- A nullable text that is not blank, trimmed. -/
def trimmedJson (value : Option String) : Option Json :=
  (value.filter fun text => !isBlank text).map fun text => .str (trim text)

/-! ### The merges -/

/-- `merge_slurm_submit_into_manifest`. -/
def mergeSlurmSubmitIntoManifest (now : String) (existing : Option Json)
    (sessionId slurmJobId compositeSchedulerJobId : String) (loginNode remoteUser : Option String) :
    Json :=
  updateSection existing "slurm" fun slurm =>
    insertSome "remote_user" (trimmedJson remoteUser) <|
      insertSome "login_node" (trimmedJson loginNode) <|
        Json.insertField "submitted_at" (.str now) <|
          Json.insertField "composite_scheduler_job_id" (.str compositeSchedulerJobId) <|
            Json.insertField "slurm_job_id" (.str slurmJobId) <|
              Json.insertField "session_id" (.str sessionId) <|
                Json.removeField "observations" slurm

/-- `merge_scheduler_timeout_into_manifest`. -/
def mergeSchedulerTimeoutIntoManifest (now : String) (existing : Option Json) (error : String) :
    Option Json :=
  (trimRaw (some error)).map fun excerpt =>
    updateSection existing "scheduler" fun scheduler =>
      Json.insertField "slurm_completion"
        (.obj [("reason", .str "poll_timeout"), ("error", .str (excerpt.getD "")),
               ("observed_at", .str now)]) scheduler

/-- `SlurmPollManifestOpts`. -/
structure SlurmPollManifestOpts where
  exitCode : Option ℤ := none
  remoteSessionDir : Option String := none
  reason : Option String := none
  diagnostics : Option Json := none
  deriving DecidableEq, Repr

/-- The terminal section with the ledger status, which is written once. -/
def withLedgerStatus (terminalLedgerStatus : Option String) (term : Fields) : Fields :=
  match terminalLedgerStatus with
  | some status =>
      if (Json.lookupField "ledger_status" term).isSome then term
      else Json.insertField "ledger_status" (.str status) term
  | none => term

/-- The members of the terminal section, if it is one of `identity`. -/
def frozenTerminal (key identity : String) (terminal : Option Json) : Option Fields :=
  match terminal with
  | some (.obj fields) =>
      if (Json.lookupField key fields).bind Json.asStr = some identity then some fields else none
  | _ => none

/-- The composite job id a Slurm section already carries, or the one of the caller. -/
def pinnedCompositeJobId (slurm : Fields) (compositeSchedulerJobId : String) : String :=
  (((Json.lookupField "composite_scheduler_job_id" slurm).bind Json.asStr).filter
    fun value => !isBlank value).getD compositeSchedulerJobId

/-- `merge_slurm_poll_into_manifest`. -/
def mergeSlurmPollIntoManifest (now : String) (existing : Option Json)
    (compositeSchedulerJobId slurmJobId state source : String) (rawLine : Option String)
    (recordTerminal : Bool) (terminalLedgerStatus : Option String) (opts : SlurmPollManifestOpts) :
    Option Json :=
  (trimRaw rawLine).map fun raw =>
    updateSection existing "slurm" fun slurm =>
      let composite := pinnedCompositeJobId slurm compositeSchedulerJobId
      let identified :=
        Json.insertField "composite_scheduler_job_id" (.str composite) <|
          Json.insertField "slurm_job_id" (.str slurmJobId) <| Json.removeField "observations" slurm
      let located :=
        match opts.remoteSessionDir.filter fun dir => !isBlank dir with
        | some dir =>
            Json.insertField "paths"
              (.obj (Json.insertField "session_dir" (.str (trim dir))
                (object (Json.lookupField "paths" identified)))) identified
        | none => identified
      let observation :=
        insertSome "raw" (raw.map .str) <|
          insertSome "exit_code" (opts.exitCode.map fun code => .num (.int code)) <|
            [("state", .str state), ("source", .str source), ("observed_at", .str now)]
      let observed := Json.insertField "last_observation" (.obj observation) located
      if recordTerminal then
        let term :=
          match frozenTerminal "composite_scheduler_job_id" composite
              (Json.lookupField "terminal" observed) with
          | some fields => fields
          | none =>
              insertSome "diagnostics" (opts.diagnostics.filter Json.isObject) <|
                insertSome "reason" ((opts.reason.filter fun r => !r.isEmpty).map .str) <|
                  Json.insertField "slurm_job_id_ref" (.str slurmJobId) <|
                    Json.insertField "composite_scheduler_job_id" (.str composite) observation
        Json.insertField "terminal" (.obj (withLedgerStatus terminalLedgerStatus term)) observed
      else observed

/-- A text without the slashes at its end. -/
def trimEndSlashes (text : String) : String :=
  String.ofList (text.toList.reverse.dropWhile (· == '/')).reverse

/-- `merge_dim_deploy_into_manifest`. -/
def mergeDimDeployIntoManifest (now : String) (existing : Option Json)
    (sessionId dimRestBase : String) (verifySsl : Bool)
    (operatorUrls : Option (List (String × String))) : Json :=
  updateSection existing "dim" fun dim =>
    let identified := Json.insertField "session_id" (.str sessionId) <|
      Json.removeField "observations" dim
    let urls := (operatorUrls.getD []).filter fun url => !isBlank url.2
    let deploy :=
      insertSome "operator_urls"
        (if urls.isEmpty then none else some (.obj (urls.map fun url => (url.1, .str url.2)))) <|
        Json.insertField "verify_ssl" (.bool verifySsl) <|
          Json.insertField "dim_rest_base" (.str (trimEndSlashes dimRestBase)) <|
            Json.insertField "deployed_at" (.str now) <|
              object (Json.lookupField "deploy" identified)
    Json.insertField "deploy" (.obj deploy) identified

/-- `merge_dim_poll_into_manifest`; the error is cut only for a terminal section that is new. -/
def mergeDimPollIntoManifest (now : String) (existing : Option Json)
    (sessionId sessionState : String) (recordTerminal : Bool)
    (terminalLedgerStatus error : Option String) (errorDropsCount : Option ℤ) : Option Json :=
  tryUpdateSection existing "dim" fun dim =>
    let identified := Json.insertField "session_id" (.str sessionId) <|
      Json.removeField "observations" dim
    let observation : Fields :=
      [("session_state", .str sessionState), ("observed_at", .str now)]
    let observed := Json.insertField "last_observation" (.obj observation) identified
    if recordTerminal then
      let term : Option Fields :=
        match frozenTerminal "session_id" sessionId (Json.lookupField "terminal" observed) with
        | some fields => some fields
        | none =>
            (trimRaw error).map fun excerpt =>
              insertSome "error_drops_count" (errorDropsCount.map fun n => .num (.int n)) <|
                insertSome "error" (excerpt.map .str) <|
                  Json.insertField "session_id" (.str sessionId) observation
      term.map fun term =>
        Json.insertField "terminal" (.obj (withLedgerStatus terminalLedgerStatus term)) observed
    else some observed

/-- `merge_output_verification_into_manifest`. -/
def mergeOutputVerificationIntoManifest (now : String) (existing : Option Json)
    (artifactId inventorySha256 reportSha256 : String) (destinationUri : Option String) : Json :=
  let record := runRecord existing
  match frozenTerminal "artifact_id" artifactId (Json.lookupField "output_verification" record) with
  | some _ => withRunRecord existing record
  | none =>
      withRunRecord existing <|
        Json.insertField "output_verification"
          (.obj [("state", .str "verified"), ("verified_at", .str now),
                 ("artifact_id", .str artifactId), ("inventory_sha256", .str inventorySha256),
                 ("report_sha256", .str reportSha256),
                 ("destination_uri", (destinationUri.map Json.str).getD .null)]) record

/-- `merge_poll_summary`: the section of the run record becomes the summary of the poll. -/
def mergePollSummary (existing : Option Json) (key : String) (summary : Json) : Json :=
  match existing.getD (.obj []) with
  | .obj fields =>
      match (Json.lookupField runRecordKey fields).getD (.obj []) with
      | .obj record =>
          .obj (Json.insertField runRecordKey (.obj (Json.insertField key summary record)) fields)
      | _ => .obj fields
  | _ => .obj [(runRecordKey, .obj [(key, summary)])]

/-! ### Round counters -/

/-- The round of a batched poller, `0` when none is stored. -/
def pollRoundFromManifest (key : String) (existing : Option Json) : ℤ :=
  ((((existing.bind (Json.get runRecordKey)).bind (Json.get key)).bind (Json.get "round")).bind
    Json.asI64).getD 0

/-- `slurm_poll_round_from_manifest`. -/
def slurmPollRoundFromManifest : Option Json → ℤ := pollRoundFromManifest "slurm_poll"

/-- `dim_poll_round_from_manifest`. -/
def dimPollRoundFromManifest : Option Json → ℤ := pollRoundFromManifest "dim_poll"

/-- Storing the round of a batched poller, and when it started. -/
def mergePollTickRound (key : String) (now : String) (existing : Option Json) (round : ℤ) : Json :=
  updateSection existing key fun tick =>
    let counted := Json.insertField "round" (.num (.int round)) tick
    if (Json.lookupField "started_at" counted).isSome then counted
    else Json.insertField "started_at" (.str now) counted

/-- `merge_slurm_poll_tick_round`. -/
def mergeSlurmPollTickRound : String → Option Json → ℤ → Json := mergePollTickRound "slurm_poll"

/-- `merge_dim_poll_tick_round`. -/
def mergeDimPollTickRound : String → Option Json → ℤ → Json := mergePollTickRound "dim_poll"

/-- `i64::saturating_add(1)`. -/
def nextRound (round : ℤ) : ℤ := min (round + 1) 9223372036854775807

/-- `SlurmPollProgress`. -/
structure SlurmPollProgress where
  manifest : Json
  nextRound : ℤ
  operatorEscalated : Bool
  deriving DecidableEq, Repr

/-- `slurm_poll_operator_escalated`. -/
def slurmPollOperatorEscalated (existing : Option Json) : Bool :=
  (((existing.bind (Json.get runRecordKey)).bind (Json.get "slurm_poll")).bind
    (Json.get "operator_escalation")).isSome

/-- `slurm_active_poll_budget_reached`. -/
def slurmActivePollBudgetReached (next maxRounds : ℤ) : Bool :=
  decide (0 < maxRounds) && decide (maxRounds ≤ next)

/-- `advance_slurm_poll_progress`. -/
def advanceSlurmPollProgress (now : String) (existing : Option Json) (pollRound maxRounds : ℤ)
    (escalationReason : String) : SlurmPollProgress :=
  let next := nextRound pollRound
  let escalated :=
    slurmActivePollBudgetReached next maxRounds && !slurmPollOperatorEscalated existing
  let counted := mergeSlurmPollTickRound now existing next
  { manifest :=
      if escalated then
        updateSection (some counted) "slurm_poll" fun poll =>
          Json.insertField "operator_escalation"
            (.obj [("reason", .str escalationReason), ("round", .num (.int next)),
                   ("max_rounds", .num (.int maxRounds)), ("recorded_at", .str now),
                   ("terminalized", .bool false)]) poll
      else counted
    nextRound := next
    operatorEscalated := escalated }

end Beampipe
