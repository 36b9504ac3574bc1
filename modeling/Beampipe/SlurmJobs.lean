/-
Slurm jobs as the program names and reads them.

A submission is named by a composite id, `session:job|directory`, which is parsed back wherever a
part of it is needed.  A poll of the scheduler is read as one of eight states.

Main definitions:

* `Beampipe.SlurmSchedulerJobId`, `Beampipe.parseSchedulerJobId` — the composite id;
* `Beampipe.SlurmJobPollResult` — one observation of a job, with the source it came from.
-/

import Beampipe.ExternalState
import Beampipe.Json
import Beampipe.Text

set_option relaxedAutoImplicit false
set_option autoImplicit false

namespace Beampipe

/-! ### The composite id -/

/-- `SlurmSchedulerJobId`. -/
structure SlurmSchedulerJobId where
  sessionId : String
  slurmJobId : String
  sessionDir : Option String
  deriving DecidableEq, Repr

/-- `split_once` with a character. -/
def splitOnceChars (separator : Char) : List Char → Option (List Char × List Char)
  | [] => none
  | c :: rest =>
      if c = separator then some ([], rest)
      else (splitOnceChars separator rest).map fun parts => (c :: parts.1, parts.2)

/-- `split_once`. -/
def splitOnce (separator : Char) (text : String) : Option (String × String) :=
  (splitOnceChars separator text.toList).map fun parts =>
    (String.ofList parts.1, String.ofList parts.2)

/-- `parse_scheduler_job_id`. -/
def parseSchedulerJobId (raw : String) : SlurmSchedulerJobId :=
  let raw := trim raw
  let parts :=
    match splitOnce '|' raw with
    | some (head, dir) => (head, if (trim dir).isEmpty then none else some (trim dir))
    | none => (raw, none)
  match splitOnce ':' parts.1 with
  | some (sessionId, jobId) => ⟨sessionId, trim jobId, parts.2⟩
  | none => ⟨"", trim parts.1, parts.2⟩

/-! ### Observations of a job -/

/-- The source of a scheduler observation. -/
inductive PollSource where
  | squeue
  | sacct
  | mock
  | nameLookup
  | unavailable
  deriving DecidableEq, Repr

/-- The text of a source. -/
def PollSource.asStr : PollSource → String
  | .squeue => "squeue"
  | .sacct => "sacct"
  | .mock => "mock"
  | .nameLookup => "name_lookup"
  | .unavailable => "none"

/-- The upper-case token of a scheduler state, which `SchedulerState::from_normalized` reads back. -/
def SchedulerState.token : SchedulerState → String
  | .notSubmitted => "NOT_SUBMITTED"
  | .pending => "PENDING"
  | .running => "RUNNING"
  | .succeeded => "COMPLETED"
  | .failed => "FAILED"
  | .cancelled => "CANCELLED"
  | .timedOut => "TIMEOUT"
  | .unknown => "UNKNOWN"

/-- `SlurmJobPollResult`; the normalized state is kept as the scheduler state its token stands
for. -/
structure SlurmJobPollResult where
  rawState : String
  state : SchedulerState
  source : PollSource
  exitCode : Option ℤ
  rawLine : Option String
  deriving DecidableEq, Repr

namespace SlurmJobPollResult

/-- `slurm_poll_has_scheduler_observation`. -/
def hasSchedulerObservation (result : SlurmJobPollResult) : Bool :=
  result.source == .squeue || result.source == .sacct || result.source == .mock

/-- The reason in a raw line, `state|reason`. -/
def reason (result : SlurmJobPollResult) : Option String :=
  (result.rawLine.bind (splitOnce '|')).map (·.2)

/-- What the mock scheduler reports. -/
def mock : SlurmJobPollResult :=
  { rawState := "COMPLETED", state := .succeeded, source := .mock, exitCode := some 0,
    rawLine := some "COMPLETED" }

end SlurmJobPollResult

/-- `terminal_reason`. -/
def terminalReason : SchedulerState → Option String
  | .succeeded => none
  | .cancelled => some "scheduler_cancelled"
  | .timedOut => some "timeout"
  | .failed => some "failed"
  | .notSubmitted | .pending | .running | .unknown => some "unknown"

end Beampipe
