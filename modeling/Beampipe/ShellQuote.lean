/-
**Values in the scripts of a Slurm submission.**

The scripts that create a job and submit it carry values from profiles, from the environment and
from the output of the remote side.  Each of them is quoted, the words of a command are quoted one
by one, and the assembled script is quoted once more as the argument of `bash -lc`.

A quoted value is read as one word without any active character, so the words of a command and the
script behind `bash -lc` are read as they were written.  Within the scripts the values stand
outside of the quotes of the text, provided that the setup of the deployment, which is shell text
itself, closes its quotes at the end of every line.  Then the words and operators of a script are
those of its text, whatever the values are.

Main definitions:

* `Beampipe.shellQuote` — the quotation;
* `Beampipe.createJobScript`, `Beampipe.sbatchScript` — the scripts, with slots for the values;
* `Beampipe.bashCommand` — the command that is sent;
* `Beampipe.SlurmScriptConfig.SetupClosed` — the setup closes its quotes.

Main results:

* `Beampipe.quotes_shellQuote` — **a quoted value is one word**;
* `Beampipe.closed_createJobScript`, `Beampipe.closed_sbatchScript` — the values stand outside of
  the quotes of the scripts;
* `Beampipe.shellQuote_reads` — commands and scripts are read as they were written.
-/

import Beampipe.DeploymentPaths
import Beampipe.NamedJobLookups
import Beampipe.ShellWords

set_option relaxedAutoImplicit false
set_option autoImplicit false

namespace Beampipe

/-! ### Quoting -/

/-- `shell_quote`. -/
def shellQuote (s : String) : String :=
  if s.isEmpty then "''"
  else if s.toList.all fun c =>
      isAsciiAlphabetic c || isAsciiDigit c || ['/', '.', '_', '-', ':'].contains c then s
  else
    "'" ++ String.ofList
      (s.toList.flatMap fun c => if c = '\'' then ['\'', '\\', '\'', '\''] else [c]) ++ "'"

/-- Letters, digits and a few marks have no meaning of their own. -/
theorem isOrdinary_of_plain {c : Char} (h : (isAsciiAlphabetic c || isAsciiDigit c ||
    ['/', '.', '_', '-', ':'].contains c) = true) : Shell.isOrdinary c = true := by
  by_contra hnot
  simp only [Shell.isOrdinary, Shell.isBlank, Shell.isOperator, Shell.isActive,
    Bool.not_eq_true', Bool.not_eq_false, Bool.or_eq_true, beq_iff_eq, List.contains_eq_mem,
    List.mem_cons, List.not_mem_nil, or_false, decide_eq_true_eq] at hnot
  revert h
  rcases hnot with ((((((rfl | rfl) | rfl) | rfl) | rfl | rfl) | rfl | rfl | rfl | rfl | rfl | rfl |
    rfl | rfl) | rfl | rfl | rfl | rfl | rfl | rfl | rfl | rfl | rfl | rfl | rfl | rfl | rfl | rfl)
  all_goals decide

/-- What is between the quotes, up to the closing one. -/
theorem run_replaced {ν : Type} (value : List Char) {s : Shell.State ν} (hs : s.mode = .single)
    (hword : s.word ≠ none) :
    Shell.run s ((value.flatMap fun c => if c = '\'' then ['\'', '\\', '\'', '\''] else [c])
        ++ ['\'']) =
      { s.add (value.map fun c => .char c false) with mode := .plain } := by
  induction value generalizing s with
  | nil =>
      obtain ⟨parts, hparts⟩ := Option.ne_none_iff_exists'.mp hword
      simp [Shell.step, hs, Shell.State.add, hparts]
  | cons c rest ih =>
      rw [List.flatMap_cons, List.append_assoc, Shell.run_append]
      have hstep : Shell.run s (if c = '\'' then ['\'', '\\', '\'', '\''] else [c]) =
          s.add [.char c false] := by
        by_cases hc : c = '\''
        · subst hc
          simp [Shell.step, Shell.stepPlain, hs, Shell.State.add]
        · simp [Shell.step, hs, hc]
      rw [hstep, ih (by simpa using hs) (by simp), Shell.State.add_add]
      rfl

/-- **A quoted value is one word.** -/
theorem quotes_shellQuote : Shell.Quotes shellQuote := by
  intro value
  unfold shellQuote
  by_cases hempty : value.isEmpty
  · have hvalue : value = "" := String.isEmpty_iff.mp hempty
    subst hvalue
    intro s hs
    simp [Shell.step, Shell.stepPlain, hs, Shell.State.add, Shell.literal]
  · rw [if_neg hempty]
    by_cases hplain : value.toList.all fun c =>
        isAsciiAlphabetic c || isAsciiDigit c || ['/', '.', '_', '-', ':'].contains c
    · rw [if_pos hplain]
      refine Shell.spells_ordinary (fun c hc => ?_) (by simpa using hempty)
      exact isOrdinary_of_plain (List.all_eq_true.mp hplain c hc)
    · rw [if_neg hplain]
      intro s hs
      have hopen : Shell.step s '\'' = { s.add [] with mode := .single } := by
        simp [Shell.step, Shell.stepPlain, hs]
      have hchars : ∀ chars : List Char,
          ("'" ++ String.ofList chars ++ "'").toList = '\'' :: (chars ++ ['\'']) := by
        simp
      rw [hchars, Shell.run_cons, hopen]
      have hrun := run_replaced value.toList (s := { s.add [] with mode := .single }) rfl (by simp)
      refine hrun.trans ?_
      simp [Shell.State.add, Shell.literal, hs]

/-! ### Scripts -/

/-- `SlurmRemoteDeploymentConfig` with the texts that go into its scripts. -/
structure SlurmScriptConfig extends SlurmRemoteDeploymentConfig where
  modules : Option String := none
  venv : Option String := none
  environmentSetup : Option String := none
  slurmTemplate : Option String := none
  deriving DecidableEq, Repr

/-- A line of a script; a slot holds the value that is quoted. -/
abbrev ScriptLine := List (Shell.Piece String)

/-- `SLURM_ACCOUNT_ENV`. -/
def slurmAccountEnv : String := "BEAMPIPE_SLURM_ACCOUNT"

/-- `PYTHON_PATH_ENV`. -/
def pythonPathEnv : String := "PYTHONPATH"

/-- `OUTER_TERMINATION_NOTICE_SECONDS`. -/
def outerTerminationNoticeSeconds : ℤ := 120

/-- A variable is exported. -/
def exportLine (name value : String) : ScriptLine := [.text ("export " ++ name ++ "="), .slot value]

/-- A command with quoted arguments. -/
def argvLine (argv : List String) : ScriptLine :=
  [Shell.Piece.text " "].intercalate (argv.map fun argument => [.slot argument])

/-- A command with quoted arguments behind its text. -/
def commandLine (command : String) (arguments : List String) : ScriptLine :=
  .text command :: arguments.flatMap fun argument => [.text " ", .slot argument]

/-- The lines of a text that are not blank. -/
def trimmedLines (text : String) : List String :=
  ((outputLines text).map fun line => String.ofList (trimChars line)).filter (!·.isEmpty)

/-- The lines of the modules and of the virtual environment. -/
def SlurmScriptConfig.moduleLines (deployment : SlurmScriptConfig) : List String :=
  (match deployment.modules with
    | some modules => ["set +u"] ++ trimmedLines modules ++ ["set -u"]
    | none => []) ++
  (match deployment.venv with
    | some venv => ["set +u", trim venv, "set -u"]
    | none => [])

/-- The lines of the setup. -/
def SlurmScriptConfig.setupLines (deployment : SlurmScriptConfig) : List String :=
  (deployment.environmentSetup.map trimmedLines).getD []

/-- A required variable with its value. -/
def requiredLine (readEnvironment : String → Option String) (name : String) :
    Except String ScriptLine :=
  match (readEnvironment name).filter (!isBlank ·) with
  | some value => .ok (exportLine name value)
  | none => .error ("deployment.runtime_contract requires non-empty " ++ name)

/-- `env_prelude_with`. -/
def envPreludeWith (deployment : SlurmScriptConfig) (readEnvironment : String → Option String) :
    Except String (List ScriptLine) := do
  deployment.runtimeContract.validate
  let required ← deployment.runtimeContract.requiredEnvironment.mapM (requiredLine readEnvironment)
  .ok ([[.text "set -euo pipefail"], exportLine slurmAccountEnv deployment.account] ++
    (deployment.moduleLines.map fun line => [.text line]) ++ required ++
    (deployment.setupLines.map fun line => [.text line]) ++
    [exportLine slurmAccountEnv deployment.account])

/-- `create_dlg_job_argv`. -/
def createDlgJobArgv (deployment : SlurmScriptConfig) (pgtRemotePath configFileRemotePath : String)
    (slurmTemplateRemotePath : Option String) : List String :=
  ["python3", "-m", "dlg.deploy.create_dlg_job", "--action", "submit", "-f", deployment.facility,
    "-P", pgtRemotePath, "--config_file", configFileRemotePath] ++
  (match slurmTemplateRemotePath with
    | some template => ["--slurm_template", template]
    | none => [])

/-- The script of `submit_slurm_session` that creates the job. -/
def createJobScript (deployment : SlurmScriptConfig) (executionId : String)
    (readEnvironment : String → Option String) : Except String (List ScriptLine) := do
  let dlgRoot := trimEndSlashes deployment.dlgRoot
  let base := dlgRoot ++ "/staging/BeampipeExecution_" ++ executionId
  let argv := createDlgJobArgv deployment (base ++ ".pgt.graph") (base ++ ".ini")
    ((deployment.slurmTemplate.filter (!isBlank ·)).map fun _ => base ++ ".slurm")
  let prelude ← envPreludeWith deployment readEnvironment
  .ok (prelude ++ [exportLine "DLG_ROOT" dlgRoot, argvLine argv])

/-- `ResolvedPublisherRuntime`. -/
structure ResolvedPublisherRuntime where
  executionId : String
  executionAttempt : ℤ
  durableDestinationUri : String
  handoffControlDirectory : String
  handoffDirectory : String
  handoffAttemptDirectory : String
  handoffPath : String
  deriving DecidableEq, Repr

/-- `SbatchCommandContext`. -/
structure SbatchCommandContext where
  sessionId : String
  jobsubPath : String
  stagingRoot : String
  cacheRoot : String
  pythonPath : String
  publisher : Option ResolvedPublisherRuntime
  deriving DecidableEq, Repr

/-- The variables that the job is given, each of them once. -/
def exportedNames (contract : SlurmRuntimeContractConfig) (publisher : Bool) : List String :=
  ([slurmAccountEnv] ++
    [contract.outputEnvironmentVariable, contract.sharedStagingEnvironmentVariable].filterMap id ++
    [pythonPathEnv] ++
    (if publisher then
      ["BEAMPIPE_EXECUTION_ID", "BEAMPIPE_EXECUTION_ATTEMPT", "BEAMPIPE_OUTPUT_DESTINATION_URI",
        "BEAMPIPE_OUTPUT_ROOT", "BEAMPIPE_OUTPUT_INVENTORY_HANDOFF_PATH"]
    else []) ++
    contract.requiredEnvironment).eraseDups

/-- The result of a saturating operation on `i32`. -/
def saturateI32 (n : ℤ) : ℤ := max (-2147483648) (min 2147483647 n)

/-- The format `{:02}`. -/
def twoDigits (n : ℤ) : String := if 0 ≤ n ∧ n < 10 then "0" ++ toString n else toString n

/-- The arguments of `sbatch`. -/
def sbatchArgv (deployment : SlurmScriptConfig) (context : SbatchCommandContext) : List String :=
  let resources := deployment.resources
  let minutes := deployment.effectiveWallTimeMinutes
  let notice := max 1 (min outerTerminationNoticeSeconds
    (saturateI32 (saturateI32 (minutes * 60) - 1)))
  let flag (name : String) (value : Option String) : List String :=
    (value.map fun value => "--" ++ name ++ "=" ++ value).toList
  ["sbatch",
    "--export=" ++
      ",".intercalate (exportedNames deployment.runtimeContract context.publisher.isSome),
    "--parsable", "--job-name=" ++ context.sessionId, "--account=" ++ deployment.account,
    "--nodes=" ++ toString deployment.effectiveNodes,
    "--time=" ++ twoDigits (minutes.tdiv 60) ++ ":" ++ twoDigits (minutes.tmod 60) ++ ":00",
    "--signal=TERM@" ++ toString notice] ++
  flag "partition" resources.partition ++ flag "mem" resources.memory ++
  flag "constraint" resources.constraint ++ flag "qos" resources.qualityOfService ++
  flag "ntasks" (resources.tasks.map toString) ++
  flag "cpus-per-task" (resources.cpusPerTask.map toString) ++ [context.jobsubPath]

/-- The lines for the publisher. -/
def publisherLines (stagingRoot : String) (publisher : ResolvedPublisherRuntime) :
    List ScriptLine :=
  let directories := [publisher.handoffControlDirectory, publisher.handoffDirectory,
    publisher.handoffAttemptDirectory]
  [commandLine "mkdir -p --" directories, commandLine "chmod 0700 --" directories,
    exportLine "BEAMPIPE_EXECUTION_ID" publisher.executionId,
    [.text ("export BEAMPIPE_EXECUTION_ATTEMPT=" ++ toString publisher.executionAttempt)],
    exportLine "BEAMPIPE_OUTPUT_DESTINATION_URI" publisher.durableDestinationUri,
    exportLine "BEAMPIPE_OUTPUT_ROOT" stagingRoot,
    exportLine "BEAMPIPE_OUTPUT_INVENTORY_HANDOFF_PATH" publisher.handoffPath]

/-- The line that puts the shim before the Python path. -/
def pythonPathLine (pythonPath : String) : ScriptLine :=
  [.text "if [ -n \"$\x7bPYTHONPATH:-\x7d\" ]; then export PYTHONPATH=", .slot pythonPath,
    .text ":\"$PYTHONPATH\"; else export PYTHONPATH=", .slot pythonPath, .text "; fi"]

/-- The script of `sbatch_command_with`. -/
def sbatchScript (deployment : SlurmScriptConfig) (context : SbatchCommandContext)
    (readEnvironment : String → Option String) : Except String (List ScriptLine) := do
  let contract := deployment.runtimeContract
  contract.validate
  let staging ← normalizedRemoteAbsolutePath context.stagingRoot "run output root"
  let cache ← normalizedRemoteAbsolutePath context.cacheRoot "shared staging root"
  let stagingRoot := pathText staging
  let cacheRoot := pathText cache
  let prelude ← envPreludeWith deployment readEnvironment
  .ok (prelude ++ [[.text "umask 077"], commandLine "mkdir -p --" [stagingRoot, cacheRoot]] ++
    (contract.outputEnvironmentVariable.map (exportLine · stagingRoot)).toList ++
    (contract.sharedStagingEnvironmentVariable.map (exportLine · cacheRoot)).toList ++
    (context.publisher.map (publisherLines stagingRoot)).getD [] ++
    [pythonPathLine context.pythonPath, argvLine (sbatchArgv deployment context)])

/-- The text of a script. -/
def scriptText (lines : List ScriptLine) : String :=
  Shell.render shellQuote id (Shell.joinLines lines)

/-- The command that is sent. -/
def bashCommand (script : String) : String := "bash -lc " ++ shellQuote script

/-- `sbatch_command_with`. -/
def sbatchCommandWith (deployment : SlurmScriptConfig) (context : SbatchCommandContext)
    (readEnvironment : String → Option String) : Except String String := do
  let script ← sbatchScript deployment context readEnvironment
  .ok (bashCommand (scriptText script))

/-- The shell text of the deployment closes its quotes at the end of every line. -/
def SlurmScriptConfig.SetupClosed (deployment : SlurmScriptConfig) : Prop :=
  ∀ line ∈ deployment.moduleLines ++ deployment.setupLines,
    Shell.Closed ([.text line] : ScriptLine)

/-! ### Names of variables -/

/-- A character that no quoting depends on. -/
def IsQuiet (c : Char) : Prop := c ≠ '\\' ∧ c ≠ '\'' ∧ c ≠ '"' ∧ c ≠ '#'

theorem isQuiet_of_isIdentifier {chars : List Char} (h : isIdentifier chars = true) :
    ∀ c ∈ chars, IsQuiet c := by
  intro c hc
  simp only [isIdentifier, Bool.and_eq_true, List.all_eq_true] at h
  have hchar := h.2 c hc
  refine ⟨?_, ?_, ?_, ?_⟩
  all_goals
    rintro rfl
    exact absurd hchar (by decide)

theorem validateEnvironmentName_ok {value name : String}
    (h : validateEnvironmentName value name = .ok ()) : ∀ c ∈ value.toList, IsQuiet c := by
  unfold validateEnvironmentName at h
  split at h
  · cases h
  next hvalue =>
    simp only [Bool.or_eq_true, not_or, Bool.not_eq_true', Bool.not_eq_false] at hvalue
    exact isQuiet_of_isIdentifier hvalue.2

theorem validateRequiredEnvironment_ok {seen names : List String}
    (h : validateRequiredEnvironment seen names = .ok ()) :
    ∀ name ∈ names, ∀ c ∈ name.toList, IsQuiet c := by
  induction names generalizing seen with
  | nil => exact fun _ hname => (List.not_mem_nil hname).elim
  | cons name names ih =>
      obtain ⟨⟨⟩, hname, h⟩ := exceptBind_ok h
      split at h
      · cases h
      · exact List.forall_mem_cons.mpr ⟨validateEnvironmentName_ok hname, ih h⟩

theorem validateExportedVariable_ok {required : List String} {name : String}
    {exported : Option String} (h : validateExportedVariable required name exported = .ok ()) :
    ∀ value ∈ exported, ∀ c ∈ value.toList, IsQuiet c := by
  rintro value hvalue
  cases hvalue
  obtain ⟨⟨⟩, hvalue, -⟩ := exceptBind_ok h
  exact validateEnvironmentName_ok hvalue

/-- The names that a contract exports. -/
theorem SlurmRuntimeContractConfig.names_of_validate {contract : SlurmRuntimeContractConfig}
    (h : contract.validate = .ok ()) :
    (∀ name ∈ contract.requiredEnvironment, ∀ c ∈ name.toList, IsQuiet c) ∧
      (∀ name ∈ contract.outputEnvironmentVariable, ∀ c ∈ name.toList, IsQuiet c) ∧
      ∀ name ∈ contract.sharedStagingEnvironmentVariable, ∀ c ∈ name.toList, IsQuiet c := by
  obtain ⟨⟨⟩, -, h⟩ := exceptBind_ok h
  obtain ⟨⟨⟩, -, h⟩ := exceptBind_ok h
  split at h
  · cases h
  obtain ⟨⟨⟩, -, h⟩ := exceptBind_ok h
  obtain ⟨⟨⟩, -, h⟩ := exceptBind_ok h
  obtain ⟨⟨⟩, hrequired, h⟩ := exceptBind_ok h
  obtain ⟨⟨⟩, houtput, h⟩ := exceptBind_ok h
  obtain ⟨⟨⟩, hshared, -⟩ := exceptBind_ok h
  exact ⟨validateRequiredEnvironment_ok hrequired, validateExportedVariable_ok houtput,
    validateExportedVariable_ok hshared⟩

/-! ### Lines that close their quotes -/

theorem isQuiet_repr (n : ℕ) : ∀ c ∈ (Nat.repr n).toList, IsQuiet c := by
  intro c hc
  have hmem : c ∈ Nat.toDigits 10 n := by simpa using hc
  have hdigit := Nat.isDigit_of_mem_toDigits (by decide) (by decide) hmem
  refine ⟨?_, ?_, ?_, ?_⟩
  all_goals
    rintro rfl
    exact absurd hdigit (by decide)

theorem isQuiet_toString (n : ℤ) : ∀ c ∈ (toString n).toList, IsQuiet c := by
  cases n with
  | ofNat n => exact isQuiet_repr n
  | negSucc n =>
      intro c hc
      have hmem : c ∈ "-".toList ++ (Nat.repr (n + 1)).toList := by
        rw [← String.toList_append]
        exact hc
      rcases List.mem_append.mp hmem with hc | hc
      · obtain rfl : c = '-' := by simpa using hc
        simp [IsQuiet]
      · exact isQuiet_repr (n + 1) c hc

theorem closed_text {text : String} (h : ∀ c ∈ text.toList, IsQuiet c) :
    Shell.Closed ([.text text] : ScriptLine) :=
  Shell.closed_of_modes (Shell.modes_text h)

theorem closed_exportLine {name : String} (h : ∀ c ∈ name.toList, IsQuiet c) (value : String) :
    Shell.Closed (exportLine name value) := by
  have hexport : ∀ c ∈ "export ".toList, IsQuiet c := by
    simp [IsQuiet]
  have htext : ∀ c ∈ ("export " ++ name ++ "=").toList, IsQuiet c := by
    intro c hc
    simp only [String.toList_append, List.mem_append] at hc
    rcases hc with (hc | hc) | hc
    · exact hexport c hc
    · exact h c hc
    · obtain rfl : c = '=' := by simpa using hc
      simp [IsQuiet]
  have hmodes : Shell.modes .plain ([.text ("export " ++ name ++ "=")] ++ [.slot value]) =
      some Shell.Mode.plain := by
    rw [Shell.modes_append, Shell.modes_text htext]
    rfl
  exact Shell.closed_of_modes hmodes

theorem closed_commandLine {command : String} (h : ∀ c ∈ command.toList, IsQuiet c)
    (arguments : List String) : Shell.Closed (commandLine command arguments) := by
  have harguments : Shell.modes .plain (arguments.flatMap fun argument =>
      ([.text " ", .slot argument] : ScriptLine)) = some .plain := by
    induction arguments with
    | nil => rfl
    | cons argument arguments ih =>
        rw [List.flatMap_cons, Shell.modes_append]
        exact ih
  have hmodes : Shell.modes .plain ([.text command] ++ arguments.flatMap fun argument =>
      ([.text " ", .slot argument] : ScriptLine)) = some .plain := by
    rw [Shell.modes_append, Shell.modes_text h]
    exact harguments
  exact Shell.closed_of_modes hmodes

theorem closed_argvLine (argv : List String) : Shell.Closed (argvLine argv) := by
  refine Shell.closed_of_modes ?_
  unfold argvLine
  induction argv with
  | nil => rfl
  | cons argument argv ih =>
      cases argv with
      | nil => rfl
      | cons next argv =>
          rw [List.map_cons, List.map_cons, List.intercalate_cons_cons, Shell.modes_append,
            Shell.modes_append]
          exact ih

theorem closed_pythonPathLine (pythonPath : String) : Shell.Closed (pythonPathLine pythonPath) :=
  Shell.closed_of_modes (by rfl)

/-- The lines before the commands. -/
theorem closed_envPreludeWith {deployment : SlurmScriptConfig}
    {readEnvironment : String → Option String} {lines : List ScriptLine}
    (hsetup : deployment.SetupClosed) (h : envPreludeWith deployment readEnvironment = .ok lines) :
    ∀ line ∈ lines, Shell.Closed line := by
  obtain ⟨⟨⟩, hcontract, h⟩ := exceptBind_ok h
  obtain ⟨required, hrequired, h⟩ := exceptBind_ok h
  cases h
  have haccount : Shell.Closed (exportLine slurmAccountEnv deployment.account) :=
    closed_exportLine (by simp [slurmAccountEnv, IsQuiet]) _
  have hnames := (SlurmRuntimeContractConfig.names_of_validate hcontract).1
  simp only [List.mem_append, List.mem_cons, List.mem_map, List.not_mem_nil, or_false]
  rintro line ((((( rfl | rfl) | ⟨text, htext, rfl⟩) | hline) | ⟨text, htext, rfl⟩) | rfl)
  · exact Shell.closed_of_modes (by rfl)
  · exact haccount
  · exact hsetup text (List.mem_append_left _ htext)
  · obtain ⟨name, hname, hvalue⟩ := (exceptMapM_ok hrequired).2 line hline
    unfold requiredLine at hvalue
    split at hvalue
    · cases hvalue
      exact closed_exportLine (hnames name hname) _
    · cases hvalue
  · exact hsetup text (List.mem_append_right _ htext)
  · exact haccount

theorem closed_createJobScript {deployment : SlurmScriptConfig} {executionId : String}
    {readEnvironment : String → Option String} {lines : List ScriptLine}
    (hsetup : deployment.SetupClosed)
    (h : createJobScript deployment executionId readEnvironment = .ok lines) :
    ∀ line ∈ lines, Shell.Closed line := by
  obtain ⟨prelude, hprelude, h⟩ := exceptBind_ok h
  cases h
  simp only [List.mem_append, List.mem_cons, List.not_mem_nil, or_false]
  rintro line (hline | rfl | rfl)
  · exact closed_envPreludeWith hsetup hprelude line hline
  · exact closed_exportLine (by simp [IsQuiet]) _
  · exact closed_argvLine _

theorem closed_publisherLines (stagingRoot : String) (publisher : ResolvedPublisherRuntime) :
    ∀ line ∈ publisherLines stagingRoot publisher, Shell.Closed line := by
  have hattempt : ∀ c ∈ ("export BEAMPIPE_EXECUTION_ATTEMPT=" ++
      toString publisher.executionAttempt).toList, IsQuiet c := by
    have hexport : ∀ c ∈ "export BEAMPIPE_EXECUTION_ATTEMPT=".toList, IsQuiet c := by
      simp [IsQuiet]
    intro c hc
    rw [String.toList_append, List.mem_append] at hc
    rcases hc with hc | hc
    · exact hexport c hc
    · exact isQuiet_toString _ c hc
  simp only [publisherLines, List.mem_cons, List.not_mem_nil, or_false]
  rintro line (rfl | rfl | rfl | rfl | rfl | rfl | rfl)
  · exact closed_commandLine (by simp [IsQuiet]) _
  · exact closed_commandLine (by simp [IsQuiet]) _
  · exact closed_exportLine (by simp [IsQuiet]) _
  · exact closed_text hattempt
  · exact closed_exportLine (by simp [IsQuiet]) _
  · exact closed_exportLine (by simp [IsQuiet]) _
  · exact closed_exportLine (by simp [IsQuiet]) _

theorem closed_sbatchScript {deployment : SlurmScriptConfig} {context : SbatchCommandContext}
    {readEnvironment : String → Option String} {lines : List ScriptLine}
    (hsetup : deployment.SetupClosed)
    (h : sbatchScript deployment context readEnvironment = .ok lines) :
    ∀ line ∈ lines, Shell.Closed line := by
  obtain ⟨⟨⟩, hcontract, h⟩ := exceptBind_ok h
  obtain ⟨staging, -, h⟩ := exceptBind_ok h
  obtain ⟨cache, -, h⟩ := exceptBind_ok h
  obtain ⟨prelude, hprelude, h⟩ := exceptBind_ok h
  cases h
  obtain ⟨-, houtput, hshared⟩ := SlurmRuntimeContractConfig.names_of_validate hcontract
  simp only [List.mem_append, List.mem_cons, List.not_mem_nil, or_false, Option.mem_toList,
    Option.map_eq_some_iff]
  rintro line (((((hline | rfl | rfl) | ⟨name, hname, rfl⟩) | ⟨name, hname, rfl⟩) | hline) |
    rfl | rfl)
  · exact closed_envPreludeWith hsetup hprelude line hline
  · exact Shell.closed_of_modes (by rfl)
  · exact closed_commandLine (by simp [IsQuiet]) _
  · exact closed_exportLine (houtput name hname) _
  · exact closed_exportLine (hshared name hname) _
  · cases hpublisher : context.publisher with
    | none => simp [hpublisher] at hline
    | some publisher =>
        rw [hpublisher] at hline
        exact closed_publisherLines _ publisher line hline
  · exact closed_pythonPathLine _
  · exact closed_argvLine _

/-! ### Reading the commands -/

theorem decode_shellQuote_argv (argv : List String) :
    Shell.decode (" ".intercalate (argv.map shellQuote)) = some argv := by
  refine Shell.decode_intercalate ?_
  induction argv with
  | nil => exact .nil
  | cons argument argv ih => exact .cons (quotes_shellQuote argument) ih

theorem decode_bashCommand (script : String) :
    Shell.decode (bashCommand script) = some ["bash", "-lc", script] := by
  have hbash : Shell.Spells "bash" "bash" :=
    Shell.spells_ordinary (by simp [Shell.isOrdinary, Shell.isBlank, Shell.isOperator,
      Shell.isActive]) (by simp)
  have hflag : Shell.Spells "-lc" "-lc" :=
    Shell.spells_ordinary (by simp [Shell.isOrdinary, Shell.isBlank, Shell.isOperator,
      Shell.isActive]) (by simp)
  have hwords := Shell.decode_intercalate
    (.cons hbash (.cons hflag (.cons (quotes_shellQuote script) .nil)))
  rw [← hwords]
  congr 1

/-- A script whose lines close their quotes has the words and operators of its text. -/
theorem tokens_joinLines {lines : List ScriptLine} (h : ∀ line ∈ lines, Shell.Closed line) :
    ∃ tokens, Shell.template (Shell.joinLines lines) = some tokens ∧
      ∀ values : String → String,
        Shell.tokens (Shell.render shellQuote values (Shell.joinLines lines)) =
          some (tokens.map (Shell.Token.fill values)) := by
  have hclosed := Shell.closed_joinLines h
  obtain ⟨tokens, htokens⟩ := hclosed.template
  refine ⟨tokens, htokens, fun values => ?_⟩
  rw [Shell.tokens_render shellQuote values quotes_shellQuote (hclosed []).1, htokens]
  rfl

/-- **Values stay in their words.**  A quoted value is read as one word, quoted words are read as
the arguments they were, and the script behind `bash -lc` as the script.  Where a script has its
values outside of the quotes of its own text, its words and operators are those of the text, with
the values in the places of the slots, whatever they are; the scripts of a submission are such
scripts when the setup of the deployment closes its quotes. -/
theorem shellQuote_reads :
    (∀ s, Shell.decode (shellQuote s) = some [s]) ∧
    (∀ argv : List String,
      Shell.decode (" ".intercalate (argv.map shellQuote)) = some argv) ∧
    (∀ script, Shell.decode (bashCommand script) = some ["bash", "-lc", script]) ∧
    (∀ (ν : Type) (pieces : List (Shell.Piece ν)) (values : ν → String),
      Shell.Outside {} pieces →
        Shell.tokens (Shell.render shellQuote values pieces) =
          (Shell.template pieces).map fun tokens => tokens.map (Shell.Token.fill values)) ∧
    ∀ (deployment : SlurmScriptConfig) (executionId : String) (context : SbatchCommandContext)
      (readEnvironment : String → Option String) (lines : List ScriptLine),
      deployment.SetupClosed →
      createJobScript deployment executionId readEnvironment = .ok lines ∨
        sbatchScript deployment context readEnvironment = .ok lines →
      ∃ tokens, Shell.template (Shell.joinLines lines) = some tokens ∧
        ∀ values : String → String,
          Shell.tokens (Shell.render shellQuote values (Shell.joinLines lines)) =
            some (tokens.map (Shell.Token.fill values)) := by
  refine ⟨fun s => ?_, decode_shellQuote_argv, decode_bashCommand, ?_, ?_⟩
  · simpa using decode_shellQuote_argv [s]
  · intro ν pieces values houtside
    exact Shell.tokens_render shellQuote values quotes_shellQuote houtside
  · rintro deployment executionId context readEnvironment lines hsetup (hlines | hlines)
    · exact tokens_joinLines (closed_createJobScript hsetup hlines)
    · exact tokens_joinLines (closed_sbatchScript hsetup hlines)

/-- A deployment with a module to load and a required variable. -/
def quotedDeployment : SlurmScriptConfig where
  loginNode := "login"
  account := "astro's"
  homeDir := "/home/astro"
  logDir := "/home/astro/log"
  dlgRoot := "/scratch/dlg"
  facility := "setonix"
  runtimeContract := { requiredEnvironment := ["TOKEN"] }
  modules := some "module load dlg"

/-- The script that creates a job, with a token that looks like a command. -/
theorem shellQuote_reads_quotedDeployment :
    ∃ lines, createJobScript quotedDeployment "e1" (fun _ => some "$(id); '#") = .ok lines ∧
      ∃ tokens, Shell.template (Shell.joinLines lines) = some tokens ∧
        ∀ values : String → String,
          Shell.tokens (Shell.render shellQuote values (Shell.joinLines lines)) =
            some (tokens.map (Shell.Token.fill values)) := by
  have hsetup : quotedDeployment.SetupClosed := by
    have hlines : quotedDeployment.moduleLines ++ quotedDeployment.setupLines =
        ["set +u", "module load dlg", "set -u"] := by decide +kernel
    intro line hline
    rw [hlines] at hline
    simp only [List.mem_cons, List.not_mem_nil, or_false] at hline
    rcases hline with rfl | rfl | rfl
    all_goals exact Shell.closed_of_modes (by rfl)
  have hlines : (createJobScript quotedDeployment "e1" fun _ => some "$(id); '#").isOk = true := by
    decide +kernel
  cases hscript : createJobScript quotedDeployment "e1" fun _ => some "$(id); '#" with
  | error error => simp [hscript, Except.isOk, Except.toBool] at hlines
  | ok lines =>
      exact ⟨lines, rfl, shellQuote_reads.2.2.2.2 quotedDeployment "e1"
        ⟨"", "", "", "", "", none⟩ _ lines hsetup (.inl hscript)⟩

end Beampipe
