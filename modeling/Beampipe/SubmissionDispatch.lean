/-
The dispatch of a Slurm submission.

A session of a submission uploads the physical graph, the settings and the template of an execution,
lets DALiuGE create the job, uploads the shim for its Python and dispatches `sbatch`.  Whatever fails,
is cut off or crashes, and whatever goes on beside it on the login node: the job is dispatched only
when all of its artefacts lie whole at their names, no name of an artefact ever shows a part of it,
and an error that is not the uncertain one means that no job was accepted.

The environment of the process, the crate for URLs and the way scalars are written are parameters.
Several sessions may submit the same execution, one after the other or, after a crash, beside what is
left of another; the conditions on a run say what they must leave alone.

Main definitions:

* `Beampipe.SlurmSubmitParams`, `Beampipe.renderGeneratedIni` — what is submitted;
* `Beampipe.runCommandOutputInner`, `Beampipe.parseSbatchJobId` — commands and their outputs;
* `Beampipe.submitSlurmSession` — the submission;
* `Beampipe.SlurmSubmitParams.IsArtifact` — the artefacts of a submission with their names;
* `Beampipe.submissionSystem` — sessions side by side, beside the login node;
* `Beampipe.Undisturbed`, `Beampipe.KeepsWhole`, `Beampipe.FreshSession` — the conditions on runs.

Main results:

* `Beampipe.wp_submitSlurmSession` — what a submission requests, and what its end says;
* `Beampipe.dispatch_finds_artifacts` — **at the dispatch every artefact lies at its name**, with its
  bytes and its mode;
* `Beampipe.artifacts_whole` — **no name of an artefact ever shows a part of it**;
* `Beampipe.submission_accounts` — **an ordinary error means that no job was accepted**, and a
  result that one was.
-/

import Beampipe.RemoteUploads
import Beampipe.ShellQuote
import Beampipe.StableJson

set_option relaxedAutoImplicit false
set_option autoImplicit false

namespace Beampipe

open Programs
open SlurmCancellation (OrchestrationError)

/-! ### What is submitted -/

/-- `SlurmRemoteDeploymentConfig` with the settings that go into the generated file. -/
structure SlurmSubmitConfig extends SlurmScriptConfig where
  execPrefix : String
  verboseLevel : ℤ := 1
  maxThreads : ℤ := 0
  allNics : Bool := false
  deriving DecidableEq, Repr

/-- `SlurmSubmitParams`. -/
structure SlurmSubmitParams where
  executionId : String
  sessionId : String
  pgtJson : Json
  deployment : SlurmSubmitConfig
  username : String
  publicationExecutionAttempt : Option ℤ
  deriving DecidableEq

/-- `SlurmSubmitResult`. -/
structure SlurmSubmitResult where
  slurmJobId : String
  sessionDir : String
  stagingRoot : Option String
  compositeSchedulerJobId : String
  deriving DecidableEq, Repr

/-- What the process gives: its environment, the check of a destination with the crate for URLs, and
the way scalars are written. -/
structure SubmitEnvironment where
  readEnvironment : String → Option String
  validatedDestinationUri : String → Except String String
  scalars : ScalarText

/-- `str::lines`. -/
def textLines (text : String) : List (List Char) :=
  let parts := outputLines text
  (parts.dropLast.map fun line => if line.getLast? = some '\r' then line.dropLast else line) ++
    (parts.getLast?.filter fun line => !line.isEmpty).toList

/-- `push_ini_value`. -/
def iniValue (key : String) (value : Option String) : List String :=
  match value with
  | none => []
  | some value =>
      let lines := (textLines value).map String.ofList
      (key ++ " = " ++ lines.headD "") :: lines.tail.map ("    " ++ ·)

/-- `render_generated_ini`. -/
def renderGeneratedIni (deployment : SlurmSubmitConfig)
    (username pgtRemotePath dlgRoot : String) : String :=
  "\n".intercalate
    (["[DEPLOYMENT]", "remote = False", "submit = False", "[ENGINE]",
      "NUM_NODES = " ++ toString deployment.effectiveNodes,
      "NUM_ISLANDS = " ++ toString deployment.effectiveIslands,
      "JOB_DUR = " ++ toString deployment.effectiveWallTimeMinutes,
      "MAX_THREADS = " ++ toString deployment.maxThreads,
      "VERBOSE_LEVEL = " ++ toString deployment.verboseLevel,
      "ALL_NICS = " ++ (if deployment.allNics then "True" else "False"),
      "[GRAPH]", "PHYSICAL_GRAPH = " ++ pgtRemotePath,
      "[FACILITY]", "USER = " ++ username, "ACCOUNT = " ++ deployment.account,
      "LOGIN_NODE = " ++ deployment.loginNode, "HOME_DIR = " ++ deployment.homeDir,
      "DLG_ROOT = " ++ dlgRoot, "LOG_DIR = " ++ deployment.logDir,
      "EXEC_PREFIX = " ++ deployment.execPrefix] ++
    iniValue "MODULES" deployment.modules ++ iniValue "VENV" deployment.venv)

/-- `DALIUGE_FAILED_SESSION_SITECUSTOMIZE`. -/
def daliugeFailedSessionSitecustomize : String :=
  "\n".intercalate
    ["# Beampipe compatibility shim for DALiuGE deploy.common.",
      "from dlg.deploy import common as _beampipe_common",
      "from dlg.manager.session import SessionStates as _beampipe_session_states",
      "",
      "_beampipe_original_is_end_state = _beampipe_common._is_end_state",
      "",
      "",
      "def _beampipe_is_end_state(state):",
      "    return (",
      "        state == _beampipe_session_states.FAILED",
      "        or _beampipe_original_is_end_state(state)",
      "    )",
      "",
      "",
      "_beampipe_common._is_end_state = _beampipe_is_end_state",
      ""]

namespace SlurmSubmitParams

variable (env : SubmitEnvironment) (params : SlurmSubmitParams)

/-- The root of DALiuGE on the login node. -/
def dlgRoot : String := trimEndSlashes params.deployment.dlgRoot

/-- The directory of the artefacts. -/
def stagingDir : String := params.dlgRoot ++ "/staging"

/-- What the names of the artefacts of an execution begin with. -/
def artifactBase : String := params.stagingDir ++ "/BeampipeExecution_" ++ params.executionId

/-- The name of the physical graph. -/
def pgtRemotePath : String := params.artifactBase ++ ".pgt.graph"

/-- The name of the settings. -/
def configFileRemotePath : String := params.artifactBase ++ ".ini"

/-- The name of the template. -/
def slurmTemplateRemotePath : String := params.artifactBase ++ ".slurm"

/-- The text of the physical graph. -/
def pgtText : String :=
  String.ofList ((bindPhysicalGraphToSession params.sessionId params.pgtJson).toText env.scalars)

/-- The text of the settings. -/
def configText : String :=
  renderGeneratedIni params.deployment params.username params.pgtRemotePath params.dlgRoot

/-- The template, if there is one. -/
def template : Option String := params.deployment.slurmTemplate.filter (!isBlank ·)

/-- `resolve_publication_inputs_with`, for an attempt that publishes its outputs. -/
def publicationInputs : Except OrchestrationError (Option (ℤ × String)) :=
  match params.publicationExecutionAttempt with
  | none => .ok none
  | some attempt =>
      if ¬ (0 ≤ attempt ∧ attempt < 2147483647) then
        .error (.backend
          "publication execution attempt must be non-negative and leave retry headroom")
      else
        match params.deployment.publication with
        | none => .error (.backend
            "required output publication has no pinned deployment publication contract")
        | some publication =>
            match publication.validate with
            | .error error => .error (.backend error)
            | .ok () =>
                match (env.readEnvironment publication.durableDestinationUriEnvironment).filter
                    (!isBlank ·) with
                | none => .error (.backend ("deployment publication requires non-empty " ++
                    publication.durableDestinationUriEnvironment))
                | some uri =>
                    match env.validatedDestinationUri uri with
                    | .error error => .error (.backend error)
                    | .ok uri => .ok (some (attempt, uri))

/-- The runtime of the publisher. -/
def publisherRuntime (sessionDir : String) (inputs : Option (ℤ × String)) :
    Except OrchestrationError (Option ResolvedPublisherRuntime) :=
  match inputs with
  | none => .ok none
  | some (attempt, uri) =>
      match outputInventoryRemotePaths sessionDir attempt with
      | .error error => .error (.outputInventoryRejected error)
      | .ok paths => .ok (some
          { executionId := params.executionId
            executionAttempt := attempt
            durableDestinationUri := uri
            handoffControlDirectory := paths.controlDirectory
            handoffDirectory := paths.publicationDirectory
            handoffAttemptDirectory := paths.attemptDirectory
            handoffPath := paths.inventoryPath })

end SlurmSubmitParams

/-! ### Commands -/

/-- `RemoteCommandOutput`. -/
structure RemoteCommandOutput where
  stdout : String
  stderr : String
  exitStatus : ℕ
  deriving DecidableEq, Repr

/-- `remote_command_transport_error`. -/
def remoteCommandTransportError (kind : RemoteCommandKind) (detail : String) : OrchestrationError :=
  match kind with
  | .ordinary => .backend detail
  | .submission => .submissionUncertain detail

/-- `command_stdout`, with the error of `remote_command_exit_error`. -/
def commandStdout (command : String) (output : RemoteCommandOutput) :
    Except OrchestrationError String :=
  if output.exitStatus = 0 then .ok output.stdout
  else .error (.backend ("remote command failed (exit=" ++ toString output.exitStatus ++ "): " ++
    command.quote ++ "\nstdout: " ++ output.stdout ++ "\nstderr: " ++ output.stderr))

/-- What `run_command_output_inner` makes of the end of a command. -/
def commandOutput (kind : RemoteCommandKind) (command : String) :
    ExecAnswer → Except OrchestrationError RemoteCommandOutput
  | .channelFailed error => .error (.backend ("SSH channel: " ++ error))
  | .notObserved error => .error (remoteCommandTransportError kind
      ("SSH exec response was not observed for " ++ command.quote ++ ": " ++ error))
  | .ended none _ _ => .error (remoteCommandTransportError kind
      ("remote command ended without an SSH exit status: " ++ command.quote))
  | .ended (some status) stdout stderr => .ok ⟨stdout, stderr, status⟩

/-- `run_command_inner`. -/
def runCommandInner (kind : RemoteCommandKind) (command : String) : Submission String := do
  let output ← Prog.ofExcept (commandOutput kind command (← Submission.call (.exec kind command)))
  Prog.ofExcept (commandStdout command output)

/-- `mkdir -p` of a directory. -/
def mkdirCommand (directory : String) : String := "mkdir -p -- " ++ shellQuote directory

/-- What follows the first occurrence of a text. -/
def afterFirst (text : List Char) : List Char → Option (List Char)
  | [] => if text.isEmpty then some [] else none
  | c :: rest =>
      if text.isPrefixOf (c :: rest) then some ((c :: rest).drop text.length)
      else afterFirst text rest

/-- `parse_jobsub_path`. -/
def parseJobsubPath (stdout : String) : Except OrchestrationError String :=
  match (outputLines stdout).findSome? fun line =>
      ((afterFirst "Created job submission script".toList line).map trimChars).filter
        (!·.isEmpty) with
  | some path => .ok (String.ofList path)
  | none => .error (.backend ("create_dlg_job did not print job submission script path; stdout=" ++
      stdout.quote))

/-- A line of `sbatch --parsable`: a numeric job id, and the name of a cluster behind it. -/
def isJobLine (line : List Char) : Bool :=
  let isJobId (id : List Char) := !id.isEmpty && id.all fun c => '0' ≤ c && c ≤ '9'
  match line.splitOn ';' with
  | [id] => isJobId id
  | [id, cluster] => isJobId id && !cluster.isEmpty && cluster.all isNameChar
  | _ => false

/-- `parse_sbatch_job_id`. -/
def parseSbatchJobId (stdout : String) : Except OrchestrationError String :=
  match ((outputLines stdout).map trimChars).filter isJobLine with
  | [line] => .ok (String.ofList (line.takeWhile (· != ';')))
  | [] => .error (.backend "sbatch --parsable returned no valid numeric job ID")
  | _ => .error (.backend "sbatch --parsable returned multiple possible job IDs")

/-- `parse_dispatched_sbatch_job_id`. -/
def parseDispatchedSbatchJobId (stdout : String) : Except OrchestrationError String :=
  (parseSbatchJobId stdout).mapError fun error => .submissionUncertain
    ("sbatch exited successfully, but its submission receipt was invalid: " ++ error.message ++
      "; non_empty_lines=" ++
      toString ((outputLines stdout).filter fun line => !(trimChars line).isEmpty).length)

/-! ### The submission -/

section Submit

open Submission

variable (env : SubmitEnvironment) (params : SlurmSubmitParams)

/-- The upload of the template. -/
def uploadTemplate : Submission Unit :=
  match params.template with
  | some body => uploadTextAtomic params.slurmTemplateRemotePath body
  | none => pure ()

/-- The directory of the shim. -/
def pythonShimDir (sessionDir : String) : String := sessionDir ++ "/.beampipe-python"

/-- The name of the shim. -/
def sitecustomizePath (sessionDir : String) : String := pythonShimDir sessionDir ++ "/sitecustomize.py"

/-- The script that creates the job. -/
def createJobCommand : Except OrchestrationError String :=
  ((createJobScript params.deployment.toSlurmScriptConfig params.executionId
    env.readEnvironment).map fun script => bashCommand (scriptText script)).mapError .backend

/-- `derive_session_paths`, with its errors. -/
def sessionPathsOf (jobsubPath : String) : Except OrchestrationError (String × String × String) :=
  (deriveSessionPaths jobsubPath params.dlgRoot params.deployment.runtimeContract).mapError .backend

/-- `sbatch_command`, with its errors. -/
def sbatchCommand (jobsubPath : String) (paths : String × String × String)
    (publisher : Option ResolvedPublisherRuntime) : Except OrchestrationError String :=
  (sbatchCommandWith params.deployment.toSlurmScriptConfig
    { sessionId := params.sessionId
      jobsubPath := jobsubPath
      stagingRoot := paths.2.1
      cacheRoot := paths.2.2
      pythonPath := pythonShimDir paths.1
      publisher := publisher } env.readEnvironment).mapError .backend

/-- The session is closed, whatever `sbatch` answers. -/
def runSubmissionCommand (command : String) : Submission String := do
  let result ← (runCommandInner .submission command).attempt
  let _ ← call .disconnect
  Prog.ofExcept result

/-- The receipt of a dispatched submission. -/
def submissionResult (paths : String × String × String) (output : String) :
    Except OrchestrationError SlurmSubmitResult :=
  match parseDispatchedSbatchJobId output with
  | .error error => .error error
  | .ok slurmJobId =>
      match composeSchedulerJobId params.sessionId slurmJobId (some paths.1) with
      | .error error => .error (.submissionUncertain ("sbatch accepted job " ++ slurmJobId ++
          ", but its receipt could not be encoded: " ++ error.message))
      | .ok composite => .ok ⟨slurmJobId, paths.1, some paths.2.1, composite⟩

/-- `submit_slurm_session`. -/
def submitSlurmSession : Submission SlurmSubmitResult := do
  let inputs ← Prog.ofExcept (params.publicationInputs env)
  liftText (← call .connect)
  let _ ← runCommandInner .ordinary (mkdirCommand params.stagingDir)
  uploadTextAtomic params.pgtRemotePath (params.pgtText env)
  uploadTextAtomic params.configFileRemotePath params.configText
  uploadTemplate params
  let createJob ← Prog.ofExcept (createJobCommand env params)
  let jobsubPath ← Prog.ofExcept (parseJobsubPath (← runCommandInner .ordinary createJob))
  let paths ← Prog.ofExcept (sessionPathsOf params jobsubPath)
  let _ ← runCommandInner .ordinary (mkdirCommand (pythonShimDir paths.1))
  uploadTextAtomic (sitecustomizePath paths.1) daliugeFailedSessionSitecustomize
  let publisher ← Prog.ofExcept (params.publisherRuntime paths.1 inputs)
  let command ← Prog.ofExcept (sbatchCommand env params jobsubPath paths publisher)
  let output ← runSubmissionCommand command
  Prog.ofExcept (submissionResult params paths output)

end Submit

/-! ### The artefacts of a submission -/

namespace SlurmSubmitParams

variable (env : SubmitEnvironment) (params : SlurmSubmitParams)

/-- The artefacts that are uploaded before the job is created. -/
def artifacts : List Artifact :=
  [⟨params.pgtRemotePath, textBytes (params.pgtText env)⟩,
    ⟨params.configFileRemotePath, textBytes params.configText⟩] ++
  (params.template.map fun body => ⟨params.slurmTemplateRemotePath, textBytes body⟩).toList

/-- The shim of a session. -/
def shim (sessionDir : String) : Artifact :=
  ⟨sitecustomizePath sessionDir, textBytes daliugeFailedSessionSitecustomize⟩

/-- The artefacts of a submission, whatever session directory the job gets. -/
def IsArtifact (path : String) (content : List UInt8) : Prop :=
  ⟨path, content⟩ ∈ params.artifacts env ∨ ∃ sessionDir, ⟨path, content⟩ = shim sessionDir

/-- The command is the `sbatch` of the submission, for a job with a session directory. -/
def IsSubmissionOf (sessionDir command : String) : Prop :=
  ∃ jobsubPath paths publisher, sessionPathsOf params jobsubPath = .ok paths ∧
    paths.1 = sessionDir ∧ sbatchCommand env params jobsubPath paths publisher = .ok command

/-- All artefacts of the submission are at their names. -/
def Ready (placed : List Artifact) (command : String) : Prop :=
  ∃ sessionDir, params.IsSubmissionOf env sessionDir command ∧
    ∀ a ∈ params.artifacts env ++ [shim sessionDir], a ∈ placed

end SlurmSubmitParams

section Names

variable {env : SubmitEnvironment} {params : SlurmSubmitParams}

/-- The last character of a name. -/
def lastChar (path : String) : Option Char := path.toList.getLast?

theorem lastChar_append (a b : String) (hb : b.toList ≠ []) : lastChar (a ++ b) = lastChar b := by
  simp [lastChar, String.toList_append, List.getLast?_append_of_ne_nil _ hb]

theorem lastChar_pgtRemotePath : lastChar params.pgtRemotePath = some 'h' :=
  lastChar_append _ _ (by decide)

theorem lastChar_configFileRemotePath : lastChar params.configFileRemotePath = some 'i' :=
  lastChar_append _ _ (by decide)

theorem lastChar_slurmTemplateRemotePath : lastChar params.slurmTemplateRemotePath = some 'm' :=
  lastChar_append _ _ (by decide)

theorem lastChar_sitecustomizePath (sessionDir : String) :
    lastChar (sitecustomizePath sessionDir) = some 'y' :=
  lastChar_append _ _ (by decide)

/-- A temporary name ends with a hexadecimal digit. -/
theorem lastChar_temporaryPathOf (path : String) (uuid : Uuid) :
    ∃ n < 16, lastChar (temporaryPathOf path uuid) = some (Nat.digitChar n) := by
  refine ⟨uuid % 16, Nat.mod_lt _ (by decide), ?_⟩
  simp [lastChar, temporaryPathOf, hexDigits, String.toList_append]

theorem ne_of_lastChar {path path' : String} {c c' : Char} (h : lastChar path = some c)
    (h' : lastChar path' = some c') (hne : c ≠ c') : path ≠ path' := by
  rintro rfl
  exact hne (Option.some.inj (h.symm.trans h'))

theorem mem_artifacts {a : Artifact} : a ∈ params.artifacts env ↔
    a = ⟨params.pgtRemotePath, textBytes (params.pgtText env)⟩ ∨
      a = ⟨params.configFileRemotePath, textBytes params.configText⟩ ∨
      ∃ body, params.template = some body ∧
        a = ⟨params.slurmTemplateRemotePath, textBytes body⟩ := by
  simp only [SlurmSubmitParams.artifacts, List.mem_append, List.mem_cons, List.not_mem_nil,
    or_false, Option.mem_toList, Option.map_eq_some_iff, or_assoc, @eq_comm _ _ a]

/-- The shim has a name of its own. -/
theorem artifact_ne_shim {a : Artifact} (h : a ∈ params.artifacts env) (sessionDir : String) :
    a.path ≠ sitecustomizePath sessionDir := by
  have hshim := lastChar_sitecustomizePath sessionDir
  rcases mem_artifacts.mp h with rfl | rfl | ⟨body, -, rfl⟩
  · exact ne_of_lastChar lastChar_pgtRemotePath hshim (by decide)
  · exact ne_of_lastChar lastChar_configFileRemotePath hshim (by decide)
  · exact ne_of_lastChar lastChar_slurmTemplateRemotePath hshim (by decide)

variable (env params) in
/-- What the name of an artefact ends with determines its bytes. -/
def contentByEnd : Char → Option (List UInt8)
  | 'h' => some (textBytes (params.pgtText env))
  | 'i' => some (textBytes params.configText)
  | 'm' => params.template.map textBytes
  | 'y' => some (textBytes daliugeFailedSessionSitecustomize)
  | _ => none

theorem contentByEnd_of_isArtifact {path : String} {content : List UInt8}
    (h : params.IsArtifact env path content) :
    ∃ c ∈ ['h', 'i', 'm', 'y'], lastChar path = some c ∧
      contentByEnd env params c = some content := by
  rcases h with hmem | ⟨sessionDir, hshim⟩
  · rcases mem_artifacts.mp hmem with hpgt | hini | ⟨body, hbody, htemplate⟩
    · obtain ⟨rfl, rfl⟩ := Artifact.mk.inj hpgt
      exact ⟨'h', by simp, lastChar_pgtRemotePath, rfl⟩
    · obtain ⟨rfl, rfl⟩ := Artifact.mk.inj hini
      exact ⟨'i', by simp, lastChar_configFileRemotePath, rfl⟩
    · obtain ⟨rfl, rfl⟩ := Artifact.mk.inj htemplate
      refine ⟨'m', by simp, lastChar_slurmTemplateRemotePath, ?_⟩
      rw [contentByEnd, hbody]
      rfl
  · rw [SlurmSubmitParams.shim, Artifact.mk.injEq] at hshim
    refine ⟨'y', by simp, ?_, by rw [contentByEnd, hshim.2]⟩
    rw [hshim.1]
    exact lastChar_sitecustomizePath sessionDir

/-- The names of the artefacts are told apart by their ends. -/
theorem artifactNames : ArtifactNames (params.IsArtifact env) where
  content := fun path content content' h h' => by
    obtain ⟨c, -, hlast, hcontent⟩ := contentByEnd_of_isArtifact h
    obtain ⟨c', -, hlast', hcontent'⟩ := contentByEnd_of_isArtifact h'
    obtain rfl := Option.some.inj (hlast.symm.trans hlast')
    exact Option.some.inj (hcontent.symm.trans hcontent')
  temporary := fun path content h htemporary => by
    obtain ⟨target, _, uuid, -, rfl⟩ := htemporary
    obtain ⟨n, hn, hdigit⟩ := lastChar_temporaryPathOf target uuid
    obtain ⟨c, hc, hlast, -⟩ := contentByEnd_of_isArtifact h
    have hnone : ∀ n < 16, Nat.digitChar n ∉ ['h', 'i', 'm', 'y'] := by decide
    rw [hdigit, Option.some.injEq] at hlast
    exact hnone n hn (hlast ▸ hc)

end Names

/-! ### What a submission knows -/

/-- The error does not leave open whether the job was accepted. -/
def IsCertain (error : OrchestrationError) : Prop := ∀ message, error ≠ .submissionUncertain message

/-- The job was not accepted: nothing was sent, or the command has failed. -/
def ExecAnswer.IsRefusal : ExecAnswer → Prop
  | .channelFailed _ => True
  | .ended (some status) _ _ => status ≠ 0
  | _ => False

/-- What an error says of the dispatch: if it is certain, there was none, or it was refused. -/
def FailedSubmission (error : OrchestrationError) (books : SubmissionBooks) : Prop :=
  IsCertain error → ∀ command answer, books.dispatched = some (command, answer) → answer.IsRefusal

/-- What a result says of the dispatch: the job was accepted, and its id printed. -/
def Submitted (result : SlurmSubmitResult) (books : SubmissionBooks) : Prop :=
  ∃ command stdout stderr, books.dispatched = some (command, .ended (some 0) stdout stderr) ∧
    parseSbatchJobId stdout = .ok result.slurmJobId

section Wp

variable {env : SubmitEnvironment} {params : SlurmSubmitParams} {books : SubmissionBooks}

/-- An error before the dispatch. -/
theorem failed_before {error : OrchestrationError} (h : books.dispatched = none) :
    FailedSubmission error books := by
  intro _ command answer hsent
  rw [h] at hsent
  cases hsent

theorem wp_before {α β : Type} {x : Except OrchestrationError α} {f : α → Submission β}
    {Q : β → SubmissionBooks → Prop} (h : books.dispatched = none)
    (hf : ∀ a, x = .ok a → (f a).wp SubmissionBooks.learn
      (SubmissionBooks.Fits (params.IsArtifact env) (params.Ready env)) Q FailedSubmission books) :
    (Prog.ofExcept x >>= f).wp SubmissionBooks.learn
      (SubmissionBooks.Fits (params.IsArtifact env) (params.Ready env)) Q FailedSubmission books := by
  cases x with
  | error error => exact failed_before h
  | ok a => exact hf a rfl

/-- The connection. -/
theorem wp_connect {β : Type} {f : Unit → Submission β} {Q : β → SubmissionBooks → Prop}
    (h : books.dispatched = none) (hf : (f ()).wp SubmissionBooks.learn
      (SubmissionBooks.Fits (params.IsArtifact env) (params.Ready env)) Q FailedSubmission books) :
    (Submission.call .connect >>= fun answer => Submission.liftText answer >>= f).wp
      SubmissionBooks.learn (SubmissionBooks.Fits (params.IsArtifact env) (params.Ready env)) Q
      FailedSubmission books := by
  refine ⟨trivial, fun answer => ?_⟩
  cases answer with
  | error error => exact failed_before h
  | ok _ => exact hf

/-- A command before the dispatch. -/
theorem wp_ordinary {β : Type} {command : String} {f : String → Submission β}
    {Q : β → SubmissionBooks → Prop} (h : books.dispatched = none)
    (hf : ∀ output, (f output).wp SubmissionBooks.learn
      (SubmissionBooks.Fits (params.IsArtifact env) (params.Ready env)) Q FailedSubmission books) :
    (runCommandInner .ordinary command >>= f).wp SubmissionBooks.learn
      (SubmissionBooks.Fits (params.IsArtifact env) (params.Ready env)) Q FailedSubmission books := by
  refine Prog.wp_bind (R := fun _ after => after = books) ⟨trivial, fun answer => ?_⟩ ?_
  · refine wp_before h fun output _ => ?_
    refine Prog.wp_ofExcept (fun _ _ => rfl) fun _ _ => failed_before h
  · rintro output after rfl
    exact hf output

/-- An upload before the dispatch. -/
theorem wp_upload {β : Type} {path content : String} {f : Unit → Submission β}
    {Q : β → SubmissionBooks → Prop} {placed : List Artifact} (hbooks : books.placed = placed)
    (h : books.dispatched = none) (hartifact : params.IsArtifact env path (textBytes content))
    (hfresh : ∀ a ∈ placed, a.path ≠ path)
    (hf : ∀ after : SubmissionBooks, after.placed = ⟨path, textBytes content⟩ :: placed →
      after.dispatched = none → (f ()).wp SubmissionBooks.learn
        (SubmissionBooks.Fits (params.IsArtifact env) (params.Ready env)) Q FailedSubmission after) :
    (uploadTextAtomic path content >>= f).wp SubmissionBooks.learn
      (SubmissionBooks.Fits (params.IsArtifact env) (params.Ready env)) Q FailedSubmission books := by
  subst hbooks
  exact Prog.wp_bind (Prog.wp_mono (wp_uploadTextAtomic hartifact hfresh h) (fun _ _ h => h)
    fun _ _ h => failed_before h.2) fun _ after hafter => hf after hafter.1 hafter.2

/-- The dispatch: a result means that the command has succeeded, and a certain error that it has
failed or was not sent. -/
theorem wp_runSubmissionCommand {command : String} (h : books.dispatched = none)
    (hready : params.Ready env books.placed command) :
    (runSubmissionCommand command).wp SubmissionBooks.learn
      (SubmissionBooks.Fits (params.IsArtifact env) (params.Ready env))
      (fun output after => ∃ stderr,
        after.dispatched = some (command, .ended (some 0) output stderr)) FailedSubmission books := by
  unfold runSubmissionCommand
  refine Prog.wp_bind (R := fun result (after : SubmissionBooks) => ∃ answer,
    after.dispatched = some (command, answer) ∧
      result = (commandOutput .submission command answer).bind (commandStdout command)) ?_ ?_
  · refine Prog.wp_attempt ⟨⟨h, hready⟩, fun answer => ?_⟩
    change (Prog.ofExcept (commandOutput .submission command answer) >>= fun output =>
      Prog.ofExcept (commandStdout command output)).wp _ _ _ _ _
    cases houtput : commandOutput .submission command answer with
    | error error => exact ⟨answer, rfl, by rw [houtput]; rfl⟩
    | ok output =>
        refine Prog.wp_ofExcept (fun a ha => ⟨answer, rfl, ?_⟩) fun e he => ⟨answer, rfl, ?_⟩
        · rw [houtput, ← ha]
          rfl
        · rw [houtput, ← he]
          rfl
  · rintro result after ⟨answer, hsent, rfl⟩
    refine ⟨trivial, fun _ => ?_⟩
    have hsent' : ∀ other : String × ExecAnswer, after.dispatched = some other →
        other = (command, answer) := fun other hother => Option.some.inj (hother.symm.trans hsent)
    rcases answer with error | error | ⟨_ | status, stdout, stderr⟩
    · rintro - sent answer hother
      cases hsent' _ hother
      trivial
    · exact fun hcertain => absurd rfl (hcertain _)
    · exact fun hcertain => absurd rfl (hcertain _)
    · change (Prog.ofExcept (commandStdout command ⟨stdout, stderr, status⟩)).wp _ _ _ _ _
      unfold commandStdout
      dsimp only
      split
      · next hstatus =>
          subst hstatus
          exact ⟨stderr, hsent⟩
      · next hstatus =>
          rintro - sent answer hother
          cases hsent' _ hother
          exact hstatus

-- an upload is only known by its rule
attribute [local irreducible] uploadTextAtomic

/-- The artefacts before the creation of the job. -/
theorem wp_artifacts {β : Type} {f : Unit → Submission β} {Q : β → SubmissionBooks → Prop}
    (hf : ∀ after : SubmissionBooks, (∀ a, a ∈ after.placed ↔ a ∈ params.artifacts env) →
      after.dispatched = none → (f ()).wp SubmissionBooks.learn
        (SubmissionBooks.Fits (params.IsArtifact env) (params.Ready env)) Q FailedSubmission after) :
    (uploadTextAtomic params.pgtRemotePath (params.pgtText env) >>= fun _ =>
      uploadTextAtomic params.configFileRemotePath params.configText >>= fun _ =>
      uploadTemplate params >>= f).wp SubmissionBooks.learn
      (SubmissionBooks.Fits (params.IsArtifact env) (params.Ready env)) Q FailedSubmission {} := by
  refine wp_upload rfl rfl (.inl (mem_artifacts.mpr (.inl rfl))) (fun _ h => (by cases h))
    fun after hplaced hsent => ?_
  refine wp_upload hplaced hsent (.inl (mem_artifacts.mpr (.inr (.inl rfl)))) ?_
    fun after hplaced hsent => ?_
  · intro a ha
    rw [List.mem_singleton.mp ha]
    exact ne_of_lastChar lastChar_pgtRemotePath lastChar_configFileRemotePath (by decide)
  unfold uploadTemplate
  cases htemplate : params.template with
  | none =>
      refine hf after (fun a => ?_) hsent
      rw [hplaced, mem_artifacts, htemplate]
      simp [or_comm]
  | some body =>
      refine wp_upload hplaced hsent
        (.inl (mem_artifacts.mpr (.inr (.inr ⟨body, htemplate, rfl⟩)))) ?_
        fun after hplaced hsent => hf after (fun a => ?_) hsent
      · intro a ha
        rcases List.mem_cons.mp ha with rfl | ha
        · exact ne_of_lastChar lastChar_configFileRemotePath lastChar_slurmTemplateRemotePath
            (by decide)
        · rw [List.mem_singleton.mp ha]
          exact ne_of_lastChar lastChar_pgtRemotePath lastChar_slurmTemplateRemotePath (by decide)
      · rw [hplaced, mem_artifacts, htemplate]
        simp only [List.mem_cons, List.not_mem_nil, or_false, Option.some.injEq, exists_eq_left']
        exact or_comm.trans (or_assoc.trans or_left_comm)

/-- What the output of `sbatch` says. -/
theorem wp_submissionResult {command stderr output : String} {paths : String × String × String}
    (hsent : books.dispatched = some (command, .ended (some 0) output stderr)) :
    (Prog.ofExcept (submissionResult params paths output) : Submission SlurmSubmitResult).wp
      SubmissionBooks.learn (SubmissionBooks.Fits (params.IsArtifact env) (params.Ready env))
      Submitted FailedSubmission books := by
  unfold submissionResult parseDispatchedSbatchJobId
  cases hparse : parseSbatchJobId output with
  | error error => exact fun hcertain => absurd rfl (hcertain _)
  | ok slurmJobId =>
      dsimp only [Except.mapError]
      cases composeSchedulerJobId params.sessionId slurmJobId (some paths.1) with
      | error error => exact fun hcertain => absurd rfl (hcertain _)
      | ok composite => exact ⟨command, output, stderr, hsent, hparse⟩

/-- **A submission.**  It dispatches its job once, with all artefacts at their names. -/
theorem wp_submitSlurmSession :
    (submitSlurmSession env params).wp SubmissionBooks.learn
      (SubmissionBooks.Fits (params.IsArtifact env) (params.Ready env)) Submitted FailedSubmission
      {} := by
  unfold submitSlurmSession
  refine wp_before rfl fun inputs _ => ?_
  refine wp_connect rfl (wp_ordinary rfl fun _ => wp_artifacts fun after hplaced hsent => ?_)
  refine wp_before hsent fun createJob _ => wp_ordinary hsent fun output => ?_
  refine wp_before hsent fun jobsubPath _ => wp_before hsent fun paths hpaths => ?_
  refine wp_ordinary hsent fun _ => ?_
  refine wp_upload rfl hsent (.inr ⟨paths.1, rfl⟩)
    (fun a ha => artifact_ne_shim ((hplaced a).mp ha) paths.1) fun after' hplaced' hsent => ?_
  refine wp_before hsent fun publisher _ => wp_before hsent fun command hcommand => ?_
  refine Prog.wp_bind (wp_runSubmissionCommand hsent ⟨paths.1,
    ⟨jobsubPath, paths, publisher, hpaths, rfl, hcommand⟩, fun a ha => ?_⟩)
    fun output after'' ⟨stderr, houtput⟩ => wp_submissionResult houtput
  rw [hplaced']
  rcases List.mem_append.mp ha with ha | ha
  · exact List.mem_cons_of_mem _ ((hplaced a).mpr ha)
  · rw [List.mem_singleton.mp ha]
    exact List.mem_cons_self

end Wp

/-! ### Sessions side by side -/

/-- Sessions of the submission, their books and the login node. -/
abbrev SubmissionConfig : Type :=
  Config SshRequest SshRequest.Answer OrchestrationError SlurmSubmitResult RemoteHost
    SubmissionBooks

/-- A session of the submission. -/
abbrev SubmissionThread : Type :=
  Thread SshRequest SshRequest.Answer OrchestrationError SlurmSubmitResult SubmissionBooks

/-- One step: of a session, or of the login node. -/
abbrev SubmissionLabel : Type := Label SshChoice Unit RemoteChanges

section System

variable (env : SubmitEnvironment) (params : SlurmSubmitParams)

/-- Sessions that submit one execution, beside the login node. -/
def submissionSystem : System SshRequest SshRequest.Answer OrchestrationError SlurmSubmitResult
    RemoteHost SubmissionBooks SshChoice Unit RemoteChanges where
  perform pid r i books host :=
    let answer := r.perform pid i host
    (answer.1, books.learn r answer.1, answer.2)
  code _ := submitSlurmSession env params
  loc := {}
  environment changes host := host.change changes

/-- The step is a request of the session that is not a command. -/
def IsOwnTransfer (pid : ℕ) (t : SubmissionThread) (lab : SubmissionLabel) : Prop :=
  ∃ i r, lab = .run pid i ∧ t.code.next = some r ∧ ∀ kind command, r ≠ .exec kind command

/-- A step of the login node, of a command or of another session leaves alone what a session that
has not ended relies on. -/
def Undisturbed (c : SubmissionConfig) (lab : SubmissionLabel) : Prop :=
  ∀ pid t, c.threads pid = some t → t.code.next ≠ none → ¬ IsOwnTransfer pid t lab →
    ∀ path ∈ t.loc.held,
      ((submissionSystem env params).step c lab).shared.files path = c.shared.files path

/-- A step of the login node or of a command leaves whole artefacts only. -/
def KeepsWhole (c : SubmissionConfig) (lab : SubmissionLabel) : Prop :=
  (∀ pid t, c.threads pid = some t → ¬ IsOwnTransfer pid t lab) →
    c.shared.Whole (params.IsArtifact env) →
    ((submissionSystem env params).step c lab).shared.Whole (params.IsArtifact env)

/-- A session has a new name. -/
def FreshSession (c : SubmissionConfig) (lab : SubmissionLabel) : Prop :=
  ∀ pid e, lab = .start pid e → c.shared.jobs pid = []

variable {env params} {c : SubmissionConfig}

theorem step_run_shared {pid : ℕ} {i : SshChoice} {books : SubmissionBooks} {r : SshRequest}
    {k : r.Answer → Submission SlurmSubmitResult} (hpid : c.threads pid = some ⟨books, .req r k⟩) :
    ((submissionSystem env params).step c (.run pid i)).shared = (r.perform pid i c.shared).2 := by
  simp only [System.step, hpid]
  rfl

/-- A command does not touch what its own session relies on. -/
theorem Undisturbed.exec {pid : ℕ} {i : SshChoice} {books : SubmissionBooks} {r : SshRequest}
    {k : r.Answer → Submission SlurmSubmitResult} (h : Undisturbed env params c (.run pid i))
    (hpid : c.threads pid = some ⟨books, .req r k⟩) (kind : RemoteCommandKind) (command : String)
    (hexec : r = .exec kind command) :
    ∀ path ∈ books.held, (r.perform pid i c.shared).2.files path = c.shared.files path := by
  have hheld := h pid _ hpid (by simp [Prog.next]) fun ⟨_, r', _, hnext, hother⟩ =>
    hother kind command ((Option.some.inj hnext).symm.trans hexec)
  rwa [step_run_shared hpid] at hheld

/-- What a session knows of the files stays so, in a run that does not disturb it. -/
theorem exec_files {I : RemoteHost → Prop} {C : SubmissionConfig → SubmissionLabel → Prop}
    (hundisturbed : ∀ c lab, C c lab → Undisturbed env params c lab)
    (hinv : ∀ c pid i books r k, C c (.run pid i) → c.threads pid = some ⟨books, .req r k⟩ →
      I c.shared → c.shared.Known books →
      books.Fits (params.IsArtifact env) (params.Ready env) r → I (r.perform pid i c.shared).2)
    (hinvEnvironment : ∀ c changes, C c (.environment changes) → I c.shared →
      I (c.shared.change changes)) {host : RemoteHost} (hhost : I host)
    {labels : List SubmissionLabel}
    (hmeets : Runs.Meets (submissionSystem env params).step C (System.init host) labels) :
    I (Runs.exec (submissionSystem env params).step (System.init host) labels).shared ∧
      ∀ pid t, (Runs.exec (submissionSystem env params).step (System.init host) labels).threads
        pid = some t →
      t.code.wp SubmissionBooks.learn
        (SubmissionBooks.Fits (params.IsArtifact env) (params.Ready env)) Submitted FailedSubmission
        t.loc ∧
      (t.code.next ≠ none → RemoteHost.Known
        (Runs.exec (submissionSystem env params).step (System.init host) labels).shared t.loc) :=
  System.exec_known_meets (m := submissionSystem env params) (K := fun _ books host => host.Known books)
    id (fun code => code.next ≠ none) (fun _ _ => by simp [Prog.next]) (fun _ _ _ _ _ => rfl)
    (fun _ _ _ _ => wp_submitSlurmSession) hinv hinvEnvironment
    (fun _ _ _ _ _ => ⟨fun _ h => (by cases h), fun _ h => (by cases h)⟩)
    (fun c pid i books r k hC hpid _ hknown hfits =>
      hknown.learn hfits ((hundisturbed _ _ hC).exec hpid))
    (fun c pid i books r k pid' t hC hpid hpid' hlive hne _ _ hknown => by
      have hheld := hundisturbed _ _ hC pid' t hpid' hlive fun ⟨_, _, hlab, _⟩ =>
        hne (Label.run.inj hlab).1.symm
      rw [step_run_shared hpid] at hheld
      exact hknown.mono hheld)
    (fun c changes pid t hC hpid hlive _ hknown =>
      hknown.mono (hundisturbed _ _ hC pid t hpid hlive fun ⟨_, _, hlab, _⟩ => by cases hlab))
    hhost hmeets

/-- **At the dispatch every artefact lies at its name.**  In every run of any number of sessions that
submit one execution, whatever fails and crashes in it, in which nobody else touches what a session
relies on: a session that is about to dispatch has not dispatched before, and the graph, the
settings, the template and the shim of its session directory lie at their names, with their bytes and
their mode. -/
theorem dispatch_finds_artifacts (env : SubmitEnvironment) (params : SlurmSubmitParams)
    (host : RemoteHost) (labels : List SubmissionLabel)
    (hmeets : Runs.Meets (submissionSystem env params).step (Undisturbed env params)
      (System.init host) labels) (pid : ℕ) (t : SubmissionThread) (command : String)
    (ht : (Runs.exec (submissionSystem env params).step (System.init host) labels).threads pid =
      some t) (hnext : t.code.next = some (.exec .submission command)) :
    t.loc.dispatched = none ∧ ∃ sessionDir, params.IsSubmissionOf env sessionDir command ∧
      ∀ a ∈ params.artifacts env ++ [SlurmSubmitParams.shim sessionDir],
        (Runs.exec (submissionSystem env params).step (System.init host) labels).shared.files
          a.path = some (.file a.content submissionMode) := by
  obtain ⟨-, hthreads⟩ := exec_files (I := fun _ => True) (fun _ _ hC => hC)
    (fun _ _ _ _ _ _ _ _ _ _ _ => trivial) (fun _ _ _ _ => trivial) trivial hmeets
  obtain ⟨hwp, hknown⟩ := hthreads pid t ht
  have hknown := hknown (by simp [hnext])
  obtain ⟨books, code⟩ := t
  cases code with
  | ret result => cases hnext
  | throw error => cases hnext
  | req r k =>
      obtain rfl := Option.some.inj hnext
      obtain ⟨hnone, sessionDir, hcommand, hplaced⟩ := hwp.1
      exact ⟨hnone, sessionDir, hcommand, fun a ha => hknown.placed a (hplaced a ha)⟩

/-- **No name of an artefact ever shows a part of it.**  In every run of any number of sessions that
submit one execution, in which nobody else touches what a session relies on or leaves a part of an
artefact at its name: whatever fails, is answered late or crashes, nothing lies at the name of an
artefact or the whole artefact does, with its mode. -/
theorem artifacts_whole (env : SubmitEnvironment) (params : SlurmSubmitParams) (host : RemoteHost)
    (hhost : host.Whole (params.IsArtifact env)) (labels : List SubmissionLabel)
    (hmeets : Runs.Meets (submissionSystem env params).step
      (fun c lab => Undisturbed env params c lab ∧ KeepsWhole env params c lab)
      (System.init host) labels) :
    (Runs.exec (submissionSystem env params).step (System.init host) labels).shared.Whole
      (params.IsArtifact env) := by
  refine (exec_files (I := fun host => host.Whole (params.IsArtifact env)) (fun _ _ hC => hC.1)
    (fun c pid i books r k hC hpid hwhole hknown hfits => ?_) (fun c changes hC hwhole => ?_)
    hhost hmeets).1
  · refine hwhole.perform artifactNames hknown hfits fun kind command hexec => ?_
    have hkept := hC.2 (fun pid' t hpid' ⟨_, r', hlab, hnext, hother⟩ => ?_) hwhole
    · rwa [step_run_shared hpid] at hkept
    · obtain ⟨rfl, -⟩ := Label.run.inj hlab
      obtain rfl := Option.some.inj (hpid.symm.trans hpid')
      exact hother kind command ((Option.some.inj hnext).symm.trans hexec)
  · exact hC.2 (fun _ _ _ ⟨_, _, hlab, _⟩ => by cases hlab) hwhole

end System

/-! ### What the scheduler has accepted -/

/-- What the end of a dispatch says of the jobs that were accepted. -/
def Accounted (jobs : List String) : Option (String × ExecAnswer) → Prop
  | none => jobs = []
  | some (command, answer) =>
      (jobs = [] ∨ jobs = [command]) ∧ (answer.IsRefusal → jobs = []) ∧
        ∀ stdout stderr, answer = .ended (some 0) stdout stderr → jobs = [command]

theorem jobs_change (host : RemoteHost) (changes : RemoteChanges) (pid : ℕ) :
    (host.change changes).jobs pid = host.jobs pid := by
  simp [RemoteHost.jobs]

theorem jobs_answer {α : Type} {host after : RemoteHost} {i : SshChoice} {result : Except SftpError α}
    (hafter : after.accepted = host.accepted) (pid : ℕ) :
    (host.answer i (result, after)).2.jobs pid = host.jobs pid := by
  refine Prog.fallible_state (P := fun after : RemoteHost => after.jobs pid = host.jobs pid) rfl ?_
  simp [RemoteHost.jobs, hafter]

/-- A dispatch adds its job, if the scheduler has accepted it. -/
theorem jobs_dispatch (host : RemoteHost) (pid : ℕ) (command : String) (i : SshChoice) :
    (host.exec pid .submission command i).2.jobs pid =
      if (host.exec pid .submission command i).1.accepts i then command :: host.jobs pid
      else host.jobs pid := by
  have hchange := jobs_change host i.changes pid
  have haccept : ∀ after : RemoteHost,
      RemoteHost.jobs { after with accepted := (pid, command) :: after.accepted } pid =
        command :: after.jobs pid := fun after => by simp [RemoteHost.jobs]
  unfold RemoteHost.exec
  split
  · rfl
  · dsimp only
    split
    · rw [haccept, hchange]
    · exact hchange

/-- Only the dispatch of a session adds to its jobs. -/
theorem jobs_perform {host : RemoteHost} {pid pid' : ℕ} {r : SshRequest} {i : SshChoice}
    (h : pid' ≠ pid ∨ ∀ command, r ≠ .exec .submission command) :
    (r.perform pid i host).2.jobs pid' = host.jobs pid' := by
  cases r with
  | connect => rfl
  | disconnect => rfl
  | nowV7 => rfl
  | openSftp => rfl
  | exec kind command =>
      have hchange := jobs_change host i.changes pid'
      simp only [SshRequest.perform]
      unfold RemoteHost.exec
      split
      · rfl
      · cases kind with
        | ordinary => exact hchange
        | submission =>
            have hne : pid' ≠ pid := h.resolve_right fun hother => hother command rfl
            dsimp only
            split
            · rw [← hchange]
              simp [RemoteHost.jobs, hne.symm]
            · exact hchange
  | createNew path =>
      simp only [SshRequest.perform]
      split
      · rfl
      · exact jobs_answer (by rfl) pid'
  | setPermissions path mode => exact jobs_answer (by rfl) pid'
  | writeAll path content => rfl
  | syncAll path => exact jobs_answer (by rfl) pid'
  | close path => exact jobs_answer (by rfl) pid'
  | shutdown => exact jobs_answer (by rfl) pid'
  | symlinkMetadata path =>
      simp only [SshRequest.perform]
      split
      · rfl
      · exact jobs_answer (by rfl) pid'
  | rename source target =>
      simp only [SshRequest.perform]
      split
      · rfl
      · exact jobs_answer (by rfl) pid'
  | removeFile path =>
      simp only [SshRequest.perform]
      split
      · rfl
      · exact jobs_answer (by rfl) pid'

/-- Only a dispatch is booked as one. -/
theorem learn_dispatched {books : SubmissionBooks} {r : SshRequest} (answer : r.Answer)
    (h : ∀ command, r ≠ .exec .submission command) :
    (books.learn r answer).dispatched = books.dispatched := by
  cases r with
  | exec kind command =>
      cases kind with
      | ordinary => rfl
      | submission => exact absurd rfl (h command)
  | createNew path => cases answer <;> rfl
  | symlinkMetadata path => cases answer <;> rfl
  | rename source target => cases answer <;> rfl
  | connect | disconnect | nowV7 | openSftp | setPermissions | writeAll | syncAll | close
  | removeFile | shutdown => rfl

/-- The books account for what was accepted with every answer. -/
theorem Accounted.learn {host : RemoteHost} {pid : ℕ} {r : SshRequest} {i : SshChoice}
    {books : SubmissionBooks} {artifact : String → List UInt8 → Prop}
    {ready : List Artifact → String → Prop} (h : Accounted (host.jobs pid) books.dispatched)
    (hfits : books.Fits artifact ready r) :
    Accounted ((r.perform pid i host).2.jobs pid)
      (books.learn r (r.perform pid i host).1).dispatched := by
  by_cases hdispatch : ∃ command, r = .exec .submission command
  · obtain ⟨command, rfl⟩ := hdispatch
    have hnone : host.jobs pid = [] := by
      rw [hfits.1] at h
      exact h
    have hjobs := jobs_dispatch host pid command i
    rw [hnone] at hjobs
    simp only [SshRequest.perform, SubmissionBooks.learn]
    generalize (host.exec pid .submission command i).1 = answer at hjobs
    rw [hjobs]
    refine ⟨?_, fun hrefusal => ?_, fun stdout stderr hended => ?_⟩
    · split
      · exact .inr rfl
      · exact .inl rfl
    · rcases answer with error | error | ⟨_ | status, stdout, stderr⟩
      · rfl
      · exact hrefusal.elim
      · exact hrefusal.elim
      · have hrefused : status ≠ 0 := hrefusal
        simp [ExecAnswer.accepts, hrefused]
    · rw [hended]
      rfl
  · have hother : ∀ command, r ≠ .exec .submission command := fun command heq =>
      hdispatch ⟨command, heq⟩
    rw [jobs_perform (.inr hother), learn_dispatched _ hother]
    exact h

/-- A process without an environment. -/
def bareEnvironment : SubmitEnvironment where
  readEnvironment := fun _ => none
  validatedDestinationUri := .ok
  scalars := .plain

/-- A submission of an empty graph. -/
def emptySubmission : SlurmSubmitParams where
  executionId := "e"
  sessionId := "s"
  pgtJson := .arr [.str "graph", .arr []]
  deployment :=
    { loginNode := "login"
      account := "project"
      homeDir := "/home/user"
      logDir := "/home/user/log"
      dlgRoot := "/dlg"
      facility := "cluster"
      runtimeContract := {}
      execPrefix := "srun" }
  username := "user"
  publicationExecutionAttempt := none

/-- A login node with no files. -/
def emptyHost : RemoteHost := ⟨fun _ => none, []⟩

/-- A request that is carried out and sessionRun. -/
def carriedOut : SshChoice where
  ends := .ended (some 0) "Created job submission script /dlg/s/job.sh" ""
  written := 10000
  mode := submissionMode

/-- The run of one session. -/
def sessionRun (choices : List SshChoice) : List SubmissionLabel :=
  .start 0 () :: choices.map fun i => .run 0 i

/-- The command that a request dispatches. -/
def SshRequest.dispatches : SshRequest → Option String
  | .exec .submission command => some command
  | _ => none

theorem SshRequest.eq_of_dispatches {r : SshRequest} {command : String}
    (h : r.dispatches = some command) : r = .exec .submission command := by
  unfold dispatches at h
  split at h
  · rw [Option.some.inj h]
  · cases h

section Alone

variable {env : SubmitEnvironment} {params : SlurmSubmitParams}

/-- There is no session but one. -/
def OnlySession (c : SubmissionConfig) : Prop := ∀ pid t, c.threads pid = some t → pid = 0

theorem OnlySession.step {c : SubmissionConfig} {lab : SubmissionLabel} (h : OnlySession c)
    (hlab : lab = .start 0 () ∨ ∃ i, lab = .run 0 i) :
    OnlySession ((submissionSystem env params).step c lab) := by
  rcases hlab with rfl | ⟨i, rfl⟩
  · cases hpid : c.threads 0 with
    | some t =>
        simp only [System.step, hpid]
        exact h
    | none =>
        simp only [System.step, hpid]
        exact System.threads_update (P := fun pid _ => pid = 0) (fun _ _ => rfl) fun q t _ => h q t
  · rcases hpid : c.threads 0 with _ | ⟨books, result | error | ⟨r, k⟩⟩
    · simp only [System.step, hpid]
      exact h
    · simp only [System.step, hpid]
      exact h
    · simp only [System.step, hpid]
      exact h
    · simp only [System.step, hpid]
      exact System.threads_update (P := fun pid _ => pid = 0) (fun _ _ => rfl) fun q t _ => h q t

/-- A command that changes nothing. -/
theorem exec_files_eq {host : RemoteHost} {pid : ℕ} {kind : RemoteCommandKind} {command : String}
    {i : SshChoice} (hi : i.changes = []) :
    (host.exec pid kind command i).2.files = host.files := by
  unfold RemoteHost.exec
  rw [hi]
  split
  · rfl
  · cases kind with
    | ordinary => rfl
    | submission =>
        dsimp only
        split <;> rfl

/-- A session alone, whose commands change nothing, is not disturbed. -/
theorem OnlySession.undisturbed {c : SubmissionConfig} (h : OnlySession c) {i : SshChoice}
    (hi : i.changes = []) :
    Undisturbed env params c (.run 0 i) ∧ KeepsWhole env params c (.run 0 i) := by
  have hfiles : (∀ t, c.threads 0 = some t → ¬ IsOwnTransfer 0 t (.run 0 i)) →
      ((submissionSystem env params).step c (.run 0 i)).shared.files = c.shared.files := by
    intro hnot
    rcases hpid : c.threads 0 with _ | ⟨books, result | error | ⟨r, k⟩⟩
    · simp only [System.step, hpid]
    · simp only [System.step, hpid]
    · simp only [System.step, hpid]
    · rw [step_run_shared hpid]
      by_cases hexec : ∃ kind command, r = .exec kind command
      · obtain ⟨kind, command, rfl⟩ := hexec
        exact exec_files_eq hi
      · exact absurd ⟨i, r, rfl, rfl, fun kind command heq => hexec ⟨kind, command, heq⟩⟩
          (hnot _ hpid)
  refine ⟨fun pid t hpid _ hnot path _ => ?_, fun hnot hwhole path content hartifact => ?_⟩
  · obtain rfl := h pid t hpid
    rw [hfiles fun t' ht' => Option.some.inj (hpid.symm.trans ht') ▸ hnot]
  · rw [hfiles fun t ht => hnot 0 t ht]
    exact hwhole path content hartifact

theorem meets_run {choices : List SshChoice} (hquiet : ∀ i ∈ choices, i.changes = [])
    {c : SubmissionConfig} (h : OnlySession c) :
    Runs.Meets (submissionSystem env params).step
      (fun c lab => Undisturbed env params c lab ∧ KeepsWhole env params c lab) c
      (choices.map fun i => .run 0 i) := by
  induction choices generalizing c with
  | nil => exact trivial
  | cons i choices ih =>
      exact ⟨h.undisturbed (hquiet i List.mem_cons_self),
        ih (fun i hi => hquiet i (List.mem_cons_of_mem _ hi)) (h.step (.inr ⟨i, rfl⟩))⟩

/-- A run of a session alone. -/
theorem meets_alone (env : SubmitEnvironment) (params : SlurmSubmitParams) (host : RemoteHost)
    (choices : List SshChoice) (hquiet : ∀ i ∈ choices, i.changes = []) :
    Runs.Meets (submissionSystem env params).step
      (fun c lab => Undisturbed env params c lab ∧ KeepsWhole env params c lab) (System.init host)
      (sessionRun choices) := by
  have hinit : OnlySession (System.init host) := fun _ _ ht => by cases ht
  refine ⟨⟨fun _ _ hpid => (by cases hpid), fun _ hwhole => ?_⟩,
    meets_run hquiet (hinit.step (.inl rfl))⟩
  exact hwhole

end Alone

/-- A session alone finds all artefacts at its dispatch. -/
theorem dispatch_finds_artifacts_alone :
    ∃ (t : SubmissionThread) (command sessionDir : String), t.code.next = some (.exec .submission command) ∧
      emptySubmission.IsSubmissionOf bareEnvironment sessionDir command ∧
      ∀ a ∈ emptySubmission.artifacts bareEnvironment ++ [SlurmSubmitParams.shim sessionDir],
        (Runs.exec (submissionSystem bareEnvironment emptySubmission).step
          (System.init emptyHost) (sessionRun (List.replicate 37 carriedOut))).shared.files a.path =
            some (.file a.content submissionMode) := by
  have hmeets := meets_alone bareEnvironment emptySubmission emptyHost
    (List.replicate 37 carriedOut) fun i hi => by
      rw [List.eq_of_mem_replicate hi]
      rfl
  have hreached : (((Runs.exec (submissionSystem bareEnvironment emptySubmission).step
      (System.init emptyHost) (sessionRun (List.replicate 37 carriedOut))).threads 0).bind
        fun t => t.code.next.bind SshRequest.dispatches).isSome = true := by
    decide +kernel
  obtain ⟨command, hreached⟩ := Option.isSome_iff_exists.mp hreached
  obtain ⟨t, ht, hreached⟩ := Option.bind_eq_some_iff.mp hreached
  obtain ⟨r, hnext, hdispatches⟩ := Option.bind_eq_some_iff.mp hreached
  rw [SshRequest.eq_of_dispatches hdispatches] at hnext
  obtain ⟨-, sessionDir, hcommand, hfiles⟩ := dispatch_finds_artifacts bareEnvironment
    emptySubmission emptyHost (sessionRun (List.replicate 37 carriedOut))
    (hmeets.mono (fun _ => True) (fun _ _ _ _ => trivial) (fun _ _ _ h => h.1) trivial) 0 t command
    ht hnext
  exact ⟨t, command, sessionDir, hnext, hcommand, hfiles⟩

/-- A rename whose answer is lost, and the end of the connection. -/
def lostRename : List SshChoice :=
  List.replicate 10 carriedOut ++ [{ carriedOut with failure := some (.ioError, true) }] ++
    List.replicate 5 { carriedOut with failure := some (.ioError, false), text := some "closed" }

/-- The whole graph lies at its name when the session has given up. -/
theorem artifacts_whole_lostRename :
    (Runs.exec (submissionSystem bareEnvironment emptySubmission).step (System.init emptyHost)
      (sessionRun lostRename)).shared.files emptySubmission.pgtRemotePath =
        some (.file (textBytes (emptySubmission.pgtText bareEnvironment)) submissionMode) := by
  have hmeets := meets_alone bareEnvironment emptySubmission emptyHost lostRename
    fun i hi => by
      have hall : (lostRename.all fun i => i.changes.isEmpty) = true := by decide +kernel
      exact List.isEmpty_iff.mp (List.all_eq_true.mp hall i hi)
  have hpresent : ((Runs.exec (submissionSystem bareEnvironment emptySubmission).step
      (System.init emptyHost) (sessionRun lostRename)).shared.files
        emptySubmission.pgtRemotePath).isSome = true := by
    decide +kernel
  rcases artifacts_whole bareEnvironment emptySubmission emptyHost (fun _ _ _ => .inl rfl)
      (sessionRun lostRename) hmeets emptySubmission.pgtRemotePath _ (.inl List.mem_cons_self) with
    hnone | hwhole
  · rw [hnone] at hpresent
    cases hpresent
  · exact hwhole

/-- A login node that refuses the first command. -/
def refusedCommand : List SshChoice :=
  [carriedOut, { carriedOut with ends := .ended (some 1) "" "quota exceeded" }]

end Beampipe
