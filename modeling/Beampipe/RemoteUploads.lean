/-
The atomic uploads of submission artefacts.

An artefact is written to a temporary file beside its name, its mode and its size are verified, and
the file is renamed onto the name.  A request can fail before or after it is carried out, a write can
stop at any byte whatever is answered, and the mode of a file is what the host makes of it.  After a
failure the temporary file and the artefact are removed, since a lost answer can hide a rename.

What lies at a name is a regular file with its bytes and its mode, or something else.  The host is
trusted for what it says of a file and for the rename.  A handle of a file is the name that it was
created under.

Main definitions:

* `Beampipe.RemoteNode`, `Beampipe.RemoteHost` — what lies on the login node, and the jobs that its
  scheduler has accepted;
* `Beampipe.SshRequest`, `Beampipe.SshRequest.perform` — the requests of a session;
* `Beampipe.uploadFileAtomic`, `Beampipe.uploadTextAtomic` — the upload;
* `Beampipe.UploadBooks` — what a session knows of the files from the answers;
* `Beampipe.RemoteHost.Known` — the books are right about the host;
* `Beampipe.RemoteHost.Whole` — nothing but whole artefacts lies at the names of artefacts.

Main results:

* `Beampipe.wp_uploadTextAtomic` — what an upload requests, and what it leaves in the books;
* `Beampipe.RemoteHost.Known.learn` — the books stay right with an answer;
* `Beampipe.RemoteHost.Whole.perform` — a request of an upload leaves whole artefacts only.
-/

import Beampipe.Programs
import Beampipe.SlurmCancellation
import Beampipe.SlurmPaths

set_option relaxedAutoImplicit false
set_option autoImplicit false

namespace Beampipe

open Programs
open SlurmCancellation (OrchestrationError)

/-! ### The login node -/

/-- The permission bits of a file. -/
abbrev FileMode : Type := Fin 4096

/-- What lies at a name: a regular file, or something else. -/
inductive RemoteNode where
  | file (content : List UInt8) (mode : FileMode)
  | other
  deriving DecidableEq, Repr

/-- The names of the login node, and the jobs that the scheduler has accepted, each with the session
that submitted it. -/
structure RemoteHost where
  files : String → Option RemoteNode
  accepted : List (ℕ × String)

/-- What the login node changes by itself or for others: what lies at some names. -/
abbrev RemoteChanges : Type := List (String × Option RemoteNode)

namespace RemoteHost

/-- Something lies at a name, or nothing. -/
def set (host : RemoteHost) (path : String) (node : Option RemoteNode) : RemoteHost :=
  { host with files := Function.update host.files path node }

/-- The changes, one after the other. -/
def change (host : RemoteHost) (changes : RemoteChanges) : RemoteHost :=
  changes.foldl (fun host change => host.set change.1 change.2) host

/-- The jobs that were accepted from a session. -/
def jobs (host : RemoteHost) (pid : ℕ) : List String :=
  (host.accepted.filter fun job => job.1 = pid).map Prod.snd

@[simp] theorem set_accepted (host : RemoteHost) (path : String) (node : Option RemoteNode) :
    (host.set path node).accepted = host.accepted := rfl

@[simp] theorem set_files_self (host : RemoteHost) (path : String) (node : Option RemoteNode) :
    (host.set path node).files path = node := Function.update_self ..

theorem set_files_of_ne {host : RemoteHost} {path other : String} {node : Option RemoteNode}
    (h : other ≠ path) : (host.set path node).files other = host.files other :=
  Function.update_of_ne h ..

@[simp] theorem change_accepted (host : RemoteHost) (changes : RemoteChanges) :
    (host.change changes).accepted = host.accepted := by
  induction changes generalizing host with
  | nil => rfl
  | cons change changes ih => exact ih (host.set change.1 change.2)

end RemoteHost

/-! ### Requests -/

/-- `SftpError`, as far as `sftp_error` tells the errors apart. -/
inductive SftpError where
  | noSuchFile
  | permDenied
  | failure
  | badMessage
  | opUnsupported
  | unknown
  | unrecognized
  | unsupportedSftpProtocol
  | sftpServerHelloMsgTooLong
  | unsupportedExtension
  | invalidResponseId
  | invalidResponse
  | tooLong
  | ioError
  | awaitableError
  | backgroundTaskFailure
  | formatError
  | recursiveErrors
  | other
  deriving DecidableEq, Repr

/-- The category of an error. -/
def SftpError.category : SftpError → String
  | .noSuchFile => "remote path was not found"
  | .permDenied => "remote permission was denied"
  | .failure => "remote operation failed"
  | .badMessage => "remote rejected the request"
  | .opUnsupported => "remote operation is unsupported"
  | .unknown => "remote returned an unknown status"
  | .unrecognized => "remote returned an unrecognized status"
  | .unsupportedSftpProtocol => "server does not support SFTP v3"
  | .sftpServerHelloMsgTooLong => "server hello exceeded the safe limit"
  | .unsupportedExtension => "required server extension is unavailable"
  | .invalidResponseId => "server returned an invalid response ID"
  | .invalidResponse => "server returned an invalid response"
  | .tooLong => "protocol value exceeded the safe limit"
  | .ioError => "SFTP transport failed"
  | .awaitableError => "SFTP response wait failed"
  | .backgroundTaskFailure => "SFTP background task failed"
  | .formatError => "SFTP message encoding failed"
  | .recursiveErrors => "SFTP operation and cleanup failed"
  | .other => "SFTP operation failed"

/-- `protocol_error`. -/
def protocolError (message : String) : OrchestrationError := .backend ("SFTP transfer: " ++ message)

/-- `sftp_error`. -/
def sftpError (operation : String) (error : SftpError) : OrchestrationError :=
  protocolError (operation ++ ": " ++ error.category)

/-- `is_missing`. -/
def SftpError.isMissing (error : SftpError) : Bool := error == .noSuchFile

/-- `MetaData`, as far as it is checked; the server can leave a part out. -/
structure RemoteMetadata where
  isFile : Option Bool
  permissions : Option ℕ
  len : Option ℕ
  deriving DecidableEq, Repr

/-- `RemoteCommandKind`. -/
inductive RemoteCommandKind where
  | ordinary
  | submission
  deriving DecidableEq, Repr

/-- How a command ends for the client: its channel is not opened, its request is not answered, or
its output ends, with an exit status or without one. -/
inductive ExecAnswer where
  | channelFailed (error : String)
  | notObserved (error : String)
  | ended (exitStatus : Option ℕ) (stdout stderr : String)
  deriving DecidableEq, Repr

/-- The requests of a session.  `connect` and `openSftp` stand for the requests that open a session
and a channel for SFTP, and are answered with the text of their error. -/
inductive SshRequest where
  | connect
  | exec (kind : RemoteCommandKind) (command : String)
  | disconnect
  | nowV7
  | openSftp
  | createNew (path : String)
  | setPermissions (path : String) (mode : FileMode)
  | writeAll (path : String) (content : List UInt8)
  | syncAll (path : String)
  | close (path : String)
  | symlinkMetadata (path : String)
  | rename (source target : String)
  | removeFile (path : String)
  | shutdown
  deriving DecidableEq, Repr

/-- The answer to a request. -/
abbrev SshRequest.Answer : SshRequest → Type
  | connect | openSftp => Except String Unit
  | exec _ _ => ExecAnswer
  | disconnect => Unit
  | nowV7 => Uuid
  | symlinkMetadata _ => Except SftpError RemoteMetadata
  | createNew _ | setPermissions _ _ | writeAll _ _ | syncAll _ | close _ | rename _ _
  | removeFile _ | shutdown => Except SftpError Unit

/-- A part of a submission. -/
abbrev Submission (α : Type) : Type := Prog SshRequest SshRequest.Answer OrchestrationError α

namespace Submission

/-- A request. -/
def call (r : SshRequest) : Submission r.Answer := Prog.call r

/-- A request whose text of an error ends the submission. -/
def liftText (answer : Except String Unit) : Submission Unit :=
  Prog.ofExcept (answer.mapError .backend)

/-- A request over SFTP whose error ends the submission. -/
def liftSftp {α : Type} (operation : String) (answer : Except SftpError α) : Submission α :=
  Prog.ofExcept (answer.mapError (sftpError operation))

end Submission

/-! ### What a request does -/

/-- What neither the session nor the host determines: whether a request fails, and then whether it
was carried out; how a command ends, what it changes and whether the scheduler accepts its job when
that is not known from its end; the bytes that a write writes and the mode that a file gets; what the
host tells of a file; and a random part of a name. -/
structure SshChoice where
  failure : Option (SftpError × Bool) := none
  text : Option String := none
  ends : ExecAnswer := .ended (some 0) "" ""
  changes : RemoteChanges := []
  accepts : Bool := false
  written : ℕ := 0
  mode : FileMode := 0
  typeBits : ℕ := 0
  told : Bool × Bool × Bool := (true, true, true)
  uuid : Uuid := 0
  deriving DecidableEq, Repr

/-- What the host tells of a node. -/
def RemoteNode.metadata (node : RemoteNode) (i : SshChoice) : RemoteMetadata :=
  match node with
  | .file content mode =>
      { isFile := if i.told.1 then some true else none
        permissions := if i.told.2.1 then some (4096 * i.typeBits + mode.val) else none
        len := if i.told.2.2 then some content.length else none }
  | .other => ⟨some false, none, none⟩

/-- What becomes of a regular file. -/
def RemoteNode.modify (f : List UInt8 → FileMode → List UInt8 × FileMode) :
    RemoteNode → RemoteNode
  | .file content mode => .file (f content mode).1 (f content mode).2
  | .other => .other

/-- `sbatch` exits with success exactly when the scheduler has accepted the job. -/
def ExecAnswer.accepts (i : SshChoice) : ExecAnswer → Bool
  | .channelFailed _ => false
  | .notObserved _ | .ended none _ _ => i.accepts
  | .ended (some status) _ _ => status = 0

namespace RemoteHost

/-- A request with an answer, which can fail before or after it is carried out. -/
def answer {α : Type} (host : RemoteHost) (i : SshChoice)
    (outcome : Except SftpError α × RemoteHost) : Except SftpError α × RemoteHost :=
  Prog.fallible i.failure host outcome

/-- A request that changes nothing. -/
@[simp] theorem answer_self {α : Type} (host : RemoteHost) (i : SshChoice)
    (result : Except SftpError α) : (host.answer i (result, host)).2 = host :=
  Prog.fallible_state (P := fun after : RemoteHost => after = host) rfl rfl

/-- The regular file at a name changes. -/
def modify (host : RemoteHost) (path : String)
    (f : List UInt8 → FileMode → List UInt8 × FileMode) : RemoteHost :=
  host.set path ((host.files path).map (RemoteNode.modify f))

theorem modify_files {host : RemoteHost} {path : String} {content : List UInt8} {mode : FileMode}
    (f : List UInt8 → FileMode → List UInt8 × FileMode)
    (hfile : host.files path = some (.file content mode)) :
    (host.modify path f).files path = some (.file (f content mode).1 (f content mode).2) := by
  rw [modify, set_files_self, hfile]
  rfl

/-- A command is run. -/
def exec (host : RemoteHost) (pid : ℕ) (kind : RemoteCommandKind) (command : String)
    (i : SshChoice) : ExecAnswer × RemoteHost :=
  match i.ends with
  | .channelFailed error => (.channelFailed error, host)
  | ends =>
      let changed := host.change i.changes
      match kind with
      | .ordinary => (ends, changed)
      | .submission =>
          (ends, if ends.accepts i then
            { changed with accepted := (pid, command) :: changed.accepted } else changed)

end RemoteHost

/-- A request of a session is carried out. -/
def SshRequest.perform (pid : ℕ) (r : SshRequest) (i : SshChoice) (host : RemoteHost) :
    r.Answer × RemoteHost :=
  match r with
  | .connect | .openSftp => (match i.text with | some text => .error text | none => .ok (), host)
  | .exec kind command => host.exec pid kind command i
  | .disconnect => ((), host)
  | .nowV7 => (i.uuid, host)
  | .createNew path =>
      match host.files path with
      | some _ => (.error .failure, host)
      | none => host.answer i (.ok (), host.set path (some (.file [] i.mode)))
  | .setPermissions path _ =>
      host.answer i (.ok (), host.modify path fun content _ => (content, i.mode))
  | .writeAll path bytes =>
      -- a write that fails may have written a part
      ((host.answer i (.ok (), host)).1,
        host.modify path fun content mode => (content ++ bytes.take i.written, mode))
  | .syncAll _ | .close _ | .shutdown => host.answer i (.ok (), host)
  | .symlinkMetadata path =>
      match host.files path with
      | none => (.error .noSuchFile, host)
      | some node => host.answer i (.ok (node.metadata i), host)
  | .rename source target =>
      match host.files source with
      | none => (.error .noSuchFile, host)
      | some node => host.answer i (.ok (), (host.set source none).set target (some node))
  | .removeFile path =>
      match host.files path with
      | none => (.error .noSuchFile, host)
      | some _ => host.answer i (.ok (), host.set path none)

/-! ### The upload -/

/-- `SUBMISSION_ARTIFACT_MODE`, `0o600`. -/
def submissionArtifactMode : ℕ := 384

/-- The octal digits of a number, as many as asked for. -/
def octalDigits : ℕ → ℕ → List Char
  | 0, _ => []
  | count + 1, n => octalDigits count (n / 8) ++ [Nat.digitChar (n % 8)]

/-- `artifact_mode`: `0o600`, `0o640` or `0o644`. -/
def artifactMode (mode : ℕ) : Except OrchestrationError FileMode :=
  if mode = 384 ∨ mode = 416 ∨ mode = 420 then .ok (Fin.ofNat 4096 mode)
  else .error (protocolError "submission artifact mode must be 0600, 0640, or 0644")

/-- `ensure_regular_file`. -/
def ensureRegularFile (metadata : RemoteMetadata) (label : String) : Except OrchestrationError Unit :=
  if metadata.isFile = some true then .ok ()
  else .error (protocolError (label ++ " is not a regular file; refusing to follow it"))

/-- `ensure_mode`. -/
def ensureMode (metadata : RemoteMetadata) (expected : FileMode) (label : String) :
    Except OrchestrationError Unit :=
  match metadata.permissions with
  | none => .error (protocolError "SFTP server omitted Unix permissions")
  | some permissions =>
      if permissions % 4096 = expected.val then .ok ()
      else .error (protocolError
        (label ++ " permissions are not " ++ String.ofList (octalDigits 4 expected.val)))

/-- `ensure_size`. -/
def ensureSize (metadata : RemoteMetadata) (expected : ℕ) (label : String) :
    Except OrchestrationError Unit :=
  match metadata.len with
  | none => .error (protocolError "SFTP server omitted file size")
  | some observed =>
      if observed = expected then .ok ()
      else .error (protocolError (label ++ " size does not match the uploaded content"))

/-- The checks of a file. -/
def ensureFile (metadata : RemoteMetadata) (mode : FileMode) (size : ℕ) (label : String) :
    Except OrchestrationError Unit := do
  ensureRegularFile metadata label
  ensureMode metadata mode label
  ensureSize metadata size label

/-- `validate_remote_path`. -/
def validateRemotePath (path label : String) : Except OrchestrationError Unit :=
  if path.toList.head? != some '/' || path.toList.any isControl ||
      (splitSlash path.toList).any fun part => part == ['.'] || part == ['.', '.'] then
    .error (.backend (label ++ " must be an absolute path without traversal components"))
  else .ok ()

open Submission

/-- `upload_file_atomic_inner`. -/
def uploadFileAtomicInner (finalPath temporaryPath : String) (content : List UInt8)
    (mode : FileMode) (label : String) : Submission Unit := do
  let temporaryLabel := "temporary " ++ label
  liftSftp ("create " ++ temporaryLabel) (← call (.createNew temporaryPath))
  liftSftp ("set " ++ temporaryLabel ++ " permissions") (← call (.setPermissions temporaryPath mode))
  liftSftp ("write " ++ temporaryLabel) (← call (.writeAll temporaryPath content))
  liftSftp ("sync " ++ temporaryLabel) (← call (.syncAll temporaryPath))
  liftSftp ("close " ++ temporaryLabel) (← call (.close temporaryPath))
  let temporaryMetadata ←
    liftSftp ("verify " ++ temporaryLabel) (← call (.symlinkMetadata temporaryPath))
  Prog.ofExcept (ensureFile temporaryMetadata mode content.length temporaryLabel)
  liftSftp ("atomically rename " ++ label) (← call (.rename temporaryPath finalPath))
  let finalMetadata ← liftSftp ("verify " ++ label) (← call (.symlinkMetadata finalPath))
  Prog.ofExcept (ensureFile finalMetadata mode content.length label)

/-- `remove_file_if_present`. -/
def removeFileIfPresent (path : String) : Submission Unit := do
  match ← call (.removeFile path) with
  | .ok () => pure ()
  | .error error => if error.isMissing then pure () else .throw (sftpError "remove remote file" error)

/-- The files of a failed upload are removed, as far as that is possible. -/
def removeAfterFailure (finalPath temporaryPath : String) (error : OrchestrationError) :
    Submission Unit := do
  let _ ← (removeFileIfPresent temporaryPath).attempt
  let _ ← (removeFileIfPresent finalPath).attempt
  .throw error

/-- `upload_file_atomic_with_mode`. -/
def uploadFileAtomicWithMode (finalPath temporaryPath : String) (content : List UInt8)
    (mode : FileMode) (label : String) : Submission Unit := do
  match ← (uploadFileAtomicInner finalPath temporaryPath content mode label).attempt with
  | .ok () => pure ()
  | .error error => removeAfterFailure finalPath temporaryPath error

/-- `upload_file_atomic`. -/
def uploadFileAtomic (finalPath temporaryPath : String) (content : List UInt8) (mode : ℕ) :
    Submission Unit := do
  let mode ← Prog.ofExcept (artifactMode mode)
  uploadFileAtomicWithMode finalPath temporaryPath content mode "submission artifact"

/-- `remove_file_sftp_inner`. -/
def removeFileSftpInner (remotePath label : String) : Submission Unit := do
  Prog.ofExcept (validateRemotePath remotePath label)
  liftText (← call .openSftp)
  let result ← (removeFileIfPresent remotePath).attempt
  let closeResult := (← call .shutdown).mapError (sftpError "close SFTP session")
  Prog.ofExcept (result.bind fun _ => closeResult)

/-- `failed_atomic_upload_cleanup_paths`. -/
def failedAtomicUploadCleanupPaths (uploadCompleted : Bool) (temporaryPath finalPath : String) :
    List String :=
  if uploadCompleted then [finalPath] else [temporaryPath, finalPath]

/-- The removals of `finish_atomic_upload`; their results are ignored. -/
def cleanupPaths : List String → Submission Unit
  | [] => pure ()
  | path :: paths => do
      let _ ← (removeFileSftpInner path "failed upload artifact").attempt
      cleanupPaths paths

/-- `finish_atomic_upload`. -/
def finishAtomicUpload (result closeResult : Except OrchestrationError Unit)
    (temporaryPath finalPath : String) : Submission Unit :=
  match result, closeResult with
  | .ok (), .ok () => pure ()
  | .error error, _ => do
      cleanupPaths (failedAtomicUploadCleanupPaths false temporaryPath finalPath)
      .throw error
  | .ok (), .error error => do
      cleanupPaths (failedAtomicUploadCleanupPaths true temporaryPath finalPath)
      .throw error

/-- `str::as_bytes`. -/
def textBytes (text : String) : List UInt8 := text.toByteArray.data.toList

/-- The name of the temporary file of an upload. -/
def temporaryPathOf (remotePath : String) (uuid : Uuid) : String :=
  remotePath ++ ".tmp-" ++ String.ofList (hexDigits 32 uuid)

/-- `upload_text_atomic`. -/
def uploadTextAtomic (remotePath content : String) : Submission Unit := do
  Prog.ofExcept (validateRemotePath remotePath "submission artifact")
  let temporaryPath := temporaryPathOf remotePath (← call .nowV7)
  liftText (← call .openSftp)
  let result ← (uploadFileAtomic remotePath temporaryPath (textBytes content)
    submissionArtifactMode).attempt
  let closeResult := (← call .shutdown).mapError (sftpError "close SFTP session")
  finishAtomicUpload result closeResult temporaryPath remotePath

/-! ### The books of a session -/

/-- The mode of the artefacts of a submission. -/
def submissionMode : FileMode := Fin.ofNat 4096 submissionArtifactMode

/-- What a session knows of a temporary file: what it has asked to be written, and the mode and the
length that it was told since. -/
structure TemporaryFile where
  path : String
  content : List UInt8 := []
  mode : Option ℕ := none
  len : Option ℕ := none
  deriving DecidableEq, Repr

/-- An artefact with its name. -/
structure Artifact where
  path : String
  content : List UInt8
  deriving DecidableEq, Repr

/-- What a session knows from the answers: its temporary file, the artefacts that lie at their names,
and how the dispatch of its submission has ended. -/
structure SubmissionBooks where
  temporary : Option TemporaryFile := none
  placed : List Artifact := []
  dispatched : Option (String × ExecAnswer) := none
  deriving DecidableEq, Repr

/-- The file was found to be what was asked for. -/
def TemporaryFile.Verified (t : TemporaryFile) : Prop :=
  t.mode = some submissionMode.val ∧ t.len = some t.content.length

namespace SubmissionBooks

/-- The temporary file changes. -/
def onTemporary (books : SubmissionBooks) (f : TemporaryFile → TemporaryFile) : SubmissionBooks :=
  { books with temporary := books.temporary.map f }

/-- What an answer adds to the books. -/
def learn (books : SubmissionBooks) (r : SshRequest) (answer : r.Answer) : SubmissionBooks :=
  match r with
  | .createNew path =>
      match answer with
      | .ok () => { books with temporary := some { path := path } }
      | .error _ => books
  | .setPermissions _ _ => books.onTemporary fun t => { t with mode := none }
  | .writeAll _ content => books.onTemporary fun t => { t with content := content, len := none }
  | .symlinkMetadata path =>
      match answer with
      | .ok metadata => books.onTemporary fun t =>
          if t.path = path then
            { t with mode := metadata.permissions.map (· % 4096), len := metadata.len } else t
      | .error _ => books
  | .rename _ target =>
      match answer with
      | .ok () =>
          { books with temporary := none
                       placed := (books.temporary.map fun t => ⟨target, t.content⟩).toList ++
                         books.placed }
      | .error _ => { books with temporary := none }
  | .removeFile path =>
      { books with temporary := books.temporary.filter (·.path ≠ path)
                   placed := books.placed.filter (·.path ≠ path) }
  | .exec .submission command => { books with dispatched := some (command, answer) }
  | .exec .ordinary _ | .connect | .disconnect | .nowV7 | .openSftp | .syncAll _ | .close _
  | .shutdown => books

/-- The names that a session relies on. -/
def held (books : SubmissionBooks) : List String :=
  (books.temporary.map (·.path)).toList ++ books.placed.map (·.path)

end SubmissionBooks

section Artifacts

variable (artifact : String → List UInt8 → Prop) (ready : List Artifact → String → Prop)

/-- The name of a temporary file of an artefact. -/
def IsTemporary (path : String) : Prop :=
  ∃ target content uuid, artifact target content ∧ path = temporaryPathOf target uuid

/-- Requests that fit the books: only temporary files are written to, a verified one is moved to the
name of its artefact, and a submission is dispatched once, when the host is ready for it. -/
def SubmissionBooks.Fits (books : SubmissionBooks) : SshRequest → Prop
  | .createNew path => IsTemporary artifact path
  | .setPermissions path _ =>
      IsTemporary artifact path ∧ ∃ t, books.temporary = some t ∧ t.path = path
  | .writeAll path _ =>
      IsTemporary artifact path ∧ ∃ t, books.temporary = some t ∧ t.path = path ∧ t.content = []
  | .rename source target =>
      ∃ t, books.temporary = some t ∧ t.path = source ∧ t.Verified ∧ artifact target t.content ∧
        ∀ a ∈ books.placed, a.path ≠ target
  | .exec .submission command => books.dispatched = none ∧ ready books.placed command
  | .exec .ordinary _ | .connect | .disconnect | .nowV7 | .openSftp | .syncAll _ | .close _
  | .symlinkMetadata _ | .removeFile _ | .shutdown => True

/-- A submission that ended with an ordinary error, without another dispatch. -/
def EndsBefore (dispatched : Option (String × ExecAnswer)) (error : OrchestrationError)
    (books : SubmissionBooks) : Prop :=
  (∃ message, error = .backend message) ∧ books.dispatched = dispatched

/-- The requests that remove files. -/
def SshRequest.IsCleanup : SshRequest → Prop
  | .openSftp | .removeFile _ | .shutdown => True
  | _ => False

variable {artifact ready} {books : SubmissionBooks}

/-- Cleaning up always fits, and dispatches nothing. -/
theorem wp_cleanup {α : Type} {p : Submission α} (hp : p.Requests SshRequest.IsCleanup) :
    p.wp SubmissionBooks.learn (SubmissionBooks.Fits artifact ready)
      (fun _ (after : SubmissionBooks) => after.dispatched = books.dispatched)
      (fun _ (after : SubmissionBooks) => after.dispatched = books.dispatched) books := by
  refine Prog.wp_of_requests (K := fun after : SubmissionBooks =>
    after.dispatched = books.dispatched) hp (fun r after hr _ => ?_)
    (fun r answer after hr hafter => ?_) rfl
  · cases r <;> first | exact trivial | exact hr.elim
  · cases r <;> first | exact hafter | exact hr.elim

/-- What comes after a cleanup whose result is ignored. -/
theorem wp_attempt_cleanup {α : Type} {p : Submission Unit} (hp : p.Requests SshRequest.IsCleanup)
    {f : Except OrchestrationError Unit → Submission α} {Q : α → SubmissionBooks → Prop}
    {E : OrchestrationError → SubmissionBooks → Prop}
    (hf : ∀ result after, after.dispatched = books.dispatched →
      (f result).wp SubmissionBooks.learn (SubmissionBooks.Fits artifact ready) Q E after) :
    (p.attempt >>= f).wp SubmissionBooks.learn (SubmissionBooks.Fits artifact ready) Q E books :=
  Prog.wp_bind (Prog.wp_attempt (wp_cleanup hp)) hf

theorem requests_removeFileIfPresent (path : String) :
    (removeFileIfPresent path).Requests SshRequest.IsCleanup := by
  refine ⟨trivial, fun answer => ?_⟩
  rcases answer with error | ⟨⟩
  · change Prog.Requests _ (if error.isMissing then pure () else .throw _)
    split <;> exact trivial
  · exact trivial

theorem requests_removeFileSftpInner (path label : String) :
    (removeFileSftpInner path label).Requests SshRequest.IsCleanup := by
  refine Prog.requests_bind (Prog.requests_ofExcept _) fun _ => ?_
  refine Prog.requests_bind ((Prog.requests_call SshRequest.openSftp).mpr trivial) fun _ => ?_
  refine Prog.requests_bind (Prog.requests_ofExcept _) fun _ => ?_
  refine Prog.requests_bind (Prog.requests_attempt (requests_removeFileIfPresent path)) fun _ => ?_
  exact Prog.requests_bind ((Prog.requests_call SshRequest.shutdown).mpr trivial) fun _ =>
    Prog.requests_ofExcept _

/-- The files are removed as far as that is possible, whatever their removals answer. -/
theorem wp_cleanupPaths (paths : List String) {E : OrchestrationError → SubmissionBooks → Prop} :
    (cleanupPaths paths).wp SubmissionBooks.learn (SubmissionBooks.Fits artifact ready)
      (fun _ (after : SubmissionBooks) => after.dispatched = books.dispatched) E books := by
  induction paths generalizing books with
  | nil => exact rfl
  | cons path paths ih =>
      refine wp_attempt_cleanup (requests_removeFileSftpInner path _) fun _ after hafter => ?_
      rw [← hafter]
      exact ih

/-! ### What an upload knows -/

/-- An error that an answer brings. -/
theorem wp_liftSftp {α β : Type} {operation : String} {answer : Except SftpError α}
    {f : α → Submission β} {Q : β → SubmissionBooks → Prop}
    {dispatched : Option (String × ExecAnswer)} (hdispatched : books.dispatched = dispatched)
    (hf : ∀ a, answer = .ok a → (f a).wp SubmissionBooks.learn
      (SubmissionBooks.Fits artifact ready) Q (EndsBefore dispatched) books) :
    (Submission.liftSftp operation answer >>= f).wp SubmissionBooks.learn
      (SubmissionBooks.Fits artifact ready) Q (EndsBefore dispatched) books := by
  cases answer with
  | error error => exact ⟨⟨_, rfl⟩, hdispatched⟩
  | ok a => exact hf a rfl

theorem wp_liftText {α : Type} {answer : Except String Unit} {f : Unit → Submission α}
    {Q : α → SubmissionBooks → Prop} {dispatched : Option (String × ExecAnswer)}
    (hdispatched : books.dispatched = dispatched)
    (hf : answer = .ok () → (f ()).wp SubmissionBooks.learn
      (SubmissionBooks.Fits artifact ready) Q (EndsBefore dispatched) books) :
    (Submission.liftText answer >>= f).wp SubmissionBooks.learn
      (SubmissionBooks.Fits artifact ready) Q (EndsBefore dispatched) books := by
  cases answer with
  | error error => exact ⟨⟨_, rfl⟩, hdispatched⟩
  | ok a => exact hf rfl

/-- The checks of a file: its mode and its size are those expected, or the error says otherwise. -/
theorem ensureFile_cases (metadata : RemoteMetadata) (mode : FileMode) (size : ℕ) (label : String) :
    (∃ message, ensureFile metadata mode size label = .error (.backend message)) ∨
      (ensureFile metadata mode size label = .ok () ∧
        metadata.permissions.map (· % 4096) = some mode.val ∧ metadata.len = some size) := by
  unfold ensureFile ensureRegularFile ensureMode ensureSize protocolError
  obtain ⟨isFile, permissions, len⟩ := metadata
  by_cases hfile : isFile = some true
  · cases permissions with
    | none => exact .inl ⟨_, by simp [hfile]; rfl⟩
    | some permissions =>
        by_cases hmode : permissions % 4096 = mode.val
        · cases len with
          | none => exact .inl ⟨_, by simp [hfile, hmode]; rfl⟩
          | some len =>
              by_cases hlen : len = size
              · exact .inr ⟨by simp [hfile, hmode, hlen]; rfl, by simp [hmode], by simp [hlen]⟩
              · exact .inl ⟨_, by simp [hfile, hmode, hlen]; rfl⟩
        · exact .inl ⟨_, by simp [hfile, hmode]; rfl⟩
  · exact .inl ⟨_, by simp [hfile]; rfl⟩

/-- The upload of a file: it moves a verified temporary file, with the bytes of the artefact. -/
theorem wp_uploadFileAtomicInner {finalPath : String} {uuid : Uuid} {content : List UInt8}
    {label : String} {dispatched : Option (String × ExecAnswer)}
    (hartifact : artifact finalPath content)
    (hfresh : ∀ a ∈ books.placed, a.path ≠ finalPath) (hdispatched : books.dispatched = dispatched) :
    (uploadFileAtomicInner finalPath (temporaryPathOf finalPath uuid) content submissionMode
      label).wp SubmissionBooks.learn (SubmissionBooks.Fits artifact ready)
      (fun _ after => after.placed = ⟨finalPath, content⟩ :: books.placed ∧
        after.dispatched = dispatched) (EndsBefore dispatched) books := by
  have htemporary : IsTemporary artifact (temporaryPathOf finalPath uuid) :=
    ⟨finalPath, content, uuid, hartifact, rfl⟩
  generalize htemp : temporaryPathOf finalPath uuid = temporaryPath at htemporary
  obtain ⟨temporary, placed, sent⟩ := books
  obtain rfl : sent = dispatched := hdispatched
  unfold uploadFileAtomicInner
  -- the temporary file is created, and is empty
  refine ⟨htemporary, fun answer => wp_liftSftp (by cases answer <;> rfl) fun _ hanswer => ?_⟩
  subst hanswer
  refine ⟨⟨htemporary, _, rfl, rfl⟩, fun answer => wp_liftSftp rfl fun _ _ => ?_⟩
  refine ⟨⟨htemporary, _, rfl, rfl, rfl⟩, fun answer => wp_liftSftp rfl fun _ _ => ?_⟩
  refine ⟨trivial, fun answer => wp_liftSftp rfl fun _ _ => ?_⟩
  refine ⟨trivial, fun answer => wp_liftSftp rfl fun _ _ => ?_⟩
  -- what the host tells of it is checked
  refine ⟨trivial, fun answer => wp_liftSftp (by cases answer <;> rfl) fun metadata hanswer => ?_⟩
  subst hanswer
  rcases ensureFile_cases metadata submissionMode content.length ("temporary " ++ label) with
    ⟨message, herror⟩ | ⟨hok, hmode, hlen⟩
  · rw [herror]
    exact ⟨⟨message, rfl⟩, rfl⟩
  rw [hok]
  -- it is moved to the name of the artefact, which is looked at again
  refine ⟨⟨_, rfl, ?_, ?_, ?_, hfresh⟩, fun answer =>
    wp_liftSftp (by cases answer <;> rfl) fun _ hanswer => ?_⟩
  · simp
  · dsimp only
    rw [if_pos rfl]
    exact ⟨hmode, hlen⟩
  · simpa using hartifact
  subst hanswer
  refine ⟨trivial, fun answer => wp_liftSftp (by cases answer <;> rfl) fun metadata' hanswer => ?_⟩
  subst hanswer
  rcases ensureFile_cases metadata' submissionMode content.length label with
    ⟨message, herror⟩ | ⟨hok, -, -⟩
  · rw [herror]
    exact ⟨⟨message, rfl⟩, rfl⟩
  rw [hok]
  exact ⟨by simp [SubmissionBooks.learn, SubmissionBooks.onTemporary], rfl⟩

/-- The mode of the artefacts is accepted. -/
theorem artifactMode_submission : artifactMode submissionArtifactMode = .ok submissionMode := by
  decide

/-- How an upload ends: its artefact lies at its name, or its error is an ordinary one. -/
def Uploaded (finalPath : String) (content : List UInt8) (placed : List Artifact)
    (dispatched : Option (String × ExecAnswer)) :
    Except OrchestrationError Unit → SubmissionBooks → Prop
  | .ok (), after => after.placed = ⟨finalPath, content⟩ :: placed ∧ after.dispatched = dispatched
  | .error error, after => EndsBefore dispatched error after

/-- The upload, and the removal of what it may have left when it fails. -/
theorem wp_uploadFileAtomic {finalPath : String} {uuid : Uuid} {content : List UInt8}
    {dispatched : Option (String × ExecAnswer)} (hartifact : artifact finalPath content)
    (hfresh : ∀ a ∈ books.placed, a.path ≠ finalPath) (hdispatched : books.dispatched = dispatched) :
    (uploadFileAtomic finalPath (temporaryPathOf finalPath uuid) content submissionArtifactMode).wp
      SubmissionBooks.learn (SubmissionBooks.Fits artifact ready)
      (fun _ after => after.placed = ⟨finalPath, content⟩ :: books.placed ∧
        after.dispatched = dispatched) (EndsBefore dispatched) books := by
  unfold uploadFileAtomic
  rw [artifactMode_submission]
  change (uploadFileAtomicWithMode finalPath (temporaryPathOf finalPath uuid) content
    submissionMode "submission artifact").wp _ _ _ _ _
  unfold uploadFileAtomicWithMode
  refine Prog.wp_bind (Prog.wp_attempt (Q := Uploaded finalPath content books.placed dispatched)
    (wp_uploadFileAtomicInner hartifact hfresh hdispatched)) fun result after hafter => ?_
  rcases result with error | ⟨⟩
  · obtain ⟨herror, hsent⟩ := hafter
    refine wp_attempt_cleanup (requests_removeFileIfPresent _) fun _ after' hafter' => ?_
    refine wp_attempt_cleanup (requests_removeFileIfPresent _) fun _ after'' hafter'' => ?_
    exact ⟨herror, by rw [hafter'', hafter', hsent]⟩
  · exact hafter

/-- The end of an upload: a session that failed says nothing of either name. -/
theorem wp_finishAtomicUpload {result closeResult : Except OrchestrationError Unit}
    {temporaryPath finalPath : String} {content : List UInt8} {placed : List Artifact}
    {dispatched : Option (String × ExecAnswer)}
    (h : Uploaded finalPath content placed dispatched result books)
    (hclose : ∀ error, closeResult = .error error → ∃ message, error = .backend message) :
    (finishAtomicUpload result closeResult temporaryPath finalPath).wp SubmissionBooks.learn
      (SubmissionBooks.Fits artifact ready)
      (fun _ after => after.placed = ⟨finalPath, content⟩ :: placed ∧ after.dispatched = dispatched)
      (EndsBefore dispatched) books := by
  rcases result with error | ⟨⟩
  · obtain ⟨herror, hsent⟩ := h
    exact Prog.wp_bind (wp_cleanupPaths _) fun _ after hafter => ⟨herror, hafter.trans hsent⟩
  · rcases closeResult with error | ⟨⟩
    · exact Prog.wp_bind (wp_cleanupPaths _) fun _ after hafter =>
        ⟨hclose error rfl, hafter.trans h.2⟩
    · exact h

/-- **An upload.**  It writes to temporary files only, and moves none before it is verified; when it
ends well its artefact lies at its name, and otherwise its error is an ordinary one. -/
theorem wp_uploadTextAtomic {remotePath content : String}
    {dispatched : Option (String × ExecAnswer)}
    (hartifact : artifact remotePath (textBytes content))
    (hfresh : ∀ a ∈ books.placed, a.path ≠ remotePath) (hdispatched : books.dispatched = dispatched) :
    (uploadTextAtomic remotePath content).wp SubmissionBooks.learn
      (SubmissionBooks.Fits artifact ready)
      (fun _ after => after.placed = ⟨remotePath, textBytes content⟩ :: books.placed ∧
        after.dispatched = dispatched) (EndsBefore dispatched) books := by
  unfold uploadTextAtomic validateRemotePath
  split
  · exact ⟨⟨_, rfl⟩, hdispatched⟩
  refine ⟨trivial, fun uuid => ⟨trivial, fun answer => wp_liftText hdispatched fun _ => ?_⟩⟩
  refine Prog.wp_bind (Prog.wp_attempt
    (Q := Uploaded remotePath (textBytes content) books.placed dispatched)
    (wp_uploadFileAtomic hartifact hfresh hdispatched)) fun result after hafter =>
      ⟨trivial, fun answer => ?_⟩
  refine wp_finishAtomicUpload hafter fun error herror => ?_
  cases answer with
  | error e => exact ⟨_, (Except.error.inj herror).symm⟩
  | ok _ => cases herror

/-! ### The books are right -/

/-- What the books say of a temporary file: at least a part of the bytes is there, and what the host
told of the file is so. -/
def RemoteHost.Holds (host : RemoteHost) (t : TemporaryFile) : Prop :=
  ∃ content mode, host.files t.path = some (.file content mode) ∧ content <+: t.content ∧
    (∀ told, t.mode = some told → mode.val = told) ∧
    ∀ told, t.len = some told → content.length = told

/-- A verified file is what was asked for. -/
theorem RemoteHost.Holds.verified {host : RemoteHost} {t : TemporaryFile} (h : host.Holds t)
    (hverified : t.Verified) :
    host.files t.path = some (.file t.content submissionMode) := by
  obtain ⟨content, mode, hfile, hpart, hmode, hlen⟩ := h
  have hcontent : content = t.content := hpart.eq_of_length (hlen _ hverified.2)
  have hsame : mode = submissionMode := Fin.ext (hmode _ hverified.1)
  rw [hfile, hcontent, hsame]

/-- The books are right about the files of the host. -/
structure RemoteHost.Known (host : RemoteHost) (books : SubmissionBooks) : Prop where
  temporary : ∀ t, books.temporary = some t → host.Holds t ∧ ∀ a ∈ books.placed, a.path ≠ t.path
  placed : ∀ a ∈ books.placed, host.files a.path = some (.file a.content submissionMode)

namespace RemoteHost.Known

variable {host after : RemoteHost}

/-- What nobody touches stays known. -/
theorem mono (h : host.Known books)
    (hheld : ∀ path ∈ books.held, after.files path = host.files path) : after.Known books where
  temporary := fun t ht => by
    obtain ⟨⟨content, mode, hfile, hrest⟩, hplaced⟩ := h.temporary t ht
    refine ⟨⟨content, mode, ?_, hrest⟩, hplaced⟩
    rw [hheld t.path (by simp [SubmissionBooks.held, ht]), hfile]
  placed := fun a ha => by
    rw [hheld a.path (List.mem_append_right _ (List.mem_map_of_mem ha)), h.placed a ha]

/-- A session can forget. -/
theorem forget {temporary : Option TemporaryFile} {placed : List Artifact} (h : host.Known books)
    (htemporary : ∀ t, temporary = some t → books.temporary = some t)
    (hplaced : ∀ a ∈ placed, a ∈ books.placed) :
    host.Known { books with temporary := temporary, placed := placed } where
  temporary := fun t ht =>
    ⟨(h.temporary t (htemporary t ht)).1, fun a ha =>
      (h.temporary t (htemporary t ht)).2 a (hplaced a ha)⟩
  placed := fun a ha => h.placed a (hplaced a ha)

/-- Something happens to a name that the session does not rely on. -/
theorem set {path : String} {node : Option RemoteNode} (h : host.Known books)
    (hpath : path ∉ books.held) : (host.set path node).Known books :=
  h.mono fun _ hother => set_files_of_ne fun heq => hpath (heq ▸ hother)

/-- Something happens to the temporary file. -/
theorem onTemporary {t : TemporaryFile} {f : TemporaryFile → TemporaryFile} (h : host.Known books)
    (ht : books.temporary = some t) (hpath : (f t).path = t.path) (hholds : after.Holds (f t))
    (hother : ∀ path, path ≠ t.path → after.files path = host.files path) :
    after.Known (books.onTemporary f) where
  temporary := fun t' ht' => by
    obtain rfl : f t = t' := by simpa [SubmissionBooks.onTemporary, ht] using ht'
    exact ⟨hholds, by rw [hpath]; exact (h.temporary t ht).2⟩
  placed := fun a ha => by
    rw [hother a.path ((h.temporary t ht).2 a ha)]
    exact h.placed a ha

/-- A new file has a name that the session did not rely on. -/
theorem createNew {path : String} (mode : FileMode) (h : host.Known books)
    (hnone : host.files path = none) : path ∉ books.held ∧
      (host.set path (some (.file [] mode))).Known { books with temporary := some { path := path } } := by
  have hplaced : ∀ a ∈ books.placed, a.path ≠ path := fun a ha heq => by
    have hfile := h.placed a ha
    rw [heq, hnone] at hfile
    cases hfile
  refine ⟨fun hheld => ?_, ?_, fun a ha => ?_⟩
  · rcases List.mem_append.mp hheld with htemporary | hmem
    · cases ht : books.temporary with
      | none => simp [ht] at htemporary
      | some t =>
          obtain ⟨⟨content, mode', hfile, -⟩, -⟩ := h.temporary t ht
          obtain rfl : path = t.path := by simpa [ht] using htemporary
          rw [hnone] at hfile
          cases hfile
    · obtain ⟨a, ha, rfl⟩ := List.mem_map.mp hmem
      exact hplaced a ha rfl
  · intro t ht
    obtain rfl := Option.some.inj ht
    refine ⟨⟨[], mode, set_files_self .., List.nil_prefix, fun _ h => (by cases h),
      fun _ h => (by cases h)⟩, hplaced⟩
  · rw [set_files_of_ne (hplaced a ha)]
    exact h.placed a ha

/-- The host tells of a file what is so. -/
theorem holds_metadata {t : TemporaryFile} {node : RemoteNode} {i : SshChoice}
    (h : host.Holds t) (hfile : host.files t.path = some node) :
    host.Holds { t with mode := (node.metadata i).permissions.map (· % 4096),
                        len := (node.metadata i).len } := by
  obtain ⟨content, mode, hcontent, hpart, -⟩ := h
  obtain rfl : node = .file content mode := Option.some.inj (hfile.symm.trans hcontent)
  refine ⟨content, mode, hcontent, hpart, fun told htold => ?_, fun told htold => ?_⟩
  · simp only [RemoteNode.metadata] at htold
    split at htold
    · have hmode := mode.isLt
      simp only [Option.map_some, Option.some.injEq] at htold
      omega
    · cases htold
  · simp only [RemoteNode.metadata] at htold
    split at htold
    · exact Option.some.inj htold
    · cases htold

/-- A verified file is moved to a name that the session did not rely on. -/
theorem rename {t : TemporaryFile} {target : String} (h : host.Known books)
    (ht : books.temporary = some t) (hverified : t.Verified)
    (htarget : ∀ a ∈ books.placed, a.path ≠ target) :
    ((host.set t.path none).set target (host.files t.path)).Known
      { books with temporary := none, placed := ⟨target, t.content⟩ :: books.placed } where
  temporary := fun _ h => by cases h
  placed := fun a ha => by
    obtain ⟨hholds, hplaced⟩ := h.temporary t ht
    rcases List.mem_cons.mp ha with rfl | ha
    · rw [set_files_self, hholds.verified hverified]
    · rw [set_files_of_ne (htarget a ha), set_files_of_ne (hplaced a ha)]
      exact h.placed a ha

/-- **The books stay right with an answer**, when a command does not touch what the session relies
on. -/
theorem learn (h : host.Known books) {pid : ℕ} {r : SshRequest} {i : SshChoice}
    (hfits : books.Fits artifact ready r)
    (hexec : ∀ kind command, r = .exec kind command → ∀ path ∈ books.held,
      (r.perform pid i host).2.files path = host.files path) :
    (r.perform pid i host).2.Known (books.learn r (r.perform pid i host).1) := by
  cases r with
  | connect => exact h
  | disconnect => exact h
  | nowV7 => exact h
  | openSftp => exact h
  | syncAll path =>
      rw [SshRequest.perform, answer_self]
      exact h
  | close path =>
      rw [SshRequest.perform, answer_self]
      exact h
  | shutdown =>
      rw [SshRequest.perform, answer_self]
      exact h
  | exec kind command =>
      have hkept := h.mono (hexec kind command rfl)
      cases kind with
      | ordinary => exact hkept
      | submission => exact ⟨hkept.temporary, hkept.placed⟩
  | createNew path =>
      cases hfile : host.files path with
      | some node =>
          simp only [SshRequest.perform, hfile]
          exact h
      | none =>
          obtain ⟨hheld, hnew⟩ := createNew i.mode h hfile
          simp only [SshRequest.perform, hfile, answer]
          rcases i.failure with _ | ⟨error, _ | _⟩
          · exact hnew
          · exact h
          · exact h.set hheld
  | setPermissions path mode =>
      obtain ⟨-, t, ht, rfl⟩ := hfits
      obtain ⟨content, mode', hfile, hpart, -, hlen⟩ := (h.temporary t ht).1
      refine Prog.fallible_state (P := fun after : RemoteHost => after.Known (books.onTemporary _))
        (h.onTemporary ht rfl ⟨content, mode', hfile, hpart, fun _ h => (by cases h), hlen⟩
          fun _ _ => rfl)
        (h.onTemporary ht rfl ⟨content, i.mode, modify_files _ hfile, hpart,
          fun _ h => (by cases h), hlen⟩ fun _ hne => set_files_of_ne hne)
  | writeAll path bytes =>
      obtain ⟨-, t, ht, rfl, hempty⟩ := hfits
      obtain ⟨content, mode, hfile, hpart, hmode, -⟩ := (h.temporary t ht).1
      rw [hempty, List.prefix_nil] at hpart
      refine h.onTemporary ht rfl ⟨_, _, modify_files _ hfile, ?_, hmode, fun _ h => (by cases h)⟩
        fun _ hne => set_files_of_ne hne
      rw [hpart, List.nil_append]
      exact List.take_prefix ..
  | symlinkMetadata path =>
      cases hfile : host.files path with
      | none =>
          simp only [SshRequest.perform, hfile]
          exact h
      | some node =>
          simp only [SshRequest.perform, hfile, answer_self]
          cases hanswer : (host.answer i (.ok (node.metadata i), host)).1 with
          | error error => exact h
          | ok metadata =>
              have hok : metadata = node.metadata i := by
                have hsame := congrArg Prod.fst (Prog.fallible_ok hanswer)
                rw [← answer, hanswer] at hsame
                exact Except.ok.inj hsame
              cases ht : books.temporary with
              | none => exact h.forget (by simp [ht]) fun _ ha => ha
              | some t =>
                  refine h.onTemporary ht ?_ ?_ fun _ _ => rfl
                  · split <;> rfl
                  · split
                    · next hpath =>
                        rw [hok]
                        exact holds_metadata (h.temporary t ht).1 (hpath ▸ hfile)
                    · exact (h.temporary t ht).1
  | rename source target =>
      obtain ⟨t, ht, rfl, hverified, -, htarget⟩ := hfits
      have hmoved := h.rename ht hverified htarget
      have hfile := (h.temporary t ht).1.verified hverified
      rw [hfile] at hmoved
      simp only [SshRequest.perform, hfile, answer]
      rcases i.failure with _ | ⟨error, _ | _⟩
      · change RemoteHost.Known _ { books with
          temporary := none
          placed := (books.temporary.map fun t => ⟨target, t.content⟩).toList ++ books.placed }
        rw [ht]
        exact hmoved
      · exact h.forget (fun _ h => (by cases h)) fun _ ha => ha
      · exact hmoved.forget (fun _ h => (by cases h)) fun _ ha => List.mem_cons_of_mem _ ha
  | removeFile path =>
      have hforget : ∀ after : RemoteHost,
          (∀ other, other ≠ path → after.files other = host.files other) →
          after.Known { books with temporary := books.temporary.filter (·.path ≠ path)
                                   placed := books.placed.filter (·.path ≠ path) } := by
        intro after hother
        have hkept : host.Known { books with temporary := books.temporary.filter (·.path ≠ path)
                                             placed := books.placed.filter (·.path ≠ path) } :=
          h.forget (fun t ht => (Option.filter_eq_some_iff.mp ht).1)
            fun a ha => (List.mem_filter.mp ha).1
        refine hkept.mono fun other hheld => hother other fun heq => ?_
        subst heq
        simp only [SubmissionBooks.held, List.mem_append, Option.mem_toList,
          Option.map_eq_some_iff, Option.filter_eq_some_iff, List.mem_map, List.mem_filter,
          decide_eq_true_eq] at hheld
        rcases hheld with ⟨t, ⟨-, hne⟩, hsame⟩ | ⟨a, ⟨-, hne⟩, hsame⟩
        · exact hne hsame
        · exact hne hsame
      cases hfile : host.files path with
      | none =>
          simp only [SshRequest.perform, hfile]
          exact hforget host fun _ _ => rfl
      | some node =>
          simp only [SshRequest.perform, hfile]
          exact Prog.fallible_state (P := fun after : RemoteHost => after.Known _)
            (hforget host fun _ _ => rfl) (hforget _ fun _ hne => set_files_of_ne hne)

end RemoteHost.Known

/-! ### Whole artefacts only -/

variable (artifact) in
/-- A name belongs to one artefact, and to no temporary file. -/
structure ArtifactNames : Prop where
  content : ∀ path content content', artifact path content → artifact path content' →
    content = content'
  temporary : ∀ path content, artifact path content → ¬ IsTemporary artifact path

variable (artifact) in
/-- Nothing lies at the name of an artefact, or the whole artefact does. -/
def RemoteHost.Whole (host : RemoteHost) : Prop :=
  ∀ path content, artifact path content →
    host.files path = none ∨ host.files path = some (.file content submissionMode)

namespace RemoteHost.Whole

variable {host : RemoteHost}

/-- Only a name that changes has to be looked at. -/
theorem set {path : String} {node : Option RemoteNode} (h : host.Whole artifact)
    (hnode : ∀ content, artifact path content →
      node = none ∨ node = some (.file content submissionMode)) :
    (host.set path node).Whole artifact := by
  intro other content hartifact
  rcases eq_or_ne other path with rfl | hne
  · rw [set_files_self]
    exact hnode content hartifact
  · rw [set_files_of_ne hne]
    exact h other content hartifact

/-- What happens to a temporary file happens to no artefact. -/
theorem setTemporary (hnames : ArtifactNames artifact) {path : String} {node : Option RemoteNode}
    (h : host.Whole artifact) (htemporary : IsTemporary artifact path) :
    (host.set path node).Whole artifact :=
  h.set fun content hartifact => absurd htemporary (hnames.temporary path content hartifact)

/-- **A fitting request leaves whole artefacts only**, when a command does. -/
theorem perform (hnames : ArtifactNames artifact) (h : host.Whole artifact) {pid : ℕ}
    {r : SshRequest} {i : SshChoice} (hknown : host.Known books)
    (hfits : books.Fits artifact ready r)
    (hexec : ∀ kind command, r = .exec kind command → (r.perform pid i host).2.Whole artifact) :
    (r.perform pid i host).2.Whole artifact := by
  cases r with
  | exec kind command => exact hexec kind command rfl
  | connect => exact h
  | disconnect => exact h
  | nowV7 => exact h
  | openSftp => exact h
  | syncAll path =>
      rw [SshRequest.perform, answer_self]
      exact h
  | close path =>
      rw [SshRequest.perform, answer_self]
      exact h
  | shutdown =>
      rw [SshRequest.perform, answer_self]
      exact h
  | createNew path =>
      cases hfile : host.files path with
      | some node =>
          simp only [SshRequest.perform, hfile]
          exact h
      | none =>
          simp only [SshRequest.perform, hfile]
          exact Prog.fallible_state (P := fun after : RemoteHost => after.Whole artifact) h
            (h.setTemporary hnames hfits)
  | setPermissions path mode =>
      exact Prog.fallible_state (P := fun after : RemoteHost => after.Whole artifact) h
        (h.setTemporary hnames hfits.1)
  | writeAll path content => exact h.setTemporary hnames hfits.1
  | symlinkMetadata path =>
      cases hfile : host.files path with
      | none =>
          simp only [SshRequest.perform, hfile]
          exact h
      | some node =>
          simp only [SshRequest.perform, hfile, answer_self]
          exact h
  | rename source target =>
      obtain ⟨t, ht, rfl, hverified, htarget, -⟩ := hfits
      have hfile := (hknown.temporary t ht).1.verified hverified
      simp only [SshRequest.perform, hfile]
      refine Prog.fallible_state (P := fun after : RemoteHost => after.Whole artifact) h ?_
      refine (show (host.set t.path none).Whole artifact from h.set fun _ _ => .inl rfl).set fun content hcontent => ?_
      rw [hnames.content target content t.content hcontent htarget]
      exact .inr rfl
  | removeFile path =>
      cases hfile : host.files path with
      | none =>
          simp only [SshRequest.perform, hfile]
          exact h
      | some node =>
          simp only [SshRequest.perform, hfile]
          exact Prog.fallible_state (P := fun after : RemoteHost => after.Whole artifact) h
            (h.set fun _ _ => .inl rfl)

end RemoteHost.Whole

end Artifacts

end Beampipe
