import GatewayAgent.Host.FileSystem
import GatewayAgent.UserConfig.Render

/-!
# Writing a user's configuration file

The file is replaced in five steps: see whether there is one, keep it under the suffix `.bak`, open
an empty file under the suffix `.tmp`, write the new text to it, and rename it over the file. While
no other write has the staging file open, a reader of the file never sees a part of the text.

`WriteJob` is a write on its way; `WriteJob.step` takes it one step further on a file system, so
that several can share one. `writeUserConfig` takes all steps at once.
-/

namespace GatewayAgent

/-- Why a file was not written. -/
inductive UserConfigError where
  /-- An entry was refused. -/
  | refused (entry : RefusedEntry)
  /-- The file system refused a step. -/
  | io (path : String) (cause : SystemError)
  deriving DecidableEq, Repr

/-- The wording of an error. -/
def UserConfigError.message : UserConfigError → String
  | .refused e => e.message
  | .io path cause => "failed to write " ++ path ++ ": " ++ cause.message

/-- The name under which the previous file is kept. -/
def backupPath (path : String) : String := path ++ ".bak"

/-- The name under which the new text is written first. -/
def stagingPath (path : String) : String := path ++ ".tmp"

/-- The next step of a write, or its outcome. -/
inductive WritePhase where
  | check
  | backup
  | stage
  /-- The staging file is open and still empty. -/
  | fill (place : Location)
  | publish
  | done (outcome : Except SystemError Unit)

/-- A write of a text to a path, on its way. -/
structure WriteJob where
  path : String
  content : Bytes
  phase : WritePhase := .check

namespace WriteJob

/-- Goes on to a phase with the file system a step has left, or ends with its error. -/
def proceed (job : WriteJob) (fs : FileSystem) (next : WritePhase) :
    Except SystemError FileSystem → FileSystem × WriteJob
  | .ok fs' => (fs', { job with phase := next })
  | .error e => (fs, { job with phase := .done (.error e) })

/-- Takes the next step. A write that is done stays as it is. -/
def step (fs : FileSystem) (job : WriteJob) : FileSystem × WriteJob :=
  match job.phase with
  | .check =>
    match fs.tryExists job.path with
    | .ok true => (fs, { job with phase := .backup })
    | .ok false => (fs, { job with phase := .stage })
    | .error e => (fs, { job with phase := .done (.error e) })
  | .backup => job.proceed fs .stage (fs.copy job.path (backupPath job.path))
  | .stage =>
    match fs.openTruncated (stagingPath job.path) 0o666 with
    | .ok (fs, place) => (fs, { job with phase := .fill place })
    | .error e => (fs, { job with phase := .done (.error e) })
  | .fill place => (fs.setContent place job.content, { job with phase := .publish })
  | .publish => job.proceed fs (.done (.ok ())) (fs.rename (stagingPath job.path) job.path)
  | .done _ => (fs, job)

/-- Takes up to `n` steps. -/
def steps : Nat → FileSystem → WriteJob → FileSystem × WriteJob
  | 0, fs, job => (fs, job)
  | n + 1, fs, job =>
    let (fs, job) := step fs job
    steps n fs job

/-- The outcome of a write that is done. -/
def outcome? (job : WriteJob) : Option (Except SystemError Unit) :=
  match job.phase with
  | .done r => some r
  | _ => none

end WriteJob

/-- Renders an update and writes it to a path. -/
def writeUserConfig (fs : FileSystem) (path : String) (u : UserUpdate) :
    FileSystem × Except UserConfigError Unit :=
  match u.render with
  | .error e => (fs, .error (.refused e))
  | .ok text =>
    let (fs, job) := WriteJob.steps 5 fs { path, content := Text.encode text }
    match job.outcome? with
    | some (.error e) => (fs, .error (.io path e))
    | _ => (fs, .ok ())

end GatewayAgent
