import GatewayAgent.Command.Arguments
import GatewayAgent.Data.Dictionary
import GatewayAgent.Host.SystemError
import GatewayAgent.Text.Utf8
import GatewayAgent.Time.Duration

/-!
# Running commands

A request to run a command names a command type and gives arguments. `ExecutorSettings.commandLine`
decides what would be started, if anything: the command type must be allowed, the arguments must
pass their check, and the service manager is narrowed to a few actions on one unit.
`ExecutorSettings.execute` starts it on a host and waits up to a limit; `ExecutorSettings.executeBy`
is the same for a host that is asked in any monad, so that what it is asked for can be observed.

An `Execution` is what waiting on a command amounts to: an answer after some time, no answer ever,
or a panic of the executor. `Execution.cutAt` bounds one by a time limit.
-/

namespace GatewayAgent

/-- Why a command has no output. -/
inductive CommandError where
  /-- The command type is not allowed. -/
  | notAllowed (command : String)
  /-- The arguments were refused. -/
  | invalidArguments (reason : String)
  /-- The command did not end in time. -/
  | deadlineExceeded (limit : Duration)
  /-- The program could not be started. -/
  | spawn (program : String) (cause : SystemError)
  deriving DecidableEq, Repr

/-- The wording of an error. -/
def CommandError.message : CommandError → String
  | .notAllowed c => "command not allowed: " ++ c
  | .invalidArguments r => "invalid arguments: " ++ r
  | .deadlineExceeded d => "command timed out after " ++ d.text
  | .spawn p e => "failed to start " ++ p ++ ": " ++ e.message

/-- What a command that ended has produced. -/
structure CommandOutput where
  success : Bool := false
  stdout : String := ""
  stderr : String := ""
  /-- The exit code, `-1` after a signal. -/
  exitCode : Int := 0
  /-- A summary of the failure. -/
  errorMessage : String := ""
  deriving DecidableEq, Repr, Inhabited

/-- The answer of an executor. -/
abbrev CommandResult := Except CommandError CommandOutput

/-! ### Waiting for an answer -/

/-- What a panic carries. -/
inductive PanicPayload where
  /-- A text. -/
  | text (s : String)
  /-- Something without a text. -/
  | other
  deriving DecidableEq, Repr

/-- The text that describes a panic. -/
def PanicPayload.message : PanicPayload → String
  | .text s => s
  | .other => "non-string panic payload"

/-- What comes of waiting for a value. -/
inductive Pending (α : Type) where
  /-- The value is there after some time. -/
  | after (time : Duration) (value : α)
  /-- The value never comes. -/
  | never
  /-- Whoever should deliver it panics. -/
  | panic (payload : PanicPayload)
  deriving Repr

namespace Pending

/-- Waits no longer than `limit`; then the value is `late`. A value that is there at the limit is
still taken. -/
def cutAt {α : Type} (limit : Duration) (late : α) : Pending α → Pending α
  | .after t v => if t ≤ limit then .after t v else .after limit late
  | .never => .after limit late
  | .panic p => .panic p

end Pending

/-- What comes of a request to an executor. -/
abbrev Execution := Pending CommandResult

/-- Runs a command type with arguments. -/
abbrev Executor := String → List String → Execution

/-! ### Processes -/

/-- How a process ended. -/
inductive Ending where
  | exited (code : Nat)
  | signalled
  deriving DecidableEq, Repr

/-- What a started process does. -/
structure ProcessRun where
  stdout : Bytes := []
  stderr : Bytes := []
  ending : Ending := .exited 0
  /-- How long it runs; a process may run forever. -/
  runtime : Option Duration := some ⟨0⟩
  deriving Repr

/-- What a host makes of a command line: a refusal to start it, or a process. -/
abbrev Launcher := List String → Except SystemError ProcessRun

/-- The limits and programs of an executor. -/
structure ExecutorSettings where
  /-- The command types that can be asked for. -/
  allowed : List String
  /-- The program of a command type; others run by their own name. -/
  programs : Dictionary String String
  /-- The user to run as, if not the agent's own. -/
  sudoUser : Option String
  /-- The unit that the service manager acts on. -/
  serviceUnit : String
  /-- How long a command may take. -/
  timeout : Duration

/-- The command type that is narrowed to actions on one unit. -/
def serviceManager : String := "systemctl"

/-- The actions of the service manager that can be asked for. -/
def serviceActions : List String := ["start", "stop", "restart", "reload", "status", "is-active"]

/-- The check of an allow-list: the command type first, then its arguments. -/
def checkPolicy (allowed : List String) (command : String) (args : List String) :
    Except CommandError Unit :=
  if !allowed.contains command then .error (.notAllowed command)
  else
    match argumentsFault? args with
    | some f => .error (.invalidArguments f.message)
    | none => .ok ()

namespace ExecutorSettings

/-- The arguments that a command runs with: those given, or for the service manager a known action
and the unit. -/
def effectiveArguments (s : ExecutorSettings) (command : String) (args : List String) :
    Except CommandError (List String) :=
  if command ≠ serviceManager then .ok args
  else
    match args with
    | [action] =>
      if serviceActions.contains action then .ok [action, s.serviceUnit]
      else .error (.invalidArguments ("unsupported systemctl action: " ++ action))
    | _ => .error (.invalidArguments "systemctl takes exactly one action")

/-- The program of a command type. -/
def program (s : ExecutorSettings) (command : String) : String :=
  (s.programs.find? command).getD command

/-- The command line of a program, run as another user where one is set. -/
def argv (s : ExecutorSettings) (program : String) (args : List String) : List String :=
  match s.sudoUser with
  | some user => ["sudo", "-n", "-u", user, program] ++ args
  | none => program :: args

/-- The command line that a request starts, or why it starts none. -/
def commandLine (s : ExecutorSettings) (command : String) (args : List String) :
    Except CommandError (List String) := do
  checkPolicy s.allowed command args
  let args ← s.effectiveArguments command args
  pure (s.argv (s.program command) args)

end ExecutorSettings

/-- Asks a host to start a command line, unless a NUL character in it cannot be passed on. -/
def launch {m : Type → Type} [Monad m] (host : List String → m (Except SystemError ProcessRun))
    (line : List String) : m (Except SystemError ProcessRun) :=
  if line.any fun word => word.toList.contains '\x00' then pure (.error .nulInCommand)
  else host line

/-- What comes of starting a command line on a host. -/
def Launcher.start (host : Launcher) (line : List String) : Except SystemError ProcessRun :=
  Id.run (launch (fun line => pure (host line)) line)

/-- The exit code that is reported. -/
def Ending.code : Ending → Int
  | .exited n => n
  | .signalled => -1

/-- What a process that ended has produced. -/
def ProcessRun.output (command : String) (p : ProcessRun) : CommandOutput :=
  let success := decide (p.ending = .exited 0)
  { success
    stdout := Text.decodeLossy p.stdout
    stderr := Text.decodeLossy p.stderr
    exitCode := p.ending.code
    errorMessage :=
      if success then "" else command ++ " exited with status " ++ toString p.ending.code }

/-- What waiting for a process amounts to. -/
def ProcessRun.execution (command : String) (p : ProcessRun) : Execution :=
  match p.runtime with
  | some t => .after t (.ok (p.output command))
  | none => .never

namespace ExecutorSettings

/-- What comes of a command whose command line was started, or could not be. A process has until the
time limit. -/
def outcome (s : ExecutorSettings) (command : String) : Except SystemError ProcessRun → Execution
  | .error e => .after ⟨0⟩ (.error (.spawn (s.program command) e))
  | .ok p => (p.execution command).cutAt s.timeout (.error (.deadlineExceeded s.timeout))

/-- Runs a command on a host. Nothing is started but by asking the host; what is refused is refused
at once. -/
def executeBy {m : Type → Type} [Monad m] (s : ExecutorSettings)
    (host : List String → m (Except SystemError ProcessRun)) (command : String)
    (args : List String) : m Execution :=
  match s.commandLine command args with
  | .error e => pure (.after ⟨0⟩ (.error e))
  | .ok line => s.outcome command <$> launch host line

/-- Runs a command on a host, within the time limit. -/
def execute (s : ExecutorSettings) (host : Launcher) : Executor := fun command args =>
  Id.run (s.executeBy (fun line => pure (host line)) command args)

end ExecutorSettings

end GatewayAgent
