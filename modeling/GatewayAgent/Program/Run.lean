import GatewayAgent.Agent.Run
import GatewayAgent.Program.Arguments
import GatewayAgent.Telemetry.Export

/-!
# Runs of the program

What the program does for its arguments: what it prints, what it logs, which files it leaves, and
with which code it exits. A task that fails prints the error with the errors behind it and exits
with code 1; a command line that is not one exits with code 2.
-/

namespace GatewayAgent.Program

/-- The name and the version of the program. -/
def title : String := "warden 0.1.0"

/-- What a program leaves when it exits. -/
structure Outcome where
  exitCode : Nat
  stdout : List String := []
  stderr : List String := []
  /-- The events that reached the log. -/
  log : List AgentEvent := []
  files : FileSystem

/-! ### Errors -/

/-- The lines for the errors behind an error. Several are numbered. -/
def causeLines : List String → List String
  | [] => []
  | [c] => ["", "Caused by:", "    " ++ c]
  | cs => ["", "Caused by:"] ++ cs.zipIdx.map fun (c, i) => "    " ++ toString i ++ ": " ++ c

/-- The outcome of a task that failed. -/
def failed (files : FileSystem) (log : List AgentEvent) (message : String)
    (causes : List String) : Outcome where
  exitCode := 1
  stderr := ("Error: " ++ message) :: causeLines causes
  log := log
  files := files

/-! ### Making certificates -/

/-- An instant to the second, with its distance from universal time. -/
def momentText (secs : Int) : String :=
  let t := Instant.ofUnix secs
  let ofDay := (secs.fmod 86400).toNat
  String.ofList (t.rfc3339.toList.takeWhile (· ≠ 'T')) ++ " " ++ toString (ofDay / 3600) ++ ":" ++
    Instant.padded 2 (ofDay / 60 % 60) ++ ":" ++ Instant.padded 2 (ofDay % 60) ++ ".0 +00:00:00"

/-- What is printed about certificates that were made. -/
def materialReport (m : Material) : List String :=
  ["=== Warden Certificates ===",
    "CA certificate:    " ++ m.paths.ca,
    "Agent certificate: " ++ m.paths.cert,
    "Agent key:         " ++ m.paths.key,
    "",
    "Subject:          " ++ m.subject,
    "CA fingerprint:   " ++ m.caFingerprint,
    "Cert fingerprint: " ++ m.certFingerprint,
    "Valid from:       " ++ momentText m.validFrom,
    "Valid until:      " ++ momentText m.validUntil]

/-- Makes certificates for a host in a directory. -/
def gencert (s : Surroundings) (directory hostname : String) : Outcome :=
  match bootstrap (.inDirectory directory) hostname s.now s.entropy s.files s.faults with
  | (files, .ok m) => { exitCode := 0, stdout := materialReport m, files }
  | (files, .error e) => failed files [] e.message (e.cause?.map (·.message)).toList

/-! ### Running the agent -/

/-- What happens to a running agent: a signal once it listens. Without one it runs until its
server fails. -/
def underSignal (signal : Option StopSignal) (r : AgentRun) : AgentRun :=
  let r := r.settle AgentRun.idleTurns
  match signal, r.phase with
  | some s, .watching =>
    (({ r with log := r.log ++ [AgentEvent.signalled s] }).step .shutdown).settle AgentRun.idleTurns
  | _, _ => r

/-- The outcome of a run of an agent whose events are all in its log. -/
def runOutcome (files : FileSystem) (filter : LogFilter) (log : List AgentEvent)
    (result : Except AgentError Unit) : Outcome :=
  let log := log.filter filter.ShowsEvent
  match result with
  | .ok () => { exitCode := 0, log, files }
  | .error e => failed files log e.message e.causes

/-- Puts an agent together and runs it. -/
def runAgent (s : Surroundings) (network : Network) (signal : Option StopSignal) (c : Config)
    (filter : LogFilter) : Option Outcome :=
  let a := Agent.build c s
  let log := .programStarts :: a.log
  let start := do (← a.result).start network
  match start with
  | .error e => some (runOutcome a.files filter log (.error e))
  | .ok r =>
    let r := underSignal signal r
    r.result?.map (runOutcome a.files filter (log ++ r.log))

/-- The variable that asks for a filter of the log. -/
def filterVariable : String := "RUST_LOG"

/-- Runs the agent with the configuration in a file. Gives nothing for a run that does not end. -/
def serve (s : Surroundings) (env : Environment) (network : Network) (signal : Option StopSignal)
    (path : String) : Option Outcome :=
  match Config.load s.files path env with
  | .error e => some (failed s.files [] ("Failed to load " ++ path ++ ": " ++ e.message) [])
  | .ok c =>
    match c.logging.filter (env filterVariable) with
    | .error e => some (failed s.files [] e.message [])
    | .ok filter =>
      match c.telemetry.exportEndpoint with
      | .error e => some (failed s.files [] e.message [])
      | .ok _ => runAgent s network signal c filter

/-! ### The whole -/

/-- Runs the program. Gives nothing for a run that does not end. -/
def run (s : Surroundings) (env : Environment) (network : Network) (signal : Option StopSignal)
    (arguments : List String) : Option Outcome :=
  match Task.read env arguments with
  | .error .usage => some { exitCode := 2, files := s.files }
  | .error .version => some { exitCode := 0, stdout := [title], files := s.files }
  | .error (.help topic long) =>
    some { exitCode := 0, stdout := topic.page env long, files := s.files }
  | .ok (.gencert directory hostname) => some (gencert s directory hostname)
  | .ok (.serve path) => serve s env network signal path

end GatewayAgent.Program
