import GatewayAgent.Command.Execution
import GatewayAgent.Rpc.Status
import GatewayAgent.Session.Registry
import GatewayAgent.Text.Quoted

/-!
# Metrics

What is counted: calls by method and outcome, commands by type and outcome, and how many sessions
and users there are. An instrument keeps one reading for each set of labels.

Counters only grow, the instruments for durations count their entries, and a gauge shows what it
was set to last.
-/

namespace GatewayAgent

/-- What is measured. -/
inductive Instrument where
  | rpcRequests
  | rpcDuration
  | commands
  | commandDuration
  | commandErrors
  | activeSessions
  | connectedUsers
  deriving DecidableEq, Repr

namespace Instrument

/-- The name under which an instrument is known. -/
def name : Instrument → String
  | rpcRequests => "warden_grpc_requests_total"
  | rpcDuration => "warden_grpc_request_duration_seconds"
  | commands => "warden_commands_total"
  | commandDuration => "warden_command_duration_seconds"
  | commandErrors => "warden_command_errors_total"
  | activeSessions => "warden_active_sessions"
  | connectedUsers => "warden_connected_users"

/-- The unit of an instrument. Counted things stand in braces. -/
def unit : Instrument → String
  | rpcRequests => "\x7brequests\x7d"
  | commands => "\x7bcommands\x7d"
  | commandErrors => "\x7berrors\x7d"
  | activeSessions => "\x7bsessions\x7d"
  | connectedUsers => "\x7busers\x7d"
  | rpcDuration | commandDuration => "s"

end Instrument

/-- An instrument with a set of labels, sorted by their names. -/
structure Series where
  instrument : Instrument
  labels : List (String × String) := []
  deriving DecidableEq, Repr

/-- What an instrument shows. -/
inductive Reading where
  | count (n : Nat)
  /-- How many durations were recorded, and what they add up to. -/
  | durations (n : Nat) (total : Duration)
  | level (n : Int)
  deriving DecidableEq, Repr

/-- The label of how a command ended. -/
inductive OutcomeClass where
  | success
  | failure
  | rejected
  | timeout
  | error
  deriving DecidableEq, Repr

namespace OutcomeClass

/-- How a command ended. -/
def of : CommandResult → OutcomeClass
  | .ok o => if o.success then success else failure
  | .error (.notAllowed _) | .error (.invalidArguments _) => rejected
  | .error (.deadlineExceeded _) => timeout
  | .error (.spawn ..) => error

/-- The text of a label. -/
def label : OutcomeClass → String
  | success => "success"
  | failure => "failure"
  | rejected => "rejected"
  | timeout => "timeout"
  | error => "error"

end OutcomeClass

/-- The readings of all instruments. -/
structure Metrics where
  readings : Dictionary Series Reading := .empty
  deriving Inhabited

namespace Metrics

/-- What a counter shows; nothing counted is zero. -/
def countOf (m : Metrics) (s : Series) : Nat :=
  match m.readings.find? s with
  | some (.count n) => n
  | _ => 0

/-- Counts one more. -/
def count (m : Metrics) (s : Series) : Metrics :=
  { m with readings := m.readings.insert s (.count (m.countOf s + 1)) }

/-- Records a duration. -/
def observe (m : Metrics) (s : Series) (elapsed : Duration) : Metrics :=
  let reading :=
    match m.readings.find? s with
    | some (.durations n total) => .durations (n + 1) ⟨total.nanos + elapsed.nanos⟩
    | _ => .durations 1 elapsed
  { m with readings := m.readings.insert s reading }

/-- Sets a gauge, which shows no more than `2 ^ 63 - 1`. -/
def setLevel (m : Metrics) (i : Instrument) (n : Nat) : Metrics :=
  { m with readings := m.readings.insert ⟨i, []⟩ (.level (min n (Nat.pow 2 63 - 1))) }

/-- The labels of a call. -/
def callLabels (method : String) (code : Option Code) : List (String × String) :=
  [("code", outcomeLabel code), ("method", method)]

/-- Records a call that has ended. Without a code the transport failed. -/
def recordCall (m : Metrics) (method : String) (code : Option Code) (elapsed : Duration) :
    Metrics :=
  let labels := callLabels method code
  (m.count ⟨.rpcRequests, labels⟩).observe ⟨.rpcDuration, labels⟩ elapsed

/-- The labels of a command. -/
def commandLabels (command : String) (status : OutcomeClass) : List (String × String) :=
  [("command_type", command), ("status", status.label)]

/-- Records a command that has ended. One that did not succeed is counted as an error as well. -/
def recordCommand (m : Metrics) (command : String) (result : CommandResult) (elapsed : Duration) :
    Metrics :=
  let status := OutcomeClass.of result
  let labels := commandLabels command status
  let m := (m.count ⟨.commands, labels⟩).observe ⟨.commandDuration, labels⟩ elapsed
  if status = .success then m else m.count ⟨.commandErrors, labels⟩

/-- Records what comes of an execution, if whoever waits for it does not give up before `limit`.
An execution that is given up or panics leaves nothing behind. -/
def recordExecution (m : Metrics) (command : String) (limit : Option Duration) : Execution →
    Metrics
  | .after t result =>
    if limit.all (t ≤ ·) then m.recordCommand command result t else m
  | .never => m
  | .panic _ => m

/-- Shows how many sessions and users there are. -/
def recordSessions (m : Metrics) (t : Statistics) : Metrics :=
  (m.setLevel .activeSessions t.totalSessions).setLevel .connectedUsers t.sessionsByUser.size

/-- Shows one state of the sessions after the other, as they are looked at from time to time. -/
def publishSessions (m : Metrics) (samples : List Statistics) : Metrics :=
  samples.foldl recordSessions m

/-! ### Listing -/

/-- The text of a reading. -/
def readingText : Reading → String
  | .count n => toString n
  | .durations n _ => "count=" ++ toString n
  | .level n => toString n

/-- The text of a series with its reading. -/
def line (s : Series) (r : Reading) : String :=
  s.instrument.name ++ "[" ++ s.instrument.unit ++ "]\x7b" ++
    ",".intercalate (s.labels.map fun (k, v) => k ++ "=" ++ Text.quote v) ++ "\x7d " ++
    readingText r

/-- All series with their readings, sorted. -/
def lines (m : Metrics) : List String :=
  (m.readings.entries.map fun (s, r) => line s r).mergeSort fun a b => decide (a ≤ b)

theorem countOf_count (m : Metrics) (s s' : Series) :
    (m.count s).countOf s' = if s' = s then m.countOf s + 1 else m.countOf s' := by
  simp only [countOf, count, Dictionary.find?_insert]
  by_cases h : s' = s <;> simp [h]

end Metrics

end GatewayAgent
