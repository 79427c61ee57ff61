import GatewayAgent.Telemetry.LogFilter

/-!
# What the agent logs

The events in the life of an agent, with how grave each is, the part of the program it comes from,
and its wording.
-/

namespace GatewayAgent

/-- A signal that asks the agent to stop. -/
inductive StopSignal where
  | interrupt
  | terminate
  deriving DecidableEq, Repr

/-- The name of a signal. -/
def StopSignal.name : StopSignal → String
  | interrupt => "SIGINT"
  | terminate => "SIGTERM"

/-- An event in the life of an agent. -/
inductive AgentEvent where
  | programStarts
  /-- The certificates that are there are used. -/
  | materialReused
  /-- They are used although something is wrong with them. -/
  | materialDoubtful
  | materialGenerated
  | agentStarts
  /-- The server listens, with or without mutual TLS. -/
  | listening (tls : Bool)
  | signalled (signal : StopSignal)
  | draining
  /-- The calls on their way took too long to end. -/
  | drainTimedOut
  | callsAborted
  | serverStopped
  | serverFailed
  | agentStopped
  deriving DecidableEq, Repr

namespace AgentEvent

/-- How grave an event is. -/
def level : AgentEvent → LogLevel
  | materialDoubtful | listening false | drainTimedOut | callsAborted => .warn
  | serverFailed => .error
  | _ => .info

/-- The part of the program that an event comes from. -/
def target : AgentEvent → String
  | programStarts | signalled _ => "warden"
  | listening _ | callsAborted | serverStopped | serverFailed => "warden::transport"
  | _ => "warden::agent"

/-- The wording of an event. -/
def message : AgentEvent → String
  | programStarts => "Warden starting"
  | materialReused => "Using existing TLS material"
  | materialDoubtful => "Existing TLS material does not verify, clients may reject it"
  | materialGenerated => "Generated bootstrap CA and agent certificate"
  | agentStarts => "Starting agent"
  | listening true => "gRPC server listening with mutual TLS"
  | listening false =>
    "gRPC server listening WITHOUT TLS - plaintext mode is for local testing only"
  | signalled s => "Received " ++ s.name
  | draining => "Shutdown requested, draining in-flight calls"
  | drainTimedOut => "Drain timed out, aborting remaining calls"
  | callsAborted => "gRPC server stopped forcefully, in-flight calls aborted"
  | serverStopped => "gRPC server stopped"
  | serverFailed => "gRPC server failed"
  | agentStopped => "Agent stopped"

end AgentEvent

/-- Whether an event reaches a log. -/
def LogFilter.ShowsEvent (f : LogFilter) (e : AgentEvent) : Bool := f.Shows e.target e.level

end GatewayAgent
