import GatewayAgent.Agent.Basic

/-!
# Runs of an agent

A running agent watches its server and the request to shut down at the same time. After the
request the server may finish the calls on their way; when these take too long it is stopped. The
run ends when the server has ended.

`AgentRun.step` is what one event makes of a run. The run may look at its server and at the request
in any order, so a request may come before the server has done anything.
-/

namespace GatewayAgent

/-- What a run of an agent waits for. -/
inductive RunPhase where
  /-- The server or a request to shut down. -/
  | watching
  /-- The server, for as long as calls may take to end. -/
  | draining
  /-- The server, which was told to stop. -/
  | aborting
  | finished (result : Except AgentError Unit)
  deriving Repr

/-- What can happen to a run. -/
inductive RunEvent where
  /-- The run looks at its server. -/
  | server (event : ServeEvent)
  /-- There is a request to shut down. -/
  | shutdown
  /-- The calls on their way have had all the time they get. -/
  | timeUp

/-- A run of an agent. -/
structure AgentRun where
  network : Network
  endpoint : Endpoint
  transport : Transport
  /-- How far the server is; before the address is bound there is none. -/
  server : Option ServePhase := none
  phase : RunPhase := .watching
  /-- What has been logged, in order. -/
  log : List AgentEvent := []

/-- What the log tells of a step of a server. -/
def ServePhase.events (t : Transport) : ServePhase → ServePhase → List AgentEvent
  | .starting, .serving => [.listening t.settings.tlsEnabled]
  | .serving, .closing _ => if t.abort then [.callsAborted] else []
  | .leaving _, .returned (.ok _) => [.serverStopped]
  | .leaving _, .returned (.error _) => [.serverFailed]
  | _, _ => []

namespace AgentRun

/-- The end of a run. -/
def finish (r : AgentRun) (result : Except TransportError Unit) : AgentRun :=
  { r with phase := .finished (result.mapError .transport), log := r.log ++ [.agentStopped] }

/-- Lets the server go on. -/
def serverTurn (r : AgentRun) (e : ServeEvent) : AgentRun :=
  match r.server with
  | none =>
    match Transport.bind r.network r.endpoint with
    | .error cause => r.finish (.error cause)
    | .ok () => { r with server := some .starting }
  | some p =>
    let (next, transport) := p.step r.transport e
    let r := { r with server := some next, transport, log := r.log ++ p.events r.transport next }
    match next with
    | .returned result => r.finish result
    | _ => r

/-- Goes on with one event. An event that a run does not wait for changes nothing. -/
def step (r : AgentRun) : RunEvent → AgentRun
  | .server e =>
    match r.phase with
    | .finished _ => r
    | _ => r.serverTurn e
  | .shutdown =>
    match r.phase with
    | .watching =>
      { r with phase := .draining, transport := r.transport.gracefulStop
               log := r.log ++ [.draining] }
    | _ => r
  | .timeUp =>
    match r.phase with
    | .draining =>
      { r with phase := .aborting, transport := r.transport.stop
               log := r.log ++ [.drainTimedOut] }
    | _ => r

/-- Goes on with some events. -/
def run (r : AgentRun) (events : List RunEvent) : AgentRun := events.foldl step r

/-- Lets the server go on for up to `n` turns, for as long as it has something to do. -/
def settle : (n : Nat) → AgentRun → AgentRun
  | 0, r => r
  | n + 1, r =>
    if r.server.any (·.Waiting r.transport) then r else settle n (r.step (.server .idle))

/-- The turns within which a server without calls ends or comes to wait. -/
def idleTurns : Nat := 5

/-- How a run ended, if it did. -/
def result? (r : AgentRun) : Option (Except AgentError Unit) :=
  match r.phase with
  | .finished result => some result
  | _ => none

end AgentRun

/-- Starts a run of an agent. -/
def Agent.start (a : Agent) (network : Network) : Except AgentError AgentRun :=
  match a.config.listenEndpoint with
  | .error e => .error (.config e)
  | .ok endpoint => .ok { network, endpoint, transport := a.transport, log := [.agentStarts] }

end GatewayAgent
