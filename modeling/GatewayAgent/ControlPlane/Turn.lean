import GatewayAgent.ControlPlane.Deadline
import GatewayAgent.ControlPlane.Request
import GatewayAgent.Host.FileSystem
import GatewayAgent.Session.Registry

/-!
# Turns of a handler

A handler works on what the gateway agent remembers, `AgentState`. It either replies in one go, or
it has one command run and replies when the command has ended. `Turn` tells the two apart, so that
other calls can come between the command and the rest of the handler: what the handler resumes
with is the state at that time.

`Turn.perform` takes a turn to its end with an executor and nothing in between.
-/

namespace GatewayAgent

/-- What the agent remembers between calls. -/
structure AgentState where
  /-- The sessions of the gateway. -/
  registry : Registry := {}
  /-- The files of the host. -/
  files : FileSystem := {}

/-- What a caller gets. -/
abbrev Reply := Except Status Answer

/-- A request for a command: the command type and its arguments. -/
structure CommandLine where
  command : String
  args : List String
  deriving DecidableEq, Repr

/-- A handler up to its reply or to the command that it waits for. -/
inductive Turn where
  /-- The handler has replied. -/
  | replied (state : AgentState) (reply : Reply)
  /-- The handler waits for a command, and goes on with its outcome and the state at that time. -/
  | waiting (state : AgentState) (line : CommandLine)
      (resume : CommandResult → AgentState → AgentState × Reply)

/-- What comes of a call. -/
structure CallOutcome where
  /-- The state after the call. -/
  state : AgentState
  /-- What the caller gets, and when. A panic is for whoever runs the call to contain. -/
  reply : Pending Reply
  /-- The commands that were asked for. -/
  commands : List CommandLine := []

namespace Turn

/-- The state in which a handler has left the agent so far. -/
def state : Turn → AgentState
  | .replied s _ => s
  | .waiting s _ _ => s

/-- Resumes with what came of a command that `state` has waited for. -/
def resumeWith (state : AgentState) (resume : CommandResult → AgentState → AgentState × Reply) :
    Execution → AgentState × Pending Reply
  | .after t result =>
    let (state, reply) := resume result state
    (state, .after t reply)
  | .never => (state, .never)
  | .panic p => (state, .panic p)

/-- Takes a turn to its end. A command is bounded by the deadline of the caller. -/
def perform (executor : Executor) (deadline : Option Duration) : Turn → CallOutcome
  | .replied state reply => { state, reply := .after ⟨0⟩ reply }
  | .waiting state line resume =>
    let run := Pending.boundBy (executor line.command line.args) deadline
    let (state, reply) := resumeWith state resume run
    { state, reply, commands := [line] }

end Turn

end GatewayAgent
