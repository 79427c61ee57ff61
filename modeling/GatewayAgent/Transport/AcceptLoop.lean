import GatewayAgent.Data.Dictionary

/-!
# The accept loop

Takes connections off a listener. Before the loop accepts a socket it takes one of a fixed number
of slots, so that no more than so many handshakes are on their way; every accepted socket then has
a task of its own, which finishes the handshake, gives back the slot, and puts the connection into
a channel of limited room for the server to pick up.

`AcceptLoop` is the loop with all its tasks, and `AcceptLoop.step` is what one event makes of it.
An event that cannot happen gives nothing.
-/

namespace GatewayAgent

/-- Where the loop itself is. -/
inductive AcceptPhase where
  /-- It waits for a slot. -/
  | acquiring
  /-- It holds a slot and waits for a socket. -/
  | accepting
  /-- It pauses with its slot after a socket could not be accepted. -/
  | pausing
  | ended
  deriving DecidableEq, Repr

/-- Where an accepted socket is. -/
inductive ConnectionPhase where
  /-- The handshake is on its way. -/
  | handshaking
  /-- The connection is made. Its task still holds the slot. -/
  | established
  /-- The task has given back the slot and waits for room in the channel. -/
  | sending
  /-- The connection is in the channel, or was picked up from it. -/
  | delivered
  /-- The socket is closed. -/
  | dropped
  deriving DecidableEq, Repr

/-- An accepted socket. -/
structure Connection where
  phase : ConnectionPhase
  /-- Whether a handshake was completed on it, which only clients with a good certificate do. -/
  verified : Bool := false
  deriving DecidableEq, Repr

/-- How a handshake ends. -/
inductive HandshakeOutcome where
  | completed
  | failed
  | timedOut
  deriving DecidableEq, Repr

/-- What can happen to the loop and its tasks. Sockets are known by a number. -/
inductive AcceptEvent where
  | acquire
  | accept (socket : Nat)
  | acceptFails
  | pauseEnds
  | handshake (socket : Nat) (outcome : HandshakeOutcome)
  | release (socket : Nat)
  | send (socket : Nat)
  /-- The server picks up a connection. -/
  | receive
  /-- The server is gone. -/
  | close
  | shutdown
  deriving DecidableEq, Repr

/-- An accept loop with its tasks. -/
structure AcceptLoop where
  /-- Whether connections need a handshake. -/
  tls : Bool
  /-- The slots that nobody holds. -/
  free : Nat
  phase : AcceptPhase := .acquiring
  connections : Dictionary Nat Connection := .empty
  /-- The connections in the channel. -/
  queued : Nat := 0
  /-- The room in the channel. -/
  room : Nat
  /-- Whether the server still picks up connections. -/
  receiving : Bool := true

namespace AcceptLoop

/-- The number of slots for a limit. There is always one. -/
def slots (limit : Nat) : Nat := max limit 1

/-- A loop that starts. -/
def start (tls : Bool) (limit room : Nat) : AcceptLoop := { tls, free := slots limit, room }

/-- Puts a connection into another phase. -/
def move (l : AcceptLoop) (socket : Nat) (c : Connection) : AcceptLoop :=
  { l with connections := l.connections.insert socket c }

/-- The slots that the loop itself holds. -/
def held (l : AcceptLoop) : Nat :=
  match l.phase with
  | .accepting | .pausing => 1
  | .acquiring | .ended => 0

/-- Whether the task of a connection holds a slot. -/
def Connection.holdsSlot (c : Connection) : Bool := c.phase = .handshaking || c.phase = .established

/-- The slots that tasks hold. -/
def heldByTasks (l : AcceptLoop) : Nat := (l.connections.values.filter Connection.holdsSlot).length

/-- The sockets that are accepted and neither closed nor in the channel. -/
def inFlight (l : AcceptLoop) : Nat :=
  (l.connections.values.filter fun c => c.phase ≠ .delivered && c.phase ≠ .dropped).length

/-- What an event makes of a connection's task. -/
def stepTask (l : AcceptLoop) (socket : Nat) (c : Connection) : AcceptEvent → Option AcceptLoop
  | .handshake _ outcome =>
    if c.phase ≠ .handshaking then none
    else if outcome = .completed then
      some (l.move socket { phase := .established, verified := true })
    else some { l.move socket { c with phase := .dropped } with free := l.free + 1 }
  | .release _ =>
    if c.phase ≠ .established then none
    else some { l.move socket { c with phase := .sending } with free := l.free + 1 }
  | .send _ =>
    if c.phase ≠ .sending then none
    else if !l.receiving then some (l.move socket { c with phase := .dropped })
    else if l.room ≤ l.queued then none
    else some { l.move socket { c with phase := .delivered } with queued := l.queued + 1 }
  | _ => none

/-- What an event makes of a loop. -/
def step (l : AcceptLoop) (e : AcceptEvent) : Option AcceptLoop :=
  match e with
  | .acquire =>
    if l.phase = .acquiring && 0 < l.free then
      some { l with phase := .accepting, free := l.free - 1 }
    else none
  | .accept socket =>
    if l.phase = .accepting && !l.connections.contains socket then
      let phase : ConnectionPhase := if l.tls then .handshaking else .established
      some { l.move socket { phase } with phase := .acquiring }
    else none
  | .acceptFails => if l.phase = .accepting then some { l with phase := .pausing } else none
  | .pauseEnds =>
    if l.phase = .pausing then some { l with phase := .acquiring, free := l.free + 1 } else none
  | .receive => if 0 < l.queued then some { l with queued := l.queued - 1 } else none
  | .close => some { l with receiving := false }
  | .shutdown =>
    match l.phase with
    | .acquiring => some { l with phase := .ended }
    | .accepting => some { l with phase := .ended, free := l.free + 1 }
    | .pausing | .ended => none
  | .handshake socket _ | .release socket | .send socket =>
    match l.connections.find? socket with
    | some c => l.stepTask socket c e
    | none => none

/-- What a run of events makes of a loop. -/
def run (l : AcceptLoop) : List AcceptEvent → Option AcceptLoop
  | [] => some l
  | e :: es => (l.step e).bind fun l => l.run es

end AcceptLoop

end GatewayAgent
