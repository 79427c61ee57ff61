import GatewayAgent.Net.Network
import GatewayAgent.Tls.TrustBundle

/-!
# The lifecycle of the transport

A transport is created, listens, drains and stops, in this order and never back; it may leave out
the middle. It can listen only once.

Every operation on a transport is made of atomic parts: a change of its state, and the raising of
one of two flags. `shutdown` tells the server to take no more connections and to end when the calls
on their way have ended; `abort` tells it to drop these calls as well. `TransportTask` is a call
that is on its way through these parts, so that several can share a transport.

Main statement: `state_le_step`, no part of a task takes the state back.
-/

namespace GatewayAgent

/-- Where a transport is in its life. -/
inductive TransportState where
  | created
  | listening
  | draining
  | stopped
  deriving DecidableEq, Repr, Inhabited

namespace TransportState

/-- How far a state is in the life of a transport. -/
def rank : TransportState → Nat
  | created => 0
  | listening => 1
  | draining => 2
  | stopped => 3

/-- The name of a state. -/
def name : TransportState → String
  | created => "Created"
  | listening => "Listening"
  | draining => "Draining"
  | stopped => "Stopped"

instance : LE TransportState := ⟨fun a b => a.rank ≤ b.rank⟩

instance (a b : TransportState) : Decidable (a ≤ b) := inferInstanceAs (Decidable (a.rank ≤ b.rank))

end TransportState

/-- Why a transport does not serve. -/
inductive TransportError where
  /-- The address cannot be listened on. -/
  | bind (endpoint : Endpoint) (cause : SystemError)
  /-- The transport is or was listening already, or has been stopped. -/
  | invalidState (state : TransportState)
  /-- The server failed while it was serving. -/
  | serve (reason : String)
  deriving DecidableEq, Repr

/-- The wording of an error. -/
def TransportError.message : TransportError → String
  | .bind endpoint cause => "failed to bind " ++ endpoint.text ++ ": " ++ cause.message
  | .invalidState state => "transport cannot listen from state " ++ state.name
  | .serve reason => "server error: " ++ reason

/-- What a transport was set up with. -/
structure TransportSettings where
  /-- The settings of mutual TLS; without it everything is plain, for local tests only. -/
  tls : Option ServerSettings := none
  deriving DecidableEq, Repr

namespace TransportSettings

/-- Whether connections are protected. -/
def tlsEnabled (s : TransportSettings) : Bool := s.tls.isSome

/-- Sets up a transport. The files are read only if connections are to be protected. -/
def configure (enabled : Bool) (m : TlsPaths) (version : TlsVersion) (fs : FileSystem) :
    Except MutualTlsError TransportSettings := do
  if enabled then
    let bundle ← TrustBundle.load fs m
    .ok { tls := some (← bundle.serverSettings version) }
  else .ok {}

end TransportSettings

/-- A transport. -/
structure Transport where
  settings : TransportSettings := {}
  state : TransportState := .created
  /-- Whether the server has been told to take no more connections. -/
  shutdown : Bool := false
  /-- Whether the server has been told to drop the calls that are on their way. -/
  abort : Bool := false
  deriving DecidableEq, Repr

namespace Transport

/-! ### Atomic parts -/

/-- Goes from created to listening, if that is where the transport is. -/
def tryStart (t : Transport) : Option Transport :=
  if t.state = .created then some { t with state := .listening } else none

/-- The change of state of a graceful stop. -/
def beginDrain (t : Transport) : Transport :=
  match t.state with
  | .listening => { t with state := .draining }
  | .created => { t with state := .stopped }
  | .draining | .stopped => t

/-- The change of state of a stop. A server that listens changes the state itself when it ends. -/
def beginStop (t : Transport) : Transport :=
  if t.state = .created then { t with state := .stopped } else t

/-- Raises the flag for no more connections. -/
def raiseShutdown (t : Transport) : Transport := { t with shutdown := true }

/-- Raises the flag for no more calls. -/
def raiseAbort (t : Transport) : Transport := { t with abort := true }

/-- The last change of state of a server. -/
def markStopped (t : Transport) : Transport := { t with state := .stopped }

/-- Only a transport that was just created can begin to listen. -/
theorem tryStart_eq_some_iff {t t' : Transport} :
    t.tryStart = some t' ↔ t.state = .created ∧ t' = { t with state := .listening } := by
  simp only [tryStart, Option.ite_none_right_eq_some, Option.some.injEq, eq_comm (a := t')]

/-- A transport past its creation refuses to listen. -/
theorem tryStart_eq_none_iff {t : Transport} : t.tryStart = none ↔ t.state ≠ .created := by
  simp only [tryStart, ite_eq_right_iff, reduceCtorEq, imp_false, ne_eq]

/-- To listen does not take the state back. -/
theorem state_le_of_tryStart {t t' : Transport} (h : t.tryStart = some t') :
    t.state ≤ t'.state := by
  obtain ⟨hstate, rfl⟩ := tryStart_eq_some_iff.mp h
  show t.state.rank ≤ 1
  rw [hstate]
  decide

/-- To drain does not take the state back. -/
theorem state_le_beginDrain (t : Transport) : t.state ≤ t.beginDrain.state := by
  unfold beginDrain
  cases h : t.state <;> simp [h] <;> decide

/-- To stop does not take the state back. -/
theorem state_le_beginStop (t : Transport) : t.state ≤ t.beginStop.state := by
  unfold beginStop
  cases h : t.state <;> simp [h] <;> decide

theorem state_le_markStopped (t : Transport) : t.state ≤ t.markStopped.state := by
  show t.state.rank ≤ 3
  cases t.state <;> decide

/-! ### Stopping -/

/-- Takes no more connections, and lets the calls on their way end. -/
def gracefulStop (t : Transport) : Transport := t.beginDrain.raiseShutdown

/-- Stops at once. -/
def stop (t : Transport) : Transport := t.beginStop.raiseAbort.raiseShutdown

/-- A transport that never listened is stopped at once. -/
theorem state_gracefulStop_of_created {t : Transport} (h : t.state = .created) :
    t.gracefulStop.state = .stopped := by
  simp [gracefulStop, beginDrain, raiseShutdown, h]

/-- A transport that is stopped stays so. -/
theorem state_stop_of_stopped {t : Transport} (h : t.state = .stopped) :
    t.stop.state = .stopped := by
  simp [stop, beginStop, raiseAbort, raiseShutdown, h]

end Transport

/-! ### Serving -/

/-- How far a server is. -/
inductive ServePhase where
  /-- It has not looked at the state yet. -/
  | starting
  | serving
  /-- It has ended, and raises the flag for no more connections. -/
  | closing (result : Except TransportError Unit)
  /-- It waits for its listener to end, and changes the state. -/
  | leaving (result : Except TransportError Unit)
  | returned (result : Except TransportError Unit)

/-- What happens to a server that is serving: nothing that ends it, the end of its last call after
it was told to take no more connections, or a failure. -/
inductive ServeEvent where
  | busy
  | idle
  | fails (reason : String)

namespace ServePhase

/-- The next phase of a server with the transport it leaves. A server that is told to drop its
calls ends well, and so does one without calls that takes no more connections. -/
def step (t : Transport) (e : ServeEvent) : ServePhase → ServePhase × Transport
  | starting =>
    match t.tryStart with
    | some t => (serving, t)
    | none => (returned (.error (.invalidState t.state)), t)
  | serving =>
    if t.abort then (closing (.ok ()), t)
    else
      match e with
      | .fails reason => (closing (.error (.serve reason)), t)
      | .idle => if t.shutdown then (closing (.ok ()), t) else (serving, t)
      | .busy => (serving, t)
  | closing result => (leaving result, t.raiseShutdown)
  | leaving result => (returned result, t.markStopped)
  | returned result => (returned result, t)

/-- As long as it serves, a server does nothing to its transport. -/
theorem snd_step_serving (t : Transport) (e : ServeEvent) : (serving.step t e).2 = t := by
  simp only [step]
  split
  · rfl
  · split
    · rfl
    · split <;> rfl
    · rfl

/-- Whether a server goes on for as long as nothing happens. -/
def Waiting (t : Transport) : ServePhase → Bool
  | serving => !t.abort && !t.shutdown
  | _ => false

/-- Takes up to `n` steps of a server without calls. -/
def settle : (n : Nat) → Transport → ServePhase → ServePhase × Transport
  | 0, t, p => (p, t)
  | n + 1, t, p =>
    if p.Waiting t then (p, t)
    else
      let (p, t) := p.step t .idle
      settle n t p

end ServePhase

/-- Begins to listen on an address. -/
def Transport.bind (network : Network) (endpoint : Endpoint) : Except TransportError Unit :=
  match network.refusal? endpoint with
  | some cause => .error (.bind endpoint cause)
  | none => .ok ()

/-! ### Tasks -/

/-- A call on a transport that is on its way. -/
inductive TransportTask where
  | serve (phase : ServePhase)
  /-- A server that may not start, before it looks at the state again to say which it found. -/
  | refused
  /-- A graceful stop before its first, second or behind its last part. -/
  | gracefulStop (done : Nat)
  | stop (done : Nat)

namespace TransportTask

/-- Takes the next atomic part of a task. The state may have changed between the refusal of a
server and its second look. -/
def step (t : Transport) (e : ServeEvent) : TransportTask → TransportTask × Transport
  | serve .starting =>
    match t.tryStart with
    | some t => (serve .serving, t)
    | none => (refused, t)
  | refused => (serve (.returned (.error (.invalidState t.state))), t)
  | serve phase =>
    let (phase, t) := phase.step t e
    (serve phase, t)
  | gracefulStop 0 => (gracefulStop 1, t.beginDrain)
  | gracefulStop 1 => (gracefulStop 2, t.raiseShutdown)
  | gracefulStop n => (gracefulStop n, t)
  | stop 0 => (stop 1, t.beginStop)
  | stop 1 => (stop 2, t.raiseAbort)
  | stop 2 => (stop 3, t.raiseShutdown)
  | stop n => (stop n, t)

/-- No part of a task takes the state back. -/
theorem state_le_step (t : Transport) (e : ServeEvent) (task : TransportTask) :
    t.state ≤ (task.step t e).2.state := by
  have hself : t.state ≤ t.state := Nat.le_refl _
  cases task with
  | serve p =>
    cases p with
    | starting =>
      rw [step]
      cases h : t.tryStart with
      | none => exact hself
      | some t' => exact Transport.state_le_of_tryStart h
    | serving =>
      show t.state ≤ (ServePhase.serving.step t e).2.state
      rw [ServePhase.snd_step_serving]
      exact hself
    | closing result => exact hself
    | leaving result => exact t.state_le_markStopped
    | returned result => exact hself
  | refused => exact hself
  | gracefulStop n =>
    match n with
    | 0 => exact t.state_le_beginDrain
    | 1 => exact hself
    | _ + 2 => exact hself
  | stop n =>
    match n with
    | 0 => exact t.state_le_beginStop
    | 1 => exact hself
    | 2 => exact hself
    | _ + 3 => exact hself

end TransportTask

end GatewayAgent
