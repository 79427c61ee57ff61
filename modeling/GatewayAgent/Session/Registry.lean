import GatewayAgent.Session.Basic

/-!
# The session registry

The registry keeps the sessions by identifier. With a time to live, every write stamps an expiry
that far into the future; without one, what it stamps is no expiry. Every operation is handed the
clock reading that it goes by.

Sessions whose expiry has passed are hidden from all readers and may be swept out at any time.
-/

namespace GatewayAgent

/-- The sessions of a gateway, by identifier. -/
structure Registry where
  /-- How long a session lives after its last write. -/
  ttl : Option Duration := none
  sessions : Dictionary String Session := .empty
  deriving Inhabited

/-- Totals over the live sessions. -/
structure Statistics where
  totalSessions : Nat := 0
  totalBytesIn : UInt64 := 0
  totalBytesOut : UInt64 := 0
  /-- The number of live sessions of each user that has one. -/
  sessionsByUser : Dictionary String Nat := .empty
  deriving Inhabited

namespace Registry

/-- An empty registry. No time to live and one of zero are the same. -/
def new (ttl : Option Duration) : Registry where
  ttl := ttl.filter fun d => 0 < d.nanos

/-- The expiry of a session that is written at `now`. -/
def expiryFrom (r : Registry) (now : Instant) : Option Instant := r.ttl.bind now.add?

/-- A new session as it is recorded: the missing times are set to `now`, and the expiry to what
the registry gives it. -/
def stamp (r : Registry) (now : Instant) (s : Session) : Session :=
  { s with
    connectedAt := s.connectedAt.or (some now)
    lastActivity := s.lastActivity.or (some now)
    expiresAt := r.expiryFrom now }

/-- Puts a session under its identifier. -/
def put (r : Registry) (s : Session) : Registry :=
  { r with sessions := r.sessions.insert s.id s }

/-- Keeps the sessions that satisfy `p`. -/
def keep (r : Registry) (p : Session → Bool) : Registry :=
  { r with sessions := r.sessions.filter fun _ s => p s }

/-- Refuses an empty identifier. -/
def requireId (id : String) : Except SessionError Unit :=
  if id = "" then .error (.invalidArgument .sessionId) else .ok ()

/-- Refuses a session that lacks a required field. -/
def validate (s : Session) : Except SessionError Unit :=
  if s.id = "" then .error (.invalidArgument .sessionId)
  else if s.username = "" then .error (.invalidArgument .username)
  else .ok ()

/-- The session under an identifier, if it is live. -/
def live (r : Registry) (now : Instant) (id : String) : Except SessionError Session :=
  match r.sessions.find? id with
  | none => .error (.notFound id)
  | some s => if s.isExpiredAt now then .error (.expired id) else .ok s

/-! ### Writing -/

/-- Records a session, replacing the one with its identifier. -/
def add (r : Registry) (now : Instant) (s : Session) : Except SessionError Registry := do
  validate s
  pure (r.put (r.stamp now s))

/-- What an update leaves of a session: the draft with the identifier it had, active at `now`, and
with a fresh expiry if the registry has a time to live. -/
def commit (r : Registry) (now : Instant) (id : String) (draft : Session) : Session :=
  let draft := { draft with id, lastActivity := some now }
  if r.ttl.isSome then { draft with expiresAt := r.expiryFrom now } else draft

/-- Changes a live session. The change works on a copy, and if it fails, nothing is kept. -/
def update (r : Registry) (now : Instant) (id : String)
    (change : Session → Except String Session) : Except SessionError Registry := do
  requireId id
  let s ← r.live now id
  match change s with
  | .error reason => .error (.updateFailed id reason)
  | .ok draft => .ok { r with sessions := r.sessions.insert id (r.commit now id draft) }

/-- Replaces the traffic counters of a live session. -/
def updateTraffic (r : Registry) (now : Instant) (id : String) (bytesIn bytesOut : UInt64) :
    Except SessionError Registry :=
  r.update now id fun s => .ok { s with bytesIn, bytesOut }

/-- Removes a session, expired or not. -/
def remove (r : Registry) (id : String) : Except SessionError Registry := do
  requireId id
  if r.sessions.contains id then .ok { r with sessions := r.sessions.erase id }
  else .error (.notFound id)

/-- Removes all sessions of a user, expired or not, and says how many there were. -/
def removeByUsername (r : Registry) (username : String) : Registry × Nat :=
  let rest := r.keep fun s => s.username ≠ username
  (rest, r.sessions.size - rest.sessions.size)

/-- The live session with this identifier, or else the given one, recorded. The flag says whether
it was recorded. -/
def getOrCreate (r : Registry) (now : Instant) (s : Session) :
    Except SessionError (Registry × Session × Bool) := do
  validate s
  match r.live now s.id with
  | .ok found => pure (r, found, false)
  | .error _ =>
    let s := r.stamp now s
    pure (r.put s, s, true)

/-- Removes everything. -/
def clear (r : Registry) : Registry := { r with sessions := .empty }

/-- Removes the sessions whose expiry has passed, and says how many there were. -/
def sweep (r : Registry) (now : Instant) : Registry × Nat :=
  let rest := r.keep fun s => !s.isExpiredAt now
  (rest, r.sessions.size - rest.sessions.size)

/-! ### Reading -/

/-- A live session. -/
def get (r : Registry) (now : Instant) (id : String) : Except SessionError Session := do
  requireId id
  r.live now id

/-- Whether there is a live session with this identifier. -/
def contains (r : Registry) (now : Instant) (id : String) : Bool := (r.get now id).isOk

/-- All live sessions. -/
def list (r : Registry) (now : Instant) : List Session :=
  r.sessions.values.filter fun s => !s.isExpiredAt now

/-- All live sessions of a user. -/
def listByUsername (r : Registry) (now : Instant) (username : String) : List Session :=
  r.sessions.values.filter fun s => !s.isExpiredAt now && s.username = username

/-- The number of live sessions. -/
def count (r : Registry) (now : Instant) : Nat :=
  r.sessions.values.countP fun s => !s.isExpiredAt now

/-- The number of live sessions of a user. -/
def countByUsername (r : Registry) (now : Instant) (username : String) : Nat :=
  r.sessions.values.countP fun s => !s.isExpiredAt now && s.username = username

end Registry

/-- A sum that stops at the largest count. -/
def saturatingAdd (a b : UInt64) : UInt64 :=
  UInt64.ofNat (min (a.toNat + b.toNat) (Nat.pow 2 64 - 1))

/-- The totals with one more session. -/
def Statistics.count (t : Statistics) (s : Session) : Statistics where
  totalSessions := t.totalSessions + 1
  totalBytesIn := saturatingAdd t.totalBytesIn s.bytesIn
  totalBytesOut := saturatingAdd t.totalBytesOut s.bytesOut
  sessionsByUser :=
    t.sessionsByUser.insert s.username ((t.sessionsByUser.find? s.username).getD 0 + 1)

namespace Registry

/-- The totals over the live sessions. -/
def statistics (r : Registry) (now : Instant) : Statistics :=
  (r.list now).foldl Statistics.count {}

end Registry

end GatewayAgent
