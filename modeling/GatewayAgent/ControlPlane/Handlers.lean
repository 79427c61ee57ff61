import GatewayAgent.ControlPlane.Turn
import GatewayAgent.Text.Blank
import GatewayAgent.UserConfig.Writer

/-!
# The calls of the control plane

One handler for each call. A handler reads the clock once, at its beginning, and is handed that
reading. What a command did travels in the answer; a malformed request and a deadline that has
passed are statuses.

Notifications of the gateway are always acknowledged: what the registry makes of them does not
keep a client out.
-/

namespace GatewayAgent

/-- The settings of a control plane. -/
structure ControlPlane where
  /-- Where the files of the users are, if there is such a directory. -/
  userConfigDir : Option String := none
  /-- When the agent was started. -/
  startedAt : Instant := ⟨0⟩

/-- A count as it is reported, at most `2 ^ 31 - 1`. -/
def reportedCount (n : Nat) : Int := min n (Nat.pow 2 31 - 1)

/-! ### Health -/

/-- What is reported for a check that is not made. -/
def notImplemented : String := "not implemented"

/-- The whole seconds since the start. -/
def ControlPlane.uptime (p : ControlPlane) (now : Instant) : String :=
  toString ((now.nanos - p.startedAt.nanos).toNat / 1000000000) ++ "s"

/-- The checks of the first tier. -/
def ControlPlane.agentChecks (p : ControlPlane) (now : Instant) : List (String × String) :=
  [("agent", "ok"), ("config", "ok"), ("uptime", p.uptime now)]

/-- The checks that the second tier adds. -/
def componentChecks (r : Registry) (now : Instant) : List (String × String) :=
  [("sessions", "ok (" ++ toString (r.count now) ++ " active)"), ("memory", notImplemented),
    ("gateway_process", notImplemented)]

/-- The checks that the third tier adds. -/
def endToEndChecks : List (String × String) :=
  [("gateway_control", notImplemented), ("config_dirs", notImplemented)]

/-- The report of a tier. -/
def ControlPlane.healthReport (p : ControlPlane) (r : Registry) (now : Instant) (tier : Int) :
    Reply :=
  let first := p.agentChecks now
  let second := first ++ componentChecks r now
  if tier = 1 then
    .ok (.health true "agent is running" (.ofList first) now)
  else if tier = 2 then
    .ok (.health true "component checks passed; memory and gateway checks are placeholders"
      (.ofList second) now)
  else if tier = 3 then
    .ok (.health false "end-to-end checks are not implemented"
      (.ofList (second ++ endToEndChecks)) now)
  else
    .error (.invalidArgument
      ("health check tier must be 1, 2, or 3, got " ++ toString tier))

/-! ### Commands -/

/-- The exit code of a command that never ran. -/
def noExitCode : Int := -1

/-- The reply to a request for a command. -/
def commandReply (requestId : String) : CommandResult → Reply
  | .ok o => .ok (.command requestId o.success o.stdout o.stderr o.exitCode o.errorMessage)
  | .error e =>
    match e.status? with
    | some status => .error status
    | none => .ok (.command requestId false "" "" noExitCode e.message)

/-! ### Notifications of the gateway -/

/-- Records a session if it can be recorded. -/
def Registry.notifyConnect (r : Registry) (now : Instant) (s : Session) : Registry :=
  match r.add now s with
  | .ok r => r
  | .error _ => r

/-- Records the final traffic of a session if it is live, and removes it if it is there. -/
def Registry.notifyDisconnect (r : Registry) (now : Instant) (id : String)
    (bytesIn bytesOut : UInt64) : Registry :=
  let r :=
    match r.updateTraffic now id bytesIn bytesOut with
    | .ok r => r
    | .error _ => r
  match r.remove id with
  | .ok r => r
  | .error _ => r

/-! ### Listing -/

/-- The attribute that holds the text of a time, where there is one. -/
def timeAttribute (name : String) (t : Option Instant) (d : Dictionary String String) :
    Dictionary String String :=
  match t with
  | some t => d.insert name t.rfc3339
  | none => d

/-- The attributes with which a session is listed. -/
def Session.listedMetadata (s : Session) (includeStats : Bool) : Dictionary String String :=
  if includeStats then
    timeAttribute "expires_at" s.expiresAt
      (timeAttribute "last_activity" s.lastActivity s.metadata)
  else .empty

/-- A session as it is listed. -/
def Session.listed (s : Session) (includeStats : Bool) : ListedSession where
  id := s.id
  username := s.username
  clientIp := s.clientIp
  vpnIp := s.vpnIp
  deviceId := s.deviceId
  connectedAt := s.connectedAt
  bytesIn := s.bytesIn
  bytesOut := s.bytesOut
  metadata := s.listedMetadata includeStats

/-- The live sessions of a user, or all of them for an empty name. -/
def Registry.listFiltered (r : Registry) (now : Instant) (usernameFilter : String) :
    List Session :=
  if usernameFilter = "" then r.list now else r.listByUsername now usernameFilter

/-- The reply to a request for the sessions. -/
def sessionsReply (r : Registry) (now : Instant) (usernameFilter : String)
    (includeStats : Bool) : Reply :=
  let found := r.listFiltered now usernameFilter
  .ok (.sessions (reportedCount found.length) (found.map (·.listed includeStats)))

/-! ### Disconnecting a user -/

/-- The request that makes the gateway drop every connection of a user. -/
def disconnectLine (username : String) : CommandLine :=
  ⟨"occtl", ["disconnect", "user", username]⟩

/-- The best description of why a command that ran did not succeed. -/
def CommandOutput.failureMessage (o : CommandOutput) : String :=
  if o.errorMessage ≠ "" then o.errorMessage
  else if Text.trim o.stderr ≠ "" then Text.trim o.stderr
  else "exited with code " ++ toString o.exitCode

/-- Forgets the sessions of a user, and counts them. -/
def AgentState.forgetUser (s : AgentState) (username : String) : AgentState × Nat :=
  let (registry, removed) := s.registry.removeByUsername username
  ({ s with registry }, removed)

/-- What follows when the gateway has been asked to disconnect a user. -/
def afterDisconnect (username : String) (result : CommandResult) (s : AgentState) :
    AgentState × Reply :=
  match result with
  | .ok o =>
    if o.success then
      let (s, removed) := s.forgetUser username
      (s, .ok (.disconnected true (reportedCount removed) ""))
    else (s, .ok (.disconnected false 0 o.failureMessage))
  | .error e =>
    match e.status? with
    | some status => (s, .error status)
    | none => (s, .ok (.disconnected false 0 e.message))

/-- The reply to a request without a username. -/
def usernameRequired : Status := .invalidArgument "username is required"

/-- Has the gateway disconnect a user. -/
def disconnectUser (s : AgentState) (username : String) : Turn :=
  if username = "" then .replied s (.error usernameRequired)
  else .waiting s (disconnectLine username) (afterDisconnect username)

/-! ### Routes of a user -/

/-- The length in bytes that a name of a file may have that is named for a user. -/
def longestUsername : Nat := 64

/-- A character of a username that can name a file. -/
def UsernameChar (c : Char) : Bool :=
  c.isAlphanum || c == '.' || c == '_' || c == '-' || c == '@'

/-- A username that can name a file as it is. -/
def SafeUsername (name : String) : Bool :=
  !name.isEmpty && decide (name.utf8ByteSize ≤ longestUsername) &&
    decide (name.toList.head? ≠ some '.') && name.toList.all UsernameChar

/-- The reply when the routes were not written. -/
def routesFailed (message : String) : Reply := .ok (.routes false "" false message)

/-- What follows when the gateway has been asked to disconnect a user whose file is written. The
sessions are forgotten only if it did so. -/
def afterReload (username path : String) (result : CommandResult) (s : AgentState) :
    AgentState × Reply :=
  match result with
  | .ok o =>
    if o.success then ((s.forgetUser username).1, .ok (.routes true path true ""))
    else (s, .ok (.routes true path false ""))
  | .error _ => (s, .ok (.routes true path false ""))

/-- What follows when a user's file is written: the user is disconnected, if that was asked for
and the user is connected, so that the new file is read when the client comes back. -/
def afterWrite (s : AgentState) (now : Instant) (username path : String)
    (reloadIfConnected : Bool) : Turn :=
  if reloadIfConnected && decide (0 < s.registry.countByUsername now username) then
    .waiting s (disconnectLine username) (afterReload username path)
  else .replied s (.ok (.routes true path false ""))

/-- Writes the file of a user below a directory. -/
def writeUserFile (s : AgentState) (now : Instant) (dir : String) (update : UserUpdate)
    (reloadIfConnected : Bool) : Turn :=
  let path := Path.join dir update.username
  match writeUserConfig s.files path update with
  | (files, .error e) =>
    .replied { s with files } (routesFailed ("failed to write user configuration: " ++ e.message))
  | (files, .ok ()) => afterWrite { s with files } now update.username path reloadIfConnected

/-- Gives a user new routes. -/
def ControlPlane.updateUserRoutes (p : ControlPlane) (s : AgentState) (now : Instant)
    (update : UserUpdate) (reloadIfConnected : Bool) : Turn :=
  if update.username = "" then .replied s (.error usernameRequired)
  else if !SafeUsername update.username then
    .replied s (.error (.invalidArgument
      ("username " ++ Text.quote update.username ++
        " cannot be used as a configuration file name")))
  else
    match p.userConfigDir with
    | none => .replied s (routesFailed "per-user configuration directory is not configured")
    | some dir => writeUserFile s now dir update reloadIfConnected

/-! ### All calls -/

namespace ControlPlane

/-- Begins a call at the clock reading `now`. -/
def begin (p : ControlPlane) (s : AgentState) (now : Instant) : Request → Turn
  | .healthCheck tier => .replied s (p.healthReport s.registry now tier)
  | .executeCommand requestId command args =>
    .waiting s ⟨command, args⟩ fun result s => (s, commandReply requestId result)
  | .notifyConnect id username clientIp vpnIp deviceId metadata =>
    let session : Session := { id, username, clientIp, vpnIp, deviceId, metadata }
    .replied { s with registry := s.registry.notifyConnect now session } (.ok (.connect true))
  | .notifyDisconnect id bytesIn bytesOut =>
    .replied { s with registry := s.registry.notifyDisconnect now id bytesIn bytesOut }
      (.ok (.disconnect true "disconnect notification received"))
  | .getActiveSessions usernameFilter includeStats =>
    .replied s (sessionsReply s.registry now usernameFilter includeStats)
  | .disconnectUser username => disconnectUser s username
  | .updateUserRoutes username routes dnsServers reloadIfConnected params =>
    p.updateUserRoutes s now { username, routes, dnsServers, directives := params }
      reloadIfConnected
  | .updateConfig => .replied s (.error (.unimplemented "UpdateConfig"))
  | .streamLogs => .replied s (.error (.unimplemented "StreamLogs"))
  | .agentStream => .replied s (.error (.unimplemented "AgentStream"))

/-- Handles a call with nothing in between. -/
def handle (p : ControlPlane) (executor : Executor) (s : AgentState) (now : Instant)
    (deadline : Option Duration) (r : Request) : CallOutcome :=
  (p.begin s now r).perform executor deadline

end ControlPlane

/-- What a caller gets of a call whose panics are contained. -/
def Pending.contained : Pending Reply → Pending Reply
  | .panic _ => .after ⟨0⟩ (.error .internalError)
  | other => other

namespace ControlPlane

/-- Answers a call as callers see it: as `handle` does, with a panic contained. -/
def serve (p : ControlPlane) (executor : Executor) (s : AgentState) (now : Instant)
    (deadline : Option Duration) (r : Request) : CallOutcome :=
  let out := p.handle executor s now deadline r
  { out with reply := out.reply.contained }

end ControlPlane

end GatewayAgent
