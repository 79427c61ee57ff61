import GatewayAgent.Data.Dictionary
import GatewayAgent.Time.Instant

/-!
# Sessions

A session is one connected client of the gateway. It may have an expiry, after which it counts as
gone although its entry may still be there.
-/

namespace GatewayAgent

/-- A connected client. -/
structure Session where
  /-- The identifier that the gateway has given. -/
  id : String := ""
  /-- The user who has logged in. -/
  username : String := ""
  /-- The public address of the client. -/
  clientIp : String := ""
  /-- Its address inside the tunnel. -/
  vpnIp : String := ""
  /-- Its device, if known. -/
  deviceId : String := ""
  connectedAt : Option Instant := none
  lastActivity : Option Instant := none
  /-- The last instant at which the session is live; none if it never expires. -/
  expiresAt : Option Instant := none
  /-- Bytes received from the client. -/
  bytesIn : UInt64 := 0
  /-- Bytes sent to the client. -/
  bytesOut : UInt64 := 0
  /-- Attributes that the gateway has reported. -/
  metadata : Dictionary String String := .empty
  deriving Inhabited

/-- Whether the expiry of a session, if it has one, is before `now`. -/
def Session.isExpiredAt (s : Session) (now : Instant) : Bool :=
  s.expiresAt.any fun e => decide (e < now)

/-- A field that a session cannot be recorded without. -/
inductive RequiredField where
  | sessionId
  | username
  deriving DecidableEq, Repr

/-- The wording of a missing field. -/
def RequiredField.message : RequiredField → String
  | .sessionId => "session_id is required"
  | .username => "username is required"

/-- Why an operation on sessions failed. -/
inductive SessionError where
  /-- A required field is empty. -/
  | invalidArgument (missing : RequiredField)
  /-- There is no session with this identifier. -/
  | notFound (id : String)
  /-- The session is there, but its expiry has passed. -/
  | expired (id : String)
  /-- The change that should be made failed. -/
  | updateFailed (id : String) (reason : String)
  deriving DecidableEq, Repr

/-- The wording of an error. -/
def SessionError.message : SessionError → String
  | .invalidArgument f => "invalid argument: " ++ f.message
  | .notFound id => "session not found: " ++ id
  | .expired id => "session expired: " ++ id
  | .updateFailed id reason => "update of session " ++ id ++ " failed: " ++ reason

/-- Whether the session is merely not there, or no longer. -/
def SessionError.isUnavailable : SessionError → Bool
  | .notFound _ | .expired _ => true
  | _ => false

end GatewayAgent
