import GatewayAgent.Data.Dictionary
import GatewayAgent.Time.Instant

/-!
# Requests and answers

The calls of the control plane. The gateway reports connects and disconnects; the remote
controller asks for everything else.
-/

namespace GatewayAgent

/-- A call of the control plane. -/
inductive Request where
  | healthCheck (tier : Int)
  | executeCommand (requestId command : String) (args : List String)
  | notifyConnect (sessionId username clientIp vpnIp deviceId : String)
      (metadata : Dictionary String String)
  | notifyDisconnect (sessionId : String) (bytesIn bytesOut : UInt64)
  | getActiveSessions (usernameFilter : String) (includeStats : Bool)
  | disconnectUser (username : String)
  | updateUserRoutes (username : String) (routes dnsServers : List String)
      (reloadIfConnected : Bool) (params : Dictionary String String)
  | updateConfig
  | streamLogs
  | agentStream

/-- A session as it is listed. -/
structure ListedSession where
  id : String
  username : String
  clientIp : String
  vpnIp : String
  deviceId : String
  connectedAt : Option Instant
  bytesIn : UInt64
  bytesOut : UInt64
  metadata : Dictionary String String

/-- The answer to a call. -/
inductive Answer where
  | health (healthy : Bool) (statusMessage : String) (checks : Dictionary String String)
      (timestamp : Instant)
  | command (requestId : String) (success : Bool) (stdout stderr : String) (exitCode : Int)
      (errorMessage : String)
  | connect (allowed : Bool)
  | disconnect (acknowledged : Bool) (message : String)
  | sessions (totalCount : Int) (sessions : List ListedSession)
  | disconnected (success : Bool) (sessionsDisconnected : Int) (errorMessage : String)
  | routes (success : Bool) (configPath : String) (userReconnected : Bool) (errorMessage : String)

end GatewayAgent
