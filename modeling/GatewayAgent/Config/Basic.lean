import GatewayAgent.Certificate.Paths
import GatewayAgent.Command.Execution
import GatewayAgent.Net.Address
import GatewayAgent.Text.Blank
import GatewayAgent.Tls.Version

/-!
# The configuration

Everything that can be set, with the value that holds where nothing is set. What is left unset is
secure: the agent serves TLS, and it runs only two commands.
-/

namespace GatewayAgent

/-- Certificates and the protocol. -/
structure TlsOptions where
  /-- Whether clients must prove who they are; without it the agent is for local tests only. -/
  enabled : Bool := true
  /-- Whether certificates are made where files are missing. -/
  autoGenerate : Bool := true
  certFile : String := "/etc/warden/certs/agent.crt"
  keyFile : String := "/etc/warden/certs/agent.key"
  caFile : String := "/etc/warden/certs/ca.crt"
  minVersion : TlsVersion := .standard
  deriving DecidableEq, Repr

/-- The registry of sessions. -/
structure SessionOptions where
  /-- How long a session lives without activity; zero is forever. -/
  ttlSecs : UInt64 := 86400
  deriving DecidableEq, Repr

/-- Which commands run, and how. -/
structure SecurityOptions where
  allowedCommands : List String := ["occtl", "systemctl"]
  /-- The user to run as, if not the agent's own. -/
  sudoUser : Option String := none
  maxCommandTimeoutSecs : UInt64 := 300
  deriving DecidableEq, Repr

/-- The programs and files of the gateway. -/
structure GatewayOptions where
  occtlPath : String := "/usr/bin/occtl"
  systemctlPath : String := "/usr/bin/systemctl"
  serviceUnit : String := "ocserv"
  /-- Where the files of the users are, if routes can be changed. -/
  perUserConfigDir : Option String := none
  deriving DecidableEq, Repr

/-- The log. -/
structure LogOptions where
  level : String := "info"
  format : String := "json"
  deriving DecidableEq, Repr

/-- The export of metrics. -/
structure TelemetryOptions where
  serviceName : String := "warden"
  otlpEndpoint : Option String := none
  deriving DecidableEq, Repr

/-- A complete configuration. -/
structure Config where
  agentId : String := ""
  hostname : Option String := none
  listenAddress : String := "0.0.0.0:9090"
  tls : TlsOptions := {}
  sessions : SessionOptions := {}
  security : SecurityOptions := {}
  gateway : GatewayOptions := {}
  logging : LogOptions := {}
  telemetry : TelemetryOptions := {}
  deriving DecidableEq, Repr

/-- A text with its ASCII letters in lower case. -/
def asciiLower (s : String) : String := String.ofList (s.toList.map Char.toLower)

/-- How long sessions live, if not forever. -/
def SessionOptions.ttl (s : SessionOptions) : Option Duration :=
  if s.ttlSecs = 0 then none else some (Duration.ofSecs s.ttlSecs.toNat)

/-- Whether the log has a JSON object on each line. -/
def LogOptions.json (s : LogOptions) : Bool := asciiLower s.format = "json"

/-- The files that are set. -/
def TlsOptions.material (s : TlsOptions) : TlsPaths := ⟨s.certFile, s.keyFile, s.caFile⟩

namespace Config

/-- The address to listen on, if it is one. -/
def endpoint? (c : Config) : Option Endpoint := Endpoint.parse? c.listenAddress

/-- The host name that is set, if any is. -/
def configuredHostname? (c : Config) : Option String := c.hostname.filter (!Text.isBlank ·)

/-- The name of a host that has no other. -/
def fallbackHostname : String := "localhost"

/-- The host name that is set, or else that of the system, or else the fallback. -/
def effectiveHostname (c : Config) (system : Option String) : String :=
  match c.configuredHostname? with
  | some h => h
  | none => ((system.map Text.trim).filter (· ≠ "")).getD fallbackHostname

/-- The settings of the executor. -/
def executorSettings (c : Config) : ExecutorSettings where
  allowed := c.security.allowedCommands
  programs :=
    .ofList [("occtl", c.gateway.occtlPath), ("systemctl", c.gateway.systemctlPath)]
  sudoUser := c.security.sudoUser
  serviceUnit := c.gateway.serviceUnit
  timeout := Duration.ofSecs c.security.maxCommandTimeoutSecs.toNat

end Config

end GatewayAgent
