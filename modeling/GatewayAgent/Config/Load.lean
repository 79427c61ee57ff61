import GatewayAgent.Config.Document
import GatewayAgent.Host.FileSystem

/-!
# Loading a configuration

A configuration is read from a file, then some of its fields are replaced from the environment,
then it is checked as a whole. The check reports every problem at once.
-/

namespace GatewayAgent

/-! ### The environment -/

/-- The values of the variables of an environment. -/
abbrev Environment := String → Option String

/-- A variable that replaces one field. -/
structure Override where
  name : String
  set : String → Config → Config

namespace Config

/-- The variables that replace a field. -/
def overrides : List Override :=
  [⟨"WARDEN_AGENT_ID", fun v c => { c with agentId := v }⟩,
    ⟨"WARDEN_LISTEN_ADDRESS", fun v c => { c with listenAddress := v }⟩,
    ⟨"WARDEN_TLS_CERT_FILE", fun v c => { c with tls.certFile := v }⟩,
    ⟨"WARDEN_TLS_KEY_FILE", fun v c => { c with tls.keyFile := v }⟩,
    ⟨"WARDEN_TLS_CA_FILE", fun v c => { c with tls.caFile := v }⟩,
    ⟨"WARDEN_LOG_LEVEL", fun v c => { c with logging.level := v }⟩,
    ⟨"OTEL_EXPORTER_OTLP_ENDPOINT", fun v c => { c with telemetry.otlpEndpoint := some v }⟩]

/-- The configuration with one field replaced, if its variable has a value. An empty value counts
as none. -/
def override (env : Environment) (c : Config) (o : Override) : Config :=
  match (env o.name).filter (· ≠ "") with
  | some v => o.set v c
  | none => c

/-- The configuration with its fields replaced from the environment. -/
def withOverrides (c : Config) (env : Environment) : Config := overrides.foldl (override env) c

end Config

/-! ### The check -/

/-- The TLS files that can be missing from a configuration. -/
inductive MaterialField where
  | certFile
  | keyFile
  | caFile
  deriving DecidableEq, Repr

/-- The name of a field in messages. -/
def MaterialField.name : MaterialField → String
  | .certFile => "tls.cert_file"
  | .keyFile => "tls.key_file"
  | .caFile => "tls.ca_file"

/-- A problem of a configuration. -/
inductive ConfigProblem where
  | agentIdMissing
  | listenAddress (value : String)
  | materialMissing (field : MaterialField)
  | noCommands
  | noTimeout
  | logFormat (value : String)
  | serviceNameMissing
  | otlpEndpoint (value : String)
  deriving DecidableEq, Repr

/-- The wording of a problem. -/
def ConfigProblem.message : ConfigProblem → String
  | .agentIdMissing => "agent_id is required"
  | .listenAddress v => "listen_address " ++ Text.quote v ++ " is not a valid host:port"
  | .materialMissing f => f.name ++ " is required when TLS is enabled"
  | .noCommands => "security.allowed_commands must not be empty"
  | .noTimeout => "security.max_command_timeout_secs must be positive"
  | .logFormat v => "logging.format must be json or text, got " ++ Text.quote v
  | .serviceNameMissing => "telemetry.service_name must not be empty"
  | .otlpEndpoint v => "telemetry.otlp_endpoint must be an http(s) URL, got " ++ Text.quote v

/-- A problem, if there is cause for it. -/
def ConfigProblem.when (p : ConfigProblem) (cause : Bool) : List ConfigProblem :=
  if cause then [p] else []

/-- Whether a text starts as the address of a web service does. -/
def WebAddress (s : String) : Bool :=
  "http://".toList.isPrefixOf s.toList || "https://".toList.isPrefixOf s.toList

namespace Config

/-- The problems of the TLS files. -/
def materialProblems (t : TlsOptions) : List ConfigProblem :=
  if t.enabled then
    (ConfigProblem.materialMissing .certFile).when (t.certFile = "") ++
      (ConfigProblem.materialMissing .keyFile).when (t.keyFile = "") ++
      (ConfigProblem.materialMissing .caFile).when (t.caFile = "")
  else []

/-- The problems of the collector's address. -/
def endpointProblems (endpoint : Option String) : List ConfigProblem :=
  match endpoint with
  | some e => (ConfigProblem.otlpEndpoint e).when (!WebAddress e)
  | none => []

/-- The problems of a configuration. -/
def problems (c : Config) : List ConfigProblem :=
  ConfigProblem.agentIdMissing.when (Text.isBlank c.agentId) ++
    (ConfigProblem.listenAddress c.listenAddress).when c.endpoint?.isNone ++
    materialProblems c.tls ++
    ConfigProblem.noCommands.when c.security.allowedCommands.isEmpty ++
    ConfigProblem.noTimeout.when (c.security.maxCommandTimeoutSecs = 0) ++
    (ConfigProblem.logFormat c.logging.format).when
      (!(["json", "text"].contains (asciiLower c.logging.format))) ++
    ConfigProblem.serviceNameMissing.when (Text.isBlank c.telemetry.serviceName) ++
    endpointProblems c.telemetry.otlpEndpoint

end Config

/-! ### Loading -/

/-- Why there is no configuration. -/
inductive ConfigError where
  /-- The file could not be read. -/
  | read (path : String) (cause : SystemError)
  /-- The file does not hold a configuration. -/
  | parse (path : String)
  /-- The configuration has problems. -/
  | invalid (problems : List ConfigProblem)
  deriving Repr

/-- The wording of an error. -/
def ConfigError.message : ConfigError → String
  | .read path cause => "failed to read " ++ path ++ ": " ++ cause.message
  | .parse path => "failed to parse " ++ path
  | .invalid ps => "invalid configuration: " ++ "; ".intercalate (ps.map (·.message))

namespace Config

/-- Passes a configuration without problems. -/
def validate (c : Config) : Except ConfigError Unit :=
  if c.problems.isEmpty then .ok () else .error (.invalid c.problems)

/-- The address to listen on. -/
def listenEndpoint (c : Config) : Except ConfigError Endpoint :=
  match c.endpoint? with
  | some e => .ok e
  | none => .error (.invalid [.listenAddress c.listenAddress])

/-- Loads a configuration. -/
def load (fs : FileSystem) (path : String) (env : Environment) : Except ConfigError Config :=
  match fs.readText path with
  | .error e => .error (.read path e)
  | .ok text =>
    match parse? text with
    | none => .error (.parse path)
    | some c => do
      let c := c.withOverrides env
      c.validate
      pure c

end Config

end GatewayAgent
