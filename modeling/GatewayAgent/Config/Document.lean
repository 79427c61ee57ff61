import GatewayAgent.Config.Basic
import GatewayAgent.Yaml.Document

/-!
# The configuration as a document

A configuration is written as a mapping of sections and fields. `Section` is a table of the fields
of a structure, each with how it is read and how it is written, so that both directions go by the
same names. Reading starts from the values that hold where nothing is set; a field that is not in
the table or that occurs twice is refused.
-/

namespace GatewayAgent

open Yaml (Document Node)

/-- A field of a structure. -/
structure ConfigField (α : Type) where
  name : String
  /-- The structure with the field set to what a node says. -/
  read : Document → Node → α → Option α
  /-- The node that says what the field is. -/
  write : α → Node

/-- The fields of a structure. -/
abbrev ConfigSection (α : Type) := List (ConfigField α)

namespace ConfigSection

variable {α : Type}

/-- The field with a name. -/
def field? (t : ConfigSection α) (name : String) : Option (ConfigField α) :=
  t.find? fun f => f.name = name

/-- Sets the fields of some entries. A field can be set once. -/
def readEntries (t : ConfigSection α) (d : Document) :
    (seen : List String) → α → List (Node × Node) → Option α
  | _, a, [] => some a
  | seen, a, (k, v) :: rest => do
    let name ← (← d.resolve k).asText
    let f ← t.field? name
    if seen.contains name then none
    else
      let a ← f.read d v a
      t.readEntries d (name :: seen) a rest

/-- Sets the fields that a node lists. -/
def read (t : ConfigSection α) (d : Document) (n : Node) (a : α) : Option α := do
  let entries ← (← d.resolve n).asEntries
  t.readEntries d [] a entries

/-- The mapping of the fields with these names. -/
def writeOnly (t : ConfigSection α) (names : List String) (a : α) : Node :=
  .mapping (names.filterMap fun name => (t.field? name).map fun f => (.plain name, f.write a)) none

/-- The mapping of all fields. -/
def write (t : ConfigSection α) (a : α) : Node := t.writeOnly (t.map (·.name)) a

end ConfigSection

namespace ConfigField

variable {α : Type}

/-- A field that holds a text. -/
def text (name : String) (get : α → String) (set : String → α → α) : ConfigField α where
  name
  read d n a := do return set (← (← d.resolve n).asText) a
  write a := .quoted (get a)

/-- A field that may hold a text. -/
def optionalText (name : String) (get : α → Option String) (set : Option String → α → α) :
    ConfigField α where
  name
  read d n a := do
    let n ← d.resolve n
    if ← n.isAbsent? then return set none a else return set (some (← n.asText)) a
  write a :=
    match get a with
    | some s => .quoted s
    | none => .plain "~"

/-- A field that holds a flag. -/
def flag (name : String) (get : α → Bool) (set : Bool → α → α) : ConfigField α where
  name
  read d n a := do return set (← (← d.resolve n).asFlag) a
  write a := .plain (if get a then "true" else "false")

/-- A field that holds a number. -/
def number (name : String) (get : α → UInt64) (set : UInt64 → α → α) : ConfigField α where
  name
  read d n a := do return set (← (← d.resolve n).asNumber) a
  write a := .plain (toString (get a).toNat)

/-- A field that holds texts. -/
def texts (name : String) (get : α → List String) (set : List String → α → α) :
    ConfigField α where
  name
  read d n a := do
    let items ← (← d.resolve n).asItems
    return set (← items.mapM fun i => do (← d.resolve i).asText) a
  write a := .sequence ((get a).map .quoted) none

/-- A field that holds a version of the protocol. -/
def version (name : String) (get : α → TlsVersion) (set : TlsVersion → α → α) :
    ConfigField α where
  name
  read d n a := do return set (← TlsVersion.ofName? (← (← d.resolve n).asChoice)) a
  write a := .plain (get a).name

/-- A field that is a structure of its own. What it does not list keeps the values that hold where
nothing is set. -/
def nested {β : Type} (name : String) (t : ConfigSection β) (unset : β) (get : α → β)
    (set : β → α → α) : ConfigField α where
  name
  read d n a := do return set (← t.read d n unset) a
  write a := t.write (get a)

end ConfigField

open ConfigField

/-- The fields of the TLS settings. -/
def TlsOptions.fields : ConfigSection TlsOptions :=
  [flag "enabled" (·.enabled) fun v s => { s with enabled := v },
    flag "auto_generate" (·.autoGenerate) fun v s => { s with autoGenerate := v },
    text "cert_file" (·.certFile) fun v s => { s with certFile := v },
    text "key_file" (·.keyFile) fun v s => { s with keyFile := v },
    text "ca_file" (·.caFile) fun v s => { s with caFile := v },
    version "min_version" (·.minVersion) fun v s => { s with minVersion := v }]

/-- The fields of the session settings. -/
def SessionOptions.fields : ConfigSection SessionOptions :=
  [number "ttl_secs" (·.ttlSecs) fun v s => { s with ttlSecs := v }]

/-- The fields of the security settings. -/
def SecurityOptions.fields : ConfigSection SecurityOptions :=
  [texts "allowed_commands" (·.allowedCommands) fun v s => { s with allowedCommands := v },
    optionalText "sudo_user" (·.sudoUser) fun v s => { s with sudoUser := v },
    number "max_command_timeout_secs" (·.maxCommandTimeoutSecs) fun v s =>
      { s with maxCommandTimeoutSecs := v }]

/-- The fields of the gateway settings. -/
def GatewayOptions.fields : ConfigSection GatewayOptions :=
  [text "occtl_path" (·.occtlPath) fun v s => { s with occtlPath := v },
    text "systemctl_path" (·.systemctlPath) fun v s => { s with systemctlPath := v },
    text "service_unit" (·.serviceUnit) fun v s => { s with serviceUnit := v },
    optionalText "per_user_config_dir" (·.perUserConfigDir) fun v s =>
      { s with perUserConfigDir := v }]

/-- The fields of the log settings. -/
def LogOptions.fields : ConfigSection LogOptions :=
  [text "level" (·.level) fun v s => { s with level := v },
    text "format" (·.format) fun v s => { s with format := v }]

/-- The fields of the metrics settings. -/
def TelemetryOptions.fields : ConfigSection TelemetryOptions :=
  [text "service_name" (·.serviceName) fun v s => { s with serviceName := v },
    optionalText "otlp_endpoint" (·.otlpEndpoint) fun v s => { s with otlpEndpoint := v }]

namespace Config

/-- The fields of a configuration. -/
def fields : ConfigSection Config :=
  [text "agent_id" (·.agentId) fun v c => { c with agentId := v },
    optionalText "hostname" (·.hostname) fun v c => { c with hostname := v },
    text "listen_address" (·.listenAddress) fun v c => { c with listenAddress := v },
    nested "tls" TlsOptions.fields {} (·.tls) fun v c => { c with tls := v },
    nested "sessions" SessionOptions.fields {} (·.sessions) fun v c =>
      { c with sessions := v },
    nested "security" SecurityOptions.fields {} (·.security) fun v c =>
      { c with security := v },
    nested "gateway" GatewayOptions.fields {} (·.gateway) fun v c => { c with gateway := v },
    nested "logging" LogOptions.fields {} (·.logging) fun v c => { c with logging := v },
    nested "telemetry" TelemetryOptions.fields {} (·.telemetry) fun v c =>
      { c with telemetry := v }]

/-- The configuration of a document. -/
def ofDocument? (d : Document) : Option Config := fields.read d d.root {}

/-- The configuration of a text. -/
def parse? (text : String) : Option Config := (Document.read? text).bind ofDocument?

/-- The node that lists all fields of a configuration. -/
def toNode (c : Config) : Node := fields.write c

end Config

end GatewayAgent
