import GatewayAgent.Proofs.Config.Sections

/-!
# What is left unset

A configuration need not be written in full. A `Selection` says which of its fields are, and of a
section that is written, which fields of the section. The others are those of the configuration
where nothing is set, each by itself: a section that is given in part keeps the rest of its own
values. A key that is no field's name is refused wherever it stands.

Main statement: `selection_completed`.
-/

namespace GatewayAgent

open Yaml (Document Node)
open ConfigField ConfigSection

/-! ### Picking fields -/

/-- The names of the TLS settings. -/
def TlsOptions.names : List String :=
  ["enabled", "auto_generate", "cert_file", "key_file", "ca_file", "min_version"]

/-- The fields with these names, and the others of `unset`. -/
def TlsOptions.pick (s : TlsOptions) (names : List String) (unset : TlsOptions) : TlsOptions where
  enabled := if "enabled" ∈ names then s.enabled else unset.enabled
  autoGenerate := if "auto_generate" ∈ names then s.autoGenerate else unset.autoGenerate
  certFile := if "cert_file" ∈ names then s.certFile else unset.certFile
  keyFile := if "key_file" ∈ names then s.keyFile else unset.keyFile
  caFile := if "ca_file" ∈ names then s.caFile else unset.caFile
  minVersion := if "min_version" ∈ names then s.minVersion else unset.minVersion

theorem TlsOptions.picks (s : TlsOptions) : fields.Picks (·.write s) s.pick where
  nil _ := rfl
  cons f hf names d a := by
    simp only [fields, List.mem_cons, List.not_mem_nil, or_false] at hf
    rcases hf with rfl | rfl | rfl | rfl | rfl | rfl
    · exact ⟨_, read_write_flag d s a _ _, by simp [pick, flag]⟩
    · exact ⟨_, read_write_flag d s a _ _, by simp [pick, flag]⟩
    · exact ⟨_, read_write_text d s a _ _, by simp [pick, text]⟩
    · exact ⟨_, read_write_text d s a _ _, by simp [pick, text]⟩
    · exact ⟨_, read_write_text d s a _ _, by simp [pick, text]⟩
    · exact ⟨_, read_write_version d s a _ _, by simp [pick, version]⟩

/-- The names of the session settings. -/
def SessionOptions.names : List String := ["ttl_secs"]

@[inherit_doc TlsOptions.pick]
def SessionOptions.pick (s : SessionOptions) (names : List String) (unset : SessionOptions) :
    SessionOptions where
  ttlSecs := if "ttl_secs" ∈ names then s.ttlSecs else unset.ttlSecs

theorem SessionOptions.picks (s : SessionOptions) : fields.Picks (·.write s) s.pick where
  nil _ := rfl
  cons f hf names d a := by
    obtain rfl := List.mem_singleton.mp hf
    exact ⟨_, read_write_number d s a _ _, by simp [pick, number]⟩

/-- The names of the security settings. -/
def SecurityOptions.names : List String :=
  ["allowed_commands", "sudo_user", "max_command_timeout_secs"]

@[inherit_doc TlsOptions.pick]
def SecurityOptions.pick (s : SecurityOptions) (names : List String) (unset : SecurityOptions) :
    SecurityOptions where
  allowedCommands :=
    if "allowed_commands" ∈ names then s.allowedCommands else unset.allowedCommands
  sudoUser := if "sudo_user" ∈ names then s.sudoUser else unset.sudoUser
  maxCommandTimeoutSecs :=
    if "max_command_timeout_secs" ∈ names then s.maxCommandTimeoutSecs
    else unset.maxCommandTimeoutSecs

theorem SecurityOptions.picks (s : SecurityOptions) : fields.Picks (·.write s) s.pick where
  nil _ := rfl
  cons f hf names d a := by
    simp only [fields, List.mem_cons, List.not_mem_nil, or_false] at hf
    rcases hf with rfl | rfl | rfl
    · exact ⟨_, read_write_texts d s a _ _, by simp [pick, texts]⟩
    · exact ⟨_, read_write_optionalText d s a _ _, by simp [pick, optionalText]⟩
    · exact ⟨_, read_write_number d s a _ _, by simp [pick, number]⟩

/-- The names of the gateway settings. -/
def GatewayOptions.names : List String :=
  ["occtl_path", "systemctl_path", "service_unit", "per_user_config_dir"]

@[inherit_doc TlsOptions.pick]
def GatewayOptions.pick (s : GatewayOptions) (names : List String) (unset : GatewayOptions) :
    GatewayOptions where
  occtlPath := if "occtl_path" ∈ names then s.occtlPath else unset.occtlPath
  systemctlPath := if "systemctl_path" ∈ names then s.systemctlPath else unset.systemctlPath
  serviceUnit := if "service_unit" ∈ names then s.serviceUnit else unset.serviceUnit
  perUserConfigDir :=
    if "per_user_config_dir" ∈ names then s.perUserConfigDir else unset.perUserConfigDir

theorem GatewayOptions.picks (s : GatewayOptions) : fields.Picks (·.write s) s.pick where
  nil _ := rfl
  cons f hf names d a := by
    simp only [fields, List.mem_cons, List.not_mem_nil, or_false] at hf
    rcases hf with rfl | rfl | rfl | rfl
    · exact ⟨_, read_write_text d s a _ _, by simp [pick, text]⟩
    · exact ⟨_, read_write_text d s a _ _, by simp [pick, text]⟩
    · exact ⟨_, read_write_text d s a _ _, by simp [pick, text]⟩
    · exact ⟨_, read_write_optionalText d s a _ _, by simp [pick, optionalText]⟩

/-- The names of the log settings. -/
def LogOptions.names : List String := ["level", "format"]

@[inherit_doc TlsOptions.pick]
def LogOptions.pick (s : LogOptions) (names : List String) (unset : LogOptions) : LogOptions where
  level := if "level" ∈ names then s.level else unset.level
  format := if "format" ∈ names then s.format else unset.format

theorem LogOptions.picks (s : LogOptions) : fields.Picks (·.write s) s.pick where
  nil _ := rfl
  cons f hf names d a := by
    simp only [fields, List.mem_cons, List.not_mem_nil, or_false] at hf
    rcases hf with rfl | rfl
    · exact ⟨_, read_write_text d s a _ _, by simp [pick, text]⟩
    · exact ⟨_, read_write_text d s a _ _, by simp [pick, text]⟩

/-- The names of the metrics settings. -/
def TelemetryOptions.names : List String := ["service_name", "otlp_endpoint"]

@[inherit_doc TlsOptions.pick]
def TelemetryOptions.pick (s : TelemetryOptions) (names : List String) (unset : TelemetryOptions) :
    TelemetryOptions where
  serviceName := if "service_name" ∈ names then s.serviceName else unset.serviceName
  otlpEndpoint := if "otlp_endpoint" ∈ names then s.otlpEndpoint else unset.otlpEndpoint

theorem TelemetryOptions.picks (s : TelemetryOptions) : fields.Picks (·.write s) s.pick where
  nil _ := rfl
  cons f hf names d a := by
    simp only [fields, List.mem_cons, List.not_mem_nil, or_false] at hf
    rcases hf with rfl | rfl
    · exact ⟨_, read_write_text d s a _ _, by simp [pick, text]⟩
    · exact ⟨_, read_write_optionalText d s a _ _, by simp [pick, optionalText]⟩

namespace Config

/-! ### Selections -/

/-- The names of the fields, sections among them. -/
def names : List String :=
  ["agent_id", "hostname", "listen_address", "tls", "sessions", "security", "gateway", "logging",
    "telemetry"]

/-- Which fields of a configuration are written, and which of every section. -/
structure Selection where
  top : FieldChoice Config.names
  tls : FieldChoice TlsOptions.names
  sessions : FieldChoice SessionOptions.names
  security : FieldChoice SecurityOptions.names
  gateway : FieldChoice GatewayOptions.names
  logging : FieldChoice LogOptions.names
  telemetry : FieldChoice TelemetryOptions.names

namespace Selection

variable (s : Selection) (c : Config)

/-- How a field is written, a section with its selected fields only. -/
def value (f : ConfigField Config) : Node :=
  match f.name with
  | "tls" => TlsOptions.fields.listing (·.write c.tls) s.tls.names
  | "sessions" => SessionOptions.fields.listing (·.write c.sessions) s.sessions.names
  | "security" => SecurityOptions.fields.listing (·.write c.security) s.security.names
  | "gateway" => GatewayOptions.fields.listing (·.write c.gateway) s.gateway.names
  | "logging" => LogOptions.fields.listing (·.write c.logging) s.logging.names
  | "telemetry" => TelemetryOptions.fields.listing (·.write c.telemetry) s.telemetry.names
  | _ => f.write c

/-- The mapping of the selected fields. -/
def node : Node := fields.listing (s.value c) s.top.names

/-- The fields with these names, a section completed by what holds where nothing is set, and the
others of `unset`. -/
def pick (names : List String) (unset : Config) : Config where
  agentId := if "agent_id" ∈ names then c.agentId else unset.agentId
  hostname := if "hostname" ∈ names then c.hostname else unset.hostname
  listenAddress := if "listen_address" ∈ names then c.listenAddress else unset.listenAddress
  tls := if "tls" ∈ names then c.tls.pick s.tls.names {} else unset.tls
  sessions := if "sessions" ∈ names then c.sessions.pick s.sessions.names {} else unset.sessions
  security := if "security" ∈ names then c.security.pick s.security.names {} else unset.security
  gateway := if "gateway" ∈ names then c.gateway.pick s.gateway.names {} else unset.gateway
  logging := if "logging" ∈ names then c.logging.pick s.logging.names {} else unset.logging
  telemetry :=
    if "telemetry" ∈ names then c.telemetry.pick s.telemetry.names {} else unset.telemetry

theorem picks : fields.Picks (s.value c) (s.pick c) where
  nil _ := rfl
  cons f hf names d a := by
    simp only [fields, List.mem_cons, List.not_mem_nil, or_false] at hf
    rcases hf with rfl | rfl | rfl | rfl | rfl | rfl | rfl | rfl | rfl
    · exact ⟨_, read_write_text d c a _ _, by simp [pick, text]⟩
    · exact ⟨_, read_write_optionalText d c a _ _, by simp [pick, optionalText]⟩
    · exact ⟨_, read_write_text d c a _ _, by simp [pick, text]⟩
    -- A section is read from its own unset values, not from what `a` has in its place.
    · exact ⟨_, read_nested d (c.tls.picks.read_listing s.tls d _), by simp [pick, nested]⟩
    · exact ⟨_, read_nested d (c.sessions.picks.read_listing s.sessions d _),
        by simp [pick, nested]⟩
    · exact ⟨_, read_nested d (c.security.picks.read_listing s.security d _),
        by simp [pick, nested]⟩
    · exact ⟨_, read_nested d (c.gateway.picks.read_listing s.gateway d _),
        by simp [pick, nested]⟩
    · exact ⟨_, read_nested d (c.logging.picks.read_listing s.logging d _),
        by simp [pick, nested]⟩
    · exact ⟨_, read_nested d (c.telemetry.picks.read_listing s.telemetry d _),
        by simp [pick, nested]⟩

/-- The configuration with the selected fields, all others as where nothing is set. -/
def completed : Config := s.pick c s.top.names {}

theorem ofDocument?_node (anchored : List (Nat × Node)) :
    ofDocument? ⟨s.node c, anchored⟩ = some (s.completed c) :=
  (s.picks c).read_listing s.top _ _

/-- TLS is on unless it is itself turned off. -/
theorem completed_tls_enabled (h : "enabled" ∉ s.tls.names) :
    (s.completed c).tls.enabled = true := by
  simp only [completed, pick, TlsOptions.pick, if_neg h]
  split_ifs <;> rfl

end Selection

/-! ### Keys that are no names -/

/-- The sections, each with the names of its fields. -/
def sections : List (String × List String) :=
  [("tls", TlsOptions.names), ("sessions", SessionOptions.names),
    ("security", SecurityOptions.names), ("gateway", GatewayOptions.names),
    ("logging", LogOptions.names), ("telemetry", TelemetryOptions.names)]

variable {d : Document} {f : ConfigField Config} {v : Node} {p : String × List String}

theorem read_section_of_foreignKey (hp : p ∈ sections) (hf : fields.field? p.1 = some f)
    (h : d.HasForeignKey v p.2) (c : Config) : f.read d v c = none := by
  simp only [sections, List.mem_cons, List.not_mem_nil, or_false] at hp
  rcases hp with rfl | rfl | rfl | rfl | rfl | rfl
  -- Each name is that of a field that reads a table of its own.
  all_goals
    cases hf
    exact read_nested_of_foreignKey d h

/-- Some key, of the whole or of a section, is no field's name. -/
def Misnamed (d : Document) : Prop :=
  d.HasForeignKey d.root names ∨
    ∃ entries, d.entries? d.root = some entries ∧
      ∃ k v, (k, v) ∈ entries ∧ ∃ p ∈ sections, d.text? k = some p.1 ∧ d.HasForeignKey v p.2

theorem ofDocument?_of_misnamed (h : Misnamed d) : ofDocument? d = none := by
  rcases h with htop | ⟨entries, hentries, k, v, hmem, p, hp, hkey, hforeign⟩
  · exact fields.read_of_foreignKey htop {}
  · rw [ofDocument?, read_of_entries? hentries]
    -- The entry of the section cannot be read, and nothing else about the document matters.
    refine readEntries_eq_none hmem fun name f c hname hf => ?_
    obtain rfl := Option.some.inj (hkey.symm.trans hname)
    exact read_section_of_foreignKey hp hf hforeign c

/-- What a selection leaves out is as where nothing is set, field by field, so that TLS stays on
unless it is itself turned off. No document with a key that is no field's name is read. -/
theorem selection_completed (c : Config) (s : Selection) (anchored : List (Nat × Node)) :
    ofDocument? ⟨s.node c, anchored⟩ = some (s.completed c) ∧
      ("enabled" ∉ s.tls.names → (s.completed c).tls.enabled = true) ∧
        ∀ d, Misnamed d → ofDocument? d = none :=
  ⟨s.ofDocument?_node c anchored, s.completed_tls_enabled c, fun _ => ofDocument?_of_misnamed⟩

/-- A configuration that turns TLS off. -/
def withoutTls : Config :=
  { agentId := "gw-01", tls := { enabled := false, certFile := "gw.crt" } }

/-- The path of the certificate and who the agent is. -/
def certificateOnly : Selection where
  top := ⟨["tls", "agent_id"], by decide, by decide⟩
  tls := ⟨["cert_file"], by decide, by decide⟩
  sessions := ⟨[], by decide, by decide⟩
  security := ⟨[], by decide, by decide⟩
  gateway := ⟨[], by decide, by decide⟩
  logging := ⟨[], by decide, by decide⟩
  telemetry := ⟨[], by decide, by decide⟩

/-- A document with a single TLS setting. -/
def tlsDocument (key value : String) : Document :=
  ⟨.mapping [(.plain "tls", .mapping [(.plain key, .plain value)] none)] none, []⟩

/-- With no more than the certificate of a configuration without TLS, TLS is on. A slip in the name
of that setting is refused. -/
theorem certificate_only_keeps_tls :
    ofDocument? ⟨certificateOnly.node withoutTls, []⟩ =
      some { agentId := "gw-01", tls := { certFile := "gw.crt" } } ∧
    "enabled" ∉ certificateOnly.tls.names ∧
      (certificateOnly.completed withoutTls).tls.enabled = true ∧
    Misnamed (tlsDocument "cert_fil" "gw.crt") ∧
      ofDocument? (tlsDocument "cert_fil" "gw.crt") = none := by
  obtain ⟨hread, hkept, hstrict⟩ := selection_completed withoutTls certificateOnly []
  have hunselected : "enabled" ∉ certificateOnly.tls.names := by decide
  have hcompleted : certificateOnly.completed withoutTls =
      { agentId := "gw-01", tls := { certFile := "gw.crt" } } := by decide
  have hslip : (tlsDocument "cert_fil" "gw.crt").HasForeignKey
      (.mapping [(.plain "cert_fil", .plain "gw.crt")] none) TlsOptions.names :=
    ⟨_, rfl, .plain "cert_fil", .plain "gw.crt", List.mem_singleton.mpr rfl, by decide⟩
  have hmisnamed : Misnamed (tlsDocument "cert_fil" "gw.crt") :=
    .inr ⟨_, rfl, .plain "tls", _, List.mem_singleton.mpr rfl, _, List.mem_cons_self, rfl, hslip⟩
  exact ⟨hcompleted ▸ hread, hunselected, hkept hunselected, hmisnamed, hstrict _ hmisnamed⟩

end Config

end GatewayAgent
