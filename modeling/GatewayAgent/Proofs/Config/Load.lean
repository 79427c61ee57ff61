import GatewayAgent.Config.Load
import Mathlib.Data.List.Basic

/-!
# What a loaded configuration is good for

The check of a configuration asks for a number of things (`Valid`, `problems_eq_nil_iff`), and from
these follows what those who use it rely on (`Serviceable`): its address can be listened on, its
commands have time to run, and so on.

The environment replaces seven fields, each by the value of its own variable
(`withOverrides_eq_overriddenBy`). So replacing them once more changes nothing, and nothing else of
an environment matters.

Main statement: `load_serviceable_and_stable`.
-/

namespace GatewayAgent

/-! ### The check -/

theorem ConfigProblem.when_eq_nil_iff {p : ConfigProblem} {cause : Bool} :
    p.when cause = [] ↔ cause = false := by
  cases cause <;> simp [ConfigProblem.when]

namespace Config

variable {c : Config} {env env' : Environment} {fs : FileSystem} {path : String}

/-- Everything that the check asks of a configuration. -/
structure Valid (c : Config) : Prop where
  agentId : Text.isBlank c.agentId = false
  listenAddress : ∃ e, c.endpoint? = some e
  material : c.tls.enabled = true →
    c.tls.certFile ≠ "" ∧ c.tls.keyFile ≠ "" ∧ c.tls.caFile ≠ ""
  commands : c.security.allowedCommands ≠ []
  timeout : c.security.maxCommandTimeoutSecs ≠ 0
  format : asciiLower c.logging.format = "json" ∨ asciiLower c.logging.format = "text"
  serviceName : Text.isBlank c.telemetry.serviceName = false
  collector : ∀ e, c.telemetry.otlpEndpoint = some e → WebAddress e = true

theorem materialProblems_eq_nil_iff {t : TlsOptions} :
    materialProblems t = [] ↔
      (t.enabled = true → t.certFile ≠ "" ∧ t.keyFile ≠ "" ∧ t.caFile ≠ "") := by
  rw [materialProblems]
  split_ifs with henabled
  · simp [ConfigProblem.when_eq_nil_iff, henabled]
  · simp [henabled]

theorem endpointProblems_eq_nil_iff {endpoint : Option String} :
    endpointProblems endpoint = [] ↔ ∀ e, endpoint = some e → WebAddress e = true := by
  cases endpoint with
  | none => simp [endpointProblems]
  | some e => simp [endpointProblems, ConfigProblem.when_eq_nil_iff]

theorem problems_eq_nil_iff : c.problems = [] ↔ c.Valid := by
  have hlisten : c.endpoint?.isNone = false ↔ ∃ e, c.endpoint? = some e := by
    cases c.endpoint? <;> simp
  have hcommands : c.security.allowedCommands.isEmpty = false ↔
      c.security.allowedCommands ≠ [] := by
    cases c.security.allowedCommands <;> simp
  have hformat : (!(["json", "text"].contains (asciiLower c.logging.format))) = false ↔
      asciiLower c.logging.format = "json" ∨ asciiLower c.logging.format = "text" := by
    simp [Decidable.or_iff_not_imp_left]
  simp only [problems, List.append_eq_nil_iff, ConfigProblem.when_eq_nil_iff, hlisten, hcommands,
    hformat, materialProblems_eq_nil_iff, endpointProblems_eq_nil_iff]
  constructor
  · rintro ⟨⟨⟨⟨⟨⟨⟨hagent, hlisten⟩, hmaterial⟩, hcommands⟩, htimeout⟩, hformat⟩, hservice⟩,
      hcollector⟩
    exact ⟨hagent, hlisten, hmaterial, hcommands, by simpa using htimeout, hformat, hservice,
      hcollector⟩
  · intro h
    exact ⟨⟨⟨⟨⟨⟨⟨h.agentId, h.listenAddress⟩, h.material⟩, h.commands⟩, by simpa using h.timeout⟩,
      h.format⟩, h.serviceName⟩, h.collector⟩

theorem validate_eq_ok_iff : c.validate = .ok () ↔ c.Valid := by
  rw [validate, ← problems_eq_nil_iff, ← List.isEmpty_iff]
  split_ifs with h <;> simp [h]

/-! ### What a configuration is used for -/

/-- What those who use a configuration rely on. -/
structure Serviceable (c : Config) : Prop where
  /-- There is an address to listen on. -/
  listens : ∃ e, c.listenEndpoint = .ok e
  /-- A command has a second or more. -/
  timeout : Duration.ofSecs 1 ≤ c.executorSettings.timeout
  /-- Some command may run. -/
  commands : c.executorSettings.allowed ≠ []
  /-- With TLS, there are paths for all three files. -/
  material : c.tls.enabled = true → ∀ path ∈ c.tls.material.toList, path ≠ ""
  /-- A log that is not JSON is one of text. -/
  format : c.logging.json = false → asciiLower c.logging.format = "text"
  /-- What metrics are sent to is the address of a web service. -/
  collector : ∀ e, c.telemetry.otlpEndpoint = some e →
    "http://".toList <+: e.toList ∨ "https://".toList <+: e.toList

theorem Valid.serviceable (h : c.Valid) : c.Serviceable where
  listens := by
    obtain ⟨e, he⟩ := h.listenAddress
    exact ⟨e, by rw [listenEndpoint, he]⟩
  timeout := by
    have hpos : c.security.maxCommandTimeoutSecs.toNat ≠ 0 := fun hzero =>
      h.timeout (UInt64.toNat_inj.mp hzero)
    change 1 * 1000000000 + 0 ≤ c.security.maxCommandTimeoutSecs.toNat * 1000000000 + 0
    omega
  commands := h.commands
  material := by
    intro henabled path hpath
    obtain ⟨hcert, hkey, hca⟩ := h.material henabled
    simp only [TlsPaths.toList, TlsOptions.material, List.mem_cons, List.not_mem_nil,
      or_false] at hpath
    rcases hpath with rfl | rfl | rfl
    · exact hcert
    · exact hkey
    · exact hca
  format := fun hjson => h.format.resolve_left (by simpa [LogOptions.json] using hjson)
  collector := fun e he => by simpa [WebAddress] using h.collector e he

end Config

/-! ### The environment -/

/-- The value of a variable, where it has one that is not empty. -/
def Environment.value? (env : Environment) (name : String) : Option String :=
  (env name).filter (· ≠ "")

namespace Config

variable {c : Config} {env env' : Environment} {fs : FileSystem} {path : String}

/-- The variables that replace a field. -/
def overridingNames : List String :=
  ["WARDEN_AGENT_ID", "WARDEN_LISTEN_ADDRESS", "WARDEN_TLS_CERT_FILE", "WARDEN_TLS_KEY_FILE",
    "WARDEN_TLS_CA_FILE", "WARDEN_LOG_LEVEL", "OTEL_EXPORTER_OTLP_ENDPOINT"]

/-- What an environment makes of a configuration, field by field. -/
def overriddenBy (c : Config) (env : Environment) : Config :=
  { c with
    agentId := (env.value? "WARDEN_AGENT_ID").getD c.agentId
    listenAddress := (env.value? "WARDEN_LISTEN_ADDRESS").getD c.listenAddress
    tls.certFile := (env.value? "WARDEN_TLS_CERT_FILE").getD c.tls.certFile
    tls.keyFile := (env.value? "WARDEN_TLS_KEY_FILE").getD c.tls.keyFile
    tls.caFile := (env.value? "WARDEN_TLS_CA_FILE").getD c.tls.caFile
    logging.level := (env.value? "WARDEN_LOG_LEVEL").getD c.logging.level
    telemetry.otlpEndpoint :=
      (env.value? "OTEL_EXPORTER_OTLP_ENDPOINT").or c.telemetry.otlpEndpoint }

/-- A variable without a value leaves its field as it is. -/
theorem override_eq_set {o : Override} (get : Config → String) (hget : ∀ c, o.set (get c) c = c)
    (env : Environment) (c : Config) :
    override env c o = o.set ((env.value? o.name).getD (get c)) c := by
  rw [override, ← Environment.value?]
  cases env.value? o.name with
  | none =>
    -- The field is set to the value that it has.
    exact (hget c).symm
  | some v => rfl

theorem override_otlpEndpoint (env : Environment) (c : Config) (name : String) :
    override env c ⟨name, fun v c => { c with telemetry.otlpEndpoint := some v }⟩ =
      { c with telemetry.otlpEndpoint := (env.value? name).or c.telemetry.otlpEndpoint } := by
  rw [override, ← Environment.value?]
  cases env.value? name <;> rfl

theorem withOverrides_eq_overriddenBy (c : Config) (env : Environment) :
    c.withOverrides env = c.overriddenBy env := by
  simp only [withOverrides, overrides, List.foldl_cons, List.foldl_nil]
  rw [override_otlpEndpoint,
    override_eq_set (·.logging.level) fun _ => rfl,
    override_eq_set (·.tls.caFile) fun _ => rfl,
    override_eq_set (·.tls.keyFile) fun _ => rfl,
    override_eq_set (·.tls.certFile) fun _ => rfl,
    override_eq_set (·.listenAddress) fun _ => rfl,
    override_eq_set (·.agentId) fun _ => rfl]
  rfl

/-- Replacing the fields once more changes nothing. -/
theorem overriddenBy_overriddenBy (c : Config) (env : Environment) :
    (c.overriddenBy env).overriddenBy env = c.overriddenBy env := by
  have hgetD : ∀ (v : Option String) (old : String), v.getD (v.getD old) = v.getD old := by
    rintro (_ | v) old <;> rfl
  simp only [overriddenBy, hgetD, ← Option.or_assoc, Option.or_self]

theorem overriddenBy_congr (h : ∀ name ∈ overridingNames, env'.value? name = env.value? name)
    (c : Config) : c.overriddenBy env' = c.overriddenBy env := by
  simp only [overridingNames, List.forall_mem_cons] at h
  simp only [overriddenBy, h]

/-! ### Loading -/

/-- A configuration that can be read is passed on as the check lets it. -/
theorem load_of_parse? {text : String} {file : Config} (hread : fs.readText path = .ok text)
    (hparse : parse? text = some file) (env : Environment) :
    load fs path env = (file.overriddenBy env).validate.map fun _ => file.overriddenBy env := by
  simp only [load, hread, hparse, withOverrides_eq_overriddenBy]
  cases (file.overriddenBy env).validate <;> rfl

theorem load_eq_ok_iff :
    load fs path env = .ok c ↔ ∃ text file, fs.readText path = .ok text ∧
      parse? text = some file ∧ c = file.overriddenBy env ∧ c.Valid := by
  constructor
  · intro h
    cases hread : fs.readText path with
    | error e => simp [load, hread] at h
    | ok text =>
      cases hparse : parse? text with
      | none => simp [load, hread, hparse] at h
      | some file =>
        rw [load_of_parse? hread hparse] at h
        cases hcheck : (file.overriddenBy env).validate with
        | error e => simp [hcheck, Except.map] at h
        | ok _ =>
          rw [hcheck] at h
          obtain rfl := Except.ok.inj h
          exact ⟨text, file, rfl, hparse, rfl, validate_eq_ok_iff.mp hcheck⟩
  · rintro ⟨text, file, hread, hparse, rfl, hvalid⟩
    rw [load_of_parse? hread hparse, validate_eq_ok_iff.mpr hvalid]
    rfl

/-- What is loaded is what the file says, with each of seven fields replaced by its own variable,
provided that the check lets it pass. It can be relied on, and replacing its fields again changes
nothing. Nothing else of the environment has a part in it, nor in the refusal of a
configuration. -/
theorem load_serviceable_and_stable (fs : FileSystem) (path : String) (env : Environment) :
    (∀ c, load fs path env = .ok c ↔ ∃ text file, fs.readText path = .ok text ∧
      parse? text = some file ∧ c = file.overriddenBy env ∧ c.Valid) ∧
    (∀ c, load fs path env = .ok c → c.Serviceable ∧ c.withOverrides env = c) ∧
      ∀ env' : Environment, (∀ name ∈ overridingNames, env'.value? name = env.value? name) →
        load fs path env' = load fs path env := by
  refine ⟨fun _ => load_eq_ok_iff, ?_, ?_⟩
  · intro c h
    obtain ⟨text, file, -, -, rfl, hvalid⟩ := load_eq_ok_iff.mp h
    refine ⟨hvalid.serviceable, ?_⟩
    rw [withOverrides_eq_overriddenBy, overriddenBy_overriddenBy]
  · -- The environment is asked for nothing but the values that replace fields.
    intro env' h
    simp only [load, withOverrides_eq_overriddenBy, overriddenBy_congr h]

/-- A file that says no more than who the agent is. -/
def briefFile : FileSystem :=
  FileSystem.put {} ["warden.yaml"] (.file (Text.encode "agent_id: gw-01\n") 0o644)

/-- One variable has a value, one has an empty value, and one is none of the agent's. -/
def busyEnvironment : Environment := fun name =>
  if name = "WARDEN_LISTEN_ADDRESS" then some "127.0.0.1:7000"
  else if name = "WARDEN_LOG_LEVEL" then some ""
  else if name = "HOME" then some "/root"
  else none

/-- The variables that count give the same configuration alone, and it can be relied on. -/
theorem brief_file_loaded :
    ∃ c, load briefFile "warden.yaml" busyEnvironment = .ok c ∧
      load briefFile "warden.yaml" (fun name =>
        if name = "WARDEN_LISTEN_ADDRESS" then some "127.0.0.1:7000" else none) = .ok c ∧
      c.Serviceable ∧ c.listenAddress = "127.0.0.1:7000" := by
  have hloaded : (load briefFile "warden.yaml" busyEnvironment).isOk = true := by decide +kernel
  cases hload : load briefFile "warden.yaml" busyEnvironment with
  | error e => simp [hload, Except.isOk, Except.toBool] at hloaded
  | ok c =>
    obtain ⟨hloads, hgood, hsame⟩ :=
      load_serviceable_and_stable briefFile "warden.yaml" busyEnvironment
    obtain ⟨text, file, -, -, hfields, -⟩ := (hloads c).mp hload
    obtain ⟨hserviceable, -⟩ := hgood c hload
    refine ⟨c, rfl, ?_, hserviceable, by rw [hfields]; rfl⟩
    rw [← hload]
    exact hsame _ (by decide)

end Config

end GatewayAgent
