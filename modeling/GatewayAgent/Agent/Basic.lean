import GatewayAgent.Agent.Event
import GatewayAgent.Agent.Fault
import GatewayAgent.Config.Provision
import GatewayAgent.ControlPlane.Handlers

/-!
# Agents

An agent is put together from its configuration: its certificates are seen to, then its transport
is set up with them, then come the registry of sessions and the control plane.
-/

namespace GatewayAgent

/-- What an agent is put together on. -/
structure Surroundings where
  /-- The host's own name, if it has one. -/
  hostname : Option String := none
  /-- The time by the host's clock. -/
  now : Instant
  entropy : Crypto.Entropy
  files : FileSystem
  /-- What breaks while files are made. -/
  faults : StepFaults := StepFaults.none
  /-- How the signature of a certificate is checked. -/
  check : Certificate.SignatureCheck := Certificate.SignatureCheck.builtIn

/-- An agent that is ready to run. -/
structure Agent where
  config : Config
  transport : Transport
  plane : ControlPlane
  registry : Registry

/-- What the log tells about the certificates. -/
def Provisioning.event? : Provisioning → Option AgentEvent
  | disabled => none
  | reused none => some .materialReused
  | reused (some _) => some .materialDoubtful
  | generated _ => some .materialGenerated

/-- What came of putting an agent together. -/
structure Assembly where
  files : FileSystem
  /-- What was logged. -/
  log : List AgentEvent
  result : Except AgentError Agent

namespace Agent

/-- The agent of a configuration whose transport is set up. -/
def ofSettings (c : Config) (settings : TransportSettings) (now : Instant) : Agent where
  config := c
  transport := { settings }
  plane := { userConfigDir := c.gateway.perUserConfigDir, startedAt := now }
  registry := Registry.new c.sessions.ttl

/-- Puts an agent together. The transport reads the files that provisioning has left. -/
def build (c : Config) (s : Surroundings) : Assembly :=
  match c.provision s.hostname s.now s.entropy s.files s.faults s.check with
  | (files, .error e) => ⟨files, [], .error (.pki e)⟩
  | (files, .ok provisioning) =>
    let log := provisioning.event?.toList
    match TransportSettings.configure c.tls.enabled c.tls.material c.tls.minVersion files with
    | .error e => ⟨files, log, .error (.mtls e)⟩
    | .ok settings => ⟨files, log, .ok (ofSettings c settings s.now)⟩

end Agent

end GatewayAgent
