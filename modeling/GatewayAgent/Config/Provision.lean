import GatewayAgent.Certificate.Bootstrap
import GatewayAgent.Config.Load

/-!
# Provisioning

Sees to it that there are certificates before the agent starts. Files that are all there are left
alone, and a certificate that does not verify against its authority is reported. Where a file is
missing, new ones are made if the configuration allows it.
-/

namespace GatewayAgent

/-- What came of the certificates. -/
inductive Provisioning where
  /-- None are needed. -/
  | disabled
  /-- What is there is used, with what is wrong with it. -/
  | reused (problem : Option String)
  | generated (material : Material)
  deriving DecidableEq, Repr

/-- What is wrong with the files that are there. A certificate is judged only if it and its
authority's are both files of text. -/
def materialProblem (paths : TlsPaths) (fs : FileSystem) (now : Instant)
    (check : Certificate.SignatureCheck) : Option String :=
  match fs.readText paths.cert, fs.readText paths.ca with
  | .ok cert, .ok ca =>
    match verifyTexts cert ca now check with
    | .ok objection => objection.map (·.message)
    | .error e => some e.message
  | _, _ => none

namespace Config

/-- Sees to the certificates of a configuration. `system` is the host's own name, if it has one. -/
def provision (c : Config) (system : Option String) (now : Instant)
    (entropy : Crypto.Entropy) (fs : FileSystem) (faults : StepFaults := StepFaults.none)
    (check : Certificate.SignatureCheck := Certificate.SignatureCheck.builtIn) :
    FileSystem × Except CertificateError Provisioning :=
  if !c.tls.enabled then (fs, .ok .disabled)
  else
    let paths := c.tls.material
    if paths.present fs then (fs, .ok (.reused (materialProblem paths fs now check)))
    else if !c.tls.autoGenerate then (fs, .ok (.reused none))
    else
      match bootstrap paths (c.effectiveHostname system) now entropy fs faults with
      | (fs, .ok m) => (fs, .ok (.generated m))
      | (fs, .error e) => (fs, .error e)

end Config

end GatewayAgent
