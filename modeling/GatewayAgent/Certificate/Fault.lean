import GatewayAgent.Host.SystemError

/-!
# What goes wrong with certificates

Why certificates could not be made, written or understood.
-/

namespace GatewayAgent

/-- What could not be read as what it should be. -/
inductive UnreadablePart where
  | armour
  | certificate
  | issuer
  | leaf
  deriving DecidableEq, Repr

/-- The wording of a part. -/
def UnreadablePart.message : UnreadablePart → String
  | .armour => "failed to parse PEM"
  | .certificate => "failed to parse certificate"
  | .issuer => "failed to parse issuer"
  | .leaf => "failed to parse leaf"

/-- Why certificates could not be made, written or understood. -/
inductive CertificateError where
  /-- There is no name to make a certificate for. -/
  | invalidHostname
  /-- The directory of a file could not be made. -/
  | directory (path : String) (cause : SystemError)
  /-- A file could not be written. -/
  | write (path : String) (cause : SystemError)
  /-- No key came out of the random octets. -/
  | keyGenerationFailed (reason : String)
  /-- A certificate could not be filled in or signed. -/
  | certificateGenerationFailed (reason : String)
  /-- A certificate could not be understood. -/
  | parseError (what : UnreadablePart)
  deriving DecidableEq, Repr

/-- The wording of an error. -/
def CertificateError.message : CertificateError → String
  | .invalidHostname => "invalid hostname: must not be empty"
  | .directory path cause => "failed to create directory " ++ path ++ ": " ++ cause.message
  | .write path cause => "failed to write " ++ path ++ ": " ++ cause.message
  | .keyGenerationFailed reason => "key generation failed: " ++ reason
  | .certificateGenerationFailed reason => "certificate generation failed: " ++ reason
  | .parseError what => "certificate parsing error: " ++ what.message

end GatewayAgent
