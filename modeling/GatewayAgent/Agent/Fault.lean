import GatewayAgent.Config.Load
import GatewayAgent.Transport.Lifecycle

/-!
# Why an agent fails

An agent fails because of its configuration, its certificates or its transport. Each of these
errors may have come from another one, which `AgentError.causes` tells.
-/

namespace GatewayAgent

/-- The condition of the host behind an error. -/
def ConfigError.cause? : ConfigError → Option SystemError
  | .read _ cause => some cause
  | .parse _ | .invalid _ => none

@[inherit_doc ConfigError.cause?]
def CertificateError.cause? : CertificateError → Option SystemError
  | .directory _ cause | .write _ cause => some cause
  | _ => none

@[inherit_doc ConfigError.cause?]
def MutualTlsError.cause? : MutualTlsError → Option SystemError
  | .read _ cause => some cause
  | _ => none

@[inherit_doc ConfigError.cause?]
def TransportError.cause? : TransportError → Option SystemError
  | .bind _ cause => some cause
  | .invalidState _ | .serve _ => none

/-- Why an agent fails. -/
inductive AgentError where
  | config (cause : ConfigError)
  | pki (cause : CertificateError)
  | mtls (cause : MutualTlsError)
  | transport (cause : TransportError)
  deriving Repr

namespace AgentError

/-- The wording of an error. -/
def message : AgentError → String
  | config e => "configuration error: " ++ e.message
  | pki e => "PKI error: " ++ e.message
  | mtls e => "mTLS error: " ++ e.message
  | transport e => "transport error: " ++ e.message

/-- The wordings of the errors behind an error, the nearest one first. -/
def causes : AgentError → List String
  | config e => e.message :: (e.cause?.map (·.message)).toList
  | pki e => e.message :: (e.cause?.map (·.message)).toList
  | mtls e => e.message :: (e.cause?.map (·.message)).toList
  | transport e => e.message :: (e.cause?.map (·.message)).toList

end AgentError

end GatewayAgent
