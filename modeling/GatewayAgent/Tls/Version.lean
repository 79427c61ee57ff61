import GatewayAgent.Text.Quoted

/-!
# Protocol versions

The lowest version of the protocol that the agent accepts, and the cipher suites that it offers.
Only suites with authenticated encryption and keys of 256 bits are offered.
-/

namespace GatewayAgent

/-- The lowest version that is accepted. -/
inductive TlsVersion where
  /-- Versions 1.2 and 1.3. -/
  | tls12
  /-- Version 1.3 only. -/
  | tls13
  deriving DecidableEq, Repr, Inhabited

/-- A cipher suite. -/
inductive CipherSuite where
  | aes256Gcm13
  | chacha20Poly1305At13
  | ecdheEcdsaAes256Gcm
  | ecdheEcdsaChacha20Poly1305
  deriving DecidableEq, Repr

namespace CipherSuite

/-- All suites. -/
def all : List CipherSuite :=
  [aes256Gcm13, chacha20Poly1305At13, ecdheEcdsaAes256Gcm, ecdheEcdsaChacha20Poly1305]

/-- The name of a suite. -/
def name : CipherSuite → String
  | aes256Gcm13 => "TLS13_AES_256_GCM_SHA384"
  | chacha20Poly1305At13 => "TLS13_CHACHA20_POLY1305_SHA256"
  | ecdheEcdsaAes256Gcm => "TLS_ECDHE_ECDSA_WITH_AES_256_GCM_SHA384"
  | ecdheEcdsaChacha20Poly1305 => "TLS_ECDHE_ECDSA_WITH_CHACHA20_POLY1305_SHA256"

/-- The suite of a name. -/
def ofName? (s : String) : Option CipherSuite := all.find? fun c => c.name = s

/-- The version that a suite belongs to. -/
def version : CipherSuite → TlsVersion
  | aes256Gcm13 | chacha20Poly1305At13 => .tls13
  | ecdheEcdsaAes256Gcm | ecdheEcdsaChacha20Poly1305 => .tls12

end CipherSuite

namespace TlsVersion

/-- The version when none is asked for. -/
def standard : TlsVersion := .tls13

/-- The name of a version. -/
def name : TlsVersion → String
  | .tls12 => "TLS1.2"
  | .tls13 => "TLS1.3"

/-- The version of a name. -/
def ofName? (s : String) : Option TlsVersion := [tls12, tls13].find? fun v => v.name = s

/-- The refusal of a name that is not one of a version. -/
def unsupportedMessage (s : String) : String :=
  "unsupported TLS version " ++ Text.quote s ++ ", expected TLS1.2 or TLS1.3"

/-- The suites that are offered, most preferred first. -/
def suites : TlsVersion → List CipherSuite
  | .tls13 => [.aes256Gcm13, .chacha20Poly1305At13]
  | .tls12 => CipherSuite.all

end TlsVersion

end GatewayAgent
