import GatewayAgent.Net.Network
import GatewayAgent.Tls.TrustBundle

/-!
# Handshakes

What a server and a client of mutual TLS agree on, if they agree. The newest version that both
speak is taken, and of the client's suites the first one that the server has for it. A client that
names protocols must name one of the server's. A client without a certificate from one of the
server's roots is turned away.
-/

namespace GatewayAgent

/-- What a client shows of itself. -/
structure ClientIdentity where
  /-- The common name in its certificate. -/
  name : Option String
  /-- Whether its certificate was issued from one of the server's roots. -/
  trusted : Bool
  deriving DecidableEq, Repr

/-- What a client offers. -/
structure ClientOffer where
  versions : List TlsVersion := [.tls12, .tls13]
  /-- Its suites, most preferred first. -/
  suites : List CipherSuite := CipherSuite.all
  /-- The protocols it wants to speak inside. -/
  protocols : List String := []
  identity : Option ClientIdentity
  /-- The name that it expects in the server's certificate. -/
  serverName : String
  deriving DecidableEq, Repr

/-- What server and client have agreed on. -/
structure TlsSession where
  version : TlsVersion
  suite : CipherSuite
  protocol : Option String
  /-- The common name of the client. -/
  peer : Option String
  deriving DecidableEq, Repr

namespace ServerSettings

/-- The versions that are spoken, the newest first. -/
def versions (s : ServerSettings) : List TlsVersion :=
  match s.version with
  | .tls13 => [.tls13]
  | .tls12 => [.tls13, .tls12]

/-- The protocol that is agreed on: none if the client names none. -/
def protocolFor (s : ServerSettings) (wanted : List String) : Option (Option String) :=
  if wanted.isEmpty then some none else (s.protocols.find? wanted.contains).map some

/-- What is agreed on with a client. -/
def negotiate (s : ServerSettings) (o : ClientOffer) : Option TlsSession := do
  let version ← s.versions.find? o.versions.contains
  let suite ← o.suites.find? fun c => c.version = version && s.version.suites.contains c
  let protocol ← s.protocolFor o.protocols
  let identity ← o.identity.filter (·.trusted)
  return { version, suite, protocol, peer := identity.name }

end ServerSettings

/-- What a client comes to agree on with a server over a network. It turns away from a server whose
certificate is not for the name that it expects. -/
def Network.handshake (n : Network) (e : Endpoint) (names : List String) (s : ServerSettings)
    (o : ClientOffer) : Option TlsSession :=
  if n.reachable e && names.contains o.serverName then s.negotiate o else none

end GatewayAgent
