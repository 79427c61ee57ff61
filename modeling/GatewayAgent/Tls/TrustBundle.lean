import GatewayAgent.Certificate.PrivateKey
import GatewayAgent.Certificate.Profile
import GatewayAgent.Certificate.Paths
import GatewayAgent.Tls.Version

/-!
# Trust bundles

What a server needs for mutual TLS: its own chain of certificates with the private key of the
first, and the roots that its clients' certificates must come from.

Reading checks the roots and the first certificate; whether key and certificate belong together
is found out by `TrustBundle.serverSettings`.
-/

namespace GatewayAgent

/-- Why a server cannot have mutual TLS. -/
inductive MutualTlsError where
  | read (path : String) (cause : SystemError)
  /-- Something is wrong with the certificates that are named. -/
  | certificateParseError (which : String)
  | keyParseError
  | missingCertificate
  /-- The certificate cannot be presented with the key. -/
  | tlsConfigError
  deriving DecidableEq, Repr

/-- The wording of an error. -/
def MutualTlsError.message : MutualTlsError → String
  | .read path cause => "failed to read " ++ path ++ ": " ++ cause.message
  | .certificateParseError which => "certificate parsing error: " ++ which
  | .keyParseError => "key parsing error"
  | .missingCertificate => "missing certificate"
  | .tlsConfigError => "TLS configuration error: server certificate"

/-- The common name in a certificate, if it has one that is a text. -/
def commonName (certificate : Bytes) : Except MutualTlsError (Option String) :=
  match Certificate.read? certificate with
  | some c => .ok c.subject.commonName?
  | none => .error (.certificateParseError "failed to parse cert")

/-- The material of a server. -/
structure TrustBundle where
  /-- The certificate that is presented, and those that lead from it towards a root. -/
  chain : List Bytes
  key : Pem.Block
  /-- The certificates that clients must have been issued from. -/
  roots : List Bytes
  /-- The common name of the certificate that is presented. -/
  leafName : Option String
  deriving DecidableEq, Repr

/-- What a server with mutual TLS offers to its clients. -/
structure ServerSettings where
  /-- The oldest version that is spoken. -/
  version : TlsVersion
  /-- The certificates that clients must have been issued from. -/
  roots : List Bytes := []
  /-- The protocols that are spoken inside. -/
  protocols : List String
  deriving DecidableEq, Repr

namespace TrustBundle

/-- The bundle in three files: the chain, its key, and the roots. -/
def ofFiles (certificates key roots : Bytes) : Except MutualTlsError TrustBundle := do
  let chain ←
    match Pem.certificates? certificates with
    | some cs => .ok cs
    | none => .error (.certificateParseError "server certificate")
  match chain with
  | [] => .error .missingCertificate
  | leaf :: _ =>
    let key ←
      match Pem.firstKey? key with
      | some b => .ok b
      | none => .error .keyParseError
    let roots ←
      match Pem.certificates? roots with
      | some cs => .ok cs
      | none => .error (.certificateParseError "CA certificate")
    if roots.isEmpty then .error .missingCertificate
    else if !roots.all Certificate.Profile.isRoot then
      .error (.certificateParseError "CA certificate")
    else .ok { chain, key, roots, leafName := ← commonName leaf }

/-- The content of a file. -/
def readFile (fs : FileSystem) (path : String) : Except MutualTlsError Bytes :=
  match fs.read path with
  | .ok bs => .ok bs
  | .error e => .error (.read path e)

/-- Reads the three files one after the other. -/
def load (fs : FileSystem) (m : TlsPaths) : Except MutualTlsError TrustBundle := do
  let certificates ← readFile fs m.cert
  let key ← readFile fs m.key
  let roots ← readFile fs m.ca
  ofFiles certificates key roots

/-- What a server offers from a version on, if it can present its certificate with its key: the
key's public side is the one in the certificate, octet for octet. -/
def serverSettings (b : TrustBundle) (version : TlsVersion) :
    Except MutualTlsError ServerSettings :=
  let held := (PrivateKey.ofBlock? b.key).bind PrivateKey.subjectKey?
  let presented := b.chain.head?.bind Certificate.Profile.presented?
  if held.isSome && held == presented then .ok { version, roots := b.roots, protocols := ["h2"] }
  else .error .tlsConfigError

/-- What may be shown of a bundle: how much there is, and the name, but nothing of the key. -/
def summary (b : TrustBundle) : String :=
  "TrustBundle \x7b chain_len: " ++ toString b.chain.length ++ ", roots: " ++
    toString b.roots.length ++ ", leaf: " ++ Text.quoteOption b.leafName ++ ", .. \x7d"

end TrustBundle

end GatewayAgent
