import GatewayAgent.Host.FileSystem

/-!
# Where certificates are kept

The three files of an agent: its certificate, the private key that belongs to it, and the
certificate of the authority that issued it.
-/

namespace GatewayAgent

/-- Where the certificate, its key and the certificate of the authority are. -/
structure TlsPaths where
  cert : String
  key : String
  ca : String
  deriving DecidableEq, Repr

namespace TlsPaths

/-- The usual names in a directory. -/
def inDirectory (dir : String) : TlsPaths where
  cert := Path.join dir "agent.crt"
  key := Path.join dir "agent.key"
  ca := Path.join dir "ca.crt"

/-- Whether all three are there. -/
def present (m : TlsPaths) (fs : FileSystem) : Bool :=
  fs.hasEntry m.cert && fs.hasEntry m.key && fs.hasEntry m.ca

/-- The three paths in the order of the configuration. -/
def toList (m : TlsPaths) : List String := [m.cert, m.key, m.ca]

end TlsPaths

end GatewayAgent
