import GatewayAgent.Crypto.Sha2
import GatewayAgent.Text.Hex

/-!
# Fingerprints

The digest of a certificate as text, by which people compare certificates.
-/

namespace GatewayAgent

/-- Octets in pairs of digits with colons between them. -/
def hexPairs : Bytes → List Char
  | [] => []
  | [b] => Text.Hex.pair Text.Hex.upper b
  | b :: r => Text.Hex.pair Text.Hex.upper b ++ ':' :: hexPairs r

/-- The word in front of the digest. -/
def fingerprintLabel : List Char := ['S', 'H', 'A', '2', '5', '6', ':']

/-- The fingerprint of some octets, as `SHA256:0A:1B:…`. -/
def fingerprint (content : Bytes) : String :=
  String.ofList (fingerprintLabel ++ hexPairs (Crypto.sha256 content))

end GatewayAgent
