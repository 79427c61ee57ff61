import GatewayAgent.Asn1.Element

/-!
# Identifiers of the certificate format

The object identifiers that certificates and keys use for attributes, algorithms, curves and
extensions, as the octets of their content.
-/

namespace GatewayAgent.Certificate.Id

/-- The name a subject goes by. -/
def commonName : Bytes := [0x55, 0x04, 0x03]

/-- The organisation a subject belongs to. -/
def organization : Bytes := [0x55, 0x04, 0x0A]

/-- An RSA key, or a signature with one. The last octet tells which. -/
def rsaFamily (n : UInt8) : Bytes := [0x2A, 0x86, 0x48, 0x86, 0xF7, 0x0D, 0x01, 0x01, n]

/-- An RSA key. -/
def rsaKey : Bytes := rsaFamily 1

/-- RSA signatures of a digest of 256, 384 or 512 bits. -/
def rsaSha256 : Bytes := rsaFamily 11
@[inherit_doc rsaSha256] def rsaSha384 : Bytes := rsaFamily 12
@[inherit_doc rsaSha256] def rsaSha512 : Bytes := rsaFamily 13

/-- A key on an elliptic curve. -/
def curveKey : Bytes := [0x2A, 0x86, 0x48, 0xCE, 0x3D, 0x02, 0x01]

/-- The curve over a field of 256 bits. -/
def curve256 : Bytes := [0x2A, 0x86, 0x48, 0xCE, 0x3D, 0x03, 0x01, 0x07]

/-- The curve over a field of 384 bits. -/
def curve384 : Bytes := [0x2B, 0x81, 0x04, 0x00, 0x22]

/-- Curve signatures of a digest of 256 or 384 bits. -/
def curveSha256 : Bytes := [0x2A, 0x86, 0x48, 0xCE, 0x3D, 0x04, 0x03, 0x02]
@[inherit_doc curveSha256]
def curveSha384 : Bytes := [0x2A, 0x86, 0x48, 0xCE, 0x3D, 0x04, 0x03, 0x03]

/-- A key on the Edwards curve, or a signature with one. -/
def ed25519 : Bytes := [0x2B, 0x65, 0x70]

/-- A digest of 256, 384 or 512 bits. -/
def sha256 : Bytes := [0x60, 0x86, 0x48, 0x01, 0x65, 0x03, 0x04, 0x02, 0x01]
@[inherit_doc sha256] def sha384 : Bytes := [0x60, 0x86, 0x48, 0x01, 0x65, 0x03, 0x04, 0x02, 0x02]
@[inherit_doc sha256] def sha512 : Bytes := [0x60, 0x86, 0x48, 0x01, 0x65, 0x03, 0x04, 0x02, 0x03]

/-- A standard extension, by its number. -/
def extension (n : UInt8) : Bytes := [0x55, 0x1D, n]

/-- A digest of the subject's key. -/
def subjectKeyId : Bytes := extension 14

/-- What a key may be used for. -/
def keyUsage : Bytes := extension 15

/-- Further names of a subject. -/
def alternativeNames : Bytes := extension 17

/-- Whether a subject may sign certificates. -/
def basicConstraints : Bytes := extension 19

/-- The roles in which a key may be used. -/
def extendedUsage : Bytes := extension 37

/-- A role, by its number. -/
def role (n : UInt8) : Bytes := [0x2B, 0x06, 0x01, 0x05, 0x05, 0x07, 0x03, n]

/-- The role of a server. -/
def serverRole : Bytes := role 1

/-- The role of a client. -/
def clientRole : Bytes := role 2

/-- The role of one who signs programs. -/
def codeRole : Bytes := role 3

/-- Every role. -/
def anyRole : Bytes := [0x55, 0x1D, 0x25, 0x00]

end GatewayAgent.Certificate.Id
