import GatewayAgent.Certificate.Extensions
import GatewayAgent.Certificate.PrivateKey
import GatewayAgent.Crypto.Entropy

/-!
# Authorities

An authority is a root that an agent makes for itself: a key on the 256-bit curve with a
certificate that it has signed for itself. It issues certificates for hosts, with keys of their
own, that are valid for the same span of time.

Everything is made from a source of random octets and an instant, so that equal sources make equal
certificates.
-/

namespace GatewayAgent

open Asn1 Certificate Crypto

/-- Makes something from random octets, or fails. -/
abbrev Minting := StateT Entropy (Except CertificateError)

/-- How many days a certificate is valid. -/
def validityDays : Nat := 365

/-- The organisation in all names. -/
def organization : String := "warden"

namespace Minting

/-- Fails with an error. -/
def fail {α : Type} (e : CertificateError) : Minting α := fun _ => .error e

/-- Takes a random block. -/
def block : Minting Bytes := fun e => .ok e.draw

/-- A private number for the curve, and the octets of its point. -/
def key (role : String) : Minting (Nat × Bytes) := do
  let secret := number (← block) % (p256.order - 1) + 1
  match PrivateKey.point? p256 secret with
  | some bits => pure (secret, bits)
  | none => fail (.keyGenerationFailed ("failed to generate " ++ role ++ " key"))

/-- A serial number of 128 bits. -/
def serial : Minting Bytes := do pure (naturalOctets (number ((← block).take 16)))

end Minting

/-- What is signed in a certificate. -/
structure Draft where
  serial : Bytes
  issuer : Name
  notBefore : Int
  notAfter : Int
  subject : Name
  /-- The octets of the subject's point. -/
  point : Bytes
  extensions : List Extension

namespace Draft

/-- The algorithm of the signatures. -/
def algorithm : Bytes := PrivateKey.writeAlgorithm Id.curveSha256 []

/-- The public key of the subject. -/
def subjectKey (d : Draft) : Bytes :=
  Asn1.write sequence <| PrivateKey.publicContent
    (PrivateKey.writeAlgorithm Id.curveKey [Asn1.write objectId Id.curve256]) d.point

/-- An extension as octets. -/
def writeExtension (e : Extension) : Bytes :=
  writeAll sequence <|
    [Asn1.write objectId e.id] ++ (if e.critical then [Asn1.write boolean [0xFF]] else []) ++
      [Asn1.write octetString e.value]

/-- The part that is signed, as octets. -/
def signedPart (d : Draft) : Bytes :=
  writeAll sequence
    [Asn1.write (part 0) (Asn1.write integer [2]), Asn1.write integer d.serial, algorithm,
     d.issuer.write, writeAll sequence [writeTime d.notBefore, writeTime d.notAfter],
     d.subject.write, d.subjectKey,
     Asn1.write (part 3) (writeAll sequence (d.extensions.map writeExtension))]

/-- The certificate, signed with a private number. -/
def sign (d : Draft) (secret : Nat) (fault : String) : Minting Bytes := do
  let nonce := number (← Minting.block) % (p256.order - 1) + 1
  match p256.sign? secret nonce (sha256 d.signedPart) with
  | some (r, s) =>
    let signature := writeAll sequence
      [Asn1.write integer (naturalOctets r), Asn1.write integer (naturalOctets s)]
    pure (writeAll sequence [d.signedPart, algorithm, PrivateKey.writeBits signature])
  | none => Minting.fail (.certificateGenerationFailed fault)

end Draft

/-- An identifier of a key by its octets. -/
def keyIdOf (point : Bytes) : Bytes := (sha256 point).take 20

/-- The roles of everything that is issued: agents are servers to their controller and clients of
it. -/
def issuedRoles : List Bytes := [Id.serverRole, Id.clientRole]

/-- A root with its private number. -/
structure Authority where
  secret : Nat
  subject : Name
  notBefore : Int
  notAfter : Int
  certificate : Bytes

/-- A certificate with the key that belongs to it. -/
structure IssuedLeaf where
  certificate : Bytes
  key : Pem.Block

namespace Authority

/-- A new root for a host, valid from an instant on. Below the certificates that it signs there
may be one more level. -/
def new (hostname : String) (now : Instant) : Minting Authority := do
  if hostname.isEmpty then Minting.fail .invalidHostname
  else
    let (secret, point) ← Minting.key "root"
    let subject := Name.ofTexts ("warden-ca-" ++ hostname) organization
    let notBefore := now.unixSecs
    let notAfter := notBefore + validityDays * 86400
    let draft : Draft :=
      { serial := ← Minting.serial, issuer := subject, notBefore, notAfter, subject, point
        extensions :=
          [writeKeyUses [.certificateSign, .revocationSign, .digitalSignature],
           writeRoles issuedRoles, writeKeyId (keyIdOf point),
           writeConstraints { authority := true, pathLength := some 1 }] }
    let certificate ← draft.sign secret "failed to self-sign root"
    pure { secret, subject, notBefore, notAfter, certificate }

/-- The names of a host: its own and the one by which it calls itself. -/
def namesOf (hostname : String) : List String :=
  if hostname = "localhost" then [hostname] else [hostname, "localhost"]

/-- Issues a certificate for a host. -/
def issue (a : Authority) (hostname : String) : Minting IssuedLeaf := do
  if hostname.isEmpty then Minting.fail .invalidHostname
  else
    let (secret, point) ← Minting.key "leaf"
    match (namesOf hostname).mapM AlternativeName.ofText?,
      PrivateKey.writeCurveKey? p256 secret with
    | some names, some key =>
      let draft : Draft :=
        { serial := ← Minting.serial, issuer := a.subject, notBefore := a.notBefore
          notAfter := a.notAfter, point
          subject := Name.ofTexts ("warden-agent-" ++ hostname) organization
          extensions :=
            [writeNames names, writeKeyUses [.digitalSignature, .keyEncipherment],
             writeRoles issuedRoles, writeKeyId (keyIdOf point),
             writeConstraints { authority := false }] }
      pure { certificate := ← draft.sign a.secret "failed to sign leaf", key }
    | none, _ => Minting.fail (.certificateGenerationFailed "invalid subject alternative name")
    | _, none => Minting.fail (.keyGenerationFailed "failed to encode leaf key")

end Authority

/-- A certificate in armour. -/
def armour (certificate : Bytes) : String := Pem.write ⟨Pem.certificate, certificate⟩

end GatewayAgent
