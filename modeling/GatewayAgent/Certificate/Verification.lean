import GatewayAgent.Certificate.Basic
import GatewayAgent.Certificate.Fault
import GatewayAgent.Certificate.Pem
import GatewayAgent.Crypto.Edwards
import GatewayAgent.Crypto.Rsa
import GatewayAgent.Crypto.Weierstrass

/-!
# Verification

A certificate is good if its issuer's key verifies its signature and the clock stands within its
span of time. The signature is looked at first.

How signatures are checked is a parameter (`SignatureCheck`). `SignatureCheck.builtIn` checks those
of the algorithms that are known here; a library may know more of them.
-/

namespace GatewayAgent

open Asn1

/-- What speaks against a certificate. -/
inductive Objection where
  | signature
  | notYetValid
  | expired
  deriving DecidableEq, Repr

/-- The wording of an objection. -/
def Objection.message : Objection → String
  | .signature => "signature verification failed"
  | .notYetValid => "certificate not yet valid"
  | .expired => "certificate expired"

namespace Certificate

/-- The public key in the content of an RSA key. -/
def rsaKey? : Bytes → Option Crypto.Rsa.PublicKey :=
  whole do
    let parts ← content .strict sequence
    match whole (do pure (← naturalNumber .strict, ← naturalNumber .strict)) parts with
    | some (modulus, exponent) => pure ⟨modulus, exponent⟩
    | none => failure

/-- The two numbers of a curve signature. -/
def curveSignature? : Bytes → Option (Nat × Nat) :=
  whole do
    let parts ← content .strict sequence
    match whole (do pure (← naturalNumber .strict, ← naturalNumber .strict)) parts with
    | some pair => pure pair
    | none => failure

/-- The curve of a key. -/
def PublicKey.curve? (k : PublicKey) : Option Crypto.Curve :=
  match k.algorithm.parameters with
  | some e =>
    if !e.hasTag .tolerant objectId then none
    else if e.content = Id.curve256 then some Crypto.p256
    else if e.content = Id.curve384 then some Crypto.p384
    else none
  | none => none

/-- A digest in front of which the function that made it is named. -/
def namedDigest (function digest : Bytes) : Bytes :=
  writeAll sequence
    [writeAll sequence [Asn1.write objectId function, Asn1.write null []],
     Asn1.write octetString digest]

/-- Whether a key verifies an RSA signature of a named digest. -/
def PublicKey.verifiesRsa (k : PublicKey) (named signature : Bytes) : Bool :=
  match rsaKey? k.bits with
  | some key => Crypto.Rsa.verify key named signature
  | none => false

/-- Whether a key verifies a curve signature of a digest. -/
def PublicKey.verifiesCurve (k : PublicKey) (digest signature : Bytes) : Bool :=
  match k.curve?, curveSignature? signature with
  | some c, some (r, s) =>
    match c.decodePoint? k.bits with
    | some (x, y) => c.verify x y digest r s
    | none => false
  | _, _ => false

/-- Whether a key verifies a signature of a message that was made with an algorithm. -/
def SignatureCheck := (key : PublicKey) → (algorithm message signature : Bytes) → Bool

/-- Whether a key verifies a signature, by the algorithms that are known here: RSA with a digest of
256 bits or more, the two curves, and Ed25519. A signature of any other, such as RSA with SHA-1 or
with probabilistic padding, is not verified. -/
def PublicKey.verifies (k : PublicKey) (algorithm message signature : Bytes) : Bool :=
  if algorithm = Id.rsaSha256 then
    k.verifiesRsa (namedDigest Id.sha256 (Crypto.sha256 message)) signature
  else if algorithm = Id.rsaSha384 then
    k.verifiesRsa (namedDigest Id.sha384 (Crypto.sha384 message)) signature
  else if algorithm = Id.rsaSha512 then
    k.verifiesRsa (namedDigest Id.sha512 (Crypto.sha512 message)) signature
  else if algorithm = Id.curveSha256 then k.verifiesCurve (Crypto.sha256 message) signature
  else if algorithm = Id.curveSha384 then k.verifiesCurve (Crypto.sha384 message) signature
  else if algorithm = Id.ed25519 then Crypto.Edwards.verify k.bits message signature
  else false

/-- The check by the algorithms that are known here. -/
def SignatureCheck.builtIn : SignatureCheck := PublicKey.verifies

/-- Whether the owner of a key signed the certificate. -/
def signedBy (c : Certificate) (check : SignatureCheck) (k : PublicKey) : Bool :=
  check k c.algorithm.id c.signed c.signature

/-- What speaks at an instant against a certificate that should be signed with a key. -/
def objection? (c : Certificate) (check : SignatureCheck) (k : PublicKey) (now : Instant) :
    Option Objection :=
  if !c.signedBy check k then some .signature
  else if now.unixSecs < c.notBefore then some .notYetValid
  else if c.notAfter < now.unixSecs then some .expired
  else none

end Certificate

/-- The octets of the first block in a text. -/
def armoured (text : String) : Except CertificateError Bytes :=
  match Pem.firstBlock? text with
  | some b => .ok b.content
  | none => .error (.parseError .armour)

/-- The certificate in a text. -/
def armouredCertificate (what : UnreadablePart) (text : String) :
    Except CertificateError Certificate := do
  match Certificate.read? (← armoured text) with
  | some c => .ok c
  | none => .error (.parseError what)

/-- What speaks at an instant against the certificate in a text as one of the issuer whose
certificate is in another text. -/
def verifyTexts (certificate issuer : String) (now : Instant)
    (check : Certificate.SignatureCheck := Certificate.SignatureCheck.builtIn) :
    Except CertificateError (Option Objection) := do
  let c ← armouredCertificate .certificate certificate
  let signer ← armouredCertificate .issuer issuer
  .ok (c.objection? check signer.key now)

end GatewayAgent
