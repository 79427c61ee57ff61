import GatewayAgent.Certificate.Verification

/-!
# Private keys

Private keys of the three kinds that a server can have, in the formats in which they come. A key
whose parts contradict each other is refused.
-/

namespace GatewayAgent

open Asn1

/-- A private key. -/
inductive PrivateKey where
  /-- A number for a point on a curve. -/
  | curve (c : Crypto.Curve) (secret : Nat)
  /-- The seed of a key on the Edwards curve. -/
  | edwards (seed : Bytes)
  /-- The factors of a modulus stay with their owner; what is kept here is the public side. -/
  | rsa (key : Crypto.Rsa.PublicKey)
  deriving DecidableEq, Repr

namespace PrivateKey

open Certificate

/-- The object identifier of a curve. -/
def curveId (c : Crypto.Curve) : Bytes := if c = Crypto.p384 then Id.curve384 else Id.curve256

/-- An algorithm as octets. -/
def writeAlgorithm (id : Bytes) (parameters : List Bytes) : Bytes :=
  writeAll sequence (Asn1.write objectId id :: parameters)

/-- Octets as a bit string. -/
def writeBits (bs : Bytes) : Bytes := Asn1.write bitString (0 :: bs)

/-- A public key as the content of its sequence. -/
def publicContent (algorithm bits : Bytes) : Bytes := algorithm ++ writeBits bits

/-- The public point of a key on a curve as octets. -/
def point? (c : Crypto.Curve) (secret : Nat) : Option Bytes :=
  (c.publicPoint? secret).map fun (x, y) => c.encodePoint x y

/-- The content of the public key that belongs to a private key. -/
def subjectKey? : PrivateKey → Option Bytes
  | curve c secret =>
    (point? c secret).map fun bits =>
      publicContent (writeAlgorithm Id.curveKey [Asn1.write objectId (curveId c)]) bits
  | edwards seed =>
    some (publicContent (writeAlgorithm Id.ed25519 []) (Crypto.Edwards.publicKey seed))
  | rsa key =>
    some <| publicContent (writeAlgorithm Id.rsaKey [Asn1.write null []]) <|
      writeAll sequence [Asn1.write integer (naturalOctets key.modulus),
        Asn1.write integer (naturalOctets key.exponent)]

/-! ### Reading -/

/-- Takes the parts of a curve key: the number, the curve where it is named, and the point where
it is given. -/
def curveParts : Reader (Nat × Option Bytes × Option Bytes) := do
  let version ← naturalNumber .strict
  let secret ← content .strict octetString
  let named ← optional .strict (part 0)
  let point ← optional .strict (part 1)
  if version = 1 then pure (Crypto.number secret, named, point) else failure

/-- A key on a curve, from its own format. What it says of its curve and point must be right. -/
def curveKey? (c : Crypto.Curve) (der : Bytes) : Option PrivateKey := do
  let parts ← whole (content .strict sequence) der
  let (secret, named, point) ← whole curveParts parts
  let bits ← point? c secret
  if named.all (· = Asn1.write objectId (curveId c)) && point.all (· = writeBits bits) then
    some (.curve c secret)
  else none

/-- Takes several natural numbers. -/
def naturals : (count : Nat) → Reader (List Nat)
  | 0 => pure []
  | count + 1 => do
    let n ← naturalNumber .strict
    let ns ← naturals count
    pure (n :: ns)

/-- An RSA key, from its own format. Its factors, exponents and coefficient must fit together. -/
def rsaKey? (der : Bytes) : Option PrivateKey := do
  let parts ← whole (content .strict sequence) der
  match ← whole (naturals 9) parts with
  | [version, n, e, d, p, q, dp, dq, qInverse] =>
    let key : Crypto.Rsa.PublicKey := ⟨n, e⟩
    if version = 0 && key.Acceptable && p * q == n && e * d % (p - 1) == 1 &&
        e * d % (q - 1) == 1 && d % (p - 1) == dp && d % (q - 1) == dq &&
        q * qInverse % p == 1 then
      some (.rsa key)
    else none
  | _ => none

/-- The octets of a seed. -/
def seed? (der : Bytes) : Option PrivateKey := do
  let seed ← whole (content .strict octetString) der
  if seed.length = 32 then some (.edwards seed) else none

/-- A key of any kind, from the format that names the kind. -/
def anyKey? (der : Bytes) : Option PrivateKey := do
  let parts ← whole (content .strict sequence) der
  let read : Reader (Nat × Bytes × Bytes) := do
    let version ← naturalNumber .strict
    let algorithm ← content .strict sequence
    let key ← content .strict octetString
    let _ ← optional .strict (part 0)
    let _ ← optional .strict 0x81
    pure (version, algorithm, key)
  let (version, algorithm, key) ← whole read parts
  let named (c : Crypto.Curve) : Bytes :=
    Asn1.write objectId Id.curveKey ++ Asn1.write objectId (curveId c)
  if 1 < version then none
  else if algorithm = Asn1.write objectId Id.rsaKey ++ Asn1.write null [] then rsaKey? key
  else if algorithm = named Crypto.p256 then curveKey? Crypto.p256 key
  else if algorithm = named Crypto.p384 then curveKey? Crypto.p384 key
  else if algorithm = Asn1.write objectId Id.ed25519 then seed? key
  else none

/-- The private key in a block, by its label. -/
def ofBlock? (b : Pem.Block) : Option PrivateKey :=
  if b.label = Pem.rsaKey then rsaKey? b.content
  else if b.label = Pem.curveKey then
    (curveKey? Crypto.p256 b.content).or (curveKey? Crypto.p384 b.content)
  else anyKey? b.content

/-! ### Writing -/

/-- A key on a curve in its own format, with curve and point. -/
def writeCurveKey? (c : Crypto.Curve) (secret : Nat) : Option Pem.Block :=
  (point? c secret).map fun bits =>
    ⟨Pem.curveKey, writeAll sequence
      [Asn1.write integer [1], Asn1.write octetString (Crypto.octets c.width secret),
       Asn1.write (part 0) (Asn1.write objectId (curveId c)),
       Asn1.write (part 1) (writeBits bits)]⟩

end PrivateKey

end GatewayAgent
