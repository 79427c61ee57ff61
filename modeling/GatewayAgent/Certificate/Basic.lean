import GatewayAgent.Asn1.Time
import GatewayAgent.Certificate.Name

/-!
# Certificates

A certificate binds a name to a public key for a span of time, signed by its issuer.

`Certificate.read?` is tolerant: it takes no notice of what stands behind the parts it knows, and
leaves the values of extensions as they are. It refuses a certificate whose parts are not of the
right shape or in the right order.
-/

namespace GatewayAgent

open Asn1

namespace Certificate

/-- An algorithm with its parameters. -/
structure Algorithm where
  id : Bytes
  parameters : Option Element := none
  deriving DecidableEq, Repr

/-- A public key. -/
structure PublicKey where
  algorithm : Algorithm
  bits : Bytes
  deriving DecidableEq, Repr

/-- A part of a certificate that need not be there. -/
structure Extension where
  id : Bytes
  critical : Bool := false
  value : Bytes
  deriving DecidableEq, Repr

end Certificate

/-- A certificate. -/
structure Certificate where
  /-- The octets that are signed. -/
  signed : Bytes
  /-- One less than the version. -/
  version : Nat
  serial : Bytes
  issuer : Certificate.Name
  /-- The first second at which the certificate is valid. -/
  notBefore : Int
  /-- The last second at which the certificate is valid. -/
  notAfter : Int
  subject : Certificate.Name
  key : Certificate.PublicKey
  extensions : List Certificate.Extension
  algorithm : Certificate.Algorithm
  signature : Bytes
  deriving DecidableEq, Repr

namespace Certificate

/-- Takes what a reader of the content finds in a sequence. -/
def inSequence {α : Type} (r : Reader α) : Reader α := do
  match within r (← content .tolerant sequence) with
  | some x => pure x
  | none => failure

/-- Takes an algorithm. -/
def algorithmReader : Reader Algorithm := inSequence do
  let id ← content .tolerant objectId
  if ← atEnd then pure { id } else pure { id, parameters := ← element .tolerant }

/-- Takes the octets of a bit string. -/
def bitsReader : Reader Bytes := do
  match paddedBits? (← content .tolerant bitString) with
  | some bs => pure bs
  | none => failure

/-- Takes a public key. -/
def keyReader : Reader PublicKey := inSequence do
  let algorithm ← algorithmReader
  pure { algorithm, bits := ← bitsReader }

/-- Takes the version, which is 0 where it is left out. -/
def versionReader : Reader Nat := do
  match ← optional .tolerant (part 0) with
  | none => pure 0
  | some bs =>
    match within (naturalNumber .tolerant) bs with
    | some n => if n < Nat.pow 2 32 then pure n else failure
    | none => failure

/-- Takes an extension. -/
def extensionReader : Reader Extension := inSequence do
  let id ← content .tolerant objectId
  let critical ← optional .tolerant boolean
  let value ← content .tolerant octetString
  match critical with
  | none => pure { id, value }
  | some [b] => pure { id, critical := b ≠ 0, value }
  | some _ => failure

/-- Takes all extensions, behind which nothing may follow. -/
def extensionsReader : Reader (List Extension) := do
  if ← atEnd then pure []
  else
    let (lead, _, r) ← tag? .tolerant (← get)
    let (_, r) ← length? .tolerant r
    set r
    let all ← content .tolerant sequence
    match smallNumber lead == 3, ← atEnd, whole (many extensionReader) all with
    | true, true, some es => pure es
    | _, _, _ => failure

/-- Takes the parts that are signed, with their octets from the tag in front of them to the end of
the last one that was read. -/
def signedReader : Reader Certificate := do
  let start ← get
  let inner ← content .tolerant sequence
  let header := start.length - (← get).length - inner.length
  let read : Reader Certificate := do
    let version ← versionReader
    let serial ← content .tolerant integer
    let algorithm ← algorithmReader
    let issuer ← Name.reader
    let (notBefore, notAfter) ← inSequence do pure (← time, ← time)
    let subject ← Name.reader
    let key ← keyReader
    let _ ← optional .tolerant 0x81
    let _ ← optional .tolerant 0x82
    let extensions ← extensionsReader
    let left := (← get).length
    pure { signed := start.take (header + (inner.length - left)), version, serial, issuer,
           notBefore, notAfter, subject, key, extensions, algorithm, signature := [] }
  match within read inner with
  | some c => pure c
  | none => failure

/-- The certificate at the front of some octets. -/
def read? (bs : Bytes) : Option Certificate :=
  within (inSequence do
    let c ← signedReader
    let algorithm ← algorithmReader
    let signature ← bitsReader
    pure { c with algorithm, signature }) bs

/-- The value of an extension, and whether it is critical. -/
def extension? (c : Certificate) (id : Bytes) : Option Extension :=
  c.extensions.find? fun e => e.id = id

end Certificate

end GatewayAgent
