import GatewayAgent.Certificate.Basic

/-!
# The profile of certificates in a handshake

What a certificate has to be for a handshake, beyond what a tolerant reader asks for: it is
encoded exactly, has no parts that are not known, says the same algorithm inside and outside of
what is signed, and is of version 3. A root may also be of version 1.
-/

namespace GatewayAgent.Certificate.Profile

open Asn1

/-- Takes an element with a tag whose content is read to its end. -/
def nested {α : Type} (lead : UInt8) (r : Reader α) : Reader α := do
  match whole r (← content .strict lead) with
  | some x => pure x
  | none => failure

/-- The content of the signed part and of the algorithm beside it. -/
def outer? : Bytes → Option (Bytes × Bytes) :=
  whole <| nested sequence do
    let signed ← content .strict sequence
    let algorithm ← content .strict sequence
    match wholeBits? (← content .strict bitString) with
    | some _ => pure (signed, algorithm)
    | none => failure

/-- The numbers of the extensions that a handshake makes use of: usage of the key, further names,
constraints, lists of revoked certificates, and roles. -/
def usedExtensions : List UInt8 := [15, 17, 19, 30, 31, 37]

/-- Takes an extension that may come after others. One that is used must be the first of its kind
and, but for the usage of the key, hold a single sequence. One that is not used must not be
critical. -/
def extension (earlier : List Bytes) : Reader Bytes := nested sequence do
  let id ← content .strict objectId
  let critical ← do
    match ← optional .strict boolean with
    | none => pure false
    | some [0xFF] => pure true
    | some [0x00] => pure false
    | some _ => failure
  let value ← content .strict octetString
  if usedExtensions.any fun n => id = Id.extension n then
    if earlier.contains id then failure
    else if id = Id.keyUsage || (whole (content .strict sequence) value).isSome then pure id
    else failure
  else if critical then failure
  else pure id

/-- Takes extensions to the end. There are fewer of them than octets, which bounds their number. -/
def extensions : (count : Nat) → List Bytes → Reader Unit
  | 0, _ => failure
  | count + 1, earlier => do
    if ← atEnd then pure ()
    else
      let id ← extension earlier
      extensions count (id :: earlier)

/-- The content of the public key of a version 3 certificate, from its signed part. -/
def subjectKeyV3? (signed algorithm : Bytes) : Option Bytes :=
  let read : Reader Bytes := do
    let version ← nested (part 0) (naturalNumber .strict)
    let _ ← content .strict integer
    let inner ← content .strict sequence
    let _ ← content .strict sequence
    let _ ← content .strict sequence
    let _ ← content .strict sequence
    let key ← content .strict sequence
    if version ≠ 2 || inner ≠ algorithm then failure
    else
      if !(← atEnd) then
        nested (part 3) do nested sequence do extensions ((← get).length + 1) []
      pure key
  whole read signed

/-- The content of the public key of a version 1 certificate, from its signed part. -/
def subjectKeyV1? (signed : Bytes) : Option Bytes :=
  let read : Reader Bytes := do
    let _ ← content .strict integer
    let _ ← content .strict sequence
    let _ ← content .strict sequence
    let _ ← content .strict sequence
    let _ ← content .strict sequence
    content .strict sequence
  whole read signed

/-- The content of the public key of a certificate that can be presented. -/
def presented? (certificate : Bytes) : Option Bytes := do
  let (signed, algorithm) ← outer? certificate
  subjectKeyV3? signed algorithm

/-- Whether a certificate can be a root. -/
def isRoot (certificate : Bytes) : Bool :=
  match outer? certificate with
  | some (signed, algorithm) =>
    (subjectKeyV3? signed algorithm).isSome || (subjectKeyV1? signed).isSome
  | none => false

end GatewayAgent.Certificate.Profile
