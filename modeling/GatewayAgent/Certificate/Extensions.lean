import GatewayAgent.Certificate.Basic
import GatewayAgent.Net.Address

/-!
# Extensions of certificates

What a certificate says of the use of its key and of the names of its subject, as values, with the
octets that stand for them.
-/

namespace GatewayAgent.Certificate

open Asn1

/-- What a key is for. -/
inductive KeyUse where
  | digitalSignature
  | keyEncipherment
  | certificateSign
  | revocationSign
  deriving DecidableEq, Repr

/-- All uses, in the order in which they are listed. -/
def KeyUse.all : List KeyUse :=
  [.digitalSignature, .keyEncipherment, .certificateSign, .revocationSign]

/-- The number of the bit of a use, counted from the highest. -/
def KeyUse.bit : KeyUse → Nat
  | .digitalSignature => 0
  | .keyEncipherment => 2
  | .certificateSign => 5
  | .revocationSign => 6

/-- The name of a use. -/
def KeyUse.name : KeyUse → String
  | .digitalSignature => "Digital Signature"
  | .keyEncipherment => "Key Encipherment"
  | .certificateSign => "Key Cert Sign"
  | .revocationSign => "CRL Sign"

/-- Whether a subject may sign certificates, and how many levels may be below those. -/
structure Constraints where
  authority : Bool
  pathLength : Option Nat := none
  deriving DecidableEq, Repr

/-- A further name of a subject. -/
inductive AlternativeName where
  | host (name : Bytes)
  | address (octets : Bytes)
  deriving DecidableEq, Repr

/-- The name that a text stands for: an address if it is one, otherwise a host name in ASCII. -/
def AlternativeName.ofText? (s : String) : Option AlternativeName :=
  match IpAddress.parse? s with
  | some a => some (.address a.octets)
  | none =>
    let bs := Text.encode s
    if bs.all (· < 0x80) then some (.host bs) else none

/-! ### Writing -/

/-- The uses of a key. -/
def writeKeyUses (uses : List KeyUse) : Extension where
  id := Id.keyUsage
  critical := true
  value :=
    let bits := uses.foldl (fun n u => n ||| Nat.pow 2 (7 - u.bit)) 0
    let last := uses.foldl (fun n u => max n u.bit) 0
    Asn1.write bitString [UInt8.ofNat (7 - last), UInt8.ofNat bits]

/-- The roles in which a key may be used. -/
def writeRoles (roles : List Bytes) : Extension where
  id := Id.extendedUsage
  value := writeAll sequence (roles.map (Asn1.write objectId))

/-- Whether a subject may sign certificates. -/
def writeConstraints (c : Constraints) : Extension where
  id := Id.basicConstraints
  critical := true
  value := writeAll sequence <|
    if c.authority then
      Asn1.write boolean [0xFF] ::
        c.pathLength.toList.map fun n => Asn1.write integer (naturalOctets n)
    else []

/-- Further names. -/
def writeNames (names : List AlternativeName) : Extension where
  id := Id.alternativeNames
  value := writeAll sequence <| names.map fun
    | .host bs => Asn1.write 0x82 bs
    | .address bs => Asn1.write 0x87 bs

/-- An identifier of the key. -/
def writeKeyId (id : Bytes) : Extension where
  id := Id.subjectKeyId
  value := Asn1.write octetString id

/-! ### Reading -/

/-- The content of the extension with an identifier, if it is a single element with a tag. -/
def extensionContent? (c : Certificate) (id : Bytes) (lead : UInt8) : Option Bytes :=
  (c.extension? id).bind fun e => whole (content .strict lead) e.value

/-- The uses of the key. -/
def keyUses (c : Certificate) : List KeyUse :=
  match (c.extensionContent? Id.keyUsage bitString).bind paddedBits? with
  | some (b :: _) => KeyUse.all.filter fun u => b.toNat / Nat.pow 2 (7 - u.bit) % 2 = 1
  | _ => []

/-- The roles in which the key may be used. -/
def roles (c : Certificate) : List Bytes :=
  ((c.extensionContent? Id.extendedUsage sequence).bind
    (whole (many (content .strict objectId)))).getD []

/-- Whether the subject may sign certificates. -/
def constraints? (c : Certificate) : Option Constraints := do
  let bs ← c.extensionContent? Id.basicConstraints sequence
  let read : Reader Constraints := do
    let authority ← optional .strict boolean
    let limit ← optional .strict integer
    pure { authority := authority == some [0xFF], pathLength := limit.bind natural? }
  whole read bs

/-- Further names. -/
def alternativeNames (c : Certificate) : List AlternativeName :=
  let one : Reader AlternativeName := do
    let e ← element .strict
    if e.lead = 0x82 then pure (.host e.content)
    else if e.lead = 0x87 then pure (.address e.content)
    else failure
  ((c.extensionContent? Id.alternativeNames sequence).bind (whole (many one))).getD []

end GatewayAgent.Certificate
