import GatewayAgent.Asn1.Element
import GatewayAgent.Certificate.Identifiers
import GatewayAgent.Text.Base64

/-!
# Distinguished names

The name of a subject or an issuer: groups of attributes, of which the common name and the
organisation are known here by a short name.
-/

namespace GatewayAgent.Certificate

open Asn1

/-- One attribute of a name. -/
structure Attribute where
  /-- The object identifier of the attribute. -/
  kind : Bytes
  /-- The number of the tag of its value. -/
  tag : Nat
  value : Bytes
  deriving DecidableEq, Repr

/-- A name as groups of attributes. -/
structure Name where
  groups : List (List Attribute)
  deriving DecidableEq, Repr

/-- Takes an attribute. -/
def Attribute.reader : Reader Attribute := do
  let bs ← content .tolerant sequence
  let read : Reader Attribute := do
    let kind ← content .tolerant objectId
    let e ← element .tolerant
    pure ⟨kind, e.number, e.content⟩
  match within read bs with
  | some a => pure a
  | none => failure

namespace Name

/-- Takes a group of at least one attribute. -/
def group : Reader (List Attribute) := do
  let bs ← content .tolerant set
  match within (many Attribute.reader) bs with
  | some (a :: as) => pure (a :: as)
  | _ => failure

/-- Takes a name. The first group that cannot be read ends it. -/
def reader : Reader Name := do
  let bs ← content .tolerant sequence
  match within (many group) bs with
  | some groups => pure ⟨groups⟩
  | none => failure

/-- A name with a common name and an organisation, both as text. -/
def ofTexts (common organization : String) : Name :=
  let attr (kind : Bytes) (s : String) : List Attribute := [⟨kind, 12, Text.encode s⟩]
  ⟨[attr Id.commonName common, attr Id.organization organization]⟩

/-- A name as octets. -/
def write (n : Name) : Bytes :=
  writeAll sequence <| n.groups.map fun g => writeAll set <| g.map fun a =>
    writeAll sequence [Asn1.write objectId a.kind, Asn1.write (UInt8.ofNat a.tag) a.value]

/-- The first common name, if it is a text. -/
def commonName? (n : Name) : Option String :=
  match n.groups.flatten.find? fun a => a.kind = Id.commonName with
  | some a => if a.tag ∈ [12, 18, 19, 22] then Text.decode? a.value else none
  | none => none

/-- The short name of an attribute, or its numbers. -/
def kindText (kind : Bytes) : String :=
  if kind = Id.commonName then "CN"
  else if kind = Id.organization then "O"
  else dotted kind

/-- The value of an attribute, which need not be text. -/
def valueText (a : Attribute) : String :=
  (Text.decode? a.value).getD (Text.decodeLossy (Base64.encode a.value))

/-- A name on one line, as `CN=gw, O=org`. -/
def text (n : Name) : String :=
  ", ".intercalate <| n.groups.map fun g =>
    " + ".intercalate <| g.map fun a => kindText a.kind ++ "=" ++ valueText a

end Name

end GatewayAgent.Certificate
