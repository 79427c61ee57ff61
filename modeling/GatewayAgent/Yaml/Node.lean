import GatewayAgent.Yaml.Scalar

/-!
# Nodes of YAML

The value tree of a document. A node may carry a tag. An alias stands for the node that holds its
slot: `Document.resolve` looks it up.

`Node.asText` and its neighbours read a node as a value of a type. Text is taken from every scalar;
flags, numbers and absence only from what is written plainly.
-/

namespace GatewayAgent.Yaml

/-- A node of a document. -/
inductive Node where
  | scalar (value : String) (style : ScalarStyle) (tag : Option String)
  | sequence (items : List Node) (tag : Option String)
  | mapping (entries : List (Node × Node)) (tag : Option String)
  | reference (slot : Nat)
  deriving Inhabited, Repr

/-- A document: its root, and the nodes that its aliases stand for. -/
structure Document where
  root : Node
  /-- The node that holds a slot. -/
  anchored : List (Nat × Node) := []

namespace Node

/-- A node with nothing written. -/
def blank : Node := .scalar "" .plain none

/-- A plain scalar. -/
def plain (value : String) : Node := .scalar value .plain none

/-- A scalar between double quotes. -/
def quoted (value : String) : Node := .scalar value .doubleQuoted none

end Node

/-- The node that `n` stands for, if it stands for any. -/
def Document.resolve (d : Document) : Node → Option Node
  | .reference slot => d.anchored.lookup slot
  | n => some n

/-! ### Standard tags -/

/-- The tag of a standard type. -/
def standardTag (name : String) : String := "tag:yaml.org,2002:" ++ name

namespace Node

/-- Whether a scalar is written plainly: as a plain value, or as a literal block that is tagged
with the type in question. -/
def WrittenPlainly (type : String) (style : ScalarStyle) (tag : Option String) : Bool :=
  style = .plain || (style = .literal && tag = some (standardTag type))

/-- The text of a scalar. -/
def asText : Node → Option String
  | .scalar value _ _ => some value
  | _ => none

/-- A written flag. -/
def flagOfText (s : String) : Option Bool :=
  if ["true", "True", "TRUE"].contains s then some true
  else if ["false", "False", "FALSE"].contains s then some false
  else none

/-- The flag that a node is. -/
def asFlag : Node → Option Bool
  | .scalar value style tag => if WrittenPlainly "bool" style tag then flagOfText value else none
  | _ => none

/-- The value of a numeral in a base, which has at least one digit. -/
def numeral? (base : Nat) (cs : List Char) : Option Nat :=
  if cs.isEmpty then none
  else
    (cs.mapM fun c => (Text.Hex.value? c).filter (· < base)).map
      (List.foldl (fun n d => n * base + d) 0)

/-- The numeral behind one of the marks of another base. -/
def basedNumeral? (cs : List Char) : Option Nat :=
  match cs with
  | '0' :: 'x' :: r => numeral? 16 r
  | '0' :: 'o' :: r => numeral? 8 r
  | '0' :: 'b' :: r => numeral? 2 r
  | _ => none

/-- The number that a text is: decimal without leading zeros, or with a mark in another base. One
plus sign may stand in front. -/
def numberOfText (s : String) : Option Nat :=
  let cs := s.toList
  let unsigned := if cs.head? = some '+' then cs.drop 1 else cs
  match basedNumeral? unsigned with
  | some n => some n
  | none =>
    if 1 < unsigned.length && unsigned.head? = some '0' then none else numeral? 10 unsigned

/-- The number below `2 ^ 64` that a node is. -/
def asNumber : Node → Option UInt64
  | .scalar value style tag =>
    if WrittenPlainly "int" style tag then
      ((numberOfText value).filter (· < Nat.pow 2 64)).map UInt64.ofNat
    else none
  | _ => none

/-- A text that stands for nothing. -/
def NullText (s : String) : Bool := ["null", "Null", "NULL", "~"].contains s

/-- Whether a node stands for an absent value; `none` where it neither does nor has a value. -/
def isAbsent? : Node → Option Bool
  | .scalar value style tag =>
    if style ≠ .plain then some false
    else
      match tag with
      | some t =>
        if t = standardTag "null" then if NullText value then some true else none
        else some false
      | none => some (value.isEmpty || NullText value)
  | _ => some false

/-- Whether nothing is written in a node. -/
def isBlank : Node → Bool
  | .scalar value style _ => style = .plain && value.isEmpty
  | _ => false

/-- The entries of a mapping. A node with nothing written has none. -/
def asEntries (n : Node) : Option (List (Node × Node)) :=
  match n with
  | .mapping entries _ => some entries
  | _ => if n.isBlank then some [] else none

/-- The items of a sequence. A node with nothing written has none. -/
def asItems (n : Node) : Option (List Node) :=
  match n with
  | .sequence items _ => some items
  | _ => if n.isBlank then some [] else none

/-- The tag that a document has given itself, without its mark. -/
def ownTag? (tag : Option String) : Option String :=
  match tag.map String.toList with
  | some ('!' :: []) => some "!"
  | some ('!' :: r) => some (String.ofList r)
  | _ => none

/-- The name of an alternative: the tag of a node that has nothing else, or the text of a
scalar. -/
def asChoice : Node → Option String
  | .scalar value style tag =>
    match ownTag? tag with
    | some name =>
      if style = .plain && (value.isEmpty || NullText value) then some name else none
    | none => some value
  | _ => none

end Node

end GatewayAgent.Yaml
