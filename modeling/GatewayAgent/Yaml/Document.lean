import GatewayAgent.Data.Dictionary
import GatewayAgent.Yaml.Node
import GatewayAgent.Yaml.Token

/-!
# Documents of YAML

Reads the one document that a text holds. A text without any content is a document with nothing
written; a text with more than one document is refused.

Anchors are kept in slots. A new anchor takes the slot whose number is the number of different
names before it, and whatever took a slot last is what aliases to that slot stand for.
-/

namespace GatewayAgent.Yaml

/-- What is known while the nodes of a document are read. -/
structure Reading where
  /-- The tokens to come. -/
  tokens : List Token
  /-- What the handles of tags abbreviate. -/
  handles : List (String × String) := []
  /-- The slots of the anchors by name. -/
  slots : Dictionary String Nat := .empty
  /-- How many anchors there were. -/
  anchors : Nat := 0
  /-- The anchor that took a slot last, by its number. -/
  holders : Dictionary Nat Nat := .empty
  /-- The nodes with anchors, by the number of the anchor. -/
  nodes : List (Nat × Node) := []

/-- A reader of nodes. -/
abbrev Reader := StateT Reading Option

namespace Reader

/-- The next token. -/
def peek : Reader (Option Token) := do return (← get).tokens.head?

/-- Moves over the next token. -/
def advance : Reader Unit := modify fun r => { r with tokens := r.tokens.drop 1 }

/-- Moves over the next token if it is `t`. -/
def accept (t : Token) : Reader Bool := do
  if (← peek) = some t then
    advance
    return true
  else return false

/-- Moves over the next token, which must be `t`. -/
def expect (t : Token) : Reader Unit := do
  if !(← accept t) then failure

/-- Whether the next token is one of `ts`. -/
def nextIn (ts : List Token) : Reader Bool := do
  return (← peek).any ts.contains

/-! ### Properties -/

/-- What a tag abbreviates in full. -/
def fullTag (handle suffix : String) : Reader String := do
  if handle = "" then return suffix
  else
    match (← get).handles.lookup handle with
    | some lead => return lead ++ suffix
    | none => failure

/-- Takes an anchor, if there is one. -/
def anchor? : Reader (Option String) := do
  match ← peek with
  | some (.anchor name) =>
    advance
    return some name
  | _ => return none

/-- Takes a tag, if there is one. -/
def tag? : Reader (Option (String × String)) := do
  match ← peek with
  | some (.tag handle suffix) =>
    advance
    return some (handle, suffix)
  | _ => return none

/-- Takes an anchor and a tag in either order. -/
def properties : Reader (Option String × Option String) := do
  let before ← anchor?
  let tag ← tag?
  let anchor ← if before.isSome then pure before else anchor?
  match tag with
  | some (handle, suffix) => return (anchor, some (← fullTag handle suffix))
  | none => return (anchor, none)

/-- Gives an anchor its slot, and returns its number. -/
def register (name : String) : Reader Nat := do
  let r ← get
  let slot := r.slots.size
  set { r with
    slots := r.slots.insert name slot
    holders := r.holders.insert slot r.anchors
    anchors := r.anchors + 1 }
  return r.anchors

/-- Remembers the node of an anchor. -/
def remember (n : Nat) (node : Node) : Reader Unit :=
  modify fun r => { r with nodes := (n, node) :: r.nodes }

/-- Takes the alias of an anchor before it. -/
def aliased (name : String) : Reader Node := do
  match (← get).slots.find? name with
  | some slot =>
    advance
    return .reference slot
  | none => failure

/-! ### Nodes -/

/-- Where a node stands. -/
inductive Place where
  /-- In a block. -/
  | block
  /-- In a block mapping, where a sequence needs no further indentation. -/
  | mapping
  /-- In a flow collection. -/
  | flow
  deriving DecidableEq

/-- The tag of a scalar: a lone mark is none. -/
def scalarTag (tag : Option String) : Option String := tag.filter (· ≠ "!")

mutual

/-- Reads a node. -/
def node (place : Place) : (fuel : Nat) → Reader Node
  | 0 => failure
  | fuel + 1 => do
    match ← peek with
    | some (.reference name) => aliased name
    | _ =>
      let (anchor, tag) ← properties
      let number ← anchor.mapM register
      let result ← content place tag (anchor.isSome || tag.isSome) fuel
      number.forM fun n => remember n result
      return result

/-- Reads a node behind its properties. With properties, nothing need be written. -/
def content (place : Place) (tag : Option String) (mayBeBlank : Bool) : (fuel : Nat) → Reader Node
  | 0 => failure
  | fuel + 1 => do
    match ← peek, place with
    | some .blockEntry, .mapping => return .sequence (← indentlessItems fuel) tag
    | some (.scalar value style), _ =>
      advance
      return .scalar value style (scalarTag tag)
    | some .flowSequenceStart, _ =>
      advance
      return .sequence (← flowItems true fuel) tag
    | some .flowMappingStart, _ =>
      advance
      return .mapping (← flowEntries true fuel) tag
    | some .blockSequenceStart, .block | some .blockSequenceStart, .mapping =>
      advance
      return .sequence (← blockItems fuel) tag
    | some .blockMappingStart, .block | some .blockMappingStart, .mapping =>
      advance
      return .mapping (← blockEntries fuel) tag
    | _, _ => if mayBeBlank then return .scalar "" .plain tag else failure

/-- Reads a node unless one of `ts` comes next, in whose place nothing is written. -/
def nodeUnless (place : Place) (ts : List Token) : (fuel : Nat) → Reader Node
  | 0 => failure
  | fuel + 1 => do if ← nextIn ts then return .blank else node place fuel

/-- Reads the items of a block sequence. -/
def blockItems : (fuel : Nat) → Reader (List Node)
  | 0 => failure
  | fuel + 1 => do
    if ← accept .blockEntry then
      let item ← nodeUnless .block [.blockEntry, .blockEnd] fuel
      return item :: (← blockItems fuel)
    else
      expect .blockEnd
      return []

/-- Reads the items of a sequence that stands at the indentation of its mapping. -/
def indentlessItems : (fuel : Nat) → Reader (List Node)
  | 0 => failure
  | fuel + 1 => do
    if ← accept .blockEntry then
      let item ← nodeUnless .block [.blockEntry, .key, .value, .blockEnd] fuel
      return item :: (← indentlessItems fuel)
    else return []

/-- Reads the entries of a block mapping. -/
def blockEntries : (fuel : Nat) → Reader (List (Node × Node))
  | 0 => failure
  | fuel + 1 => do
    if ← accept .key then
      let key ← nodeUnless .mapping [.key, .value, .blockEnd] fuel
      let value ← valueUnless .mapping [.key, .value, .blockEnd] fuel
      return (key, value) :: (← blockEntries fuel)
    else
      expect .blockEnd
      return []

/-- Reads the value of an entry, if there is one. -/
def valueUnless (place : Place) (ts : List Token) : (fuel : Nat) → Reader Node
  | 0 => failure
  | fuel + 1 => do
    if ← accept .value then nodeUnless place ts fuel else return .blank

/-- Reads the items of a flow sequence. An item may be a single entry of a mapping. -/
def flowItems (first : Bool) : (fuel : Nat) → Reader (List Node)
  | 0 => failure
  | fuel + 1 => do
    if ← accept .flowSequenceEnd then return []
    else
      if !first then expect .flowEntry
      if ← accept .key then
        let entry ← flowPair fuel
        return .mapping [entry] none :: (← flowItems false fuel)
      else if ← accept .flowSequenceEnd then return []
      else
        let item ← node .flow fuel
        return item :: (← flowItems false fuel)

/-- Reads an entry that is an item of a flow sequence. Where its key is not written, the token in
its place is passed over. -/
def flowPair : (fuel : Nat) → Reader (Node × Node)
  | 0 => failure
  | fuel + 1 => do
    let key ←
      if ← nextIn [.value, .flowEntry, .flowSequenceEnd] then
        advance
        pure Node.blank
      else node .flow fuel
    let value ← valueUnless .flow [.flowEntry, .flowSequenceEnd] fuel
    return (key, value)

/-- Reads the entries of a flow mapping. An entry may be a key alone. -/
def flowEntries (first : Bool) : (fuel : Nat) → Reader (List (Node × Node))
  | 0 => failure
  | fuel + 1 => do
    if ← accept .flowMappingEnd then return []
    else
      if !first then expect .flowEntry
      if ← accept .key then
        let key ← nodeUnless .flow [.value, .flowEntry, .flowMappingEnd] fuel
        let value ← valueUnless .flow [.flowEntry, .flowMappingEnd] fuel
        return (key, value) :: (← flowEntries false fuel)
      else if ← accept .flowMappingEnd then return []
      else
        let key ← node .flow fuel
        return (key, .blank) :: (← flowEntries false fuel)

end

/-! ### Documents -/

/-- The handles that every document knows. -/
def standardHandles : List (String × String) := [("!", "!"), ("!!", standardTag "")]

/-- Reads the directives of a document: one version at most, and each handle once. -/
def directives (versionSeen : Bool) : (fuel : Nat) → Reader Unit
  | 0 => failure
  | fuel + 1 => do
    match ← peek with
    | some (.versionDirective major minor) =>
      if versionSeen || major ≠ 1 || (minor ≠ 1 && minor ≠ 2) then failure
      else
        advance
        directives true fuel
    | some (.tagDirective handle lead) =>
      let r ← get
      if (r.handles.lookup handle).isSome then failure
      else
        set { r with handles := r.handles ++ [(handle, lead)] }
        advance
        directives versionSeen fuel
    | _ => return ()

/-- Reads the root of a document that starts with directives or a boundary. -/
def explicitRoot (fuel : Nat) : Reader Node := do
  directives false fuel
  modify fun r => { r with handles := r.handles ++ standardHandles }
  expect .documentStart
  match ← peek with
  | none | some (.versionDirective ..) | some (.tagDirective ..) | some .documentStart
  | some .documentEnd => return .blank
  | _ => node .block fuel

/-- Reads the root of a document that starts with its content. -/
def implicitRoot (fuel : Nat) : Reader Node := do
  modify fun r => { r with handles := standardHandles }
  node .block fuel

/-- Reads the root of the first document. -/
def root (fuel : Nat) : Reader Node := do
  match ← peek with
  | none => return .blank
  | some (.versionDirective ..) | some (.tagDirective ..) | some .documentStart =>
    explicitRoot fuel
  | _ => implicitRoot fuel

end Reader

/-- The document of a sequence of tokens. Every node takes a token, which bounds the depth. -/
def Document.ofTokens? (ts : List Token) : Option Document :=
  match (Reader.root (4 * ts.length + 8)).run { tokens := ts } with
  | some (root, r) =>
    if r.tokens.all (· = .documentEnd) then
      some { root
             anchored := r.holders.entries.filterMap fun (slot, n) =>
               (r.nodes.lookup n).map (slot, ·) }
    else none
  | none => none

/-- The document of a text. -/
def Document.read? (text : String) : Option Document := (tokens? text).bind Document.ofTokens?

end GatewayAgent.Yaml
