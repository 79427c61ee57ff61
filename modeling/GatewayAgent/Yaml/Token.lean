import GatewayAgent.Text.Utf8
import GatewayAgent.Yaml.Scalar

/-!
# Tokens of YAML

A text as a sequence of tokens, in which indentation has become explicit: a block collection has a
token where it starts and one where it ends.

That something was a key is known only at the colon behind it. The lexer therefore remembers where
a key may have started, one place for each level of flow collections, and puts the token in later.
A key that stands at the indentation of its block must be followed by a colon on its line.
-/

namespace GatewayAgent.Yaml

/-- A token. -/
inductive Token where
  | versionDirective (major minor : Nat)
  | tagDirective (handle lead : String)
  | documentStart
  | documentEnd
  | blockSequenceStart
  | blockMappingStart
  | blockEnd
  | flowSequenceStart
  | flowSequenceEnd
  | flowMappingStart
  | flowMappingEnd
  | blockEntry
  | flowEntry
  | key
  | value
  | reference (name : String)
  | anchor (name : String)
  | tag (handle suffix : String)
  | scalar (value : String) (style : ScalarStyle)
  deriving DecidableEq, Repr, Inhabited

/-- A place where a key may have started. -/
structure KeyStart where
  /-- The number of its first token. -/
  token : Nat
  /-- Whether it has to be a key. -/
  required : Bool
  index : Nat
  line : Nat
  column : Nat

/-- A lexer on its way through a text. -/
structure Lexer where
  cursor : Cursor
  /-- The tokens so far. -/
  tokens : List Token := []
  /-- The columns of the open block collections, innermost first. -/
  indents : List Nat := []
  /-- Where a key may have started in the block and in each open flow collection, innermost
  first. -/
  keys : List (Option KeyStart) := [none]
  /-- Whether a key may start here. -/
  keyAllowed : Bool := true
  /-- Whether the text is read. -/
  ended : Bool := false

namespace Lexer

/-- Whether a flow collection is open. -/
def inFlow (s : Lexer) : Bool := 1 < s.keys.length

/-- Adds a token at the end. -/
def emit (s : Lexer) (t : Token) : Lexer := { s with tokens := s.tokens ++ [t] }

/-- Adds a token in front of token number `n`. -/
def emitAt (s : Lexer) (n : Nat) (t : Token) : Lexer :=
  { s with tokens := s.tokens.take n ++ t :: s.tokens.drop n }

/-- Moves on to a position. -/
def goto (s : Lexer) (c : Cursor) : Lexer := { s with cursor := c }

/-- Sets whether a key may start here. -/
def allowKey (s : Lexer) (allowed : Bool) : Lexer := { s with keyAllowed := allowed }

/-! ### Indentation -/

/-- Closes the block collections that are indented further than `column`, or all of them. -/
def unroll (s : Lexer) (column : Option Nat) : Lexer :=
  if s.inFlow then s
  else
    let closed := s.indents.takeWhile fun i => column.all (· < i)
    { s with
      indents := s.indents.drop closed.length
      tokens := s.tokens ++ closed.map fun _ => .blockEnd }

/-- Opens a block collection at `column`, unless one that is indented as far is open. The token
goes in front of token number `n`. -/
def roll (s : Lexer) (column n : Nat) (t : Token) : Lexer :=
  if s.inFlow || (s.indents.head?.any (column ≤ ·)) then s
  else { s.emitAt n t with indents := column :: s.indents }

/-! ### Keys -/

/-- Whether the colon of a key can no longer come: it must stand on the line of the key and within
1024 characters. -/
def isStale (c : Cursor) (k : KeyStart) : Bool := k.line < c.line || k.index + 1024 < c.index

/-- Gives up the keys whose colon can no longer come. -/
def dropStale (s : Lexer) : Option Lexer :=
  (s.keys.mapM fun k =>
    match k with
    | none => some none
    | some k =>
      if isStale s.cursor k then if k.required then none else some none else some (some k)).map
    fun keys => { s with keys }

/-- Puts a place at the innermost level. -/
def setKey (s : Lexer) (k : Option KeyStart) : Lexer := { s with keys := k :: s.keys.drop 1 }

/-- The place at the innermost level. -/
def key? (s : Lexer) : Option KeyStart := s.keys.head?.join

/-- Gives up the key of the innermost level. -/
def dropKey (s : Lexer) : Option Lexer :=
  if s.key?.any (·.required) then none else some (s.setKey none)

/-- Remembers that a key may start here. -/
def saveKey (s : Lexer) : Option Lexer :=
  if s.keyAllowed then
    let c := s.cursor
    let required := !s.inFlow && s.indents.head? == some c.column
    s.dropKey.map fun s' =>
      s'.setKey (some { token := s.tokens.length, required,
                        index := c.index, line := c.line, column := c.column })
  else some s

/-! ### White space -/

/-- Moves to the next token. Tabs do not count as indentation. -/
def toNextToken : (fuel : Nat) → Lexer → Lexer
  | 0, s => s
  | fuel + 1, s =>
    let tabs := s.inFlow || !s.keyAllowed
    let c := (s.cursor.skipWhile fun x => x == ' ' || (tabs && x == '\t')).skipComment
    let s := s.goto c
    if (c.rest.head?.map Break).getD false then
      let s := s.goto c.skipBreak
      toNextToken fuel (if s.inFlow then s else s.allowKey true)
    else s

/-! ### Directives -/

/-- Reads a number of at most nine digits. -/
def readVersionNumber (c : Cursor) : Option (Nat × Cursor) :=
  let (ds, c) := c.takeWhile Char.isDigit
  if ds.isEmpty || 9 < ds.length then none
  else some (ds.foldl (fun n d => n * 10 + (d.toNat - '0'.toNat)) 0, c)

/-- Reads a version. -/
def readVersion (c : Cursor) : Option (Token × Cursor) := do
  let (major, c) ← readVersionNumber (c.skipWhile Blank)
  if !c.nextIs '.' then none
  else
    let (minor, c) ← readVersionNumber c.skip
    some (.versionDirective major minor, c)

/-- Reads the handle of a tag. In a directive, a handle longer than one mark ends with a mark. -/
def readTagHandle (inDirective : Bool) (c : Cursor) : Option (List Char × Cursor) :=
  if !c.nextIs '!' then none
  else
    let (name, c) := c.skip.takeWhile Word
    if c.nextIs '!' then some ('!' :: name ++ ['!'], c.skip)
    else if inDirective && !name.isEmpty then none
    else some ('!' :: name, c)

/-- A character that a tag may contain as it is. The last three only between angle brackets. -/
def TagChar (verbatim : Bool) (x : Char) : Bool :=
  Word x || [';', '/', '?', ':', '@', '&', '=', '+', '$', '.', '!', '~', '*', '\'', '(',
    ')'].contains x || (verbatim && [',', '[', ']'].contains x)

/-- The octet that a percent sign and two digits stand for. -/
def percentOctet : List Char → Option UInt8
  | '%' :: a :: b :: _ => Text.Hex.octet? a b
  | _ => none

/-- The number of octets of a character, by its first. -/
def octetCount (b : UInt8) : Option Nat :=
  if b < 0x80 then some 1
  else if b &&& 0xE0 == 0xC0 then some 2
  else if b &&& 0xF0 == 0xE0 then some 3
  else if b &&& 0xF8 == 0xF0 then some 4
  else none

/-- The further octets of a character, each of which continues it. -/
def moreOctets : Nat → List Char → Option Bytes
  | 0, _ => some []
  | n + 1, cs =>
    match percentOctet cs with
    | some b => if b &&& 0xC0 == 0x80 then (moreOctets n (cs.drop 3)).map (b :: ·) else none
    | none => none

/-- The character that percent signs stand for, and the number of its octets. -/
def percentChar (cs : List Char) : Option (List Char × Nat) := do
  let b ← percentOctet cs
  let n ← octetCount b
  let more ← moreOctets (n - 1) (cs.drop 3)
  some ((Text.decodeLossy (b :: more)).toList, n)

/-- Reads the text of a tag. -/
def readTagText (verbatim : Bool) : (fuel : Nat) → Cursor → Option (List Char × Cursor)
  | 0, c => some ([], c)
  | fuel + 1, c =>
    match c.rest with
    | [] => some ([], c)
    | x :: _ =>
      if x == '%' then
        (percentChar c.rest).bind fun (y, n) =>
          (readTagText verbatim fuel (c.skip (3 * n))).map fun (ys, c) => (y ++ ys, c)
      else if TagChar verbatim x then
        (readTagText verbatim fuel c.skip).map fun (ys, c) => (x :: ys, c)
      else some ([], c)

/-- Reads a handle and what it abbreviates. -/
def readTagAbbreviation (c : Cursor) : Option (Token × Cursor) := do
  let (handle, c) ← readTagHandle true (c.skipWhile Blank)
  if !(c.rest.head?.map Blank).getD false then none
  else
    let c := c.skipWhile Blank
    let (lead, c) ← readTagText true (c.rest.length + 1) c
    if lead.isEmpty || !atSpace c.rest then none
    else some (.tagDirective (String.ofList handle) (String.ofList lead), c)

/-- Reads a directive with the rest of its line. -/
def readDirective (c : Cursor) : Option (Token × Cursor) := do
  let (name, c) := c.skip.takeWhile Word
  if name.isEmpty || !atSpace c.rest then none
  else
    let (t, c) ←
      if name = "YAML".toList then readVersion c
      else if name = "TAG".toList then readTagAbbreviation c
      else none
    let c := (c.skipWhile Blank).skipComment
    if atLineEnd c.rest then some (t, c.skipBreak) else none

/-! ### Properties of a node -/

/-- Reads the name of an anchor or an alias behind its indicator. -/
def readName (c : Cursor) : Option (String × Cursor) :=
  let (name, c) := c.skip.takeWhile Word
  let ends := atSpace c.rest ||
    (c.rest.head?.any ['?', ':', ',', ']', '\x7d', '%', '@', '\x60'].contains)
  if name.isEmpty || !ends then none else some (String.ofList name, c)

/-- Reads a tag: a text between angle brackets, or a handle with a suffix. -/
def readTag (inFlow : Bool) (c : Cursor) : Option (Token × Cursor) := do
  let (t, c) ←
    if (c.rest.drop 1).head? = some '<' then do
      let (text, c) ← readTagText true (c.rest.length + 1) (c.skip 2)
      if text.isEmpty || !c.nextIs '>' then none
      else some (Token.tag "" (String.ofList text), c.skip)
    else do
      let (handle, c) ← readTagHandle false c
      let (text, c) ← readTagText false (c.rest.length + 1) c
      if 1 < handle.length && handle.getLast? = some '!' then
        if text.isEmpty then none
        else some (Token.tag (String.ofList handle) (String.ofList text), c)
      else
        let suffix := handle.drop 1 ++ text
        if suffix.isEmpty then some (Token.tag "" "!", c)
        else some (Token.tag "!" (String.ofList suffix), c)
  if atSpace c.rest || (inFlow && c.nextIs ',') then some (t, c) else none

/-! ### One token -/

/-- Adds the token that was read up to a position. -/
def emitRead (s : Lexer) (t : Token) (c : Cursor) : Lexer := (s.emit t).goto c

/-- Ends the text: everything that is open in the block is closed. -/
def finish (s : Lexer) : Option Lexer :=
  (s.unroll none).dropKey.map fun s => { s.allowKey false with ended := true }

/-- Takes a directive. -/
def directive (s : Lexer) : Option Lexer := do
  let s ← (s.unroll none).dropKey
  let (t, c) ← readDirective s.cursor
  some ((s.allowKey false).emitRead t c)

/-- Takes a boundary between documents. -/
def boundary (s : Lexer) (t : Token) : Option Lexer := do
  let s ← (s.unroll none).dropKey
  some ((s.allowKey false).emitRead t (s.cursor.skip 3))

/-- Opens a flow collection. -/
def flowStart (s : Lexer) (t : Token) : Option Lexer := do
  let s ← s.saveKey
  some (({ s with keys := none :: s.keys }.allowKey true).emitRead t s.cursor.skip)

/-- Closes a flow collection. -/
def flowEnd (s : Lexer) (t : Token) : Option Lexer := do
  let s ← s.dropKey
  let s := if s.inFlow then { s with keys := s.keys.drop 1 } else s
  some ((s.allowKey false).emitRead t s.cursor.skip)

/-- Takes the separator of a flow collection. -/
def flowEntry (s : Lexer) : Option Lexer := do
  let s ← s.dropKey
  some ((s.allowKey true).emitRead .flowEntry s.cursor.skip)

/-- Takes the dash of a block sequence. -/
def blockEntry (s : Lexer) : Option Lexer :=
  if !s.inFlow && !s.keyAllowed then none
  else do
    let s ← (s.roll s.cursor.column s.tokens.length .blockSequenceStart).dropKey
    some ((s.allowKey true).emitRead .blockEntry s.cursor.skip)

/-- Takes the question mark of a key. -/
def explicitKey (s : Lexer) : Option Lexer :=
  if !s.inFlow && !s.keyAllowed then none
  else do
    let s ← (s.roll s.cursor.column s.tokens.length .blockMappingStart).dropKey
    some ((s.allowKey !s.inFlow).emitRead .key s.cursor.skip)

/-- Takes the colon of a value. -/
def valueIndicator (s : Lexer) : Option Lexer :=
  match s.key? with
  | some k =>
    let s := (s.emitAt k.token .key).roll k.column k.token .blockMappingStart
    some (((s.setKey none).allowKey false).emitRead .value s.cursor.skip)
  | none =>
    if !s.inFlow && !s.keyAllowed then none
    else
      let s := s.roll s.cursor.column s.tokens.length .blockMappingStart
      some ((s.allowKey !s.inFlow).emitRead .value s.cursor.skip)

/-- Takes an anchor, an alias, a tag or a scalar on one line. -/
def property (s : Lexer) (read : Cursor → Option (Token × Cursor)) : Option Lexer := do
  let s ← s.saveKey
  let (t, c) ← read s.cursor
  some ((s.allowKey false).emitRead t c)

/-- Takes a value between quotes. -/
def quoted (s : Lexer) (style : ScalarStyle) (piece : List Char → Option QuotedPiece) :
    Option Lexer :=
  s.property fun c =>
    (readQuoted piece (c.rest.length + 1) [] c.skip).map fun (text, c) =>
      (.scalar (String.ofList text) style, c)

/-- Takes a block. -/
def block (s : Lexer) (style : ScalarStyle) : Option Lexer := do
  let s ← s.dropKey
  let (text, c) ← readBlock (style = .folded) s.indents.head? s.cursor.skip
  some ((s.allowKey true).emitRead (.scalar (String.ofList text) style) c)

/-- Takes a plain value. A key may start behind it if it ended with its line. -/
def plain (s : Lexer) : Option Lexer := do
  let s ← s.saveKey
  let indent := (s.indents.head?.map (· + 1)).getD 0
  let c := s.cursor
  let (text, broken, c) ← readPlain s.inFlow indent (c.rest.length + 1) [] {} c
  some ((s.allowKey broken).emitRead (.scalar (String.ofList text) .plain) c)

/-- A character that no plain value starts with, unless another rule lets it. -/
def Indicator (x : Char) : Bool :=
  ['-', '?', ':', ',', '[', ']', '\x7b', '\x7d', '#', '&', '*', '!', '|', '>', '\'', '"', '%',
    '@', '\x60'].contains x

/-- Takes the token that starts with `x`. -/
def token (s : Lexer) (x : Char) : Option Lexer :=
  let c := s.cursor
  let lone := c.spaceFollows
  if c.column == 0 && x == '%' then s.directive
  else if c.column == 0 && atBoundary '-' c.rest then s.boundary .documentStart
  else if c.column == 0 && atBoundary '.' c.rest then s.boundary .documentEnd
  else if x == '[' then s.flowStart .flowSequenceStart
  else if x == '\x7b' then s.flowStart .flowMappingStart
  else if x == ']' then s.flowEnd .flowSequenceEnd
  else if x == '\x7d' then s.flowEnd .flowMappingEnd
  else if x == ',' then s.flowEntry
  else if x == '-' && lone then s.blockEntry
  else if x == '?' && (s.inFlow || lone) then s.explicitKey
  else if x == ':' && (s.inFlow || lone) then s.valueIndicator
  else if x == '*' then s.property fun c => (readName c).map fun (n, c) => (.reference n, c)
  else if x == '&' then s.property fun c => (readName c).map fun (n, c) => (.anchor n, c)
  else if x == '!' then s.property (readTag s.inFlow)
  else if x == '|' && !s.inFlow then s.block .literal
  else if x == '>' && !s.inFlow then s.block .folded
  else if x == '\'' then s.quoted .singleQuoted singleQuotedPiece
  else if x == '"' then s.quoted .doubleQuoted doubleQuotedPiece
  else if (!Space x && !Indicator x) || x == '-' ||
      (!s.inFlow && (x == '?' || x == ':')) then s.plain
  else none

/-- Takes one token, or ends. -/
def step (s : Lexer) : Option Lexer := do
  let s ← (s.toNextToken (s.cursor.rest.length + 1)).dropStale
  let s := s.unroll (some s.cursor.column)
  match s.cursor.rest with
  | [] => s.finish
  | x :: _ => s.token x

/-- Takes tokens up to the end of the text. -/
def run : (fuel : Nat) → Lexer → Option (List Token)
  | 0, _ => none
  | fuel + 1, s =>
    match s.step with
    | none => none
    | some s => if s.ended then some s.tokens else run fuel s

end Lexer

/-- The characters of a text behind the mark that may stand in front of it. -/
def withoutMark : List Char → List Char
  | [] => []
  | c :: r => if c == byteOrderMark then r else c :: r

/-- The tokens of a text. Every token takes a character, which bounds their number. -/
def tokens? (text : String) : Option (List Token) :=
  let cs := withoutMark text.toList
  if cs.all Admissible then Lexer.run (cs.length + 2) { cursor := { rest := cs } } else none

end GatewayAgent.Yaml
