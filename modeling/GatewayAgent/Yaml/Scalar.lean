import GatewayAgent.Text.Hex
import GatewayAgent.Yaml.Cursor

/-!
# Scalar values of YAML

The five ways to write a scalar: plain, in single or double quotes, and as a block whose lines are
kept or folded. Each reader returns the value and the position behind it, or nothing where the text
is not well-formed.

White space between the lines of a plain or quoted value is folded; `Gap` is such a piece of white
space with the text that it stands for.
-/

namespace GatewayAgent.Yaml

/-- How a scalar is written. -/
inductive ScalarStyle where
  | plain
  | singleQuoted
  | doubleQuoted
  | literal
  | folded
  deriving DecidableEq, Repr, Inhabited

/-! ### Folding -/

/-- The white space between two pieces of a value. -/
structure Gap where
  /-- The blanks in front of the first line break. -/
  blanks : List Char := []
  /-- The first line break, where there is one. -/
  firstBreak : List Char := []
  /-- The line breaks behind the first. -/
  moreBreaks : List Char := []
  /-- Whether a new line has begun. -/
  broken : Bool := false

namespace Gap

/-- The text that the line breaks stand for: one line feed is folded into a space, and of several
the first is dropped. -/
def fold (firstBreak moreBreaks : List Char) : List Char :=
  if firstBreak.head? = some '\n' then
    if moreBreaks.isEmpty then [' '] else moreBreaks
  else firstBreak ++ moreBreaks

/-- The text that a gap stands for. -/
def text (g : Gap) : List Char :=
  if g.broken then fold g.firstBreak g.moreBreaks else g.blanks

/-- The gap with one more line break. -/
def addBreak (g : Gap) (b : List Char) : Gap :=
  if g.broken then { g with moreBreaks := g.moreBreaks ++ b }
  else { firstBreak := b, broken := true }

/-- The gap with one more blank. Blanks at the beginning of a line do not count. -/
def addBlank (g : Gap) (b : Char) : Gap :=
  if g.broken then g else { g with blanks := g.blanks ++ [b] }

end Gap

/-- Reads white space. A tab is refused at the beginning of a line, left of column `indent`. -/
def readGap (indent : Nat) : (fuel : Nat) → Gap → Cursor → Option (Gap × Cursor)
  | 0, g, c => some (g, c)
  | fuel + 1, g, c =>
    match c.rest with
    | [] => some (g, c)
    | x :: _ =>
      if Blank x then
        if g.broken && c.column < indent && x == '\t' then none
        else readGap indent fuel (g.addBlank x) c.skip
      else if Break x then
        let (b, c) := c.readBreak
        readGap indent fuel (g.addBreak b) c
      else some (g, c)

/-! ### Plain values -/

/-- Whether a value ends in front of this text: at a colon with a space behind it, or inside a
flow collection at an indicator. -/
def endsPlain (inFlow : Bool) : List Char → Bool
  | [] => true
  | x :: r => (x == ':' && atSpace r) || (inFlow && FlowIndicator x)

/-- A colon right in front of an indicator, which is refused inside a flow collection. -/
def strayColon : List Char → Bool
  | ':' :: x :: _ => FlowIndicator x || x == '?'
  | _ => false

/-- The longest piece of a plain value without white space. -/
def plainPiece (inFlow : Bool) : List Char → Option (List Char)
  | [] => some []
  | x :: r =>
    if Space x then some []
    else if inFlow && strayColon (x :: r) then none
    else if endsPlain inFlow (x :: r) then some []
    else (plainPiece inFlow r).map (x :: ·)

/-- Reads on in a plain value. `text` is what was read before, `gap` the white space behind it.
The flag that is returned says whether the value ended with a line. -/
def readPlain (inFlow : Bool) (indent : Nat) : (fuel : Nat) → (text : List Char) → Gap → Cursor →
    Option (List Char × Bool × Cursor)
  | 0, text, gap, c => some (text, gap.broken, c)
  | fuel + 1, text, gap, c =>
    if c.boundary || c.nextIs '#' then some (text, gap.broken, c)
    else
      match plainPiece inFlow c.rest with
      | none => none
      | some piece =>
        let after := c.skip piece.length
        let joined := if piece.isEmpty then text else text ++ gap.text ++ piece
        let gap := if piece.isEmpty then gap else {}
        if (after.rest.head?.map Space).getD false then
          match readGap indent after.rest.length gap after with
          | none => none
          | some (gap, next) =>
            if !inFlow && next.column < indent then some (joined, gap.broken, next)
            else readPlain inFlow indent fuel joined gap next
        else some (joined, gap.broken, after)

/-! ### Quoted values -/

/-- The character whose number is written with `width` hexadecimal digits. -/
def hexChar (width : Nat) (cs : List Char) : Option Char :=
  let digits := cs.take width
  if digits.length < width then none
  else
    match digits.mapM Text.Hex.value? with
    | none => none
    | some ds =>
      let n := ds.foldl (fun n d => n * 16 + d) 0
      if h : n.isValidChar then some (Char.ofNatAux n h) else none

/-- The escapes of one character. -/
def simpleEscapes : List (Char × Char) :=
  [('0', '\x00'), ('a', '\x07'), ('b', '\x08'), ('t', '\t'), ('\t', '\t'), ('n', '\n'),
    ('v', '\x0B'), ('f', '\x0C'), ('r', '\r'), ('e', '\x1B'), (' ', ' '), ('"', '"'), ('/', '/'),
    ('\\', '\\'), ('N', '\u0085'), ('_', '\u00A0'), ('L', '\u2028'), ('P', '\u2029')]

/-- The escapes that a number follows, with the number of its digits. -/
def numericEscapes : List (Char × Nat) := [('x', 2), ('u', 4), ('U', 8)]

/-- The character that an escape stands for, and the length of the escape behind the backslash. -/
def escaped : List Char → Option (Char × Nat)
  | [] => none
  | x :: r =>
    match simpleEscapes.lookup x with
    | some y => some (y, 1)
    | none => (numericEscapes.lookup x).bind fun w => (hexChar w r).map (·, w + 1)

/-- What comes next in a quoted value. -/
inductive QuotedPiece where
  /-- A character of the value, written with `length` characters. -/
  | char (value : Char) (length : Nat)
  /-- The closing quote. -/
  | close
  /-- A line break that a backslash hides. -/
  | hiddenBreak
  /-- White space. -/
  | space

/-- What comes next in a value between double quotes. -/
def doubleQuotedPiece : List Char → Option QuotedPiece
  | [] => none
  | x :: r =>
    if Space x then some .space
    else if x == '"' then some .close
    else if x == '\\' then
      if (r.head?.map Break).getD false then some .hiddenBreak
      else (escaped r).map fun (y, n) => .char y (n + 1)
    else some (.char x 1)

/-- What comes next in a value between single quotes. -/
def singleQuotedPiece : List Char → Option QuotedPiece
  | [] => none
  | x :: r =>
    if Space x then some .space
    else if x == '\'' then
      if r.head? = some '\'' then some (.char '\'' 2) else some .close
    else some (.char x 1)

/-- Reads on in a quoted value up to its closing quote. A boundary between documents is refused at
the beginning of a line. -/
def readQuoted (piece : List Char → Option QuotedPiece) : (fuel : Nat) → (text : List Char) →
    Cursor → Option (List Char × Cursor)
  | 0, _, _ => none
  | fuel + 1, text, c =>
    if c.boundary then none
    else
      match piece c.rest with
      | none => none
      | some (.char x n) => readQuoted piece fuel (text ++ [x]) (c.skip n)
      | some .close => some (text, c.skip)
      | some .hiddenBreak =>
        let c := c.skip.skipBreak
        (readGap 0 c.rest.length { broken := true } c).bind fun (g, c) =>
          readQuoted piece fuel (text ++ g.text) c
      | some .space =>
        (readGap 0 c.rest.length {} c).bind fun (g, c) =>
          readQuoted piece fuel (text ++ g.text) c

/-! ### Block values -/

/-- What becomes of the line breaks at the end of a block. -/
inductive Chomping where
  | strip
  | clip
  | keep
  deriving DecidableEq, Repr

/-- The chomping that a character asks for. -/
def chompingOf : Char → Option Chomping
  | '+' => some .keep
  | '-' => some .strip
  | _ => none

/-- The indentation that a digit asks for; zero is refused. -/
def indentationOf (c : Char) : Option (Option Nat) :=
  if c == '0' then none else some (if c.isDigit then some (c.toNat - '0'.toNat) else none)

/-- The header of a block behind its indicator: chomping and indentation in either order. -/
def readBlockHeader (c : Cursor) : Option (Chomping × Option Nat × Cursor) :=
  match c.rest with
  | [] => some (.clip, none, c)
  | x :: r =>
    match chompingOf x with
    | some ch =>
      match r with
      | [] => some (ch, none, c.skip)
      | y :: _ =>
        (indentationOf y).map fun i => (ch, i, if i.isSome then c.skip 2 else c.skip)
    | none =>
      (indentationOf x).map fun i =>
        if i.isNone then (.clip, none, c)
        else
          match r.head?.bind chompingOf with
          | some ch => (ch, i, c.skip 2)
          | none => (.clip, i, c.skip)

/-- Reads the indentation and the empty lines in front of a line of a block. Without a known
indentation, `widest` becomes the column of the line or of the widest empty line. -/
def readBlockBreaks (indent : Option Nat) : (fuel : Nat) → (breaks : List Char) →
    (widest : Nat) → Cursor → Option (List Char × Nat × Cursor)
  | 0, breaks, widest, c => some (breaks, widest, c)
  | fuel + 1, breaks, widest, c =>
    let spaces := (c.rest.takeWhile (· == ' ')).length
    let c := c.skip (match indent with
                     | some i => min spaces (i - c.column)
                     | none => spaces)
    let widest := max widest c.column
    if (indent.all (c.column < ·)) && c.nextIs '\t' then none
    else if (c.rest.head?.map Break).getD false then
      let (b, c) := c.readBreak
      readBlockBreaks indent fuel (breaks ++ b) widest c
    else some (breaks, widest, c)

/-- What was read of a block so far. -/
structure BlockText where
  /-- The lines so far, without the last line break. -/
  text : List Char := []
  /-- The line break behind the last line. -/
  lastBreak : List Char := []
  /-- The empty lines behind it. -/
  emptyLines : List Char := []
  /-- Whether the last line starts with a blank. -/
  indented : Bool := false

/-- The text of a block with one more line. A line break between two lines without further
indentation is folded if `fold` is set. -/
def BlockText.addLine (b : BlockText) (fold : Bool) (line lastBreak emptyLines : List Char) :
    BlockText :=
  let startsBlank := (line.head?.map Blank).getD false
  let between :=
    if fold && b.lastBreak.head? = some '\n' && !b.indented && !startsBlank then
      if b.emptyLines.isEmpty then [' '] else b.emptyLines
    else b.lastBreak ++ b.emptyLines
  { text := b.text ++ between ++ line, lastBreak, emptyLines, indented := startsBlank }

/-- Reads the lines of a block that are indented by `indent`. -/
def readBlockLines (fold : Bool) (indent : Nat) : (fuel : Nat) → BlockText → Cursor →
    Option (BlockText × Cursor)
  | 0, b, c => some (b, c)
  | fuel + 1, b, c =>
    if c.column == indent && !c.rest.isEmpty then
      let (line, c) := c.takeWhile (!Break ·)
      let (lastBreak, c) := c.readBreak
      (readBlockBreaks (some indent) (c.rest.length + 1) [] 0 c).bind fun (empty, _, c) =>
        readBlockLines fold indent fuel (b.addLine fold line lastBreak empty) c
    else some (b, c)

/-- The value of a block after chomping. -/
def BlockText.value (b : BlockText) : Chomping → List Char
  | .strip => b.text
  | .clip => b.text ++ b.lastBreak
  | .keep => b.text ++ b.lastBreak ++ b.emptyLines

/-- Reads a block behind its indicator. `parent` is the indentation of what the block belongs to,
if anything. -/
def readBlock (fold : Bool) (parent : Option Nat) (c : Cursor) : Option (List Char × Cursor) := do
  let (chomping, increment, c) ← readBlockHeader c
  let c := (c.skipWhile Blank).skipComment
  if !atLineEnd c.rest then none
  else
    let c := c.skipBreak
    let known := increment.map (parent.getD 0 + ·)
    let (breaks, widest, c) ← readBlockBreaks known (c.rest.length + 1) [] 0 c
    let least := max 1 ((parent.map (· + 1)).getD 0)
    let indent := known.getD (max widest least)
    let (b, c) ← readBlockLines fold indent (c.rest.length + 1) { emptyLines := breaks } c
    some (b.value chomping, c)

end GatewayAgent.Yaml
