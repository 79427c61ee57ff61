/-!
# Reading YAML text

The character classes of YAML text, and a cursor that reads it. A cursor knows what is left of the
text and the line, column and index at which it stands; structure depends on all three.

A line break is a carriage return with a line feed, either of them alone, or one of three further
characters. In a value, the last two stay as they are and the others count as a line feed.
-/

namespace GatewayAgent.Yaml

/-- A character that may occur in a text. -/
def Admissible (c : Char) : Bool :=
  let n := c.toNat
  n == 0x09 || n == 0x0A || n == 0x0D || (0x20 ≤ n && n ≤ 0x7E) || n == 0x85 ||
    (0xA0 ≤ n && n ≤ 0xD7FF) || (0xE000 ≤ n && n ≤ 0xFFFD && n != 0xFEFF) || 0x10000 ≤ n

/-- The mark that may stand in front of a text. -/
def byteOrderMark : Char := '\uFEFF'

/-- A space or a tab. -/
def Blank (c : Char) : Bool := c == ' ' || c == '\t'

/-- A character that breaks a line. -/
def Break (c : Char) : Bool :=
  c == '\r' || c == '\n' || c == '\u0085' || c == '\u2028' || c == '\u2029'

/-- A space, a tab or a line break. -/
def Space (c : Char) : Bool := Blank c || Break c

/-- A letter, a digit, an underscore or a dash. -/
def Word (c : Char) : Bool := c.isAlphanum || c == '_' || c == '-'

/-- An indicator that ends a plain value inside a flow collection. -/
def FlowIndicator (c : Char) : Bool :=
  c == ',' || c == '[' || c == ']' || c == '\x7b' || c == '\x7d'

/-- Whether a text starts with a space, a tab or a line break, or is at its end. -/
def atSpace : List Char → Bool
  | [] => true
  | c :: _ => Space c

/-- Whether a line is at its end. -/
def atLineEnd : List Char → Bool
  | [] => true
  | c :: _ => Break c

/-- Whether a text starts with three marks of a document boundary, standing alone. -/
def atBoundary (mark : Char) : List Char → Bool
  | a :: b :: c :: r => a == mark && b == mark && c == mark && atSpace r
  | _ => false

/-- A position in a text. -/
structure Cursor where
  /-- What is left of the text. -/
  rest : List Char
  /-- The number of characters before. -/
  index : Nat := 0
  line : Nat := 0
  column : Nat := 0
  deriving Inhabited

namespace Cursor

/-- Moves over some characters of the same line. -/
def skip (c : Cursor) (n : Nat := 1) : Cursor :=
  { c with rest := c.rest.drop n, index := c.index + n, column := c.column + n }

/-- Whether the next character is `x`. -/
def nextIs (c : Cursor) (x : Char) : Bool := c.rest.head? == some x

/-- Whether the text behind the next character is blank or at its end. -/
def spaceFollows (c : Cursor) : Bool := atSpace (c.rest.drop 1)

/-- Whether a boundary between documents starts here. -/
def boundary (c : Cursor) : Bool :=
  c.column == 0 && (atBoundary '-' c.rest || atBoundary '.' c.rest)

/-- Moves over the longest run of characters that satisfy `p`. -/
def skipWhile (p : Char → Bool) (c : Cursor) : Cursor := c.skip (c.rest.takeWhile p).length

/-- The longest run of characters that satisfy `p`, and the position behind it. -/
def takeWhile (p : Char → Bool) (c : Cursor) : List Char × Cursor :=
  (c.rest.takeWhile p, c.skipWhile p)

/-- Moves to the beginning of the next line with `rest` left and `n` characters read. -/
def newLine (c : Cursor) (n : Nat) (rest : List Char) : Cursor :=
  { rest, index := c.index + n, line := c.line + 1, column := 0 }

/-- Reads a line break, if there is one, as the text that it counts for. -/
def readBreak (c : Cursor) : List Char × Cursor :=
  match c.rest with
  | '\r' :: '\n' :: r => (['\n'], c.newLine 2 r)
  | x :: r =>
    if x == '\u2028' || x == '\u2029' then ([x], c.newLine 1 r)
    else if Break x then (['\n'], c.newLine 1 r)
    else ([], c)
  | [] => ([], c)

/-- Moves over a line break, if there is one. -/
def skipBreak (c : Cursor) : Cursor := c.readBreak.2

/-- Moves over a comment, if there is one. -/
def skipComment (c : Cursor) : Cursor :=
  if c.nextIs '#' then c.skipWhile (!Break ·) else c

end Cursor

end GatewayAgent.Yaml
