import GatewayAgent.Text.Base64
import GatewayAgent.Text.Blank

/-!
# Octets in armour

Octets as base64 between a line that begins them and a line that ends them. Both lines carry the
same label.

There are two readers. `firstBlock?` looks for the first block of a text and is exact about it.
`sections` goes through all blocks of a file line by line, is lax about the base64, and passes
over blocks with a label that it does not know.
-/

namespace GatewayAgent.Pem

/-- Octets with their label. -/
structure Block where
  label : String
  content : Bytes
  deriving DecidableEq, Repr

/-- The label of a certificate. -/
def certificate : String := "CERTIFICATE"

/-- The labels of private keys in the three formats that there are for them. -/
def anyKey : String := "PRIVATE KEY"
@[inherit_doc anyKey] def curveKey : String := "EC PRIVATE KEY"
@[inherit_doc anyKey] def rsaKey : String := "RSA PRIVATE KEY"

/-- All labels that are known. -/
def knownLabels : List String :=
  [certificate, "PUBLIC KEY", rsaKey, anyKey, curveKey, "X509 CRL", "CERTIFICATE REQUEST",
   "ECHCONFIG"]

/-- Five dashes, which open and close a line around the octets. -/
def dashes : String := "-----"

/-- What the line that begins a block starts with. -/
def opening : String := dashes ++ "BEGIN "

/-- What the line that ends a block starts with. -/
def closing : String := dashes ++ "END "

/-! ### Writing -/

/-- The octets in lines of 64 digits, each with its end. -/
def lines : (count : Nat) → List Char → List Char
  | 0, _ => []
  | count + 1, cs => if cs.isEmpty then [] else cs.take 64 ++ '\n' :: lines count (cs.drop 64)

/-- A block as text. -/
def write (b : Block) : String :=
  let digits := (Base64.encode b.content).map fun d => Char.ofNat d.toNat
  opening ++ b.label ++ dashes ++ "\n" ++ String.ofList (lines digits.length digits) ++
    closing ++ b.label ++ dashes ++ "\n"

/-! ### The first block of a text -/

/-- What stands before and behind the first place where a mark is found. -/
def cutAt? (mark : List Char) : List Char → Option (List Char × List Char)
  | [] => if mark.isEmpty then some ([], []) else none
  | c :: r =>
    if mark.isPrefixOf (c :: r) then some ([], (c :: r).drop mark.length)
    else (cutAt? mark r).map fun (before, behind) => (c :: before, behind)

/-- The lines of a text. -/
def splitLines : List Char → List (List Char)
  | [] => [[]]
  | c :: r =>
    match splitLines r with
    | [] => [[c]]
    | l :: ls => if c = '\n' then [] :: l :: ls else (c :: l) :: ls

/-- The lines of headers in front of the octets, which an empty line divides, and what is behind
them. -/
def cutHeaders (body : List Char) : List (List Char) × List Char :=
  match cutAt? ['\n', '\n'] body, cutAt? ['\r', '\n', '\r', '\n'] body with
  | some (headers, rest), _ => (splitLines headers, rest)
  | none, some (headers, rest) => (splitLines headers, rest)
  | none, none => ([], body)

/-- A text without blanks at its end. -/
def trimEnd (cs : List Char) : List Char := (cs.reverse.dropWhile Text.Blank).reverse

/-- The first block of a text. Lines of octets may have blanks at their end, and headers must have
a colon. -/
def firstBlock? (text : String) : Option Block := do
  let (_, r) ← cutAt? opening.toList text.toList
  let (label, r) ← cutAt? dashes.toList r
  let (body, r) ← cutAt? closing.toList (r.dropWhile fun c => c ∈ [' ', '\t', '\n', '\r'])
  let (ending, _) ← cutAt? dashes.toList r
  let (headers, digits) := cutHeaders body
  if label.isEmpty || label ≠ ending || !headers.all (·.contains ':') then none
  else
    let digits := ((splitLines digits).map trimEnd).flatten
    let content ← Base64.decode? false (Text.encode (String.ofList digits))
    some ⟨String.ofList label, content⟩

/-! ### The blocks of a file -/

/-- The lines of a file, each ended by a line feed or a carriage return. The last needs no end. -/
def fileLines : Bytes → List Bytes
  | [] => []
  | b :: r =>
    if b = 10 || b = 13 then [] :: fileLines r
    else
      match fileLines r with
      | [] => [[b]]
      | l :: ls => (b :: l) :: ls

/-- How many dashes a line ends with, blanks among them aside, and how many octets there are up to
the first of these dashes. -/
def trailingDashes (line : Bytes) : Nat × Nat :=
  let tail := line.reverse.takeWhile fun b => b = 45 || b = 32
  let used := (tail.reverse.dropWhile (· = 32)).length
  ((tail.filter (· = 45)).length, line.length - used)

/-- The label in a line that begins a block. There must be five dashes behind it. -/
def label? (line : Bytes) : Option Bytes :=
  let (count, start) := trailingDashes line
  if count = 5 then some ((line.take start).drop opening.utf8ByteSize) else none

/-- What is gathered of a block: its label and the base64 so far. -/
structure Gathering where
  label : Bytes
  digits : Bytes := []

/-- The octets of base64 among blanks. -/
def laxOctets? (digits : Bytes) : Option Bytes :=
  Base64.decode? true (digits.filter fun b => !(b = 32 || 9 ≤ b && b ≤ 13))

/-- The blocks with a known label in some lines, up to the first fault, and whether there was no
fault. -/
def blocksIn : Option Gathering → List Bytes → List Block × Bool
  | open?, [] => ([], open?.isNone)
  | open?, line :: rest =>
    if (Text.encode opening).isPrefixOf line then
      match label? line with
      | some label => blocksIn (some { label, digits := (open?.map (·.digits)).getD [] }) rest
      | none => ([], false)
    else
      match open? with
      | none => blocksIn none rest
      | some g =>
        if (Text.encode closing ++ g.label ++ Text.encode dashes).isPrefixOf line then
          match knownLabels.find? fun l => Text.encode l = g.label, laxOctets? g.digits with
          | none, _ => blocksIn none rest
          | some _, none => ([], false)
          | some label, some content =>
            let (blocks, complete) := blocksIn none rest
            (⟨label, content⟩ :: blocks, complete)
        else blocksIn (some { g with digits := g.digits ++ line }) rest

/-- The blocks of a file with known labels, up to the first fault, and whether there was none. -/
def sections (file : Bytes) : List Block × Bool := blocksIn none (fileLines file)

/-- The contents of the certificates in a file without faults. -/
def certificates? (file : Bytes) : Option (List Bytes) :=
  match sections file with
  | (blocks, true) => some ((blocks.filter fun b => b.label = certificate).map (·.content))
  | (_, false) => none

/-- The first private key in a file, which must not have a fault before it. -/
def firstKey? (file : Bytes) : Option Block :=
  (sections file).1.find? fun b => b.label ∈ [anyKey, curveKey, rsaKey]

end GatewayAgent.Pem
