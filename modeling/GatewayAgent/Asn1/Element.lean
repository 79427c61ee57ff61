import GatewayAgent.Crypto.Number

/-!
# Tagged data

The elements of an encoding in which a value is written as a tag, a length and that many octets
of content. The content of a sequence or a set is a row of elements.

`Reader` takes elements off the front of some octets, in one of two ways: `tolerant` also takes a
length that could be written shorter and compares the number of a tag only, `strict` insists on
the shortest length and on every bit of a tag. Neither takes a length that is left open.
-/

namespace GatewayAgent.Asn1

/-- How exact an encoding has to be. -/
inductive Rigour where
  | tolerant
  | strict
  deriving DecidableEq, Repr

/-- A tag with the content it stands in front of. -/
structure Element where
  /-- The first octet: the class, whether the content is made of elements, and a small number. -/
  lead : UInt8
  /-- The number of the tag. -/
  number : Nat
  content : Bytes
  deriving DecidableEq, Repr

/-- Takes something off the front of some octets. -/
abbrev Reader := StateT Bytes Option

/-! ### Tags -/

/-- The first octets of the tags in use. -/
def boolean : UInt8 := 0x01
@[inherit_doc boolean] def integer : UInt8 := 0x02
@[inherit_doc boolean] def bitString : UInt8 := 0x03
@[inherit_doc boolean] def octetString : UInt8 := 0x04
@[inherit_doc boolean] def null : UInt8 := 0x05
@[inherit_doc boolean] def objectId : UInt8 := 0x06
@[inherit_doc boolean] def utcTime : UInt8 := 0x17
@[inherit_doc boolean] def generalizedTime : UInt8 := 0x18
@[inherit_doc boolean] def sequence : UInt8 := 0x30
@[inherit_doc boolean] def set : UInt8 := 0x31

/-- The tag of an optional part, by its number. -/
def part (n : UInt8) : UInt8 := 0xA0 + n

/-- The number in a first octet. -/
def smallNumber (lead : UInt8) : Nat := lead.toNat % 32

/-! ### Reading -/

/-- The number of a tag that goes on behind its first octet, seven bits an octet, at most five of
them. -/
def longNumber : (count : Nat) → Nat → Bytes → Option (Nat × Bytes)
  | 0, _, _ => none
  | _ + 1, _, [] => none
  | count + 1, n, b :: r =>
    let n := (n * 128 + b.toNat % 128) % Nat.pow 2 32
    if b < 0x80 then some (n, r) else longNumber count n r

/-- Reads a length. -/
def length? (rigour : Rigour) : Bytes → Option (Nat × Bytes)
  | [] => none
  | b :: r =>
    if b < 0x80 then some (b.toNat, r)
    else
      let count := b.toNat - 0x80
      let n := Crypto.number (r.take count)
      if count = 0 || count = 0x7F || r.length < count then none
      else if rigour = .strict && (n < 0x80 || n < Nat.pow 256 (count - 1) || 0xFFFF ≤ n) then none
      else if Nat.pow 2 64 ≤ n then none
      else some (n, r.drop count)

/-- Reads a tag. -/
def tag? (rigour : Rigour) : Bytes → Option (UInt8 × Nat × Bytes)
  | [] => none
  | lead :: r =>
    if smallNumber lead < 31 then some (lead, smallNumber lead, r)
    else if rigour = .strict then none
    else (longNumber 5 0 r).map fun (n, r) => (lead, n, r)

/-- Takes an element. -/
def element (rigour : Rigour) : Reader Element := fun bs => do
  let (lead, n, r) ← tag? rigour bs
  let (count, r) ← length? rigour r
  if r.length < count then none else some (⟨lead, n, r.take count⟩, r.drop count)

/-- Whether an element has a tag. -/
def Element.hasTag (rigour : Rigour) (e : Element) (lead : UInt8) : Bool :=
  match rigour with
  | .tolerant => e.number == smallNumber lead
  | .strict => e.lead == lead

/-- Takes an element with a tag and gives its content. -/
def content (rigour : Rigour) (lead : UInt8) : Reader Bytes := do
  let e ← element rigour
  if e.hasTag rigour lead then pure e.content else failure

/-- Takes an element with a tag if there is one in front. -/
def optional (rigour : Rigour) (lead : UInt8) : Reader (Option Bytes) := fun bs =>
  match element rigour bs with
  | some (e, r) => if e.lead == lead then some (some e.content, r) else some (none, bs)
  | none => some (none, bs)

/-- Whether nothing is left. -/
def atEnd : Reader Bool := do return (← get).isEmpty

/-- Reads the content of an element, which may go on behind what is read. -/
def within {α : Type} (r : Reader α) (bs : Bytes) : Option α := (r.run bs).map Prod.fst

/-- Reads some octets to their end. -/
def whole {α : Type} (r : Reader α) (bs : Bytes) : Option α :=
  match r.run bs with
  | some (x, []) => some x
  | _ => none

/-- Takes one after the other until the first failure, at most `count` times. -/
def repeated {α : Type} (r : Reader α) : (count : Nat) → Reader (List α)
  | 0 => pure []
  | count + 1 => fun bs =>
    match r bs with
    | none => some ([], bs)
    | some (x, bs') => ((repeated r count).run bs').map fun (xs, rest) => (x :: xs, rest)

/-- Takes as many as there are. An element has at least two octets, which bounds their number. -/
def many {α : Type} (r : Reader α) : Reader (List α) := fun bs => (repeated r bs.length).run bs

/-! ### Writing -/

/-- A length in its shortest form. -/
def lengthOctets (n : Nat) : Bytes :=
  if n < 0x80 then [UInt8.ofNat n]
  else
    let digits := Crypto.shortestOctets n
    UInt8.ofNat (0x80 + digits.length) :: digits

/-- An element from its tag and its content. -/
def write (lead : UInt8) (content : Bytes) : Bytes := lead :: lengthOctets content.length ++ content

/-- An element whose content is a row of elements. -/
def writeAll (lead : UInt8) (parts : List Bytes) : Bytes := write lead parts.flatten

/-! ### Numbers, bits and names -/

/-- A natural number as the content of an integer. -/
def naturalOctets (n : Nat) : Bytes :=
  match Crypto.shortestOctets n with
  | [] => [0]
  | b :: r => if b < 0x80 then b :: r else 0 :: b :: r

/-- The natural number that the content of an integer in its shortest form stands for. -/
def natural? : Bytes → Option Nat
  | [] => none
  | [b] => if b < 0x80 then some b.toNat else none
  | b :: c :: r =>
    if 0x80 ≤ b || b = 0 && c < 0x80 then none else some (Crypto.number (b :: c :: r))

/-- Takes a natural number. -/
def naturalNumber (rigour : Rigour) : Reader Nat := do
  match natural? (← content rigour integer) with
  | some n => pure n
  | none => failure

/-- The octets in the content of a bit string whose last octet is in use as a whole. -/
def wholeBits? : Bytes → Option Bytes
  | 0 :: r => some r
  | _ => none

/-- The octets in the content of a bit string whose unused bits are zero. -/
def paddedBits? : Bytes → Option Bytes
  | [] => none
  | [unused] => if unused = 0 then some [] else none
  | unused :: r =>
    if 7 < unused.toNat || (r.getLastD 0).toNat % Nat.pow 2 unused.toNat ≠ 0 then none else some r

/-- The numbers of an object identifier with the bits of the one that is being read. -/
def arcs : Nat → Bytes → List Nat
  | _, [] => []
  | n, b :: r =>
    let n := n * 128 + b.toNat % 128
    if b < 0x80 then n :: arcs 0 r else arcs n r

/-- An object identifier in numbers. The first two share one number. -/
def dotted (oid : Bytes) : String :=
  match arcs 0 oid with
  | [] => ""
  | n :: r =>
    let top := min (n / 40) 2
    ".".intercalate ((top :: (n - 40 * top) :: r).map toString)

end GatewayAgent.Asn1
