import GatewayAgent.Text.Decimal

/-!
# Network addresses

IPv4 and IPv6 addresses and the host and port pairs made of them, with the grammar that reads
them and the text that shows them.

An IPv4 octet has no leading zeros. An IPv6 address has eight groups of one to four hexadecimal
digits, where `::` stands for one or more groups of zero and an IPv4 address may stand for the
last two groups. A pair puts an IPv6 address, with its optional zone, between brackets.
-/

namespace GatewayAgent

/-- An IPv4 address: four octets. -/
structure Ipv4 where
  a : UInt8
  b : UInt8
  c : UInt8
  d : UInt8
  deriving DecidableEq, Repr

/-- An IPv6 address: eight groups of sixteen bits. -/
structure Ipv6 where
  /-- The groups, most significant first. -/
  groups : Vector UInt16 8
  deriving DecidableEq, Repr

/-- An address of either family. -/
inductive IpAddress where
  | v4 (address : Ipv4)
  | v6 (address : Ipv6)
  deriving DecidableEq, Repr

/-- An address with a port, and for IPv6 the zone it belongs to. -/
inductive Endpoint where
  | v4 (address : Ipv4) (port : UInt16)
  | v6 (address : Ipv6) (zone : UInt32) (port : UInt16)
  deriving DecidableEq, Repr

namespace Address

/-- A reader takes a value off the front of a text, or fails. -/
abbrev Reader (α : Type) := List Char → Option (α × List Char)

/-- Takes one given character. -/
def char (c : Char) : Reader Unit
  | d :: r => if d = c then some ((), r) else none
  | [] => none

/-- The value of a digit in bases up to sixteen. -/
def digitIn (base : Nat) (c : Char) : Option Nat :=
  let n := c.toNat
  let v :=
    if '0'.toNat ≤ n ∧ n ≤ '9'.toNat then some (n - '0'.toNat)
    else if 'a'.toNat ≤ n ∧ n ≤ 'f'.toNat then some (n - 'a'.toNat + 10)
    else if 'A'.toNat ≤ n ∧ n ≤ 'F'.toNat then some (n - 'A'.toNat + 10)
    else none
  v.filter (· < base)

/-- Takes the longest run of digits and adds them to `acc`. -/
def digitRun (base : Nat) (acc count : Nat) : List Char → Nat × Nat × List Char
  | [] => (acc, count, [])
  | c :: r =>
    match digitIn base c with
    | some v => digitRun base (acc * base + v) (count + 1) r
    | none => (acc, count, c :: r)

/-- Takes a numeral: at least one digit, at most `width` where that is given, a value below
`bound`, and a leading zero only where that is allowed or alone. -/
def number (base bound : Nat) (width : Option Nat) (leadingZero : Bool) : Reader Nat := fun cs =>
  let (value, count, rest) := digitRun base 0 0 cs
  if count = 0 then none
  else if width.any (· < count) then none
  else if !leadingZero && cs.head? = some '0' && 1 < count then none
  else if value < bound then some (value, rest) else none

/-- Takes an octet of an IPv4 address. -/
def octet : Reader UInt8 := fun cs =>
  (number 10 256 (some 3) false cs).map fun (n, r) => (UInt8.ofNat n, r)

/-- Takes an IPv4 address. -/
def ipv4 : Reader Ipv4 := fun cs => do
  let (a, cs) ← octet cs
  let (_, cs) ← char '.' cs
  let (b, cs) ← octet cs
  let (_, cs) ← char '.' cs
  let (c, cs) ← octet cs
  let (_, cs) ← char '.' cs
  let (d, cs) ← octet cs
  pure (⟨a, b, c, d⟩, cs)

/-- Takes the colon in front of every group but the first. -/
def separator (first : Bool) : Reader Unit := fun cs =>
  if first then some ((), cs) else char ':' cs

/-- Takes at most `limit` groups, where an IPv4 address counts as two and ends them. The flag says
whether there was one. -/
def groups (first : Bool) : (limit : Nat) → List Char → List UInt16 × Bool × List Char
  | 0, cs => ([], false, cs)
  | limit + 1, cs =>
    let embedded := if 0 < limit then (separator first cs).bind (ipv4 ·.2) else none
    match embedded with
    | some (v, rest) =>
      ([v.a.toUInt16 * 256 + v.b.toUInt16, v.c.toUInt16 * 256 + v.d.toUInt16], true, rest)
    | none =>
      match (separator first cs).bind (number 16 65536 (some 4) true ·.2) with
      | none => ([], false, cs)
      | some (g, rest) =>
        let (gs, v4, rest) := groups false limit rest
        (UInt16.ofNat g :: gs, v4, rest)

/-- The address whose first groups are `head`, whose last are `tail`, and which is zero between. -/
def fill (head tail : List UInt16) : Ipv6 :=
  ⟨Vector.ofFn fun i =>
    if (i : Nat) < head.length then head.getD i 0
    else if 8 - tail.length ≤ (i : Nat) then tail.getD (i - (8 - tail.length)) 0 else 0⟩

/-- Takes an IPv6 address. -/
def ipv6 : Reader Ipv6 := fun cs =>
  let (head, v4, rest) := groups true 8 cs
  if head.length = 8 then some (fill head [], rest)
  else if v4 then none
  else do
    let (_, rest) ← char ':' rest
    let (_, rest) ← char ':' rest
    let (tail, _, rest) := groups true (7 - head.length) rest
    pure (fill head tail, rest)

/-- Takes a colon and a port. -/
def port : Reader UInt16 := fun cs => do
  let (_, cs) ← char ':' cs
  let (n, cs) ← number 10 65536 none true cs
  pure (UInt16.ofNat n, cs)

/-- Takes a percent sign and a zone, if there is one. -/
def zone : Reader UInt32 := fun cs =>
  let found := (char '%' cs).bind fun (_, r) => number 10 (Nat.pow 2 32) none true r
  match found with
  | some (n, r) => some (UInt32.ofNat n, r)
  | none => some (0, cs)

/-- Takes an IPv4 address and a port. -/
def endpointV4 : Reader Endpoint := fun cs => do
  let (ip, cs) ← ipv4 cs
  let (p, cs) ← port cs
  pure (.v4 ip p, cs)

/-- Takes an IPv6 address between brackets and a port. -/
def endpointV6 : Reader Endpoint := fun cs => do
  let (_, cs) ← char '[' cs
  let (ip, cs) ← ipv6 cs
  let (z, cs) ← zone cs
  let (_, cs) ← char ']' cs
  let (p, cs) ← port cs
  pure (.v6 ip z p, cs)

/-- The value of a reader that takes the whole text. -/
def whole {α : Type} (p : Reader α) (s : String) : Option α :=
  match p s.toList with
  | some (v, []) => some v
  | _ => none

/-- A number in lower-case hexadecimal. -/
def hexText (n : Nat) : String := String.ofList (Nat.toDigits 16 n)

end Address

/-- The IPv4 address that a text is. -/
def Ipv4.parse? (s : String) : Option Ipv4 := Address.whole Address.ipv4 s

/-- The address that a text is. -/
def IpAddress.parse? (s : String) : Option IpAddress :=
  (Ipv4.parse? s).map .v4 <|> (Address.whole Address.ipv6 s).map .v6

/-- The address and port that a text is. -/
def Endpoint.parse? (s : String) : Option Endpoint :=
  Address.whole Address.endpointV4 s <|> Address.whole Address.endpointV6 s

/-- The four octets in order. -/
def Ipv4.octets (x : Ipv4) : List UInt8 := [x.a, x.b, x.c, x.d]

/-- The sixteen octets in order. -/
def Ipv6.octets (x : Ipv6) : List UInt8 :=
  x.groups.toList.flatMap fun g => [(g / 256).toUInt8, g.toUInt8]

/-- The octets of an address. -/
def IpAddress.octets : IpAddress → List UInt8
  | .v4 x => x.octets
  | .v6 x => x.octets

/-- The dotted form of an IPv4 address. -/
def Ipv4.text (x : Ipv4) : String := ".".intercalate (x.octets.map fun o => toString o.toNat)

/-- The IPv4 address that an IPv6 address of the form `::ffff:a.b.c.d` stands for. -/
def Ipv6.mapped? (x : Ipv6) : Option Ipv4 :=
  match x.octets with
  | [0, 0, 0, 0, 0, 0, 0, 0, 0, 0, 0xFF, 0xFF, a, b, c, d] => some ⟨a, b, c, d⟩
  | _ => none

/-- The start and length of the longest run of zeros, the first of several. `at` is the position
of the front of the list and `run` the run that ends just before it. -/
def longestZeroRun (position : Nat) (run best : Nat × Nat) : List UInt16 → Nat × Nat
  | [] => best
  | g :: r =>
    if g = 0 then
      let run := if run.2 = 0 then (position, 1) else (run.1, run.2 + 1)
      longestZeroRun (position + 1) run (if best.2 < run.2 then run else best) r
    else longestZeroRun (position + 1) (0, 0) best r

/-- The text of an IPv6 address: the longest run of at least two groups of zero as `::`. -/
def Ipv6.text (x : Ipv6) : String :=
  match x.mapped? with
  | some v4 => "::ffff:" ++ v4.text
  | none =>
    let gs := x.groups.toList
    let join := fun gs : List UInt16 => ":".intercalate (gs.map fun g => Address.hexText g.toNat)
    let (start, length) := longestZeroRun 0 (0, 0) (0, 0) gs
    if 1 < length then join (gs.take start) ++ "::" ++ join (gs.drop (start + length))
    else join gs

/-- The text of an address. -/
def IpAddress.text : IpAddress → String
  | .v4 x => x.text
  | .v6 x => x.text

/-- The address without the port. -/
def Endpoint.address : Endpoint → IpAddress
  | .v4 x _ => .v4 x
  | .v6 x _ _ => .v6 x

/-- The port. -/
def Endpoint.port : Endpoint → UInt16
  | .v4 _ p => p
  | .v6 _ _ p => p

/-- The text of an address with its port. -/
def Endpoint.text : Endpoint → String
  | .v4 x p => x.text ++ ":" ++ toString p.toNat
  | .v6 x z p =>
    "[" ++ x.text ++ (if z = 0 then "" else "%" ++ toString z.toNat) ++ "]:" ++ toString p.toNat

end GatewayAgent
