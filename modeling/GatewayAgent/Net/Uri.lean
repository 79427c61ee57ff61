import GatewayAgent.Text.Utf8

/-!
# Addresses of services

Which texts name a service that a client can be set up for: a scheme, an authority and a path with
a query, or an authority alone, or a path alone.

The authority is read one character at a time. `AuthorityScan` keeps what of its beginning matters
for its end: what stands in front of an `@` is about a user and what stands in brackets is an
address, so that neither counts when the colon of the port is looked for.
-/

namespace GatewayAgent.Uri

/-! ### Characters -/

/-- The characters of an authority besides letters and digits. -/
def authorityMarks : List Char := "!$&'()*+,-.:;=@[]_~".toList

/-- The characters that end an authority. -/
def AuthorityEnd (c : Char) : Bool := c = '/' || c = '?' || c = '#'

/-- A character of a scheme. -/
def SchemeChar (c : Char) : Bool := c.isAlphanum || "+-.~".toList.contains c

/-- A character that stands for itself, or one beyond ASCII. -/
def PlainChar (c : Char) : Bool :=
  c = '!' || '$' ≤ c && c ≤ ';' || c = '=' || '@' ≤ c && c ≤ '_' || 'a' ≤ c && c ≤ 'z' ||
    c = '|' || '~' ≤ c

/-- A character of a path. -/
def PathChar (c : Char) : Bool := PlainChar c || c = '"' || c = '\x7b' || c = '\x7d'

/-- A character of a query. -/
def QueryChar (c : Char) : Bool := PlainChar c || c = '?' || c = '\x60' || c = '\x7b' || c = '\x7d'

/-! ### The authority -/

/-- What has been seen of an authority. -/
structure AuthorityScan where
  /-- The colons that may be in front of a port. -/
  colons : Nat := 0
  /-- Whether there was an opening bracket. -/
  opened : Bool := false
  closed : Bool := false
  /-- Whether there was a percent sign that must still turn out to be allowed. -/
  percent : Bool := false
  /-- Whether the last character was an at sign. -/
  atSign : Bool := false
  deriving DecidableEq, Repr

namespace AuthorityScan

/-- The most colons in a row of parts. -/
def mostColons : Nat := 8

/-- Goes on with one character. -/
def step (s : AuthorityScan) (c : Char) : Option AuthorityScan :=
  let s := { s with atSign := false }
  match c with
  | ':' => if mostColons ≤ s.colons then none else some { s with colons := s.colons + 1 }
  | '[' => if s.percent || s.opened then none else some { s with opened := true }
  | ']' =>
    if !s.opened || s.closed then none
    else some { s with closed := true, colons := 0, percent := false }
  | '@' => some { s with atSign := true, colons := 0, percent := false }
  | '%' => some { s with percent := true }
  | c => if c.isAlphanum || authorityMarks.contains c then some s else none

/-- Whether an authority may end here. -/
def Complete (s : AuthorityScan) : Bool :=
  s.opened == s.closed && s.colons ≤ 1 && !s.atSign && !s.percent

end AuthorityScan

/-- Whether a text is an authority. An empty one counts. -/
def Authority (cs : List Char) : Bool :=
  (cs.foldlM AuthorityScan.step {}).any (·.Complete)

/-! ### The whole -/

/-- Whether a text is a path with a query and a fragment. The fragment may hold anything. -/
def PathAndQuery (cs : List Char) : Bool :=
  (cs.takeWhile fun c => c ≠ '?' && c ≠ '#').all PathChar &&
    match cs.dropWhile fun c => c ≠ '?' && c ≠ '#' with
    | '?' :: query => (query.takeWhile (· ≠ '#')).all QueryChar
    | _ => true

/-- The longest text, in octets. -/
def longest : Nat := 65534

/-- The longest scheme. -/
def longestScheme : Nat := 64

/-- The scheme and what follows it and its mark, if a text begins with one. -/
def scheme? (cs : List Char) : Option (List Char × List Char) :=
  match cs.dropWhile SchemeChar with
  | ':' :: '/' :: '/' :: rest => some (cs.takeWhile SchemeChar, rest)
  | _ => none

/-- Whether a text names a service. -/
def WellFormed (s : String) : Bool :=
  s.utf8ByteSize ≤ longest &&
    match s.toList with
    | [] => false
    | ['*'] => true
    | '/' :: rest => PathAndQuery ('/' :: rest)
    | cs =>
      match scheme? cs with
      | none => Authority cs
      | some (scheme, rest) =>
        let authority := rest.takeWhile (!AuthorityEnd ·)
        scheme.length ≤ longestScheme && !authority.isEmpty && Authority authority &&
          PathAndQuery (rest.dropWhile (!AuthorityEnd ·))

end GatewayAgent.Uri
