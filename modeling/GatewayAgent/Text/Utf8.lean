/-!
# UTF-8

Decoding of bytes as text, in two ways: `decode?` refuses a byte sequence that is not UTF-8 as a
whole, `decodeLossy` puts U+FFFD in the place of each longest piece that could have begun a
character and did not complete one. Both read through `decodeOne`, which takes one character or
one such piece from the front.

Main statement: `length_decodeOne_le`, reading always moves forward.
-/

namespace GatewayAgent

/-- A sequence of octets. -/
abbrev Bytes := List UInt8

namespace Text

/-- A continuation octet, `10xxxxxx`. -/
def Continuation (b : UInt8) : Bool := b &&& 0xC0 == 0x80

/-- The octets that may follow the first octet `a` of a three-octet character. -/
def SecondOfThree (a b : UInt8) : Bool :=
  if a == 0xE0 then 0xA0 ≤ b && b ≤ 0xBF
  else if a == 0xED then 0x80 ≤ b && b ≤ 0x9F
  else Continuation b

/-- The octets that may follow the first octet `a` of a four-octet character. -/
def SecondOfFour (a b : UInt8) : Bool :=
  if a == 0xF0 then 0x90 ≤ b && b ≤ 0xBF
  else if a == 0xF4 then 0x80 ≤ b && b ≤ 0x8F
  else Continuation b

/-- The code point whose leading bits are `lead` and whose further bits come from `tail`, six per
octet. -/
def assemble (lead : Nat) (tail : Bytes) : Char :=
  Char.ofNat (tail.foldl (fun n b => n * 64 + (b.toNat % 64)) lead)

/-- Takes one character off the front, or `none` with the longest piece that a character could
have begun with: the first octet and those after it that were still acceptable. The octets after
it are returned. -/
def decodeOne (a : UInt8) (rest : Bytes) : Option Char × Bytes :=
  if a < 0x80 then (some (Char.ofNat a.toNat), rest)
  else if 0xC2 ≤ a && a ≤ 0xDF then
    match rest with
    | b :: r => if Continuation b then (some (assemble (a.toNat % 32) [b]), r) else (none, rest)
    | [] => (none, [])
  else if 0xE0 ≤ a && a ≤ 0xEF then
    match rest with
    | b :: r =>
      if SecondOfThree a b then
        match r with
        | c :: r' =>
          if Continuation c then (some (assemble (a.toNat % 16) [b, c]), r') else (none, r)
        | [] => (none, [])
      else (none, rest)
    | [] => (none, [])
  else if 0xF0 ≤ a && a ≤ 0xF4 then
    match rest with
    | b :: r =>
      if SecondOfFour a b then
        match r with
        | c :: r' =>
          if Continuation c then
            match r' with
            | d :: r'' =>
              if Continuation d then (some (assemble (a.toNat % 8) [b, c, d]), r'')
              else (none, r')
            | [] => (none, [])
          else (none, r)
        | [] => (none, [])
      else (none, rest)
    | [] => (none, [])
  else (none, rest)

theorem length_decodeOne_le (a : UInt8) (rest : Bytes) :
    (decodeOne a rest).2.length ≤ rest.length := by
  unfold decodeOne
  repeat' split
  all_goals simp only [List.length_cons, List.length_nil]; omega

/-- The pieces of a byte sequence from left to right: a character, or `none` for a piece that is
not one. -/
def pieces : Bytes → List (Option Char)
  | [] => []
  | a :: rest =>
    have := length_decodeOne_le a rest
    (decodeOne a rest).1 :: pieces (decodeOne a rest).2
  termination_by bs => bs.length

/-- The text whose encoding is exactly these bytes. -/
def decodeChars? (bs : Bytes) : Option (List Char) := (pieces bs).mapM id

/-- The text whose encoding is exactly these bytes. -/
def decode? (bs : Bytes) : Option String := (decodeChars? bs).map String.ofList

/-- The text of these bytes, with U+FFFD for each piece that is not a character. -/
def decodeLossy (bs : Bytes) : String :=
  String.ofList ((pieces bs).map fun p => p.getD '\uFFFD')

/-- The octets of a text. -/
def encode (s : String) : Bytes := s.toUTF8.toList

end Text

end GatewayAgent
