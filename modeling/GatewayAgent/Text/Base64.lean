import GatewayAgent.Text.Utf8

/-!
# Base64

Octets as text in 64 digits, three octets to four digits, filled up with `=`.

Of texts in armour there are two readings (`decode?`). The exact one wants the padding and no bits
left over; the lax one does without the padding and takes no notice of such bits. A third reading,
of headers, wants no bits left over and does without any part of the padding (`decodeUnpadded?`).
-/

namespace GatewayAgent.Base64

/-- The digits. -/
def alphabet : Bytes :=
  Text.encode "ABCDEFGHIJKLMNOPQRSTUVWXYZabcdefghijklmnopqrstuvwxyz0123456789+/"

/-- The sign that fills up the last group. -/
def padding : UInt8 := 61

/-- The digit of a value below 64. -/
def digit (n : Nat) : UInt8 := alphabet.getD n padding

/-- The value of a digit. -/
def value? (b : UInt8) : Option Nat :=
  if 65 ≤ b && b ≤ 90 then some (b.toNat - 65)
  else if 97 ≤ b && b ≤ 122 then some (b.toNat - 71)
  else if 48 ≤ b && b ≤ 57 then some (b.toNat + 4)
  else if b = 43 then some 62
  else if b = 47 then some 63
  else none

/-- The values of the digits of some octets, without padding. -/
def sextets : Bytes → List Nat
  | [] => []
  | [a] => [a.toNat / 4, a.toNat % 4 * 16]
  | [a, b] => [a.toNat / 4, a.toNat % 4 * 16 + b.toNat / 16, b.toNat % 16 * 4]
  | a :: b :: c :: r =>
    a.toNat / 4 :: (a.toNat % 4 * 16 + b.toNat / 16) :: (b.toNat % 16 * 4 + c.toNat / 64) ::
      c.toNat % 64 :: sextets r

/-- The octets of the values of some digits. A digit that stands alone in its group is refused, and
so are, unless `lax`, bits that belong to no octet. -/
def octets? (lax : Bool) : List Nat → Option Bytes
  | [] => some []
  | [_] => none
  | [a, b] => if lax || b % 16 = 0 then some [UInt8.ofNat (a * 4 + b / 16)] else none
  | [a, b, c] =>
    if lax || c % 4 = 0 then
      some [UInt8.ofNat (a * 4 + b / 16), UInt8.ofNat (b % 16 * 16 + c / 4)]
    else none
  | a :: b :: c :: d :: r =>
    (octets? lax r).map fun bs =>
      UInt8.ofNat (a * 4 + b / 16) :: UInt8.ofNat (b % 16 * 16 + c / 4) ::
        UInt8.ofNat (c % 4 * 64 + d) :: bs

/-- The octets as digits with padding. -/
def encode (bs : Bytes) : Bytes :=
  (sextets bs).map digit ++ List.replicate ((3 - bs.length % 3) % 3) padding

/-- The octets of a text of digits. -/
def decode? (lax : Bool) (text : Bytes) : Option Bytes :=
  let digits := text.takeWhile (· ≠ padding)
  let rest := text.dropWhile (· ≠ padding)
  if rest.all (· = padding) && rest.length ≤ 2 &&
      (text.length % 4 == 0 || lax && rest.isEmpty) then
    (digits.mapM value?).bind (octets? lax)
  else none

/-- How much padding the last group of so many digits needs. -/
def missing (digits : Nat) : Nat := (4 - digits % 4) % 4

/-- The octets of a text of digits, of whose padding any part may be missing. -/
def decodeUnpadded? (text : Bytes) : Option Bytes :=
  let digits := text.takeWhile (· ≠ padding)
  let rest := text.dropWhile (· ≠ padding)
  if rest.all (· = padding) && rest.length ≤ missing digits.length then
    (digits.mapM value?).bind (octets? false)
  else none

end GatewayAgent.Base64
