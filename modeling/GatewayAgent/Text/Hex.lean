import GatewayAgent.Text.Utf8

/-!
# Hexadecimal digits

Octets are written as two digits each. Readers take digits of either case.

Main statement: `decode?_encodeWith`, octets written in digits that can be read read back.
-/

namespace GatewayAgent.Text.Hex

/-- The value of a digit of either case. -/
def value? (c : Char) : Option Nat :=
  if '0' ≤ c && c ≤ '9' then some (c.toNat - 48)
  else if 'a' ≤ c && c ≤ 'f' then some (c.toNat - 87)
  else if 'A' ≤ c && c ≤ 'F' then some (c.toNat - 55)
  else none

/-- A value below 16 as a digit, in lower case. -/
def lower (n : Nat) : Char := if n < 10 then Char.ofNat (48 + n) else Char.ofNat (87 + n)

/-- A value below 16 as a digit, in upper case. -/
def upper (n : Nat) : Char := if n < 10 then Char.ofNat (48 + n) else Char.ofNat (55 + n)

/-- An octet in two digits. -/
def pair (digit : Nat → Char) (b : UInt8) : List Char :=
  [digit (b.toNat / 16), digit (b.toNat % 16)]

/-- The octet that two digits stand for. -/
def octet? (a b : Char) : Option UInt8 := do
  return UInt8.ofNat ((← value? a) * 16 + (← value? b))

/-- Octets in pairs of digits. -/
def encodeWith (digit : Nat → Char) (bs : Bytes) : List Char := bs.flatMap (pair digit)

/-- Octets in pairs of lower-case digits. -/
def encode (bs : Bytes) : String := String.ofList (encodeWith lower bs)

/-- The octets that pairs of digits stand for. -/
def decode? : List Char → Option Bytes
  | [] => some []
  | a :: b :: r => do return (← octet? a b) :: (← decode? r)
  | [_] => none

theorem value?_upper : ∀ n < 16, value? (upper n) = some n := by decide

/-- An octet written in digits that can be read reads back. -/
theorem octet?_pair {digit : Nat → Char} (h : ∀ n < 16, value? (digit n) = some n) (b : UInt8) :
    octet? (digit (b.toNat / 16)) (digit (b.toNat % 16)) = some b := by
  have hb : b.toNat < 256 := b.toNat_lt
  have hsum : b.toNat / 16 * 16 + b.toNat % 16 = b.toNat := by omega
  rw [octet?, h _ (by omega), h _ (by omega)]
  show some (UInt8.ofNat (b.toNat / 16 * 16 + b.toNat % 16)) = some b
  rw [hsum, UInt8.ofNat_toNat]

/-- Octets written in digits that can be read read back. -/
theorem decode?_encodeWith {digit : Nat → Char} (h : ∀ n < 16, value? (digit n) = some n)
    (bs : Bytes) : decode? (encodeWith digit bs) = some bs := by
  induction bs with
  | nil => rfl
  | cons b r ih =>
    have hrest : decode? (List.flatMap (pair digit) r) = some r := ih
    simp [encodeWith, pair, decode?, octet?_pair h, hrest]

end GatewayAgent.Text.Hex
