import GatewayAgent.Text.Utf8

/-!
# Numbers and octets

Numbers as octets, most significant first, and arithmetic modulo a number.

Main statement: `length_octets`, a number written with a width has as many octets.
-/

namespace GatewayAgent.Crypto

/-- The number that octets stand for, most significant first. -/
def number (bs : Bytes) : Nat := bs.foldl (fun n b => n * 256 + b.toNat) 0

/-- A number as `width` octets, most significant first. Further octets are dropped. -/
def octets : (width : Nat) → Nat → Bytes
  | 0, _ => []
  | width + 1, n => octets width (n / 256) ++ [UInt8.ofNat (n % 256)]

@[simp]
theorem length_octets (width n : Nat) : (octets width n).length = width := by
  induction width generalizing n with
  | zero => rfl
  | succ w ih => simp [octets, ih]

/-- The octets of a number without leading zeros. -/
def shortestOctets (n : Nat) : Bytes := (octets (n.log2 / 8 + 1) n).dropWhile (· == 0)

/-- The power `b ^ e` modulo `m`. -/
def powMod (m b e : Nat) : Nat :=
  if h : e = 0 then 1 % m
  else
    have : e / 2 < e := Nat.div_lt_self (Nat.pos_of_ne_zero h) (by decide)
    let half := powMod m (b * b % m) (e / 2)
    if e % 2 = 1 then b * half % m else half
  termination_by e

/-- The inverse of `a` modulo a prime. -/
def inverse (p a : Nat) : Nat := powMod p a (p - 2)

/-- The difference `a - b` modulo `m`, for `a` and `b` below `m`. -/
def subMod (m a b : Nat) : Nat := (a + m - b) % m

/-- The largest number whose `k`-th power is at most `n` among those that agree with `low` above
their `bits` lowest bits. -/
def rootBits (k n : Nat) : (bits : Nat) → (low : Nat) → Nat
  | 0, low => low
  | bits + 1, low =>
    let raised := low + Nat.pow 2 bits
    rootBits k n bits (if Nat.pow raised k ≤ n then raised else low)

/-- The first `bits` binary places of the `k`-th root of `n`, as a number. -/
def rootFraction (k bits n : Nat) : Nat :=
  rootBits k (n * Nat.pow 2 (k * bits)) (bits + 16) 0 % Nat.pow 2 bits

/-- Whether a number has no divisor from 2 up to its half. -/
def isPrime (n : Nat) : Bool :=
  2 ≤ n && (List.range (n / 2 + 1)).all fun d => d < 2 || n % d != 0

/-- The prime numbers below a bound. -/
def primesBelow (bound : Nat) : List Nat := (List.range bound).filter isPrime

end GatewayAgent.Crypto
