import GatewayAgent.Crypto.Sha2

/-!
# Ed25519

The twisted Edwards curve `-x² + y² = 1 + d x² y²` over the field of `2 ^ 255 - 19` elements, and
its signatures. Points are added in extended coordinates, where `(x, y, z, t)` stands for
`(x / z, y / z)` with `t = x y / z`. Numbers are written least significant octet first.
-/

namespace GatewayAgent.Crypto.Edwards

/-- The number of elements of the field. -/
def p : Nat := Nat.pow 2 255 - 19

/-- The number of points that the base point generates. -/
def order : Nat := Nat.pow 2 252 + 27742317777372353535851937790883648493

/-- The coefficient of the curve. -/
def d : Nat := (p - 121665) * inverse p 121666 % p

/-- A square root of `-1`. -/
def rootOfMinusOne : Nat := powMod p 2 ((p - 1) / 4)

/-- A point in extended coordinates. -/
structure Point where
  x : Nat
  y : Nat
  z : Nat
  t : Nat

/-- The neutral point. -/
def neutral : Point := ⟨0, 1, 1, 0⟩

/-- A point of two coordinates. -/
def ofAffine (x y : Nat) : Point := ⟨x, y, 1, x * y % p⟩

/-- The sum of two points. -/
def add (q r : Point) : Point :=
  let a := subMod p q.y q.x * subMod p r.y r.x % p
  let b := (q.y + q.x) * (r.y + r.x) % p
  let c := q.t * 2 * d % p * r.t % p
  let e := q.z * 2 * r.z % p
  let h := subMod p b a
  let f := subMod p e c
  let g := (e + c) % p
  let k := (b + a) % p
  ⟨h * f % p, g * k % p, f * g % p, h * k % p⟩

/-- The `n`-th multiple of a point. -/
def multiple (n : Nat) (q : Point) : Point :=
  if h : n = 0 then neutral
  else
    have : n / 2 < n := Nat.div_lt_self (Nat.pos_of_ne_zero h) (by decide)
    let half := multiple (n / 2) (add q q)
    if n % 2 = 1 then add q half else half
  termination_by n

/-- The point with the opposite first coordinate. -/
def negate (q : Point) : Point := ⟨subMod p 0 q.x, q.y, q.z, subMod p 0 q.t⟩

/-- The number of octets, least significant first. -/
def littleNumber (bs : Bytes) : Nat := number bs.reverse

/-- A number as 32 octets, least significant first. -/
def littleOctets (n : Nat) : Bytes := (octets 32 n).reverse

/-- A square root of a quotient, if there is one. -/
def sqrtQuotient? (u v : Nat) : Option Nat :=
  let w := powMod p (u * inverse p v % p) ((p + 3) / 8)
  let square := v * (w * w % p) % p
  if square = u then some w
  else if square = subMod p 0 u then some (w * rootOfMinusOne % p)
  else none

/-- The point of 32 octets: the second coordinate, and in the highest bit whether the first is
odd. -/
def decode? (bs : Bytes) : Option Point :=
  if bs.length ≠ 32 then none
  else
    let n := littleNumber bs
    let odd := n / Nat.pow 2 255
    let y := n % Nat.pow 2 255 % p
    let yy := y * y % p
    (sqrtQuotient? (subMod p yy 1) ((d * yy + 1) % p)).map fun x =>
      ofAffine (if x % 2 = odd then x else subMod p 0 x) y

/-- The octets of a point. -/
def encode (q : Point) : Bytes :=
  let i := inverse p q.z
  let x := q.x * i % p
  let y := q.y * i % p
  littleOctets (y + x % 2 * Nat.pow 2 255)

/-- The base point: the one with second coordinate `4 / 5` and an even first coordinate. -/
def base : Point := (decode? (littleOctets (4 * inverse p 5 % p))).getD neutral

/-- The public key of a seed. -/
def publicKey (seed : Bytes) : Bytes :=
  let n := littleNumber ((sha512 seed).take 32)
  encode (multiple (n % Nat.pow 2 254 / 8 * 8 + Nat.pow 2 254) base)

/-- Whether 64 octets are the signature of a message by the owner of a public key. -/
def verify (key message signature : Bytes) : Bool :=
  let s := littleNumber (signature.drop 32)
  match decode? key with
  | some a =>
    if signature.length = 64 && s < order then
      let k := littleNumber (sha512 (signature.take 32 ++ key ++ message)) % order
      encode (add (multiple s base) (multiple k (negate a))) == signature.take 32
    else false
  | none => false

end GatewayAgent.Crypto.Edwards
