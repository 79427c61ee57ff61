import GatewayAgent.Crypto.Number

/-!
# Elliptic curves of prime order

Points of the curves `y² = x³ - 3x + b` over a prime field, and signatures made with them (ECDSA).
Points are added in Jacobian coordinates, where `(x, y, z)` stands for `(x / z², y / z³)` and
`z = 0` for the point at infinity, so that a multiple needs a single inversion at its end.
-/

namespace GatewayAgent.Crypto

/-- A curve with a point that generates its points. -/
structure Curve where
  /-- The field has this many elements. -/
  p : Nat
  b : Nat
  baseX : Nat
  baseY : Nat
  /-- The number of points. -/
  order : Nat
  /-- The number of octets of a coordinate. -/
  width : Nat
  deriving DecidableEq, Repr

/-- A point in Jacobian coordinates. -/
structure JacobianPoint where
  x : Nat
  y : Nat
  z : Nat

/-- The curve over a field of 256 bits. -/
def p256 : Curve where
  p := Nat.pow 2 256 - Nat.pow 2 224 + Nat.pow 2 192 + Nat.pow 2 96 - 1
  b := 0x5ac635d8aa3a93e7b3ebbd55769886bc651d06b0cc53b0f63bce3c3e27d2604b
  baseX := 0x6b17d1f2e12c4247f8bce6e563a440f277037d812deb33a0f4a13945d898c296
  baseY := 0x4fe342e2fe1a7f9b8ee7eb4a7c0f9e162bce33576b315ececbb6406837bf51f5
  order := 0xffffffff00000000ffffffffffffffffbce6faada7179e84f3b9cac2fc632551
  width := 32

/-- The curve over a field of 384 bits. -/
def p384 : Curve where
  p := Nat.pow 2 384 - Nat.pow 2 128 - Nat.pow 2 96 + Nat.pow 2 32 - 1
  b :=
    0xb3312fa7e23ee7e4988e056be3f82d19181d9c6efe8141120314088f5013875ac656398d8a2ed19d2a85c8edd3ec2aef
  baseX :=
    0xaa87ca22be8b05378eb1c71ef320ad746e1d3b628ba79b9859f741e082542a385502f25dbf55296c3a545e3872760ab7
  baseY :=
    0x3617de4a96262c6f5d9e98bf9292dc29f8f41dbd289a147ce9da3113b5f0b8c00a60b1ce1d7e819d7a431d7c90ea0e5f
  order :=
    0xffffffffffffffffffffffffffffffffffffffffffffffffc7634d81f4372ddf581a0db248b0a77aecec196accc52973
  width := 48

namespace Curve

/-- The point at infinity. -/
def infinity : JacobianPoint := ⟨1, 1, 0⟩

/-- Twice a point. -/
def double (c : Curve) (q : JacobianPoint) : JacobianPoint :=
  if q.z = 0 || q.y = 0 then infinity
  else
    let p := c.p
    let yy := q.y * q.y % p
    let s := 4 * q.x * yy % p
    let zz := q.z * q.z % p
    let m := 3 * subMod p q.x zz * (q.x + zz) % p
    let x := subMod p (m * m % p) (2 * s % p)
    let y := subMod p (m * subMod p s x % p) (8 * yy * yy % p)
    ⟨x, y, 2 * q.y * q.z % p⟩

/-- The sum of two points. -/
def add (c : Curve) (q r : JacobianPoint) : JacobianPoint :=
  if q.z = 0 then r
  else if r.z = 0 then q
  else
    let p := c.p
    let zzq := q.z * q.z % p
    let zzr := r.z * r.z % p
    let u1 := q.x * zzr % p
    let u2 := r.x * zzq % p
    let s1 := q.y * zzr % p * r.z % p
    let s2 := r.y * zzq % p * q.z % p
    if u1 = u2 then if s1 = s2 then c.double q else infinity
    else
      let h := subMod p u2 u1
      let t := subMod p s2 s1
      let hh := h * h % p
      let hhh := h * hh % p
      let v := u1 * hh % p
      let x := subMod p (subMod p (t * t % p) hhh) (2 * v % p)
      let y := subMod p (t * subMod p v x % p) (s1 * hhh % p)
      ⟨x, y, q.z * r.z % p * h % p⟩

/-- The `n`-th multiple of a point. -/
def multiple (c : Curve) (n : Nat) (q : JacobianPoint) : JacobianPoint :=
  if h : n = 0 then infinity
  else
    have : n / 2 < n := Nat.div_lt_self (Nat.pos_of_ne_zero h) (by decide)
    let half := c.multiple (n / 2) (c.double q)
    if n % 2 = 1 then c.add q half else half
  termination_by n

/-- The generator. -/
def base (c : Curve) : JacobianPoint := ⟨c.baseX, c.baseY, 1⟩

/-- The coordinates of a point that is not at infinity. -/
def affine? (c : Curve) (q : JacobianPoint) : Option (Nat × Nat) :=
  if q.z = 0 then none
  else
    let i := inverse c.p q.z
    let ii := i * i % c.p
    some (q.x * ii % c.p, q.y * (ii * i % c.p) % c.p)

/-- Whether a pair of coordinates belongs to a point. -/
def contains (c : Curve) (x y : Nat) : Bool :=
  x < c.p && y < c.p && y * y % c.p == (x * x * x + (c.p - 3) * x + c.b) % c.p

/-- A point as octets, without compression. -/
def encodePoint (c : Curve) (x y : Nat) : Bytes := 4 :: octets c.width x ++ octets c.width y

/-- The point of some octets, if they are one. -/
def decodePoint? (c : Curve) : Bytes → Option (Nat × Nat)
  | 4 :: r =>
    let x := number (r.take c.width)
    let y := number (r.drop c.width)
    if r.length = 2 * c.width && c.contains x y then some (x, y) else none
  | _ => none

/-- The public point of a private number, if the number is one. -/
def publicPoint? (c : Curve) (secret : Nat) : Option (Nat × Nat) :=
  if 0 < secret && secret < c.order then c.affine? (c.multiple secret c.base) else none

/-- The number that is signed for a digest: as many leading bits as the order has. -/
def digestNumber (c : Curve) (digest : Bytes) : Nat :=
  number (digest.take c.width) % c.order

/-- Whether `(r, s)` is a signature of a digest by the owner of a point. -/
def verify (c : Curve) (x y : Nat) (digest : Bytes) (r s : Nat) : Bool :=
  if 0 < r && r < c.order && 0 < s && s < c.order then
    let w := inverse c.order s
    let u := c.multiple (c.digestNumber digest * w % c.order) c.base
    let v := c.multiple (r * w % c.order) ⟨x, y, 1⟩
    match c.affine? (c.add u v) with
    | some (xr, _) => xr % c.order == r
    | none => false
  else false

/-- The signature of a digest by a private number, with a number that is used once. There is none
for the few numbers that are not suitable. -/
def sign? (c : Curve) (secret nonce : Nat) (digest : Bytes) : Option (Nat × Nat) := do
  let (x, _) ← c.publicPoint? nonce
  let r := x % c.order
  let s := inverse c.order nonce * (c.digestNumber digest + r * secret) % c.order
  if r = 0 || s = 0 then none else some (r, s)

end Curve

end GatewayAgent.Crypto
