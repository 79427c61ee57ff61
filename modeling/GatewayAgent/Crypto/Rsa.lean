import GatewayAgent.Crypto.Number

/-!
# RSA signatures

Signatures with the padding of PKCS #1, version 1.5: the digest with the name of its function,
filled up to the length of the modulus.
-/

namespace GatewayAgent.Crypto.Rsa

/-- A public key. -/
structure PublicKey where
  modulus : Nat
  exponent : Nat
  deriving DecidableEq, Repr

/-- The number of bits of a number. -/
def bits (n : Nat) : Nat := if n = 0 then 0 else n.log2 + 1

/-- The number of octets of the modulus. -/
def PublicKey.width (k : PublicKey) : Nat := (bits k.modulus + 7) / 8

/-- The padded form of a digest that already names its function. -/
def padded (width : Nat) (named : Bytes) : Bytes :=
  [0, 1] ++ List.replicate (width - named.length - 3) 0xFF ++ [0] ++ named

/-- A key that signatures are accepted from: a modulus of 2048 to 8192 bits and an odd exponent
from 3 to 33 bits. -/
def PublicKey.Acceptable (k : PublicKey) : Bool :=
  2048 ≤ bits k.modulus && bits k.modulus ≤ 8192 && k.modulus % 2 == 1 && 3 ≤ k.exponent &&
    bits k.exponent ≤ 33 && k.exponent % 2 == 1

/-- Whether octets are the signature of a digest that names its function. -/
def verify (k : PublicKey) (named signature : Bytes) : Bool :=
  let s := number signature
  k.Acceptable && signature.length == k.width && s < k.modulus && named.length + 11 ≤ k.width &&
    octets k.width (powMod k.modulus s k.exponent) == padded k.width named

end GatewayAgent.Crypto.Rsa
