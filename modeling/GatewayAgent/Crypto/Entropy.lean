import GatewayAgent.Crypto.Sha2

/-!
# Random octets

A source of random octets gives them in blocks of 32. What comes out is a function of the source
and of how many blocks were taken before, so that everything made from it can be reasoned about;
the caller decides where the randomness comes from.
-/

namespace GatewayAgent.Crypto

/-- A source of random blocks. -/
structure Entropy where
  /-- The block at a position. -/
  block : Nat → Bytes
  /-- How many blocks were taken. -/
  taken : Nat := 0

namespace Entropy

/-- A source whose blocks are digests of a seed and their position. -/
def ofSeed (seed : Bytes) : Entropy where
  block n := sha256 (seed ++ octets 8 n)

/-- The next block. -/
def draw (e : Entropy) : Bytes × Entropy := (e.block e.taken, { e with taken := e.taken + 1 })

end Entropy

end GatewayAgent.Crypto
