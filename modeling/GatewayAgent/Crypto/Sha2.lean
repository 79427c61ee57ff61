import GatewayAgent.Crypto.Number

/-!
# The SHA-2 hash functions

SHA-256 works on words of 32 bits; SHA-384 and SHA-512 work on words of 64 bits and differ in
their first state and in the length of the digest. A message is padded to whole blocks of sixteen
words, and every block is mixed into a state of eight words.

The constants of the rounds are the first binary places of the cube roots of the first primes; the
first states come from the square roots of primes.

Main statement: `length_sha256`, the length of the digest that names a certificate.
-/

namespace GatewayAgent.Crypto

/-- What distinguishes the functions with words of one size. -/
structure Sha2 (W : Type) where
  /-- The number of octets of a word. -/
  width : Nat
  ofNat : Nat → W
  toNat : W → Nat
  add : W → W → W
  xor : W → W → W
  and : W → W → W
  complement : W → W
  rotate : Nat → W → W
  shift : Nat → W → W
  /-- One constant for each round. -/
  constants : List W
  /-- The rotations of the large sums, and the rotations and the shift of the small ones. -/
  large0 : Nat × Nat × Nat
  large1 : Nat × Nat × Nat
  small0 : Nat × Nat × Nat
  small1 : Nat × Nat × Nat

namespace Sha2

variable {W : Type}

/-- A sum of three rotations. -/
def large (v : Sha2 W) (r : Nat × Nat × Nat) (x : W) : W :=
  v.xor (v.xor (v.rotate r.1 x) (v.rotate r.2.1 x)) (v.rotate r.2.2 x)

/-- A sum of two rotations and a shift. -/
def small (v : Sha2 W) (r : Nat × Nat × Nat) (x : W) : W :=
  v.xor (v.xor (v.rotate r.1 x) (v.rotate r.2.1 x)) (v.shift r.2.2 x)

/-- Picks each bit of `y` or `z` by the bit of `x`. -/
def choose (v : Sha2 W) (x y z : W) : W := v.xor (v.and x y) (v.and (v.complement x) z)

/-- Takes each bit as most of `x`, `y` and `z` have it. -/
def majority (v : Sha2 W) (x y z : W) : W :=
  v.xor (v.xor (v.and x y) (v.and x z)) (v.and y z)

/-- The state between two rounds. -/
structure State (W : Type) where
  a : W
  b : W
  c : W
  d : W
  e : W
  f : W
  g : W
  h : W

/-- The words of a state. -/
def State.words (s : State W) : List W := [s.a, s.b, s.c, s.d, s.e, s.f, s.g, s.h]

/-- One round with a constant and a word of the schedule. -/
def round (v : Sha2 W) (s : State W) (kw : W × W) : State W :=
  let t1 := v.add (v.add (v.add s.h (v.large v.large1 s.e)) (v.choose s.e s.f s.g))
    (v.add kw.1 kw.2)
  let t2 := v.add (v.large v.large0 s.a) (v.majority s.a s.b s.c)
  { a := v.add t1 t2, b := s.a, c := s.b, d := s.c, e := v.add s.d t1, f := s.e, g := s.f,
    h := s.g }

/-- The next word of a schedule, from the sixteen before it, the latest first. -/
def nextWord (v : Sha2 W) (latest : List W) : W :=
  let word (back : Nat) : W := latest.getD (back - 1) (v.ofNat 0)
  v.add (v.add (v.small v.small1 (word 2)) (word 7)) (v.add (v.small v.small0 (word 15)) (word 16))

/-- A schedule with `n` more words, the latest first. -/
def extend (v : Sha2 W) : (n : Nat) → List W → List W
  | 0, ws => ws
  | n + 1, ws => v.extend n (v.nextWord ws :: ws)

/-- The schedule of a block. -/
def schedule (v : Sha2 W) (block : List W) : List W :=
  (v.extend (v.constants.length - 16) block.reverse).reverse

/-- Mixes a block into a state. -/
def compress (v : Sha2 W) (s : State W) (block : List W) : State W :=
  let t := (v.constants.zip (v.schedule block)).foldl v.round s
  { a := v.add s.a t.a, b := v.add s.b t.b, c := v.add s.c t.c, d := v.add s.d t.d,
    e := v.add s.e t.e, f := v.add s.f t.f, g := v.add s.g t.g, h := v.add s.h t.h }

/-- The zeros between a message and its length, which fill up the last block. -/
def paddingZeros (v : Sha2 W) (length : Nat) : Nat :=
  let block := 16 * v.width
  (2 * block - (length + 1 + 2 * v.width) % block) % block

/-- A message up to whole blocks: one bit, zeros, and the length in bits. -/
def pad (v : Sha2 W) (message : Bytes) : Bytes :=
  message ++ [0x80] ++ List.replicate (v.paddingZeros message.length) 0 ++
    octets (2 * v.width) (message.length * 8)

/-- The pieces of a list, each of `n` members. -/
def chunks {α : Type} (n : Nat) : (count : Nat) → List α → List (List α)
  | 0, _ => []
  | count + 1, xs => xs.take n :: chunks n count (xs.drop n)

/-- The words of octets. -/
def wordsOf (v : Sha2 W) (bs : Bytes) : List W :=
  (chunks v.width (bs.length / v.width) bs).map fun c => v.ofNat (number c)

/-- The last state for a message. -/
def run (v : Sha2 W) (first : State W) (message : Bytes) : State W :=
  let words := v.wordsOf (v.pad message)
  (chunks 16 (words.length / 16) words).foldl v.compress first

/-- The octets of the first `count` words of a state. -/
def output (v : Sha2 W) (count : Nat) (s : State W) : Bytes :=
  (s.words.take count).flatMap fun w => octets v.width (v.toNat w)

theorem length_output (v : Sha2 W) {count : Nat} (h : count ≤ 8) (s : State W) :
    (v.output count s).length = count * v.width := by
  have : ∀ ws : List W, (ws.flatMap fun w => octets v.width (v.toNat w)).length =
      ws.length * v.width := by
    intro ws
    induction ws with
    | nil => simp
    | cons w r ih =>
      rw [List.flatMap_cons, List.length_append, ih, length_octets, List.length_cons]
      rw [Nat.succ_mul, Nat.add_comm]
  rw [output, this, List.length_take]
  congr 1
  exact Nat.min_eq_left h

/-- A state from eight numbers. -/
def stateOf (v : Sha2 W) (ns : List Nat) : State W :=
  let word (i : Nat) : W := v.ofNat (ns.getD i 0)
  ⟨word 0, word 1, word 2, word 3, word 4, word 5, word 6, word 7⟩

end Sha2

/-- The primes that the constants come from. -/
def shaPrimes : List Nat := primesBelow 410

/-- The functions with words of 32 bits. -/
def sha2Words32 : Sha2 UInt32 where
  width := 4
  ofNat := UInt32.ofNat
  toNat := UInt32.toNat
  add := (· + ·)
  xor := (· ^^^ ·)
  and := (· &&& ·)
  complement := (~~~ ·)
  rotate n x := (x >>> UInt32.ofNat n) ||| (x <<< UInt32.ofNat (32 - n))
  shift n x := x >>> UInt32.ofNat n
  constants := (shaPrimes.take 64).map fun p => UInt32.ofNat (rootFraction 3 32 p)
  large0 := (2, 13, 22)
  large1 := (6, 11, 25)
  small0 := (7, 18, 3)
  small1 := (17, 19, 10)

/-- The functions with words of 64 bits. -/
def sha2Words64 : Sha2 UInt64 where
  width := 8
  ofNat := UInt64.ofNat
  toNat := UInt64.toNat
  add := (· + ·)
  xor := (· ^^^ ·)
  and := (· &&& ·)
  complement := (~~~ ·)
  rotate n x := (x >>> UInt64.ofNat n) ||| (x <<< UInt64.ofNat (64 - n))
  shift n x := x >>> UInt64.ofNat n
  constants := (shaPrimes.take 80).map fun p => UInt64.ofNat (rootFraction 3 64 p)
  large0 := (28, 34, 39)
  large1 := (14, 18, 41)
  small0 := (1, 8, 7)
  small1 := (19, 61, 6)

/-- The first state of SHA-256. -/
def sha256Start : Sha2.State UInt32 :=
  sha2Words32.stateOf ((shaPrimes.take 8).map (rootFraction 2 32))

/-- The first state of SHA-512. -/
def sha512Start : Sha2.State UInt64 :=
  sha2Words64.stateOf ((shaPrimes.take 8).map (rootFraction 2 64))

/-- The first state of SHA-384. -/
def sha384Start : Sha2.State UInt64 :=
  sha2Words64.stateOf (((shaPrimes.drop 8).take 8).map (rootFraction 2 64))

/-- The SHA-256 digest of a message. -/
def sha256 (message : Bytes) : Bytes :=
  sha2Words32.output 8 (sha2Words32.run sha256Start message)

/-- The SHA-384 digest of a message. -/
def sha384 (message : Bytes) : Bytes :=
  sha2Words64.output 6 (sha2Words64.run sha384Start message)

/-- The SHA-512 digest of a message. -/
def sha512 (message : Bytes) : Bytes :=
  sha2Words64.output 8 (sha2Words64.run sha512Start message)

@[simp]
theorem length_sha256 (message : Bytes) : (sha256 message).length = 32 := by
  rw [sha256, Sha2.length_output _ (by decide)]
  rfl

end GatewayAgent.Crypto
