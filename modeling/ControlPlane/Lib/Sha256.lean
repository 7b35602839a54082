/-
SHA-256.

The digest is written out so that a hash appearing in a statement is the hash the
services compute, and a test vector can be evaluated.  The words are natural
numbers below 2^32 and every addition is reduced, so that evaluation stays cheap.

Nothing above this file looks inside: what the proofs use is that a digest has
thirty-two bytes, and where a result needs it, that no two of the messages it
hashes collide.  Collision freedom is always asked of a named set of messages,
because of all byte strings it is false: digests are finitely many.
-/
import ControlPlane.Lib.Bytes
import Mathlib.Data.Set.Function

namespace ControlPlane

namespace Sha256

/-- Words are taken modulo this. -/
def modulus : Nat := 2 ^ 32

/-- Rotation of a word to the right. -/
def rotr (n x : Nat) : Nat := (x >>> n) ||| ((x <<< (32 - n)) % modulus)

/-- Σ₀ of the standard. -/
def bigSigma0 (x : Nat) : Nat := rotr 2 x ^^^ rotr 13 x ^^^ rotr 22 x

/-- Σ₁ of the standard. -/
def bigSigma1 (x : Nat) : Nat := rotr 6 x ^^^ rotr 11 x ^^^ rotr 25 x

/-- σ₀ of the standard. -/
def smallSigma0 (x : Nat) : Nat := rotr 7 x ^^^ rotr 18 x ^^^ (x >>> 3)

/-- σ₁ of the standard. -/
def smallSigma1 (x : Nat) : Nat := rotr 17 x ^^^ rotr 19 x ^^^ (x >>> 10)

/-- `x` chooses between `y` and `z`. -/
def ch (x y z : Nat) : Nat := (x &&& y) ^^^ ((modulus - 1 - x) &&& z)

/-- The majority of three. -/
def maj (x y z : Nat) : Nat := (x &&& y) ^^^ (x &&& z) ^^^ (y &&& z)

/-- The round constants. -/
def roundConstants : List Nat :=
  [0x428a2f98, 0x71374491, 0xb5c0fbcf, 0xe9b5dba5, 0x3956c25b, 0x59f111f1, 0x923f82a4, 0xab1c5ed5,
   0xd807aa98, 0x12835b01, 0x243185be, 0x550c7dc3, 0x72be5d74, 0x80deb1fe, 0x9bdc06a7, 0xc19bf174,
   0xe49b69c1, 0xefbe4786, 0x0fc19dc6, 0x240ca1cc, 0x2de92c6f, 0x4a7484aa, 0x5cb0a9dc, 0x76f988da,
   0x983e5152, 0xa831c66d, 0xb00327c8, 0xbf597fc7, 0xc6e00bf3, 0xd5a79147, 0x06ca6351, 0x14292967,
   0x27b70a85, 0x2e1b2138, 0x4d2c6dfc, 0x53380d13, 0x650a7354, 0x766a0abb, 0x81c2c92e, 0x92722c85,
   0xa2bfe8a1, 0xa81a664b, 0xc24b8b70, 0xc76c51a3, 0xd192e819, 0xd6990624, 0xf40e3585, 0x106aa070,
   0x19a4c116, 0x1e376c08, 0x2748774c, 0x34b0bcb5, 0x391c0cb3, 0x4ed8aa4a, 0x5b9cca4f, 0x682e6ff3,
   0x748f82ee, 0x78a5636f, 0x84c87814, 0x8cc70208, 0x90befffa, 0xa4506ceb, 0xbef9a3f7, 0xc67178f2]

/-- The eight working variables. -/
structure Chaining where
  (a b c d e f g h : Nat)

/-- The chaining value before the first block. -/
def initial : Chaining :=
  ⟨0x6a09e667, 0xbb67ae85, 0x3c6ef372, 0xa54ff53a, 0x510e527f, 0x9b05688c, 0x1f83d9ab, 0x5be0cd19⟩

/-- One round, given the sum of its constant and its schedule word. -/
def round (s : Chaining) (kw : Nat) : Chaining :=
  let t1 := s.h + bigSigma1 s.e + ch s.e s.f s.g + kw
  let t2 := bigSigma0 s.a + maj s.a s.b s.c
  ⟨(t1 + t2) % modulus, s.a, s.b, s.c, (s.d + t1) % modulus, s.e, s.f, s.g⟩

/-- Extends the message schedule, kept newest word first. -/
def extend : Nat → List Nat → List Nat
  | 0, ws => ws
  | n + 1, ws =>
      extend n
        ((smallSigma1 (ws.getD 1 0) + ws.getD 6 0 + smallSigma0 (ws.getD 14 0) + ws.getD 15 0)
          % modulus :: ws)

/-- One block of sixteen words. -/
def compress (s : Chaining) (block : List Nat) : Chaining :=
  let w := (extend 48 block.reverse).reverse
  let t := (List.zipWith (· + ·) roundConstants w).foldl round s
  ⟨(s.a + t.a) % modulus, (s.b + t.b) % modulus, (s.c + t.c) % modulus, (s.d + t.d) % modulus,
   (s.e + t.e) % modulus, (s.f + t.f) % modulus, (s.g + t.g) % modulus, (s.h + t.h) % modulus⟩

/-- The low `8 * width` bits of a number, most significant byte first. -/
def bigEndian (width n : Nat) : Bytes :=
  (List.range width).reverse.map fun i => UInt8.ofNat (n >>> (8 * i))

/-- The message, a one bit, zeros up to a block boundary, and the bit length. -/
def pad (m : Bytes) : Bytes :=
  m ++ [0x80] ++ List.replicate ((119 - m.length % 64) % 64) 0 ++ bigEndian 8 (8 * m.length)

/-- The words of a padded message, most significant byte first. -/
def words : Bytes → List Nat
  | a :: b :: c :: d :: rest =>
      (a.toNat <<< 24 ||| b.toNat <<< 16 ||| c.toNat <<< 8 ||| d.toNat) :: words rest
  | _ => []

/-- The chaining value after this many blocks of sixteen words. -/
def absorb : Nat → Chaining → List Nat → Chaining
  | 0, s, _ => s
  | n + 1, s, ws => absorb n (compress s (ws.take 16)) (ws.drop 16)

end Sha256

/-- `hashlib.sha256(m).digest()`. -/
def sha256 (m : Bytes) : Bytes :=
  let ws := Sha256.words (Sha256.pad m)
  let s := Sha256.absorb (ws.length / 16) Sha256.initial ws
  [s.a, s.b, s.c, s.d, s.e, s.f, s.g, s.h].flatMap (Sha256.bigEndian 4)

/-- `hashlib.sha256(m).hexdigest()`. -/
def sha256Hex (m : Bytes) : String := toHex (sha256 m)

/-- No two different messages of the set have the same digest. -/
def CollisionFreeOn (messages : Set Bytes) : Prop := Set.InjOn sha256 messages

@[simp] theorem length_sha256 (m : Bytes) : (sha256 m).length = 32 := by
  simp [sha256, Sha256.bigEndian]

example : sha256Hex [0x61, 0x62, 0x63]
    = "ba7816bf8f01cfea414140de5dae2223b00361a396177a9cb410ff61f20015ad" := by decide +kernel

theorem CollisionFreeOn.mono {s t : Set Bytes} (hsub : s ⊆ t) (h : CollisionFreeOn t) :
    CollisionFreeOn s := Set.InjOn.mono hsub h

end ControlPlane
