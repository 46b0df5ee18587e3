/-!
# Digest/Sha2 — SHA-256 and SHA-512

Both digests are one construction over words of 32 or 64 bits: the message is padded to whole blocks
of sixteen words, and each block is folded into eight words of state.  They differ in the number of
rounds and in the rotations.  The round constants of the narrow digest are the upper halves of those
of the wide one, and so are the first eight words of state.
-/

namespace DicePool.Sha2

/-- What distinguishes the digest on words of `w` bits. -/
structure Params (w : Nat) where
  /-- How many rounds a block takes. -/
  rounds : Nat
  /-- The three rotations of the first word of state. -/
  big0 : Nat × Nat × Nat
  /-- The three rotations of the fifth word of state. -/
  big1 : Nat × Nat × Nat
  /-- Two rotations and a shift for the word fifteen places back. -/
  small0 : Nat × Nat × Nat
  /-- Two rotations and a shift for the word two places back. -/
  small1 : Nat × Nat × Nat

/-- The parameters of SHA-256. -/
def narrow : Params 32 := ⟨64, (2, 13, 22), (6, 11, 25), (7, 18, 3), (17, 19, 10)⟩

/-- The parameters of SHA-512. -/
def wide : Params 64 := ⟨80, (28, 34, 39), (14, 18, 41), (1, 8, 7), (19, 61, 6)⟩

/-- The fractional parts of the square roots of the first eight primes, in units of `2 ^ -64`. -/
def start : List Nat :=
  [
    0x6a09e667f3bcc908, 0xbb67ae8584caa73b, 0x3c6ef372fe94f82b, 0xa54ff53a5f1d36f1,
    0x510e527fade682d1, 0x9b05688c2b3e6c1f, 0x1f83d9abfb41bd6b, 0x5be0cd19137e2179]

/-- The fractional parts of the cube roots of the first eighty primes, in units of `2 ^ -64`. -/
def constants : List Nat :=
  [
    0x428a2f98d728ae22, 0x7137449123ef65cd, 0xb5c0fbcfec4d3b2f, 0xe9b5dba58189dbbc,
    0x3956c25bf348b538, 0x59f111f1b605d019, 0x923f82a4af194f9b, 0xab1c5ed5da6d8118,
    0xd807aa98a3030242, 0x12835b0145706fbe, 0x243185be4ee4b28c, 0x550c7dc3d5ffb4e2,
    0x72be5d74f27b896f, 0x80deb1fe3b1696b1, 0x9bdc06a725c71235, 0xc19bf174cf692694,
    0xe49b69c19ef14ad2, 0xefbe4786384f25e3, 0x0fc19dc68b8cd5b5, 0x240ca1cc77ac9c65,
    0x2de92c6f592b0275, 0x4a7484aa6ea6e483, 0x5cb0a9dcbd41fbd4, 0x76f988da831153b5,
    0x983e5152ee66dfab, 0xa831c66d2db43210, 0xb00327c898fb213f, 0xbf597fc7beef0ee4,
    0xc6e00bf33da88fc2, 0xd5a79147930aa725, 0x06ca6351e003826f, 0x142929670a0e6e70,
    0x27b70a8546d22ffc, 0x2e1b21385c26c926, 0x4d2c6dfc5ac42aed, 0x53380d139d95b3df,
    0x650a73548baf63de, 0x766a0abb3c77b2a8, 0x81c2c92e47edaee6, 0x92722c851482353b,
    0xa2bfe8a14cf10364, 0xa81a664bbc423001, 0xc24b8b70d0f89791, 0xc76c51a30654be30,
    0xd192e819d6ef5218, 0xd69906245565a910, 0xf40e35855771202a, 0x106aa07032bbd1b8,
    0x19a4c116b8d2d0c8, 0x1e376c085141ab53, 0x2748774cdf8eeb99, 0x34b0bcb5e19b48a8,
    0x391c0cb3c5c95a63, 0x4ed8aa4ae3418acb, 0x5b9cca4f7763e373, 0x682e6ff3d6b2b8a3,
    0x748f82ee5defb2fc, 0x78a5636f43172f60, 0x84c87814a1f0ab72, 0x8cc702081a6439ec,
    0x90befffa23631e28, 0xa4506cebde82bde9, 0xbef9a3f7b2c67915, 0xc67178f2e372532b,
    0xca273eceea26619c, 0xd186b8c721c0c207, 0xeada7dd6cde0eb1e, 0xf57d4f7fee6ed178,
    0x06f067aa72176fba, 0x0a637dc5a2c898a6, 0x113f9804bef90dae, 0x1b710b35131c471b,
    0x28db77f523047d84, 0x32caab7b40c72493, 0x3c9ebe0a15c9bebc, 0x431d67c49c100d4c,
    0x4cc5d4becb3e42b6, 0x597f299cfc657e2a, 0x5fcb6fab3ad6faec, 0x6c44198c4a475817]

variable {w : Nat}

/-- A constant cut to its upper `w` bits. -/
def cut (w : Nat) (n : Nat) : BitVec w :=
  BitVec.ofNat w (n >>> (64 - w))

/-- The exclusive or of three rotations. -/
def rotations (r : Nat × Nat × Nat) (x : BitVec w) : BitVec w :=
  x.rotateRight r.1 ^^^ x.rotateRight r.2.1 ^^^ x.rotateRight r.2.2

/-- The exclusive or of two rotations and a shift. -/
def rotationsShift (r : Nat × Nat × Nat) (x : BitVec w) : BitVec w :=
  x.rotateRight r.1 ^^^ x.rotateRight r.2.1 ^^^ (x >>> r.2.2)

/-- The number that bytes spell, most significant first. -/
def ofBytes (bytes : List UInt8) : Nat :=
  bytes.foldl (fun n b => 256 * n + b.toNat) 0

/-- The bytes of a number, most significant first. -/
def toBytes (width n : Nat) : List UInt8 :=
  (List.range width).map fun i => UInt8.ofNat (n >>> (8 * (width - 1 - i)))

/-- The message with a one bit, zeros, and its length in bits, so that it fills blocks of `2 * w`
bytes. -/
def pad (w : Nat) (message : List UInt8) : List UInt8 :=
  let block := 2 * w
  let used := (message.length + 1 + w / 4) % block
  message ++ 0x80 :: List.replicate ((block - used) % block) 0
    ++ toBytes (w / 4) (8 * message.length)

/-- The first `count` pieces of `size` items each. -/
def pieces {α : Type} (size : Nat) : Nat → List α → List (List α)
  | 0, _ => []
  | count + 1, l => l.take size :: pieces size count (l.drop size)

/-- The words of a block, extended to one for each round. -/
def schedule (p : Params w) (block : List UInt8) : Array (BitVec w) :=
  let words := (pieces (w / 8) 16 block).map fun b => BitVec.ofNat w (ofBytes b)
  (List.range (p.rounds - 16)).foldl
    (fun s t =>
      s.push (rotationsShift p.small1 (s.getD (t + 14) 0) + s.getD (t + 9) 0
        + rotationsShift p.small0 (s.getD (t + 1) 0) + s.getD t 0))
    words.toArray

/-- The state: eight words. -/
structure State (w : Nat) where
  /-- The first word. -/
  a : BitVec w
  /-- The second word. -/
  b : BitVec w
  /-- The third word. -/
  c : BitVec w
  /-- The fourth word. -/
  d : BitVec w
  /-- The fifth word. -/
  e : BitVec w
  /-- The sixth word. -/
  f : BitVec w
  /-- The seventh word. -/
  g : BitVec w
  /-- The eighth word. -/
  h : BitVec w

/-- One round, with its constant and its word of the block. -/
def State.round (p : Params w) (s : State w) (constant word : BitVec w) : State w :=
  let choice := (s.e &&& s.f) ^^^ (~~~s.e &&& s.g)
  let majority := (s.a &&& s.b) ^^^ (s.a &&& s.c) ^^^ (s.b &&& s.c)
  let t1 := s.h + rotations p.big1 s.e + choice + constant + word
  let t2 := rotations p.big0 s.a + majority
  ⟨t1 + t2, s.a, s.b, s.c, s.d + t1, s.e, s.f, s.g⟩

/-- The sums of the words of two states. -/
def State.add (s t : State w) : State w :=
  ⟨s.a + t.a, s.b + t.b, s.c + t.c, s.d + t.d, s.e + t.e, s.f + t.f, s.g + t.g, s.h + t.h⟩

/-- Folds one block into the state. -/
def State.absorb (p : Params w) (s : State w) (block : List UInt8) : State w :=
  let words := (schedule p block).toList
  let rounds := (constants.map (cut w)).zip words
  s.add (rounds.foldl (fun s r => s.round p r.1 r.2) s)

/-- The state before the first block. -/
def State.start (w : Nat) : State w :=
  let word (i : Nat) : BitVec w := cut w (Sha2.start.getD i 0)
  ⟨word 0, word 1, word 2, word 3, word 4, word 5, word 6, word 7⟩

/-- The words of a state as bytes. -/
def State.bytes (s : State w) : List UInt8 :=
  [s.a, s.b, s.c, s.d, s.e, s.f, s.g, s.h].flatMap fun x => toBytes (w / 8) x.toNat

/-- The digest of a message. -/
def digest (p : Params w) (message : List UInt8) : List UInt8 :=
  let padded := pad w message
  ((pieces (2 * w) (padded.length / (2 * w)) padded).foldl (State.absorb p) (State.start w)).bytes

/-- The SHA-256 digest. -/
def sha256 : List UInt8 → List UInt8 := digest narrow

/-- The SHA-512 digest. -/
def sha512 : List UInt8 → List UInt8 := digest wide

end DicePool.Sha2
