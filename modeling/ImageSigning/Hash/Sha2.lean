import ImageSigning.Bytes

/-!
# The SHA-2 family

The four functions share one compression loop and differ in word size, rotation distances, round
constants and starting state. `Family` holds what depends on the word size; a function is a family
with a starting state and the number of octets that it keeps.

A block's message schedule is a window of sixteen words that moves one word a round: the head is
consumed and the word that the recurrence gives joins the end.

* `length_sha256` and its siblings: a digest has its function's number of octets.
-/

namespace ImageSigning.Hash

/-- What the two word sizes of SHA-2 do differently. -/
structure Family (α : Type) where
  /-- Octets of one word. -/
  wordOctets : Nat
  /-- A word from its octets, most significant first. -/
  read : Bytes → α
  /-- The octets of a word, most significant first. -/
  write : α → Bytes
  /-- The mixing function applied to the first working word. -/
  bigSigma0 : α → α
  /-- The mixing function applied to the fifth working word. -/
  bigSigma1 : α → α
  /-- The schedule's function of the word fifteen steps back. -/
  smallSigma0 : α → α
  /-- The schedule's function of the word two steps back. -/
  smallSigma1 : α → α
  /-- One constant per round. -/
  constants : List α

/-- The eight chaining words. -/
structure Chain (α : Type) where
  a : α
  b : α
  c : α
  d : α
  e : α
  f : α
  g : α
  h : α

section Compression

variable {α : Type} [Add α] [AndOp α] [XorOp α] [Complement α]

/-- Word by word sum, which carries a block's result into the chaining state. -/
def Chain.add (s t : Chain α) : Chain α :=
  ⟨s.a + t.a, s.b + t.b, s.c + t.c, s.d + t.d, s.e + t.e, s.f + t.f, s.g + t.g, s.h + t.h⟩

/-- One round with constant `k` and schedule word `w`. -/
@[specialize] def Family.round (F : Family α) (s : Chain α) (k w : α) : Chain α :=
  let choice := (s.e &&& s.f) ^^^ (~~~ s.e &&& s.g)
  let majority := (s.a &&& s.b) ^^^ (s.a &&& s.c) ^^^ (s.b &&& s.c)
  let t1 := s.h + F.bigSigma1 s.e + choice + k + w
  let t2 := F.bigSigma0 s.a + majority
  ⟨t1 + t2, s.a, s.b, s.c, s.d + t1, s.e, s.f, s.g⟩

/-- The word that follows a window of sixteen schedule words. -/
@[specialize] def Family.nextWord (F : Family α) (window : List α) (zero : α) : α :=
  F.smallSigma1 (window.getD 14 zero) + window.getD 9 zero
    + F.smallSigma0 (window.getD 1 zero) + window.getD 0 zero

/-- One round for each constant, the schedule window moving along. -/
@[specialize] def Family.rounds (F : Family α) : List α → List α → Chain α → Chain α
  | k :: constants, w :: window, s =>
    F.rounds constants (window ++ [F.nextWord (w :: window) w]) (F.round s k w)
  | _, _, s => s

/-- The first `n` words of a block. -/
def Family.words (F : Family α) : Nat → Bytes → List α
  | 0, _ => []
  | n + 1, b => F.read (b.take F.wordOctets) :: F.words n (b.drop F.wordOctets)

/-- The chaining state after the first `n` blocks. -/
@[specialize] def Family.absorb (F : Family α) : Nat → Bytes → Chain α → Chain α
  | 0, _, s => s
  | n + 1, b, s =>
    let size := 16 * F.wordOctets
    F.absorb n (b.drop size) (s.add (F.rounds F.constants (F.words 16 (b.take size)) s))

end Compression

/-- The message with a one bit, zeros, and its length in bits in two words, so that the whole is a
number of blocks. -/
def Family.pad {α : Type} (F : Family α) (message : Bytes) : Bytes :=
  let size := 16 * F.wordOctets
  let used := message.length + 1 + 2 * F.wordOctets
  message ++ 0x80 :: Bytes.zeros ((size - used % size) % size)
    ++ Bytes.ofNat (2 * F.wordOctets) (8 * message.length)

/-- The octets of the chaining words in order. -/
def Family.writeChain {α : Type} (F : Family α) (s : Chain α) : Bytes :=
  F.write s.a ++ F.write s.b ++ F.write s.c ++ F.write s.d ++ F.write s.e ++ F.write s.f
    ++ F.write s.g ++ F.write s.h

/-- The first `size` octets of the state reached from `start` over the padded message. -/
@[specialize] def Family.digest {α : Type} [Add α] [AndOp α] [XorOp α] [Complement α]
    (F : Family α) (start : Chain α) (size : Nat) (message : Bytes) : Bytes :=
  let padded := F.pad message
  (F.writeChain (F.absorb (padded.length / (16 * F.wordOctets)) padded start)).take size

/-! ### Words of 32 bits -/

/-- Rotation to the right by `n` places, `n` between 1 and 31. -/
def rotate32 (x n : UInt32) : UInt32 := (x >>> n) ||| (x <<< (32 - n))

/-- The constants and functions for words of 32 bits. -/
def family32 : Family UInt32 where
  wordOctets := 4
  read b := UInt32.ofNat b.toNat
  write x := Bytes.ofNat 4 x.toNat
  bigSigma0 x := rotate32 x 2 ^^^ rotate32 x 13 ^^^ rotate32 x 22
  bigSigma1 x := rotate32 x 6 ^^^ rotate32 x 11 ^^^ rotate32 x 25
  smallSigma0 x := rotate32 x 7 ^^^ rotate32 x 18 ^^^ (x >>> 3)
  smallSigma1 x := rotate32 x 17 ^^^ rotate32 x 19 ^^^ (x >>> 10)
  constants := [
  0x428a2f98, 0x71374491, 0xb5c0fbcf, 0xe9b5dba5, 0x3956c25b, 0x59f111f1,
  0x923f82a4, 0xab1c5ed5, 0xd807aa98, 0x12835b01, 0x243185be, 0x550c7dc3,
  0x72be5d74, 0x80deb1fe, 0x9bdc06a7, 0xc19bf174, 0xe49b69c1, 0xefbe4786,
  0x0fc19dc6, 0x240ca1cc, 0x2de92c6f, 0x4a7484aa, 0x5cb0a9dc, 0x76f988da,
  0x983e5152, 0xa831c66d, 0xb00327c8, 0xbf597fc7, 0xc6e00bf3, 0xd5a79147,
  0x06ca6351, 0x14292967, 0x27b70a85, 0x2e1b2138, 0x4d2c6dfc, 0x53380d13,
  0x650a7354, 0x766a0abb, 0x81c2c92e, 0x92722c85, 0xa2bfe8a1, 0xa81a664b,
  0xc24b8b70, 0xc76c51a3, 0xd192e819, 0xd6990624, 0xf40e3585, 0x106aa070,
  0x19a4c116, 0x1e376c08, 0x2748774c, 0x34b0bcb5, 0x391c0cb3, 0x4ed8aa4a,
  0x5b9cca4f, 0x682e6ff3, 0x748f82ee, 0x78a5636f, 0x84c87814, 0x8cc70208,
  0x90befffa, 0xa4506ceb, 0xbef9a3f7, 0xc67178f2]

/-- The starting state of the function with 32 octets of output. -/
def start256 : Chain UInt32 :=
  ⟨0x6a09e667, 0xbb67ae85, 0x3c6ef372, 0xa54ff53a,
  0x510e527f, 0x9b05688c, 0x1f83d9ab, 0x5be0cd19⟩

/-- The starting state of the function with 28 octets of output. -/
def start224 : Chain UInt32 :=
  ⟨0xc1059ed8, 0x367cd507, 0x3070dd17, 0xf70e5939,
  0xffc00b31, 0x68581511, 0x64f98fa7, 0xbefa4fa4⟩

/-! ### Words of 64 bits -/

/-- Rotation to the right by `n` places, `n` between 1 and 63. -/
def rotate64 (x n : UInt64) : UInt64 := (x >>> n) ||| (x <<< (64 - n))

/-- The constants and functions for words of 64 bits. -/
def family64 : Family UInt64 where
  wordOctets := 8
  read b := UInt64.ofNat b.toNat
  write x := Bytes.ofNat 8 x.toNat
  bigSigma0 x := rotate64 x 28 ^^^ rotate64 x 34 ^^^ rotate64 x 39
  bigSigma1 x := rotate64 x 14 ^^^ rotate64 x 18 ^^^ rotate64 x 41
  smallSigma0 x := rotate64 x 1 ^^^ rotate64 x 8 ^^^ (x >>> 7)
  smallSigma1 x := rotate64 x 19 ^^^ rotate64 x 61 ^^^ (x >>> 6)
  constants := [
  0x428a2f98d728ae22, 0x7137449123ef65cd, 0xb5c0fbcfec4d3b2f, 0xe9b5dba58189dbbc,
  0x3956c25bf348b538, 0x59f111f1b605d019, 0x923f82a4af194f9b, 0xab1c5ed5da6d8118,
  0xd807aa98a3030242, 0x12835b0145706fbe, 0x243185be4ee4b28c, 0x550c7dc3d5ffb4e2,
  0x72be5d74f27b896f, 0x80deb1fe3b1696b1, 0x9bdc06a725c71235, 0xc19bf174cf692694,
  0xe49b69c19ef14ad2, 0xefbe4786384f25e3, 0x0fc19dc68b8cd5b5, 0x240ca1cc77ac9c65,
  0x2de92c6f592b0275, 0x4a7484aa6ea6e483, 0x5cb0a9dcbd41fbd4, 0x76f988da831153b5,
  0x983e5152ee66dfab, 0xa831c66d2db43210, 0xb00327c898fb213f, 0xbf597fc7beef0ee4,
  0xc6e00bf33da88fc2, 0xd5a79147930aa725, 0x06ca6351e003826f, 0x142929670a0e6e70,
  0x27b70a8546d22ffc, 0x2e1b21385c26c926, 0x4d2c6dfc5ac42aed, 0x53380d139d95b3df,
  0x650a73548baf63de, 0x766a0abb3c77b2a8, 0x81c2c92e47edaee6, 0x92722c851482353b,
  0xa2bfe8a14cf10364, 0xa81a664bbc423001, 0xc24b8b70d0f89791, 0xc76c51a30654be30,
  0xd192e819d6ef5218, 0xd69906245565a910, 0xf40e35855771202a, 0x106aa07032bbd1b8,
  0x19a4c116b8d2d0c8, 0x1e376c085141ab53, 0x2748774cdf8eeb99, 0x34b0bcb5e19b48a8,
  0x391c0cb3c5c95a63, 0x4ed8aa4ae3418acb, 0x5b9cca4f7763e373, 0x682e6ff3d6b2b8a3,
  0x748f82ee5defb2fc, 0x78a5636f43172f60, 0x84c87814a1f0ab72, 0x8cc702081a6439ec,
  0x90befffa23631e28, 0xa4506cebde82bde9, 0xbef9a3f7b2c67915, 0xc67178f2e372532b,
  0xca273eceea26619c, 0xd186b8c721c0c207, 0xeada7dd6cde0eb1e, 0xf57d4f7fee6ed178,
  0x06f067aa72176fba, 0x0a637dc5a2c898a6, 0x113f9804bef90dae, 0x1b710b35131c471b,
  0x28db77f523047d84, 0x32caab7b40c72493, 0x3c9ebe0a15c9bebc, 0x431d67c49c100d4c,
  0x4cc5d4becb3e42b6, 0x597f299cfc657e2a, 0x5fcb6fab3ad6faec, 0x6c44198c4a475817]

/-- The starting state of the function with 64 octets of output. -/
def start512 : Chain UInt64 :=
  ⟨0x6a09e667f3bcc908, 0xbb67ae8584caa73b, 0x3c6ef372fe94f82b, 0xa54ff53a5f1d36f1,
  0x510e527fade682d1, 0x9b05688c2b3e6c1f, 0x1f83d9abfb41bd6b, 0x5be0cd19137e2179⟩

/-- The starting state of the function with 48 octets of output. -/
def start384 : Chain UInt64 :=
  ⟨0xcbbb9d5dc1059ed8, 0x629a292a367cd507, 0x9159015a3070dd17, 0x152fecd8f70e5939,
  0x67332667ffc00b31, 0x8eb44a8768581511, 0xdb0c2e0d64f98fa7, 0x47b5481dbefa4fa4⟩

/-- SHA-224. -/
def sha224 (message : Bytes) : Bytes := family32.digest start224 28 message

/-- SHA-256. -/
def sha256 (message : Bytes) : Bytes := family32.digest start256 32 message

/-- SHA-384. -/
def sha384 (message : Bytes) : Bytes := family64.digest start384 48 message

/-- SHA-512. -/
def sha512 (message : Bytes) : Bytes := family64.digest start512 64 message

/-- A digest of seven words of 32 bits has 28 octets. -/
@[simp] theorem length_sha224 (message : Bytes) : (sha224 message).length = 28 := by
  simp [sha224, Family.digest, Family.writeChain, family32]

/-- A digest of eight words of 32 bits has 32 octets. -/
@[simp] theorem length_sha256 (message : Bytes) : (sha256 message).length = 32 := by
  simp [sha256, Family.digest, Family.writeChain, family32]

/-- A digest of six words of 64 bits has 48 octets. -/
@[simp] theorem length_sha384 (message : Bytes) : (sha384 message).length = 48 := by
  simp [sha384, Family.digest, Family.writeChain, family64]

/-- A digest of eight words of 64 bits has 64 octets. -/
@[simp] theorem length_sha512 (message : Bytes) : (sha512 message).length = 64 := by
  simp [sha512, Family.digest, Family.writeChain, family64]

end ImageSigning.Hash
