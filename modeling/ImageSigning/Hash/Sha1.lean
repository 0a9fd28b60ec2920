import ImageSigning.Bytes

/-!
# SHA-1

Kept for signing keys asked to sign over it; no image is digested with it. The message is padded as
for the 32-bit members of the younger family, and a block's schedule is a window of sixteen words
that moves one word a round.

* `length_sha1`: a digest has twenty octets.
-/

namespace ImageSigning.Hash

namespace Sha1

/-- The five chaining words. -/
structure Chain where
  a : UInt32
  b : UInt32
  c : UInt32
  d : UInt32
  e : UInt32

/-- Rotation to the left by `n` places, `n` between 1 and 31. -/
def rotateLeft (x n : UInt32) : UInt32 := (x <<< n) ||| (x >>> (32 - n))

/-- The mixing function and the constant of a round, by the quarter that the round lies in. -/
def mix (round : Nat) (b c d : UInt32) : UInt32 × UInt32 :=
  if round < 20 then ((b &&& c) ||| (~~~ b &&& d), 0x5a827999)
  else if round < 40 then (b ^^^ c ^^^ d, 0x6ed9eba1)
  else if round < 60 then ((b &&& c) ||| (b &&& d) ||| (c &&& d), 0x8f1bbcdc)
  else (b ^^^ c ^^^ d, 0xca62c1d6)

/-- The last `left` of the eighty rounds, the schedule window moving along. -/
def rounds : Nat → List UInt32 → Chain → Chain
  | left + 1, w :: window, s =>
    let (f, k) := mix (79 - left) s.b s.c s.d
    let next := rotateLeft (window.getD 12 0 ^^^ window.getD 7 0 ^^^ window.getD 1 0 ^^^ w) 1
    rounds left (window ++ [next])
      ⟨rotateLeft s.a 5 + f + s.e + k + w, s.a, rotateLeft s.b 30, s.c, s.d⟩
  | _, _, s => s

/-- The first `n` words of a block. -/
def words : Nat → Bytes → List UInt32
  | 0, _ => []
  | n + 1, b => UInt32.ofNat (Bytes.toNat (b.take 4)) :: words n (b.drop 4)

/-- The chaining state after the first `n` blocks. -/
def absorb : Nat → Bytes → Chain → Chain
  | 0, _, s => s
  | n + 1, b, s =>
    let t := rounds 80 (words 16 (b.take 64)) s
    absorb n (b.drop 64) ⟨s.a + t.a, s.b + t.b, s.c + t.c, s.d + t.d, s.e + t.e⟩

/-- The message with a one bit, zeros and its length in bits, so that the whole is a number of
blocks. -/
def pad (message : Bytes) : Bytes :=
  message ++ 0x80 :: Bytes.zeros ((64 - (message.length + 9) % 64) % 64)
    ++ Bytes.ofNat 8 (8 * message.length)

end Sha1

/-- SHA-1. -/
def sha1 (message : Bytes) : Bytes :=
  let padded := Sha1.pad message
  let s := Sha1.absorb (padded.length / 64) padded
    ⟨0x67452301, 0xefcdab89, 0x98badcfe, 0x10325476, 0xc3d2e1f0⟩
  [s.a, s.b, s.c, s.d, s.e].flatMap fun word => Bytes.ofNat 4 word.toNat

/-- A digest by this function has twenty octets. -/
@[simp] theorem length_sha1 (message : Bytes) : (sha1 message).length = 20 := by
  simp [sha1]

end ImageSigning.Hash
