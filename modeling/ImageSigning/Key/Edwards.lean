import ImageSigning.Hash
import ImageSigning.Hash.Shake
import ImageSigning.Number.Modular
import ImageSigning.Oid

/-!
# Keys that are octets

Four kinds of key are given by octets alone: two for signing and two for agreement, one of each on a
smaller and on a larger curve. The public octets come from a multiple of the base point of a curve
`a·x² + y² = 1 + d·x²·y²`. The multiplier is the private octets, hashed first for signing, with the
bits at both ends fixed. A signing key writes the point's `y` and a bit of `x`; an agreement key
writes the coordinate of the point's image on the companion curve.
-/

namespace ImageSigning

open Number

/-- The kinds of key that are given by octets. -/
inductive OctetKey where
  | ed25519
  | ed448
  | x25519
  | x448
  deriving DecidableEq, Repr

namespace OctetKey

/-- Every kind. -/
def all : List OctetKey := [ed25519, ed448, x25519, x448]

/-- The usual name. -/
def name : OctetKey → String
  | ed25519 => "Ed25519"
  | ed448 => "Ed448"
  | x25519 => "X25519"
  | x448 => "X448"

/-- The identifier. -/
def oid : OctetKey → Oid
  | x25519 => [1, 3, 101, 110]
  | x448 => [1, 3, 101, 111]
  | ed25519 => [1, 3, 101, 112]
  | ed448 => [1, 3, 101, 113]

/-- Octets of a private and of a public key. -/
def size : OctetKey → Nat
  | ed25519 | x25519 => 32
  | ed448 => 57
  | x448 => 56

/-- Whether the key is on the larger curve. -/
def isLarge : OctetKey → Bool
  | ed25519 | x25519 => false
  | ed448 | x448 => true

/-- A curve `a·x² + y² = 1 + d·x²·y²` with a base point. -/
structure EdwardsCurve where
  /-- The field's prime. -/
  p : Nat
  /-- Coefficient of `x²`. -/
  a : Nat
  /-- Coefficient of `x²·y²`. -/
  d : Nat
  /-- First coordinate of the base point. -/
  gx : Nat
  /-- Second coordinate of the base point. -/
  gy : Nat

/-- The smaller curve. -/
def small : EdwardsCurve where
  p := Nat.pow 2 255 - 19
  a := Nat.pow 2 255 - 20
  d := 37095705934669439343138083508754565189542113879843219016388785533085940283555
  gx := 15112221349535400772501151409588531511454012693041857206046113283949847762202
  gy := 46316835694926478169428394003475163141307993866256225615783033603165251855960

/-- The larger curve. -/
def large : EdwardsCurve where
  p := Nat.pow 2 448 - Nat.pow 2 224 - 1
  a := 1
  d := Nat.pow 2 448 - Nat.pow 2 224 - 1 - 39081
  gx := 0x4f1970c66bed0ded221d15a622bf36da9e146570470f1767ea6de324a3d3a46412ae1af72ab66511433b80e18b00938e2626a82bc70cc05e
  gy := 0x693f46716eb6bc248876203756c9c7624bea73736ca3984087789c1e05a0c2d73ad3ff1ce67c39c4fdbd132c4ed7c8ad9808795bf230fa14

/-- A point as a fraction `(x / z, y / z)`. -/
structure Scaled where
  /-- Numerator of the first coordinate. -/
  x : Nat
  /-- Numerator of the second coordinate. -/
  y : Nat
  /-- Common denominator. -/
  z : Nat

/-- The sum of two points. -/
def EdwardsCurve.add (c : EdwardsCurve) (q r : Scaled) : Scaled :=
  let minus := fun u v : Nat => (u + (c.p - v % c.p)) % c.p
  let zz := q.z * r.z % c.p
  let b := zz * zz % c.p
  let xx := q.x * r.x % c.p
  let yy := q.y * r.y % c.p
  let e := c.d * xx % c.p * yy % c.p
  let f := minus b e
  let g := (b + e) % c.p
  let cross := minus ((q.x + q.y) * (r.x + r.y)) (xx + yy)
  ⟨zz * f % c.p * cross % c.p, zz * g % c.p * minus yy (c.a * xx) % c.p, f * g % c.p⟩

/-- `acc + k · q`, with `fuel` at least the number of binary digits of `k`. -/
def EdwardsCurve.multiplyFrom (c : EdwardsCurve) : Nat → Scaled → Nat → Scaled → Scaled
  | 0, acc, _, _ => acc
  | fuel + 1, acc, k, q =>
    if k = 0 then acc
    else c.multiplyFrom fuel (if k % 2 = 1 then c.add acc q else acc) (k / 2) (c.add q q)

/-- The affine coordinates of `k` times the base point. -/
def EdwardsCurve.multiplyBase (c : EdwardsCurve) (k : Nat) : Nat × Nat :=
  let q := c.multiplyFrom (k.log2 + 1) ⟨0, 1, 1⟩ k ⟨c.gx, c.gy, 1⟩
  let i := inverseMod q.z c.p
  (q.x * i % c.p, q.y * i % c.p)

/-- The multiplier on the smaller curve: below bit 255, bit 254 set, a multiple of eight. -/
def clampSmall (b : Bytes) : Nat :=
  let n := Bytes.toNatLE b % Nat.pow 2 254 + Nat.pow 2 254
  n - n % 8

/-- The multiplier on the larger curve: bit 447 set, a multiple of four. -/
def clampLarge (b : Bytes) : Nat :=
  let n := Bytes.toNatLE b % Nat.pow 2 447 + Nat.pow 2 447
  n - n % 4

/-- The public octets of private ones. -/
def publicOctets (kind : OctetKey) (secret : Bytes) : Bytes :=
  match kind with
  | ed25519 =>
    let (x, y) := small.multiplyBase (clampSmall ((Hash.sha512 secret).take 32))
    Bytes.ofNatLE 32 (y + x % 2 * Nat.pow 2 255)
  | ed448 =>
    let (x, y) := large.multiplyBase (clampLarge ((Hash.Shake.run 114 secret).take 56))
    Bytes.ofNatLE 57 (y + x % 2 * Nat.pow 2 455)
  | x25519 =>
    let (_, y) := small.multiplyBase (clampSmall secret)
    Bytes.ofNatLE 32 ((1 + y) * inverseMod (1 + small.p - y) small.p % small.p)
  | x448 =>
    let (x, y) := large.multiplyBase (clampLarge secret)
    Bytes.ofNatLE 56 (y * y * inverseMod (x * x % large.p) large.p % large.p)

end OctetKey

end ImageSigning
