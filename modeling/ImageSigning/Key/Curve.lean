import ImageSigning.Number.Modular
import ImageSigning.Oid

/-!
# Elliptic curves

A curve `y² = x³ + a·x + b` over a prime field, with a base point of prime order. Points are added in
coordinates `(x / z², y / z³)`, which need no division until the result is read off; `z = 0` stands
for the point at infinity.

* `Point.encode`, `Point.decode?`: the writings of a point. A writing with a coordinate outside the
  field, or of a point that is not on the curve, is refused.
-/

namespace ImageSigning

open Number

/-- A named curve. -/
structure Curve where
  /-- The curve's usual name. -/
  name : String
  /-- The curve's identifier. -/
  oid : Oid
  /-- The field's prime. -/
  p : Nat
  /-- Coefficient of `x`. -/
  a : Nat
  /-- Constant coefficient. -/
  b : Nat
  /-- First coordinate of the base point. -/
  gx : Nat
  /-- Second coordinate of the base point. -/
  gy : Nat
  /-- Order of the base point. -/
  n : Nat
  deriving DecidableEq, Repr

/-- A point other than the one at infinity. -/
structure Point where
  /-- First coordinate. -/
  x : Nat
  /-- Second coordinate. -/
  y : Nat
  deriving DecidableEq, Repr

namespace Curve

/-- Bits of the field. -/
def bits (c : Curve) : Nat := c.p.log2 + 1

/-- Octets of a coordinate. -/
def width (c : Curve) : Nat := Bytes.octetCount c.p

/-- The base point. -/
def base (c : Curve) : Point := ⟨c.gx, c.gy⟩

/-- The right-hand side of the equation. -/
def cubic (c : Curve) (x : Nat) : Nat := ((x * x + c.a) * x + c.b) % c.p

/-- Whether a point lies on the curve. -/
def contains (c : Curve) (q : Point) : Bool := q.y * q.y % c.p = c.cubic q.x

/-- A point in coordinates that need no division. -/
structure Projective where
  /-- `x · z²`. -/
  x : Nat
  /-- `y · z³`. -/
  y : Nat
  /-- The scale, zero at infinity. -/
  z : Nat

/-- A point with scale one. -/
def Projective.of (q : Point) : Projective := ⟨q.x, q.y, 1⟩

/-- The point at infinity. -/
def Projective.infinity : Projective := ⟨1, 1, 0⟩

/-- `u - v` modulo the prime, for reduced `v`. -/
def minus (c : Curve) (u v : Nat) : Nat := (u + (c.p - v)) % c.p

/-- Twice a point. -/
def double (c : Curve) (q : Projective) : Projective :=
  if q.z = 0 ∨ q.y = 0 then .infinity
  else
    let yy := q.y * q.y % c.p
    let s := 4 * q.x * yy % c.p
    let zz := q.z * q.z % c.p
    let m := (3 * q.x * q.x + c.a * (zz * zz % c.p)) % c.p
    let x := c.minus (m * m) (2 * s % c.p)
    ⟨x, c.minus (m * c.minus s x) (8 * (yy * yy % c.p) % c.p), 2 * q.y * q.z % c.p⟩

/-- The sum of two points. -/
def add (c : Curve) (q r : Projective) : Projective :=
  if q.z = 0 then r
  else if r.z = 0 then q
  else
    let qzz := q.z * q.z % c.p
    let rzz := r.z * r.z % c.p
    let u := q.x * rzz % c.p
    let v := r.x * qzz % c.p
    let s := q.y * (rzz * r.z % c.p) % c.p
    let t := r.y * (qzz * q.z % c.p) % c.p
    if u = v then if s = t then c.double q else .infinity
    else
      let h := c.minus v u
      let d := c.minus t s
      let hh := h * h % c.p
      let hhh := h * hh % c.p
      let w := u * hh % c.p
      let x := c.minus (d * d) ((hhh + 2 * w) % c.p)
      ⟨x, c.minus (d * c.minus w x) (s * hhh % c.p), h * q.z % c.p * r.z % c.p⟩

/-- `acc + k · q`, with `fuel` at least the number of binary digits of `k`. -/
def multiplyFrom (c : Curve) : Nat → Projective → Nat → Projective → Projective
  | 0, acc, _, _ => acc
  | fuel + 1, acc, k, q =>
    if k = 0 then acc
    else c.multiplyFrom fuel (if k % 2 = 1 then c.add acc q else acc) (k / 2) (c.double q)

/-- `k` times a point. -/
def multiply (c : Curve) (k : Nat) (q : Point) : Projective :=
  c.multiplyFrom (k.log2 + 1) .infinity k (.of q)

/-- The coordinates of a point, unless it is the one at infinity. -/
def read? (c : Curve) (q : Projective) : Option Point :=
  if q.z = 0 then none
  else
    let i := inverseMod q.z c.p
    let ii := i * i % c.p
    some ⟨q.x * ii % c.p, q.y * (ii * i % c.p) % c.p⟩

end Curve

namespace Point

/-- A point written with both coordinates. -/
def encode (c : Curve) (q : Point) : Bytes :=
  4 :: (Bytes.ofNat c.width q.x ++ Bytes.ofNat c.width q.y)

/-- The point with a given first coordinate whose second is odd or even as told. -/
def lift? (c : Curve) (x : Nat) (odd : Bool) : Option Point := do
  let y ← sqrtMod? (c.cubic x) c.p
  if (y % 2 = 1) = odd then some ⟨x, y⟩
  else if y = 0 then none
  else some ⟨x, c.p - y⟩

/-- The point with two given coordinates, if it lies on the curve. -/
def ofCoordinates? (c : Curve) (x y : Nat) : Option Point :=
  if x < c.p ∧ y < c.p ∧ c.contains ⟨x, y⟩ then some ⟨x, y⟩ else none

/-- The point that octets write: with both coordinates, with one and a sign, or with both and a sign.
The point at infinity is refused. -/
def decode? (c : Curve) : Bytes → Option Point
  | [] => none
  | form :: r =>
    let x := Bytes.toNat (r.take c.width)
    let y := Bytes.toNat (r.drop c.width)
    if form = 4 then
      if r.length = 2 * c.width then ofCoordinates? c x y else none
    else if form = 2 ∨ form = 3 then
      if r.length = c.width ∧ x < c.p then lift? c x (form = 3) else none
    else if form = 6 ∨ form = 7 then
      if r.length = 2 * c.width ∧ (y % 2 = 1) = (form = 7) then ofCoordinates? c x y else none
    else none

end Point

end ImageSigning
