import ImageSigning.Image.Headers

/-!
# The checksum of an image

The octets of an image are added up as numbers of four octets, a carry out of the top going back in
at the bottom, and the sum is folded to two octets; the length is added at the end. The number that
the checksum field lies in is left out, so that the sum does not depend on it where the field is
aligned.

* `checksum`: of an image whose headers can be read.
-/

namespace ImageSigning.Checksum

/-- Puts a record back at its place. What lies past the end is appended. -/
def putBack (data : Bytes) (r : Record) : Bytes :=
  data.take r.offset ++ r.octets ++ data.drop (r.offset + r.octets.length)

/-- The numbers of four octets, the last one filled up with zeros. -/
def words : Bytes → List Nat
  | [] => []
  | [a] => [Bytes.toNatLE [a]]
  | [a, b] => [Bytes.toNatLE [a, b]]
  | [a, b, c] => [Bytes.toNatLE [a, b, c]]
  | a :: b :: c :: d :: r => Bytes.toNatLE [a, b, c, d] :: words r

/-- The sum of two numbers of four octets with the carry added back in. -/
def addCarry (sum word : Nat) : Nat :=
  let total := sum + word
  if 0x100000000 ≤ total then total % 0x100000000 + total / 0x100000000 else total

/-- The sum folded to two octets. -/
def fold (sum : Nat) : Nat :=
  let once := sum % 0x10000 + sum / 0x10000
  (once + once / 0x10000) % 0x10000

/-- The sum of the numbers but the one with index `skipped`. -/
def sum (skipped : Nat) (data : Bytes) : Nat := (words data |>.eraseIdx skipped).foldl addCarry 0

/-- The checksum of an image with the given headers. -/
def ofHeaders (data : Bytes) (h : Headers) : Nat :=
  let whole := h.records.foldl putBack data
  fold (sum (h.checksum / 4) whole) + whole.length

/-- The checksum of an image. -/
def checksum (data : Bytes) : Except HeaderProblem Nat := (Headers.read data).map (ofHeaders data)

end ImageSigning.Checksum
