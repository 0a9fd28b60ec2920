import ImageSigning.Hash
import ImageSigning.Oid
import ImageSigning.Failure.Layout

/-!
# Image digests

An image is digested with one of three hash functions, each known by a name and an object identifier.
A `Digest` is octets tagged with the function that produced them, and has that function's size by
construction: octets from outside pass `ofOctets?` first.

* `ofName?_name`, `ofOid?_oid`: name and identifier determine the algorithm.
* `ofOctets?_octets`: the octets of a digest are accepted as that digest.
-/

namespace ImageSigning

/-- A hash function for images. -/
inductive DigestAlgorithm where
  | sha256
  | sha384
  | sha512
  deriving DecidableEq, Repr

namespace DigestAlgorithm

/-- Every algorithm, in the order in which they are offered. -/
def all : List DigestAlgorithm := [sha256, sha384, sha512]

/-- The hash function behind the algorithm. -/
def hash : DigestAlgorithm → HashFunction
  | sha256 => .sha256
  | sha384 => .sha384
  | sha512 => .sha512

/-- The algorithm's name. -/
def name (a : DigestAlgorithm) : String := a.hash.name

/-- Octets of a digest. -/
def size (a : DigestAlgorithm) : Nat := a.hash.size

/-- The algorithm's object identifier. -/
def oid : DigestAlgorithm → Oid
  | sha256 => [2, 16, 840, 1, 101, 3, 4, 2, 1]
  | sha384 => [2, 16, 840, 1, 101, 3, 4, 2, 2]
  | sha512 => [2, 16, 840, 1, 101, 3, 4, 2, 3]

/-- The algorithm with exactly this name. -/
def ofName? (s : String) : Option DigestAlgorithm := all.find? (·.name = s)

/-- The algorithm with this object identifier. -/
def ofOid? (oid : Oid) : Option DigestAlgorithm := all.find? (·.oid = oid)

/-- The algorithm whose identifier reads like this. -/
def ofOidText? (s : String) : Option DigestAlgorithm := all.find? (·.oid.toText = s)

/-- A digest algorithm is found again by its name. -/
theorem ofName?_name (a : DigestAlgorithm) : ofName? a.name = some a := by
  cases a <;> decide

/-- A digest algorithm is found again by its identifier. -/
theorem ofOid?_oid (a : DigestAlgorithm) : ofOid? a.oid = some a := by
  cases a <;> decide

end DigestAlgorithm

/-- A digest together with the algorithm that produced it. -/
structure Digest where
  /-- The algorithm. -/
  algorithm : DigestAlgorithm
  /-- What the algorithm produced. -/
  octets : Bytes
  /-- A digest has the size of its algorithm. -/
  length_octets : octets.length = algorithm.size
  deriving DecidableEq, Repr

namespace Digest

/-- The digest of a message. -/
def compute (a : DigestAlgorithm) (message : Bytes) : Digest where
  algorithm := a
  octets := a.hash.run message
  length_octets := HashFunction.length_run _ _

/-- Octets from outside as a digest, if they have the right number. -/
def ofOctets? (a : DigestAlgorithm) (octets : Bytes) : Except LayoutProblem Digest :=
  if h : octets.length = a.size then .ok ⟨a, octets, h⟩
  else .error (.digestLength a.name a.size octets.length)

/-- The octets in hexadecimal. -/
def toHex (d : Digest) : String := Hex.encode d.octets

/-- Octets of a digest are as many as its algorithm has, so they are a digest again. -/
theorem ofOctets?_octets (d : Digest) : ofOctets? d.algorithm d.octets = .ok d := by
  simp [ofOctets?, d.length_octets]

end Digest

end ImageSigning
