import ImageSigning.Digest

/-!
# What a digest covers

The digest of an image covers every octet but those that signing itself changes: the four of the
checksum field and the eight of the directory entry for the certificate table. The checksum has to
come first and both have to lie inside the image.

* `signableRegions`: the covered octets as three regions, in order.
* `signedContent`: the octets that are hashed.
-/

namespace ImageSigning

/-- Octets of the checksum field. -/
def checksumSize : Nat := 4

/-- Octets of a directory entry. -/
def directoryEntrySize : Nat := 8

/-- The regions, each from its first octet up to the one after its last, that a digest of an image of
`size` octets covers. -/
def signableRegions (size : Nat) (checksum entry : Int) :
    Except LayoutProblem (List (Nat × Nat)) :=
  if checksum < 0 ∨ entry < checksum + checksumSize then
    .error (.checksumNotBeforeEntry checksum entry)
  else if (size : Int) < entry + directoryEntrySize then
    .error (.entryOutsideImage entry size)
  else
    .ok [(0, checksum.toNat), (checksum.toNat + checksumSize, entry.toNat),
      (entry.toNat + directoryEntrySize, size)]

/-- The octets in the given regions, one region after the other. -/
def octetsIn (data : Bytes) (regions : List (Nat × Nat)) : Bytes :=
  regions.flatMap fun (start, stop) => data.slice start stop

/-- The octets that the digest of an image covers. -/
def signedContent (data : Bytes) (checksum entry : Int) : Except LayoutProblem Bytes :=
  (signableRegions data.length checksum entry).map (octetsIn data)

/-- The digest of an image. -/
def imageDigest (a : DigestAlgorithm) (data : Bytes) (checksum entry : Int) :
    Except LayoutProblem Digest :=
  (signedContent data checksum entry).map (Digest.compute a)

end ImageSigning
