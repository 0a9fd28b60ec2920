import ImageSigning.Hash
import ImageSigning.Der.Element
import ImageSigning.Number.Modular

/-!
# RSA signatures

A message is signed by raising a padded block to the private exponent. The block names the hash
function and holds the digest; a run of filling octets takes it to the size of the modulus, and there
have to be at least eight of them.

* `length_of_padded?`: the block has the size that was asked for.
-/

namespace ImageSigning.Rsa

open Number

/-- The identifier of a hash function. -/
def hashOid : HashFunction → Oid
  | .sha1 => [1, 3, 14, 3, 2, 26]
  | .sha224 => [2, 16, 840, 1, 101, 3, 4, 2, 4]
  | .sha256 => [2, 16, 840, 1, 101, 3, 4, 2, 1]
  | .sha384 => [2, 16, 840, 1, 101, 3, 4, 2, 2]
  | .sha512 => [2, 16, 840, 1, 101, 3, 4, 2, 3]

/-- The digest of a message with the name of its function. -/
def digestInfo (f : HashFunction) (message : Bytes) : Bytes :=
  Der.sequence
    [Der.sequence [Der.element 0x06 ((hashOid f).encode?.getD []), Der.null],
      Der.octetString (f.run message)]

/-- The padded block in `size` octets, if it fits. -/
def padded? (f : HashFunction) (message : Bytes) (size : Nat) : Option Bytes :=
  let info := digestInfo f message
  if size < info.length + 11 then none
  else some (0 :: 1 :: (List.replicate (size - info.length - 3) 0xff ++ 0 :: info))

/-- A padded digest has the size that is asked for. -/
theorem length_of_padded? {f : HashFunction} {message b : Bytes} {size : Nat}
    (h : padded? f message size = some b) : b.length = size := by
  simp only [padded?] at h
  split at h
  · simp at h
  · obtain rfl := Option.some.inj h
    simp
    omega

/-- Octets of a modulus. -/
def width (n : Nat) : Nat := Bytes.octetCount n

/-- The signature over a message, if the modulus `n` has room for the block. -/
def sign? (n d : Nat) (f : HashFunction) (message : Bytes) : Option Bytes :=
  (padded? f message (width n)).map fun block => Bytes.ofNat (width n) (powMod block.toNat d n)

/-- Whether the signature is one over the message. -/
def verify (n e : Nat) (f : HashFunction) (message signature : Bytes) : Bool :=
  match padded? f message (width n) with
  | none => false
  | some block =>
    signature.length = width n && decide (signature.toNat < n)
      && powMod signature.toNat e n = block.toNat

end ImageSigning.Rsa
