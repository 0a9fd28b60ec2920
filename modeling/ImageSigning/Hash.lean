import ImageSigning.Hash.Sha1
import ImageSigning.Hash.Sha2

/-!
# Hash functions

The functions that a signing key can be asked to sign over. Images themselves are digested with
three of them, see `ImageSigning.Digest`.

* `length_run`: the result has the function's size, whatever the message.
* `keyed`: a function keyed by octets. The message is hashed behind an inner pad, the result behind an
  outer one, and both pads are the key combined with a constant octet up to the block size.
-/

namespace ImageSigning

/-- A hash function. -/
inductive HashFunction where
  | sha1
  | sha224
  | sha256
  | sha384
  | sha512
  deriving DecidableEq, Repr

namespace HashFunction

/-- The usual name in lower case. -/
def name : HashFunction → String
  | sha1 => "sha1"
  | sha224 => "sha224"
  | sha256 => "sha256"
  | sha384 => "sha384"
  | sha512 => "sha512"

/-- Octets of a digest. -/
def size : HashFunction → Nat
  | sha1 => 20
  | sha224 => 28
  | sha256 => 32
  | sha384 => 48
  | sha512 => 64

/-- Octets that the function takes in at a time. -/
def blockSize : HashFunction → Nat
  | sha1 | sha224 | sha256 => 64
  | sha384 | sha512 => 128

/-- The digest of a message. -/
def run : HashFunction → Bytes → Bytes
  | sha1 => Hash.sha1
  | sha224 => Hash.sha224
  | sha256 => Hash.sha256
  | sha384 => Hash.sha384
  | sha512 => Hash.sha512

/-- A digest has the size of its function. -/
@[simp] theorem length_run (f : HashFunction) (message : Bytes) :
    (f.run message).length = f.size := by
  cases f <;> simp [run, size]

/-- The function of a lower-case name. -/
def ofName? (s : String) : Option HashFunction :=
  [sha1, sha224, sha256, sha384, sha512].find? (·.name = s)

/-- The key filled up with zeros to one block; a longer key is hashed first. -/
def blockKey (f : HashFunction) (key : Bytes) : Bytes :=
  let key := if key.length > f.blockSize then f.run key else key
  key ++ Bytes.zeros (f.blockSize - key.length)

/-- The keyed hash of a message. -/
def keyed (f : HashFunction) (key message : Bytes) : Bytes :=
  let k := f.blockKey key
  f.run (k.map (· ^^^ 0x5c) ++ f.run (k.map (· ^^^ 0x36) ++ message))

/-- A keyed digest has the size of its function. -/
@[simp] theorem length_keyed (f : HashFunction) (key message : Bytes) :
    (f.keyed key message).length = f.size := by
  simp [keyed]

end HashFunction

end ImageSigning
