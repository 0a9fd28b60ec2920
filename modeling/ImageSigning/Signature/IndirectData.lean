import ImageSigning.Fault
import ImageSigning.Signature.Reading

/-!
# The content that binds an image's digest

What a signature signs is not the image but a small content that names the kind of data and holds the
digest with its algorithm. The description of the data is fixed: no flags, and a link whose text says
that it is obsolete.

* `bind`: the content for a digest.
* `check`: a content holds a digest exactly if algorithm and octets agree.
* `requireBinding`: nothing is signed over a content that holds another digest.
-/

namespace ImageSigning.Signature

open Der

/-- The fixed description of the data: no flags, and an obsolete link. -/
def obsoleteDescription : Bytes :=
  let text := (Bytes.ofAscii "<<<Obsolete>>>").flatMap fun x => [0, x]
  sequence [element 0x03 [0], explicit 0 (explicit 2 (element 0x80 text))]

/-- The content that binds a digest. -/
def bind (d : Digest) : Bytes :=
  sequence
    [sequence [identifier imageDataOid, obsoleteDescription],
      sequence [algorithmWithNull d.algorithm.oid, octetString d.octets]]

/-- The outcome of comparing a content with a digest. -/
inductive Binding where
  /-- The content cannot be read. -/
  | unreadable
  /-- The content binds another digest. -/
  | differs
  /-- The content binds the digest. -/
  | agrees
  deriving DecidableEq, Repr

/-- Compares the digest that a content binds with the given one. -/
def check (content : Bytes) (d : Digest) : Binding :=
  match BoundDigest.read? content with
  | none => .unreadable
  | some bound =>
    if bound.algorithm = d.algorithm.oid ∧ bound.octets = d.octets then .agrees else .differs

/-- Refuses a content that does not bind the digest. -/
def requireBinding (content : Bytes) (d : Digest) : Except Fault Unit :=
  match check content d with
  | .unreadable => .error (.defect .contentUnreadable)
  | .differs => .error (.failure (.envelope .digestDiffers))
  | .agrees => .ok ()

end ImageSigning.Signature
