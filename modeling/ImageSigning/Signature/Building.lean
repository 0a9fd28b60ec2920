import ImageSigning.Identity
import ImageSigning.Signature

/-!
# Building a signature

The digest of an image is bound into a content; the content's type and its own digest are attributes,
and those are what the key signs. What the key returns is checked with the certificate before it goes
into the signature. Further certificates are added afterwards; that leaves what was signed alone.

* `Signature.signContent`: a signature of a content that binds a digest.
* `Signature.build`: a signature by an identity over a digest.
* `Signature.augment`: the same signature with the certificates of a bundle added.
-/

namespace ImageSigning.Signature

open Der

/-- The algorithm of signatures by keys on curves. -/
def curveOid : DigestAlgorithm → Oid
  | .sha256 => [1, 2, 840, 10045, 4, 3, 2]
  | .sha384 => [1, 2, 840, 10045, 4, 3, 3]
  | .sha512 => [1, 2, 840, 10045, 4, 3, 4]

/-- What is wrong with a public key, in words. -/
def keyWording : PublicKeyProblem → String
  | .malformed => "the key is malformed"
  | .unsupported => "the key is of an unknown kind"

/-- The algorithm of signatures by the key of a certificate. -/
def algorithmFor (c : Certificate) (a : DigestAlgorithm) : Except EnvelopeProblem Oid :=
  match c.publicKey with
  | .error p => .error (.publicKeyUnreadable (keyWording p))
  | .ok (.rsa _ _) => .ok rsaOid
  | .ok (.curve _ _) => .ok (curveOid a)
  | .ok key => .error (.unsupportedCertificateKey key.kind)

/-- The attributes that are signed with a content. -/
def attributesFor (a : DigestAlgorithm) (content : Bytes) : List Bytes :=
  ordered
    [attributeElement (identifier contentTypeOid) (identifier indirectDataOid),
      attributeElement (identifier programInfoOid) (sequence []),
      attributeElement (identifier messageDigestOid)
        (octetString (a.hash.run ((content? content).getD [])))]

/-- What a key does that does not sign as it should, as a failure; other defects stay. -/
def rejected : Fault → Fault
  | .defect .keyRefused => .failure (.envelope (.keyRejected "the key refuses to sign"))
  | .defect .nullCharacter => .failure (.envelope (.keyRejected "an argument cannot be passed on"))
  | f => f

/-- Whether a signature over a message is one by the key of a certificate. -/
def isBy (c : Certificate) (a : DigestAlgorithm) (message signature : Bytes) : Bool :=
  match c.publicKey with
  | .ok key => key.verify a.hash message signature
  | .error _ => false

/-- The signature with the octets of its parts. It cannot be written if the signer's issuer has an
unreadable name or if there is more of it than a length can announce. -/
def written (s : Signature) : Run Signature := do
  let written ← Run.lift (fun p => .defect (.name p)) s.encoded
  if elementLimit ≤ written.der.length then Run.defect .elementTooLong
  return written

/-- The signature of a content that binds a digest, by an identity. -/
def signContent (i : Identity) (d : Digest) (algorithm : Oid) (content : Bytes) : Run Signature := do
  let c := i.certificate
  let a := d.algorithm
  let attributes := attributesFor a content
  let message := signedForm attributes
  let value ← tryCatch (i.key.sign a.hash message) fun e => throw (rejected e)
  if !isBy c a message value then Run.fail (.mismatch (← Run.subject c))
  let parts : Signature := ⟨d, c, value, algorithm, content, attributes, [], indirectDataOid, []⟩
  let signature ← parts.written
  Run.tell (.signatureBuilt a.name (← i.subject) signature.der.length)
  return signature

/-- A signature by an identity over a digest. -/
def build (i : Identity) (d : Digest) : Run Signature := do
  let algorithm ← Run.lift (fun p => .failure (.envelope p)) (algorithmFor i.certificate d.algorithm)
  let content := bind d
  Run.lift id (requireBinding content d)
  signContent i d algorithm content

/-- The signature with the certificates of a bundle added after those that it has. -/
def augment (s : Signature) (path : String) : Run Signature := do
  let chain ← Run.lift id (InputFile.bundle (← get).files path)
  if chain.isEmpty then Run.tell (.chainEmpty path)
  let augmented ← ({ s with others := s.others ++ chain } : Signature).written
  Run.tell (.chainAdded path chain.length)
  return augmented

end ImageSigning.Signature
