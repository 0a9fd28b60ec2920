import ImageSigning.Configuration
import ImageSigning.Output
import ImageSigning.Signature.Building

/-!
# Signing an image

A run signs one image as its configuration says. The configuration is checked before any file is
opened; the image is loaded before the key is asked for; and nothing is written until the signature is
complete. The identity is there from the digest to the end of writing.

* `Configuration.sign`: the run.
-/

namespace ImageSigning

/-- What a run made. -/
structure SigningResult where
  /-- The file that was written. -/
  output : Value
  /-- The number of the new signature. -/
  index : Nat
  /-- How many signatures the image has now. -/
  count : Nat
  /-- The digest that was signed. -/
  digest : Digest
  /-- The new signature. -/
  signature : Signature
  /-- Whether the signature was written by itself, as the configuration says it. -/
  detached : Value
  deriving Repr

namespace Configuration

/-- Who provides the key. -/
def origin (c : Configuration) : Except Defect KeyOrigin :=
  c.engineName.map fun
    | none => .files
    | some name => .engine name c.engineOptions

/-- What the identity is made from. -/
def identityRequest (c : Configuration) : Except Fault IdentityRequest := do
  let format ← c.keyFormat
  let origin ← c.origin.mapError .defect
  return ⟨c.get .key, format, c.get .certificate, origin, none⟩

/-- A signature over a digest by an identity, with the further certificates that are asked for. -/
def signatureOver (c : Configuration) (digest : Digest) (i : Identity) : Run Signature := do
  let signature ← Signature.build i digest
  if (c.get .chain).isSet then signature.augment (← Run.text (c.get .chain))
  else return signature

/-- The image with a signature added, after it was written out. -/
def attach (c : Configuration) (image : Image) (signature : Signature) : Run Image := do
  let x := StoredSignature.decoded signature
  image.signatures.report x
  let signed := image.append x
  discard <| signed.writeTo (c.get .detached).isSet c.outputPath
  return signed

/-- Signs the image that the configuration names. -/
def sign (c : Configuration) : Run SigningResult := do
  Run.lift id c.validate
  let algorithm ← Run.lift id c.digestAlgorithm
  let image ← Image.load (c.get .image).display
  let count := image.signatures.count
  if count ≠ 0 then Run.tell (.alreadySigned image.path count)
  let request ← Run.lift id c.identityRequest
  let (digest, signature, signed) ← Identity.use request fun i => do
    let digest ← image.digest algorithm
    Run.tell (.digestChosen algorithm.name digest.toHex)
    let signature ← c.signatureOver digest i
    return (digest, signature, ← c.attach image signature)
  return ⟨c.outputPath, count, signed.signatures.count, digest, signature, c.get .detached⟩

end Configuration

end ImageSigning
