import ImageSigning.Certificate
import ImageSigning.Der.Header
import ImageSigning.Signature.Identifiers
import ImageSigning.Signature.IndirectData
import ImageSigning.Signature.Problem

/-!
# Signatures

A signature binds the digest of an image to a certificate. It can be written from its parts alone;
one that was read keeps the octets that it was read from, so that it goes back into an image
unchanged. Two signatures are the same if their parts are, whatever octets they keep.

* `Signature.encode`: the octets of the parts.
* `Signature.decode`: the signature in the leading element of octets; what follows is left out.
-/

namespace ImageSigning

open Der Signature

/-- A signature. -/
structure Signature where
  /-- The digest of the image. -/
  digest : Digest
  /-- The certificate of the signer. -/
  signer : Certificate
  /-- What the key produced. -/
  value : Bytes
  /-- The algorithm of the key. -/
  algorithm : Oid
  /-- The content that binds the digest. -/
  content : Bytes
  /-- The attributes that were signed with the content. -/
  attributes : List Bytes
  /-- Further certificates. -/
  others : List Certificate
  /-- The type of the content. -/
  contentType : Oid
  /-- The octets of the signature. -/
  der : Bytes
  deriving DecidableEq, Repr

namespace Signature

/-- The certificates: the signer's first. -/
def certificates (s : Signature) : List Certificate := s.signer :: s.others

/-- Whether two signatures have the same parts. -/
def sameParts (s t : Signature) : Bool := { s with der := [] } = { t with der := [] }

/-- A typed content. -/
def contentInfo (type : Oid) (content : Bytes) : Bytes :=
  sequence [identifier type, explicit 0 content]

/-- The signer's part: whose key signed what, and the outcome. -/
def signerInfo (s : Signature) : Bytes :=
  let attributes := if s.attributes.isEmpty then [] else [embeddedForm s.attributes]
  let algorithm :=
    if s.algorithm = rsaOid then algorithmWithNull s.algorithm else bareAlgorithm s.algorithm
  sequence <|
    [integer 1, sequence [s.signer.issuer.whole, integer s.signer.serial],
      algorithmWithNull s.digest.algorithm.oid] ++ attributes ++ [algorithm, octetString s.value]

/-- The signed data. -/
def signedData (s : Signature) : Bytes :=
  sequence
    [integer 1, setOf 0x31 [algorithmWithNull s.digest.algorithm.oid],
      contentInfo s.contentType s.content, setOf 0xa0 (s.certificates.map (·.der)),
      setOf 0x31 [signerInfo s]]

/-- The octets of the parts. -/
def encode (s : Signature) : Bytes := contentInfo signedDataOid (signedData s)

/-- The signature with the octets of its parts, unless the signer's issuer has an unreadable name. -/
def encoded (s : Signature) : Except NameProblem Signature := do
  let _ ← s.signer.issuer.read
  return { s with der := s.encode }

/-- Certificates from their octets. -/
def readCertificates (encodings : List Bytes) : Except SignatureProblem (List Certificate) :=
  encodings.mapM fun der =>
    (Certificate.ofDer der).mapError fun
      | .malformed => .certificateMalformed "a certificate cannot be read"
      | .unknownVersion => .certificateVersion

/-- The first certificate with the given serial number and issuer. -/
def findSigner (serial : Int) (issuer : Bytes) :
    List Certificate → Except SignatureProblem Certificate
  | [] => .error (.signerAbsent serial)
  | c :: r =>
    if c.serial = serial then do
      let _ ← c.issuer.read.mapError .issuer
      if c.issuer.whole = issuer then return c
      findSigner serial issuer r
    else findSigner serial issuer r

/-- A part that has to be there. -/
def require {α : Type} (what : String) : Option α → Except SignatureProblem α
  | some a => .ok a
  | none => .error (.malformed what)

/-- The signature in the leading element of octets. -/
def decode (b : Bytes) : Except SignatureProblem Signature := do
  let (outer, der, _) ← require "no typed content" (ContentInfo.read? b)
  if outer.contentType ≠ signedDataOid then throw (.notSignedData outer.contentType)
  let data ← require "no signed data" (outer.content.bind SignedData.read?)
  let content ← require "no content" data.contentInfo.content
  let bound ← require "no bound digest" (BoundDigest.read? content)
  let algorithm ← match DigestAlgorithm.ofOid? bound.algorithm with
    | some a => pure a
    | none => throw (.unsupportedDigest bound.algorithm)
  let digest ← (Digest.ofOctets? algorithm bound.octets).mapError .digest
  let certificates ← readCertificates data.certificates
  let info ← require "no signer" data.signers.head?
  let signer ← findSigner info.serial info.issuer certificates
  return {
    digest
    signer
    value := info.signature
    algorithm := info.signatureAlgorithm
    content
    attributes := info.attributes.getD []
    others := certificates.erase signer
    contentType := data.contentInfo.contentType
    der }

end Signature

/-- A signature that an image carries: one that was read, or octets that were not, with the reason. -/
inductive StoredSignature where
  | decoded (s : Signature)
  | undecoded (der : Bytes) (reason : String)
  deriving DecidableEq, Repr

namespace StoredSignature

/-- The octets that go into the image. -/
def der : StoredSignature → Bytes
  | decoded s => s.der
  | undecoded b _ => b

/-- Whether two signatures are the same, whatever octets the decoded ones keep and whatever the
reasons are. -/
def same : StoredSignature → StoredSignature → Bool
  | decoded s, decoded t => s.sameParts t
  | undecoded b _, undecoded c _ => b = c
  | _, _ => false

/-- The content of a table entry that is kept as it is: up to the end of its leading element, or all
of it if that does not fit. -/
def keep (content : Bytes) (reason : String) : StoredSignature :=
  match elementLength? content with
  | some n => undecoded (content.take n) reason
  | none => undecoded content reason

end StoredSignature

end ImageSigning
