import ImageSigning.Certificate
import ImageSigning.Failure.Layout

/-!
# Why octets are no signature

Reading a signature stops at the first of these problems. A certificate inside it may be of a version
that does not exist, and the name of its issuer may be unreadable; all other problems are problems of
the signature itself.
-/

namespace ImageSigning

/-- A problem of octets that are read as a signature. -/
inductive SignatureProblem where
  /-- The content is of another type. -/
  | notSignedData (type : Oid)
  /-- The image was digested with a function that is not used here. -/
  | unsupportedDigest (oid : Oid)
  /-- The structure is not that of a signature. -/
  | malformed (diagnosis : String)
  /-- The digest does not have the size of its function. -/
  | digest (problem : LayoutProblem)
  /-- A certificate is malformed. -/
  | certificateMalformed (diagnosis : String)
  /-- A certificate is of an unknown version. -/
  | certificateVersion
  /-- The issuer of a certificate has an unreadable name. -/
  | issuer (problem : NameProblem)
  /-- No certificate is the signer's. -/
  | signerAbsent (serial : Int)
  deriving DecidableEq, Repr

namespace SignatureProblem

/-- What is wrong with a name, in words. -/
def nameWording : NameProblem → String
  | .notText => "name holds octets that are not text"
  | .unknownType => "name holds a value of an unknown type"
  | .misplacedBits => "name holds a misplaced bit string"
  | .emptyGroup => "name holds an empty group"
  | .repeated => "name holds an attribute twice"

/-- The problem in words. -/
def message : SignatureProblem → String
  | notSignedData type => s!"Not a signedData structure: {type.toText}"
  | unsupportedDigest oid => s!"Unsupported digest algorithm OID: {oid.toText}"
  | malformed diagnosis => s!"Malformed signature structure: {diagnosis}"
  | digest problem => s!"Malformed signature structure: {problem.message}"
  | certificateMalformed diagnosis => diagnosis
  | certificateVersion => "unknown certificate version"
  | issuer problem => nameWording problem
  | signerAbsent serial => s!"Signer certificate (serial {Hex.ofInt serial}) not present in signature"

/-- Whether the problem means that the octets hold something else than a signature that is used here,
so that they are kept as they are; the other problems stop the reading of an image. -/
def isForeign : SignatureProblem → Bool
  | certificateVersion | issuer .misplacedBits => false
  | _ => true

end SignatureProblem

end ImageSigning
