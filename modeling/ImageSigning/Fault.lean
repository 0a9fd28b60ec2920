import ImageSigning.Digest
import ImageSigning.FileSystem
import ImageSigning.Key.Public
import ImageSigning.Signature.Problem
import ImageSigning.Yaml.Cursor
import ImageSigning.Failure

/-!
# Faults

An operation ends early in one of two ways. A failure is a problem that reports are written for. A
defect is a problem that nobody reports: a certificate, a name or a key that is odd in a way that no
check looks for, a setting of the wrong type, or an operation on something that does not have it.

* `Fault.failure`, `Fault.defect`: a run that ends early ends in exactly one of these.
-/

namespace ImageSigning

/-- A problem without a report. -/
inductive Defect where
  /-- A certificate that cannot be used. -/
  | certificate (problem : CertificateProblem)
  /-- A name that cannot be shown. -/
  | name (problem : NameProblem)
  /-- An element of more octets than a length can announce. -/
  | elementTooLong
  /-- A certificate with a public key that cannot be used. -/
  | publicKey (problem : PublicKeyProblem)
  /-- A private key of a kind that is not known. -/
  | unsupportedPrivateKey
  /-- A key that refuses to sign. -/
  | keyRefused
  /-- Octets that are no signature. -/
  | signature (problem : SignatureProblem)
  /-- A content in which no digest can be read. -/
  | contentUnreadable
  /-- A path that cannot even be looked for. -/
  | unreachable (e : SystemError)
  /-- A text that holds the character that ends texts for the operating system. -/
  | nullCharacter
  /-- A header field that lies outside the image or a number that does not fit it. -/
  | fieldMisplaced
  /-- An offset that no position can have. -/
  | offsetTooLarge
  /-- Octets that are no image. -/
  | notImage
  /-- Something that is no signature, with the name of its type. -/
  | notSignature (type : String)
  /-- A token key with neither identifier nor label. -/
  | keyUnnamed
  /-- A name that no digest algorithm has. -/
  | noSuchAlgorithm (name : String)
  /-- A value of the wrong type. -/
  | wrongType
  /-- A number that is too long to be written as text. -/
  | numberTooLong
  /-- An operation that a value does not have. -/
  | noSuchOperation
  /-- A file that is not text in the expected encoding. -/
  | notText
  /-- A scalar of a profile that is not what its tag says. -/
  | scalar (oddity : Yaml.Oddity)
  /-- What the block that used an identity raised. -/
  | bodyRaised
  deriving DecidableEq, Repr

/-- Why an operation ends early. -/
inductive Fault where
  | failure (f : Failure)
  | defect (d : Defect)
  deriving DecidableEq, Repr

/-- The digest algorithm that has exactly the given name. -/
def DigestAlgorithm.named (name : String) : Except Fault DigestAlgorithm :=
  match ofName? name with
  | some a => .ok a
  | none => .error (.defect (.noSuchAlgorithm name))

end ImageSigning
