import ImageSigning.Certificate
import ImageSigning.Pem

/-!
# Certificates in files

A file holds a certificate as octets or as text. It is taken for text where the beginning of a block
occurs anywhere in it; the first block with a certificate's label counts.
-/

namespace ImageSigning.Certificate

/-- Why a file is no certificate. -/
inductive EncodingProblem where
  | framing (problem : Pem.Problem)
  | noCertificateBlock
  | certificate (problem : CertificateProblem)
  deriving DecidableEq, Repr

/-- The problem in words. -/
def EncodingProblem.wording : EncodingProblem → String
  | framing p => "Unable to load PEM file: " ++ p.wording
  | noCertificateBlock => "Valid PEM but no certificate in it"
  | certificate .malformed => "malformed certificate"
  | certificate .unknownVersion => "unknown certificate version"

/-- The labels of certificates. -/
def labels : List String := ["CERTIFICATE", "X509 CERTIFICATE"]

/-- What text holds and octets, for a certificate, do not. -/
def textMark : Bytes := Bytes.ofAscii "-----BEGIN"

/-- The certificate in a series of blocks. -/
def ofPem (b : Bytes) : Except EncodingProblem Certificate := do
  let blocks ← (Pem.readAll b).mapError .framing
  match blocks.find? fun block => labels.contains block.label with
  | none => throw .noCertificateBlock
  | some block => (ofDer block.contents).mapError .certificate

/-- The certificate in a file. -/
def ofFile (b : Bytes) : Except EncodingProblem Certificate :=
  if Bytes.containsRun textMark b then ofPem b else (ofDer b).mapError .certificate

end ImageSigning.Certificate
