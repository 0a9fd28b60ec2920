import ImageSigning.SystemError

/-!
# Problems of building a signature

A signature is not built when the certificate or the key is of the wrong kind, when the key refuses
to sign, or when the token tool fails; each problem has a short reason besides its words.
-/

namespace ImageSigning

/-- A problem of building a signature. -/
inductive EnvelopeProblem where
  | digestDiffers
  | publicKeyUnreadable (diagnosis : String)
  | unsupportedCertificateKey (kind : String)
  | unsupportedKey (kind : String)
  | unsupportedTokenKey (kind : String)
  | keyRejected (diagnosis : String)
  | toolNotRun (tool : String) (cause : SystemError)
  | toolFailed (tool mechanism complaint : String)
  | toolSilent (tool : String)
  deriving DecidableEq, Repr

namespace EnvelopeProblem

/-- The problem in short. -/
def reason : EnvelopeProblem → String
  | digestDiffers => "digest mismatch"
  | publicKeyUnreadable _ | unsupportedCertificateKey _ | unsupportedKey _ | unsupportedTokenKey _ =>
    "unsupported key type"
  | keyRejected _ => "signing failure"
  | toolNotRun _ _ | toolFailed _ _ _ | toolSilent _ => "engine failure"

/-- The problem in words. -/
def message : EnvelopeProblem → String
  | digestDiffers => "Encoded image digest differs from the computed digest"
  | publicKeyUnreadable diagnosis => s!"Cannot read certificate public key: {diagnosis}"
  | unsupportedCertificateKey kind => s!"Unsupported certificate key type for Authenticode: {kind}"
  | unsupportedKey kind => s!"Unsupported key type for Authenticode signing: {kind}"
  | unsupportedTokenKey kind => s!"Unsupported token key type for Authenticode signing: {kind}"
  | keyRejected diagnosis => s!"Signing primitive rejected the key: {diagnosis}"
  | toolNotRun tool cause => s!"Cannot run {tool}: {cause.text}"
  | toolFailed tool mechanism complaint =>
    s!"{tool} failed to sign with mechanism {mechanism}: {complaint}"
  | toolSilent tool => s!"{tool} produced no signature"

/-- The same problem with its diagnosis reworded. -/
def reword (f : String → String) : EnvelopeProblem → EnvelopeProblem
  | publicKeyUnreadable diagnosis => publicKeyUnreadable (f diagnosis)
  | keyRejected diagnosis => keyRejected (f diagnosis)
  | p => p

end EnvelopeProblem

end ImageSigning
