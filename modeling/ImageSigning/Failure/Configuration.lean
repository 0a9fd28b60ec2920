/-!
# Problems of the configuration

What can be wrong with the inputs of a run before any of them is opened: something required is
missing, a name is unknown, or the profile is not what a profile has to be. Every problem names the
option that it is about.
-/

namespace ImageSigning

/-- A problem of the configuration. -/
inductive ConfigurationProblem where
  | noImage
  | noCertificate
  | noKey
  | engineRequired
  | unknownEngine (name : String)
  | unknownKeyFormat (name : String)
  | unsupportedDigest (name : String)
  | profileAbsent (path : String)
  | profileUnreadable (path diagnosis : String)
  | profileNotMapping
  | tokenSectionNotMapping
  | unknownProfileKeys (keys : String)
  | unnamedKey (reference : String)
  deriving DecidableEq, Repr

namespace ConfigurationProblem

/-- The option that the problem is about. -/
def option : ConfigurationProblem → String
  | noImage => "image"
  | noCertificate => "cert"
  | noKey | unnamedKey _ => "key"
  | engineRequired | unknownEngine _ => "engine"
  | unknownKeyFormat _ => "keyform"
  | unsupportedDigest _ => "digest"
  | profileAbsent _ | profileUnreadable _ _ | profileNotMapping | unknownProfileKeys _ => "config"
  | tokenSectionNotMapping => "pkcs11"

/-- The problem in words. -/
def message : ConfigurationProblem → String
  | noImage => "No image specified"
  | noCertificate => "No certificate specified (with --cert)"
  | noKey => "No key specified (with --key)"
  | engineRequired => "Key format ENGINE requires an engine (--engine)"
  | unknownEngine name => s!"Unknown engine '{name}'. Supported engines: ['pkcs11']"
  | unknownKeyFormat name => s!"Unknown key format '{name}' (expected one of: PEM, DER, ENGINE)"
  | unsupportedDigest name =>
    s!"Unsupported digest '{name}' (expected one of: sha256, sha384, sha512)"
  | profileAbsent path => s!"Config file not found: {path}"
  | profileUnreadable path diagnosis => s!"Cannot load config file {path}: {diagnosis}"
  | profileNotMapping => "Signing profile must be a mapping"
  | tokenSectionNotMapping => "'pkcs11' profile section must be a mapping"
  | unknownProfileKeys keys => s!"Unknown profile keys: {keys}"
  | unnamedKey reference => s!"PKCS#11 key URI names no object or id: {reference}"

/-- The same problem with its diagnosis reworded. -/
def reword (f : String → String) : ConfigurationProblem → ConfigurationProblem
  | profileUnreadable path diagnosis => profileUnreadable path (f diagnosis)
  | p => p

end ConfigurationProblem

end ImageSigning
