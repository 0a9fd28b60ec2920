import ImageSigning.Key.Summary
import ImageSigning.SigningKey

/-!
# Signing identities

An identity is a private key together with the certificate of its public key. It is made from
settings, whose types are checked when they are used. It is there for the length of a block: the
provider of the key is made ready before, and shut down after the block or after the failure to load
what the identity needs.

* `Identity.use`, `Identity.useNamed`: run a block with an identity.
-/

namespace ImageSigning

/-- A private key with its certificate. -/
structure Identity where
  /-- The key. -/
  key : SigningKey
  /-- The certificate. -/
  certificate : Certificate
  /-- Where the key is. -/
  kind : ProviderKind
  /-- What the key was asked for by. -/
  source : String
  deriving DecidableEq, Repr

/-- Who provides a key. -/
inductive KeyOrigin where
  /-- Key files. -/
  | files
  /-- The engine with a name, with options. -/
  | engine (name : String) (options : List (String × Value))
  /-- A provider that is there already. -/
  | given (s : KeySource)

/-- What an identity is made from. -/
structure IdentityRequest where
  /-- The reference to the key. -/
  key : Value
  /-- The format of the reference. -/
  format : KeyFormat
  /-- The path of the certificate. -/
  certificate : Value
  /-- Who provides the key. -/
  origin : KeyOrigin
  /-- A password for the key. -/
  password : Option Bytes

namespace Identity

/-- The name of the certificate's subject. -/
def subject (i : Identity) : Run String := Run.subject i.certificate

/-- The provider of a key; only an engine understands the format of engines. -/
def provider (r : IdentityRequest) : Run KeySource := do
  match r.origin with
  | .files =>
    if r.format = .engine then Run.fail (.configuration .engineRequired)
    Provider.sourceOf (← Provider.create none [])
  | .engine name options => Provider.sourceOf (← Provider.create (some name) options)
  | .given s => return s

/-- Loads certificate and key. -/
def load (s : KeySource) (r : IdentityRequest) : Run Identity := do
  let path ← Run.text r.certificate
  let certificate ← Run.lift id (InputFile.certificate (← get).files path)
  let key ← s.loadKey r.key r.format certificate r.password
  let summary ← Run.lift .defect certificate.keySummary
  Run.tell (.identityOpened summary.subject summary.label s.name)
  return ⟨key, certificate, s.kind, r.key.display⟩

/-- Runs a block with the identity that is asked for. -/
def use {α : Type} (r : IdentityRequest) (block : Identity → Run α) : Run α := do
  let s ← provider r
  s.session (load s r >>= block)

/-- The same for a format that is given by its name, in any case. A name that no format has ends this
before a provider is made. -/
def useNamed {α : Type} (key format certificate : Value) (origin : KeyOrigin)
    (password : Option Bytes) (block : Identity → Run α) : Run α := do
  let format ← Run.lift (fun p => .failure (.configuration p)) (KeyFormat.ofValue format)
  use ⟨key, format, certificate, origin, password⟩ block

end Identity

end ImageSigning
