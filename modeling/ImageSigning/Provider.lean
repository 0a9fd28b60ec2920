import ImageSigning.InputFile
import ImageSigning.KeyFormat
import ImageSigning.KeyReference
import ImageSigning.Text.Case
import ImageSigning.Tool
import ImageSigning.World

/-!
# Providers of keys

A provider is initialised once before a key is asked of it and shut down once afterwards. Key files
need neither; an engine looks for its tool and its module, opens a session, and is the one that token
keys are routed through until it is shut down or another engine is initialised.

* `KeySource`: what an identity needs of a provider, so that others can take a provider's place.
* `KeySource.session`: a block between initialising and shutting down.
-/

namespace ImageSigning

/-- Where a private key is. -/
inductive ProviderKind where
  | file
  | hardware
  deriving DecidableEq, Repr

/-- The kind's name. -/
def ProviderKind.name : ProviderKind → String
  | file => "file"
  | hardware => "hardware"

/-- A key that can sign. -/
inductive SigningKey where
  /-- A private key that was read. -/
  | inMemory (key : PrivateKey)
  /-- A key on a token: the provider that reaches it, its attributes, and its algorithm. -/
  | onToken (provider : Nat) (attributes : KeyReference.Attributes) (algorithm : String)
  deriving DecidableEq, Repr

/-- What an identity needs of a provider. -/
structure KeySource where
  /-- Where the keys are. -/
  kind : ProviderKind
  /-- The provider's name. -/
  name : String
  /-- Makes the provider ready. -/
  setUp : Run Unit
  /-- The key that a reference in a format stands for, given the certificate that it belongs to and a
  password. -/
  loadKey : Value → KeyFormat → Certificate → Option Bytes → Run SigningKey
  /-- Ends the use of the provider. -/
  shutDown : Run Unit

/-- Runs a block with the provider ready; the provider is shut down however the block ends. -/
def KeySource.session {α : Type} (s : KeySource) (block : Run α) : Run α := do
  s.setUp
  Run.always block s.shutDown

namespace Provider

/-- Where the keys of a provider are. -/
def kind : Provider → ProviderKind
  | files => .file
  | token _ => .hardware

/-- The provider's name. -/
def name : Provider → String
  | files => "file"
  | token _ => KeyProblem.engineName

/-! ### Making a provider -/

/-- The provider that an engine's name stands for, in any case; without a name, key files. The options
are settings of an engine. -/
def ofName (engine : Option String) (options : List (String × Value))
    (environment : List (String × String)) : Except Fault Provider :=
  match engine with
  | none => .ok files
  | some name =>
    if !Text.isNameInAnyCase KeyProblem.engineName name then
      .error (.failure (.configuration (.unknownEngine name)))
    else
      match EngineSettings.ofOptions? options with
      | some settings => .ok (token (Engine.configure settings environment))
      | none => .error (.defect .wrongType)

/-- Makes a provider and gives it the next number. -/
def create (engine : Option String) (options : List (String × Value)) : Run Nat := do
  let w ← get
  let p ← Run.lift id (ofName engine options w.environment)
  set { w with providers := w.providers ++ [p] }
  return w.providers.length

/-! ### Key files -/

/-- The key in a file. -/
def loadFromFile (path : Value) (format : KeyFormat) (password : Option Bytes) :
    Run SigningKey := do
  if format = .engine then Run.fail (.configuration .engineRequired)
  let path ← Run.text path
  let key ← Run.lift id (InputFile.privateKey (← get).files path format.name password)
  return .inMemory key

/-! ### Engines -/

/-- The module that an engine is to use has to be there. -/
def checkModule (fs : FileSystem) (module : Option String) : Except Fault Unit :=
  match Engine.given module with
  | none => .ok ()
  | some path =>
    match fs.leadsSomewhere path with
    | .ok true => .ok ()
    | .ok false => .error (.failure (.key (.moduleAbsent path)))
    | .error e => .error (.defect (.unreachable e))

/-- Opens the session of an engine, in a new private directory. There is always room for the directory;
that it cannot be made is left out. -/
def setUpEngine (n : Nat) (e : Engine) : Run Unit := do
  if e.isInitialized then Run.fail (.key .alreadyInitialized)
  let w ← get
  match Tool.find? w.files w.environment e.tool with
  | none => Run.fail (.key (.toolAbsent e.tool))
  | some tool =>
    Run.lift id (checkModule w.files e.module)
    modify fun w =>
      { w.setProvider n (.token { e with session := some ⟨tool, w.freeDirectory, none, none⟩ }) with
        directories := w.directories ++ [w.freeDirectory], registered := some n }
    Run.tell (.engineInitialized tool)

/-- No longer routes token keys through a provider. -/
def unregister (n : Nat) : Run Unit := modify fun w =>
  if w.registered = some n then { w with registered := none } else w

/-- Closes the session of an engine, if it has one, and removes its private directory; that it cannot be
removed is left out. -/
def shutDownEngine (n : Nat) (e : Engine) : Run Unit := do
  match e.session with
  | none => pure ()
  | some s =>
    unregister n
    modify fun w => { w.setProvider n (.token { e with session := none }) with
      directories := w.directories.erase s.directory }
    Run.tell .engineShutDown

/-- The algorithm that a token key has to have for a public key. -/
def tokenAlgorithm : PublicKey → String
  | .rsa _ _ => "RSA"
  | .curve _ _ => "EC"
  | key => key.kind

/-- The text of a reference to a key on a token; octets are not taken for text, and other values have
no text at all. -/
def referenceText : Value → Run String
  | .text s => pure s
  | .octets _ => Run.defect .wrongType
  | _ => Run.defect .noSuchOperation

/-- The key on a token that a reference names; any other format than that of engines means a file. -/
def loadFromToken (n : Nat) (reference : Value) (format : KeyFormat) (c : Certificate)
    (password : Option Bytes) : Run SigningKey := do
  if format ≠ .engine then loadFromFile reference format password
  else
    let key ← Run.lift (fun p => .defect (.publicKey p)) c.publicKey
    let attributes ← Run.lift (fun p => .failure (.configuration p))
      (KeyReference.attributes (← referenceText reference))
    return .onToken n attributes (tokenAlgorithm key)

/-! ### All providers -/

/-- Makes the provider with a number ready. -/
def setUp (n : Nat) : Run Unit := do
  match (← get).providers[n]? with
  | some (.token e) => setUpEngine n e
  | _ => pure ()

/-- Ends the use of the provider with a number. -/
def shutDown (n : Nat) : Run Unit := do
  match (← get).providers[n]? with
  | some (.token e) => shutDownEngine n e
  | _ => pure ()

/-- The provider with a number, as identities need it. -/
def source (p : Provider) (n : Nat) : KeySource where
  kind := p.kind
  name := p.name
  setUp := setUp n
  loadKey := match p with
    | .files => fun reference format _ password => loadFromFile reference format password
    | .token _ => loadFromToken n
  shutDown := shutDown n

/-- What the provider with a number is, as identities need it. -/
def sourceOf (n : Nat) : Run KeySource := do
  return ((← get).providers[n]?.getD .files).source n

end Provider

end ImageSigning
