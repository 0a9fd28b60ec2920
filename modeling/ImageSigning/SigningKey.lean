import ImageSigning.Provider

/-!
# Signing with a key

A private key that was read signs by itself. A key on a token signs through the engine that is
registered at the time, which has to be the one that the key came from: the engine writes down the
octets, runs its tool, and reads what the tool wrote.

* `Engine.arguments`: what the tool is asked.
* `SigningKey.sign`: a signature, from either kind of key.
-/

namespace ImageSigning

/-- How a signature is made on a token. -/
structure Mechanism where
  /-- The mechanism's name. -/
  name : String
  /-- Whether the signature is to be an element, as signatures hold it. -/
  isElement : Bool
  deriving DecidableEq, Repr

namespace Mechanism

/-- The name of a hash function in a mechanism. -/
def hashName (f : HashFunction) : String := Text.upper f.name

/-- The mechanism for a token key of an algorithm, if it can sign. -/
def ofAlgorithm? (algorithm : String) (f : HashFunction) : Option Mechanism :=
  if algorithm = "RSA" then some ⟨hashName f ++ "-RSA-PKCS", false⟩
  else if algorithm = "EC" then some ⟨"ECDSA-" ++ hashName f, true⟩
  else none

end Mechanism

namespace Engine

/-- An option of the tool with its value. -/
def option (name value : String) : List ToolArgument := [.word name, .word value]

/-- The arguments that choose the key: its identifier, or else its label. -/
def keyArguments? (attributes : KeyReference.Attributes) : Option (List ToolArgument) :=
  match attributes.lookup KeyReference.idName, attributes.lookup KeyReference.labelName with
  | some id, _ => some (option "--id" id)
  | none, some label => some (option "--label" label)
  | none, none => none

/-- An option that is there if its value is. -/
def optionIf (name : String) : Option String → List ToolArgument
  | some value => option name value
  | none => []

/-- What the tool is asked, if the key is named. -/
def arguments? (e : Engine) (m : Mechanism) (attributes : KeyReference.Attributes) :
    Option (List ToolArgument) := do
  let key ← keyArguments? attributes
  let format := if m.isElement then option "--signature-format" "openssl" else []
  let login := match given e.pin with
    | some pin => .word "--login" :: option "--pin" pin
    | none => []
  some (optionIf "--module" (given e.module)
    ++ optionIf "--slot" (attributes.lookup KeyReference.slotName)
    ++ [.word "--sign", .word "--mechanism", .word m.name, .word "--input-file", .inputFile,
      .word "--output-file", .outputFile]
    ++ key ++ format ++ login)

/-- Whether an argument holds the character that ends arguments. -/
def hasNull : ToolArgument → Bool
  | .word s => s.toList.contains '\x00'
  | _ => false

/-- Runs a tool. -/
def runTool (tool : String) (request : ToolRequest) : Run (Except SystemError ToolOutcome) := do
  let w ← get
  match Tool.program w.files w.environment tool with
  | .error e => return .error e
  | .ok program =>
    set { w with calls := w.calls ++ [ToolCall.mk program request] }
    return .ok (w.respond program w.calls.length request)

/-- Puts a changed session in place. -/
def keepSession (n : Nat) (e : Engine) (s : Session) : Run Unit :=
  modify fun w => w.setProvider n (.token { e with session := some s })

/-- Signs octets on the token with the key that has the given attributes; only keys on tokens have
any. What the tool wrote earlier counts if it writes nothing now. -/
def sign (n : Nat) (e : Engine) (attributes : Option KeyReference.Attributes) (m : Mechanism)
    (message : Bytes) : Run Bytes := do
  match e.session with
  | none => Run.fail (.key .notInitialized)
  | some s =>
    keepSession n e { s with input := some message }
    match attributes with
    | none => Run.defect .noSuchOperation
    | some attributes =>
      match e.arguments? m attributes with
      | none => Run.defect .keyUnnamed
      | some arguments =>
        if arguments.any hasNull then Run.defect .nullCharacter
        let request : ToolRequest := ⟨arguments, s.directory, message⟩
        match ← runTool s.tool request with
        | .error cause => Run.fail (.envelope (.toolNotRun e.tool cause))
        | .ok outcome =>
          let output := outcome.signature <|> s.output
          keepSession n e { s with input := some message, output }
          if outcome.status ≠ 0 then
            Run.fail (.envelope
              (.toolFailed e.tool m.name (Text.trim (Utf8.decodeLossy outcome.complaint))))
          match output with
          | some b => return b
          | none => Run.fail (.envelope (.toolSilent e.tool))

end Engine

/-- Signs octets with the engine that has a number; a provider of key files cannot. -/
def Provider.sign (n : Nat) (attributes : Option KeyReference.Attributes) (m : Mechanism)
    (message : Bytes) : Run Bytes := do
  match (← get).providers[n]? with
  | some (.token e) => e.sign n attributes m message
  | _ => Run.defect .noSuchOperation

namespace SigningKey

/-- The attributes of a key on a token. -/
def attributes? : SigningKey → Option KeyReference.Attributes
  | inMemory _ => none
  | onToken _ attributes _ => some attributes

/-- Whether a private key is of a kind that signs. -/
def canSign : PrivateKey → Bool
  | .rsa _ _ _ | .curve _ _ _ => true
  | _ => false

/-- The signature over a message. -/
def sign (key : SigningKey) (f : HashFunction) (message : Bytes) : Run Bytes := do
  match key with
  | inMemory key =>
    if !canSign key then Run.fail (.envelope (.unsupportedKey key.kind))
    match key.sign? f message with
    | some b => return b
    | none => Run.defect .keyRefused
  | onToken n attributes algorithm =>
    let w ← get
    if w.registered ≠ some n then
      Run.fail (.key (.outsideSession attributes (w.providers[n]?.getD .files).name))
    match Mechanism.ofAlgorithm? algorithm f with
    | none => Run.fail (.envelope (.unsupportedTokenKey algorithm))
    | some m => Provider.sign n (some attributes) m message

end SigningKey

end ImageSigning
