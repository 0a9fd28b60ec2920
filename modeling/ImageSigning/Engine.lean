import ImageSigning.Value

/-!
# Engines

An engine reaches keys on a token through a tool: a program that is given the octets to sign in one
file and writes the signature into another. While an engine is in use it has a session: the tool as
it was found, and a private directory with the two files.

* `Engine.configure`: settings that are not given come from the environment.
-/

namespace ImageSigning

/-- A session of an engine. -/
structure Session where
  /-- The path at which the tool was found. -/
  tool : String
  /-- The number of the private directory. -/
  directory : Nat
  /-- The octets that were last given to the tool. -/
  input : Option Bytes
  /-- The signature that the tool wrote last. -/
  output : Option Bytes
  deriving DecidableEq, Repr

/-- An engine. -/
structure Engine where
  /-- The module of the token. -/
  module : Option String
  /-- The secret that opens the token. -/
  pin : Option String
  /-- The tool. -/
  tool : String
  /-- The session, while there is one. -/
  session : Option Session
  deriving DecidableEq, Repr

/-- An argument of the tool. -/
inductive ToolArgument where
  | word (s : String)
  /-- The path of the file with the octets to sign. -/
  | inputFile
  /-- The path of the file for the signature. -/
  | outputFile
  deriving DecidableEq, Repr

/-- What a tool is asked to do. -/
structure ToolRequest where
  /-- The arguments. -/
  arguments : List ToolArgument
  /-- The number of the private directory that both files are in. -/
  directory : Nat
  /-- The octets to sign. -/
  input : Bytes
  deriving DecidableEq, Repr

/-- What a tool did. At the path of its output it leaves a file with octets, or nothing: a directory or a
file that cannot be read is not represented there, and neither is a tool that changes other files. -/
structure ToolOutcome where
  /-- How it ended; zero is success. -/
  status : Nat
  /-- What it complained about. -/
  complaint : Bytes
  /-- The signature, if it wrote one. -/
  signature : Option Bytes
  deriving DecidableEq, Repr

/-- The settings of an engine that were given. -/
structure EngineSettings where
  /-- The module of the token. -/
  module : Option String
  /-- The secret that opens the token. -/
  pin : Option String
  /-- The tool. -/
  tool : Option String
  deriving DecidableEq, Repr

namespace EngineSettings

/-- The names of the settings. -/
def names : List String := ["module", "pin", "tool"]

/-- A setting that is a text, or not given. -/
def text? (options : List (String × Value)) (name : String) : Option (Option String) :=
  match options.lookup name with
  | none => some none
  | some (.text s) => some (some s)
  | some v => if v.isSet then none else some none

/-- The settings among options, if there are no others and all are texts. -/
def ofOptions? (options : List (String × Value)) : Option EngineSettings := do
  if options.any fun (name, _) => !names.contains name then none
  some ⟨← text? options "module", ← text? options "pin", ← text? options "tool"⟩

end EngineSettings

namespace Engine

/-- The variable that names a module. -/
def moduleVariable : String := "SBSIGN_PKCS11_MODULE"

/-- The variable that holds a secret. -/
def pinVariable : String := "SBSIGN_PKCS11_PIN"

/-- The variable that names a tool. -/
def toolVariable : String := "SBSIGN_PKCS11_TOOL"

/-- The tool that is used unless another is named. -/
def usualTool : String := "pkcs11-tool"

/-- A text that is not empty. -/
def given (s : Option String) : Option String := s.filter (· ≠ "")

/-- The engine with the given settings; the environment supplies what they leave out. -/
def configure (settings : EngineSettings) (environment : List (String × String)) : Engine where
  module := given settings.module <|> environment.lookup moduleVariable
  pin := settings.pin <|> environment.lookup pinVariable
  tool := (given settings.tool).getD ((environment.lookup toolVariable).getD usualTool)
  session := none

/-- Whether the engine is in use. -/
def isInitialized (e : Engine) : Bool := e.session.isSome

end Engine

end ImageSigning
