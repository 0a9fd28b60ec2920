import ImageSigning.Engine

/-!
# Settings

What a run can be told, by name. Most settings can stand in a profile under their own name; the three
that concern a token stand in a section of the profile and can come from the environment.
-/

namespace ImageSigning

/-- A setting of a run. -/
inductive Setting where
  | image
  | key
  | certificate
  /-- The bundle of further certificates. -/
  | chain
  | engine
  | keyFormat
  /-- Whether the signature is written by itself. -/
  | detached
  | output
  | digest
  | module
  | pin
  | tool
  /-- Whether details are told. -/
  | verbose
  deriving DecidableEq, Repr

namespace Setting

/-- Every setting. -/
def all : List Setting :=
  [image, key, certificate, chain, engine, keyFormat, detached, output, digest, module, pin, tool,
    verbose]

/-- The name of a setting. -/
def name : Setting → String
  | image => "image_path"
  | key => "key"
  | certificate => "cert"
  | chain => "addcert"
  | engine => "engine"
  | keyFormat => "keyform"
  | detached => "detached"
  | output => "output"
  | digest => "digest"
  | module => "pkcs11_module"
  | pin => "pkcs11_pin"
  | tool => "pkcs11_tool"
  | verbose => "verbose"

/-- The setting with a name. -/
def ofName? (s : String) : Option Setting := all.find? (·.name = s)

/-- What a setting is unless it is given. -/
def usual : Setting → Value
  | keyFormat => .text "PEM"
  | digest => .text "sha256"
  | detached | verbose => .flag false
  | _ => .null

/-- The settings that a profile gives under their names. -/
def inProfile : List Setting :=
  [key, certificate, chain, engine, keyFormat, detached, output, digest]

/-- The section of a profile for a token. -/
def tokenSection : String := "pkcs11"

/-- The settings in that section, with their names there. -/
def inTokenSection : List (String × Setting) := [("module", module), ("pin", pin), ("tool", tool)]

/-- The environment variables that give settings. -/
def inEnvironment : List (Setting × String) :=
  [(module, Engine.moduleVariable), (pin, Engine.pinVariable), (tool, Engine.toolVariable)]

/-- A setting is found again by its name. -/
theorem ofName?_name (s : Setting) : ofName? s.name = some s := by cases s <;> decide

end Setting

end ImageSigning
