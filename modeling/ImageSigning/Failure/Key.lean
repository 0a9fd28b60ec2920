import ImageSigning.Text.Quoted

/-!
# Problems of loading keys

A key or certificate file may not decode, and a key provider may refuse: the token engine says what
it lacks or that it is used out of turn, another provider says so in its own words.
-/

namespace ImageSigning

/-- Named attributes in braces, each name and value quoted. -/
def describeAttributes (attributes : List (String × String)) : String :=
  let shown := attributes.map fun (name, value) => Text.quoted name ++ ": " ++ Text.quoted value
  "\x7b" ++ ", ".intercalate shown ++ "\x7d"

/-- A problem of loading or reaching a key. -/
inductive KeyProblem where
  | keyUndecodable (encoding path diagnosis : String)
  | certificateUndecodable (path diagnosis : String)
  | outsideSession (attributes : List (String × String)) (provider : String)
  | alreadyInitialized
  | notInitialized
  | toolAbsent (tool : String)
  | moduleAbsent (path : String)
  | refused (message : String) (source : Option String)
  deriving DecidableEq, Repr

namespace KeyProblem

/-- The name under which the token engine reports. -/
def engineName : String := "pkcs11"

/-- The file, engine or module that the problem comes from. -/
def source : KeyProblem → Option String
  | keyUndecodable _ path _ | certificateUndecodable path _ | moduleAbsent path => some path
  | alreadyInitialized | notInitialized | toolAbsent _ => some engineName
  | outsideSession _ provider => some provider
  | refused _ source => source

/-- The problem in words. -/
def message : KeyProblem → String
  | keyUndecodable encoding path diagnosis =>
    s!"Cannot decode {encoding} private key {path}: {diagnosis}"
  | certificateUndecodable path diagnosis => s!"Cannot decode certificate {path}: {diagnosis}"
  | outsideSession attributes _ =>
    s!"Token key {describeAttributes attributes} used outside its engine session"
  | alreadyInitialized => s!"Engine '{engineName}' is already initialized"
  | notInitialized => s!"Engine '{engineName}' used before initialization"
  | toolAbsent tool => s!"Engine '{engineName}' unavailable: {tool} not found (install opensc)"
  | moduleAbsent path => s!"PKCS#11 module not found: {path}"
  | refused message _ => message

/-- The same problem with its diagnosis reworded. -/
def reword (f : String → String) : KeyProblem → KeyProblem
  | keyUndecodable encoding path diagnosis => keyUndecodable encoding path (f diagnosis)
  | certificateUndecodable path diagnosis => certificateUndecodable path (f diagnosis)
  | p => p

end KeyProblem

end ImageSigning
