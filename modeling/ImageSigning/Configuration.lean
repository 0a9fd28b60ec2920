import ImageSigning.Digest
import ImageSigning.KeyFormat
import ImageSigning.Provider
import ImageSigning.Setting
import ImageSigning.Value.Order
import ImageSigning.Yaml.Document

/-!
# The configuration of a run

A configuration gives every setting a value. It is put together from what is usual, a profile, the
environment and the command line, each overriding what came before: a profile whatever it names, the
environment what is not empty, the command line what was given and is not an unset flag. Values are
checked when they are used.

* `ofProfile`, `withEnvironment`, `withArguments`: the three sources, `ofSources` one after the other.
* `validate`: everything that a run needs is there, and names are known.
-/

namespace ImageSigning

/-- A configuration: the value of every setting. -/
structure Configuration where
  /-- The value of a setting. -/
  get : Setting → Value

namespace Configuration

/-- Every setting as it is usual. -/
def usual : Configuration := ⟨Setting.usual⟩

/-- The configuration with one setting changed. -/
def set (c : Configuration) (s : Setting) (v : Value) : Configuration :=
  ⟨fun t => if t = s then v else c.get t⟩

/-- A setting that was set has the value that it was set to. -/
@[simp] theorem get_set_self (c : Configuration) (s : Setting) (v : Value) :
    (c.set s v).get s = v := by simp [set]

/-- Setting one of them leaves the others alone. -/
theorem get_set_of_ne (c : Configuration) {s t : Setting} (v : Value) (h : t ≠ s) :
    (c.set s v).get t = c.get t := by simp [set, h]

/-- The settings with their names and values. -/
def toList (c : Configuration) : List (String × Value) := Setting.all.map fun s => (s.name, c.get s)

/-- The configuration with the given settings; all have to be known. -/
def ofList : List (String × Value) → Except Defect Configuration
  | [] => .ok usual
  | (name, v) :: r =>
    match Setting.ofName? name with
    | none => .error .wrongType
    | some s => (ofList r).map (·.set s v)

/-! ### Profiles -/

/-- The settings that a table gives under their own names. -/
def withProfileKeys (c : Configuration) (t : Table) : Configuration :=
  Setting.inProfile.foldl (fun c s => (t.named? s.name).elim c (c.set s)) c

/-- The settings that the section for a token gives; they are text, whatever they were written as. -/
def withTokenSection (c : Configuration) (t : Table) : Configuration :=
  Setting.inTokenSection.foldl
    (fun c (name, s) => (t.named? name).elim c fun v => c.set s (.text v.display)) c

/-- Refuses a section for a token in which a setting is too long to become text. -/
def checkTokenValues (t : Table) : Except Fault Unit :=
  if Setting.inTokenSection.all fun (name, _) => (t.named? name).all Value.isWritable then .ok ()
  else .error (.defect .numberTooLong)

/-- The section for a token; what does not count as given is empty. -/
def tokenSection (t : Table) : Except ConfigurationProblem Table :=
  match t.named? Setting.tokenSection with
  | none => .ok []
  | some v =>
    if !v.isSet then .ok []
    else match v with
      | .table s => .ok s
      | _ => .error .tokenSectionNotMapping

/-- The keys that a profile may have. -/
def profileKeys : List String := Setting.inProfile.map Setting.name ++ [Setting.tokenSection]

/-- Refuses a profile with other keys. Keys that have no order or are too long to be written cannot even
be reported. -/
def checkKeys (t : Table) : Except Fault Unit :=
  let unknown := t.keys.filter fun k => !profileKeys.any fun n => k.sameKey (.text n)
  if unknown.isEmpty then .ok ()
  else match Value.sorted? unknown with
    | some keys =>
      if (Value.series keys).isWritable then
        .error (.failure (.configuration (.unknownProfileKeys (Value.series keys).literal)))
      else .error (.defect .numberTooLong)
    | none => .error (.defect .wrongType)

/-- The configuration that a profile gives. -/
def ofProfile (v : Value) : Except Fault Configuration := do
  match v with
  | .table t =>
    let token ← (tokenSection t).mapError fun p => .failure (.configuration p)
    checkTokenValues token
    checkKeys t
    return (usual.withProfileKeys t).withTokenSection token
  | _ => throw (.failure (.configuration .profileNotMapping))

/-- The text with every kind of line end as a line feed. -/
def unifyLineEnds : List Char → List Char
  | '\r' :: '\n' :: r => '\n' :: unifyLineEnds r
  | '\r' :: r => '\n' :: unifyLineEnds r
  | c :: r => c :: unifyLineEnds r
  | [] => []

/-- The value of a text, out of which settings are taken and a section with more of them. -/
def valueOfText (s : String) : Except Yaml.Problem Value :=
  Yaml.read [Setting.tokenSection] (unifyLineEnds s.toList)

/-- The value of a profile's text; an empty one is an empty profile. The octets are decoded as a whole
before the text is read. -/
def readProfile (path : String) (b : Bytes) : Except Fault Value :=
  match Utf8.decode? b with
  | none => .error (.defect .notText)
  | some s =>
    match valueOfText s with
    | .ok v => .ok (if v.isSet then v else .table [])
    | .error (.document p) => .error (.failure (.configuration (.profileUnreadable path p)))
    | .error (.scalar o) => .error (.defect (.scalar o))

/-- The value that the profile in a file holds. -/
def profileIn (fs : FileSystem) (path : String) : Except Fault Value :=
  match fs.leadsSomewhere path with
  | .error e => .error (.defect (.unreachable e))
  | .ok false => .error (.failure (.configuration (.profileAbsent path)))
  | .ok true =>
    match fs.read (FileSystem.simplify path) with
    | .error (.system e) => .error (.failure (.configuration (.profileUnreadable path e.text)))
    | .error .nullCharacter => .error (.defect .nullCharacter)
    | .ok b => readProfile path b

/-- The configuration that the profile in a file gives. -/
def ofFile (fs : FileSystem) (path : String) : Except Fault Configuration := do
  ofProfile (← profileIn fs path)

/-! ### Environment and command line -/

/-- The configuration with what the environment gives; an empty variable gives nothing. -/
def withEnvironment (c : Configuration) (environment : List (String × Value)) : Configuration :=
  Setting.inEnvironment.foldl
    (fun c (s, name) => match environment.lookup name with
      | some v => if v.isSet then c.set s v else c
      | none => c) c

/-- Whether an argument overrides a setting: it was given, and it is not an unset flag. -/
def overrides : Value → Bool
  | .null | .flag false => false
  | _ => true

/-- The configuration with what the command line gives; names that are no settings do not count. -/
def withArguments (c : Configuration) (arguments : List (String × Value)) : Configuration :=
  arguments.foldl
    (fun c (name, v) => match Setting.ofName? name with
      | some s => if overrides v then c.set s v else c
      | none => c) c

/-- The configuration that all sources give: a profile if one is named, the environment, and the command
line. -/
def ofSources (fs : FileSystem) (profile : Option String) (environment arguments : List (String × Value)) :
    Except Fault Configuration := do
  let base ← match profile with
    | none | some "" => pure usual
    | some path => ofFile fs path
  return (base.withEnvironment environment).withArguments arguments

/-! ### What follows from the settings -/

/-- The output: as given, or else the image with an ending for what is written. -/
def outputPath (c : Configuration) : Value :=
  if (c.get .output).isSet then c.get .output
  else match c.get .image with
    | .null => .null
    | image => .text (image.display ++ if (c.get .detached).isSet then ".pk7" else ".signed")

/-- Refuses a setting that is too long to become text. -/
def requireWritable (c : Configuration) (s : Setting) : Except Fault Unit :=
  if (c.get s).isWritable then .ok () else .error (.defect .numberTooLong)

/-- The format of the key reference. -/
def keyFormat (c : Configuration) : Except Fault KeyFormat := do
  c.requireWritable .keyFormat
  (KeyFormat.ofValue (c.get .keyFormat)).mapError fun p => .failure (.configuration p)

/-- The digest algorithm, named in any case. -/
def digestAlgorithm (c : Configuration) : Except Fault DigestAlgorithm := do
  c.requireWritable .digest
  let name := (c.get .digest).display
  match DigestAlgorithm.all.find? fun a => Text.isNameInAnyCase a.name name with
  | some a => return a
  | none => throw (.failure (.configuration (.unsupportedDigest name)))

/-- The options of an engine, if one is named. -/
def engineOptions (c : Configuration) : List (String × Value) :=
  match c.get .engine with
  | .null => []
  | _ => Setting.inTokenSection.map fun (name, s) => (name, c.get s)

/-- The name of the engine, where it has one; only a name can be compared with others. -/
def engineName (c : Configuration) : Except Defect (Option String) :=
  match c.get .engine with
  | .null => .ok none
  | .text s => .ok (some s)
  | .octets b => .ok (some (Value.octets b).display)
  | _ => .error .noSuchOperation

/-- An engine that is named has to be known. -/
def checkEngine (c : Configuration) : Except Fault Unit := do
  if (c.get .engine).isSet then
    match ← c.engineName.mapError .defect with
    | none => return ()
    | some name =>
      if !Text.isNameInAnyCase KeyProblem.engineName name then
        throw (.failure (.configuration (.unknownEngine name)))

/-- A setting that has to be given. -/
def require (c : Configuration) (s : Setting) (p : ConfigurationProblem) : Except Fault Unit :=
  if (c.get s).isSet then .ok () else .error (.failure (.configuration p))

/-- Checks that everything is there and that names are known. -/
def validate (c : Configuration) : Except Fault Unit := do
  let configuration := fun p => Fault.failure (.configuration p)
  c.require .image .noImage
  c.require .certificate .noCertificate
  c.require .key .noKey
  let format ← c.keyFormat
  if format = .engine ∧ !(c.get .engine).isSet then throw (configuration .engineRequired)
  c.checkEngine
  let _ ← c.digestAlgorithm

/-- A text as a key. -/
def entry (name : String) (v : Value) : Value × Value := (.text name, v)

/-- The configuration as a table, without the secret that opens a token. -/
def toTable (c : Configuration) : Table :=
  [Setting.image, .key, .certificate, .chain, .engine, .keyFormat, .detached].map
      (fun s => entry s.name (c.get s))
    ++ [entry "output" c.outputPath, entry "digest" (c.get .digest),
      entry Setting.tokenSection
        (.table [entry "module" (c.get .module), entry "tool" (c.get .tool)])]

end Configuration

end ImageSigning
