import ImageSigning.Setting

/-!
# Options of the command line

Every option has a long name; all but one have a letter too. Some options take a value; most give a
setting.

* `ofName?_longName`, `ofLetter?_letter`: an option is found by its own names.
-/

namespace ImageSigning

/-- An option of the command line. -/
inductive Flag where
  | help
  | engine
  | keyFormat
  | key
  | certificate
  | chain
  | detached
  | output
  /-- The file with a profile. -/
  | profile
  | verbose
  | version
  deriving DecidableEq, Repr

namespace Flag

/-- Every option. -/
def all : List Flag :=
  [help, engine, keyFormat, key, certificate, chain, detached, output, profile, verbose, version]

/-- The long name of an option. -/
def longName : Flag → String
  | help => "help"
  | engine => "engine"
  | keyFormat => "keyform"
  | key => "key"
  | certificate => "cert"
  | chain => "addcert"
  | detached => "detached"
  | output => "output"
  | profile => "config"
  | verbose => "verbose"
  | version => "version"

/-- The letter of an option. -/
def letter? : Flag → Option Char
  | help => some 'h'
  | engine => some 'e'
  | keyFormat => some 'f'
  | key => some 'k'
  | certificate => some 'c'
  | chain => some 'a'
  | detached => some 'd'
  | output => some 'o'
  | profile => none
  | verbose => some 'v'
  | version => some 'V'

/-- What the value of an option is called, if the option takes one. -/
def valueName? : Flag → Option String
  | engine => some "engine"
  | keyFormat => some "format"
  | key => some "keyfile"
  | certificate => some "certfile"
  | chain => some "addcertfile"
  | output => some "file"
  | profile => some "config"
  | help | detached | verbose | version => none

/-- Whether an option takes a value. -/
def takesValue (o : Flag) : Bool := o.valueName?.isSome

/-- The setting that an option gives. -/
def setting? : Flag → Option Setting
  | engine => some .engine
  | keyFormat => some .keyFormat
  | key => some .key
  | certificate => some .certificate
  | chain => some .chain
  | detached => some .detached
  | output => some .output
  | verbose => some .verbose
  | help | profile | version => none

/-- The option with a long name. -/
def ofName? (name : String) : Option Flag := all.find? (·.longName = name)

/-- The option with a letter. -/
def ofLetter? (c : Char) : Option Flag := all.find? (·.letter? = some c)

/-- The options whose long names begin with a text. -/
def beginningWith (start : String) : List Flag := all.filter (·.longName.startsWith start)

/-- An option is found again by its long name. -/
theorem ofName?_longName (o : Flag) : ofName? o.longName = some o := by cases o <;> decide

/-- An option that has a letter is found by it. -/
theorem ofLetter?_letter (o : Flag) (c : Char) (h : o.letter? = some c) : ofLetter? c = some o := by
  cases o <;> simp only [letter?, Option.some.injEq, reduceCtorEq] at h <;> subst h <;> decide

end Flag

end ImageSigning
