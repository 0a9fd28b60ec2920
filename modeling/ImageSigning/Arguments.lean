import ImageSigning.Arguments.Word

/-!
# Arguments

A command line names one image and gives options, in any order. The value of an option is attached to
it or is the next word. Help and the version are asked for at once, before what follows is looked at;
names that are ambiguous are noticed before anything else.

* `Arguments.ofWords`: what a command line asks for.
-/

namespace ImageSigning

/-- What a command line gives for a run. -/
structure Arguments where
  /-- The image. -/
  image : String
  /-- The file with a profile. -/
  profile : Option String
  /-- The settings that options give, in order. -/
  given : List (Setting × Value)
  deriving Repr

/-- Why a command line leads to no run. -/
inductive NoRun where
  | help
  | version
  | misuse (p : UsageProblem)
  deriving DecidableEq, Repr

namespace Arguments

/-- The settings with their names, as a configuration takes them. -/
def toList (a : Arguments) : List (String × Value) :=
  (Setting.image.name, .text a.image) :: a.given.map fun (s, v) => (s.name, v)

/-! ### Reading -/

/-- What was read so far. -/
structure Progress where
  /-- The image. -/
  image : Option String
  /-- The file with a profile. -/
  profile : Option String
  /-- The settings that options gave. -/
  given : List (Setting × Value)
  /-- The words that nothing was made of. -/
  extra : List String
  deriving Repr

namespace Progress

/-- Before the first word. -/
def start : Progress := ⟨none, none, [], []⟩

/-- With a word that nothing was made of. -/
def skip (p : Progress) (s : String) : Progress := { p with extra := p.extra ++ [s] }

/-- With an option and its value. -/
def take (p : Progress) (o : Flag) (value : Option String) : Except NoRun Progress :=
  match o, o.setting? with
  | .help, _ => .error .help
  | .version, _ => .error .version
  | _, some s => .ok { p with given := p.given ++ [(s, value.elim (.flag true) .text)] }
  | _, none => .ok { p with profile := value }

/-- With options that take no value. -/
def takeFlags (p : Progress) (flags : List Flag) : Except NoRun Progress :=
  flags.foldlM (fun p o => p.take o none) p

/-- What was given for a run; an image has to be, and everything has to be of use. -/
def finish (p : Progress) : Except NoRun Arguments :=
  match p.image, p.extra with
  | none, _ => .error (.misuse .imageMissing)
  | some image, [] => .ok ⟨image, p.profile, p.given⟩
  | some _, words => .error (.misuse (.unrecognized words))

end Progress

/-- Reads words. The mark goes with the image if it stands directly before or behind it; `behind` says
that the word before was the image. -/
def read (behind : Bool) : List Word → Progress → Except NoRun Progress
  | [], p => .ok p
  | .text s :: r, p =>
    if p.image.isNone then read true r { p with image := some s } else read false r (p.skip s)
  | .mark :: r, p =>
    if behind || (p.image.isNone && !r.isEmpty) then read false r p else read false r (p.skip "--")
  | .unknown s :: r, p => read false r (p.skip s)
  | .options (.error problem) :: _, _ => .error (.misuse problem)
  | .options (.ok ⟨flags, .nothing⟩) :: r, p => do read false r (← p.takeFlags flags)
  | .options (.ok ⟨flags, .unknown s⟩) :: r, p => do read false r ((← p.takeFlags flags).skip s)
  | .options (.ok ⟨flags, .valued o v⟩) :: r, p => do
    read false r (← (← p.takeFlags flags).take o (some v))
  | .options (.ok ⟨flags, .awaiting o⟩) :: .text s :: r, p => do
    read false r (← (← p.takeFlags flags).take o (some s))
  | .options (.ok ⟨_, .awaiting o⟩) :: _, _ => .error (.misuse (.valueMissing o))

/-- What a command line asks for. -/
def ofWords (texts : List String) : Except NoRun Arguments := do
  let words ← (Word.ofTexts texts).mapError .misuse
  (← read false words .start).finish

end Arguments

end ImageSigning
