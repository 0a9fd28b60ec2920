import ImageSigning.Arguments.Flag
import ImageSigning.Text.Character

/-!
# Words of the command line

A word that begins with a hyphen is an option: a long name behind two hyphens, which may be cut short
as long as one option begins with it, or a letter behind one. A value is attached to a long name by an
equals sign, and to a letter with or without one; letters of options that take no value can be followed
by more letters. Numbers are no options, nor are words with a space that name none. Two hyphens by
themselves are a mark: no word behind the first mark is an option.

* `Word.ofTexts`: the words of a command line.
-/

namespace ImageSigning

/-- What is wrong with a command line. -/
inductive UsageProblem where
  /-- A name that several options begin with. -/
  | ambiguous (word : String)
  | valueMissing (o : Flag)
  | valueUnexpected (o : Flag) (value : String)
  | imageMissing
  /-- Words that nothing was made of. -/
  | unrecognized (words : List String)
  deriving DecidableEq, Repr

/-- The problem in words. -/
def UsageProblem.message : UsageProblem → String
  | ambiguous word => s!"ambiguous option: {word}"
  | valueMissing o => s!"option --{o.longName} needs a value"
  | valueUnexpected o value => s!"option --{o.longName} takes no value, but got '{value}'"
  | imageMissing => "no image is named"
  | unrecognized words => "unrecognized words: " ++ " ".intercalate words

/-- What ends a word of options. -/
inductive Tail where
  | nothing
  /-- An option whose value is the next word. -/
  | awaiting (o : Flag)
  /-- An option with its value. -/
  | valued (o : Flag) (value : String)
  /-- Letters that are no options. -/
  | unknown (s : String)
  deriving DecidableEq, Repr

/-- The options in one word: some that take no value, and what ends the word. -/
structure Cluster where
  /-- The options without values. -/
  flags : List Flag
  /-- What ends the word. -/
  tail : Tail
  deriving DecidableEq, Repr

namespace Cluster

/-- An option to which nothing is attached. -/
def alone (o : Flag) : Cluster := if o.takesValue then ⟨[], .awaiting o⟩ else ⟨[o], .nothing⟩

/-- An option with a value attached. -/
def withValue (o : Flag) (value : List Char) : Except UsageProblem Cluster :=
  if o.takesValue then .ok ⟨[], .valued o (String.ofList value)⟩
  else .error (.valueUnexpected o (String.ofList value))

/-- An option by its letter with the characters behind it: its value, or more letters. -/
def ofLetters (o : Flag) : List Char → Except UsageProblem Cluster
  | [] => .ok (alone o)
  | '=' :: value => withValue o value
  | c :: r =>
    if o.takesValue || c = '-' then withValue o (c :: r)
    else match Flag.ofLetter? c with
      | none => .ok ⟨[o], .unknown (String.ofList ('-' :: c :: r))⟩
      | some p => (ofLetters p r).map fun s => { s with flags := o :: s.flags }

end Cluster

/-- A word of the command line. -/
inductive Word where
  | text (s : String)
  /-- Two hyphens: behind the first of these there are no options. -/
  | mark
  /-- Options, or what is wrong with them. -/
  | options (c : Except UsageProblem Cluster)
  /-- A word that looks like an option and is none. -/
  | unknown (s : String)

namespace Word

/-- Whether all characters are decimal digits, and there are some. -/
def isDigits (cs : List Char) : Bool := !cs.isEmpty && cs.all fun c => (Text.digitValue? c).isSome

/-- Whether characters are a numeral, perhaps with a point; a line end may follow it. -/
def isNumeral (cs : List Char) : Bool :=
  let cs := if cs.getLast? = some '\n' then cs.dropLast else cs
  match cs.span (· ≠ '.') with
  | (whole, []) => isDigits whole
  | (whole, _ :: places) => (whole.isEmpty || isDigits whole) && isDigits places

/-- A word that begins with a hyphen and names no option. -/
def nameless (s : String) : Word :=
  if isNumeral (s.toList.drop 1) || s.toList.contains ' ' then text s else unknown s

/-- What stands before the first equals sign, and what stands behind it if there is one. -/
def splitValue (cs : List Char) : String × Option (List Char) :=
  match cs.span (· ≠ '=') with
  | (name, []) => (String.ofList name, none)
  | (name, _ :: value) => (String.ofList name, some value)

/-- The word with two hyphens before the given characters. -/
def ofLong (s : String) (cs : List Char) : Except UsageProblem Word :=
  let (name, value) := splitValue cs
  match Flag.ofName? name, Flag.beginningWith name with
  | some o, _ | none, [o] =>
    .ok (options (value.elim (.ok (Cluster.alone o)) (Cluster.withValue o)))
  | none, [] => .ok (nameless s)
  | none, _ => .error (.ambiguous s)

/-- The word with a hyphen and a letter before the given characters. -/
def ofLetter (s : String) (c : Char) (cs : List Char) : Word :=
  match Flag.ofLetter? c with
  | some o => options (Cluster.ofLetters o cs)
  | none => nameless s

/-- The word that a text is where options may stand. -/
def ofText (s : String) : Except UsageProblem Word :=
  match s.toList with
  | '-' :: '-' :: cs => ofLong s cs
  | '-' :: c :: cs => .ok (ofLetter s c cs)
  | _ => .ok (text s)

/-- The words of a command line. -/
def ofTexts : List String → Except UsageProblem (List Word)
  | [] => .ok []
  | s :: r =>
    if s = "--" then .ok (mark :: r.map text)
    else do
      let w ← ofText s
      return w :: (← ofTexts r)

end Word

end ImageSigning
