import ImageSigning.Arguments
import ImageSigning.Signing

/-!
# The command line

A command reads its arguments, puts the configuration together, signs, and tells how it went. What is
told of a run are lines with their weight; details are among them only if they are asked for. A
failure is told of and ends the command with a status; a defect is not dealt with here.

* `CommandLine.run`: a command, on the surroundings.
-/

namespace ImageSigning

/-- The configuration that arguments lead to, with the profile that they name and the environment. -/
def Configuration.ofArguments (fs : FileSystem) (a : Arguments)
    (environment : List (String × Value)) : Except Fault Configuration :=
  ofSources fs a.profile environment a.toList

namespace Event

/-- The event as a line of output. -/
def line (e : Event) : String := s!"[{e.weight.label}] {e.teller}: {e.text}"

/-- Whether the event is told of; details only if they are asked for. -/
def isTold (details : Bool) (e : Event) : Bool := details || e.weight ≠ .detail

end Event

namespace CommandLine

/-- The program's name. -/
def name : String := "sbsign"

/-- The program's version. -/
def version : String := "0.9.5"

/-- The line that tells the version. -/
def versionText : String := s!"{name} {version}\n"

/-- An option as help shows it. -/
def optionText (o : Flag) : String :=
  let value := o.valueName?.elim "" (" " ++ ·)
  let letter := o.letter?.elim "" fun c => s!", -{c}{value}"
  s!"  --{o.longName}{value}{letter}\n"

/-- The help text. -/
def helpText : String :=
  s!"usage: {name} [options] --key <keyfile> --cert <certfile> <efi-boot-image>\n\n"
    ++ "Sign an EFI boot image for use with secure boot.\n\n"
    ++ String.join (Flag.all.map optionText)

/-- How a command ends. -/
inductive Ending where
  /-- A text was asked for. -/
  | shown (text : String)
  | misused (p : UsageProblem)
  /-- A run ended with a status, or with a defect; details are told of or not. -/
  | ran (details : Bool) (outcome : Except Defect Nat)

/-- The status of a failed run. -/
def failed : Nat := 1

/-- The status of a command that was not understood. -/
def notUnderstood : Nat := 2

/-- The status that a command ends with, unless it ends with a defect. -/
def Ending.status : Ending → Except Defect Nat
  | shown _ => .ok 0
  | misused _ => .ok notUnderstood
  | ran _ outcome => outcome

/-- What is told of a result. -/
def summary (r : SigningResult) : Event :=
  if r.detached.isSet then .detachedFinished r.index r.output.display
  else .combinedFinished r.count r.output.display

/-- Signs as arguments say. -/
def sign (a : Arguments) : Run SigningResult := do
  let w ← get
  let environment := w.environment.map fun (n, v) => (n, Value.text v)
  (← Run.lift id (Configuration.ofArguments w.files a environment)).sign

/-- Signs as arguments say and tells how it went: the status or the defect at the end. -/
def signAndTell (a : Arguments) (w : World) : Except Defect Nat × World :=
  match (sign a).run.run w with
  | (.ok r, w) => (.ok 0, w.tell (summary r))
  | (.error (.failure f), w) => (.ok failed, (w.tell (.runFailed f)).tell (.failureDetails f))
  | (.error (.defect d), w) => (.error d, w)

/-- Whether arguments ask for details. -/
def wantsDetails (a : Arguments) : Bool := a.given.any fun (s, _) => s = .verbose

/-- A command: how it ends, and the surroundings afterwards. -/
def run (words : List String) (w : World) : Ending × World :=
  match Arguments.ofWords words with
  | .error .help => (.shown helpText, w)
  | .error .version => (.shown versionText, w)
  | .error (.misuse p) => (.misused p, w)
  | .ok a =>
    let (outcome, w) := signAndTell a w
    (.ran (wantsDetails a) outcome, w)

end CommandLine

end ImageSigning
