import ImageSigning.CommandLine
import ImageSigning.FileSystem.Changes

/-!
# The program

The command line on real files: what the paths of the command lead to is looked at, the command is run on
that, and the files that it changed are written. The program starts no other program, so keys on tokens
are out of its reach.
-/

namespace ImageSigning.Program

/-- The path of a location. -/
def pathOf (l : Location) : String := "/" ++ "/".intercalate l

/-- The files with what stands at a location, if anything does. -/
def look (fs : FileSystem) (l : Location) : IO FileSystem := do
  if l = [] then return fs
  try
    let b ← IO.FS.readBinFile (pathOf l)
    return fs.place l (.file ⟨b.toList, FileSystem.outputMode, none⟩)
  catch
    | .inappropriateType _ 21 _ => return fs.place l .directory
    | _ => return fs

/-- The files with what stands where a path leads and on the way there. -/
def lookAlong (fs : FileSystem) (path : String) : IO FileSystem :=
  (fs.placesAlong path).foldlM look fs

/-- The variables of the environment that give settings. -/
def environment : IO (List (String × String)) := do
  let found ← Setting.inEnvironment.mapM fun (_, name) => return (name, ← IO.getEnv name)
  return found.filterMap fun (name, v) => v.map (name, ·)

/-- The paths that a configuration names. -/
def paths (c : Configuration) : List String :=
  [c.get .image, c.get .key, c.get .certificate, c.get .chain, c.get .module, c.outputPath].filterMap
    fun
      | .text s => some s
      | _ => none

/-- The files before anything is looked at: the working directory. -/
def nothingSeen : IO FileSystem := do
  let working := FileSystem.names (← IO.currentDir).toString
  return FileSystem.place ⟨[], working⟩ working .directory

/-- The files that a command can see. -/
def files (words : List String) (environment : List (String × String)) : IO FileSystem := do
  let fs ← nothingSeen
  match Arguments.ofWords words with
  | .error _ => return fs
  | .ok a =>
    let fs ← a.profile.elim (pure fs) (lookAlong fs)
    match Configuration.ofArguments fs a (environment.map fun (n, v) => (n, .text v)) with
    | .error _ => return fs
    | .ok c => (paths c).foldlM lookAlong fs

/-- Writes a file that changed, first under another name in the same directory. -/
def write (l : Location) (f : File) : IO Unit := do
  let temporary := pathOf (l.dropLast ++ [FileSystem.temporaryName (l.getLast?.getD "") 0])
  IO.FS.writeBinFile temporary ⟨f.data.toArray⟩
  IO.FS.rename temporary (pathOf l)

/-- Runs a command on the real files and gives the status. -/
def run (words : List String) : IO UInt32 := do
  let environment ← environment
  let before ← files words environment
  let (ending, w) := CommandLine.run words (.initial before environment fun _ _ _ => ⟨1, [], none⟩)
  for (l, f) in before.changes w.files do
    if let some f := f then write l f
  match ending with
  | .shown text => IO.print text
  | .misused p => IO.eprintln s!"{CommandLine.name}: error: {p.message}"
  | .ran details _ =>
    for e in w.journal do
      if e.isTold details then IO.eprintln e.line
  match ending.status with
  | .ok n => return n.toUInt32
  | .error _ =>
    IO.eprintln s!"{CommandLine.name}: the run ended with a defect"
    return CommandLine.failed.toUInt32

end ImageSigning.Program

/-- The program. -/
def main (words : List String) : IO UInt32 := ImageSigning.Program.run words
