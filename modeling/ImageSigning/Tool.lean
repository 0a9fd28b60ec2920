import ImageSigning.FileSystem

/-!
# Looking for a tool

A tool that is named with a directory is what its path leads to. Any other tool is looked for in the
directories that a variable of the environment lists, one after the other; a directory that is left empty
there is the working one. It is looked for once to see whether it is there, and once more when it is run:
what can be run is asked of the system, and not of the permissions alone.

* `find?`: the first path at which there is a tool.
* `program`: what running a tool does, or why it cannot be run.
-/

namespace ImageSigning.Tool

/-- The variable that lists the directories with tools. -/
def searchVariable : String := "PATH"

/-- The directories with tools if the variable is not there. -/
def usualDirectories : String := "/bin:/usr/bin"

/-- Whether a tool is named with a directory. -/
def hasDirectory (tool : String) : Bool := tool.toList.contains '/'

/-- The directories in which a tool is looked for. -/
def directories (environment : List (String × String)) : List String :=
  Text.parts ':' ((environment.lookup searchVariable).getD usualDirectories)

/-- The path of a name in a directory. -/
def inDirectory (directory name : String) : String :=
  if directory = "" ∨ directory.endsWith "/" then directory ++ name else directory ++ "/" ++ name

/-- The paths at which a tool is looked for. -/
def candidates (environment : List (String × String)) (tool : String) : List String :=
  if hasDirectory tool then [tool] else (directories environment).map (inDirectory · tool)

/-- Whether a path leads to a file that may be run. -/
def isTool (fs : FileSystem) (path : String) : Bool :=
  (fs.file? path).any FileSystem.isExecutable

/-- The first path at which there is a tool. In an empty list of directories nothing is looked for, not
even in the working directory. -/
def find? (fs : FileSystem) (environment : List (String × String)) (tool : String) : Option String :=
  if !hasDirectory tool && environment.lookup searchVariable = some "" then none
  else (candidates environment tool).find? (isTool fs)

/-- Whether an error says no more than that nothing was found. -/
def saysAbsent (e : SystemError) : Bool := e = .noEntry || e = .notDirectory

/-- The first of some attempts that succeeds; if none does, the first error that says more than that
nothing was found, or else the last one. -/
def firstOf : List (Except SystemError Nat) → Except SystemError Nat
  | [] => .error .noEntry
  | .ok program :: _ => .ok program
  | [.error e] => .error e
  | .error e :: rest =>
    match firstOf rest with
    | .ok program => .ok program
    | .error later => .error (if saysAbsent e then later else e)

/-- What running a tool does. -/
def program (fs : FileSystem) (environment : List (String × String)) (tool : String) :
    Except SystemError Nat :=
  firstOf ((candidates environment tool).map fs.program)

section
variable {fs : FileSystem} {environment environment' : List (String × String)} {tool : String}

/-- Of the environment, only the variable that lists directories decides where a tool is looked for. -/
theorem candidates_congr
    (h : environment'.lookup searchVariable = environment.lookup searchVariable) :
    candidates environment' tool = candidates environment tool := by
  unfold candidates directories
  rw [h]

/-- Of the environment, only that variable decides which tool is found. -/
theorem find?_congr (h : environment'.lookup searchVariable = environment.lookup searchVariable) :
    find? fs environment' tool = find? fs environment tool := by
  unfold find?
  rw [h, candidates_congr h]

/-- Of the environment, only that variable decides what running a tool does. -/
theorem program_congr (h : environment'.lookup searchVariable = environment.lookup searchVariable) :
    program fs environment' tool = program fs environment tool := by
  unfold program
  rw [candidates_congr h]

end

end ImageSigning.Tool
