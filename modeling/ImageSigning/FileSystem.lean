import ImageSigning.SystemError
import ImageSigning.Text.Parts
import ImageSigning.Text.Utf8

/-!
# Files

The files that a run can see: a tree of directories and files below a root, and the directory that the
run works in. A path is walked name by name, from the root if it begins with a slash and from the working
directory otherwise; every name but the last has to be a directory, and two points lead one directory
back, which from the root is the root. A file has octets, permissions and, if it is a program that can be
run, a number for what it does. There are no links, and nothing is refused for its permissions but running
it.

* `lookup_put`, `lookup_remove`: a change is seen at its place and nowhere else.
* `read`: what opening and reading a path gives.
* `replace`: writes a file through a temporary one next to it, so that the old content is there until
  the new one is complete.
-/

namespace ImageSigning

/-- The names that lead from the root to a file or a directory. -/
abbrev Location := List String

/-- A file. -/
structure File where
  /-- The octets. -/
  data : Bytes
  /-- The permissions. -/
  mode : Nat
  /-- What running the file does, if it can be run. -/
  program : Option Nat
  deriving DecidableEq, Repr

/-- What stands at a location. -/
inductive Entry where
  | directory
  | file (f : File)
  deriving DecidableEq, Repr

/-- The files and the directory that is worked in. -/
structure FileSystem where
  /-- Everything below the root with its location. -/
  entries : List (Location × Entry)
  /-- The directory that a path starts from unless it starts at the root. -/
  working : Location
  deriving DecidableEq, Repr

/-- What a path finds. -/
inductive Target where
  | present (l : Location) (e : Entry)
  /-- Nothing, in a directory that is there. -/
  | missing (l : Location)
  deriving DecidableEq, Repr

/-- Why a file operation fails. -/
inductive FileProblem where
  | system (e : SystemError)
  /-- The path holds the character that ends paths. -/
  | nullCharacter
  deriving DecidableEq, Repr

namespace FileSystem

/-- Without any files, working at the root. -/
def empty : FileSystem := ⟨[], []⟩

/-- What stands at a location among entries. -/
def findEntry (l : Location) : List (Location × Entry) → Option Entry
  | [] => none
  | (m, e) :: r => if m = l then some e else findEntry l r

/-- Entries with what stands at a location set. -/
def putEntry (l : Location) (e : Entry) : List (Location × Entry) → List (Location × Entry)
  | [] => [(l, e)]
  | (m, f) :: r => if m = l then (m, e) :: r else (m, f) :: putEntry l e r

/-- Entries without those at a location. -/
def dropEntry (l : Location) : List (Location × Entry) → List (Location × Entry)
  | [] => []
  | (m, f) :: r => if m = l then dropEntry l r else (m, f) :: dropEntry l r

/-- What stands at a location; the root is always there. -/
def lookup (fs : FileSystem) (l : Location) : Option Entry :=
  if l = [] then some .directory else findEntry l fs.entries

/-- Sets what stands at a location. -/
def put (fs : FileSystem) (l : Location) (e : Entry) : FileSystem :=
  { fs with entries := putEntry l e fs.entries }

/-- Removes what stands at a location. -/
def remove (fs : FileSystem) (l : Location) : FileSystem :=
  { fs with entries := dropEntry l fs.entries }

/-- Among entries, what was set at a location stands there, and elsewhere what stood there. -/
theorem findEntry_putEntry (l place : Location) (e : Entry) (es : List (Location × Entry)) :
    findEntry l (putEntry place e es) = if l = place then some e else findEntry l es := by
  induction es with
  | nil => simp [putEntry, findEntry, eq_comm]
  | cons p r ih =>
    simp only [putEntry]
    split
    · rename_i here
      subst here
      by_cases h : l = p.1 <;> simp [findEntry, h, eq_comm]
    · rename_i elsewhere
      simp only [findEntry, ih]
      split
      · rename_i found
        subst found
        simp [elsewhere]
      · rfl

/-- Among entries, nothing stands where they were dropped, and elsewhere what stood there. -/
theorem findEntry_dropEntry (l place : Location) (es : List (Location × Entry)) :
    findEntry l (dropEntry place es) = if l = place then none else findEntry l es := by
  induction es with
  | nil => simp [dropEntry, findEntry]
  | cons p r ih =>
    simp only [dropEntry]
    split
    · rename_i here
      subst here
      rw [ih]
      by_cases h : l = p.1 <;> simp [findEntry, h, eq_comm]
    · rename_i elsewhere
      simp only [findEntry, ih]
      split
      · rename_i found
        subst found
        simp [elsewhere]
      · rfl

/-- A change is seen at its place and nowhere else. -/
theorem lookup_put (fs : FileSystem) (l place : Location) (e : Entry) (h : place ≠ []) :
    (fs.put place e).lookup l = if l = place then some e else fs.lookup l := by
  by_cases root : l = []
  · simp [lookup, root, Ne.symm h]
  · simp [lookup, root, put, findEntry_putEntry]

/-- A removal is seen at its place and nowhere else. -/
theorem lookup_remove (fs : FileSystem) (l place : Location) (h : place ≠ []) :
    (fs.remove place).lookup l = if l = place then none else fs.lookup l := by
  by_cases root : l = []
  · simp [lookup, root, Ne.symm h]
  · simp [lookup, root, remove, findEntry_dropEntry]

/-! ### Paths -/

/-- The most octets of one name. -/
def maxName : Nat := 255

/-- The most octets of a path. -/
def maxPath : Nat := 4095

/-- The octets of a name. -/
def octets (name : String) : Nat := (Utf8.encode name).length

/-- Where a name leads from a directory; the root is its own parent. -/
def step (l : Location) (name : String) : Location :=
  if name = ".." then l.dropLast else l ++ [name]

/-- Walks the names of a path from a location. -/
def walk (fs : FileSystem) (l : Location) : List String → Except SystemError Target
  | [] =>
    match fs.lookup l with
    | some e => .ok (.present l e)
    | none => .error .noEntry
  | name :: rest =>
    match fs.lookup l with
    | none => .error .noEntry
    | some (.file _) => .error .notDirectory
    | some .directory =>
      if name = "" ∨ name = "." then walk fs l rest
      else if maxName < octets name then .error .nameTooLong
      else
        let next := step l name
        if name = ".." then walk fs next rest
        else match fs.lookup next with
          | none => if rest = [] then .ok (.missing next) else .error .noEntry
          | some _ => walk fs next rest

/-- Where a path starts. -/
def base (fs : FileSystem) (path : String) : Location :=
  if path.startsWith "/" then [] else fs.working

/-- Paths start where they did after a change. -/
@[simp] theorem base_put (fs : FileSystem) (l : Location) (e : Entry) (path : String) :
    (fs.put l e).base path = fs.base path := rfl

/-- What a path finds. -/
def find (fs : FileSystem) (path : String) : Except SystemError Target :=
  if path = "" then .error .noEntry
  else if maxPath < octets path then .error .nameTooLong
  else walk fs (fs.base path) (Text.parts '/' path)

/-- The names of a path, without those that lead nowhere. -/
def names (path : String) : List String := (Text.parts '/' path).filter fun n => n ≠ "" ∧ n ≠ "."

/-- How a path shows that it starts at the root: with a slash, or with two if it has exactly two. -/
def rootOf (path : String) : String :=
  match path.toList with
  | '/' :: '/' :: '/' :: _ => "/"
  | '/' :: '/' :: _ => "//"
  | '/' :: _ => "/"
  | _ => ""

/-- The path with the given beginning and names. -/
def ofNames (root : String) (names : List String) : String :=
  let path := root ++ Text.join '/' names
  if path = "" then "." else path

/-- The path without names that lead nowhere. -/
def simplify (path : String) : String := ofNames (rootOf path) (names path)

/-- Whether a path holds the character that ends paths. -/
def hasNull (path : String) : Bool := path.toList.contains '\x00'

/-! ### Operations -/

/-- The octets of the file that a path leads to. -/
def read (fs : FileSystem) (path : String) : Except FileProblem Bytes :=
  if hasNull path then .error .nullCharacter
  else match fs.find path with
    | .error e => .error (.system e)
    | .ok (.present _ (.file f)) => .ok f.data
    | .ok (.present _ .directory) => .error (.system .isDirectory)
    | .ok (.missing _) => .error (.system .noEntry)

/-- Whether a path leads to something. Only a name that is too long is no answer. -/
def leadsSomewhere (fs : FileSystem) (path : String) : Except SystemError Bool :=
  if hasNull path then .ok false
  else match fs.find (simplify path) with
    | .ok (.present _ _) => .ok true
    | .ok (.missing _) | .error .noEntry | .error .notDirectory => .ok false
    | .error e => .error e

/-- The file that a path leads to, if it does. -/
def file? (fs : FileSystem) (path : String) : Option File :=
  if hasNull path then none
  else match fs.find path with
    | .ok (.present _ (.file f)) => some f
    | _ => none

/-- Whether anyone may run a file with these permissions. -/
def isExecutable (f : File) : Bool := f.mode &&& 0o111 ≠ 0

/-- What running the file at a path does. A file that names an interpreter cannot be run unless what it
does is known: its interpreter is not there. -/
def program (fs : FileSystem) (path : String) : Except SystemError Nat :=
  match fs.find path with
  | .error e => .error e
  | .ok (.missing _) => .error .noEntry
  | .ok (.present _ .directory) => .error .permission
  | .ok (.present _ (.file f)) =>
    if !isExecutable f then .error .permission
    else match f.program with
      | some n => .ok n
      | none => .error (if (Bytes.ofAscii "#!").isPrefixOf f.data then .noEntry else .notExecutable)

/-- The permissions of a file that was written. -/
def outputMode : Nat := 0o644

/-- The permissions of a file that is being written. -/
def temporaryMode : Nat := 0o600

/-- The names that a temporary file may get, by number. -/
def temporaryName (name : String) (n : Nat) : String :=
  let digits := toString n
  let zeros := String.ofList (List.replicate (8 - digits.length) '0')
  s!".{name}.{zeros}{digits}.tmp"

/-- The first temporary name in a directory that is not taken. -/
def freshName? (fs : FileSystem) (directory : Location) (name : String) : Option String :=
  ((List.range (fs.entries.length + 1)).map (temporaryName name)).find?
    fun n => fs.lookup (directory ++ [n]) = none

/-- The directory that a path leads to. -/
def directory (fs : FileSystem) (path : String) : Except SystemError Location :=
  match fs.find path with
  | .ok (.present l .directory) => .ok l
  | .ok (.present _ (.file _)) => .error .notDirectory
  | .ok (.missing _) => .error .noEntry
  | .error e => .error e

/-- Makes a temporary file in a directory, with the octets that are to be written. -/
def makeTemporary (fs : FileSystem) (parent name : String) (data : Bytes) :
    Except SystemError (Location × Location × FileSystem) := do
  if maxPath < octets parent + 1 + octets (temporaryName name 0) then throw .nameTooLong
  let l ← fs.directory parent
  if maxName < octets (temporaryName name 0) then throw .nameTooLong
  match fs.freshName? l name with
  | none => throw .exists
  | some fresh =>
    let temporary := l ++ [fresh]
    return (l, temporary, fs.put temporary (.file ⟨data, temporaryMode, none⟩))

/-- Gives a temporary file its permissions and its name, in place of what had the name before; a
directory is not replaced. -/
def settle (fs : FileSystem) (directory temporary : Location) (name : String) :
    Except SystemError FileSystem :=
  if name = "" ∨ name = ".." then .error .busy
  else
    let target := directory ++ [name]
    match fs.lookup target, fs.lookup temporary with
    | some .directory, _ => .error .isDirectory
    | _, some (.file f) =>
      .ok ((fs.remove temporary).put target (.file ⟨f.data, outputMode, none⟩))
    | _, _ => .error .noEntry

/-- Writes octets to the file at a path, all or nothing: the outcome, and the files afterwards. -/
def replace (fs : FileSystem) (path : String) (data : Bytes) :
    Except FileProblem Unit × FileSystem :=
  if hasNull path then (.error .nullCharacter, fs)
  else
    let ns := names path
    let name := ns.getLast?.getD ""
    let parent := ofNames (rootOf path) ns.dropLast
    match fs.makeTemporary parent name data with
    | .error e => (.error (.system e), fs)
    | .ok (directory, temporary, written) =>
      match written.settle directory temporary name with
      | .ok settled => (.ok (), settled)
      | .error e => (.error (.system e), written.remove temporary)

end FileSystem

end ImageSigning
