import ImageSigning.Engine
import ImageSigning.Event
import ImageSigning.Fault

/-!
# The surroundings of a run

Everything outside a run that it reads or changes: the files, the environment, the providers of keys
that were made, the one that token keys are routed through, the private directories of engines, what
programs do when they are run, which of them ran, and what was told. A run is a function on these
surroundings that ends with a result or a fault; the surroundings go on in both cases.

* `Run.always`: what has to happen at the end happens however the block before it ended.
-/

namespace ImageSigning

/-- A provider of keys. -/
inductive Provider where
  /-- Key files. -/
  | files
  /-- A token behind an engine. -/
  | token (e : Engine)
  deriving DecidableEq, Repr

/-- A program that was run. -/
structure ToolCall where
  /-- What the program does. -/
  program : Nat
  /-- What it was asked. -/
  request : ToolRequest
  deriving DecidableEq, Repr

/-- The surroundings of a run. -/
structure World where
  /-- The files. -/
  files : FileSystem
  /-- The environment variables. -/
  environment : List (String × String)
  /-- The providers that were made, by number. -/
  providers : List Provider
  /-- The number of the provider that token keys are routed through. -/
  registered : Option Nat
  /-- The numbers of the private directories that there are. -/
  directories : List Nat
  /-- What a program does when it is run, given how many runs came before. -/
  respond : Nat → Nat → ToolRequest → ToolOutcome
  /-- The programs that were run, in order. -/
  calls : List ToolCall
  /-- What was told, in order. -/
  journal : List Event

/-- An operation on the surroundings. -/
abbrev Run := ExceptT Fault (StateM World)

namespace World

/-- Surroundings with the given files, environment and programs, in which nothing happened yet. -/
def initial (files : FileSystem) (environment : List (String × String))
    (respond : Nat → Nat → ToolRequest → ToolOutcome) : World :=
  ⟨files, environment, [], none, [], respond, [], []⟩

/-- How many private directories of sessions there are. -/
def sessions (w : World) : Nat := w.directories.length

/-- The number of the next private directory; none that is there has it. -/
def freeDirectory (w : World) : Nat := w.directories.foldr (fun d free => max (d + 1) free) 0

/-- The number of the next private directory is taken by none that is there. -/
theorem freeDirectory_not_mem (w : World) : w.freeDirectory ∉ w.directories := by
  have below (l : List Nat) : ∀ d ∈ l, d < l.foldr (fun d free => max (d + 1) free) 0 := by
    induction l with
    | nil => simp
    | cons a l ih =>
      intro d m
      rw [List.foldr_cons]
      rcases List.mem_cons.1 m with rfl | m
      · omega
      · have := ih d m
        omega
  intro m
  exact Nat.lt_irrefl _ (below w.directories _ m)

/-- The surroundings with an event told. -/
def tell (w : World) (e : Event) : World := { w with journal := w.journal ++ [e] }

/-- The surroundings with the provider of the given number changed. -/
def setProvider (w : World) (n : Nat) (p : Provider) : World :=
  { w with providers := w.providers.set n p }

end World

namespace Run

/-- Ends with a failure. -/
def fail {α : Type} (f : Failure) : Run α := throw (.failure f)

/-- Ends with a defect. -/
def defect {α : Type} (d : Defect) : Run α := throw (.defect d)

/-- A result, or the fault that its problem is. -/
def lift {ε α : Type} (fault : ε → Fault) : Except ε α → Run α
  | .ok a => pure a
  | .error e => throw (fault e)

/-- The text that a setting is where only a text will do. -/
def text : Value → Run String
  | .text s => pure s
  | _ => defect .wrongType

/-- Tells an event. -/
def tell (e : Event) : Run Unit := modify (·.tell e)

/-- Runs a block and then, however it ended, what has to happen at the end. A fault at the end takes
the place of the block's outcome. -/
def always {α : Type} (block : Run α) (finish : Run Unit) : Run α := fun w =>
  let (outcome, w) := block w
  let (finished, w) := finish w
  match finished with
  | .error e => (.error e, w)
  | .ok () => (outcome, w)

/-- The name of a certificate's subject. -/
def subject (c : Certificate) : Run String := lift (fun p => .defect (.name p)) c.subject.show

end Run

end ImageSigning
