import ImageSigning.Failure
import ImageSigning.Text.Case
import ImageSigning.Value.Display

/-!
# Formats of key references

A key is referred to by a file in one of two encodings, or by a name that only an engine
understands. Formats are named in any case.
-/

namespace ImageSigning

/-- How a key is referred to. -/
inductive KeyFormat where
  | pem
  | der
  | engine
  deriving DecidableEq, Repr

namespace KeyFormat

/-- Every format. -/
def all : List KeyFormat := [pem, der, engine]

/-- The format's name. -/
def name : KeyFormat → String
  | pem => "PEM"
  | der => "DER"
  | engine => "ENGINE"

/-- The format with a name, in any case. -/
def ofName (s : String) : Except ConfigurationProblem KeyFormat :=
  match all.find? (·.name = Text.upper s) with
  | some f => .ok f
  | none => .error (.unknownKeyFormat s)

/-- The format that a value names. -/
def ofValue (v : Value) : Except ConfigurationProblem KeyFormat := ofName v.display

/-- A key format is found again by its name. -/
theorem find_name (f : KeyFormat) : all.find? (·.name = f.name) = some f := by cases f <;> decide

end KeyFormat

end ImageSigning
