import ImageSigning.Failure
import ImageSigning.Text.Parts
import ImageSigning.Text.Percent

/-!
# References to token keys

A key on a token is named by a URI whose path is a list of attributes, or by a bare label. The
identifier is any octets and is kept in hexadecimal; every other value is text. A query behind a
question mark is not part of the reference.

* `attributes`: the attributes that a reference names; it has to name an object or an identifier.
-/

namespace ImageSigning.KeyReference

/-- What every URI of a token key begins with. -/
def scheme : String := "pkcs11:"

/-- The attribute for a label. -/
def labelName : String := "object"

/-- The attribute for an identifier. -/
def idName : String := "id"

/-- The attribute for a slot. -/
def slotName : String := "slot-id"

/-- Attributes in the order in which they were first named. -/
abbrev Attributes := List (String × String)

/-- Sets an attribute: at its place if it is there, else at the end. -/
def set (name value : String) : Attributes → Attributes
  | [] => [(name, value)]
  | (n, v) :: r => if n = name then (n, value) :: r else (n, v) :: set name value r

/-- What stands before and after the first occurrence of a character; all of it and nothing where
there is none. -/
def cut (c : Char) (s : List Char) : List Char × List Char :=
  (s.takeWhile (· ≠ c), (s.dropWhile (· ≠ c)).drop 1)

/-- An attribute from a part of the path. -/
def ofPart (part : List Char) : String × String :=
  let (name, value) := cut '=' part
  let name := String.ofList name
  let value := String.ofList value
  if name = idName then (name, Hex.encode (Percent.decodeOctets value))
  else (name, Percent.decodeText value)

/-- The parts of a path; empty ones are passed over. -/
def parts (path : List Char) : List (List Char) :=
  (Text.partsOf ';' path).filter (· ≠ [])

/-- The attributes in the path of a URI. -/
def ofPath (path : List Char) : Attributes :=
  (parts path).foldl (fun all part => let (n, v) := ofPart part; set n v all) []

/-- The attributes that a reference names. -/
def attributes (reference : String) : Except ConfigurationProblem Attributes :=
  if !reference.startsWith scheme then .ok [(labelName, reference)]
  else
    let path := (cut '?' (reference.toList.drop scheme.length)).1
    let found := ofPath path
    if (found.lookup idName).isSome || (found.lookup labelName).isSome then .ok found
    else .error (.unnamedKey reference)

end ImageSigning.KeyReference
