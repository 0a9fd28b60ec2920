import ImageSigning.Bytes
import ImageSigning.Calendar
import ImageSigning.Number.Binary64

/-!
# Values of settings

What a settings file can hold: nothing, a flag, a number, a text, octets, a date or a moment, and
series, sets and tables of values. The keys of a table are values too; numbers are the same key if
they have the same value, a flag counting as one or zero.

* `isSet`: whether a value counts as given.
* `Table.put`: a key that is there keeps its place and its form and gets the new value.
-/

namespace ImageSigning

/-- A value. -/
inductive Value where
  | null
  | flag (b : Bool)
  | integer (n : Int)
  | real (x : Binary64)
  | text (s : String)
  | octets (b : Bytes)
  | date (d : Date)
  | moment (m : Moment)
  /-- A series of values. -/
  | series (items : List Value)
  /-- A fixed number of values that belong together. -/
  | group (items : List Value)
  /-- Values without order, none twice. -/
  | members (items : List Value)
  /-- Keys with their values. -/
  | table (entries : List (Value × Value))
  /-- A series or a table that this is a part of. -/
  | enclosing (isTable : Bool)
  deriving Inhabited, Repr

namespace Value

/-- The number that a value counts as, if it is finite: a numerator and a denominator. -/
def ratio? : Value → Option (Int × Nat)
  | flag b => some (if b then 1 else 0, 1)
  | integer n => some (n, 1)
  | real x => x.ratio?
  | _ => none

/-- Whether two values are the same key. -/
def sameKey : Value → Value → Bool
  | null, null => true
  | text s, text t => s = t
  | octets b, octets c => b = c
  | date d, date e => d = e
  | moment m, moment n => m.same n
  | real x, real y => x.sameValue y
  | x, y =>
    match x.ratio?, y.ratio? with
    | some (a, b), some (c, d) => a * d = c * b
    | _, _ => false

/-- Whether a value counts as given: it is neither nothing nor unset, zero or empty. -/
def isSet : Value → Bool
  | null => false
  | flag b => b
  | integer n => n ≠ 0
  | real x => !x.sameValue .zero
  | text s => s ≠ ""
  | octets b => !b.isEmpty
  | series items | group items | members items => !items.isEmpty
  | table entries => !entries.isEmpty
  | date _ | moment _ | enclosing _ => true

/-- The name of a value's type, as diagnostics give it. -/
def typeName : Value → String
  | null => "NoneType"
  | flag _ => "bool"
  | integer _ => "int"
  | real _ => "float"
  | text _ => "str"
  | octets _ => "bytes"
  | date _ => "date"
  | moment _ => "datetime"
  | series _ => "list"
  | group _ => "tuple"
  | members _ => "set"
  | table _ => "dict"
  | enclosing isTable => if isTable then "dict" else "list"

/-- A text that may be absent, as a value. -/
def ofText? : Option String → Value
  | none => null
  | some s => text s

end Value

/-- The entries of a table, in the order in which their keys came first. -/
abbrev Table := List (Value × Value)

namespace Table

/-- Gives a key a value: in its place if it is there, else at the end. -/
def put {α : Type} (key : Value) (value : α) : List (Value × α) → List (Value × α)
  | [] => [(key, value)]
  | (k, v) :: r => if k.sameKey key then (k, value) :: r else (k, v) :: put key value r

/-- The value of a key. -/
def get? (key : Value) : Table → Option Value
  | [] => none
  | (k, v) :: r => if k.sameKey key then some v else get? key r

/-- The value under a name. -/
def named? (name : String) (t : Table) : Option Value := t.get? (.text name)

/-- The keys. -/
def keys (t : Table) : List Value := t.map Prod.fst

end Table

end ImageSigning
