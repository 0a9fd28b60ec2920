import ImageSigning.Text.Integer
import ImageSigning.Text.Quoted
import ImageSigning.Value

/-!
# Values as text

A value becomes text where a setting has to be one. A text is itself; inside a series or a table every
text is quoted, and dates and moments are written with their parts.

* `Value.literal`: a value as it is written inside others.
* `Value.display`: a value by itself.
* `Value.isWritable`: no integer in a value has more digits than are written.
-/

namespace ImageSigning

/-- Parts in brackets. -/
def bracketed (opening closing : String) (parts : List String) : String :=
  opening ++ ", ".intercalate parts ++ closing

/-- A date with its parts. -/
def Date.literal (d : Date) : String := s!"datetime.date({d.year}, {d.month}, {d.day})"

namespace Moment

/-- An offset with its parts: whole days, rounded down, and seconds. -/
def offsetLiteral (minutes : Int) : String :=
  if minutes = 0 then "datetime.timezone.utc"
  else
    let days := if minutes < 0 then "days=-1, " else ""
    s!"datetime.timezone(datetime.timedelta({days}seconds={minutes * 60 % 86400}))"

/-- A moment with its parts. Seconds and microseconds are left out if they are zero, the seconds only
with the microseconds. -/
def literal (m : Moment) : String :=
  let small := if m.microsecond ≠ 0 then [m.second, m.microsecond]
    else if m.second ≠ 0 then [m.second] else []
  let numbers := [m.date.year, m.date.month, m.date.day, m.hour, m.minute] ++ small
  let offset := match m.offset with
    | some o => ["tzinfo=" ++ offsetLiteral o]
    | none => []
  bracketed "datetime.datetime(" ")" (numbers.map toString ++ offset)

end Moment

namespace Value

mutual

/-- The value as it is written inside others. -/
def literal : Value → String
  | null => "None"
  | flag b => if b then "True" else "False"
  | integer n => toString n
  | real x => x.text
  | text s => Text.quoted s
  | octets b => Text.quotedBytes b
  | date d => d.literal
  | moment m => m.literal
  | series items => bracketed "[" "]" (literals items)
  | group [item] => "(" ++ literal item ++ ",)"
  | group items => bracketed "(" ")" (literals items)
  | members [] => "set()"
  | members items => bracketed "\x7b" "\x7d" (literals items)
  | table entries => bracketed "\x7b" "\x7d" (entryLiterals entries)
  | enclosing isTable => if isTable then "\x7b...\x7d" else "[...]"

/-- Values as they are written inside others. -/
def literals : List Value → List String
  | [] => []
  | v :: r => literal v :: literals r

/-- The entries of a table. -/
def entryLiterals : List (Value × Value) → List String
  | [] => []
  | (k, v) :: r => (literal k ++ ": " ++ literal v) :: entryLiterals r

end

/-- The value by itself. -/
def display : Value → String
  | text s => s
  | date d => d.text
  | moment m => m.text
  | v => v.literal

mutual

/-- Whether every integer in the value is short enough to be written. -/
def isWritable : Value → Bool
  | integer n => n.natAbs < Nat.pow 10 Text.maxDigits
  | series items | group items | members items => areWritable items
  | table entries => areEntriesWritable entries
  | _ => true

/-- Whether every integer in the values is short enough to be written. -/
def areWritable : List Value → Bool
  | [] => true
  | v :: r => isWritable v && areWritable r

/-- Whether every integer in the entries of a table is short enough to be written. -/
def areEntriesWritable : List (Value × Value) → Bool
  | [] => true
  | (k, v) :: r => isWritable k && isWritable v && areEntriesWritable r

end

end Value

end ImageSigning
